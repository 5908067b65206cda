import FunctionBounds.Proofs.Json
import FunctionBounds.Proofs.Text.Hexadecimal

/-!
# A reader of documents

A reader of JSON texts whose numbers are integers, and what it makes of single values.

- **A reader** (`Json.read`): a document from a whole text. It takes no more steps than there are
  characters.
- **Strings** (`readChars_escaped`): every character is read from what stands for it.
- **Numbers** (`readInteger_toString`): up to the first character that is no digit.
-/

namespace FunctionBounds.Json

/-! ## A reader -/

/-- Whether a character may stand around the parts of a document. -/
def isBlank (c : Char) : Bool := c == ' ' || c == '\n' || c == '\r' || c == '\t'

/-- What is left behind blanks. -/
def skipBlanks (cs : List Char) : List Char := cs.dropWhile isBlank

/-- Reads four digits to base sixteen. -/
def readUnit : List Char → Option (Nat × List Char)
  | a :: b :: c :: d :: rest =>
    let digits := [a, b, c, d]
    if digits.all (Text.isDigitOf 16) then some (Text.numberOf 16 digits, rest) else none
  | _ => none

/-- Reads what stands behind a backslash. A character beyond `0xffff` is given by two halves. -/
def readEscape : List Char → Option (Char × List Char)
  | '\x22' :: rest => some ('\x22', rest)
  | '\\' :: rest => some ('\\', rest)
  | '/' :: rest => some ('/', rest)
  | 'b' :: rest => some ('\x08', rest)
  | 'f' :: rest => some ('\x0c', rest)
  | 'n' :: rest => some ('\n', rest)
  | 'r' :: rest => some ('\r', rest)
  | 't' :: rest => some ('\t', rest)
  | 'u' :: rest => do
    let (n, rest) ← readUnit rest
    if n < 0xd800 || 0xdfff < n then return (Char.ofNat n, rest)
    else
      match rest with
      | '\\' :: 'u' :: rest => do
        let (m, rest) ← readUnit rest
        if n < 0xdc00 && 0xdc00 ≤ m && m ≤ 0xdfff then
          return (Char.ofNat (0x10000 + (n - 0xd800) * 0x400 + (m - 0xdc00)), rest)
        else none
      | _ => none
  | _ => none

/-- Reads the characters of a string up to the quote that ends it. -/
def readChars : Nat → List Char → Option (List Char × List Char)
  | 0, _ => none
  | _ + 1, [] => none
  | steps + 1, c :: rest =>
    if c = '\x22' then some ([], rest)
    else if c = '\\' then do
      let (c, rest) ← readEscape rest
      let (cs, rest) ← readChars steps rest
      return (c :: cs, rest)
    else if c.toNat < 0x20 then none
    else do
      let (cs, rest) ← readChars steps rest
      return (c :: cs, rest)

/-- Reads digits. Only a single one may be a zero in front. -/
def readNatural (cs : List Char) : Option (Nat × List Char) :=
  match cs.takeWhile Char.isDigit with
  | [] => none
  | '0' :: _ :: _ => none
  | digits => some (Nat.ofDigitChars 10 digits 0, cs.dropWhile Char.isDigit)

/-- Reads a number. -/
def readInteger : List Char → Option (Int × List Char)
  | '-' :: rest => do
    let (n, rest) ← readNatural rest
    return (-n, rest)
  | cs => do
    let (n, rest) ← readNatural cs
    return (n, rest)

/-- Reads one of the three words. -/
def readWord : List Char → Option (Json × List Char)
  | 't' :: 'r' :: 'u' :: 'e' :: rest => some (boolean true, rest)
  | 'f' :: 'a' :: 'l' :: 's' :: 'e' :: rest => some (boolean false, rest)
  | 'n' :: 'u' :: 'l' :: 'l' :: rest => some (null, rest)
  | _ => none

mutual

/-- Reads a document. -/
def readValue : Nat → List Char → Option (Json × List Char)
  | 0, _ => none
  | steps + 1, cs =>
    match skipBlanks cs with
    | [] => none
    | c :: rest =>
      if c = '\x22' then do
        let (s, rest) ← readChars steps rest
        return (string (String.ofList s), rest)
      else if c = '[' then
        match skipBlanks rest with
        | ']' :: rest => some (array [], rest)
        | rest => do
          let (items, rest) ← readItems steps rest
          return (array items, rest)
      else if c = '\x7b' then
        match skipBlanks rest with
        | '\x7d' :: rest => some (object [], rest)
        | rest => do
          let (members, rest) ← readMembers steps rest
          return (object members, rest)
      else if c = '-' || c.isDigit then do
        let (n, rest) ← readInteger (c :: rest)
        return (integer n, rest)
      else readWord (c :: rest)

/-- Reads the items of an array and the bracket that ends it. -/
def readItems : Nat → List Char → Option (List Json × List Char)
  | 0, _ => none
  | steps + 1, cs => do
    let (item, rest) ← readValue steps cs
    match skipBlanks rest with
    | ',' :: rest => do
      let (items, rest) ← readItems steps rest
      return (item :: items, rest)
    | ']' :: rest => return ([item], rest)
    | _ => none

/-- Reads the members of an object and the brace that ends it. -/
def readMembers : Nat → List Char → Option (List (String × Json) × List Char)
  | 0, _ => none
  | steps + 1, cs =>
    match skipBlanks cs with
    | '\x22' :: rest => do
      let (key, rest) ← readChars steps rest
      match skipBlanks rest with
      | ':' :: rest => do
        let (v, rest) ← readValue steps rest
        match skipBlanks rest with
        | ',' :: rest => do
          let (members, rest) ← readMembers steps rest
          return ((String.ofList key, v) :: members, rest)
        | '\x7d' :: rest => return ([(String.ofList key, v)], rest)
        | _ => none
      | _ => none
    | _ => none

end

/-- The document that a whole text gives. -/
def read (text : String) : Option Json := do
  let (j, rest) ← readValue text.length text.toList
  if (skipBlanks rest).isEmpty then return j else none

/-! ## Strings -/

theorem readUnit_append {cs : List Char} (hlength : cs.length = 4)
    (hdigits : cs.all (Text.isDigitOf 16) = true) (rest : List Char) :
    readUnit (cs ++ rest) = some (Text.numberOf 16 cs, rest) := by
  match cs, hlength with
  | [a, b, c, d], _ => exact if_pos hdigits

theorem readEscape_hexField {n : Nat} (h : n < 0x20) (rest : List Char) :
    readEscape ('u' :: ((Text.hexField 4 n).toList ++ rest)) = some (Char.ofNat n, rest) := by
  have hfield : ∀ m < 0x20, (Text.hexField 4 (m : Nat)).toList.length = 4 ∧
      (Text.hexField 4 (m : Nat)).toList.all (Text.isDigitOf 16) = true := by
    decide +kernel
  obtain ⟨hlength, hdigits⟩ := hfield n h
  have hunit := readUnit_append hlength hdigits rest
  rw [Text.hexField_natCast, Text.numberOf_zeroPadded_hexDigits, ← Text.hexField_natCast] at hunit
  have hlow : (decide (n < 0xd800) || decide (0xdfff < n)) = true := by simp; omega
  rw [readEscape, hunit]
  exact if_pos hlow

theorem readChars_escape {c : Char} {cs rest : List Char} (h : readEscape cs = some (c, rest))
    (steps : Nat) :
    readChars (steps + 1) ('\\' :: cs) =
      (readChars steps rest).map fun (cs, rest) => (c :: cs, rest) := by
  rw [readChars, if_neg (by decide), if_pos rfl, h]
  simp only [Option.bind_eq_bind, Option.bind_some]
  cases readChars steps rest <;> rfl

/-- What stands for a character is read as that character. -/
theorem readChars_escapedChar (c : Char) (steps : Nat) (rest : List Char) :
    readChars (steps + 1) ((escapedChar c).toList ++ rest) =
      (readChars steps rest).map fun (cs, rest) => (c :: cs, rest) := by
  by_cases hquote : c = '\x22'
  · subst hquote
    exact readChars_escape rfl steps
  by_cases hslash : c = '\\'
  · subst hslash
    exact readChars_escape rfl steps
  by_cases hcontrol : c.toNat < 0x20
  · by_cases hnamed : c ∈ ['\n', '\r', '\t', '\x08', '\x0c']
    · simp only [List.mem_cons, List.not_mem_nil, or_false] at hnamed
      obtain rfl | rfl | rfl | rfl | rfl := hnamed <;> exact readChars_escape rfl steps
    · have hescaped : escapedChar c = "\\u" ++ Text.hexField 4 c.toNat := by
        simp only [List.mem_cons, List.not_mem_nil, or_false, not_or] at hnamed
        simp [escapedChar, hquote, hslash, hnamed, hcontrol]
      rw [hescaped, String.toList_append]
      have h := readEscape_hexField hcontrol rest
      rw [Char.ofNat_toNat] at h
      exact readChars_escape h steps
  · have hescaped : escapedChar c = c.toString := by
      have hplain : ∀ d : Char, d.toNat < 0x20 → c ≠ d := fun d hd h => hcontrol (h ▸ hd)
      simp [escapedChar, hquote, hslash, hplain '\n' (by decide), hplain '\r' (by decide),
        hplain '\t' (by decide), hplain '\x08' (by decide), hplain '\x0c' (by decide), hcontrol]
    rw [hescaped, Char.toString, String.toList_singleton, List.singleton_append, readChars,
      if_neg hquote, if_neg hslash, if_neg hcontrol]
    cases readChars steps rest <;> rfl

theorem readChars_escaped (cs rest : List Char) {steps : Nat} (h : cs.length < steps) :
    readChars steps (cs.flatMap (fun c => (escapedChar c).toList) ++ '\x22' :: rest) =
      some (cs, rest) := by
  induction cs generalizing steps with
  | nil =>
    obtain ⟨steps, rfl⟩ := Nat.exists_eq_add_one_of_ne_zero (Nat.ne_of_gt h)
    rfl
  | cons c cs ih =>
    obtain ⟨steps, rfl⟩ := Nat.exists_eq_add_one_of_ne_zero (Nat.ne_of_gt (Nat.zero_lt_of_lt h))
    rw [List.flatMap_cons, List.append_assoc, readChars_escapedChar,
      ih (Nat.lt_of_succ_lt_succ h)]
    rfl

theorem toList_quotedString (s : String) :
    (quotedString s).toList =
      '\x22' :: (s.toList.flatMap (fun c => (escapedChar c).toList) ++ ['\x22']) := by
  simp [quotedString, List.flatMap_def, Function.comp_def]

theorem length_le_escaped (cs : List Char) :
    cs.length ≤ (cs.flatMap fun c => (escapedChar c).toList).length := by
  have hpos : ∀ c, 1 ≤ (escapedChar c).toList.length := by
    refine fun c => Nat.one_le_iff_ne_zero.2 fun hempty => ?_
    have hread := readChars_escapedChar c 1 ['\x22']
    rw [List.length_eq_zero_iff.1 hempty] at hread
    cases hread
  induction cs with
  | nil => exact Nat.zero_le _
  | cons c cs ih =>
    rw [List.flatMap_cons, List.length_append, List.length_cons, Nat.add_comm]
    exact Nat.add_le_add (hpos c) ih

/-! ## Numbers -/

/-- What does not go on with the digits of a number. -/
def NoDigitFirst (cs : List Char) : Prop := ∀ c rest, cs = c :: rest → c.isDigit = false

theorem noDigitFirst_cons {c : Char} {cs : List Char} (h : c.isDigit = false) :
    NoDigitFirst (c :: cs) := by
  rintro _ _ ⟨⟩
  exact h

theorem takeWhile_isDigit {cs : List Char} (h : NoDigitFirst cs) :
    cs.takeWhile Char.isDigit = [] ∧ cs.dropWhile Char.isDigit = cs := by
  cases cs with
  | nil => exact ⟨rfl, rfl⟩
  | cons c cs => simp [h c cs rfl]

/-- A number is not written with a zero in front. -/
theorem eq_nil_of_toDigits {n : Nat} {cs : List Char} (h : Nat.toDigits 10 n = '0' :: cs) :
    cs = [] := by
  induction n using Nat.strongRecOn generalizing cs with
  | ind n ih =>
    rcases Nat.lt_or_ge n 10 with hlt | hge
    · rw [Nat.toDigits_of_lt_base hlt] at h
      exact (List.cons.inj h).2.symm
    · rw [Nat.toDigits_of_base_le (by decide) hge] at h
      cases hhigh : Nat.toDigits 10 (n / 10) with
      | nil => exact absurd hhigh Nat.toDigits_ne_nil
      | cons c high =>
        rw [hhigh, List.cons_append, List.cons_eq_cons] at h
        obtain ⟨rfl, -⟩ := h
        rw [ih (n / 10) (by omega) hhigh] at hhigh
        have hzero : n / 10 = 0 := by
          rw [← Nat.ofDigitChars_ten_toDigits (n := n / 10), hhigh]
          rfl
        omega

theorem readNatural_toDigits (n : Nat) {rest : List Char} (h : NoDigitFirst rest) :
    readNatural (Nat.toDigits 10 n ++ rest) = some (n, rest) := by
  have hdigits : ∀ c ∈ Nat.toDigits 10 n, c.isDigit = true := fun c hc =>
    Nat.isDigit_of_mem_toDigits (by decide) (by decide) hc
  have htake : (Nat.toDigits 10 n ++ rest).takeWhile Char.isDigit = Nat.toDigits 10 n := by
    rw [List.takeWhile_append_of_pos hdigits, (takeWhile_isDigit h).1, List.append_nil]
  have hdrop : (Nat.toDigits 10 n ++ rest).dropWhile Char.isDigit = rest := by
    rw [List.dropWhile_append_of_pos hdigits, (takeWhile_isDigit h).2]
  rw [readNatural, htake, hdrop]
  split
  · exact absurd ‹_› Nat.toDigits_ne_nil
  · exact absurd (eq_nil_of_toDigits ‹_›) (by simp)
  · rw [Nat.ofDigitChars_ten_toDigits]

theorem toDigits_eq_cons (n : Nat) :
    ∃ c cs, Nat.toDigits 10 n = c :: cs ∧ c.isDigit = true := by
  cases hdigits : Nat.toDigits 10 n with
  | nil => exact absurd hdigits Nat.toDigits_ne_nil
  | cons c cs =>
    have hc : c ∈ Nat.toDigits 10 n := hdigits ▸ List.mem_cons_self
    exact ⟨c, cs, rfl, Nat.isDigit_of_mem_toDigits (by decide) (by decide) hc⟩

theorem toList_toString_nat (n : Nat) : (toString n).toList = Nat.toDigits 10 n := by
  rw [Nat.toString_eq_ofList_toDigits, String.toList_ofList]

theorem toList_toString (n : Int) :
    (toString n).toList = (if n < 0 then ['-'] else []) ++ Nat.toDigits 10 n.natAbs := by
  cases n with
  | ofNat m => exact toList_toString_nat m
  | negSucc m =>
    rw [show toString (Int.negSucc m) = "-" ++ toString (m + 1) from rfl, String.toList_append,
      toList_toString_nat, if_pos (Int.negSucc_lt_zero m)]
    rfl

theorem readInteger_toString (n : Int) {rest : List Char} (h : NoDigitFirst rest) :
    readInteger ((toString n).toList ++ rest) = some (n, rest) := by
  have hnatural := readNatural_toDigits n.natAbs h
  rw [toList_toString]
  by_cases hneg : n < 0
  · rw [if_pos hneg, List.singleton_append, List.cons_append, readInteger, hnatural]
    simp only [Option.bind_eq_bind, Option.bind_some, Option.pure_def]
    rw [Int.ofNat_natAbs_of_nonpos (Int.le_of_lt hneg), Int.neg_neg]
  · obtain ⟨c, cs, hcs, hc⟩ := toDigits_eq_cons n.natAbs
    rw [hcs] at hnatural
    rw [if_neg hneg, List.nil_append, hcs]
    have hminus : c ≠ '-' := by rintro rfl; cases hc
    unfold readInteger
    split
    · next hfirst => exact absurd (List.cons.inj hfirst).1 hminus
    · rw [hnatural]
      simp only [Option.bind_eq_bind, Option.bind_some, Option.pure_def]
      rw [Int.natAbs_of_nonneg (Int.not_lt.1 hneg)]

end FunctionBounds.Json
