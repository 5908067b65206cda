import FunctionBounds.Proofs.Json.Reader

/-!
# Documents that are read back

- **Blanks** (`Layout.IsBlank`, `skipBlanks_append`): what sets parts apart is not read.
- **Parts** (`Layout.toList_enclose`): the text of an array or an object, part by part.
- **Steps** (`readItems_next`, `readMembers_next`): what the reader does with one part.
- **Documents** (`readValue_write`): read from their text, up to the end of it.

`read_pretty` gives the document back from its text, so that no other document has that text.
-/

namespace FunctionBounds.Json

/-! ## Blanks -/

/-- What a layout sets parts apart by is not read. -/
structure Layout.IsBlank (l : Layout) : Prop where
  lineStart : ∀ level, ∀ c ∈ (l.lineStart level).toList, Json.isBlank c = true
  afterComma : ∀ c ∈ l.afterComma.toList, Json.isBlank c = true

theorem isBlank_indented : indented.IsBlank where
  lineStart level c hc := by
    rw [indented, String.toList_append, List.mem_append] at hc
    obtain hline | hspaces := hc
    · obtain rfl := List.mem_singleton.1 hline
      rfl
    · rw [String.toList_ofList] at hspaces
      rw [List.eq_of_mem_replicate hspaces]
      rfl
  afterComma := List.forall_mem_nil _

section Blanks

variable {blanks cs : List Char}

theorem skipBlanks_append (h : ∀ c ∈ blanks, isBlank c = true) :
    skipBlanks (blanks ++ cs) = skipBlanks cs :=
  List.dropWhile_append_of_pos h

theorem skipBlanks_cons {c : Char} (h : isBlank c = false) : skipBlanks (c :: cs) = c :: cs :=
  List.dropWhile_cons_of_neg (by rw [h]; decide)

theorem skipBlanks_of_blanks (h : ∀ c ∈ blanks, isBlank c = true) : skipBlanks blanks = [] := by
  rw [← List.append_nil blanks, skipBlanks_append h]
  rfl

theorem noDigitFirst_append (h : ∀ c ∈ blanks, isBlank c = true) (hcs : NoDigitFirst cs) :
    NoDigitFirst (blanks ++ cs) := by
  cases blanks with
  | nil => exact hcs
  | cons c blanks =>
    refine noDigitFirst_cons ?_
    have hc := h c List.mem_cons_self
    simp only [isBlank, Bool.or_eq_true, beq_iff_eq] at hc
    obtain ((rfl | rfl) | rfl) | rfl := hc <;> rfl

theorem readValue_append (h : ∀ c ∈ blanks, isBlank c = true) (steps : Nat) :
    readValue steps (blanks ++ cs) = readValue steps cs := by
  cases steps with
  | zero => rfl
  | succ steps => rw [readValue, readValue, skipBlanks_append h]

theorem readItems_append (h : ∀ c ∈ blanks, isBlank c = true) (steps : Nat) :
    readItems steps (blanks ++ cs) = readItems steps cs := by
  cases steps with
  | zero => rfl
  | succ steps => rw [readItems, readItems, readValue_append h]

theorem readMembers_append (h : ∀ c ∈ blanks, isBlank c = true) (steps : Nat) :
    readMembers steps (blanks ++ cs) = readMembers steps cs := by
  cases steps with
  | zero => rfl
  | succ steps => rw [readMembers, readMembers, skipBlanks_append h]

end Blanks

/-! ## Parts -/

/-- What stands behind the first part of an array or an object. -/
def Layout.behind (l : Layout) (level : Nat) (closing : String) : List Written → List Char
  | [] => (l.lineStart level ++ closing).toList
  | part :: rest =>
    ',' :: ((l.afterComma ++ l.lineStart (level + 1)).toList ++
      (part.text.toList ++ l.behind level closing rest))

theorem Layout.toList_enclose (l : Layout) (level : Nat) (opening : String) {c : Char}
    (hopening : opening.toList = [c]) (closing : String) {first : Written} {rest : List Written}
    (hfirst : first.fault = none) (hrest : ∀ w ∈ rest, w.fault = none) :
    (l.enclose level opening closing (first :: rest)).text.toList =
      c :: ((l.lineStart (level + 1)).toList ++
        (first.text.toList ++ l.behind level closing rest)) := by
  have hjoined : ∀ w : Written, w.fault = none →
      (rest.foldl (fun w part =>
          w ++ ⟨"," ++ l.afterComma ++ l.lineStart (level + 1), none⟩ ++ part) w ++
        ⟨l.lineStart level ++ closing, none⟩).text.toList =
        w.text.toList ++ l.behind level closing rest := by
    induction rest with
    | nil =>
      intro w hw
      rw [List.foldl_nil, Written.append_of_no_fault _ hw, String.toList_append, behind]
    | cons part rest ih =>
      intro w hw
      obtain ⟨hpart, hrest⟩ := List.forall_mem_cons.1 hrest
      have hnext : (w ++ ⟨"," ++ l.afterComma ++ l.lineStart (level + 1), none⟩ ++ part) =
          ⟨w.text ++ ("," ++ l.afterComma ++ l.lineStart (level + 1)) ++ part.text, none⟩ := by
        rw [Written.append_of_no_fault _ hw, Written.append_of_no_fault _ rfl, hpart]
      rw [List.foldl_cons, hnext, ih hrest _ rfl, behind]
      simp [List.append_assoc]
  have hstart : (⟨opening ++ l.lineStart (level + 1), none⟩ ++ first : Written) =
      ⟨opening ++ l.lineStart (level + 1) ++ first.text, none⟩ := by
    rw [Written.append_of_no_fault _ rfl, hfirst]
  rw [enclose, hstart, hjoined _ rfl]
  simp [hopening]

theorem Layout.exists_enclose (l : Layout) (level : Nat) (opening : String) {c : Char}
    (hopening : opening.toList = [c]) (closing : String) {parts : List Written}
    (h : ∀ w ∈ parts, w.fault = none) :
    ∃ cs, (l.enclose level opening closing parts).text.toList = c :: cs := by
  cases parts with
  | nil =>
    rw [enclose, String.toList_append, hopening]
    exact ⟨closing.toList, rfl⟩
  | cons first rest =>
    obtain ⟨hfirst, hrest⟩ := List.forall_mem_cons.1 h
    exact ⟨_, l.toList_enclose level opening hopening closing hfirst hrest⟩

section Behind

variable {l : Layout} (hl : l.IsBlank) (level : Nat) (closing : String) {c : Char}
  (hclosing : closing.toList = [c])

include hclosing in
theorem one_le_length_behind (parts : List Written) :
    1 ≤ (l.behind level closing parts).length := by
  cases parts with
  | nil =>
    rw [Layout.behind, String.toList_append, hclosing, List.length_append]
    exact Nat.le_add_left 1 _
  | cons part parts => exact Nat.le_add_left 1 _

include hl

/-- What sets parts apart is not read. -/
theorem isBlank_gap :
    ∀ c ∈ (l.afterComma ++ l.lineStart level).toList, Json.isBlank c = true := by
  rw [String.toList_append]
  exact fun c hc => (List.mem_append.1 hc).elim (hl.afterComma c) (hl.lineStart level c)

include hclosing

theorem noDigitFirst_behind (hc : c.isDigit = false) (parts : List Written) (rest : List Char) :
    NoDigitFirst (l.behind level closing parts ++ rest) := by
  cases parts with
  | nil =>
    rw [Layout.behind, String.toList_append, hclosing, List.append_assoc]
    exact noDigitFirst_append (hl.lineStart level) (noDigitFirst_cons hc)
  | cons part parts => exact noDigitFirst_cons rfl

/-- The end of an array or an object. -/
theorem skipBlanks_behind_nil (hc : isBlank c = false) (rest : List Char) :
    skipBlanks (l.behind level closing [] ++ rest) = c :: rest := by
  rw [Layout.behind, String.toList_append, hclosing, List.append_assoc,
    skipBlanks_append (hl.lineStart level)]
  exact skipBlanks_cons hc

omit hl hclosing in
/-- The comma in front of another part. -/
theorem skipBlanks_behind_cons (closing : String) (part : Written) (parts : List Written)
    (rest : List Char) :
    skipBlanks (l.behind level closing (part :: parts) ++ rest) =
      ',' :: ((l.afterComma ++ l.lineStart (level + 1)).toList ++
        (part.text.toList ++ (l.behind level closing parts ++ rest))) := by
  rw [Layout.behind, List.cons_append, List.append_assoc, List.append_assoc]
  exact skipBlanks_cons rfl

end Behind

/-! ## One step at a time -/

theorem exists_toString_first (n : Int) :
    ∃ c cs, (toString n).toList = c :: cs ∧ (c = '-' ∨ c.isDigit = true) := by
  rw [toList_toString]
  by_cases hneg : n < 0
  · rw [if_pos hneg]
    exact ⟨'-', _, rfl, .inl rfl⟩
  · obtain ⟨c, cs, hcs, hc⟩ := toDigits_eq_cons n.natAbs
    rw [if_neg hneg, hcs]
    exact ⟨c, cs, rfl, .inr hc⟩

theorem isBlank_of_isDigit {c : Char} (h : c.isDigit = true) : isBlank c = false := by
  cases hc : isBlank c with
  | false => rfl
  | true =>
    simp only [isBlank, Bool.or_eq_true, beq_iff_eq] at hc
    obtain ((rfl | rfl) | rfl) | rfl := hc <;> cases h

theorem Written.integer_of_fault {d : Text.DigitLimit} {n : Int}
    (h : (Written.integer d n).fault = none) : (Written.integer d n).text = toString n := by
  unfold Written.integer at h ⊢
  split at h
  · rfl
  · cases h

section Steps

variable {steps : Nat} {c : Char} {cs rest rest' : List Char}

theorem readValue_quotedString (s : String) (rest : List Char)
    (h : (quotedString s).toList.length ≤ steps) :
    readValue steps ((quotedString s).toList ++ rest) = some (string s, rest) := by
  rw [toList_quotedString] at h ⊢
  obtain ⟨steps, rfl⟩ := Nat.exists_eq_add_one_of_ne_zero
    (Nat.ne_of_gt (Nat.lt_of_lt_of_le (Nat.succ_pos _) h))
  have hlength := length_le_escaped s.toList
  have hchars : s.toList.length < steps := by
    simp only [List.length_cons, List.length_append, List.length_nil] at h
    omega
  rw [List.cons_append, List.append_assoc, List.singleton_append, readValue, skipBlanks_cons rfl]
  simp only [if_true, readChars_escaped s.toList rest hchars, Option.bind_eq_bind,
    Option.bind_some, Option.pure_def, String.ofList_toList]

theorem readValue_toString (n : Int) (hrest : NoDigitFirst rest) :
    readValue (steps + 1) ((toString n).toList ++ rest) = some (integer n, rest) := by
  have hread := readInteger_toString n hrest
  obtain ⟨c, cs, hcs, hc⟩ := exists_toString_first n
  rw [hcs, List.cons_append] at hread ⊢
  have hblank : isBlank c = false := by
    obtain rfl | hdigit := hc
    · rfl
    · exact isBlank_of_isDigit hdigit
  have hother : c ≠ '\x22' ∧ c ≠ '[' ∧ c ≠ '\x7b' := by
    refine ⟨?_, ?_, ?_⟩ <;> rintro rfl <;> exact absurd hc (by decide)
  rw [readValue, skipBlanks_cons hblank]
  simp only [hother, if_false, Bool.or_eq_true, decide_eq_true_eq, hc, if_true, hread,
    Option.bind_eq_bind, Option.bind_some, Option.pure_def]

theorem readValue_array {items : List Json} (hfirst : skipBlanks cs = c :: rest) (hc : c ≠ ']')
    (hitems : readItems steps (c :: rest) = some (items, rest')) :
    readValue (steps + 1) ('[' :: cs) = some (array items, rest') := by
  rw [readValue, skipBlanks_cons rfl]
  simp only [Char.reduceEq, if_false, if_true, hfirst]
  split
  · next hend => exact absurd (List.cons.inj hend).1 hc
  · rw [hitems]
    rfl

theorem readValue_object {members : List (String × Json)}
    (hfirst : skipBlanks cs = c :: rest) (hc : c ≠ '\x7d')
    (hmembers : readMembers steps (c :: rest) = some (members, rest')) :
    readValue (steps + 1) ('\x7b' :: cs) = some (object members, rest') := by
  rw [readValue, skipBlanks_cons rfl]
  simp only [Char.reduceEq, if_false, if_true, hfirst]
  split
  · next hend => exact absurd (List.cons.inj hend).1 hc
  · rw [hmembers]
    rfl

theorem readItems_last {item : Json} (hitem : readValue steps cs = some (item, rest))
    (hend : skipBlanks rest = ']' :: rest') :
    readItems (steps + 1) cs = some ([item], rest') := by
  rw [readItems, hitem]
  simp only [Option.bind_eq_bind, Option.bind_some, hend, Option.pure_def]

theorem readItems_next {item : Json} {items : List Json} {rest'' : List Char}
    (hitem : readValue steps cs = some (item, rest)) (hcomma : skipBlanks rest = ',' :: rest')
    (hitems : readItems steps rest' = some (items, rest'')) :
    readItems (steps + 1) cs = some (item :: items, rest'') := by
  rw [readItems, hitem]
  simp only [Option.bind_eq_bind, Option.bind_some, hcomma, hitems, Option.pure_def]

theorem readMembers_last {key : String} {v : Json} {behindKey behindValue : List Char}
    (hkey : readChars steps cs = some (key.toList, ':' :: behindKey))
    (hv : readValue steps behindKey = some (v, behindValue))
    (hend : skipBlanks behindValue = '\x7d' :: rest) :
    readMembers (steps + 1) ('\x22' :: cs) = some ([(key, v)], rest) := by
  rw [readMembers, skipBlanks_cons rfl]
  simp only [hkey, Option.bind_eq_bind, Option.bind_some, skipBlanks_cons (c := ':') rfl, hv, hend,
    Option.pure_def, String.ofList_toList]

theorem readMembers_next {key : String} {v : Json} {members : List (String × Json)}
    {behindKey behindValue : List Char}
    (hkey : readChars steps cs = some (key.toList, ':' :: behindKey))
    (hv : readValue steps behindKey = some (v, behindValue))
    (hcomma : skipBlanks behindValue = ',' :: rest)
    (hmembers : readMembers steps rest = some (members, rest')) :
    readMembers (steps + 1) ('\x22' :: cs) = some ((key, v) :: members, rest') := by
  rw [readMembers, skipBlanks_cons rfl]
  simp only [hkey, Option.bind_eq_bind, Option.bind_some, skipBlanks_cons (c := ':') rfl, hv,
    hcomma, hmembers, Option.pure_def, String.ofList_toList]

end Steps

/-! ## Documents -/

/-- A member of an object. -/
def member (l : Layout) (d : Text.DigitLimit) (level : Nat) (key : String) (v : Json) : Written :=
  ⟨quotedString key ++ ": ", none⟩ ++ write l d level v

theorem toList_member {l : Layout} {d : Text.DigitLimit} {level : Nat} (key : String) (v : Json) :
    (member l d level key v).text.toList =
      '\x22' :: (key.toList.flatMap (fun c => (escapedChar c).toList) ++
        '\x22' :: ':' :: ' ' :: (write l d level v).text.toList) := by
  rw [member, Written.append_of_no_fault _ rfl, String.toList_append, String.toList_append,
    toList_quotedString]
  simp

section Documents

variable {l : Layout} (d : Text.DigitLimit)

/-- The text of a document starts with a character that is read, and that ends no array. -/
theorem exists_first (level : Nat) {j : Json} (h : (write l d level j).fault = none) :
    ∃ c cs, (write l d level j).text.toList = c :: cs ∧ isBlank c = false ∧ c ≠ ']' := by
  cases j with
  | null => exact ⟨'n', ['u', 'l', 'l'], by rw [write]; rfl, rfl, by decide⟩
  | boolean b =>
    cases b with
    | false => exact ⟨'f', ['a', 'l', 's', 'e'], by rw [write]; rfl, rfl, by decide⟩
    | true => exact ⟨'t', ['r', 'u', 'e'], by rw [write]; rfl, rfl, by decide⟩
  | integer n =>
    rw [write] at h ⊢
    rw [Written.integer_of_fault h]
    obtain ⟨c, cs, hcs, rfl | hdigit⟩ := exists_toString_first n
    · exact ⟨'-', cs, hcs, rfl, by decide⟩
    · exact ⟨c, cs, hcs, isBlank_of_isDigit hdigit, by rintro rfl; cases hdigit⟩
  | string s => exact ⟨'\x22', _, by rw [write]; exact toList_quotedString s, rfl, by decide⟩
  | array items =>
    rw [write, Layout.enclose_fault_eq_none_iff] at h
    rw [write]
    obtain ⟨cs, hcs⟩ := l.exists_enclose level "[" rfl "]" h
    exact ⟨'[', cs, hcs, rfl, by decide⟩
  | object members =>
    rw [write, Layout.enclose_fault_eq_none_iff] at h
    rw [write]
    obtain ⟨cs, hcs⟩ := l.exists_enclose level "\x7b" rfl "\x7d" h
    exact ⟨'\x7b', cs, hcs, rfl, by decide⟩

theorem one_le_length_write (level : Nat) {j : Json} (h : (write l d level j).fault = none) :
    1 ≤ (write l d level j).text.toList.length := by
  obtain ⟨c, cs, hcs, -, -⟩ := exists_first d level h
  rw [hcs]
  exact Nat.le_add_left 1 _

variable (hl : l.IsBlank)

include hl

-- By induction on the steps. A bracket, a brace or a comma is a step of its own, so that what is left
-- of the steps is enough for each part.
mutual

theorem readValue_write (level : Nat) {rest : List Char} (hrest : NoDigitFirst rest) (steps : Nat)
    {j : Json} (h : (write l d level j).fault = none)
    (hsteps : (write l d level j).text.toList.length ≤ steps + 1) :
    readValue (steps + 1) ((write l d level j).text.toList ++ rest) = some (j, rest) := by
  cases j with
  | null =>
    rw [write]
    rfl
  | boolean b =>
    rw [write]
    cases b <;> rfl
  | integer n =>
    rw [write] at h ⊢
    rw [Written.integer_of_fault h]
    exact readValue_toString n hrest
  | string s =>
    rw [write] at hsteps ⊢
    exact readValue_quotedString s rest hsteps
  | array items =>
    rw [write, Layout.enclose_fault_eq_none_iff] at h
    rw [write] at hsteps ⊢
    cases items with
    | nil =>
      rw [writeItems, Layout.enclose]
      rfl
    | cons item items =>
      obtain ⟨hitem, hitems⟩ := List.forall_mem_cons.1 h
      rw [writeItems, l.toList_enclose level "[" rfl "]" hitem hitems] at hsteps ⊢
      simp only [List.length_cons, List.length_append] at hsteps
      have hread := readItems_write level rest steps hitem hitems (by omega)
      obtain ⟨c, cs, hcs, hc, hend⟩ := exists_first d (level + 1) hitem
      simp only [hcs, List.cons_append, List.append_assoc] at hread ⊢
      refine readValue_array ?_ hend hread
      rw [skipBlanks_append (hl.lineStart (level + 1))]
      exact skipBlanks_cons hc
  | object members =>
    rw [write, Layout.enclose_fault_eq_none_iff] at h
    rw [write] at hsteps ⊢
    cases members with
    | nil =>
      rw [writeMembers, Layout.enclose]
      rfl
    | cons first members =>
      obtain ⟨key, v⟩ := first
      obtain ⟨hmember, hmembers⟩ := List.forall_mem_cons.1 h
      rw [writeMembers, l.toList_enclose level "\x7b" rfl "\x7d" hmember hmembers] at hsteps ⊢
      rw [← member] at hmember hsteps ⊢
      simp only [List.length_cons, List.length_append] at hsteps
      have hread := readMembers_write level rest steps hmember hmembers (by omega)
      simp only [toList_member, List.cons_append, List.append_assoc] at hread ⊢
      refine readValue_object ?_ (by decide) hread
      rw [skipBlanks_append (hl.lineStart (level + 1))]
      exact skipBlanks_cons rfl
termination_by 2 * steps + 1
decreasing_by all_goals omega

theorem readItems_write (level : Nat) (rest : List Char) (steps : Nat) {item : Json}
    {items : List Json} (hitem : (write l d (level + 1) item).fault = none)
    (hitems : ∀ w ∈ writeItems l d (level + 1) items, w.fault = none)
    (hsteps : (write l d (level + 1) item).text.toList.length +
      (l.behind level "]" (writeItems l d (level + 1) items)).length ≤ steps) :
    readItems steps ((write l d (level + 1) item).text.toList ++
      (l.behind level "]" (writeItems l d (level + 1) items) ++ rest)) =
      some (item :: items, rest) := by
  have hfirst := one_le_length_write d (level + 1) hitem
  have hlast := one_le_length_behind (l := l) level "]" rfl (writeItems l d (level + 1) items)
  obtain ⟨steps, rfl⟩ : ∃ n, steps = n + 2 := ⟨steps - 2, by omega⟩
  have hbehind := noDigitFirst_behind hl level "]" rfl rfl (writeItems l d (level + 1) items) rest
  have hvalue := readValue_write (level + 1) hbehind steps hitem (by omega)
  cases items with
  | nil => exact readItems_last hvalue (skipBlanks_behind_nil hl level _ rfl rfl rest)
  | cons next items =>
    obtain ⟨hnext, hitems⟩ := List.forall_mem_cons.1 hitems
    simp only [writeItems, Layout.behind, List.length_cons, List.length_append] at hsteps
    have hread := readItems_write level rest (steps + 1) hnext hitems (by omega)
    rw [← readItems_append (isBlank_gap hl (level + 1))] at hread
    exact readItems_next hvalue (skipBlanks_behind_cons level "]" _ _ rest) hread
termination_by 2 * steps
decreasing_by all_goals omega

theorem readMembers_write (level : Nat) (rest : List Char) (steps : Nat) {key : String} {v : Json}
    {members : List (String × Json)} (hmember : (member l d (level + 1) key v).fault = none)
    (hmembers : ∀ w ∈ writeMembers l d (level + 1) members, w.fault = none)
    (hsteps : (member l d (level + 1) key v).text.toList.length +
      (l.behind level "\x7d" (writeMembers l d (level + 1) members)).length ≤ steps) :
    readMembers steps ((member l d (level + 1) key v).text.toList ++
      (l.behind level "\x7d" (writeMembers l d (level + 1) members) ++ rest)) =
      some ((key, v) :: members, rest) := by
  have hv : (write l d (level + 1) v).fault = none :=
    (Written.append_fault_eq_none_iff.1 hmember).2
  have hkey := length_le_escaped key.toList
  have hlast := one_le_length_behind (l := l) level "\x7d" rfl
    (writeMembers l d (level + 1) members)
  rw [toList_member] at hsteps ⊢
  simp only [List.length_cons, List.length_append] at hsteps
  obtain ⟨steps, rfl⟩ : ∃ n, steps = n + 2 := ⟨steps - 2, by omega⟩
  have hbehind := noDigitFirst_behind hl level "\x7d" rfl rfl
    (writeMembers l d (level + 1) members) rest
  have hvalue := readValue_write (level + 1) hbehind steps hv (by omega)
  have hblank : ∀ c ∈ [' '], isBlank c = true := List.forall_mem_singleton.2 rfl
  rw [← readValue_append hblank] at hvalue
  have hchars := fun behind =>
    readChars_escaped key.toList behind (show key.toList.length < steps + 1 by omega)
  simp only [List.cons_append, List.append_assoc]
  cases members with
  | nil =>
    exact readMembers_last (hchars _) hvalue (skipBlanks_behind_nil hl level _ rfl rfl rest)
  | cons next members =>
    obtain ⟨key', v'⟩ := next
    obtain ⟨hnext, hmembers⟩ := List.forall_mem_cons.1 hmembers
    simp only [writeMembers, Layout.behind, List.length_cons, List.length_append] at hsteps
    have hread := readMembers_write level rest (steps + 1) hnext hmembers (by rw [member]; omega)
    rw [← readMembers_append (isBlank_gap hl (level + 1))] at hread
    exact readMembers_next (hchars _) hvalue (skipBlanks_behind_cons level "\x7d" _ _ rest) hread
termination_by 2 * steps
decreasing_by all_goals omega

end

end Documents

/-- A document is read from its text, whatever blanks stand behind. -/
theorem read_pretty {d : Text.DigitLimit} {j : Json} (h : (j.pretty d).fault = none)
    {blanks : String} (hblanks : ∀ c ∈ blanks.toList, isBlank c = true) :
    read ((j.pretty d).text ++ blanks) = some j := by
  have hrest : NoDigitFirst blanks.toList := by
    rw [← List.append_nil blanks.toList]
    exact noDigitFirst_append hblanks nofun
  have hpositive := one_le_length_write (l := indented) d 0 h
  have hlength : ((j.pretty d).text ++ blanks).length =
      (j.pretty d).text.toList.length + blanks.toList.length := by
    rw [String.length_append, String.length_toList, String.length_toList]
  obtain ⟨steps, hsteps⟩ : ∃ n, ((j.pretty d).text ++ blanks).length = n + 1 :=
    ⟨_, (Nat.sub_add_cancel (by rw [hlength]; exact Nat.le_add_right_of_le hpositive)).symm⟩
  have hread := readValue_write d isBlank_indented 0 hrest steps h
    (by rw [← hsteps, hlength]; exact Nat.le_add_right _ _)
  rw [read, hsteps, String.toList_append, pretty, hread]
  simp [skipBlanks_of_blanks hblanks]

end FunctionBounds.Json
