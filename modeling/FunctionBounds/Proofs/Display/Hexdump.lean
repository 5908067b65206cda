import FunctionBounds.Display.Hexdump
import FunctionBounds.Proofs.Text.Hexadecimal
import Mathlib.Algebra.Order.Floor.Div

/-!
# Reading a hex dump

- **Fields** (`Hexdump.readFields`, `toList_hexColumn`): in the column of octets, a blank follows
  each field, because a full column has one left and any other has more.
- **Lines** (`Shows`, `line_shows`): a line starts with its address, and what stands behind the
  column is in the same place for any number of octets. The address and the octets can be read from
  the line alone, whatever characters the octets are shown as.
- **Dumps** (`flatten_chunks`, `flatMap_readOctets`): the lines hold all octets in order.
- **Widths** (`lines_eq_ok`, `lines_eq_error`): a column can be too wide for any text.

`lines_lossless` is about dumps of any width.
-/

namespace FunctionBounds

open Text

namespace Hexdump

/-! ## Fields -/

/-- The octets of fields of two digits and a blank, up to the first place where there is none. -/
def readFields : List Char → List UInt8
  | high :: low :: ' ' :: rest =>
    match digitValue? 16 high, digitValue? 16 low with
    | some h, some l => .ofNat (h * 16 + l) :: readFields rest
    | _, _ => []
  | _ => []

/-- The field of an octet. -/
def field (b : UInt8) : List Char :=
  [(b.toNat / 16).digitChar, (b.toNat % 16).digitChar, ' ']

theorem readFields_blank (rest : List Char) : readFields (' ' :: rest) = [] := by
  have hblank : digitValue? 16 ' ' = none := by decide
  unfold readFields
  split
  · next high low _ heq =>
    cases heq
    rw [hblank]
  · rfl

theorem readFields_field (b : UInt8) (rest : List Char) :
    readFields (field b ++ rest) = b :: readFields rest := by
  have := b.toNat_lt
  have hhigh := digitValue?_digitChar (n := b.toNat / 16) (by omega)
  have hlow := digitValue?_digitChar (n := b.toNat % 16) (by omega)
  have hvalue : b.toNat / 16 * 16 + b.toNat % 16 = b.toNat := Nat.div_add_mod' _ _
  simp only [field, List.cons_append, List.nil_append, readFields, hhigh, hlow, hvalue,
    UInt8.ofNat_toNat]

theorem readFields_blanks (n : Nat) (rest : List Char) :
    readFields (List.replicate n ' ' ++ ' ' :: rest) = [] := by
  cases n with
  | zero => exact readFields_blank rest
  | succ n => exact readFields_blank (List.replicate n ' ' ++ ' ' :: rest)

theorem readFields_flatMap (chunk : List UInt8) {rest : List Char} (h : readFields rest = []) :
    readFields (chunk.flatMap field ++ rest) = chunk := by
  induction chunk with
  | nil => exact h
  | cons b chunk ih => rw [List.flatMap_cons, List.append_assoc, readFields_field, ih]

theorem toList_hexField_octet (b : UInt8) :
    (hexField 2 b.toNat).toList ++ [' '] = field b := by
  have := b.toNat_lt
  rw [hexField_natCast, toList_zeroPadded_hexDigits, field]
  rcases Nat.lt_or_ge b.toNat 16 with hlt | hge
  · rw [Nat.toDigits_of_lt_base hlt, Nat.div_eq_of_lt hlt, Nat.mod_eq_of_lt hlt]
    rfl
  · rw [Nat.toDigits_of_base_le (by decide) hge, Nat.toDigits_of_lt_base (n := b.toNat / 16)
      (by omega)]
    rfl

/-- The octets of a column, with a blank behind each. -/
theorem toList_octets_append {chunk : List UInt8} (h : chunk ≠ []) :
    (" ".intercalate (chunk.map fun b => hexField 2 b.toNat)).toList ++ [' '] =
      chunk.flatMap field := by
  rw [String.toList_intercalate, List.map_map]
  induction chunk with
  | nil => exact absurd rfl h
  | cons b chunk ih =>
    cases chunk with
    | nil => simpa [List.intercalate] using toList_hexField_octet b
    | cons b' chunk =>
      rw [List.map_cons, List.map_cons, List.intercalate_cons_cons, ← List.map_cons,
        List.append_assoc, ih (List.cons_ne_nil _ _)]
      exact congrArg (· ++ (b' :: chunk).flatMap field) (toList_hexField_octet b)

theorem length_flatMap_field (chunk : List UInt8) :
    (chunk.flatMap field).length = 3 * chunk.length := by
  induction chunk with
  | nil => rfl
  | cons b chunk ih =>
    rw [List.flatMap_cons, List.length_append, ih, List.length_cons]
    exact Nat.add_comm 3 _

/-- A column is fields, each with its blank, and more blanks. Where the fields fill it, the blank of
the last one is what the column is padded with. -/
theorem toList_hexColumn {width : Nat} {chunk : List UInt8} (h : chunk.length ≤ width) :
    (hexColumn (3 * width) chunk).toList =
      chunk.flatMap field ++ List.replicate (3 * (width - chunk.length)) ' ' := by
  unfold hexColumn
  by_cases hempty : chunk = []
  · subst hempty
    simp
  · have hoctets := toList_octets_append hempty
    generalize " ".intercalate (chunk.map fun b => hexField 2 b.toNat) = octets at hoctets ⊢
    have hlength : octets.length + 1 = 3 * chunk.length := by
      rw [← length_flatMap_field, ← hoctets, List.length_append, String.length_toList]
      rfl
    have hblanks : 3 * width - octets.length = 3 * (width - chunk.length) + 1 := by omega
    show (octets ++ String.ofList (List.replicate (3 * width - octets.length) ' ')).toList = _
    rw [← hoctets, hblanks, List.replicate_succ, String.toList_append, String.toList_ofList,
      List.append_assoc]
    rfl

/-! ## Lines -/

/-- The digits in front of a line, up to its first blank. -/
def addressDigits (line : String) : List Char := line.toList.takeWhile (· != ' ')

/-- The octets of the fields of a line, which start two blanks behind its address. -/
def readOctets (line : String) : List UInt8 :=
  readFields ((line.toList.dropWhile (· != ' ')).drop 2)

/-- A line for an address and octets, in a dump with `width` octets in a line. -/
structure Shows (address width : Nat) (chunk : List UInt8) (line : String) : Prop where
  parts : ∃ column : String, column.length = 3 * width ∧
    line = zeroPadded 16 (hexDigits address) ++ "  " ++ column ++ " |" ++
      String.ofList (chunk.map fun b =>
        if 0x20 ≤ b ∧ b < 0x7f then Char.ofNat b.toNat else '.') ++ "|"
  padded : 16 ≤ (addressDigits line).length
  lower : ∀ c ∈ addressDigits line, c ∈ lowerDigits
  address : numberOf 16 (addressDigits line) = address
  octets : readOctets line = chunk

theorem line_shows (address : Nat) {width : Nat} {chunk : List UInt8} (h : chunk.length ≤ width) :
    Shows address width chunk (line address width chunk) := by
  have hcolumn := toList_hexColumn h
  have hparts : line address width chunk = zeroPadded 16 (hexDigits address) ++ "  " ++
      hexColumn (3 * width) chunk ++ " |" ++ String.ofList (chunk.map charOf) ++ "|" := by
    simp only [line, hexField_natCast, String.append_assoc]
    rfl
  -- The fields stand between the two blanks behind the address and the blank before the bar.
  have hline : (line address width chunk).toList =
      (zeroPadded 16 (hexDigits address)).toList ++ ' ' :: ' ' :: (chunk.flatMap field ++
        (List.replicate (3 * (width - chunk.length)) ' ' ++
          ' ' :: '|' :: (chunk.map charOf ++ ['|']))) := by
    simp only [hparts, String.toList_append, hcolumn, String.toList_ofList, List.append_assoc]
    rfl
  have hdigits : ∀ c ∈ (zeroPadded 16 (hexDigits address)).toList, (c != ' ') = true :=
    fun c hc => bne_iff_ne.2
      (ne_of_mem_of_not_mem (mem_lowerDigits_of_mem_zeroPadded hc) (by decide))
  have haddress : addressDigits (line address width chunk) =
      (zeroPadded 16 (hexDigits address)).toList := by
    rw [addressDigits, hline, List.takeWhile_append_of_pos hdigits,
      List.takeWhile_cons_of_neg (by decide), List.append_nil]
  refine
    { parts := ⟨hexColumn (3 * width) chunk, ?_, hparts⟩
      padded := haddress ▸ le_length_zeroPadded_hexDigits 16 address
      lower := haddress ▸ fun c => mem_lowerDigits_of_mem_zeroPadded
      address := haddress ▸ numberOf_zeroPadded_hexDigits 16 address
      octets := ?_ }
  · rw [← String.length_toList, hcolumn, List.length_append, length_flatMap_field,
      List.length_replicate]
    omega
  · rw [readOctets, hline, List.dropWhile_append_of_pos hdigits,
      List.dropWhile_cons_of_neg (by decide)]
    exact readFields_flatMap chunk (readFields_blanks _ _)

/-! ## Dumps -/

theorem flatten_slices (d : Bytes) (width n : Nat) :
    ((List.range n).map fun i => (d.slice (i * width) width).toList).flatten =
      d.toList.take (n * width) := by
  induction n with
  | zero => simp
  | succ n ih =>
    rw [List.range_succ, List.map_append, List.flatten_append, ih, Nat.succ_mul, List.take_add,
      List.map_singleton, List.flatten_singleton, Bytes.slice, Array.toList_extract,
      List.extract_eq_take_drop, Nat.add_sub_cancel_left]

theorem length_chunks (d : Bytes) (width : Nat) : (chunks d width).length = d.size ⌈/⌉ width := by
  rw [chunks, List.length_map, List.length_range, Nat.ceilDiv_eq_add_pred_div]

theorem flatten_chunks (d : Bytes) {width : Nat} (h : 0 < width) :
    (chunks d width).flatten = d.toList := by
  have hall : d.size ≤ width • (d.size ⌈/⌉ width) := le_smul_ceilDiv h
  rw [chunks, flatten_slices, ← Nat.ceilDiv_eq_add_pred_div]
  refine List.take_of_length_le ?_
  rwa [Array.length_toList, Nat.mul_comm, ← smul_eq_mul]

theorem getElem?_chunks {d : Bytes} {width i : Nat} {chunk : List UInt8}
    (h : (chunks d width)[i]? = some chunk) : chunk = (d.slice (i * width) width).toList := by
  obtain ⟨hi, rfl⟩ := List.getElem?_eq_some_iff.1 h
  simp only [chunks, List.getElem_map, List.getElem_range]

theorem length_of_getElem?_chunks {d : Bytes} {width i : Nat} {chunk : List UInt8}
    (h : (chunks d width)[i]? = some chunk) : chunk.length ≤ width := by
  rw [getElem?_chunks h, Array.length_toList, Bytes.slice, Array.size_extract]
  omega

/-- The lines of a dump whose column is not too wide. -/
def linesOf (d : Bytes) (base width : Nat) : List String :=
  (chunks d width).zipIdx.map fun (chunk, i) => line (base + i * width : Nat) width chunk

theorem shows_of_getElem? {d : Bytes} {base width i : Nat} {l : String}
    (h : (linesOf d base width)[i]? = some l) :
    Shows (base + i * width) width (d.slice (i * width) width).toList l := by
  rw [linesOf, List.getElem?_map, List.getElem?_zipIdx, Option.map_map] at h
  obtain ⟨chunk, hchunk, rfl⟩ := Option.map_eq_some_iff.1 h
  rw [← getElem?_chunks hchunk]
  simpa using line_shows (base + i * width) (length_of_getElem?_chunks hchunk)

theorem flatMap_readOctets (d : Bytes) (base : Nat) {width : Nat} (h : 0 < width) :
    (linesOf d base width).flatMap readOctets = d.toList := by
  have hread : (linesOf d base width).map readOctets = (chunks d width).zipIdx.map Prod.fst := by
    rw [linesOf, List.map_map]
    refine List.map_congr_left ?_
    rintro ⟨chunk, i⟩ hmem
    have hchunk := List.mk_mem_zipIdx_iff_getElem?.1 hmem
    dsimp only [Function.comp_apply]
    exact (line_shows (base + i * width) (length_of_getElem?_chunks hchunk)).octets
  rw [List.flatMap_def, hread, List.zipIdx_map_fst, flatten_chunks d h]

/-! ## Widths -/

/-- What is said of a width that is short enough to be written. -/
theorem checkColumn_of_short {width : Nat} (h : width < Nat.pow 10 20) :
    checkColumn width = if maxColumn < width then .error .hugeWidth else .ok () := by
  have hadmits : DigitLimit.standard.admits width = true :=
    DigitLimit.admits_of_lt h (by decide)
  rw [checkColumn, DigitLimit.check_eq_ok_iff.2 hadmits]
  rfl

theorem checkColumn_of_le {width : Nat} (h : width ≤ maxColumn) : checkColumn width = .ok () := by
  rw [checkColumn_of_short (Nat.lt_of_le_of_lt h (by decide)), if_neg (Nat.not_lt_of_le h)]

theorem checkColumn_of_lt {width : Nat} (h : maxColumn < width) :
    checkColumn width = .error .hugeWidth ∨
      ∃ cause, checkColumn width = .error (.tooLong cause) := by
  rw [checkColumn, if_pos h]
  cases DigitLimit.standard.check width with
  | ok => exact .inl rfl
  | error cause => exact .inr ⟨cause, rfl⟩

theorem lines_of_pos (d : Bytes) (base : Nat) {width : Nat} (h : 0 < width) :
    lines d base width = if d.isEmpty then .ok [] else
      checkColumn (3 * width) >>= fun _ => .ok (linesOf d base width) := by
  obtain ⟨w, rfl⟩ := Nat.exists_eq_succ_of_ne_zero (Nat.ne_of_gt h)
  rfl

theorem lines_eq_ok {d : Bytes} (base : Nat) {width : Nat} (hwidth : 0 < width)
    (h : d = #[] ∨ 3 * width ≤ maxColumn) : lines d base width = .ok (linesOf d base width) := by
  rw [lines_of_pos d base hwidth]
  split
  · next hempty =>
    obtain rfl := Array.isEmpty_iff.1 hempty
    have hnone : chunks #[] width = [] := by
      rw [← List.length_eq_zero_iff, length_chunks]
      exact zero_ceilDiv width
    rw [linesOf, hnone]
    rfl
  · next hsome =>
    rw [checkColumn_of_le (h.resolve_left (mt Array.isEmpty_iff.2 hsome))]
    rfl

/-- A column that is too wide for any text, or whose width has too many digits to be written. -/
theorem lines_eq_error {d : Bytes} (base : Nat) {width : Nat} (hwidth : 0 < width)
    (h : ¬(d = #[] ∨ 3 * width ≤ maxColumn)) :
    lines d base width = .error .hugeWidth ∨
      ∃ cause, lines d base width = .error (.tooLong cause) := by
  obtain ⟨hsome, hwide⟩ := not_or.1 h
  rw [lines_of_pos d base hwidth, if_neg (mt Array.isEmpty_iff.1 hsome)]
  obtain he | ⟨cause, he⟩ := checkColumn_of_lt (Nat.lt_of_not_le hwide)
  · rw [he]
    exact .inl rfl
  · rw [he]
    exact .inr ⟨cause, rfl⟩

/-- There is a dump of octets by any width whose column fits into a text. It has a line for each
`width` octets, and all octets can be read from it. -/
theorem lines_lossless (d : Bytes) (base width : Nat) (hwidth : 1 ≤ width) :
    (d = #[] ∨ 3 * width ≤ maxColumn → ∃ ls, lines d base width = .ok ls ∧
      ls.length = d.size ⌈/⌉ width ∧ ls.flatMap readOctets = d.toList ∧
      ∀ i l, ls[i]? = some l →
        Shows (base + i * width) width (d.slice (i * width) width).toList l) ∧
    (¬(d = #[] ∨ 3 * width ≤ maxColumn) →
      lines d base width = .error .hugeWidth ∨
        ∃ cause, lines d base width = .error (.tooLong cause)) := by
  refine ⟨fun hfits => ⟨linesOf d base width, lines_eq_ok base hwidth hfits, ?_,
    flatMap_readOctets d base hwidth, fun i l hl => shows_of_getElem? hl⟩,
    lines_eq_error base hwidth⟩
  rw [linesOf, List.length_map, List.length_zipIdx, length_chunks]

/-- Octets shown as a bar, a blank, two dots and a letter. -/
def mixedOctets : Bytes := #[0x7c, 0x20, 0, 0x7f, 0x41]

/-- The addresses need more digits from the second line on, and the last line is short. -/
theorem lines_lossless_mixedOctets :
    (∃ ls, lines mixedOctets (0xffffffffffffffff : Nat) (2 : Nat) = .ok ls ∧
      ls = ["ffffffffffffffff  7c 20  || |", "10000000000000001  00 7f  |..|",
        "10000000000000003  41     |A|"] ∧
      ls.length = 3 ∧ ls.flatMap readOctets = [0x7c, 0x20, 0, 0x7f, 0x41]) ∧
    ∃ e, lines mixedOctets (0 : Nat) (3074457345618258603 : Nat) = .error e := by
  obtain ⟨hdump, -⟩ := lines_lossless mixedOctets 0xffffffffffffffff 2 (by decide)
  obtain ⟨-, hwide⟩ := lines_lossless mixedOctets 0 3074457345618258603 (by decide)
  obtain ⟨ls, hls, hlength, hread, -⟩ := hdump (.inr (by decide))
  have hlines := (lines_eq_ok 0xffffffffffffffff (by decide) (.inr (by decide))).symm.trans hls
  refine ⟨⟨ls, hls, ?_, hlength.trans (by decide), hread⟩, ?_⟩
  · cases hlines
    decide
  · obtain he | ⟨cause, he⟩ := hwide (by decide)
    · exact ⟨_, he⟩
    · exact ⟨_, he⟩

/-- The narrowest lines whose column would be wider than a text can be. -/
theorem lines_overwide :
    lines #[0] (0 : Nat) (3074457345618258603 : Nat) = .error .hugeWidth := by
  rw [lines_of_pos #[0] 0 (by decide), checkColumn_of_short (by decide)]
  rfl

end Hexdump

end FunctionBounds
