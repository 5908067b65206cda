import FunctionBounds.Region.Sections
import FunctionBounds.StringTable

/-!
# Texts of a string table

- **Search** (`Bytes.toList_extract_indexFrom?`): the octets before the first one that passes.
- **Texts** (`StringTable.nameAt_eq`, `SectionHeader.nameAt_eq`): the text at an offset is that of
  the octets from there on, up to a NUL. An offset outside the table has no octets, so its text is
  empty.
-/

namespace FunctionBounds

theorem Bytes.toList_extract_indexFrom? (d : Bytes) (p : UInt8 → Bool) (off : Nat) :
    (d.extract off ((d.indexFrom? p off).getD d.size)).toList =
      (d.toList.drop off).takeWhile fun b => !p b := by
  fun_induction indexFrom? d p off with
  | case1 off hlt hp =>
    rw [List.drop_eq_getElem_cons (by simpa using hlt)]
    simp [hp]
  | case2 off hlt hp ih =>
    have hstop : off < (d.indexFrom? p (off + 1)).getD d.size := by
      cases hi : d.indexFrom? p (off + 1) with
      | none => exact hlt
      | some i => exact (indexFrom?_bounds hi).1
    generalize (d.indexFrom? p (off + 1)).getD d.size = stop at hstop ih ⊢
    rw [Array.toList_extract, List.extract_eq_take_drop] at ih ⊢
    rw [List.drop_eq_getElem_cons (by simpa using hlt),
      List.takeWhile_cons_of_pos (by simpa using hp), ← ih,
      show stop - off = stop - (off + 1) + 1 by omega, List.take_succ_cons]
  | case3 off hlt =>
    rw [List.drop_of_length_le (by simpa using hlt)]
    simp
    omega

namespace StringTable

/-- The text of the octets from an offset on, up to a NUL or the end of the table. -/
def textAt (t : Bytes) (off : Nat) : String :=
  Text.Utf8.decode ((t.toList.drop off).takeWhile (· != 0)).toArray

theorem textAt_of_size_le {t : Bytes} {off : Nat} (h : t.size ≤ off) : textAt t off = "" := by
  rw [textAt, List.drop_of_length_le (by simpa using h)]
  rfl

theorem nameAt_eq (t : Bytes) (off : Nat) : nameAt t off = textAt t off := by
  unfold nameAt
  split
  · rw [textAt, endOfName]
    congr 1
    apply Array.toList_inj.1
    exact Bytes.toList_extract_indexFrom? t (· == 0) off
  · next h => exact (textAt_of_size_le (by omega)).symm

end StringTable

/-- The names of sections are texts of a table. Only they may be asked for before its start. -/
theorem SectionHeader.nameAt_eq (names : Bytes) (off : Int) :
    nameAt names off = if off < 0 then "" else StringTable.textAt names off.toNat := by
  unfold nameAt
  split
  · next hout =>
    split
    · rfl
    · exact (StringTable.textAt_of_size_le (by omega)).symm
  · next hinside =>
    rw [if_neg (not_or.1 hinside).1, StringTable.textAt]
    refine congrArg Text.Utf8.decode ?_
    apply Array.toList_inj.1
    exact Bytes.toList_extract_indexFrom? names (· == 0) off.toNat

theorem SectionHeader.nameAt_natCast (names : Bytes) (off : Nat) :
    nameAt names off = StringTable.textAt names off := by
  rw [nameAt_eq, if_neg (by omega), Int.toNat_natCast]

end FunctionBounds
