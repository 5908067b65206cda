import FunctionBounds.Text.Digit
import FunctionBounds.Text.Number

/-!
# Hexadecimal numbers as text

- **Digits** (`lowerDigits`, `mem_lowerDigits_of_mem_zeroPadded`): numbers are written in the
  sixteen digits, of which the letters are lower-case.
- **Values** (`numberOf_toDigits`, `numberOf_zeroPadded_hexDigits`): a number reads as itself from
  its digits, also with zeros in front of them.
-/

namespace FunctionBounds.Text

/-- The digits that numbers are written in. -/
def lowerDigits : List Char := "0123456789abcdef".toList

theorem digitChar_mem_lowerDigits {n : Nat} (h : n < 16) : n.digitChar ∈ lowerDigits := by
  have hall : ∀ m < 16, m.digitChar ∈ lowerDigits := by decide
  exact hall n h

theorem mem_lowerDigits_of_mem_toDigits {n : Nat} {c : Char} (h : c ∈ Nat.toDigits 16 n) :
    c ∈ lowerDigits := by
  induction n using Nat.strongRecOn with
  | ind n ih =>
    rcases Nat.lt_or_ge n 16 with hlt | hge
    · rw [Nat.toDigits_of_lt_base hlt, List.mem_singleton] at h
      exact h ▸ digitChar_mem_lowerDigits hlt
    · rw [Nat.toDigits_of_base_le (by decide) hge, List.mem_append, List.mem_singleton] at h
      obtain hhigh | rfl := h
      · exact ih (n / 16) (by omega) hhigh
      · exact digitChar_mem_lowerDigits (Nat.mod_lt n (by decide))

theorem digitValue?_digitChar {n : Nat} (h : n < 16) : digitValue? 16 n.digitChar = some n := by
  have hall : ∀ m < 16, digitValue? 16 m.digitChar = some m := by decide
  exact hall n h

theorem numberOf_append_digitChar (digits : List Char) {n : Nat} (h : n < 16) :
    numberOf 16 (digits ++ [n.digitChar]) = numberOf 16 digits * 16 + n := by
  simp [numberOf, ofDigits, digitValue?_digitChar h]

theorem numberOf_toDigits (n : Nat) : numberOf 16 (Nat.toDigits 16 n) = n := by
  induction n using Nat.strongRecOn with
  | ind n ih =>
    have hlow : n % 16 < 16 := Nat.mod_lt n (by decide)
    rcases Nat.lt_or_ge n 16 with hlt | hge
    · rw [Nat.toDigits_of_lt_base hlt, ← List.nil_append [_], numberOf_append_digitChar _ hlt]
      exact Nat.zero_add n
    · rw [Nat.toDigits_of_base_le (by decide) hge, numberOf_append_digitChar _ hlow,
        ih (n / 16) (by omega)]
      omega

theorem hexField_natCast (width n : Nat) :
    hexField width (n : Int) = zeroPadded width (hexDigits n) := by
  rw [hexField, if_neg (by omega), Int.natAbs_natCast]

theorem toList_zeroPadded_hexDigits (width n : Nat) :
    (zeroPadded width (hexDigits n)).toList =
      List.replicate (width - (Nat.toDigits 16 n).length) '0' ++ Nat.toDigits 16 n := by
  simp [zeroPadded, hexDigits]

theorem numberOf_zeroPadded_hexDigits (width n : Nat) :
    numberOf 16 (zeroPadded width (hexDigits n)).toList = n := by
  rw [toList_zeroPadded_hexDigits]
  induction width - (Nat.toDigits 16 n).length with
  | zero => exact numberOf_toDigits n
  | succ k ih => exact ih

theorem mem_lowerDigits_of_mem_zeroPadded {width n : Nat} {c : Char}
    (h : c ∈ (zeroPadded width (hexDigits n)).toList) : c ∈ lowerDigits := by
  rw [toList_zeroPadded_hexDigits, List.mem_append] at h
  obtain hzero | hdigit := h
  · rw [List.eq_of_mem_replicate hzero]
    decide
  · exact mem_lowerDigits_of_mem_toDigits hdigit

theorem le_length_zeroPadded_hexDigits (width n : Nat) :
    width ≤ (zeroPadded width (hexDigits n)).length := by
  rw [← String.length_toList, toList_zeroPadded_hexDigits, List.length_append,
    List.length_replicate]
  omega

end FunctionBounds.Text
