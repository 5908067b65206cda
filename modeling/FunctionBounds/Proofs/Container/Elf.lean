import FunctionBounds.Container.Elf
import Mathlib.Algebra.Group.Nat.Defs

/-!
# Decoded ELF64 headers

- **Numbers** (`Bytes.toNat_le_two`, `Bytes.toNat_le_four`, `Bytes.toNat_le_eight`): a number of
  two, four or eight octets keeps its value as a word of that width.
- **Success** (`Elf.Header.decode_eq_ok_iff`): which files have a header, and that it consists of
  the numbers of the first 64 octets.
- **Format** (`Format.identify_of_decode`): such a file is an ELF file.
-/

namespace FunctionBounds

namespace Bytes

theorem le_lt_two_pow (d : Bytes) (off n : Nat) : d.le off n < 2 ^ (8 * n) := by
  have hlt := ofLittleEndian_lt (d.slice off n).toList
  rw [Nat.one_shiftLeft] at hlt
  refine Nat.lt_of_lt_of_le hlt (Nat.pow_le_pow_right (by decide) ?_)
  simp only [slice, Array.length_toList, Array.size_extract]
  omega

@[simp] theorem toNat_le_two (d : Bytes) (off : Nat) :
    (UInt16.ofNat (d.le off 2)).toNat = d.le off 2 :=
  UInt16.toNat_ofNat_of_lt (d.le_lt_two_pow off 2)

@[simp] theorem toNat_le_four (d : Bytes) (off : Nat) :
    (UInt32.ofNat (d.le off 4)).toNat = d.le off 4 :=
  UInt32.toNat_ofNat_of_lt (d.le_lt_two_pow off 4)

@[simp] theorem toNat_le_eight (d : Bytes) (off : Nat) :
    (UInt64.ofNat (d.le off 8)).toNat = d.le off 8 :=
  UInt64.toNat_ofNat_of_lt (d.le_lt_two_pow off 8)

end Bytes

theorem Elf.Header.decode_eq_ok_iff {d : Bytes} {h : Elf.Header} :
    decode d = .ok h ↔
      64 ≤ d.size ∧ d.hasAt 0 Format.elfMagic ∧ d.le 4 1 = 2 ∧ d.le 5 1 = 1 ∧ fields d = h := by
  unfold decode
  split
  · next hsize => exact ⟨nofun, fun hok => absurd hsize (Nat.not_lt.2 hok.1)⟩
  split
  · next hmagic => exact ⟨nofun, fun hok => absurd hok.2.1 hmagic⟩
  split
  · next hclass => exact ⟨nofun, fun hok => absurd hok.2.2.1 hclass⟩
  split
  · next horder => exact ⟨nofun, fun hok => absurd hok.2.2.2.1 horder⟩
  · next hsize hmagic hclass horder =>
    exact ⟨fun hd => ⟨Nat.not_lt.1 hsize, Decidable.not_not.1 hmagic, Decidable.not_not.1 hclass,
      Decidable.not_not.1 horder, Except.ok.inj hd⟩, fun hok => congrArg Except.ok hok.2.2.2.2⟩

theorem Format.identify_of_decode {d : Bytes} {h : Elf.Header} (hd : Elf.Header.decode d = .ok h) :
    identify d = .elf :=
  if_pos (Elf.Header.decode_eq_ok_iff.1 hd).2.1

end FunctionBounds
