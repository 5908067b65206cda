/-!
# Bytes

A file, or a region of one, is an array of octets.

* `ofLittleEndian`: the number that octets stand for, least significant first.
* `Bytes.slice`: the octets of a range, cut at the end of the array.
* `Bytes.le`: the little-endian number in a range of octets.
* `Bytes.indexFrom?`: the first offset, from a given one on, whose octet passes a test, as
  `Bytes.indexFrom?_eq_some_iff` says.
-/

namespace FunctionBounds

/-- A string of octets. -/
abbrev Bytes := Array UInt8

/-- The number that octets stand for, least significant first. -/
def ofLittleEndian : List UInt8 → Nat
  | [] => 0
  | b :: bs => b.toNat + 256 * ofLittleEndian bs

theorem ofLittleEndian_lt (bs : List UInt8) : ofLittleEndian bs < 1 <<< (8 * bs.length) := by
  induction bs with
  | nil => simp [ofLittleEndian]
  | cons b bs ih =>
    have := b.toNat_lt
    simp only [ofLittleEndian, List.length_cons, Nat.mul_succ, Nat.shiftLeft_add]
    simp only [Nat.shiftLeft_eq _ 8]
    omega

namespace Bytes

/-- The `n` octets from `off` on, fewer where the array ends before. -/
def slice (d : Bytes) (off n : Nat) : Bytes := d.extract off (off + n)

theorem size_slice {d : Bytes} {off n : Nat} (h : off + n ≤ d.size) : (d.slice off n).size = n := by
  simp only [slice, Array.size_extract]
  omega

/-- The little-endian number in the `n` octets from `off` on. -/
def le (d : Bytes) (off n : Nat) : Nat := ofLittleEndian (d.slice off n).toList

theorem le_lt {d : Bytes} {off n : Nat} (h : off + n ≤ d.size) : d.le off n < 1 <<< (8 * n) := by
  simpa [le, size_slice h] using ofLittleEndian_lt (d.slice off n).toList

/-- The first offset from `off` on whose octet passes `p`. -/
def indexFrom? (d : Bytes) (p : UInt8 → Bool) (off : Nat) : Option Nat :=
  if h : off < d.size then
    if p d[off] then some off else indexFrom? d p (off + 1)
  else none
termination_by d.size - off

theorem indexFrom?_bounds {d : Bytes} {p : UInt8 → Bool} {off i : Nat}
    (h : d.indexFrom? p off = some i) : off ≤ i ∧ i < d.size := by
  fun_induction indexFrom? d p off with
  | case1 off hlt _ => cases h; exact ⟨Nat.le_refl _, hlt⟩
  | case2 off _ _ ih => exact ⟨by have := (ih h).1; omega, (ih h).2⟩
  | case3 => cases h

theorem indexFrom?_eq_some_iff {d : Bytes} {p : UInt8 → Bool} {off i : Nat} :
    d.indexFrom? p off = some i ↔
      off ≤ i ∧ (∃ b, d[i]? = some b ∧ p b = true) ∧
        ∀ j b, off ≤ j → j < i → d[j]? = some b → p b = false := by
  fun_induction indexFrom? d p off with
  | case1 off hlt hp =>
    constructor
    · rintro ⟨⟩
      exact ⟨Nat.le_refl _, ⟨_, Array.getElem?_eq_getElem hlt, hp⟩, by omega⟩
    · rintro ⟨hle, -, hbefore⟩
      rcases Nat.eq_or_lt_of_le hle with rfl | hi
      · rfl
      · have := hbefore off d[off] (Nat.le_refl _) hi (Array.getElem?_eq_getElem hlt)
        simp [hp] at this
  | case2 off hlt hp ih =>
    rw [ih]
    constructor
    · rintro ⟨hle, hi, hbefore⟩
      refine ⟨by omega, hi, fun j b hj hji hb => ?_⟩
      rcases Nat.eq_or_lt_of_le hj with rfl | hj
      · rw [Array.getElem?_eq_getElem hlt] at hb
        cases hb
        exact Bool.eq_false_iff.2 hp
      · exact hbefore j b hj hji hb
    · rintro ⟨hle, ⟨b, hb, hpb⟩, hbefore⟩
      refine ⟨Nat.lt_of_le_of_ne hle ?_, ⟨b, hb, hpb⟩, fun j b hj => hbefore j b (by omega)⟩
      rintro rfl
      rw [Array.getElem?_eq_getElem hlt] at hb
      cases hb
      exact hp hpb
  | case3 off hout =>
    refine ⟨nofun, ?_⟩
    rintro ⟨hle, ⟨b, hb, -⟩, -⟩
    have := (Array.getElem?_eq_some_iff.1 hb).1
    omega

theorem isSome_indexFrom? {d : Bytes} {p : UInt8 → Bool} {off : Nat} :
    (d.indexFrom? p off).isSome = true ↔ ∃ i b, off ≤ i ∧ d[i]? = some b ∧ p b = true := by
  constructor
  · intro h
    obtain ⟨i, hi⟩ := Option.isSome_iff_exists.1 h
    obtain ⟨hle, ⟨b, hb, hp⟩, -⟩ := indexFrom?_eq_some_iff.1 hi
    exact ⟨i, b, hle, hb, hp⟩
  · rintro ⟨i, b, hle, hb, hp⟩
    fun_induction indexFrom? d p off with
    | case1 => rfl
    | case2 off hlt hpoff ih =>
      refine ih (Nat.lt_of_le_of_ne hle ?_)
      rintro rfl
      rw [Array.getElem?_eq_getElem hlt] at hb
      cases hb
      exact hpoff hp
    | case3 off hout =>
      have := (Array.getElem?_eq_some_iff.1 hb).1
      omega

/-- Whether the octets of `magic` stand at `off`. -/
def hasAt (d : Bytes) (off : Nat) (magic : List UInt8) : Bool :=
  (d.slice off magic.length).toList == magic

end Bytes

end FunctionBounds
