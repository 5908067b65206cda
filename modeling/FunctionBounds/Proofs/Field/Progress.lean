import FunctionBounds.Field.Pointer

/-!
# Progress of readers

A reader that succeeds has moved forward and is still inside the octets.

- **Offsets** (`readValue_next`, `readEncodedValue_next`, `readPointer_next`): the offset after a
  field. An aligned address may stand after a gap (`alignedOffset_eq`), never before its offset
  (`le_alignedOffset`).
- **Addresses** (`readAddress`): an encoded pointer before it is taken as a natural number. It is
  never negative (`readAddress_nonneg`), so nothing is lost then (`readPointer_eq`).
-/

namespace FunctionBounds

/-- Alignment does not go back. -/
theorem le_alignedOffset {n : Nat} (off : Nat) (h : 0 < n) : off ≤ alignedOffset off n := by
  have hbits : (off + n - 1) &&& (n - 1) ≤ n - 1 := Nat.and_le_right
  rw [alignedOffset_of_pos off h]
  omega

/-- How many octets are in front of the next multiple of `n`. -/
def gap (n off : Nat) : Nat := (n - off % n) % n

theorem alignedOffset_eq {n : Nat} (h : n = 4 ∨ n = 8) (off : Nat) :
    alignedOffset off n = off + gap n off := by
  rcases h with rfl | rfl
  · have hbits : (off + 4 - 1) &&& (4 - 1) = (off + 4 - 1) % 4 :=
      Nat.and_two_pow_sub_one_eq_mod _ 2
    rw [alignedOffset_of_pos off (by decide), hbits, gap]
    omega
  · have hbits : (off + 8 - 1) &&& (8 - 1) = (off + 8 - 1) % 8 :=
      Nat.and_two_pow_sub_one_eq_mod _ 3
    rw [alignedOffset_of_pos off (by decide), hbits, gap]
    omega

theorem gap_eq_zero_iff {n : Nat} (h : n = 4 ∨ n = 8) (off : Nat) : gap n off = 0 ↔ n ∣ off := by
  rcases h with rfl | rfl <;> rw [gap] <;> omega

theorem addressWidth_natCast {n : Nat} (h : n = 4 ∨ n = 8) : addressWidth n = n := by
  rcases h with rfl | rfl <;> rfl

theorem addressWidth_pos (addressSize : Int) : 0 < addressWidth addressSize := by
  unfold addressWidth
  split <;> decide

namespace Bytes

variable {d : Bytes} {off next : Nat}

theorem readWord_next {w : Word} {v : Int} (h : d.readWord w off = .ok (v, next)) :
    next = off + w.width ∧ next ≤ d.size := by
  unfold readWord at h
  cases hread : d.readUnsigned w.width off with
  | error cause => rw [hread] at h; cases h
  | ok p =>
    rw [hread] at h
    cases h
    exact readUnsigned_next hread

theorem readUnsignedLeb_next {n : Nat} (h : d.readUnsignedLeb off = .ok (n, next)) :
    off < next ∧ next ≤ d.size := by
  unfold readUnsignedLeb at h
  split at h
  · next hgroups => cases h; exact lebGroups?_next hgroups
  · cases h

theorem readSignedLeb_next {n : Int} (h : d.readSignedLeb off = .ok (n, next)) :
    off < next ∧ next ≤ d.size := by
  unfold readSignedLeb at h
  split at h
  · next hgroups => cases h; exact lebGroups?_next hgroups
  · cases h

theorem readValue_next {f : ValueFormat} {addressSize v : Int}
    (h : d.readValue f addressSize off = .ok (v, next)) : off < next ∧ next ≤ d.size := by
  have hword {w : Word} (hw : 0 < w.width) (h : d.readWord w off = .ok (v, next)) :
      off < next ∧ next ≤ d.size := by
    obtain ⟨rfl, hsize⟩ := readWord_next h
    exact ⟨by omega, hsize⟩
  cases f with
  | address => exact hword (addressWidth_pos addressSize) h
  | uleb128 =>
    simp only [readValue] at h
    cases hread : d.readUnsignedLeb off with
    | error cause => rw [hread] at h; cases h
    | ok p =>
      rw [hread] at h
      cases h
      exact readUnsignedLeb_next hread
  | sleb128 => exact readSignedLeb_next h
  | udata2 | udata4 | udata8 | sdata2 | sdata4 | sdata8 => exact hword (by decide) h

theorem readEncodedValue_next {encoding addressSize v : Int}
    (h : d.readEncodedValue encoding addressSize off = .ok (v, next)) :
    off < next ∧ next ≤ d.size := by
  unfold readEncodedValue at h
  split at h
  · exact readValue_next h
  · cases h

/-! ## Addresses -/

/-- An encoded pointer as a number, before it is known not to be negative. -/
def readAddress (d : Bytes) (b : PointerBase) (encoding : Int) (off : Nat) :
    Except DecodeError (Int × Nat) :=
  if encoding = Encoding.omitted then .error .pointerOmitted
  else if Encoding.isIndirect encoding then .error (.pointerIndirect encoding)
  else if Encoding.application encoding = Encoding.aligned then do
    let (address, next) ← d.readUnsigned (addressWidth b.addressSize)
      (alignedOffset off b.addressSize)
    return (address, next)
  else do
    let (value, next) ← d.readEncodedValue encoding b.addressSize off
    match Encoding.application? encoding with
    | some a => return ((b.resolve off a + value) % addressCount, next)
    | none => .error (.pointerApplication (Encoding.application encoding))

/-- An address that was read: the one that stands after a gap, or one that was resolved. -/
theorem readAddress_cases {b : PointerBase} {encoding v : Int}
    (h : d.readAddress b encoding off = .ok (v, next)) :
    (∃ n : Nat, v = n ∧
        d.readUnsigned (addressWidth b.addressSize) (alignedOffset off b.addressSize) =
          .ok (n, next)) ∨
      ∃ a value, d.readEncodedValue encoding b.addressSize off = .ok (value, next) ∧
        v = (b.resolve off a + value) % addressCount := by
  unfold readAddress at h
  split at h
  · cases h
  · split at h
    · cases h
    · split at h
      · cases hread : d.readUnsigned (addressWidth b.addressSize)
          (alignedOffset off b.addressSize) with
        | error cause => rw [hread] at h; cases h
        | ok p =>
          rw [hread] at h
          cases h
          exact .inl ⟨p.1, rfl, rfl⟩
      · cases hread : d.readEncodedValue encoding b.addressSize off with
        | error cause => rw [hread] at h; cases h
        | ok p =>
          simp only [hread, bind, Except.bind] at h
          split at h
          · next a _ =>
            cases h
            exact .inr ⟨a, p.1, rfl, rfl⟩
          · cases h

theorem readAddress_nonneg {b : PointerBase} {encoding v : Int}
    (h : d.readAddress b encoding off = .ok (v, next)) : 0 ≤ v := by
  rcases readAddress_cases h with ⟨n, rfl, -⟩ | ⟨a, value, -, rfl⟩
  · exact Int.natCast_nonneg n
  · exact Int.emod_nonneg _ (by decide)

theorem readAddress_next {b : PointerBase} {encoding v : Int} (hb : 0 < b.addressSize)
    (h : d.readAddress b encoding off = .ok (v, next)) : off < next ∧ next ≤ d.size := by
  rcases readAddress_cases h with ⟨n, -, hread⟩ | ⟨a, value, hread, -⟩
  · obtain ⟨rfl, hsize⟩ := readUnsigned_next hread
    have hwidth := addressWidth_pos b.addressSize
    have hgap : off ≤ alignedOffset off b.addressSize := by
      obtain ⟨n, hn⟩ := Int.eq_ofNat_of_zero_le (Int.le_of_lt hb)
      rw [hn] at hb ⊢
      exact le_alignedOffset off (by omega)
    exact ⟨by omega, hsize⟩
  · exact readEncodedValue_next hread

/-- A pointer is its address as a natural number. -/
theorem readPointer_eq (d : Bytes) (b : PointerBase) (encoding : Int) (off : Nat) :
    d.readPointer b encoding off =
      (d.readAddress b encoding off).map fun (v, next) => (v.toNat, next) := by
  unfold readPointer readAddress
  split
  · rfl
  · split
    · rfl
    · split
      · cases d.readUnsigned (addressWidth b.addressSize) (alignedOffset off b.addressSize) <;> rfl
      · cases d.readEncodedValue encoding b.addressSize off with
        | error cause => rfl
        | ok p =>
          simp only [bind, Except.bind]
          cases Encoding.application? encoding <;> rfl

theorem readPointer_next {b : PointerBase} {encoding : Int} {n : Nat} (hb : 0 < b.addressSize)
    (h : d.readPointer b encoding off = .ok (n, next)) : off < next ∧ next ≤ d.size := by
  rw [readPointer_eq] at h
  cases hread : d.readAddress b encoding off with
  | error cause => rw [hread] at h; cases h
  | ok p =>
    rw [hread] at h
    cases h
    exact readAddress_next hb hread

end Bytes

end FunctionBounds
