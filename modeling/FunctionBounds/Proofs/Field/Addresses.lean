import FunctionBounds.Proofs.Field.Leb128
import FunctionBounds.Proofs.Field.Progress
import FunctionBounds.Proofs.Steps
import Mathlib.Data.Int.ModEq

/-!
# Addresses that encoded pointers stand for

Which octets each format reads, and the address that a pointer is resolved to from them.

- **Words** (`Word.InRange`, `Word.octets`): a fixed format reads the two's complement of every
  number in its range, and nothing else (`Bytes.readWord_eq_ok_iff`). Numbers of a word at the same
  distance from addresses are the same (`Word.interpret_inj`).
- **Formats** (`ValueFormat.InRange`, `ValueFormat.octets`): so does each of the nine formats, with
  any number of spare groups in the LEB128 ones (`Bytes.readValue_eq_ok_iff`).
- **Displacements** (`displacement`): how far an address is from a position, in eight octets. All
  positions reach all addresses (`displacement_inRange`, `resolve_displacement`).

`Bytes.readPointer_resolves` gives the address for each of the three bases.
-/

namespace FunctionBounds

/-! ## Words -/

namespace Word

/-- The numbers of a word: from zero on, or as many below zero as from there on. -/
def InRange (w : Word) (v : Int) : Prop :=
  if w.signed then -2 ^ (8 * w.width - 1) ≤ v ∧ v < 2 ^ (8 * w.width - 1)
  else 0 ≤ v ∧ v < 2 ^ (8 * w.width)

/-- The octets of a number, in two's complement. -/
def octets (w : Word) (v : Int) : List UInt8 := littleEndian w.width (v % 2 ^ (8 * w.width)).toNat

variable {w : Word} {v : Int} {n m : Nat}

/-- Half of the numbers of a word. -/
theorem exists_half (hw : 0 < w.width) :
    ∃ half : Nat, 0 < half ∧ 1 <<< (8 * w.width) = 2 * half ∧
      (2 ^ (8 * w.width) : Int) = (2 * half : Nat) ∧ (2 ^ (8 * w.width - 1) : Int) = half := by
  obtain ⟨bits, hbits⟩ : ∃ bits, 8 * w.width = bits + 1 := ⟨8 * w.width - 1, by omega⟩
  refine ⟨2 ^ bits, Nat.two_pow_pos bits, ?_, ?_, ?_⟩
  · rw [hbits, Nat.one_shiftLeft, Nat.pow_succ, Nat.mul_comm]
  · rw [hbits, Int.pow_succ]
    push_cast
    rw [Int.mul_comm]
  · rw [hbits, Nat.add_sub_cancel]
    push_cast
    rfl

/-- A word reads numbers in its range only, each from its own octets. -/
theorem interpret_inRange (hw : 0 < w.width) (hn : n < 1 <<< (8 * w.width)) :
    w.InRange (w.interpret n) ∧ (w.interpret n % 2 ^ (8 * w.width)).toNat = n := by
  obtain ⟨half, hpos, hcount, hpow, hpow'⟩ := exists_half hw
  rw [hcount] at hn
  have hmod : (n : Int) % (2 * half : Nat) = n := Int.emod_eq_of_lt (by omega) (by omega)
  rw [InRange, interpret, hcount, hpow, hpow']
  cases w.signed with
  | false =>
    rw [if_neg (by decide), if_neg (by decide), hmod]
    omega
  | true =>
    have hlow := Int.le_bmod (x := n) (m := 2 * half) (by omega)
    have hhigh := Int.bmod_lt (x := n) (m := 2 * half) (by omega)
    rw [if_pos rfl, if_pos rfl, Int.bmod_emod, hmod]
    omega

/-- A word reads every number in its range. -/
theorem interpret_of_inRange (hw : 0 < w.width) (hv : w.InRange v) :
    (v % 2 ^ (8 * w.width)).toNat < 1 <<< (8 * w.width) ∧
      w.interpret (v % 2 ^ (8 * w.width)).toNat = v := by
  obtain ⟨half, hpos, hcount, hpow, hpow'⟩ := exists_half hw
  have hnonneg := Int.emod_nonneg v (show ((2 * half : Nat) : Int) ≠ 0 by omega)
  have hlt := Int.emod_lt_of_pos v (show 0 < ((2 * half : Nat) : Int) by omega)
  rw [InRange, hpow, hpow'] at hv
  rw [interpret, hcount, hpow, Int.toNat_of_nonneg hnonneg]
  refine ⟨by omega, ?_⟩
  cases hsigned : w.signed with
  | false =>
    rw [hsigned, if_neg (by decide)] at hv
    rw [if_neg (by decide), Int.emod_eq_of_lt hv.1 hv.2]
  | true =>
    rw [hsigned, if_pos rfl] at hv
    rw [if_pos rfl, Int.emod_bmod]
    exact Int.bmod_eq_of_le_mul_two (by omega) (by omega)

theorem interpret_emod (hw : 0 < w.width) (hn : n < 1 <<< (8 * w.width)) :
    w.interpret n % 2 ^ (8 * w.width) = n := by
  obtain ⟨half, hpos, -, hpow, -⟩ := exists_half hw
  have hnat := (interpret_inRange hw hn).2
  rw [hpow] at hnat ⊢
  have hnonneg := Int.emod_nonneg (w.interpret n) (show ((2 * half : Nat) : Int) ≠ 0 by omega)
  omega

/-- Addresses at the same distance from numbers of a word tell the numbers apart. -/
theorem interpret_inj (hw : 0 < w.width) (hw' : w.width ≤ 8) (hn : n < 1 <<< (8 * w.width))
    (hm : m < 1 <<< (8 * w.width)) (base : Int)
    (h : (base + w.interpret n) % addressCount = (base + w.interpret m) % addressCount) :
    n = m := by
  have hdvd : (2 ^ (8 * w.width) : Int) ∣ 2 ^ 64 := pow_dvd_pow 2 (by omega)
  have hsame : w.interpret n ≡ w.interpret m [ZMOD 2 ^ (8 * w.width)] :=
    (Int.ModEq.add_left_cancel' base h).of_dvd hdvd
  rw [Int.ModEq, interpret_emod hw hn, interpret_emod hw hm] at hsame
  exact Int.ofNat_inj.1 hsame

end Word

namespace Bytes

variable {d : Bytes} {off next : Nat} {v : Int}

/-- A word is read from its octets, and from no others. -/
theorem readWord_eq_ok_iff {w : Word} (hw : 0 < w.width) :
    d.readWord w off = .ok (v, next) ↔
      w.InRange v ∧ d.Holds off (w.octets v) ∧ next = off + (w.octets v).length := by
  constructor
  · intro h
    obtain ⟨rfl, hsize⟩ := readWord_next h
    obtain ⟨hrange, hoctets⟩ := Word.interpret_inRange (w := w) hw (le_lt hsize)
    have hread : w.interpret (d.le off w.width) = v := by
      rw [readWord, readUnsigned, if_pos hsize] at h
      cases h
      rfl
    rw [hread] at hrange hoctets
    have hslice : w.octets v = (d.slice off w.width).toList := by
      rw [Word.octets, hoctets, littleEndian_le hsize]
    have hlength : (w.octets v).length = w.width := length_littleEndian _ _
    refine ⟨hrange, holds_iff.2 ⟨by rwa [hlength], by rw [hlength, hslice]⟩, by rw [hlength]⟩
  · rintro ⟨hrange, hholds, rfl⟩
    obtain ⟨hlt, hv⟩ := Word.interpret_of_inRange hw hrange
    have hlength : (w.octets v).length = w.width := length_littleEndian _ _
    rw [readWord_of_holds hholds, Nat.mod_eq_of_lt hlt, hv, hlength]

end Bytes

/-! ## Formats -/

namespace ValueFormat

/-- The numbers of a format. Those of the LEB128 formats have no bound. -/
def InRange (f : ValueFormat) (addressSize v : Int) : Prop :=
  match f.word? addressSize with
  | some w => w.InRange v
  | none => f.isSigned = true ∨ 0 ≤ v

/-- The octets of a number. In the LEB128 formats `spare` groups stand after those it needs. -/
def octets (f : ValueFormat) (addressSize v : Int) (spare : Nat) : List UInt8 :=
  match f.word? addressSize with
  | some w => w.octets v
  | none => Leb128.encoding f.isSigned v spare

theorem width_pos_of_word? {f : ValueFormat} {addressSize : Int} {w : Word}
    (h : f.word? addressSize = some w) : 0 < w.width := by
  cases f with
  | address =>
    cases h
    exact addressWidth_pos addressSize
  | uleb128 | sleb128 => cases h
  | udata2 | udata4 | udata8 | sdata2 | sdata4 | sdata8 =>
    cases h
    decide

theorem width_le_of_word? {f : ValueFormat} {addressSize : Int} {w : Word}
    (h : f.word? addressSize = some w) : w.width ≤ 8 := by
  cases f with
  | address =>
    cases h
    simp only [addressWidth]
    split <;> omega
  | udata2 | udata4 | udata8 | sdata2 | sdata4 | sdata8 => cases h; decide
  | uleb128 | sleb128 => cases h

end ValueFormat

namespace Bytes

variable {d : Bytes} {off next : Nat} {v : Int}

/-- A number is read from its octets, and from no others. -/
theorem readValue_eq_ok_iff {f : ValueFormat} {addressSize : Int} :
    d.readValue f addressSize off = .ok (v, next) ↔
      f.InRange addressSize v ∧ ∃ spare, d.Holds off (f.octets addressSize v spare) ∧
        next = off + (f.octets addressSize v spare).length := by
  cases hword : f.word? addressSize with
  | some w =>
    rw [readValue_of_word? hword, readWord_eq_ok_iff (ValueFormat.width_pos_of_word? hword)]
    simp only [ValueFormat.InRange, ValueFormat.octets, hword, exists_const]
  | none =>
    simp only [ValueFormat.InRange, ValueFormat.octets, hword]
    cases f with
    | uleb128 =>
      have hread : d.readValue .uleb128 addressSize off = .ok (v, next) ↔
          ∃ n : Nat, d.readUnsignedLeb off = .ok (n, next) ∧ (n : Int) = v := by
        simp [readValue, bind, pure, Except.pure, bind_eq_ok_iff, and_comm]
      simp only [hread, readUnsignedLeb_eq_ok_iff]
      constructor
      · rintro ⟨n, h, rfl⟩
        exact ⟨.inr (Int.natCast_nonneg n), h⟩
      · rintro ⟨hv, h⟩
        obtain ⟨n, rfl⟩ := Int.eq_ofNat_of_zero_le (hv.resolve_left (by decide))
        exact ⟨n, h, rfl⟩
    | sleb128 =>
      rw [readValue, readSignedLeb_eq_ok_iff]
      exact ⟨fun h => ⟨.inl rfl, h⟩, fun h => h.2⟩
    | address | udata2 | udata4 | udata8 | sdata2 | sdata4 | sdata8 => cases hword

end Bytes

/-! ## Addresses -/

/-- How far an address is from a position, as a number of eight octets with a sign. -/
def displacement (position : Int) (target : Nat) : Int := (target - position).bmod (2 ^ 64)

/-- Every address has a displacement that can be written, from every position. -/
theorem displacement_inRange (position : Int) (target : Nat) (addressSize : Int) :
    ValueFormat.sdata8.InRange addressSize (displacement position target) := by
  have hlow := Int.le_bmod (x := target - position) (m := 2 ^ 64) (by decide)
  have hhigh := Int.bmod_lt (x := target - position) (m := 2 ^ 64) (by decide)
  show -2 ^ (8 * 8 - 1) ≤ _ ∧ _ < 2 ^ (8 * 8 - 1)
  rw [displacement]
  omega

/-- A displacement leads from its position to its address. -/
theorem add_displacement (position : Int) {target : Nat} (h : target < 2 ^ 64) :
    ((position + displacement position target) % addressCount).toNat = target := by
  have hcount : addressCount = (2 ^ 64 : Nat) := by decide
  have hsum : position + (target - position) = target := by omega
  rw [displacement, hcount, Int.add_emod, Int.bmod_emod, ← Int.add_emod, hsum]
  omega

namespace Bytes

variable {d : Bytes} {off next : Nat}

theorem readUnsigned_lt {width n : Nat} (h : d.readUnsigned width off = .ok (n, next)) :
    n < 1 <<< (8 * width) := by
  unfold readUnsigned at h
  split at h
  · next hsize =>
    cases h
    exact le_lt hsize
  · cases h

/-- Whatever is read is one of the addresses there are. -/
theorem readPointer_lt {b : PointerBase} {encoding : Int} {address : Nat}
    (h : d.readPointer b encoding off = .ok (address, next)) : address < 2 ^ 64 := by
  rw [readPointer_eq] at h
  cases hread : d.readAddress b encoding off with
  | error cause =>
    rw [hread] at h
    cases h
  | ok p =>
    rw [hread] at h
    cases h
    rcases readAddress_cases hread with ⟨n, hn, haligned⟩ | ⟨a, value, -, hresolved⟩
    · have hlt := readUnsigned_lt haligned
      have hwidth : 1 <<< (8 * addressWidth b.addressSize) ≤ 2 ^ 64 := by
        unfold addressWidth
        split <;> decide
      omega
    · have hlt := Int.emod_lt_of_pos (b.resolve off a + value) (show 0 < addressCount by decide)
      rw [← hresolved, addressCount] at hlt
      omega

/-- Encoded pointers stand for the address that was written. A number in the range of its format
is read from its octets, whatever stands around them, and added modulo the number of addresses to
zero, to the address of its own octets, or to that of the data, which is the section's if there is
none. All addresses are reached from all positions by eight octets with a sign, and whatever is read
of any octets is an address. -/
theorem readPointer_resolves (d : Bytes) (sectionAddress : Int) (dataAddress : Option Int)
    (addressSize : Int) (off : Nat) :
    (∀ (f : ValueFormat) (v : Int) (spare : Nat), f.InRange addressSize v →
      d.Holds off (f.octets addressSize v spare) →
      ∃ next, next = off + (f.octets addressSize v spare).length ∧
        d.readPointer ⟨sectionAddress, dataAddress, addressSize⟩ f.code off =
          .ok ((v % 2 ^ 64).toNat, next) ∧
        d.readPointer ⟨sectionAddress, dataAddress, addressSize⟩ (0x10 + f.code : Nat) off =
          .ok (((sectionAddress + off + v) % 2 ^ 64).toNat, next) ∧
        d.readPointer ⟨sectionAddress, dataAddress, addressSize⟩ (0x30 + f.code : Nat) off =
          .ok (((dataAddress.getD sectionAddress + v) % 2 ^ 64).toNat, next)) ∧
    (∀ target < 2 ^ 64,
      let v := displacement (sectionAddress + off) target
      ValueFormat.sdata8.InRange addressSize v ∧
        (d.Holds off (ValueFormat.sdata8.octets addressSize v 0) →
          d.readPointer ⟨sectionAddress, dataAddress, addressSize⟩ 0x1c off =
            .ok (target, off + 8))) ∧
    ∀ (encoding : Int) (address next : Nat),
      d.readPointer ⟨sectionAddress, dataAddress, addressSize⟩ encoding off = .ok (address, next) →
        address < 2 ^ 64 := by
  have hcount : addressCount = 2 ^ 64 := by decide
  have hread {f : ValueFormat} {v : Int} {spare : Nat} (a : Application)
      (hv : f.InRange addressSize v) (h : d.Holds off (f.octets addressSize v spare)) :=
    AddressForm.readPointer_of_readValue ⟨a, f⟩ ⟨sectionAddress, dataAddress, addressSize⟩
      (readValue_eq_ok_iff.2 ⟨hv, spare, h, rfl⟩)
  refine ⟨fun f v spare hv h => ⟨_, rfl, ?_, ?_, ?_⟩, fun target htarget => ⟨?_, fun h => ?_⟩,
    fun encoding address next => readPointer_lt⟩
  · simpa [AddressForm.code, Application.code, PointerBase.resolve, hcount] using
      hread .absolute hv h
  · exact hread .fieldRelative hv h
  · exact hread .dataRelative hv h
  · exact displacement_inRange _ _ _
  · have hresolved := hread .fieldRelative (displacement_inRange _ _ _) h
    have hlength : (ValueFormat.sdata8.octets addressSize
        (displacement (sectionAddress + off) target) 0).length = 8 := length_littleEndian _ _
    have htarget' := add_displacement (sectionAddress + off) htarget
    rw [PointerBase.resolve, htarget', hlength] at hresolved
    exact hresolved

/-- A number below zero from a base of its own, and an address below that of its octets. -/
theorem readPointer_resolves_below :
    let d : Bytes := #[0x07, 0xff, 0xfe, 0x7f, 0xfc, 0xff, 0xff, 0xff, 0xff, 0xff, 0xff, 0xff]
    (ValueFormat.sleb128.InRange 8 (-129) ∧
      d.Holds 1 (ValueFormat.sleb128.octets 8 (-129) 1) ∧
      d.readPointer ⟨0x1000, some 0x80, 8⟩ 0x39 1 = .ok (0xffffffffffffffff, 4)) ∧
    d.Holds 4 (ValueFormat.sdata8.octets 8 (displacement (0x1000 + (4 : Nat)) 0x1000) 0) ∧
      d.readPointer ⟨0x1000, some 0x80, 8⟩ 0x1c 4 = .ok (0x1000, 12) := by
  intro d
  have hoctets : ValueFormat.sleb128.octets 8 (-129) 1 = [0xff, 0xfe, 0x7f] := by
    rw [ValueFormat.octets, ValueFormat.word?, ValueFormat.isSigned,
      Leb128.encoding_of_not_isShort (by decide), Leb128.encoding_of_isShort (by decide)]
    decide
  have hrange : ValueFormat.sleb128.InRange 8 (-129) := .inl rfl
  have hholds : d.Holds 1 (ValueFormat.sleb128.octets 8 (-129) 1) := by
    rw [hoctets]
    decide
  have hholds' :
      d.Holds 4 (ValueFormat.sdata8.octets 8 (displacement (0x1000 + (4 : Nat)) 0x1000) 0) := by
    decide
  obtain ⟨hread, -, -⟩ := readPointer_resolves d 0x1000 (some 0x80) 8 1
  obtain ⟨-, hreach, -⟩ := readPointer_resolves d 0x1000 (some 0x80) 8 4
  obtain ⟨next, hnext, -, -, hdata⟩ := hread .sleb128 (-129) 1 hrange hholds
  rw [hoctets] at hnext
  subst hnext
  exact ⟨⟨hrange, hholds, hdata⟩, hholds', (hreach 0x1000 (by decide)).2 hholds'⟩

end Bytes

end FunctionBounds
