import FunctionBounds.Field.Pointer

/-!
# Written fields

How the fields of call-frame data are written, and that each reader gives back what was written,
whatever stands around it.

- **Octets in place** (`Bytes.Holds d off bs`): `bs` stands at `off`. A field after a field stands
  where that one ends (`Holds.left`, `Holds.right`).
- **Words and LEB128** (`littleEndian`, `Leb128.octets`): numbers modulo what their octets can tell
  apart. LEB128 numbers may be longer than need be.
- **Value formats** (`Numeral`): a number in any of the formats, and which numbers a format can tell
  (`Numeral.Fits`). `Numeral.read` reads it, `AddressForm.read` resolves it to an address.
-/

namespace FunctionBounds

/-! ## Octets in place -/

namespace Bytes

variable {d : Bytes} {off : Nat} {a b : List UInt8}

/-- The octets `bs` stand at `off`. -/
def Holds (d : Bytes) (off : Nat) (bs : List UInt8) : Prop :=
  ∃ before after, d.toList = before ++ (bs ++ after) ∧ before.length = off

theorem Holds.left (h : d.Holds off (a ++ b)) : d.Holds off a := by
  obtain ⟨before, after, hd, hl⟩ := h
  exact ⟨before, b ++ after, by rw [hd, List.append_assoc], hl⟩

theorem Holds.right (h : d.Holds off (a ++ b)) : d.Holds (off + a.length) b := by
  obtain ⟨before, after, hd, hl⟩ := h
  exact ⟨before ++ a, after, by rw [hd]; simp, by rw [List.length_append, hl]⟩

theorem Holds.le_size (h : d.Holds off a) : off + a.length ≤ d.size := by
  obtain ⟨before, after, hd, hl⟩ := h
  rw [← Array.length_toList, hd]
  simp only [List.length_append]
  omega

theorem Holds.slice (h : d.Holds off a) {n : Nat} (hn : n = a.length) :
    (d.slice off n).toList = a := by
  obtain ⟨before, after, hd, rfl⟩ := h
  rw [Bytes.slice, Array.toList_extract, hd, hn, List.extract_eq_take_drop, List.drop_left,
    Nat.add_sub_cancel_left, List.take_left]

theorem holds_iff :
    d.Holds off a ↔ off + a.length ≤ d.size ∧ (d.slice off a.length).toList = a := by
  constructor
  · exact fun h => ⟨h.le_size, h.slice rfl⟩
  · rintro ⟨hle, ha⟩
    rw [slice, Array.toList_extract, List.extract_eq_take_drop, Nat.add_sub_cancel_left] at ha
    refine ⟨d.toList.take off, d.toList.drop (off + a.length), ?_, ?_⟩
    · have hrest : a ++ d.toList.drop (off + a.length) = d.toList.drop off := by
        rw [← List.drop_drop]
        conv => lhs; arg 1; rw [← ha]
        exact List.take_append_drop a.length _
      rw [hrest, List.take_append_drop]
    · rw [List.length_take, Array.length_toList]
      omega

instance : Decidable (d.Holds off a) := decidable_of_iff _ holds_iff.symm

theorem Holds.get {x : UInt8} (h : d.Holds off (x :: a)) :
    ∃ hlt : off < d.size, d[off] = x := by
  have hle := h.le_size
  rw [List.length_cons] at hle
  obtain ⟨before, after, hd, rfl⟩ := h
  refine ⟨by omega, ?_⟩
  have hget : d.toList[before.length]? = some x := by
    rw [hd, List.getElem?_append_right (Nat.le_refl _), Nat.sub_self]
    rfl
  rw [Array.getElem?_toList] at hget
  exact (Array.getElem?_eq_some_iff.1 hget).2

theorem Holds.tail {x : UInt8} (h : d.Holds off (x :: a)) : d.Holds (off + 1) a :=
  Holds.right (a := [x]) h

theorem holds_cons_iff {x : UInt8} :
    d.Holds off (x :: a) ↔ d[off]? = some x ∧ d.Holds (off + 1) a := by
  refine ⟨fun h => ⟨Array.getElem?_eq_some_iff.2 h.get, h.tail⟩, ?_⟩
  rintro ⟨hx, before, after, hd, hl⟩
  have hlast : before.drop off = [x] := by
    rw [← Array.getElem?_toList, hd, List.getElem?_append_left (by omega)] at hx
    obtain ⟨hlt, rfl⟩ := List.getElem?_eq_some_iff.1 hx
    rw [List.drop_eq_getElem_cons hlt, List.drop_of_length_le (by omega)]
  have hbefore : before = before.take off ++ [x] := by
    rw [← hlast, List.take_append_drop]
  refine ⟨before.take off, after, ?_, by rw [List.length_take]; omega⟩
  rw [hd, hbefore, List.append_assoc, ← hbefore]
  rfl

theorem holds_append_iff : d.Holds off (a ++ b) ↔ d.Holds off a ∧ d.Holds (off + a.length) b := by
  refine ⟨fun h => ⟨h.left, h.right⟩, ?_⟩
  rintro ⟨ha, hb⟩
  induction a generalizing off with
  | nil => exact hb
  | cons x a ih =>
    obtain ⟨hx, htail⟩ := holds_cons_iff.1 ha
    rw [List.length_cons, ← Nat.succ_add_eq_add_succ] at hb
    exact holds_cons_iff.2 ⟨hx, ih htail hb⟩

/-- What stands at the start of a file. -/
theorem holds_zero_iff : d.Holds 0 a ↔ a <+: d.toList := by
  constructor
  · rintro ⟨before, after, hd, hl⟩
    rw [List.length_eq_zero_iff.1 hl] at hd
    exact ⟨after, hd.symm⟩
  · rintro ⟨after, hd⟩
    exact ⟨[], after, hd.symm, rfl⟩

theorem holds_nil (h : off ≤ d.size) : d.Holds off [] :=
  ⟨d.toList.take off, d.toList.drop off, (List.take_append_drop off d.toList).symm,
    by rw [List.length_take, Array.length_toList]; omega⟩

/-- Octets at the start of a file. -/
theorem holds_toArray (a b : List UInt8) : Holds (a ++ b).toArray 0 a :=
  ⟨[], b, rfl, rfl⟩

theorem Holds.indexFrom? {p : UInt8 → Bool} {x : UInt8} (h : d.Holds off (a ++ [x]))
    (ha : ∀ y ∈ a, p y = false) (hx : p x = true) :
    d.indexFrom? p off = some (off + a.length) := by
  induction a generalizing off with
  | nil =>
    obtain ⟨hlt, hget⟩ := h.get
    rw [Bytes.indexFrom?, dif_pos hlt, hget, if_pos hx]
    rfl
  | cons y a ih =>
    obtain ⟨hlt, hget⟩ := h.get
    have hy := ha y (by simp)
    rw [Bytes.indexFrom?, dif_pos hlt, hget, hy, if_neg (by simp), ih h.tail fun z hz =>
      ha z (by simp [hz])]
    simp only [List.length_cons, Option.some.injEq]
    omega

/-- What a reader gives at octets that it understands. -/
theorem readByte_of_holds {x : UInt8} (h : d.Holds off [x]) :
    d.readByte off = .ok (x.toNat, off + 1) := by
  obtain ⟨hlt, hget⟩ := h.get
  rw [readByte, dif_pos hlt, hget]

theorem readString_of_holds (h : d.Holds off (a ++ [0])) (ha : ∀ x ∈ a, x ≠ 0) :
    d.readString off = .ok (a.toArray, off + (a.length + 1)) := by
  have hi : d.indexFrom? (· == 0) off = some (off + a.length) :=
    h.indexFrom? (by simpa using ha) rfl
  have hs : d.slice off a.length = a.toArray :=
    Array.toArray_toList.symm.trans (congrArg List.toArray (h.left.slice rfl))
  rw [readString, hi]
  simp only [Except.ok.injEq, Prod.mk.injEq]
  exact ⟨hs, by omega⟩

end Bytes

/-! ## Words -/

/-- The `width` octets of a number, least significant first. What they cannot hold is lost. -/
def littleEndian : Nat → Nat → List UInt8
  | 0, _ => []
  | width + 1, n => .ofNat n :: littleEndian width (n / 256)

@[simp] theorem length_littleEndian (width n : Nat) : (littleEndian width n).length = width := by
  induction width generalizing n with
  | zero => rfl
  | succ width ih => rw [littleEndian, List.length_cons, ih]

theorem ofLittleEndian_littleEndian (width n : Nat) :
    ofLittleEndian (littleEndian width n) = n % (1 <<< (8 * width)) := by
  induction width generalizing n with
  | zero => simp [littleEndian, ofLittleEndian, Nat.mod_one]
  | succ width ih =>
    have hb : (UInt8.ofNat n).toNat = n % 256 := rfl
    have hm : 1 <<< (8 * (width + 1)) = 256 * (1 <<< (8 * width)) := by
      rw [Nat.mul_succ, Nat.shiftLeft_add, Nat.shiftLeft_eq _ 8, Nat.mul_comm]
    rw [littleEndian, ofLittleEndian, ih, hb, hm, Nat.mod_mul]

/-- The octets of a word are those of its number. -/
theorem littleEndian_ofLittleEndian (bs : List UInt8) :
    littleEndian bs.length (ofLittleEndian bs) = bs := by
  induction bs with
  | nil => rfl
  | cons b bs ih =>
    have hlt := b.toNat_lt
    have hlow : UInt8.ofNat (b.toNat + 256 * ofLittleEndian bs) = b := by
      refine UInt8.toNat_inj.1 ?_
      show (b.toNat + 256 * ofLittleEndian bs) % 256 = b.toNat
      omega
    have hrest : (b.toNat + 256 * ofLittleEndian bs) / 256 = ofLittleEndian bs := by omega
    rw [List.length_cons, ofLittleEndian, littleEndian, hlow, hrest, ih]

theorem ofLittleEndian_inj {a b : List UInt8} (hlength : a.length = b.length)
    (h : ofLittleEndian a = ofLittleEndian b) : a = b := by
  rw [← littleEndian_ofLittleEndian a, ← littleEndian_ofLittleEndian b, hlength, h]

namespace Bytes

variable {d : Bytes} {off width n : Nat}

theorem toList_slice_append (d : Bytes) (off a b : Nat) :
    (d.slice off a).toList ++ (d.slice (off + a) b).toList = (d.slice off (a + b)).toList := by
  rw [slice, slice, slice, ← Array.toList_append, Array.extract_append_extract,
    Nat.min_eq_left (by omega), Nat.max_eq_right (by omega), Nat.add_assoc]

theorem littleEndian_le (h : off + width ≤ d.size) :
    littleEndian width (d.le off width) = (d.slice off width).toList := by
  have hlength : (d.slice off width).toList.length = width := by
    rw [Array.length_toList, size_slice h]
  have hword := littleEndian_ofLittleEndian (d.slice off width).toList
  rwa [hlength] at hword

theorem Holds.le (h : d.Holds off (littleEndian width n)) :
    d.le off width = n % (1 <<< (8 * width)) := by
  rw [Bytes.le, h.slice (length_littleEndian width n).symm, ofLittleEndian_littleEndian]

theorem Holds.le_of_lt (h : d.Holds off (littleEndian width n)) (hn : n < 1 <<< (8 * width)) :
    d.le off width = n := by
  rw [h.le, Nat.mod_eq_of_lt hn]

theorem readUnsigned_of_holds (h : d.Holds off (littleEndian width n)) :
    d.readUnsigned width off = .ok (n % (1 <<< (8 * width)), off + width) := by
  have hle := h.le_size
  rw [length_littleEndian] at hle
  rw [readUnsigned, if_pos hle, h.le]

end Bytes

/-! ## LEB128 -/

namespace Leb128

/-- A number in `more + 1` groups of seven bits. What they cannot hold is lost. -/
def octets : Nat → Nat → List UInt8
  | 0, n => [.ofNat (n % 128)]
  | more + 1, n => .ofNat (n % 128 + 128) :: octets more (n / 128)

@[simp] theorem length_octets (more n : Nat) : (octets more n).length = more + 1 := by
  induction more generalizing n with
  | zero => rfl
  | succ more ih => rw [octets, List.length_cons, ih]

theorem unsigned_octets (more n : Nat) :
    unsigned (octets more n) = n % (1 <<< (7 * (more + 1))) := by
  induction more generalizing n with
  | zero =>
    have hb : (UInt8.ofNat (n % 128)).toNat = n % 128 % 256 := rfl
    have hm : 1 <<< (7 * (0 + 1)) = 128 := rfl
    rw [octets, unsigned_cons, unsigned_nil, hb, hm]
    omega
  | succ more ih =>
    have hb : (UInt8.ofNat (n % 128 + 128)).toNat = (n % 128 + 128) % 256 := rfl
    have hm : 1 <<< (7 * (more + 1 + 1)) = 128 * (1 <<< (7 * (more + 1))) := by
      rw [Nat.mul_succ, Nat.shiftLeft_add, Nat.shiftLeft_eq _ 7, Nat.mul_comm]
    rw [octets, unsigned_cons, ih, hb, hm, Nat.mod_mul]
    omega

/-- The groups of a number end with the only one whose bit 7 is clear. -/
theorem octets_eq (more n : Nat) :
    ∃ init last, octets more n = init ++ [last] ∧ init.length = more ∧
      (∀ b ∈ init, isLast b = false) ∧ isLast last = true := by
  induction more generalizing n with
  | zero =>
    refine ⟨[], _, rfl, rfl, by simp, ?_⟩
    have hlt := Nat.mod_lt n (by decide : 0 < 128)
    simp only [isLast, decide_eq_true_eq, UInt8.lt_iff_toNat_lt]
    show n % 128 % 256 < 128
    omega
  | succ more ih =>
    obtain ⟨init, last, ho, hl, hi, hlast⟩ := ih (n / 128)
    refine ⟨.ofNat (n % 128 + 128) :: init, last, by rw [octets, ho]; rfl, by simp [hl], ?_, hlast⟩
    intro b hb
    rcases List.mem_cons.1 hb with rfl | hb
    · simp only [isLast, decide_eq_false_iff_not, UInt8.lt_iff_toNat_lt]
      show ¬ (n % 128 + 128) % 256 < 128
      omega
    · exact hi b hb

end Leb128

namespace Bytes

variable {d : Bytes} {off more n : Nat}

theorem lebGroups?_of_holds (h : d.Holds off (Leb128.octets more n)) :
    d.lebGroups? off = some (Leb128.octets more n, off + (more + 1)) := by
  obtain ⟨init, last, ho, hl, hi, hlast⟩ := Leb128.octets_eq more n
  have hs := h.slice (Leb128.length_octets more n).symm
  rw [ho] at h
  rw [lebGroups?, h.indexFrom? hi hlast, hl, Option.map_some]
  simp only [Option.some.injEq, Prod.mk.injEq]
  exact ⟨hs, by omega⟩

theorem readUnsignedLeb_of_holds (h : d.Holds off (Leb128.octets more n)) :
    d.readUnsignedLeb off = .ok (n % (1 <<< (7 * (more + 1))), off + (more + 1)) := by
  rw [readUnsignedLeb, lebGroups?_of_holds h]
  simp only [Leb128.unsigned_octets]

theorem readSignedLeb_of_holds (h : d.Holds off (Leb128.octets more n)) :
    d.readSignedLeb off = .ok ((n : Int).bmod (1 <<< (7 * (more + 1))), off + (more + 1)) := by
  rw [readSignedLeb, lebGroups?_of_holds h]
  simp only [Leb128.signed, Leb128.unsigned_octets, Leb128.length_octets, Int.natCast_emod,
    Int.emod_bmod]

end Bytes

/-! ## Value formats -/

/-- A number as it is written. In the LEB128 formats `more` groups stand before the last one. -/
structure Numeral where
  value : Int
  more : Nat := 0
  deriving DecidableEq, Repr

namespace ValueFormat

/-- The word of a format whose width is fixed. -/
def word? (f : ValueFormat) (addressSize : Int) : Option Word :=
  match f with
  | address => some ⟨addressWidth addressSize, false⟩
  | udata2 => some .u16
  | udata4 => some .u32
  | udata8 => some .u64
  | sdata2 => some .i16
  | sdata4 => some .i32
  | sdata8 => some .i64
  | uleb128 | sleb128 => none

/-- Whether numbers below zero can be written. -/
def isSigned : ValueFormat → Bool
  | sleb128 | sdata2 | sdata4 | sdata8 => true
  | address | uleb128 | udata2 | udata4 | udata8 => false

theorem signed_of_word? {f : ValueFormat} {addressSize : Int} {w : Word}
    (h : f.word? addressSize = some w) : w.signed = f.isSigned := by
  cases f <;> cases h <;> rfl

theorem code_lt (f : ValueFormat) : f.code < 16 := by
  cases f <;> decide

/-- Bits 4 and above of an encoding say nothing about the format. -/
theorem ofEncoding?_of_code (high : Nat) (f : ValueFormat) :
    ofEncoding? ((high * 16 + f.code : Nat) : Int) = some f := by
  have hlt := f.code_lt
  have hmod : ((high * 16 + f.code : Nat) : Int) % 16 = f.code := by omega
  rw [ofEncoding?, hmod]
  cases f <;> decide

/-- How many numbers can be told apart. -/
def count (f : ValueFormat) (addressSize : Int) (more : Nat) : Nat :=
  match f.word? addressSize with
  | some w => 1 <<< (8 * w.width)
  | none => 1 <<< (7 * (more + 1))

theorem count_pos (f : ValueFormat) (addressSize : Int) (more : Nat) :
    0 < f.count addressSize more := by
  unfold count
  split <;> exact Nat.one_shiftLeft _ ▸ Nat.two_pow_pos _

end ValueFormat

namespace Numeral

/-- The octets of a number. One that does not fit is written modulo what can be told apart. -/
def octets (x : Numeral) (f : ValueFormat) (addressSize : Int) : List UInt8 :=
  let n := (x.value % f.count addressSize x.more).toNat
  match f.word? addressSize with
  | some w => littleEndian w.width n
  | none => Leb128.octets x.more n

/-- A number is in the range of its format: from zero on, or as many below zero as from there on. -/
def Fits (x : Numeral) (f : ValueFormat) (addressSize : Int) : Prop :=
  if f.isSigned then
    -(f.count addressSize x.more : Int) ≤ x.value * 2 ∧ x.value * 2 < f.count addressSize x.more
  else 0 ≤ x.value ∧ x.value < f.count addressSize x.more

instance (x : Numeral) (f : ValueFormat) (addressSize : Int) :
    Decidable (x.Fits f addressSize) := by
  unfold Fits
  infer_instance

/-- What a format with a sign or without one reads from the octets of a number in its range. -/
private theorem residue {v : Int} {m : Nat} {signed : Bool}
    (h : if signed then -(m : Int) ≤ v * 2 ∧ v * 2 < m else 0 ≤ v ∧ v < m) :
    (if signed then (((v % m).toNat % m : Nat) : Int).bmod m else ((v % m).toNat % m : Nat)) =
      v := by
  cases signed with
  | false =>
    obtain ⟨h₀, h₁⟩ : 0 ≤ v ∧ v < m := h
    rw [if_neg (by decide), Int.emod_eq_of_lt h₀ h₁, Nat.mod_eq_of_lt (by omega),
      Int.toNat_of_nonneg h₀]
  | true =>
    obtain ⟨h₀, h₁⟩ : -(m : Int) ≤ v * 2 ∧ v * 2 < m := h
    have hpos : (m : Int) ≠ 0 := by omega
    rw [if_pos rfl, Int.natCast_emod, Int.toNat_of_nonneg (Int.emod_nonneg v hpos),
      Int.emod_bmod, Int.emod_bmod]
    exact Int.bmod_eq_of_le_mul_two h₀ h₁

end Numeral

namespace Bytes

variable {d : Bytes} {off : Nat}

theorem readValue_of_word? {f : ValueFormat} {addressSize : Int} {w : Word}
    (h : f.word? addressSize = some w) : d.readValue f addressSize off = d.readWord w off := by
  cases f <;> cases h <;> rfl

theorem readWord_of_holds {w : Word} {n : Nat} (h : d.Holds off (littleEndian w.width n)) :
    d.readWord w off = .ok (w.interpret (n % (1 <<< (8 * w.width))), off + w.width) := by
  rw [readWord, readUnsigned_of_holds h]
  rfl

end Bytes

namespace Numeral

variable {d : Bytes} {off : Nat} {x : Numeral} {f : ValueFormat} {addressSize : Int}

/-- A reader gives the number modulo what can be told apart, and the offset after its octets. -/
theorem read_residue (h : d.Holds off (x.octets f addressSize)) :
    d.readValue f addressSize off =
      let m := f.count addressSize x.more
      let n := (x.value % m).toNat % m
      .ok (if f.isSigned then (n : Int).bmod m else n, off + (x.octets f addressSize).length) := by
  cases hw : f.word? addressSize with
  | some w =>
    simp only [octets, ValueFormat.count, hw] at h ⊢
    rw [Bytes.readValue_of_word? hw, Bytes.readWord_of_holds h, Word.interpret,
      ValueFormat.signed_of_word? hw, length_littleEndian]
  | none =>
    simp only [octets, ValueFormat.count, hw] at h ⊢
    rw [Leb128.length_octets]
    cases f with
    | uleb128 =>
      simp only [Bytes.readValue, Bytes.readUnsignedLeb_of_holds h]
      rfl
    | sleb128 =>
      simp only [Bytes.readValue, Bytes.readSignedLeb_of_holds h, Int.natCast_emod, Int.emod_bmod]
      rfl
    | address | udata2 | udata4 | udata8 | sdata2 | sdata4 | sdata8 => cases hw

/-- A format with a sign gives the number nearest to zero that has the octets that were written. -/
theorem read_signed (h : d.Holds off (x.octets f addressSize)) (hsigned : f.isSigned = true) :
    d.readValue f addressSize off =
      .ok (x.value.bmod (f.count addressSize x.more),
        off + (x.octets f addressSize).length) := by
  have hpos := f.count_pos addressSize x.more
  rw [read_residue h]
  simp only [hsigned, if_true]
  rw [Int.natCast_emod, Int.toNat_of_nonneg (Int.emod_nonneg _ (by omega)), Int.emod_bmod,
    Int.emod_bmod]

/-- A number that does not fit is read as well, as some other number. -/
theorem read_any (h : d.Holds off (x.octets f addressSize)) :
    ∃ v, d.readValue f addressSize off = .ok (v, off + (x.octets f addressSize).length) :=
  ⟨_, read_residue h⟩

/-- A reader gives the number that was written, and the offset after its octets. -/
theorem read (h : d.Holds off (x.octets f addressSize)) (hx : x.Fits f addressSize) :
    d.readValue f addressSize off =
      .ok (x.value, off + (x.octets f addressSize).length) := by
  rw [read_residue h]
  exact congrArg Except.ok (Prod.ext (residue hx) rfl)

end Numeral

/-! ## Addresses -/

/-- How addresses are written: what they are relative to, and the format of the difference. -/
structure AddressForm where
  application : Application
  format : ValueFormat
  deriving DecidableEq, Repr

namespace AddressForm

/-- The encoding that says so. -/
def code (f : AddressForm) : Nat := f.application.code + f.format.code

/-- Every form has an encoding of its own, which a reader can resolve. -/
theorem code_resolves (f : AddressForm) :
    (f.code : Int) ≠ Encoding.omitted ∧ Encoding.isIndirect f.code = false ∧
      Encoding.application f.code ≠ Encoding.aligned ∧
      ValueFormat.ofEncoding? f.code = some f.format ∧
      Encoding.application? f.code = some f.application := by
  obtain ⟨a, v⟩ := f
  cases a <;> cases v <;> decide

theorem code_lt (f : AddressForm) : f.code < 0x80 := by
  obtain ⟨a, v⟩ := f
  cases a <;> cases v <;> decide

/-- A number that is read in the format of a form is resolved to an address. -/
theorem readPointer_of_readValue {d : Bytes} {off next : Nat} {v : Int} (f : AddressForm)
    (b : PointerBase) (h : d.readValue f.format b.addressSize off = .ok (v, next)) :
    d.readPointer b f.code off =
      .ok (((b.resolve off f.application + v) % addressCount).toNat, next) := by
  obtain ⟨homit, hdirect, halign, hformat, happ⟩ := f.code_resolves
  rw [Bytes.readPointer, if_neg homit, hdirect, if_neg (by simp), if_neg halign,
    Bytes.readEncodedValue, hformat, happ]
  simp only [h]
  rfl

/-- A reader resolves the number that was written to the address that it stands for. -/
theorem read {d : Bytes} {off : Nat} {x : Numeral} (f : AddressForm) (b : PointerBase)
    (h : d.Holds off (x.octets f.format b.addressSize)) (hx : x.Fits f.format b.addressSize) :
    d.readPointer b f.code off =
      .ok (((b.resolve off f.application + x.value) % addressCount).toNat,
        off + (x.octets f.format b.addressSize).length) :=
  f.readPointer_of_readValue b (x.read h hx)

end AddressForm

end FunctionBounds
