import FunctionBounds.Proofs.Container.Elf
import FunctionBounds.Proofs.Field.Written

/-!
# Packed ELF64 headers

- **Numbers one after the other** (`packed`, `Bytes.Stores`): numbers that are packed at an offset
  are stored there (`Bytes.Holds.stores`), and the octets of numbers that are stored are those
  numbers packed (`Bytes.Stores.packed_eq`).
- **Headers** (`Elf.Header.octets`): the identification and the thirteen numbers of the layout. A
  header consists of what is stored at the start of the file (`Elf.Header.fields_eq_iff`).
- **Identification** (`Elf.Header.identified_iff`): the six octets that a header is accepted by.

`Elf.Header.decode_inverts` is about any header and about any file.
-/

namespace FunctionBounds

/-! ## Numbers one after the other -/

/-- The octets of numbers, each with its width, one after the other. -/
def packed (fs : List (Nat × Nat)) : List UInt8 := fs.flatMap fun f => littleEndian f.1 f.2

theorem packed_cons (f : Nat × Nat) (fs : List (Nat × Nat)) :
    packed (f :: fs) = littleEndian f.1 f.2 ++ packed fs := rfl

/-- How many octets numbers of these widths take. -/
def packedSize (fs : List (Nat × Nat)) : Nat := (fs.map Prod.fst).foldr (· + ·) 0

@[simp] theorem packedSize_cons (f : Nat × Nat) (fs : List (Nat × Nat)) :
    packedSize (f :: fs) = f.1 + packedSize fs := rfl

@[simp] theorem length_packed (fs : List (Nat × Nat)) : (packed fs).length = packedSize fs := by
  induction fs with
  | nil => rfl
  | cons f fs ih =>
    rw [packed_cons, List.length_append, ih, length_littleEndian, packedSize_cons]

namespace Bytes

variable {d : Bytes} {off width n : Nat} {fs : List (Nat × Nat)}

/-- The numbers stand one after the other from `off` on, each in as many octets as its width. -/
def Stores (d : Bytes) : Nat → List (Nat × Nat) → Prop
  | _, [] => True
  | off, (width, n) :: fs => d.le off width = n ∧ Stores d (off + width) fs

theorem le_eq_iff (hsize : off + width ≤ d.size) (hn : n < 1 <<< (8 * width)) :
    d.le off width = n ↔ d.Holds off (littleEndian width n) := by
  constructor
  · rintro rfl
    refine holds_iff.2 ⟨by rwa [length_littleEndian], ?_⟩
    rw [length_littleEndian, littleEndian_le hsize]
  · exact fun h => h.le_of_lt hn

/-- By induction on the numbers that are left. -/
theorem Holds.stores (h : d.Holds off (packed fs)) (hfit : ∀ f ∈ fs, f.2 < 1 <<< (8 * f.1)) :
    d.Stores off fs := by
  induction fs generalizing off with
  | nil => trivial
  | cons f fs ih =>
    rw [packed_cons] at h
    have hrest := h.right
    rw [length_littleEndian] at hrest
    exact ⟨h.left.le_of_lt (hfit f List.mem_cons_self),
      ih hrest fun g hg => hfit g (List.mem_cons_of_mem f hg)⟩

/-- By induction on the numbers that are left. -/
theorem Stores.packed_eq (h : d.Stores off fs) (hsize : off + packedSize fs ≤ d.size) :
    packed fs = (d.slice off (packedSize fs)).toList := by
  induction fs generalizing off with
  | nil => simp [packed, packedSize, slice]
  | cons f fs ih =>
    obtain ⟨hnumber, hrest⟩ := h
    rw [packedSize_cons] at hsize ⊢
    rw [packed_cons, ih hrest (by omega), ← hnumber, littleEndian_le (by omega),
      toList_slice_append]

end Bytes

/-! ## Headers -/

namespace Elf.Header

variable {d : Bytes} {h : Header}

/-- The numbers of a header with their widths, in the order in which they stand from offset 16
on. -/
def numbers (h : Header) : List (Nat × Nat) := [
  (2, h.type.toNat), (2, h.machine.toNat), (4, h.version.toNat), (8, h.entry.toNat),
  (8, h.segmentOffset.toNat), (8, h.sectionOffset.toNat), (4, h.flags.toNat),
  (2, h.headerSize.toNat), (2, h.segmentEntrySize.toNat), (2, h.segmentCount.toNat),
  (2, h.sectionEntrySize.toNat), (2, h.sectionCount.toNat), (2, h.nameSection.toNat)]

/-- The octets of a header. -/
def octets (h : Header) : List UInt8 := h.ident ++ packed h.numbers

theorem packedSize_numbers (h : Header) : packedSize h.numbers = 48 := rfl

theorem length_octets (hident : h.ident.length = 16) : h.octets.length = size := by
  rw [octets, List.length_append, length_packed, packedSize_numbers, hident]
  rfl

/-- Every number of a header fits into its octets. -/
theorem numbers_fit (h : Header) : ∀ f ∈ h.numbers, f.2 < 1 <<< (8 * f.1) := by
  simp only [numbers, List.forall_mem_cons]
  exact ⟨h.type.toNat_lt, h.machine.toNat_lt, h.version.toNat_lt, h.entry.toNat_lt,
    h.segmentOffset.toNat_lt, h.sectionOffset.toNat_lt, h.flags.toNat_lt, h.headerSize.toNat_lt,
    h.segmentEntrySize.toNat_lt, h.segmentCount.toNat_lt, h.sectionEntrySize.toNat_lt,
    h.sectionCount.toNat_lt, h.nameSection.toNat_lt, nofun⟩

theorem stores_fields (d : Bytes) : d.Stores 16 (fields d).numbers := by
  simp only [Bytes.Stores, numbers, fields, Bytes.toNat_le_two, Bytes.toNat_le_four,
    Bytes.toNat_le_eight, and_self]

/-- A header is the one that is read from a file if its identification and its numbers stand
there. -/
theorem fields_eq_iff : fields d = h ↔ (d.slice 0 16).toList = h.ident ∧ d.Stores 16 h.numbers := by
  constructor
  · rintro rfl
    exact ⟨rfl, stores_fields d⟩
  · rintro ⟨hident, htype, hmachine, hversion, hentry, hsegmentOffset, hsectionOffset, hflags,
      hheaderSize, hsegmentEntrySize, hsegmentCount, hsectionEntrySize, hsectionCount,
      hnameSection, -⟩
    simp only [fields, hident, htype, hmachine, hversion, hentry, hsegmentOffset, hsectionOffset,
      hflags, hheaderSize, hsegmentEntrySize, hsegmentCount, hsectionEntrySize, hsectionCount,
      hnameSection, UInt16.ofNat_toNat, UInt32.ofNat_toNat, UInt64.ofNat_toNat]

theorem fields_of_holds (hident : h.ident.length = 16) (hoctets : d.Holds 0 h.octets) :
    fields d = h := by
  have hnumbers := hoctets.right
  rw [hident, Nat.zero_add] at hnumbers
  exact fields_eq_iff.2 ⟨hoctets.left.slice hident.symm, hnumbers.stores h.numbers_fit⟩

/-- Packing what is read from a file gives its first 64 octets. -/
theorem octets_fields (hsize : 64 ≤ d.size) : (fields d).octets = d.toList.take 64 := by
  have hnumbers := (stores_fields d).packed_eq (by rw [packedSize_numbers]; omega)
  rw [packedSize_numbers] at hnumbers
  have hident : (fields d).ident = (d.slice 0 16).toList := rfl
  rw [octets, hnumbers, hident, Bytes.toList_slice_append d 0 16 48, Bytes.slice,
    Array.toList_extract, List.extract_eq_take_drop]
  rfl

/-! ## Identification -/

/-- The octets that a little-endian ELF64 file starts with. -/
def identification : List UInt8 := Format.elfMagic ++ [2, 1]

theorem identified_iff (hsize : 64 ≤ d.size) :
    d.hasAt 0 Format.elfMagic ∧ d.le 4 1 = 2 ∧ d.le 5 1 = 1 ↔ d.Holds 0 identification := by
  have hmagic : d.hasAt 0 Format.elfMagic ↔ d.Holds 0 Format.elfMagic := by
    rw [Bytes.hasAt, beq_iff_eq, Bytes.holds_iff]
    exact (and_iff_right (show 0 + 4 ≤ d.size by omega)).symm
  have hclass : d.le 4 1 = 2 ↔ d.Holds 4 [2] := Bytes.le_eq_iff (by omega) (by decide)
  have horder : d.le 5 1 = 1 ↔ d.Holds 5 [1] := Bytes.le_eq_iff (by omega) (by decide)
  rw [hmagic, hclass, horder, identification, Bytes.holds_append_iff]
  exact and_congr_right fun _ => (Bytes.holds_append_iff (a := [2])).symm

/-- A header is decoded from a file exactly if its octets stand at the start and it says that the
file is a little-endian ELF64 file. -/
theorem decode_eq_ok_iff_octets :
    decode d = .ok h ↔
      h.ident.length = 16 ∧ identification <+: h.ident ∧ h.octets <+: d.toList := by
  constructor
  · intro hd
    obtain ⟨hsize, hmagic, hclass, horder, rfl⟩ := decode_eq_ok_iff.1 hd
    have hident : (fields d).ident = (d.slice 0 16).toList := rfl
    have hstart := ((identified_iff hsize).1 ⟨hmagic, hclass, horder⟩).slice (n := 6) rfl
    refine ⟨Bytes.size_slice (by omega), ?_, octets_fields hsize ▸ List.take_prefix 64 d.toList⟩
    rw [hident, ← Bytes.toList_slice_append d 0 6 10, hstart]
    exact List.prefix_append _ _
  · rintro ⟨hident, hstart, hoctets⟩
    have hholds := Bytes.holds_zero_iff.2 hoctets
    have hsize := hholds.le_size
    rw [length_octets hident, size, Nat.zero_add] at hsize
    have hidentified : d.Holds 0 identification :=
      Bytes.holds_zero_iff.2 ((hstart.trans (List.prefix_append _ _)).trans hoctets)
    obtain ⟨hmagic, hclass, horder⟩ := (identified_iff hsize).2 hidentified
    exact decode_eq_ok_iff.2 ⟨hsize, hmagic, hclass, horder, fields_of_holds hident hholds⟩

theorem exists_decode_iff :
    (∃ h, decode d = .ok h) ↔
      64 ≤ d.size ∧ d.toList.take 4 = [0x7f, 0x45, 0x4c, 0x46] ∧ d[4]? = some 2 ∧
        d[5]? = some 1 := by
  simp only [decode_eq_ok_iff, exists_and_left, exists_eq', and_true]
  refine and_congr_right fun hsize => ?_
  have hmagic : d.Holds 0 Format.elfMagic ↔ d.toList.take 4 = [0x7f, 0x45, 0x4c, 0x46] := by
    rw [Bytes.holds_zero_iff, List.prefix_iff_eq_take, eq_comm]
    rfl
  have hsixth : d.Holds 6 [] := Bytes.holds_nil (by omega)
  rw [identified_iff hsize, identification, Bytes.holds_append_iff, hmagic]
  exact and_congr_right fun _ => by
    simp only [Bytes.holds_cons_iff]
    exact ⟨fun h => ⟨h.1, h.2.1⟩, fun h => ⟨h.1, h.2, hsixth⟩⟩

/-- Decoding and packing are inverse to each other: the octets of a header that says that the file
is a little-endian ELF64 file are decoded to that header, whatever follows them. A file has a header
exactly if it is long enough and is identified by its first six octets, and packing the header gives
back its first 64 octets. -/
theorem decode_inverts :
    (∀ (h : Header) (rest : List UInt8), h.ident.length = 16 →
      [0x7f, 0x45, 0x4c, 0x46, 2, 1] <+: h.ident →
      h.octets.length = 64 ∧ decode (h.octets ++ rest).toArray = .ok h) ∧
    ∀ d : Bytes,
      ((∃ h, decode d = .ok h) ↔
        64 ≤ d.size ∧ d.toList.take 4 = [0x7f, 0x45, 0x4c, 0x46] ∧ d[4]? = some 2 ∧
          d[5]? = some 1) ∧
      ∀ h, decode d = .ok h → h.octets = d.toList.take 64 := by
  refine ⟨fun h rest hident hstart => ⟨length_octets hident, ?_⟩, fun d => ⟨exists_decode_iff, ?_⟩⟩
  · exact decode_eq_ok_iff_octets.2 ⟨hident, hstart, List.prefix_append _ _⟩
  · intro h hd
    obtain ⟨hsize, -, -, -, rfl⟩ := decode_eq_ok_iff.1 hd
    exact octets_fields hsize

/-- A header in which no two numbers are equal. -/
def unevenHeader : Header where
  ident := [0x7f, 0x45, 0x4c, 0x46, 2, 1, 1, 9, 0, 0, 0, 0, 0, 0, 0, 0xff]
  type := 0x0201
  machine := 0xff3e
  version := 0x87654321
  entry := 0xfedcba9876543210
  segmentOffset := 0x0102030405060708
  sectionOffset := 0x8070605040302010
  flags := 0xcafebabe
  headerSize := 64
  segmentEntrySize := 56
  segmentCount := 0xffff
  sectionEntrySize := 0x1234
  sectionCount := 0
  nameSection := 0xff00

theorem decode_inverts_unevenHeader :
    unevenHeader.ident.length = 16 ∧
    [0x7f, 0x45, 0x4c, 0x46, 2, 1] <+: unevenHeader.ident ∧
    decode (unevenHeader.octets ++ [0xab, 0, 0xcd]).toArray = .ok unevenHeader ∧
    unevenHeader.octets = (unevenHeader.octets ++ [0xab, 0, 0xcd]).take 64 ∧
    ¬ ∃ h, decode (unevenHeader.octets.take 63).toArray = .ok h := by
  have hident : unevenHeader.ident.length = 16 := rfl
  have hstart : [0x7f, 0x45, 0x4c, 0x46, 2, 1] <+: unevenHeader.ident := by decide
  obtain ⟨hpacked, hfiles⟩ := decode_inverts
  have hd := (hpacked unevenHeader [0xab, 0, 0xcd] hident hstart).2
  refine ⟨hident, hstart, hd, (hfiles _).2 _ hd, fun hshort => ?_⟩
  exact absurd ((hfiles _).1.1 hshort).1 (by decide)

end Elf.Header

end FunctionBounds
