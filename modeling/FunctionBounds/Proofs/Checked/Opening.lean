import FunctionBounds.Proofs.Session.Opening

/-!
# Checked openings

The opening of an image once more, step by step: every octet and every entry of a table is checked
where it is taken, and what nothing handles gets out (`Refusal`). Nothing but the errors that an
opening announces ever does.

- **Headers** (`Elf.Header.checkedDecode_eq`, `Pe.Header.checkedDecode_eq`): the numbers of a header
  are taken after its size is known.
- **Tables** (`Region.checkedSections_eq`, `Region.checkedSegments_eq`): so are the entries of a
  table, one after the other. The names are those of an entry that is there.
- **Openings** (`Session.checkedOpen_eq`): the same session or the same error comes out of both.
-/

namespace FunctionBounds

/-- What ends an opening in which nothing handles it. -/
inductive Refusal where
  | container (cause : ContainerError)
  /-- An octet or an entry is taken that is not inside. -/
  | outside (offset size : Nat)
  deriving DecidableEq, Repr

namespace Bytes

/-- Takes `n` octets, all of which have to be there. -/
def require (d : Bytes) (off n : Nat) : Except Refusal Unit :=
  if off + n ≤ d.size then .ok () else .error (.outside off d.size)

/-- The number in `n` octets, all of which have to be there. -/
def takeNumber (d : Bytes) (off n : Nat) : Except Refusal Nat :=
  (d.require off n).map fun _ => d.le off n

variable {d : Bytes} {off n : Nat}

theorem require_eq (h : off + n ≤ d.size) : d.require off n = .ok () := if_pos h

theorem takeNumber_eq (h : off + n ≤ d.size) : d.takeNumber off n = .ok (d.le off n) := by
  rw [takeNumber, require_eq h]
  rfl

end Bytes

/-! ## Headers -/

/-- The header of a file, if it is little-endian ELF64. Its numbers are taken together. -/
def Elf.Header.checkedDecode (d : Bytes) : Except Refusal Elf.Header :=
  if d.size < size then .error (.container (.malformed (.elfTooSmall d.size)))
  else if ¬ d.hasAt 0 Format.elfMagic then .error (.container (.malformed .elfMagic))
  else do
    let code ← d.takeNumber 4 1
    let order ← d.takeNumber 5 1
    if code ≠ 2 then .error (.container (.unsupported (.elfClass code)))
    else if order ≠ 1 then .error (.container (.unsupported (.byteOrder order)))
    else do
      d.require 16 48
      return fields d

theorem Elf.Header.checkedDecode_eq (d : Bytes) :
    checkedDecode d = (decode d).mapError .container := by
  unfold checkedDecode decode
  split
  · rfl
  · next hsize =>
    have hlarge : 64 ≤ d.size := Nat.not_lt.1 hsize
    split
    · rfl
    · rw [Bytes.takeNumber_eq (by omega), Bytes.takeNumber_eq (by omega),
        Bytes.require_eq (by omega)]
      simp only [bind, Except.bind]
      split
      · rfl
      · split <;> rfl

namespace Pe.Header

/-- Adds the fields of the optional header that starts at `off`. -/
def checkedWithOptional (h : Header) (d : Bytes) (off : Nat) : Except Refusal Header :=
  if d.size < off + 32 then .error (.container (.malformed .optionalHeader))
  else do
    let magic ← d.takeNumber off 2
    let entry ← d.takeNumber (off + 16) 4
    if magic = magic64 then do
      let imageBase ← d.takeNumber (off + 24) 8
      return { h with optionalMagic := .ofNat magic, entry := .ofNat entry,
                      imageBase := .ofNat imageBase }
    else if magic = magic32 then do
      let imageBase ← d.takeNumber (off + 28) 4
      return { h with optionalMagic := .ofNat magic, entry := .ofNat entry,
                      imageBase := .ofNat imageBase }
    else .error (.container (.malformed (.optionalMagic magic)))

/-- The header of a file. The numbers of the COFF header are taken together. -/
def checkedDecode (d : Bytes) : Except Refusal Header :=
  if d.size < 64 ∨ ¬ d.hasAt 0 Format.peMagic then .error (.container (.malformed .dosHeader))
  else do
    let off ← d.takeNumber 0x3c 4
    if ¬ d.hasAt off signature then .error (.container (.malformed (.peSignature off)))
    else if d.size < off + 24 then .error (.container (.malformed .coffHeader))
    else do
      d.require (off + 4) 20
      let h : Header :=
        { offset := .ofNat off
          machine := .ofNat (d.le (off + 4) 2)
          sectionCount := .ofNat (d.le (off + 6) 2)
          characteristics := .ofNat (d.le (off + 22) 2) }
      if d.le (off + 20) 2 = 0 then return h else h.checkedWithOptional d (off + 24)

theorem checkedWithOptional_eq (h : Header) (d : Bytes) (off : Nat) :
    h.checkedWithOptional d off = (h.withOptional d off).mapError .container := by
  unfold checkedWithOptional withOptional
  split
  · rfl
  · next hsize =>
    rw [Bytes.takeNumber_eq (by omega), Bytes.takeNumber_eq (by omega),
      Bytes.takeNumber_eq (by omega), Bytes.takeNumber_eq (by omega)]
    simp only [bind, Except.bind]
    split
    · rfl
    · split <;> rfl

theorem checkedDecode_eq (d : Bytes) : checkedDecode d = (decode d).mapError .container := by
  unfold checkedDecode decode
  split
  · rfl
  · next hdos =>
    have hlarge : 64 ≤ d.size := Nat.not_lt.1 fun hsize => hdos (.inl hsize)
    rw [Bytes.takeNumber_eq (by omega)]
    simp only [bind, Except.bind]
    split
    · rfl
    · split
      · rfl
      · rw [Bytes.require_eq (by omega)]
        simp only
        split
        · rfl
        · exact checkedWithOptional_eq _ d _

end Pe.Header

/-! ## Tables -/

namespace SectionHeader

variable (h : Elf.Header) (d : Bytes)

/-- The entry of an index. -/
def checkedEntry (i : Nat) : Except Refusal SectionHeader :=
  if offsetOf h i + entrySize ≤ d.size then
    (d.require (offsetOf h i) entrySize).map fun _ => decode d (offsetOf h i)
  else .error (.container (.truncated s!"section header {i}" (offsetOf h i) entrySize d.size))

/-- The entries of the table. -/
def checkedTable : Except Refusal (List SectionHeader) :=
  if stride h < entrySize then .error (.container (.malformed (.sectionEntrySize (stride h))))
  else (List.range h.sectionCount.toNat).mapM (checkedEntry h d)

/-- The names of sections, from an entry that has to be there. -/
def checkedNames (table : List SectionHeader) : Except Refusal Bytes :=
  let index := h.nameSection.toNat
  if index = 0 ∨ table.length ≤ index then .ok #[]
  else
    match table[index]? with
    | some s => (readSpan d ".shstrtab" s.offset.toNat s.size.toNat).mapError .container
    | none => .error (.outside index table.length)

theorem checkedEntry_eq (i : Nat) :
    checkedEntry h d i = (readEntry h d i).mapError .container := by
  unfold checkedEntry readEntry
  split
  · next hinside => rw [Bytes.require_eq hinside]; rfl
  · rfl

theorem checkedTable_eq : checkedTable h d = (readTable h d).mapError .container := by
  unfold checkedTable readTable
  split
  · rfl
  · rw [mapError_mapM]
    exact congrArg (List.mapM · _) (funext fun i => checkedEntry_eq h d i)

theorem checkedNames_eq (table : List SectionHeader) :
    checkedNames h d table = (readNames h d table).result.mapError .container := by
  unfold checkedNames readNames
  by_cases hzero : h.nameSection.toNat = 0
  · simp only [hzero, true_or, if_true]
    rfl
  · simp only [hzero, false_or, if_false]
    split
    · next hlong =>
      rw [List.getElem?_eq_none hlong]
      rfl
    · next hshort =>
      rw [List.getElem?_eq_getElem (Nat.not_le.1 hshort)]
      rfl

end SectionHeader

/-- A region for each section. -/
def Region.checkedSections (h : Elf.Header) (d : Bytes) : Except Refusal (List Region) := do
  let table ← SectionHeader.checkedTable h d
  let names ← SectionHeader.checkedNames h d table
  (table.mapM (SectionHeader.toRegion d names)).mapError .container

theorem Region.checkedSections_eq (h : Elf.Header) (d : Bytes) :
    checkedSections h d = (ofSections h d).result.mapError .container := by
  have hresult : (ofSections h d).result = (SectionHeader.readTable h d).bind fun table =>
      (SectionHeader.readNames h d table).result.bind fun names =>
        table.mapM (SectionHeader.toRegion d names) := by
    simp only [ofSections, Noted.result_bind, Noted.result_of, Noted.result_note,
      Noted.result_pure]
    refine congrArg _ (funext fun table => congrArg _ (funext fun names => ?_))
    cases table.mapM (SectionHeader.toRegion d names) <;> rfl
  rw [hresult, mapError_bind, ← SectionHeader.checkedTable_eq]
  refine congrArg _ (funext fun table => ?_)
  rw [mapError_bind, ← SectionHeader.checkedNames_eq]
  rfl

namespace SegmentHeader

variable (h : Elf.Header) (d : Bytes)

/-- The entries of indices in order, up to the first that reaches past the end of the file. -/
def checkedEntries : List Nat → Except Refusal (List (Nat × SegmentHeader))
  | [] => .ok []
  | i :: rest =>
    if offsetOf h i + entrySize ≤ d.size then do
      d.require (offsetOf h i) entrySize
      let entries ← checkedEntries rest
      return (i, decode d (offsetOf h i)) :: entries
    else .ok []

theorem checkedEntries_eq (is : List Nat) :
    checkedEntries h d is = .ok ((is.takeWhile fun i => offsetOf h i + entrySize ≤ d.size).map
      fun i => (i, decode d (offsetOf h i))) := by
  induction is with
  | nil => rfl
  | cons i is ih =>
    unfold checkedEntries
    split
    · next hinside =>
      rw [Bytes.require_eq hinside, ih, List.takeWhile_cons_of_pos (by simpa using hinside)]
      rfl
    · next houtside => rw [List.takeWhile_cons_of_neg (by simpa using houtside)]; rfl

/-- The entries of the table that lie inside the file. -/
def checkedTable : Except Refusal (List (Nat × SegmentHeader)) :=
  if stride h < entrySize then .error (.container (.malformed (.segmentEntrySize (stride h))))
  else checkedEntries h d (List.range h.segmentCount.toNat)

theorem checkedTable_eq : checkedTable h d = (readTable h d).result.mapError .container := by
  unfold checkedTable readTable
  split
  · rfl
  · rw [checkedEntries_eq]
    dsimp only
    split <;> rfl

end SegmentHeader

/-- A region for each segment that is loaded and can be read. -/
def Region.checkedSegments (h : Elf.Header) (d : Bytes) : Except Refusal (List Region) := do
  let table ← SegmentHeader.checkedTable h d
  let loaded := table.filter fun (_, s) => s.type == SegmentHeader.load
  return (loaded.filter fun (_, s) => s.isReadable d).map fun (i, s) => s.toRegion d i

theorem Region.checkedSegments_eq (h : Elf.Header) (d : Bytes) :
    checkedSegments h d = (ofSegments h d).result.mapError .container := by
  simp only [checkedSegments, ofSegments, Noted.result_bind, SegmentHeader.checkedTable_eq,
    List.partition_eq_filter_filter]
  cases (SegmentHeader.readTable h d).result <;> rfl

/-! ## Openings -/

/-- The regions of a file, from its sections or else from its segments. -/
def Layout.checkedExtract (h : Elf.Header) (d : Bytes) : Except Refusal Layout :=
  if h.hasSections then return ⟨← Region.checkedSections h d, false⟩
  else if h.hasSegments then return ⟨← Region.checkedSegments h d, true⟩
  else .error (.container (.malformed .noTables))

theorem Layout.checkedExtract_eq (h : Elf.Header) (d : Bytes) :
    checkedExtract h d = (extract h d).result.mapError .container := by
  unfold checkedExtract extract
  split
  · rw [Region.checkedSections_eq]
    simp only [Noted.result_bind, Noted.result_note, Noted.result_pure]
    cases (Region.ofSections h d).result <;> rfl
  · split
    · rw [Region.checkedSegments_eq]
      simp only [Noted.result_bind, Noted.result_note, Noted.result_pure]
      cases (Region.ofSegments h d).result <;> rfl
    · rfl

/-- The session of an image. -/
def Session.checkedOpen (d : Bytes) (path : String) (digitLimit : Text.DigitLimit) :
    Except Refusal Session :=
  match Format.identify d with
  | .elf => do
    let header ← Elf.Header.checkedDecode d
    let layout ← Layout.checkedExtract header d
    return { path, header, regions := layout.regions, stripped := layout.stripped, digitLimit }
  | .pe => do
    let header ← Pe.Header.checkedDecode d
    .error (.container (.unsupported (.peRegions header.traits.arch)))
  | .unknown => .error (.container (.malformed .unknownMagic))

/-- Nothing but an error that is announced gets out of the opening of an image. -/
theorem Session.checkedOpen_eq (d : Bytes) (path : String) (l : Text.DigitLimit) :
    checkedOpen d path l = (ofBytes d path l).result.mapError .container := by
  cases hformat : Format.identify d with
  | elf =>
    simp only [checkedOpen, ofBytes, hformat, Elf.Header.checkedDecode_eq, Noted.result_bind,
      Noted.result_of, Noted.result_note, Noted.result_pure]
    cases Elf.Header.decode d with
    | error cause => rfl
    | ok header =>
      simp only [bind, mapError_ok, Except.bind, Layout.checkedExtract_eq]
      cases (Layout.extract header d).result <;> rfl
  | pe =>
    simp only [checkedOpen, ofBytes, hformat, Pe.Header.checkedDecode_eq, Noted.result_bind,
      Noted.result_of]
    cases Pe.Header.decode d <;> rfl
  | unknown => simp only [checkedOpen, ofBytes, hformat]; rfl

end FunctionBounds
