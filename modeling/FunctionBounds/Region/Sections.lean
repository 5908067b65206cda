import FunctionBounds.Container.Elf
import FunctionBounds.Journal
import FunctionBounds.Region.Basic
import FunctionBounds.Text.Utf8

/-!
# Sections

The regions of a file that has a table of sections. The table is trusted: an entry, the names or a
section that reaches past the end of the file is an error.

* `SectionHeader.readTable`: the entries of the table.
* `SectionHeader.nameAt`: the name of a section.
* `Region.ofSections`: a region for each entry, in the order of the table.
-/

namespace FunctionBounds

/-- An entry of the table of sections, as far as regions need it. -/
structure SectionHeader where
  nameOffset : UInt32
  type : UInt32
  flags : UInt64
  address : UInt64
  offset : UInt64
  size : UInt64
  deriving DecidableEq, Repr

namespace SectionHeader

/-- The octets of an entry. -/
def entrySize : Nat := 64

/-- The type of a section without octets in the file. -/
def noBits : UInt32 := 8

/-- The entry at an offset, all of which lies inside the file. -/
def decode (d : Bytes) (off : Nat) : SectionHeader where
  nameOffset := .ofNat (d.le off 4)
  type := .ofNat (d.le (off + 4) 4)
  flags := .ofNat (d.le (off + 8) 8)
  address := .ofNat (d.le (off + 16) 8)
  offset := .ofNat (d.le (off + 24) 8)
  size := .ofNat (d.le (off + 32) 8)

/-- The distance between entries; zero in the header means the usual one. -/
def stride (h : Elf.Header) : Nat :=
  if h.sectionEntrySize = 0 then entrySize else h.sectionEntrySize.toNat

/-- The offset of an entry. -/
def offsetOf (h : Elf.Header) (i : Nat) : Nat := h.sectionOffset.toNat + i * stride h

/-- The entry of an index. -/
def readEntry (h : Elf.Header) (d : Bytes) (i : Nat) : Except ContainerError SectionHeader :=
  if offsetOf h i + entrySize ≤ d.size then .ok (decode d (offsetOf h i))
  else .error (.truncated s!"section header {i}" (offsetOf h i) entrySize d.size)

/-- The entries of the table. -/
def readTable (h : Elf.Header) (d : Bytes) : Except ContainerError (List SectionHeader) :=
  if stride h < entrySize then .error (.malformed (.sectionEntrySize (stride h)))
  else (List.range h.sectionCount.toNat).mapM (readEntry h d)

/-- The octets of a span of the file. -/
def readSpan (d : Bytes) (name : String) (off size : Nat) : Except ContainerError Bytes :=
  if off + size ≤ d.size then .ok (d.slice off size) else .error (.truncated name off size d.size)

/-- The names of sections. Section zero holds none, nor does an index outside the table. -/
def readNames (h : Elf.Header) (d : Bytes) (table : List SectionHeader) :
    Noted ContainerError Bytes :=
  let index := h.nameSection.toNat
  match if index = 0 then none else table[index]? with
  | some s => .of (readSpan d ".shstrtab" s.offset.toNat s.size.toNat)
  | none => do
    .note (.debug s!"No usable section name table (index {index})")
    return #[]

/-- The name at an offset of the names of sections, up to a NUL or the end of the names. There is
none before or after them. -/
def nameAt (names : Bytes) (off : Int) : String :=
  if off < 0 ∨ names.size ≤ off then ""
  else
    let first := off.toNat
    let stop := (names.indexFrom? (· == 0) first).getD names.size
    Text.Utf8.decode (names.extract first stop)

/-- The region of an entry. -/
def toRegion (d names : Bytes) (s : SectionHeader) : Except ContainerError Region := do
  let name := nameAt names s.nameOffset.toNat
  let raw ← if s.type = noBits then pure #[] else readSpan d name s.offset.toNat s.size.toNat
  return {
    name, raw
    virtualAddress := s.address.toNat
    size := s.size.toNat
    fileOffset := s.offset.toNat
    flags := s.flags.toNat
    kind := .section }

end SectionHeader

/-- A region for each section, in the order of the table. -/
def Region.ofSections (h : Elf.Header) (d : Bytes) : Noted ContainerError (List Region) := do
  let table ← Noted.of (SectionHeader.readTable h d)
  let names ← SectionHeader.readNames h d table
  let regions ← Noted.of (table.mapM (SectionHeader.toRegion d names))
  .note (.debug s!"Extracted {regions.length} sections")
  return regions

end FunctionBounds
