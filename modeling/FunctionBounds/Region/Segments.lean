import FunctionBounds.Container.Elf
import FunctionBounds.Journal
import FunctionBounds.Region.Basic

/-!
# Segments

The regions of a file without a table of sections, one for each segment that is loaded. Such a
file is suspect already: the table ends with the last entry inside the file, and a segment that
cannot be read is left out.

* `SegmentHeader.readTable`: the entries of the table that lie inside the file.
* `Region.ofSegments`: a region for each segment that is loaded and lies inside the file.
-/

namespace FunctionBounds

open Text (hex)

/-- An entry of the table of segments, as far as regions need it. -/
structure SegmentHeader where
  type : UInt32
  flags : UInt32
  offset : UInt64
  address : UInt64
  fileSize : UInt64
  memorySize : UInt64
  deriving DecidableEq, Repr

namespace SegmentHeader

/-- The octets of an entry. -/
def entrySize : Nat := 56

/-- The type of a segment that is loaded. -/
def load : UInt32 := 1

/-- The entry at an offset, all of which lies inside the file. -/
def decode (d : Bytes) (off : Nat) : SegmentHeader where
  type := .ofNat (d.le off 4)
  flags := .ofNat (d.le (off + 4) 4)
  offset := .ofNat (d.le (off + 8) 8)
  address := .ofNat (d.le (off + 16) 8)
  fileSize := .ofNat (d.le (off + 32) 8)
  memorySize := .ofNat (d.le (off + 40) 8)

/-- The distance between entries; zero in the header means the usual one. -/
def stride (h : Elf.Header) : Nat :=
  if h.segmentEntrySize = 0 then entrySize else h.segmentEntrySize.toNat

/-- The offset of an entry. -/
def offsetOf (h : Elf.Header) (i : Nat) : Nat := h.segmentOffset.toNat + i * stride h

/-- The indices of the entries up to the first that reaches past the end of the file. -/
def indices (h : Elf.Header) (d : Bytes) : List Nat :=
  (List.range h.segmentCount.toNat).takeWhile fun i => offsetOf h i + entrySize ≤ d.size

/-- The entries of the table that lie inside the file, with their indices. -/
def readTable (h : Elf.Header) (d : Bytes) : Noted ContainerError (List (Nat × SegmentHeader)) :=
  if stride h < entrySize then .of (.error (.malformed (.segmentEntrySize (stride h))))
  else do
    let inside := indices h d
    if inside.length < h.segmentCount.toNat then
      .note (.warning s!"Program header table truncated after {inside.length} entries")
    return inside.map fun i => (i, decode d (offsetOf h i))

/-- Whether the octets of a segment lie inside the file. -/
def isReadable (s : SegmentHeader) (d : Bytes) : Bool :=
  s.fileSize != 0 && s.offset.toNat + s.fileSize.toNat ≤ d.size

/-- The region of a segment. -/
def toRegion (s : SegmentHeader) (d : Bytes) (i : Nat) : Region where
  name := s!".segment_{i}"
  virtualAddress := s.address.toNat
  size := s.memorySize.toNat
  fileOffset := s.offset.toNat
  flags := s.flags.toNat
  kind := .segment
  raw := d.slice s.offset.toNat s.fileSize.toNat

/-- The note about a segment that is left out. -/
def dropNote (s : SegmentHeader) (d : Bytes) (i : Nat) : Note :=
  .debug (s!"Dropping segment {i}: offset {hex s.offset.toNat} " ++
    s!"filesz {hex s.fileSize.toNat} (buffer {hex d.size})")

end SegmentHeader

/-- A region for each segment that is loaded and can be read, in the order of the table. -/
def Region.ofSegments (h : Elf.Header) (d : Bytes) : Noted ContainerError (List Region) := do
  let table ← SegmentHeader.readTable h d
  let loaded := table.filter fun (_, s) => s.type == SegmentHeader.load
  let (kept, dropped) := loaded.partition fun (_, s) => s.isReadable d
  .noteAll (dropped.map fun (i, s) => s.dropNote d i)
  let regions := kept.map fun (i, s) => s.toRegion d i
  .note (.debug s!"Synthesised {regions.length} segment regions")
  return regions

end FunctionBounds
