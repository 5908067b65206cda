import FunctionBounds.Bytes

/-!
# Regions

A region is a named range of addresses with octets from the file.

* `RegionInfo`: a region without its octets.
* `Region.contains`: the addresses of a region.
* `RegionInfo.flagsText`: what the flags allow, in letters.
-/

namespace FunctionBounds

/-- Where a region comes from. -/
inductive RegionKind where
  | section
  | segment
  deriving DecidableEq, Repr

/-- The name of a kind. -/
def RegionKind.name : RegionKind → String
  | .section => "section"
  | segment => "segment"

/-- A region without its octets. -/
structure RegionInfo where
  name : String := ""
  virtualAddress : Int := 0
  /-- The size in memory. -/
  size : Int := 0
  fileOffset : Int := 0
  flags : Int := 0
  kind : RegionKind := .section
  deriving DecidableEq, Repr

/-- A region and its octets in the file, which may be fewer than its size in memory. -/
structure Region extends RegionInfo where
  raw : Bytes := #[]
  deriving DecidableEq, Repr

/-- Bit `k` of a number; a negative one has infinitely many leading ones. -/
def bit (flags : Int) (k : Nat) : Bool := (flags >>> k) % 2 == 1

/-- The permissions of a segment: reading, writing, executing. -/
def segmentFlagsText (flags : Int) : String :=
  (if bit flags 2 then "R" else "-") ++ (if bit flags 1 then "W" else "-") ++
    (if bit flags 0 then "X" else "-")

/-- The flags of a section: writable, in memory, executable. -/
def sectionFlagsText (flags : Int) : String :=
  let letters := (if bit flags 0 then "W" else "") ++ (if bit flags 1 then "A" else "") ++
    (if bit flags 2 then "X" else "")
  if letters.isEmpty then "-" else letters

namespace RegionInfo

/-- The address after the last octet. -/
def endAddress (r : RegionInfo) : Int := r.virtualAddress + r.size

/-- Whether an address lies in the region. -/
def contains (r : RegionInfo) (address : Int) : Bool :=
  r.virtualAddress ≤ address && address < r.endAddress

/-- What the flags allow, in letters. -/
def flagsText (r : RegionInfo) : String :=
  match r.kind with
  | .section => sectionFlagsText r.flags
  | .segment => segmentFlagsText r.flags

end RegionInfo

end FunctionBounds
