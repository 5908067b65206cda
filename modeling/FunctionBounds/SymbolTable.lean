import FunctionBounds.Candidate
import FunctionBounds.Journal
import FunctionBounds.StringTable

/-!
# Symbol tables

A table of records of 24 octets, whose names stand in a string table.

* `Symbol.decode`: the record at an offset.
* `SymbolTable.read`: every record; the table has to be a whole number of them.
* `SymbolTable.scan`: a candidate for each symbol that is defined and has an address and a size.
-/

namespace FunctionBounds

/-- One record of a symbol table. -/
structure Symbol where
  nameOffset : UInt32
  info : UInt8
  other : UInt8
  /-- The section that defines the symbol; zero if none does. -/
  sectionIndex : UInt16
  value : UInt64
  size : UInt64
  deriving DecidableEq, Repr

namespace Symbol

/-- The octets of a record. -/
def recordSize : Nat := 24

/-- The record at an offset, all of which lies inside the table. -/
def decode (d : Bytes) (off : Nat) : Symbol where
  nameOffset := .ofNat (d.le off 4)
  info := .ofNat (d.le (off + 4) 1)
  other := .ofNat (d.le (off + 5) 1)
  sectionIndex := .ofNat (d.le (off + 6) 2)
  value := .ofNat (d.le (off + 8) 8)
  size := .ofNat (d.le (off + 16) 8)

/-- Whether a symbol may be a function: it is defined and has an address and a size. -/
def isFunctionLike (s : Symbol) : Bool := s.sectionIndex != 0 && s.value != 0 && s.size != 0

/-- The name of a symbol. -/
def name (s : Symbol) (names : Bytes) : String := StringTable.nameAt names s.nameOffset.toNat

/-- The function of a symbol; one without a name is called by its address. -/
def candidate (s : Symbol) (names : Bytes) : Candidate :=
  let name := s.name names
  ⟨if name.isEmpty then Candidate.nameAt s.value.toNat else name, s.value.toNat, s.size.toNat⟩

end Symbol

namespace SymbolTable

/-- A table that is not a whole number of records. -/
structure SizeError where
  size : Nat
  deriving DecidableEq, Repr

/-- The sentence that reports a table of the wrong size. -/
def SizeError.message (e : SizeError) : String :=
  s!"Invalid symbol table size {e.size} (not a multiple of {Symbol.recordSize})"

/-- Every record of a table. -/
def read (d : Bytes) : Except SizeError (List Symbol) :=
  if d.size % Symbol.recordSize = 0 then
    .ok ((List.range (d.size / Symbol.recordSize)).map fun i =>
      Symbol.decode d (i * Symbol.recordSize))
  else .error ⟨d.size⟩

/-- The functions of a table, in its order. -/
def scan (d names : Bytes) : Noted SizeError (List Candidate) := do
  let symbols ← Noted.of (read d)
  let found := symbols.filter (·.isFunctionLike)
  .note (.debug (s!"Symbol table: {found.length} candidate(s), " ++
    s!"{symbols.length - found.length} filtered"))
  return found.map (·.candidate names)

end SymbolTable

end FunctionBounds
