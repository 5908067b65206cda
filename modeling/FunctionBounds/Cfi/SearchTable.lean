import FunctionBounds.Candidate
import FunctionBounds.Journal
import FunctionBounds.Field.Pointer

/-!
# The search table of a call-frame section

A header of four octets (version and three encodings), the address of the call-frame section, the
number of rows, and the rows: the address of a function and that of its frame description.

* `SearchTable.Error`: why there is no usable table.
* `SearchTable.scan`: a candidate for each row, in the order of the rows.
-/

namespace FunctionBounds.Cfi.SearchTable

open Text (hex hexDigitsUpper)

/-- Why a search table cannot be used. -/
inductive Error where
  | tooShort
  | version (version : Nat)
  /-- The number of rows or the rows themselves are left out. -/
  | omitted
  /-- The address of the section or the number of rows cannot be read. -/
  | header (cause : DecodeError)
  | row (index count : Nat) (cause : DecodeError)
  deriving DecidableEq, Repr

/-- The sentence that reports an error. -/
def Error.message : Error → String
  | tooShort => ".eh_frame_hdr is too short for a header"
  | version v => s!"Unsupported .eh_frame_hdr version {v}"
  | omitted => "No table data in .eh_frame_hdr to parse"
  | header cause => s!"Unreadable .eh_frame_hdr header: {cause.message}"
  | row index count cause =>
    s!".eh_frame_hdr table truncated at row {index} of {count}: {cause.message}"

/-- The function of a row: it reaches up to its frame description, or has no size if that does not
come after it. -/
def rowCandidate (start description : Nat) : Candidate :=
  ⟨"FUN_0x" ++ hexDigitsUpper start, start, description - start⟩

/-- Reads one row. -/
def readRow (d : Bytes) (base : PointerBase) (encoding off : Nat) :
    Except DecodeError (Candidate × Nat) := do
  let (start, off) ← d.readPointer base encoding off
  let (description, off) ← d.readPointer base encoding off
  return (rowCandidate start description, off)

/-- Reads the last `left` of `count` rows, after those already read, which stand in reverse
order. -/
def readRows (d : Bytes) (base : PointerBase) (encoding count : Nat) :
    Nat → Nat → List Candidate → Except Error (List Candidate)
  | 0, _, before => .ok before.reverse
  | left + 1, off, before =>
    match readRow d base encoding off with
    | .ok (f, off) => readRows d base encoding count left off (f :: before)
    | .error cause => .error (.row (count - (left + 1)) count cause)

/-- Reads the address of the call-frame section, unless its encoding leaves it out. -/
def readSectionAddress (d : Bytes) (base : PointerBase) (encoding off : Nat) :
    Noted Error Nat :=
  if encoding = Encoding.omitted then pure off
  else
    match d.readPointer base encoding off with
    | .ok (address, off) => do
      .note (.debug s!".eh_frame located at {hex address}")
      return off
    | .error cause => .of (.error (.header cause))

/-- Reads the header and the rows of a table whose first octet has the address `address`. -/
def scan (d : Bytes) (address : Int) : Noted Error (List Candidate) := do
  let base : PointerBase := { sectionAddress := address }
  match d[0]?, d[1]?, d[2]?, d[3]? with
  | some version, some sectionEncoding, some countEncoding, some rowEncoding =>
    if version ≠ 1 then .of (.error (.version version.toNat))
    else if countEncoding.toNat = Encoding.omitted ∨ rowEncoding.toNat = Encoding.omitted then
      .of (.error .omitted)
    else do
      let off ← readSectionAddress d base sectionEncoding.toNat 4
      match d.readPointer base countEncoding.toNat off with
      | .ok (count, off) => .of (readRows d base rowEncoding.toNat count count off [])
      | .error cause => .of (.error (.header cause))
  | _, _, _, _ => .of (.error .tooShort)

end FunctionBounds.Cfi.SearchTable
