import FunctionBounds.Text.Utf8

/-!
# String tables

A string table is a region of NUL-terminated texts, which other regions refer to by offset.

* `StringTable.nameAt`: the text at an offset.
* `StringTable.entries`: every text that is not empty, with its offset.
-/

namespace FunctionBounds.StringTable

/-- The offset of the first NUL from `off` on, or the end of the table. -/
def endOfName (t : Bytes) (off : Nat) : Nat := (t.indexFrom? (· == 0) off).getD t.size

/-- The text at an offset, up to a NUL or the end of the table; empty outside the table. -/
def nameAt (t : Bytes) (off : Nat) : String :=
  if off < t.size then Text.Utf8.decode (t.extract off (endOfName t off)) else ""

/-- The octets from an offset on, cut at each NUL, after the pieces already cut off, which stand in
reverse order. -/
def piecesFrom (t : Bytes) (off : Nat) (before : List Bytes) : List Bytes :=
  match h : t.indexFrom? (· == 0) off with
  | some stop => piecesFrom t (stop + 1) (t.extract off stop :: before)
  | none => (t.extract off t.size :: before).reverse
termination_by t.size - off
decreasing_by
  have := Bytes.indexFrom?_bounds h
  omega

/-- The pieces of a table, one more than it has NULs. -/
def pieces (t : Bytes) : List Bytes := piecesFrom t 0 []

/-- The pieces that are not empty, as texts with their offsets, if the first piece is at `off`. They
come after those already found, which stand in reverse order. -/
def listFrom (off : Nat) (before : List (Nat × String)) : List Bytes → List (Nat × String)
  | [] => before.reverse
  | piece :: rest =>
    listFrom (off + piece.size + 1)
      (if piece.isEmpty then before else (off, Text.Utf8.decode piece) :: before) rest

/-- Every text that is not empty, with its offset, in the order of the table. -/
def entries (t : Bytes) : List (Nat × String) := listFrom 0 [] (pieces t)

end FunctionBounds.StringTable
