import FunctionBounds.Bytes
import FunctionBounds.Text.Decimal

/-!
# Hex dumps

* `Hexdump.line`: an address, octets in hexadecimal, and the same octets as characters.
* `Hexdump.lines`: the lines of a range of octets.
-/

namespace FunctionBounds.Hexdump

/-- Why there is no dump of a width. -/
inductive Error where
  | zeroWidth
  /-- The width of the column of octets cannot be written. -/
  | tooLong (cause : Text.TooLong)
  /-- The column of octets would be wider than a text can be. -/
  | hugeWidth
  deriving DecidableEq, Repr

/-- The sentence that reports an error. -/
def Error.message : Error → String
  | zeroWidth => "range() arg 3 must not be zero"
  | tooLong cause => cause.message
  | hugeWidth => "Too many decimal digits in format string"

/-- The widest column that a text can have. -/
def maxColumn : Nat := 0x7fffffffffffffff

/-- The character that stands for an octet: itself if it is printable ASCII, else a dot. -/
def charOf (b : UInt8) : Char := if 0x20 ≤ b ∧ b < 0x7f then Char.ofNat b.toNat else '.'

/-- The octets in hexadecimal, with blanks between them and up to a column's width after them. -/
def hexColumn (width : Nat) (chunk : List UInt8) : String :=
  let octets := " ".intercalate (chunk.map fun b => Text.hexField 2 b.toNat)
  octets ++ String.ofList (List.replicate (width - octets.length) ' ')

/-- A line of a dump with `width` octets in a line. -/
def line (address : Int) (width : Nat) (chunk : List UInt8) : String :=
  s!"{Text.hexField 16 address}  {hexColumn (3 * width) chunk} " ++
    s!"|{String.ofList (chunk.map charOf)}|"

/-- The octets in lines of `width` octets. -/
def chunks (d : Bytes) (width : Nat) : List (List UInt8) :=
  (List.range ((d.size + width - 1) / width)).map fun i => (d.slice (i * width) width).toList

/-- An error if there is no column of a width. -/
def checkColumn (width : Nat) : Except Error Unit := do
  (Text.DigitLimit.standard.check width).mapError .tooLong
  if maxColumn < width then throw .hugeWidth

/-- The lines of octets whose first one has the address `base`. A negative width gives none. -/
def lines (d : Bytes) (base width : Int) : Except Error (List String) :=
  match width with
  | .negSucc _ => .ok []
  | .ofNat 0 => .error .zeroWidth
  | .ofNat w =>
    if d.isEmpty then .ok []
    else do
      checkColumn (3 * w)
      return (chunks d w).zipIdx.map fun (chunk, i) => line (base + (i * w : Nat)) w chunk

end FunctionBounds.Hexdump
