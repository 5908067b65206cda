import FunctionBounds.Bytes

/-!
# Container formats

The format of a file is told by its first octets.

* `Format.identify`: the format of a file.
* `Format.describe`: what the file is, in words.
-/

namespace FunctionBounds

/-- The formats of an executable file. -/
inductive Format where
  | elf
  | pe
  | unknown
  deriving DecidableEq, Repr

namespace Format

/-- The octets that an ELF file starts with. -/
def elfMagic : List UInt8 := [0x7f, 0x45, 0x4c, 0x46]

/-- The octets that a PE file starts with. -/
def peMagic : List UInt8 := [0x4d, 0x5a]

/-- The name of a format. -/
def name : Format → String
  | elf => "elf"
  | pe => "pe"
  | unknown => "unknown"

/-- The format of a file. -/
def identify (d : Bytes) : Format :=
  if d.hasAt 0 elfMagic then elf else if d.hasAt 0 peMagic then pe else unknown

/-- What a file is, in words. -/
def describe (d : Bytes) : String :=
  if d.isEmpty then "Empty file"
  else
    match identify d with
    | elf => "ELF executable"
    | pe => "PE32 executable (Windows)"
    | unknown => "Unknown binary"

end Format

end FunctionBounds
