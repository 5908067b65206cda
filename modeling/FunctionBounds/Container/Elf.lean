import FunctionBounds.Container.Error
import FunctionBounds.Container.Format
import FunctionBounds.Container.Traits

/-!
# The ELF64 header

The first 64 octets of an ELF64 file: 16 octets of identification and thirteen little-endian
numbers.

* `Elf.Header.decode`: the header of a file.
* `Elf.Header.traits`: what it says about the program.
-/

namespace FunctionBounds.Elf

/-- The header of an ELF64 file. -/
structure Header where
  ident : List UInt8
  type : UInt16
  machine : UInt16
  version : UInt32
  entry : UInt64
  /-- The offset of the table of segments. -/
  segmentOffset : UInt64
  /-- The offset of the table of sections. -/
  sectionOffset : UInt64
  flags : UInt32
  headerSize : UInt16
  segmentEntrySize : UInt16
  segmentCount : UInt16
  sectionEntrySize : UInt16
  sectionCount : UInt16
  /-- The index of the section that holds the names of sections. -/
  nameSection : UInt16
  deriving DecidableEq, Repr

/-- The name of a processor. -/
def machineName (code : Nat) : String :=
  match code with
  | 0 => "None"
  | 3 => "x86"
  | 8 => "MIPS"
  | 20 => "PowerPC"
  | 21 => "PowerPC64"
  | 40 => "ARM"
  | 62 => "x86_64"
  | 183 => "AArch64"
  | 243 => "RISC-V"
  | code => s!"unknown({code})"

namespace Header

/-- The octets of a header. -/
def size : Nat := 64

/-- The numbers of a header, without any check. -/
def fields (d : Bytes) : Header where
  ident := (d.slice 0 16).toList
  type := .ofNat (d.le 16 2)
  machine := .ofNat (d.le 18 2)
  version := .ofNat (d.le 20 4)
  entry := .ofNat (d.le 24 8)
  segmentOffset := .ofNat (d.le 32 8)
  sectionOffset := .ofNat (d.le 40 8)
  flags := .ofNat (d.le 48 4)
  headerSize := .ofNat (d.le 52 2)
  segmentEntrySize := .ofNat (d.le 54 2)
  segmentCount := .ofNat (d.le 56 2)
  sectionEntrySize := .ofNat (d.le 58 2)
  sectionCount := .ofNat (d.le 60 2)
  nameSection := .ofNat (d.le 62 2)

/-- The header of a file, if it is little-endian ELF64. -/
def decode (d : Bytes) : Except ContainerError Header :=
  if d.size < size then .error (.malformed (.elfTooSmall d.size))
  else if ¬ d.hasAt 0 Format.elfMagic then .error (.malformed .elfMagic)
  else if d.le 4 1 ≠ 2 then .error (.unsupported (.elfClass (d.le 4 1)))
  else if d.le 5 1 ≠ 1 then .error (.unsupported (.byteOrder (d.le 5 1)))
  else .ok (fields d)

/-- Whether the file has a table of sections. -/
def hasSections (h : Header) : Bool := h.sectionCount != 0 && h.sectionOffset != 0

/-- Whether the file has a table of segments. -/
def hasSegments (h : Header) : Bool := h.segmentCount != 0 && h.segmentOffset != 0

/-- What the header says about the program. Type 2 is an executable at fixed addresses; a shared
object is not counted as one. -/
def traits (h : Header) : Traits where
  entryPoint := h.entry.toNat
  machine := h.machine.toNat
  is64Bit := true
  formatName := "ELF"
  isExecutable := h.type == 2
  arch := machineName h.machine.toNat

end Header

end FunctionBounds.Elf
