import FunctionBounds.Container.Error
import FunctionBounds.Container.Format
import FunctionBounds.Container.Traits

/-!
# The PE header

A DOS header whose last field is the offset of the signature, the COFF header after the signature,
and the start of the optional header after that.

* `Pe.Header.decode`: the header of a file.
* `Pe.Header.traits`: what it says about the program.
-/

namespace FunctionBounds.Pe

open Text (hex)

/-- The header of a PE file, as far as it describes the program. -/
structure Header where
  /-- The offset of the signature. -/
  offset : UInt32
  machine : UInt16
  sectionCount : UInt16
  characteristics : UInt16
  /-- The kind of optional header; zero without one. -/
  optionalMagic : UInt16 := 0
  /-- The entry point, relative to the image base. -/
  entry : UInt32 := 0
  imageBase : UInt64 := 0
  deriving DecidableEq, Repr

/-- The octets before the COFF header. -/
def signature : List UInt8 := [0x50, 0x45, 0x00, 0x00]

/-- The kind of the optional header of a 32-bit program. -/
def magic32 : Nat := 0x10b

/-- The kind of the optional header of a 64-bit program. -/
def magic64 : Nat := 0x20b

/-- The name of a processor. -/
def machineName (code : Nat) : String :=
  match code with
  | 0x14c => "x86"
  | 0x1c0 => "ARM"
  | 0x1c4 => "ARM Thumb-2"
  | 0x8664 => "x86_64"
  | 0xaa64 => "AArch64"
  | code => s!"unknown({hex code})"

namespace Header

/-- Adds the fields of the optional header that starts at `off`. -/
def withOptional (h : Header) (d : Bytes) (off : Nat) : Except ContainerError Header :=
  if d.size < off + 32 then .error (.malformed .optionalHeader)
  else
    let magic := d.le off 2
    let entry := .ofNat (d.le (off + 16) 4)
    if magic = magic64 then
      .ok { h with optionalMagic := .ofNat magic, entry, imageBase := .ofNat (d.le (off + 24) 8) }
    else if magic = magic32 then
      .ok { h with optionalMagic := .ofNat magic, entry, imageBase := .ofNat (d.le (off + 28) 4) }
    else .error (.malformed (.optionalMagic magic))

/-- The header of a file. -/
def decode (d : Bytes) : Except ContainerError Header :=
  if d.size < 64 ∨ ¬ d.hasAt 0 Format.peMagic then .error (.malformed .dosHeader)
  else
    let off := d.le 0x3c 4
    if ¬ d.hasAt off signature then .error (.malformed (.peSignature off))
    else if d.size < off + 24 then .error (.malformed .coffHeader)
    else
      let h : Header :=
        { offset := .ofNat off
          machine := .ofNat (d.le (off + 4) 2)
          sectionCount := .ofNat (d.le (off + 6) 2)
          characteristics := .ofNat (d.le (off + 22) 2) }
      if d.le (off + 20) 2 = 0 then .ok h else h.withOptional d (off + 24)

/-- What the header says about the program: bit 1 of the characteristics marks an executable image
and bit 13 a library. -/
def traits (h : Header) : Traits where
  entryPoint := h.imageBase.toNat + h.entry.toNat
  machine := h.machine.toNat
  is64Bit := h.optionalMagic.toNat == magic64
  formatName := "PE"
  isExecutable := h.characteristics &&& 0x0002 != 0 && h.characteristics &&& 0x2000 == 0
  arch := machineName h.machine.toNat

end Header

end FunctionBounds.Pe
