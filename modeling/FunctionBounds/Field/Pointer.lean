import FunctionBounds.Field.Leb128

/-!
# Encoded pointers

One octet says how a pointer is written: bits 0 to 3 give the format of the number, bits 4 to 6
what the number is relative to, bit 7 that it is the address of the address meant. Of an encoding
that is not an octet these bits count as well, in two's complement if it is negative.

* `ValueFormat`, `Application`: the formats and the bases that can be resolved without a running
  program.
* `Bytes.readEncodedValue`: the number alone, without a base.
* `Bytes.readPointer`: the address, modulo the number of addresses.
* `alignedOffset_of_pos`: where an address stands that is aligned.
-/

namespace FunctionBounds

/-- The formats of an encoded number. -/
inductive ValueFormat where
  /-- As wide as an address of the section. -/
  | address
  | uleb128
  | udata2
  | udata4
  | udata8
  | sleb128
  | sdata2
  | sdata4
  | sdata8
  deriving DecidableEq, Repr

namespace ValueFormat

/-- The code of a format in bits 0 to 3 of an encoding. -/
def code : ValueFormat → Nat
  | address => 0x00
  | uleb128 => 0x01
  | udata2 => 0x02
  | udata4 => 0x03
  | udata8 => 0x04
  | sleb128 => 0x09
  | sdata2 => 0x0a
  | sdata4 => 0x0b
  | sdata8 => 0x0c

/-- Every format, in the order of the codes. -/
def all : List ValueFormat :=
  [address, uleb128, udata2, udata4, udata8, sleb128, sdata2, sdata4, sdata8]

/-- The format that bits 0 to 3 of an encoding name. -/
def ofEncoding? (encoding : Int) : Option ValueFormat :=
  all.find? fun f => f.code == encoding % 16

end ValueFormat

/-- What an encoded number is relative to. -/
inductive Application where
  | absolute
  /-- The address of the field itself. -/
  | fieldRelative
  /-- The base address of the data. -/
  | dataRelative
  deriving DecidableEq, Repr

namespace Application

/-- The code of an application in bits 4 to 6 of an encoding. -/
def code : Application → Nat
  | absolute => 0x00
  | fieldRelative => 0x10
  | dataRelative => 0x30

/-- Every application, in the order of the codes. -/
def all : List Application := [absolute, fieldRelative, dataRelative]

end Application

namespace Encoding

/-- The encoding that says that there is no pointer. -/
def omitted : Nat := 0xff

/-- Bits 4 to 6 of an encoding. -/
def application (encoding : Int) : Nat := (encoding / 16 % 8 * 16).toNat

/-- Bit 7 of an encoding: the pointer is the address of the address meant. -/
def isIndirect (encoding : Int) : Bool := encoding / 128 % 2 == 1

/-- The application of an address that stands at the next multiple of its width. -/
def aligned : Nat := 0x50

/-- The application that an encoding names, if it can be resolved. -/
def application? (encoding : Int) : Option Application :=
  Application.all.find? fun a => a.code == application encoding

end Encoding

/-- The addresses that an encoded pointer may be relative to, and the width of an address. -/
structure PointerBase where
  /-- The address of the first octet of the section. -/
  sectionAddress : Int
  /-- The base of data-relative values; the section's address if there is none. -/
  dataAddress : Option Int := none
  addressSize : Int := 8
  deriving Repr

/-- The address that a value at offset `off` is added to. -/
def PointerBase.resolve (b : PointerBase) (off : Nat) : Application → Int
  | .absolute => 0
  | .fieldRelative => b.sectionAddress + off
  | .dataRelative => b.dataAddress.getD b.sectionAddress

/-- The octets of an address: eight where addresses have eight, else four. -/
def addressWidth (addressSize : Int) : Nat := if addressSize = 8 then 8 else 4

/-- How many addresses there are. An address that is too large or negative wraps around. -/
def addressCount : Int := 0x10000000000000000

/-- A number without the bits of another one; negative ones have infinitely many leading ones. -/
def withoutBits : Int → Int → Int
  | .ofNat a, .ofNat b => (a - (a &&& b) : Nat)
  | .ofNat a, .negSucc b => (a &&& b : Nat)
  | .negSucc a, .ofNat b => .negSucc (a ||| b)
  | .negSucc a, .negSucc b => (b - (b &&& a) : Nat)

/-- The first offset from `off` on that is a multiple of `n`, a power of two: the bits below those
of `n` are cleared in `off + n - 1`. -/
def alignedOffset (off : Nat) (n : Int) : Nat := (withoutBits (off + n - 1) (n - 1)).toNat

theorem alignedOffset_of_pos {n : Nat} (off : Nat) (h : 0 < n) :
    alignedOffset off n = (off + n - 1) - ((off + n - 1) &&& (n - 1)) := by
  obtain ⟨m, rfl⟩ : ∃ m, n = m + 1 := ⟨n - 1, by omega⟩
  have h₁ : (off : Int) + (m + 1 : Nat) - 1 = Int.ofNat (off + m) := by simp; omega
  have h₂ : ((m + 1 : Nat) : Int) - 1 = Int.ofNat m := by simp
  rw [alignedOffset, h₁, h₂]
  simp only [withoutBits, Int.toNat_natCast]
  rfl

namespace Bytes

/-- A number of a given format. -/
def readValue (d : Bytes) (f : ValueFormat) (addressSize : Int) (off : Nat) :
    Except DecodeError (Int × Nat) :=
  match f with
  | .address => d.readWord ⟨addressWidth addressSize, false⟩ off
  | .uleb128 => do let (n, next) ← d.readUnsignedLeb off; return (n, next)
  | .udata2 => d.readWord .u16 off
  | .udata4 => d.readWord .u32 off
  | .udata8 => d.readWord .u64 off
  | .sleb128 => d.readSignedLeb off
  | .sdata2 => d.readWord .i16 off
  | .sdata4 => d.readWord .i32 off
  | .sdata8 => d.readWord .i64 off

/-- The number of an encoded field: bits 0 to 3 of the encoding count, no base is added. -/
def readEncodedValue (d : Bytes) (encoding addressSize : Int) (off : Nat) :
    Except DecodeError (Int × Nat) :=
  match ValueFormat.ofEncoding? encoding with
  | some f => d.readValue f addressSize off
  | none => .error (.valueFormat encoding)

/-- The address that an encoded pointer stands for. A number that cannot be read is reported
before an application that cannot be resolved. -/
def readPointer (d : Bytes) (b : PointerBase) (encoding : Int) (off : Nat) :
    Except DecodeError (Nat × Nat) :=
  if encoding = Encoding.omitted then .error .pointerOmitted
  else if Encoding.isIndirect encoding then .error (.pointerIndirect encoding)
  else if Encoding.application encoding = Encoding.aligned then
    d.readUnsigned (addressWidth b.addressSize) (alignedOffset off b.addressSize)
  else do
    let (value, next) ← d.readEncodedValue encoding b.addressSize off
    match Encoding.application? encoding with
    | some a => return (((b.resolve off a + value) % addressCount).toNat, next)
    | none => .error (.pointerApplication (Encoding.application encoding))

end Bytes

end FunctionBounds
