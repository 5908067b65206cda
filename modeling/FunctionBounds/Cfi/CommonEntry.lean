import FunctionBounds.Field.Pointer
import FunctionBounds.Cfi.Record

/-!
# Common entries

A common entry holds what frame descriptions share, of which the width of addresses and the
encoding of function addresses matter here.

* `Letter`: the letters of an augmentation that say which fields follow.
* `CommonEntry.read`: the common entry at an offset.
-/

namespace FunctionBounds.Cfi

/-- The letters of an augmentation whose fields are known. -/
inductive Letter where
  /-- `R`: the encoding of function addresses. -/
  | addressEncoding
  /-- `L`: the encoding of the language's data. -/
  | dataEncoding
  /-- `P`: the encoding of the personality routine, and its address. -/
  | personality
  /-- `S`: a signal frame. -/
  | signalFrame
  /-- `B`: signed return addresses. -/
  | signedReturn
  deriving DecidableEq, Repr

namespace Letter

/-- The octet of a letter in an augmentation. -/
def octet : Letter → UInt8
  | addressEncoding => 0x52
  | dataEncoding => 0x4c
  | personality => 0x50
  | signalFrame => 0x53
  | signedReturn => 0x42

/-- Every letter. -/
def all : List Letter := [addressEncoding, dataEncoding, personality, signalFrame, signedReturn]

/-- The letter that an octet stands for. -/
def ofOctet? (b : UInt8) : Option Letter := all.find? fun l => l.octet == b

/-- Reads the field of a letter: the encoding of addresses, as known so far and then after the
field, and the offset after the field. -/
def read (d : Bytes) (addressSize : Nat) (l : Letter) (encoding off : Nat) :
    Except DecodeError (Nat × Nat) := do
  match l with
  | addressEncoding => d.readByte off
  | dataEncoding =>
    let (_, next) ← d.readByte off
    return (encoding, next)
  | personality =>
    let (form, next) ← d.readByte off
    let (_, next) ← d.readEncodedValue form addressSize next
    return (encoding, next)
  | signalFrame => return (encoding, off)
  | signedReturn => return (encoding, off)

/-- Reads the fields of the letters of an augmentation in order. The fields from the first unknown
letter on cannot be told apart and are left alone. -/
def readAll (d : Bytes) (addressSize : Nat) : List UInt8 → Nat → Nat →
    Except DecodeError (Nat × Nat)
  | [], encoding, off => return (encoding, off)
  | b :: rest, encoding, off =>
    match ofOctet? b with
    | none => return (encoding, off)
    | some l => do
      let (encoding, off) ← l.read d addressSize encoding off
      readAll d addressSize rest encoding off

theorem ofOctet?_octet (l : Letter) : ofOctet? l.octet = some l := by
  cases l <;> decide

theorem readAll_cons (d : Bytes) (addressSize : Nat) (l : Letter) (rest : List UInt8)
    (encoding off : Nat) :
    readAll d addressSize (l.octet :: rest) encoding off =
      (l.read d addressSize encoding off).bind fun (encoding, off) =>
        readAll d addressSize rest encoding off := by
  rw [readAll, ofOctet?_octet]
  rfl

end Letter

/-- What frame descriptions need of their common entry. -/
structure CommonEntry where
  offset : Nat
  version : Nat
  augmentation : List UInt8
  addressSize : Nat
  /-- The pointer encoding of function addresses. -/
  encoding : Nat
  deriving DecidableEq, Repr

namespace CommonEntry

/-- The version from which on an entry gives the width of addresses. -/
def sizedVersion : Nat := 4

/-- Reads the widths of addresses and segment selectors, which entries of version 4 give. -/
def readAddressSize (d : Bytes) (version off : Nat) : Except DecodeError (Nat × Nat) :=
  if version < sizedVersion then return (8, off)
  else do
    let (addressSize, off) ← d.readByte off
    let (_, off) ← d.readByte off
    if addressSize = 4 ∨ addressSize = 8 then return (addressSize, off)
    else throw (.entryAddressSize addressSize)

/-- The offset after the field that an augmentation starting with `eh` has in front of the
alignments. -/
def skipLegacyData (augmentation : List UInt8) (addressSize off : Nat) : Nat :=
  if augmentation.take 2 == [0x65, 0x68] then off + addressSize else off

/-- Reads past the alignments and the return register, which is one octet in version 1. -/
def skipAlignments (d : Bytes) (version off : Nat) : Except DecodeError Nat := do
  let (_, off) ← d.readUnsignedLeb off
  let (_, off) ← d.readSignedLeb off
  let (_, off) ← if version = 1 then d.readByte off else d.readUnsignedLeb off
  return off

/-- Reads the encoding of function addresses, which an augmentation starting with `z` may give. -/
def readEncoding (d : Bytes) (augmentation : List UInt8) (addressSize off : Nat) :
    Except DecodeError (Nat × Nat) :=
  match augmentation with
  | 0x7a :: letters => do
    let (_, off) ← d.readUnsignedLeb off
    Letter.readAll d addressSize letters ValueFormat.address.code off
  | _ => return (ValueFormat.address.code, off)

/-- Reads the fields of a common entry after its identifier. -/
def readFields (d : Bytes) (r : Record) : Except DecodeError CommonEntry := do
  let (version, off) ← d.readByte r.body
  unless version = 1 ∨ version = 3 ∨ version = 4 do throw (.entryVersion version)
  let (augmentation, off) ← d.readString off
  let augmentation := augmentation.toList
  let (addressSize, off) ← readAddressSize d version off
  let off ← skipAlignments d version (skipLegacyData augmentation addressSize off)
  let (encoding, off) ← readEncoding d augmentation addressSize off
  if r.stop < off then throw (.entryOverrun r.offset)
  if encoding = Encoding.omitted then throw (.entryWithoutAddresses r.offset)
  return ⟨r.offset, version, augmentation, addressSize, encoding⟩

/-- The common entry at an offset. -/
def read (d : Bytes) (c : Convention) (off : Nat) : Except DecodeError CommonEntry := do
  let r ← Record.read d c off
  if r.isCommon d c then readFields d r else throw (.notCommonEntry off)

end CommonEntry

end FunctionBounds.Cfi
