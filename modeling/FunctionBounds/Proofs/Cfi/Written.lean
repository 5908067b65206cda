import FunctionBounds.Cfi.Scan
import FunctionBounds.Proofs.Field.Written

/-!
# Written sections

How a call-frame section is written: its records one after the other from the first octet on, in
either convention.

- **Common entries** (`WrittenEntry`): every version, and every augmentation of known letters. The
  last letter `R` gives the form of function addresses (`WrittenEntry.addressForm`).
- **Frame descriptions** (`WrittenDescription`): the function and how its start is written.
- **Records** (`WrittenRecord`): either of them after a length of four or of eight octets and an
  identifier (`frame`).
- **Sections** (`placed`, `sectionOctets`): records and the offsets where they stand.
- **What can be written** (`WrittenRecord.Writable`): every number is in the range of its field, and
  a frame description refers to a common entry of the section.
-/

namespace FunctionBounds.Cfi

/-! ## Common entries -/

/-- The versions of a common entry. The fourth gives the width of addresses. -/
inductive EntryVersion where
  | first
  | third
  | fourth (narrow : Bool)
  deriving DecidableEq, Repr

namespace EntryVersion

def number : EntryVersion → Nat
  | first => 1
  | third => 3
  | fourth _ => 4

/-- The width of addresses. -/
def addressSize : EntryVersion → Nat
  | first | third | fourth false => 8
  | fourth true => 4

/-- The widths of addresses and of segment selectors, of which there are none. -/
def sizes (v : EntryVersion) : List UInt8 :=
  match v with
  | first | third => []
  | fourth _ => [.ofNat v.addressSize, 0]

end EntryVersion

/-- A letter of an augmentation and its field. -/
inductive WrittenLetter where
  | addressEncoding (form : AddressForm)
  | dataEncoding (encoding : UInt8)
  /-- Of the encoding of the personality routine only the format matters. -/
  | personality (application : Fin 16) (format : ValueFormat) (routine : Numeral)
  | signalFrame
  | signedReturn
  deriving DecidableEq, Repr

namespace WrittenLetter

def letter : WrittenLetter → Letter
  | addressEncoding _ => .addressEncoding
  | dataEncoding _ => .dataEncoding
  | personality .. => .personality
  | signalFrame => .signalFrame
  | signedReturn => .signedReturn

/-- The octets of the field. -/
def octets (addressSize : Nat) : WrittenLetter → List UInt8
  | addressEncoding form => [.ofNat form.code]
  | dataEncoding encoding => [encoding]
  | personality application format routine =>
    .ofNat (application * 16 + format.code) :: routine.octets format addressSize
  | signalFrame => []
  | signedReturn => []

/-- The form of function addresses after the field, given the one before it. -/
def revise (form : AddressForm) : WrittenLetter → AddressForm
  | addressEncoding form => form
  | dataEncoding _ | personality .. | signalFrame | signedReturn => form

end WrittenLetter

/-- An augmentation that starts with `z`: its letters, and the length that it states. -/
structure WrittenAugmentation where
  letters : List WrittenLetter
  length : Numeral
  deriving DecidableEq, Repr

/-- A common entry as it is written. -/
structure WrittenEntry where
  /-- The length of the record has eight octets. -/
  wide : Bool
  version : EntryVersion
  augmentation : Option WrittenAugmentation
  codeAlignment : Numeral
  dataAlignment : Numeral
  /-- One octet in the first version. -/
  returnRegister : Numeral
  /-- Instructions and padding. -/
  rest : List UInt8
  deriving DecidableEq, Repr

namespace WrittenEntry

def letters (e : WrittenEntry) : List WrittenLetter := e.augmentation.elim [] (·.letters)

/-- The octets of the augmentation, without the NUL after it. -/
def augmentationOctets (e : WrittenEntry) : List UInt8 :=
  match e.augmentation with
  | none => []
  | some a => 0x7a :: a.letters.map (·.letter.octet)

def returnOctets (e : WrittenEntry) : List UInt8 :=
  match e.version with
  | .first => [.ofNat e.returnRegister.value.toNat]
  | .third | .fourth _ => e.returnRegister.octets .uleb128 e.version.addressSize

/-- The stated length of the fields of the letters, and the fields. -/
def fieldOctets (e : WrittenEntry) : List UInt8 :=
  match e.augmentation with
  | none => []
  | some a =>
    a.length.octets .uleb128 e.version.addressSize ++
      a.letters.flatMap (·.octets e.version.addressSize)

/-- The octets up to the fields of the letters. -/
def headOctets (e : WrittenEntry) : List UInt8 :=
  [.ofNat e.version.number] ++ ((e.augmentationOctets ++ [0]) ++ (e.version.sizes ++
    (e.codeAlignment.octets .uleb128 e.version.addressSize ++
      (e.dataAlignment.octets .sleb128 e.version.addressSize ++ e.returnOctets))))

/-- The octets after the identifier. -/
def body (e : WrittenEntry) : List UInt8 := e.headOctets ++ (e.fieldOctets ++ e.rest)

/-- The form of function addresses: that of the last letter `R`, else plain addresses. -/
def addressForm (e : WrittenEntry) : AddressForm :=
  e.letters.foldl WrittenLetter.revise ⟨.absolute, .address⟩

end WrittenEntry

/-! ## Frame descriptions -/

/-- A frame description as it is written. -/
structure WrittenDescription where
  /-- The length of the record has eight octets. -/
  wide : Bool
  /-- The common entry that it refers to, and where it stands. -/
  entry : WrittenEntry
  entryOffset : Nat
  start : Nat
  size : Nat
  /-- What stands for the start: the difference to the address that it is relative to. -/
  location : Numeral
  /-- How many groups stand before the last one if the size is written in LEB128. -/
  sizeMore : Nat
  /-- The data of the augmentation, instructions and padding. -/
  rest : List UInt8
  deriving DecidableEq, Repr

namespace WrittenDescription

/-- The size as a number. -/
def extent (f : WrittenDescription) : Numeral := ⟨f.size, f.sizeMore⟩

/-- The octets after the identifier. -/
def body (f : WrittenDescription) : List UInt8 :=
  f.location.octets f.entry.addressForm.format f.entry.version.addressSize ++
    (f.extent.octets f.entry.addressForm.format f.entry.version.addressSize ++ f.rest)

/-- The function that is described. -/
def candidate (f : WrittenDescription) : Candidate :=
  ⟨"FUNC_0x" ++ Text.hexDigits f.start, f.start, f.size⟩

end WrittenDescription

/-! ## Records -/

/-- A record as it is written. -/
inductive WrittenRecord where
  | common (entry : WrittenEntry)
  | description (f : WrittenDescription)
  deriving DecidableEq, Repr

/-- The width of the identifier of a record. -/
def Convention.idWidth (c : Convention) (wide : Bool) : Nat := if wide then c.wideIdWidth else 4

/-- The octets of the length of a record. -/
def lengthOctets (wide : Bool) (n : Nat) : List UInt8 :=
  if wide then littleEndian 4 wideLength ++ littleEndian 8 n else littleEndian 4 n

/-- How many octets the length of a record has. -/
def lengthWidth (wide : Bool) : Nat := if wide then 12 else 4

/-- A length, an identifier and the octets after it. -/
def frame (c : Convention) (wide : Bool) (id : Nat) (body : List UInt8) : List UInt8 :=
  lengthOctets wide (c.idWidth wide + body.length) ++ (littleEndian (c.idWidth wide) id ++ body)

namespace WrittenRecord

def wide : WrittenRecord → Bool
  | common e => e.wide
  | description f => f.wide

def body : WrittenRecord → List UInt8
  | common e => e.body
  | description f => f.body

/-- The identifier of a record at `off`. -/
def id (c : Convention) (off : Nat) (w : WrittenRecord) : Nat :=
  match w with
  | common e => c.commonId (c.idWidth e.wide)
  | description f =>
    match c with
    | .ehFrame => off + lengthWidth f.wide - f.entryOffset
    | .debugFrame => f.entryOffset

/-- The octets of a record at `off`. -/
def octets (c : Convention) (off : Nat) (w : WrittenRecord) : List UInt8 :=
  frame c w.wide (w.id c off) w.body

/-- The number of octets of a record. -/
def size (c : Convention) (w : WrittenRecord) : Nat :=
  lengthWidth w.wide + (c.idWidth w.wide + w.body.length)

/-- The function of a record that is a frame description. -/
def candidate? : WrittenRecord → Option Candidate
  | common _ => none
  | description f => some f.candidate

/-- The bounds of a record at `off`. -/
def bounds (c : Convention) (off : Nat) (w : WrittenRecord) : Record :=
  ⟨off, off + lengthWidth w.wide, c.idWidth w.wide, off + w.size c⟩

end WrittenRecord

/-! ## Sections -/

/-- Records one after the other from an offset on, each with its own offset. -/
def placed (c : Convention) : Nat → List WrittenRecord → List (Nat × WrittenRecord)
  | _, [] => []
  | off, w :: ws => (off, w) :: placed c (off + w.size c) ws

/-- The octets of records one after the other from an offset on. -/
def sectionOctets (c : Convention) (off : Nat) (ws : List WrittenRecord) : List UInt8 :=
  (placed c off ws).flatMap fun (o, w) => w.octets c o

/-- Octets after which no record is looked for: too few for a length, or a length of zero. -/
def EndsRecords (tail : List UInt8) : Prop :=
  tail.length < 4 ∨ ∃ more, tail = [0, 0, 0, 0] ++ more

/-! ## What can be written -/

/-- The length of a record is in the range of its field. -/
def WrittenRecord.LengthFits (c : Convention) (w : WrittenRecord) : Prop :=
  c.idWidth w.wide + w.body.length < if w.wide then 1 <<< 64 else wideLength

/-- The identifier tells a frame description at `off` where its common entry stands: before it and
not too far away, or at an offset that is in the range of the identifier. -/
def WrittenDescription.Refers (c : Convention) (off : Nat) (f : WrittenDescription) : Prop :=
  match c with
  | .ehFrame => f.entryOffset < off ∧ off + lengthWidth f.wide - f.entryOffset < 1 <<< 32
  | .debugFrame => f.entryOffset < c.commonId (c.idWidth f.wide)

/-- The start and the size are in the range of their fields, and the start is what stands for it
added to the address that it is relative to, in a section whose first octet has the address
`base`. -/
def WrittenDescription.Fits (c : Convention) (base : Int) (off : Nat) (f : WrittenDescription) :
    Prop :=
  let form := f.entry.addressForm
  let addressSize : Int := f.entry.version.addressSize
  let field := off + lengthWidth f.wide + c.idWidth f.wide
  f.location.Fits form.format addressSize ∧ f.extent.Fits form.format addressSize ∧
    (f.start : Int) =
      ((PointerBase.mk base none addressSize).resolve field form.application + f.location.value) %
        addressCount

/-- A record at `off` can be written in a section that has the records `all`. -/
def WrittenRecord.Writable (c : Convention) (base : Int) (all : List (Nat × WrittenRecord))
    (off : Nat) (w : WrittenRecord) : Prop :=
  w.LengthFits c ∧
    match w with
    | .common _ => True
    | .description f =>
      (f.entryOffset, .common f.entry) ∈ all ∧ f.Refers c off ∧ f.Fits c base off

/-- Every record of a section can be written. -/
def Writable (c : Convention) (base : Int) (ws : List WrittenRecord) : Prop :=
  ∀ p ∈ placed c 0 ws, p.2.Writable c base (placed c 0 ws) p.1

section Decidable

variable {c : Convention} {base : Int} {off : Nat}

instance (w : WrittenRecord) : Decidable (w.LengthFits c) := inferInstanceAs (Decidable (_ < _))

instance (f : WrittenDescription) : Decidable (f.Refers c off) :=
  match c with
  | .ehFrame => inferInstanceAs (Decidable (_ ∧ _))
  | .debugFrame => inferInstanceAs (Decidable (_ < _))

instance (f : WrittenDescription) : Decidable (f.Fits c base off) :=
  inferInstanceAs (Decidable (_ ∧ _ ∧ _))

instance (w : WrittenRecord) (all : List (Nat × WrittenRecord)) :
    Decidable (w.Writable c base all off) :=
  match w with
  | .common _ => inferInstanceAs (Decidable (_ ∧ True))
  | .description _ => inferInstanceAs (Decidable (_ ∧ _ ∧ _ ∧ _))

instance (ws : List WrittenRecord) : Decidable (Writable c base ws) :=
  inferInstanceAs (Decidable (∀ p ∈ placed c 0 ws, p.2.Writable c base (placed c 0 ws) p.1))

end Decidable

end FunctionBounds.Cfi
