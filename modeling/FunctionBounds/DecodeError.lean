import FunctionBounds.Text.Decimal

/-!
# Decoding errors

Why a field or a record of call-frame data cannot be decoded, and the sentence that says so.

* `DecodeError.unwritable?`: whether the sentence holds a number that is too long to be written.
-/

namespace FunctionBounds

open Text (hex hexCode)

/-- Why a field or a record of call-frame data cannot be decoded. -/
inductive DecodeError where
  /-- An octet was asked for at or after the end. -/
  | byteOutside (offset : Nat)
  /-- A word of `width` octets does not lie inside the `size` octets. -/
  | wordOutside (width : Nat) (offset : Int) (size : Nat)
  /-- Every octet of an unsigned LEB128 number says that another follows. -/
  | unsignedUnterminated
  /-- Every octet of a signed LEB128 number says that another follows. -/
  | signedUnterminated
  /-- No NUL follows. -/
  | stringUnterminated (offset : Nat)
  /-- The low four bits of the encoding name no value format. -/
  | valueFormat (encoding : Int)
  /-- The encoding says that there is no pointer. -/
  | pointerOmitted
  /-- The pointer is the address of the address meant. -/
  | pointerIndirect (encoding : Int)
  /-- The value is relative to a base that is not known here. -/
  | pointerApplication (application : Nat)
  /-- The length of a record reaches past the end of the section. -/
  | recordOutside (offset length size : Nat)
  /-- The length of a record does not cover its identifier. -/
  | recordTooShort (offset : Nat)
  /-- The record that a frame description refers to is not a common entry. -/
  | notCommonEntry (offset : Nat)
  | entryVersion (version : Nat)
  | entryAddressSize (size : Nat)
  /-- The fields of a common entry reach past its record. -/
  | entryOverrun (offset : Nat)
  /-- A common entry says that its frame descriptions hold no addresses. -/
  | entryWithoutAddresses (offset : Nat)
  /-- A frame description refers to a common entry outside the section. -/
  | entryPointer (pointer : Nat)
  /-- The fields of a frame description reach past its record. -/
  | descriptionOverrun
  | negativeRange (size : Int)
  deriving DecidableEq, Repr

/-- The sentence that reports an error. -/
def DecodeError.message : DecodeError → String
  | byteOutside offset => "u8 read past end at " ++ hex offset
  | wordOutside width offset size =>
    s!"{width}-byte read past end at {hex offset} (buffer {hex size})"
  | unsignedUnterminated => "Unterminated ULEB128"
  | signedUnterminated => "Unterminated SLEB128"
  | stringUnterminated offset => "Unterminated string at " ++ hex offset
  | valueFormat encoding => "Unsupported pointer value format " ++ hexCode encoding
  | pointerOmitted => "Pointer encoding is DW_EH_PE_omit"
  | pointerIndirect encoding => s!"Indirect pointer encoding {hexCode encoding} is not supported"
  | pointerApplication application =>
    s!"Pointer application {hexCode application} is not supported"
  | recordOutside offset length size =>
    s!"Record at {hex offset} declares {hex length} bytes, past end of region ({hex size})"
  | recordTooShort offset => s!"Record at {hex offset} is too short"
  | notCommonEntry offset => "No CIE at " ++ hex offset
  | entryVersion version => s!"Unsupported CIE version {version}"
  | entryAddressSize size => s!"Unsupported address size {size}"
  | entryOverrun offset => s!"CIE at {hex offset} overruns its record"
  | entryWithoutAddresses offset => s!"CIE at {hex offset} omits FDE addresses"
  | entryPointer pointer => s!"CIE pointer {hex pointer} out of range"
  | descriptionOverrun => "FDE overruns its record"
  | negativeRange size => s!"Negative address range {size}"

/-- What keeps the sentence from being written, if anything does. Only the size of a negative range
can be that long: all other numbers in decimal are octets or widths of words. -/
def DecodeError.unwritable? (e : DecodeError) (l : Text.DigitLimit) : Option Text.TooLong :=
  match e with
  | negativeRange size =>
    match l.check size with
    | .ok () => none
    | .error cause => some cause
  | _ => none

@[simp] theorem DecodeError.unwritable?_none (e : DecodeError) : e.unwritable? none = none := by
  cases e <;> rfl

end FunctionBounds
