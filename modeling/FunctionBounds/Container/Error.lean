import FunctionBounds.Text.Number

/-!
# Container errors

Why a file cannot be opened: its headers do not fit together, a region reaches past its end, or
the format is known but not handled.
-/

namespace FunctionBounds

open Text (hex)

/-- How the headers of a file can be wrong. -/
inductive Malformation where
  | unknownMagic
  | elfTooSmall (size : Nat)
  | elfMagic
  | sectionEntrySize (size : Nat)
  | segmentEntrySize (size : Nat)
  /-- There is neither a table of sections nor one of segments. -/
  | noTables
  | dosHeader
  | peSignature (offset : Nat)
  | coffHeader
  | optionalHeader
  | optionalMagic (magic : Nat)
  deriving DecidableEq, Repr

/-- What is known but not handled. -/
inductive Unsupported where
  | elfClass (code : Nat)
  | byteOrder (code : Nat)
  /-- The regions of a PE file. -/
  | peRegions (arch : String)
  deriving DecidableEq, Repr

/-- Why a file cannot be opened. -/
inductive ContainerError where
  | malformed (cause : Malformation)
  /-- A region reaches past the end of the file. -/
  | truncated (name : String) (offset size fileSize : Nat)
  | unsupported (cause : Unsupported)
  deriving DecidableEq, Repr

/-- The sentence that reports wrong headers. -/
def Malformation.message : Malformation → String
  | unknownMagic => "Unrecognised container magic"
  | elfTooSmall size => s!"Buffer of {size} bytes is too small for an ELF64 header"
  | elfMagic => "Missing ELF identification magic"
  | sectionEntrySize size => s!"Section header entry size {size} is below 64"
  | segmentEntrySize size => s!"Program header entry size {size} is below 56"
  | noTables => "neither section headers nor program headers present"
  | dosHeader => "Missing MZ DOS header"
  | peSignature offset => "Missing PE signature at " ++ hex offset
  | coffHeader => "Truncated COFF header"
  | optionalHeader => "Truncated optional header"
  | optionalMagic magic => "Unknown optional header magic " ++ hex magic

/-- The sentence that reports what is not handled. -/
def Unsupported.message : Unsupported → String
  | elfClass code => s!"Only ELF64 is supported (EI_CLASS={code})"
  | byteOrder code => s!"Only little-endian ELF is supported (EI_DATA={code})"
  | peRegions arch => s!"PE ({arch}) region extraction is not supported"

/-- The sentence that reports an error. -/
def ContainerError.message : ContainerError → String
  | malformed cause => cause.message
  | truncated name offset size fileSize =>
    let shown := if name.isEmpty then "<unnamed>" else name
    s!"Region {shown} at offset {hex offset} ({hex size} bytes) " ++
      s!"exceeds buffer of {hex fileSize} bytes"
  | unsupported cause => cause.message

end FunctionBounds
