import FunctionBounds.Cfi.Scan
import FunctionBounds.Cfi.SearchTable
import FunctionBounds.Container.Pe
import FunctionBounds.Region.Layout
import FunctionBounds.Registry
import FunctionBounds.SymbolTable
import FunctionBounds.Text.Quoted

/-!
# Sessions

A session is one image and the functions found in it so far. Regions are mined in any order and as
often as one likes; the list of functions is made at the end and made anew after a later merge.

* `Session.ofBytes`: the session of an image.
* `Session.mine`: the functions of one kind of region.
* `Session.scan`: mines a region and merges what it gives.
* `Session.finalize`: names the function at the entry point and lists all functions.
-/

namespace FunctionBounds

/-- An image and the functions found in it. -/
structure Session where
  path : String
  header : Elf.Header
  regions : List Region
  stripped : Bool
  /-- How long numbers in notes may be. -/
  digitLimit : Text.DigitLimit := .standard
  registry : Registry := {}
  /-- The list of functions, if nothing was merged since it was made. -/
  listed : Option (List Candidate) := none
  deriving Repr

/-- Why a region that is there cannot be mined. -/
inductive ScanError where
  | symbolTable (cause : SymbolTable.SizeError)
  | searchTable (cause : Cfi.SearchTable.Error)
  /-- A note holds a number that is too long to be written. -/
  | unwritable (cause : Text.TooLong)
  deriving DecidableEq, Repr

/-- The sentence that reports an error. -/
def ScanError.message : ScanError → String
  | symbolTable cause => cause.message
  | searchTable cause => cause.message
  | unwritable cause => cause.message

/-- A region that is not there. -/
structure MissingRegion where
  name : String
  deriving DecidableEq, Repr

/-- The sentence that reports a missing region. -/
def MissingRegion.message (m : MissingRegion) : String := "Region not found: " ++ m.name

/-- Why a kind of region gives no functions. -/
inductive MiningError where
  | missing (region : MissingRegion)
  | failed (cause : ScanError)
  deriving DecidableEq, Repr

namespace Session

/-- The note about an image that was opened. -/
def openNote (h : Elf.Header) : Note :=
  .debug (s!"ELF64 {h.traits.arch}, entry {Text.hex h.traits.entryPoint}, " ++
    s!"{h.sectionCount} section(s), {h.segmentCount} segment(s)")

/-- The session of an image. PE files are told apart but not opened. -/
def ofBytes (d : Bytes) (path : String) (digitLimit : Text.DigitLimit := .standard) :
    Noted ContainerError Session :=
  match Format.identify d with
  | .elf => do
    let header ← Noted.of (Elf.Header.decode d)
    .note (openNote header)
    let layout ← Layout.extract header d
    return { path, header, regions := layout.regions, stripped := layout.stripped, digitLimit }
  | .pe => do
    let header ← Noted.of (Pe.Header.decode d)
    .of (.error (.unsupported (.peRegions header.traits.arch)))
  | .unknown => .of (.error (.malformed .unknownMagic))

/-- The address at which the program starts. -/
def entryPoint (s : Session) : Nat := s.header.entry.toNat

/-- A session in one line. -/
def describe (s : Session) : String :=
  let stripped := if s.stripped then "True" else "False"
  s!"Binary(path={Text.quoted s.path}, format={Format.elf.name}, " ++
    s!"regions={s.regions.length}, stripped={stripped})"

/-! ## Regions -/

/-- The first region of a name. -/
def region? (s : Session) (name : String) : Option Region := s.regions.find? (·.name == name)

/-- The first region of a name, or an error. -/
def requireRegion (s : Session) (name : String) : Except MissingRegion Region :=
  match s.region? name with
  | some r => .ok r
  | none => .error ⟨name⟩

/-! ## Mining -/

/-- The functions of a region, if it is there. -/
def mineRegion (s : Session) (name : String)
    (mine : Region → Noted ScanError (List Candidate)) : Noted MiningError (List Candidate) :=
  match s.requireRegion name with
  | .ok r => (mine r).mapError .failed
  | .error missing => .of (.error (.missing missing))

/-- The functions of a call-frame section. -/
def mineFrames (s : Session) (c : Cfi.Convention) (r : Region) : Noted ScanError (List Candidate) :=
  let scan := (Cfi.Section.mk r.raw r.virtualAddress).scan c
  (scan.report s.digitLimit).mapError .unwritable

/-- The functions of a symbol table, if it and its string table are there. -/
def mineSymbols (s : Session) (table names : String) : Noted MiningError (List Candidate) :=
  match s.requireRegion table, s.requireRegion names with
  | .ok t, .ok n => ((SymbolTable.scan t.raw n.raw).mapError .symbolTable).mapError .failed
  | .error missing, _ => .of (.error (.missing missing))
  | _, .error missing => .of (.error (.missing missing))

/-- The functions of one kind of region. -/
def mine (s : Session) (k : Evidence) : Noted MiningError (List Candidate) :=
  match k with
  | .ehFrame => s.mineRegion k.regionName (s.mineFrames .ehFrame)
  | .debugFrame => s.mineRegion k.regionName (s.mineFrames .debugFrame)
  | .ehFrameHdr =>
    s.mineRegion k.regionName fun r =>
      (Cfi.SearchTable.scan r.raw r.virtualAddress).mapError .searchTable
  | .symtab => s.mineSymbols ".symtab" ".strtab"
  | .dynsym => s.mineSymbols ".dynsym" ".dynstr"

/-- Takes candidates of one source, and gives a note about it. The list of functions has to be made
anew. -/
def merge (s : Session) (cs : List Candidate) (source : Source) : Session × Note :=
  let (registry, tally) := s.registry.merge cs source
  ({ s with registry, listed := none }, Registry.mergeNote source tally)

/-- Mines a kind of region and merges what it gives: the number of functions found, zero if a
region is missing. Every note belongs to the operation of the region. -/
def scan (s : Session) (k : Evidence) : Session × Noted ScanError Nat :=
  let mined := s.mine k
  let tagged := fun ns => ns.map (Note.during k.regionName)
  match mined.result with
  | .ok cs =>
    let (merged, mergeNote) := s.merge cs k.source
    (merged, ⟨.ok cs.length, tagged (mined.notes ++
      [.info s!"{k.regionName}: {cs.length} candidate(s)", mergeNote])⟩)
  | .error (.missing region) =>
    (s, ⟨.ok 0, tagged (mined.notes ++
      [.warning s!"{region.message}; skipping {k.regionName} scan"])⟩)
  | .error (.failed cause) => (s, ⟨.error cause, tagged mined.notes⟩)

/-! ## The list of functions -/

/-- Names the function at the entry point and lists all functions, unless the list is still good. -/
def finalize (s : Session) : Session × List Candidate :=
  match s.listed with
  | some functions => (s, functions)
  | none =>
    let registry := s.registry.nameEntry s.entryPoint
    ({ s with registry, listed := some registry.functions }, registry.functions)

/-- The notes about making the list. -/
def finalizeNotes (s : Session) : List Note :=
  if s.listed.isSome then [] else s.registry.nameEntryNotes s.entryPoint

end Session

end FunctionBounds
