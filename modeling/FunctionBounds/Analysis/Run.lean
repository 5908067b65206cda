import FunctionBounds.Analysis.Basic
import FunctionBounds.Analysis.SizeLimit
import FunctionBounds.Digest.Sha256
import FunctionBounds.Files
import FunctionBounds.Session

/-!
# Running an analysis

* `Session.survey`: mines several kinds of regions in order. One that fails becomes a warning and
  the others still run, unless a note cannot be written.
* `Analysis.ofBytes`: the analysis of an image.
* `Analysis.contents`: the octets of a file that is to be analysed.
* `Analysis.start`: goes on with them, unless there are too many.
-/

namespace FunctionBounds

/-- Why there is no analysis of a file. -/
inductive AnalysisError where
  | notFound (path : String)
  | tooLarge (size : Nat) (maximum : SizeLimit)
  | container (cause : ContainerError)
  /-- A note holds a number that is too long to be written. -/
  | unwritable (cause : Text.TooLong)
  deriving DecidableEq, Repr

/-- The sentence that reports an error. -/
def AnalysisError.message : AnalysisError → String
  | notFound path => "File not found: " ++ path
  | tooLarge size maximum =>
    s!"File too large: {Text.grouped size} bytes (max: {maximum.text} bytes)"
  | container cause => cause.message
  | unwritable cause => cause.message

/-- A step between a note that it was started and one that it was completed, which also stands
where the step fails. -/
def Noted.timed {ε α : Type} (label elapsed : String) (x : Noted ε α) : Noted ε α :=
  ⟨x.result, .debug s!"Started: {label}" :: x.notes ++
    [.debug s!"Completed: {label} ({elapsed} sec)"]⟩

/-- A session in which several kinds of regions are mined, and what came of it. -/
structure Survey where
  session : Session
  counts : SourceCounts := []
  warnings : List String := []
  notes : List Note := []
  /-- The note that could not be written. Nothing is mined after it. -/
  halted : Option Text.TooLong := none

namespace Session

/-- Mines one more kind of region. -/
def mineOne (v : Survey) (k : Evidence) : Survey :=
  let (session, scanned) := v.session.scan k
  let notes := v.notes ++ scanned.notes
  match scanned.result with
  | .ok n => { v with session, counts := v.counts.set k.regionName n, notes }
  | .error (.unwritable cause) => { v with session, notes, halted := some cause }
  | .error cause =>
    let warning := s!"{k.regionName}: {cause.message}"
    { v with
      session
      warnings := v.warnings ++ [warning]
      notes := notes ++ [.warning warning] }

/-- Mines one more kind of region unless the survey has halted. -/
def surveyOne (v : Survey) (k : Evidence) : Survey :=
  if v.halted.isSome then v else mineOne v k

/-- Mines several kinds of regions in order. -/
def survey (s : Session) (kinds : List Evidence) : Survey :=
  kinds.foldl surveyOne { session := s }

/-- What is known about the file of a session. -/
def info (s : Session) (d : Bytes) : BinaryInfo :=
  let traits := s.header.traits
  { path := s.path
    size := d.size
    format := .elf
    arch := traits.arch
    machine := traits.machine
    bits := if traits.is64Bit then 64 else 32
    entryPoint := s.entryPoint
    isExecutable := traits.isExecutable
    isStripped := s.stripped
    sha256 := Sha256.hexDigest d }

end Session

namespace Analysis

/-- The analysis of an image, from the session that was opened for it. -/
def ofSession (s : Session) (d : Bytes) (kinds : List Evidence) : Noted AnalysisError Analysis :=
  let v := s.survey kinds
  match v.halted with
  | some cause => ⟨.error (.unwritable cause), v.notes⟩
  | none =>
    ⟨.ok {
      info := s.info d
      regions := s.regions.map (·.toRegionInfo)
      functions := v.session.finalize.2
      sourceCounts := v.counts
      warnings := v.warnings }, v.notes ++ v.session.finalizeNotes⟩

/-- The analysis of an image; `elapsed` is the time that is noted at its end. -/
def ofBytes (d : Bytes) (path : String) (kinds : List Evidence) (elapsed : String)
    (digitLimit : Text.DigitLimit := .standard) : Noted AnalysisError Analysis := do
  let a ← Noted.timed s!"analysis of {path}" elapsed do
    let s ← (Session.ofBytes d path digitLimit).mapError .container
    ofSession s d kinds
  .note (.info s!"Recovered {a.functions.length} function(s) from {path}")
  return a

/-- The octets of a file that is to be analysed. -/
def contents (files : Files) (path : String) : Except AnalysisError Bytes :=
  match files.look path with
  | .file d => .ok d
  | _ => .error (.notFound path)

/-- Starts on the octets of a file. There must not be more of them than `maximum`. -/
def start (path : String) (d : Bytes) (maximum : SizeLimit) : Noted AnalysisError Unit :=
  if maximum.allows d.size then .note (.info s!"Starting analysis of {collapsePath path}")
  else .of (.error (.tooLarge d.size maximum))

end Analysis

end FunctionBounds
