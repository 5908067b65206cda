import FunctionBounds.Candidate
import FunctionBounds.Journal
import FunctionBounds.Cfi.CommonEntry
import Std.Data.TreeMap.Basic

/-!
# Scanning a call-frame section

Each record of a section that is not a common entry describes one function.

* `Section.describe`: the function of a frame description, given its common entry.
* `Section.visit`: what one record contributes. Common entries that could be read are kept in a
  cache, which a later scan of the same section may go on with.
* `Section.scan`: every record in order; `Scan.candidates` and `Scan.notes` are what it gives.
* `Scan.report`: the same where numbers in notes are bounded.
-/

namespace FunctionBounds.Cfi

open Text (hex)

/-- A call-frame section and the address of its first octet. -/
structure Section where
  bytes : Bytes
  base : Int
  deriving Repr

/-- Common entries by offset. -/
abbrev EntryCache := Std.TreeMap Nat CommonEntry

/-- What a record contributes. -/
inductive Outcome where
  | commonEntry
  | function (candidate : Candidate)
  | skipped (cause : DecodeError)
  deriving DecidableEq, Repr

/-- A record and what it contributes. -/
structure Visit where
  record : Record
  outcome : Outcome
  deriving DecidableEq, Repr

/-- The course of a scan. -/
structure Scan where
  visits : List Visit
  stop : Nat
  ending : Ending
  deriving DecidableEq, Repr

/-- The offset of the common entry that a frame description refers to. -/
def Record.entryOffset (r : Record) (d : Bytes) (c : Convention) : Except DecodeError Nat :=
  let pointer := r.identifier d
  let offset? := match c with
    | .ehFrame => if pointer ≤ r.idOffset then some (r.idOffset - pointer) else none
    | .debugFrame => some pointer
  match offset? with
  | some off => if off < d.size then .ok off else .error (.entryPointer pointer)
  | none => .error (.entryPointer pointer)

namespace Section

/-- The function of a frame description: an address, and a size in the same format. -/
def describe (s : Section) (entry : CommonEntry) (r : Record) : Except DecodeError Candidate := do
  let base : PointerBase := { sectionAddress := s.base, addressSize := entry.addressSize }
  let (start, off) ← s.bytes.readPointer base entry.encoding r.body
  let (size, off) ← s.bytes.readEncodedValue entry.encoding entry.addressSize off
  if r.stop < off then throw .descriptionOverrun
  if size < 0 then throw (.negativeRange size)
  return ⟨Candidate.nameAt start, start, size.toNat⟩

/-- The common entry at an offset, from the cache or else read and put into it. -/
def entryAt (s : Section) (c : Convention) (cache : EntryCache) (off : Nat) :
    Except DecodeError CommonEntry × EntryCache :=
  match cache[off]? with
  | some entry => (.ok entry, cache)
  | none =>
    match CommonEntry.read s.bytes c off with
    | .ok entry => (.ok entry, cache.insert off entry)
    | .error cause => (.error cause, cache)

/-- The candidate of a frame description. -/
def candidate (s : Section) (c : Convention) (cache : EntryCache) (r : Record) :
    Except DecodeError Candidate × EntryCache :=
  match r.entryOffset s.bytes c with
  | .error cause => (.error cause, cache)
  | .ok off =>
    let (entry, cache) := s.entryAt c cache off
    (entry.bind (s.describe · r), cache)

/-- What one record contributes. -/
def visit (s : Section) (c : Convention) (cache : EntryCache) (r : Record) : Visit × EntryCache :=
  if r.isCommon s.bytes c then (⟨r, .commonEntry⟩, cache)
  else
    match s.candidate c cache r with
    | (.ok f, cache) => (⟨r, .function f⟩, cache)
    | (.error cause, cache) => (⟨r, .skipped cause⟩, cache)

/-- What records contribute, in order. -/
def visitAll (s : Section) (c : Convention) (cache : EntryCache) (records : List Record) :
    List Visit × EntryCache :=
  let (visits, cache) := records.foldl (fun (visits, cache) r =>
    let (v, cache) := s.visit c cache r
    (v :: visits, cache)) ([], cache)
  (visits.reverse, cache)

/-- Scans every record, going on with the common entries of the cache. -/
def scanWith (s : Section) (c : Convention) (cache : EntryCache) : Scan × EntryCache :=
  let chain := Chain.read s.bytes c
  let (visits, cache) := s.visitAll c cache chain.records
  (⟨visits, chain.stop, chain.ending⟩, cache)

/-- Scans every record. -/
def scan (s : Section) (c : Convention) : Scan := (s.scanWith c {}).1

/-- Scans the section once for each convention, going on with the same common entries. -/
def scanPasses (s : Section) (passes : List Convention) : List Scan :=
  go passes {}
where
  go : List Convention → EntryCache → List Scan
    | [], _ => []
    | c :: rest, cache =>
      let (result, cache) := s.scanWith c cache
      result :: go rest cache

end Section

/-- The candidate of a visit. -/
def Visit.candidate? (v : Visit) : Option Candidate :=
  match v.outcome with
  | .function f => some f
  | _ => none

/-- The note about a visit, if its record was skipped. -/
def Visit.note? (v : Visit) : Option Note :=
  match v.outcome with
  | .skipped cause => some (.debug s!"Skipping FDE at {hex v.record.offset}: {cause.message}")
  | _ => none

/-- What keeps the note about a visit from being written, if anything does. -/
def Visit.unwritable? (v : Visit) (l : Text.DigitLimit) : Option Text.TooLong :=
  match v.outcome with
  | .skipped cause => cause.unwritable? l
  | _ => none

@[simp] theorem Visit.unwritable?_none (v : Visit) : v.unwritable? none = none := by
  unfold Visit.unwritable?
  split <;> simp

namespace Scan

/-- The functions found, by start; those of equal start in the order of the section. -/
def candidates (s : Scan) : List Candidate := Candidate.sorted (s.visits.filterMap (·.candidate?))

/-- The note about the end of the records, if they end with one that cannot be read. -/
def stopNote? (s : Scan) : Option Note :=
  match s.ending with
  | .undecodable cause => some (.debug s!"Stopping CFI walk at {hex s.stop}: {cause.message}")
  | _ => none

/-- The notes of a scan: one for each skipped record, one for an early end, and their number. -/
def notes (s : Scan) : List Note :=
  let skips := s.visits.filterMap (·.note?)
  skips ++ s.stopNote?.toList ++
    if skips.isEmpty then [] else [.warning s!"Skipped {skips.length} malformed FDE(s)"]

/-- The functions and the notes of a scan. The first note that cannot be written ends it; the notes
before it stay. -/
def report (s : Scan) (l : Text.DigitLimit) : Noted Text.TooLong (List Candidate) :=
  match s.visits.findSome? (·.unwritable? l) with
  | none => ⟨.ok s.candidates, s.notes⟩
  | some cause =>
    let written := s.visits.takeWhile fun v => (v.unwritable? l).isNone
    ⟨.error cause, written.filterMap (·.note?)⟩

theorem report_none (s : Scan) : s.report none = ⟨.ok s.candidates, s.notes⟩ := by
  have h : s.visits.findSome? (·.unwritable? none) = none := by
    simp [List.findSome?_eq_none_iff]
  rw [report, h]

end Scan

end FunctionBounds.Cfi
