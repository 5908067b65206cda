import FunctionBounds.Candidate
import FunctionBounds.Journal
import FunctionBounds.Source
import Std.Data.TreeMap.Basic
import Std.Data.TreeMap.Lemmas

/-!
# The registry of functions

One candidate for each start address. A candidate from a source that is trusted more replaces the
stored one; otherwise the first stays. `get?_put` and `source?_put` say what storing a candidate
changes.

* `Registry.merge`: takes candidates of one source.
* `Registry.nameEntry`, `Registry.identify`: call the function at an address `entry` and protect
  it from later merges.
* `Registry.functions`: the stored candidates by start.
-/

namespace FunctionBounds

open Text (hex)

/-- A stored candidate and the source it came from. -/
structure Entry where
  candidate : Candidate
  source : Source
  /-- How many addresses were stored before this one was. -/
  arrival : Nat
  deriving DecidableEq, Repr

/-- The stored candidates by start. -/
structure Registry where
  byStart : Std.TreeMap Nat Entry := {}
  deriving Repr

/-- What became of the candidates of a merge. -/
structure MergeTally where
  inserted : Nat := 0
  replaced : Nat := 0
  discarded : Nat := 0
  deriving DecidableEq, Repr

namespace Registry

/-- The name of the function at the entry point. -/
def entryName : String := "entry"

/-- The name that another function called `entry` gets. -/
def aliasAt (address : Nat) : String := s!"{entryName}@{hex address}"

/-- The number of stored candidates. -/
def size (r : Registry) : Nat := r.byStart.size

/-- What is stored, by start. -/
def entries (r : Registry) : List Entry := r.byStart.toList.map (·.2)

/-- What is stored at an address. -/
def find? (r : Registry) (address : Int) : Option Entry :=
  match address with
  | .ofNat a => r.byStart[a]?
  | .negSucc _ => none

/-- The candidate at an address. -/
def get? (r : Registry) (address : Int) : Option Candidate := (r.find? address).map (·.candidate)

/-- The source of the candidate at an address. -/
def source? (r : Registry) (address : Int) : Option Source := (r.find? address).map (·.source)

/-- Whether something is stored at an address. -/
def contains (r : Registry) (address : Int) : Bool := (r.find? address).isSome

/-- The stored candidates by start. -/
def functions (r : Registry) : List Candidate := r.entries.map (·.candidate)

/-- How many stored candidates came from a source. -/
def count (r : Registry) (s : Source) : Nat := r.entries.countP fun e => e.source == s

/-- How many stored candidates came from each source that has any. -/
def counts (r : Registry) : List (Source × Nat) :=
  (Source.all.map fun s => (s, r.count s)).filter fun (_, n) => n != 0

/-- Stores a candidate in place of the one at its address, if there is one. -/
def put (r : Registry) (c : Candidate) (s : Source) : Registry :=
  let arrival := (r.find? c.start).elim r.size (·.arrival)
  ⟨r.byStart.insert c.start ⟨c, s, arrival⟩⟩

theorem find?_put (r : Registry) (c : Candidate) (s : Source) (address : Int) :
    (r.put c s).find? address =
      if address = c.start then some ⟨c, s, (r.find? c.start).elim r.size (·.arrival)⟩
      else r.find? address := by
  cases address with
  | ofNat a =>
    simp only [put, find?, Std.TreeMap.getElem?_insert, Nat.compare_eq_eq, Int.ofNat_eq_natCast]
    by_cases h : a = c.start
    · simp [h]
    · rw [if_neg (Ne.symm h), if_neg (by omega)]
  | negSucc a => simp [find?]

@[simp] theorem get?_put (r : Registry) (c : Candidate) (s : Source) (address : Int) :
    (r.put c s).get? address = if address = c.start then some c else r.get? address := by
  simp only [get?, find?_put]
  split <;> rfl

@[simp] theorem source?_put (r : Registry) (c : Candidate) (s : Source) (address : Int) :
    (r.put c s).source? address = if address = c.start then some s else r.source? address := by
  simp only [source?, find?_put]
  split <;> rfl

/-! ## Merging -/

/-- Takes one candidate. -/
def mergeOne (r : Registry) (t : MergeTally) (c : Candidate) (s : Source) :
    Registry × MergeTally :=
  match r.source? c.start with
  | none => (r.put c s, { t with inserted := t.inserted + 1 })
  | some old =>
    if old < s then (r.put c s, { t with replaced := t.replaced + 1 })
    else (r, { t with discarded := t.discarded + 1 })

/-- Takes candidates of one source in order, and counts what became of them. -/
def merge (r : Registry) (cs : List Candidate) (s : Source) : Registry × MergeTally :=
  cs.foldl (fun (r, t) c => r.mergeOne t c s) (r, {})

/-- The note about a merge. -/
def mergeNote (s : Source) (t : MergeTally) : Note :=
  .debug (s!"Merged {s.name}: {t.inserted} new, {t.replaced} replaced, " ++
    s!"{t.discarded} discarded")

/-! ## The entry point -/

/-- Whether an entry away from an address has the name of the entry point. -/
def isCompetitor (address : Int) (e : Entry) : Bool :=
  (e.candidate.start : Int) != address && e.candidate.name == entryName

/-- Gives every function away from an address that is called `entry` another name. -/
def renameCompetitors (r : Registry) (address : Int) : Registry :=
  ⟨r.byStart.map fun _ e =>
    if isCompetitor address e then
      { e with candidate := e.candidate.renamed (aliasAt e.candidate.start) }
    else e⟩

/-- The notes about the functions that get another name, in the order in which their addresses
arrived. -/
def competitorNotes (r : Registry) (address : Int) : List Note :=
  let competitors := r.entries.filter (isCompetitor address)
  (competitors.mergeSort fun a b => a.arrival ≤ b.arrival).map fun e =>
    .debug ("Renaming competing '" ++ entryName ++ "' to " ++ aliasAt e.candidate.start)

/-- The function at the entry point: the one stored there, under the name `entry`, or else an empty
one. -/
def entryCandidate (r : Registry) (address : Nat) : Candidate :=
  match r.get? address with
  | some c => c.renamed entryName
  | none => ⟨entryName, address, 0⟩

/-- The notes about the function at the entry point. -/
def entryNotes (r : Registry) (address : Nat) : List Note :=
  match r.get? address with
  | some c => if c.name = entryName then [] else [.debug s!"Promoting {c.name} to {entryName}"]
  | none => [.debug s!"No candidate at entry {hex address}, synthesising stub"]

/-- Calls the function at an address `entry`, and trusts it most. -/
def nameEntry (r : Registry) (address : Nat) : Registry :=
  (r.renameCompetitors address).put (r.entryCandidate address) .manual

/-- The notes about naming the function at an address. -/
def nameEntryNotes (r : Registry) (address : Nat) : List Note :=
  r.competitorNotes address ++ r.entryNotes address

/-- `nameEntry` for an address from outside. A negative one is no start of a function; the other
functions called `entry` have got their new names by then. -/
def identify (r : Registry) (address : Int) : Registry × Noted Candidate.Error Candidate :=
  match address with
  | .ofNat a => (r.nameEntry a, ⟨.ok (r.entryCandidate a), r.nameEntryNotes a⟩)
  | .negSucc _ =>
    (r.renameCompetitors address,
      ⟨(Candidate.Draft.ofRange entryName address 0).check,
        r.competitorNotes address ++
          [.debug s!"No candidate at entry {hex address}, synthesising stub"]⟩)

end Registry

end FunctionBounds
