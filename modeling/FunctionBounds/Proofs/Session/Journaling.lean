import FunctionBounds.Proofs.Journal
import FunctionBounds.Proofs.Analysis.Survey

/-!
# Sessions that keep a journal

The requests of a session and its analyses as programs on a journal, which enter and leave
operations and timed steps as they go. Each of them follows the step that gives its notes as a list.

- **Notes of no operation** (`untagged_ofBytes`, `untagged_mine`, `untagged_finalizeNotes`): what is
  noted about an image, a region or the list of functions does not name an operation itself.
- **Requests** (`recordScan`, `follows_scan`): a scan is an operation from the search for its region
  to the merge of what was found, and the operation ends if a region is missing or an error leaves
  the scan.
- **Surveys** (`recordSurvey`, `follows_survey`): one scan after the other. A warning about one that
  failed is made after its operation has ended.
- **Analyses** (`recordBytes`, `follows_bytes`): an opening, a survey and the list of functions, as one
  timed step.
-/

namespace FunctionBounds

/-! ## Notes of no operation -/

section Untagged

variable {ε δ α β : Type}

/-- The notes of steps one after the other. -/
theorem Noted.untagged_bind {x : Noted ε α} {f : α → Noted ε β} (hx : Untagged x.notes)
    (hf : ∀ a, Untagged (f a).notes) : Untagged (x >>= f).notes := by
  show Untagged (x.andThen f).notes
  unfold Noted.andThen
  split
  · next a _ => exact untagged_append.2 ⟨hx, hf a⟩
  · exact hx

theorem Noted.untagged_of (x : Except ε α) : Untagged (Noted.of x).notes := untagged_nil

theorem Noted.untagged_pure (a : α) : Untagged (pure a : Noted ε α).notes := untagged_nil

theorem Noted.untagged_note {n : Note} (h : n.operation = none) :
    Untagged (Noted.note n : Noted ε Unit).notes := untagged_cons.2 ⟨h, untagged_nil⟩

theorem Noted.untagged_ite {c : Prop} [Decidable c] {x y : Noted ε α} (hx : Untagged x.notes)
    (hy : Untagged y.notes) : Untagged (if c then x else y).notes := by
  split
  · exact hx
  · exact hy

end Untagged

theorem Region.untagged_ofSections (h : Elf.Header) (d : Bytes) :
    Untagged (Region.ofSections h d).notes := by
  refine Noted.untagged_bind (Noted.untagged_of _) fun table => Noted.untagged_bind ?_ fun names =>
    Noted.untagged_bind (Noted.untagged_of _) fun regions =>
      Noted.untagged_bind (Noted.untagged_note rfl) fun _ => Noted.untagged_pure _
  simp only [SectionHeader.readNames]
  split
  · exact Noted.untagged_of _
  · exact Noted.untagged_bind (Noted.untagged_note rfl) fun _ => Noted.untagged_pure _

theorem Region.untagged_ofSegments (h : Elf.Header) (d : Bytes) :
    Untagged (Region.ofSegments h d).notes := by
  refine Noted.untagged_bind ?_ fun table => Noted.untagged_bind ?_ fun _ =>
    Noted.untagged_bind (Noted.untagged_note rfl) fun _ => Noted.untagged_pure _
  · exact Noted.untagged_ite (Noted.untagged_of _) (Noted.untagged_ite
      (Noted.untagged_bind (Noted.untagged_note rfl) fun _ => Noted.untagged_pure _)
      (Noted.untagged_pure _))
  · rintro n hn
    obtain ⟨p, -, rfl⟩ := List.mem_map.1 hn
    rfl

namespace Session

theorem untagged_ofBytes (d : Bytes) (path : String) (l : Text.DigitLimit) :
    Untagged (ofBytes d path l).notes := by
  unfold ofBytes
  split
  · refine Noted.untagged_bind (Noted.untagged_of _) fun header =>
      Noted.untagged_bind (Noted.untagged_note rfl) fun _ => Noted.untagged_bind ?_ fun _ =>
        Noted.untagged_pure _
    unfold Layout.extract
    refine Noted.untagged_ite ?_ (Noted.untagged_ite ?_ (Noted.untagged_of _))
    · exact Noted.untagged_bind (Noted.untagged_note rfl) fun _ =>
        Noted.untagged_bind (Region.untagged_ofSections _ _) fun _ => Noted.untagged_pure _
    · exact Noted.untagged_bind (Noted.untagged_note rfl) fun _ =>
        Noted.untagged_bind (Region.untagged_ofSegments _ _) fun _ => Noted.untagged_pure _
  · exact Noted.untagged_bind (Noted.untagged_of _) fun _ => Noted.untagged_of _
  · exact Noted.untagged_of _

theorem untagged_report (w : Cfi.Scan) (l : Text.DigitLimit) : Untagged (w.report l).notes := by
  have hskips : ∀ vs : List Cfi.Visit, Untagged (vs.filterMap (·.note?)) := by
    intro vs n hn
    obtain ⟨v, -, hv⟩ := List.mem_filterMap.1 hn
    unfold Cfi.Visit.note? at hv
    split at hv <;> cases hv
    rfl
  unfold Cfi.Scan.report
  split
  · refine untagged_append.2 ⟨untagged_append.2 ⟨hskips _, ?_⟩, ?_⟩
    · unfold Cfi.Scan.stopNote?
      split
      · exact untagged_cons.2 ⟨rfl, untagged_nil⟩
      · exact untagged_nil
    · split
      · exact untagged_nil
      · exact untagged_cons.2 ⟨rfl, untagged_nil⟩
  · exact hskips _

theorem untagged_mineRegion (s : Session) (name : String)
    {f : Region → Noted ScanError (List Candidate)} (hf : ∀ r, Untagged (f r).notes) :
    Untagged (s.mineRegion name f).notes := by
  unfold mineRegion
  split
  · next r _ => exact hf r
  · exact untagged_nil

theorem untagged_mineSymbols (s : Session) (table names : String) :
    Untagged (s.mineSymbols table names).notes := by
  have hscan : ∀ d names : Bytes, Untagged (SymbolTable.scan d names).notes := fun d names =>
    Noted.untagged_bind (Noted.untagged_of _) fun _ =>
      Noted.untagged_bind (Noted.untagged_note rfl) fun _ => Noted.untagged_pure _
  unfold mineSymbols
  split
  · exact hscan _ _
  · exact untagged_nil
  · exact untagged_nil

theorem untagged_searchTable (d : Bytes) (address : Int) :
    Untagged (Cfi.SearchTable.scan d address).notes := by
  simp only [Cfi.SearchTable.scan]
  split
  · refine Noted.untagged_ite (Noted.untagged_of _) (Noted.untagged_ite (Noted.untagged_of _)
      (Noted.untagged_bind ?_ fun off => ?_))
    · unfold Cfi.SearchTable.readSectionAddress
      refine Noted.untagged_ite (Noted.untagged_pure _) ?_
      split
      · exact Noted.untagged_bind (Noted.untagged_note rfl) fun _ => Noted.untagged_pure _
      · exact Noted.untagged_of _
    · split <;> exact Noted.untagged_of _
  · exact Noted.untagged_of _

/-- What is noted about a region says nothing of the operation. -/
theorem untagged_mine (s : Session) (k : Evidence) : Untagged (s.mine k).notes := by
  cases k with
  | ehFrame | debugFrame => exact s.untagged_mineRegion _ fun r => untagged_report _ _
  | ehFrameHdr => exact s.untagged_mineRegion _ fun r => untagged_searchTable _ _
  | symtab | dynsym => exact s.untagged_mineSymbols _ _

theorem untagged_finalizeNotes (s : Session) : Untagged s.finalizeNotes := by
  unfold finalizeNotes
  split
  · exact untagged_nil
  · refine untagged_append.2 ⟨fun n hn => ?_, ?_⟩
    · obtain ⟨e, -, rfl⟩ := List.mem_map.1 hn
      rfl
    · unfold Registry.entryNotes
      split
      · split
        · exact untagged_nil
        · exact untagged_cons.2 ⟨rfl, untagged_nil⟩
      · exact untagged_cons.2 ⟨rfl, untagged_nil⟩

end Session

theorem Analysis.untagged_start (path : String) (d : Bytes) (maximum : SizeLimit) :
    Untagged (Analysis.start path d maximum).notes :=
  Noted.untagged_ite (Noted.untagged_note rfl) (Noted.untagged_of _)

/-! ## Requests as programs -/

namespace Session

open Recorded (say report during handle Follows)

variable {ε : Type}

def recordOpening (d : Bytes) (path : String) (l : Text.DigitLimit) :
    Recorded ContainerError Session :=
  report (ofBytes d path l)

def recordMerge (s : Session) (cs : List Candidate) (source : Source) : Recorded ε Session := do
  let (s, n) := s.merge cs source
  say n.severity n.text
  return s

/-- What a scan does once the region has been mined: a missing region ends it early, and an error
leaves it. -/
def recordMined (s : Session) (k : Evidence) :
    Except MiningError (List Candidate) → Recorded ScanError (Session × Nat)
  | .ok cs => do
    say .info s!"{k.regionName}: {cs.length} candidate(s)"
    let s ← s.recordMerge cs k.source
    return (s, cs.length)
  | .error (.missing region) => do
    say .warning s!"{region.message}; skipping {k.regionName} scan"
    return (s, 0)
  | .error (.failed cause) => throw cause

/-- Mines a kind of region during the operation of the region. -/
def recordScan (s : Session) (k : Evidence) : Recorded ScanError (Session × Nat) :=
  during (.operation k.regionName) "" (handle (report (s.mine k)) (s.recordMined k))

def recordFinalize (s : Session) : Recorded ε (Session × List Candidate) :=
  report ⟨.ok s.finalize, s.finalizeNotes⟩

theorem follows_opening (d : Bytes) (path : String) (l : Text.DigitLimit) :
    Follows (recordOpening d path l) (ofBytes d path l) :=
  Recorded.follows_report (untagged_ofBytes d path l)

theorem follows_merge (s : Session) (cs : List Candidate) (source : Source) :
    Follows (s.recordMerge cs source : Recorded ε Session)
      ⟨.ok (s.merge cs source).1, [(s.merge cs source).2]⟩ := fun _ => rfl

theorem follows_finalize (s : Session) :
    Follows (s.recordFinalize : Recorded ε (Session × List Candidate))
      ⟨.ok s.finalize, s.finalizeNotes⟩ :=
  Recorded.follows_report s.untagged_finalizeNotes

/-- What a scan gives and notes once the region has been mined. -/
def afterMining (s : Session) (k : Evidence) :
    Except MiningError (List Candidate) → Noted ScanError (Session × Nat)
  | .ok cs => ⟨.ok ((s.merge cs k.source).1, cs.length),
      [.info s!"{k.regionName}: {cs.length} candidate(s)", (s.merge cs k.source).2]⟩
  | .error (.missing region) =>
    ⟨.ok (s, 0), [.warning s!"{region.message}; skipping {k.regionName} scan"]⟩
  | .error (.failed cause) => ⟨.error cause, []⟩

theorem follows_mined (s : Session) (k : Evidence) (r : Except MiningError (List Candidate)) :
    Follows (s.recordMined k r) (s.afterMining k r) := by
  rcases r with (region | cause) | cs <;> exact fun _ => rfl

theorem untagged_afterMining (s : Session) (k : Evidence)
    (r : Except MiningError (List Candidate)) : Untagged (s.afterMining k r).notes := by
  rcases r with (region | cause) | cs
  · exact untagged_cons.2 ⟨rfl, untagged_nil⟩
  · exact untagged_nil
  · exact untagged_cons.2 ⟨rfl, untagged_cons.2 ⟨rfl, untagged_nil⟩⟩

/-- A scan with the session after it. -/
def scanned (s : Session) (k : Evidence) : Noted ScanError (Session × Nat) :=
  ⟨(s.scan k).2.result.map ((s.scan k).1, ·), (s.scan k).2.notes⟩

theorem scanned_eq (s : Session) (k : Evidence) :
    s.scanned k =
      ⟨(s.afterMining k (s.mine k).result).result,
        ((s.mine k).notes ++ (s.afterMining k (s.mine k).result).notes).map
          (Note.during k.regionName)⟩ := by
  rcases hmine : (s.mine k).result with (region | cause) | cs <;>
    simp only [scanned, scan, hmine, afterMining, List.append_nil] <;> rfl

theorem follows_scan (s : Session) (k : Evidence) : Follows (s.recordScan k) (s.scanned k) := by
  have hinside := (Recorded.follows_report (s.untagged_mine k)).handle
    (s.follows_mined k (s.mine k).result)
  have huntagged := untagged_append.2 ⟨s.untagged_mine k, s.untagged_afterMining k (s.mine k).result⟩
  rw [scanned_eq]
  exact hinside.operation huntagged k.regionName ""

/-- Every note of a scan belongs to the operation of the region. -/
theorem operation_of_mem_scan_notes {s : Session} {k : Evidence} {n : Note}
    (h : n ∈ (s.scan k).2.notes) : n.operation = some k.regionName := by
  have hnotes : (s.scan k).2.notes = (s.scanned k).notes := rfl
  rw [hnotes, scanned_eq] at h
  obtain ⟨m, -, rfl⟩ := List.mem_map.1 h
  rfl

/-! ## Surveys as programs -/

/-- What a survey does once a kind of region has been scanned: one that fails is warned about, outside
of the operation. -/
def recordScanned (v : Survey) (k : Evidence) :
    Except ScanError (Session × Nat) → Recorded Text.TooLong Survey
  | .ok (s, n) => return { v with session := s, counts := v.counts.set k.regionName n }
  | .error (.unwritable cause) => throw cause
  | .error cause => do
    let warning := s!"{k.regionName}: {cause.message}"
    say .warning warning
    return { v with warnings := v.warnings ++ [warning] }

def recordMineOne (v : Survey) (k : Evidence) : Recorded Text.TooLong Survey :=
  handle (v.session.recordScan k) (recordScanned v k)

/-- Mines kinds of regions in order, unless a note cannot be written. -/
def recordSurvey (v : Survey) (ks : List Evidence) : Recorded Text.TooLong Survey :=
  ks.foldlM recordMineOne v

/-- A survey without the notes made on the way, or what ended it. -/
def outcomeOf (v : Survey) : Except Text.TooLong Survey :=
  match v.halted with
  | some cause => .error cause
  | none => .ok { v with notes := [] }

/-- The note about a kind of region that cannot be mined. -/
def warningNotes (s : Session) (k : Evidence) : List Note :=
  match (s.scan k).2.result with
  | .ok _ => []
  | .error (.unwritable _) => []
  | .error cause => [.warning s!"{k.regionName}: {cause.message}"]

variable {v : Survey} {k : Evidence}

theorem mineOne_notes (v : Survey) (k : Evidence) :
    (mineOne v k).notes =
      v.notes ++ ((v.session.scan k).2.notes ++ v.session.warningNotes k) := by
  rcases hscan : (v.session.scan k).2.result with cause | n
  · cases cause <;> simp [mineOne, warningNotes, hscan]
  · simp [mineOne, warningNotes, hscan]

/-- A scan that fails leaves the session alone. -/
theorem scan_fst_of_error {s : Session} {cause : ScanError}
    (h : (s.scan k).2.result = .error cause) : (s.scan k).1 = s := by
  rcases hmine : (s.mine k).result with (region | cause') | cs <;>
    simp only [scan, hmine] at h ⊢
  cases h

theorem follows_mineOne (hgoing : v.halted = none) (hnotes : v.notes = []) (k : Evidence) :
    Follows (recordMineOne v k) ⟨outcomeOf (mineOne v k), (mineOne v k).notes⟩ := by
  have hafter : Follows (recordScanned v k (v.session.scanned k).result)
      ⟨outcomeOf (mineOne v k), v.session.warningNotes k⟩ := by
    obtain ⟨s, counts, warnings, notes, halted⟩ := v
    obtain rfl : halted = none := hgoing
    obtain rfl : notes = [] := hnotes
    intro j
    rcases hscan : (s.scan k).2.result with cause | n
    · have hsession := scan_fst_of_error hscan
      cases cause <;>
        (simp only [scanned, hscan, mineOne, warningNotes, outcomeOf, hsession]; rfl)
    · simp only [scanned, hscan, mineOne, warningNotes, outcomeOf]
      rfl
  refine ((v.session.follows_scan k).handle hafter).trans_eq ?_
  rw [mineOne_notes, hnotes]
  rfl

/-- Mining goes by the session and not by the notes so far. -/
theorem foldl_surveyOne_notes (v : Survey) (ns : List Note) (ks : List Evidence) :
    ks.foldl surveyOne { v with notes := ns ++ v.notes } =
      { ks.foldl surveyOne v with notes := ns ++ (ks.foldl surveyOne v).notes } := by
  induction ks generalizing v with
  | nil => rfl
  | cons k ks ih =>
    have hone : surveyOne { v with notes := ns ++ v.notes } k =
        { surveyOne v k with notes := ns ++ (surveyOne v k).notes } := by
      cases hhalted : v.halted with
      | some cause => simp only [surveyOne, hhalted, Option.isSome_some, if_true]
      | none =>
        simp only [surveyOne, hhalted, Option.isSome_none, Bool.false_eq_true, if_false, mineOne]
        rcases (v.session.scan k).2.result with cause | n
        · cases cause <;> simp only [List.append_assoc]
        · simp only [List.append_assoc]
    rw [List.foldl_cons, hone, ih]
    rfl

theorem outcomeOf_of_going (hgoing : v.halted = none) : outcomeOf v = .ok { v with notes := [] } := by
  rw [outcomeOf, hgoing]

theorem outcomeOf_of_halted {cause : Text.TooLong} (hhalted : v.halted = some cause) :
    outcomeOf v = .error cause := by
  rw [outcomeOf, hhalted]

theorem follows_survey (hgoing : v.halted = none) (hnotes : v.notes = []) (ks : List Evidence) :
    Follows (recordSurvey v ks)
      ⟨outcomeOf (ks.foldl surveyOne v), (ks.foldl surveyOne v).notes⟩ := by
  induction ks generalizing v with
  | nil =>
    refine (Recorded.follows_pure v).trans_eq ?_
    rw [List.foldl_nil, outcomeOf_of_going hgoing, hnotes]
    congr 2
    obtain ⟨s, counts, warnings, notes, halted⟩ := v
    obtain rfl : notes = [] := hnotes
    rfl
  | cons k ks ih =>
    have hcons : recordSurvey v (k :: ks) = recordMineOne v k >>= fun v => recordSurvey v ks :=
      List.foldlM_cons
    rw [hcons, List.foldl_cons, surveyOne_of_going hgoing]
    refine ((follows_mineOne hgoing hnotes k).bind (y := fun v =>
      ⟨outcomeOf (ks.foldl surveyOne v), (ks.foldl surveyOne v).notes⟩) fun v' hv' => ?_).trans_eq ?_
    · cases hhalted : (mineOne v k).halted with
      | some cause => rw [outcomeOf_of_halted hhalted] at hv'; cases hv'
      | none => rw [outcomeOf_of_going hhalted] at hv'; cases hv'; exact ih hhalted rfl
    · show Noted.andThen _ _ = _
      cases hhalted : (mineOne v k).halted with
      | some cause =>
        rw [foldl_surveyOne_of_halted (by rw [hhalted]; rfl), outcomeOf_of_halted hhalted]
        rfl
      | none =>
        have hrest := foldl_surveyOne_notes { mineOne v k with notes := [] } (mineOne v k).notes ks
        simp only [List.append_nil] at hrest
        rw [hrest, outcomeOf_of_going hhalted]
        rfl

end Session

/-! ## Analyses as programs -/

namespace Analysis

open Session (recordOpening recordSurvey recordFinalize)
open Recorded (say report during mapError Follows)

/-- Analyses an image once it has been opened. -/
def recordSession (s : Session) (d : Bytes) (kinds : List Evidence) :
    Recorded AnalysisError Analysis := do
  let v ← mapError .unwritable (recordSurvey { session := s } kinds)
  let (_, functions) ← v.session.recordFinalize
  return {
    info := s.info d
    regions := s.regions.map (·.toRegionInfo)
    functions
    sourceCounts := v.counts
    warnings := v.warnings }

/-- Analyses an image. -/
def recordBytes (d : Bytes) (path : String) (kinds : List Evidence) (elapsed : String)
    (l : Text.DigitLimit) : Recorded AnalysisError Analysis := do
  let a ← during (.timed s!"analysis of {path}") elapsed do
    let s ← mapError .container (recordOpening d path l)
    recordSession s d kinds
  say .info s!"Recovered {a.functions.length} function(s) from {path}"
  return a

theorem follows_session (s : Session) (d : Bytes) (kinds : List Evidence) :
    Follows (recordSession s d kinds) (ofSession s d kinds) := by
  have hsurvey := (Session.follows_survey (v := { session := s }) rfl rfl kinds).mapError
    AnalysisError.unwritable
  have hrun := hsurvey.bind fun v _ => v.session.follows_finalize.bind fun r _ =>
    Recorded.follows_pure ({
      info := s.info d
      regions := s.regions.map (·.toRegionInfo)
      functions := r.2
      sourceCounts := v.counts
      warnings := v.warnings } : Analysis)
  refine hrun.trans_eq ?_
  show Noted.andThen _ _ = _
  have hv : kinds.foldl Session.surveyOne { session := s } = s.survey kinds := rfl
  rw [hv, ofSession]
  cases hhalted : (s.survey kinds).halted with
  | some cause =>
    rw [Session.outcomeOf_of_halted hhalted]
    rfl
  | none =>
    rw [Session.outcomeOf_of_going hhalted]
    show Noted.mk _ ((s.survey kinds).notes ++ ((s.survey kinds).session.finalizeNotes ++ [])) = _
    rw [List.append_nil]
    rfl

theorem follows_bytes (d : Bytes) (path : String) (kinds : List Evidence) (elapsed : String)
    (l : Text.DigitLimit) :
    Follows (recordBytes d path kinds elapsed l) (ofBytes d path kinds elapsed l) := by
  have hinside := ((Session.follows_opening d path l).mapError AnalysisError.container).bind
    fun s _ => follows_session s d kinds
  exact (hinside.timed s!"analysis of {path}" elapsed).bind fun a _ =>
    (Recorded.follows_say _ _).bind fun _ _ => Recorded.follows_pure a

end Analysis

end FunctionBounds
