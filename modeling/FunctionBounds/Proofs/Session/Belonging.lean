import FunctionBounds.Proofs.Session.Journaling

/-!
# The operation of a note

Openings, requests to a session and analyses that share one journal.

- **Stretches** (`Stretch`): the notes of a call, cut at the starts and ends of scans. Those of a scan
  name the region that is mined, and no other note names one (`Call.stretches_belong`).
- **Calls** (`Call`, `Desk.carryOut`): programs one after the other on one journal. What is noted
  and which session is open afterwards is as the steps say (`Desk.carryOut_eq`).

`Desk.notes_belong` says of every note of every run to which operation it belongs.
-/

namespace FunctionBounds

/-! ## Stretches of notes -/

/-- Notes made one after the other, while a kind of region is scanned or outside of every scan. -/
structure Stretch where
  kind? : Option Evidence
  notes : List Note

namespace Stretch

/-- The notes as they stand in a journal in which an operation was going on before. -/
def recorded (operation : Option String) (p : Stretch) : List Note :=
  p.notes.map (Note.within operation)

/-- The notes belong to the operation of the region that is scanned. -/
def Belongs (p : Stretch) : Prop := ∀ n ∈ p.notes, n.operation = p.kind?.map (·.regionName)

theorem belongs_scan (s : Session) (k : Evidence) : Belongs ⟨some k, (s.scan k).2.notes⟩ :=
  fun _ => Session.operation_of_mem_scan_notes

theorem belongs_untagged {ns : List Note} (h : Untagged ns) : Belongs ⟨none, ns⟩ := h

theorem Belongs.operation {p : Stretch} (h : p.Belongs) {operation : Option String} {n : Note}
    (hn : n ∈ p.recorded operation) :
    n.operation = (p.kind?.map (·.regionName)).or operation := by
  obtain ⟨m, hm, rfl⟩ := List.mem_map.1 hn
  rw [Note.within, h m hm]

end Stretch

namespace Session

/-- The stretches of a survey: each kind of region is scanned, and then warned about if need be. -/
def stretches (s : Session) : List Evidence → List Stretch
  | [] => []
  | k :: ks =>
    ⟨some k, (s.scan k).2.notes⟩ :: ⟨none, s.warningNotes k⟩ ::
      if (s.halting? k).isSome then [] else (s.scan k).1.stretches ks

theorem foldl_surveyOne_stretches {v : Survey} (hgoing : v.halted = none) (ks : List Evidence) :
    (ks.foldl surveyOne v).notes =
      v.notes ++ (v.session.stretches ks).flatMap (·.notes) := by
  induction ks generalizing v with
  | nil => simp [stretches]
  | cons k ks ih =>
    obtain ⟨hsession, -, hhalted⟩ := mineOne_effect v k
    rw [hgoing, Option.or_none] at hhalted
    rw [List.foldl_cons, surveyOne_of_going hgoing, stretches, ← hhalted, ← hsession]
    cases hk : (mineOne v k).halted with
    | some cause =>
      rw [foldl_surveyOne_of_halted (by rw [hk]; rfl), mineOne_notes]
      simp
    | none =>
      rw [ih hk, mineOne_notes]
      simp

theorem untagged_warningNotes (s : Session) (k : Evidence) : Untagged (s.warningNotes k) := by
  unfold warningNotes
  split
  · exact untagged_nil
  · exact untagged_nil
  · exact untagged_cons.2 ⟨rfl, untagged_nil⟩

theorem stretches_belong (s : Session) (ks : List Evidence) : ∀ p ∈ s.stretches ks, p.Belongs := by
  induction ks generalizing s with
  | nil => simp [stretches]
  | cons k ks ih =>
    rw [stretches]
    refine List.forall_mem_cons.2 ⟨Stretch.belongs_scan s k, List.forall_mem_cons.2
      ⟨Stretch.belongs_untagged (s.untagged_warningNotes k), ?_⟩⟩
    split
    · simp
    · exact ih (s.scan k).1

/-- The stretches of a request to a session. -/
def Operation.stretches (s : Session) : Operation → List Stretch
  | .scan k => [⟨some k, (s.scan k).2.notes⟩]
  | .scanNamed text =>
    match Evidence.parse text with
    | .ok k => [⟨some k, (s.scan k).2.notes⟩]
    | .error _ => []
  | .merge cs source => [⟨none, [(s.merge cs source).2]⟩]
  | .finalize => [⟨none, s.finalizeNotes⟩]

theorem Operation.stretches_belong (s : Session) (op : Operation) :
    ∀ p ∈ op.stretches s, p.Belongs := by
  have hsingle : ∀ {p : Stretch}, p.Belongs → ∀ q ∈ [p], q.Belongs := by simp
  cases op with
  | scan k => exact hsingle (Stretch.belongs_scan s k)
  | scanNamed text =>
    simp only [stretches]
    split
    · next k _ => exact hsingle (Stretch.belongs_scan s k)
    · simp
  | merge cs source =>
    exact hsingle (Stretch.belongs_untagged (untagged_cons.2 ⟨rfl, untagged_nil⟩))
  | finalize => exact hsingle (Stretch.belongs_untagged s.untagged_finalizeNotes)

end Session

namespace Analysis

/-- The notes at the end of an analysis that comes to one. -/
def closingNotes (s : Session) (kinds : List Evidence) : List Note :=
  match (s.survey kinds).halted with
  | some _ => []
  | none => (s.survey kinds).session.finalizeNotes

/-- The stretches of an analysis between its start and its end, of an image that was opened or not. -/
def innerStretches (kinds : List Evidence) : Except ContainerError Session → List Stretch
  | .ok s => s.stretches kinds ++ [⟨none, closingNotes s kinds⟩]
  | .error _ => []

/-- The note about an analysis that is done. -/
def recoveredNotes (path : String) : Except AnalysisError Analysis → List Note
  | .ok a => [.info s!"Recovered {a.functions.length} function(s) from {path}"]
  | .error _ => []

/-- The stretches of an analysis. -/
def stretches (d : Bytes) (path : String) (kinds : List Evidence) (elapsed : String)
    (l : Text.DigitLimit) : List Stretch :=
  let label := s!"analysis of {path}"
  let opened := Session.ofBytes d path l
  let recovered := recoveredNotes path (ofBytes d path kinds elapsed l).result
  ⟨none, .debug s!"Started: {label}" :: opened.notes⟩ ::
    (innerStretches kinds opened.result ++
      [⟨none, .debug s!"Completed: {label} ({elapsed} sec)" :: recovered⟩])

theorem ofSession_notes (s : Session) (d : Bytes) (kinds : List Evidence) :
    (ofSession s d kinds).notes =
      (s.stretches kinds).flatMap (·.notes) ++ closingNotes s kinds := by
  have hsurvey : (s.survey kinds).notes = (s.stretches kinds).flatMap (·.notes) :=
    Session.foldl_surveyOne_stretches (v := { session := s }) rfl kinds
  rw [ofSession, closingNotes, ← hsurvey]
  cases (s.survey kinds).halted with
  | some cause => exact (List.append_nil _).symm
  | none => rfl

theorem ofBytes_notes (d : Bytes) (path : String) (kinds : List Evidence) (elapsed : String)
    (l : Text.DigitLimit) :
    (ofBytes d path kinds elapsed l).notes =
      (stretches d path kinds elapsed l).flatMap (·.notes) := by
  let inside : Noted AnalysisError Analysis :=
    (Session.ofBytes d path l).mapError .container >>= fun s => ofSession s d kinds
  have hwhole : ofBytes d path kinds elapsed l =
      (Noted.timed s!"analysis of {path}" elapsed inside).andThen fun a =>
        ⟨.ok a, recoveredNotes path (.ok a)⟩ := rfl
  have hinside : inside.notes = (Session.ofBytes d path l).notes ++
      (innerStretches kinds (Session.ofBytes d path l).result).flatMap (·.notes) := by
    show (Noted.andThen _ _).notes = _
    unfold Noted.andThen Noted.mapError
    cases (Session.ofBytes d path l).result with
    | error cause => simp [Except.mapError, innerStretches]
    | ok s => simp [Except.mapError, innerStretches, ofSession_notes]
  have hnotes : (ofBytes d path kinds elapsed l).notes =
      (inside.timed s!"analysis of {path}" elapsed).notes ++
        recoveredNotes path (ofBytes d path kinds elapsed l).result := by
    rw [hwhole, Noted.andThen, Noted.timed]
    cases inside.result with
    | error cause => exact (List.append_nil _).symm
    | ok a => rfl
  rw [hnotes, Noted.timed, hinside, stretches]
  simp

theorem stretches_belong (d : Bytes) (path : String) (kinds : List Evidence) (elapsed : String)
    (l : Text.DigitLimit) : ∀ p ∈ stretches d path kinds elapsed l, p.Belongs := by
  have hclosing : ∀ s, Untagged (closingNotes s kinds) := fun s => by
    unfold closingNotes
    split
    · exact untagged_nil
    · exact Session.untagged_finalizeNotes _
  refine List.forall_mem_cons.2 ⟨Stretch.belongs_untagged (untagged_cons.2
    ⟨rfl, Session.untagged_ofBytes d path l⟩), List.forall_mem_append.2 ⟨?_, ?_⟩⟩
  · cases (Session.ofBytes d path l).result with
    | error cause => simp [innerStretches]
    | ok s =>
      exact List.forall_mem_append.2 ⟨s.stretches_belong kinds, List.forall_mem_singleton.2
        (Stretch.belongs_untagged (hclosing s))⟩
  · refine List.forall_mem_singleton.2 (Stretch.belongs_untagged (untagged_cons.2 ⟨rfl, ?_⟩))
    cases (ofBytes d path kinds elapsed l).result with
    | error cause => exact untagged_nil
    | ok a => exact untagged_cons.2 ⟨rfl, untagged_nil⟩

end Analysis

/-! ## Calls that share a journal -/

/-- A call that keeps a journal. -/
inductive Call where
  /-- Opens an image for a session of its own, in place of the session before. -/
  | opening (d : Bytes) (path : String) (l : Text.DigitLimit)
  | request (op : Session.Operation)
  /-- Starts on the octets of a file that is to be analysed. -/
  | start (path : String) (d : Bytes) (maximum : SizeLimit)
  | analysis (d : Bytes) (path : String) (kinds : List Evidence) (elapsed : String)
    (l : Text.DigitLimit)

namespace Call

/-- The stretches of a call while a session is open, or none. -/
def stretches (session : Option Session) : Call → List Stretch
  | opening d path l => [⟨none, (Session.ofBytes d path l).notes⟩]
  | request op => session.elim [] op.stretches
  | start path d maximum => [⟨none, (Analysis.start path d maximum).notes⟩]
  | analysis d path kinds elapsed l => Analysis.stretches d path kinds elapsed l

/-- The session after a call. -/
def session? (session : Option Session) : Call → Option Session
  | opening d path l =>
    match (Session.ofBytes d path l).result with
    | .ok s => some s
    | .error _ => session
  | request op => session.map (·.perform op)
  | start .. | analysis .. => session

theorem stretches_belong (session : Option Session) (call : Call) :
    ∀ p ∈ call.stretches session, p.Belongs := by
  cases call with
  | opening d path l =>
    exact List.forall_mem_singleton.2
      (Stretch.belongs_untagged (Session.untagged_ofBytes d path l))
  | request op =>
    cases session with
    | none => simp [stretches]
    | some s => exact op.stretches_belong s
  | start path d maximum =>
    exact List.forall_mem_singleton.2
      (Stretch.belongs_untagged (Analysis.untagged_start path d maximum))
  | analysis d path kinds elapsed l => exact Analysis.stretches_belong d path kinds elapsed l

end Call

/-- A journal and the session that is open. -/
structure Desk where
  journal : Journal
  session : Option Session := none

namespace Desk

open Recorded (Follows)

/-- The desk after a program; a session that the program gives is kept. -/
def after {ε α : Type} (b : Desk) (p : Recorded ε α) (keep : α → Option Session) : Desk :=
  match p b.journal with
  | .ok a j => ⟨j, keep a⟩
  | .error _ j => ⟨j, b.session⟩

/-- The desk after a request to the session `s`. -/
def ask (b : Desk) (s : Session) : Session.Operation → Desk
  | .scan k => b.after (s.recordScan k) fun r => some r.1
  | .scanNamed text =>
    match Evidence.parse text with
    | .ok k => b.after (s.recordScan k) fun r => some r.1
    | .error _ => b
  | .merge cs source => b.after (s.recordMerge cs source : Recorded ScanError Session) some
  | .finalize =>
    b.after (s.recordFinalize : Recorded ScanError (Session × List Candidate)) fun r => some r.1

/-- The desk after a call. -/
def carryOut (b : Desk) : Call → Desk
  | .opening d path l => b.after (Session.recordOpening d path l) some
  | .request op => b.session.elim b fun s => b.ask s op
  | .start path d maximum =>
    b.after (Recorded.report (Analysis.start path d maximum)) fun _ => b.session
  | .analysis d path kinds elapsed l =>
    b.after (Analysis.recordBytes d path kinds elapsed l) fun _ => b.session

theorem after_eq {ε α : Type} {p : Recorded ε α} {x : Noted ε α} (hp : Follows p x) (b : Desk)
    (keep : α → Option Session) :
    b.after p keep = ⟨b.journal.record x.notes,
      match x.result with
      | .ok a => keep a
      | .error _ => b.session⟩ := by
  rw [after, hp, Recorded.ending]
  cases x.result <;> rfl

/-- A request to a session notes what the session says it does, and leaves it as the session says. -/
theorem ask_eq (b : Desk) {s : Session} (hb : b.session = some s) (op : Session.Operation) :
    b.ask s op =
      ⟨b.journal.record ((op.stretches s).flatMap (·.notes)), some (s.perform op)⟩ := by
  have hscan : ∀ k, b.after (s.recordScan k) (fun r => some r.1) =
      ⟨b.journal.record (s.scan k).2.notes, some (s.scan k).1⟩ := fun k => by
    rw [after_eq (s.follows_scan k), hb]
    rcases hscan : (s.scan k).2.result with cause | n
    · rw [Session.scan_fst_of_error hscan]
      simp [Session.scanned, hscan, Except.map]
    · simp [Session.scanned, hscan, Except.map]
  cases op with
  | scan k => exact (hscan k).trans (by simp [Session.Operation.stretches, Session.perform])
  | scanNamed text =>
    simp only [ask, Session.Operation.stretches, Session.perform]
    cases Evidence.parse text with
    | ok k => exact (hscan k).trans (by simp)
    | error cause =>
      obtain ⟨j, session⟩ := b
      obtain rfl : session = some s := hb
      simp
  | merge cs source =>
    have hmerge := after_eq (s.follows_merge cs source (ε := ScanError)) b some
    exact hmerge.trans (by simp [Session.Operation.stretches, Session.perform])
  | finalize =>
    have hlisted := after_eq (s.follows_finalize (ε := ScanError)) b fun r => some r.1
    exact hlisted.trans (by simp [Session.Operation.stretches, Session.perform])

theorem carryOut_eq (b : Desk) (call : Call) :
    b.carryOut call =
      ⟨b.journal.record ((call.stretches b.session).flatMap (·.notes)),
        call.session? b.session⟩ := by
  cases call with
  | opening d path l =>
    refine (after_eq (Session.follows_opening d path l) b some).trans ?_
    cases hopened : (Session.ofBytes d path l).result <;>
      simp [Call.stretches, Call.session?, hopened]
  | request op =>
    cases hb : b.session with
    | none =>
      obtain ⟨j, session⟩ := b
      obtain rfl : session = none := hb
      simp [carryOut, Call.stretches, Call.session?]
    | some s =>
      have hask := b.ask_eq hb op
      simp only [carryOut, hb, Option.elim_some, hask, Call.stretches, Call.session?,
        Option.map_some]
  | start path d maximum =>
    refine (after_eq (Recorded.follows_report (Analysis.untagged_start path d maximum)) b
      fun _ => b.session).trans ?_
    cases (Analysis.start path d maximum).result <;> simp [Call.stretches, Call.session?]
  | analysis d path kinds elapsed l =>
    refine (after_eq (Analysis.follows_bytes d path kinds elapsed l) b fun _ => b.session).trans ?_
    cases (Analysis.ofBytes d path kinds elapsed l).result <;>
      simp [Call.stretches, Call.session?, Analysis.ofBytes_notes]

/-- Calls leave the activities of a journal alone. -/
theorem activities_foldl_carryOut (b : Desk) (calls : List Call) :
    (calls.foldl carryOut b).journal.activities = b.journal.activities := by
  induction calls generalizing b with
  | nil => rfl
  | cons call calls ih => rw [List.foldl_cons, ih, carryOut_eq]; rfl

/-- Every note of a scan belongs to the operation of its region, and every other note to the operation
that was going on before the calls, if any was. At any point of any run of calls, be they openings,
requests to a session or analyses, and whether they succeed, end early or fail, the activities are
those of the start, and so is the operation. The next call adds its notes, one stretch after the
other: those made while a kind of region is scanned, and those made outside of every scan. -/
theorem notes_belong (b₀ : Desk) (before : List Call) (call : Call) :
    let b := before.foldl carryOut b₀
    let stretches := call.stretches b.session
    let operation := b₀.journal.operation?
    b.journal.activities = b₀.journal.activities ∧ b.journal.operation? = operation ∧
    (b.carryOut call).session = call.session? b.session ∧
    (b.carryOut call).journal.activities = b₀.journal.activities ∧
    (b.carryOut call).journal.operation? = operation ∧
    (b.carryOut call).journal.notes =
      (stretches.flatMap (·.recorded operation)).reverse ++ b.journal.notes ∧
    ∀ p ∈ stretches, ∀ n ∈ p.recorded operation,
      n.operation = (p.kind?.map (·.regionName)).or operation := by
  intro b stretches operation
  have hactivities : b.journal.activities = b₀.journal.activities :=
    activities_foldl_carryOut b₀ before
  have hoperation : b.journal.operation? = operation := by
    rw [Journal.operation?, hactivities]
    rfl
  rw [carryOut_eq]
  refine ⟨hactivities, hoperation, rfl, hactivities, hoperation, ?_, fun p hp n hn =>
    (call.stretches_belong b.session p hp).operation hn⟩
  rw [Journal.record, hoperation, List.map_flatMap]
  rfl

end Desk

end FunctionBounds
