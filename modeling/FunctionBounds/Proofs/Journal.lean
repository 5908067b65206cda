import FunctionBounds.Analysis.Run
import FunctionBounds.Logger
import FunctionBounds.Proofs.Steps

/-!
# Programs that keep a journal

A step that gives notes can be carried out as a program on a journal, where a note belongs to the
operation that is going on when it is made.

- **Notes in a journal** (`Journal.record`): a note that belongs to no operation gets the one that is
  going on. An activity that starts and ends around notes leaves the other activities alone
  (`leave_enter_operation`, `leave_enter_timed`).
- **Programs** (`Recorded`, `say`, `report`, `during`, `handle`): notes stay if a program fails, and
  an activity ends whether it fails or not.
- **Steps as programs** (`Follows p x`): `p` gives in every journal what `x` gives, and makes the
  notes of `x`. There is one lemma for each way in which programs are put together.
-/

namespace FunctionBounds

variable {ε δ α β : Type}

/-! ## Notes in a journal -/

/-- The note as it stands in a journal while an operation is going on. -/
def Note.within (operation : Option String) (n : Note) : Note :=
  { n with operation := n.operation.or operation }

/-- None of the notes belongs to an operation. -/
def Untagged (ns : List Note) : Prop := ∀ n ∈ ns, n.operation = none

theorem untagged_nil : Untagged [] := by simp [Untagged]

theorem untagged_cons {n : Note} {ns : List Note} :
    Untagged (n :: ns) ↔ n.operation = none ∧ Untagged ns := List.forall_mem_cons

theorem untagged_append {ns ms : List Note} :
    Untagged (ns ++ ms) ↔ Untagged ns ∧ Untagged ms := List.forall_mem_append

theorem Untagged.map_during {ns : List Note} (h : Untagged ns) (name : String) :
    ns.map (Note.within (some name)) = ns.map (Note.during name) := by
  refine List.map_congr_left fun n hn => ?_
  rw [Note.within, h n hn]
  rfl

namespace Journal

variable (j : Journal) (ns ms : List Note) (name label elapsed : String)

/-- The journal with more notes. -/
def record : Journal := { j with notes := (ns.map (Note.within j.operation?)).reverse ++ j.notes }

@[simp] theorem record_nil : j.record [] = j := rfl

theorem record_append : (j.record ns).record ms = j.record (ns ++ ms) := by
  simp [record, operation?]

theorem leave_enter_operation :
    ((j.enter (.operation name)).record ns).leave elapsed =
      j.record (ns.map (Note.within (some name))) := by
  have hwithin : ∀ operation, Note.within operation ∘ Note.within (some name) =
      Note.within (some name) := fun operation => funext fun n => by
    simp [Note.within]
  simp [enter, leave, record, operation?, hwithin]

theorem leave_enter_timed :
    ((j.enter (.timed label)).record ns).leave elapsed =
      j.record (.debug s!"Started: {label}" :: ns ++
        [.debug s!"Completed: {label} ({elapsed} sec)"]) := by
  simp [enter, leave, record, operation?, add, Note.within, Note.debug]

end Journal

/-! ## Programs -/

/-- A program that keeps a journal. -/
abbrev Recorded (ε α : Type) := EStateM ε Journal α

namespace Recorded

def say (severity : Severity) (text : String) : Recorded ε Unit := modify (·.add severity text)

def give : Except ε α → Recorded ε α
  | .ok a => return a
  | .error cause => throw cause

/-- Says the texts of notes, and gives what came with them. -/
def report (x : Noted ε α) : Recorded ε α := do
  x.notes.forM fun n => say n.severity n.text
  give x.result

/-- Carries out a program during an activity. -/
def during (activity : Activity) (elapsed : String) (p : Recorded ε α) : Recorded ε α := do
  modify (·.enter activity)
  try p finally modify (·.leave elapsed)

/-- Goes on with what came of a program, be it a result or an error. -/
def handle (p : Recorded ε α) (f : Except ε α → Recorded δ β) : Recorded δ β := fun j =>
  match p j with
  | .ok a j => f (.ok a) j
  | .error cause j => f (.error cause) j

/-- Renames the error of a program. -/
def mapError (rename : ε → δ) (p : Recorded ε α) : Recorded δ α :=
  handle p fun r => give (r.mapError rename)

/-! ## Steps as programs -/

/-- Where a program ends that carries out a step. -/
def ending (j : Journal) (x : Noted ε α) : EStateM.Result ε Journal α :=
  match x.result with
  | .ok a => .ok a (j.record x.notes)
  | .error cause => .error cause (j.record x.notes)

/-- The program gives in every journal what the step gives, and makes its notes. -/
def Follows (p : Recorded ε α) (x : Noted ε α) : Prop := ∀ j, p j = ending j x

theorem follows_pure (a : α) : Follows (pure a : Recorded ε α) ⟨.ok a, []⟩ := fun _ => rfl

theorem follows_give (r : Except ε α) : Follows (give r) ⟨r, []⟩ := fun _ => by cases r <;> rfl

theorem follows_say (severity : Severity) (text : String) :
    Follows (say severity text : Recorded ε Unit) ⟨.ok (), [⟨severity, text, none⟩]⟩ := fun _ => rfl

variable {p : Recorded ε α} {x : Noted ε α}

theorem Follows.trans_eq {y : Noted ε α} (hp : Follows p x) (h : x = y) : Follows p y := h ▸ hp

theorem Follows.handle {f : Except ε α → Recorded δ β} {y : Noted δ β} (hp : Follows p x)
    (hf : Follows (f x.result) y) : Follows (handle p f) ⟨y.result, x.notes ++ y.notes⟩ := by
  intro j
  have hrun : Recorded.handle p f j = f x.result (j.record x.notes) := by
    rw [Recorded.handle, hp j, ending]
    cases x.result <;> rfl
  rw [hrun, hf, ending, Journal.record_append]
  rfl

theorem Follows.bind {f : α → Recorded ε β} {y : α → Noted ε β} (hp : Follows p x)
    (hf : ∀ a, x.result = .ok a → Follows (f a) (y a)) : Follows (p >>= f) (x >>= y) := by
  intro j
  have hrun : (p >>= f) j = EStateM.bind p f j := rfl
  show _ = ending j (x.andThen y)
  rw [hrun, EStateM.bind, hp j, ending, Noted.andThen]
  cases hx : x.result with
  | ok a =>
    show f a _ = _
    rw [hf a hx, ending, Journal.record_append]
    rfl
  | error cause => rfl

theorem follows_say_all {ns : List Note} (h : Untagged ns) :
    Follows (ns.forM fun n => say n.severity n.text : Recorded ε Unit) ⟨.ok (), ns⟩ := by
  induction ns with
  | nil => exact follows_pure ()
  | cons n ns ih =>
    obtain ⟨hn, hns⟩ := untagged_cons.1 h
    have hsay : Follows (say n.severity n.text : Recorded ε Unit) ⟨.ok (), [n]⟩ := by
      have := follows_say (ε := ε) n.severity n.text
      rwa [← hn] at this
    exact hsay.bind fun _ _ => ih hns

theorem follows_report (h : Untagged x.notes) : Follows (report x) x :=
  ((follows_say_all h).bind fun _ _ => follows_give x.result).trans_eq
    (congrArg (Noted.mk x.result) (List.append_nil x.notes))

theorem Follows.mapError (hp : Follows p x) (rename : ε → δ) :
    Follows (mapError rename p) (x.mapError rename) :=
  (hp.handle (follows_give (x.result.mapError rename))).trans_eq
    (congrArg (Noted.mk _) (List.append_nil x.notes))

theorem during_eq (activity : Activity) (elapsed : String) (p : Recorded ε α) (j : Journal) :
    during activity elapsed p j =
      match p (j.enter activity) with
      | .ok a j => .ok a (j.leave elapsed)
      | .error cause j => .error cause (j.leave elapsed) := by
  have hfinally : during activity elapsed p j =
      (try p finally modify (·.leave elapsed) : Recorded ε α) (j.enter activity) := rfl
  rw [hfinally]
  cases h : p (j.enter activity) <;>
    simp [tryFinally, tryFinally', MonadFinally.tryFinally', Functor.map, EStateM.map, h] <;> rfl

/-- Notes that are made during an operation belong to it, also if it fails. -/
theorem Follows.operation (hp : Follows p x) (h : Untagged x.notes) (name elapsed : String) :
    Follows (during (.operation name) elapsed p) ⟨x.result, x.notes.map (Note.during name)⟩ := by
  intro j
  have hleave := j.leave_enter_operation x.notes name elapsed
  rw [h.map_during] at hleave
  rw [during_eq, hp, ending, ending, ← hleave]
  cases x.result <;> rfl

theorem Follows.timed (hp : Follows p x) (label elapsed : String) :
    Follows (during (.timed label) elapsed p) (x.timed label elapsed) := by
  intro j
  have hleave := j.leave_enter_timed x.notes label elapsed
  rw [during_eq, hp, ending, ending, Noted.timed, ← hleave]
  cases x.result <;> rfl

end Recorded

end FunctionBounds
