import FunctionBounds.Journal

/-!
# Steps that may fail

- **One after another** (`bind_eq_ok_iff`, `error_of_bind`, `Noted.result_bind`): a step after
  another one succeeds if both do, and notes do not change what comes out.
- **One for each member of a list** (`mapM_eq_ok`, `exists_mapM_eq_ok_iff`).
- **Renamed errors** (`mapError_bind`, `mapError_mapM`): to rename the error of steps is to rename
  that of each.
-/

namespace FunctionBounds

variable {ε δ α β : Type}

theorem bind_eq_ok_iff {x : Except ε α} {f : α → Except ε β} {b : β} :
    x.bind f = .ok b ↔ ∃ a, x = .ok a ∧ f a = .ok b := by
  cases x with
  | ok a => exact ⟨fun h => ⟨a, rfl, h⟩, fun ⟨_, ha, h⟩ => by cases ha; exact h⟩
  | error cause => exact ⟨nofun, nofun⟩

theorem eq_ok_of_toOption {x : Except ε α} {a : α} (h : x.toOption = some a) : x = .ok a := by
  cases x with
  | ok b => exact congrArg Except.ok (Option.some.inj h)
  | error cause => cases h

/-- An error comes from one of two steps. -/
theorem error_of_bind {p : ε → Prop} {x : Except ε α} {f : α → Except ε β}
    (hx : ∀ e, x = .error e → p e) (hf : ∀ a e, f a = .error e → p e) {e : ε}
    (h : x.bind f = .error e) : p e := by
  cases x with
  | ok a => exact hf a e h
  | error cause => exact hx e (congrArg Except.error (Except.error.inj h))

theorem mapM_eq_ok {f : α → Except ε β} {g : α → β} {xs : List α}
    (h : ∀ x ∈ xs, f x = .ok (g x)) : xs.mapM f = .ok (xs.map g) := by
  induction xs with
  | nil => rfl
  | cons x xs ih =>
    rw [List.mapM_cons, h x List.mem_cons_self, ih fun y hy => h y (List.mem_cons_of_mem x hy)]
    rfl

theorem exists_mapM_eq_ok_iff {f : α → Except ε β} {xs : List α} :
    (∃ ys, xs.mapM f = .ok ys) ↔ ∀ x ∈ xs, ∃ y, f x = .ok y := by
  induction xs with
  | nil => exact iff_of_true ⟨[], rfl⟩ nofun
  | cons x xs ih =>
    rw [List.forall_mem_cons, ← ih, List.mapM_cons]
    constructor
    · rintro ⟨ys, hys⟩
      obtain ⟨y, hy, hrest⟩ := bind_eq_ok_iff.1 hys
      obtain ⟨ys', hys', -⟩ := bind_eq_ok_iff.1 hrest
      exact ⟨⟨y, hy⟩, ys', hys'⟩
    · rintro ⟨⟨y, hy⟩, ys, hys⟩
      rw [hy, hys]
      exact ⟨y :: ys, rfl⟩

theorem mapError_ok (a : α) (rename : ε → δ) :
    (Except.ok a : Except ε α).mapError rename = .ok a := rfl

theorem mapError_eq_ok_iff {x : Except ε α} {rename : ε → δ} {a : α} :
    x.mapError rename = .ok a ↔ x = .ok a := by
  cases x with
  | ok b => rw [mapError_ok, Except.ok.injEq, Except.ok.injEq]
  | error cause => exact ⟨nofun, nofun⟩

theorem mapError_eq_error {x : Except ε α} {rename : ε → δ} {e : δ}
    (h : x.mapError rename = .error e) : ∃ cause, e = rename cause := by
  cases x with
  | ok a => cases h
  | error cause => exact ⟨cause, (Except.error.inj h).symm⟩

theorem mapError_bind (x : Except ε α) (f : α → Except ε β) (rename : ε → δ) :
    (x.bind f).mapError rename = (x.mapError rename).bind fun a => (f a).mapError rename := by
  cases x <;> rfl

theorem mapError_mapM (f : α → Except ε β) (xs : List α) (rename : ε → δ) :
    (xs.mapM f).mapError rename = xs.mapM fun x => (f x).mapError rename := by
  induction xs with
  | nil => rfl
  | cons x xs ih =>
    rw [List.mapM_cons, List.mapM_cons, ← ih]
    cases f x with
    | error cause => rfl
    | ok a => cases List.mapM f xs <;> rfl

namespace Noted

@[simp] theorem result_of (x : Except ε α) : (Noted.of x).result = x := rfl

@[simp] theorem result_mapError (x : Noted ε α) (rename : ε → δ) :
    (x.mapError rename).result = x.result.mapError rename := rfl

@[simp] theorem result_note (n : Note) : (Noted.note n : Noted ε Unit).result = .ok () := rfl

@[simp] theorem result_noteAll (ns : List Note) :
    (Noted.noteAll ns : Noted ε Unit).result = .ok () := rfl

@[simp] theorem result_pure (a : α) : (pure a : Noted ε α).result = .ok a := rfl

theorem result_andThen (x : Noted ε α) (f : α → Noted ε β) :
    (x.andThen f).result = x.result.bind fun a => (f a).result := by
  unfold Noted.andThen
  cases x.result <;> rfl

@[simp] theorem result_bind (x : Noted ε α) (f : α → Noted ε β) :
    (x >>= f).result = x.result.bind fun a => (f a).result := result_andThen x f

end Noted

end FunctionBounds
