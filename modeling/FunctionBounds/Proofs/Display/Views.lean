import FunctionBounds.Display.Views
import FunctionBounds.Proofs.Json
import FunctionBounds.Proofs.Steps

/-!
# What a view needs

Apart from markup, only numbers can keep a view from being shown.

- **Needs** (`Console.Needs P fault`): there is no fault only if `P` holds, and if it does there is
  none but one of markup. What two parts need is needed together (`Needs.or`).
- **Steps** (`faultOf`, `needs_bind`, `needs_mapM`): numbers are written one after the other.
- **Regions** (`needs_regionsView`): their table needs nothing.
- **Analyses** (`Analysis.IsShowable`, `Analysis.needs_view`): the size of the file, the sizes of
  functions and the counts are short enough, and the size of the file has a quotient.
-/

namespace FunctionBounds

namespace Console

variable {α β : Type} {P Q : Prop}

/-! ## Faults -/

/-- There is no fault only if `P` holds, and then there is none but one of markup. -/
structure Needs (P : Prop) (f : Option Fault) : Prop where
  needed : f = none → P
  markup : P → f = none ∨ ∃ cause, f = some (.markup cause)

theorem needs_none : Needs True none := ⟨fun _ => trivial, fun _ => .inl rfl⟩

theorem Needs.of_iff {f : Option Fault} (h : Needs P f) (hPQ : P ↔ Q) : Needs Q f := by
  rwa [← propext hPQ]

/-- The second part matters only if the first one has no fault. -/
theorem Needs.or {f g : Option Fault} (hf : Needs P f) (hg : f = none → Needs Q g) :
    Needs (P ∧ Q) (f.or g) where
  needed h := by
    obtain ⟨hf', hg'⟩ := Option.or_eq_none_iff.1 h
    exact ⟨hf.needed hf', (hg hf').needed hg'⟩
  markup h := by
    obtain hf' | ⟨cause, hf'⟩ := hf.markup h.1
    · rw [hf', Option.none_or]
      exact (hg hf').markup h.2
    · exact .inr ⟨cause, by rw [hf', Option.some_or]⟩

/-- Where markup has no fault, there is one iff something needed is missing. -/
theorem Needs.eq_none_iff {f : Option Fault} (h : Needs P f)
    (hmarkup : ∀ cause, f ≠ some (.markup cause)) : f = none ↔ P := by
  refine ⟨h.needed, fun hP => (h.markup hP).resolve_right ?_⟩
  rintro ⟨cause, hcause⟩
  exact hmarkup cause hcause

/-! ## Steps -/

/-- The fault that a step ends with, if it does. -/
def faultOf : Except Fault α → Option Fault
  | .ok _ => none
  | .error fault => some fault

theorem needs_pure (a : α) : Needs True (faultOf (pure a)) := needs_none

theorem needs_plain (r : Renderer) (s : String) : Needs True (faultOf (plain r s)) := by
  unfold plain
  cases r.plain s with
  | ok text => exact needs_none
  | error cause => exact ⟨fun _ => trivial, fun _ => .inr ⟨cause, rfl⟩⟩

theorem needs_bind {x : Except Fault α} {f : α → Except Fault β} (hx : Needs P (faultOf x))
    (hf : ∀ a, Needs Q (faultOf (f a))) : Needs (P ∧ Q) (faultOf (x >>= f)) := by
  cases x with
  | ok a => exact hx.or fun _ => hf a
  | error fault =>
    refine ⟨nofun, fun h => (hx.markup h.1).imp ?_ id⟩
    exact nofun

/-- To go on without a fault needs nothing more. -/
theorem needs_map {x : Except Fault α} {f : α → Except Fault β} (hx : Needs P (faultOf x))
    (hf : ∀ a, Needs True (faultOf (f a))) : Needs P (faultOf (x >>= f)) :=
  (needs_bind hx hf).of_iff (iff_of_eq (and_true P))

theorem needs_mapM {f : α → Except Fault β} {p : α → Prop} (h : ∀ a, Needs (p a) (faultOf (f a)))
    (xs : List α) : Needs (∀ a ∈ xs, p a) (faultOf (xs.mapM f)) := by
  induction xs with
  | nil => exact (needs_pure _).of_iff (by simp)
  | cons x xs ih =>
    rw [List.mapM_cons]
    exact (needs_bind (h x) fun b => needs_map ih fun bs => needs_pure _).of_iff (by simp)

theorem needs_check (n : Int) :
    Needs (IsShort n) (faultOf ((Text.DigitLimit.standard.check n).mapError .number)) := by
  rw [IsShort, ← Text.DigitLimit.check_eq_ok_iff]
  cases Text.DigitLimit.standard.check n with
  | ok => exact ⟨fun _ => rfl, fun _ => .inl rfl⟩
  | error cause => exact ⟨nofun, nofun⟩

theorem needs_decimal (n : Int) : Needs (IsShort n) (faultOf (decimal n)) := by
  unfold decimal
  exact needs_map (needs_check n) fun _ => needs_pure _

theorem needs_grouped (n : Int) : Needs (IsShort n) (faultOf (grouped n)) := by
  unfold grouped
  exact needs_map (needs_check n) fun _ => needs_pure _

theorem needs_kibi (n : Int) :
    Needs ((Text.kibi? n).isSome = true)
      (faultOf ((Text.kibi? n).elim (.error .hugeQuotient) .ok)) := by
  cases Text.kibi? n with
  | none => exact ⟨nofun, nofun⟩
  | some text => exact ⟨fun _ => rfl, fun _ => .inl rfl⟩

/-! ## Parts of views -/

namespace Output

theorem needs_one (item : Item) : Needs True (one item).fault := needs_none

theorem needs_append {x y : Output} (hx : Needs P x.fault) (hy : Needs Q y.fault) :
    Needs (P ∧ Q) (x ++ y).fault := by
  have hfault : (x ++ y).fault = x.fault.or y.fault := by
    cases hx : x.fault with
    | none => rw [append_of_no_fault y hx, Option.none_or]
    | some fault => rw [append_of_fault y hx, hx, Option.some_or]
  rw [hfault]
  exact hx.or fun _ => hy

theorem needs_ofExcept {shown : Except Fault (List Item)} (h : Needs P (faultOf shown)) :
    Needs P (ofExcept shown).fault := by
  cases shown <;> exact h

theorem needs_join {outputs : List Output} (h : ∀ x ∈ outputs, Needs True x.fault) :
    Needs True (join outputs).fault := by
  induction outputs with
  | nil => exact needs_none
  | cons x outputs ih =>
    exact (needs_append (h x List.mem_cons_self) (ih fun y hy =>
      h y (List.mem_cons_of_mem x hy))).of_iff (iff_of_eq (and_self True))

end Output

open Output (needs_append needs_ofExcept needs_join)

theorem needs_markup (r : Renderer) (s : String) : Needs True (markup r s).fault :=
  needs_ofExcept (needs_map (needs_plain r s) fun _ => needs_pure _)

theorem needs_warning (r : Renderer) (message : String) : Needs True (warning r message).fault :=
  needs_markup r _

theorem needs_blank : Needs True blank.fault := needs_none

theorem needs_heading (title : String) : Needs True (heading title).fault := needs_none

end Console

open Console

/-! ## Analyses -/

theorem BinaryInfo.needs_lines (i : BinaryInfo) :
    Needs (IsShort i.size ∧ (Text.kibi? i.size).isSome = true ∧ IsShort i.bits)
      (faultOf i.lines) := by
  unfold lines
  exact needs_bind (needs_grouped i.size) fun _ => needs_bind (needs_kibi i.size) fun _ =>
    needs_map (needs_decimal i.bits) fun _ => needs_pure _

/-- The numbers that the console shows of an analysis can be written. Counts and sizes are shown
only if there are functions. -/
structure Analysis.IsShowable (a : Analysis) : Prop where
  size : IsShort a.info.size
  quotient : (Text.kibi? a.info.size).isSome = true
  bits : IsShort a.info.bits
  sizes : ∀ f ∈ a.functions, IsShort f.size
  counts : a.functions ≠ [] → ∀ p ∈ a.sourceCounts, IsShort p.2

section Rendered

variable (r : Renderer)

theorem BinaryInfo.needs_view (i : BinaryInfo) :
    Needs (IsShort i.size ∧ (Text.kibi? i.size).isSome = true ∧ IsShort i.bits)
      (i.view r).fault := by
  unfold view
  refine (Output.needs_append (Output.needs_ofExcept ?_) needs_blank).of_iff
    (iff_of_eq (and_true _))
  exact needs_map i.needs_lines fun _ => needs_map (needs_plain r _) fun _ => needs_pure _

theorem needs_totalView (count : Nat) (counts : SourceCounts) :
    Needs (∀ p ∈ counts, IsShort p.2) (totalView r count counts).fault := by
  unfold totalView
  refine Output.needs_ofExcept (needs_map (needs_mapM (fun p => ?_) counts) fun _ =>
    needs_map (needs_plain r _) fun _ => needs_pure _)
  exact needs_map (needs_decimal p.2) fun _ => needs_pure _

theorem needs_functionsView (functions : List Candidate) (counts : SourceCounts) :
    Needs ((∀ f ∈ functions, IsShort f.size) ∧
      (functions ≠ [] → ∀ p ∈ counts, IsShort p.2)) (functionsView r functions counts).fault := by
  unfold functionsView
  split
  · next hempty =>
    obtain rfl := List.isEmpty_iff.1 hempty
    exact (Output.needs_append (needs_heading _) (needs_warning r _)).of_iff (by simp)
  · next hsome =>
    have hrows : Needs (∀ f ∈ functions, IsShort f.size)
        (faultOf (functions.mapM Candidate.cells)) := by
      refine needs_mapM (fun f => ?_) functions
      unfold Candidate.cells
      exact needs_map (needs_grouped f.size) fun _ => needs_pure _
    have htable := Output.needs_ofExcept (needs_map hrows fun rows =>
      needs_pure [Item.table none ["Function", "Start", "End", "Size"] rows])
    refine (Output.needs_append (needs_heading _) (Output.needs_append (Output.needs_append htable
      (needs_totalView r functions.length counts)) needs_blank)).of_iff ?_
    simp [mt List.isEmpty_iff.2 hsome]

/-- The table of regions has addresses in hexadecimal only. -/
theorem needs_regionsView (regions : List RegionInfo) (stripped : Bool) :
    Needs True (regionsView r regions stripped).fault := by
  unfold regionsView
  generalize (if stripped = true then "Segments" else "Sections") = title
  split
  · exact (Output.needs_append (needs_heading _) (needs_warning r _)).of_iff (by simp)
  · exact (Output.needs_append (needs_heading _) (Output.needs_append (Output.needs_one _)
      needs_blank)).of_iff (by simp)

theorem Analysis.needs_view (a : Analysis) : Needs a.IsShowable (a.view r).fault := by
  unfold view warningsView
  have hwarnings : Needs True (Output.join (a.warnings.map (warning r))).fault :=
    Output.needs_join (List.forall_mem_map.2 fun message _ => needs_warning r message)
  have hdivider : Needs True divider.fault := needs_none
  refine (Output.needs_append (Output.needs_append (Output.needs_append (Output.needs_append
    (needs_heading _) (a.info.needs_view r)) (needs_functionsView r a.functions a.sourceCounts))
    hwarnings) hdivider).of_iff ?_
  constructor
  · rintro ⟨⟨⟨⟨-, hsize, hquotient, hbits⟩, hsizes, hcounts⟩, -⟩, -⟩
    exact ⟨hsize, hquotient, hbits, hsizes, hcounts⟩
  · rintro ⟨hsize, hquotient, hbits, hsizes, hcounts⟩
    exact ⟨⟨⟨⟨trivial, hsize, hquotient, hbits⟩, hsizes, hcounts⟩, trivial⟩, trivial⟩

end Rendered

end FunctionBounds
