import FunctionBounds.Registry
import Mathlib.Algebra.GroupWithZero.Nat

/-!
# What is stored in a registry

A registry is observed by looking up addresses.

- `Keyed r`: each stored candidate stands under its start. Storing and merging keep this
  (`Keyed.put`, `Keyed.merge`).
- **The list of functions** (`mem_functions_iff`, `functions_pairwise`): the candidates that are
  found, strictly ascending by start, so that at most one starts at an address
  (`filter_functions_start`). What is listed depends on the look-ups alone (`entries_eq_of_find?`,
  `functions_eq_of_get?`).
- **Merging** (`merge_induction`): what each candidate keeps, a merge keeps; so a merge adds the
  starts of its candidates and no other address (`contains_merge`).
- **Numbers**: `size_put` counts the addresses, `sum_counts` the candidates of each source.
-/

namespace FunctionBounds

namespace Source

theorem rank_inj {a b : Source} (h : a.rank = b.rank) : a = b := by
  cases a <;> cases b <;> first | rfl | cases h

theorem le_antisymm {a b : Source} (h₁ : a ≤ b) (h₂ : b ≤ a) : a = b :=
  rank_inj (Nat.le_antisymm h₁ h₂)

end Source

namespace Registry

variable {r : Registry} {c : Candidate} {s : Source}

/-- Each stored candidate stands under its start. -/
def Keyed (r : Registry) : Prop :=
  ∀ a e, r.find? a = some e → (e.candidate.start : Int) = a

@[simp] theorem find?_empty (a : Int) : find? {} a = none := by
  cases a with
  | ofNat a => exact Std.TreeMap.getElem?_emptyc
  | negSucc n => rfl

theorem keyed_empty : Keyed {} := by
  intro a e h
  rw [find?_empty] at h
  cases h

theorem Keyed.put (h : Keyed r) (c : Candidate) (s : Source) : Keyed (r.put c s) := by
  intro a e ha
  rw [find?_put] at ha
  split at ha
  · next hac => cases ha; exact hac.symm
  · exact h a e ha

theorem contains_iff (r : Registry) (a : Int) : r.contains a = true ↔ ∃ e, r.find? a = some e :=
  Option.isSome_iff_exists

theorem get?_eq_some_iff {a : Int} :
    r.get? a = some c ↔ ∃ e, r.find? a = some e ∧ e.candidate = c :=
  Option.map_eq_some_iff

theorem source?_eq_some_iff {a : Int} :
    r.source? a = some s ↔ ∃ e, r.find? a = some e ∧ e.source = s :=
  Option.map_eq_some_iff

theorem Keyed.start_of_get? (h : Keyed r) {a : Int} (ha : r.get? a = some c) :
    (c.start : Int) = a := by
  obtain ⟨e, he, rfl⟩ := get?_eq_some_iff.1 ha
  exact h a e he

/-! ## The list of functions -/

theorem mem_entries_iff (h : Keyed r) {e : Entry} :
    e ∈ r.entries ↔ r.find? e.candidate.start = some e := by
  simp only [entries, List.mem_map, Prod.exists, exists_eq_right,
    Std.TreeMap.mem_toList_iff_getElem?_eq_some]
  constructor
  · rintro ⟨k, hk⟩
    have hs := h k e hk
    rwa [hs]
  · intro he
    exact ⟨e.candidate.start, he⟩

theorem mem_functions_iff (h : Keyed r) : c ∈ r.functions ↔ r.get? c.start = some c := by
  simp only [functions, List.mem_map, get?_eq_some_iff]
  constructor
  · rintro ⟨e, he, rfl⟩
    exact ⟨e, (mem_entries_iff h).1 he, rfl⟩
  · rintro ⟨e, he, rfl⟩
    exact ⟨e, (mem_entries_iff h).2 he, rfl⟩

theorem functions_pairwise (h : Keyed r) : r.functions.Pairwise (·.start < ·.start) := by
  have hk : ∀ p ∈ r.byStart.toList, p.2.candidate.start = p.1 := by
    rintro ⟨k, e⟩ hp
    have := h k e (Std.TreeMap.mem_toList_iff_getElem?_eq_some.1 hp)
    exact Int.ofNat_inj.1 this
  rw [functions, entries, List.map_map, List.pairwise_map]
  refine r.byStart.ordered_keys_toList.imp_of_mem fun {p q} hp hq hlt => ?_
  simp only [Function.comp, hk p hp, hk q hq]
  exact Nat.compare_eq_lt.1 hlt

/-- Registries in which the same is found list the same entries. -/
theorem entries_eq_of_find? {r r' : Registry} (h : ∀ a, r.find? a = r'.find? a) :
    r.entries = r'.entries := by
  have heq : r.byStart.Equiv r'.byStart := .of_forall_constGet?_eq fun k => h k
  rw [entries, heq.toList_eq, entries]

/-- Registries in which the same candidates are found list the same functions. -/
theorem functions_eq_of_get? {r r' : Registry} (h : ∀ a, r.get? a = r'.get? a) :
    r.functions = r'.functions := by
  have hmap : ∀ q : Registry, q.functions =
      (q.byStart.map fun _ e => e.candidate).toList.map (·.2) := by
    intro q
    rw [Std.TreeMap.toList_map, functions, entries, List.map_map, List.map_map]
    rfl
  have heq : (r.byStart.map fun _ e => e.candidate).Equiv
      (r'.byStart.map fun _ e => e.candidate) := by
    refine .of_forall_constGet?_eq fun k => ?_
    have hk := h k
    simpa [get?, find?] using hk
  rw [hmap, hmap, heq.toList_eq]

private theorem filter_start_of_mem {fs : List Candidate} {f : Candidate}
    (h : fs.Pairwise (·.start < ·.start)) (hf : f ∈ fs) :
    fs.filter (·.start == f.start) = [f] := by
  induction fs with
  | nil => cases hf
  | cons g fs ih =>
    obtain ⟨hlt, hrest⟩ := List.pairwise_cons.1 h
    rcases List.mem_cons.1 hf with rfl | hf
    · have hnone : fs.filter (·.start == f.start) = [] := by
        rw [List.filter_eq_nil_iff]
        intro g hg
        have := hlt g hg
        simp only [beq_iff_eq]
        omega
      simp [hnone]
    · have hgf : g.start ≠ f.start := Nat.ne_of_lt (hlt f hf)
      simp [hgf, ih hrest hf]

/-- No other function starts where one does. -/
theorem filter_functions_start (h : Keyed r) (a : Nat) :
    r.functions.filter (·.start == a) = (r.get? a).toList := by
  cases ha : r.get? a with
  | some f =>
    obtain rfl : f.start = a := Int.natCast_inj.1 (h.start_of_get? ha)
    exact filter_start_of_mem (functions_pairwise h) ((mem_functions_iff h).2 ha)
  | none =>
    rw [Option.toList_none, List.filter_eq_nil_iff]
    intro f hf hstart
    rw [← beq_iff_eq.1 hstart, (mem_functions_iff h).1 hf] at ha
    cases ha

/-! ## Merging -/

theorem Keyed.mergeOne (h : Keyed r) (t : MergeTally) (c : Candidate) (s : Source) :
    Keyed (r.mergeOne t c s).1 := by
  unfold Registry.mergeOne
  split
  · exact h.put c s
  · split
    · exact h.put c s
    · exact h

theorem find?_mergeOne_of_ne (r : Registry) (t : MergeTally) (s : Source) {a : Int}
    (hne : a ≠ c.start) : (r.mergeOne t c s).1.find? a = r.find? a := by
  unfold Registry.mergeOne
  split
  · rw [find?_put, if_neg hne]
  · split
    · rw [find?_put, if_neg hne]
    · rfl

theorem contains_put (r : Registry) (c : Candidate) (s : Source) (a : Int) :
    (r.put c s).contains a = true ↔ r.contains a = true ∨ (c.start : Int) = a := by
  simp only [contains, find?_put]
  by_cases h : a = c.start
  · simp [h]
  · simp [h, Ne.symm h]

theorem contains_mergeOne (r : Registry) (t : MergeTally) (c : Candidate) (s : Source) (a : Int) :
    (r.mergeOne t c s).1.contains a = true ↔ r.contains a = true ∨ (c.start : Int) = a := by
  unfold Registry.mergeOne
  split
  · exact contains_put r c s a
  · next old hold =>
    split
    · exact contains_put r c s a
    · obtain ⟨e, he, -⟩ := source?_eq_some_iff.1 hold
      have hc : r.contains c.start = true := (contains_iff r _).2 ⟨e, he⟩
      constructor
      · exact .inl
      · rintro (ha | rfl)
        · exact ha
        · exact hc

theorem merge_eq_foldl (r : Registry) (cs : List Candidate) (s : Source) :
    r.merge cs s = cs.foldl (fun p c => p.1.mergeOne p.2 c s) (r, {}) := rfl

/-- What each candidate keeps, a merge keeps. -/
theorem merge_induction {P : Registry → List Candidate → Prop} {s : Source}
    (step : ∀ r t c cs, P r cs → P (r.mergeOne t c s).1 (cs ++ [c])) (hr : P r [])
    (cs : List Candidate) : P (r.merge cs s).1 cs := by
  have main : ∀ (cs before : List Candidate) (p : Registry × MergeTally), P p.1 before →
      P (cs.foldl (fun p c => p.1.mergeOne p.2 c s) p).1 (before ++ cs) := by
    intro cs
    induction cs with
    | nil => intro before p hp; simpa using hp
    | cons c cs ih =>
      intro before p hp
      have := ih (before ++ [c]) (p.1.mergeOne p.2 c s) (step p.1 p.2 c before hp)
      simpa using this
  exact main cs [] (r, {}) hr

theorem Keyed.merge (h : Keyed r) (cs : List Candidate) (s : Source) :
    Keyed (r.merge cs s).1 :=
  merge_induction (P := fun r _ => Keyed r) (fun _ t c _ hr => hr.mergeOne t c s) h cs

/-- The addresses after a merge: those before it and the starts of its candidates. -/
theorem contains_merge (r : Registry) (cs : List Candidate) (s : Source) (a : Int) :
    (r.merge cs s).1.contains a = true ↔
      r.contains a = true ∨ ∃ c ∈ cs, (c.start : Int) = a := by
  refine merge_induction (r := r) (P := fun r' cs => r'.contains a = true ↔
    r.contains a = true ∨ ∃ c ∈ cs, (c.start : Int) = a) (fun r' t c cs hr => ?_) (by simp) cs
  rw [contains_mergeOne, hr, or_assoc]
  simp [or_and_right, exists_or]

/-! ## Numbers -/

theorem size_put (r : Registry) (c : Candidate) (s : Source) :
    (r.put c s).size = if r.find? c.start = none then r.size + 1 else r.size := by
  have hc : r.byStart.contains c.start = (r.find? c.start).isSome :=
    Std.TreeMap.contains_eq_isSome_getElem?
  simp only [put, size, Std.TreeMap.size_insert, hc]
  cases r.find? c.start <;> rfl

private theorem countP_source_sum (es : List Entry) :
    (Source.all.map fun s => es.countP (·.source == s)).sum = es.length := by
  induction es with
  | nil => rfl
  | cons e es ih =>
    simp only [Source.all, List.map_cons, List.map_nil, List.sum_cons, List.sum_nil,
      List.countP_cons, List.length_cons] at ih ⊢
    cases hs : e.source <;> simp <;> omega

/-- The numbers of candidates of the sources add up to the number of addresses. -/
theorem sum_counts (r : Registry) : (r.counts.map (·.2)).sum = r.size := by
  have hfilter : ∀ l : List (Source × Nat), ((l.filter (·.2 != 0)).map (·.2)).sum =
      (l.map (·.2)).sum := by
    intro l
    induction l with
    | nil => rfl
    | cons p l ih =>
      by_cases hp : p.2 = 0
      · simp [hp, ih]
      · simp [hp, ih]
  rw [counts, hfilter, List.map_map]
  have := countP_source_sum r.entries
  simpa [count, Function.comp_def, entries, size] using this

end Registry

end FunctionBounds
