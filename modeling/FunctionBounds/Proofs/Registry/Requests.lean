import FunctionBounds.Proofs.Registry.Agreement

/-!
# Requests to a registry

A registry is asked to take candidates and to name functions, in any order and at any addresses.

- **Merging** (`find?_merge_cases`): what is stored at an address stays, or a candidate from a
  source that is trusted more takes its place.
- **One request** (`Retains q x y`, `find?_request`): where something was stored, something from a
  source that is trusted no less is stored after a request. Naming a function never changes a range,
  and a merge does only if its source is trusted more.
- **Any requests** (`Keyed.requestAll`, `source?_requestAll`): each candidate stands under its
  start, and what is trusted most stays so. No merge replaces it (`find?_merge_of_manual`).
- **Naming** (`size_nameEntry`, `get?_nameEntry_of_ne`): naming a function adds no other address and
  changes nothing but names elsewhere.

`requestAll_invariant` puts these together.
-/

namespace FunctionBounds.Registry

/-- A request to a registry. -/
inductive Request where
  | merge (cs : List Candidate) (source : Source)
  /-- Names the function at an address. -/
  | identify (address : Nat)

/-- The registry after a request. -/
def request (r : Registry) : Request → Registry
  | .merge cs s => (r.merge cs s).1
  | .identify e => (r.identify e).1

/-- The registry after requests in order. -/
def requestAll (r : Registry) (qs : List Request) : Registry := qs.foldl request r

theorem request_identify (r : Registry) (e : Nat) : r.request (.identify e) = r.nameEntry e := rfl

variable {r : Registry} {e : Nat} {a : Int} {x : Entry}

/-! ## Merging -/

theorem find?_mergeOne_cases (h : r.find? a = some x) (t : MergeTally) (c : Candidate)
    (s : Source) :
    (r.mergeOne t c s).1.find? a = some x ∨
      (c.start : Int) = a ∧ x.source < s ∧
        (r.mergeOne t c s).1.find? a = some ⟨c, s, x.arrival⟩ := by
  by_cases hac : a = c.start
  · subst hac
    have hsource : r.source? c.start = some x.source := source?_eq_some_iff.2 ⟨x, h, rfl⟩
    by_cases hlt : x.source < s
    · refine .inr ⟨rfl, hlt, ?_⟩
      simp only [mergeOne, hsource, if_pos hlt, find?_put, if_true, h, Option.elim_some]
    · left
      simp only [mergeOne, hsource, if_neg hlt, h]
  · rw [find?_mergeOne_of_ne _ _ _ hac]
    exact .inl h

/-- What is stored stays, or a candidate from a source that is trusted more takes its place. -/
theorem find?_merge_cases (h : r.find? a = some x) (cs : List Candidate) (s : Source) :
    (r.merge cs s).1.find? a = some x ∨
      ∃ c ∈ cs, (c.start : Int) = a ∧ x.source < s ∧
        (r.merge cs s).1.find? a = some ⟨c, s, x.arrival⟩ := by
  refine merge_induction (P := fun r' cs => r'.find? a = some x ∨
    ∃ c ∈ cs, (c.start : Int) = a ∧ x.source < s ∧ r'.find? a = some ⟨c, s, x.arrival⟩)
    (fun r' t c cs hr => ?_) (.inl h) cs
  rcases hr with hx | ⟨c', hc', hca', hlt', hx⟩
  · rcases find?_mergeOne_cases hx t c s with hkept | ⟨hca, hlt, hnew⟩
    · exact .inl hkept
    · exact .inr ⟨c, by simp, hca, hlt, hnew⟩
  · rcases find?_mergeOne_cases hx t c s with hkept | ⟨-, hlt, -⟩
    · exact .inr ⟨c', by simp [hc'], hca', hlt', hkept⟩
    · -- Of the candidates of one merge only the first can be trusted more than what is stored.
      exact absurd hlt (Nat.lt_irrefl _)

theorem not_manual_lt (s : Source) : ¬ Source.manual < s := by
  cases s <;> decide

/-- No merge replaces what is trusted most. -/
theorem find?_merge_of_manual (h : r.source? a = some .manual) (cs : List Candidate)
    (s : Source) : (r.merge cs s).1.find? a = r.find? a := by
  obtain ⟨x, hx, hsource⟩ := source?_eq_some_iff.1 h
  rcases find?_merge_cases hx cs s with hkept | ⟨_, -, -, hlt, -⟩
  · rw [hkept, hx]
  · rw [hsource] at hlt
    exact absurd hlt (not_manual_lt s)

/-! ## One request -/

/-- `y` stands where `x` stood before a request: its source is trusted no less, and it has the same
range unless a merge brought a source that is trusted more. -/
def Retains (q : Request) (x y : Entry) : Prop :=
  x.source ≤ y.source ∧
    (y.candidate.start = x.candidate.start ∧ y.candidate.size = x.candidate.size ∨
      x.source < y.source ∧ ∃ cs s, q = .merge cs s)

theorem retains_self (q : Request) (x : Entry) : Retains q x x :=
  ⟨Nat.le_refl _, .inl ⟨rfl, rfl⟩⟩

@[simp] theorem renameCompetitor_size (address : Int) (x : Entry) :
    (renameCompetitor address x).candidate.size = x.candidate.size := by
  unfold renameCompetitor
  split <;> rfl

theorem find?_request (hkeyed : Keyed r) (h : r.find? a = some x) (q : Request) :
    ∃ y, (r.request q).find? a = some y ∧ Retains q x y := by
  cases q with
  | merge cs s =>
    rcases find?_merge_cases h cs s with hkept | ⟨c, -, -, hlt, hnew⟩
    · exact ⟨x, hkept, retains_self _ x⟩
    · exact ⟨_, hnew, Nat.le_of_lt hlt, .inr ⟨hlt, cs, s, rfl⟩⟩
  | identify e =>
    rw [request_identify, find?_nameEntry hkeyed]
    split
    · next hae =>
      subst hae
      have hget : r.get? (e : Int) = some x.candidate := get?_eq_some_iff.2 ⟨x, h, rfl⟩
      have hstart : x.candidate.start = e := Int.natCast_inj.1 (hkeyed _ x h)
      refine ⟨_, rfl, Nat.not_lt.1 (not_manual_lt _), .inl ?_⟩
      rw [entryCandidate_eq hkeyed, hget]
      exact ⟨hstart.symm, rfl⟩
    · rw [h]
      have hsource : x.source ≤ (renameCompetitor e x).source := by
        rw [renameCompetitor_source]
        exact Nat.le_refl _
      exact ⟨_, rfl, hsource, .inl ⟨renameCompetitor_start e x, renameCompetitor_size e x⟩⟩

theorem Keyed.request (h : Keyed r) (q : Request) : Keyed (r.request q) := by
  cases q with
  | merge cs s => exact h.merge cs s
  | identify e => exact (named_nameEntry h e).keyed

/-! ## Any requests -/

theorem Keyed.requestAll (h : Keyed r) (qs : List Request) : Keyed (r.requestAll qs) := by
  induction qs generalizing r with
  | nil => exact h
  | cons q qs ih => exact ih (h.request q)

/-- What is trusted most stays so, whatever is requested. -/
theorem source?_requestAll (hkeyed : Keyed r) (h : r.source? a = some .manual)
    (qs : List Request) : (r.requestAll qs).source? a = some .manual := by
  induction qs generalizing r with
  | nil => exact h
  | cons q qs ih =>
    obtain ⟨x, hx, hsource⟩ := source?_eq_some_iff.1 h
    obtain ⟨y, hy, hle, -⟩ := find?_request hkeyed hx q
    refine ih (hkeyed.request q) (source?_eq_some_iff.2 ⟨y, hy, ?_⟩)
    rw [hsource] at hle
    exact Source.le_antisymm (Nat.not_lt.1 (not_manual_lt _)) hle

/-! ## Naming -/

/-- Naming the function at an address adds the address, if it is not there yet, and no other. -/
theorem size_nameEntry (h : Keyed r) (e : Nat) :
    (r.nameEntry e).size = r.size + if r.contains e = true then 0 else 1 := by
  rw [nameEntry, size_put, entryCandidate_start h, size_renameCompetitors, find?_renameCompetitors,
    contains]
  cases r.find? (e : Int) <;> rfl

/-- Elsewhere nothing changes but the name of a function that is called like the entry point. -/
theorem get?_nameEntry_of_ne (h : Keyed r) (hne : a ≠ e) :
    (r.nameEntry e).get? a = (r.get? a).map fun c =>
      if c.name = "entry" then c.renamed ("entry@" ++ Text.hex c.start) else c := by
  rw [get?_nameEntry h, if_neg hne]
  refine Option.map_congr fun c hc => ?_
  have hstart : c.start ≠ e := fun heq => hne (by rw [← h.start_of_get? hc, heq])
  simp only [called, hstart, ne_eq, not_false_eq_true, true_and]
  rfl

/-- After any requests each candidate stands under its start and ends its size after it. A further
request replaces nothing by what is trusted less, and changes a range only if it merges candidates
of a source that is trusted more. If it names the function at an address, that one alone is called
`entry` and trusted most, with the range that was stored there or else an empty one; no other
address is added, and elsewhere only the name `entry` gives way to another one. To name it again
changes nothing, and no later merge changes what is stored there, whatever else is requested. -/
theorem requestAll_invariant (qs : List Request) :
    let r := requestAll {} qs
    (∀ (a : Int) c, r.get? a = some c → (c.start : Int) = a ∧ c.stop = c.start + c.size) ∧
    (∀ q a x, r.find? a = some x → ∃ y, (r.request q).find? a = some y ∧ Retains q x y) ∧
    ∀ e : Nat,
      let t := r.request (.identify e)
      (∃ f, t.functions.filter (·.name == "entry") = [f] ∧
        f = ⟨"entry", e, (r.get? e).elim 0 (·.size)⟩ ∧ t.get? e = some f ∧
        (r.identify e).2.result = .ok f) ∧
      t.source? e = some .manual ∧
      t.size = (r.size + if r.contains e = true then 0 else 1) ∧
      (∀ a : Int, t.contains a = true ↔ a = e ∨ r.contains a = true) ∧
      (∀ a : Int, a ≠ e → t.source? a = r.source? a ∧
        t.get? a = (r.get? a).map fun c =>
          if c.name = "entry" then c.renamed ("entry@" ++ Text.hex c.start) else c) ∧
      ((t.request (.identify e)).entries = t.entries ∧
        ∀ a, (t.request (.identify e)).find? a = t.find? a) ∧
      ∀ later cs s, let u := t.requestAll later
        (u.request (.merge cs s)).find? e = u.find? e := by
  intro r
  have hkeyed : Keyed r := keyed_empty.requestAll qs
  refine ⟨fun a c hc => ⟨hkeyed.start_of_get? hc, rfl⟩, fun q a x hx => find?_request hkeyed hx q,
    fun e => ?_⟩
  intro t
  have hnamed : Named t e := named_nameEntry hkeyed e
  have hpinned : Pinned t e ((r.get? e).elim 0 (·.size)) := pinned_nameEntry hkeyed e
  have hagain : ∀ a, (t.request (.identify e)).find? a = t.find? a :=
    find?_nameEntry_of_named hnamed
  refine ⟨?_, hpinned.source, size_nameEntry hkeyed e, fun a => contains_nameEntry hkeyed a,
    fun a hne => ⟨?_, get?_nameEntry_of_ne hkeyed hne⟩, ⟨entries_eq_of_find? hagain, hagain⟩,
    fun later cs s => ?_⟩
  · obtain ⟨f, hfilter, hstart⟩ := hnamed.filter_functions
    have hmem : f ∈ t.functions.filter (·.name == entryName) := by
      rw [hfilter]
      exact List.mem_singleton_self f
    have hget := (mem_functions_iff hnamed.keyed).1 (List.mem_filter.1 hmem).1
    rw [hstart, hpinned.candidate] at hget
    cases hget
    exact ⟨_, hfilter, rfl, hpinned.candidate, congrArg Except.ok (entryCandidate_eq hkeyed)⟩
  · exact (source?_nameEntry hkeyed a).trans (if_neg hne)
  · exact find?_merge_of_manual (source?_requestAll hnamed.keyed hpinned.source later) cs s

example : (requestAll {} [.merge [⟨"entry", 16, 4⟩] .manual, .identify 32, .identify 16,
    .merge [⟨"main", 32, 8⟩] .manual]).functions = [⟨"entry", 16, 4⟩, ⟨"entry@0x20", 32, 0⟩] := by
  decide

end FunctionBounds.Registry
