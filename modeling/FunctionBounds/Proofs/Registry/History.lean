import FunctionBounds.Proofs.Registry.Lookup

/-!
# The registry as a view of its history

A registry keeps one candidate for each address and decides as candidates arrive. What it stores is
a function of everything that ever arrived:

- **Leading arrival** (`Leads h x`): what arrived before `x` at its address came from lower sources,
  and what arrived after it from no higher one. So `x` is the first arrival of the highest source
  (`Leads.find?_eq`).
- **Invariant** (`Follows r h`): at every address the registry stores the leading arrival of `h`.
  One candidate keeps it (`Follows.mergeOne`), hence every merge does (`Follows.merge`,
  `follows_mergeAll`). So what is found is decided by the first arrival of each source at each
  address (`Follows.get?_congr`).
- **Tallies** (`merge_tally`): a merge inserts, replaces or discards each candidate, and the
  registry grows by those inserted.

`mergeAll_view` puts these together for any sequence of merges.
-/

namespace FunctionBounds.Registry

/-- A candidate and the source under which it was merged. -/
abbrev Arrival := Candidate × Source

/-- What arrives in a sequence of merges, in order. -/
def arrivals (calls : List (List Candidate × Source)) : List Arrival :=
  calls.flatMap fun (cs, s) => cs.map (·, s)

/-- The registry after a sequence of merges. -/
def mergeAll (calls : List (List Candidate × Source)) : Registry :=
  calls.foldl (fun r (cs, s) => (r.merge cs s).1) {}

/-! ## Leading arrivals -/

/-- `x` arrived, after nothing of its address that is trusted as much and before nothing that is
trusted more. -/
def Leads (h : List Arrival) (x : Arrival) : Prop :=
  ∃ before after, h = before ++ x :: after ∧
    (∀ y ∈ before, y.1.start = x.1.start → y.2 < x.2) ∧
    ∀ y ∈ after, y.1.start = x.1.start → y.2 ≤ x.2

theorem Leads.mem {h : List Arrival} {x : Arrival} (hx : Leads h x) : x ∈ h := by
  obtain ⟨before, after, rfl, -, -⟩ := hx
  simp

theorem Leads.le {h : List Arrival} {x y : Arrival} (hx : Leads h x) (hy : y ∈ h)
    (hs : y.1.start = x.1.start) : y.2 ≤ x.2 := by
  obtain ⟨before, after, rfl, hb, ha⟩ := hx
  rcases List.mem_append.1 hy with hy | hy
  · exact Nat.le_of_lt (hb y hy hs)
  · rcases List.mem_cons.1 hy with rfl | hy
    · exact Nat.le_refl _
    · exact ha y hy hs

/-- The leading arrival is the first one of its address and source. -/
theorem Leads.find?_eq {h : List Arrival} {x : Arrival} (hx : Leads h x) :
    (h.find? fun y => (y.1.start : Int) == x.1.start && y.2 == x.2) = some x := by
  obtain ⟨before, after, rfl, hb, -⟩ := hx
  have hnone : (before.find? fun y => (y.1.start : Int) == x.1.start && y.2 == x.2) = none := by
    rw [List.find?_eq_none]
    intro y hy hp
    simp only [Bool.and_eq_true, beq_iff_eq, Int.natCast_inj] at hp
    have := hb y hy hp.1
    rw [hp.2] at this
    exact Nat.lt_irrefl _ this
  rw [List.find?_append, hnone]
  simp

/-- An arrival that the leading one of its address does not yield to changes nothing. -/
theorem Leads.append_of_le {h : List Arrival} {x y : Arrival} (hx : Leads h x)
    (hy : y.1.start = x.1.start → y.2 ≤ x.2) : Leads (h ++ [y]) x := by
  obtain ⟨before, after, rfl, hb, ha⟩ := hx
  refine ⟨before, after ++ [y], by simp, hb, fun z hz hs => ?_⟩
  rcases List.mem_append.1 hz with hz | hz
  · exact ha z hz hs
  · obtain rfl := List.mem_singleton.1 hz
    exact hy hs

theorem leads_append_self {h : List Arrival} {x : Arrival}
    (hx : ∀ y ∈ h, y.1.start = x.1.start → y.2 < x.2) : Leads (h ++ [x]) x :=
  ⟨h, [], rfl, hx, by simp⟩

/-! ## The invariant -/

/-- At every address the registry stores what leads there, and nothing where nothing arrived. -/
structure Follows (r : Registry) (h : List Arrival) : Prop where
  keyed : Keyed r
  leads : ∀ a e, r.find? a = some e → Leads h (e.candidate, e.source)
  vacant : ∀ a, r.find? a = none → ∀ x ∈ h, (x.1.start : Int) ≠ a

theorem follows_empty : Follows {} [] where
  keyed := keyed_empty
  leads a e he := by rw [find?_empty] at he; cases he
  vacant _ _ _ hx := absurd hx List.not_mem_nil

variable {r : Registry} {h : List Arrival}

/-- Storing an arrival that nothing at its address outranks. -/
theorem Follows.put (hr : Follows r h) {c : Candidate} {s : Source}
    (hlow : ∀ y ∈ h, y.1.start = c.start → y.2 < s) : Follows (r.put c s) (h ++ [(c, s)]) where
  keyed := hr.keyed.put c s
  leads a e he := by
    rw [find?_put] at he
    split at he
    · cases he
      exact leads_append_self hlow
    · next hne =>
      refine (hr.leads a e he).append_of_le fun hs => absurd ?_ hne
      rw [← hr.keyed a e he]
      exact Int.natCast_inj.2 hs.symm
  vacant a ha x hx := by
    rw [find?_put] at ha
    split at ha
    · cases ha
    · next hne =>
      rcases List.mem_append.1 hx with hx | hx
      · exact hr.vacant a ha x hx
      · obtain rfl := List.mem_singleton.1 hx
        exact Ne.symm hne

/-- Leaving out an arrival that does not outrank what is stored at its address. -/
theorem Follows.discard (hr : Follows r h) {c : Candidate} {s old : Source}
    (hold : r.source? c.start = some old) (hle : s ≤ old) : Follows r (h ++ [(c, s)]) := by
  obtain ⟨e₀, he₀, rfl⟩ := source?_eq_some_iff.1 hold
  refine ⟨hr.keyed, fun a e he => (hr.leads a e he).append_of_le fun hs => ?_, fun a ha x hx => ?_⟩
  · have hae : (c.start : Int) = a := by rw [← hr.keyed a e he]; exact Int.natCast_inj.2 hs
    rw [hae, he] at he₀
    cases he₀
    exact hle
  · rcases List.mem_append.1 hx with hx | hx
    · exact hr.vacant a ha x hx
    · obtain rfl := List.mem_singleton.1 hx
      rintro rfl
      rw [he₀] at ha
      cases ha

theorem Follows.mergeOne (hr : Follows r h) (t : MergeTally) (c : Candidate) (s : Source) :
    Follows (r.mergeOne t c s).1 (h ++ [(c, s)]) := by
  unfold Registry.mergeOne
  split
  · next hnone =>
    have hfind : r.find? c.start = none := Option.map_eq_none_iff.1 hnone
    exact hr.put fun y hy hs => absurd (Int.natCast_inj.2 hs) (hr.vacant _ hfind y hy)
  · next old hold =>
    obtain ⟨e, he, rfl⟩ := source?_eq_some_iff.1 hold
    have hkey : e.candidate.start = c.start := Int.natCast_inj.1 (hr.keyed _ e he)
    split
    · next hlt =>
      refine hr.put fun y hy hs => ?_
      have hle := (hr.leads _ e he).le hy (hs.trans hkey.symm)
      exact Nat.lt_of_le_of_lt hle hlt
    · next hge => exact hr.discard hold (Nat.not_lt.1 hge)

theorem Follows.merge (hr : Follows r h) (cs : List Candidate) (s : Source) :
    Follows (r.merge cs s).1 (h ++ cs.map (·, s)) := by
  refine merge_induction (P := fun r cs => Follows r (h ++ cs.map (·, s)))
    (fun r t c cs hr => ?_) (by simpa using hr) cs
  simpa using hr.mergeOne t c s

theorem follows_foldl (hr : Follows r h) (calls : List (List Candidate × Source)) :
    Follows (calls.foldl (fun r (cs, s) => (r.merge cs s).1) r) (h ++ arrivals calls) := by
  induction calls generalizing r h with
  | nil => simpa [arrivals] using hr
  | cons call calls ih =>
    have := ih (hr.merge call.1 call.2)
    simpa [arrivals] using this

theorem follows_mergeAll (calls : List (List Candidate × Source)) :
    Follows (mergeAll calls) (arrivals calls) :=
  follows_foldl follows_empty calls

/-! ## What the invariant says -/

theorem Follows.contains_iff (hr : Follows r h) (a : Int) :
    r.contains a = true ↔ ∃ x ∈ h, (x.1.start : Int) = a := by
  rw [Registry.contains_iff]
  constructor
  · rintro ⟨e, he⟩
    exact ⟨_, (hr.leads a e he).mem, hr.keyed a e he⟩
  · rintro ⟨x, hx, hxa⟩
    cases he : r.find? a with
    | none => exact absurd hxa (hr.vacant a he x hx)
    | some e => exact ⟨e, rfl⟩

/-- The source at an address is the highest one that arrived there. -/
theorem Follows.source?_eq_some_iff (hr : Follows r h) (a : Int) (s : Source) :
    r.source? a = some s ↔ (∃ x ∈ h, (x.1.start : Int) = a ∧ x.2 = s) ∧
      ∀ x ∈ h, (x.1.start : Int) = a → x.2 ≤ s := by
  constructor
  · intro hs
    obtain ⟨e, he, rfl⟩ := Registry.source?_eq_some_iff.1 hs
    have hkey := hr.keyed a e he
    refine ⟨⟨_, (hr.leads a e he).mem, hkey, rfl⟩, fun x hx hxa => ?_⟩
    exact (hr.leads a e he).le hx (Int.natCast_inj.1 (hxa.trans hkey.symm))
  · rintro ⟨⟨x, hx, hxa, rfl⟩, hmax⟩
    obtain ⟨e, he⟩ := (Registry.contains_iff r a).1 ((hr.contains_iff a).2 ⟨x, hx, hxa⟩)
    have hkey := hr.keyed a e he
    have hlead := hr.leads a e he
    refine Registry.source?_eq_some_iff.2 ⟨e, he, Source.le_antisymm ?_ ?_⟩
    · exact hmax _ hlead.mem hkey
    · exact hlead.le hx (Int.natCast_inj.1 (hxa.trans hkey.symm))

/-- The candidate at an address is the first arrival of its source. -/
theorem Follows.get?_eq_some_iff (hr : Follows r h) (a : Int) (c : Candidate) :
    r.get? a = some c ↔ ∃ s, r.source? a = some s ∧
      (h.find? fun x => (x.1.start : Int) == a && x.2 == s) = some (c, s) := by
  constructor
  · intro hc
    obtain ⟨e, he, rfl⟩ := Registry.get?_eq_some_iff.1 hc
    refine ⟨e.source, Registry.source?_eq_some_iff.2 ⟨e, he, rfl⟩, ?_⟩
    have hfirst := (hr.leads a e he).find?_eq
    rwa [hr.keyed a e he] at hfirst
  · rintro ⟨s, hs, hfind⟩
    obtain ⟨e, he, rfl⟩ := Registry.source?_eq_some_iff.1 hs
    have hfirst := (hr.leads a e he).find?_eq
    rw [hr.keyed a e he, hfind] at hfirst
    cases hfirst
    exact Registry.get?_eq_some_iff.2 ⟨e, he, rfl⟩

/-- What a registry stores is decided by the first arrival of each source at each address. -/
theorem Follows.get?_congr {r' : Registry} {h' : List Arrival} (hr : Follows r h)
    (hr' : Follows r' h')
    (hfirst : ∀ (a : Int) s, (h.find? fun x => (x.1.start : Int) == a && x.2 == s) =
      h'.find? fun x => (x.1.start : Int) == a && x.2 == s) (a : Int) :
    r.get? a = r'.get? a := by
  have harrived : ∀ s, (∃ x ∈ h, (x.1.start : Int) = a ∧ x.2 = s) ↔
      ∃ x ∈ h', (x.1.start : Int) = a ∧ x.2 = s := by
    intro s
    have hsome := congrArg Option.isSome (hfirst a s)
    rw [Bool.eq_iff_iff, List.find?_isSome, List.find?_isSome] at hsome
    simpa only [Bool.and_eq_true, beq_iff_eq] using hsome
  have hsource : ∀ s, r.source? a = some s ↔ r'.source? a = some s := by
    intro s
    rw [hr.source?_eq_some_iff, hr'.source?_eq_some_iff, harrived]
    refine and_congr_right fun _ => ⟨fun hmax x hx hxa => ?_, fun hmax x hx hxa => ?_⟩
    · obtain ⟨y, hy, hya, hyx⟩ := (harrived x.2).2 ⟨x, hx, hxa, rfl⟩
      rw [← hyx]
      exact hmax y hy hya
    · obtain ⟨y, hy, hya, hyx⟩ := (harrived x.2).1 ⟨x, hx, hxa, rfl⟩
      rw [← hyx]
      exact hmax y hy hya
  refine Option.ext fun c => ?_
  rw [hr.get?_eq_some_iff, hr'.get?_eq_some_iff]
  simp only [hsource, hfirst]

/-! ## Tallies -/

theorem mergeOne_tally (r : Registry) (t : MergeTally) (c : Candidate) (s : Source) :
    (r.mergeOne t c s).2.inserted + (r.mergeOne t c s).2.replaced +
        (r.mergeOne t c s).2.discarded = t.inserted + t.replaced + t.discarded + 1 ∧
      (r.mergeOne t c s).1.size + t.inserted = r.size + (r.mergeOne t c s).2.inserted := by
  unfold mergeOne
  split
  · next hnone =>
    have hfind : r.find? c.start = none := Option.map_eq_none_iff.1 hnone
    have hsize := size_put r c s
    rw [if_pos hfind] at hsize
    constructor
    · simp only; omega
    · simp only [hsize]; omega
  · next old hold =>
    obtain ⟨e, he, rfl⟩ := source?_eq_some_iff.1 hold
    have hsize := size_put r c s
    rw [if_neg (by simp [he])] at hsize
    split
    · constructor
      · simp only; omega
      · simp only [hsize]
    · exact ⟨by simp only; omega, rfl⟩

/-- A merge counts every candidate once, and the registry grows by those it inserts. -/
theorem merge_tally (r : Registry) (cs : List Candidate) (s : Source) :
    (r.merge cs s).2.inserted + (r.merge cs s).2.replaced + (r.merge cs s).2.discarded =
        cs.length ∧
      (r.merge cs s).1.size = r.size + (r.merge cs s).2.inserted := by
  have main : ∀ (cs : List Candidate) (p : Registry × MergeTally),
      let q := cs.foldl (fun p c => p.1.mergeOne p.2 c s) p
      q.2.inserted + q.2.replaced + q.2.discarded =
          p.2.inserted + p.2.replaced + p.2.discarded + cs.length ∧
        q.1.size + p.2.inserted = p.1.size + q.2.inserted := by
    intro cs
    induction cs with
    | nil => intro p; exact ⟨rfl, rfl⟩
    | cons c cs ih =>
      intro p
      have hstep := mergeOne_tally p.1 p.2 c s
      have hrest := ih (p.1.mergeOne p.2 c s)
      simp only [List.foldl_cons, List.length_cons] at hrest ⊢
      omega
  simpa [merge_eq_foldl] using main cs (r, {})

/-! ## Any sequence of merges -/

/-- After any merges on an empty registry: an address is stored iff a candidate arrived there, its
source is the highest that arrived there, and its candidate the first one of that source. The list
of functions holds what is stored, strictly ascending, and the numbers of the sources add up. The
numbers that a further merge reports add up to what it was given, and those inserted are the
growth. -/
theorem mergeAll_view (calls : List (List Candidate × Source)) :
    let r := mergeAll calls
    let h := arrivals calls
    (∀ a : Int, r.contains a = true ↔ ∃ x ∈ h, (x.1.start : Int) = a) ∧
    (∀ (a : Int) s, r.source? a = some s ↔ (∃ x ∈ h, (x.1.start : Int) = a ∧ x.2 = s) ∧
      ∀ x ∈ h, (x.1.start : Int) = a → x.2 ≤ s) ∧
    (∀ (a : Int) c, r.get? a = some c ↔ ∃ s, r.source? a = some s ∧
      (h.find? fun x => (x.1.start : Int) == a && x.2 == s) = some (c, s)) ∧
    r.functions.Pairwise (·.start < ·.start) ∧
    (∀ c, c ∈ r.functions ↔ ∃ a, r.get? a = some c) ∧
    (r.counts.map (·.2)).sum = r.size ∧
    ∀ cs s,
      let t := (r.merge cs s).2
      t.inserted + t.replaced + t.discarded = cs.length ∧
      (r.merge cs s).1.size = r.size + t.inserted ∧
      mergeNote s t = .debug (s!"Merged {s.name}: {t.inserted} new, {t.replaced} replaced, " ++
        s!"{t.discarded} discarded") := by
  intro r h
  have hr : Follows r h := follows_mergeAll calls
  refine ⟨hr.contains_iff, hr.source?_eq_some_iff, hr.get?_eq_some_iff,
    functions_pairwise hr.keyed, fun c => ?_, r.sum_counts, fun cs s => ?_⟩
  · rw [mem_functions_iff hr.keyed]
    constructor
    · exact fun hc => ⟨_, hc⟩
    · rintro ⟨a, ha⟩
      rwa [hr.keyed.start_of_get? ha]
  · obtain ⟨hsum, hsize⟩ := merge_tally r cs s
    exact ⟨hsum, hsize, rfl⟩

end FunctionBounds.Registry
