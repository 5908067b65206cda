import FunctionBounds.Proofs.Registry.Naming

/-!
# Registries that agree

Naming the function at an address changes names elsewhere and pins what is stored there. Later
merges see little of that.

- **Names** (`called`): what a candidate is called once the function at an address is named.
  `get?_nameEntry` and `source?_nameEntry` say what naming stores at each address.
- **Agreement** (`AgreeAt e r r' a`): at `a` both registries store a candidate of the same source
  that is called the same once the function at `e` is named. Merges keep this (`AgreeAt.merge`), and
  so does naming at `e` in one of them alone (`AgreeAt.nameEntry_right`).
- **Pins** (`Pinned r e n`): `r` stores a function of size `n` at `e` that is called `entry` and
  trusted most. Merges keep this, whatever they bring (`Pinned.merge`).
-/

namespace FunctionBounds.Registry

variable {r r' : Registry} {e n : Nat} {a : Int}

/-! ## Names -/

/-- A candidate as it is called once the function at `e` is named. -/
def called (e : Nat) (c : Candidate) : Candidate :=
  if c.start ≠ e ∧ c.name = entryName then c.renamed (aliasAt c.start) else c

theorem renameCompetitor_candidate (e : Nat) (x : Entry) :
    (renameCompetitor e x).candidate = called e x.candidate := by
  have hcompetitor : isCompetitor e x = true ↔
      x.candidate.start ≠ e ∧ x.candidate.name = entryName := by
    rw [isCompetitor, Bool.and_eq_true, bne_iff_ne, beq_iff_eq, Ne, Int.natCast_inj]
  simp only [renameCompetitor, called, hcompetitor]
  split <;> rfl

@[simp] theorem renameCompetitor_source (address : Int) (x : Entry) :
    (renameCompetitor address x).source = x.source := by
  unfold renameCompetitor
  split <;> rfl

theorem called_called (e : Nat) (c : Candidate) : called e (called e c) = called e c := by
  by_cases hc : c.start ≠ e ∧ c.name = entryName
  · have hrenamed : called e c = c.renamed (aliasAt c.start) := if_pos hc
    rw [hrenamed]
    exact if_neg fun h => aliasAt_ne_entryName _ h.2
  · have hsame : called e c = c := if_neg hc
    rw [hsame, hsame]

theorem entryCandidate_eq (h : Keyed r) :
    r.entryCandidate e = ⟨entryName, e, (r.get? e).elim 0 (·.size)⟩ := by
  unfold entryCandidate
  cases hc : r.get? e with
  | none => rfl
  | some c =>
    have hstart : c.start = e := Int.natCast_inj.1 (h.start_of_get? hc)
    simp only [Candidate.renamed, hstart, Option.elim_some]

theorem get?_nameEntry (h : Keyed r) (a : Int) :
    (r.nameEntry e).get? a =
      if a = e then some ⟨entryName, e, (r.get? e).elim 0 (·.size)⟩
      else (r.get? a).map (called e) := by
  rw [get?, find?_nameEntry h, entryCandidate_eq h]
  split
  · rfl
  · simp only [get?, Option.map_map]
    congr 1
    funext x
    exact renameCompetitor_candidate e x

theorem source?_nameEntry (h : Keyed r) (a : Int) :
    (r.nameEntry e).source? a = if a = e then some .manual else r.source? a := by
  rw [source?, find?_nameEntry h]
  split
  · rfl
  · simp only [source?, Option.map_map]
    congr 1
    funext x
    exact renameCompetitor_source e x

/-! ## Agreement -/

/-- At `a` both registries store a candidate of the same source that is called the same once the
function at `e` is named. -/
structure AgreeAt (e : Nat) (r r' : Registry) (a : Int) : Prop where
  candidate : (r.get? a).map (called e) = (r'.get? a).map (called e)
  source : r.source? a = r'.source? a

theorem AgreeAt.put (h : AgreeAt e r r' a) (c : Candidate) (s : Source) :
    AgreeAt e (r.put c s) (r'.put c s) a where
  candidate := by
    rw [get?_put, get?_put]
    split
    · rfl
    · exact h.candidate
  source := by
    rw [source?_put, source?_put]
    split
    · rfl
    · exact h.source

theorem AgreeAt.mergeOne (h : AgreeAt e r r' a) (t t' : MergeTally) (c : Candidate) (s : Source) :
    AgreeAt e (r.mergeOne t c s).1 (r'.mergeOne t' c s).1 a := by
  by_cases hac : a = c.start
  · -- Whether the candidate is taken is decided by the source at its address.
    subst hac
    unfold Registry.mergeOne
    rw [h.source]
    split
    · exact h.put c s
    · split
      · exact h.put c s
      · exact h
  · refine ⟨?_, ?_⟩
    · simp only [get?, find?_mergeOne_of_ne _ _ _ hac]
      exact h.candidate
    · simp only [source?, find?_mergeOne_of_ne _ _ _ hac]
      exact h.source

theorem AgreeAt.merge (h : AgreeAt e r r' a) (cs : List Candidate) (s : Source) :
    AgreeAt e (r.merge cs s).1 (r'.merge cs s).1 a := by
  suffices hfold : ∀ p p' : Registry × MergeTally, AgreeAt e p.1 p'.1 a →
      AgreeAt e (cs.foldl (fun p c => p.1.mergeOne p.2 c s) p).1
        (cs.foldl (fun p c => p.1.mergeOne p.2 c s) p').1 a from
    hfold (r, {}) (r', {}) h
  induction cs with
  | nil => exact fun _ _ hp => hp
  | cons c cs ih => exact fun p p' hp => ih _ _ (hp.mergeOne p.2 p'.2 c s)

/-- Away from its address, naming a function in one registry keeps agreement. -/
theorem AgreeAt.nameEntry_right (h : AgreeAt e r r' a) (hkeyed : Keyed r') (hne : a ≠ e) :
    AgreeAt e r (r'.nameEntry e) a where
  candidate := by
    rw [get?_nameEntry hkeyed, if_neg hne, Option.map_map, h.candidate]
    congr 1
    funext c
    exact (called_called e c).symm
  source := by rw [source?_nameEntry hkeyed, if_neg hne, h.source]

/-! ## Pins -/

/-- A function of size `n` is stored at `e`, called `entry` and trusted most. -/
structure Pinned (r : Registry) (e n : Nat) : Prop where
  candidate : r.get? e = some ⟨entryName, e, n⟩
  source : r.source? e = some .manual

theorem pinned_nameEntry (h : Keyed r) (e : Nat) :
    Pinned (r.nameEntry e) e ((r.get? e).elim 0 (·.size)) where
  candidate := by rw [get?_nameEntry h, if_pos rfl]
  source := by rw [source?_nameEntry h, if_pos rfl]

theorem Pinned.mergeOne (h : Pinned r e n) (t : MergeTally) (c : Candidate) (s : Source) :
    Pinned (r.mergeOne t c s).1 e n := by
  have hput : (e : Int) ≠ c.start → Pinned (r.put c s) e n := fun hne =>
    ⟨by rw [get?_put, if_neg hne, h.candidate], by rw [source?_put, if_neg hne, h.source]⟩
  unfold Registry.mergeOne
  split
  · next hnone =>
    refine hput fun hec => ?_
    rw [← hec, h.source] at hnone
    cases hnone
  · next old hold =>
    split
    · next hlt =>
      refine hput fun hec => ?_
      rw [← hec, h.source] at hold
      cases hold
      -- No source is trusted more than the one at the pin.
      cases s <;> exact absurd hlt (by decide)
    · exact h

theorem Pinned.merge (h : Pinned r e n) (cs : List Candidate) (s : Source) :
    Pinned (r.merge cs s).1 e n :=
  merge_induction (P := fun r _ => Pinned r e n) (fun _ t c _ hr => hr.mergeOne t c s) h cs

end FunctionBounds.Registry
