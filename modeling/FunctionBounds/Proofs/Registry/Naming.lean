import FunctionBounds.Proofs.Registry.Lookup

/-!
# Naming the entry point

- `find?_nameEntry`: what is stored at each address after the function at an address was called
  `entry`. Nothing but names changes elsewhere.
- `Named r e`: in `r` the function at `e` is called `entry` and is trusted most, and no other one is
  called so. `nameEntry` establishes this (`named_nameEntry`) and finds nothing to do where it holds
  (`find?_nameEntry_of_named`).
-/

namespace FunctionBounds.Registry

variable {r : Registry} {e : Nat}

/-- An entry after the competitors of an address got other names. -/
def renameCompetitor (address : Int) (x : Entry) : Entry :=
  if isCompetitor address x then
    { x with candidate := x.candidate.renamed (aliasAt x.candidate.start) }
  else x

theorem find?_renameCompetitors (r : Registry) (address a : Int) :
    (r.renameCompetitors address).find? a = (r.find? a).map (renameCompetitor address) := by
  cases a with
  | ofNat a => exact Std.TreeMap.getElem?_map
  | negSucc n => rfl

@[simp] theorem renameCompetitor_start (address : Int) (x : Entry) :
    (renameCompetitor address x).candidate.start = x.candidate.start := by
  unfold renameCompetitor
  split <;> rfl

theorem Keyed.renameCompetitors (h : Keyed r) (address : Int) :
    Keyed (r.renameCompetitors address) := by
  intro a x hx
  rw [find?_renameCompetitors] at hx
  obtain ⟨y, hy, rfl⟩ := Option.map_eq_some_iff.1 hx
  rw [renameCompetitor_start]
  exact h a y hy

theorem size_renameCompetitors (r : Registry) (address : Int) :
    (r.renameCompetitors address).size = r.size :=
  Std.TreeMap.size_map

theorem aliasAt_ne_entryName (a : Nat) : aliasAt a ≠ entryName := by
  intro h
  have hlen := congrArg String.length h
  have hdef : aliasAt a = entryName ++ "@" ++ Text.hex a := rfl
  have hat : ("@" : String).length = 1 := rfl
  rw [hdef, String.length_append, String.length_append, hat] at hlen
  omega

/-- No entry away from the address keeps the name of the entry point. -/
theorem renameCompetitor_name_ne {address : Int} {x : Entry}
    (hx : (x.candidate.start : Int) ≠ address) :
    (renameCompetitor address x).candidate.name ≠ entryName := by
  unfold renameCompetitor
  split
  · exact aliasAt_ne_entryName _
  · next hc =>
    intro hname
    exact hc (by simp [isCompetitor, hx, hname])

theorem renameCompetitor_of_name_ne {address : Int} {x : Entry}
    (hx : x.candidate.name ≠ entryName) : renameCompetitor address x = x := by
  rw [renameCompetitor, if_neg (by simp [isCompetitor, hx])]

theorem entryCandidate_start (h : Keyed r) : (r.entryCandidate e).start = e := by
  unfold entryCandidate
  split
  · next c hc =>
    have hstart := h.start_of_get? hc
    exact Int.natCast_inj.1 hstart
  · rfl

theorem entryCandidate_name (r : Registry) (e : Nat) :
    (r.entryCandidate e).name = entryName := by
  unfold entryCandidate
  split <;> rfl

/-- Naming the function at `e` stores the entry point there and gives competitors other names. -/
theorem find?_nameEntry (h : Keyed r) (a : Int) :
    (r.nameEntry e).find? a =
      if a = e then
        some ⟨r.entryCandidate e, .manual, (r.find? e).elim r.size (·.arrival)⟩
      else (r.find? a).map (renameCompetitor e) := by
  have harrival : ((r.renameCompetitors e).find? (e : Int)).elim r.size (·.arrival) =
      (r.find? e).elim r.size (·.arrival) := by
    rw [find?_renameCompetitors]
    cases r.find? (e : Int) with
    | none => rfl
    | some x => simp only [Option.map_some, Option.elim_some, renameCompetitor]; split <;> rfl
  rw [nameEntry, find?_put, entryCandidate_start h, size_renameCompetitors, harrival,
    find?_renameCompetitors]

/-! ## Named registries -/

/-- The function at `e` is called `entry` and trusted most, and no other one is called so. -/
structure Named (r : Registry) (e : Nat) : Prop where
  keyed : Keyed r
  stored : ∃ x, r.find? e = some x ∧ x.candidate.name = entryName ∧ x.source = .manual
  unique : ∀ (a : Int) x, r.find? a = some x → x.candidate.name = entryName → a = e

theorem named_nameEntry (h : Keyed r) (e : Nat) : Named (r.nameEntry e) e where
  keyed := (h.renameCompetitors e).put _ _
  stored := by
    rw [find?_nameEntry h, if_pos rfl]
    exact ⟨_, rfl, entryCandidate_name r e, rfl⟩
  unique a x hx hname := by
    rw [find?_nameEntry h] at hx
    split at hx
    · assumption
    · next hne =>
      obtain ⟨y, hy, rfl⟩ := Option.map_eq_some_iff.1 hx
      refine absurd hname (renameCompetitor_name_ne ?_)
      rwa [h a y hy]

/-- Naming the function at the entry point again changes nothing. -/
theorem find?_nameEntry_of_named (h : Named r e) (a : Int) :
    (r.nameEntry e).find? a = r.find? a := by
  rw [find?_nameEntry h.keyed]
  obtain ⟨x, hx, hname, hsource⟩ := h.stored
  split
  · next hae =>
    subst hae
    have hcand : r.entryCandidate e = x.candidate := by
      simp only [entryCandidate, get?, hx, Option.map_some, Candidate.renamed, ← hname]
    rw [hcand, hx, ← hsource]
    rfl
  · next hne =>
    cases hy : r.find? a with
    | none => rfl
    | some y =>
      rw [Option.map_some, renameCompetitor_of_name_ne]
      exact fun hn => hne (h.unique a y hy hn)

theorem contains_nameEntry (h : Keyed r) (a : Int) :
    (r.nameEntry e).contains a = true ↔ a = e ∨ r.contains a = true := by
  rw [contains, find?_nameEntry h]
  split
  · next hae => simp [hae]
  · next hne => simp [hne, contains]

/-- In a named registry exactly one function is called `entry`, the one at the address. -/
theorem Named.filter_functions (h : Named r e) :
    ∃ f, r.functions.filter (·.name == entryName) = [f] ∧ f.start = e := by
  obtain ⟨x, hx, hname, -⟩ := h.stored
  have hstart : x.candidate.start = e := Int.natCast_inj.1 (h.keyed e x hx)
  have hfound : r.get? e = some x.candidate := get?_eq_some_iff.2 ⟨x, hx, rfl⟩
  have hiff : ∀ f ∈ r.functions, (f.name == entryName) = (f.start == e) := by
    intro f hf
    obtain ⟨y, hy, rfl⟩ := get?_eq_some_iff.1 ((mem_functions_iff h.keyed).1 hf)
    rw [Bool.eq_iff_iff, beq_iff_eq, beq_iff_eq]
    constructor
    · exact fun hn => Int.natCast_inj.1 (h.unique _ y hy hn)
    · intro hs
      rw [hs, hx] at hy
      cases hy
      exact hname
  refine ⟨x.candidate, ?_, hstart⟩
  rw [List.filter_congr hiff, filter_functions_start h.keyed, hfound, Option.toList_some]

end FunctionBounds.Registry
