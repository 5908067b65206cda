import FunctionBounds.Analysis.Run
import FunctionBounds.Proofs.Registry.History
import FunctionBounds.Proofs.Session.Listing

/-!
# Surveys

A survey mines kinds of regions in order. What each of them adds depends on the image alone.

- **Kinds** (`counted?`, `halting?`): the number that a kind of region is counted with, and the
  cause that ends a survey at it. Only call-frame sections end one (`halting?_of_source`).
- **Steps** (`mineOne_effect`): what mining one more kind changes.
- **Invariant** (`Surveyed s₀ ks v`): the registry follows what the kinds `ks` gave, in order, and
  exactly the kinds among them that can be mined are counted. Mining one more kind keeps it
  (`Surveyed.mineOne`).
- **Whole surveys** (`survey_surveyed`): a survey ends at the first kind that ends one; if there is
  none, the invariant holds of all its kinds.
-/

namespace FunctionBounds

theorem Evidence.regionName_inj {k k' : Evidence} (h : k.regionName = k'.regionName) : k = k' := by
  cases k <;> cases k' <;> first | rfl | exact absurd h (by decide)

theorem SourceCounts.lookup_replace (counts : SourceCounts) (name name' : String) (n : Int) :
    (counts.map fun p => if p.1 == name then (name, n) else (p.1, p.2)).lookup name' =
      if name' = name then (counts.lookup name).map fun _ => n else counts.lookup name' := by
  induction counts with
  | nil => simp
  | cons p counts ih =>
    obtain ⟨m, i⟩ := p
    by_cases hm : m = name
    · subst hm
      by_cases hname : name' = m
      · simp [hname]
      · simpa [List.lookup_cons, beq_false_of_ne hname, hname] using ih
    · by_cases hname : name' = m
      · subst hname
        simp [hm]
      · simpa [List.lookup_cons, beq_false_of_ne hname, beq_false_of_ne (Ne.symm hm), hm] using ih

/-- After the count of a region was set it is that one, and the others are as before. -/
theorem SourceCounts.lookup_set (counts : SourceCounts) (name name' : String) (n : Int) :
    (counts.set name n).lookup name' = if name' = name then some n else counts.lookup name' := by
  unfold set
  split
  · next hcounted =>
    obtain ⟨m, hm⟩ := Option.isSome_iff_exists.1 hcounted
    have hreplace := lookup_replace counts name name' n
    rw [hm, Option.map_some] at hreplace
    exact hreplace
  · next huncounted =>
    rw [Option.not_isSome_iff_eq_none] at huncounted
    rw [List.lookup_append]
    by_cases hname : name' = name
    · simp [hname, huncounted]
    · simp [hname, List.lookup_cons, beq_false_of_ne hname]

namespace Session

open Registry (Arrival Follows)

/-! ## Kinds -/

/-- The number that a kind of region is counted with: that of the functions found, zero if it is
missing. -/
def counted? (s : Session) (k : Evidence) : Option Int :=
  match (s.mine k).result with
  | .ok cs => some cs.length
  | .error (.missing _) => some 0
  | .error (.failed _) => none

/-- The cause that ends a survey at a kind of region. -/
def halting? (s : Session) (k : Evidence) : Option Text.TooLong :=
  match (s.mine k).result with
  | .error (.failed (.unwritable cause)) => some cause
  | _ => none

/-- What kinds of regions give, in order. -/
def arrivals (s : Session) (ks : List Evidence) : List Arrival :=
  ks.flatMap fun k => (s.found k).map (·, k.source)

theorem mineSymbols_ne_unwritable (s : Session) (table names : String) (cause : Text.TooLong) :
    (s.mineSymbols table names).result ≠ .error (.failed (.unwritable cause)) := by
  unfold mineSymbols
  intro hmine
  split at hmine
  · next t n _ _ =>
    simp only [Noted.mapError] at hmine
    cases hscan : (SymbolTable.scan t.raw n.raw).result <;> rw [hscan] at hmine <;> cases hmine
  · cases hmine
  · cases hmine

/-- Only call-frame sections end a survey. -/
theorem halting?_of_source (s : Session) {k : Evidence} (h : k.source ≠ .unwindTable) :
    s.halting? k = none := by
  unfold halting?
  split
  · next cause hmine =>
    cases k with
    | symtab | dynsym => exact absurd hmine (s.mineSymbols_ne_unwritable _ _ _)
    | ehFrame | ehFrameHdr | debugFrame => exact absurd rfl h
  · rfl

/-! ## Steps -/

variable (v : Survey) (k : Evidence)

/-- What mining one more kind changes. -/
theorem mineOne_effect :
    (mineOne v k).session = (v.session.scan k).1 ∧
      (mineOne v k).counts = (v.session.counted? k).elim v.counts (v.counts.set k.regionName) ∧
      (mineOne v k).halted = (v.session.halting? k).or v.halted := by
  cases hmine : (v.session.mine k).result with
  | ok cs =>
    simp [mineOne, scan, counted?, halting?, hmine]
  | error cause =>
    rcases cause with region | cause
    · simp [mineOne, scan, counted?, halting?, hmine]
    · cases cause <;> simp [mineOne, scan, counted?, halting?, hmine]

/-! ## The invariant -/

/-- `v` came from the opened session `s₀` by mining the kinds `ks`, in order. -/
structure Surveyed (s₀ : Session) (ks : List Evidence) (v : Survey) : Prop where
  reached : Reached s₀ (ks.flatMap s₀.found) v.session
  follows : Follows v.session.registry (s₀.arrivals ks)
  counts : ∀ name n, v.counts.lookup name = some n ↔
    ∃ k ∈ ks, k.regionName = name ∧ s₀.counted? k = some n

variable {s₀ s : Session} {ks : List Evidence} {cs : List Candidate} {v : Survey}

theorem surveyed_open (hr : s₀.registry = {}) (hl : s₀.listed = none) :
    Surveyed s₀ [] { session := s₀ } where
  reached := reached_open hr hl
  follows := hr ▸ Registry.follows_empty
  counts name n := by simp

theorem counted?_eq (h : Reached s₀ cs s) (k : Evidence) : s.counted? k = s₀.counted? k := by
  rw [counted?, mine_eq h.image, counted?]

theorem halting?_eq (h : Reached s₀ cs s) (k : Evidence) : s.halting? k = s₀.halting? k := by
  rw [halting?, mine_eq h.image, halting?]

theorem Surveyed.mineOne (h : Surveyed s₀ ks v) (k : Evidence) :
    Surveyed s₀ (ks ++ [k]) (mineOne v k) where
  reached := by
    rw [(mineOne_effect v k).1, List.flatMap_append]
    simpa using h.reached.scan k
  follows := by
    rw [(mineOne_effect v k).1, scan_registry, found_eq h.reached.image]
    simpa [arrivals] using h.follows.merge (s₀.found k) k.source
  counts name n := by
    rw [(mineOne_effect v k).2.1, counted?_eq h.reached]
    cases hk : s₀.counted? k with
    | none =>
      rw [Option.elim_none, h.counts]
      simp [or_and_right, exists_or, hk]
    | some m =>
      rw [Option.elim_some, SourceCounts.lookup_set]
      split
      · next hname =>
        constructor
        · intro hn
          exact ⟨k, by simp, hname.symm, hk.trans hn⟩
        · rintro ⟨k', -, hname', hk'⟩
          obtain rfl := Evidence.regionName_inj (hname'.trans hname)
          exact hk.symm.trans hk'
      · next hname =>
        rw [h.counts]
        simp [or_and_right, exists_or, Ne.symm hname]

/-! ## Whole surveys -/

theorem surveyOne_of_going (hgoing : v.halted = none) (k : Evidence) :
    surveyOne v k = Session.mineOne v k := by
  rw [surveyOne, hgoing]
  rfl

/-- Nothing is mined once a survey has halted. -/
theorem foldl_surveyOne_of_halted (hv : v.halted.isSome = true) (ks : List Evidence) :
    ks.foldl surveyOne v = v := by
  induction ks with
  | nil => rfl
  | cons k ks ih => rw [List.foldl_cons, surveyOne, if_pos hv, ih]

theorem Surveyed.foldl_surveyOne {before : List Evidence} (h : Surveyed s₀ before v)
    (hgoing : v.halted = none) (ks : List Evidence) :
    (ks.foldl surveyOne v).halted = ks.findSome? s₀.halting? ∧
      (ks.findSome? s₀.halting? = none →
        Surveyed s₀ (before ++ ks) (ks.foldl surveyOne v)) := by
  induction ks generalizing before v with
  | nil =>
    rw [List.append_nil]
    exact ⟨hgoing, fun _ => h⟩
  | cons k ks ih =>
    have hhalted := (mineOne_effect v k).2.2
    rw [halting?_eq h.reached, hgoing, Option.or_none] at hhalted
    rw [List.foldl_cons, surveyOne_of_going hgoing, List.findSome?_cons]
    cases hk : s₀.halting? k with
    | some cause =>
      -- The survey has halted, so the kinds that are left change nothing.
      rw [hk] at hhalted
      rw [foldl_surveyOne_of_halted (by rw [hhalted, Option.isSome_some])]
      exact ⟨hhalted, fun hnone => by cases hnone⟩
    | none =>
      rw [hk] at hhalted
      have hrest := ih (h.mineOne k) hhalted
      rwa [List.append_assoc] at hrest

/-- A survey ends at the first kind that ends one; if there is none, the invariant holds of all its
kinds. -/
theorem survey_surveyed (hr : s₀.registry = {}) (hl : s₀.listed = none) (ks : List Evidence) :
    (s₀.survey ks).halted = ks.findSome? s₀.halting? ∧
      (ks.findSome? s₀.halting? = none → Surveyed s₀ ks (s₀.survey ks)) :=
  (surveyed_open hr hl).foldl_surveyOne rfl ks

end Session

end FunctionBounds
