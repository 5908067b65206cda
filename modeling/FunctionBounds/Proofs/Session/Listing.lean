import FunctionBounds.Proofs.Registry.Agreement
import FunctionBounds.Proofs.Session.Runs
import Mathlib.Data.List.Sort

/-!
# Listing early

Listing the functions names the one at the entry point, so a run that lists them on the way goes on
with another registry than a run that does not.

- **Steps** (`Reached.perform_registry`, `Reached.find?_finalize`): a request that is no listing
  merges what it is given, and a listing names the entry point, whether or not a list is kept.
- **Away from the entry point** (`Reached.performAll_agree`): by induction over the run, the
  registries with and without the listings agree.
- **At the entry point** (`Reached.performAll_pinned`): what the first listing found there is pinned
  with its size.

`finalize_performAll_early` compares the lists at the end of both runs.
-/

namespace FunctionBounds.Session

open Registry (AgreeAt Pinned entryName)

namespace Operation

/-- Whether a request lists the functions. -/
def isListing : Operation → Bool
  | finalize => true
  | _ => false

/-- The source under which a request merges. -/
def source : Operation → Source
  | scan k => k.source
  | scanNamed text =>
    match Evidence.parse text with
    | .ok k => k.source
    | .error _ => .manual
  | merge _ source => source
  | finalize => .manual

theorem isListing_iff {op : Operation} : op.isListing = true ↔ op = finalize := by
  cases op <;> simp [isListing]

end Operation

variable {s₀ s late early : Session} {cs ds : List Candidate} {op : Operation} {n : Nat}

/-! ## Steps -/

theorem scan_registry (s : Session) (k : Evidence) :
    (s.scan k).1.registry = (s.registry.merge (s.found k) k.source).1 := by
  rcases s.scan_fst k with ⟨hs, hfound⟩ | hs
  · rw [hs, hfound]
    rfl
  · rw [hs]
    rfl

/-- A request that is no listing merges what it is given. -/
theorem Reached.perform_registry (h : Reached s₀ cs s) (hop : op.isListing = false) :
    (s.perform op).registry = (s.registry.merge (s₀.given op) op.source).1 := by
  cases op with
  | scan k =>
    rw [given, ← found_eq h.image]
    exact s.scan_registry k
  | scanNamed text =>
    simp only [given, Session.perform, Operation.source]
    cases Evidence.parse text with
    | ok k =>
      simp only [← found_eq h.image]
      exact s.scan_registry k
    | error _ => rfl
  | merge cs source => rfl
  | finalize => cases hop

/-- After a listing the registry is as if the entry point had been named just now, whether or not a
list was kept. -/
theorem Reached.find?_finalize (h : Reached s₀ cs s) (a : Int) :
    s.finalize.1.registry.find? a = (s.registry.nameEntry s₀.entryPoint).find? a := by
  unfold Session.finalize
  split
  · next fs hfs => exact (Registry.find?_nameEntry_of_named (h.fresh fs hfs).1 a).symm
  · rw [h.entryPoint_eq]

theorem Reached.get?_finalize (h : Reached s₀ cs s) (a : Int) :
    s.finalize.1.registry.get? a = (s.registry.nameEntry s₀.entryPoint).get? a := by
  rw [Registry.get?, h.find?_finalize, Registry.get?]

theorem Reached.source?_finalize (h : Reached s₀ cs s) (a : Int) :
    s.finalize.1.registry.source? a = (s.registry.nameEntry s₀.entryPoint).source? a := by
  rw [Registry.source?, h.find?_finalize, Registry.source?]

/-! ## Away from the entry point -/

/-- Away from the entry point, a listing in one of two runs makes no difference. -/
theorem Reached.finalize_agree (h : Reached s₀ cs early) {a : Int} (hne : a ≠ s₀.entryPoint)
    (hagree : AgreeAt s₀.entryPoint late.registry early.registry a) :
    AgreeAt s₀.entryPoint late.registry early.finalize.1.registry a := by
  obtain ⟨hcandidate, hsource⟩ := hagree.nameEntry_right h.keyed hne
  exact ⟨by rw [h.get?_finalize, hcandidate], by rw [h.source?_finalize, hsource]⟩

/-- Away from the entry point, the registries of a run without its listings and of the run itself
agree. -/
theorem Reached.performAll_agree (hlate : Reached s₀ cs late) (hearly : Reached s₀ ds early)
    {a : Int} (hne : a ≠ s₀.entryPoint)
    (hagree : AgreeAt s₀.entryPoint late.registry early.registry a) (ops : List Operation) :
    AgreeAt s₀.entryPoint (late.performAll (ops.filter (!·.isListing))).registry
      (early.performAll ops).registry a := by
  induction ops generalizing cs ds late early with
  | nil => exact hagree
  | cons op ops ih =>
    cases hop : op.isListing with
    | true =>
      -- Only the second run lists the functions here.
      rw [List.filter_cons_of_neg (by simp [hop])]
      refine ih hlate (hearly.perform op) ?_
      rw [Operation.isListing_iff.1 hop]
      exact hearly.finalize_agree hne hagree
    | false =>
      -- Both runs merge the same, since mining depends on the image alone.
      rw [List.filter_cons_of_pos (by simp [hop])]
      refine ih (hlate.perform op) (hearly.perform op) ?_
      rw [hlate.perform_registry hop, hearly.perform_registry hop]
      exact hagree.merge _ _

/-- What is listed away from the entry point is decided by what the registries agree on. -/
theorem Reached.mem_finalize_of_agree (hlate : Reached s₀ cs late) (hearly : Reached s₀ ds early)
    {f : Candidate} (hne : (f.start : Int) ≠ s₀.entryPoint)
    (hagree : AgreeAt s₀.entryPoint late.registry early.registry f.start) :
    f ∈ early.finalize.2 ↔ f ∈ late.finalize.2 := by
  obtain ⟨hlateNamed, hlateList⟩ := hlate.finalize_named
  obtain ⟨hearlyNamed, hearlyList⟩ := hearly.finalize_named
  rw [hearlyList, hlateList, Registry.mem_functions_iff hearlyNamed.keyed,
    Registry.mem_functions_iff hlateNamed.keyed, hearly.get?_finalize, hlate.get?_finalize,
    Registry.get?_nameEntry hearly.keyed, Registry.get?_nameEntry hlate.keyed, if_neg hne,
    if_neg hne, hagree.candidate]

/-! ## At the entry point -/

theorem Reached.finalize_pins (h : Reached s₀ cs s) :
    Pinned s.finalize.1.registry s₀.entryPoint
      ((s.registry.get? s₀.entryPoint).elim 0 (·.size)) := by
  obtain ⟨hcandidate, hsource⟩ := Registry.pinned_nameEntry h.keyed s₀.entryPoint
  exact ⟨by rw [h.get?_finalize, hcandidate], by rw [h.source?_finalize, hsource]⟩

theorem Reached.perform_pinned (h : Reached s₀ cs s) (hpinned : Pinned s.registry s₀.entryPoint n)
    (op : Operation) : Pinned (s.perform op).registry s₀.entryPoint n := by
  cases hop : op.isListing with
  | true =>
    have hpins := h.finalize_pins
    rw [Operation.isListing_iff.1 hop]
    rwa [hpinned.candidate] at hpins
  | false =>
    rw [h.perform_registry hop]
    exact hpinned.merge _ _

/-- A pin stays whatever is requested. -/
theorem Reached.performAll_pinned (h : Reached s₀ cs s)
    (hpinned : Pinned s.registry s₀.entryPoint n) (ops : List Operation) :
    Pinned (s.performAll ops).registry s₀.entryPoint n := by
  induction ops generalizing cs s with
  | nil => exact hpinned
  | cons op ops ih => exact ih (h.perform op) (h.perform_pinned hpinned op)

/-- A run that is listed at its end starts with the requests before its first listing. -/
theorem exists_append_finalize (ops : List Operation) :
    ∃ rest, ops ++ [.finalize] = ops.takeWhile (!·.isListing) ++ .finalize :: rest := by
  induction ops with
  | nil => exact ⟨[], rfl⟩
  | cons op ops ih =>
    obtain ⟨rest, hrest⟩ := ih
    cases op with
    | finalize => exact ⟨ops ++ [.finalize], rfl⟩
    | scan k => exact ⟨rest, by simp [Operation.isListing, hrest]⟩
    | scanNamed text => exact ⟨rest, by simp [Operation.isListing, hrest]⟩
    | merge cs source => exact ⟨rest, by simp [Operation.isListing, hrest]⟩

theorem performAll_append (s : Session) (ops ops' : List Operation) :
    s.performAll (ops ++ ops') = (s.performAll ops).performAll ops' := by
  simp only [performAll, List.foldl_append]

/-- The function listed at the entry point has the size of what the first listing found there. -/
theorem Reached.performAll_finalize_pinned (h : Reached s₀ cs s) (ops : List Operation) :
    Pinned (s.performAll ops).finalize.1.registry s₀.entryPoint
      (((s.performAll (ops.takeWhile (!·.isListing))).registry.get? s₀.entryPoint).elim 0
        (·.size)) := by
  obtain ⟨rest, hrest⟩ := exists_append_finalize ops
  have hlast : (s.performAll ops).finalize.1 = s.performAll (ops ++ [.finalize]) := by
    rw [performAll_append]
    rfl
  have hfirst := h.performAll (ops.takeWhile (!·.isListing))
  rw [hlast, hrest, performAll_append]
  exact hfirst.finalize.performAll_pinned hfirst.finalize_pins rest

/-! ## Both lists -/

/-- Sessions of one image to which the same candidates were given list the same starts. -/
theorem Reached.map_start_eq (hlate : Reached s₀ cs late) (hearly : Reached s₀ cs early) :
    early.finalize.2.map (·.start) = late.finalize.2.map (·.start) := by
  obtain ⟨hlateNamed, hlateList⟩ := hlate.finalize_named
  obtain ⟨hearlyNamed, hearlyList⟩ := hearly.finalize_named
  refine List.Pairwise.eq_of_mem_iff (r := (· < ·)) ?_ ?_ fun a => ?_
  · rw [hearlyList]
    exact List.pairwise_map.2 (Registry.functions_pairwise hearlyNamed.keyed)
  · rw [hlateList]
    exact List.pairwise_map.2 (Registry.functions_pairwise hlateNamed.keyed)
  · rw [List.mem_map, List.mem_map, hearly.mem_finalize_start, hlate.mem_finalize_start]

/-- The function listed at the entry point is called `entry`. -/
theorem Reached.filter_finalize_entry (h : Reached s₀ cs s) :
    ∃ f, s.finalize.2.filter (·.start == s₀.entryPoint) = [f] ∧ f.name = entryName := by
  obtain ⟨hnamed, hlist⟩ := h.finalize_named
  obtain ⟨x, hx, hname, -⟩ := hnamed.stored
  refine ⟨x.candidate, ?_, hname⟩
  rw [hlist, Registry.filter_functions_start hnamed.keyed, Registry.get?, hx, Option.map_some,
    Option.toList_some]

/-- What gives nothing can be left out. -/
theorem flatMap_filter {α β : Type} {p : α → Bool} {f : α → List β} {xs : List α}
    (h : ∀ x ∈ xs, p x = false → f x = []) : (xs.filter p).flatMap f = xs.flatMap f := by
  induction xs with
  | nil => rfl
  | cons x xs ih =>
    have hrest := ih fun y hy => h y (List.mem_cons_of_mem x hy)
    cases hp : p x with
    | true => rw [List.filter_cons_of_pos hp, List.flatMap_cons, List.flatMap_cons, hrest]
    | false =>
      rw [List.filter_cons_of_neg (Bool.eq_false_iff.1 hp), List.flatMap_cons,
        h x List.mem_cons_self hp, List.nil_append, hrest]

/-- Listings are given nothing. -/
theorem flatMap_given_filter (s : Session) (ops : List Operation) :
    (ops.filter (!·.isListing)).flatMap s.given = ops.flatMap s.given := by
  refine flatMap_filter fun op _ hop => ?_
  have hlisting : op.isListing = true := by simpa using hop
  rw [Operation.isListing_iff.1 hlisting]
  rfl

/-- Two runs on an image that can be opened, one of which lists the functions on the way and the
other one at the end only, give lists with the same starts in the same order. Away from the entry
point they hold the same functions. At the entry point both hold one called `entry`; in the run with
early listings its size is that of the candidate stored there at the first of them, or 0 if there
was none. -/
theorem finalize_performAll_early {d : Bytes} {path : String} {l : Text.DigitLimit}
    {s₀ : Session} (hopen : (ofBytes d path l).result = .ok s₀) (ops : List Operation) :
    let e := s₀.header.entry.toNat
    let late := (s₀.performAll (ops.filter (!·.isListing))).finalize.2
    let early := (s₀.performAll ops).finalize.2
    let first := s₀.performAll (ops.takeWhile (!·.isListing))
    early.map (·.start) = late.map (·.start) ∧
    (∀ f, f.start ≠ e → (f ∈ early ↔ f ∈ late)) ∧
    (∃ f, late.filter (·.start == e) = [f] ∧ f.name = entryName) ∧
    early.filter (·.start == e) = [⟨entryName, e, (first.registry.get? e).elim 0 (·.size)⟩] := by
  intro e late early first
  obtain ⟨hr, hl⟩ := ofBytes_fresh hopen
  have h₀ : Reached s₀ [] s₀ := reached_open hr hl
  have hearly := h₀.performAll ops
  have hlate := h₀.performAll (ops.filter (!·.isListing))
  rw [flatMap_given_filter] at hlate
  refine ⟨hlate.map_start_eq hearly, fun f hf => ?_, hlate.filter_finalize_entry, ?_⟩
  · have hne : (f.start : Int) ≠ s₀.entryPoint := fun h => hf (Int.natCast_inj.1 h)
    exact hlate.mem_finalize_of_agree hearly hne (h₀.performAll_agree h₀ hne ⟨rfl, rfl⟩ ops)
  · obtain ⟨hnamed, hlist⟩ := hearly.finalize_named
    have hpinned := h₀.performAll_finalize_pinned ops
    calc early.filter (·.start == e)
      _ = ((s₀.performAll ops).finalize.1.registry.get? e).toList := by
        rw [← Registry.filter_functions_start hnamed.keyed, ← hlist]
      _ = [⟨entryName, e, (first.registry.get? e).elim 0 (·.size)⟩] :=
        congrArg Option.toList hpinned.candidate

/-- A longer function at the entry point and another one elsewhere replace what was listed. -/
def growingRun : List Operation :=
  [.merge [⟨"main", 0x401000, 32⟩, ⟨"entry", 0x401100, 16⟩] .dynamicSymbols, .finalize,
    .scan .ehFrame, .merge [⟨"_start", 0x401000, 48⟩, ⟨"helper", 0x401100, 8⟩] .staticSymbols]

theorem finalize_performAll_early_growingRun :
    (ofBytes strippedImage "a.out").result = .ok strippedSession ∧
    let late := (strippedSession.performAll (growingRun.filter (!·.isListing))).finalize.2
    let early := (strippedSession.performAll growingRun).finalize.2
    late = [⟨"entry", 0x401000, 48⟩, ⟨"helper", 0x401100, 8⟩] ∧
    early.map (·.start) = late.map (·.start) ∧
    (∀ f, f.start ≠ 0x401000 → (f ∈ early ↔ f ∈ late)) ∧
    early.filter (·.start == 0x401000) = [⟨entryName, 0x401000, 32⟩] := by
  have hopen : (ofBytes strippedImage "a.out").result = .ok strippedSession := rfl
  obtain ⟨hstarts, haway, -, hentry⟩ := finalize_performAll_early hopen growingRun
  exact ⟨hopen, by decide, hstarts, haway, hentry⟩

end FunctionBounds.Session
