import FunctionBounds.Proofs.Registry.Requests

/-!
# Naming a function at any address

An address from outside may be negative, and then there is no function to name.

- **Registries** (`Reachable r`): what merges and naming lead to, naming that failed included.
- **Outcomes** (`Completes r address`, `Abandons r address`): naming calls the function at the
  address `entry` and no other one, or it fails and what is stored is as before.
- **Negative addresses** (`identify_of_neg`, `find?_identify_of_neg`): naming fails, but by then the
  functions that were called `entry` have got other names.

`completes_or_abandons_iff` says when neither outcome is met.
-/

namespace FunctionBounds.Registry

variable {r : Registry} {address : Int}

/-- What merges and naming functions lead to, at whatever addresses. -/
inductive Reachable : Registry → Prop
  | empty : Reachable {}
  | merge {r : Registry} (h : Reachable r) (cs : List Candidate) (s : Source) :
    Reachable (r.merge cs s).1
  | identify {r : Registry} (h : Reachable r) (address : Int) : Reachable (r.identify address).1

theorem Reachable.keyed (h : Reachable r) : Keyed r := by
  induction h with
  | empty => exact keyed_empty
  | merge _ cs s ih => exact ih.merge cs s
  | identify _ address ih =>
    cases address with
    | ofNat e => exact (named_nameEntry ih e).keyed
    | negSucc n => exact ih.renameCompetitors _

/-! ## Outcomes -/

/-- Naming gives the function at the address, which alone is called `entry` and is trusted most. -/
def Completes (r : Registry) (address : Int) : Prop :=
  let t := (r.identify address).1
  ∃ f, (r.identify address).2.result = .ok f ∧ t.functions.filter (·.name == entryName) = [f] ∧
    (f.start : Int) = address ∧ t.get? address = some f ∧ t.source? address = some .manual

/-- Naming fails, and every stored candidate has the name, the range and the source it had. -/
def Abandons (r : Registry) (address : Int) : Prop :=
  (∃ cause, (r.identify address).2.result = .error cause) ∧
    ∀ a, (r.identify address).1.find? a = r.find? a

theorem completes_natCast (h : Keyed r) (e : Nat) : Completes r e := by
  have hnamed : Named (r.nameEntry e) e := named_nameEntry h e
  have hpinned := pinned_nameEntry h e
  obtain ⟨f, hfilter, hstart⟩ := hnamed.filter_functions
  have hmem : f ∈ (r.nameEntry e).functions := by
    have hmem' : f ∈ (r.nameEntry e).functions.filter (·.name == entryName) := by
      rw [hfilter]
      exact List.mem_singleton_self f
    exact (List.mem_filter.1 hmem').1
  have hget : (r.nameEntry e).get? e = some f := by
    have hget' := (mem_functions_iff hnamed.keyed).1 hmem
    rwa [hstart] at hget'
  have hresult : r.entryCandidate e = f := by
    rw [entryCandidate_eq h]
    exact Option.some.inj (hpinned.candidate.symm.trans hget)
  exact ⟨f, congrArg Except.ok hresult, hfilter, congrArg Nat.cast hstart, hget, hpinned.source⟩

/-! ## Negative addresses -/

/-- The draft of an entry point there has a negative start and a negative end. -/
theorem identify_of_neg (r : Registry) (h : address < 0) :
    (r.identify address).1 = r.renameCompetitors address ∧
      (r.identify address).2.result =
        .error (.faults [(.start, .negative), (.stop, .negative)]) := by
  obtain ⟨n, rfl⟩ := Int.eq_negSucc_of_lt_zero h
  have hfault : Candidate.Fault.ofNumber? (some (Int.negSucc n)) = some .negative := if_pos h
  have hzero : Candidate.Fault.ofNumber? (some 0) = none := rfl
  refine ⟨rfl, ?_⟩
  simp [identify, Candidate.Draft.ofRange, Candidate.Draft.check, Candidate.Draft.faults, hfault,
    hzero]

/-- A candidate under another name, if it is called `entry`. -/
def deposed (c : Candidate) : Candidate :=
  if c.name = entryName then c.renamed (aliasAt c.start) else c

/-- Every function that is called `entry` gets another name, since none starts there. -/
theorem find?_identify_of_neg (r : Registry) (h : address < 0) (a : Int) :
    (r.identify address).1.find? a =
      (r.find? a).map fun x => { x with candidate := deposed x.candidate } := by
  rw [(identify_of_neg r h).1, find?_renameCompetitors]
  congr 1
  funext x
  have hne : ((x.candidate.start : Int) != address) = true := by
    rw [bne_iff_ne]
    omega
  rw [renameCompetitor, isCompetitor, hne, Bool.true_and, deposed]
  by_cases hname : x.candidate.name = entryName
  · rw [if_pos (beq_iff_eq.2 hname), if_pos hname]
  · rw [if_neg (by simpa using hname), if_neg hname]

theorem deposed_eq_self_iff {c : Candidate} : deposed c = c ↔ c.name ≠ entryName := by
  unfold deposed
  by_cases hname : c.name = entryName
  · rw [if_pos hname]
    refine iff_of_false (fun heq => aliasAt_ne_entryName c.start ?_) (not_not_intro hname)
    rw [← hname]
    exact congrArg Candidate.name heq
  · rw [if_neg hname]
    exact iff_of_true rfl hname

/-- At a negative address, naming leaves everything as it was iff no function is called `entry`. -/
theorem abandons_iff_of_neg (hkeyed : Keyed r) (h : address < 0) :
    Abandons r address ↔ ∀ f ∈ r.functions, f.name ≠ entryName := by
  have hfails : ∃ cause, (r.identify address).2.result = .error cause :=
    ⟨_, (identify_of_neg r h).2⟩
  simp only [Abandons, hfails, true_and, find?_identify_of_neg r h]
  constructor
  · intro hsame f hf
    obtain ⟨x, hx, rfl⟩ := get?_eq_some_iff.1 ((mem_functions_iff hkeyed).1 hf)
    have hx' := hsame x.candidate.start
    rw [hx, Option.map_some, Option.some.injEq] at hx'
    exact deposed_eq_self_iff.1 (congrArg Entry.candidate hx')
  · intro hnames a
    cases hx : r.find? a with
    | none => rfl
    | some x =>
      have hstart := hkeyed a x hx
      have hmem : x.candidate ∈ r.functions := by
        rw [mem_functions_iff hkeyed, hstart]
        exact get?_eq_some_iff.2 ⟨x, hx, rfl⟩
      rw [Option.map_some, deposed_eq_self_iff.2 (hnames _ hmem)]

theorem not_completes_of_neg (r : Registry) (h : address < 0) : ¬ Completes r address := by
  rintro ⟨f, hresult, -⟩
  rw [(identify_of_neg r h).2] at hresult
  cases hresult

/-- Whatever was merged and named before, naming a function completes at every address that is not
negative. At a negative one it fails, and then ranges and sources stay, but each function called
`entry` has another name. So naming completes or leaves everything as it was unless the address is
negative and some function is called `entry`. -/
theorem completes_or_abandons_iff (h : Reachable r) (address : Int) :
    (Completes r address ∨ Abandons r address ↔
      0 ≤ address ∨ ∀ f ∈ r.functions, f.name ≠ entryName) ∧
    (0 ≤ address → Completes r address) ∧
    (address < 0 →
      (r.identify address).2.result = .error (.faults [(.start, .negative), (.stop, .negative)]) ∧
      ∀ a, (r.identify address).1.source? a = r.source? a ∧
        (r.identify address).1.get? a = (r.get? a).map fun c =>
          if c.name = "entry" then c.renamed ("entry@" ++ Text.hex c.start) else c) := by
  have hcompletes (hnonneg : 0 ≤ address) : Completes r address := by
    obtain ⟨e, rfl⟩ := Int.eq_ofNat_of_zero_le hnonneg
    exact completes_natCast h.keyed e
  refine ⟨?_, hcompletes, fun hneg => ⟨(identify_of_neg r hneg).2, fun a => ?_⟩⟩
  · rcases Int.lt_or_le address 0 with hneg | hnonneg
    · rw [or_iff_right (not_completes_of_neg r hneg), or_iff_right (by omega)]
      exact abandons_iff_of_neg h.keyed hneg
    · exact iff_of_true (.inl (hcompletes hnonneg)) (.inl hnonneg)
  · have hfind := find?_identify_of_neg r hneg a
    constructor
    · rw [source?, hfind, Option.map_map, source?]
      rfl
    · rw [get?, hfind, Option.map_map, get?, Option.map_map]
      rfl

/-- A function that is called `entry`, away from any entry point. -/
def soleEntry : Registry := (merge {} [⟨"entry", 0x1000, 16⟩] .staticSymbols).1

theorem completes_or_abandons_iff_soleEntry :
    Reachable soleEntry ∧
    (Completes soleEntry (-1) ∨ Abandons soleEntry (-1) ↔
      (0 : Int) ≤ -1 ∨ ∀ f ∈ soleEntry.functions, f.name ≠ entryName) ∧
    ∀ a, (soleEntry.identify (-1)).1.source? a = soleEntry.source? a := by
  have hreachable : Reachable soleEntry := .merge .empty _ _
  obtain ⟨hiff, -, hneg⟩ := completes_or_abandons_iff hreachable (-1)
  exact ⟨hreachable, hiff, fun a => ((hneg (by decide)).2 a).1⟩

/-- Naming fails at a negative address, and the function that was called `entry` is not any more. -/
theorem identify_soleEntry :
    Reachable soleEntry ∧ ¬ (Completes soleEntry (-1) ∨ Abandons soleEntry (-1)) ∧
      soleEntry.functions = [⟨"entry", 0x1000, 16⟩] ∧
      (soleEntry.identify (-1)).1.functions = [⟨"entry@0x1000", 0x1000, 16⟩] := by
  refine ⟨.merge .empty _ _, ?_, by decide, by decide⟩
  rintro (hcompletes | habandons)
  · exact not_completes_of_neg _ (by decide) hcompletes
  · have hrenamed := functions_eq_of_get? fun a =>
      congrArg (Option.map Entry.candidate) (habandons.2 a)
    exact absurd hrenamed (by decide)

end FunctionBounds.Registry
