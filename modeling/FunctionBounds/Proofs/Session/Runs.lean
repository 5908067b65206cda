import FunctionBounds.Proofs.Registry.Naming
import FunctionBounds.Proofs.Session.Opening

/-!
# Runs of a session

A session is asked to mine regions, to merge candidates and to list the functions, in any order.

- **Runs** (`Operation`, `performAll`): requests one after the other. `given` is what a request
  merges: nothing if its region is missing, cannot be mined or has an unknown name. It depends on
  the image alone (`mine_eq`, `found_eq`).
- **Invariant** (`Reached s₀ cs s`): `s` came from the opened session `s₀` and `cs` was merged on
  the way. Only the registry and the list differ from `s₀`; the addresses stored are the starts of
  `cs` and maybe the entry point; a list that is kept is that of the registry, in which the entry
  point is named. Every operation keeps it (`Reached.perform`).
- **The list of functions** (`Reached.finalize_eq`, `Reached.mem_finalize_start`): what listing
  gives in such a session, and the starts in it.

`finalize_performAll` says so for every image and every run.
-/

namespace FunctionBounds.Session

open Registry (Keyed Named entryName)

/-- A request to a session. -/
inductive Operation where
  /-- Mines a kind of region. -/
  | scan (kind : Evidence)
  /-- Mines the kind of region that a text names, if it names one. -/
  | scanNamed (text : String)
  | merge (cs : List Candidate) (source : Source)
  /-- Lists the functions. -/
  | finalize

/-- The session after a request. -/
def perform (s : Session) : Operation → Session
  | .scan k => (s.scan k).1
  | .scanNamed text =>
    match Evidence.parse text with
    | .ok k => (s.scan k).1
    | .error _ => s
  | .merge cs source => (s.merge cs source).1
  | .finalize => s.finalize.1

/-- The session after requests in order. -/
def performAll (s : Session) (ops : List Operation) : Session := ops.foldl perform s

/-- The functions that mining a kind of region gives; none if it fails. -/
def found (s : Session) (k : Evidence) : List Candidate :=
  match (s.mine k).result with
  | .ok cs => cs
  | .error _ => []

/-- The candidates that a request merges. -/
def given (s : Session) : Operation → List Candidate
  | .scan k => s.found k
  | .scanNamed text =>
    match Evidence.parse text with
    | .ok k => s.found k
    | .error _ => []
  | .merge cs _ => cs
  | .finalize => []

/-- Mining reads the image and nothing else. -/
theorem mine_eq {s₀ s : Session}
    (h : s = { s₀ with registry := s.registry, listed := s.listed }) (k : Evidence) :
    s.mine k = s₀.mine k := by
  rw [h]
  cases k <;> rfl

theorem found_eq {s₀ s : Session}
    (h : s = { s₀ with registry := s.registry, listed := s.listed }) (k : Evidence) :
    s.found k = s₀.found k := by
  rw [found, mine_eq h, found]

/-- A scan merges what it found. If it fails it has found nothing and leaves the session alone. -/
theorem scan_fst (s : Session) (k : Evidence) :
    (s.scan k).1 = s ∧ s.found k = [] ∨ (s.scan k).1 = (s.merge (s.found k) k.source).1 := by
  cases hm : (s.mine k).result with
  | ok cs => right; simp only [scan, found, hm]
  | error cause => left; cases cause <;> simp only [scan, found, hm, and_self]

/-! ## The invariant -/

/-- `s` came from the opened session `s₀`, and `cs` was merged on the way. -/
structure Reached (s₀ : Session) (cs : List Candidate) (s : Session) : Prop where
  image : s = { s₀ with registry := s.registry, listed := s.listed }
  keyed : Keyed s.registry
  stored : ∀ c ∈ cs, s.registry.contains c.start = true
  start : ∀ a, s.registry.contains a = true → a = s₀.entryPoint ∨ ∃ c ∈ cs, (c.start : Int) = a
  /-- A list that is kept is not stale. -/
  fresh : ∀ fs, s.listed = some fs → Named s.registry s₀.entryPoint ∧ fs = s.registry.functions

/-- A session that was just opened has an empty registry and no list. -/
theorem ofBytes_fresh {d : Bytes} {path : String} {l : Text.DigitLimit} {s : Session}
    (h : (ofBytes d path l).result = .ok s) : s.registry = {} ∧ s.listed = none := by
  obtain ⟨_, _, -, -, rfl⟩ := ofBytes_eq_ok h
  exact ⟨rfl, rfl⟩

theorem reached_open {s : Session} (hr : s.registry = {}) (hl : s.listed = none) :
    Reached s [] s where
  image := rfl
  keyed := hr ▸ Registry.keyed_empty
  stored _ hc := absurd hc List.not_mem_nil
  start a ha := by
    rw [hr, Registry.contains, Registry.find?_empty] at ha
    cases ha
  fresh fs hfs := by rw [hl] at hfs; cases hfs

variable {s₀ s : Session} {cs : List Candidate}

theorem Reached.entryPoint_eq (h : Reached s₀ cs s) : s.entryPoint = s₀.entryPoint := by
  rw [h.image]
  rfl

theorem Reached.merge (h : Reached s₀ cs s) (ds : List Candidate) (source : Source) :
    Reached s₀ (cs ++ ds) (s.merge ds source).1 where
  image := by
    conv => lhs; rw [h.image]
    rfl
  keyed := h.keyed.merge ds source
  stored c hc := by
    refine (Registry.contains_merge s.registry ds source c.start).2 ?_
    rcases List.mem_append.1 hc with hc | hc
    · exact .inl (h.stored c hc)
    · exact .inr ⟨c, hc, rfl⟩
  start a ha := by
    rcases (Registry.contains_merge s.registry ds source a).1 ha with ha | ⟨c, hc, hca⟩
    · rcases h.start a ha with he | ⟨c, hc, hca⟩
      · exact .inl he
      · exact .inr ⟨c, List.mem_append_left _ hc, hca⟩
    · exact .inr ⟨c, List.mem_append_right _ hc, hca⟩
  fresh fs hfs := by cases hfs

theorem Reached.scan (h : Reached s₀ cs s) (k : Evidence) :
    Reached s₀ (cs ++ s₀.found k) (s.scan k).1 := by
  rw [← found_eq h.image k]
  rcases s.scan_fst k with ⟨hs, hf⟩ | hs
  · rw [hs, hf, List.append_nil]
    exact h
  · rw [hs]
    exact h.merge _ _

theorem Reached.finalize (h : Reached s₀ cs s) : Reached s₀ cs s.finalize.1 := by
  unfold Session.finalize
  split
  · exact h
  · have hnamed := Registry.named_nameEntry h.keyed s.entryPoint
    rw [h.entryPoint_eq] at hnamed ⊢
    refine ⟨?_, hnamed.keyed, fun c hc => ?_, fun a ha => ?_, fun fs hfs => ?_⟩
    · conv => lhs; rw [h.image]
    · exact (Registry.contains_nameEntry h.keyed _).2 (.inr (h.stored c hc))
    · rcases (Registry.contains_nameEntry h.keyed _).1 ha with ha | ha
      · exact .inl ha
      · exact h.start a ha
    · cases hfs
      exact ⟨hnamed, rfl⟩

theorem Reached.perform (h : Reached s₀ cs s) (op : Operation) :
    Reached s₀ (cs ++ s₀.given op) (s.perform op) := by
  cases op with
  | scan k => exact h.scan k
  | scanNamed text =>
    simp only [given, Session.perform]
    cases Evidence.parse text with
    | ok k => exact h.scan k
    | error _ => simpa using h
  | merge ds source => exact h.merge ds source
  | finalize =>
    simp only [given, List.append_nil]
    exact h.finalize

theorem Reached.performAll (h : Reached s₀ cs s) (ops : List Operation) :
    Reached s₀ (cs ++ ops.flatMap s₀.given) (s.performAll ops) := by
  induction ops generalizing cs s with
  | nil => simpa [Session.performAll] using h
  | cons op ops ih =>
    have := ih (h.perform op)
    simpa [Session.performAll] using this

/-! ## The list of functions -/

/-- The list that is kept is the one that naming and sorting would give afresh. -/
theorem Reached.finalize_eq (h : Reached s₀ cs s) :
    s.finalize.2 = (s.registry.nameEntry s.entryPoint).functions := by
  unfold Session.finalize
  split
  · next fs hfs =>
    obtain ⟨hnamed, rfl⟩ := h.fresh fs hfs
    rw [h.entryPoint_eq, Registry.functions, Registry.functions,
      Registry.entries_eq_of_find? (Registry.find?_nameEntry_of_named hnamed)]
  · rfl

theorem finalize_listed (s : Session) : s.finalize.1.listed = some s.finalize.2 := by
  unfold Session.finalize
  split
  · assumption
  · rfl

theorem finalize_finalize (s : Session) : s.finalize.1.finalize = s.finalize := by
  rw [finalize, finalize_listed]

/-- Listing names the entry point, and gives what the registry holds then. -/
theorem Reached.finalize_named (h : Reached s₀ cs s) :
    Named s.finalize.1.registry s₀.entryPoint ∧
      s.finalize.2 = s.finalize.1.registry.functions :=
  h.finalize.fresh _ s.finalize_listed

/-- The starts of the listed functions: those of the candidates merged, and the entry point. -/
theorem Reached.mem_finalize_start (h : Reached s₀ cs s) (a : Nat) :
    (∃ f ∈ s.finalize.2, f.start = a) ↔ a = s₀.entryPoint ∨ ∃ c ∈ cs, c.start = a := by
  obtain ⟨hnamed, hlist⟩ := h.finalize_named
  have hmem : (∃ f ∈ s.finalize.2, f.start = a) ↔
      s.finalize.1.registry.contains a = true := by
    rw [hlist, Registry.contains_iff]
    constructor
    · rintro ⟨f, hf, rfl⟩
      obtain ⟨x, hx, -⟩ := Registry.get?_eq_some_iff.1
        ((Registry.mem_functions_iff hnamed.keyed).1 hf)
      exact ⟨x, hx⟩
    · rintro ⟨x, hx⟩
      have hstart := hnamed.keyed a x hx
      refine ⟨x.candidate, (Registry.mem_functions_iff hnamed.keyed).2 ?_, Int.natCast_inj.1 hstart⟩
      rw [hstart]
      exact Registry.get?_eq_some_iff.2 ⟨x, hx, rfl⟩
  rw [hmem]
  constructor
  · intro ha
    rcases h.finalize.start a ha with he | ⟨c, hc, hca⟩
    · exact .inl (Int.natCast_inj.1 he)
    · exact .inr ⟨c, hc, Int.natCast_inj.1 hca⟩
  · rintro (rfl | ⟨c, hc, rfl⟩)
    · obtain ⟨x, hx, -⟩ := hnamed.stored
      exact (Registry.contains_iff _ _).2 ⟨x, hx⟩
    · exact h.finalize.stored c hc

/-- For every image that can be opened and every run on it, listing gives functions that ascend
strictly by start, each of which ends its size after its start and exactly one of which is called
`entry`: the one at the entry point. Their starts are those of everything merged on the way and the
entry point. The list is what naming and sorting the registry at hand gives, and listing again
changes nothing. -/
theorem finalize_performAll {d : Bytes} {path : String} {l : Text.DigitLimit} {s₀ : Session}
    (hopen : (ofBytes d path l).result = .ok s₀) (ops : List Operation) :
    let s := s₀.performAll ops
    let t := s.finalize.1
    let fs := s.finalize.2
    fs.Pairwise (·.start < ·.start) ∧
    (∀ f ∈ fs, f.stop = f.start + f.size) ∧
    (∃ f, fs.filter (·.name == entryName) = [f] ∧ f.start = s₀.header.entry.toNat) ∧
    (∀ a, (∃ f ∈ fs, f.start = a) ↔
      a = s₀.header.entry.toNat ∨ ∃ c ∈ ops.flatMap s₀.given, c.start = a) ∧
    fs = (s.registry.nameEntry s₀.header.entry.toNat).functions ∧
    t.finalize.2 = fs ∧
    (∀ a, t.finalize.1.registry.source? a = t.registry.source? a) ∧
    t.finalize.1.registry.counts = t.registry.counts := by
  intro s t fs
  obtain ⟨hr, hl⟩ := ofBytes_fresh hopen
  have h : Reached s₀ (ops.flatMap s₀.given) s := by
    simpa using (reached_open hr hl).performAll ops
  have hnamed : Named t.registry s₀.entryPoint := h.finalize_named.1
  have hlist : fs = t.registry.functions := h.finalize_named.2
  refine ⟨?_, fun _ _ => rfl, ?_, h.mem_finalize_start, ?_, ?_, fun a => ?_, ?_⟩
  · rw [hlist]
    exact Registry.functions_pairwise hnamed.keyed
  · rw [hlist]
    exact hnamed.filter_functions
  · rw [← show s.entryPoint = s₀.header.entry.toNat from h.entryPoint_eq]
    exact h.finalize_eq
  · rw [finalize_finalize]
  · rw [finalize_finalize]
  · rw [finalize_finalize]

/-- The header of a program that starts at `0x401000` and has no table of sections. Its one segment
lies outside the file. -/
def strippedImage : Bytes :=
  #[0x7f, 0x45, 0x4c, 0x46, 2, 1, 1, 0, 0, 0, 0, 0, 0, 0, 0, 0,
    2, 0, 62, 0, 1, 0, 0, 0, 0x00, 0x10, 0x40, 0, 0, 0, 0, 0,
    64, 0, 0, 0, 0, 0, 0, 0, 0, 0, 0, 0, 0, 0, 0, 0,
    0, 0, 0, 0, 64, 0, 56, 0, 1, 0, 64, 0, 0, 0, 0, 0]

/-- The session of that image. -/
def strippedSession : Session where
  path := "a.out"
  header := Elf.Header.fields strippedImage
  regions := []
  stripped := true

/-- Two functions away from the entry point that are called `entry`, one of them merged after the
functions were listed. -/
def competingRun : List Operation :=
  [.merge [⟨"entry", 0x401100, 16⟩, ⟨"main", 0x401000, 32⟩] .staticSymbols, .finalize,
    .scan .ehFrame, .scanNamed "bogus", .merge [⟨"entry", 0x401300, 8⟩] .manual]

theorem finalize_performAll_competingRun :
    (ofBytes strippedImage "a.out").result = .ok strippedSession ∧
    let s := strippedSession.performAll competingRun
    s.finalize.2.Pairwise (·.start < ·.start) ∧
    (∃ f, s.finalize.2.filter (·.name == entryName) = [f] ∧ f.start = 0x401000) ∧
    (∀ a, (∃ f ∈ s.finalize.2, f.start = a) ↔
      a = 0x401000 ∨
        ∃ c ∈ competingRun.flatMap strippedSession.given, c.start = a) ∧
    s.finalize.1.finalize.2 = s.finalize.2 := by
  have hopen : (ofBytes strippedImage "a.out").result = .ok strippedSession := rfl
  obtain ⟨hsorted, -, hentry, hstarts, -, hagain, -⟩ := finalize_performAll hopen competingRun
  exact ⟨hopen, hsorted, hentry, hstarts, hagain⟩

example : (strippedSession.performAll competingRun).finalize.2 =
    [⟨"entry", 0x401000, 32⟩, ⟨"entry@0x401100", 0x401100, 16⟩,
      ⟨"entry@0x401300", 0x401300, 8⟩] := by
  decide

end FunctionBounds.Session
