import FunctionBounds.Proofs.Cfi.Cache

/-!
# Passes over one section

A section may be scanned several times, each pass going on with the common entries that the passes
before it could read.

- **Visits** (`visitAll_fst`): what a record contributes in a pass is decided by the entries that
  the pass begins with (`entryFrom`); those that it adds itself make no difference.
- **Entries** (`getElem?_visitAll`): a pass adds the entries that its frame descriptions refer to
  and that can be read, and changes none.
- **Passes** (`pass`, `passes`): what each pass reports and which entries it leaves behind. A note
  that cannot be written ends a pass early; without a bound on numbers the reports are those of
  `scanPasses` (`passes_none`).

`passes_replicate` is about passes under one convention: each gives what `scanAnew` gives, which
reads the common entry of every frame description anew.
-/

namespace FunctionBounds.Cfi

/-- The records that a pass comes to: it ends with the first one whose note cannot be written. -/
def Scan.reached (scan : Scan) (l : Text.DigitLimit) : List Record :=
  (scan.visits.take (scan.visits.findIdx (fun v => (v.unwritable? l).isSome) + 1)).map (·.record)

theorem Scan.reached_none (scan : Scan) : scan.reached none = scan.visits.map (·.record) := by
  have hnone : scan.visits.findIdx (fun v => (v.unwritable? none).isSome) = scan.visits.length := by
    simp [List.findIdx_eq_length]
  rw [reached, hnone, List.take_of_length_le (Nat.le_succ _)]

namespace Section

variable {s : Section} {c : Convention} {cache : EntryCache}

/-- The offset of the common entry that a record refers to: none if it is one itself or if its
pointer leads outside the section. -/
def reference? (s : Section) (c : Convention) (r : Record) : Option Nat :=
  if r.isCommon s.bytes c then none else (r.entryOffset s.bytes c).toOption

/-- The common entry at an offset, as far as it can be read. -/
def readable? (s : Section) (c : Convention) (off : Nat) : Option CommonEntry :=
  (CommonEntry.read s.bytes c off).toOption

theorem readable?_eq_some_iff {off : Nat} {entry : CommonEntry} :
    s.readable? c off = some entry ↔ CommonEntry.read s.bytes c off = .ok entry := by
  unfold readable?
  cases CommonEntry.read s.bytes c off <;> simp [Except.toOption]

/-- The common entry at an offset: from the cache, or else read. -/
def entryFrom (s : Section) (c : Convention) (cache : EntryCache) (off : Nat) :
    Except DecodeError CommonEntry :=
  (s.entryAt c cache off).1

/-- What a record contributes if `entry` gives the common entries. -/
def outcomeBy (s : Section) (c : Convention) (entry : Nat → Except DecodeError CommonEntry)
    (r : Record) : Outcome :=
  if r.isCommon s.bytes c then .commonEntry
  else
    match (r.entryOffset s.bytes c).bind fun off => (entry off).bind (s.describe · r) with
    | .ok f => .function f
    | .error cause => .skipped cause

theorem outcomeBy_read (s : Section) (c : Convention) :
    s.outcomeBy c (CommonEntry.read s.bytes c) = s.outcome c := rfl

/-! ## Visits -/

theorem visit_fst (s : Section) (c : Convention) (cache : EntryCache) (r : Record) :
    (s.visit c cache r).1 = ⟨r, s.outcomeBy c (s.entryFrom c cache) r⟩ := by
  unfold visit candidate outcomeBy entryFrom
  split
  · rfl
  · cases r.entryOffset s.bytes c with
    | error cause => rfl
    | ok off =>
      simp only [Except.bind]
      cases (s.entryAt c cache off).1 with
      | error cause => rfl
      | ok entry =>
        simp only
        cases s.describe entry r <;> rfl

theorem visit_snd (s : Section) (c : Convention) (cache : EntryCache) (r : Record) :
    (s.visit c cache r).2 =
      (s.reference? c r).elim cache fun off => (s.entryAt c cache off).2 := by
  unfold visit candidate reference?
  split
  · rfl
  · cases r.entryOffset s.bytes c with
    | error cause => rfl
    | ok off =>
      simp only [Except.toOption, Option.elim_some]
      split <;> next h => exact (Prod.mk.inj h).2.symm

theorem getElem?_entryAt (s : Section) (c : Convention) (cache : EntryCache) (off off' : Nat) :
    (s.entryAt c cache off).2[off']? =
      cache[off']?.or (if off = off' then s.readable? c off' else none) := by
  unfold entryAt readable?
  split
  · next entry hkept =>
    by_cases hoff : off = off'
    · subst hoff
      rw [hkept]
      rfl
    · simp [hoff]
  · next hnone =>
    by_cases hoff : off = off'
    · subst hoff
      cases hread : CommonEntry.read s.bytes c off with
      | ok entry => simp [hnone, Except.toOption]
      | error cause => simp [hnone, Except.toOption]
    · cases CommonEntry.read s.bytes c off with
      | ok entry => simp [hoff, Std.TreeMap.getElem?_insert]
      | error cause => simp [hoff]

/-- A visit adds the common entry that the record refers to, if it can be read and none is kept. -/
theorem getElem?_visit (s : Section) (c : Convention) (cache : EntryCache) (r : Record)
    (off : Nat) :
    (s.visit c cache r).2[off]? =
      cache[off]?.or (if s.reference? c r = some off then s.readable? c off else none) := by
  rw [visit_snd]
  cases s.reference? c r with
  | none => simp
  | some off' => simp [getElem?_entryAt]

theorem entryFrom_eq (s : Section) (c : Convention) (cache : EntryCache) (off : Nat) :
    s.entryFrom c cache off = cache[off]?.elim (CommonEntry.read s.bytes c off) .ok := by
  unfold entryFrom entryAt
  cases cache[off]? with
  | some entry => rfl
  | none => cases CommonEntry.read s.bytes c off <;> rfl

/-- What a visit adds is what would be read. -/
theorem entryFrom_visit (s : Section) (c : Convention) (cache : EntryCache) (r : Record) :
    s.entryFrom c (s.visit c cache r).2 = s.entryFrom c cache := by
  funext off
  rw [entryFrom_eq, entryFrom_eq, getElem?_visit]
  cases cache[off]? with
  | some entry => rfl
  | none =>
    simp only [Option.none_or, Option.elim_none]
    split
    · unfold readable?
      cases CommonEntry.read s.bytes c off <;> rfl
    · rfl

/-- What a record contributes in a pass is decided by the entries that the pass begins with. -/
theorem visitAll_fst (s : Section) (c : Convention) (cache : EntryCache) (records : List Record) :
    (s.visitAll c cache records).1 =
      records.map fun r => ⟨r, s.outcomeBy c (s.entryFrom c cache) r⟩ := by
  induction records generalizing cache with
  | nil => rfl
  | cons r records ih =>
    rw [visitAll_cons, List.map_cons, ih, visit_fst, entryFrom_visit]

/-! ## Entries -/

/-- The entries after visits: those kept before, and those that frame descriptions among the
records refer to and that can be read. -/
theorem getElem?_visitAll (s : Section) (c : Convention) (cache : EntryCache)
    (records : List Record) (off : Nat) :
    (s.visitAll c cache records).2[off]? =
      cache[off]?.or
        (if off ∈ records.filterMap (s.reference? c) then s.readable? c off else none) := by
  induction records generalizing cache with
  | nil => simp
  | cons r records ih =>
    rw [visitAll_cons]
    simp only [ih, getElem?_visit]
    have hmem : off ∈ (r :: records).filterMap (s.reference? c) ↔
        s.reference? c r = some off ∨ off ∈ records.filterMap (s.reference? c) := by
      simp [List.mem_filterMap]
    cases cache[off]? with
    | some entry => rfl
    | none =>
      simp only [Option.none_or, hmem]
      by_cases hr : s.reference? c r = some off
      · cases s.readable? c off <;> simp [hr]
      · simp [hr]

/-- A cache holds the common entries at the offsets `offs` that can be read, and no others. -/
def Keeps (s : Section) (c : Convention) (cache : EntryCache) (offs : List Nat) : Prop :=
  ∀ off, cache[off]? = if off ∈ offs then s.readable? c off else none

theorem keeps_empty : s.Keeps c {} [] := by
  intro off
  simp

theorem Keeps.entryFrom {offs : List Nat} (h : s.Keeps c cache offs) :
    s.entryFrom c cache = CommonEntry.read s.bytes c := by
  funext off
  rw [entryFrom_eq, h off]
  split
  · unfold readable?
    cases CommonEntry.read s.bytes c off <;> rfl
  · rfl

theorem Keeps.visitAll {offs : List Nat} (h : s.Keeps c cache offs) (records : List Record) :
    s.Keeps c (s.visitAll c cache records).2 (offs ++ records.filterMap (s.reference? c)) := by
  intro off
  rw [getElem?_visitAll, h off]
  simp only [List.mem_append]
  by_cases hoff : off ∈ offs
  · cases s.readable? c off <;> simp [hoff]
  · simp [hoff]

/-! ## Passes -/

/-- Scans every record; the common entry of each frame description is read anew. -/
def scanAnew (s : Section) (c : Convention) : Scan :=
  let chain := Chain.read s.bytes c
  ⟨chain.records.map fun r => ⟨r, s.outcome c r⟩, chain.stop, chain.ending⟩

/-- One pass: what it reports, and the common entries that it leaves behind. -/
def pass (s : Section) (l : Text.DigitLimit) (c : Convention) (cache : EntryCache) :
    Noted Text.TooLong (List Candidate) × EntryCache :=
  let scan := (s.scanWith c cache).1
  (scan.report l, (s.visitAll c cache (scan.reached l)).2)

/-- Passes one after the other, each going on with the entries that the one before left behind. -/
def passes (s : Section) (l : Text.DigitLimit) :
    List Convention → EntryCache → List (Noted Text.TooLong (List Candidate) × EntryCache)
  | [], _ => []
  | c :: cs, cache => s.pass l c cache :: s.passes l cs (s.pass l c cache).2

theorem scanWith_fst (s : Section) (c : Convention) (cache : EntryCache) :
    (s.scanWith c cache).1 =
      let chain := Chain.read s.bytes c
      ⟨chain.records.map fun r => ⟨r, s.outcomeBy c (s.entryFrom c cache) r⟩, chain.stop,
        chain.ending⟩ := by
  simp only [scanWith, visitAll_fst]

theorem Keeps.scanWith {offs : List Nat} (h : s.Keeps c cache offs) :
    (s.scanWith c cache).1 = s.scanAnew c := by
  rw [scanWith_fst, h.entryFrom, outcomeBy_read, scanAnew]

/-- Without a bound on numbers, passes report what `scanPasses` scans. -/
theorem passes_none (s : Section) (cs : List Convention) :
    (s.passes none cs {}).map (·.1) = (s.scanPasses cs).map (·.report none) := by
  suffices h : ∀ cache : EntryCache,
      (s.passes none cs cache).map (·.1) = (scanPasses.go s cs cache).map (·.report none) from
    h {}
  induction cs with
  | nil => exact fun _ => rfl
  | cons c cs ih =>
    intro cache
    have hcache : (s.pass none c cache).2 = (s.scanWith c cache).2 := by
      have hrecords : ((s.scanWith c cache).1.visits.map (·.record)) =
          (Chain.read s.bytes c).records := by
        simp [scanWith_fst, Function.comp_def]
      simp only [pass, Scan.reached_none, hrecords]
      rfl
    simp only [passes, scanPasses.go, List.map_cons, ih, hcache]
    rfl

/-- In passes under one convention, each goes on with entries that can be read under it. -/
theorem Keeps.passes {offs : List Nat} (h : s.Keeps c cache offs) (l : Text.DigitLimit) (n : Nat)
    (hoffs : ∀ off ∈ offs, off ∈ ((s.scanAnew c).reached l).filterMap (s.reference? c)) :
    (s.passes l (List.replicate n c) cache).map (·.1) =
        List.replicate n ((s.scanAnew c).report l) ∧
      ∀ p ∈ s.passes l (List.replicate n c) cache,
        s.Keeps c p.2 (((s.scanAnew c).reached l).filterMap (s.reference? c)) := by
  induction n generalizing cache offs with
  | zero => simp [Section.passes]
  | succ n ih =>
    have hkeeps : s.Keeps c (s.pass l c cache).2
        (((s.scanAnew c).reached l).filterMap (s.reference? c)) := by
      intro off
      simp only [pass, h.scanWith, (h.visitAll _) off]
      congr 1
      simp only [List.mem_append, eq_iff_iff, or_iff_right_iff_imp]
      exact hoffs off
    obtain ⟨hreports, hcaches⟩ := ih hkeeps fun _ => id
    rw [List.replicate_succ, Section.passes]
    refine ⟨?_, fun p hp => ?_⟩
    · rw [List.map_cons, hreports, List.replicate_succ]
      simp only [pass, h.scanWith]
    · rcases List.mem_cons.1 hp with rfl | hp
      · exact hkeeps
      · exact hcaches p hp

theorem Keeps.scanPasses {offs : List Nat} (h : s.Keeps c cache offs) (n : Nat) :
    scanPasses.go s (List.replicate n c) cache = List.replicate n (s.scanAnew c) := by
  induction n generalizing cache offs with
  | zero => rfl
  | succ n ih =>
    simp only [List.replicate_succ, scanPasses.go, h.scanWith]
    exact congrArg _ (ih (h.visitAll _))

/-- Any number of passes under one convention give, each of them, the functions and the notes of a
scan that reads the common entry of every frame description anew. After each of them, the entries
kept are those that can be read at the offsets that its frame descriptions refer to; none is kept
where none can be read. -/
theorem passes_replicate (s : Section) (c : Convention) (l : Text.DigitLimit) (n : Nat) :
    let referred := ((s.scanAnew c).reached l).filterMap (s.reference? c)
    s.scanPasses (List.replicate n c) = List.replicate n (s.scanAnew c) ∧
    (s.passes l (List.replicate n c) {}).map (·.1) =
      List.replicate n ((s.scanAnew c).report l) ∧
    ∀ p ∈ s.passes l (List.replicate n c) {},
      (∀ off entry, p.2[off]? = some entry ↔
        off ∈ referred ∧ CommonEntry.read s.bytes c off = .ok entry) ∧
      ∀ off cause, CommonEntry.read s.bytes c off = .error cause → p.2[off]? = none := by
  intro referred
  obtain ⟨hreports, hcaches⟩ := keeps_empty.passes l n (s := s) (c := c) fun _ h => by cases h
  refine ⟨keeps_empty.scanPasses n, hreports, fun p hp => ⟨fun off entry => ?_,
    fun off cause hread => ?_⟩⟩
  · rw [hcaches p hp off, ← readable?_eq_some_iff]
    exact Option.ite_none_right_eq_some
  · rw [hcaches p hp off, readable?, hread]
    simp [Except.toOption]

end Section

end FunctionBounds.Cfi
