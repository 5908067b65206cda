import FunctionBounds.Proofs.Analysis.Reporting

/-!
# The order of an analysis

Of the kinds that a survey mines, only those of one source compete on equal terms. The three kinds
of call-frame evidence share the lowest source; every other kind has one of its own.

- **Same order** (`SameOrder ks ks'`): the same kinds occur, and those of call-frame evidence first
  occur in the same order. Then the same comes first among the kinds of each source
  (`SameOrder.findSome?_eq`).
- **Registries** (`Surveyed.get?_eq`): so surveys of both lists store the same candidate at every
  address.
- **Counts** (`Surveyed.lookup_eq`): surveys of the same kinds count the same, in whatever order.

`ofBytes_of_sameOrder` says so of whole analyses, as far as what is mined can be reported.
-/

namespace FunctionBounds

section FirstInOrder

variable {α β : Type} {f : α → Option β}

theorem findSome?_filter {p : α → Bool} {xs : List α} (h : ∀ x, p x = false → f x = none) :
    (xs.filter p).findSome? f = xs.findSome? f := by
  induction xs with
  | nil => rfl
  | cons x xs ih =>
    cases hp : p x with
    | true => rw [List.filter_cons_of_pos hp, List.findSome?_cons, List.findSome?_cons, ih]
    | false =>
      rw [List.filter_cons_of_neg (Bool.eq_false_iff.1 hp), List.findSome?_cons, h x hp, ih]

/-- Only the first occurrence of each element matters. -/
theorem findSome?_eraseDups [BEq α] [LawfulBEq α] (f : α → Option β) (xs : List α) :
    xs.eraseDups.findSome? f = xs.findSome? f := by
  match xs with
  | [] => rfl
  | x :: xs =>
    rw [List.eraseDups_cons, List.findSome?_cons, List.findSome?_cons,
      findSome?_eraseDups f (xs.filter fun y => !y == x)]
    cases hx : f x with
    | some b => rfl
    | none =>
      refine findSome?_filter fun y hy => ?_
      have hyx : y = x := by simpa using hy
      rw [hyx, hx]
termination_by xs.length
decreasing_by
  exact Nat.lt_succ_of_le (List.length_filter_le _ _)

theorem findSome?_of_single [DecidableEq α] {x : α} (h : ∀ y, y ≠ x → f y = none) (xs : List α) :
    xs.findSome? f = if x ∈ xs then f x else none := by
  induction xs with
  | nil => rfl
  | cons y xs ih =>
    rw [List.findSome?_cons]
    by_cases hyx : y = x
    · subst hyx
      cases hy : f y <;> simp [ih, hy]
    · simp [h y hyx, ih, Ne.symm hyx]

end FirstInOrder

namespace Evidence

variable {β : Type} {ks ks' : List Evidence}

/-- The same kinds occur, and those of call-frame evidence first occur in the same order. -/
structure SameOrder (ks ks' : List Evidence) : Prop where
  mem : ∀ k, k ∈ ks ↔ k ∈ ks'
  unwind : (ks.filter (·.source == .unwindTable)).eraseDups =
    (ks'.filter (·.source == .unwindTable)).eraseDups

/-- Every source but the lowest is that of at most one kind. -/
theorem source_single {source : Source} (h : source ≠ .unwindTable) :
    ∃ k : Evidence, ∀ k', k' ≠ k → k'.source ≠ source := by
  cases source with
  | unwindTable => exact absurd rfl h
  | staticSymbols | callGraph | manual => exact ⟨.symtab, by intro k; cases k <;> decide⟩
  | dynamicSymbols => exact ⟨.dynsym, by intro k; cases k <;> decide⟩

/-- The same comes first among the kinds of one source. -/
theorem SameOrder.findSome?_eq (h : SameOrder ks ks') (source : Source)
    {f : Evidence → Option β} (hf : ∀ k, k.source ≠ source → f k = none) :
    ks.findSome? f = ks'.findSome? f := by
  by_cases hsource : source = .unwindTable
  · have hfirst : ∀ kinds : List Evidence,
        (kinds.filter (·.source == .unwindTable)).eraseDups.findSome? f = kinds.findSome? f := by
      intro kinds
      rw [findSome?_eraseDups, findSome?_filter]
      intro k hk
      exact hf k (by simpa [hsource] using hk)
    rw [← hfirst ks, h.unwind, hfirst ks']
  · -- At most one kind is left, so only whether it occurs matters.
    obtain ⟨k, hk⟩ := source_single hsource
    have hother : ∀ k', k' ≠ k → f k' = none := fun k' hne => hf k' (hk k' hne)
    rw [findSome?_of_single hother, findSome?_of_single hother]
    simp only [h.mem]

end Evidence

namespace Session

open Evidence (SameOrder)

variable {s₀ : Session} {ks ks' : List Evidence} {v v' : Survey}

/-- The first arrival of a source at an address, kind by kind. -/
theorem find?_arrivals (s : Session) (ks : List Evidence) (a : Int) (source : Source) :
    (s.arrivals ks).find? (fun x => (x.1.start : Int) == a && x.2 == source) =
      ks.findSome? fun k => ((s.found k).map (·, k.source)).find? fun x =>
        (x.1.start : Int) == a && x.2 == source :=
  List.find?_flatMap

theorem Surveyed.get?_eq (h : Surveyed s₀ ks v) (h' : Surveyed s₀ ks' v')
    (horder : SameOrder ks ks') (a : Int) :
    v.session.registry.get? a = v'.session.registry.get? a := by
  refine h.follows.get?_congr h'.follows (fun a source => ?_) a
  rw [find?_arrivals, find?_arrivals]
  refine horder.findSome?_eq source fun k hk => ?_
  rw [List.find?_eq_none]
  intro x hx
  obtain ⟨c, -, rfl⟩ := List.mem_map.1 hx
  simp [hk]

theorem Surveyed.functions_eq_of_get? (h : Surveyed s₀ ks v) (h' : Surveyed s₀ ks' v')
    (hget : ∀ a, v.session.registry.get? a = v'.session.registry.get? a) :
    v.session.finalize.2 = v'.session.finalize.2 := by
  rw [h.reached.finalize_eq, h'.reached.finalize_eq, h.reached.entryPoint_eq,
    h'.reached.entryPoint_eq]
  refine Registry.functions_eq_of_get? fun a => ?_
  rw [Registry.get?_nameEntry h.reached.keyed, Registry.get?_nameEntry h'.reached.keyed, hget, hget]

theorem Surveyed.functions_eq (h : Surveyed s₀ ks v) (h' : Surveyed s₀ ks' v')
    (horder : SameOrder ks ks') : v.session.finalize.2 = v'.session.finalize.2 :=
  h.functions_eq_of_get? h' (h.get?_eq h' horder)

theorem Surveyed.lookup_eq (h : Surveyed s₀ ks v) (h' : Surveyed s₀ ks' v')
    (hmem : ∀ k, k ∈ ks ↔ k ∈ ks') (name : String) :
    v.counts.lookup name = v'.counts.lookup name := by
  refine Option.ext fun n => ?_
  rw [h.counts, h'.counts]
  simp only [hmem]

end Session

/-- Two lists of the same kinds, in which the kinds of call-frame evidence first occur in the same
order, give analyses with the same functions and the same counts, whichever kinds fail or are
missing, unless one of them cannot be reported on. Then neither gives any. -/
theorem Analysis.ofBytes_of_sameOrder {d : Bytes} {path : String} {l : Text.DigitLimit}
    {s : Session} (hopen : (Session.ofBytes d path l).result = .ok s) {ks ks' : List Evidence}
    (horder : Evidence.SameOrder ks ks') (elapsed elapsed' : String) :
    ((∀ k ∈ ks, s.Reportable k) →
      ∃ a a', (ofBytes d path ks elapsed l).result = .ok a ∧
        (ofBytes d path ks' elapsed' l).result = .ok a' ∧ a.functions = a'.functions ∧
        ∀ name, a.sourceCounts.lookup name = a'.sourceCounts.lookup name) ∧
    ((∃ k ∈ ks, ¬s.Reportable k) →
      ∃ cause, (ofBytes d path ks elapsed l).result = .error (.unwritable cause) ∧
        (ofBytes d path ks' elapsed' l).result = .error (.unwritable cause)) := by
  constructor
  · intro hreportable
    obtain ⟨hr, hl⟩ := Session.ofBytes_fresh hopen
    have hgoing := Session.findSome?_halting_eq_none_iff.2 hreportable
    have hgoing' := Session.findSome?_halting_eq_none_iff.2 fun k hk =>
      hreportable k ((horder.mem k).2 hk)
    obtain ⟨hhalted, hsurveyed⟩ := Session.survey_surveyed hr hl ks
    obtain ⟨hhalted', hsurveyed'⟩ := Session.survey_surveyed hr hl ks'
    have h := hsurveyed hgoing
    have h' := hsurveyed' hgoing'
    obtain ⟨a, ha, hfunctions, hcounts⟩ := ofSession_of_going (hhalted.trans hgoing) d
    obtain ⟨a', ha', hfunctions', hcounts'⟩ := ofSession_of_going (hhalted'.trans hgoing') d
    rw [ofBytes_result hopen, ofBytes_result hopen]
    refine ⟨a, a', ha, ha', ?_, fun name => ?_⟩
    · rw [hfunctions, hfunctions', h.functions_eq h' horder]
    · rw [hcounts, hcounts', h.lookup_eq h' horder.mem]
  · rintro ⟨k, hk, hnot⟩
    obtain ⟨cause, hhalting, herror⟩ := ofBytes_unwritable hopen ⟨k, hk, hnot⟩ elapsed
    obtain ⟨cause', hhalting', herror'⟩ :=
      ofBytes_unwritable hopen ⟨k, (horder.mem k).1 hk, hnot⟩ elapsed'
    -- Only call-frame sections end a survey, and the first of those is the same in both lists.
    have hsame : ks.findSome? s.halting? = ks'.findSome? s.halting? :=
      horder.findSome?_eq .unwindTable fun k hk => s.halting?_of_source hk
    obtain rfl : cause = cause' :=
      Option.some.inj (hhalting.symm.trans (hsame.trans hhalting'))
    exact ⟨cause, herror, herror'⟩

/-- A program that starts at `0x401000`. Both of its call-frame sections describe a function there,
one of 32 octets and one of 16, and its symbol table describes another one. -/
def contestedImage : Bytes :=
  List.toArray (
    [0x7f, 0x45, 0x4c, 0x46, 2, 1, 1, 0, 0, 0, 0, 0, 0, 0, 0, 0,
      2, 0, 62, 0, 1, 0, 0, 0, 0x00, 0x10, 0x40, 0, 0, 0, 0, 0,
      0, 0, 0, 0, 0, 0, 0, 0, 207, 0, 0, 0, 0, 0, 0, 0,
      0, 0, 0, 0, 64, 0, 0, 0, 0, 0, 64, 0, 4, 0, 1, 0] ++
    -- `.eh_frame` at 64
    [9, 0, 0, 0, 0, 0, 0, 0, 1, 0, 1, 0x78, 16,
      20, 0, 0, 0, 17, 0, 0, 0, 0x00, 0x10, 0x40, 0, 0, 0, 0, 0, 32, 0, 0, 0, 0, 0, 0, 0] ++
    -- `.debug_frame` at 101
    [9, 0, 0, 0, 0xff, 0xff, 0xff, 0xff, 1, 0, 1, 0x78, 16,
      20, 0, 0, 0, 0, 0, 0, 0, 0x00, 0x10, 0x40, 0, 0, 0, 0, 0, 16, 0, 0, 0, 0, 0, 0, 0] ++
    -- `.symtab` at 138
    [40, 0, 0, 0, 0x12, 0, 1, 0, 0x20, 0x10, 0x40, 0, 0, 0, 0, 0, 8, 0, 0, 0, 0, 0, 0, 0] ++
    -- `.strtab` at 162, with the names of sections and symbols
    [0, 0x2e, 0x65, 0x68, 0x5f, 0x66, 0x72, 0x61, 0x6d, 0x65,
      0, 0x2e, 0x64, 0x65, 0x62, 0x75, 0x67, 0x5f, 0x66, 0x72, 0x61, 0x6d, 0x65,
      0, 0x2e, 0x73, 0x79, 0x6d, 0x74, 0x61, 0x62, 0, 0x2e, 0x73, 0x74, 0x72, 0x74, 0x61, 0x62,
      0, 0x6d, 0x61, 0x69, 0x6e, 0] ++
    sectionEntry 1 1 64 37 ++ sectionEntry 32 3 162 45 ++ sectionEntry 24 2 138 24 ++
      sectionEntry 11 1 101 37)

theorem reportable_contestedImage :
    ∃ s, (Session.ofBytes contestedImage "a.out").result = .ok s ∧
      ∀ k ∈ [Evidence.symtab, .ehFrame, .debugFrame, .dynsym], s.Reportable k := by
  have hgoing : (Session.ofBytes contestedImage "a.out").result.toOption.any (fun s =>
      [Evidence.symtab, .ehFrame, .debugFrame, .dynsym].findSome? s.halting? = none) = true := by
    decide +kernel
  cases hopen : (Session.ofBytes contestedImage "a.out").result with
  | error cause => rw [hopen] at hgoing; cases hgoing
  | ok s =>
    rw [hopen] at hgoing
    exact ⟨s, rfl, Session.findSome?_halting_eq_none_iff.1 (of_decide_eq_true hgoing)⟩

/-- Call-frame sections that contest a function, and a region that is missing. -/
theorem Analysis.ofBytes_of_sameOrder_contestedImage :
    ∃ s, (Session.ofBytes contestedImage "a.out").result = .ok s ∧
      (∀ k ∈ [Evidence.symtab, .ehFrame, .debugFrame, .dynsym], s.Reportable k) ∧
      ∃ a a', (ofBytes contestedImage "a.out" [.symtab, .ehFrame, .debugFrame, .dynsym]
          "0.1").result = .ok a ∧
        (ofBytes contestedImage "a.out"
          [.ehFrame, .dynsym, .ehFrame, .debugFrame, .symtab, .ehFrame] "0.2").result = .ok a' ∧
        a.functions = a'.functions ∧
        ∀ name, a.sourceCounts.lookup name = a'.sourceCounts.lookup name := by
  have horder : Evidence.SameOrder [.symtab, .ehFrame, .debugFrame, .dynsym]
      [.ehFrame, .dynsym, .ehFrame, .debugFrame, .symtab, .ehFrame] :=
    ⟨fun k => by cases k <;> decide, by decide⟩
  obtain ⟨s, hopen, hreportable⟩ := reportable_contestedImage
  exact ⟨s, hopen, hreportable, (ofBytes_of_sameOrder hopen horder "0.1" "0.2").1 hreportable⟩

/-- A list in which one kind is repeated, and no analysis by either of the lists. -/
theorem Analysis.no_ofBytes_of_sameOrder :
    (∃ s, (Session.ofBytes overlongImage "a.out").result = .ok s) ∧
      Evidence.SameOrder [.ehFrame, .symtab] [.ehFrame, .symtab, .ehFrame] ∧
      ¬∃ a a', (ofBytes overlongImage "a.out" [.ehFrame, .symtab] "0.1").result = .ok a ∧
        (ofBytes overlongImage "a.out" [.ehFrame, .symtab, .ehFrame] "0.2").result = .ok a' ∧
        a.functions = a'.functions := by
  obtain ⟨s, r, hopen, -⟩ := open_overlongImage
  refine ⟨⟨s, hopen⟩, ⟨fun k => by cases k <;> decide, by decide⟩, ?_⟩
  rintro ⟨a, -, ha, -⟩
  obtain ⟨s', hopen', hreportable⟩ := exists_ofBytes_iff.1 ⟨a, ha⟩
  exact not_reportable_overlongImage hopen' (hreportable .ehFrame List.mem_cons_self)

end FunctionBounds
