import FunctionBounds.Proofs.Analysis.Order

/-!
# The accounts of an analysis

Every kind of region that an analysis mines is either counted or warned about, and a kind that fails
leaves no trace in the functions.

- **Kinds** (`Evidence.needs`, `Session.Lacks`, `Session.warning?`): a kind whose regions are not
  all there is counted with zero (`mine_missing_iff`), and one that fails is warned about and not
  counted (`isSome_counted?`).
- **Whole surveys** (`Surveyed.foldl_warnings`, `nodup_survey`, `arrivals_filter`): warnings stand
  in the order of the kinds, no kind is counted twice, and kinds that give nothing can be left out.

`ofBytes_accounts` puts these together, for kinds that can all be reported on.
-/

namespace FunctionBounds

namespace Evidence

/-- The names of the regions that a kind is mined from. -/
def needs (k : Evidence) : List String :=
  match k with
  | symtab => [k.regionName, ".strtab"]
  | dynsym => [k.regionName, ".dynstr"]
  | ehFrame | ehFrameHdr | debugFrame => [k.regionName]

end Evidence

theorem SourceCounts.nodup_set {counts : SourceCounts} (h : (counts.map (·.1)).Nodup)
    (name : String) (n : Int) : ((counts.set name n).map (·.1)).Nodup := by
  unfold set
  split
  · have hkeys : (counts.map fun p => if p.1 == name then (name, n) else (p.1, p.2)).map (·.1) =
        counts.map (·.1) := by
      rw [List.map_map]
      refine List.map_congr_left fun p _ => ?_
      by_cases hp : p.1 = name <;> simp [hp]
    rw [hkeys]
    exact h
  · next huncounted =>
    rw [Option.not_isSome_iff_eq_none, List.lookup_eq_none_iff] at huncounted
    rw [List.map_append, List.nodup_append]
    refine ⟨h, List.nodup_singleton _, fun a ha b hb hab => ?_⟩
    obtain ⟨p, hp, rfl⟩ := List.mem_map.1 ha
    have hname := huncounted p hp
    simp_all

namespace Session

variable {s : Session} {k : Evidence}

/-! ## Kinds -/

/-- A region that a kind is mined from is missing. -/
def Lacks (s : Session) (k : Evidence) : Prop := ∃ name ∈ k.needs, s.region? name = none

/-- The warning about a kind that is there but cannot be mined. -/
def warning? (s : Session) (k : Evidence) : Option String :=
  match (s.mine k).result with
  | .error (.failed cause) => some s!"{k.regionName}: {cause.message}"
  | _ => none

/-- A region that fails is not a missing one. -/
theorem mapError_failed_ne_missing {α : Type} (x : Noted ScanError α) (m : MissingRegion) :
    (x.mapError MiningError.failed).result ≠ .error (.missing m) := by
  unfold Noted.mapError
  cases x.result <;> nofun

theorem mineRegion_missing_iff {name : String} {f : Region → Noted ScanError (List Candidate)} :
    (∃ m, (s.mineRegion name f).result = .error (.missing m)) ↔ s.region? name = none := by
  unfold mineRegion requireRegion
  cases s.region? name with
  | none => exact iff_of_true ⟨_, rfl⟩ rfl
  | some r => exact iff_of_false (fun ⟨m, hm⟩ => mapError_failed_ne_missing _ m hm) nofun

theorem mineSymbols_missing_iff {table names : String} :
    (∃ m, (s.mineSymbols table names).result = .error (.missing m)) ↔
      s.region? table = none ∨ s.region? names = none := by
  unfold mineSymbols requireRegion
  cases s.region? table with
  | none => exact iff_of_true ⟨_, rfl⟩ (.inl rfl)
  | some t =>
    cases s.region? names with
    | none => exact iff_of_true ⟨_, rfl⟩ (.inr rfl)
    | some n =>
      exact iff_of_false (fun ⟨m, hm⟩ => mapError_failed_ne_missing _ m hm) (by simp)

theorem mine_missing_iff : (∃ m, (s.mine k).result = .error (.missing m)) ↔ s.Lacks k := by
  cases k with
  | ehFrame | ehFrameHdr | debugFrame =>
    simp only [mine, mineRegion_missing_iff, Lacks, Evidence.needs, List.mem_singleton,
      exists_eq_left]
  | symtab | dynsym =>
    simp only [mine, mineSymbols_missing_iff, Lacks, Evidence.needs, List.mem_cons,
      List.not_mem_nil, or_false, exists_eq_or_imp, exists_eq_left, Evidence.regionName]

/-- A kind that is not counted is warned about, and no other. -/
theorem isSome_counted? (s : Session) (k : Evidence) :
    (s.counted? k).isSome = (s.warning? k).isNone := by
  unfold counted? warning?
  split
  · next h => rw [h]; rfl
  · next h => rw [h]; rfl
  · next h => rw [h]; rfl

/-! ## Warnings -/

variable {s₀ : Session} {ks before : List Evidence} {v : Survey}

theorem mineOne_warnings (h : v.session.halting? k = none) :
    (mineOne v k).warnings = v.warnings ++ (v.session.warning? k).toList := by
  cases hmine : (v.session.mine k).result with
  | ok cs => simp [mineOne, scan, warning?, hmine]
  | error cause =>
    rcases cause with region | cause
    · simp [mineOne, scan, warning?, hmine]
    · cases cause with
      | symbolTable cause | searchTable cause => simp [mineOne, scan, warning?, hmine]
      | unwritable cause => simp [halting?, hmine] at h

theorem warning?_eq (h : Reached s₀ cs s) (k : Evidence) : s.warning? k = s₀.warning? k := by
  rw [warning?, mine_eq h.image, warning?]

/-- Each kind adds its warning, by induction on the kinds that are left. -/
theorem Surveyed.foldl_warnings (h : Surveyed s₀ before v) (hgoing : v.halted = none)
    (hks : ∀ k ∈ ks, s₀.halting? k = none) :
    (ks.foldl surveyOne v).warnings = v.warnings ++ ks.filterMap s₀.warning? := by
  induction ks generalizing before v with
  | nil => simp
  | cons k ks ih =>
    have hk : v.session.halting? k = none := by
      rw [halting?_eq h.reached, hks k List.mem_cons_self]
    have hhalted := (mineOne_effect v k).2.2
    rw [hk, hgoing] at hhalted
    rw [List.foldl_cons, surveyOne_of_going hgoing, ih (h.mineOne k) hhalted fun k' hk' =>
      hks k' (List.mem_cons_of_mem k hk'), mineOne_warnings hk, warning?_eq h.reached,
      List.append_assoc]
    cases hwarning : s₀.warning? k <;> simp [hwarning]

/-! ## Counts -/

theorem nodup_survey (s : Session) (ks : List Evidence) :
    ((s.survey ks).counts.map (·.1)).Nodup := by
  suffices hfold : ∀ v : Survey, (v.counts.map (·.1)).Nodup →
      ((ks.foldl surveyOne v).counts.map (·.1)).Nodup from hfold _ List.nodup_nil
  induction ks with
  | nil => exact fun v hv => hv
  | cons k ks ih =>
    intro v hv
    refine ih _ ?_
    unfold surveyOne
    split
    · exact hv
    · rw [(mineOne_effect v k).2.1]
      cases v.session.counted? k with
      | none => exact hv
      | some n => exact SourceCounts.nodup_set hv k.regionName n

/-! ## Functions -/

theorem found_of_not_isOk (h : (s.mine k).result.isOk = false) : s.found k = [] := by
  unfold found
  cases hmine : (s.mine k).result with
  | ok cs => rw [hmine] at h; cases h
  | error cause => rfl

/-- Kinds that cannot be mined give nothing. -/
theorem arrivals_filter (s : Session) (ks : List Evidence) :
    s.arrivals (ks.filter fun k => (s.mine k).result.isOk) = s.arrivals ks :=
  flatMap_filter fun k _ hk => by rw [found_of_not_isOk hk, List.map_nil]

theorem Surveyed.functions_eq_of_arrivals {ks' : List Evidence} {v' : Survey}
    (h : Surveyed s₀ ks v) (h' : Surveyed s₀ ks' v')
    (harrivals : s₀.arrivals ks = s₀.arrivals ks') :
    v.session.finalize.2 = v'.session.finalize.2 :=
  h.functions_eq_of_get? h' (h.follows.get?_congr h'.follows fun a source => by rw [harrivals])

end Session

/-- In an analysis of an image that can be opened, a kind of region is counted with the number of
its functions, or with zero if a region is missing, or it fails and is warned about each time it
occurs, in order. The functions are those of an analysis of the kinds that can be mined. There is an
analysis unless one of the kinds is a call-frame section that cannot be reported on. -/
theorem Analysis.ofBytes_accounts {d : Bytes} {path : String} {l : Text.DigitLimit}
    {s : Session} (hopen : (Session.ofBytes d path l).result = .ok s) (ks : List Evidence)
    (elapsed : String) :
    ((∀ k ∈ ks, s.Reportable k) →
      ∃ a, (ofBytes d path ks elapsed l).result = .ok a ∧
        (∀ k ∈ ks,
          (s.Lacks k → a.sourceCounts.lookup k.regionName = some 0) ∧
          (∀ cs, (s.mine k).result = .ok cs →
            a.sourceCounts.lookup k.regionName = some (cs.length : Int)) ∧
          (∀ cause, (s.mine k).result = .error (.failed cause) →
            a.sourceCounts.lookup k.regionName = none)) ∧
        (∀ name n, a.sourceCounts.lookup name = some n → ∃ k ∈ ks, k.regionName = name) ∧
        (a.sourceCounts.map (·.1)).Nodup ∧
        a.warnings = ks.filterMap s.warning? ∧
        (∀ k ∈ ks, (a.sourceCounts.lookup k.regionName).isSome = (s.warning? k).isNone) ∧
        ∃ b, (ofBytes d path (ks.filter fun k => (s.mine k).result.isOk) elapsed l).result = .ok b ∧
          b.functions = a.functions) ∧
    ((∃ k ∈ ks, ¬ s.Reportable k) →
      ∃ cause, (ofBytes d path ks elapsed l).result = .error (.unwritable cause)) := by
  constructor
  · intro hreportable
    obtain ⟨hr, hl⟩ := Session.ofBytes_fresh hopen
    obtain ⟨hhalted, hsurveyed⟩ := Session.survey_surveyed hr hl ks
    rw [ofBytes_result hopen, ofBytes_result hopen]
    have hgoing := Session.findSome?_halting_eq_none_iff.2 hreportable
    have h := hsurveyed hgoing
    rw [hgoing] at hhalted
    have hlookup : ∀ k ∈ ks, (s.survey ks).counts.lookup k.regionName = s.counted? k := by
      intro k hk
      refine Option.ext fun n => (h.counts _ n).trans ⟨?_, fun hn => ⟨k, hk, rfl, hn⟩⟩
      rintro ⟨k', -, hname, hn⟩
      rwa [← Evidence.regionName_inj hname]
    have hwarnings : (s.survey ks).warnings = ks.filterMap s.warning? :=
      (Session.surveyed_open hr hl).foldl_warnings rfl fun k hk =>
        Session.halting?_eq_none_iff.2 (hreportable k hk)
    obtain ⟨hhalted', hsurveyed'⟩ := Session.survey_surveyed hr hl
      (ks.filter fun k => (s.mine k).result.isOk)
    have hgoing' : (ks.filter fun k => (s.mine k).result.isOk).findSome? s.halting? = none :=
      Session.findSome?_halting_eq_none_iff.2 fun k hk => hreportable k (List.mem_filter.1 hk).1
    rw [hgoing'] at hhalted'
    obtain ⟨b, hb, hfunctions, -⟩ := ofSession_of_going hhalted' d
    simp only [ofSession, hhalted]
    refine ⟨_, rfl, fun k hk => ⟨fun hlacks => ?_, fun cs hcs => ?_, fun cause hcause => ?_⟩,
      fun name n hn => ?_, Session.nodup_survey s ks, hwarnings, fun k hk => ?_, b, hb, ?_⟩
    · obtain ⟨m, hm⟩ := Session.mine_missing_iff.2 hlacks
      rw [hlookup k hk, Session.counted?, hm]
    · rw [hlookup k hk, Session.counted?, hcs]
    · rw [hlookup k hk, Session.counted?, hcause]
    · obtain ⟨k, hk, hname, -⟩ := (h.counts name n).1 hn
      exact ⟨k, hk, hname⟩
    · rw [hlookup k hk, Session.isSome_counted?]
    · rw [hfunctions]
      exact (hsurveyed' hgoing').functions_eq_of_arrivals h (s.arrivals_filter ks)
  · intro hnot
    obtain ⟨cause, -, herror⟩ := ofBytes_unwritable hopen hnot elapsed
    exact ⟨cause, herror⟩

/-- An image with two sections that are asked for, a call-frame section with one function and a
symbol table of 25 octets, which are no entries. -/
def unevenImage : Bytes :=
  List.toArray (
    [0x7f, 0x45, 0x4c, 0x46, 2, 1, 1, 0, 0, 0, 0, 0, 0, 0, 0, 0,
      2, 0, 62, 0, 1, 0, 0, 0, 0x00, 0x10, 0x40, 0, 0, 0, 0, 0,
      0, 0, 0, 0, 0, 0, 0, 0, 153, 0, 0, 0, 0, 0, 0, 0,
      0, 0, 0, 0, 64, 0, 0, 0, 0, 0, 64, 0, 3, 0, 1, 0] ++
    -- `.eh_frame` at 64
    [9, 0, 0, 0, 0, 0, 0, 0, 1, 0, 1, 0x78, 16,
      20, 0, 0, 0, 17, 0, 0, 0, 0x00, 0x10, 0x40, 0, 0, 0, 0, 0, 32, 0, 0, 0, 0, 0, 0, 0] ++
    -- `.symtab` at 101
    List.replicate 25 0 ++
    -- `.strtab` at 126, with the names of sections
    [0, 0x2e, 0x65, 0x68, 0x5f, 0x66, 0x72, 0x61, 0x6d, 0x65,
      0, 0x2e, 0x73, 0x79, 0x6d, 0x74, 0x61, 0x62, 0, 0x2e, 0x73, 0x74, 0x72, 0x74, 0x61, 0x62,
      0] ++
    sectionEntry 1 1 64 37 ++ sectionEntry 19 3 126 27 ++ sectionEntry 11 2 101 25)

theorem mine_unevenImage :
    ∃ s, (Session.ofBytes unevenImage "a.out").result = .ok s ∧
      [Evidence.symtab, .ehFrame, .dynsym].findSome? s.halting? = none ∧
      s.region? ".dynsym" = none ∧
      (s.mine .ehFrame).result.toOption = some [⟨"FUNC_0x401000", 0x401000, 32⟩] ∧
      [Evidence.symtab, .ehFrame, .dynsym].map s.warning? =
        [some ".symtab: Invalid symbol table size 25 (not a multiple of 24)", none, none] := by
  have hmined : (Session.ofBytes unevenImage "a.out").result.toOption.any (fun s =>
      [Evidence.symtab, .ehFrame, .dynsym].findSome? s.halting? = none ∧
      s.region? ".dynsym" = none ∧
      (s.mine .ehFrame).result.toOption = some [⟨"FUNC_0x401000", 0x401000, 32⟩] ∧
      [Evidence.symtab, .ehFrame, .dynsym].map s.warning? =
        [some ".symtab: Invalid symbol table size 25 (not a multiple of 24)", none, none]) =
      true := by
    decide +kernel
  cases hopen : (Session.ofBytes unevenImage "a.out").result with
  | error cause => rw [hopen] at hmined; cases hmined
  | ok s => rw [hopen] at hmined; exact ⟨s, rfl, of_decide_eq_true hmined⟩

/-- One kind that is counted, one that fails twice, and one that is missing. -/
theorem Analysis.ofBytes_accounts_unevenImage :
    ∃ s, (Session.ofBytes unevenImage "a.out").result = .ok s ∧
      (∀ k ∈ [Evidence.symtab, .ehFrame, .dynsym, .symtab], s.Reportable k) ∧
      ∃ a, (ofBytes unevenImage "a.out" [.symtab, .ehFrame, .dynsym, .symtab] "0.1").result =
          .ok a ∧
        a.sourceCounts.lookup ".symtab" = none ∧ a.sourceCounts.lookup ".eh_frame" = some 1 ∧
        a.sourceCounts.lookup ".dynsym" = some 0 ∧
        a.warnings = [".symtab: Invalid symbol table size 25 (not a multiple of 24)",
          ".symtab: Invalid symbol table size 25 (not a multiple of 24)"] := by
  obtain ⟨s, hopen, hgoing, hmissing, hframes, hwarned⟩ := mine_unevenImage
  simp only [List.map_cons, List.map_nil, List.cons.injEq, and_true] at hwarned
  obtain ⟨hsymbols, hquiet, hquiet'⟩ := hwarned
  have hreportable : ∀ k ∈ [Evidence.symtab, .ehFrame, .dynsym, .symtab], s.Reportable k := by
    intro k hk
    refine Session.findSome?_halting_eq_none_iff.1 hgoing k ?_
    revert k
    decide
  have hlacks : s.Lacks .dynsym := ⟨".dynsym", List.mem_cons_self, hmissing⟩
  obtain ⟨a, ha, hkinds, -, -, hwarnings, hplaces, -⟩ :=
    (ofBytes_accounts hopen [.symtab, .ehFrame, .dynsym, .symtab] "0.1").1 hreportable
  refine ⟨s, hopen, hreportable, a, ha, ?_, ?_, (hkinds .dynsym (by decide)).1 hlacks, ?_⟩
  · have hplace := hplaces .symtab (by decide)
    rw [hsymbols] at hplace
    exact Option.isNone_iff_eq_none.1 (Option.isSome_eq_false_iff.1 hplace)
  · cases hmine : (s.mine .ehFrame).result with
    | error cause => rw [hmine] at hframes; cases hframes
    | ok cs =>
      rw [hmine] at hframes
      cases hframes
      exact (hkinds .ehFrame (by decide)).2.1 _ hmine
  · rw [hwarnings]
    simp only [List.filterMap_cons, List.filterMap_nil, hsymbols, hquiet, hquiet']

/-- The file can be opened but not analysed. -/
theorem Analysis.ofBytes_overlongImage :
    (∃ s, (Session.ofBytes overlongImage "a.out").result = .ok s) ∧
      (ofBytes overlongImage "a.out" [.ehFrame] "0.1").result =
        .error (.unwritable { limit := 4300 }) := by
  obtain ⟨s, r, hopen, hlimit, hregion, hraw⟩ := open_overlongImage
  obtain ⟨hr, hl⟩ := Session.ofBytes_fresh hopen
  have hreport : ((Cfi.Section.mk r.raw r.virtualAddress).scan .ehFrame).report s.digitLimit =
      ⟨.error { limit := 4300 }, []⟩ := by
    rw [hraw, hlimit]
    exact Cfi.report_overlongSection r.virtualAddress
  have hmine : (s.mine .ehFrame).result = .error (.failed (.unwritable { limit := 4300 })) := by
    simp only [Session.mine, Session.mineRegion, Session.requireRegion, Evidence.regionName,
      hregion, Session.mineFrames, hreport]
    rfl
  have hhalted := (Session.survey_surveyed hr hl [.ehFrame]).1
  rw [List.findSome?_singleton, Session.halting?, hmine] at hhalted
  refine ⟨⟨s, hopen⟩, ?_⟩
  rw [ofBytes_result hopen]
  simp only [ofSession, hhalted]

end FunctionBounds
