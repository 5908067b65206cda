import FunctionBounds.Proofs.Session.Refusals
import FunctionBounds.Proofs.Session.Regions

/-!
# Images without a table of sections

A session of such an image has the regions of its segments, none of which is mined for functions,
whatever octets it has.

- **Names** (`Evidence.segment_not_mem_needs`): the name of a segment's region is not that of a
  region that a kind is mined from, whatever its index.
- **Kinds** (`Session.lacks_of_stripped`): so every kind lacks a region, and to scan a kind that
  lacks one changes nothing (`Session.scan_of_lacks`).
- **Surveys** (`Session.survey_of_lacks`): nothing is found, and nothing is warned about.

`Analysis.ofBytes_stripped` says so of scans and of whole analyses.
-/

namespace FunctionBounds

/-! ## Names -/

theorem Evidence.segment_not_mem_needs (i : Nat) (k : Evidence) : s!".segment_{i}" ∉ k.needs := by
  have hsegment : (s!".segment_{i}").toList.take 4 = ['.', 's', 'e', 'g'] := by
    have hlist : (s!".segment_{i}").toList = ".segment_".toList ++ (toString i).toList :=
      String.toList_append
    rw [hlist]
    rfl
  have hneeds : ∀ name ∈ k.needs, name.toList.take 4 ≠ ['.', 's', 'e', 'g'] := by
    cases k <;> decide
  exact fun hmem => hneeds _ hmem hsegment

theorem Registry.functions_nameEntry_empty (e : Nat) :
    (nameEntry {} e).functions = [⟨entryName, e, 0⟩] :=
  rfl

namespace Session

variable {d : Bytes} {path : String} {l : Text.DigitLimit} {s : Session} {k : Evidence}

/-- The address at which the program starts stands in the header. -/
theorem entryPoint_of_ofBytes (hopen : (ofBytes d path l).result = .ok s) :
    s.entryPoint = d.le 24 8 := by
  obtain ⟨header, layout, hdecode, -, rfl⟩ := ofBytes_eq_ok hopen
  obtain ⟨-, -, -, -, rfl⟩ := Elf.Header.decode_eq_ok_iff.1 hdecode
  exact d.toNat_le_eight 24

/-! ## Kinds -/

theorem lacks_of_stripped (hopen : (ofBytes d path l).result = .ok s)
    (hstripped : s.stripped = true) (k : Evidence) : s.Lacks k := by
  obtain ⟨is, hregions⟩ : ∃ is : List Nat,
      s.regions = is.map (SegmentTable.region s.header d) := by
    obtain ⟨is, ⟨hfalse, -⟩ | ⟨-, hregions⟩⟩ := regions_of_ofBytes hopen
    · rw [hstripped] at hfalse
      cases hfalse
    · exact ⟨is, hregions⟩
  have hname : k.regionName ∈ k.needs := by cases k <;> decide
  refine ⟨k.regionName, hname, ?_⟩
  rw [region?, hregions, List.find?_eq_none]
  intro r hr
  obtain ⟨i, -, rfl⟩ := List.mem_map.1 hr
  rw [beq_iff_eq]
  intro hsame
  rw [← hsame] at hname
  exact Evidence.segment_not_mem_needs i k hname

/-- To scan a kind that lacks a region changes nothing. -/
theorem scan_of_lacks (h : s.Lacks k) : (s.scan k).1 = s ∧ (s.scan k).2.result = .ok 0 := by
  obtain ⟨m, hm⟩ := mine_missing_iff.2 h
  exact ⟨scan_fst_of_mine_error hm, scan_result_of_mine_missing hm⟩

/-- A kind that lacks a region is counted with zero and not warned about. -/
theorem counted?_of_lacks (h : s.Lacks k) :
    s.counted? k = some 0 ∧ s.warning? k = none ∧ s.halting? k = none := by
  obtain ⟨m, hm⟩ := mine_missing_iff.2 h
  rw [counted?, warning?, halting?, hm]
  exact ⟨rfl, rfl, rfl⟩

/-! ## Surveys -/

variable {ks : List Evidence}

theorem performAll_of_lacks (h : ∀ k, s.Lacks k) (ks : List Evidence) :
    s.performAll (ks.map .scan) = s := by
  induction ks with
  | nil => rfl
  | cons k ks ih =>
    rw [List.map_cons, performAll, List.foldl_cons, perform, (scan_of_lacks (h k)).1]
    exact ih

theorem survey_session_of_lacks (h : ∀ k ∈ ks, s.Lacks k) : (s.survey ks).session = s := by
  suffices hfold : ∀ v : Survey, v.session = s → (ks.foldl surveyOne v).session = s from hfold _ rfl
  induction ks with
  | nil => exact fun v hv => hv
  | cons k ks ih =>
    intro v hv
    refine ih (fun k' hk' => h k' (List.mem_cons_of_mem k hk')) _ ?_
    unfold surveyOne
    split
    · exact hv
    · rw [(mineOne_effect v k).1, hv]
      exact (scan_of_lacks (h k List.mem_cons_self)).1

/-- Nothing is found in a survey of kinds that lack regions, and nothing is warned about. -/
theorem survey_of_lacks (hr : s.registry = {}) (hl : s.listed = none) (h : ∀ k ∈ ks, s.Lacks k) :
    (s.survey ks).session = s ∧ (s.survey ks).warnings = [] ∧ (s.survey ks).halted = none ∧
      ∀ name n, (s.survey ks).counts.lookup name = some n ↔
        n = 0 ∧ ∃ k ∈ ks, k.regionName = name := by
  have hgoing : ∀ k ∈ ks, s.halting? k = none := fun k hk => (counted?_of_lacks (h k hk)).2.2
  have hnone : ks.findSome? s.halting? = none := List.findSome?_eq_none_iff.2 hgoing
  obtain ⟨hhalted, hsurveyed⟩ := survey_surveyed hr hl ks
  refine ⟨survey_session_of_lacks h, ?_, hhalted.trans hnone, fun name n => ?_⟩
  · have hwarnings : (s.survey ks).warnings = [] ++ ks.filterMap s.warning? :=
      (surveyed_open hr hl).foldl_warnings rfl hgoing
    rw [hwarnings, List.nil_append, List.filterMap_eq_nil_iff]
    exact fun k hk => (counted?_of_lacks (h k hk)).2.1
  · rw [(hsurveyed hnone).counts]
    constructor
    · rintro ⟨k, hk, hname, hn⟩
      rw [(counted?_of_lacks (h k hk)).1] at hn
      cases hn
      exact ⟨rfl, k, hk, hname⟩
    · rintro ⟨rfl, k, hk, hname⟩
      exact ⟨k, hk, hname, (counted?_of_lacks (h k hk)).1⟩

end Session

/-- In an image without a table of sections no function is found but the one at the entry point.
Every scan succeeds and gives none, after whatever other scans, and leaves the session alone. Every
analysis succeeds without a warning, counts exactly the kinds that were asked for, each with zero,
and lists one function of no octets, called `entry`, at the address that stands in the header. -/
theorem Analysis.ofBytes_stripped {d : Bytes} {path : String} {l : Text.DigitLimit} {s : Session}
    (hopen : (Session.ofBytes d path l).result = .ok s) (hstripped : s.stripped = true) :
    (∀ (ks : List Evidence) (k : Evidence), s.performAll (ks.map .scan) = s ∧
      ((s.performAll (ks.map .scan)).scan k).2.result = .ok 0) ∧
    ∀ (ks : List Evidence) (elapsed : String),
      ∃ a, (ofBytes d path ks elapsed l).result = .ok a ∧ a.warnings = [] ∧
        (a.sourceCounts.map (·.1)).Nodup ∧
        (∀ name n, a.sourceCounts.lookup name = some n ↔ n = 0 ∧ ∃ k ∈ ks, k.regionName = name) ∧
        ∃ f : Candidate, a.functions = [f] ∧ f.name = "entry" ∧ f.start = d.le 24 8 ∧
          f.stop = d.le 24 8 ∧ f.size = 0 := by
  have hlacks := Session.lacks_of_stripped hopen hstripped
  constructor
  · intro ks k
    rw [Session.performAll_of_lacks hlacks]
    exact ⟨rfl, (Session.scan_of_lacks (hlacks k)).2⟩
  · intro ks elapsed
    obtain ⟨hr, hl⟩ := Session.ofBytes_fresh hopen
    obtain ⟨hsession, hwarnings, hhalted, hcounts⟩ :=
      Session.survey_of_lacks hr hl fun k (_ : k ∈ ks) => hlacks k
    have hfunctions : s.finalize.2 = [⟨"entry", d.le 24 8, 0⟩] := by
      rw [Session.finalize, hl, hr, Session.entryPoint_of_ofBytes hopen]
      exact Registry.functions_nameEntry_empty _
    rw [ofBytes_result hopen]
    simp only [ofSession, hhalted]
    refine ⟨_, rfl, hwarnings, Session.nodup_survey s ks, hcounts, ⟨"entry", d.le 24 8, 0⟩, ?_,
      rfl, rfl, rfl, rfl⟩
    rw [hsession, hfunctions]

/-- An image without a table of sections. Its one segment holds a call-frame section with one
function. -/
def lookalikeImage : Bytes :=
  List.toArray (
    [0x7f, 0x45, 0x4c, 0x46, 2, 1, 1, 0, 0, 0, 0, 0, 0, 0, 0, 0,
      2, 0, 62, 0, 1, 0, 0, 0, 0x00, 0x20, 0x40, 0, 0, 0, 0, 0,
      64, 0, 0, 0, 0, 0, 0, 0, 0, 0, 0, 0, 0, 0, 0, 0,
      0, 0, 0, 0, 64, 0, 56, 0, 1, 0, 0, 0, 0, 0, 0, 0] ++
    [1, 0, 0, 0, 4, 0, 0, 0, 120, 0, 0, 0, 0, 0, 0, 0] ++ List.replicate 16 0 ++
      [37, 0, 0, 0, 0, 0, 0, 0, 37, 0, 0, 0, 0, 0, 0, 0] ++ List.replicate 8 0 ++
    [9, 0, 0, 0, 0, 0, 0, 0, 1, 0, 1, 0x78, 16,
      20, 0, 0, 0, 17, 0, 0, 0, 0x00, 0x10, 0x40, 0, 0, 0, 0, 0, 32, 0, 0, 0, 0, 0, 0, 0])

/-- A scan of the segment as what it looks like would give a function, and no scan gives it. -/
theorem Analysis.ofBytes_stripped_lookalikeImage :
    ∃ s, (Session.ofBytes lookalikeImage "a.out").result = .ok s ∧ s.stripped = true ∧
      s.regions.map (fun r => ((Cfi.Section.mk r.raw r.virtualAddress).scan .ehFrame).candidates) =
        [[⟨"FUNC_0x401000", 0x401000, 32⟩]] ∧
      ((s.performAll [.scan .dynsym]).scan .ehFrame).2.result = .ok 0 ∧
      ∃ a, (ofBytes lookalikeImage "a.out" [.symtab, .ehFrame, .symtab] "0.1").result = .ok a ∧
        a.functions.map (fun f => (f.name, f.start, f.stop, f.size)) =
          [("entry", 0x402000, 0x402000, 0)] ∧ a.warnings = [] ∧
        a.sourceCounts.lookup ".eh_frame" = some 0 := by
  have hcheck : (Session.ofBytes lookalikeImage "a.out").result.toOption.any (fun s =>
      s.stripped = true ∧
      s.regions.map (fun r => ((Cfi.Section.mk r.raw r.virtualAddress).scan .ehFrame).candidates) =
        [[⟨"FUNC_0x401000", 0x401000, 32⟩]]) = true := by
    decide +kernel
  have hentry : lookalikeImage.le 24 8 = 0x402000 := by decide +kernel
  cases hopen : (Session.ofBytes lookalikeImage "a.out").result with
  | error cause => rw [hopen] at hcheck; cases hcheck
  | ok s =>
    rw [hopen] at hcheck
    obtain ⟨hstripped, hlooks⟩ := of_decide_eq_true hcheck
    obtain ⟨hscans, hanalyses⟩ := ofBytes_stripped hopen hstripped
    obtain ⟨a, ha, hwarnings, -, hcounts, f, hf, hname, hstart, hstop, hsize⟩ :=
      hanalyses [.symtab, .ehFrame, .symtab] "0.1"
    refine ⟨s, rfl, hstripped, hlooks, (hscans [.dynsym] .ehFrame).2, a, ha, ?_, hwarnings,
      (hcounts _ 0).2 ⟨rfl, .ehFrame, by decide, rfl⟩⟩
    rw [hf, List.map_singleton, hname, hstart, hstop, hsize, hentry]

end FunctionBounds
