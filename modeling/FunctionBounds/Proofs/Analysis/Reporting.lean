import FunctionBounds.Proofs.Analysis.Survey
import FunctionBounds.Proofs.Cfi.Walk
import FunctionBounds.Proofs.Checked.Analysis
import FunctionBounds.Proofs.Region.Sections

/-!
# Reports of mined kinds

What is mined is reported in notes, and a note with a number that is too long ends an analysis.

- **Kinds** (`Session.Reportable`, `halting?_eq_none_iff`): only a call-frame section can have such
  a note, about one of its records.
- **Analyses** (`Analysis.exists_ofBytes_iff`, `ofBytes_unwritable`): there is one if and only if
  the image can be opened and every kind that is mined can be reported on.

`overlongImage` is a file that can be opened, with a section that cannot be reported on.
-/

namespace FunctionBounds

/-- The convention of a call-frame section. -/
def Evidence.convention? : Evidence → Option Cfi.Convention
  | ehFrame => some .ehFrame
  | debugFrame => some .debugFrame
  | ehFrameHdr | symtab | dynsym => none

namespace Session

variable {s : Session} {k : Evidence}

/-! ## Kinds -/

/-- If a kind is a call-frame section that is there, a scan of it can be reported. -/
def Reportable (s : Session) (k : Evidence) : Prop :=
  ∀ c, k.convention? = some c → ∀ r, s.region? k.regionName = some r →
    ((Cfi.Section.mk r.raw r.virtualAddress).scan c).Reportable s.digitLimit

/-- Nothing ends a survey at a call-frame section iff its scan can be reported. -/
theorem halting?_eq_none_iff_of_mine {c : Cfi.Convention}
    (h : s.mine k = s.mineRegion k.regionName (s.mineFrames c)) :
    s.halting? k = none ↔ ∀ r, s.region? k.regionName = some r →
      ((Cfi.Section.mk r.raw r.virtualAddress).scan c).Reportable s.digitLimit := by
  unfold halting?
  rw [h]
  unfold mineRegion requireRegion
  cases s.region? k.regionName with
  | none => exact iff_of_true rfl fun r hr => absurd hr (Option.some_ne_none r).symm
  | some r =>
    simp only [Option.some.injEq, forall_eq', mineFrames, Noted.mapError]
    by_cases hr : ((Cfi.Section.mk r.raw r.virtualAddress).scan c).Reportable s.digitLimit
    · rw [Cfi.Scan.report_of_reportable hr]
      exact iff_of_true rfl hr
    · obtain ⟨_, _, _, cause, -, -, hreport⟩ := Cfi.Scan.exists_unwritable hr
      rw [hreport]
      exact iff_of_false (Option.some_ne_none _) hr

theorem halting?_ehFrameHdr (s : Session) : s.halting? .ehFrameHdr = none := by
  unfold halting? mine mineRegion requireRegion
  cases s.region? Evidence.ehFrameHdr.regionName with
  | none => rfl
  | some r =>
    simp only [Noted.mapError]
    cases (Cfi.SearchTable.scan r.raw r.virtualAddress).result <;> rfl

theorem halting?_eq_none_iff : s.halting? k = none ↔ s.Reportable k := by
  unfold Reportable
  cases k with
  | ehFrame | debugFrame =>
    rw [halting?_eq_none_iff_of_mine rfl]
    simp only [Evidence.convention?, Option.some.injEq, forall_eq']
  | ehFrameHdr => exact iff_of_true s.halting?_ehFrameHdr nofun
  | symtab | dynsym => exact iff_of_true (s.halting?_of_source nofun) nofun

theorem findSome?_halting_eq_none_iff {ks : List Evidence} :
    ks.findSome? s.halting? = none ↔ ∀ k ∈ ks, s.Reportable k := by
  simp only [List.findSome?_eq_none_iff, halting?_eq_none_iff]

end Session

/-! ## Analyses -/

theorem Analysis.ofSession_of_going {s : Session} {ks : List Evidence}
    (h : (s.survey ks).halted = none) (d : Bytes) :
    ∃ a, (ofSession s d ks).result = .ok a ∧
      a.functions = (s.survey ks).session.finalize.2 ∧ a.sourceCounts = (s.survey ks).counts := by
  simp only [ofSession, h]
  exact ⟨_, rfl, rfl, rfl⟩

/-- There is an analysis if and only if the image can be opened and no kind that is mined is a
call-frame section that cannot be reported on. -/
theorem Analysis.exists_ofBytes_iff {d : Bytes} {path : String} {l : Text.DigitLimit}
    {ks : List Evidence} {elapsed : String} :
    (∃ a, (ofBytes d path ks elapsed l).result = .ok a) ↔
      ∃ s, (Session.ofBytes d path l).result = .ok s ∧ ∀ k ∈ ks, s.Reportable k := by
  cases hopen : (Session.ofBytes d path l).result with
  | error cause =>
    rw [ofBytes_error hopen]
    refine iff_of_false ?_ ?_
    · rintro ⟨a, ha⟩
      cases ha
    · rintro ⟨s, hs, -⟩
      cases hs
  | ok s =>
    obtain ⟨hr, hl⟩ := Session.ofBytes_fresh hopen
    obtain ⟨hhalted, -⟩ := Session.survey_surveyed hr hl ks
    rw [ofBytes_result hopen]
    simp only [Except.ok.injEq, exists_eq_left', ← Session.findSome?_halting_eq_none_iff,
      ← hhalted]
    constructor
    · rintro ⟨a, ha⟩
      cases hcause : (s.survey ks).halted with
      | none => rfl
      | some cause =>
        simp only [ofSession, hcause] at ha
        cases ha
    · intro hgoing
      obtain ⟨a, ha, -⟩ := ofSession_of_going hgoing d
      exact ⟨a, ha⟩

/-- A kind that cannot be reported on ends an analysis. -/
theorem Analysis.ofBytes_unwritable {d : Bytes} {path : String} {l : Text.DigitLimit} {s : Session}
    (hopen : (Session.ofBytes d path l).result = .ok s) {ks : List Evidence}
    (h : ∃ k ∈ ks, ¬s.Reportable k) (elapsed : String) :
    ∃ cause, ks.findSome? s.halting? = some cause ∧
      (ofBytes d path ks elapsed l).result = .error (.unwritable cause) := by
  obtain ⟨k, hk, hnot⟩ := h
  have hhalting : ks.findSome? s.halting? ≠ none := fun hnone =>
    hnot (Session.findSome?_halting_eq_none_iff.1 hnone k hk)
  obtain ⟨cause, hcause⟩ := Option.ne_none_iff_exists'.1 hhalting
  obtain ⟨hr, hl⟩ := Session.ofBytes_fresh hopen
  have hhalted := (Session.survey_surveyed hr hl ks).1
  rw [hcause] at hhalted
  refine ⟨cause, hcause, ?_⟩
  rw [ofBytes_result hopen]
  simp only [ofSession, hhalted]

/-! ## A section without a report -/

/-- What stands before the call-frame section: the header, the entries of two sections, and their
names. -/
def overlongFront : List UInt8 :=
  [0x7f, 0x45, 0x4c, 0x46, 2, 1, 1, 0, 0, 0, 0, 0, 0, 0, 0, 0,
    2, 0, 62, 0, 1, 0, 0, 0, 0x00, 0x10, 0x40, 0, 0, 0, 0, 0,
    0, 0, 0, 0, 0, 0, 0, 0, 64, 0, 0, 0, 0, 0, 0, 0,
    0, 0, 0, 0, 64, 0, 0, 0, 0, 0, 64, 0, 2, 0, 1, 0] ++
  -- `.eh_frame` at 213, with 2068 octets
  [1, 0, 0, 0, 1, 0, 0, 0] ++ List.replicate 16 0 ++ [213, 0, 0, 0, 0, 0, 0, 0] ++
    [0x14, 8, 0, 0, 0, 0, 0, 0] ++ List.replicate 24 0 ++ sectionEntry 11 3 192 21 ++
  [0, 0x2e, 0x65, 0x68, 0x5f, 0x66, 0x72, 0x61, 0x6d, 0x65,
    0, 0x2e, 0x73, 0x68, 0x73, 0x74, 0x72, 0x74, 0x61, 0x62, 0]

/-- A file whose call-frame section cannot be reported on. -/
def overlongImage : Bytes := (overlongFront ++ (Cfi.overlongSection 0).bytes.toList).toArray

/-- The octets of its first section are those of the call-frame section. -/
theorem region_overlongImage :
    let r := SectionTable.region (Elf.Header.fields overlongImage) overlongImage 0
    r.name = ".eh_frame" ∧ r.raw = (Cfi.overlongSection 0).bytes := by
  have hnumbers : SectionTable.type (Elf.Header.fields overlongImage) overlongImage 0 = 1 ∧
      SectionTable.offset (Elf.Header.fields overlongImage) overlongImage 0 = 213 ∧
      SectionTable.size (Elf.Header.fields overlongImage) overlongImage 0 = 2068 := by
    decide +kernel
  have hholds : overlongImage.Holds 213 (Cfi.overlongSection 0).bytes.toList :=
    ⟨overlongFront, [], by rw [List.append_nil, overlongImage], by decide +kernel⟩
  have hslice : (overlongImage.slice 213 2068).toList = (Cfi.overlongSection 0).bytes.toList :=
    hholds.slice (by decide +kernel)
  obtain ⟨htype, hoffset, hsize⟩ := hnumbers
  refine ⟨by decide +kernel, ?_⟩
  rw [SectionTable.region, SectionTable.octets, htype, hoffset, hsize, if_neg (by decide)]
  exact Array.toList_inj.1 hslice

theorem open_overlongImage :
    ∃ s r, (Session.ofBytes overlongImage "a.out").result = .ok s ∧
      s.digitLimit = .standard ∧ s.region? ".eh_frame" = some r ∧
      r.raw = (Cfi.overlongSection 0).bytes := by
  obtain ⟨hname, hraw⟩ := region_overlongImage
  have hdecode : Elf.Header.decode overlongImage = .ok (Elf.Header.fields overlongImage) :=
    Elf.Header.decode_eq_ok_iff.2 (by decide +kernel)
  have hsections : (Elf.Header.fields overlongImage).hasSections := by decide +kernel
  have hcount : (Elf.Header.fields overlongImage).sectionCount.toNat = 2 := by decide +kernel
  have hregions := (SectionTable.ofSections_demands (Elf.Header.fields overlongImage)
    overlongImage (by decide +kernel)).ok (by decide +kernel)
  let regions := [0, 1].map (SectionTable.region (Elf.Header.fields overlongImage) overlongImage)
  refine ⟨⟨"a.out", Elf.Header.fields overlongImage, regions, false, .standard, {}, none⟩, _, ?_,
    rfl, ?_, hraw⟩
  · rw [Session.ofBytes_of_decode hdecode, Layout.extract_result_of_hasSections hsections,
      hregions, hcount]
    rfl
  · exact List.find?_cons_of_pos (by rw [hname]; rfl)

theorem not_reportable_overlongImage {path : String} {s : Session}
    (hopen : (Session.ofBytes overlongImage path).result = .ok s) : ¬s.Reportable .ehFrame := by
  obtain ⟨s', r, hopen', hlimit, hregion, hraw⟩ := open_overlongImage
  obtain rfl : { s' with path } = s :=
    Except.ok.inj ((Session.ofBytes_path hopen' path).symm.trans hopen)
  intro hreportable
  have hreport := Cfi.Scan.report_of_reportable (hreportable .ehFrame rfl r hregion)
  rw [hraw, hlimit] at hreport
  cases (Cfi.report_overlongSection r.virtualAddress).symm.trans hreport

end FunctionBounds
