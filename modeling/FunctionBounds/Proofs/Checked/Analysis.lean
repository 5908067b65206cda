import FunctionBounds.Analysis.Run
import FunctionBounds.Proofs.Checked.Scanners
import FunctionBounds.Proofs.Session.Runs

/-!
# Checked analyses

A whole analysis once more, with the checked scanners. A missing region is handled where a region is
mined, and the errors of scanners where the regions are mined in order; nothing else is.

- **Mining** (`Session.mine_mirrored`): a region gives the same functions, or what gets out is the
  same error.
- **Surveys** (`Session.checkedSurvey_eq`): by induction over the kinds of regions, nothing gets out
  of mining them in order.
- **Analyses** (`Session.checkedAnalysis_eq`): nor out of the analysis.

`Analysis.nothing_escapes` says so for every scanner and for every image that can be opened.
-/

namespace FunctionBounds

/-- The warning about a scanner that failed; only the errors of scanners become one. -/
def Escape.warning? : Escape → Option String
  | decoding cause => some cause.message
  | searchTable cause => some cause.message
  | symbolTable cause => some cause.message
  | outside .. | invalid _ | missing _ | endless => none

/-- A survey without its notes. -/
def Survey.quiet (v : Survey) : Survey := { v with notes := [] }

namespace Session

/-- The first region of a name. -/
def checkedRegion (s : Session) (name : String) : Except Escape Region :=
  (s.requireRegion name).mapError .missing

/-- The functions of a call-frame section, in as many rounds as it can have records. -/
def checkedFrames (c : Cfi.Convention) (r : Region) : Except Escape (List Candidate) :=
  ((Cfi.Section.mk r.raw r.virtualAddress).checkedScan c (r.raw.size / 8 + 1)).map (·.candidates)

/-- The functions of one kind of region. -/
def checkedMine (s : Session) (k : Evidence) : Except Escape (List Candidate) := do
  match k with
  | .ehFrame => checkedFrames .ehFrame (← s.checkedRegion k.regionName)
  | .debugFrame => checkedFrames .debugFrame (← s.checkedRegion k.regionName)
  | .ehFrameHdr =>
    let r ← s.checkedRegion k.regionName
    Cfi.SearchTable.checkedScan r.raw r.virtualAddress
  | .symtab =>
    let table ← s.checkedRegion ".symtab"
    let names ← s.checkedRegion ".strtab"
    SymbolTable.checkedScan table.raw names.raw
  | .dynsym =>
    let table ← s.checkedRegion ".dynsym"
    let names ← s.checkedRegion ".dynstr"
    SymbolTable.checkedScan table.raw names.raw

/-- Mines a kind of region and merges what it gives. A missing region is handled. -/
def checkedScan (s : Session) (k : Evidence) : Except Escape (Session × Nat) :=
  match s.checkedMine k with
  | .ok cs => .ok ((s.merge cs k.source).1, cs.length)
  | .error (.missing _) => .ok (s, 0)
  | .error escape => .error escape

/-- Mines one more kind of region. The errors of scanners are handled. -/
def checkedMineOne (v : Survey) (k : Evidence) : Except Escape Survey :=
  match v.session.checkedScan k with
  | .ok (session, n) => .ok { v with session, counts := v.counts.set k.regionName n }
  | .error escape =>
    match escape.warning? with
    | some text => .ok { v with warnings := v.warnings ++ [s!"{k.regionName}: {text}"] }
    | none => .error escape

/-- Mines several kinds of regions in order. -/
def checkedSurvey (s : Session) (kinds : List Evidence) : Except Escape Survey :=
  kinds.foldlM checkedMineOne { session := s }

/-- Names the function at the entry point and lists all functions. -/
def checkedFinalize (s : Session) : Except Escape (List Candidate) :=
  match s.listed with
  | some functions => .ok functions
  | none => do
    let entry ← match s.registry.get? s.entryPoint with
      | some c => .ok (c.renamed Registry.entryName)
      | none => validated Registry.entryName s.entryPoint 0
    return ((s.registry.renameCompetitors s.entryPoint).put entry .manual).functions

/-- The analysis of an image, from the session that was opened for it. -/
def checkedAnalysis (s : Session) (d : Bytes) (kinds : List Evidence) :
    Except Escape Analysis := do
  let v ← s.checkedSurvey kinds
  let functions ← v.session.checkedFinalize
  return {
    info := s.info d
    regions := s.regions.map (·.toRegionInfo)
    functions
    sourceCounts := v.counts
    warnings := v.warnings }

/-! ## Mining -/

/-- The same functions, or the same error. No note is too long to be written. -/
inductive Mirrored : Except MiningError (List Candidate) → Except Escape (List Candidate) → Prop
  | found (cs : List Candidate) : Mirrored (.ok cs) (.ok cs)
  | missing (region : MissingRegion) :
    Mirrored (.error (.missing region)) (.error (.missing region))
  | searchTable (cause : Cfi.SearchTable.Error) :
    Mirrored (.error (.failed (.searchTable cause))) (.error (.searchTable cause))
  | symbolTable (cause : SymbolTable.SizeError) :
    Mirrored (.error (.failed (.symbolTable cause))) (.error (.symbolTable cause))

variable {s : Session}

theorem mineFrames_mirrored (hlimit : s.digitLimit = none) (c : Cfi.Convention) (r : Region) :
    Mirrored ((s.mineFrames c r).result.mapError .failed) (checkedFrames c r) := by
  have hrounds : r.raw.size < 8 * (r.raw.size / 8 + 1) := by omega
  have hfound : (s.mineFrames c r).result =
      .ok ((Cfi.Section.mk r.raw r.virtualAddress).scan c).candidates := by
    simp only [mineFrames, hlimit, Cfi.Scan.report_none]
    rfl
  rw [hfound, checkedFrames, Cfi.Section.checkedScan_eq _ _ hrounds]
  exact .found _

theorem mineSearchTable_mirrored (r : Region) :
    Mirrored (((Cfi.SearchTable.scan r.raw r.virtualAddress).mapError .searchTable).result.mapError
      .failed) (Cfi.SearchTable.checkedScan r.raw r.virtualAddress) := by
  rw [Cfi.SearchTable.checkedScan_eq]
  simp only [Noted.mapError]
  cases (Cfi.SearchTable.scan r.raw r.virtualAddress).result with
  | ok cs => exact .found cs
  | error cause => exact .searchTable cause

theorem mineRegion_mirrored {mine : Region → Noted ScanError (List Candidate)}
    {checked : Region → Except Escape (List Candidate)}
    (h : ∀ r, Mirrored ((mine r).result.mapError .failed) (checked r)) (name : String) :
    Mirrored (s.mineRegion name mine).result ((s.checkedRegion name).bind checked) := by
  unfold mineRegion checkedRegion
  cases s.requireRegion name with
  | ok r => exact h r
  | error missing => exact .missing missing

theorem mineSymbols_mirrored (table names : String) :
    Mirrored (s.mineSymbols table names).result
      ((s.checkedRegion table).bind fun t =>
        (s.checkedRegion names).bind fun n => SymbolTable.checkedScan t.raw n.raw) := by
  unfold mineSymbols checkedRegion
  cases s.requireRegion table with
  | error missing => exact .missing missing
  | ok t =>
    cases s.requireRegion names with
    | error missing => exact .missing missing
    | ok n =>
      simp only [mapError_ok, Except.bind, SymbolTable.checkedScan_eq, Noted.mapError]
      cases (SymbolTable.scan t.raw n.raw).result with
      | ok cs => exact .found cs
      | error cause => exact .symbolTable cause

theorem mine_mirrored (hlimit : s.digitLimit = none) (k : Evidence) :
    Mirrored (s.mine k).result (s.checkedMine k) := by
  cases k with
  | ehFrame => exact mineRegion_mirrored (mineFrames_mirrored hlimit .ehFrame) _
  | debugFrame => exact mineRegion_mirrored (mineFrames_mirrored hlimit .debugFrame) _
  | ehFrameHdr => exact mineRegion_mirrored mineSearchTable_mirrored _
  | symtab => exact mineSymbols_mirrored _ _
  | dynsym => exact mineSymbols_mirrored _ _

/-! ## Surveys -/

theorem checkedMineOne_eq {v : Survey} (hlimit : v.session.digitLimit = none) (k : Evidence) :
    checkedMineOne v.quiet k = .ok (mineOne v k).quiet ∧
      (mineOne v k).halted = v.halted ∧ (mineOne v k).session.digitLimit = none := by
  have hmirrored := mine_mirrored hlimit k
  generalize hchecked : v.session.checkedMine k = checked at hmirrored
  cases hmined : v.session.mine k with
  | mk result notes =>
    rw [hmined] at hmirrored
    cases hmirrored with
    | found | missing | searchTable | symbolTable =>
      simp only [checkedMineOne, Session.checkedScan, mineOne, Session.scan, Survey.quiet, hmined,
        hchecked]
      refine ⟨?_, ?_, hlimit⟩ <;> trivial

theorem foldlM_checkedMineOne {v : Survey} (hlimit : v.session.digitLimit = none)
    (hgoing : v.halted = none) (kinds : List Evidence) :
    kinds.foldlM checkedMineOne v.quiet = .ok (kinds.foldl surveyOne v).quiet ∧
      (kinds.foldl surveyOne v).halted = none := by
  induction kinds generalizing v with
  | nil => exact ⟨rfl, hgoing⟩
  | cons k kinds ih =>
    obtain ⟨hstep, hhalted, hlimit'⟩ := checkedMineOne_eq hlimit k
    have hsurvey : surveyOne v k = mineOne v k := by
      rw [surveyOne, hgoing]
      rfl
    rw [List.foldlM_cons, hstep, List.foldl_cons, hsurvey]
    exact ih hlimit' (hhalted.trans hgoing)

/-- Nothing gets out of mining several kinds of regions in order. -/
theorem checkedSurvey_eq (hlimit : s.digitLimit = none) (kinds : List Evidence) :
    s.checkedSurvey kinds = .ok (s.survey kinds).quiet ∧ (s.survey kinds).halted = none :=
  foldlM_checkedMineOne (v := { session := s }) hlimit rfl kinds

/-! ## Analyses -/

/-- The address of an entry point is that of a candidate. -/
theorem checkedFinalize_eq (s : Session) : s.checkedFinalize = .ok s.finalize.2 := by
  cases hlisted : s.listed with
  | some functions => simp only [checkedFinalize, finalize, hlisted]
  | none =>
    simp only [checkedFinalize, finalize, hlisted, Registry.nameEntry, Registry.entryCandidate]
    cases s.registry.get? s.entryPoint with
    | some c => rfl
    | none =>
      simp only [validated_of_nonneg (Int.natCast_nonneg _) (Int.le_refl 0)]
      rfl

/-- Nothing gets out of an analysis. -/
theorem checkedAnalysis_eq (hlimit : s.digitLimit = none) (d : Bytes) (kinds : List Evidence) :
    ∃ a, s.checkedAnalysis d kinds = .ok a ∧ (Analysis.ofSession s d kinds).result = .ok a := by
  obtain ⟨hsurvey, hhalted⟩ := checkedSurvey_eq hlimit kinds
  refine ⟨{
    info := s.info d
    regions := s.regions.map (·.toRegionInfo)
    functions := (s.survey kinds).session.finalize.2
    sourceCounts := (s.survey kinds).counts
    warnings := (s.survey kinds).warnings }, ?_, ?_⟩
  · simp only [checkedAnalysis, hsurvey, bind, Except.bind, checkedFinalize_eq]
    rfl
  · simp only [Analysis.ofSession, hhalted]

end Session

theorem Analysis.ofBytes_result {d : Bytes} {path : String} {l : Text.DigitLimit} {s : Session}
    (hopen : (Session.ofBytes d path l).result = .ok s) (kinds : List Evidence)
    (elapsed : String) :
    (Analysis.ofBytes d path kinds elapsed l).result = (ofSession s d kinds).result := by
  simp only [Analysis.ofBytes, bind, Noted.result_andThen, Noted.timed, Noted.mapError, hopen,
    mapError_ok, Except.bind]
  cases (ofSession s d kinds).result <;> rfl

theorem Analysis.ofBytes_error {d : Bytes} {path : String} {l : Text.DigitLimit}
    {cause : ContainerError} (hopen : (Session.ofBytes d path l).result = .error cause)
    (kinds : List Evidence) (elapsed : String) :
    (Analysis.ofBytes d path kinds elapsed l).result = .error (.container cause) := by
  simp only [ofBytes, Noted.result_bind, Noted.timed, Noted.result_mapError, hopen]
  rfl

/-- Nothing gets out of a scan of call-frame records, nothing but the error that there is no table
out of a scan of a search table, nothing but the error that its size is wrong out of a scan of a
symbol table, and nothing out of the analysis of an image that can be opened. The loops end within
a number of rounds that the octets bound. -/
theorem Analysis.nothing_escapes :
    (∀ (s : Cfi.Section) (c : Cfi.Convention) (rounds : Nat), s.bytes.size < 8 * rounds →
      s.checkedScan c rounds = .ok (s.scan c) ∧
        (s.scan c).report none = ⟨.ok (s.scan c).candidates, (s.scan c).notes⟩) ∧
    (∀ (d : Bytes) (address : Int),
      (∃ cs, Cfi.SearchTable.checkedScan d address = .ok cs ∧
        (Cfi.SearchTable.scan d address).result = .ok cs ∧ 2 * cs.length ≤ d.size) ∨
      ∃ cause, Cfi.SearchTable.checkedScan d address = .error (.searchTable cause) ∧
        (Cfi.SearchTable.scan d address).result = .error cause ∧
        ∀ i count e, cause = .row i count e → 2 * i ≤ d.size) ∧
    (∀ d names : Bytes,
      (∃ cs, SymbolTable.checkedScan d names = .ok cs ∧
        (SymbolTable.scan d names).result = .ok cs) ∨
      ∃ cause, SymbolTable.checkedScan d names = .error (.symbolTable cause) ∧
        (SymbolTable.scan d names).result = .error cause) ∧
    ∀ (d : Bytes) (path : String) (kinds : List Evidence) (elapsed : String) (s : Session),
      (Session.ofBytes d path none).result = .ok s →
        ∃ a, s.checkedAnalysis d kinds = .ok a ∧
          (Analysis.ofBytes d path kinds elapsed none).result = .ok a := by
  refine ⟨fun s c rounds hrounds => ?_, fun d address => ?_, fun d names => ?_,
    fun d path kinds elapsed s hopen => ?_⟩
  · exact ⟨s.checkedScan_eq c hrounds, (s.scan c).report_none⟩
  · have hrows := Cfi.SearchTable.scan_rows_le d address
    rw [Cfi.SearchTable.checkedScan_eq]
    cases hscan : (Cfi.SearchTable.scan d address).result with
    | ok cs =>
      rw [hscan] at hrows
      exact .inl ⟨cs, rfl, rfl, hrows⟩
    | error cause =>
      rw [hscan] at hrows
      refine .inr ⟨cause, rfl, rfl, ?_⟩
      rintro i count e rfl
      exact hrows
  · rw [SymbolTable.checkedScan_eq]
    cases (SymbolTable.scan d names).result with
    | ok cs => exact .inl ⟨cs, rfl, rfl⟩
    | error cause => exact .inr ⟨cause, rfl, rfl⟩
  · obtain ⟨_, _, -, -, rfl⟩ := Session.ofBytes_eq_ok hopen
    rw [Analysis.ofBytes_result hopen]
    exact Session.checkedAnalysis_eq rfl d kinds

/-- A section whose one record refers to a common entry before the section. -/
def strayRecord : Cfi.Section := ⟨#[8, 0, 0, 0, 9, 0, 0, 0, 1, 2, 3, 4], -1⟩

/-- An entry of a table of sections: the offset of its name, its type, and where its octets are. -/
def sectionEntry (name type off size : UInt8) : List UInt8 :=
  [name, 0, 0, 0, type, 0, 0, 0] ++ List.replicate 16 0 ++ [off, 0, 0, 0, 0, 0, 0, 0] ++
    [size, 0, 0, 0, 0, 0, 0, 0] ++ List.replicate 24 0

/-- An image in which no section but its names is as it should be: a record that refers to a common
entry before its section, a table of two rows that ends after the first one, a record that is longer
than its section, and 25 octets of symbols. -/
def brokenImage : Bytes :=
  List.toArray (
    [0x7f, 0x45, 0x4c, 0x46, 2, 1, 1, 0, 0, 0, 0, 0, 0, 0, 0, 0,
      2, 0, 62, 0, 1, 0, 0, 0, 0x00, 0x10, 0x40, 0, 0, 0, 0, 0,
      0, 0, 0, 0, 0, 0, 0, 0, 180, 0, 0, 0, 0, 0, 0, 0,
      0, 0, 0, 0, 64, 0, 0, 0, 0, 0, 64, 0, 5, 0, 1, 0] ++
    -- `.eh_frame` at 64
    [8, 0, 0, 0, 9, 0, 0, 0, 1, 2, 3, 4] ++
    -- `.eh_frame_hdr` at 76
    [1, 3, 3, 3, 0, 0, 0, 0, 2, 0, 0, 0, 0x00, 0x10, 0x40, 0, 0x00, 0x20, 0x40, 0] ++
    -- `.debug_frame` at 96
    [0xff, 0, 0, 0, 0] ++
    -- `.symtab` at 101
    List.replicate 25 0 ++
    -- `.strtab` at 126, with the names of sections
    [0, 0x2e, 0x65, 0x68, 0x5f, 0x66, 0x72, 0x61, 0x6d, 0x65,
      0, 0x2e, 0x65, 0x68, 0x5f, 0x66, 0x72, 0x61, 0x6d, 0x65, 0x5f, 0x68, 0x64, 0x72,
      0, 0x2e, 0x64, 0x65, 0x62, 0x75, 0x67, 0x5f, 0x66, 0x72, 0x61, 0x6d, 0x65,
      0, 0x2e, 0x73, 0x79, 0x6d, 0x74, 0x61, 0x62, 0, 0x2e, 0x73, 0x74, 0x72, 0x74, 0x61, 0x62,
      0] ++
    sectionEntry 1 1 64 12 ++ sectionEntry 46 3 126 54 ++ sectionEntry 38 2 101 25 ++
      sectionEntry 11 1 76 20 ++ sectionEntry 25 1 96 5)

/-- Each scanner meets octets that it cannot read, and a region is missing. -/
theorem Analysis.nothing_escapes_brokenImage :
    (strayRecord.bytes.size < 8 * 2 ∧
      strayRecord.checkedScan .ehFrame 2 = .ok (strayRecord.scan .ehFrame)) ∧
    ∃ s, (Session.ofBytes brokenImage "a.out" none).result = .ok s ∧
      ∃ a, s.checkedAnalysis brokenImage [.symtab, .ehFrame, .ehFrameHdr, .debugFrame, .dynsym] =
          .ok a ∧
        (Analysis.ofBytes brokenImage "a.out" [.symtab, .ehFrame, .ehFrameHdr, .debugFrame, .dynsym]
          "0.0" none).result = .ok a ∧
        a.sourceCounts = [(".eh_frame", 0), (".debug_frame", 0), (".dynsym", 0)] ∧
        a.warnings.length = 2 := by
  obtain ⟨hscan, -, -, hanalysis⟩ := Analysis.nothing_escapes
  have hsize : strayRecord.bytes.size < 8 * 2 := by decide
  refine ⟨⟨hsize, (hscan strayRecord .ehFrame 2 hsize).1⟩, ?_⟩
  have hshown : (Analysis.ofBytes brokenImage "a.out"
      [.symtab, .ehFrame, .ehFrameHdr, .debugFrame, .dynsym] "0.0" none).result.toOption.map
        (fun a => (a.sourceCounts, a.warnings.length)) =
      some ([(".eh_frame", 0), (".debug_frame", 0), (".dynsym", 0)], 2) := by
    decide +kernel
  cases hopen : (Session.ofBytes brokenImage "a.out" none).result with
  | error cause => rw [Analysis.ofBytes_error hopen] at hshown; cases hshown
  | ok s =>
    obtain ⟨a, hchecked, ha⟩ := hanalysis brokenImage "a.out"
      [.symtab, .ehFrame, .ehFrameHdr, .debugFrame, .dynsym] "0.0" s hopen
    rw [ha] at hshown
    obtain ⟨hcounts, hwarnings⟩ := Prod.mk.inj (Option.some.inj hshown)
    exact ⟨s, rfl, a, hchecked, ha, hcounts, hwarnings⟩

end FunctionBounds
