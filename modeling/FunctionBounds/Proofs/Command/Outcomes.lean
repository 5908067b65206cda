import FunctionBounds.Proofs.Analysis.Accounts
import FunctionBounds.Proofs.Command.Calls
import FunctionBounds.Proofs.Display.Renderer
import FunctionBounds.Proofs.Display.Views
import FunctionBounds.Terminal.CommandLine

/-!
# How commands end

- **Acceptance** (`Accepts`): the file can be opened, and for functions it is small enough and the
  names of the kinds to mine are known. Everything else is refused.
- **Results** (`Documents`, `Answer.Succeeds`): an accepted command prints the document of its
  request, or shows it, and where it saves a report, saves that document with a time of its own.
- **Limits** (`Spared`): what stands in the way of an accepted command are numbers of functions: a
  note about a call-frame section that cannot be written, or a number of the analysis that cannot.

`command_ends` puts these together, for each command but a dump. `overlongImage` is accepted but
cannot be analysed (`run_overlongImage`).
-/

namespace FunctionBounds.Command

/-! ## Answers -/

/-- A document without its members of a name. -/
def withoutMember (name : String) : Json → Json
  | .object members => .object (members.filter (·.1 != name))
  | document => document

/-- What was to be shown or printed cannot be. -/
structure Answer.Fails (a : Answer) : Prop where
  exitCode : a.exitCode = 1
  failure : ∃ fault, a.failure = some (.output fault)

/-- A command has done what it was asked to do: where documents are printed, `document` is all that
it prints, and where a report is saved, the report is the same document up to its time. -/
structure Answer.Succeeds (json : Bool) (saved : Option String) (document : Json) (a : Answer) :
    Prop where
  exitCode : a.exitCode = 0
  failure : a.failure = none
  stdout : json = true → ∃ text, Json.IsTextOf text document ∧ a.stdout = text ++ "\n"
  report : a.report.map (·.1) = saved
  same : ∀ path text, a.report = some (path, text) → ∃ report, Json.IsTextOf text report ∧
    withoutMember "generated_at" report = withoutMember "generated_at" document

variable {json : Bool} {saved : Option String} {document : Json} {a : Answer}

theorem Answer.Succeeds.with_notes (h : a.Succeeds json saved document) (notes : List Note) :
    { a with notes }.Succeeds json saved document :=
  ⟨h.exitCode, h.failure, h.stdout, h.report, h.same⟩

theorem Answer.Fails.with_notes (h : a.Fails) (notes : List Note) : { a with notes }.Fails :=
  ⟨h.exitCode, h.failure⟩

/-- A command that saves nothing. -/
theorem succeeds_of_unsaved (hcode : a.exitCode = 0) (hfailure : a.failure = none)
    (hstdout : json = true → ∃ text, Json.IsTextOf text document ∧ a.stdout = text ++ "\n")
    (hreport : a.report = none) : a.Succeeds json none document := by
  refine ⟨hcode, hfailure, hstdout, by rw [hreport, Option.map_none], fun path text h => ?_⟩
  rw [hreport] at h
  cases h

theorem Answer.Prints.succeeds (h : a.Prints document) : a.Succeeds true none document :=
  succeeds_of_unsaved h.exitCode h.failure (fun _ => h.stdout) h.report

theorem fails_printed (h : ¬document.IsWritable) : (printed document).Fails := by
  obtain ⟨cause, hcause⟩ := Option.ne_none_iff_exists'.1 (mt Json.isWritable_iff.1 h)
  simp only [printed, hcause]
  exact ⟨rfl, _, rfl⟩

/-- What is shown without a fault. -/
theorem succeeds_shows {x : Console.Output} (h : x.fault = none) :
    (Answer.shows {} x).Succeeds false none document := by
  simp only [Answer.shows, h]
  exact succeeds_of_unsaved rfl rfl (absurd · Bool.false_ne_true) rfl

theorem fails_shows {x : Console.Output} (h : x.fault ≠ none) : (Answer.shows {} x).Fails := by
  obtain ⟨fault, hfault⟩ := Option.ne_none_iff_exists'.1 h
  simp only [Answer.shows, hfault]
  exact ⟨rfl, _, rfl⟩

theorem failure_shows (x : Console.Output) :
    (Answer.shows {} x).failure = x.fault.map .output := by
  unfold Answer.shows
  cases x.fault <;> rfl

/-- A report is saved if it can be written. -/
theorem succeeds_saveReport {c : Context} {report : Json} {path : String}
    (h : a.Succeeds json none document) (hwritable : report.IsWritable)
    (hsame : withoutMember "generated_at" report = withoutMember "generated_at" document)
    (hrendered : (saveReport c report path a).IsRendered) :
    (saveReport c report path a).Succeeds json (some path) document := by
  simp only [saveReport, h.failure, Json.isWritable_iff.2 hwritable] at hrendered ⊢
  obtain ⟨text, htext⟩ | ⟨cause, hcause⟩ := Console.isLine_success c.renderer
    s!"JSON report saved: {c.files.resolve path}"
  · simp only [Answer.shows, htext]
    refine ⟨h.exitCode, rfl, h.stdout, rfl, ?_⟩
    rintro _ _ ⟨⟩
    exact ⟨report, hwritable.isTextOf, hsame⟩
  · refine absurd ?_ (hrendered cause)
    simp only [Answer.shows, hcause]
    rfl

theorem fails_saveReport (c : Context) (path : String) (h : a.failure = none)
    (hunwritable : ¬document.IsWritable) : (saveReport c document path a).Fails := by
  obtain ⟨cause, hcause⟩ := Option.ne_none_iff_exists'.1 (mt Json.isWritable_iff.1 hunwritable)
  simp only [saveReport, h, hcause]
  exact ⟨rfl, _, rfl⟩

theorem saveReport_of_fails (c : Context) (path : String) (h : a.Fails) :
    saveReport c document path a = a := by
  obtain ⟨fault, hfault⟩ := h.failure
  rw [saveReport, hfault]

theorem isRendered_printed (document : Json) : (printed document).IsRendered := by
  cases hfault : (document.pretty .standard).fault <;> simp only [printed, hfault]
  · rintro cause ⟨⟩
  · rintro cause ⟨⟩

theorem isRendered_saveReport {c : Context} (hrenders : c.renderer.IsTotal) (h : a.IsRendered)
    (document : Json) (path : String) : (saveReport c document path a).IsRendered := by
  cases hfailure : a.failure with
  | some fault =>
    simp only [saveReport, hfailure]
    exact h
  | none =>
    cases hfault : (document.pretty .standard).fault with
    | none =>
      simp only [saveReport, hfailure, hfault, Answer.shows,
        Console.fault_success hrenders s!"JSON report saved: {c.files.resolve path}"]
      rintro cause ⟨⟩
    | some cause =>
      simp only [saveReport, hfailure, hfault]
      rintro cause ⟨⟩

/-! ## Analyses -/

/-- The path of the report, if there is to be one. -/
def General.savedTo (g : General) : Option String := g.output.filter (!·.isEmpty)

/-- What is printed or shown of an analysis has only numbers that can be written. -/
def IsPresentable (g : General) (time : String) (an : Analysis) : Prop :=
  if g.json = true then (an.report time).IsWritable else an.IsShowable

/-- Every number of an analysis that is to be printed, shown or saved can be written. -/
structure IsWritten (g : General) (time : String) (an : Analysis) : Prop where
  presented : IsPresentable g time an
  saved : g.savedTo.isSome = true → (an.report time).IsWritable

/-- The time of a report is no number. -/
theorem isWritable_report {an : Analysis} {time : String} (h : (an.report time).IsWritable)
    (time' : String) : (an.report time').IsWritable := h

/-- Reports that are made at different times differ in nothing else. -/
theorem report_same (an : Analysis) (time time' : String) :
    withoutMember "generated_at" (an.report time) =
      withoutMember "generated_at" (an.report time') := rfl

variable (c : Context) (an : Analysis)

/-- What is printed or shown of an analysis. -/
def presented : Answer :=
  if c.general.json then printed (an.report c.printTime) else Answer.shows {} (an.view c.renderer)

theorem showAnalysis_eq :
    showAnalysis c an = match c.general.savedTo with
      | some path => saveReport c (an.report c.saveTime) path (presented c an)
      | none => presented c an := by
  unfold showAnalysis General.savedTo presented
  cases c.general.output with
  | none => rfl
  | some path => cases hpath : path.isEmpty <;> simp [Option.filter, hpath]

theorem presented_ends (hrendered : (presented c an).IsRendered) :
    (IsPresentable c.general c.printTime an →
      (presented c an).Succeeds c.general.json none (an.report c.printTime)) ∧
    (¬IsPresentable c.general c.printTime an → (presented c an).Fails) := by
  cases hjson : c.general.json with
  | true =>
    simp only [presented, IsPresentable, hjson, if_true]
    exact ⟨fun h => (prints_printed h).succeeds, fails_printed⟩
  | false =>
    simp only [presented, IsPresentable, hjson, Bool.false_eq_true, if_false] at hrendered ⊢
    have hfault := (an.needs_view c.renderer).eq_none_iff fun cause hcause =>
      hrendered cause (by rw [failure_shows, hcause]; rfl)
    exact ⟨fun h => succeeds_shows (hfault.2 h), fun h => fails_shows (mt hfault.1 h)⟩

/-- An analysis is shown and saved if all its numbers can be written. -/
theorem showAnalysis_ends (hrendered : (showAnalysis c an).IsRendered) :
    (IsWritten c.general c.printTime an →
      (showAnalysis c an).Succeeds c.general.json c.general.savedTo (an.report c.printTime)) ∧
    (¬IsWritten c.general c.printTime an → (showAnalysis c an).Fails) := by
  rw [showAnalysis_eq] at *
  cases hsaved : c.general.savedTo with
  | none =>
    rw [hsaved] at hrendered
    obtain ⟨hsucceeds, hfails⟩ := presented_ends c an hrendered
    refine ⟨fun h => hsucceeds h.presented, fun h => hfails fun hpresentable =>
      h ⟨hpresentable, ?_⟩⟩
    rw [hsaved]
    exact nofun
  | some path =>
    rw [hsaved] at hrendered
    dsimp only at hrendered ⊢
    have hpresented : (presented c an).IsRendered := by
      intro cause hcause
      refine hrendered cause ?_
      rw [saveReport, hcause]
      exact hcause
    obtain ⟨hsucceeds, hfails⟩ := presented_ends c an hpresented
    by_cases hpresentable : IsPresentable c.general c.printTime an
    · have hpresents := hsucceeds hpresentable
      refine ⟨fun h => ?_, fun h => fails_saveReport c path hpresents.failure fun hwritable =>
        h ⟨hpresentable, fun _ => isWritable_report hwritable _⟩⟩
      have hwritable := h.saved (by rw [hsaved, Option.isSome_some])
      exact succeeds_saveReport hpresents (isWritable_report hwritable _) (report_same an _ _)
        hrendered
    · refine ⟨fun h => absurd h.presented hpresentable, fun _ => ?_⟩
      rw [saveReport_of_fails c path (hfails hpresentable)]
      exact hfails hpresentable

/-! ## Sessions -/

/-- What a request for the entry point gives. -/
def entryDocument (s : Session) : Json := .object [
  ("path", .string s.path),
  ("entry_point", .integer s.entryPoint),
  ("entry_point_hex", .string (Text.hex s.entryPoint))]

/-- What a request for regions gives. -/
def regionsDocument (s : Session) : Json := .object [
  ("path", .string s.path),
  ("is_stripped", .boolean s.stripped),
  ("regions", .array (s.regions.map fun r => regionJson r.toRegionInfo))]

theorem isWritable_entryDocument (s : Session) : (entryDocument s).IsWritable := by
  simp only [Json.IsWritable, entryDocument, Json.numbers, Json.memberNumbers, List.nil_append,
    List.append_nil, List.forall_mem_singleton]
  exact s.isWord_entryPoint.isShort

theorem isWritable_regionsDocument {s : Session} (h : ∀ r ∈ s.regions, r.IsNarrow) :
    (regionsDocument s).IsWritable := by
  have hregion : ∀ r : Region, r.IsNarrow → (regionJson r.toRegionInfo).IsWritable := by
    intro r hr
    simp only [Json.IsWritable, regionJson, Json.numbers, Json.memberNumbers, List.nil_append,
      List.append_nil, List.cons_append, List.forall_mem_cons]
    exact ⟨hr.virtualAddress.isShort, hr.size.isShort, hr.fileOffset.isShort, hr.flags.isShort,
      nofun⟩
  intro n hn
  simp only [regionsDocument, Json.numbers, Json.memberNumbers, List.nil_append, List.append_nil,
    Json.mem_itemNumbers, List.mem_map] at hn
  obtain ⟨item, ⟨r, hr, rfl⟩, hn⟩ := hn
  exact hregion r (h r hr) n hn

theorem runEntry_succeeds (s : Session) :
    (runEntry c s).Succeeds c.general.json none (entryDocument s) := by
  unfold runEntry
  cases c.general.json with
  | true =>
    rw [if_pos rfl]
    exact (prints_printed (isWritable_entryDocument s)).succeeds
  | false =>
    rw [if_neg Bool.false_ne_true]
    exact succeeds_of_unsaved rfl rfl (absurd · Bool.false_ne_true) rfl

theorem runSections_succeeds {s : Session} (h : ∀ r ∈ s.regions, r.IsNarrow)
    (hrendered : (runSections c s).IsRendered) :
    (runSections c s).Succeeds c.general.json none (regionsDocument s) := by
  unfold runSections at *
  cases hjson : c.general.json with
  | true =>
    have hdocument : regionsDocument s = .object [
        ("path", .string s.path),
        ("is_stripped", .boolean s.stripped),
        ("regions", .array ((s.regions.map (·.toRegionInfo)).map regionJson))] := by
      rw [List.map_map]
      rfl
    have hprints := (prints_printed (isWritable_regionsDocument h)).succeeds
    rw [if_pos rfl, ← hdocument]
    exact hprints
  | false =>
    simp only [hjson, Bool.false_eq_true, if_false] at hrendered ⊢
    have hfault := (needs_regionsView c.renderer (s.regions.map (·.toRegionInfo))
      s.stripped).eq_none_iff
      fun cause hcause => hrendered cause (by rw [failure_shows, hcause]; rfl)
    exact succeeds_shows (hfault.2 trivial)

/-! ## Functions -/

/-- Settings of the types that are expected. -/
def typedSettings (maximum : Int) (sources : List String) (width : Int) : Settings where
  maxFileSizeValue := .integer maximum
  sourcesValue := .array (sources.map .string)
  hexdumpWidthValue := .integer width

/-- The kinds of regions to mine: those asked for, or else those that texts name. -/
def kindsOf (sources : List String) :
    Option (List Evidence) → Except Evidence.Unknown (List Evidence)
  | some kinds => .ok kinds
  | none => Evidence.parseAll sources

theorem sizeLimit_typed {maximum width : Int} {sources : List String}
    (h : c.settings = typedSettings maximum sources width) :
    c.settings.sizeLimit = .ok (.integer maximum) := by
  rw [h]
  rfl

theorem kindsToMine_typed {maximum width : Int} {sources : List String}
    (h : c.settings = typedSettings maximum sources width) (asked : Option (List Evidence)) :
    kindsToMine c asked = (kindsOf sources asked).mapError .unknownEvidence := by
  cases asked with
  | some kinds => rfl
  | none =>
    have hevidence : (typedSettings maximum sources width).evidence =
        (sources.map .string).mapM Settings.evidenceOf := rfl
    have hitem : ∀ name, Settings.evidenceOf (.string name) =
        (Evidence.parse name).mapError .unknownEvidence := fun _ => rfl
    rw [kindsToMine, h, kindsOf, Evidence.parseAll, mapError_mapM]
    simp only [hevidence, List.mapM_map, Function.comp_def, hitem]

theorem start_eq_ok_iff {path : String} {d : Bytes} {maximum : Int} {u : Unit} :
    (Analysis.start path d (.integer maximum)).result = .ok u ↔ (d.size : Int) ≤ maximum := by
  unfold Analysis.start SizeLimit.allows
  by_cases hsize : (d.size : Int) ≤ maximum
  · rw [if_pos (decide_eq_true hsize)]
    exact iff_of_true rfl hsize
  · rw [if_neg (by simpa using hsize)]
    exact iff_of_false nofun hsize

theorem contents_eq_ok_iff {files : Files} {path : String} {d : Bytes} :
    Analysis.contents files path = .ok d ↔ files.look path = .file d := by
  unfold Analysis.contents
  split <;> simp_all

/-- An error that a command reports itself. -/
def IsReported (e : FunctionsError) : Prop :=
  (∃ cause, e = .analysis cause) ∨ ∃ cause, e = .settings (.unknownEvidence cause)

section Typed

variable {maximum width : Int} {sources : List String}
  (hsettings : c.settings = typedSettings maximum sources width) (asked : Option (List Evidence))

include hsettings

/-- There is an analysis if there is a file of no more than the greatest size, all kinds to mine are
known, and the file can be analysed. -/
theorem analyse_eq_ok_iff {an : Analysis} :
    (analyse c asked).result = .ok an ↔ ∃ d kinds, c.files.look c.general.path = .file d ∧
      (d.size : Int) ≤ maximum ∧ kindsOf sources asked = .ok kinds ∧
      (Analysis.ofBytes d (c.files.resolve c.general.path) kinds c.elapsed).result = .ok an := by
  simp only [analyse, Noted.result_bind, Noted.result_of, Noted.result_mapError, bind_eq_ok_iff,
    mapError_eq_ok_iff, sizeLimit_typed c hsettings, kindsToMine_typed c hsettings,
    contents_eq_ok_iff, Except.ok.injEq, exists_eq_left', start_eq_ok_iff, exists_const]
  constructor
  · rintro ⟨d, hd, hsize, kinds, hkinds, han⟩
    exact ⟨d, kinds, hd, hsize, hkinds, han⟩
  · rintro ⟨d, kinds, hd, hsize, hkinds, han⟩
    exact ⟨d, hd, hsize, kinds, hkinds, han⟩

/-- If there is none, the command refuses to go on. -/
theorem runFunctions_refuses {e : FunctionsError} (h : (analyse c asked).result = .error e)
    (hrendered : (runFunctions c asked).IsRendered) :
    (runFunctions c asked).Refuses c.renderer := by
  have hreported : IsReported e := by
    simp only [analyse, Noted.result_bind, Noted.result_of, Noted.result_mapError,
      sizeLimit_typed c hsettings, kindsToMine_typed c hsettings] at h
    refine error_of_bind (p := IsReported) ?contents (fun d e he => ?_) h
    case contents => exact fun e he => .inl (mapError_eq_error he)
    refine error_of_bind (p := IsReported) ?limit (fun limit e he => ?_) he
    case limit => exact nofun
    refine error_of_bind (p := IsReported) ?start (fun _ e he => ?_) he
    case start => exact fun e he => .inl (mapError_eq_error he)
    refine error_of_bind (p := IsReported) ?kinds (fun kinds e he => .inl (mapError_eq_error he)) he
    case kinds =>
      intro e he
      cases hkinds : kindsOf sources asked with
      | ok kinds => rw [hkinds] at he; cases he
      | error unknown => rw [hkinds] at he; cases he; exact .inr ⟨unknown, rfl⟩
  simp only [runFunctions, h] at hrendered ⊢
  obtain ⟨cause, rfl⟩ | ⟨cause, rfl⟩ := hreported
  · exact (refuses_refused hrendered).with_notes _
  · exact (refuses_refused hrendered).with_notes _

end Typed

/-- Without an analysis the command ends with an error. -/
theorem exitCode_of_error {c : Context} {asked : Option (List Evidence)} {e : FunctionsError}
    (h : (analyse c asked).result = .error e) : (runFunctions c asked).exitCode = 1 := by
  simp only [runFunctions, h]
  cases e with
  | analysis cause => rfl
  | settings cause => cases cause <;> rfl

theorem runFunctions_of_ok {c : Context} {asked : Option (List Evidence)} {an : Analysis}
    (h : (analyse c asked).result = .ok an) :
    ∃ notes, runFunctions c asked = { showAnalysis c an with notes } := by
  simp only [runFunctions, h]
  exact ⟨_, rfl⟩

/-- Where a document is printed, only single lines are rendered. -/
theorem isRendered_runFunctions {c : Context} (hrenders : c.renderer.IsTotal)
    (hjson : c.general.json = true) (asked : Option (List Evidence)) :
    (runFunctions c asked).IsRendered := by
  cases hresult : (analyse c asked).result with
  | ok an =>
    have hprinted : (presented c an).IsRendered := by
      rw [presented, if_pos hjson]
      exact isRendered_printed _
    have hshown : (showAnalysis c an).IsRendered := by
      rw [showAnalysis_eq]
      cases c.general.savedTo with
      | none => exact hprinted
      | some path => exact isRendered_saveReport hrenders hprinted _ path
    simp only [runFunctions, hresult]
    exact hshown
  | error e =>
    simp only [runFunctions, hresult]
    cases e with
    | analysis cause => exact isRendered_refused hrenders _
    | settings cause =>
      cases cause with
      | unknownEvidence unknown => exact isRendered_refused hrenders _
      | _ => rintro _ ⟨⟩

/-! ## Calls -/

/-- A command can do what it is asked to do: the file can be opened, and for functions it has no
more than the greatest size, and without kinds that are asked for, all sources are known. -/
structure Accepts (files : Files) (path : String) (maximum : Int) (sources : List String)
    (r : Request) : Prop where
  opens : (opened? files path).isSome = true
  small : ∀ asked d, r = .functions asked → files.look path = .file d → (d.size : Int) ≤ maximum
  known : r = .functions none → ∀ name ∈ sources, ∃ k, Evidence.parse name = .ok k

/-- The document of a request: what is asked for of the file. -/
inductive Documents (env : Environment) (g : General) (sources : List String) :
    Request → Json → Prop where
  | entry {s : Session} (opens : opened? env.files g.path = some s) :
    Documents env g sources .entry (entryDocument s)
  | sections {s : Session} (opens : opened? env.files g.path = some s) :
    Documents env g sources .sections (regionsDocument s)
  | functions {d : Bytes} {asked : Option (List Evidence)} {kinds : List Evidence} {an : Analysis}
    (look : env.files.look g.path = .file d) (mined : kindsOf sources asked = .ok kinds)
    (analysed : (Analysis.ofBytes d (env.files.resolve g.path) kinds env.elapsed).result = .ok an) :
    Documents env g sources (.functions asked) (an.report env.printTime)

/-- There is one analysis of a file. -/
theorem Documents.eq_report {env : Environment} {g : General} {sources : List String}
    {asked : Option (List Evidence)} {document : Json}
    (h : Documents env g sources (.functions asked) document) {d : Bytes} {kinds : List Evidence}
    {an : Analysis} (hlook : env.files.look g.path = .file d)
    (hkinds : kindsOf sources asked = .ok kinds)
    (han : (Analysis.ofBytes d (env.files.resolve g.path) kinds env.elapsed).result = .ok an) :
    document = an.report env.printTime := by
  cases h with
  | functions look mined analysed =>
    obtain rfl := FileState.file.inj (hlook.symm.trans look)
    obtain rfl := Except.ok.inj (hkinds.symm.trans mined)
    obtain rfl := Except.ok.inj (han.symm.trans analysed)
    rfl

/-- No number is too long that a command comes to write: for functions, in a note about a section
that is mined, or in what it shows, prints or saves of the analysis. -/
def Spared (env : Environment) (g : General) (sources : List String) : Request → Prop
  | .functions asked => ∀ d s kinds, env.files.look g.path = .file d →
    (Session.ofBytes d (env.files.resolve g.path)).result = .ok s →
      kindsOf sources asked = .ok kinds →
        (∀ k ∈ kinds, s.Reportable k) ∧
          ∀ an, (Analysis.ofBytes d (env.files.resolve g.path) kinds env.elapsed).result = .ok an →
            IsWritten g env.printTime an
  | _ => True

/-- Where a request's report is saved, if there is to be one. -/
def Request.savedTo (g : General) : Request → Option String
  | .functions _ => g.savedTo
  | _ => none

/-- What is asked for functions of a file that can be opened is known. -/
theorem Accepts.functions {files : Files} {path : String} {maximum : Int} {sources : List String}
    {asked : Option (List Evidence)} (h : Accepts files path maximum sources (.functions asked)) :
    ∃ d s kinds, files.look path = .file d ∧ (d.size : Int) ≤ maximum ∧
      (Session.ofBytes d (files.resolve path)).result = .ok s ∧
      kindsOf sources asked = .ok kinds := by
  obtain ⟨s, hs⟩ := Option.isSome_iff_exists.1 h.opens
  obtain ⟨d, hd, hopen⟩ := opened?_eq_some hs
  have hlook : files.look path = .file d := by
    unfold Files.contents at hd
    cases hstate : files.look path with
    | file d' => rw [hstate] at hd; cases hd; rfl
    | sink =>
      -- Nothing can be read there, and so no header.
      rw [hstate] at hd
      cases hd
      obtain ⟨_, _, hdecode, -, -⟩ := Session.ofBytes_eq_ok hopen
      exact absurd (Elf.Header.decode_eq_ok_iff.1 hdecode).1 (by decide)
    | absent | directory => rw [hstate] at hd; cases hd
  obtain ⟨kinds, hkinds⟩ : ∃ kinds, kindsOf sources asked = .ok kinds := by
    cases asked with
    | some kinds => exact ⟨kinds, rfl⟩
    | none => exact exists_mapM_eq_ok_iff.2 (h.known rfl)
  exact ⟨d, _, kinds, hlook, h.small asked d rfl hlook, Session.ofBytes_path hopen _, hkinds⟩

theorem accepts_functions {files : Files} {path : String} {maximum : Int} {sources : List String}
    {asked : Option (List Evidence)} {d : Bytes} {s : Session} {kinds : List Evidence}
    (hlook : files.look path = .file d) (hsize : (d.size : Int) ≤ maximum)
    (hopen : (Session.ofBytes d (files.resolve path)).result = .ok s)
    (hkinds : kindsOf sources asked = .ok kinds) :
    Accepts files path maximum sources (.functions asked) where
  opens := by
    simp only [opened?, Files.contents, hlook, Except.toOption, Option.bind_some,
      Session.ofBytes_path hopen, Option.isSome_some]
  small asked' d' _ hd' := by
    rw [hlook] at hd'
    cases hd'
    exact hsize
  known hnone := by
    cases hnone
    exact exists_mapM_eq_ok_iff.1 ⟨kinds, hkinds⟩

/-- How a command ends. -/
structure Ends (env : Environment) (g : General) (maximum : Int) (sources : List String)
    (r : Request) (a : Answer) : Prop where
  refuses : ¬Accepts env.files g.path maximum sources r → a.Refuses env.renderer
  succeeds : Accepts env.files g.path maximum sources r → Spared env g sources r →
    ∃ document, Documents env g sources r document ∧ a.Succeeds g.json (r.savedTo g) document
  limited : Accepts env.files g.path maximum sources r → ¬Spared env g sources r →
    a.exitCode = 1 ∧ (a.failure = none → a.Refuses env.renderer)

section Requests

variable {env : Environment} {g : General} {maximum width : Int} {sources : List String}

/-- A request that only needs a session. -/
theorem withSession_ends {settings : Settings} {r : Request} {f : Session → Answer}
    {document : Session → Json} (hrequest : ∀ asked, r ≠ .functions asked)
    (hdocument : ∀ s, opened? env.files g.path = some s →
      Documents env g sources r (document s))
    (hsucceeds : ∀ s, opened? env.files g.path = some s → (f s).IsRendered →
      (f s).Succeeds g.json none (document s))
    (hrendered : (withSession (contextOf env g settings) f).IsRendered) :
    Ends env g maximum sources r (withSession (contextOf env g settings) f) := by
  have hspared : Spared env g sources r := by
    cases r with
    | functions asked => exact absurd rfl (hrequest asked)
    | entry | sections | dump => trivial
  have hsaved : r.savedTo g = none := by
    cases r with
    | functions asked => exact absurd rfl (hrequest asked)
    | entry | sections | dump => rfl
  refine ⟨fun hnot => ?_, fun haccepts _ => ?_, fun _ hnot => absurd hspared hnot⟩
  · refine withSession_refuses (Option.not_isSome_iff_eq_none.1 fun hopens =>
      hnot ⟨hopens, ?_, ?_⟩) hrendered
    · exact fun asked _ hr => absurd hr (hrequest asked)
    · exact fun hr => absurd hr (hrequest none)
  · obtain ⟨s, hs⟩ := Option.isSome_iff_exists.1 haccepts.opens
    obtain ⟨notes, hanswer⟩ := withSession_eq (c := contextOf env g settings) hs f
    rw [hanswer] at hrendered ⊢
    rw [hsaved]
    exact ⟨document s, hdocument s hs, (hsucceeds s hs hrendered).with_notes notes⟩

/-- What a call goes by. -/
def typedContext (env : Environment) (g : General) (maximum : Int) (sources : List String)
    (width : Int) : Context :=
  contextOf env g (typedSettings maximum sources width)

theorem runFunctions_ends (asked : Option (List Evidence))
    (hrendered : (runFunctions (typedContext env g maximum sources width) asked).IsRendered) :
    Ends env g maximum sources (.functions asked)
      (runFunctions (typedContext env g maximum sources width) asked) := by
  let c := typedContext env g maximum sources width
  have hsettings : c.settings = typedSettings maximum sources width := rfl
  cases hresult : (analyse c asked).result with
  | error e =>
    have hrefuses := runFunctions_refuses c hsettings asked hresult hrendered
    refine ⟨fun _ => hrefuses, fun haccepts hspared => ?_,
      fun _ _ => ⟨hrefuses.exitCode, fun _ => hrefuses⟩⟩
    obtain ⟨d, s, kinds, hlook, hsize, hopen, hkinds⟩ := haccepts.functions
    obtain ⟨hreportable, -⟩ := hspared d s kinds hlook hopen hkinds
    obtain ⟨an, han⟩ := Analysis.exists_ofBytes_iff.2 ⟨s, hopen, hreportable⟩
    rw [(analyse_eq_ok_iff c hsettings asked).2 ⟨d, kinds, hlook, hsize, hkinds, han⟩] at hresult
    cases hresult
  | ok an =>
    obtain ⟨d, kinds, hlook, hsize, hkinds, han⟩ := (analyse_eq_ok_iff c hsettings asked).1 hresult
    obtain ⟨s, hopen, hreportable⟩ := Analysis.exists_ofBytes_iff.1 ⟨an, han⟩
    obtain ⟨notes, hanswer⟩ := runFunctions_of_ok hresult
    rw [hanswer] at hrendered ⊢
    refine ⟨fun hnot => absurd (accepts_functions hlook hsize hopen hkinds) hnot,
      fun _ hspared => ?_, fun _ hnot => ?_⟩
    · have hwritten := (hspared d s kinds hlook hopen hkinds).2 an han
      exact ⟨an.report c.printTime, .functions hlook hkinds han,
        ((showAnalysis_ends c an hrendered).1 hwritten).with_notes notes⟩
    · have hunwritten : ¬IsWritten c.general c.printTime an := by
        intro hwritten
        refine hnot fun d' s' kinds' hlook' hopen' hkinds' => ?_
        obtain rfl : d = d' := FileState.file.inj (hlook.symm.trans hlook')
        obtain rfl : s = s' := Except.ok.inj (hopen.symm.trans hopen')
        obtain rfl : kinds = kinds' := Except.ok.inj (hkinds.symm.trans hkinds')
        refine ⟨hreportable, fun an' han' => ?_⟩
        obtain rfl : an = an' := Except.ok.inj (han.symm.trans han')
        exact hwritten
      have hfails := ((showAnalysis_ends c an hrendered).2 hunwritten).with_notes notes
      obtain ⟨fault, hfault⟩ := hfails.failure
      refine ⟨hfails.exitCode, fun hnone => ?_⟩
      rw [hfault] at hnone
      cases hnone

theorem request_ends {r : Request} (hdump : ∀ name strings, r ≠ .dump name strings)
    (hrendered : (r.run (typedContext env g maximum sources width)).IsRendered) :
    Ends env g maximum sources r (r.run (typedContext env g maximum sources width)) := by
  let c := typedContext env g maximum sources width
  cases r with
  | entry =>
    exact withSession_ends (fun _ => by rintro ⟨⟩) (fun s hs => .entry hs)
      (fun s _ _ => runEntry_succeeds c s) hrendered
  | sections =>
    refine withSession_ends (fun _ => by rintro ⟨⟩) (fun s hs => .sections hs)
      (fun s hs hshown => ?_) hrendered
    obtain ⟨d, -, hopen⟩ := opened?_eq_some hs
    exact runSections_succeeds c (Session.narrow_of_ofBytes hopen) hshown
  | functions asked => exact runFunctions_ends asked hrendered
  | dump name strings => exact absurd rfl (hdump name strings)

end Requests

/-- By settings of the types that are expected, a call of a command other than a dump is refused if
the file cannot be opened, is too large to be analysed or is to be mined for kinds that are not
known. Otherwise it gives the document of its request, unless it comes to write a number that is too
long; then it ends with an error. -/
theorem command_ends {env : Environment} {args : List String} {g : General} {r : Request}
    {maximum width : Int} {sources : List String} (hcall : Called env args g r)
    (hdump : ∀ name strings, r ≠ .dump name strings)
    (hsettings : HasSettings env g (typedSettings maximum sources width)) :
    ∃ a, run env args = .answered g.stream g.logging a ∧
      (a.IsRendered → Ends env g maximum sources r a) :=
  ⟨_, run_of_called hcall hsettings (loggingOf_eq g _ _ _), request_ends hdump⟩

theorem isTotal_bareRenderer : Markup.bareRenderer.IsTotal := fun _ => ⟨_, rfl⟩

/-- An image, and where it is called. -/
def imageEnvironment (image : Bytes) : Environment where
  renderer := Markup.bareRenderer
  parser := Terminal.commandLine
  files := .ofStates "/" [("a.out", .file image)]
  root := "/carve"
  printTime := "2025-01-01T00:00:00"
  saveTime := "2025-01-01T00:00:01"
  elapsed := "0.1"

/-- The sources of settings that give none. -/
def sourceNames : List String := defaultSources.map (·.regionName)

/-- No file gives any settings there. -/
theorem hasSettings_imageEnvironment (image : Bytes) {g : General} (h : g.config = none) :
    HasSettings (imageEnvironment image) g (typedSettings 104857600 sourceNames 16) := by
  unfold HasSettings
  rw [h]
  rfl

/-- A call for functions that prints and saves a document. -/
def savedCall : List String :=
  ["--json", "--output", "report.json", "a.out", "functions", "-s", "symtab", "-s", "eh_frame"]

def savedGeneral : General := ⟨"a.out", none, true, some "report.json", false⟩

def savedRequest : Request := .functions (some [.symtab, .ehFrame])

theorem called_savedCall (image : Bytes) :
    Called (imageEnvironment image) savedCall savedGeneral savedRequest :=
  ⟨.functions ["symtab", "eh_frame"], rfl, rfl⟩

/-- The analysis of the file of a call, for two kinds of regions. -/
def imageAnalysis (image : Bytes) : Except AnalysisError Analysis :=
  let env := imageEnvironment image
  (Analysis.ofBytes image (env.files.resolve "a.out") [.symtab, .ehFrame] env.elapsed).result

/-- An image with a function and a section that is not as it should be. -/
theorem imageAnalysis_unevenImage :
    ∃ an, imageAnalysis unevenImage = .ok an ∧
      (∀ n ∈ (an.report "2025-01-01T00:00:00").numbers, 0 ≤ n ∧ n < 2 ^ 64) ∧
      an.functions.map (·.start) = [0x401000] ∧
      an.warnings = [".symtab: Invalid symbol table size 25 (not a multiple of 24)"] := by
  have hresult : (imageAnalysis unevenImage).toOption.any (fun an =>
      (∀ n ∈ (an.report "2025-01-01T00:00:00").numbers, 0 ≤ n ∧ n < 2 ^ 64) ∧
        an.functions.map (·.start) = [0x401000] ∧
        an.warnings = [".symtab: Invalid symbol table size 25 (not a multiple of 24)"]) = true := by
    decide +kernel
  cases hanalysis : imageAnalysis unevenImage with
  | error cause => rw [hanalysis] at hresult; cases hresult
  | ok an => rw [hanalysis] at hresult; exact ⟨an, rfl, of_decide_eq_true hresult⟩

theorem accepts_imageEnvironment {image : Bytes} {kinds : List Evidence} {s : Session}
    (hsize : (image.size : Int) ≤ 104857600)
    (hopen : (Session.ofBytes image ((imageEnvironment image).files.resolve "a.out")).result =
      .ok s) :
    Accepts (imageEnvironment image).files "a.out" 104857600 sourceNames
      (.functions (some kinds)) := by
  have hlook : (imageEnvironment image).files.look "a.out" = .file image := rfl
  exact accepts_functions hlook hsize hopen rfl

/-- The call that prints and saves it. -/
theorem command_ends_unevenImage :
    let env := imageEnvironment unevenImage
    Called env savedCall savedGeneral savedRequest ∧
      (∀ name strings, savedRequest ≠ .dump name strings) ∧
      HasSettings env savedGeneral (typedSettings 104857600 sourceNames 16) ∧
      ∃ a, ∃ an : Analysis, run env savedCall = .answered .stderr savedGeneral.logging a ∧
        a.IsRendered ∧ a.Succeeds true (some "report.json") (an.report env.printTime) ∧
        an.functions.map (·.start) = [0x401000] ∧
        an.warnings = [".symtab: Invalid symbol table size 25 (not a multiple of 24)"] := by
  intro env
  have hcall : Called env savedCall savedGeneral savedRequest := called_savedCall unevenImage
  have hdump : ∀ name strings, savedRequest ≠ .dump name strings := by rintro _ _ ⟨⟩
  have hsettings : HasSettings env savedGeneral (typedSettings 104857600 sourceNames 16) :=
    hasSettings_imageEnvironment unevenImage rfl
  obtain ⟨a, hrun, hends⟩ := command_ends hcall hdump hsettings
  have hanswer := run_of_called hcall hsettings (loggingOf_eq _ _ _ _)
  have hrendered : a.IsRendered := by
    obtain ⟨-, -, rfl⟩ := Outcome.answered.inj (hanswer.symm.trans hrun)
    let c := typedContext env savedGeneral 104857600 sourceNames 16
    show (runFunctions c (some [.symtab, .ehFrame])).IsRendered
    exact isRendered_runFunctions (c := c) isTotal_bareRenderer rfl _
  obtain ⟨an, han, hwords, hfunctions, hwarnings⟩ := imageAnalysis_unevenImage
  obtain ⟨s, hopen, hreportable⟩ := Analysis.exists_ofBytes_iff.1 ⟨an, han⟩
  have hlook : env.files.look "a.out" = .file unevenImage := rfl
  have haccepts : Accepts env.files "a.out" 104857600 sourceNames savedRequest :=
    accepts_imageEnvironment (by decide +kernel) hopen
  have hwritable : (an.report env.printTime).IsWritable := by
    intro n hn
    obtain ⟨hpos, hlt⟩ := hwords n hn
    exact IsWord.isShort ⟨n.toNat, by omega, by omega⟩
  have hspared : Spared env savedGeneral sourceNames savedRequest := by
    intro d s' kinds hlook' hopen' hkinds
    obtain rfl := FileState.file.inj (hlook.symm.trans hlook')
    obtain rfl := Except.ok.inj (hopen.symm.trans hopen')
    cases hkinds
    refine ⟨hreportable, fun an' han' => ?_⟩
    obtain rfl := Except.ok.inj (han.symm.trans han')
    exact ⟨hwritable, fun _ => hwritable⟩
  obtain ⟨document, hdocument, hsucceeds⟩ := (hends hrendered).succeeds haccepts hspared
  rw [hdocument.eq_report hlook rfl han] at hsucceeds
  exact ⟨hcall, hdump, hsettings, a, an, hrun, hrendered, hsucceeds, hfunctions, hwarnings⟩

/-- A call for functions of a file that can be opened, with a section that cannot be reported on. -/
def overlongCall : List String := ["--json", "a.out", "functions", "--source", "eh_frame"]

def overlongGeneral : General := ⟨"a.out", none, true, none, false⟩

/-- A call that is accepted and ends with an error. -/
theorem run_overlongImage :
    let env := imageEnvironment overlongImage
    Called env overlongCall overlongGeneral (.functions (some [.ehFrame])) ∧
      HasSettings env overlongGeneral (typedSettings 104857600 sourceNames 16) ∧
      Accepts env.files "a.out" 104857600 sourceNames (.functions (some [.ehFrame])) ∧
      ∃ a, run env overlongCall = .answered .stderr overlongGeneral.logging a ∧
        a.IsRendered ∧ a.exitCode = 1 := by
  intro env
  have hcall : Called env overlongCall overlongGeneral (.functions (some [.ehFrame])) :=
    ⟨.functions ["eh_frame"], rfl, rfl⟩
  have hsettings : HasSettings env overlongGeneral (typedSettings 104857600 sourceNames 16) :=
    hasSettings_imageEnvironment overlongImage rfl
  have hlook : env.files.look "a.out" = .file overlongImage := rfl
  obtain ⟨s, -, hopen, -⟩ := open_overlongImage
  have hopened := Session.ofBytes_path hopen (env.files.resolve "a.out")
  let c := typedContext env overlongGeneral 104857600 sourceNames 16
  have hc : c.settings = typedSettings 104857600 sourceNames 16 := rfl
  refine ⟨hcall, hsettings, accepts_imageEnvironment (by decide +kernel) hopened,
    (Request.functions (some [.ehFrame])).run c,
    run_of_called hcall hsettings (loggingOf_eq _ _ _ _), ?_⟩
  show (runFunctions c (some [.ehFrame])).IsRendered ∧
    (runFunctions c (some [.ehFrame])).exitCode = 1
  refine ⟨isRendered_runFunctions (c := c) isTotal_bareRenderer rfl _, ?_⟩
  cases hresult : (analyse c (some [.ehFrame])).result with
  | error e => exact exitCode_of_error hresult
  | ok an =>
    obtain ⟨d, kinds, hlook', -, hkinds, han⟩ := (analyse_eq_ok_iff c hc _).1 hresult
    obtain rfl := FileState.file.inj (hlook.symm.trans hlook')
    cases hkinds
    obtain ⟨s', hopen', hreportable⟩ := Analysis.exists_ofBytes_iff.1 ⟨an, han⟩
    exact absurd (hreportable .ehFrame List.mem_cons_self) (not_reportable_overlongImage hopen')

end FunctionBounds.Command
