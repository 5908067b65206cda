import FunctionBounds.Proofs.Command.Calls
import FunctionBounds.Proofs.Display.Hexdump
import FunctionBounds.Proofs.Display.Renderer
import FunctionBounds.Terminal.CommandLine

/-!
# Dumps

- **Regions** (`dumped?`): a dump is of the first region of its name, and refused if there is none
  (`runDump_refuses`).
- **Lines** (`Answer.Dumps`): they are the last member of a document, or stand under a title. Either
  way an answer has the lines that there are, or fails if there are none of the width
  (`runHexdump_of_ok`, `runHexdump_of_error`).
- **Widths** (`dump_ends`): lines of a positive width that is not too great show all octets. Lines
  of a negative one show none of them (`dump_hides`).
-/

namespace FunctionBounds

namespace Hexdump

theorem lines_of_neg (d : Bytes) (base : Int) {width : Int} (h : width < 0) :
    lines d base width = .ok [] := by
  obtain ⟨n, rfl⟩ := Int.eq_negSucc_of_lt_zero h
  rfl

theorem lines_zero (d : Bytes) (base : Int) : lines d base 0 = .error .zeroWidth := rfl

end Hexdump

namespace Command

/-! ## Lines -/

/-- The title of a dump, and an empty line. -/
def titleItems (r : Region) : List Console.Item :=
  let title := s!"{r.name} ({Text.grouped r.raw.size} bytes)"
  [.rule s!"  {title}  ", .text ""]

/-- Lines of a region are all that an answer gives: as the last member of a document, or on the
console under a title. -/
inductive Answer.Dumps (r : Region) (ls : List String) : (json : Bool) → Answer → Prop where
  | printed {a : Answer} (h : a.Prints (dumpJson r ("hexdump", .array (ls.map .string)))) :
    Dumps r ls true a
  | shown {a : Answer} (exitCode : a.exitCode = 0) (stdout : a.stdout = "")
    (console : a.console = titleItems r ++ ls.map .text) (failure : a.failure = none)
    (report : a.report = none) : Dumps r ls false a

/-- An answer that fails for want of lines: nothing is printed, and no lines are shown. -/
structure Answer.Breaks (r : Region) (e : Hexdump.Error) (json : Bool) (a : Answer) : Prop where
  exitCode : a.exitCode = 1
  stdout : a.stdout = ""
  console : a.console = if json then [] else titleItems r
  failure : a.failure = some (.output (.hexdump e))
  report : a.report = none

theorem Answer.Dumps.with_notes {r : Region} {ls : List String} {json : Bool} {a : Answer}
    (h : a.Dumps r ls json) (notes : List Note) : { a with notes }.Dumps r ls json := by
  cases h with
  | printed h => exact .printed (h.with_notes notes)
  | shown exitCode stdout console failure report =>
    exact .shown exitCode stdout console failure report

theorem Answer.Breaks.with_notes {r : Region} {e : Hexdump.Error} {json : Bool} {a : Answer}
    (h : a.Breaks r e json) (notes : List Note) : { a with notes }.Breaks r e json :=
  ⟨h.exitCode, h.stdout, h.console, h.failure, h.report⟩

/-- The console shows no other lines. -/
theorem Answer.Dumps.lines_eq {r : Region} {ls ls' : List String} {a : Answer}
    (h : a.Dumps r ls false) (h' : a.Dumps r ls' false) : ls = ls' := by
  obtain _ | ⟨-, -, hconsole, -, -⟩ := h
  obtain _ | ⟨-, -, hconsole', -, -⟩ := h'
  have hlines := List.append_cancel_left (hconsole.symm.trans hconsole')
  exact List.map_injective_iff.2 (fun _ _ => Console.Item.text.inj) hlines

/-- The numbers of a dump have at most 64 bits. -/
theorem prints_dumpJson {r : Region} (hr : r.IsNarrow) (ls : List String) :
    (printed (dumpJson r ("hexdump", .array (ls.map .string)))).Prints
      (dumpJson r ("hexdump", .array (ls.map .string))) := by
  have hlines : Json.itemNumbers (ls.map .string) = [] := by
    induction ls with
    | nil => rfl
    | cons l ls ih => rw [List.map_cons, Json.itemNumbers, ih]; rfl
  refine prints_printed ?_
  simp only [Json.IsWritable, dumpJson, Json.numbers, Json.memberNumbers, hlines, List.nil_append,
    List.append_nil, List.cons_append, List.forall_mem_cons]
  exact ⟨hr.virtualAddress.isShort, hr.raw.isShort, nofun⟩

variable {r : Region} {width : Int}

theorem dumpView_eq (r : Region) (width : Int) :
    r.dumpView width = match Hexdump.lines r.raw r.virtualAddress width with
      | .ok ls => ⟨titleItems r ++ ls.map .text, none⟩
      | .error e => ⟨titleItems r, some (.hexdump e)⟩ := by
  have htitle : r.dumpHeading = ⟨titleItems r, none⟩ := rfl
  rw [Region.dumpView, htitle, Console.Output.append_of_no_fault _ rfl]
  cases Hexdump.lines r.raw r.virtualAddress width with
  | ok ls => rfl
  | error e =>
    simp only [Console.Output.ofExcept, Except.mapError, bind, Except.bind, List.append_nil]

theorem runHexdump_of_ok (c : Context) (hr : r.IsNarrow) {ls : List String}
    (h : Hexdump.lines r.raw r.virtualAddress width = .ok ls) :
    (runHexdump c r width).Dumps r ls c.general.json := by
  unfold runHexdump
  cases c.general.json with
  | true =>
    rw [if_pos rfl, h]
    exact .printed (prints_dumpJson hr ls)
  | false =>
    rw [if_neg Bool.false_ne_true, dumpView_eq, h]
    exact .shown rfl rfl rfl rfl rfl

theorem runHexdump_of_error (c : Context) {e : Hexdump.Error}
    (h : Hexdump.lines r.raw r.virtualAddress width = .error e) :
    (runHexdump c r width).Breaks r e c.general.json := by
  unfold runHexdump
  cases c.general.json with
  | true =>
    rw [if_pos rfl, h]
    exact ⟨rfl, rfl, rfl, rfl, rfl⟩
  | false =>
    rw [if_neg Bool.false_ne_true, dumpView_eq, h]
    exact ⟨rfl, rfl, rfl, rfl, rfl⟩

/-! ## Regions -/

/-- The first region of a name in the file at a path, if there is one. -/
def dumped? (files : Files) (path name : String) : Option Region :=
  (opened? files path).bind (·.region? name)

theorem runDump_refuses (c : Context) {name : String}
    (h : dumped? c.files c.general.path name = none)
    (hrendered : ((Request.dump name false).run c).IsRendered) :
    ((Request.dump name false).run c).Refuses c.renderer := by
  have hrun : (Request.dump name false).run c = withSession c (runDump c name false) := rfl
  rw [hrun] at hrendered ⊢
  cases hopen : opened? c.files c.general.path with
  | none => exact withSession_refuses hopen hrendered
  | some s =>
    obtain ⟨notes, hanswer⟩ := withSession_eq hopen (runDump c name false)
    rw [dumped?, hopen, Option.bind_some] at h
    rw [hanswer, runDump, Session.requireRegion, h] at hrendered ⊢
    exact (refuses_refused hrendered).with_notes notes

/-- The numbers of a region that is dumped have at most 64 bits, and it is dumped by the width of
the settings. -/
theorem runDump_eq (c : Context) {name : String} (h : dumped? c.files c.general.path name = some r)
    (hwidth : c.settings.hexdumpWidth = .ok width) :
    r.IsNarrow ∧
      ∃ notes, (Request.dump name false).run c = { runHexdump c r width with notes } := by
  obtain ⟨s, hopen, hregion⟩ := Option.bind_eq_some_iff.1 h
  obtain ⟨d, -, hs⟩ := opened?_eq_some hopen
  refine ⟨Session.narrow_of_ofBytes hs r (List.mem_of_find?_eq_some hregion), ?_⟩
  obtain ⟨notes, hanswer⟩ := withSession_eq hopen (runDump c name false)
  refine ⟨notes, hanswer.trans ?_⟩
  simp only [runDump, Session.requireRegion, hregion, hwidth]
  rfl

/-! ## Widths -/

/-- The octets of a region can stand in lines of a width: there are none, or the column of octets is
not too wide. -/
def FitsWidth (r : Region) (width : Int) : Prop :=
  r.raw = #[] ∨ 3 * width ≤ Hexdump.maxColumn

section Calls

variable {env : Environment} {args : List String} {g : General} {name : String}
  (hcall : Called env args g (.dump name false))
  (hsettings : HasSettings env g { hexdumpWidthValue := .integer width })

/-- What the call of a dump goes by. -/
def dumpContext (env : Environment) (g : General) (width : Int) : Context :=
  contextOf env g { hexdumpWidthValue := .integer width }

include hcall hsettings

theorem run_dump : run env args = .answered g.stream g.logging
    ((Request.dump name false).run (dumpContext env g width)) :=
  run_of_called hcall hsettings (loggingOf_eq g _ _ _)

/-- A dump that is not refused has lines that show all octets of its region, in order, if the width
of the settings is positive and the column of octets not too wide. It has no lines if the width is
negative, whatever octets there are, and it fails if the width is zero or the column too wide. -/
theorem dump_ends :
    ∃ a, run env args = .answered g.stream g.logging a ∧
      (dumped? env.files g.path name = none → a.IsRendered → a.Refuses env.renderer) ∧
      ∀ r, dumped? env.files g.path name = some r →
        (0 < width → FitsWidth r width →
          ∃ ls, a.Dumps r ls g.json ∧ ls.flatMap Hexdump.readOctets = r.raw.toList) ∧
        (width < 0 → a.Dumps r [] g.json) ∧
        (width = 0 → a.Breaks r .zeroWidth g.json) ∧
        (0 < width → ¬FitsWidth r width →
          a.Breaks r .hugeWidth g.json ∨ ∃ cause, a.Breaks r (.tooLong cause) g.json) := by
  let c := dumpContext env g width
  refine ⟨_, run_dump hcall hsettings, runDump_refuses c, fun r hr => ?_⟩
  obtain ⟨hnarrow, notes, hanswer⟩ := runDump_eq c hr (show _ = Except.ok width from rfl)
  obtain ⟨address, -, haddress⟩ := hnarrow.virtualAddress
  rw [hanswer]
  refine ⟨fun hpos hfits => ?_, fun hneg => ?_, fun hzero => ?_, fun hpos hwide => ?_⟩
  · obtain ⟨w, rfl⟩ := Int.eq_ofNat_of_zero_le (Int.le_of_lt hpos)
    have hlines := Hexdump.lines_eq_ok address (Int.natCast_pos.1 hpos)
      (hfits.imp_right fun h => by exact_mod_cast h)
    rw [← haddress] at hlines
    exact ⟨_, (runHexdump_of_ok c hnarrow hlines).with_notes notes,
      Hexdump.flatMap_readOctets r.raw address (Int.natCast_pos.1 hpos)⟩
  · exact (runHexdump_of_ok c hnarrow (Hexdump.lines_of_neg _ _ hneg)).with_notes notes
  · subst hzero
    exact (runHexdump_of_error c (Hexdump.lines_zero _ _)).with_notes notes
  · obtain ⟨w, rfl⟩ := Int.eq_ofNat_of_zero_le (Int.le_of_lt hpos)
    have hlines := Hexdump.lines_eq_error address (Int.natCast_pos.1 hpos)
      (mt (Or.imp_right fun h => by exact_mod_cast h) hwide)
    rw [← haddress] at hlines
    obtain he | ⟨cause, he⟩ := hlines
    · exact .inl ((runHexdump_of_error c he).with_notes notes)
    · exact .inr ⟨cause, (runHexdump_of_error c he).with_notes notes⟩

end Calls

/-- An image with a segment of three octets, and a text of settings. -/
def segmentedFiles (settings : String) : Files :=
  .ofStates "/" [("a.out", .file segmentedImage), ("carve.toml", .file settings.toUTF8.data)]

/-- Where these files are. -/
def segmentedEnvironment (settings : String) : Environment where
  renderer := Markup.bareRenderer
  parser := Terminal.commandLine
  files := segmentedFiles settings
  root := "/carve"
  printTime := "2025-01-01T00:00:00"
  saveTime := "2025-01-01T00:00:01"
  elapsed := "0.1"

/-- A dump of that segment by those settings. -/
def segmentDump : List String := ["--config", "carve.toml", "a.out", "dump", ".segment_2"]

def segmentGeneral : General := ⟨"a.out", some "carve.toml", false, none, false⟩

theorem called_segmentDump (settings : String) :
    Called (segmentedEnvironment settings) segmentDump segmentGeneral (.dump ".segment_2" false) :=
  ⟨.dump ".segment_2" false, rfl, rfl⟩

theorem dumped?_segmentedFiles (settings : String) :
    ∃ r, dumped? (segmentedFiles settings) "a.out" ".segment_2" = some r ∧
      r.raw = #[0x45, 0x4c, 0x46] := by
  have hraw : ((Session.ofBytes segmentedImage "a.out").result.toOption.bind
      (·.region? ".segment_2")).map (·.raw) = some #[0x45, 0x4c, 0x46] := by
    decide +kernel
  obtain ⟨r, hr, hraw⟩ := Option.map_eq_some_iff.1 hraw
  obtain ⟨s, hs, hr⟩ := Option.bind_eq_some_iff.1 hr
  have hopen := Session.ofBytes_path (eq_ok_of_toOption hs) (collapsePath "a.out")
  have hcontents : (segmentedFiles settings).contents "a.out" = .ok segmentedImage := rfl
  refine ⟨r, ?_, hraw⟩
  rw [dumped?, opened?, hcontents]
  simp only [Except.toOption, Option.bind_some, hopen]
  exact hr

/-- The width of hex dumps, if a document gives it and nothing else. -/
def onlyWidth? : Toml.Table → Option Int
  | [("analysis", .table [("hexdump_width", .integer w)])] => some w
  | _ => none

theorem hasSettings_segmentedFiles {settings : String} {width : Int}
    (htext : (Text.Utf8.read settings.toUTF8.data).toOption = some settings)
    (hparse : (Toml.parse settings settingsRoom).toOption.bind onlyWidth? = some width) :
    HasSettings (segmentedEnvironment settings) segmentGeneral
      { hexdumpWidthValue := .integer width } := by
  obtain ⟨t, ht, hwidth⟩ := Option.bind_eq_some_iff.1 hparse
  have hcontents : (segmentedFiles settings).contents "carve.toml" = .ok settings.toUTF8.data := rfl
  show Settings.loadFile (segmentedFiles settings) "carve.toml" settingsRoom = _
  simp only [Settings.loadFile, hcontents, eq_ok_of_toOption htext, mapError_ok, bind, Except.bind,
    Settings.load, eq_ok_of_toOption ht]
  unfold onlyWidth? at hwidth
  split at hwidth
  · cases hwidth
    rfl
  · cases hwidth

/-- Two octets stand in a line, so that there is a second one. -/
theorem dump_ends_segmentedFiles :
    let env := segmentedEnvironment "[analysis]\nhexdump_width = 2\n"
    Called env segmentDump segmentGeneral (.dump ".segment_2" false) ∧
      HasSettings env segmentGeneral { hexdumpWidthValue := .integer 2 } ∧
      ∃ a r ls, run env segmentDump = .answered .stdout segmentGeneral.logging a ∧
        dumped? env.files "a.out" ".segment_2" = some r ∧ a.Dumps r ls false ∧
        ls.flatMap Hexdump.readOctets = [0x45, 0x4c, 0x46] := by
  intro env
  have hcall := called_segmentDump "[analysis]\nhexdump_width = 2\n"
  have hsettings : HasSettings env segmentGeneral { hexdumpWidthValue := .integer 2 } :=
    hasSettings_segmentedFiles (by decide +kernel) (by decide +kernel)
  obtain ⟨r, hr, hraw⟩ := dumped?_segmentedFiles "[analysis]\nhexdump_width = 2\n"
  obtain ⟨a, hrun, -, hdump⟩ := dump_ends hcall hsettings
  obtain ⟨hshown, -⟩ := hdump r hr
  obtain ⟨ls, hls, hread⟩ := hshown (by decide) (.inr (by decide))
  exact ⟨hcall, hsettings, a, r, ls, hrun, hr, hls, by rw [hread, hraw]⟩

/-- By a negative width, a dump ends well and shows none of the three octets. -/
theorem dump_hides :
    let env := segmentedEnvironment "[analysis]\nhexdump_width = -1\n"
    Called env segmentDump segmentGeneral (.dump ".segment_2" false) ∧
      HasSettings env segmentGeneral { hexdumpWidthValue := .integer (-1) } ∧
      ∃ r, dumped? env.files "a.out" ".segment_2" = some r ∧
        ¬ ∃ a ls, run env segmentDump = .answered .stdout segmentGeneral.logging a ∧
          a.Dumps r ls false ∧ ls.flatMap Hexdump.readOctets = r.raw.toList := by
  intro env
  have hcall := called_segmentDump "[analysis]\nhexdump_width = -1\n"
  have hsettings : HasSettings env segmentGeneral { hexdumpWidthValue := .integer (-1) } :=
    hasSettings_segmentedFiles (by decide +kernel) (by decide +kernel)
  obtain ⟨r, hr, hraw⟩ := dumped?_segmentedFiles "[analysis]\nhexdump_width = -1\n"
  refine ⟨hcall, hsettings, r, hr, ?_⟩
  rintro ⟨a, ls, hrun, hls, hread⟩
  let c := dumpContext env segmentGeneral (-1)
  obtain ⟨hnarrow, notes, hanswer⟩ := runDump_eq c hr (show _ = Except.ok (-1) from rfl)
  have hlines : Hexdump.lines r.raw r.virtualAddress (-1) = .ok [] :=
    Hexdump.lines_of_neg _ _ (by decide)
  have hnone : ((Request.dump ".segment_2" false).run c).Dumps r [] false := by
    rw [hanswer]
    exact (runHexdump_of_ok c hnarrow hlines).with_notes notes
  obtain ⟨-, -, ha⟩ := Outcome.answered.inj ((run_dump hcall hsettings).symm.trans hrun)
  rw [← ha] at hls
  rw [Answer.Dumps.lines_eq hls hnone, hraw] at hread
  cases hread

end Command

end FunctionBounds
