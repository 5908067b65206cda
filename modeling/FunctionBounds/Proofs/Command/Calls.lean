import FunctionBounds.Command.Run
import FunctionBounds.Proofs.Json.RoundTrip
import FunctionBounds.Proofs.Session.Regions

/-!
# Well-formed calls

Whatever reads the arguments and renders the console:

- **Calls** (`Called`, `run_of_called`): what a call with well-formed arguments leaves behind, by
  settings that say nothing of where notes go (`loggingOf_eq`), is the answer to its request.
- **Refusals** (`Answer.Refuses`): one error on the console, and nothing else.
- **Files** (`opened?`): a request about a session is refused if there is none
  (`withSession_refuses`), and otherwise ends as its session has it (`withSession_eq`).
- **Documents** (`Answer.Prints`): a document whose numbers can be written is printed as a whole,
  so that it can be read from what is printed (`prints_printed`).
-/

namespace FunctionBounds

/-- A text is that of a document, which is read from it. -/
structure Json.IsTextOf (text : String) (j : Json) : Prop where
  written : text = (j.pretty .standard).text
  reads : Json.read text = some j

theorem Json.IsWritable.isTextOf {j : Json} (h : j.IsWritable) :
    IsTextOf (j.pretty .standard).text j := by
  have hblank : ∀ c ∈ "".toList, isBlank c = true := List.forall_mem_nil _
  have hread := read_pretty (isWritable_iff.2 h) hblank
  rw [String.append_empty] at hread
  exact ⟨rfl, hread⟩

/-- One line is shown, unless there is a fault in its markup. -/
def Console.IsLine (x : Output) : Prop :=
  (∃ text, x = .one (.text text)) ∨ ∃ cause, x = ⟨[], some (.markup cause)⟩

theorem Console.isLine_markup (r : Renderer) (s : String) : IsLine (markup r s) := by
  unfold IsLine markup plain
  cases r.plain s with
  | ok text => exact .inl ⟨text, rfl⟩
  | error cause => exact .inr ⟨cause, rfl⟩

theorem Console.isLine_error (r : Renderer) (message : String) : IsLine (error r message) :=
  isLine_markup r _

theorem Console.isLine_success (r : Renderer) (message : String) : IsLine (success r message) :=
  isLine_markup r _

/-- Every text with markup can be shown. -/
def Renderer.IsTotal (r : Renderer) : Prop := ∀ s, ∃ text, r.plain s = .ok text

theorem Console.fault_markup {r : Renderer} (h : r.IsTotal) (s : String) :
    (markup r s).fault = none := by
  obtain ⟨text, htext⟩ := h s
  rw [markup, plain, htext]
  rfl

theorem Console.fault_error {r : Renderer} (h : r.IsTotal) (message : String) :
    (error r message).fault = none := fault_markup h _

theorem Console.fault_success {r : Renderer} (h : r.IsTotal) (message : String) :
    (success r message).fault = none := fault_markup h _

namespace Command

/-! ## Calls -/

/-- Arguments are well-formed: they are read as what holds for every command, and as what one of
them is asked to do. -/
def Called (env : Environment) (args : List String) (g : General) (r : Request) : Prop :=
  ∃ invocation, env.parser.read env.files args = .ok (g, .ok invocation) ∧
    invocation.request = .ok r

/-- The console is apart from documents. -/
def General.stream (g : General) : Stream := if g.json then .stderr else .stdout

/-- Notes go nowhere but to the console for errors. -/
def General.logging (g : General) : Logging := ⟨⟨"cli", if g.verbose then 10 else 20⟩, none, false⟩

variable {env : Environment} {args : List String} {g : General} {r : Request}

/-- The settings for analyses do not matter. -/
theorem loggingOf_eq (g : General) (maximum sources width : Toml.Value) :
    loggingOf g { maxFileSizeValue := maximum, sourcesValue := sources,
                  hexdumpWidthValue := width } = .ok g.logging := by
  unfold loggingOf thresholdOf General.logging
  cases g.verbose <;> rfl

/-- Where the settings of a call come from, and what they are. -/
def HasSettings (env : Environment) (g : General) (settings : Settings) : Prop :=
  Settings.find env.files env.root g.config settingsRoom = .ok settings

/-- What a call goes by. -/
def contextOf (env : Environment) (g : General) (settings : Settings) : Context :=
  { env with general := g, settings }

theorem run_of_called (hcall : Called env args g r) {settings : Settings}
    (hsettings : HasSettings env g settings) (hlogging : loggingOf g settings = .ok g.logging) :
    run env args = .answered g.stream g.logging (r.run (contextOf env g settings)) := by
  obtain ⟨invocation, hread, hrequest⟩ := hcall
  have hprepare : prepare env g = .ok (contextOf env g settings, g.logging) := by
    unfold HasSettings at hsettings
    rw [prepare, hsettings, mapError_ok]
    simp only [bind, Except.bind, hlogging]
    rfl
  simp only [run, hread, hprepare, Except.bind, hrequest]
  rfl

/-! ## Refusals -/

/-- What was to be shown has no markup with a fault in it. -/
def Answer.IsRendered (a : Answer) : Prop := ∀ cause, a.failure ≠ some (.output (.markup cause))

/-- A refusal: one error on the console, and nothing else. -/
structure Answer.Refuses (render : Renderer) (a : Answer) : Prop where
  exitCode : a.exitCode = 1
  stdout : a.stdout = ""
  console : ∃ message text, Console.error render message = .one (.text text) ∧
    a.console = [.text text]
  failure : a.failure = none
  report : a.report = none

theorem refuses_refused {c : Context} {message : String} (h : (refused c message).IsRendered) :
    (refused c message).Refuses c.renderer := by
  unfold refused at h ⊢
  obtain ⟨text, htext⟩ | ⟨cause, hcause⟩ := Console.isLine_error c.renderer message
  · rw [htext]
    exact ⟨rfl, rfl, ⟨message, text, htext, rfl⟩, rfl, rfl⟩
  · rw [hcause] at h
    exact absurd rfl (h cause)

theorem isRendered_refused {c : Context} (h : c.renderer.IsTotal) (message : String) :
    (refused c message).IsRendered := by
  simp only [refused, Answer.shows, Console.fault_error h message]
  rintro cause ⟨⟩

theorem Answer.Refuses.with_notes {render : Renderer} {a : Answer} (h : a.Refuses render)
    (notes : List Note) : { a with notes }.Refuses render :=
  ⟨h.exitCode, h.stdout, h.console, h.failure, h.report⟩

/-! ## Files -/

/-- The session of the file at a path, if it can be opened. -/
def opened? (files : Files) (path : String) : Option Session :=
  (files.contents path).toOption.bind fun d =>
    (Session.ofBytes d (collapsePath path)).result.toOption

theorem opened?_eq_some {files : Files} {path : String} {s : Session}
    (h : opened? files path = some s) :
    ∃ d, files.contents path = .ok d ∧ (Session.ofBytes d (collapsePath path)).result = .ok s := by
  obtain ⟨d, hd, hs⟩ := Option.bind_eq_some_iff.1 h
  exact ⟨d, eq_ok_of_toOption hd, eq_ok_of_toOption hs⟩

theorem withSession_eq {c : Context} {s : Session} (h : opened? c.files c.general.path = some s)
    (f : Session → Answer) : ∃ notes, withSession c f = { f s with notes } := by
  obtain ⟨d, hd, hs⟩ := opened?_eq_some h
  simp only [withSession, hd, hs]
  exact ⟨_, rfl⟩

theorem withSession_refuses {c : Context} (h : opened? c.files c.general.path = none)
    {f : Session → Answer} (hrendered : (withSession c f).IsRendered) :
    (withSession c f).Refuses c.renderer := by
  unfold withSession at hrendered ⊢
  cases hd : c.files.contents c.general.path with
  | error cause =>
    simp only [hd] at hrendered ⊢
    exact refuses_refused hrendered
  | ok d =>
    rw [opened?, hd] at h
    cases hs : (Session.ofBytes d (collapsePath c.general.path)).result with
    | ok s => simp [Except.toOption, hs] at h
    | error cause =>
      simp only [hd, hs] at hrendered ⊢
      exact (refuses_refused hrendered).with_notes _

/-! ## Documents -/

/-- A document is all that is printed, and nothing is shown or saved. -/
structure Answer.Prints (j : Json) (a : Answer) : Prop where
  exitCode : a.exitCode = 0
  stdout : ∃ text, Json.IsTextOf text j ∧ a.stdout = text ++ "\n"
  console : a.console = []
  failure : a.failure = none
  report : a.report = none

theorem prints_printed {j : Json} (h : j.IsWritable) : (printed j).Prints j := by
  simp only [printed, Json.isWritable_iff.2 h]
  exact ⟨rfl, ⟨_, h.isTextOf, rfl⟩, rfl, rfl, rfl⟩

theorem Answer.Prints.with_notes {a : Answer} {j : Json} (h : a.Prints j) (notes : List Note) :
    { a with notes }.Prints j :=
  ⟨h.exitCode, h.stdout, h.console, h.failure, h.report⟩

end Command

end FunctionBounds
