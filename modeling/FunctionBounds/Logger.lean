import FunctionBounds.Journal
import FunctionBounds.Json
import FunctionBounds.Text.Quoted

/-!
# Log files

* `threshold`: the least severity that is written.
* `Logger`: the writer of the notes of one component.
* `Logger.textLine`, `Logger.jsonLine`: how a note is written.
* `Logger.text`: the notes of a log file.
* `Journal`: notes made while operations and timed steps are nested in each other.
-/

namespace FunctionBounds

namespace Severity

/-- The name of a severity. -/
def name : Severity → String
  | debug => "DEBUG"
  | info => "INFO"
  | warning => "WARNING"

/-- The place of a severity on the scale of thresholds. -/
def weight : Severity → Nat
  | debug => 10
  | info => 20
  | warning => 30

end Severity

/-- The capital letters of a character. Outside ASCII only the dotless i, the long s and the
ligatures of s and t have capitals that stand in the name of a level. -/
def capitals (c : Char) : List Char :=
  if c == 'ı' then ['I']
  else if c == 'ſ' then ['S']
  else if c == 'ﬅ' || c == 'ﬆ' then ['S', 'T']
  else [c.toUpper]

/-- Why a level cannot be used: its name stands for something else. -/
inductive LevelError where
  /-- The name stands for the form of a line. -/
  | lineFormat
  /-- The name stands for the table of styles in which lines can be formed. -/
  | styleTable
  deriving DecidableEq, Repr

/-- The form of a line if no other is chosen. -/
def basicLineFormat : String := "%(levelname)s:%(name)s:%(message)s"

/-- The sentence that reports an error. -/
def LevelError.message : LevelError → String
  | lineFormat => "Unknown level: " ++ Text.quoted basicLineFormat
  | styleTable => "The table of styles is not a level"

/-- The least weight that is written at a level, by its name in any case. A name that is none
stands for `INFO`, and a level that is not set leaves warnings. -/
def threshold (level : String) : Except LevelError Nat :=
  match String.ofList (level.toList.flatMap capitals) with
  | "DEBUG" => .ok 10
  | "INFO" => .ok 20
  | "WARNING" => .ok 30
  | "WARN" => .ok 30
  | "ERROR" => .ok 40
  | "CRITICAL" => .ok 50
  | "FATAL" => .ok 50
  | "NOTSET" => .ok 30
  | "BASIC_FORMAT" => .error .lineFormat
  | "_STYLES" => .error .styleTable
  | _ => .ok 20

/-- The writer of the notes of one component. -/
structure Logger where
  component : String
  threshold : Nat := 20
  deriving Repr

namespace Logger

/-- The name of a component's log. -/
def channel (l : Logger) : String := "carve." ++ l.component

/-- Whether a note is written. -/
def accepts (l : Logger) (n : Note) : Bool := l.threshold ≤ n.severity.weight

/-- A note as a line of text. -/
def textLine (l : Logger) (time : String) (n : Note) : String :=
  let severity := n.severity.name
  let padding := String.ofList (List.replicate (8 - severity.length) ' ')
  s!"{time} | {severity}{padding} | {l.channel} | {n.text}"

/-- A note as a JSON document. -/
def jsonOf (l : Logger) (time : String) (n : Note) : Json := .object (
  [("timestamp", .string time),
    ("level", .string n.severity.name),
    ("logger", .string l.channel),
    ("message", .string n.text),
    ("component", .string l.component)] ++
    n.operation.toList.map fun o => ("operation", .string o))

/-- A note as a line of JSON. -/
def jsonLine (l : Logger) (time : String) (n : Note) : String := (l.jsonOf time n).line

/-- The text of the notes that are written, each as `line` has it. -/
def text (l : Logger) (line : Note → String) (ns : List Note) : String :=
  String.join ((ns.filter l.accepts).map fun n => line n ++ "\n")

end Logger

/-! ## Nested operations -/

/-- Something that is going on: an operation, to which notes belong, or a step that is timed. -/
inductive Activity where
  | operation (name : String)
  | timed (label : String)
  deriving DecidableEq, Repr

/-- What happens to a journal. -/
inductive JournalEvent where
  | note (severity : Severity) (text : String)
  | enter (activity : Activity)
  /-- The innermost activity ends. -/
  | leave
  deriving DecidableEq, Repr

/-- The notes so far, the last one first, and the activities that are going on, the innermost one
first and each with the operation that it belongs to. -/
structure Journal where
  notes : List Note := []
  activities : List (Activity × Option String) := []

namespace Journal

/-- The innermost operation. -/
def operation? (j : Journal) : Option String := j.activities.head?.bind (·.2)

/-- Adds a note, which belongs to the innermost operation. -/
def add (j : Journal) (severity : Severity) (text : String) : Journal :=
  { j with notes := ⟨severity, text, j.operation?⟩ :: j.notes }

/-- Starts an activity. -/
def enter (j : Journal) (activity : Activity) : Journal :=
  match activity with
  | .operation name => { j with activities := (activity, some name) :: j.activities }
  | .timed label =>
    { j.add .debug s!"Started: {label}" with
      activities := (activity, j.operation?) :: j.activities }

/-- Ends the innermost activity; `elapsed` is the time that is noted for a timed step. -/
def leave (j : Journal) (elapsed : String) : Journal :=
  match j.activities with
  | [] => j
  | (.operation _, _) :: rest => { j with activities := rest }
  | (.timed label, _) :: rest =>
    { j.add .debug s!"Completed: {label} ({elapsed} sec)" with activities := rest }

/-- Takes one event. -/
def step (elapsed : String) (j : Journal) : JournalEvent → Journal
  | .note severity text => j.add severity text
  | .enter activity => j.enter activity
  | .leave => j.leave elapsed

/-- The notes of a course of events. What is still going on at the end is ended then. -/
def ofEvents (elapsed : String) (events : List JournalEvent) : List Note :=
  let j := events.foldl (step elapsed) {}
  let ended := j.activities.foldl (fun j _ => j.leave elapsed) j
  ended.notes.reverse

end Journal

end FunctionBounds
