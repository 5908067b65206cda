import FunctionBounds.Display.Hexdump
import FunctionBounds.Display.Renderer
import FunctionBounds.Text.Decimal

/-!
# Console output

* `Console.Item`: one thing that is shown.
* `Console.Output`: what is shown, up to a fault if there is one.
* `Console.heading`, `Console.warning`, …: the parts that views are made of.
-/

namespace FunctionBounds.Console

/-- One thing that is shown. -/
inductive Item where
  /-- A line across the console, with a title or without. -/
  | rule (title : String)
  | text (line : String)
  | panel (title : String) (lines : List String)
  | table (title : Option String) (columns : List String) (rows : List (List String))
  deriving DecidableEq, Repr

/-- Why something cannot be shown. -/
inductive Fault where
  | markup (cause : RenderError)
  /-- A number is too long to be written. -/
  | number (cause : Text.TooLong)
  /-- A quotient is greater than all numbers with a fraction. -/
  | hugeQuotient
  | hexdump (cause : Hexdump.Error)
  deriving DecidableEq, Repr

/-- The sentence that reports a fault. -/
def Fault.message : Fault → String
  | markup cause => cause.message
  | number cause => cause.message
  | hugeQuotient => "The quotient is too large"
  | hexdump cause => cause.message

/-! ## Output -/

/-- What is shown. After a fault nothing more is. -/
structure Output where
  items : List Item := []
  fault : Option Fault := none
  deriving DecidableEq, Repr

namespace Output

/-- One thing and no fault. -/
def one (item : Item) : Output := ⟨[item], none⟩

/-- What is shown if there is no fault. -/
def ofExcept (shown : Except Fault (List Item)) : Output :=
  match shown with
  | .ok items => ⟨items, none⟩
  | .error fault => ⟨[], some fault⟩

/-- One output and, if it has no fault, another one after it. -/
def append (x y : Output) : Output :=
  match x.fault with
  | none => ⟨x.items ++ y.items, y.fault⟩
  | some _ => x

instance : Append Output := ⟨append⟩

/-- Several outputs in order. -/
def join (outputs : List Output) : Output := outputs.foldr (· ++ ·) {}

@[simp] theorem append_of_fault {x : Output} (y : Output) {f : Fault} (h : x.fault = some f) :
    x ++ y = x := by
  change append x y = x
  rw [append, h]

@[simp] theorem append_of_no_fault {x : Output} (y : Output) (h : x.fault = none) :
    x ++ y = ⟨x.items ++ y.items, y.fault⟩ := by
  change append x y = _
  rw [append, h]

end Output

/-! ## Parts of views -/

/-- A number in decimal. -/
def decimal (n : Int) : Except Fault String := do
  (Text.DigitLimit.standard.check n).mapError .number
  return toString n

/-- A number in decimal, its digits in groups of three. -/
def grouped (n : Int) : Except Fault String := do
  (Text.DigitLimit.standard.check n).mapError .number
  return Text.grouped n

/-- An empty line. -/
def blank : Output := .one (.text "")

/-- A line across the console. -/
def divider : Output := .one (.rule "")

/-- The title of a part, between two blanks on each side. -/
def heading (title : String) : Output := .one (.rule s!"  {title}  ") ++ blank

section Rendered

variable (r : Renderer)

/-- What a text with markup shows. -/
def plain (s : String) : Except Fault String := (r.plain s).mapError .markup

/-- A line of text with markup. -/
def markup (s : String) : Output := .ofExcept do return [.text (← plain r s)]

/-- A message after a mark and a word. The markup in the message is shown as it is. -/
def labelled (style mark word message : String) : Output :=
  markup r s!"[{style}]\\[{mark}] {word}:[/{style}] {r.escape message}"

def success (message : String) : Output := labelled r "carve.success" "✔" "SUCCESS" message

def warning (message : String) : Output := labelled r "carve.warning" "⚠" "WARNING" message

def error (message : String) : Output := labelled r "carve.error" "✘" "ERROR" message

end Rendered

end FunctionBounds.Console
