import FunctionBounds.Text.Decimal

/-!
# JSON documents

* `Json`: a document; the members of an object keep their order.
* `Json.Written`: the text of a document, up to a number that is too long if there is one.
* `Json.pretty`: the text over several lines, two blanks for each level.
* `Json.line`: the text on one line.
* `Json.check`: an error for a document with a number that is too long.
-/

namespace FunctionBounds

/-- A JSON document. -/
inductive Json where
  | null
  | boolean (b : Bool)
  | integer (n : Int)
  | string (s : String)
  | array (items : List Json)
  | object (members : List (String × Json))
  deriving Repr, Inhabited

namespace Json

/-- How a character stands in a string: quotes, backslashes and control characters are escaped. -/
def escapedChar (c : Char) : String :=
  if c == '\x22' || c == '\\' then String.ofList ['\\', c]
  else if c == '\n' then "\\n"
  else if c == '\r' then "\\r"
  else if c == '\t' then "\\t"
  else if c == '\x08' then "\\b"
  else if c == '\x0c' then "\\f"
  else if c.toNat < 0x20 then "\\u" ++ Text.hexField 4 c.toNat
  else c.toString

/-- A string between quotes. -/
def quotedString (s : String) : String :=
  "\"" ++ String.join (s.toList.map escapedChar) ++ "\""

/-! ## Text as far as it goes -/

/-- The text of a document, up to a number that is too long. -/
structure Written where
  text : String
  fault : Option Text.TooLong := none
  deriving DecidableEq, Repr

namespace Written

/-- One text and, if nothing keeps it from being written, another one after it. -/
def append (x y : Written) : Written :=
  match x.fault with
  | none => ⟨x.text ++ y.text, y.fault⟩
  | some _ => x

instance : Append Written := ⟨append⟩

@[simp] theorem append_of_fault {x : Written} (y : Written) {f : Text.TooLong}
    (h : x.fault = some f) : x ++ y = x := by
  change append x y = x
  rw [append, h]

@[simp] theorem append_of_no_fault {x : Written} (y : Written) (h : x.fault = none) :
    x ++ y = ⟨x.text ++ y.text, y.fault⟩ := by
  change append x y = _
  rw [append, h]

/-- A number in decimal. -/
def integer (l : Text.DigitLimit) (n : Int) : Written :=
  match l.check n with
  | .ok () => ⟨toString n, none⟩
  | .error cause => ⟨"", some cause⟩

end Written

/-! ## Layout -/

/-- How the parts of an array or an object are set apart. -/
structure Layout where
  /-- What stands before the first part of level `n` and after each comma. -/
  lineStart : Nat → String
  /-- What stands after a comma on the same line. -/
  afterComma : String

/-- Every part on a line of its own, two blanks for each level. -/
def indented : Layout where
  lineStart := fun level => "\n" ++ String.ofList (List.replicate (2 * level) ' ')
  afterComma := ""

/-- All parts on one line. -/
def oneLine : Layout where
  lineStart := fun _ => ""
  afterComma := " "

/-- Parts between brackets at a level. -/
def Layout.enclose (l : Layout) (level : Nat) (opening closing : String) (parts : List Written) :
    Written :=
  match parts with
  | [] => ⟨opening ++ closing, none⟩
  | first :: rest =>
    let start := l.lineStart (level + 1)
    let joined := rest.foldl (fun w part => w ++ ⟨"," ++ l.afterComma ++ start, none⟩ ++ part)
      (⟨opening ++ start, none⟩ ++ first)
    joined ++ ⟨l.lineStart level ++ closing, none⟩

mutual

/-- The text of a document at a level. -/
def write (l : Layout) (d : Text.DigitLimit) (level : Nat) : Json → Written
  | null => ⟨"null", none⟩
  | boolean b => ⟨toString b, none⟩
  | integer n => .integer d n
  | string s => ⟨quotedString s, none⟩
  | array items => l.enclose level "[" "]" (writeItems l d (level + 1) items)
  | object members => l.enclose level "\x7b" "\x7d" (writeMembers l d (level + 1) members)

/-- The texts of the items of an array. -/
def writeItems (l : Layout) (d : Text.DigitLimit) (level : Nat) : List Json → List Written
  | [] => []
  | item :: rest => write l d level item :: writeItems l d level rest

/-- The texts of the members of an object. -/
def writeMembers (l : Layout) (d : Text.DigitLimit) (level : Nat) :
    List (String × Json) → List Written
  | [] => []
  | (key, v) :: rest =>
    (⟨quotedString key ++ ": ", none⟩ ++ write l d level v) :: writeMembers l d level rest

end

/-- The text over several lines. -/
def pretty (d : Text.DigitLimit) (j : Json) : Written := write indented d 0 j

/-- The text on one line, with numbers of any length. -/
def line (j : Json) : String := (write oneLine none 0 j).text

/-- No error for a document of which all numbers can be written. -/
def check (d : Text.DigitLimit) (j : Json) : Except Text.TooLong Unit :=
  match (write oneLine d 0 j).fault with
  | none => .ok ()
  | some cause => .error cause

end Json

end FunctionBounds
