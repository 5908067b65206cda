import FunctionBounds.Terminal.Markup.Color

/-!
# Styles

A style is a list of words: attributes, a color, a color behind the text, and a link. Styles that
look the same have one normal form.

* `Style.parse`: the style that words describe, if they describe one.
* `Style.normal`: the normal form of a text, which may be no style.
-/

namespace FunctionBounds.Terminal

/-- How text looks. -/
structure Style where
  /-- Attributes, and whether they are turned on or off. The last choice stands first. -/
  attributes : List (String × Bool) := []
  color : Option String := none
  background : Option String := none
  link : Option String := none
  deriving DecidableEq, Repr

namespace Style

/-- The attributes in the order of the normal form, each with its short names. -/
def attributeNames : List (String × List String) := [
  ("bold", ["b"]), ("dim", ["d"]), ("italic", ["i"]), ("underline", ["u"]), ("blink", []),
  ("blink2", []), ("reverse", ["r"]), ("conceal", ["c"]), ("strike", ["s"]),
  ("underline2", ["uu"]), ("frame", []), ("encircle", []), ("overline", ["o"])]

/-- The attribute that a word names. -/
def attribute? (word : String) : Option String :=
  (attributeNames.find? fun (name, short) => name == word || short.contains word).map (·.1)

/-- Turns an attribute on or off. -/
def set (s : Style) (name : String) (isOn : Bool) : Style :=
  { s with attributes := (name, isOn) :: s.attributes }

/-- The style that more words describe after those already read, or none. There are at most as many
steps as words. -/
def parseWords : Nat → Style → List String → Except ComponentError (Option Style)
  | _, s, [] => .ok (some s)
  | 0, _, _ => .ok none
  | steps + 1, s, word :: rest => do
    let lower := Text.lowerCase word
    match lower, rest with
    | "on", color :: rest =>
      let color := Text.lowerCase color
      if ← Color.isColor color then parseWords steps { s with background := some color } rest
      else return none
    | "not", name :: rest =>
      match attribute? name with
      | some name => parseWords steps (s.set name false) rest
      | none => return none
    | "link", target :: rest => parseWords steps { s with link := some target } rest
    | _, _ =>
      match attribute? lower with
      | some name => parseWords steps (s.set name true) rest
      | none =>
        if ← Color.isColor lower then parseWords steps { s with color := some lower } rest
        else return none

/-- The words of a text. -/
def words (text : String) : List String :=
  ((text.toList.splitBy fun a b => Text.isBlank a == Text.isBlank b).filter fun word =>
    !word.any Text.isBlank).map String.ofList

/-- The style that a text describes, or none. -/
def parse (text : String) : Except ComponentError (Option Style) :=
  if Text.strip text == "none" then .ok (some {})
  else
    let words := words text
    parseWords words.length {} words

/-- The normal form of a style. -/
def toText (s : Style) : String :=
  let attributes := attributeNames.filterMap fun (name, _) =>
    (s.attributes.lookup name).map fun isOn => if isOn then name else "not " ++ name
  let parts := attributes ++ s.color.toList ++ s.background.toList.map ("on " ++ ·) ++
    s.link.toList.map ("link " ++ ·)
  if parts.isEmpty then "none" else " ".intercalate parts

/-- The normal form of a text. Of a text that is no style it is the text itself in lower case,
without the blanks at its ends. -/
def normal (text : String) : Except ComponentError String := do
  match ← parse text with
  | some s => return s.toText
  | none => return Text.lowerCase (Text.strip text)

end Style

end FunctionBounds.Terminal
