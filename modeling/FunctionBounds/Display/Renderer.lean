/-!
# Renderers

Text for the console is markup: tags in brackets say how it looks. What such a text shows, and how
a text from outside is escaped so that it is no markup, is up to what renders the console.

* `Renderer`: what renders the console.
* `Renderer.Lawful`: what is relied on where texts are to be shown as they are.
-/

namespace FunctionBounds

/-- Why a text with markup cannot be shown. -/
inductive RenderError where
  /-- It is no markup. -/
  | markup (message : String)
  /-- A value in a tag cannot be read. -/
  | value (message : String)
  deriving DecidableEq, Repr

/-- The sentence that reports an error. -/
def RenderError.message : RenderError → String
  | markup message => message
  | value message => message

/-- What renders the console. -/
structure Renderer where
  /-- What a text with markup shows. -/
  plain : String → Except RenderError String
  /-- A text of which the markup is to be shown as it is. -/
  escape : String → String

namespace Markup

/-- A part of a text with markup. -/
inductive Part where
  /-- Characters that stand for themselves. -/
  | text (chars : String)
  /-- A bracket that is shown, behind a backslash. -/
  | bracket
  | opening (style : String)
  | closing (style : String)
  deriving DecidableEq, Repr

/-- How a part is written. -/
def Part.written : Part → String
  | text chars => chars
  | bracket => "\\["
  | opening style => "[" ++ style ++ "]"
  | closing style => "[/" ++ style ++ "]"

/-- What a part shows: tags show nothing. -/
def Part.shown : Part → String
  | text chars => chars
  | bracket => "["
  | opening _ => ""
  | closing _ => ""

/-- Several parts as one text. -/
def written (parts : List Part) : String := String.join (parts.map (·.written))

/-- What several parts show. -/
def shown (parts : List Part) : String := String.join (parts.map (·.shown))

/-- Characters stand for themselves if there is neither a bracket that opens nor a backslash among
them. -/
def IsLiteral (s : String) : Prop := '[' ∉ s.toList ∧ '\\' ∉ s.toList

instance (s : String) : Decidable (IsLiteral s) := inferInstanceAs (Decidable (_ ∧ _))

/-- Whether a text can be the name of a style: small letters, with dots, underscores and blanks
among them. -/
def isStyle (name : String) : Bool :=
  name.toList.head?.any Char.isLower &&
    name.toList.all fun c => c.isLower || c == '.' || c == '_' || c == ' '

/-- Parts are well-formed where the styles in `opened` are open: text is literal, and a tag closes a
style that is open. -/
def WellFormed (opened : List String) : List Part → Prop
  | [] => True
  | .text chars :: parts => IsLiteral chars ∧ WellFormed opened parts
  | .bracket :: parts => WellFormed opened parts
  | .opening style :: parts => isStyle style = true ∧ WellFormed (style :: opened) parts
  | .closing style :: parts => style ∈ opened ∧ WellFormed (opened.erase style) parts

end Markup

/-- Tags are removed from markup, and what is escaped is literal. -/
structure Renderer.Lawful (r : Renderer) : Prop where
  removes_tags (parts : List Markup.Part) (h : Markup.WellFormed [] parts) :
    r.plain (Markup.written parts) = .ok (Markup.shown parts)
  escape_literal (parts : List Markup.Part) (h : Markup.WellFormed [] parts) (s : String) :
    r.plain (Markup.written parts ++ r.escape s) = .ok (Markup.shown parts ++ s)

end FunctionBounds
