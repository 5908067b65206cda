import FunctionBounds.Display.Renderer
import FunctionBounds.Terminal.Markup.Emoji
import FunctionBounds.Terminal.Markup.Literal
import FunctionBounds.Terminal.Markup.Style
import FunctionBounds.Terminal.Alphanumeric

/-!
# Console markup

Text for the console may hold tags: a bracket, a letter or one of `#`, `/` and `@`, and any
characters but an opening bracket up to a closing one. Backslashes in front of a bracket escape it:
two stand for one, and one that is left makes the tag literal. A tag with a slash closes the last
one of its style, or the last one of all if it names none; other tags are open up to the end of the
text unless they are closed. Names of emoji stand between colons.

* `plain`: what a text with tags shows.
* `escape`: a text of which the tags are to be shown as they are.
* `renderer`: what renders the console by these two.

The program runs with this renderer. What is said of consoles elsewhere holds of any renderer, or of
any that keeps `Renderer.Lawful`.
-/

namespace FunctionBounds.Terminal

/-- Whether a character can start a tag. -/
def isTagStart (c : Char) : Bool := ('a' ≤ c && c ≤ 'z') || c == '#' || c == '/' || c == '@'

/-- Whether a character is dropped from shown text: bell, backspace, vertical tabulator, form feed
and carriage return. -/
def isDropped (c : Char) : Bool :=
  c == '\x07' || c == '\x08' || c == '\x0b' || c == '\x0c' || c == '\x0d'

/-! ## Tags in a text -/

/-- A tag at the start of a text: the number of backslashes in front of it, what stands between its
brackets, and the rest of the text. -/
structure Tag where
  backslashes : Nat
  body : List Char
  rest : List Char

/-- The tag at the start of a text. -/
def Tag.at? (cs : List Char) : Option Tag :=
  let slashes := cs.takeWhile (· == '\\')
  match cs.drop slashes.length with
  | '[' :: c :: rest =>
    if isTagStart c then
      let body := rest.takeWhile fun c => c != '[' && c != ']'
      match rest.drop body.length with
      | ']' :: rest => some ⟨slashes.length, c :: body, rest⟩
      | _ => none
    else none
  | _ => none

/-- A tag with its brackets. -/
def Tag.literal (t : Tag) : List Char := '[' :: t.body ++ [']']

/-- A part of a text with tags. -/
inductive Piece where
  | text (cs : List Char)
  /-- A tag that is not escaped. -/
  | tag (body : List Char)
  deriving DecidableEq, Repr

/-- A piece of text, if there is any text in it. -/
def Piece.ofText (cs : List Char) : List Piece := if cs.isEmpty then [] else [.text cs]

/-- The pieces that a tag gives: half of its backslashes, and the tag itself, which is text if a
backslash is left. -/
def Tag.pieces (t : Tag) : List Piece :=
  Piece.ofText (List.replicate (t.backslashes / 2) '\\') ++
    [if t.backslashes % 2 = 1 then .text t.literal else .tag t.body]

/-- The pieces of a text after the characters in `before`, the last one first, which belong to no
tag. There are at most as many steps as characters. -/
def piecesFrom : Nat → List Char → List Char → List Piece
  | 0, cs, before => Piece.ofText (before.reverse ++ cs)
  | _ + 1, [], before => Piece.ofText before.reverse
  | steps + 1, c :: rest, before =>
    match Tag.at? (c :: rest) with
    | some t => Piece.ofText before.reverse ++ t.pieces ++ piecesFrom steps t.rest []
    | none => piecesFrom steps rest (c :: before)

/-- The pieces of a text. -/
def pieces (cs : List Char) : List Piece := piecesFrom (cs.length + 1) cs []

/-! ## What a text shows -/

/-- Drops the backslash in front of each bracket that belongs to no tag. -/
def unescape : List Char → List Char
  | '\\' :: '[' :: rest => '[' :: unescape rest
  | c :: rest => c :: unescape rest
  | [] => []

/-- What a piece of text shows. -/
def shown (cs : List Char) : List Char := (Emoji.expand (unescape cs)).filter fun c => !isDropped c

/-- Why a text with tags cannot be shown. -/
inductive Error where
  /-- No open tag has the style of a tag that closes one, or none is open at all. -/
  | nothingToClose (style : String)
  /-- What follows the name of an action cannot be read. -/
  | action (parameters : String)
  /-- A color in a tag cannot be read. -/
  | component (cause : ComponentError)
  deriving DecidableEq, Repr

/-- A tag that is open: the normal form of its style, and what follows an equals sign. -/
structure Opened where
  style : String
  parameters : String
  deriving DecidableEq, Repr

/-- The tag that `body` opens. -/
def Opened.ofBody (body : List Char) : Except Error Opened := do
  let name := String.ofList (body.takeWhile (· != '='))
  let style ← (Style.normal name).mapError .component
  return ⟨style, String.ofList ((body.dropWhile (· != '=')).drop 1)⟩

/-- Whether a character can stand in the name of an action. -/
def isActionChar (c : Char) : Bool := Text.isAlphanumeric c || c == '_' || c == '.'

/-- Whether parameters say what is to be done: a name, a name and a literal in parentheses on one
line, or a literal. -/
def isAction (parameters : String) : Bool :=
  let cs := (Text.strip parameters).toList
  match cs.dropWhile isActionChar with
  | [] => true
  | '(' :: rest =>
    if rest.getLast? == some ')' && !rest.contains '\n' then Literal.isLiteral ('(' :: rest)
    else Literal.isLiteral cs
  | _ => Literal.isLiteral cs

/-- An error if a tag is an action that cannot be carried out when it is closed. -/
def Opened.check (o : Opened) : Except Error Unit :=
  if o.style.startsWith "@" && !o.parameters.isEmpty && !isAction o.parameters then
    .error (.action o.parameters)
  else .ok ()

/-- The tags that are still open after the last one of a style is closed; of those in `tags` the
last one stands first. No style stands for any. -/
def close (style : String) (tags : List Opened) : Except Error (List Opened) :=
  match tags.span fun o => !style.isEmpty && o.style != style with
  | (later, o :: earlier) => do
    o.check
    return later ++ earlier
  | (_, []) => .error (.nothingToClose style)

/-- The tags that are open after one more tag. -/
def step (tags : List Opened) (body : List Char) : Except Error (List Opened) :=
  match body with
  | '/' :: rest => do
    let name := Text.strip (String.ofList (rest.takeWhile (· != '=')))
    let style ← if name.isEmpty then pure "" else (Style.normal name).mapError .component
    close style tags
  | _ => return (← Opened.ofBody body) :: tags

/-- What pieces show where the tags in `tags` are open. -/
def plainFrom : List Opened → List Piece → Except Error (List Char)
  | _, [] => .ok []
  | tags, .text cs :: rest => return shown cs ++ (← plainFrom tags rest)
  | tags, .tag body :: rest => do plainFrom (← step tags body) rest

/-- What a text with tags shows. -/
def plain (s : String) : Except Error String :=
  return String.ofList (← plainFrom [] (pieces s.toList))

/-! ## Escaping -/

/-- A tag with its backslashes doubled and one more in front of it. -/
def Tag.escaped (t : Tag) : List Char :=
  List.replicate (2 * t.backslashes + 1) '\\' ++ t.literal

/-- Escapes everything that is a tag. There are at most as many steps as characters. -/
def escapeFrom : Nat → List Char → List Char
  | 0, cs => cs
  | _ + 1, [] => []
  | steps + 1, c :: rest =>
    match Tag.at? (c :: rest) with
    | some t => t.escaped ++ escapeFrom steps t.rest
    | none => c :: escapeFrom steps rest

/-- Doubles a single backslash at the end of a text, so that it escapes nothing that follows. -/
def closeEscape (cs : List Char) : List Char :=
  match cs.reverse with
  | ['\\'] => cs ++ ['\\']
  | '\\' :: c :: _ => if c == '\\' then cs else cs ++ ['\\']
  | _ => cs

/-- A text that shows the tags of `s` as they are. -/
def escape (s : String) : String :=
  String.ofList (closeEscape (escapeFrom (s.length + 1) s.toList))

/-- Why a text cannot be shown. -/
def Error.cause : Error → RenderError
  | nothingToClose style => .markup s!"There is no tag to close: {style}"
  | action parameters => .markup s!"These parameters cannot be read: {parameters}"
  | component cause => .value cause.message

/-- What renders the console. -/
def renderer : Renderer where
  plain := fun s => (plain s).mapError (·.cause)
  escape

end FunctionBounds.Terminal
