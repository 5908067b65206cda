import FunctionBounds.Toml.Scalar

/-!
# TOML documents

* `readKey`: dotted keys.
* `readValue`: values, with arrays and tables inside them.
* `Document`: the tables of a document and what later lines may not do to them.
* `parse`: the tables of a text, or why there are none.
-/

namespace FunctionBounds.Toml

/-- Why a text is not read. -/
inductive Error where
  /-- The text is no document. -/
  | malformed
  /-- A number in decimal has too many digits. -/
  | longNumber (cause : Text.TooLong)
  /-- Values are nested too deep. -/
  | tooDeep
  deriving DecidableEq, Repr

/-- The sentence that reports an error. -/
def Error.message : Error → String
  | malformed => "The text is not TOML"
  | longNumber cause => cause.message
  | tooDeep => "Values are nested too deep"

/-- What was read, or else the error that the text is no document. -/
def required {α : Type} (found : Option α) : Except Error α := found.elim (.error .malformed) .ok

/-! ## Keys and comments -/

/-- Whether a character may stand in a key without quotes. -/
def isBareKeyChar (c : Char) : Bool := c.isAlphanum || c == '-' || c == '_'

/-- Reads one part of a key; a part between quotes has at most `bound` characters. -/
def readKeyPart (bound : Nat) (cs : List Char) : Option (String × List Char) :=
  match cs with
  | '\x22' :: rest => readBasic bound rest
  | '\x27' :: rest => readLiteral rest
  | _ =>
    let text := cs.takeWhile isBareKeyChar
    if text.isEmpty then none else some (String.ofList text, cs.drop text.length)

/-- Reads the parts of a key that follow a dot. The number bounds how many there are and how long
they go on. -/
def readKeyRest : Nat → Key → List Char → Option (Key × List Char)
  | 0, _, _ => none
  | bound + 1, before, cs =>
    match cs with
    | '.' :: rest => do
      let (part, rest) ← readKeyPart (bound + 1) (skipSpace rest)
      readKeyRest bound (part :: before) (skipSpace rest)
    | _ => some (before.reverse, cs)

/-- Reads a key of at most `bound` characters and the blanks after it. -/
def readKey (bound : Nat) (cs : List Char) : Option (Key × List Char) := do
  let (part, rest) ← readKeyPart bound cs
  readKeyRest bound [part] (skipSpace rest)

/-- The rest after a comment, if there is one: the end of the line. -/
def skipComment (cs : List Char) : Option (List Char) :=
  match cs with
  | '#' :: rest =>
    let text := rest.takeWhile (· != '\n')
    if text.any isControl then none else some (rest.drop text.length)
  | _ => some cs

mutual

/-- The rest after blanks, line ends and comments. -/
def skipAll : List Char → Option (List Char)
  | [] => some []
  | c :: rest =>
    if isSpace c || c == '\n' then skipAll rest
    else if c == '#' then skipAllInComment rest
    else some (c :: rest)

/-- The rest after the end of a comment, and after blanks, line ends and comments that follow it. -/
def skipAllInComment : List Char → Option (List Char)
  | [] => some []
  | c :: rest =>
    if c == '\n' then skipAll rest
    else if isControl c then none
    else skipAllInComment rest

end

/-! ## Values -/

/-- Adds a key and its value to a table that is written between braces; the keys in `closed` have
values made of values, to which nothing can be added. -/
def addInline (closed : List Key) (t : Table) (key : Key) (v : Value) : Option Table := do
  guard (closed.all fun k => !k.isPrefixOf key)
  let last ← key.getLast?
  t.update false (·.add? last v) key.dropLast

/-- How many levels there are for nested values. An array takes two of them and a table between
braces takes three. -/
def maxDepth : Nat := 991

/-- The levels that are left for what is inside of a value that takes some of the levels in
`room`. What is inside needs levels, too. -/
def enter (levels room : Nat) : Except Error Nat :=
  if room < 4 then .error .tooDeep else .ok (room - levels)

/-- Reads a value that is not made of values; a string has at most `bound` characters. -/
def readScalar (bound : Nat) (cs : List Char) : Except Error (Value × List Char) :=
  let asText := fun (found : Option (String × List Char)) =>
    required (found.map fun (s, rest) => (Value.string s, rest))
  match cs with
  | '\x22' :: '\x22' :: '\x22' :: rest => asText (readMultiline '\x22' bound rest)
  | '\x22' :: rest => asText (readBasic bound rest)
  | '\x27' :: '\x27' :: '\x27' :: rest => asText (readMultiline '\x27' bound rest)
  | '\x27' :: rest => asText (readLiteral rest)
  | _ =>
    match dropText? "true" cs, dropText? "false" cs with
    | some rest, _ => .ok (.boolean true, rest)
    | _, some rest => .ok (.boolean false, rest)
    | none, none =>
      match readDate cs, readTime? cs, readNumber? cs with
      | .found v rest, _, _ => .ok (v, rest)
      | .invalid, _, _ => .error .malformed
      | .absent, some found, _ => .ok found
      | .absent, none, some (.ok v, rest) => .ok (v, rest)
      | .absent, none, some (.error cause, _) => .error (.longNumber cause)
      | .absent, none, none => .error .malformed

mutual

/-- Reads a value where `room` levels are left. The first number bounds the steps. A bracket takes
two of them, one for itself and one to go on to what is inside, and no character takes more, so
twice as many steps as there are characters are enough. -/
def readValue : Nat → Nat → List Char → Except Error (Value × List Char)
  | 0, _, _ => .error .malformed
  | bound + 1, room, cs =>
    match cs with
    | '[' :: rest => do
      let room ← enter 2 room
      readItems bound room [] (← required (skipAll rest))
    | '{' :: rest => do
      let room ← enter 3 room
      readMembers bound room [] [] (skipSpace rest) true
    | _ => if room < 3 then .error .tooDeep else readScalar bound cs

/-- Reads the items of an array after those already read, which stand in reverse order. -/
def readItems : Nat → Nat → List Value → List Char → Except Error (Value × List Char)
  | 0, _, _, _ => .error .malformed
  | bound + 1, room, before, cs =>
    match cs with
    | ']' :: rest => .ok (.array before.reverse, rest)
    | _ => do
      let (v, rest) ← readValue bound room cs
      match ← required (skipAll rest) with
      | ']' :: rest => .ok (.array (v :: before).reverse, rest)
      | ',' :: rest => do readItems bound room (v :: before) (← required (skipAll rest))
      | _ => .error .malformed

/-- Reads the members of a table between braces. Only at its start may the table end at once. -/
def readMembers : Nat → Nat → List Key → Table → List Char → Bool →
    Except Error (Value × List Char)
  | 0, _, _, _, _, _ => .error .malformed
  | bound + 1, room, closed, t, cs, isFirst =>
    match isFirst, cs with
    | true, '}' :: rest => .ok (.table t, rest)
    | _, _ => do
      let (key, rest) ← required (readKey bound cs)
      let rest ← required (dropText? "=" rest)
      let (v, rest) ← readValue bound room (skipSpace rest)
      let t ← required (addInline closed t key v)
      match skipSpace rest with
      | '}' :: rest => .ok (.table t, rest)
      | ',' :: rest =>
        let closed := if v.isCompound then key :: closed else closed
        readMembers bound room closed t (skipSpace rest) false
      | _ => .error .malformed

end

/-- Reads a key, an equals sign and a value, which have at most `bound` characters. -/
def readPair (bound room : Nat) (cs : List Char) : Except Error (Key × Value × List Char) := do
  let (key, rest) ← required (readKey bound cs)
  let rest := skipSpace (← required (dropText? "=" rest))
  let (v, rest) ← readValue (2 * bound) room rest
  return (key, v, rest)

/-! ## Documents -/

/-- The tables of a document and what later lines may not do to them. -/
structure Document where
  root : Table := []
  /-- The table that the lines belong to. -/
  header : Key := []
  /-- Tables that have been opened: no header and no dotted key opens them again. -/
  opened : List Key := []
  /-- Tables that dotted keys have made since the last header. -/
  pending : List Key := []
  /-- Values made of values, to which nothing can be added. -/
  closed : List Key := []

namespace Document

/-- Whether a key lies in a value to which nothing can be added. -/
def isClosed (d : Document) (key : Key) : Bool := d.closed.any fun k => k.isPrefixOf key

/-- Takes a table header. -/
def openTable (d : Document) (key : Key) : Option Document := do
  guard (!d.opened.contains key && !d.isClosed key)
  let root ← d.root.update true some key
  return { d with root, header := key, opened := key :: d.opened }

/-- Takes a header that adds a table to an array. What was said about the tables of the former item
does not hold for the new one. -/
def openItem (d : Document) (key : Key) : Option Document := do
  guard (!d.isClosed key)
  let last ← key.getLast?
  let root ← d.root.update true (·.addItem? last) key.dropLast
  let outside := fun (k : Key) => !key.isPrefixOf k
  return { d with
    root
    header := key
    opened := key :: d.opened.filter outside
    closed := d.closed.filter outside }

/-- Takes a key and its value. -/
def addPair (d : Document) (key : Key) (v : Value) : Option Document := do
  let made := (List.range (key.length - 1)).map fun i => d.header ++ key.take (i + 1)
  guard (made.all fun k => !d.opened.contains k)
  let parent := d.header ++ key.dropLast
  guard !d.isClosed parent
  let last ← key.getLast?
  let root ← d.root.update true (·.add? last v) parent
  return { d with
    root
    pending := made ++ d.pending
    closed := if v.isCompound then (d.header ++ key) :: d.closed else d.closed }

/-- Takes up to the next header what dotted keys have made as opened. -/
def settle (d : Document) : Document := { d with opened := d.pending ++ d.opened, pending := [] }

/-- Reads a header or a pair of at most `bound` characters at the start of a line: the document and
the rest of the line. -/
def readStatement (bound room : Nat) (d : Document) (cs : List Char) :
    Except Error (Document × List Char) :=
  match cs with
  | '[' :: '[' :: rest => required do
    let (key, rest) ← readKey bound (skipSpace rest)
    let d ← d.settle.openItem key
    return (d, ← dropText? "]]" rest)
  | '[' :: rest => required do
    let (key, rest) ← readKey bound (skipSpace rest)
    let d ← d.settle.openTable key
    return (d, ← dropText? "]" rest)
  | _ => do
    let (key, v, rest) ← readPair bound room cs
    return (← required (d.addPair key v), rest)

/-- Reads lines, with at most as many steps as characters. -/
def readLines (room : Nat) : Nat → Document → List Char → Except Error Document
  | 0, _, _ => .error .malformed
  | steps + 1, d, cs => do
    let cs := skipSpace cs
    let (d, rest) ← match cs with
      | [] => .ok (d, cs)
      | '\n' :: _ => .ok (d, cs)
      | '#' :: _ => .ok (d, cs)
      | _ => d.readStatement (steps + 1) room cs
    match ← required (skipComment (skipSpace rest)) with
    | [] => .ok d
    | '\n' :: rest => readLines room steps d rest
    | _ => .error .malformed

end Document

/-- The text with each line end of two characters made one. -/
def joinLineEnds : List Char → List Char
  | '\r' :: '\n' :: rest => '\n' :: joinLineEnds rest
  | c :: rest => c :: joinLineEnds rest
  | [] => []

/-- The tables of a text, or why there are none. Values may be nested as deep as `room` allows. -/
def parse (text : String) (room : Nat := maxDepth) : Except Error Table :=
  let cs := joinLineEnds text.toList
  (Document.readLines room (cs.length + 1) {} cs).map (·.root)

end FunctionBounds.Toml
