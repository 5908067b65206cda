import FunctionBounds.Terminal.Markup.CharacterName
import FunctionBounds.Text.Decimal
import FunctionBounds.Terminal.Markup.PlainLetter

/-!
# Literals

Values that can stand as arguments of an action: numbers, strings, strings of octets, truth values,
tuples, sets and mappings. Only whether a text is a literal matters here, not its value.

* `Token`, `tokens`: the parts of a literal.
* `Form`: what is known of a value.
* `isLiteral`: whether a text is a literal.
-/

namespace FunctionBounds.Terminal.Literal

/-- The kinds of numbers. -/
inductive Numeral where
  /-- An integer that can also be given as a number with a fraction, or a number with a fraction. -/
  | real
  /-- An integer above all numbers with a fraction. -/
  | huge
  | imaginary
  deriving DecidableEq, Repr

/-- A part of a literal. -/
inductive Token where
  | number (n : Numeral)
  | quoted (isOctets : Bool)
  | name (text : String)
  | ellipsis
  /-- A parenthesis, a brace, a comma, a colon or a sign. -/
  | mark (c : Char)
  /-- A line end outside of all parentheses. -/
  | lineEnd
  deriving DecidableEq, Repr

/-- Whether a character can stand in a name. -/
def isNameChar (c : Char) : Bool := c.isAlphanum || c == '_' || 0x80 ≤ c.toNat

/-! ## Numbers -/

/-- Reads the digits of a number in decimal, which do not start with an underscore. -/
def takeDecimal (cs : List Char) : List Char × List Char :=
  if cs.head? == some '_' then ([], cs) else Text.takeDigits 10 cs

/-- The base of a number that starts with zero and a letter, and the rest. -/
def base? : List Char → Option (Nat × List Char)
  | '0' :: c :: rest =>
    match c.toLower with
    | 'x' => some (16, rest)
    | 'o' => some (8, rest)
    | 'b' => some (2, rest)
    | _ => none
  | _ => none

/-- Reads a fraction, of which the digits may be missing: whether there is one, and the rest. -/
def takeFraction (cs : List Char) : Bool × List Char :=
  match cs with
  | '.' :: rest => (true, (takeDecimal rest).2)
  | _ => (false, cs)

/-- Reads an exponent: whether there is one, and the rest. -/
def takeExponent (cs : List Char) : Bool × List Char :=
  match cs with
  | c :: rest =>
    let unsigned := match rest with
      | '+' :: rest => rest
      | '-' :: rest => rest
      | _ => rest
    let (digits, after) := takeDecimal unsigned
    if c.toLower == 'e' && !digits.isEmpty then (true, after) else (false, cs)
  | [] => (false, cs)

/-- Whether digits make an integer: there are only zeros, of which there may be any number, or the
first one is no zero and there are not too many. -/
def isInteger (digits : List Char) : Bool :=
  digits.all (· == '0') ||
    digits.head? != some '0' && (Text.DigitLimit.standard.checkLength digits.length).isOk

/-- The kind of an integer. The first one that is too large lies in the middle between the greatest
number with a fraction and the next one that would follow. -/
def Numeral.ofInteger (n : Nat) : Numeral := if n < 1 <<< 1024 - 1 <<< 970 then real else huge

/-- Reads a number. No name may follow it directly. -/
def readNumber (cs : List Char) : Option (Token × List Char) := do
  let (token, rest) ← match base? cs with
    | some (base, rest) =>
      let (digits, rest) := Text.takeDigits base rest
      if digits.isEmpty then none
      else some (.number (.ofInteger (Text.numberOf base digits)), rest)
    | none =>
      let (digits, rest) := takeDecimal cs
      let (hasFraction, rest) := takeFraction rest
      let (hasExponent, rest) := takeExponent rest
      match rest with
      | 'j' :: rest => some (.number .imaginary, rest)
      | 'J' :: rest => some (.number .imaginary, rest)
      | _ =>
        if hasFraction || hasExponent then some (.number .real, rest)
        else if isInteger digits then
          some (.number (.ofInteger (Text.numberOf 10 digits)), rest)
        else none
  guard !(rest.head?.any isNameChar)
  return (token, rest)

/-! ## Strings -/

/-- How a string is written. -/
structure Quoting where
  quote : Char
  /-- Whether backslashes stand for themselves. -/
  isRaw : Bool
  /-- Whether the string is made of octets. -/
  isOctets : Bool
  /-- Whether three quotes stand on each side, with line ends between them. -/
  isLong : Bool

/-- How a string is written after letters in lower case, except for its quotes. -/
def Quoting.ofLetters? : String → Option Quoting
  | "" => some ⟨'\x22', false, false, false⟩
  | "u" => some ⟨'\x22', false, false, false⟩
  | "r" => some ⟨'\x22', true, false, false⟩
  | "b" => some ⟨'\x22', false, true, false⟩
  | "br" => some ⟨'\x22', true, true, false⟩
  | "rb" => some ⟨'\x22', true, true, false⟩
  | _ => none

/-- The rest after `n` hexadecimal digits of a code point. -/
def skipCode? (n : Nat) (cs : List Char) : Option (List Char) := do
  let digits := cs.take n
  guard (digits.length == n && digits.all (Text.isDigitOf 16))
  guard (Text.numberOf 16 digits ≤ 0x10ffff)
  return cs.drop n

/-- The rest after the name of a character between braces. -/
def skipName? : List Char → Option (List Char)
  | '\x7b' :: cs =>
    let name := cs.takeWhile (· != '\x7d')
    match cs.drop name.length with
    | _ :: rest => if Text.isCharacterName name then some rest else none
    | [] => none
  | _ => none

/-- The rest after an escape whose character follows a backslash. -/
def Quoting.skipEscape? (q : Quoting) (c : Char) (rest : List Char) : Option (List Char) :=
  if q.isRaw then some rest
  else if c == 'x' then skipCode? 2 rest
  else if q.isOctets then some rest
  else if c == 'u' then skipCode? 4 rest
  else if c == 'U' then skipCode? 8 rest
  else if c == 'N' then skipName? rest
  else some rest

/-- The rest after the quotes that end a string, if it ends here. -/
def Quoting.close? (q : Quoting) (cs : List Char) : Option (List Char) :=
  let quotes := List.replicate (if q.isLong then 3 else 1) q.quote
  if quotes.isPrefixOf cs then some (cs.drop quotes.length) else none

/-- The rest after a string of which the opening quotes have been read. There are at most as many
steps as the first number says. -/
def Quoting.skip? (q : Quoting) : Nat → List Char → Option (List Char)
  | 0, _ => none
  | steps + 1, cs =>
    let isAllowed := fun (c : Char) => !q.isOctets || c.toNat < 0x80
    match q.close? cs, cs with
    | some rest, _ => some rest
    | none, '\\' :: c :: rest => do
      guard (isAllowed c)
      q.skip? steps (← q.skipEscape? c rest)
    | none, c :: rest =>
      if isAllowed c && (q.isLong || c != '\n') then q.skip? steps rest else none
    | none, [] => none

/-- Reads a string of at most `bound` characters after the letters in front of it. -/
def readQuoted (bound : Nat) (letters : String) (cs : List Char) : Option (Token × List Char) := do
  let q ← Quoting.ofLetters? letters
  let quote ← cs.head?
  let isLong := [quote, quote, quote].isPrefixOf cs
  let q := { q with quote, isLong }
  let rest ← q.skip? bound (cs.drop (if isLong then 3 else 1))
  return (.quoted q.isOctets, rest)

/-! ## Tokens -/

/-- Reads a name, or a string of at most `bound` characters with letters in front of it. -/
def readWord (bound : Nat) (cs : List Char) : Option (Token × List Char) :=
  let word := cs.takeWhile isNameChar
  let rest := cs.drop word.length
  if rest.head? == some '\x22' || rest.head? == some '\x27' then
    readQuoted bound (String.ofList (word.map Char.toLower)) rest
  else some (.name (String.ofList word), rest)

/-- Whether a number starts here. -/
def startsNumber : List Char → Bool
  | '.' :: c :: _ => c.isDigit
  | c :: _ => c.isDigit
  | [] => false

/-- The most parentheses and braces that may be open. -/
def maxDepth : Nat := 200

/-- The parentheses and braces that are open after a mark, the innermost one first. -/
def opened? (c : Char) (before : List Char) : Option (List Char) :=
  match c, before with
  | '(', _ => if before.length < maxDepth then some (c :: before) else none
  | '\x7b', _ => if before.length < maxDepth then some (c :: before) else none
  | ')', '(' :: rest => some rest
  | '\x7d', '\x7b' :: rest => some rest
  | ')', _ => none
  | '\x7d', _ => none
  | _, _ => some before

/-- Whether a character is a mark. -/
def isMark (c : Char) : Bool := ['(', ')', '\x7b', '\x7d', ',', ':', '+', '-'].contains c

/-- The tokens of a text in which `before` are open. There are at most as many steps as
characters. -/
def tokensFrom : Nat → List Char → List Char → Option (List Token)
  | _, before, [] => if before.isEmpty then some [] else none
  | 0, _, _ => none
  | steps + 1, before, c :: rest =>
    let next := fun (token : Token) (rest : List Char) =>
      (tokensFrom steps before rest).map (token :: ·)
    if c == ' ' || c == '\t' || c == '\x0c' then tokensFrom steps before rest
    else if c == '\n' then
      if before.isEmpty then next .lineEnd rest else tokensFrom steps before rest
    else if c == '#' then tokensFrom steps before (rest.dropWhile (· != '\n'))
    else if c == '\\' then
      match rest with
      | '\n' :: d :: rest => tokensFrom steps before (d :: rest)
      | _ => none
    else if isMark c then do
      let tokens ← tokensFrom steps (← opened? c before) rest
      return .mark c :: tokens
    else if ['.', '.', '.'].isPrefixOf (c :: rest) then next .ellipsis (rest.drop 2)
    else do
      let (token, rest) ←
        if startsNumber (c :: rest) then readNumber (c :: rest)
        else if isNameChar c then readWord (steps + 1) (c :: rest)
        else if c == '\x22' || c == '\x27' then readQuoted (steps + 1) "" (c :: rest)
        else none
      next token rest

/-- Passes over empty lines, comments and joined lines at the start of a text. The first line with a
token on it may not be indented: neither it nor, if it is joined to lines above it, the first one of
these with blanks before its backslash. A form feed takes blanks back. There are at most as many
steps as characters. -/
def skipToToken : Nat → (isIndented isJoinedIndented : Bool) → List Char → Option (List Char)
  | 0, _, _, _ => none
  | steps + 1, isIndented, isJoinedIndented, cs =>
    match cs with
    | ' ' :: rest => skipToToken steps true isJoinedIndented rest
    | '\t' :: rest => skipToToken steps true isJoinedIndented rest
    | '\x0c' :: rest => skipToToken steps false isJoinedIndented rest
    | '\\' :: '\n' :: c :: rest =>
      skipToToken steps isIndented (isJoinedIndented || isIndented) (c :: rest)
    | '\n' :: rest => skipToToken steps false false rest
    | '#' :: rest => skipToToken steps isIndented isJoinedIndented (rest.dropWhile (· != '\n'))
    | _ => if isIndented || isJoinedIndented then none else some cs

/-- A text in which each line end is one character. -/
def joinLineEnds : List Char → List Char
  | '\r' :: '\n' :: rest => '\n' :: joinLineEnds rest
  | '\r' :: rest => '\n' :: joinLineEnds rest
  | c :: rest => c :: joinLineEnds rest
  | [] => []

/-- The tokens of a text, without line ends after them. -/
def tokens (cs : List Char) : Option (List Token) := do
  let cs := joinLineEnds (cs.dropWhile fun c => c == ' ' || c == '\t')
  guard !cs.contains '\x00'
  let cs ← skipToToken (cs.length + 1) false false cs
  let tokens ← tokensFrom (cs.length + 1) [] cs
  return (tokens.reverse.dropWhile (· == .lineEnd)).reverse

/-! ## Values -/

/-- What is known of a value. -/
inductive Form where
  | number (n : Numeral) (isSigned : Bool)
  | value (isHashable : Bool)
  /-- The name that gives the empty set when it is called. -/
  | setName
  deriving DecidableEq, Repr

/-- Whether a value can be a key or an element of a set. What is no value cannot be anything. -/
def Form.isHashable? : Form → Option Bool
  | number _ _ => some true
  | value isHashable => some isHashable
  | setName => none

/-- The value that a name stands for. The name that is called may be written in letters of other
shapes. -/
def Form.ofName? (text : String) : Option Form :=
  if ["True", "False", "None"].contains text then some (.value true)
  else if String.ofList (text.toList.map Text.plainLetter) == "set" then some .setName
  else none

/-- Whether a mark is a sign. -/
def isSign (c : Char) : Bool := c == '+' || c == '-'

/-- Strings that follow each other are one; all of them have to be of the same kind. -/
def joinQuoted (isOctets : Bool) (ts : List Token) : Option (Form × List Token) :=
  let isQuoted := fun
    | .quoted _ => true
    | _ => false
  let more := ts.takeWhile isQuoted
  if more.all (· == .quoted isOctets) then some (.value true, ts.drop more.length) else none

/-! ### Levels

A value is read by going down through the rules of the grammar, one level for each rule, and there
are not levels without end. -/

/-- The most levels that reading may go down. -/
def maxLevels : Nat := 6000

/-- The levels from a value down to the smallest values that it can be made of. -/
def atomLevels : Nat := 23

/-- The levels from a value down to the parts of a string. -/
def quotedLevels : Nat := 25

/-- Whether there are levels enough for a value at a level. -/
def hasRoom (level : Nat) : Bool := level + atomLevels ≤ maxLevels

/-- How many levels below a value the values stand that it encloses: the first one, the one after it
and all others. -/
structure Enclosure where
  first : Nat
  second : Nat
  later : Nat

/-- The values in parentheses. -/
def parentheses : Enclosure := ⟨28, 30, 31⟩

/-- The values in braces. -/
def braces : Enclosure := ⟨29, 30, 30⟩

/-- How many levels below a call its argument would stand. -/
def argumentLevels : Nat := 24

/-- The level of a value that is not enclosed. -/
def outerLevel : Nat := 2

/-- The level of values after the first one where none is enclosed. -/
def outerLaterLevel : Nat := 4

/-! ### Reading

Each reader takes a number that bounds how deep values are nested and how long they go on, and the
level of the value. Where a value could stand there must be room for one, even if none does. -/

mutual

/-- Reads a value: a number with a sign, a real and an imaginary number that are added, or any other
value. -/
def readValue : Nat → Nat → List Token → Option (Form × List Token)
  | 0, _, _ => none
  | bound + 1, level, ts => do
    let (left, rest) ← readSigned bound level ts
    match left, rest with
    | .number .imaginary _, _ => some (left, rest)
    | .number n _, .mark c :: rest' =>
      if isSign c then
        match ← readSigned bound level rest' with
        | (.number .imaginary false, rest) => if n = .huge then none else some (.value true, rest)
        | _ => none
      else some (left, rest)
    | _, _ => some (left, rest)
termination_by structural bound => bound

/-- Reads a number with a sign, or a value without one. -/
def readSigned : Nat → Nat → List Token → Option (Form × List Token)
  | 0, _, _ => none
  | bound + 1, level, ts =>
    match ts with
    | .mark '+' :: rest => readNegated bound level rest
    | .mark '-' :: rest => readNegated bound level rest
    | _ => readCalled bound level ts
termination_by structural bound => bound

/-- Reads a number after its sign, which takes a level. -/
def readNegated : Nat → Nat → List Token → Option (Form × List Token)
  | 0, _, _ => none
  | bound + 1, level, ts => do
    match ← readCalled bound (level + 1) ts with
    | (.number n false, rest) => some (.number n true, rest)
    | _ => none
termination_by structural bound => bound

/-- Reads a value that may be the empty set, which is written as a call. -/
def readCalled : Nat → Nat → List Token → Option (Form × List Token)
  | 0, _, _ => none
  | bound + 1, level, ts => do
    guard (hasRoom level)
    match ← readAtom bound level ts with
    | (.setName, .mark '(' :: .mark ')' :: rest) => do
      guard (hasRoom (level + argumentLevels))
      some (.value false, rest)
    | found => some found
termination_by structural bound => bound

/-- Reads a value without a sign. -/
def readAtom : Nat → Nat → List Token → Option (Form × List Token)
  | 0, _, _ => none
  | bound + 1, level, ts =>
    match ts with
    | .number n :: rest => some (.number n false, rest)
    | .quoted isOctets :: rest => do
      guard (level + quotedLevels ≤ maxLevels)
      joinQuoted isOctets rest
    | .name text :: rest => (Form.ofName? text).map (·, rest)
    | .ellipsis :: rest => some (.value true, rest)
    | .mark '(' :: rest => readParentheses bound level rest
    | .mark '\x7b' :: rest => readBraces bound level rest
    | _ => none
termination_by structural bound => bound

/-- Reads what follows an opening parenthesis: a tuple, or a value by itself. -/
def readParentheses : Nat → Nat → List Token → Option (Form × List Token)
  | 0, _, _ => none
  | bound + 1, level, ts => do
    guard (hasRoom (level + parentheses.first))
    match ts with
    | .mark ')' :: rest => some (.value true, rest)
    | _ =>
      match ← readValue bound (level + parentheses.first) ts with
      | (f, .mark ')' :: rest) => some (f, rest)
      | (f, .mark ',' :: rest) => do
        let (isHashable, rest) ← readItems bound ')' (level + parentheses.second)
          (level + parentheses.later) (← f.isHashable?) rest
        return (.value isHashable, rest)
      | _ => none
termination_by structural bound => bound

/-- Reads what follows an opening brace: a mapping or a set. -/
def readBraces : Nat → Nat → List Token → Option (Form × List Token)
  | 0, _, _ => none
  | bound + 1, level, ts => do
    guard (hasRoom (level + braces.first))
    match ts with
    | .mark '\x7d' :: rest => some (.value false, rest)
    | _ =>
      let (f, rest) ← readValue bound (level + braces.first) ts
      guard (← f.isHashable?)
      match rest with
      | .mark ':' :: rest => do
        let (value, rest) ← readValue bound (level + braces.first) rest
        let _ ← value.isHashable?
        return (.value false, ← readPairs bound (level + braces.later) rest)
      | .mark '\x7d' :: rest => some (.value false, rest)
      | .mark ',' :: rest => do
        let (isHashable, rest) ← readItems bound '\x7d' (level + braces.second)
          (level + braces.later) true rest
        guard isHashable
        return (.value false, rest)
      | _ => none
termination_by structural bound => bound

/-- Reads the items after a comma up to the closing mark, the first one at a level and the others at
another one: whether these and the items before are hashable, and the rest. -/
def readItems : Nat → Char → (level later : Nat) → Bool → List Token → Option (Bool × List Token)
  | 0, _, _, _, _, _ => none
  | bound + 1, closing, level, later, before, ts => do
    guard (hasRoom level)
    match ts with
    | .mark c :: rest =>
      if c == closing then some (before, rest) else readItem bound closing level later before ts
    | _ => readItem bound closing level later before ts
termination_by structural bound => bound

/-- Reads an item and those after it. -/
def readItem : Nat → Char → (level later : Nat) → Bool → List Token → Option (Bool × List Token)
  | 0, _, _, _, _, _ => none
  | bound + 1, closing, level, later, before, ts => do
    let (f, rest) ← readValue bound level ts
    let isHashable := before && (← f.isHashable?)
    match rest with
    | .mark c :: rest =>
      if c == ',' then readItems bound closing later later isHashable rest
      else if c == closing then some (isHashable, rest)
      else none
    | _ => none
termination_by structural bound => bound

/-- The rest after further keys and their values up to the closing brace. -/
def readPairs : Nat → Nat → List Token → Option (List Token)
  | 0, _, _ => none
  | bound + 1, level, ts =>
    match ts with
    | .mark '\x7d' :: rest => some rest
    | .mark ',' :: rest => do
      guard (hasRoom level)
      match rest with
      | .mark '\x7d' :: rest => some rest
      | _ =>
        match ← readValue bound level rest with
        | (key, .mark ':' :: rest) => do
          guard (← key.isHashable?)
          let (value, rest) ← readValue bound level rest
          let _ ← value.isHashable?
          readPairs bound level rest
        | _ => none
    | _ => none
termination_by structural bound => bound

end

/-- Whether a text is a literal. Values with commas between them are a tuple, also without
parentheses. -/
def isLiteral (cs : List Char) : Bool :=
  match tokens cs with
  | none => false
  | some [] => false
  | some ts =>
    let bound := 8 * ts.length + 16
    match readValue bound outerLevel (ts ++ [.mark ')']) with
    | some (f, [.mark ')']) => f.isHashable?.isSome
    | some (f, .mark ',' :: rest) =>
      f.isHashable?.isSome &&
        (readItems bound ')' outerLaterLevel outerLaterLevel true rest).any (·.2.isEmpty)
    | _ => false

end FunctionBounds.Terminal.Literal
