import FunctionBounds.Text.Decimal
import FunctionBounds.Text.Digit
import FunctionBounds.Toml.Value

/-!
# TOML strings, numbers and dates

Each reader takes the characters that are left and gives what it read and the rest, or nothing
where the characters are no such thing.

* `readBasic`, `readLiteral`: strings on one line.
* `readMultiline`: strings between three quotes.
* `readNumber?`, `readDate`: numbers, dates and times.
-/

namespace FunctionBounds.Toml

open Text (isDigitOf numberOf takeDigits)

/-- Whether a character may not stand in a string, a comment or between them: control characters
other than the tabulator. -/
def isControl (c : Char) : Bool := (c.toNat < 0x20 && c != '\t') || c.toNat == 0x7f

/-- Whether a character separates words on one line. -/
def isSpace (c : Char) : Bool := c == ' ' || c == '\t'

/-- Drops the separators of words. -/
def skipSpace (cs : List Char) : List Char := cs.dropWhile isSpace

/-- The rest after the characters of `text`. -/
def dropText? (text : String) (cs : List Char) : Option (List Char) :=
  if text.toList.isPrefixOf cs then some (cs.drop text.length) else none

/-! ## Strings -/

/-- The character of a number in hexadecimal digits, if it is one. -/
def charOfDigits? (digits : List Char) : Option Char := do
  guard (digits.all (isDigitOf 16))
  let n := numberOf 16 digits
  if n.isValidChar then some (Char.ofNat n) else none

/-- The character of an escape with one letter. -/
def simpleEscape? : Char → Option Char
  | 'b' => some '\x08'
  | 't' => some '\t'
  | 'n' => some '\n'
  | 'f' => some '\x0c'
  | 'r' => some '\r'
  | '\x22' => some '\x22'
  | '\\' => some '\\'
  | _ => none

/-- Reads the rest of an escape after the backslash. -/
def readEscape? (cs : List Char) : Option (Char × List Char) :=
  let numbered := fun n (cs : List Char) => do
    let digits := cs.take n
    guard (digits.length = n)
    return (← charOfDigits? digits, cs.drop n)
  match cs with
  | 'u' :: rest => numbered 4 rest
  | 'U' :: rest => numbered 8 rest
  | c :: rest => (simpleEscape? c).map (·, rest)
  | [] => none

/-- The rest after a backslash at the end of a line, if there is nothing but blanks after it: the
next character that is no blank. At the end of the text there is nothing after it. -/
def continueLine? (cs : List Char) : Option (List Char) :=
  let blank := fun c => isSpace c || c == '\n'
  match cs with
  | '\n' :: rest => some (rest.dropWhile blank)
  | c :: rest =>
    if isSpace c then
      match skipSpace rest with
      | [] => some []
      | '\n' :: rest => some (rest.dropWhile blank)
      | _ => none
    else none
  | [] => none

/-- Reads a string on one line after its opening quote; `before` holds its characters so far, the
last one first. There are at most as many steps as the first number says. -/
def readBasicFrom : Nat → List Char → List Char → Option (String × List Char)
  | 0, _, _ => none
  | steps + 1, cs, before =>
    match cs with
    | [] => none
    | '\x22' :: rest => some (String.ofList before.reverse, rest)
    | '\\' :: rest => do
      let (c, rest) ← readEscape? rest
      readBasicFrom steps rest (c :: before)
    | c :: rest => if isControl c then none else readBasicFrom steps rest (c :: before)

/-- Reads a string on one line after its opening quote, of at most `bound` characters. -/
def readBasic (bound : Nat) (cs : List Char) : Option (String × List Char) :=
  readBasicFrom bound cs []

/-- Reads a string without escapes after its opening quote. -/
def readLiteral (cs : List Char) : Option (String × List Char) :=
  let text := cs.takeWhile (· != '\x27')
  match cs.drop text.length with
  | _ :: rest => if text.any isControl then none else some (String.ofList text, rest)
  | [] => none

/-- Up to two quotes more than the three that end a string belong to it. -/
def takeExtraQuotes (quote : Char) (text : List Char) : List Char → List Char × List Char
  | a :: b :: rest =>
    if a == quote then
      if b == quote then (text ++ [quote, quote], rest) else (text ++ [quote], b :: rest)
    else (text, a :: b :: rest)
  | [a] => if a == quote then (text ++ [quote], []) else (text, [a])
  | [] => (text, [])

/-- Reads a string of several lines after its opening quotes; `before` holds its characters so far,
the last one first. Escapes count only between double quotes. -/
def readLinesFrom (quote : Char) : Nat → List Char → List Char → Option (List Char × List Char)
  | 0, _, _ => none
  | steps + 1, cs, before =>
    match cs with
    | [] => none
    | c :: rest =>
      if c == quote then
        match rest with
        | a :: b :: rest' =>
          if a == quote && b == quote then some (takeExtraQuotes quote before.reverse rest')
          else readLinesFrom quote steps rest (c :: before)
        | _ => readLinesFrom quote steps rest (c :: before)
      else if c == '\\' && quote == '\x22' then
        match continueLine? rest with
        | some rest => readLinesFrom quote steps rest before
        | none => do
          let (c, rest) ← readEscape? rest
          readLinesFrom quote steps rest (c :: before)
      else if isControl c && c != '\n' then none
      else readLinesFrom quote steps rest (c :: before)

/-- Reads a string of several lines after its opening quotes, of at most `bound` characters. A first
empty line does not count. -/
def readMultiline (quote : Char) (bound : Nat) (cs : List Char) : Option (String × List Char) := do
  let cs := match cs with
    | '\n' :: rest => rest
    | _ => cs
  let (text, rest) ← readLinesFrom quote bound cs []
  return (String.ofList text, rest)

/-! ## Numbers -/

/-- Reads at least one digit; the first character has to be one. -/
def readDigits? (base : Nat) (cs : List Char) : Option (List Char × List Char) :=
  match cs with
  | c :: _ => if isDigitOf base c then some (takeDigits base cs) else none
  | [] => none

/-- Reads a natural number in one of the bases that are marked by a letter. -/
def readMarked? (cs : List Char) : Option (Value × List Char) := do
  let (base, rest) ← match cs with
    | '0' :: 'x' :: rest => some (16, rest)
    | '0' :: 'o' :: rest => some (8, rest)
    | '0' :: 'b' :: rest => some (2, rest)
    | _ => none
  let (digits, rest) ← readDigits? base rest
  return (.integer (numberOf base digits), rest)

/-- Reads a sign: whether it is a minus, and the rest. -/
def readSign (cs : List Char) : Bool × List Char :=
  match cs with
  | '-' :: rest => (true, rest)
  | '+' :: rest => (false, rest)
  | _ => (false, cs)

/-- Reads the integer part of a decimal number, which is zero or does not start with zero. -/
def readIntegerPart? (cs : List Char) : Option (List Char × List Char) :=
  match cs with
  | '0' :: rest => some (['0'], rest)
  | _ => readDigits? 10 cs

/-- Reads the digits of a fraction, if there is one. -/
def readFraction (cs : List Char) : List Char × List Char :=
  match cs with
  | '.' :: rest => (readDigits? 10 rest).getD ([], cs)
  | _ => ([], cs)

/-- Reads an exponent, if there is one. -/
def readExponent (cs : List Char) : Option Int × List Char :=
  let found : Option (Option Int × List Char) := do
    let c ← cs.head?
    guard (c == 'e' || c == 'E')
    let (isNegative, rest) := readSign (cs.drop 1)
    let (digits, rest) ← readDigits? 10 rest
    let n : Int := numberOf 10 digits
    return (some (if isNegative then -n else n), rest)
  found.getD (none, cs)

/-- A number that was read, which may be too long. -/
abbrev NumberResult := Except Text.TooLong Value × List Char

/-- The integer of decimal digits. -/
def integerOf (isNegative : Bool) (digits : List Char) : Except Text.TooLong Value := do
  Text.DigitLimit.standard.checkLength digits.length
  let n : Int := numberOf 10 digits
  return .integer (if isNegative then -n else n)

/-- Reads a decimal number. -/
def readDecimal? (cs : List Char) : Option NumberResult := do
  let (isNegative, afterSign) := readSign cs
  let (digits, afterInteger) ← readIntegerPart? afterSign
  let (fraction, afterFraction) := readFraction afterInteger
  let (exponent?, rest) := readExponent afterFraction
  if fraction.isEmpty && exponent?.isNone then return (integerOf isNegative digits, rest)
  let x := Binary64.ofDecimal isNegative (numberOf 10 (digits ++ fraction))
    (exponent?.getD 0 - fraction.length)
  return (.ok (.float x), rest)

/-- Reads infinity or what is no number, which may have a sign. -/
def readSpecial? (cs : List Char) : Option NumberResult :=
  let (isNegative, rest) := readSign cs
  match dropText? "inf" rest, dropText? "nan" rest with
  | some rest, _ => some (.ok (.float (.infinite isNegative)), rest)
  | _, some rest => some (.ok (.float .nan), rest)
  | none, none => none

/-- Reads a number. -/
def readNumber? (cs : List Char) : Option NumberResult :=
  match readMarked? cs with
  | some (v, rest) => some (.ok v, rest)
  | none => (readDecimal? cs).or (readSpecial? cs)

/-- The characters that were read to get from one rest to a later one. -/
def textBetween (cs rest : List Char) : String := String.ofList (cs.take (cs.length - rest.length))

/-! ## Dates and times -/

/-- Reads a number of `n` digits that lies between two bounds. -/
def readBounded? (n low high : Nat) (cs : List Char) : Option (Nat × List Char) := do
  let digits := cs.take n
  guard (digits.length = n ∧ digits.all (·.isDigit))
  let v := numberOf 10 digits
  guard (low ≤ v ∧ v ≤ high)
  return (v, cs.drop n)

/-- The rest after a time of day. -/
def skipTime? (cs : List Char) : Option (List Char) := do
  let (_, cs) ← readBounded? 2 0 23 cs
  let cs ← dropText? ":" cs
  let (_, cs) ← readBounded? 2 0 59 cs
  let cs ← dropText? ":" cs
  let (_, cs) ← readBounded? 2 0 59 cs
  match cs with
  | '.' :: c :: rest => return if c.isDigit then rest.dropWhile (·.isDigit) else cs
  | _ => return cs

/-- The rest after the offset of a time, if there is one. -/
def skipOffset (cs : List Char) : List Char :=
  match cs with
  | 'Z' :: rest => rest
  | 'z' :: rest => rest
  | c :: rest =>
    if c == '+' || c == '-' then
      let after := do
        let (_, rest) ← readBounded? 2 0 23 rest
        let rest ← dropText? ":" rest
        let (_, rest) ← readBounded? 2 0 59 rest
        some rest
      after.getD cs
    else cs
  | [] => cs

/-- The rest after a time that follows a date, if there is one. -/
def skipTimeOfDate (cs : List Char) : List Char :=
  match cs with
  | c :: rest =>
    if c == 'T' || c == 't' || c == ' ' then ((skipTime? rest).map skipOffset).getD cs else cs
  | [] => cs

/-- The days of a month. -/
def daysOf (year month : Nat) : Nat :=
  if month == 2 then
    if year % 4 == 0 && (year % 100 != 0 || year % 400 == 0) then 29 else 28
  else if month == 4 || month == 6 || month == 9 || month == 11 then 30
  else 31

/-- What reading a date gives. -/
inductive DateResult where
  /-- The characters have not the form of a date. -/
  | absent
  /-- They have, but there is no such day. -/
  | invalid
  | found (v : Value) (rest : List Char)

/-- Reads a date, which a time may follow. -/
def readDate (cs : List Char) : DateResult :=
  let parts := do
    let (year, cs) ← readBounded? 4 0 9999 cs
    let cs ← dropText? "-" cs
    let (month, cs) ← readBounded? 2 1 12 cs
    let cs ← dropText? "-" cs
    let (day, cs) ← readBounded? 2 1 31 cs
    some (year, month, day, cs)
  match parts with
  | none => .absent
  | some (year, month, day, rest) =>
    if year = 0 ∨ daysOf year month < day then .invalid
    else
      let rest := skipTimeOfDate rest
      .found (.date (textBetween cs rest)) rest

/-- Reads a time of day. -/
def readTime? (cs : List Char) : Option (Value × List Char) :=
  (skipTime? cs).map fun rest => (.date (textBetween cs rest), rest)

end FunctionBounds.Toml
