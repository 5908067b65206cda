import FunctionBounds.Terminal.Markup.CharacterNames
import FunctionBounds.Text.Digit
import Std.Data.HashSet.Basic

/-!
# Characters by name

A character has a name of its own, or one that is made from its code point or its parts, as Unicode
14.0 has it.

* `namesOf`: the names that a table stands for.
* `isListedName`: whether a name is one of those given one by one, in capitals or not.
* `isIdeographName`, `isSyllableName`: names that are made, which are in capitals.
* `isCharacterName`: whether a name is that of a character.
-/

namespace FunctionBounds.Text

/-! ## Names given one by one -/

/-- The course of reading a table of names. -/
structure NameReading where
  /-- The name read last, its last character first. -/
  last : List Char := []
  /-- Whether `last` is a whole name so far. -/
  isWhole : Bool := false
  /-- The names before it, the last one first. -/
  names : List String := []

namespace NameReading

/-- Takes `last` as a whole name, if it is one. -/
def settle (r : NameReading) : NameReading :=
  if r.isWhole then
    { r with isWhole := false, names := String.ofList r.last.reverse :: r.names }
  else r

/-- Takes a character of the table. -/
def step (r : NameReading) (c : Char) : NameReading :=
  if c.isLower then
    let r := r.settle
    { r with last := r.last.drop (c.toNat - 'a'.toNat) }
  else { r with last := c :: r.last, isWhole := true }

end NameReading

/-- The names that a table stands for. -/
def namesOf (table : List String) : List String :=
  let read := table.foldl (fun r line => line.toList.foldl NameReading.step r) ({} : NameReading)
  read.settle.names.reverse

/-- The names given one by one. -/
def listedNames : Std.HashSet String := .ofList (namesOf characterNames)

/-- Whether a name is one of those given one by one. -/
def isListedName (name : List Char) : Bool :=
  listedNames.contains (String.ofList (name.map Char.toUpper))

/-! ## Names that are made -/

/-- What follows the first part of a text. -/
def after? (first : String) (cs : List Char) : Option (List Char) :=
  if first.toList.isPrefixOf cs then some (cs.drop first.length) else none

/-- The ranges of ideographs that are named by their code points. -/
def ideographs : List (Nat × Nat) := [
  (0x3400, 0x4dbf), (0x4e00, 0x9fff), (0x20000, 0x2a6df), (0x2a700, 0x2b738), (0x2b740, 0x2b81d),
  (0x2b820, 0x2cea1), (0x2ceb0, 0x2ebe0), (0x30000, 0x3134a)]

/-- Whether a name is that of an ideograph: its code point, with four or five digits. -/
def isIdeographName (name : List Char) : Bool :=
  (after? "CJK UNIFIED IDEOGRAPH-" name).any fun digits =>
    (digits.length == 4 || digits.length == 5) &&
      digits.all (fun c => isDigitOf 16 c && !c.isLower) &&
      ideographs.any fun (first, last) =>
        first ≤ numberOf 16 digits && numberOf 16 digits ≤ last

/-- The consonants that a syllable can start with. -/
def initials : List String := [
  "", "G", "GG", "N", "D", "DD", "R", "M", "B", "BB", "S", "SS", "J", "JJ", "C", "K", "T", "P", "H"]

/-- The vowels of a syllable. -/
def vowels : List String := [
  "A", "AE", "YA", "YAE", "EO", "E", "YEO", "YE", "O", "WA", "WAE", "OE", "YO", "U", "WEO", "WE",
  "WI", "YU", "EU", "YI", "I"]

/-- The consonants that a syllable can end with. -/
def finals : List String := [
  "", "G", "GG", "GS", "N", "NJ", "NH", "D", "L", "LG", "LM", "LB", "LS", "LT", "LP", "LH", "M",
  "B", "BS", "S", "SS", "NG", "J", "C", "K", "T", "P", "H"]

/-- Whether a name is that of a syllable: a consonant, a vowel and a consonant. -/
def isSyllableName (name : List Char) : Bool :=
  ((after? "HANGUL SYLLABLE " name).toList.flatMap fun rest =>
    (initials.filterMap (after? · rest)).flatMap fun rest =>
      vowels.filterMap (after? · rest)).any fun rest => finals.contains (String.ofList rest)

/-- Whether a name is that of a character. -/
def isCharacterName (name : List Char) : Bool :=
  isIdeographName name || isSyllableName name || isListedName name

end FunctionBounds.Text
