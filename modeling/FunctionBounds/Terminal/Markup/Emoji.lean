import FunctionBounds.Terminal.Markup.EmojiNames
import FunctionBounds.Text.Blank
import FunctionBounds.Text.Digit
import FunctionBounds.Terminal.Markup.LowerCase

/-!
# Emoji in text

A name between two colons stands for an emoji. After a dash it may say whether the emoji is to be
shown as a picture or as text.

* `Emoji.find?`: the emoji of a name.
* `Emoji.expand`: a text with emoji in place of their names.
-/

namespace FunctionBounds.Terminal.Emoji

/-- The characters of code points in hexadecimal, with dashes between them. -/
def ofCodePoints (text : String) : List Char :=
  (text.splitOn "-").map fun digits =>
    Char.ofNat (Text.numberOf 16 digits.toList)

/-- A name and its code points, which stand on both sides of an equals sign. -/
def entryOf (text : String) : String × String :=
  let name := text.toList.takeWhile (· != '=')
  (String.ofList name, String.ofList (text.toList.drop (name.length + 1)))

/-- The names of emoji, each with its code points. -/
def entries : List (String × String) := (emojiNames.flatMap (·.splitOn " ")).map entryOf

/-- The emoji of a name in lower case. -/
def find? (name : String) : Option (List Char) := (entries.lookup name).map ofCodePoints

/-- The ways to show an emoji: the end of the name, and the character that asks for it. -/
def variants : List (String × Char) := [("-emoji", '\ufe0f'), ("-text", '\ufe0e')]

/-- The emoji of what stands between two colons. -/
def ofCode? (code : List Char) : Option (List Char) :=
  let found := fun (name : List Char) => find? (Text.lowerCase (String.ofList name))
  match variants.find? fun (ending, _) => ending.toList.isSuffixOf code with
  | some (ending, variant) =>
    (found (code.take (code.length - ending.length))).map (· ++ [variant])
  | none => found code

/-- What stands between two colons at the start of a text, and the rest. -/
def code? : List Char → Option (List Char × List Char)
  | ':' :: rest =>
    let code := rest.takeWhile fun c => c != ':' && !Text.isBlank c
    match rest.drop code.length with
    | ':' :: rest => some (code, rest)
    | _ => none
  | _ => none

/-- A text with emoji in place of their names; a name that is not known stays. There are at most as
many steps as characters. -/
def expandFrom : Nat → List Char → List Char
  | 0, cs => cs
  | _ + 1, [] => []
  | steps + 1, c :: rest =>
    match code? (c :: rest) with
    | some (code, rest) =>
      (ofCode? code).getD (':' :: code ++ [':']) ++ expandFrom steps rest
    | none => c :: expandFrom steps rest

/-- A text with emoji in place of their names. -/
def expand (cs : List Char) : List Char := expandFrom (cs.length + 1) cs

end FunctionBounds.Terminal.Emoji
