import FunctionBounds.Text.Blank

/-!
# Sources of evidence

* `Source`: how far a piece of evidence is trusted.
* `Evidence`: the regions that are mined for functions, each with its source.
* `Evidence.parse`: a kind from its region's name or a shorter spelling.
-/

namespace FunctionBounds

/-- How far evidence is trusted, lowest first. -/
inductive Source where
  | unwindTable
  /-- Reserved: nothing produces it yet. -/
  | callGraph
  | dynamicSymbols
  | staticSymbols
  /-- The entry point, and candidates from outside. -/
  | manual
  deriving DecidableEq, Repr

namespace Source

/-- Every source, lowest first. -/
def all : List Source := [unwindTable, callGraph, dynamicSymbols, staticSymbols, manual]

/-- The place of a source in the order of trust. -/
def rank : Source → Nat
  | unwindTable => 0
  | callGraph => 1
  | dynamicSymbols => 2
  | staticSymbols => 3
  | manual => 4

instance : LT Source := ⟨fun a b => a.rank < b.rank⟩

instance : LE Source := ⟨fun a b => a.rank ≤ b.rank⟩

instance (a b : Source) : Decidable (a < b) := inferInstanceAs (Decidable (a.rank < b.rank))

instance (a b : Source) : Decidable (a ≤ b) := inferInstanceAs (Decidable (a.rank ≤ b.rank))

/-- The name of a source in notes and answers. -/
def name : Source → String
  | unwindTable => "UNWIND_TABLE"
  | callGraph => "CALL_GRAPH"
  | dynamicSymbols => "DYNAMIC_SYMBOL_TABLE"
  | staticSymbols => "STATIC_SYMBOL_TABLE"
  | manual => "MANUAL"

end Source

/-- The regions that are mined for functions. -/
inductive Evidence where
  | ehFrame
  | ehFrameHdr
  | debugFrame
  | symtab
  | dynsym
  deriving DecidableEq, Repr

namespace Evidence

/-- Every kind, in the order in which spellings are tried. -/
def all : List Evidence := [ehFrame, ehFrameHdr, debugFrame, symtab, dynsym]

/-- The name of the region. -/
def regionName : Evidence → String
  | ehFrame => ".eh_frame"
  | ehFrameHdr => ".eh_frame_hdr"
  | debugFrame => ".debug_frame"
  | symtab => ".symtab"
  | dynsym => ".dynsym"

/-- How far the functions found in the region are trusted. -/
def source : Evidence → Source
  | ehFrame => .unwindTable
  | ehFrameHdr => .unwindTable
  | debugFrame => .unwindTable
  | symtab => .staticSymbols
  | dynsym => .dynamicSymbols

/-- The spellings of a kind: the region's name, also without its dot, and without its dot and its
underscores. -/
def spellings (k : Evidence) : List (List Char) :=
  let name := k.regionName.toList
  let bare := name.dropWhile (· == '.')
  [name, bare, bare.filter (· != '_')]

/-- A text that is no spelling of a kind. -/
structure Unknown where
  text : String
  deriving DecidableEq, Repr

/-- The sentence that reports an unknown kind. -/
def Unknown.message (u : Unknown) : String := "Unknown frame type: " ++ u.text

/-- The kind that a text spells. Blanks around it and the case of its letters do not count. Outside
ASCII only U+0130 and U+212A have ASCII letters in their lower case, namely i and k, and no
spelling has either; so the lower case of ASCII letters is enough. -/
def parse (text : String) : Except Unknown Evidence :=
  let key := (Text.strip text).toList.map Char.toLower
  match all.find? fun k => k.spellings.contains key with
  | some k => .ok k
  | none => .error ⟨text⟩

/-- The kinds that texts spell; the first text that spells none is the error. -/
def parseAll (texts : List String) : Except Unknown (List Evidence) := texts.mapM parse

end Evidence

end FunctionBounds
