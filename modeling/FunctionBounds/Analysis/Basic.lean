import FunctionBounds.Candidate
import FunctionBounds.Container.Format
import FunctionBounds.Region.Basic

/-!
# The result of an analysis

* `BinaryInfo`: what is known about the file as a whole.
* `Analysis`: the file, its regions, the functions found and what was counted and warned about.
-/

namespace FunctionBounds

/-- What is known about a file as a whole. -/
structure BinaryInfo where
  path : String := ""
  size : Int := 0
  format : Format := .unknown
  arch : String := "unknown"
  machine : Int := 0
  /-- The width of addresses. -/
  bits : Int := 0
  entryPoint : Int := 0
  isExecutable : Bool := false
  isStripped : Bool := false
  sha256 : String := ""
  deriving DecidableEq, Repr

/-- How many candidates each mined region gave, in the order in which they were first counted. -/
abbrev SourceCounts := List (String × Int)

/-- Sets the count of a region, in place if it has one. -/
def SourceCounts.set (counts : SourceCounts) (name : String) (n : Int) : SourceCounts :=
  if (counts.lookup name).isSome then
    counts.map fun (name', n') => if name' == name then (name, n) else (name', n')
  else counts ++ [(name, n)]

/-- The result of an analysis. -/
structure Analysis where
  info : BinaryInfo := {}
  regions : List RegionInfo := []
  functions : List Candidate := []
  sourceCounts : SourceCounts := []
  /-- The regions that could not be mined, and why. -/
  warnings : List String := []
  deriving DecidableEq, Repr

/-- The function at the entry point. -/
def Analysis.entry? (a : Analysis) : Option Candidate := a.functions.find? (·.name == "entry")

end FunctionBounds
