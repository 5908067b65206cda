import FunctionBounds.Files
import FunctionBounds.Source

/-!
# Calls

A call of the program names a file, options for all commands, a command, and what the command
needs.

* `General`, `Invocation`: what arguments say once they are read.
* `ArgumentParser`: what reads them.
* `Request`: what a command is asked to do.
-/

namespace FunctionBounds.Command

/-- What holds for every command. -/
structure General where
  path : String
  config : Option String
  json : Bool
  output : Option String
  verbose : Bool
  deriving DecidableEq, Repr

/-- A command and its own arguments. -/
inductive Invocation where
  | entry
  /-- The names of the regions to mine, if any are given. -/
  | functions (sources : List String)
  | sections
  | dump (region : String) (strings : Bool)
  deriving DecidableEq, Repr

/-- Why a call is not carried out. -/
inductive Refusal where
  /-- The arguments are wrong. -/
  | usage
  /-- The arguments ask for a text, such as help, that is printed. -/
  | informed (text : String)
  /-- A path holds the character that ends paths. -/
  | nulInPath
  deriving DecidableEq, Repr

/-- What reads the arguments of a call, by what paths stand for. What holds for every command stands
first; the arguments of the command itself are read later. -/
structure ArgumentParser where
  read : Files → List String → Except Refusal (General × Except Refusal Invocation)

/-- Whether a path holds the character that ends paths. -/
def hasNul (path : String) : Bool := path.toList.contains '\x00'

/-! ## Requests -/

/-- What a command is asked to do. -/
inductive Request where
  | entry
  /-- Functions from the regions that are named, if any are. -/
  | functions (kinds : Option (List Evidence))
  | sections
  | dump (region : String) (strings : Bool)
  deriving DecidableEq, Repr

/-- The kinds of regions that names stand for. -/
def parseKinds (names : List String) : Except Refusal (Option (List Evidence)) :=
  if names.isEmpty then .ok none
  else
    match Evidence.parseAll names with
    | .ok kinds => .ok (some kinds)
    | .error _ => .error .usage

/-- What a command is asked to do. -/
def Invocation.request : Invocation → Except Refusal Request
  | entry => .ok .entry
  | functions sources => return .functions (← parseKinds sources)
  | sections => .ok .sections
  | dump region strings => .ok (.dump region strings)

end FunctionBounds.Command
