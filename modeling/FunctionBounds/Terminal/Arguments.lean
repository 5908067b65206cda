/-!
# Command-line arguments

Arguments are options with one or two dashes, and operands.

* `OptionSpec`: an option, its spellings, and whether a value follows it.
* `Arguments.parse`: the options and operands of a list of arguments.
-/

namespace FunctionBounds.Terminal

/-- An option of type `α`. -/
structure OptionSpec (α : Type) where
  id : α
  /-- The name after two dashes. -/
  long : String
  /-- The letter after one dash. -/
  short : Option Char := none
  takesValue : Bool := false

/-- The options that were given, in order, and the operands. -/
structure Arguments (α : Type) where
  options : List (α × String) := []
  operands : List String := []

namespace Arguments

variable {α : Type}

/-- Splits an argument at its first equals sign. -/
def splitValue (arg : List Char) : List Char × Option String :=
  match arg.dropWhile (· != '=') with
  | _ :: v => (arg.takeWhile (· != '='), some (String.ofList v))
  | [] => (arg, none)

/-- The options in a group of letters after one dash. The first one with a value takes the rest of
the group, or else the next argument. -/
def parseLetters (specs : List (OptionSpec α)) :
    List Char → List String → List (α × String) → Option (List (α × String) × List String)
  | [], rest, before => some (before, rest)
  | c :: letters, rest, before => do
    let spec ← specs.find? fun s => s.short == some c
    if spec.takesValue then
      match letters, rest with
      | [], [] => none
      | [], v :: rest => some (before ++ [(spec.id, v)], rest)
      | _ :: _, _ => some (before ++ [(spec.id, String.ofList letters)], rest)
    else parseLetters specs letters rest (before ++ [(spec.id, "")])

/-- The option of a long name, its value and the arguments left. -/
def parseLong (spec : OptionSpec α) (value : Option String) (rest : List String) :
    Option (List (α × String) × List String) :=
  match spec.takesValue, value, rest with
  | true, some v, _ => some ([(spec.id, v)], rest)
  | true, none, v :: rest => some ([(spec.id, v)], rest)
  | true, none, [] => none
  | false, some _, _ => none
  | false, none, _ => some ([(spec.id, "")], rest)

/-- The options of an argument that starts with a dash, and the arguments left. -/
def parseOption (specs : List (OptionSpec α)) (arg : String) (rest : List String) :
    Option (List (α × String) × List String) :=
  let (name, value) := splitValue arg.toList
  match specs.find? fun s => ("--" ++ s.long).toList == name with
  | some spec => parseLong spec value rest
  | none =>
    match arg.toList with
    | '-' :: '-' :: _ => none
    | _ :: letters => parseLetters specs letters rest []
    | [] => none

/-- Whether an argument is an option and no operand. -/
def isOption (arg : String) : Bool :=
  match arg.toList with
  | '-' :: _ :: _ => true
  | _ => false

/-- Parses arguments, with at most as many steps as there are. Where options may not be mixed with
operands, everything from the first operand on is one. -/
def parseFrom (specs : List (OptionSpec α)) (mixed : Bool) :
    Nat → List String → Arguments α → Option (Arguments α)
  | 0, _, _ => none
  | steps + 1, args, done =>
    match args with
    | [] => some done
    | arg :: rest =>
      if arg == "--" then some { done with operands := done.operands ++ rest }
      else if isOption arg then do
        let (options, rest) ← parseOption specs arg rest
        parseFrom specs mixed steps rest { done with options := done.options ++ options }
      else if mixed then
        parseFrom specs mixed steps rest { done with operands := done.operands ++ [arg] }
      else some { done with operands := done.operands ++ args }

/-- The options and operands of a list of arguments, or nothing if an option is not known, has no
value where it takes one, or has one where it takes none. -/
def parse (specs : List (OptionSpec α)) (mixed : Bool) (args : List String) :
    Option (Arguments α) :=
  parseFrom specs mixed (args.length + 1) args {}

variable [BEq α]

/-- Whether an option was given. -/
def has (a : Arguments α) (id : α) : Bool := a.options.any fun (i, _) => i == id

/-- The values of an option, in order. -/
def values (a : Arguments α) (id : α) : List String :=
  (a.options.filter fun (i, _) => i == id).map (·.2)

/-- The last value of an option. -/
def value? (a : Arguments α) (id : α) : Option String := (a.values id).getLast?

end Arguments

end FunctionBounds.Terminal
