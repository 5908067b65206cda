import FunctionBounds.Number.Binary64

/-!
# TOML values

* `Value`: what a key stands for.
* `Value.levels`: how deep a value is nested.
* `Table.update`: changes the table behind a dotted key, and makes the tables on the way to it.
-/

namespace FunctionBounds.Toml

/-- What a key stands for. Of dates only the text is kept. -/
inductive Value where
  | string (text : String)
  | integer (n : Int)
  | float (x : Binary64)
  | boolean (b : Bool)
  | date (text : String)
  | array (items : List Value)
  | table (entries : List (String × Value))
  deriving Repr

/-- A dotted key. -/
abbrev Key := List String

/-- Keys and values in the order in which they were given. -/
abbrev Table := List (String × Value)

/-- Whether a value is made of other values. -/
def Value.isCompound : Value → Bool
  | array _ => true
  | table _ => true
  | _ => false

mutual

/-- How many levels it takes to go through a value: two for each array and each table, and what the
value inside of them takes that takes most. -/
def Value.levels : Value → Nat
  | .array items => 2 + itemLevels items
  | .table entries => 2 + entryLevels entries
  | _ => 3

/-- How many levels the items of an array take. -/
def itemLevels : List Value → Nat
  | [] => 0
  | v :: rest => max v.levels (itemLevels rest)

/-- How many levels the entries of a table take. A key takes as many as a text. -/
def entryLevels : List (String × Value) → Nat
  | [] => 1
  | (_, v) :: rest => max (max 3 v.levels) (entryLevels rest)

end

namespace Table

/-- The value of a key. -/
def get? (t : Table) (k : String) : Option Value := t.lookup k

/-- Sets the value of a key, in place if the table has it. -/
def set (t : Table) (k : String) (v : Value) : Table :=
  if (t.get? k).isSome then t.map fun (k', v') => if k' == k then (k, v) else (k', v')
  else t ++ [(k, v)]

/-- Adds a key that the table does not have. -/
def add? (t : Table) (k : String) (v : Value) : Option Table :=
  if (t.get? k).isSome then none else some (t ++ [(k, v)])

/-- Changes the table behind a dotted key. Missing tables on the way are made; with `throughArrays`
an array of tables stands for its last one. Nothing else can be on the way. -/
def update (throughArrays : Bool) (f : Table → Option Table) : Key → Table → Option Table
  | [], t => f t
  | k :: rest, t =>
    match t.get? k with
    | none => do
      let inner ← update throughArrays f rest []
      return t.set k (.table inner)
    | some (.table inner) => do
      let inner ← update throughArrays f rest inner
      return t.set k (.table inner)
    | some (.array items) =>
      match throughArrays, items.getLast? with
      | true, some (.table inner) => do
        let inner ← update throughArrays f rest inner
        return t.set k (.array (items.dropLast ++ [.table inner]))
      | _, _ => none
    | some _ => none

/-- Adds an empty table to the array of tables behind a key, which may not be there yet. -/
def addItem? (t : Table) (k : String) : Option Table :=
  match t.get? k with
  | none => some (t.set k (.array [.table []]))
  | some (.array items) => some (t.set k (.array (items ++ [.table []])))
  | some _ => none

end Table

end FunctionBounds.Toml
