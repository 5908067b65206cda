import FunctionBounds.Text.Number

/-!
# Function candidates

* `Candidate`: a recovered function: a name and the range of addresses that it covers.
* `Candidate.Draft.check`: a draft from outside becomes a candidate if no part is missing or
  negative and its end is its start plus its size.
* `Candidate.sorted`: candidates by start; those of equal start keep their order.
-/

namespace FunctionBounds

open Text (hex)

/-- A recovered function. -/
structure Candidate where
  name : String
  start : Nat
  size : Nat
  deriving DecidableEq, Repr

namespace Candidate

/-- The address after the last octet. -/
def stop (c : Candidate) : Nat := c.start + c.size

/-- The same range under another name. -/
def renamed (c : Candidate) (name : String) : Candidate := { c with name }

/-- A name for a function of which only the address is known. -/
def nameAt (address : Nat) : String := "FUNC_" ++ hex address

theorem nameAt_eq (n : Nat) : nameAt n = "FUNC_0x" ++ Text.hexDigits n := by
  have hlength : 0 < (Nat.toDigits 16 n).length := Nat.length_toDigits_pos
  have hpad : 1 - (Nat.toDigits 16 n).length = 0 := by omega
  have hprefix : "FUNC_" ++ "0x" = "FUNC_0x" := by decide
  simp only [nameAt, Text.hex, Text.hexField, Text.zeroPadded, Text.hexDigits, Int.natAbs_natCast,
    String.length_ofList, hpad]
  rw [if_neg (by omega), ← String.append_assoc, hprefix]
  rfl

/-- The candidates by start; those of equal start keep their order. -/
def sorted (cs : List Candidate) : List Candidate := cs.mergeSort fun a b => a.start ≤ b.start

/-- The parts of a draft. -/
inductive Part where
  | name
  | start
  | stop
  | size
  deriving DecidableEq, Repr

/-- What can be wrong with one part of a draft. -/
inductive Fault where
  | missing
  | negative
  deriving DecidableEq, Repr

/-- A candidate as given from outside. -/
structure Draft where
  name : Option String := none
  start : Option Int := none
  stop : Option Int := none
  size : Option Int := some 0
  deriving DecidableEq, Repr

/-- Why a draft is no candidate. -/
inductive Error where
  /-- Some parts are missing or negative, in the order of the parts. -/
  | faults (faults : List (Part × Fault))
  /-- The end is not the start plus the size. -/
  | mismatch (name : String) (start stop size : Nat)
  deriving DecidableEq, Repr

/-- The sentence that reports an error. -/
def Error.message : Error → String
  | faults fs => s!"{fs.length} invalid parts"
  | mismatch name start stop size =>
    s!"Value error, {name}: end {hex stop} != start {hex start} + size {hex size}"

/-- What is wrong with a number that a draft has to give. -/
def Fault.ofNumber? : Option Int → Option Fault
  | none => some .missing
  | some n => if n < 0 then some .negative else none

/-- What is wrong with each part of a draft. -/
def Draft.faults (d : Draft) : List (Part × Fault) :=
  [(Part.name, if d.name.isNone then some Fault.missing else none),
    (.start, Fault.ofNumber? d.start), (.stop, Fault.ofNumber? d.stop),
    (.size, Fault.ofNumber? d.size)].filterMap fun (p, f?) => f?.map (p, ·)

/-- The candidate that a draft describes. -/
def Draft.check (d : Draft) : Except Error Candidate :=
  match d.faults, d.name, d.start, d.stop, d.size with
  | [], some name, some start, some stop, some size =>
    if stop = start + size then .ok ⟨name, start.toNat, size.toNat⟩
    else .error (.mismatch name start.toNat stop.toNat size.toNat)
  | faults, _, _, _, _ => .error (.faults faults)

/-- The draft of a range of addresses. -/
def Draft.ofRange (name : String) (start size : Int) : Draft :=
  ⟨some name, some start, some (start + size), some size⟩

end Candidate

end FunctionBounds
