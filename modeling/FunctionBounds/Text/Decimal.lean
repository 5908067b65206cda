import FunctionBounds.Text.Number

/-!
# Decimal numbers of bounded length

A number is read and written in decimal only if it does not have too many digits.

* `DigitLimit.admits`: whether a number is short enough.
* `DigitLimit.check`: an error for a number that is not.
* `TooLong`: a number with too many digits.
-/

namespace FunctionBounds.Text

/-- The most digits that a decimal number may have, if there is such a bound. -/
abbrev DigitLimit := Option Nat

/-- A number with more digits than are allowed. -/
structure TooLong where
  limit : Nat
  /-- How many digits the number has, if it was to be read. -/
  digits : Option Nat := none
  deriving DecidableEq, Repr

/-- The sentence that reports a number that is too long. -/
def TooLong.message (e : TooLong) : String :=
  let found := match e.digits with
    | some n => s!": value has {n} digits"
    | none => ""
  s!"Exceeds the limit ({e.limit} digits) for integer string conversion{found}; " ++
    "use sys.set_int_max_str_digits() to increase the limit"

namespace DigitLimit

/-- The bound that holds unless another is chosen. -/
def standard : DigitLimit := some 4300

/-- Whether a number has at most as many digits as are allowed; a sign does not count. -/
def admits (l : DigitLimit) (n : Int) : Bool :=
  match l with
  | none => true
  | some limit => n.natAbs < Nat.pow 10 limit

/-- No error for a number that can be written. -/
def check (l : DigitLimit) (n : Int) : Except TooLong Unit :=
  match l with
  | none => .ok ()
  | some limit => if l.admits n then .ok () else .error { limit }

/-- No error for a number of so many digits, which can be read. -/
def checkLength (l : DigitLimit) (digits : Nat) : Except TooLong Unit :=
  match l with
  | none => .ok ()
  | some limit => if digits ≤ limit then .ok () else .error { limit, digits := some digits }

@[simp] theorem admits_none (n : Int) : admits none n = true := rfl

@[simp] theorem check_none (n : Int) : check none n = .ok () := rfl

theorem admits_of_lt {limit k : Nat} {n : Int} (h : n.natAbs < Nat.pow 10 k) (hk : k ≤ limit) :
    admits (some limit) n = true :=
  decide_eq_true (Nat.lt_of_lt_of_le h (Nat.pow_le_pow_right (by decide) hk))

theorem check_eq_ok_iff {l : DigitLimit} {n : Int} : l.check n = .ok () ↔ l.admits n = true := by
  cases l with
  | none => simp
  | some limit => simp [check]

theorem check_of_not_admits {limit : Nat} {n : Int} (h : admits (some limit) n = false) :
    check (some limit) n = .error { limit } := by
  simp [check, h]

end DigitLimit

end FunctionBounds.Text
