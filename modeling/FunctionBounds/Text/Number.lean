/-!
# Numbers as text

* `hexDigits`, `hexDigitsUpper`: the digits of a natural number to base sixteen.
* `hex`: `0x` and the digits; the sign of a negative number stands after the `0x`.
* `hexField`: digits padded with zeros to a width, in which a sign counts.
* `grouped`: decimal digits in groups of three.
* `kibi?`: a quotient with one decimal.
-/

namespace FunctionBounds.Text

/-- The lower-case digits of `n` to base sixteen. -/
def hexDigits (n : Nat) : String := String.ofList (Nat.toDigits 16 n)

/-- The upper-case digits of `n` to base sixteen. -/
def hexDigitsUpper (n : Nat) : String := String.ofList ((Nat.toDigits 16 n).map Char.toUpper)

/-- Digits, with zeros in front of them up to `width`. -/
def zeroPadded (width : Nat) (digits : String) : String :=
  String.ofList (List.replicate (width - digits.length) '0') ++ digits

/-- The digits of `n` to base sixteen, padded with zeros to `width`, in which a sign counts. -/
def hexField (width : Nat) (n : Int) : String :=
  if n < 0 then "-" ++ zeroPadded (width - 1) (hexDigits n.natAbs)
  else zeroPadded width (hexDigits n.natAbs)

/-- An address: `0x` and the digits, the sign of a negative number after the `0x`. -/
def hex (n : Int) : String := "0x" ++ hexField 1 n

/-- A code of one octet: `0x` and at least two digits. -/
def hexCode (n : Int) : String := "0x" ++ hexField 2 n

/-- Digits, least significant first, with a comma after each third that is not the last. -/
private def groupedReverse : List Char → List Char
  | a :: b :: c :: d :: rest => a :: b :: c :: ',' :: groupedReverse (d :: rest)
  | digits => digits

/-- Digits in groups of three, counted from the last one. -/
def groupedDigits (digits : List Char) : String :=
  String.ofList (groupedReverse digits.reverse).reverse

/-- Only commas stand between digits in groups. -/
theorem mem_groupedDigits {digits : List Char} {c : Char} (h : c ∈ (groupedDigits digits).toList) :
    c = ',' ∨ c ∈ digits := by
  have hreverse : ∀ digits : List Char, c ∈ groupedReverse digits → c = ',' ∨ c ∈ digits := by
    intro digits
    induction digits using groupedReverse.induct with
    | case1 a b c' d rest ih =>
      simp only [groupedReverse, List.mem_cons] at ih ⊢
      grind
    | case2 digits hshort =>
      rw [groupedReverse]
      · exact .inr
      · exact hshort
  rw [groupedDigits, String.toList_ofList, List.mem_reverse] at h
  simpa using hreverse digits.reverse h

/-- A number in decimal, its digits in groups of three. -/
def grouped (n : Int) : String :=
  let digits := groupedDigits (Nat.toDigits 10 n.natAbs)
  if n < 0 then "-" ++ digits else digits

/-- A quotient to the nearest number, a half to the even neighbour. -/
def roundedQuotient (num den : Nat) : Nat :=
  let q := num / den
  let r := num % den
  if 2 * r < den then q else if den < 2 * r then q + 1 else q + q % 2

/-- The nearest multiple of a power of two that has `bits` significant binary digits. -/
def roundedToBits (bits n : Nat) : Nat :=
  let excess := n.log2 + 1 - bits
  roundedQuotient n (1 <<< excess) <<< excess

/-- `n` divided by 1024 with one decimal. The quotient has 53 significant binary digits before it
is rounded to the decimal, and an exact half goes to the even digit. There is none where the
quotient is two to the power of 1024 or more. -/
def kibi? (n : Int) : Option String :=
  let rounded := roundedToBits 53 n.natAbs
  let t := roundedQuotient (10 * rounded) 1024
  if rounded < 1 <<< 1034 then
    some ((if n < 0 then "-" else "") ++ toString (t / 10) ++ "." ++ toString (t % 10))
  else none

end FunctionBounds.Text
