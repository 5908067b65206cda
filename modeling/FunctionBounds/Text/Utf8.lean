import FunctionBounds.Bytes
import FunctionBounds.Text.Number

/-!
# UTF-8

Names in a file are octets that need not be UTF-8. A character that is cut short, an octet that
starts none, and a continuation octet that no character owes each become U+FFFD: one for the
longest part that starts a character, and reading goes on at the octet that did not fit. Where all
octets have to be UTF-8, the first such part is the error.

* `Utf8.Pending`: a character of which octets are still owed.
* `Utf8.decode`: the text of octets.
* `Utf8.fault?`: the first octets that are no character.
* `Utf8.read`: the text of octets, if all of them are UTF-8.
-/

namespace FunctionBounds.Text.Utf8

/-- What stands for octets that are no character. -/
def replacement : Char := '\uFFFD'

/-- A character of which octets are still owed: its bits so far, how many octets are owed after
the next one, and the bounds of the next one. -/
structure Pending where
  bits : Nat
  later : Nat
  low : UInt8 := 0x80
  high : UInt8 := 0xbf
  deriving DecidableEq, Repr

/-- What an octet leads to. -/
inductive Reading where
  /-- The octet is the last one of a character. -/
  | char (c : Char)
  | pending (p : Pending)
  /-- The octet cannot stand here. -/
  | invalid
  deriving DecidableEq, Repr

/-- The meaning of an octet that starts a character. The bounds of the second octet leave out
overlong forms, surrogates and numbers above U+10FFFF. -/
def Reading.ofOctet (b : UInt8) : Reading :=
  if b < 0x80 then .char (Char.ofNat b.toNat)
  else if b < 0xc2 then .invalid
  else if b < 0xe0 then .pending { bits := b.toNat - 0xc0, later := 0 }
  else if b = 0xe0 then .pending { bits := 0, later := 1, low := 0xa0 }
  else if b = 0xed then .pending { bits := 0xd, later := 1, high := 0x9f }
  else if b < 0xf0 then .pending { bits := b.toNat - 0xe0, later := 1 }
  else if b = 0xf0 then .pending { bits := 0, later := 2, low := 0x90 }
  else if b < 0xf4 then .pending { bits := b.toNat - 0xf0, later := 2 }
  else if b = 0xf4 then .pending { bits := 4, later := 2, high := 0x8f }
  else .invalid

/-- What the next octet of a character leads to. -/
def Pending.next (p : Pending) (b : UInt8) : Reading :=
  if p.low ≤ b ∧ b ≤ p.high then
    let bits := p.bits * 64 + (b.toNat - 0x80)
    match p.later with
    | 0 => .char (Char.ofNat bits)
    | later + 1 => .pending { bits, later }
  else .invalid

/-- The course of a decoding: the characters read, the last one first, and the one begun. -/
structure Decoding where
  done : List Char := []
  pending : Option Pending := none
  deriving DecidableEq, Repr

namespace Decoding

/-- Takes an octet as the first of a character. -/
def start (s : Decoding) (b : UInt8) : Decoding :=
  match Reading.ofOctet b with
  | .char c => ⟨c :: s.done, none⟩
  | .pending p => ⟨s.done, some p⟩
  | .invalid => ⟨replacement :: s.done, none⟩

/-- Takes the next octet. -/
def step (s : Decoding) (b : UInt8) : Decoding :=
  match s.pending with
  | none => s.start b
  | some p =>
    match p.next b with
    | .char c => ⟨c :: s.done, none⟩
    | .pending p => ⟨s.done, some p⟩
    | .invalid => start ⟨replacement :: s.done, none⟩ b

/-- The text when no octet follows. -/
def finish (s : Decoding) : List Char :=
  (if s.pending.isSome then replacement :: s.done else s.done).reverse

end Decoding

/-- The text of octets. -/
def decode (bs : Bytes) : String := String.ofList (bs.foldl Decoding.step {}).finish

/-! ## Octets that have to be UTF-8 -/

/-- What is wrong with octets that are no character. -/
inductive Defect where
  /-- The octet starts no character. -/
  | start
  /-- An octet follows that does not go on with the character. -/
  | continuation
  /-- Nothing follows, though octets are owed. -/
  | missing
  deriving DecidableEq, Repr

/-- Octets that are no character: where they begin, the first one, and how many they are. -/
structure Fault where
  defect : Defect
  offset : Nat
  first : UInt8
  count : Nat := 1
  deriving DecidableEq, Repr

/-- The sentence that reports octets that are no character. -/
def Fault.message (f : Fault) : String :=
  let place :=
    if f.count = 1 then s!"byte {hexCode f.first.toNat} in position {f.offset}"
    else s!"bytes in position {f.offset}-{f.offset + f.count - 1}"
  let reason := match f.defect with
    | .start => "invalid start byte"
    | .continuation => "invalid continuation byte"
    | .missing => "unexpected end of data"
  s!"'utf-8' codec can't decode {place}: {reason}"

mutual

/-- The first octets from an offset on that are no character. -/
def faultFrom (offset : Nat) : List UInt8 → Option Fault
  | [] => none
  | b :: rest =>
    match Reading.ofOctet b with
    | .char _ => faultFrom (offset + 1) rest
    | .pending p => faultWithin offset b 1 p rest
    | .invalid => some ⟨.start, offset, b, 1⟩

/-- The same within the character that starts with `first`, of which `count` octets are read. -/
def faultWithin (offset : Nat) (first : UInt8) (count : Nat) (p : Pending) :
    List UInt8 → Option Fault
  | [] => some ⟨.missing, offset, first, count⟩
  | b :: rest =>
    match p.next b with
    | .char _ => faultFrom (offset + count + 1) rest
    | .pending p => faultWithin offset first (count + 1) p rest
    | .invalid => some ⟨.continuation, offset, first, count⟩

end

/-- The first octets that are no character. -/
def fault? (bs : Bytes) : Option Fault := faultFrom 0 bs.toList

/-- The text of octets, if all of them are UTF-8. -/
def read (bs : Bytes) : Except Fault String :=
  match fault? bs with
  | none => .ok (decode bs)
  | some f => .error f

end FunctionBounds.Text.Utf8
