import FunctionBounds.Bytes
import FunctionBounds.DecodeError

/-!
# Octets, words and strings

Readers of the fields whose width is fixed, and of NUL-terminated strings. Each reads at an offset
and gives the value and the offset after the field.

* `Bytes.readByte`, `Bytes.readUnsigned`, `Bytes.readWord`: little-endian numbers.
* `Bytes.readString`: the octets up to a NUL.
* `Bytes.readUnsigned_next`, …: a reader that succeeds moves forward and stays inside.
-/

namespace FunctionBounds

/-- The fixed formats of a number: its width in octets and whether it has a sign. -/
structure Word where
  width : Nat
  signed : Bool
  deriving DecidableEq, Repr

namespace Word

def u16 : Word := ⟨2, false⟩
def u32 : Word := ⟨4, false⟩
def u64 : Word := ⟨8, false⟩
def i16 : Word := ⟨2, true⟩
def i32 : Word := ⟨4, true⟩
def i64 : Word := ⟨8, true⟩

/-- The number that an unsigned one stands for: in two's complement if the word has a sign. -/
def interpret (w : Word) (n : Nat) : Int :=
  if w.signed then (n : Int).bmod (1 <<< (8 * w.width)) else n

end Word

namespace Bytes

/-- The octet at an offset. -/
def readByte (d : Bytes) (off : Nat) : Except DecodeError (Nat × Nat) :=
  if h : off < d.size then .ok (d[off].toNat, off + 1) else .error (.byteOutside off)

/-- The unsigned number in `width` octets. -/
def readUnsigned (d : Bytes) (width off : Nat) : Except DecodeError (Nat × Nat) :=
  if off + width ≤ d.size then .ok (d.le off width, off + width)
  else .error (.wordOutside width off d.size)

/-- A number of a fixed format. -/
def readWord (d : Bytes) (w : Word) (off : Nat) : Except DecodeError (Int × Nat) := do
  let (n, next) ← d.readUnsigned w.width off
  return (w.interpret n, next)

/-- `readWord` for any offset; one before the first octet is outside as well. -/
def readWordAt (d : Bytes) (w : Word) (off : Int) : Except DecodeError (Int × Nat) :=
  match off with
  | .ofNat n => d.readWord w n
  | .negSucc _ => .error (.wordOutside w.width off d.size)

/-- The octets up to a NUL, and the offset after it. -/
def readString (d : Bytes) (off : Nat) : Except DecodeError (Bytes × Nat) :=
  match d.indexFrom? (· == 0) off with
  | some stop => .ok (d.extract off stop, stop + 1)
  | none => .error (.stringUnterminated off)

/-! ## Progress -/

theorem readByte_next {d : Bytes} {off v next : Nat} (h : d.readByte off = .ok (v, next)) :
    next = off + 1 ∧ next ≤ d.size := by
  unfold readByte at h
  split at h
  · cases h; exact ⟨rfl, by omega⟩
  · cases h

theorem readUnsigned_next {d : Bytes} {width off v next : Nat}
    (h : d.readUnsigned width off = .ok (v, next)) : next = off + width ∧ next ≤ d.size := by
  unfold readUnsigned at h
  split at h
  · cases h; exact ⟨rfl, by assumption⟩
  · cases h

theorem readString_next {d : Bytes} {off next : Nat} {s : Bytes}
    (h : d.readString off = .ok (s, next)) : off < next ∧ next ≤ d.size := by
  unfold readString at h
  split at h
  · next stop hs => cases h; have := indexFrom?_bounds hs; omega
  · cases h

end Bytes

end FunctionBounds
