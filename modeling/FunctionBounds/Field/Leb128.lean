import FunctionBounds.Field.Word

/-!
# LEB128

Numbers of any size in groups of seven bits, least significant first; bit 7 of an octet says that
another follows.

* `Leb128.unsigned`, `Leb128.signed`: the number in the octets of one encoding.
* `Bytes.readUnsignedLeb`, `Bytes.readSignedLeb`: the octets of an encoding end with the first one
  whose bit 7 is clear.
-/

namespace FunctionBounds

namespace Leb128

/-- Whether an octet ends an encoding: its bit 7 is clear. -/
def isLast (b : UInt8) : Bool := b < 0x80

/-- The number in groups of seven bits, least significant first. -/
def unsigned (bs : List UInt8) : Nat := bs.foldr (fun b n => b.toNat % 128 + 128 * n) 0

/-- The same groups read in two's complement. -/
def signed (bs : List UInt8) : Int := (unsigned bs : Int).bmod (1 <<< (7 * bs.length))

@[simp] theorem unsigned_nil : unsigned [] = 0 := rfl

@[simp] theorem unsigned_cons (b : UInt8) (bs : List UInt8) :
    unsigned (b :: bs) = b.toNat % 128 + 128 * unsigned bs := rfl

theorem unsigned_lt (bs : List UInt8) : unsigned bs < 1 <<< (7 * bs.length) := by
  induction bs with
  | nil => simp
  | cons b bs ih =>
    have := Nat.mod_lt b.toNat (by decide : 0 < 128)
    simp only [unsigned_cons, List.length_cons, Nat.mul_succ, Nat.shiftLeft_add]
    simp only [Nat.shiftLeft_eq _ 7]
    omega

end Leb128

namespace Bytes

/-- The octets of the LEB128 number at `off`, and the offset after them. -/
def lebGroups? (d : Bytes) (off : Nat) : Option (List UInt8 × Nat) :=
  (d.indexFrom? Leb128.isLast off).map fun last => ((d.extract off (last + 1)).toList, last + 1)

/-- An unsigned LEB128 number. -/
def readUnsignedLeb (d : Bytes) (off : Nat) : Except DecodeError (Nat × Nat) :=
  match d.lebGroups? off with
  | some (groups, next) => .ok (Leb128.unsigned groups, next)
  | none => .error .unsignedUnterminated

/-- A signed LEB128 number. -/
def readSignedLeb (d : Bytes) (off : Nat) : Except DecodeError (Int × Nat) :=
  match d.lebGroups? off with
  | some (groups, next) => .ok (Leb128.signed groups, next)
  | none => .error .signedUnterminated

theorem lebGroups?_next {d : Bytes} {off next : Nat} {groups : List UInt8}
    (h : d.lebGroups? off = some (groups, next)) : off < next ∧ next ≤ d.size := by
  obtain ⟨last, hl, he⟩ := Option.map_eq_some_iff.1 h
  cases he
  have := indexFrom?_bounds hl
  omega

end Bytes

end FunctionBounds
