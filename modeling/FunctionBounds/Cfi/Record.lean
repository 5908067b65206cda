import FunctionBounds.Field.Word

/-!
# Records of a call-frame section

A record is a length, an identifier and fields. The length has four octets, or `0xffffffff` and
eight octets. Records follow each other without gaps.

* `Convention`: how identifiers are written and what they mean.
* `Record.read`: the bounds of the record at an offset.
* `Chain.read`: the records from the start of the section, and why they end.
* `Record.read_stop`: a record spans at least eight octets and lies inside the section.
-/

namespace FunctionBounds.Cfi

/-- The two kinds of call-frame section. -/
inductive Convention where
  /-- The identifier has four octets: zero for a common entry, else the distance back to one. -/
  | ehFrame
  /-- The identifier is as wide as offsets of the record: all ones for a common entry, else the
  offset of one. -/
  | debugFrame
  deriving DecidableEq, Repr

/-- The width of identifiers in records with an eight-octet length. -/
def Convention.wideIdWidth : Convention → Nat
  | ehFrame => 4
  | debugFrame => 8

/-- The identifier of a common entry. -/
def Convention.commonId (c : Convention) (idWidth : Nat) : Nat :=
  match c with
  | ehFrame => 0
  | debugFrame => 1 <<< (8 * idWidth) - 1

/-- The length that says that eight octets of length follow. -/
def wideLength : Nat := 0xffffffff

/-- The bounds of a record. -/
structure Record where
  offset : Nat
  idOffset : Nat
  idWidth : Nat
  /-- The offset after the record. -/
  stop : Nat
  deriving DecidableEq, Repr

namespace Record

/-- A record whose identifier starts at `pos` and which has `length` octets from there on. -/
def bounded (d : Bytes) (off pos length idWidth : Nat) : Except DecodeError Record :=
  if d.size < pos + length then .error (.recordOutside off length d.size)
  else if length < idWidth then .error (.recordTooShort off)
  else .ok ⟨off, pos, idWidth, pos + length⟩

/-- The bounds of the record at an offset. -/
def read (d : Bytes) (c : Convention) (off : Nat) : Except DecodeError Record := do
  let (length, pos) ← d.readUnsigned 4 off
  if length = wideLength then
    let (length, pos) ← d.readUnsigned 8 pos
    bounded d off pos length c.wideIdWidth
  else bounded d off pos length 4

/-- The identifier of a record that lies inside the section. -/
def identifier (r : Record) (d : Bytes) : Nat := d.le r.idOffset r.idWidth

/-- Whether a record is a common entry. -/
def isCommon (r : Record) (d : Bytes) (c : Convention) : Bool :=
  r.identifier d == c.commonId r.idWidth

/-- The offset of the fields after the identifier. -/
def body (r : Record) : Nat := r.idOffset + r.idWidth

theorem bounded_eq_ok_iff {d : Bytes} {off pos length idWidth : Nat} {r : Record} :
    bounded d off pos length idWidth = .ok r ↔
      pos + length ≤ d.size ∧ idWidth ≤ length ∧ r = ⟨off, pos, idWidth, pos + length⟩ := by
  unfold bounded
  split
  · simp; omega
  · split
    · simp; omega
    · simp only [Except.ok.injEq]
      constructor
      · rintro rfl; exact ⟨by omega, by omega, rfl⟩
      · rintro ⟨-, -, rfl⟩; rfl

/-- A record spans at least eight octets and lies inside the section. -/
theorem read_stop {d : Bytes} {c : Convention} {off : Nat} {r : Record}
    (h : read d c off = .ok r) : off + 8 ≤ r.stop ∧ r.stop ≤ d.size := by
  unfold read at h
  cases h₁ : d.readUnsigned 4 off with
  | error e => simp [h₁, bind, Except.bind] at h
  | ok p =>
    obtain ⟨length, pos⟩ := p
    have hp := Bytes.readUnsigned_next h₁
    simp only [h₁, bind, Except.bind] at h
    split at h
    · cases h₂ : d.readUnsigned 8 pos with
      | error e => simp [h₂] at h
      | ok q =>
        obtain ⟨length', pos'⟩ := q
        have hq := Bytes.readUnsigned_next h₂
        simp only [h₂] at h
        obtain ⟨hs, hw, rfl⟩ := bounded_eq_ok_iff.1 h
        simp only
        omega
    · obtain ⟨hs, hw, rfl⟩ := bounded_eq_ok_iff.1 h
      simp only
      omega

end Record

/-- Why the records of a section end. -/
inductive Ending where
  /-- Fewer than four octets are left. -/
  | exhausted
  /-- A length of zero. -/
  | terminator
  /-- The bounds of a record cannot be read. -/
  | undecodable (cause : DecodeError)
  deriving DecidableEq, Repr

/-- The records of a section, and why and where they end. -/
structure Chain where
  records : List Record
  stop : Nat
  ending : Ending
  deriving DecidableEq, Repr

namespace Chain

/-- The records from an offset on, after those already read, which stand in reverse order. -/
def readFrom (d : Bytes) (c : Convention) (off : Nat) (before : List Record) : Chain :=
  if _hoff : off + 4 ≤ d.size then
    if d.le off 4 = 0 then ⟨before.reverse, off, .terminator⟩
    else
      match _h : Record.read d c off with
      | .error cause => ⟨before.reverse, off, .undecodable cause⟩
      | .ok r => readFrom d c r.stop (r :: before)
  else ⟨before.reverse, off, .exhausted⟩
termination_by d.size - off
decreasing_by
  have := Record.read_stop _h
  omega

/-- The records of a section. -/
def read (d : Bytes) (c : Convention) : Chain := readFrom d c 0 []

end Chain

end FunctionBounds.Cfi
