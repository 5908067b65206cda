import FunctionBounds.Proofs.Checked.Scanners
import FunctionBounds.Proofs.Field.Leb128
import FunctionBounds.Proofs.Field.Locality

/-!
# Checked readers

The readers of fields once more, one octet at a time: an octet that is not inside gets out as such,
and a loop has one round for each octet and one more. Nothing but a decoding error ever gets out.

- **Octets and words** (`checkedByte_eq`, `checkedWord_eq`): the octets of a word are taken after it
  is known that they are there.
- **Loops** (`checkedGroups_eq`, `checkedStop_eq`): those over the groups of a LEB128 number and
  over the octets of a string end, and stay inside.
- **Readers** (`Advances`, `readers_advance`): a reader that succeeds has moved forward, is still
  inside and has looked at nothing but what it passed over, aligned addresses included.
-/

namespace FunctionBounds

namespace Bytes

/-! ## Octets and words -/

/-- The octet at an offset. -/
def checkedByte (d : Bytes) (off : Nat) : Except Escape (Nat × Nat) :=
  if d.size ≤ off then .error (.decoding (.byteOutside off))
  else do
    let b ← octetAt d off
    return (b.toNat, off + 1)

/-- The `n` octets from `off` on, one after the other. -/
def checkedSlice (d : Bytes) (off n : Nat) : Except Escape (List UInt8) :=
  (List.range n).mapM fun i => octetAt d (off + i)

/-- The unsigned number in `width` octets. -/
def checkedUnsigned (d : Bytes) (width off : Nat) : Except Escape (Nat × Nat) :=
  if d.size < off + width then .error (.decoding (.wordOutside width off d.size))
  else do
    let bs ← d.checkedSlice off width
    return (ofLittleEndian bs, off + width)

/-- A number of a fixed format. -/
def checkedWord (d : Bytes) (w : Word) (off : Nat) : Except Escape (Int × Nat) := do
  let (n, next) ← d.checkedUnsigned w.width off
  return (w.interpret n, next)

variable {d : Bytes} {off : Nat}

theorem octetAt_of_lt (h : off < d.size) : octetAt d off = .ok d[off] := dif_pos h

theorem checkedByte_eq (d : Bytes) (off : Nat) :
    d.checkedByte off = (d.readByte off).mapError .decoding := by
  unfold checkedByte readByte
  by_cases h : off < d.size
  · rw [if_neg (by omega), dif_pos h, octetAt_of_lt h]
    rfl
  · rw [if_pos (by omega), dif_neg h]
    rfl

theorem checkedSlice_eq {n : Nat} (h : off + n ≤ d.size) :
    d.checkedSlice off n = .ok (d.slice off n).toList := by
  have hoctet (i : Nat) (hi : i ∈ List.range n) :
      octetAt d (off + i) = .ok ((d.slice off n).toList.getD i 0) := by
    have hlt := List.mem_range.1 hi
    rw [octetAt_of_lt (by omega), List.getD_eq_getElem _ 0 (by simp [size_slice h, hlt])]
    simp [slice]
  have hlist : (List.range n).map (fun i => (d.slice off n).toList.getD i 0) =
      (d.slice off n).toList := by
    refine List.ext_getElem (by simp [size_slice h]) fun i hi hi' => ?_
    rw [List.getElem_map, List.getElem_range, List.getD_eq_getElem _ 0 hi']
  rw [checkedSlice, mapM_eq_ok hoctet, hlist]

theorem checkedUnsigned_eq (d : Bytes) (width off : Nat) :
    d.checkedUnsigned width off = (d.readUnsigned width off).mapError .decoding := by
  unfold checkedUnsigned readUnsigned
  by_cases h : off + width ≤ d.size
  · rw [if_neg (by omega), if_pos h, checkedSlice_eq h]
    rfl
  · rw [if_pos (by omega), if_neg h]
    rfl

theorem checkedWord_eq (d : Bytes) (w : Word) (off : Nat) :
    d.checkedWord w off = (d.readWord w off).mapError .decoding := by
  rw [checkedWord, readWord, checkedUnsigned_eq]
  cases d.readUnsigned w.width off <;> rfl

/-! ## Loops -/

/-- The groups of a LEB128 number from `off` on, put above the lowest `bits` bits of a number: the
number, its bits, whether the highest one is set, and the offset after the last group. -/
def checkedGroups (d : Bytes) (cause : DecodeError) :
    Nat → Nat → Nat → Nat → Except Escape (Nat × Nat × Bool × Nat)
  | 0, _, _, _ => .error .endless
  | rounds + 1, off, number, bits =>
    if d.size ≤ off then .error (.decoding cause)
    else do
      let b ← octetAt d off
      let number := number ||| (b.toNat &&& 0x7f) <<< bits
      if b &&& 0x80 = 0 then return (number, bits + 7, b &&& 0x40 != 0, off + 1)
      else d.checkedGroups cause rounds (off + 1) number (bits + 7)

/-- An unsigned LEB128 number. -/
def checkedUnsignedLeb (d : Bytes) (off : Nat) : Except Escape (Nat × Nat) := do
  let (number, _, _, next) ← d.checkedGroups .unsignedUnterminated (d.size + 1) off 0 0
  return (number, next)

/-- A signed LEB128 number: two to the number of bits is taken off if the highest one is set. -/
def checkedSignedLeb (d : Bytes) (off : Nat) : Except Escape (Int × Nat) := do
  let (number, bits, negative, next) ← d.checkedGroups .signedUnterminated (d.size + 1) off 0 0
  return (if negative then number - (1 <<< bits : Nat) else number, next)

/-- The first NUL from `off` on. -/
def checkedStop (d : Bytes) (cause : DecodeError) : Nat → Nat → Except Escape Nat
  | 0, _ => .error .endless
  | rounds + 1, off =>
    if d.size ≤ off then .error (.decoding cause)
    else do
      let b ← octetAt d off
      if b == 0 then return off else d.checkedStop cause rounds (off + 1)

/-- The octets up to a NUL, and the offset after it. -/
def checkedString (d : Bytes) (off : Nat) : Except Escape (Bytes × Nat) := do
  let stop ← d.checkedStop (.stringUnterminated off) (d.size + 1) off
  let bs ← d.checkedSlice off (stop - off)
  return (bs.toArray, stop + 1)

/-- The loop ends within one round for each octet that is left and one more. -/
theorem checkedGroups_eq (cause : DecodeError) {rounds number bits : Nat}
    (h : d.size - off < rounds) :
    d.checkedGroups cause rounds off number bits =
      match d.accumulate off number bits with
      | some taken => .ok taken
      | none => .error (.decoding cause) := by
  induction rounds generalizing off number bits with
  | zero => omega
  | succ rounds ih =>
    rw [checkedGroups, accumulate]
    by_cases hlt : off < d.size
    · rw [if_neg (by omega), dif_pos hlt, octetAt_of_lt hlt]
      by_cases hlast : d[off] &&& 0x80 = 0
      · simp only [if_pos hlast]
        exact if_pos hlast
      · simp only [if_neg hlast]
        exact (if_neg hlast).trans (ih (by omega))
    · rw [if_pos (by omega), dif_neg hlt]

theorem checkedUnsignedLeb_eq (d : Bytes) (off : Nat) :
    d.checkedUnsignedLeb off = (d.readUnsignedLeb off).mapError .decoding := by
  rw [checkedUnsignedLeb, checkedGroups_eq _ (by omega), readUnsignedLeb_eq_accumulate]
  cases d.accumulate off 0 0 <;> rfl

theorem checkedSignedLeb_eq (d : Bytes) (off : Nat) :
    d.checkedSignedLeb off = (d.readSignedLeb off).mapError .decoding := by
  rw [checkedSignedLeb, checkedGroups_eq _ (by omega), readSignedLeb_eq_accumulate]
  cases d.accumulate off 0 0 <;> rfl

/-- So does the search for the end of a string. -/
theorem checkedStop_eq (cause : DecodeError) {rounds : Nat} (h : d.size - off < rounds) :
    d.checkedStop cause rounds off =
      match d.indexFrom? (· == 0) off with
      | some stop => .ok stop
      | none => .error (.decoding cause) := by
  induction rounds generalizing off with
  | zero => omega
  | succ rounds ih =>
    rw [checkedStop, indexFrom?]
    by_cases hlt : off < d.size
    · rw [if_neg (by omega), dif_pos hlt, octetAt_of_lt hlt]
      by_cases hnul : (d[off] == 0) = true
      · rw [if_pos hnul]
        exact if_pos hnul
      · rw [if_neg hnul]
        exact (if_neg hnul).trans (ih (by omega))
    · rw [if_pos (by omega), dif_neg hlt]

theorem checkedString_eq (d : Bytes) (off : Nat) :
    d.checkedString off = (d.readString off).mapError .decoding := by
  rw [checkedString, checkedStop_eq _ (by omega), readString]
  cases hstop : d.indexFrom? (· == 0) off with
  | none => rfl
  | some stop =>
    have hbounds := indexFrom?_bounds hstop
    have hend : off + (stop - off) = stop := by omega
    simp only [bind, Except.bind, checkedSlice_eq (show off + (stop - off) ≤ d.size by omega),
      slice, hend, mapError_ok]
    rfl

/-! ## Encoded pointers -/

/-- A number of a given format. -/
def checkedValue (d : Bytes) (f : ValueFormat) (addressSize : Int) (off : Nat) :
    Except Escape (Int × Nat) :=
  match f with
  | .address => d.checkedWord ⟨addressWidth addressSize, false⟩ off
  | .uleb128 => do let (n, next) ← d.checkedUnsignedLeb off; return (n, next)
  | .udata2 => d.checkedWord .u16 off
  | .udata4 => d.checkedWord .u32 off
  | .udata8 => d.checkedWord .u64 off
  | .sleb128 => d.checkedSignedLeb off
  | .sdata2 => d.checkedWord .i16 off
  | .sdata4 => d.checkedWord .i32 off
  | .sdata8 => d.checkedWord .i64 off

/-- The number of an encoded field. -/
def checkedEncodedValue (d : Bytes) (encoding addressSize : Int) (off : Nat) :
    Except Escape (Int × Nat) :=
  match ValueFormat.ofEncoding? encoding with
  | some f => d.checkedValue f addressSize off
  | none => .error (.decoding (.valueFormat encoding))

/-- The address that an encoded pointer stands for. -/
def checkedPointer (d : Bytes) (b : PointerBase) (encoding : Int) (off : Nat) :
    Except Escape (Nat × Nat) :=
  if encoding = Encoding.omitted then .error (.decoding .pointerOmitted)
  else if Encoding.isIndirect encoding then .error (.decoding (.pointerIndirect encoding))
  else if Encoding.application encoding = Encoding.aligned then
    d.checkedUnsigned (addressWidth b.addressSize) (alignedOffset off b.addressSize)
  else do
    let (value, next) ← d.checkedEncodedValue encoding b.addressSize off
    match Encoding.application? encoding with
    | some a => return (((b.resolve off a + value) % addressCount).toNat, next)
    | none => .error (.decoding (.pointerApplication (Encoding.application encoding)))

theorem checkedValue_eq (d : Bytes) (f : ValueFormat) (addressSize : Int) (off : Nat) :
    d.checkedValue f addressSize off = (d.readValue f addressSize off).mapError .decoding := by
  cases f with
  | uleb128 =>
    simp only [checkedValue, readValue, checkedUnsignedLeb_eq]
    cases d.readUnsignedLeb off <;> rfl
  | sleb128 => exact checkedSignedLeb_eq d off
  | address | udata2 | udata4 | udata8 | sdata2 | sdata4 | sdata8 => exact checkedWord_eq d _ off

theorem checkedEncodedValue_eq (d : Bytes) (encoding addressSize : Int) (off : Nat) :
    d.checkedEncodedValue encoding addressSize off =
      (d.readEncodedValue encoding addressSize off).mapError .decoding := by
  unfold checkedEncodedValue readEncodedValue
  cases ValueFormat.ofEncoding? encoding with
  | some f => exact checkedValue_eq d f addressSize off
  | none => rfl

theorem checkedPointer_eq (d : Bytes) (b : PointerBase) (encoding : Int) (off : Nat) :
    d.checkedPointer b encoding off = (d.readPointer b encoding off).mapError .decoding := by
  unfold checkedPointer readPointer
  split
  · rfl
  · split
    · rfl
    · split
      · exact checkedUnsigned_eq d _ _
      · rw [checkedEncodedValue_eq]
        cases d.readEncodedValue encoding b.addressSize off with
        | error cause => rfl
        | ok p =>
          simp only [mapError_ok, bind, Except.bind]
          cases Encoding.application? encoding <;> rfl

end Bytes

/-! ## Readers -/

/-- What can be relied on of a reader at `off`, whatever the octets are. If it succeeds, it has
moved forward and is still inside, and it gives the same for all octets that agree with these from
`off` up to where it ended. If it fails, a decoding error is all that gets out of it one octet at a
time. -/
structure Advances {α : Type} (off : Nat) (read : Bytes → Except DecodeError (α × Nat))
    (checkedRead : Bytes → Except Escape (α × Nat)) : Prop where
  progress {d : Bytes} {v : α} {next : Nat} (h : read d = .ok (v, next)) :
    off < next ∧ next ≤ d.size
  locality {d d' : Bytes} {v : α} {next : Nat} (h : read d = .ok (v, next))
    (hagree : d.AgreeOn d' off next) : read d' = .ok (v, next)
  failure (d : Bytes) : checkedRead d = (read d).mapError .decoding

theorem ReadsUpTo.advances {α : Type} {off : Nat} {read : Bytes → Except DecodeError (α × Nat)}
    {checkedRead : Bytes → Except Escape (α × Nat)} (hread : ReadsUpTo off Prod.snd read)
    (hnext : ∀ {d : Bytes} {v : α} {next : Nat}, read d = .ok (v, next) →
      off < next ∧ next ≤ d.size)
    (hchecked : ∀ d, checkedRead d = (read d).mapError .decoding) :
    Advances off read checkedRead where
  progress := hnext
  locality h hagree := (hread _ _ h).2 _ hagree
  failure := hchecked

namespace Bytes

/-- Every reader of a field makes progress that is bounded and local, at every offset and for every
encoding, base and width of addresses. -/
theorem readers_advance (off : Nat) {addressSize : Int} (hsize : 0 < addressSize) :
    Advances off (readByte · off) (checkedByte · off) ∧
    (∀ w : Word, 0 < w.width → Advances off (readWord · w off) (checkedWord · w off)) ∧
    Advances off (readUnsignedLeb · off) (checkedUnsignedLeb · off) ∧
    Advances off (readSignedLeb · off) (checkedSignedLeb · off) ∧
    Advances off (readString · off) (checkedString · off) ∧
    ∀ encoding : Int,
      Advances off (readEncodedValue · encoding addressSize off)
        (checkedEncodedValue · encoding addressSize off) ∧
      ∀ (sectionAddress : Int) (dataAddress : Option Int),
        Advances off (readPointer · ⟨sectionAddress, dataAddress, addressSize⟩ encoding off)
          (checkedPointer · ⟨sectionAddress, dataAddress, addressSize⟩ encoding off) := by
  have hbyte : Advances off (readByte · off) (checkedByte · off) := by
    refine (readByte_upTo off).advances (fun h => ?_) (checkedByte_eq · off)
    obtain ⟨rfl, hinside⟩ := readByte_next h
    exact ⟨Nat.lt_succ_self off, hinside⟩
  have hword (w : Word) (hw : 0 < w.width) :
      Advances off (readWord · w off) (checkedWord · w off) := by
    refine (readWord_upTo off hw).advances (fun h => ?_) (checkedWord_eq · w off)
    obtain ⟨rfl, hinside⟩ := readWord_next h
    exact ⟨Nat.lt_add_of_pos_right hw, hinside⟩
  refine ⟨hbyte, hword, ?_, ?_, ?_, fun encoding => ⟨?_, fun sectionAddress dataAddress => ?_⟩⟩
  · exact (readUnsignedLeb_upTo off).advances readUnsignedLeb_next (checkedUnsignedLeb_eq · off)
  · exact (readSignedLeb_upTo off).advances readSignedLeb_next (checkedSignedLeb_eq · off)
  · exact (readString_upTo off).advances readString_next (checkedString_eq · off)
  · exact (readEncodedValue_upTo off encoding addressSize).advances readEncodedValue_next
      (checkedEncodedValue_eq · encoding addressSize off)
  · exact (readPointer_upTo off ⟨sectionAddress, dataAddress, addressSize⟩ encoding hsize).advances
      (readPointer_next hsize)
      (checkedPointer_eq · ⟨sectionAddress, dataAddress, addressSize⟩ encoding off)

/-- An aligned address behind a gap of three octets, and octets that agree with these from its
offset up to its end and nowhere else. -/
theorem readers_advance_aligned :
    let d : Bytes := #[0x01, 0x02, 0x03, 0x04, 0x05, 0x06, 0x07, 0x08, 0x09]
    let d' : Bytes := #[0xff, 0x02, 0x03, 0x04, 0x05, 0x06, 0x07, 0x08]
    (0 : Int) < 4 ∧ d.readPointer ⟨0x1000, none, 4⟩ 0x50 1 = .ok (0x08070605, 8) ∧
      d.AgreeOn d' 1 8 ∧ 1 < 8 ∧ 8 ≤ d.size ∧
      d'.readPointer ⟨0x1000, none, 4⟩ 0x50 1 = .ok (0x08070605, 8) ∧
      d'.checkedPointer ⟨0x1000, none, 4⟩ 0x50 6 =
        .error (.decoding (.wordOutside 4 8 8)) := by
  intro d d'
  have hpositive : (0 : Int) < 4 := by decide
  have hread : d.readPointer ⟨0x1000, none, 4⟩ 0x50 1 = .ok (0x08070605, 8) := by cbv
  have hfail : d'.readPointer ⟨0x1000, none, 4⟩ 0x50 6 = .error (.wordOutside 4 8 8) := by cbv
  have hagree : d.AgreeOn d' 1 8 := by decide +kernel
  obtain ⟨-, -, -, -, -, hencoded⟩ := readers_advance 1 hpositive
  obtain ⟨-, -, -, -, -, hencoded'⟩ := readers_advance 6 hpositive
  have hpointer := (hencoded 0x50).2 0x1000 none
  have hpointer' := (hencoded' 0x50).2 0x1000 none
  obtain ⟨hforward, hinside⟩ := hpointer.progress hread
  have hescape := hpointer'.failure d'
  rw [hfail] at hescape
  exact ⟨hpositive, hread, hagree, hforward, hinside, hpointer.locality hread hagree, hescape⟩

end Bytes

end FunctionBounds
