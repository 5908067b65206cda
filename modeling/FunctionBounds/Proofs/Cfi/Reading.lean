import FunctionBounds.Proofs.Cfi.Cache
import FunctionBounds.Proofs.Cfi.Records
import FunctionBounds.Proofs.Cfi.Written

/-!
# Reading written records

What the readers of a call-frame section give at a record that was written, whatever stands around
it.

- **Bounds** (`WrittenRecord.read`): a record is read with the bounds that it was written with, and
  its identifier says which kind it is (`isCommon_common`, `isCommon_description`).
- **Common entries** (`WrittenEntry.read`): the width of addresses and the encoding of function
  addresses are those that were written. `WrittenLetter.readAll` is the induction over the letters.
- **Frame descriptions** (`WrittenDescription.function`): the function is the one that was written.
-/

namespace FunctionBounds.Cfi

variable {d : Bytes} {c : Convention} {off : Nat}

/-! ## Bounds -/

@[simp] theorem length_lengthOctets (wide : Bool) (n : Nat) :
    (lengthOctets wide n).length = lengthWidth wide := by
  cases wide <;> simp [lengthOctets, lengthWidth]

@[simp] theorem length_frame (wide : Bool) (id : Nat) (body : List UInt8) :
    (frame c wide id body).length = lengthWidth wide + (c.idWidth wide + body.length) := by
  simp [frame]

@[simp] theorem WrittenRecord.length_octets (w : WrittenRecord) :
    (w.octets c off).length = w.size c :=
  length_frame w.wide (w.id c off) w.body

/-- The octets of a record: its length, its identifier, and what follows. -/
theorem holds_frame {wide : Bool} {id : Nat} {body : List UInt8}
    (h : d.Holds off (frame c wide id body)) :
    d.Holds off (lengthOctets wide (c.idWidth wide + body.length)) ∧
      d.Holds (off + lengthWidth wide) (littleEndian (c.idWidth wide) id) ∧
      d.Holds (off + lengthWidth wide + c.idWidth wide) body := by
  have hrest := h.right
  rw [length_lengthOctets] at hrest
  have hbody := hrest.right
  rw [length_littleEndian] at hbody
  exact ⟨h.left, hrest.left, hbody⟩

theorem Record.read_of_holds {wide : Bool} {id : Nat} {body : List UInt8}
    (h : d.Holds off (frame c wide id body))
    (hfits : c.idWidth wide + body.length < if wide then 1 <<< 64 else wideLength) :
    Record.read d c off =
      .ok ⟨off, off + lengthWidth wide, c.idWidth wide,
        off + (lengthWidth wide + (c.idWidth wide + body.length))⟩ := by
  have hsize := h.le_size
  have hlength := (holds_frame h).1
  rw [length_frame] at hsize
  cases wide with
  | false =>
    have hshort : 4 + body.length < wideLength := hfits
    have hread := Bytes.readUnsigned_of_holds (n := 4 + body.length) hlength
    rw [Nat.mod_eq_of_lt (Nat.lt_trans hshort (by decide))] at hread
    simp only [Record.read, hread, bind, Except.bind]
    rw [if_neg (Nat.ne_of_lt hshort), Record.bounded_eq_ok_iff]
    simp only [lengthWidth, Convention.idWidth, Bool.false_eq_true, if_false] at hsize ⊢
    exact ⟨by omega, by omega, by rw [Nat.add_assoc]⟩
  | true =>
    have hlong : c.wideIdWidth + body.length < 1 <<< 64 := hfits
    have hmark := Bytes.readUnsigned_of_holds (n := wideLength) hlength.left
    have hread := Bytes.readUnsigned_of_holds (n := c.wideIdWidth + body.length) hlength.right
    rw [Nat.mod_eq_of_lt (by decide)] at hmark
    rw [length_littleEndian, Nat.mod_eq_of_lt hlong] at hread
    simp only [Record.read, hmark, hread, bind, Except.bind, if_true]
    rw [Record.bounded_eq_ok_iff]
    simp only [lengthWidth, Convention.idWidth, if_true] at hsize ⊢
    exact ⟨by omega, by omega, by rw [← Nat.add_assoc]⟩

theorem Convention.commonId_lt (c : Convention) (width : Nat) :
    c.commonId width < 1 <<< (8 * width) := by
  have hpos : 0 < 1 <<< (8 * width) := by
    rw [Nat.one_shiftLeft]
    exact Nat.two_pow_pos _
  cases c with
  | ehFrame => exact hpos
  | debugFrame => exact Nat.sub_lt hpos Nat.one_pos

namespace WrittenDescription

variable {f : WrittenDescription}

theorem Refers.id_lt (h : f.Refers c off) :
    (WrittenRecord.description f).id c off < 1 <<< (8 * c.idWidth f.wide) := by
  cases c with
  | ehFrame =>
    have hwidth : Convention.ehFrame.idWidth f.wide = 4 := by
      cases f.wide <;> rfl
    rw [hwidth]
    exact h.2
  | debugFrame => exact Nat.lt_trans h (Convention.commonId_lt _ _)

/-- The identifier of a frame description is not that of a common entry. -/
theorem Refers.id_ne_commonId (h : f.Refers c off) :
    (WrittenRecord.description f).id c off ≠ c.commonId (c.idWidth f.wide) := by
  cases c with
  | ehFrame =>
    have hbefore : f.entryOffset < off := h.1
    simp only [WrittenRecord.id, Convention.commonId]
    omega
  | debugFrame => exact Nat.ne_of_lt h

end WrittenDescription

namespace WrittenRecord

variable {w : WrittenRecord}

/-- A record is read with the bounds that it was written with. -/
theorem read (h : d.Holds off (w.octets c off)) (hfits : w.LengthFits c) :
    Record.read d c off = .ok (w.bounds c off) :=
  Record.read_of_holds h hfits

theorem identifier (h : d.Holds off (w.octets c off)) :
    (w.bounds c off).identifier d = w.id c off % (1 <<< (8 * c.idWidth w.wide)) :=
  (holds_frame h).2.1.le

theorem identifier_of_lt (h : d.Holds off (w.octets c off))
    (hlt : w.id c off < 1 <<< (8 * c.idWidth w.wide)) :
    (w.bounds c off).identifier d = w.id c off := by
  rw [identifier h, Nat.mod_eq_of_lt hlt]

theorem isCommon_common {e : WrittenEntry} (h : d.Holds off ((common e).octets c off)) :
    ((common e).bounds c off).isCommon d c = true := by
  rw [Record.isCommon, identifier_of_lt h (c.commonId_lt _)]
  exact beq_self_eq_true _

theorem isCommon_description {f : WrittenDescription}
    (h : d.Holds off ((description f).octets c off)) (hrefers : f.Refers c off) :
    ((description f).bounds c off).isCommon d c = false := by
  rw [Record.isCommon, identifier_of_lt h hrefers.id_lt]
  exact beq_eq_false_iff_ne.2 hrefers.id_ne_commonId

theorem holds_body (h : d.Holds off (w.octets c off)) : d.Holds (w.bounds c off).body w.body :=
  (holds_frame h).2.2

theorem bounds_stop : (w.bounds c off).stop = (w.bounds c off).body + w.body.length := by
  simp only [bounds, Record.body, size]
  omega

end WrittenRecord

/-! ## Common entries -/

theorem readUnsignedLeb_of_holds_octets {x : Numeral} {addressSize : Int}
    (h : d.Holds off (x.octets .uleb128 addressSize)) :
    ∃ n, d.readUnsignedLeb off = .ok (n, off + (x.octets .uleb128 addressSize).length) := by
  have hread := Bytes.readUnsignedLeb_of_holds (n := (x.value % _).toNat) h
  rw [← Leb128.length_octets x.more (x.value % _).toNat] at hread
  exact ⟨_, hread⟩

theorem readSignedLeb_of_holds_octets {x : Numeral} {addressSize : Int}
    (h : d.Holds off (x.octets .sleb128 addressSize)) :
    ∃ n, d.readSignedLeb off = .ok (n, off + (x.octets .sleb128 addressSize).length) := by
  have hread := Bytes.readSignedLeb_of_holds (n := (x.value % _).toNat) h
  rw [← Leb128.length_octets x.more (x.value % _).toNat] at hread
  exact ⟨_, hread⟩

namespace WrittenLetter

/-- The field of a letter is read, and revises the form of function addresses if it says so. -/
theorem read {x : WrittenLetter} {addressSize : Nat} (h : d.Holds off (x.octets addressSize))
    (form : AddressForm) :
    x.letter.read d addressSize form.code off =
      .ok ((x.revise form).code, off + (x.octets addressSize).length) := by
  cases x with
  | addressEncoding form' =>
    have hlt := form'.code_lt
    have hcode : (UInt8.ofNat form'.code).toNat = form'.code :=
      Nat.mod_eq_of_lt (by omega)
    have hread := Bytes.readByte_of_holds h
    rw [hcode] at hread
    exact hread
  | dataEncoding encoding =>
    simp only [letter, Letter.read, Bytes.readByte_of_holds h, bind, Except.bind]
    rfl
  | personality application format routine =>
    have hencoding := ValueFormat.ofEncoding?_of_code application format
    have hlt := format.code_lt
    have hcode : (UInt8.ofNat (application * 16 + format.code)).toNat =
        application * 16 + format.code :=
      Nat.mod_eq_of_lt (by have := application.isLt; omega)
    have hform := Bytes.readByte_of_holds (h.left (a := [_]))
    obtain ⟨v, hroutine⟩ := Numeral.read_any h.tail
    rw [hcode] at hform
    simp only [letter, Letter.read, hform, bind, Except.bind, Bytes.readEncodedValue, hencoding,
      hroutine]
    simp only [octets, revise, List.length_cons, pure, Except.pure, Except.ok.injEq,
      Prod.mk.injEq, true_and]
    omega
  | signalFrame => rfl
  | signedReturn => rfl

/-- So are the fields of letters in order. -/
theorem readAll {xs : List WrittenLetter} {addressSize : Nat}
    (h : d.Holds off (xs.flatMap (·.octets addressSize))) (form : AddressForm) :
    Letter.readAll d addressSize (xs.map (·.letter.octet)) form.code off =
      .ok ((xs.foldl revise form).code,
        off + (xs.flatMap (·.octets addressSize)).length) := by
  induction xs generalizing off form with
  | nil => rfl
  | cons x xs ih =>
    rw [List.flatMap_cons] at h
    simp only [List.map_cons, Letter.readAll_cons, read h.left form, Except.bind]
    rw [ih h.right, List.foldl_cons, List.flatMap_cons, List.length_append, Nat.add_assoc]

end WrittenLetter

theorem EntryVersion.readAddressSize {v : EntryVersion} (h : d.Holds off v.sizes) :
    CommonEntry.readAddressSize d v.number off = .ok (v.addressSize, off + v.sizes.length) := by
  cases v with
  | first => rfl
  | third => rfl
  | fourth narrow =>
    have hsize := Bytes.readByte_of_holds (h.left (a := [_]))
    have hselector := Bytes.readByte_of_holds h.tail
    simp only [CommonEntry.readAddressSize, hsize, hselector, bind, Except.bind]
    cases narrow <;> rfl

namespace WrittenEntry

variable {e : WrittenEntry}

theorem augmentationOctets_ne_zero : ∀ x ∈ e.augmentationOctets, x ≠ 0 := by
  unfold augmentationOctets
  split
  · intro x hx
    cases hx
  · intro x hx
    rcases List.mem_cons.1 hx with rfl | hx
    · decide
    · obtain ⟨l, -, rfl⟩ := List.mem_map.1 hx
      cases l.letter <;> decide

/-- No augmentation that is written starts with `eh`. -/
theorem skipLegacyData (addressSize : Nat) :
    CommonEntry.skipLegacyData e.augmentationOctets addressSize off = off := by
  unfold augmentationOctets CommonEntry.skipLegacyData
  split
  · rfl
  · rw [if_neg (by simp)]

theorem skipAlignments
    (h : d.Holds off (e.codeAlignment.octets .uleb128 e.version.addressSize ++
      (e.dataAlignment.octets .sleb128 e.version.addressSize ++ e.returnOctets))) :
    CommonEntry.skipAlignments d e.version.number off =
      .ok (off + (e.codeAlignment.octets .uleb128 e.version.addressSize).length +
        (e.dataAlignment.octets .sleb128 e.version.addressSize).length +
          e.returnOctets.length) := by
  obtain ⟨_, hcode⟩ := readUnsignedLeb_of_holds_octets h.left
  obtain ⟨_, hdata⟩ := readSignedLeb_of_holds_octets h.right.left
  have hreturn := h.right.right
  simp only [CommonEntry.skipAlignments, hcode, hdata, bind, Except.bind]
  unfold returnOctets at hreturn ⊢
  cases hv : e.version with
  | first =>
    rw [hv] at hreturn
    rw [if_pos (by rfl), Bytes.readByte_of_holds hreturn]
    rfl
  | third | fourth _ =>
    rw [hv] at hreturn
    obtain ⟨_, hread⟩ := readUnsignedLeb_of_holds_octets hreturn
    rw [if_neg (by simp [EntryVersion.number]), hread]
    rfl

theorem readEncoding (h : d.Holds off e.fieldOctets) :
    CommonEntry.readEncoding d e.augmentationOctets e.version.addressSize off =
      .ok (e.addressForm.code, off + e.fieldOctets.length) := by
  unfold augmentationOctets fieldOctets addressForm letters at *
  cases ha : e.augmentation with
  | none => rfl
  | some a =>
    rw [ha] at h
    obtain ⟨_, hlength⟩ := readUnsignedLeb_of_holds_octets h.left
    have hletters := WrittenLetter.readAll h.right ⟨.absolute, .address⟩
    simp only [CommonEntry.readEncoding, hlength, bind, Except.bind, List.length_append,
      ← Nat.add_assoc]
    exact hletters

theorem readFields {r : Record} (h : d.Holds r.body e.body)
    (hstop : r.stop = r.body + e.body.length) :
    CommonEntry.readFields d r =
      .ok ⟨r.offset, e.version.number, e.augmentationOctets, e.version.addressSize,
        e.addressForm.code⟩ := by
  have hhead := h.left
  have hversion := Bytes.readByte_of_holds hhead.left
  have haugmentation := Bytes.readString_of_holds hhead.right.left augmentationOctets_ne_zero
  have hsizes := EntryVersion.readAddressSize hhead.right.right.left
  have halignments := skipAlignments hhead.right.right.right
  have hfields := readEncoding h.right.left
  have hnumber : (UInt8.ofNat e.version.number).toNat = e.version.number := by
    cases e.version <;> rfl
  have hknown : e.version.number = 1 ∨ e.version.number = 3 ∨ e.version.number = 4 := by
    cases e.version <;> simp [EntryVersion.number]
  have hcode := e.addressForm.code_lt
  rw [hnumber] at hversion
  simp only [headOctets, List.length_append, List.length_cons, List.length_nil, Nat.zero_add,
    ← Nat.add_assoc] at haugmentation hsizes halignments hfields
  simp only [CommonEntry.readFields, hversion, hknown, haugmentation, hsizes, skipLegacyData,
    halignments, hfields, bind, Except.bind, pure, Except.pure, if_true]
  rw [if_neg, if_neg]
  · rw [Encoding.omitted]
    omega
  · simp only [hstop, body, headOctets, List.length_append, List.length_cons, List.length_nil]
    omega

/-- A common entry gives what was written of the width of addresses and of their form. -/
theorem read (h : d.Holds off ((WrittenRecord.common e).octets c off))
    (hfits : (WrittenRecord.common e).LengthFits c) :
    CommonEntry.read d c off =
      .ok ⟨off, e.version.number, e.augmentationOctets, e.version.addressSize,
        e.addressForm.code⟩ := by
  have hcommon := WrittenRecord.isCommon_common h
  have hfields := readFields (WrittenRecord.holds_body h) WrittenRecord.bounds_stop
  simp only [CommonEntry.read, WrittenRecord.read h hfits, bind, Except.bind, hcommon, if_true]
  exact hfields

end WrittenEntry

/-! ## Frame descriptions -/

namespace WrittenDescription

variable {f : WrittenDescription} {base : Int}

theorem refersTo (h : d.Holds off ((WrittenRecord.description f).octets c off))
    (hrefers : f.Refers c off) (hinside : f.entryOffset < d.size) :
    ((WrittenRecord.description f).bounds c off).entryOffset d c = .ok f.entryOffset := by
  have hid := WrittenRecord.identifier_of_lt h hrefers.id_lt
  cases c with
  | ehFrame =>
    have hbefore : f.entryOffset < off := hrefers.1
    have hpos : ((WrittenRecord.description f).bounds .ehFrame off).idOffset =
        off + lengthWidth f.wide := rfl
    have hback : off + lengthWidth f.wide - (off + lengthWidth f.wide - f.entryOffset) =
        f.entryOffset := by omega
    simp only [Record.entryOffset, hid, hpos, WrittenRecord.id]
    rw [if_pos (by omega), hback]
    exact if_pos hinside
  | debugFrame =>
    simp only [Record.entryOffset, hid, WrittenRecord.id]
    exact if_pos hinside

/-- The function of a frame description whose start can be written, whatever number is read as its
size. -/
theorem describe_of_extent (h : d.Holds off ((WrittenRecord.description f).octets c off))
    (hlocation : f.location.Fits f.entry.addressForm.format f.entry.version.addressSize)
    {entry : CommonEntry} (hencoding : entry.encoding = f.entry.addressForm.code)
    (hsize : entry.addressSize = f.entry.version.addressSize) {field : Nat} {size : Int}
    (hfield : field = ((WrittenRecord.description f).bounds c off).body +
      (f.location.octets f.entry.addressForm.format f.entry.version.addressSize).length)
    (hextent : d.readValue f.entry.addressForm.format f.entry.version.addressSize field =
      .ok (size, field +
        (f.extent.octets f.entry.addressForm.format f.entry.version.addressSize).length)) :
    (Section.mk d base).describe entry ((WrittenRecord.description f).bounds c off) =
      let start := (((PointerBase.mk base none f.entry.version.addressSize).resolve
        ((WrittenRecord.description f).bounds c off).body f.entry.addressForm.application +
          f.location.value) % addressCount).toNat
      if size < 0 then .error (.negativeRange size)
      else .ok ⟨Candidate.nameAt start, start, size.toNat⟩ := by
  subst hfield
  have hbody := WrittenRecord.holds_body h
  have hread := f.entry.addressForm.read (.mk base none f.entry.version.addressSize)
    hbody.left hlocation
  have hformat := f.entry.addressForm.code_resolves.2.2.2.1
  have hend : ¬ ((WrittenRecord.description f).bounds c off).stop <
      ((WrittenRecord.description f).bounds c off).body +
        (f.location.octets f.entry.addressForm.format f.entry.version.addressSize).length +
          (f.extent.octets f.entry.addressForm.format f.entry.version.addressSize).length := by
    rw [WrittenRecord.bounds_stop]
    simp only [WrittenRecord.body, body, List.length_append]
    omega
  simp only [Section.describe, hencoding, hsize, hread, Bytes.readEncodedValue, hformat, hextent,
    bind, Except.bind, pure, Except.pure]
  rw [if_neg hend]
  split <;> rfl

theorem describe (h : d.Holds off ((WrittenRecord.description f).octets c off))
    (hfits : f.Fits c base off) {entry : CommonEntry}
    (hencoding : entry.encoding = f.entry.addressForm.code)
    (hsize : entry.addressSize = f.entry.version.addressSize) :
    (Section.mk d base).describe entry ((WrittenRecord.description f).bounds c off) =
      .ok f.candidate := by
  obtain ⟨hlocation, hextent, hstart⟩ := hfits
  have hvalue : (((PointerBase.mk base none f.entry.version.addressSize).resolve
      ((WrittenRecord.description f).bounds c off).body f.entry.addressForm.application +
        f.location.value) % addressCount).toNat = f.start :=
    (congrArg Int.toNat hstart).symm
  have hread := Numeral.read (WrittenRecord.holds_body h).right.left hextent
  rw [describe_of_extent h hlocation hencoding hsize rfl hread]
  simp only [hvalue]
  rw [if_neg (by simp [extent]), Candidate.nameAt_eq]
  rfl

end WrittenDescription

end FunctionBounds.Cfi
