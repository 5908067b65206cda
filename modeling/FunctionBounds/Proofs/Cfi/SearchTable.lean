import FunctionBounds.Proofs.Checked.Scanners
import FunctionBounds.Proofs.Field.Written
import Mathlib.Algebra.Group.Nat.Defs

/-!
# Written search tables

How a search table is written, and what is read back.

- **Pointers** (`PointerForm`, `WrittenPointer`): a number in one of the forms of addresses, or a
  plain address after a gap up to the next multiple of eight octets. `WrittenPointer.read` reads
  both; no other encoding can be read (`PointerForm.exists_code`).
- **Rows** (`WrittenRow`, `RowsFit`): a row stands where the one before it ends, and what is written
  for an address may depend on the place (`readRows_written`).
- **Tables** (`WrittenTable`): header, address of the call-frame section, number of rows, and rows.

`scan_exact` is about written tables and about any octets.
-/

namespace FunctionBounds.Cfi.SearchTable

open Text (hex hexDigitsUpper)

variable {d : Bytes} {off : Nat} {address : Int}

/-! ## Pointers -/

/-- How a pointer is written. -/
inductive PointerForm where
  | resolved (form : AddressForm)
  /-- At the next multiple of eight octets; bits 0 to 3 of the encoding do not matter. -/
  | aligned (low : Fin 16)
  deriving DecidableEq, Repr

namespace PointerForm

/-- The encoding that says so. -/
def code : PointerForm → Nat
  | resolved form => form.code
  | aligned low => Encoding.aligned + low

/-- What the number is relative to, and its format. -/
def addressForm : PointerForm → AddressForm
  | resolved form => form
  | aligned _ => ⟨.absolute, .address⟩

/-- How many octets stand before the number of a pointer at an offset. -/
def gapLength (off : Nat) : PointerForm → Nat
  | resolved _ => 0
  | aligned _ => (8 - off % 8) % 8

theorem code_lt (f : PointerForm) : f.code < 0x80 := by
  cases f with
  | resolved form => exact form.code_lt
  | aligned low =>
    have := low.isLt
    simp only [code, Encoding.aligned]
    omega

/-- The encoding of an aligned pointer is found out before its format is looked at. -/
theorem aligned_code (low : Fin 16) :
    ((aligned low).code : Int) ≠ Encoding.omitted ∧
      Encoding.isIndirect (aligned low).code = false ∧
      Encoding.application (aligned low).code = Encoding.aligned := by
  revert low
  decide

theorem alignedOffset_eq (off : Nat) (low : Fin 16) :
    alignedOffset off 8 = off + (aligned low).gapLength off :=
  FunctionBounds.alignedOffset_eq (.inr rfl) off

/-- A pointer that can be read is in one of the forms. -/
theorem exists_code {b : PointerBase} {encoding : UInt8} {p : Nat × Nat}
    (h : d.readPointer b encoding.toNat off = .ok p) :
    ∃ f : PointerForm, f.code = encoding.toNat := by
  have hoctet := encoding.toNat_lt
  unfold Bytes.readPointer at h
  split at h
  · cases h
  · split at h
    · cases h
    · next hdirect =>
      have hlow : encoding.toNat < 128 := by
        simp only [Encoding.isIndirect, beq_iff_eq] at hdirect
        omega
      split at h
      · next haligned =>
        refine ⟨aligned ⟨encoding.toNat % 16, by omega⟩, ?_⟩
        simp only [Encoding.application, Encoding.aligned] at haligned
        simp only [code, Encoding.aligned]
        omega
      · simp only [Bytes.readEncodedValue] at h
        cases hformat : ValueFormat.ofEncoding? encoding.toNat with
        | none => rw [hformat] at h; cases h
        | some f =>
          cases happlication : Encoding.application? encoding.toNat with
          | none =>
            rw [hformat, happlication] at h
            cases hvalue : d.readValue f b.addressSize off <;> simp [hvalue, bind, Except.bind] at h
          | some a =>
            have hf := List.find?_some hformat
            have ha := List.find?_some happlication
            simp only [beq_iff_eq] at hf ha
            refine ⟨resolved ⟨a, f⟩, ?_⟩
            simp only [Encoding.application] at ha
            simp only [code, AddressForm.code]
            omega

end PointerForm

/-- A pointer as it is written. -/
structure WrittenPointer where
  form : PointerForm
  number : Numeral
  /-- The octets before the number. -/
  gap : List UInt8 := []
  deriving DecidableEq, Repr

namespace WrittenPointer

def octets (w : WrittenPointer) : List UInt8 :=
  w.gap ++ w.number.octets w.form.addressForm.format 8

/-- The gap is as long as it has to be, and the number is in the range of its format. -/
def Fits (w : WrittenPointer) (off : Nat) : Prop :=
  w.gap.length = w.form.gapLength off ∧ w.number.Fits w.form.addressForm.format 8

instance (w : WrittenPointer) (off : Nat) : Decidable (w.Fits off) :=
  inferInstanceAs (Decidable (_ ∧ _))

/-- The address that a pointer at an offset stands for, in a table whose first octet has the address
`address`. -/
def target (w : WrittenPointer) (address : Int) (off : Nat) : Nat :=
  let base : PointerBase := { sectionAddress := address }
  ((base.resolve off w.form.addressForm.application + w.number.value) % addressCount).toNat

theorem read {w : WrittenPointer} (h : d.Holds off w.octets) (hfits : w.Fits off) :
    d.readPointer { sectionAddress := address } w.form.code off =
      .ok (w.target address off, off + w.octets.length) := by
  obtain ⟨form, number, gap⟩ := w
  obtain ⟨hgap, hnumber⟩ := hfits
  have hright := h.right
  cases form with
  | resolved form =>
    obtain rfl : gap = [] := List.eq_nil_of_length_eq_zero hgap
    exact form.read { sectionAddress := address } h hnumber
  | aligned low =>
    obtain ⟨homit, hdirect, halign⟩ := PointerForm.aligned_code low
    have hoff : alignedOffset off 8 = off + gap.length := by
      rw [PointerForm.alignedOffset_eq off low, hgap]
    have hholds : d.Holds (off + gap.length)
        (littleEndian 8 (number.value % addressCount).toNat) := hright
    have hbound : (number.value % addressCount).toNat < 1 <<< (8 * 8) := by
      have := Int.emod_lt_of_pos number.value (show 0 < addressCount by decide)
      simp only [addressCount] at this ⊢
      omega
    have htarget : target ⟨.aligned low, number, gap⟩ address off =
        (number.value % addressCount).toNat := by
      simp only [target, PointerForm.addressForm, PointerBase.resolve, Int.zero_add]
    have hread := Bytes.readUnsigned_of_holds hholds
    rw [Nat.mod_eq_of_lt hbound, ← hoff] at hread
    rw [Bytes.readPointer, if_neg homit, hdirect, if_neg (by decide), if_pos halign, htarget]
    refine hread.trans (congrArg Except.ok (Prod.ext rfl ?_))
    rw [hoff, octets, List.length_append]
    exact Nat.add_assoc _ _ _

end WrittenPointer

/-! ## Rows -/

/-- A number in the range of its format stands for an address at an offset. -/
def StandsFor (x : Numeral) (a : Nat) (address : Int) (form : AddressForm) (off : Nat) : Prop :=
  x.Fits form.format 8 ∧ (a : Int) =
    (PointerBase.resolve { sectionAddress := address } off form.application + x.value) %
      addressCount

theorem StandsFor.read {x : Numeral} {a : Nat} {form : AddressForm}
    (h : StandsFor x a address form off) (hholds : d.Holds off (x.octets form.format 8)) :
    d.readPointer { sectionAddress := address } form.code off =
      .ok (a, off + (x.octets form.format 8).length) := by
  obtain ⟨hfits, ha⟩ := h
  rw [form.read { sectionAddress := address } hholds hfits, ← ha, Int.toNat_natCast]

/-- A row as it is written: its addresses, and what stands for each of them. -/
structure WrittenRow where
  location : Nat
  description : Nat
  locationNumber : Numeral
  descriptionNumber : Numeral
  deriving DecidableEq, Repr

namespace WrittenRow

def octets (form : AddressForm) (r : WrittenRow) : List UInt8 :=
  r.locationNumber.octets form.format 8 ++ r.descriptionNumber.octets form.format 8

/-- The numbers of a row at an offset stand for its addresses. -/
def Fits (address : Int) (form : AddressForm) (off : Nat) (r : WrittenRow) : Prop :=
  StandsFor r.locationNumber r.location address form off ∧
    StandsFor r.descriptionNumber r.description address form
      (off + (r.locationNumber.octets form.format 8).length)

theorem Fits.read {form : AddressForm} {r : WrittenRow} (h : r.Fits address form off)
    (hholds : d.Holds off (r.octets form)) :
    readRow d { sectionAddress := address } form.code off =
      .ok (rowCandidate r.location r.description, off + (r.octets form).length) := by
  rw [readRow, h.1.read hholds.left]
  simp only [bind, Except.bind]
  rw [h.2.read hholds.right, octets, List.length_append, ← Nat.add_assoc]
  rfl

end WrittenRow

/-- The rows stand for their addresses, each at the offset where the one before it ends. -/
def RowsFit (address : Int) (form : AddressForm) : Nat → List WrittenRow → Prop
  | _, [] => True
  | off, r :: rs => r.Fits address form off ∧ RowsFit address form (off + (r.octets form).length) rs

section Decidable

variable (form : AddressForm)

instance (x : Numeral) (a : Nat) : Decidable (StandsFor x a address form off) :=
  inferInstanceAs (Decidable (_ ∧ _))

instance (r : WrittenRow) : Decidable (r.Fits address form off) :=
  inferInstanceAs (Decidable (_ ∧ _))

instance : (off : Nat) → (rs : List WrittenRow) → Decidable (RowsFit address form off rs)
  | _, [] => inferInstanceAs (Decidable True)
  | off, r :: rs =>
    let _ := instDecidableRowsFit (off + (r.octets form).length) rs
    inferInstanceAs (Decidable (_ ∧ _))

end Decidable

/-- By induction on the rows that are left. -/
theorem readRows_written {form : AddressForm} {rs : List WrittenRow}
    (hholds : d.Holds off (rs.flatMap (·.octets form))) (h : RowsFit address form off rs)
    (count : Nat) (before : List Candidate) :
    readRows d { sectionAddress := address } form.code count rs.length off before =
      .ok (before.reverse ++ rs.map fun r => rowCandidate r.location r.description) := by
  induction rs generalizing off before with
  | nil => simp [readRows]
  | cons r rs ih =>
    rw [List.flatMap_cons] at hholds
    rw [List.length_cons, readRows, h.1.read hholds.left]
    simp only
    rw [ih hholds.right h.2]
    simp

/-! ## Tables -/

/-- A search table as it is written. -/
structure WrittenTable where
  /-- The address of the call-frame section, unless it is left out. -/
  sectionPointer : Option WrittenPointer
  countPointer : WrittenPointer
  rowForm : AddressForm
  rows : List WrittenRow
  deriving DecidableEq, Repr

namespace WrittenTable

/-- The version and the encodings. -/
def header (t : WrittenTable) : List UInt8 :=
  [1, .ofNat (t.sectionPointer.elim Encoding.omitted (·.form.code)),
    .ofNat t.countPointer.form.code, .ofNat t.rowForm.code]

def sectionOctets (t : WrittenTable) : List UInt8 := t.sectionPointer.elim [] (·.octets)

def octets (t : WrittenTable) : List UInt8 :=
  t.header ++ (t.sectionOctets ++ (t.countPointer.octets ++
    t.rows.flatMap (·.octets t.rowForm)))

def countOffset (t : WrittenTable) : Nat := 4 + t.sectionOctets.length

def rowsOffset (t : WrittenTable) : Nat := t.countOffset + t.countPointer.octets.length

/-- Every number is in the range of its field, the number of rows is stated, and the rows stand for
their addresses. -/
structure Fits (t : WrittenTable) (address : Int) : Prop where
  sectionPointer : ∀ w ∈ t.sectionPointer, w.Fits 4
  countPointer : t.countPointer.Fits t.countOffset
  count : t.countPointer.target address t.countOffset = t.rows.length
  rows : RowsFit address t.rowForm t.rowsOffset t.rows

/-- The note about the address of the call-frame section. -/
def notes (t : WrittenTable) (address : Int) : List Note :=
  (t.sectionPointer.map fun w =>
    .debug s!".eh_frame located at {hex (w.target address 4)}").toList

variable {t : WrittenTable}

theorem readSectionAddress_written (h : t.Fits address) (hholds : d.Holds 4 t.sectionOctets) :
    readSectionAddress d { sectionAddress := address }
        (t.sectionPointer.elim Encoding.omitted (·.form.code)) 4 =
      ⟨.ok t.countOffset, t.notes address⟩ := by
  unfold sectionOctets at hholds
  unfold readSectionAddress countOffset sectionOctets notes
  cases hpointer : t.sectionPointer with
  | none => rfl
  | some w =>
    rw [hpointer] at hholds
    have hlt := w.form.code_lt
    have homit : w.form.code ≠ Encoding.omitted := by
      simp only [Encoding.omitted]
      omega
    have hread : d.readPointer { sectionAddress := address } w.form.code 4 = .ok _ :=
      WrittenPointer.read hholds (h.sectionPointer w hpointer)
    simp only [Option.elim_some, if_neg homit, hread]
    rfl

/-- The octets of a header are the version and the encodings. -/
theorem getElem?_header (hholds : d.Holds 0 t.header) :
    d[0]? = some 1 ∧
      d[1]? = some (.ofNat (t.sectionPointer.elim Encoding.omitted (·.form.code))) ∧
      d[2]? = some (.ofNat t.countPointer.form.code) ∧ d[3]? = some (.ofNat t.rowForm.code) := by
  have hget {i : Nat} {x : UInt8} {rest : List UInt8} (h : d.Holds i (x :: rest)) :
      d[i]? = some x :=
    Array.getElem?_eq_some_iff.2 h.get
  exact ⟨hget hholds, hget hholds.tail, hget hholds.tail.tail, hget hholds.tail.tail.tail⟩

/-- What stands after a table does not matter. -/
theorem scan_of_holds (h : t.Fits address) (hholds : d.Holds 0 t.octets) :
    scan d address =
      ⟨.ok (t.rows.map fun r => rowCandidate r.location r.description), t.notes address⟩ := by
  obtain ⟨h₀, h₁, h₂, h₃⟩ := getElem?_header hholds.left
  have hsection : d.Holds 4 t.sectionOctets := hholds.right.left
  have hcount : d.Holds t.countOffset t.countPointer.octets := hholds.right.right.left
  have hrows : d.Holds t.rowsOffset (t.rows.flatMap (·.octets t.rowForm)) :=
    hholds.right.right.right
  have hcountCode := t.countPointer.form.code_lt
  have hrowCode := t.rowForm.code_lt
  have hcode {n : Nat} (hn : n < 256) : (UInt8.ofNat n).toNat = n := UInt8.toNat_ofNat_of_lt' hn
  have hsectionCode : t.sectionPointer.elim Encoding.omitted (·.form.code) < 256 := by
    cases t.sectionPointer with
    | none => decide
    | some w => exact Nat.lt_trans w.form.code_lt (by decide)
  have hgiven : ¬ (t.countPointer.form.code = Encoding.omitted ∨
      t.rowForm.code = Encoding.omitted) := by
    simp only [Encoding.omitted]
    omega
  simp only [scan, h₀, h₁, h₂, h₃, hcode hsectionCode, hcode (Nat.lt_trans hcountCode (by decide)),
    hcode (Nat.lt_trans hrowCode (by decide)), if_neg hgiven]
  simp only [bind, Noted.andThen, readSectionAddress_written h hsection]
  simp only [WrittenPointer.read hcount h.countPointer, h.count]
  rw [← rowsOffset, readRows_written hrows h.rows, if_neg (not_not_intro rfl)]
  simp only [Noted.of, List.reverse_nil, List.nil_append, List.append_nil]

end WrittenTable

/-- A table that is written, with pointers in whatever encodings can be read, gives a candidate for
each row, in their order and whatever stands after it. Any octets give an error that says why there
is no table, or as many candidates as the header states; then each candidate has two octets of its
own, so a header that states more than half as many rows as there are octets gives an error. -/
theorem scan_exact (address : Int) :
    (∀ (d : Bytes) (encoding : UInt8) (off : Nat) (p : Nat × Nat),
      d.readPointer { sectionAddress := address } encoding.toNat off = .ok p →
        ∃ f : PointerForm, f.code = encoding.toNat) ∧
    (∀ t : WrittenTable, t.Fits address → ∀ tail : List UInt8,
      ∃ cs, scan (t.octets ++ tail).toArray address = ⟨.ok cs, t.notes address⟩ ∧
        cs.map (fun f => (f.name, f.start, f.stop, f.size)) =
          t.rows.map fun r =>
            ("FUN_0x" ++ hexDigitsUpper r.location, r.location, max r.location r.description,
              max r.location r.description - r.location)) ∧
    ∀ d : Bytes,
      ((∃ cause, checkedScan d address = .error (.searchTable cause) ∧
          ∀ i n e, cause = .row i n e →
            statedCount? d address = some n ∧ i < n ∧ 2 * i ≤ d.size) ∨
        ∃ cs, checkedScan d address = .ok cs ∧ (scan d address).result = .ok cs ∧
          statedCount? d address = some cs.length ∧ 2 * cs.length ≤ d.size) ∧
      ∀ n, statedCount? d address = some n → d.size < 2 * n →
        ∃ cause, (scan d address).result = .error cause := by
  refine ⟨fun d encoding off p h => PointerForm.exists_code h,
    fun t h tail => ⟨_, t.scan_of_holds h (Bytes.holds_toArray t.octets tail), ?_⟩,
    fun d => ⟨?_, fun n hstated hlarge => ?_⟩⟩
  · rw [List.map_map]
    refine List.map_congr_left fun r _ => ?_
    simp only [Function.comp_apply, rowCandidate, Candidate.stop, Prod.mk.injEq, true_and]
    omega
  · rw [checkedScan_eq]
    rcases scan_bounded d address with ⟨cause, hresult, hrow⟩ | ⟨cs, hresult, hstated, hsize⟩
    · exact .inl ⟨cause, by rw [hresult]; rfl, hrow⟩
    · exact .inr ⟨cs, by rw [hresult]; rfl, hresult, hstated, hsize⟩
  · rcases scan_bounded d address with ⟨cause, hresult, -⟩ | ⟨cs, -, hstated', hsize⟩
    · exact ⟨cause, hresult⟩
    · rw [hstated', Option.some.injEq] at hstated
      omega

/-- Three rows of numbers that are relative to their fields, after an aligned number of rows. The
first of them has a spare group, the second one goes backwards and the third one wraps around. -/
def mixedTable : WrittenTable where
  sectionPointer := some { form := .resolved ⟨.fieldRelative, .sdata2⟩, number := ⟨-0x104, 0⟩ }
  countPointer := { form := .aligned ⟨5, by decide⟩, number := ⟨3, 0⟩, gap := [0xaa, 0xbb] }
  rowForm := ⟨.fieldRelative, .sleb128⟩
  rows := [
    ⟨0x401000, 0x402100, ⟨-0x1010, 1⟩, ⟨0xee, 2⟩⟩,
    ⟨0x403000, 0x402000, ⟨0xfeb, 1⟩, ⟨-0x17, 0⟩⟩,
    ⟨0xfffffffffffffff0, 0, ⟨-0x402028, 3⟩, ⟨-0x40201c, 3⟩⟩]

/-- A header that states 2 to the power of 63 rows, and half a row. -/
def boastfulTable : Bytes := #[1, 0xff, 4, 3, 0, 0, 0, 0, 0, 0, 0, 0x80, 0x00, 0x10, 0x40, 0]

theorem scan_exact_mixedTable :
    mixedTable.Fits 0x402000 ∧
    (∃ cs, scan (mixedTable.octets ++ [0xff]).toArray 0x402000 =
        ⟨.ok cs, [.debug ".eh_frame located at 0x401f00"]⟩ ∧
      cs.map (fun f => (f.name, f.start, f.stop, f.size)) =
        [("FUN_0x401000", 0x401000, 0x402100, 0x1100), ("FUN_0x403000", 0x403000, 0x403000, 0),
          ("FUN_0xFFFFFFFFFFFFFFF0", 0xfffffffffffffff0, 0xfffffffffffffff0, 0)]) ∧
    statedCount? boastfulTable 0 = some (2 ^ 63) ∧
    ∃ cause, (scan boastfulTable 0).result = .error cause := by
  have hfits : mixedTable.Fits 0x402000 :=
    ⟨fun w hw => by cases hw; decide, by decide, by decide, by decide⟩
  obtain ⟨cs, hscan, hcs⟩ := (scan_exact 0x402000).2.1 mixedTable hfits [0xff]
  have hstated : statedCount? boastfulTable 0 = some (2 ^ 63) := by decide
  exact ⟨hfits, ⟨cs, hscan, hcs⟩, hstated,
    ((scan_exact 0).2.2 boastfulTable).2 _ hstated (by decide)⟩

end FunctionBounds.Cfi.SearchTable
