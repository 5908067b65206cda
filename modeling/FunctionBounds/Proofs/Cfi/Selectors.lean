import FunctionBounds.Proofs.Cfi.Cache
import FunctionBounds.Proofs.Cfi.Records
import FunctionBounds.Proofs.Field.Addresses

/-!
# Segment selectors

A common entry of version 4 gives the width of segment selectors behind the width of addresses. In
a frame description that refers to it, a selector of that width stands in front of the start.

- **Selectors** (`CommonEntry.readSelectorWidth`, `Section.Segmented`): their width, and frame
  descriptions that have one. `Record.behind` is a record without it.
- **Words** (`WordFields`, `WordFields.describe`): the function of a frame description whose start
  and size are words. Functions whose starts are relative to the same address have the same octets
  (`WordFields.function_inj`).

The width of selectors is read and not used, so that the octets of a selector are taken for the
start. `Section.scan_segmented` says what a scan gives, and when that is the described function.
-/

namespace FunctionBounds

namespace Cfi

/-! ## Selectors -/

/-- The width of segment selectors that an entry of version 4 gives. -/
def CommonEntry.readSelectorWidth (d : Bytes) (r : Record) : Except DecodeError Nat := do
  let (_, off) ← d.readByte r.body
  let (_, off) ← d.readString off
  let (_, off) ← d.readByte off
  let (width, _) ← d.readByte off
  return width

/-- The record with `n` octets more in front of its fields. -/
def Record.behind (r : Record) (n : Nat) : Record := { r with idWidth := r.idWidth + n }

@[simp] theorem Record.body_behind (r : Record) (n : Nat) : (r.behind n).body = r.body + n :=
  (Nat.add_assoc r.idOffset r.idWidth n).symm

/-- A frame description with segment selectors: the entry that it refers to has version 4 and gives
their width. -/
structure Section.Segmented (s : Section) (r : Record) (entry : CommonEntry) (width : Nat) :
    Prop where
  description : r.isCommon s.bytes .debugFrame = false
  refers : ∃ off entryRecord, r.entryOffset s.bytes .debugFrame = .ok off ∧
    CommonEntry.read s.bytes .debugFrame off = .ok entry ∧
    Record.read s.bytes .debugFrame off = .ok entryRecord ∧
    CommonEntry.readSelectorWidth s.bytes entryRecord = .ok width
  version : entry.version = CommonEntry.sizedVersion

/-- What a scan gives of a frame description does not depend on the width of selectors. -/
theorem Section.Segmented.outcome_eq_function_iff {s : Section} {r : Record} {entry : CommonEntry}
    {width : Nat} (h : s.Segmented r entry width) (f : Candidate) :
    s.outcome .debugFrame r = .function f ↔ s.describe entry r = .ok f := by
  obtain ⟨off, entryRecord, hoff, hentry, -, -⟩ := h.refers
  have hfunction : s.function .debugFrame r = s.describe entry r := by
    simp only [Section.function, hoff, hentry, bind, Except.bind]
  simp only [Section.outcome, h.description, Bool.false_eq_true, if_false, hfunction]
  cases s.describe entry r <;> simp

/-! ## Fields that are words -/

/-- The start and the size of a frame description as words. -/
structure WordFields (addressSize : Nat) where
  form : AddressForm
  word : Word
  isWord : form.format.word? addressSize = some word
  start : List UInt8
  size : List UInt8
  length_start : start.length = word.width
  length_size : size.length = word.width

namespace WordFields

variable {addressSize : Nat} (x : WordFields addressSize)

def octets : List UInt8 := x.start ++ x.size

theorem length_octets : x.octets.length = 2 * x.word.width := by
  rw [octets, List.length_append, x.length_start, x.length_size, Nat.two_mul]

/-- The function that the fields describe if they stand at `off`. -/
def function (b : PointerBase) (off : Nat) : Except DecodeError Candidate :=
  let size := x.word.interpret (ofLittleEndian x.size)
  let start := (b.resolve off x.form.application + x.word.interpret (ofLittleEndian x.start)) %
    addressCount
  if size < 0 then .error (.negativeRange size)
  else .ok ⟨Candidate.nameAt start.toNat, start.toNat, size.toNat⟩

/-- The fields that are read where octets in front of the fields are taken for them. -/
def shifted (front : List UInt8) : WordFields addressSize where
  form := x.form
  word := x.word
  isWord := x.isWord
  start := (front ++ x.octets).take x.word.width
  size := ((front ++ x.octets).drop x.word.width).take x.word.width
  length_start := by simp [x.length_octets]; omega
  length_size := by simp [x.length_octets]; omega

/-- The octets in front of the fields stand for them together with the first of the fields. -/
theorem octets_shifted (front : List UInt8) :
    (x.shifted front).octets = (front ++ x.octets).take x.octets.length := by
  rw [x.length_octets, Nat.two_mul, List.take_add]
  rfl

/-- A word is read from its octets. -/
theorem readValue_of_holds {d : Bytes} {off : Nat} {bs : List UInt8} (h : d.Holds off bs)
    (hlength : bs.length = x.word.width) :
    d.readValue x.form.format addressSize off =
      .ok (x.word.interpret (ofLittleEndian bs), off + x.word.width) := by
  have hlt := ofLittleEndian_lt bs
  rw [hlength] at hlt
  rw [Bytes.readValue_of_word? x.isWord, Bytes.readWord_of_holds
    (by rwa [← hlength, littleEndian_ofLittleEndian]), Nat.mod_eq_of_lt hlt]

theorem describe {s : Section} {entry : CommonEntry} {r : Record}
    (hencoding : entry.encoding = x.form.code) (hsize : entry.addressSize = addressSize)
    (h : s.bytes.Holds r.body x.octets) (hstop : r.body + x.octets.length ≤ r.stop) :
    s.describe entry r = x.function ⟨s.base, none, addressSize⟩ r.body := by
  have hstart := x.form.readPointer_of_readValue ⟨s.base, none, addressSize⟩
    (x.readValue_of_holds h.left x.length_start)
  have hright := h.right
  rw [x.length_start] at hright
  have hextent := x.readValue_of_holds hright x.length_size
  obtain ⟨-, -, -, hformat, -⟩ := x.form.code_resolves
  have hend : ¬ r.stop < r.body + x.word.width + x.word.width := by
    rw [x.length_octets] at hstop
    omega
  simp only [Section.describe, hencoding, hsize, hstart, Bytes.readEncodedValue, hformat, hextent,
    bind, Except.bind, pure, Except.pure]
  rw [if_neg hend, function]
  split <;> rfl

/-- The function of fields that describe one. -/
theorem of_function_eq_ok {b : PointerBase} {off : Nat} {f : Candidate}
    (h : x.function b off = .ok f) :
    (f.start : Int) =
        (b.resolve off x.form.application + x.word.interpret (ofLittleEndian x.start)) %
          addressCount ∧
      (f.size : Int) = x.word.interpret (ofLittleEndian x.size) := by
  simp only [function] at h
  split at h
  · cases h
  · next hsize =>
    cases h
    exact ⟨Int.toNat_of_nonneg (Int.emod_nonneg _ (by decide)), Int.toNat_of_nonneg (by omega)⟩

/-- Functions whose starts are relative to the same address have the same octets. -/
theorem function_inj {y : WordFields addressSize} {b : PointerBase} {off off' : Nat}
    {f g : Candidate} (hword : y.word = x.word)
    (hbase : b.resolve off y.form.application = b.resolve off' x.form.application)
    (hf : y.function b off = .ok f) (hg : x.function b off' = .ok g) :
    f.start = g.start ∧ f.size = g.size ↔ y.octets = x.octets := by
  obtain ⟨hfstart, hfsize⟩ := y.of_function_eq_ok hf
  obtain ⟨hgstart, hgsize⟩ := x.of_function_eq_ok hg
  have hpos := ValueFormat.width_pos_of_word? x.isWord
  have hle := ValueFormat.width_le_of_word? x.isWord
  have hlt : ∀ bs : List UInt8, bs.length = x.word.width →
      ofLittleEndian bs < 1 <<< (8 * x.word.width) := fun bs h => h ▸ ofLittleEndian_lt bs
  have hystart : y.start.length = x.word.width := hword ▸ y.length_start
  have hysize : y.size.length = x.word.width := hword ▸ y.length_size
  rw [hword, hbase] at hfstart
  rw [hword] at hfsize
  constructor
  · rintro ⟨hstart, hsize⟩
    rw [hstart, hgstart] at hfstart
    rw [hsize, hgsize] at hfsize
    have hstarts := Word.interpret_inj hpos hle (hlt _ x.length_start) (hlt _ hystart) _ hfstart
    have hsizes := Word.interpret_inj hpos hle (hlt _ x.length_size) (hlt _ hysize) 0
      (congrArg (fun v => (0 + v) % addressCount) hfsize)
    rw [octets, octets, ofLittleEndian_inj (x.length_start.trans hystart.symm) hstarts,
      ofLittleEndian_inj (x.length_size.trans hysize.symm) hsizes]
  · intro hoctets
    obtain ⟨hstart, hsize⟩ := List.append_inj hoctets (hystart.trans x.length_start.symm)
    rw [hstart] at hfstart
    rw [hsize] at hfsize
    omega

end WordFields

/-! ## What a scan gives -/

/-- The width of segment selectors decides nothing in a scan. A record that refers to a common entry
of version 4 gives the function that is read right behind its identifier, whatever the width, which
is its own where there is no selector. Where the start and the size are words, the octets of the
selector and the first of the fields are read for them; unless the start is relative to its own
place, start and size are those described exactly if these octets are the same. -/
theorem Section.scan_segmented (s : Section) {v : Visit} {entry : CommonEntry} {width : Nat}
    (hv : v ∈ (s.scan .debugFrame).visits) (h : s.Segmented v.record entry width) :
    (∀ f, v.outcome = .function f ↔ s.describe entry v.record = .ok f) ∧
    (width = 0 → ∀ f, v.outcome = .function f →
      s.describe entry (v.record.behind width) = .ok f) ∧
    ∀ (x : WordFields entry.addressSize) (selector : List UInt8), selector.length = width →
      entry.encoding = x.form.code → s.bytes.Holds v.record.body (selector ++ x.octets) →
      v.record.body + (selector ++ x.octets).length ≤ v.record.stop →
      let base : PointerBase := ⟨s.base, none, entry.addressSize⟩
      s.describe entry (v.record.behind width) = x.function base (v.record.body + width) ∧
      s.describe entry v.record = (x.shifted selector).function base v.record.body ∧
      (x.form.application ≠ .fieldRelative → ∀ f own, v.outcome = .function f →
        s.describe entry (v.record.behind width) = .ok own →
        (f.start = own.start ∧ f.size = own.size ↔
          (selector ++ x.octets).take x.octets.length = x.octets)) := by
  have houtcome : ∀ f, v.outcome = .function f ↔ s.describe entry v.record = .ok f := by
    rw [scan_visits] at hv
    obtain ⟨r, -, rfl⟩ := List.mem_map.1 hv
    exact h.outcome_eq_function_iff
  refine ⟨houtcome, ?_, ?_⟩
  · rintro rfl f hf
    exact (houtcome f).1 hf
  · rintro x selector rfl hencoding hholds hstop base
    have hown : s.describe entry (v.record.behind selector.length) =
        x.function base (v.record.body + selector.length) := by
      rw [List.length_append] at hstop
      refine (x.describe hencoding rfl ?_ ?_).trans (by rw [Record.body_behind])
      · rw [Record.body_behind]
        exact hholds.right
      · rw [Record.body_behind]
        show v.record.body + selector.length + x.octets.length ≤ v.record.stop
        omega
    have hread : s.describe entry v.record = (x.shifted selector).function base v.record.body := by
      have hfront := x.octets_shifted selector
      have hsplit := List.take_append_drop x.octets.length (selector ++ x.octets)
      rw [← hfront] at hsplit
      rw [← hsplit] at hholds hstop
      rw [List.length_append] at hstop
      exact (x.shifted selector).describe hencoding rfl hholds.left (by omega)
    refine ⟨hown, hread, fun hrelative f own hf hdescribe => ?_⟩
    rw [← x.octets_shifted]
    refine x.function_inj rfl ?_ (hread.symm.trans ((houtcome f).1 hf))
      (hown.symm.trans hdescribe)
    show base.resolve v.record.body x.form.application = base.resolve _ x.form.application
    cases happ : x.form.application with
    | absolute | dataRelative => rfl
    | fieldRelative => exact absurd happ hrelative

/-- An entry with addresses and selectors of four octets, and the description of the function of 32
octets at `0x401000` in the segment `0x10`. -/
def segmentedSection : Section where
  bytes :=
    #[0x0c, 0, 0, 0, 0xff, 0xff, 0xff, 0xff, 4, 0, 4, 4, 1, 0x7c, 8, 0,
      0x10, 0, 0, 0, 0, 0, 0, 0, 0x10, 0, 0, 0, 0, 0x10, 0x40, 0, 0x20, 0, 0, 0]
  base := 0

/-- The entry of `segmentedSection`. -/
def segmentedEntry : CommonEntry := ⟨0, 4, [], 4, 0⟩

/-- The frame description of `segmentedSection`. -/
def segmentedRecord : Record := ⟨16, 20, 4, 36⟩

/-- The start and the size in `segmentedRecord`. -/
def segmentedFields : WordFields 4 where
  form := ⟨.absolute, .address⟩
  word := .u32
  isWord := rfl
  start := [0, 0x10, 0x40, 0]
  size := [0x20, 0, 0, 0]
  length_start := rfl
  length_size := rfl

theorem segmented_segmentedSection :
    segmentedSection.Segmented segmentedRecord segmentedEntry 4 where
  description := by cbv
  refers := ⟨0, ⟨0, 4, 4, 16⟩, by cbv, by decide +kernel, by cbv, by cbv⟩
  version := rfl

/-- The selector is taken for the start, and the start for the size. -/
theorem mem_visits_segmentedSection :
    ⟨segmentedRecord, .function ⟨"FUNC_0x10", 0x10, 0x401000⟩⟩ ∈
      (segmentedSection.scan .debugFrame).visits := by
  have hchain : (Chain.read segmentedSection.bytes .debugFrame).records =
      [⟨0, 4, 4, 16⟩, segmentedRecord] := by
    rw [Chain.read,
      Chain.readFrom_step (show Record.read _ .debugFrame 0 = .ok ⟨0, 4, 4, 16⟩ by cbv),
      Chain.readFrom_step (show Record.read _ .debugFrame 16 = .ok segmentedRecord by cbv),
      Chain.readFrom_exhausted (by decide)]
    rfl
  have houtcome := (segmented_segmentedSection.outcome_eq_function_iff
    ⟨"FUNC_0x10", 0x10, 0x401000⟩).2 rfl
  rw [Section.scan_visits, hchain, ← houtcome]
  exact List.mem_cons_of_mem _ List.mem_cons_self

theorem Section.scan_segmented_selectors :
    let x := segmentedFields
    ⟨segmentedRecord, .function ⟨"FUNC_0x10", 0x10, 0x401000⟩⟩ ∈
      (segmentedSection.scan .debugFrame).visits ∧
    segmentedSection.Segmented segmentedRecord segmentedEntry 4 ∧
    segmentedSection.bytes.Holds segmentedRecord.body ([0x10, 0, 0, 0] ++ x.octets) ∧
    segmentedSection.describe segmentedEntry segmentedRecord =
      (x.shifted [0x10, 0, 0, 0]).function ⟨0, none, 4⟩ 24 ∧
    segmentedSection.describe segmentedEntry (segmentedRecord.behind 4) =
      x.function ⟨0, none, 4⟩ 28 ∧
    ([0x10, 0, 0, 0] ++ x.octets).take x.octets.length ≠ x.octets := by
  intro x
  have hholds : segmentedSection.bytes.Holds segmentedRecord.body
      ([0x10, 0, 0, 0] ++ x.octets) := by decide +kernel
  obtain ⟨-, -, hwords⟩ := Section.scan_segmented segmentedSection mem_visits_segmentedSection
    segmented_segmentedSection
  obtain ⟨hown, hread, -⟩ := hwords x [0x10, 0, 0, 0] rfl rfl hholds (by decide)
  exact ⟨mem_visits_segmentedSection, segmented_segmentedSection, hholds, hread, hown, by decide⟩

/-- The start and the size of a function are not those that its description gives behind a
selector. -/
theorem Section.scan_segmentedSection :
    ¬ ∀ (s : Section) (v : Visit) (entry : CommonEntry) (width : Nat) (f own : Candidate),
      v ∈ (s.scan .debugFrame).visits → s.Segmented v.record entry width →
      v.outcome = .function f → s.describe entry (v.record.behind width) = .ok own →
      f.start = own.start ∧ f.size = own.size := by
  intro h
  have hown : segmentedSection.describe segmentedEntry (segmentedRecord.behind 4) =
      .ok ⟨"FUNC_0x401000", 0x401000, 0x20⟩ := rfl
  have hsame := h segmentedSection _ segmentedEntry 4 _ _ mem_visits_segmentedSection
    segmented_segmentedSection rfl hown
  exact absurd hsame (by decide)

end Cfi

end FunctionBounds
