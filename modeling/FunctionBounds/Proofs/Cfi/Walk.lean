import FunctionBounds.Proofs.Cfi.Completeness

/-!
# What a scan makes of any octets

A scan walks over records that follow each other without gaps, whatever the octets are, and every
record that is not a common entry is accounted for once.

- **Bounds** (`Record.spanAt`, `Record.Undecodable`, `Record.read_eq_ok_iff`): the bounds of a
  record as its length says, and when they cannot be those of a record.
- **The walk** (`Linked`, `Ending.At`, `Chain.read_linked`): records from the start of the section,
  each where the one before it ends, up to the first offset with a reason to end.
- **Accounts** (`Section.scan_accounted`, `length_candidates_add_length_skips`): a record that is
  not a common entry gives a candidate or else a note.
- **Reports** (`Scan.Reportable`): there is a report unless a note has a number that is too long,
  which only the size of a frame description can be (`outcome_of_signedExtent_neg`).

`Section.scan_accounts` puts these together. `overlongSection` is a section without a report.
-/

namespace FunctionBounds.Cfi

variable {d : Bytes} {c : Convention} {off : Nat} {r : Record}

/-! ## Bounds -/

namespace Record

/-- The bounds of a record at `off` as its length says, which has four octets, or `0xffffffff` and
eight octets. -/
def spanAt (d : Bytes) (c : Convention) (off : Nat) : Record :=
  if d.le off 4 = wideLength then ⟨off, off + 12, c.wideIdWidth, off + 12 + d.le (off + 4) 8⟩
  else ⟨off, off + 4, 4, off + 4 + d.le off 4⟩

/-- There is no record at `off`: eight octets of length do not fit, or the record reaches past the
end of the section, or its identifier reaches past the record. -/
def Undecodable (d : Bytes) (c : Convention) (off : Nat) : Prop :=
  d.le off 4 = wideLength ∧ d.size < off + 12 ∨ d.size < (spanAt d c off).stop ∨
    (spanAt d c off).stop < (spanAt d c off).body

theorem spanAt_of_wide (h : d.le off 4 = wideLength) :
    spanAt d c off = ⟨off, off + 12, c.wideIdWidth, off + 12 + d.le (off + 4) 8⟩ := if_pos h

theorem spanAt_of_narrow (h : d.le off 4 ≠ wideLength) :
    spanAt d c off = ⟨off, off + 4, 4, off + 4 + d.le off 4⟩ := if_neg h

theorem read_eq_ok_iff (hsize : off + 4 ≤ d.size) :
    read d c off = .ok r ↔ ¬ Undecodable d c off ∧ r = spanAt d c off := by
  by_cases hlength : d.le off 4 = wideLength
  · by_cases hwide : off + 12 ≤ d.size
    · rw [read_of_wide hwide hlength, bounded_eq_ok_iff, Undecodable, spanAt_of_wide hlength,
        ← and_assoc]
      refine and_congr_left fun _ => ?_
      simp only [body]
      omega
    · have hundecodable : Undecodable d c off := .inl ⟨hlength, by omega⟩
      refine iff_of_false (fun h => ?_) (fun h => h.1 hundecodable)
      rcases read_cases h with ⟨-, hnarrow, -⟩ | ⟨hfits, -, -⟩
      · exact hnarrow hlength
      · exact hwide hfits
  · rw [read_of_narrow hsize hlength, bounded_eq_ok_iff, Undecodable, spanAt_of_narrow hlength,
      ← and_assoc]
    refine and_congr_left fun _ => ?_
    simp only [body]
    omega

theorem read_eq_error_iff (hsize : off + 4 ≤ d.size) :
    (∃ cause, read d c off = .error cause) ↔ Undecodable d c off := by
  cases h : read d c off with
  | error cause =>
    refine iff_of_true ⟨cause, rfl⟩ (Classical.byContradiction fun hnot => ?_)
    rw [(read_eq_ok_iff hsize).2 ⟨hnot, rfl⟩] at h
    cases h
  | ok r =>
    exact iff_of_false (fun ⟨_, herror⟩ => nomatch herror) ((read_eq_ok_iff hsize).1 h).1

end Record

/-! ## The walk -/

/-- There is a reason to end at `off`: fewer than four octets are left, or a length of zero, or
no record. -/
def Ending.At (d : Bytes) (c : Convention) (off : Nat) : Ending → Prop
  | exhausted => d.size < off + 4
  | terminator => off + 4 ≤ d.size ∧ d.le off 4 = 0
  | undecodable cause =>
    off + 4 ≤ d.size ∧ d.le off 4 ≠ 0 ∧ Record.Undecodable d c off ∧
      Record.read d c off = .error cause

/-- Records from `off` up to `stop`, each where the one before it ends. -/
def Linked : Nat → List Record → Nat → Prop
  | off, [], stop => off = stop
  | off, r :: rs, stop => r.offset = off ∧ Linked r.stop rs stop

/-- No reason to end stands where there is a record. -/
theorem Ending.not_at_of_read (h : Record.read d c off = .ok r) (e : Ending) :
    ¬ e.At d c off := by
  have hstop := Record.read_stop h
  cases e with
  | exhausted =>
    intro hshort
    have : d.size < off + 4 := hshort
    omega
  | terminator => exact fun hzero => Record.le_ne_zero_of_read h hzero.2
  | undecodable cause =>
    rintro ⟨-, -, -, herror⟩
    rw [h] at herror
    cases herror

namespace Chain

/-- The walk from an offset on, by induction on what is left of the section. -/
theorem readFrom_linked (d : Bytes) (c : Convention) (off : Nat) (before : List Record) :
    ∃ rs, (readFrom d c off before).records = before.reverse ++ rs ∧
      Linked off rs (readFrom d c off before).stop ∧
      (∀ r ∈ rs, Record.read d c r.offset = .ok r) ∧
      (readFrom d c off before).ending.At d c (readFrom d c off before).stop := by
  by_cases hsize : off + 4 ≤ d.size
  · by_cases hzero : d.le off 4 = 0
    · rw [readFrom_terminator hsize hzero]
      exact ⟨[], (List.append_nil _).symm, rfl, nofun, hsize, hzero⟩
    · cases hread : Record.read d c off with
      | error cause =>
        rw [readFrom_undecodable hsize hzero hread]
        have hundecodable := (Record.read_eq_error_iff hsize).1 ⟨cause, hread⟩
        exact ⟨[], (List.append_nil _).symm, rfl, nofun, hsize, hzero, hundecodable, hread⟩
      | ok r =>
        have hstop := Record.read_stop hread
        have hoffset := (Record.read_bounds hread).1
        obtain ⟨rs, hrecords, hlinked, hreads, hending⟩ := readFrom_linked d c r.stop (r :: before)
        rw [readFrom_step hread]
        refine ⟨r :: rs, by simp [hrecords], ⟨hoffset, hlinked⟩, fun r' hr' => ?_, hending⟩
        rcases List.mem_cons.1 hr' with rfl | hr'
        · rw [hoffset, hread]
        · exact hreads r' hr'
  · rw [readFrom_exhausted (by omega)]
    exact ⟨[], (List.append_nil _).symm, rfl, nofun, Nat.not_le.1 hsize⟩
termination_by d.size - off

theorem read_linked (d : Bytes) (c : Convention) :
    Linked 0 (read d c).records (read d c).stop ∧
      (∀ r ∈ (read d c).records, Record.read d c r.offset = .ok r) ∧
      (read d c).ending.At d c (read d c).stop := by
  obtain ⟨rs, hrecords, hlinked, hreads, hending⟩ := readFrom_linked d c 0 []
  have hrs : (read d c).records = rs := hrecords
  rw [hrs]
  exact ⟨hlinked, hreads, hending⟩

end Chain

/-! ## Accounts -/

/-- The record of a visit is accounted for: a common entry gives nothing, any other record either a
candidate or a note. -/
def Visit.Accounted (d : Bytes) (c : Convention) (v : Visit) : Prop :=
  if v.record.isCommon d c then v.candidate? = none ∧ v.note? = none
  else v.candidate?.isSome = !v.note?.isSome

theorem Section.outcome_accounted (s : Section) (c : Convention) (r : Record) :
    (Visit.mk r (s.outcome c r)).Accounted s.bytes c := by
  unfold Visit.Accounted Section.outcome
  simp only
  split
  · exact ⟨rfl, rfl⟩
  · cases s.function c r <;> rfl

theorem Section.scan_accounted (s : Section) (c : Convention) :
    ∀ v ∈ (s.scan c).visits, v.outcome = s.outcome c v.record ∧ v.Accounted s.bytes c := by
  rw [s.scan_visits]
  intro v hv
  obtain ⟨r, -, rfl⟩ := List.mem_map.1 hv
  exact ⟨rfl, s.outcome_accounted c r⟩

/-- Each record that is not a common entry is counted once. -/
theorem length_candidates_add_length_skips {vs : List Visit} (h : ∀ v ∈ vs, v.Accounted d c) :
    (vs.filterMap (·.candidate?)).length + (vs.filterMap (·.note?)).length =
      ((vs.map (·.record)).filter fun r => !r.isCommon d c).length := by
  induction vs with
  | nil => rfl
  | cons v vs ih =>
    have hrest := ih fun v' hv' => h v' (List.mem_cons_of_mem v hv')
    have hfirst := h v List.mem_cons_self
    unfold Visit.Accounted at hfirst
    simp only [List.filterMap_cons, List.map_cons, List.filter_cons]
    split at hfirst
    · next hcommon =>
      simp only [hfirst, hcommon, Bool.not_true, Bool.false_eq_true, if_false]
      exact hrest
    · next hother =>
      simp only [Bool.eq_false_iff.2 hother, Bool.not_false, if_true, List.length_cons]
      cases hf : v.candidate? with
      | none =>
        obtain ⟨n, hn⟩ : ∃ n, v.note? = some n := by
          simpa [hf, Option.isSome_iff_exists] using hfirst
        simp only [hn, List.length_cons]
        omega
      | some f =>
        have hn : v.note? = none := by simpa [hf] using hfirst
        simp only [hn, List.length_cons]
        omega

/-! ## Reports -/

theorem Visit.unwritable?_eq_none_iff {v : Visit} {l : Text.DigitLimit} :
    v.unwritable? l = none ↔
      ∀ size, v.outcome = .skipped (.negativeRange size) → l.admits size = true := by
  unfold Visit.unwritable?
  cases v.outcome with
  | commonEntry => simp
  | function f => simp
  | skipped cause =>
    cases cause with
    | negativeRange size =>
      simp only [DecodeError.unwritable?, Outcome.skipped.injEq, DecodeError.negativeRange.injEq,
        forall_eq', ← Text.DigitLimit.check_eq_ok_iff]
      cases l.check size <;> simp
    | _ => simp [DecodeError.unwritable?]

namespace Scan

/-- No size below zero, of those that frame descriptions are skipped for, is too long to be
written. -/
def Reportable (w : Scan) (l : Text.DigitLimit) : Prop :=
  ∀ v ∈ w.visits, ∀ size, v.outcome = .skipped (.negativeRange size) → l.admits size = true

variable {w : Scan} {l : Text.DigitLimit}

theorem findSome?_unwritable_eq_none_iff :
    w.visits.findSome? (·.unwritable? l) = none ↔ w.Reportable l := by
  simp only [List.findSome?_eq_none_iff, Visit.unwritable?_eq_none_iff, Reportable]

theorem report_of_reportable (h : w.Reportable l) : w.report l = ⟨.ok w.candidates, w.notes⟩ := by
  rw [report, findSome?_unwritable_eq_none_iff.2 h]

/-- The first note that cannot be written ends a report, and the notes before it stay. -/
theorem report_of_unwritable {b a : List Visit} {v : Visit} {cause : Text.TooLong}
    (hvisits : w.visits = b ++ v :: a) (hbefore : ∀ v' ∈ b, v'.unwritable? l = none)
    (hv : v.unwritable? l = some cause) :
    w.report l = ⟨.error cause, b.filterMap (·.note?)⟩ := by
  have hfirst : w.visits.findSome? (·.unwritable? l) = some cause :=
    List.findSome?_eq_some_iff.2 ⟨b, v, a, hvisits, hv, hbefore⟩
  have hwritten : w.visits.takeWhile (fun v => (v.unwritable? l).isNone) = b := by
    rw [hvisits, List.takeWhile_append_of_pos fun v' hv' => by simp [hbefore v' hv'],
      List.takeWhile_cons_of_neg (by simp [hv]), List.append_nil]
  simp only [report, hfirst, hwritten]

theorem exists_unwritable (h : ¬ w.Reportable l) :
    ∃ before v after cause, w.visits = before ++ v :: after ∧ v.unwritable? l = some cause ∧
      w.report l = ⟨.error cause, before.filterMap (·.note?)⟩ := by
  obtain ⟨cause, hcause⟩ := Option.ne_none_iff_exists'.1 (mt findSome?_unwritable_eq_none_iff.1 h)
  obtain ⟨before, v, after, hvisits, hv, hbefore⟩ := List.findSome?_eq_some_iff.1 hcause
  exact ⟨before, v, after, cause, hvisits, hv, report_of_unwritable hvisits hbefore hv⟩

end Scan

/-- A scan of any octets walks over records from the start of the section, each where the one before
it ends, which lie inside the section and span at least eight octets, up to the first offset with a
reason to end. Each record that is not a common entry gives a candidate or else a note. Unless a
note has a number that is too long, a report has the candidates by start, those of equal start in
the order of the section, and after the notes on records one on an early end and, if there are notes
on records, their number. -/
theorem Section.scan_accounts (s : Section) (c : Convention) (l : Text.DigitLimit) :
    let w := s.scan c
    let records := w.visits.map (·.record)
    let found := w.visits.filterMap (·.candidate?)
    let skips := w.visits.filterMap (·.note?)
    let count := if 0 < skips.length then
      [Note.warning s!"Skipped {skips.length} malformed FDE(s)"] else []
    Linked 0 records w.stop ∧
    (∀ r ∈ records, r = Record.spanAt s.bytes c r.offset ∧ r.offset + 8 ≤ r.stop ∧
      r.stop ≤ s.bytes.size ∧ ∀ e : Ending, ¬ e.At s.bytes c r.offset) ∧
    w.ending.At s.bytes c w.stop ∧
    (∀ v ∈ w.visits, v.outcome = s.outcome c v.record ∧ v.Accounted s.bytes c) ∧
    found.length + skips.length = (records.filter fun r => !r.isCommon s.bytes c).length ∧
    (w.Reportable l → ∃ cs, w.report l = ⟨.ok cs, skips ++ w.stopNote?.toList ++ count⟩ ∧
      cs.Perm found ∧ cs.Pairwise (·.start ≤ ·.start) ∧
      ∀ a, cs.filter (·.start == a) = found.filter (·.start == a)) ∧
    (¬ w.Reportable l → ∃ before v after cause, w.visits = before ++ v :: after ∧
      v.unwritable? l = some cause ∧
      w.report l = ⟨.error cause, before.filterMap (·.note?)⟩) := by
  intro w records found skips count
  obtain ⟨hlinked, hreads, hending⟩ := Chain.read_linked s.bytes c
  have hvisits : w.visits = (Chain.read s.bytes c).records.map fun r => ⟨r, s.outcome c r⟩ :=
    s.scan_visits c
  have hrecords : records = (Chain.read s.bytes c).records := by
    simp only [records, hvisits, List.map_map, Function.comp_def, List.map_id']
  refine ⟨?_, ?_, hending, s.scan_accounted c,
    length_candidates_add_length_skips fun v hv => (s.scan_accounted c v hv).2, fun h => ?_,
    Scan.exists_unwritable⟩
  · rw [hrecords]
    exact hlinked
  · rw [hrecords]
    intro r hr
    have hread := hreads r hr
    have hstop := Record.read_stop hread
    exact ⟨((Record.read_eq_ok_iff (by omega)).1 hread).2, hstop.1, hstop.2,
      Ending.not_at_of_read hread⟩
  · refine ⟨w.candidates, ?_, sorted_perm _, sorted_pairwise _, filter_sorted _⟩
    rw [Scan.report_of_reportable h, Scan.notes]
    simp only [count, skips]
    cases w.visits.filterMap (·.note?) <;> rfl

/-! ## A size that is too long -/

/-- What a format with a sign reads where the size of a frame description was written. -/
def WrittenDescription.signedExtent (f : WrittenDescription) : Int :=
  f.extent.value.bmod (f.entry.addressForm.format.count f.entry.version.addressSize f.sizeMore)

variable {f : WrittenDescription} {base : Int}

/-- A frame description is skipped if what is read as its size is below zero. -/
theorem outcome_of_signedExtent_neg
    (hentry : d.Holds f.entryOffset ((WrittenRecord.common f.entry).octets c f.entryOffset))
    (hfits : (WrittenRecord.common f.entry).LengthFits c)
    (h : d.Holds off ((WrittenRecord.description f).octets c off)) (hrefers : f.Refers c off)
    (hlocation : f.location.Fits f.entry.addressForm.format f.entry.version.addressSize)
    (hsigned : f.entry.addressForm.format.isSigned = true) (hnegative : f.signedExtent < 0) :
    (Section.mk d base).outcome c ((WrittenRecord.description f).bounds c off) =
      .skipped (.negativeRange f.signedExtent) := by
  have hinside : f.entryOffset < d.size := by
    have := Record.read_stop (WrittenRecord.read hentry hfits)
    simp only [WrittenRecord.bounds] at this
    omega
  have hextent := Numeral.read_signed (WrittenRecord.holds_body h).right.left hsigned
  have hdescribed : (Section.mk d base).describe ⟨f.entryOffset, f.entry.version.number,
      f.entry.augmentationOctets, f.entry.version.addressSize, f.entry.addressForm.code⟩
      ((WrittenRecord.description f).bounds c off) = _ :=
    WrittenDescription.describe_of_extent h hlocation rfl rfl rfl hextent
  have hfunction : (Section.mk d base).function c ((WrittenRecord.description f).bounds c off) =
      .error (.negativeRange f.signedExtent) := by
    simp only [Section.function, WrittenDescription.refersTo h hrefers hinside,
      WrittenEntry.read hentry hfits, bind, Except.bind, hdescribed]
    exact if_pos hnegative
  rw [Section.outcome, WrittenRecord.isCommon_description h hrefers, if_neg (by simp), hfunction]

/-- A common entry whose frame descriptions have their numbers in LEB128. -/
def compactEntry : WrittenEntry where
  wide := false
  version := .first
  augmentation := some ⟨[.addressEncoding ⟨.absolute, .sleb128⟩], ⟨1, 0⟩⟩
  codeAlignment := ⟨1, 0⟩
  dataAlignment := ⟨-8, 0⟩
  returnRegister := ⟨16, 0⟩
  rest := []

/-- A frame description whose size is read as a number below zero: of its 2041 groups of seven bits
only the highest bit is set. -/
def overlongDescription : WrittenDescription where
  wide := false
  entry := compactEntry
  entryOffset := 0
  start := 0x1000
  size := 1 <<< 14286
  location := ⟨0x1000, 1⟩
  sizeMore := 2040
  rest := []

/-- A common entry and a frame description that refers to it. -/
def overlongRecords : List WrittenRecord := [.common compactEntry, .description overlongDescription]

/-- A section at `base` that has these records and nothing else. -/
def overlongSection (base : Int) : Section :=
  ⟨(sectionOctets .ehFrame 0 overlongRecords).toArray, base⟩

theorem length_octets_sleb128 (x : Numeral) (addressSize : Int) :
    (x.octets .sleb128 addressSize).length = x.more + 1 := Leb128.length_octets _ _

theorem placed_overlongRecords : placed .ehFrame 0 overlongRecords =
    [(0, .common compactEntry), (17, .description overlongDescription)] := by
  have hsize : 0 + (WrittenRecord.common compactEntry).size .ehFrame = 17 := by decide +kernel
  rw [overlongRecords, placed, hsize, placed, placed]

theorem length_overlongDescription :
    (WrittenRecord.description overlongDescription).body.length = 2043 := by
  have hform : overlongDescription.entry.addressForm.format = .sleb128 := rfl
  have hrest : overlongDescription.rest.length = 0 := rfl
  simp only [WrittenRecord.body, WrittenDescription.body, List.length_append, hform, hrest,
    length_octets_sleb128]
  rfl

theorem lengthFits_overlongRecords : ∀ w ∈ overlongRecords, w.LengthFits .ehFrame := by
  have hdescription : (WrittenRecord.description overlongDescription).LengthFits .ehFrame := by
    rw [WrittenRecord.LengthFits, length_overlongDescription]
    decide
  have hentry : (WrittenRecord.common compactEntry).LengthFits .ehFrame := by decide +kernel
  intro w hw
  rw [overlongRecords, List.mem_cons, List.mem_singleton] at hw
  rcases hw with rfl | rfl
  · exact hentry
  · exact hdescription

theorem signedExtent_overlongDescription : overlongDescription.signedExtent < 0 ∧
    Text.DigitLimit.standard.admits overlongDescription.signedExtent = false := by
  decide +kernel

/-- The second record is skipped for a size that is too long to be written. -/
theorem visits_overlongSection (base : Int) :
    ((overlongSection base).scan .ehFrame).visits =
      [⟨(WrittenRecord.common compactEntry).bounds .ehFrame 0, .commonEntry⟩,
        ⟨(WrittenRecord.description overlongDescription).bounds .ehFrame 17,
          .skipped (.negativeRange overlongDescription.signedExtent)⟩] := by
  have hholds : (overlongSection base).bytes.Holds 0 (sectionOctets .ehFrame 0 overlongRecords) :=
    ⟨[], [], by simp [overlongSection], rfl⟩
  have hsize : (overlongSection base).bytes.size <
      (sectionOctets .ehFrame 0 overlongRecords).length + 4 := by
    rw [overlongSection, List.size_toArray]
    omega
  have hrecords := (read_written hholds lengthFits_overlongRecords (.inl hsize)).1
  have hplaced := fun p (hp : p ∈ placed .ehFrame 0 overlongRecords) =>
    holds_of_mem_placed hholds hp
  rw [placed_overlongRecords] at hrecords hplaced
  have hentry := hplaced (0, .common compactEntry) (by simp)
  have hdescription := hplaced (17, .description overlongDescription) (by simp)
  have hfits : (WrittenRecord.common overlongDescription.entry).LengthFits .ehFrame :=
    lengthFits_overlongRecords _ List.mem_cons_self
  have hrefers : overlongDescription.Refers .ehFrame 17 := by decide
  have hcommon : (overlongSection base).outcome .ehFrame
      ((WrittenRecord.common compactEntry).bounds .ehFrame 0) = .commonEntry :=
    if_pos (WrittenRecord.isCommon_common hentry)
  have hskipped : (overlongSection base).outcome .ehFrame
      ((WrittenRecord.description overlongDescription).bounds .ehFrame 17) = _ :=
    outcome_of_signedExtent_neg hentry hfits hdescription hrefers (by decide) rfl
      signedExtent_overlongDescription.1
  rw [Section.scan_visits, hrecords]
  simp only [List.map_cons, List.map_nil, hcommon, hskipped]

theorem report_overlongSection (base : Int) :
    ((overlongSection base).scan .ehFrame).report .standard =
      ⟨.error { limit := 4300 }, []⟩ := by
  have hcheck := Text.DigitLimit.check_of_not_admits signedExtent_overlongDescription.2
  refine Scan.report_of_unwritable (b := [_]) (visits_overlongSection base) (fun v hv => ?_) ?_
  · rcases List.mem_singleton.1 hv with rfl
    rfl
  · simp only [Visit.unwritable?, DecodeError.unwritable?, Text.DigitLimit.standard, hcheck]

/-- One of the records is not a common entry, and a report has neither a candidate nor a note for
it. -/
theorem Section.report_overlong :
    ((((overlongSection 0).scan .ehFrame).visits.map (·.record)).filter fun r =>
        !r.isCommon (overlongSection 0).bytes .ehFrame).length = 1 ∧
      ((overlongSection 0).scan .ehFrame).report .standard =
        ⟨.error { limit := 4300 }, []⟩ := by
  have hcount := length_candidates_add_length_skips fun v hv =>
    ((overlongSection 0).scan_accounted .ehFrame v hv).2
  refine ⟨?_, report_overlongSection 0⟩
  rw [← hcount, visits_overlongSection]
  simp only [List.filterMap_cons, List.filterMap_nil, Visit.candidate?, Visit.note?,
    List.length_cons, List.length_nil]

end FunctionBounds.Cfi
