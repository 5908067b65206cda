import FunctionBounds.Proofs.Cfi.Cache
import FunctionBounds.Proofs.Cfi.Records
import FunctionBounds.Proofs.Field.Locality

/-!
# Locality of frame descriptions

The function of a frame description is decided by the octets of two records: its own, and that of
the common entry that it refers to.

- **Extents** (`Record.Extends d off stop`): by the length in front, a record that starts at `off`
  ends at `stop`. `Record.Shared` says that two sections have the same record at an offset: it ends
  at the same place in both, and its octets are the same.
- **Fields** (`CommonEntry.readFields_upTo`, `Section.describe_upTo`): each reader goes on where the
  one before ended, and what ends behind the record is an error. So nothing that succeeds has
  looked behind the record.
- **Records** (`Record.read_shared`, `CommonEntry.read_shared`, `Section.function_shared`): what is
  read in one section is read in the other.

`Section.candidate_shared` says so of a record that is decoded with nothing in the cache, and of one
that scans of both sections come to.
-/

namespace FunctionBounds.Cfi

variable {d d' : Bytes} {c : Convention} {off stop : Nat} {r : Record}

/-! ## Extents -/

namespace Record

/-- By the length in front, a record that starts at `off` ends at `stop`, inside the section. -/
def Extends (d : Bytes) (off stop : Nat) : Prop :=
  stop ≤ d.size ∧
    (d.le off 4 ≠ wideLength ∧ stop = off + 4 + d.le off 4 ∨
      d.le off 4 = wideLength ∧ stop = off + 12 + d.le (off + 4) 8)

instance : Decidable (Extends d off stop) := by
  unfold Extends
  infer_instance

theorem Extends.lt (h : Extends d off stop) : off + 4 ≤ stop ∧ stop ≤ d.size := by
  obtain ⟨hsize, ⟨-, rfl⟩ | ⟨-, rfl⟩⟩ := h <;> omega

theorem extends_of_read (h : read d c off = .ok r) : Extends d off r.stop := by
  rcases read_cases h with ⟨-, hlength, hbounded⟩ | ⟨-, hlength, hbounded⟩
  · obtain ⟨hsize, -, rfl⟩ := bounded_eq_ok_iff.1 hbounded
    exact ⟨hsize, .inl ⟨hlength, rfl⟩⟩
  · obtain ⟨hsize, -, rfl⟩ := bounded_eq_ok_iff.1 hbounded
    exact ⟨hsize, .inr ⟨hlength, rfl⟩⟩

/-- A record ends at one place only. -/
theorem Extends.unique {stop' : Nat} (h : Extends d off stop) (h' : Extends d off stop') :
    stop = stop' := by
  obtain ⟨-, ⟨hn, rfl⟩ | ⟨hw, rfl⟩⟩ := h
  · obtain ⟨-, ⟨-, rfl⟩ | ⟨hw', -⟩⟩ := h'
    · rfl
    · exact absurd hw' hn
  · obtain ⟨-, ⟨hn', -⟩ | ⟨-, rfl⟩⟩ := h'
    · exact absurd hw hn'
    · rfl

/-- Two sections have the same record at `off`: it ends at `stop` in both, and its octets are the
same. -/
structure Shared (d d' : Bytes) (off stop : Nat) : Prop where
  left : Extends d off stop
  right : Extends d' off stop
  same : d.AgreeOn d' off stop

instance : Decidable (Shared d d' off stop) :=
  decidable_of_iff (Extends d off stop ∧ Extends d' off stop ∧ d.AgreeOn d' off stop)
    ⟨fun ⟨hleft, hright, hsame⟩ => ⟨hleft, hright, hsame⟩,
      fun h => ⟨h.left, h.right, h.same⟩⟩

theorem Shared.symm (h : Shared d d' off stop) : Shared d' d off stop :=
  ⟨h.right, h.left, h.same.symm⟩

/-! ## Fields -/

theorem bounded_upTo (off pos length : Nat) {idWidth : Nat} (hwidth : 0 < idWidth) :
    ReadsUpTo pos Record.stop fun d => bounded d off pos length idWidth := by
  intro d r (hr : bounded d off pos length idWidth = .ok r)
  obtain ⟨hsize, hid, rfl⟩ := bounded_eq_ok_iff.1 hr
  refine ⟨Nat.le_add_right _ _, fun d' hagree => bounded_eq_ok_iff.2 ⟨?_, hid, rfl⟩⟩
  exact hagree.le_size (by simp only; omega) hsize

theorem read_upTo (c : Convention) (off : Nat) :
    ReadsUpTo off Record.stop fun d => read d c off := by
  refine (Bytes.readUnsigned_upTo off (by decide)).bind fun length => ?_
  by_cases hwide : length.1 = wideLength
  · simp only [if_pos hwide]
    refine (Bytes.readUnsigned_upTo _ (by decide)).bind fun length => ?_
    exact bounded_upTo _ _ _ (by cases c <;> decide)
  · simp only [if_neg hwide]
    exact bounded_upTo _ _ _ (by decide)

end Record

namespace Letter

theorem read_upTo (addressSize : Nat) (l : Letter) (encoding off : Nat) :
    ReadsUpTo off Prod.snd fun d => l.read d addressSize encoding off := by
  cases l with
  | addressEncoding => exact Bytes.readByte_upTo off
  | dataEncoding => exact (Bytes.readByte_upTo off).bind fun _ => readsUpTo_ok (Nat.le_refl _)
  | personality =>
    refine (Bytes.readByte_upTo off).bind fun form => ?_
    exact (Bytes.readEncodedValue_upTo _ _ _).bind fun _ => readsUpTo_ok (Nat.le_refl _)
  | signalFrame | signedReturn => exact readsUpTo_ok (Nat.le_refl _)

theorem readAll_upTo (addressSize : Nat) (letters : List UInt8) (encoding off : Nat) :
    ReadsUpTo off Prod.snd fun d => readAll d addressSize letters encoding off := by
  induction letters generalizing encoding off with
  | nil => exact readsUpTo_ok (Nat.le_refl _)
  | cons b letters ih =>
    simp only [readAll]
    cases ofOctet? b with
    | none => exact readsUpTo_ok (Nat.le_refl _)
    | some l => exact (l.read_upTo addressSize encoding off).bind fun _ => ih _ _

end Letter

namespace CommonEntry

theorem readAddressSize_upTo (version off : Nat) :
    ReadsUpTo off Prod.snd fun d => readAddressSize d version off := by
  unfold readAddressSize
  split
  · exact readsUpTo_ok (Nat.le_refl _)
  · refine (Bytes.readByte_upTo off).bind fun addressSize => ?_
    refine (Bytes.readByte_upTo _).bind fun selectorSize => ?_
    by_cases hsize : addressSize.1 = 4 ∨ addressSize.1 = 8
    · simp only [if_pos hsize]
      exact readsUpTo_ok (Nat.le_refl _)
    · simp only [if_neg hsize]
      exact readsUpTo_error

theorem le_skipLegacyData (augmentation : List UInt8) (addressSize off : Nat) :
    off ≤ skipLegacyData augmentation addressSize off := by
  unfold skipLegacyData
  split <;> omega

theorem skipAlignments_upTo (version off : Nat) :
    ReadsUpTo off id fun d => skipAlignments d version off := by
  refine (Bytes.readUnsignedLeb_upTo off).bind fun codeAlignment => ?_
  refine (Bytes.readSignedLeb_upTo _).bind fun dataAlignment => ?_
  by_cases hversion : version = 1
  · simp only [if_pos hversion]
    exact (Bytes.readByte_upTo _).bind fun _ => readsUpTo_ok (Nat.le_refl _)
  · simp only [if_neg hversion]
    exact (Bytes.readUnsignedLeb_upTo _).bind fun _ => readsUpTo_ok (Nat.le_refl _)

theorem readEncoding_upTo (augmentation : List UInt8) (addressSize off : Nat) :
    ReadsUpTo off Prod.snd fun d => readEncoding d augmentation addressSize off := by
  unfold readEncoding
  split
  · exact (Bytes.readUnsignedLeb_upTo off).bind fun _ => Letter.readAll_upTo _ _ _ _
  · exact readsUpTo_ok (Nat.le_refl _)

/-- The fields of a common entry that can be read lie inside its record. -/
theorem readFields_upTo (r : Record) :
    ReadsUpTo r.body (fun _ => r.stop) fun d => readFields d r := by
  refine (Bytes.readByte_upTo r.body).bind fun version => ?_
  by_cases hversion : version.1 = 1 ∨ version.1 = 3 ∨ version.1 = 4
  · simp only [if_pos hversion]
    refine (Bytes.readString_upTo _).bind fun augmentation => ?_
    refine (readAddressSize_upTo _ _).bind fun addressSize => ?_
    refine ((skipAlignments_upTo _ _).of_le (le_skipLegacyData _ _ _)).bind fun off => ?_
    refine (readEncoding_upTo _ _ _).bind fun encoding => ?_
    by_cases hstop : r.stop < encoding.2
    · simp only [if_pos hstop]
      exact readsUpTo_error
    · simp only [if_neg hstop]
      by_cases homitted : encoding.1 = Encoding.omitted
      · simp only [if_pos homitted]
        exact readsUpTo_error
      · simp only [if_neg homitted]
        exact readsUpTo_ok (by omega)
  · simp only [if_neg hversion]
    exact readsUpTo_error

theorem addressSize_of_readAddressSize {version addressSize next : Nat}
    (h : readAddressSize d version off = .ok (addressSize, next)) :
    addressSize = 4 ∨ addressSize = 8 := by
  unfold readAddressSize at h
  split at h
  · cases h
    exact .inr rfl
  · obtain ⟨size, -, h⟩ := bind_eq_ok_iff.1 h
    obtain ⟨selectorSize, -, h⟩ := bind_eq_ok_iff.1 h
    by_cases hsize : size.1 = 4 ∨ size.1 = 8
    · simp only [if_pos hsize] at h
      cases h
      exact hsize
    · simp only [if_neg hsize] at h
      cases h

/-- Addresses have four or eight octets. -/
theorem addressSize_of_readFields {entry : CommonEntry} (h : readFields d r = .ok entry) :
    entry.addressSize = 4 ∨ entry.addressSize = 8 := by
  obtain ⟨version, -, h⟩ := bind_eq_ok_iff.1 h
  by_cases hversion : version.1 = 1 ∨ version.1 = 3 ∨ version.1 = 4
  · simp only [if_pos hversion] at h
    obtain ⟨augmentation, -, h⟩ := bind_eq_ok_iff.1 h
    obtain ⟨addressSize, hsize, h⟩ := bind_eq_ok_iff.1 h
    obtain ⟨next, -, h⟩ := bind_eq_ok_iff.1 h
    obtain ⟨encoding, -, h⟩ := bind_eq_ok_iff.1 h
    split at h
    · cases h
    · split at h
      · cases h
      · cases h
        exact addressSize_of_readAddressSize hsize
  · simp only [if_neg hversion] at h
    cases h

theorem read_eq_ok_iff {entry : CommonEntry} :
    read d c off = .ok entry ↔
      ∃ r, Record.read d c off = .ok r ∧ r.isCommon d c = true ∧ readFields d r = .ok entry := by
  refine bind_eq_ok_iff.trans (exists_congr fun r => and_congr_right fun _ => ?_)
  split
  · next hcommon => simp [hcommon]
  · next hcommon => simp [hcommon, throw, throwThe, MonadExceptOf.throw]

end CommonEntry

/-! ## Records -/

/-- An identifier lies inside its record. -/
theorem Record.identifier_of_agreeOn (hread : Record.read d c off = .ok r)
    (h : d.AgreeOn d' off r.stop) : r.identifier d' = r.identifier d := by
  obtain ⟨-, hid, hbody, hstop⟩ := Record.read_bounds hread
  have hinside : d.AgreeOn d' r.idOffset r.body := h.mono (by omega) hbody
  exact hinside.le_eq (Nat.le_trans hbody hstop)

/-- A frame description of both sections refers to the same offset, if that is inside both. -/
theorem Record.entryOffset_of_agreeOn (hread : Record.read d c off = .ok r)
    (h : d.AgreeOn d' off r.stop) {entryOff : Nat} (hoff : r.entryOffset d c = .ok entryOff)
    (hinside : entryOff < d'.size) : r.entryOffset d' c = .ok entryOff := by
  unfold Record.entryOffset at hoff ⊢
  rw [identifier_of_agreeOn hread h]
  simp only at hoff ⊢
  split at hoff
  · next place hplace =>
    split at hoff
    · cases hoff
      simp only [if_pos hinside]
    · cases hoff
  · cases hoff

theorem Record.isCommon_of_agreeOn (hread : Record.read d c off = .ok r)
    (h : d.AgreeOn d' off r.stop) : r.isCommon d' c = r.isCommon d c := by
  rw [Record.isCommon, Record.isCommon, identifier_of_agreeOn hread h]

/-- A common entry of one section is one of the other, if they share its record. -/
theorem CommonEntry.read_shared {entry : CommonEntry} (h : read d c off = .ok entry)
    (hshared : Record.Shared d d' off stop) : read d' c off = .ok entry := by
  obtain ⟨r, hrecord, hcommon, hfields⟩ := read_eq_ok_iff.1 h
  have hsame : d.AgreeOn d' off r.stop := by
    rw [(Record.extends_of_read hrecord).unique hshared.left]
    exact hshared.same
  obtain ⟨-, hid, -, -⟩ := Record.read_bounds hrecord
  have hbody : off ≤ r.body := by
    rw [Record.body]
    omega
  have hrecord' := (Record.read_upTo c off d r hrecord).2 d' hsame
  have hfields' := (readFields_upTo r d entry hfields).2 d' (hsame.mono hbody (Nat.le_refl _))
  exact read_eq_ok_iff.2
    ⟨r, hrecord', (Record.isCommon_of_agreeOn hrecord hsame).trans hcommon, hfields'⟩

namespace Section

/-- The fields of a frame description that can be read lie inside its record. -/
theorem describe_upTo (base : Int) (entry : CommonEntry) (r : Record)
    (hentry : 0 < entry.addressSize) :
    ReadsUpTo r.body (fun _ => r.stop) fun d => (Section.mk d base).describe entry r := by
  have hstart := Bytes.readPointer_upTo r.body
    { sectionAddress := base, addressSize := entry.addressSize } entry.encoding
    (Int.natCast_pos.2 hentry)
  refine hstart.bind fun start => ?_
  refine (Bytes.readEncodedValue_upTo _ _ _).bind fun size => ?_
  by_cases hstop : r.stop < size.2
  · simp only [if_pos hstop]
    exact readsUpTo_error
  · simp only [if_neg hstop]
    by_cases hneg : size.1 < 0
    · simp only [if_pos hneg]
      exact readsUpTo_error
    · simp only [if_neg hneg]
      exact readsUpTo_ok (by omega)

theorem function_shared {base : Int} {f : Candidate}
    (h : (Section.mk d base).function c r = .ok f) (hread : Record.read d c r.offset = .ok r)
    (hown : Record.Shared d d' r.offset r.stop) (hoff : r.entryOffset d c = .ok off)
    (hentry : Record.Shared d d' off stop) : (Section.mk d' base).function c r = .ok f := by
  obtain ⟨off', hoff', h⟩ := bind_eq_ok_iff.1 h
  obtain ⟨entry, hentryRead, hdescribe⟩ := bind_eq_ok_iff.1 h
  obtain rfl : off = off' := Except.ok.inj (hoff.symm.trans hoff')
  obtain ⟨er, -, -, hfields⟩ := CommonEntry.read_eq_ok_iff.1 hentryRead
  have hsize : 0 < entry.addressSize := by
    rcases CommonEntry.addressSize_of_readFields hfields with h | h <;> omega
  have hplace := Record.entryOffset_of_agreeOn hread hown.same hoff
    (by have := hentry.right.lt; omega)
  have hbody : r.offset ≤ r.body := by
    obtain ⟨-, hid, -, -⟩ := Record.read_bounds hread
    rw [Record.body]
    omega
  have hdescribe' := (describe_upTo base entry r hsize d f hdescribe).2 d'
    (hown.same.mono hbody (Nat.le_refl _))
  exact bind_eq_ok_iff.2 ⟨off, hplace,
    bind_eq_ok_iff.2 ⟨entry, CommonEntry.read_shared hentryRead hentry, hdescribe'⟩⟩

theorem toOption_function_shared (base : Int) (hread : Record.read d c r.offset = .ok r)
    (hown : Record.Shared d d' r.offset r.stop) (hoff : r.entryOffset d c = .ok off)
    (hentry : Record.Shared d d' off stop) :
    ((Section.mk d base).function c r).toOption =
      ((Section.mk d' base).function c r).toOption := by
  have hread' := (Record.read_upTo c r.offset d r hread).2 d' hown.same
  have hoff' := Record.entryOffset_of_agreeOn hread hown.same hoff
    (by have := hentry.right.lt; omega)
  cases hf : (Section.mk d base).function c r with
  | ok f => rw [function_shared hf hread hown hoff hentry]
  | error cause =>
    cases hf' : (Section.mk d' base).function c r with
    | ok f =>
      rw [function_shared hf' hread' hown.symm hoff' hentry.symm] at hf
      cases hf
    | error cause' => rfl

/-- The candidate of a visit is the function of its record, unless that is a common entry. -/
theorem candidate?_of_mem_visits {s : Section} {v : Visit} (h : v ∈ (s.scan c).visits) :
    v.candidate? =
      if v.record.isCommon s.bytes c then none else (s.function c v.record).toOption := by
  rw [scan_visits] at h
  obtain ⟨r, -, rfl⟩ := List.mem_map.1 h
  by_cases hcommon : r.isCommon s.bytes c = true
  · simp only [Visit.candidate?, outcome, if_pos hcommon]
  · simp only [Visit.candidate?, outcome, if_neg hcommon]
    cases s.function c r <;> rfl

/-- A frame description gives the same function, or none, in all sections that share its record and
the record that it refers to. So it does in scans of such sections that come to it. -/
theorem candidate_shared (c : Convention) (base : Int)
    (hread : Record.read d c r.offset = .ok r) (hown : Record.Shared d d' r.offset r.stop)
    (hoff : r.entryOffset d c = .ok off) (hentry : Record.Shared d d' off stop) :
    let s : Section := ⟨d, base⟩
    let s' : Section := ⟨d', base⟩
    (s.candidate c {} r).1.toOption = (s'.candidate c {} r).1.toOption ∧
      ∀ v ∈ (s.scan c).visits, ∀ v' ∈ (s'.scan c).visits,
        v.record = r → v'.record = r → v.candidate? = v'.candidate? := by
  intro s s'
  have hfunction := toOption_function_shared base hread hown hoff hentry
  refine ⟨?_, ?_⟩
  · rw [(sound_empty.candidate r).1, (sound_empty.candidate r).1]
    exact hfunction
  · rintro v hv v' hv' rfl hrecord
    rw [candidate?_of_mem_visits hv, candidate?_of_mem_visits hv', hrecord, hfunction,
      Record.isCommon_of_agreeOn hread hown.same]

/-- A common entry at 0, a record without fields at 24, and a frame description at 32 with numbers
in LEB128. -/
def intact : Bytes :=
  #[20, 0, 0, 0, 0, 0, 0, 0, 1, 0x7a, 0x50, 0x52, 0, 1, 0x78, 16, 6, 0x0b, 0, 0x10, 0, 0, 1, 0,
    4, 0, 0, 0, 0, 0, 0, 0,
    9, 0, 0, 0, 36, 0, 0, 0, 0x80, 0xa0, 0x80, 2, 32]

/-- The same with a length at 24 that leads outside, and with octets at the end that go on with
whatever stands in front of them. -/
def corrupted : Bytes :=
  #[20, 0, 0, 0, 0, 0, 0, 0, 1, 0x7a, 0x50, 0x52, 0, 1, 0x78, 16, 6, 0x0b, 0, 0x10, 0, 0, 1, 0,
    0xf0, 0xff, 0xff, 0xff, 0xff, 0xff, 0xff, 0xff,
    9, 0, 0, 0, 36, 0, 0, 0, 0x80, 0xa0, 0x80, 2, 32, 0xff, 0xff, 0xff]

theorem candidate_shared_corrupted :
    let r : Record := ⟨32, 36, 4, 45⟩
    Record.read intact .ehFrame r.offset = .ok r ∧ Record.Shared intact corrupted r.offset r.stop ∧
      r.entryOffset intact .ehFrame = .ok 0 ∧ Record.Shared intact corrupted 0 24 ∧
      ((Section.mk corrupted 0).candidate .ehFrame {} r).1.toOption =
        some ⟨"FUNC_0x401000", 0x401000, 32⟩ := by
  intro r
  have hread : Record.read intact .ehFrame r.offset = .ok r := by cbv
  have hown : Record.Shared intact corrupted r.offset r.stop := by decide +kernel
  have hoff : r.entryOffset intact .ehFrame = .ok 0 := by cbv
  have hentry : Record.Shared intact corrupted 0 24 := by decide +kernel
  refine ⟨hread, hown, hoff, hentry, ?_⟩
  rw [← (candidate_shared .ehFrame 0 hread hown hoff hentry).1]
  decide +kernel

end Section

end FunctionBounds.Cfi
