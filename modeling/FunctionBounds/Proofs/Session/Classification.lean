import FunctionBounds.Proofs.Container.Pe
import FunctionBounds.Proofs.Region.Sections
import FunctionBounds.Proofs.Region.Segments
import Std.Data.HashMap.Lemmas

/-!
# Every file at its opening

What becomes of a file is told by the file alone, and every file is opened or refused in one of
three ways.

- **Files** (`Image.IsElf64`, `Image.Unsupported`, `Image.Truncated`, `Image.Malformed`,
  `Image.Openable`): what the octets of a file say, in terms of the numbers in its headers. Every
  file is of one of the last four kinds (`Image.kinds`).
- **Headers and layouts** (`Elf.Header.decode_of_other`, `Layout.extract_cases`): what each step of
  an opening gives, and on which conditions.
- **Regions by name** (`Region.index_getElem?`): a dictionary that keeps what it has finds the
  first region of a name.
- **Openings** (`Session.ofBytes_classified`): how an opening ends, for every file.
-/

namespace FunctionBounds

open SectionTable (InBounds)
open SegmentTable (TooSmall)

/-! ## Files -/

/-- No file starts like files of both formats. -/
theorem Format.not_hasAt_peMagic {d : Bytes} (helf : d.hasAt 0 elfMagic) :
    ¬d.hasAt 0 peMagic := by
  intro hpe
  have hfirst (b : UInt8) (bs : List UInt8) (h : d.hasAt 0 (b :: bs)) : d[0]? = some b := by
    have hhead : (d.slice 0 (bs.length + 1)).toList[0]? = some b := by
      rw [show (d.slice 0 (bs.length + 1)).toList = b :: bs from eq_of_beq h]
      rfl
    simpa [Bytes.slice, Array.getElem?_extract] using hhead
  have hsame := (hfirst _ _ helf).symm.trans (hfirst _ _ hpe)
  exact absurd hsame (by decide)

theorem Format.identify_of_peMagic {d : Bytes} (hpe : d.hasAt 0 peMagic) : identify d = .pe := by
  rw [identify, if_neg fun helf => not_hasAt_peMagic helf hpe, if_pos hpe]

namespace Image

/-- The file starts with the header of a little-endian ELF64 file. -/
structure IsElf64 (d : Bytes) : Prop where
  size : 64 ≤ d.size
  magic : d.hasAt 0 Format.elfMagic
  class64 : d.le 4 1 = 2
  littleEndian : d.le 5 1 = 1

/-- The file has a whole ELF header of another class or byte order, or the header of a PE file. -/
def Unsupported (d : Bytes) : Prop :=
  (d.hasAt 0 Format.elfMagic ∧ 64 ≤ d.size ∧ (d.le 4 1 ≠ 2 ∨ d.le 5 1 ≠ 1)) ∨
    (d.hasAt 0 Format.peMagic ∧ ∃ h, Pe.Header.decode d = .ok h)

/-- The file has a table of sections with entries that are large enough, and the table or what it
refers to does not lie inside the file. -/
structure Truncated (d : Bytes) : Prop where
  elf : IsElf64 d
  sections : (Elf.Header.fields d).hasSections
  stride : 64 ≤ SectionHeader.stride (Elf.Header.fields d)
  outside : ¬InBounds (Elf.Header.fields d) d

/-- The headers of the file are wrong in one of the following ways. -/
inductive Malformed (d : Bytes) : Prop where
  | unknownMagic (elf : ¬d.hasAt 0 Format.elfMagic) (pe : ¬d.hasAt 0 Format.peMagic)
  | elfTooSmall (magic : d.hasAt 0 Format.elfMagic) (size : d.size < 64)
  | sectionEntrySize (elf : IsElf64 d) (sections : (Elf.Header.fields d).hasSections)
    (stride : SectionHeader.stride (Elf.Header.fields d) < 64)
  | segmentEntrySize (elf : IsElf64 d) (sections : ¬(Elf.Header.fields d).hasSections)
    (segments : (Elf.Header.fields d).hasSegments) (small : TooSmall (Elf.Header.fields d))
  | noTables (elf : IsElf64 d) (sections : ¬(Elf.Header.fields d).hasSections)
    (segments : ¬(Elf.Header.fields d).hasSegments)
  | peHeader (magic : d.hasAt 0 Format.peMagic) (header : ∀ h, Pe.Header.decode d ≠ .ok h)

/-- The file has a table of sections, and all that it refers to, or else a table of segments. -/
inductive Openable (d : Bytes) : Prop where
  | sections (elf : IsElf64 d) (sections : (Elf.Header.fields d).hasSections)
    (inside : InBounds (Elf.Header.fields d) d)
  | segments (elf : IsElf64 d) (sections : ¬(Elf.Header.fields d).hasSections)
    (segments : (Elf.Header.fields d).hasSegments) (large : ¬TooSmall (Elf.Header.fields d))

/-- How the opening of the file ends: in the way of its kind. -/
inductive Ends (d : Bytes) : Except ContainerError Session → Prop where
  | unsupported (file : Unsupported d) (cause : FunctionBounds.Unsupported) :
    Ends d (.error (.unsupported cause))
  | truncated (file : Truncated d) (name : String) (off n : Nat) :
    Ends d (.error (.truncated name off n d.size))
  | malformed (file : Malformed d) (cause : Malformation) : Ends d (.error (.malformed cause))
  | opened (file : Openable d) (s : Session) : Ends d (.ok s)

variable {d : Bytes}

theorem Openable.elf (h : Openable d) : IsElf64 d := by
  cases h <;> assumption

theorem IsElf64.kinds (helf : IsElf64 d) : Truncated d ∨ Malformed d ∨ Openable d := by
  by_cases hsections : (Elf.Header.fields d).hasSections
  · by_cases hstride : SectionHeader.stride (Elf.Header.fields d) < 64
    · exact .inr (.inl (.sectionEntrySize helf hsections hstride))
    · by_cases hinside : InBounds (Elf.Header.fields d) d
      · exact .inr (.inr (.sections helf hsections hinside))
      · exact .inl ⟨helf, hsections, Nat.not_lt.1 hstride, hinside⟩
  · by_cases hsegments : (Elf.Header.fields d).hasSegments
    · by_cases hsmall : TooSmall (Elf.Header.fields d)
      · exact .inr (.inl (.segmentEntrySize helf hsections hsegments hsmall))
      · exact .inr (.inr (.segments helf hsections hsegments hsmall))
    · exact .inr (.inl (.noTables helf hsections hsegments))

/-- Every file is of one of four kinds. -/
theorem kinds (d : Bytes) : Unsupported d ∨ Truncated d ∨ Malformed d ∨ Openable d := by
  by_cases hmagic : d.hasAt 0 Format.elfMagic
  · by_cases hsize : d.size < 64
    · exact .inr (.inr (.inl (.elfTooSmall hmagic hsize)))
    · by_cases hclass : d.le 4 1 = 2
      · by_cases horder : d.le 5 1 = 1
        · exact .inr (IsElf64.kinds ⟨Nat.not_lt.1 hsize, hmagic, hclass, horder⟩)
        · exact .inl (.inl ⟨hmagic, Nat.not_lt.1 hsize, .inr horder⟩)
      · exact .inl (.inl ⟨hmagic, Nat.not_lt.1 hsize, .inl hclass⟩)
  · by_cases hpe : d.hasAt 0 Format.peMagic
    · by_cases hheader : ∃ h, Pe.Header.decode d = .ok h
      · exact .inl (.inr ⟨hpe, hheader⟩)
      · exact .inr (.inr (.inl (.peHeader hpe fun h hok => hheader ⟨h, hok⟩)))
    · exact .inr (.inr (.inl (.unknownMagic hmagic hpe)))

end Image

open Image (IsElf64)

/-! ## Headers and layouts -/

theorem Image.IsElf64.decode {d : Bytes} (helf : IsElf64 d) :
    Elf.Header.decode d = .ok (Elf.Header.fields d) :=
  Elf.Header.decode_eq_ok_iff.2 ⟨helf.size, helf.magic, helf.class64, helf.littleEndian, rfl⟩

theorem Elf.Header.decode_of_other {d : Bytes} (hmagic : d.hasAt 0 Format.elfMagic)
    (hsize : 64 ≤ d.size) (hother : d.le 4 1 ≠ 2 ∨ d.le 5 1 ≠ 1) :
    ∃ cause, decode d = .error (.unsupported cause) := by
  have hlarge : ¬d.size < size := Nat.not_lt.2 hsize
  rw [decode, if_neg hlarge, if_neg (not_not_intro hmagic)]
  by_cases hclass : d.le 4 1 = 2
  · rw [if_neg (not_not_intro hclass), if_pos (hother.resolve_left (not_not_intro hclass))]
    exact ⟨_, rfl⟩
  · rw [if_pos hclass]
    exact ⟨_, rfl⟩

theorem Layout.extract_cases (d : Bytes) (h : Elf.Header) :
    (h.hasSections → SectionHeader.stride h < 64 →
      ∃ cause, (extract h d).result = .error (.malformed cause)) ∧
    (h.hasSections → 64 ≤ SectionHeader.stride h → ¬InBounds h d →
      ∃ name off n, (extract h d).result = .error (.truncated name off n d.size)) ∧
    (h.hasSections → InBounds h d → ∃ layout, (extract h d).result = .ok layout) ∧
    (¬h.hasSections → h.hasSegments → TooSmall h →
      ∃ cause, (extract h d).result = .error (.malformed cause)) ∧
    (¬h.hasSections → h.hasSegments → ¬TooSmall h →
      ∃ layout, (extract h d).result = .ok layout) ∧
    (¬h.hasSections → ¬h.hasSegments →
      ∃ cause, (extract h d).result = .error (.malformed cause)) := by
  refine ⟨fun hsections hstride => ?_, fun hsections hstride houtside => ?_,
    fun hsections hinside => ?_, fun hsections hsegments hsmall => ?_,
    fun hsections hsegments hlarge => ?_, fun hsections hsegments => ?_⟩
  · rw [extract_result_of_hasSections hsections, SectionTable.ofSections_of_stride_lt h d hstride]
    exact ⟨_, rfl⟩
  · obtain ⟨name, off, n, -, herror⟩ :=
      (SectionTable.ofSections_demands h d hstride).error houtside
    rw [extract_result_of_hasSections hsections, herror]
    exact ⟨name, off, n, rfl⟩
  · rw [extract_result_of_hasSections hsections,
      (SectionTable.ofSections_demands h d hinside.stride).ok hinside]
    exact ⟨_, rfl⟩
  · rw [extract_result_of_hasSegments (by simpa using hsections) hsegments,
      SegmentTable.ofSegments_of_stride_lt h d (hsmall.stride_eq ▸ hsmall.2)]
    exact ⟨_, rfl⟩
  · rw [extract_result_of_hasSegments (by simpa using hsections) hsegments,
      SegmentTable.ofSegments_result h d (SegmentTable.le_stride hlarge)]
    exact ⟨_, rfl⟩
  · rw [extract, if_neg hsections, if_neg hsegments]
    exact ⟨_, rfl⟩

/-! ## Regions by name -/

/-- The regions by name. A name that is there keeps its region. -/
def Region.index (rs : List Region) : Std.HashMap String Region :=
  rs.foldl (fun m r => m.insertIfNew r.name r) {}

/-- What is there before comes first, by induction on the regions that are added. -/
theorem Region.foldl_insertIfNew_getElem? (rs : List Region) (m : Std.HashMap String Region)
    (name : String) :
    (rs.foldl (fun m r => m.insertIfNew r.name r) m)[name]? =
      m[name]?.or (rs.find? (·.name == name)) := by
  induction rs generalizing m with
  | nil => simp
  | cons r rs ih =>
    rw [List.foldl_cons, ih, Std.HashMap.getElem?_insertIfNew, List.find?_cons]
    by_cases hname : r.name = name
    · subst hname
      by_cases hmem : r.name ∈ m
      · simp [hmem]
      · simp [hmem]
    · have hne : (r.name == name) = false := beq_false_of_ne hname
      simp [hne]

theorem Region.index_getElem? (rs : List Region) (name : String) :
    (index rs)[name]? = rs.find? (·.name == name) := by
  rw [index, foldl_insertIfNew_getElem?, Std.HashMap.getElem?_empty, Option.none_or]

/-! ## Openings -/

namespace Session

variable {d : Bytes} (path : String) (l : Text.DigitLimit)

theorem ofBytes_of_decode_error {cause : ContainerError} (hmagic : d.hasAt 0 Format.elfMagic)
    (herror : Elf.Header.decode d = .error cause) : (ofBytes d path l).result = .error cause := by
  have hformat : Format.identify d = .elf := if_pos hmagic
  simp only [ofBytes, hformat, Noted.result_bind, Noted.result_of, herror]
  rfl

theorem ofBytes_of_peMagic (hpe : d.hasAt 0 Format.peMagic) :
    (ofBytes d path l).result = (Pe.Header.decode d).bind fun header =>
      .error (.unsupported (.peRegions header.traits.arch)) := by
  simp only [ofBytes, Format.identify_of_peMagic hpe, Noted.result_bind, Noted.result_of]

theorem ofBytes_of_unsupported (h : Image.Unsupported d) :
    ∃ cause, (ofBytes d path l).result = .error (.unsupported cause) := by
  rcases h with ⟨hmagic, hsize, hother⟩ | ⟨hpe, header, hheader⟩
  · obtain ⟨cause, herror⟩ := Elf.Header.decode_of_other hmagic hsize hother
    exact ⟨cause, ofBytes_of_decode_error path l hmagic herror⟩
  · rw [ofBytes_of_peMagic path l hpe, hheader]
    exact ⟨_, rfl⟩

theorem ofBytes_of_truncated (h : Image.Truncated d) :
    ∃ name off n, (ofBytes d path l).result = .error (.truncated name off n d.size) := by
  obtain ⟨name, off, n, herror⟩ :=
    (Layout.extract_cases d (Elf.Header.fields d)).2.1 h.sections h.stride h.outside
  rw [ofBytes_of_decode h.elf.decode, herror]
  exact ⟨name, off, n, rfl⟩

theorem ofBytes_of_malformed (h : Image.Malformed d) :
    ∃ cause, (ofBytes d path l).result = .error (.malformed cause) := by
  -- an ELF64 file is refused for its layout alone
  have hlayout (helf : IsElf64 d) (hwrong : ∃ cause,
      (Layout.extract (Elf.Header.fields d) d).result = .error (.malformed cause)) :
      ∃ cause, (ofBytes d path l).result = .error (.malformed cause) := by
    obtain ⟨cause, herror⟩ := hwrong
    rw [ofBytes_of_decode helf.decode, herror]
    exact ⟨cause, rfl⟩
  obtain ⟨hentries, -, -, hsmall, -, hnone⟩ := Layout.extract_cases d (Elf.Header.fields d)
  cases h with
  | unknownMagic helf hpe =>
    have hformat : Format.identify d = .unknown := by
      rw [Format.identify, if_neg helf, if_neg hpe]
    simp only [ofBytes, hformat]
    exact ⟨_, rfl⟩
  | elfTooSmall hmagic hsize =>
    have herror : Elf.Header.decode d = .error (.malformed (.elfTooSmall d.size)) := if_pos hsize
    exact ⟨_, ofBytes_of_decode_error path l hmagic herror⟩
  | sectionEntrySize helf hsections hstride => exact hlayout helf (hentries hsections hstride)
  | segmentEntrySize helf hsections hsegments small =>
    exact hlayout helf (hsmall hsections hsegments small)
  | noTables helf hsections hsegments => exact hlayout helf (hnone hsections hsegments)
  | peHeader hpe hheader =>
    have hrefused : ¬ ∃ header, Pe.Header.decode d = .ok header := not_exists.2 hheader
    obtain ⟨cause, herror⟩ := (Pe.Header.decode_cases d).resolve_left hrefused
    rw [ofBytes_of_peMagic path l hpe, herror]
    exact ⟨cause, rfl⟩

theorem ofBytes_of_openable (h : Image.Openable d) : ∃ s, (ofBytes d path l).result = .ok s := by
  obtain ⟨-, -, hinside, -, hlarge, -⟩ := Layout.extract_cases d (Elf.Header.fields d)
  have hlayout : ∃ layout, (Layout.extract (Elf.Header.fields d) d).result = .ok layout := by
    cases h with
    | sections _ hsections inside => exact hinside hsections inside
    | segments _ hsections hsegments large => exact hlarge hsections hsegments large
  obtain ⟨layout, hok⟩ := hlayout
  rw [ofBytes_of_decode h.elf.decode, hok]
  exact ⟨_, rfl⟩

theorem ofBytes_ends (d : Bytes) : Image.Ends d (ofBytes d path l).result := by
  rcases Image.kinds d with h | h | h | h
  · obtain ⟨cause, herror⟩ := ofBytes_of_unsupported path l h
    exact herror ▸ .unsupported h cause
  · obtain ⟨name, off, n, herror⟩ := ofBytes_of_truncated path l h
    exact herror ▸ .truncated h name off n
  · obtain ⟨cause, herror⟩ := ofBytes_of_malformed path l h
    exact herror ▸ .malformed h cause
  · obtain ⟨s, hok⟩ := ofBytes_of_openable path l h
    exact hok ▸ .opened h s

/-- The opening of a file ends in exactly one of four ways, which the octets of the file tell, and
in no other way. An ELF file that is not ELF64 or not little-endian and a PE file are not
supported. A range that reaches past the end is reported for a file with a usable table of sections
only. The headers of all other files that are refused are wrong. A session has the entry point of
the header and the regions of the layout, and finds the first region of every name. -/
theorem ofBytes_classified (d : Bytes) (path : String) (l : Text.DigitLimit) :
    checkedOpen d path l = (ofBytes d path l).result.mapError .container ∧
    ((∃ cause, (ofBytes d path l).result = .error (.unsupported cause)) ↔
      (d.hasAt 0 Format.elfMagic ∧ 64 ≤ d.size ∧ (d.le 4 1 ≠ 2 ∨ d.le 5 1 ≠ 1)) ∨
        (d.hasAt 0 Format.peMagic ∧ ∃ h, Pe.Header.decode d = .ok h)) ∧
    ((∃ name off n size, (ofBytes d path l).result = .error (.truncated name off n size)) ↔
      Image.Truncated d) ∧
    ((∃ cause, (ofBytes d path l).result = .error (.malformed cause)) ↔ Image.Malformed d) ∧
    ((∃ s, (ofBytes d path l).result = .ok s) ↔ Image.Openable d) ∧
    ∀ s, (ofBytes d path l).result = .ok s →
      IsElf64 d ∧ s.entryPoint = d.le 24 8 ∧
      (Layout.extract (Elf.Header.fields d) d).result = .ok ⟨s.regions, s.stripped⟩ ∧
      ∀ name, s.region? name = (Region.index s.regions)[name]? ∧
        (s.region? name = none ↔ ∀ r ∈ s.regions, r.name ≠ name) ∧
        ∀ r, s.region? name = some r ↔ r.name = name ∧
          ∃ before after, s.regions = before ++ r :: after ∧ ∀ q ∈ before, q.name ≠ name := by
  have hends := ofBytes_ends path l d
  refine ⟨checkedOpen_eq d path l, ⟨?_, ofBytes_of_unsupported path l⟩, ⟨?_, fun h => ?_⟩,
    ⟨?_, ofBytes_of_malformed path l⟩, ⟨?_, ofBytes_of_openable path l⟩, fun s hs => ?_⟩
  -- an opening that ends in one of the ways is that of a file of the kind
  · rintro ⟨cause, h⟩
    rw [h] at hends
    cases hends with
    | unsupported file => exact file
  · rintro ⟨name, off, n, size, h⟩
    rw [h] at hends
    cases hends with
    | truncated file => exact file
  · obtain ⟨name, off, n, herror⟩ := ofBytes_of_truncated path l h
    exact ⟨name, off, n, d.size, herror⟩
  · rintro ⟨cause, h⟩
    rw [h] at hends
    cases hends with
    | malformed file => exact file
  · rintro ⟨s, h⟩
    rw [h] at hends
    cases hends with
    | opened file => exact file
  · obtain ⟨header, layout, hheader, hlayout, rfl⟩ := ofBytes_eq_ok hs
    obtain ⟨hsize, hmagic, hclass, horder, rfl⟩ := Elf.Header.decode_eq_ok_iff.1 hheader
    refine ⟨⟨hsize, hmagic, hclass, horder⟩, d.toNat_le_eight 24, hlayout, fun name =>
      ⟨(Region.index_getElem? _ name).symm, ?_, fun r => ?_⟩⟩
    · simp [region?, List.find?_eq_none]
    · simp [region?, List.find?_eq_some_iff_append]

end Session

end FunctionBounds
