import FunctionBounds.Proofs.Session.Opening
import Std.Data.String.ToNat

/-!
# Extracted segments

What is extracted from a file without a table of sections, in terms of the numbers that stand in the
file.

- **The table** (`SegmentTable.Kept`, `SegmentTable.region`): the entries that become regions, and
  the region of each, which is named after its index in the table.
- **Two cuts** (`takeWhile_range`, `SegmentTable.ofSegments_result`): the end of the table at the
  first entry outside the file and the choice among the entries before it are one choice of indices.
- **Names** (`SegmentTable.region_name_inj`, `SegmentTable.find?_regions`): no two regions share a
  name, so each is found by its own.
- **Extraction** (`Layout.extract_segments`): only entries that are too small are an error.
-/

namespace FunctionBounds

/-- What is taken of a range up to the first number that fails are the numbers up to which none
fails. -/
theorem takeWhile_range' (p : Nat → Bool) (start n : Nat) :
    (List.range' start n).takeWhile p =
      (List.range' start n).filter fun i => decide (∀ j ≤ i, start ≤ j → p j) := by
  induction n generalizing start with
  | zero => rfl
  | succ n ih =>
    rw [List.range'_succ, List.takeWhile_cons]
    by_cases hp : p start
    · have hstart : ∀ j ≤ start, start ≤ j → p j := fun j hj hj' => Nat.le_antisymm hj hj' ▸ hp
      have htail : ∀ i ∈ List.range' (start + 1) n,
          decide (∀ j ≤ i, start + 1 ≤ j → p j) = decide (∀ j ≤ i, start ≤ j → p j) := by
        intro i _
        refine decide_eq_decide.2 ⟨fun h j hj hj' => ?_, fun h j hj hj' => h j hj (by omega)⟩
        rcases Nat.eq_or_lt_of_le hj' with rfl | hlt
        · exact hp
        · exact h j hj hlt
      rw [if_pos hp, List.filter_cons_of_pos (by simpa using hstart), ih, List.filter_congr htail]
    · rw [if_neg hp, eq_comm, List.filter_eq_nil_iff]
      intro i hi hall
      have hle : start ≤ i := by
        rcases List.mem_cons.1 hi with rfl | hi
        · exact Nat.le_refl _
        · have := (List.mem_range'_1.1 hi).1
          omega
      exact hp (of_decide_eq_true hall start hle (Nat.le_refl _))

theorem takeWhile_range (p : Nat → Bool) (n : Nat) :
    (List.range n).takeWhile p = (List.range n).filter fun i => decide (∀ j ≤ i, p j) := by
  simpa only [List.range_eq_range', Nat.zero_le, forall_const] using takeWhile_range' p 0 n

namespace SegmentTable

open SegmentHeader (offsetOf)

variable (h : Elf.Header) (d : Bytes)

/-! The numbers of entry `i`, as they stand in the file. -/

def type (i : Nat) : Nat := d.le (offsetOf h i) 4
def flags (i : Nat) : Nat := d.le (offsetOf h i + 4) 4
def offset (i : Nat) : Nat := d.le (offsetOf h i + 8) 8
def address (i : Nat) : Nat := d.le (offsetOf h i + 16) 8
def fileSize (i : Nat) : Nat := d.le (offsetOf h i + 32) 8
def memorySize (i : Nat) : Nat := d.le (offsetOf h i + 40) 8

/-- Entry `i` and those before it lie inside the file. It is loaded, and it has octets, all of which
lie inside the file. -/
structure Kept (i : Nat) : Prop where
  index : i < h.segmentCount.toNat
  entries : ∀ j ≤ i, offsetOf h j + 56 ≤ d.size
  loaded : type h d i = 1
  nonempty : fileSize h d i ≠ 0
  fits : offset h d i + fileSize h d i ≤ d.size

theorem kept_iff (i : Nat) :
    Kept h d i ↔ i < h.segmentCount.toNat ∧ (∀ j ≤ i, offsetOf h j + 56 ≤ d.size) ∧
      type h d i = 1 ∧ fileSize h d i ≠ 0 ∧ offset h d i + fileSize h d i ≤ d.size :=
  ⟨fun ⟨h₁, h₂, h₃, h₄, h₅⟩ => ⟨h₁, h₂, h₃, h₄, h₅⟩,
    fun ⟨h₁, h₂, h₃, h₄, h₅⟩ => ⟨h₁, h₂, h₃, h₄, h₅⟩⟩

instance (i : Nat) : Decidable (Kept h d i) := decidable_of_iff' _ (kept_iff h d i)

/-- The indices of the entries that become regions. -/
def kept : List Nat := (List.range h.segmentCount.toNat).filter (Kept h d ·)

theorem mem_kept {i : Nat} : i ∈ kept h d ↔ Kept h d i := by
  simp only [kept, List.mem_filter, List.mem_range, decide_eq_true_eq, and_iff_right_iff_imp]
  exact Kept.index

/-- The region of entry `i`. -/
def region (i : Nat) : Region where
  name := s!".segment_{i}"
  virtualAddress := address h d i
  size := memorySize h d i
  fileOffset := offset h d i
  flags := flags h d i
  kind := .segment
  raw := d.extract (offset h d i) (offset h d i + fileSize h d i)

/-! ## Two cuts -/

open SegmentHeader (decode indices readTable load)

theorem readTable_result (hstride : 56 ≤ SegmentHeader.stride h) :
    (readTable h d).result = .ok ((indices h d).map fun i => (i, decode d (offsetOf h i))) := by
  have hlarge : ¬SegmentHeader.stride h < SegmentHeader.entrySize := Nat.not_lt.2 hstride
  rw [readTable, if_neg hlarge]
  dsimp only
  split <;> rfl

theorem ofSegments_of_stride_lt (hstride : SegmentHeader.stride h < 56) :
    (Region.ofSegments h d).result =
      .error (.malformed (.segmentEntrySize (SegmentHeader.stride h))) := by
  have htable : readTable h d =
      .of (.error (.malformed (.segmentEntrySize (SegmentHeader.stride h)))) := if_pos hstride
  simp only [Region.ofSegments, Noted.result_bind, htable, Noted.result_of]
  rfl

theorem decode_type_eq_load (i : Nat) :
    ((decode d (offsetOf h i)).type == load) = decide (type h d i = 1) := by
  rw [Bool.eq_iff_iff, beq_iff_eq, decide_eq_true_iff, ← UInt32.toNat_inj,
    show (decode d (offsetOf h i)).type.toNat = type h d i from d.toNat_le_four _]
  rfl

theorem decode_isReadable (i : Nat) :
    (decode d (offsetOf h i)).isReadable d =
      decide (fileSize h d i ≠ 0 ∧ offset h d i + fileSize h d i ≤ d.size) := by
  rw [Bool.eq_iff_iff, decide_eq_true_iff, SegmentHeader.isReadable, Bool.and_eq_true, bne_iff_ne,
    decide_eq_true_iff, ne_eq, ← UInt64.toNat_inj,
    show (decode d (offsetOf h i)).fileSize.toNat = fileSize h d i from d.toNat_le_eight _,
    show (decode d (offsetOf h i)).offset.toNat = offset h d i from d.toNat_le_eight _]
  rfl

theorem decode_toRegion (i : Nat) : (decode d (offsetOf h i)).toRegion d i = region h d i := by
  simp only [SegmentHeader.toRegion, decode, Bytes.toNat_le_four, Bytes.toNat_le_eight]
  rfl

theorem ofSegments_result (hstride : 56 ≤ SegmentHeader.stride h) :
    (Region.ofSegments h d).result = .ok ((kept h d).map (region h d)) := by
  simp only [Region.ofSegments, Noted.result_bind, readTable_result h d hstride, Except.bind,
    List.partition_eq_filter_filter, Noted.result_noteAll, Noted.result_note, Noted.result_pure]
  -- the choices among the entries, as choices of their indices
  simp only [indices, takeWhile_range, List.filter_map, List.filter_filter, List.map_map,
    Function.comp_def, decode_type_eq_load, decode_isReadable, decode_toRegion]
  refine congrArg (fun is => Except.ok (is.map (region h d))) (List.filter_congr fun i hi => ?_)
  rw [Bool.eq_iff_iff]
  simp only [Bool.and_eq_true, decide_eq_true_iff, kept_iff, List.mem_range.1 hi, true_and]
  exact ⟨fun ⟨⟨hne, hfits⟩, hload, hentries⟩ => ⟨hentries, hload, hne, hfits⟩,
    fun ⟨hentries, hload, hne, hfits⟩ => ⟨⟨hne, hfits⟩, hload, hentries⟩⟩

/-! ## Names -/

theorem region_name_inj {i j : Nat} : (region h d i).name = (region h d j).name ↔ i = j :=
  (String.append_right_inj ".segment_").trans Nat.repr_inj

theorem find?_regions (i : Nat) :
    ((kept h d).map (region h d)).find? (·.name == s!".segment_{i}") =
      if Kept h d i then some (region h d i) else none := by
  have hname (j : Nat) : ((region h d j).name == s!".segment_{i}") = (j == i) := by
    rw [Bool.eq_iff_iff, beq_iff_eq, beq_iff_eq]
    exact region_name_inj h d
  simp only [List.find?_map, Function.comp_def, hname]
  cases hfound : (kept h d).find? (· == i) with
  | none =>
    have hnot : ¬Kept h d i := fun hi => by
      simpa using List.find?_eq_none.1 hfound i ((mem_kept h d).2 hi)
    rw [if_neg hnot]
    rfl
  | some j =>
    have hj : j = i := by simpa using List.find?_some hfound
    have hkept := (mem_kept h d).1 (List.mem_of_find?_eq_some hfound)
    rw [if_pos (hj ▸ hkept), hj]
    rfl

theorem nodup_names : ((kept h d).map fun i => (region h d i).name).Nodup :=
  List.pairwise_map.2 ((List.nodup_range.filter _).imp fun hne => mt (region_name_inj h d).1 hne)

/-! ## Extraction -/

/-- The header gives a size of entries that is too small. -/
def TooSmall : Prop := 0 < h.segmentEntrySize.toNat ∧ h.segmentEntrySize.toNat < 56

instance : Decidable (TooSmall h) := inferInstanceAs (Decidable (_ ∧ _))

variable {h} in
theorem TooSmall.stride_eq (hsmall : TooSmall h) :
    SegmentHeader.stride h = h.segmentEntrySize.toNat :=
  if_neg fun hzero => by simp [TooSmall, hzero] at hsmall

variable {h} in
theorem le_stride (hlarge : ¬TooSmall h) : 56 ≤ SegmentHeader.stride h := by
  unfold SegmentHeader.stride
  split
  · exact Nat.le_refl _
  · next hne =>
    have hpos : h.segmentEntrySize.toNat ≠ 0 := fun hzero => hne (UInt16.toNat_inj.1 hzero)
    unfold TooSmall at hlarge
    omega

end SegmentTable

open SegmentTable

theorem Layout.extract_result_of_hasSegments {h : Elf.Header} (hsections : h.hasSections = false)
    (hsegments : h.hasSegments) (d : Bytes) :
    (extract h d).result = (Region.ofSegments h d).result.bind fun rs => .ok ⟨rs, true⟩ := by
  rw [extract, if_neg (by simp [hsections]), if_pos hsegments]
  simp only [Noted.result_bind, Noted.result_note, Noted.result_pure]
  rfl

/-- A file without a table of sections but with one of segments has a layout unless the header says
that the entries are too small, which is the only error. The regions are those of the entries that
are kept, in their order, each with as many octets as its entry says. No two of them share a name,
and a session of the file finds each by its name and no others. -/
theorem Layout.extract_segments {h : Elf.Header} {d : Bytes} (hdecode : Elf.Header.decode d = .ok h)
    (hsections : h.sectionCount = 0 ∨ h.sectionOffset = 0) (hcount : h.segmentCount ≠ 0)
    (hoffset : h.segmentOffset ≠ 0) :
    (∀ e, (extract h d).result = .error e ↔
      TooSmall h ∧ e = .malformed (.segmentEntrySize h.segmentEntrySize.toNat)) ∧
    (¬TooSmall h → (extract h d).result = .ok ⟨(kept h d).map (region h d), true⟩) ∧
    (∀ i, Kept h d i → (region h d i).raw.size = fileSize h d i) ∧
    ((kept h d).map fun i => (region h d i).name).Nodup ∧
    ∀ path l, ¬TooSmall h → ∃ s, (Session.ofBytes d path l).result = .ok s ∧ s.stripped = true ∧
      s.regions = (kept h d).map (region h d) ∧
      ∀ i, s.region? s!".segment_{i}" = if Kept h d i then some (region h d i) else none := by
  have hextract := extract_result_of_hasSegments (h := h)
    (by rcases hsections with hnone | hnone <;> simp [Elf.Header.hasSections, hnone])
    (by simp [Elf.Header.hasSegments, hcount, hoffset]) d
  have hlayout (hlarge : ¬TooSmall h) :
      (extract h d).result = .ok ⟨(kept h d).map (region h d), true⟩ := by
    rw [hextract, ofSegments_result h d (le_stride hlarge)]
    rfl
  have hopen (path : String) (l : Text.DigitLimit) (hlarge : ¬TooSmall h) :
      (Session.ofBytes d path l).result = .ok
        { path, header := h, regions := (kept h d).map (region h d), stripped := true,
          digitLimit := l } := by
    rw [Session.ofBytes_of_decode hdecode, hlayout hlarge]
    rfl
  refine ⟨fun e => ?_, hlayout, fun i hi => Bytes.size_slice hi.fits, nodup_names h d,
    fun path l hlarge => ⟨_, hopen path l hlarge, rfl, rfl, find?_regions h d⟩⟩
  by_cases hsmall : TooSmall h
  · rw [hextract, ofSegments_of_stride_lt h d (hsmall.stride_eq ▸ hsmall.2), hsmall.stride_eq]
    exact ⟨fun he => by cases he; exact ⟨hsmall, rfl⟩, fun he => by rw [he.2]; rfl⟩
  · rw [hlayout hsmall]
    exact ⟨nofun, fun he => (hsmall he.1).elim⟩

/-- The header of a program that starts at `0x401000`, followed by a table of four segments: one
that is not loaded, one that ends after the largest offset, one that becomes a region, and one whose
entry lies outside the file. -/
def segmentedImage : Bytes :=
  List.toArray (
    [0x7f, 0x45, 0x4c, 0x46, 2, 1, 1, 0, 0, 0, 0, 0, 0, 0, 0, 0,
      2, 0, 62, 0, 1, 0, 0, 0, 0x00, 0x10, 0x40, 0, 0, 0, 0, 0,
      64, 0, 0, 0, 0, 0, 0, 0, 0, 0, 0, 0, 0, 0, 0, 0,
      0, 0, 0, 0, 64, 0, 0, 0, 4, 0, 0, 0, 0, 0, 0, 0] ++
    [2, 0, 0, 0, 4, 0, 0, 0] ++ List.replicate 24 0 ++ [16, 0, 0, 0, 0, 0, 0, 0] ++
      List.replicate 16 0 ++
    [1, 0, 0, 0, 6, 0, 0, 0] ++ List.replicate 8 0xff ++ List.replicate 16 0 ++
      [2, 0, 0, 0, 0, 0, 0, 0] ++ List.replicate 16 0 ++
    [1, 0, 0, 0, 5, 0, 0, 0, 1, 0, 0, 0, 0, 0, 0, 0, 0x00, 0x10, 0x40, 0, 0, 0, 0, 0,
      0, 0, 0, 0, 0, 0, 0, 0, 3, 0, 0, 0, 0, 0, 0, 0, 0, 0x10, 0, 0, 0, 0, 0, 0] ++
      List.replicate 8 0)

theorem Layout.extract_segments_segmentedImage :
    let h := Elf.Header.fields segmentedImage
    let text : Region :=
      { name := ".segment_2", virtualAddress := 0x401000, size := 0x1000, fileOffset := 1,
        flags := 5, kind := .segment, raw := #[0x45, 0x4c, 0x46] }
    Elf.Header.decode segmentedImage = .ok h ∧ (h.sectionCount = 0 ∨ h.sectionOffset = 0) ∧
      h.segmentCount ≠ 0 ∧ h.segmentOffset ≠ 0 ∧
      (extract h segmentedImage).result = .ok ⟨[text], true⟩ ∧
      ∃ s, (Session.ofBytes segmentedImage "a.out").result = .ok s ∧
        s.region? ".segment_2" = some text ∧ s.region? ".segment_1" = none := by
  intro h text
  have hdecode : Elf.Header.decode segmentedImage = .ok h :=
    Elf.Header.decode_eq_ok_iff.2 (by decide +kernel)
  have hcount : h.segmentCount ≠ 0 := by decide +kernel
  have hoffset : h.segmentOffset ≠ 0 := by decide +kernel
  have hnone : h.sectionCount = 0 ∨ h.sectionOffset = 0 := by decide +kernel
  have hlarge : ¬TooSmall h := by decide +kernel
  have hregions : (kept h segmentedImage).map (region h segmentedImage) = [text] := by
    decide +kernel
  obtain ⟨-, hlayout, -, -, hopen⟩ := extract_segments hdecode hnone hcount hoffset
  obtain ⟨s, hs, -, -, hfind⟩ := hopen "a.out" .standard hlarge
  refine ⟨hdecode, hnone, hcount, hoffset, hregions ▸ hlayout hlarge, s, hs, ?_, ?_⟩
  · exact (hfind 2).trans (by decide +kernel)
  · exact (hfind 1).trans (by decide +kernel)

end FunctionBounds
