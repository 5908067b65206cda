import FunctionBounds.Proofs.Container.Elf
import FunctionBounds.Proofs.Steps
import FunctionBounds.Proofs.StringTable
import FunctionBounds.Region.Layout

/-!
# Extracted sections

What is extracted from a file with a table of sections, in terms of the numbers that stand in the
file.

- **Passes** (`Demands d P x a`): the pass `x` over the file `d` gives `a` if `P` holds, and reports
  a range that reaches past the end of the file if it does not. Passes one after another, or one for
  each entry of a table, demand all that each of them does.
- **The table** (`SectionTable.InBounds`, `SectionTable.region`): when a table and what it refers to
  lie inside the file, and the region of an entry. Each of the three passes demands its part of the
  former and gives its part of the latter.
- **Extraction** (`Layout.extract_sections`): the regions of a table in bounds are those of its
  entries. Any other table is an error, which says whether the entries are too small.
-/

namespace FunctionBounds

/-! ## Passes over a file -/

/-- The pass gives `a` if `P` holds, and otherwise reports a range that reaches past the end of the
file. -/
structure Demands {α : Type} (d : Bytes) (P : Prop) (x : Except ContainerError α) (a : α) :
    Prop where
  ok : P → x = .ok a
  error : ¬P → ∃ name off n, d.size < off + n ∧ x = .error (.truncated name off n d.size)

namespace Demands

variable {α β : Type} {d : Bytes} {P Q : Prop} {a : α} {b : β}

theorem nothing (d : Bytes) (a : α) : Demands d True (.ok a) a :=
  ⟨fun _ => rfl, fun h => (h ⟨⟩).elim⟩

theorem of_iff {x : Except ContainerError α} (h : Demands d P x a) (hPQ : P ↔ Q) :
    Demands d Q x a :=
  ⟨fun hQ => h.ok (hPQ.2 hQ), fun hQ => h.error (mt hPQ.1 hQ)⟩

/-- What is demanded only on a condition that holds. -/
theorem imp_of {x : Except ContainerError α} (h : Demands d P x a) (hQ : Q) :
    Demands d (Q → P) x a :=
  h.of_iff ⟨fun hP _ => hP, fun hQP => hQP hQ⟩

/-- What is demanded only on a condition that does not hold is nothing. -/
theorem imp_of_not (d : Bytes) (P : Prop) (a : α) (hQ : ¬Q) : Demands d (Q → P) (.ok a) a :=
  (nothing d a).of_iff ⟨fun _ hQ' => (hQ hQ').elim, fun _ => ⟨⟩⟩

/-- The second pass matters only if the first one succeeds. -/
theorem bind {x : Except ContainerError α} {f : α → Except ContainerError β}
    (hx : Demands d P x a) (hf : P → Demands d Q (f a) b) : Demands d (P ∧ Q) (x.bind f) b where
  ok h := by rw [hx.ok h.1]; exact (hf h.1).ok h.2
  error h := by
    by_cases hP : P
    · rw [hx.ok hP]
      exact (hf hP).error fun hQ => h ⟨hP, hQ⟩
    · obtain ⟨name, off, n, hn, herror⟩ := hx.error hP
      exact ⟨name, off, n, hn, by rw [herror]; rfl⟩

theorem map {x : Except ContainerError α} (hx : Demands d P x a) (f : α → β) :
    Demands d P (x.bind fun a => .ok (f a)) (f a) :=
  (hx.bind fun _ => nothing d (f a)).of_iff (and_iff_left trivial)

theorem mapM {f : β → Except ContainerError α} {g : β → α} {p : β → Prop} {xs : List β}
    (h : ∀ x ∈ xs, Demands d (p x) (f x) (g x)) :
    Demands d (∀ x ∈ xs, p x) (xs.mapM f) (xs.map g) := by
  induction xs with
  | nil => exact (nothing d []).of_iff (by simp)
  | cons x xs ih =>
    have htail := ih fun y hy => h y (List.mem_cons_of_mem x hy)
    rw [List.mapM_cons]
    exact ((h x List.mem_cons_self).bind fun _ => htail.map (g x :: ·)).of_iff
      List.forall_mem_cons.symm

end Demands

/-! ## The numbers of a table -/

namespace SectionTable

open SectionHeader (offsetOf stride)

variable (h : Elf.Header) (d : Bytes)

/-! The numbers of entry `i`, as they stand in the file. -/

def nameOffset (i : Nat) : Nat := d.le (offsetOf h i) 4
def type (i : Nat) : Nat := d.le (offsetOf h i + 4) 4
def flags (i : Nat) : Nat := d.le (offsetOf h i + 8) 8
def address (i : Nat) : Nat := d.le (offsetOf h i + 16) 8
def offset (i : Nat) : Nat := d.le (offsetOf h i + 24) 8
def size (i : Nat) : Nat := d.le (offsetOf h i + 32) 8

/-- Whether the header tells which section holds the names. -/
def HasNames : Prop := 0 < h.nameSection.toNat ∧ h.nameSection.toNat < h.sectionCount.toNat

instance : Decidable (HasNames h) := inferInstanceAs (Decidable (_ ∧ _))

/-- The octets that entry `i` refers to. -/
def octets (i : Nat) : Bytes := d.extract (offset h d i) (offset h d i + size h d i)

/-- The octets of the names, none if there is no section for them. -/
def names : Bytes := if HasNames h then octets h d h.nameSection.toNat else #[]

/-- The region of entry `i`. A section of type 8 has no octets in the file. -/
def region (i : Nat) : Region where
  name := StringTable.textAt (names h d) (nameOffset h d i)
  virtualAddress := address h d i
  size := size h d i
  fileOffset := offset h d i
  flags := flags h d i
  kind := .section
  raw := if type h d i = 8 then #[] else octets h d i

/-- What entry `i` refers to lies inside the file. -/
def Fits (i : Nat) : Prop := offset h d i + size h d i ≤ d.size

/-- The entries, the names and the sections lie inside the file. -/
structure InBounds : Prop where
  stride : 64 ≤ stride h
  entries : ∀ i < h.sectionCount.toNat, offsetOf h i + 64 ≤ d.size
  names : HasNames h → Fits h d h.nameSection.toNat
  sections : ∀ i < h.sectionCount.toNat, type h d i ≠ 8 → Fits h d i

theorem inBounds_iff :
    InBounds h d ↔ 64 ≤ SectionHeader.stride h ∧
      (∀ i < h.sectionCount.toNat, offsetOf h i + 64 ≤ d.size) ∧
      (HasNames h → Fits h d h.nameSection.toNat) ∧
      ∀ i < h.sectionCount.toNat, type h d i ≠ 8 → Fits h d i :=
  ⟨fun ⟨h₁, h₂, h₃, h₄⟩ => ⟨h₁, h₂, h₃, h₄⟩, fun ⟨h₁, h₂, h₃, h₄⟩ => ⟨h₁, h₂, h₃, h₄⟩⟩

instance (i : Nat) : Decidable (Fits h d i) := inferInstanceAs (Decidable (_ ≤ _))

instance : Decidable (InBounds h d) := decidable_of_iff' _ (inBounds_iff h d)

/-! ## The three passes -/

open SectionHeader (decode readEntry readSpan readTable readNames toRegion noBits)

theorem readEntry_demands (i : Nat) :
    Demands d (offsetOf h i + 64 ≤ d.size) (readEntry h d i) (decode d (offsetOf h i)) :=
  ⟨fun hi => if_pos hi, fun hi => ⟨_, _, 64, Nat.not_le.1 hi, if_neg hi⟩⟩

theorem readSpan_demands (name : String) (off n : Nat) :
    Demands d (off + n ≤ d.size) (readSpan d name off n) (d.extract off (off + n)) :=
  ⟨fun hn => if_pos hn, fun hn => ⟨_, _, _, Nat.not_le.1 hn, if_neg hn⟩⟩

@[simp] theorem decode_nameOffset (i : Nat) :
    (decode d (offsetOf h i)).nameOffset.toNat = nameOffset h d i := d.toNat_le_four _

@[simp] theorem decode_flags (i : Nat) : (decode d (offsetOf h i)).flags.toNat = flags h d i :=
  d.toNat_le_eight _

@[simp] theorem decode_address (i : Nat) :
    (decode d (offsetOf h i)).address.toNat = address h d i := d.toNat_le_eight _

@[simp] theorem decode_offset (i : Nat) : (decode d (offsetOf h i)).offset.toNat = offset h d i :=
  d.toNat_le_eight _

@[simp] theorem decode_size (i : Nat) : (decode d (offsetOf h i)).size.toNat = size h d i :=
  d.toNat_le_eight _

theorem decode_type_eq_noBits_iff (i : Nat) :
    (decode d (offsetOf h i)).type = noBits ↔ type h d i = 8 := by
  rw [← UInt32.toNat_inj, show (decode d (offsetOf h i)).type.toNat = type h d i from
    d.toNat_le_four _]
  rfl

/-- The entries, wherever they stand. -/
def entries : List SectionHeader :=
  (List.range h.sectionCount.toNat).map fun i => decode d (offsetOf h i)

theorem getElem?_entries (i : Nat) :
    (entries h d)[i]? =
      if i < h.sectionCount.toNat then some (decode d (offsetOf h i)) else none := by
  rw [entries, List.getElem?_map]
  split
  · next hi => rw [List.getElem?_range hi]; rfl
  · next hi => rw [List.getElem?_eq_none (by simpa using hi)]; rfl

theorem readTable_demands (hstride : 64 ≤ SectionHeader.stride h) :
    Demands d (∀ i < h.sectionCount.toNat, offsetOf h i + 64 ≤ d.size) (readTable h d)
      (entries h d) := by
  have hlarge : ¬SectionHeader.stride h < SectionHeader.entrySize := Nat.not_lt.2 hstride
  rw [readTable, if_neg hlarge]
  exact (Demands.mapM fun i _ => readEntry_demands h d i).of_iff
    (forall_congr' fun i => by rw [List.mem_range])

/-- The entry of the section that holds the names, if there is one. -/
theorem nameEntry_eq :
    (if h.nameSection.toNat = 0 then none else (entries h d)[h.nameSection.toNat]?) =
      if HasNames h then some (decode d (offsetOf h h.nameSection.toNat)) else none := by
  rw [getElem?_entries]
  by_cases hnames : HasNames h
  · rw [if_pos hnames, if_neg (Nat.ne_of_gt hnames.1), if_pos hnames.2]
  · rw [if_neg hnames]
    split
    · rfl
    · next hzero => exact if_neg fun hlt => hnames ⟨Nat.pos_of_ne_zero hzero, hlt⟩

theorem readNames_demands :
    Demands d (HasNames h → Fits h d h.nameSection.toNat)
      (readNames h d (entries h d)).result (names h d) := by
  simp only [readNames, nameEntry_eq, names]
  by_cases hnames : HasNames h
  · simp only [if_pos hnames, Noted.result_of, decode_offset, decode_size]
    exact (readSpan_demands d ".shstrtab" (offset h d _) (size h d _)).imp_of hnames
  · simp only [if_neg hnames]
    exact .imp_of_not d _ #[] hnames

theorem toRegion_demands (i : Nat) :
    Demands d (type h d i ≠ 8 → Fits h d i) (toRegion d (names h d) (decode d (offsetOf h i)))
      (region h d i) := by
  simp only [toRegion, SectionHeader.nameAt_natCast, decode_nameOffset, decode_flags,
    decode_address, decode_offset, decode_size]
  by_cases hnone : type h d i = 8
  · have hregion : region h d i = { region h d i with raw := #[] } := by
      simp only [region, if_pos hnone]
    rw [if_pos ((decode_type_eq_noBits_iff h d i).2 hnone), hregion]
    exact .imp_of_not d _ _ (not_not_intro hnone)
  · have hregion : region h d i = { region h d i with raw := octets h d i } := by
      simp only [region, if_neg hnone]
    rw [if_neg (mt (decode_type_eq_noBits_iff h d i).1 hnone), hregion]
    exact ((readSpan_demands d _ (offset h d i) (size h d i)).map _).imp_of hnone

theorem ofSections_demands (hstride : 64 ≤ SectionHeader.stride h) :
    Demands d (InBounds h d) (Region.ofSections h d).result
      ((List.range h.sectionCount.toNat).map (region h d)) := by
  have hregions : Demands d (∀ i < h.sectionCount.toNat, type h d i ≠ 8 → Fits h d i)
      ((entries h d).mapM (toRegion d (names h d)))
      ((List.range h.sectionCount.toNat).map (region h d)) := by
    rw [entries, List.mapM_map]
    exact (Demands.mapM fun i _ => toRegion_demands h d i).of_iff
      (forall_congr' fun i => by rw [List.mem_range])
  simp only [Region.ofSections, Noted.result_bind, Noted.result_of, Noted.result_note,
    Noted.result_pure]
  exact ((readTable_demands h d hstride).bind fun _ => (readNames_demands h d).bind fun _ =>
    hregions.map id).of_iff ((inBounds_iff h d).trans (and_iff_right hstride)).symm

theorem ofSections_of_stride_lt (hstride : SectionHeader.stride h < 64) :
    (Region.ofSections h d).result =
      .error (.malformed (.sectionEntrySize (SectionHeader.stride h))) := by
  have htable : readTable h d = .error (.malformed (.sectionEntrySize (SectionHeader.stride h))) :=
    if_pos hstride
  simp only [Region.ofSections, Noted.result_bind, Noted.result_of, htable]
  rfl

end SectionTable

open SectionTable

theorem Layout.extract_result_of_hasSections {h : Elf.Header} (hsections : h.hasSections)
    (d : Bytes) :
    (extract h d).result = (Region.ofSections h d).result.bind fun rs => .ok ⟨rs, false⟩ := by
  rw [extract, if_pos hsections]
  simp only [Noted.result_bind, Noted.result_note, Noted.result_pure]
  rfl

/-- A file with a table of sections has a layout if and only if the table and what it refers to
lie inside the file. The layout is that of the entries, in their order. The entries are too small
if and only if the headers are said to be wrong, and every other error names a range that reaches
past the end of the file. -/
theorem Layout.extract_sections (h : Elf.Header) (d : Bytes) (hcount : h.sectionCount ≠ 0)
    (hoffset : h.sectionOffset ≠ 0) :
    ((∃ layout, (extract h d).result = .ok layout) ↔ InBounds h d) ∧
    (∀ layout, (extract h d).result = .ok layout →
      layout.stripped = false ∧
        layout.regions = (List.range h.sectionCount.toNat).map (region h d)) ∧
    ((∃ cause, (extract h d).result = .error (.malformed cause)) ↔ SectionHeader.stride h < 64) ∧
    (∀ e, (extract h d).result = .error e → 64 ≤ SectionHeader.stride h →
      ∃ name off n, d.size < off + n ∧ e = .truncated name off n d.size) := by
  have hsections : h.hasSections := by simp [Elf.Header.hasSections, hcount, hoffset]
  rw [extract_result_of_hasSections hsections]
  by_cases hstride : SectionHeader.stride h < 64
  · have hbounds : ¬InBounds h d := fun hb => absurd hb.stride (Nat.not_le.2 hstride)
    rw [ofSections_of_stride_lt h d hstride]
    exact ⟨⟨nofun, fun hb => (hbounds hb).elim⟩, nofun, ⟨fun _ => hstride, fun _ => ⟨_, rfl⟩⟩,
      fun _ _ hlarge => absurd hstride (Nat.not_lt.2 hlarge)⟩
  · have hlayout := (ofSections_demands h d (Nat.not_lt.1 hstride)).map (Layout.mk · false)
    by_cases hbounds : InBounds h d
    · rw [hlayout.ok hbounds]
      refine ⟨⟨fun _ => hbounds, fun _ => ⟨_, rfl⟩⟩, ?_, ⟨nofun, fun hlt => (hstride hlt).elim⟩,
        nofun⟩
      intro layout hok
      cases hok
      exact ⟨rfl, rfl⟩
    · obtain ⟨name, off, n, hn, herror⟩ := hlayout.error hbounds
      rw [herror]
      refine ⟨⟨nofun, fun hb => (hbounds hb).elim⟩, nofun,
        ⟨nofun, fun hlt => (hstride hlt).elim⟩, ?_⟩
      intro e he _
      cases he
      exact ⟨name, off, n, hn, rfl⟩

/-- A file with three sections, whose entries stand 66 octets apart. The octets of a name are no
UTF-8, and the section of that name has a size but no octets in the file. -/
def spacedImage : Bytes :=
  List.toArray (
    [0x7f, 0x45, 0x4c, 0x46, 2, 1, 1, 0, 0, 0, 0, 0, 0, 0, 0, 0,
      2, 0, 62, 0, 1, 0, 0, 0, 0x00, 0x10, 0x40, 0, 0, 0, 0, 0,
      0, 0, 0, 0, 0, 0, 0, 0, 70, 0, 0, 0, 0, 0, 0, 0,
      0, 0, 0, 0, 64, 0, 0, 0, 0, 0, 66, 0, 3, 0, 1, 0] ++
    -- the names
    [0, 0x61, 0, 0x62, 0xff, 0] ++
    [1, 0, 0, 0, 1, 0, 0, 0, 6, 0, 0, 0, 0, 0, 0, 0, 0x00, 0x10, 0x40, 0, 0, 0, 0, 0,
      66, 0, 0, 0, 0, 0, 0, 0, 2, 0, 0, 0, 0, 0, 0, 0] ++ List.replicate 26 0 ++
    [0, 1, 0, 0, 3, 0, 0, 0, 0, 0, 0, 0, 0, 0, 0, 0, 0, 0, 0, 0, 0, 0, 0, 0,
      64, 0, 0, 0, 0, 0, 0, 0, 6, 0, 0, 0, 0, 0, 0, 0] ++ List.replicate 26 0 ++
    [3, 0, 0, 0, 8, 0, 0, 0, 3, 0, 0, 0, 0, 0, 0, 0, 0x00, 0x20, 0x40, 0, 0, 0, 0, 0,
      0, 0, 0, 0, 0, 0, 0, 0x80, 0, 0, 0, 0, 0, 0, 0, 0x80] ++ List.replicate 24 0)

theorem Layout.extract_sections_spacedImage :
    Elf.Header.decode spacedImage = .ok (Elf.Header.fields spacedImage) ∧
    (Elf.Header.fields spacedImage).sectionCount ≠ 0 ∧
    (Elf.Header.fields spacedImage).sectionOffset ≠ 0 ∧
    ∃ layout, (extract (Elf.Header.fields spacedImage) spacedImage).result = .ok layout ∧
      layout.stripped = false ∧
      layout.regions =
        [{ name := "a", virtualAddress := 0x401000, size := 2, fileOffset := 66, flags := 6,
           raw := #[0, 0x62] },
         { name := "", size := 6, fileOffset := 64, raw := #[0, 0x61, 0, 0x62, 0xff, 0] },
         { name := "b\uFFFD", virtualAddress := 0x402000, size := 0x8000000000000000,
           fileOffset := 0x8000000000000000, flags := 3, raw := #[] }] := by
  have hcount : (Elf.Header.fields spacedImage).sectionCount ≠ 0 := by decide +kernel
  have hoffset : (Elf.Header.fields spacedImage).sectionOffset ≠ 0 := by decide +kernel
  have hdecode : Elf.Header.decode spacedImage = .ok (Elf.Header.fields spacedImage) :=
    Elf.Header.decode_eq_ok_iff.2 (by decide +kernel)
  have hextract := extract_sections (Elf.Header.fields spacedImage) spacedImage hcount hoffset
  obtain ⟨layout, hlayout⟩ := hextract.1.2 (by decide +kernel)
  have hregions := hextract.2.1 layout hlayout
  exact ⟨hdecode, hcount, hoffset, layout, hlayout, hregions.1,
    hregions.2.trans (by decide +kernel)⟩

end FunctionBounds
