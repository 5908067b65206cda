import FunctionBounds.Proofs.Json
import FunctionBounds.Proofs.Region.Sections
import FunctionBounds.Proofs.Region.Segments
import FunctionBounds.Proofs.Session.Opening

/-!
# Regions of opened sessions

- **Entries** (`Session.regions_of_ofBytes`): the regions of a session are those of the entries of one
  of the two tables of its image.
- **Words** (`Region.IsNarrow`, `Session.narrow_of_ofBytes`): the numbers of such a region, and the
  number of its octets, have at most 64 bits, so that all of them can be written in decimal.
-/

namespace FunctionBounds

/-- A number of at most 64 bits. -/
def IsWord (n : Int) : Prop := ∃ w < 2 ^ 64, n = (w : Nat)

theorem IsWord.isShort {n : Int} (h : IsWord n) : IsShort n := by
  obtain ⟨w, hw, rfl⟩ := h
  exact Text.DigitLimit.admits_of_lt (k := 20) (Nat.lt_trans hw (by decide)) (by decide)

theorem Bytes.isWord_le (d : Bytes) (off : Nat) {n : Nat} (h : n ≤ 8) : IsWord (d.le off n) :=
  ⟨_, Nat.lt_of_lt_of_le (d.le_lt_two_pow off n) (Nat.pow_le_pow_right (by decide) (by omega)), rfl⟩

/-- The numbers of a region have at most 64 bits. -/
structure Region.IsNarrow (r : Region) : Prop where
  virtualAddress : IsWord r.virtualAddress
  size : IsWord r.size
  fileOffset : IsWord r.fileOffset
  flags : IsWord r.flags
  raw : IsWord r.raw.size

theorem Bytes.isWord_size_extract (d : Bytes) (off : Nat) {n : Nat} (h : IsWord n) :
    IsWord (d.extract off (off + n)).size := by
  obtain ⟨w, hw, hn⟩ := h
  refine ⟨_, ?_, rfl⟩
  rw [Array.size_extract]
  omega

theorem SectionTable.isNarrow_region (h : Elf.Header) (d : Bytes) (i : Nat) :
    (region h d i).IsNarrow where
  virtualAddress := d.isWord_le _ (Nat.le_refl 8)
  size := d.isWord_le _ (Nat.le_refl 8)
  fileOffset := d.isWord_le _ (Nat.le_refl 8)
  flags := d.isWord_le _ (Nat.le_refl 8)
  raw := by
    simp only [region]
    split
    · exact ⟨0, by decide, rfl⟩
    · exact d.isWord_size_extract _ (d.isWord_le _ (Nat.le_refl 8))

theorem SegmentTable.isNarrow_region (h : Elf.Header) (d : Bytes) (i : Nat) :
    (region h d i).IsNarrow where
  virtualAddress := d.isWord_le _ (Nat.le_refl 8)
  size := d.isWord_le _ (Nat.le_refl 8)
  fileOffset := d.isWord_le _ (Nat.le_refl 8)
  flags := d.isWord_le _ (by decide)
  raw := d.isWord_size_extract _ (d.isWord_le _ (Nat.le_refl 8))

namespace Session

variable {d : Bytes} {path : String} {l : Text.DigitLimit} {s : Session}

/-- The regions are those of sections, or else those of segments. -/
theorem regions_of_ofBytes (hopen : (ofBytes d path l).result = .ok s) :
    ∃ is : List Nat,
      s.stripped = false ∧ s.regions = is.map (SectionTable.region s.header d) ∨
      s.stripped = true ∧ s.regions = is.map (SegmentTable.region s.header d) := by
  obtain ⟨header, layout, -, hlayout, rfl⟩ := ofBytes_eq_ok hopen
  cases hsections : header.hasSections with
  | true =>
    rw [Layout.extract_result_of_hasSections hsections] at hlayout
    obtain ⟨rs, hregions, hlayout⟩ := bind_eq_ok_iff.1 hlayout
    cases hlayout
    by_cases hstride : 64 ≤ SectionHeader.stride header
    · have hdemands := SectionTable.ofSections_demands header d hstride
      by_cases hbounds : SectionTable.InBounds header d
      · rw [hdemands.ok hbounds] at hregions
        cases hregions
        exact ⟨_, .inl ⟨rfl, rfl⟩⟩
      · obtain ⟨_, _, _, -, herror⟩ := hdemands.error hbounds
        rw [herror] at hregions
        cases hregions
    · rw [SectionTable.ofSections_of_stride_lt header d (by omega)] at hregions
      cases hregions
  | false =>
    cases hsegments : header.hasSegments with
    | false =>
      rw [Layout.extract, if_neg (by simp [hsections]), if_neg (by simp [hsegments])] at hlayout
      cases hlayout
    | true =>
      rw [Layout.extract_result_of_hasSegments hsections hsegments] at hlayout
      obtain ⟨rs, hregions, hlayout⟩ := bind_eq_ok_iff.1 hlayout
      cases hlayout
      by_cases hstride : 56 ≤ SegmentHeader.stride header
      · rw [SegmentTable.ofSegments_result header d hstride] at hregions
        cases hregions
        exact ⟨_, .inr ⟨rfl, rfl⟩⟩
      · rw [SegmentTable.ofSegments_of_stride_lt header d (by omega)] at hregions
        cases hregions

theorem narrow_of_ofBytes (hopen : (ofBytes d path l).result = .ok s) :
    ∀ r ∈ s.regions, r.IsNarrow := by
  obtain ⟨is, ⟨-, hregions⟩ | ⟨-, hregions⟩⟩ := regions_of_ofBytes hopen
  · rw [hregions]
    exact List.forall_mem_map.2 fun i _ => SectionTable.isNarrow_region s.header d i
  · rw [hregions]
    exact List.forall_mem_map.2 fun i _ => SegmentTable.isNarrow_region s.header d i

theorem isWord_entryPoint (s : Session) : IsWord s.entryPoint :=
  ⟨_, s.header.entry.toNat_lt, rfl⟩

end Session

end FunctionBounds
