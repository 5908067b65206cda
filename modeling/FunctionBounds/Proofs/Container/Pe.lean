import FunctionBounds.Proofs.Checked.Opening
import FunctionBounds.Proofs.Container.Elf

/-!
# Decoded PE headers

- **Files** (`Pe.WellFormed`): what the octets of a file have to be for it to have a PE header. The
  signature may stand anywhere, the DOS header included.
- **Headers** (`Pe.Header.Describes`): the numbers of a header stand at fixed distances from the
  signature.
- **Decoding** (`Pe.Header.decode_eq_ok_iff`, `Pe.Header.describes_fields`): the well-formed files
  are those that a header is decoded from, and its numbers are those of the file. Any other file is
  malformed (`Pe.Header.decode_cases`).

`Pe.Header.decode_exact` is about every file.
-/

namespace FunctionBounds.Pe

/-- The offset of the signature. -/
def signatureOffset (d : Bytes) : Nat := d.le 0x3c 4

/-- The octets of a file hold all of a PE header. The optional header is needed up to its first 32
octets, if there is one. -/
@[mk_iff]
structure WellFormed (d : Bytes) : Prop where
  dosHeader : 64 ≤ d.size
  dosMagic : d.toList.take 2 = [0x4d, 0x5a]
  signature : (d.slice (signatureOffset d) 4).toList = [0x50, 0x45, 0, 0]
  coffHeader : signatureOffset d + 24 ≤ d.size
  optionalHeader : d.le (signatureOffset d + 20) 2 ≠ 0 →
    signatureOffset d + 56 ≤ d.size ∧
      (d.le (signatureOffset d + 24) 2 = 0x10b ∨ d.le (signatureOffset d + 24) 2 = 0x20b)

instance (d : Bytes) : Decidable (WellFormed d) := decidable_of_iff _ (wellFormed_iff d).symm

namespace Header

/-- The numbers of a header are those of a file. Those of the optional header are zero if there is
none. -/
structure Describes (h : Header) (d : Bytes) : Prop where
  offset : h.offset.toNat = signatureOffset d
  machine : h.machine.toNat = d.le (signatureOffset d + 4) 2
  sectionCount : h.sectionCount.toNat = d.le (signatureOffset d + 6) 2
  characteristics : h.characteristics.toNat = d.le (signatureOffset d + 22) 2
  optionalMagic : h.optionalMagic.toNat =
    if d.le (signatureOffset d + 20) 2 = 0 then 0 else d.le (signatureOffset d + 24) 2
  entry : h.entry.toNat =
    if d.le (signatureOffset d + 20) 2 = 0 then 0 else d.le (signatureOffset d + 40) 4
  imageBase : h.imageBase.toNat =
    if d.le (signatureOffset d + 20) 2 = 0 then 0
    else if d.le (signatureOffset d + 24) 2 = 0x20b then d.le (signatureOffset d + 48) 8
    else d.le (signatureOffset d + 52) 4

variable {d : Bytes} {h h' : Header} {off : Nat}

/-! ## The optional header -/

theorem withOptional_cases (h : Header) (d : Bytes) (off : Nat) :
    (∃ h', h.withOptional d off = .ok h') ∨
      ∃ cause, h.withOptional d off = .error (.malformed cause) := by
  unfold withOptional
  split
  · exact .inr ⟨_, rfl⟩
  · dsimp only
    split
    · exact .inl ⟨_, rfl⟩
    · split
      · exact .inl ⟨_, rfl⟩
      · exact .inr ⟨_, rfl⟩

/-- The image base of a 32-bit program has half the octets of that of a 64-bit program. -/
def imageBaseAt (d : Bytes) (off : Nat) : Nat :=
  if d.le off 2 = magic64 then d.le (off + 24) 8 else d.le (off + 28) 4

theorem toNat_imageBaseAt (d : Bytes) (off : Nat) :
    (UInt64.ofNat (imageBaseAt d off)).toNat = imageBaseAt d off := by
  refine UInt64.toNat_ofNat_of_lt ?_
  unfold imageBaseAt
  split
  · exact d.le_lt_two_pow (off + 24) 8
  · exact Nat.lt_trans (d.le_lt_two_pow (off + 28) 4) (by decide)

theorem withOptional_eq_ok_iff :
    h.withOptional d off = .ok h' ↔
      off + 32 ≤ d.size ∧ (d.le off 2 = magic32 ∨ d.le off 2 = magic64) ∧
        h' = { h with
          optionalMagic := .ofNat (d.le off 2)
          entry := .ofNat (d.le (off + 16) 4)
          imageBase := .ofNat (imageBaseAt d off) } := by
  unfold withOptional
  split
  · next hsize => exact ⟨nofun, fun hok => absurd hsize (Nat.not_lt.2 hok.1)⟩
  · next hsize =>
    have hinside : off + 32 ≤ d.size := Nat.not_lt.1 hsize
    dsimp only
    split
    · next hmagic =>
      rw [imageBaseAt, if_pos hmagic, Except.ok.injEq, eq_comm]
      exact ⟨fun heq => ⟨hinside, .inr hmagic, heq⟩, fun hok => hok.2.2⟩
    · next hnot64 =>
      split
      · next hmagic =>
        rw [imageBaseAt, if_neg hnot64, Except.ok.injEq, eq_comm]
        exact ⟨fun heq => ⟨hinside, .inl hmagic, heq⟩, fun hok => hok.2.2⟩
      · next hnot32 => exact ⟨nofun, fun hok => hok.2.1.elim (absurd · hnot32) (absurd · hnot64)⟩

/-! ## Headers -/

/-- Nothing but a malformation keeps a PE header from being decoded. -/
theorem decode_cases (d : Bytes) :
    (∃ h, decode d = .ok h) ∨ ∃ cause, decode d = .error (.malformed cause) := by
  unfold decode
  split
  · exact .inr ⟨_, rfl⟩
  · dsimp only
    split
    · exact .inr ⟨_, rfl⟩
    · split
      · exact .inr ⟨_, rfl⟩
      · split
        · exact .inl ⟨_, rfl⟩
        · exact withOptional_cases _ _ _

theorem hasAt_peMagic_iff : d.hasAt 0 Format.peMagic ↔ d.toList.take 2 = [0x4d, 0x5a] := by
  rw [Bytes.hasAt, beq_iff_eq, Bytes.slice, Array.toList_extract, List.extract_eq_take_drop]
  rfl

theorem hasAt_signature_iff :
    d.hasAt off signature ↔ (d.slice off 4).toList = [0x50, 0x45, 0, 0] := by
  rw [Bytes.hasAt, beq_iff_eq]
  rfl

/-- The header whose signature stands at an offset, without any check of the COFF header. -/
def ofSignature (d : Bytes) (off : Nat) : Except ContainerError Header :=
  let h : Header :=
    { offset := .ofNat off
      machine := .ofNat (d.le (off + 4) 2)
      sectionCount := .ofNat (d.le (off + 6) 2)
      characteristics := .ofNat (d.le (off + 22) 2) }
  if d.le (off + 20) 2 = 0 then .ok h else h.withOptional d (off + 24)

/-- What is checked on the way to a header. -/
theorem decode_eq_ok_iff_checks :
    decode d = .ok h ↔
      64 ≤ d.size ∧ d.hasAt 0 Format.peMagic ∧ d.hasAt (signatureOffset d) signature ∧
        signatureOffset d + 24 ≤ d.size ∧ ofSignature d (signatureOffset d) = .ok h := by
  unfold decode
  split
  · next hdos =>
    refine ⟨nofun, fun hok => ?_⟩
    exact hdos.elim (absurd · (Nat.not_lt.2 hok.1)) (absurd hok.2.1)
  · next hdos =>
    obtain ⟨hsize, hmagic⟩ := not_or.1 hdos
    dsimp only
    split
    · next hsignature => exact ⟨nofun, fun hok => absurd hok.2.2.1 hsignature⟩
    · next hsignature =>
      split
      · next hcoff => exact ⟨nofun, fun hok => absurd hcoff (Nat.not_lt.2 hok.2.2.2.1)⟩
      · next hcoff =>
        exact ⟨fun hd => ⟨Nat.not_lt.1 hsize, Decidable.not_not.1 hmagic,
          Decidable.not_not.1 hsignature, Nat.not_lt.1 hcoff, hd⟩, fun hok => hok.2.2.2.2⟩

/-- A number of the optional header, zero if there is no such header. -/
def ifOptional (d : Bytes) (off n : Nat) : Nat := if d.le (off + 20) 2 = 0 then 0 else n

/-- The numbers of the header whose signature stands at an offset, without any check. -/
def fields (d : Bytes) (off : Nat) : Header where
  offset := .ofNat off
  machine := .ofNat (d.le (off + 4) 2)
  sectionCount := .ofNat (d.le (off + 6) 2)
  characteristics := .ofNat (d.le (off + 22) 2)
  optionalMagic := .ofNat (ifOptional d off (d.le (off + 24) 2))
  entry := .ofNat (ifOptional d off (d.le (off + 40) 4))
  imageBase := .ofNat (ifOptional d off (imageBaseAt d (off + 24)))

theorem ofSignature_eq_ok_iff :
    ofSignature d off = .ok h ↔
      (d.le (off + 20) 2 ≠ 0 →
        off + 56 ≤ d.size ∧ (d.le (off + 24) 2 = 0x10b ∨ d.le (off + 24) 2 = 0x20b)) ∧
        fields d off = h := by
  unfold ofSignature fields ifOptional
  dsimp only
  split
  · next hnone =>
    rw [Except.ok.injEq]
    exact (and_iff_right (absurd hnone)).symm
  · next hsome =>
    rw [withOptional_eq_ok_iff, ← and_assoc, eq_comm (a := h)]
    exact and_congr_left fun _ => ⟨fun hfits _ => hfits, fun hfits => hfits hsome⟩

theorem decode_eq_ok_iff :
    decode d = .ok h ↔ WellFormed d ∧ fields d (signatureOffset d) = h := by
  rw [decode_eq_ok_iff_checks, hasAt_peMagic_iff, hasAt_signature_iff, ofSignature_eq_ok_iff,
    wellFormed_iff]
  simp only [and_assoc]

theorem describes_fields (d : Bytes) : (fields d (signatureOffset d)).Describes d where
  offset := d.toNat_le_four _
  machine := d.toNat_le_two _
  sectionCount := d.toNat_le_two _
  characteristics := d.toNat_le_two _
  optionalMagic := by
    show (UInt16.ofNat (ifOptional d _ _)).toNat = _
    unfold ifOptional
    split
    · rfl
    · exact d.toNat_le_two _
  entry := by
    show (UInt32.ofNat (ifOptional d _ _)).toNat = _
    unfold ifOptional
    split
    · rfl
    · exact d.toNat_le_four _
  imageBase := by
    show (UInt64.ofNat (ifOptional d _ _)).toNat = _
    unfold ifOptional
    split
    · rfl
    · exact toNat_imageBaseAt d _

/-- A file has a header exactly if it is well-formed. The numbers of the header are then those at
fixed distances from the signature, and in every other case the file is malformed. That every octet
is checked where it is taken makes no difference, so nothing else gets out. -/
theorem decode_exact (d : Bytes) :
    ((∃ h, decode d = .ok h) ↔ WellFormed d) ∧
    (∀ h, decode d = .ok h → h.Describes d) ∧
    (¬WellFormed d → ∃ cause, decode d = .error (.malformed cause)) ∧
    checkedDecode d = (decode d).mapError .container := by
  have hiff : (∃ h, decode d = .ok h) ↔ WellFormed d := by
    simp only [decode_eq_ok_iff, exists_and_left, exists_eq', and_true]
  refine ⟨hiff, fun h hd => ?_, fun hnot => ?_, checkedDecode_eq d⟩
  · obtain ⟨-, rfl⟩ := decode_eq_ok_iff.1 hd
    exact describes_fields d
  · exact (decode_cases d).resolve_left (mt hiff.1 hnot)

/-- A file of 64 octets whose DOS header holds the whole header of a 64-bit program. -/
def foldedFile : Bytes := #[
  0x4d, 0x5a, 0, 0, 0x50, 0x45, 0, 0, 0x64, 0x86, 0x03, 0, 0, 0, 0, 0, 0, 0, 0, 0, 0, 0, 0, 0,
  0xf0, 0, 0x22, 0x20, 0x0b, 0x02, 0, 0, 0, 0, 0, 0, 0, 0, 0, 0, 0, 0, 0, 0, 0x34, 0x12, 0, 0,
  0, 0, 0, 0, 0, 0, 0, 0x40, 1, 0, 0, 0, 4, 0, 0, 0]

/-- The same octets with the signature five octets later, so that the optional header ends one octet
after the file. -/
def overhangingFile : Bytes :=
  #[0x4d, 0x5a, 0, 0, 0, 0, 0, 0, 0] ++ foldedFile.extract 4 55 ++ #[9, 0, 0, 0]

theorem decode_exact_foldedFile :
    decode foldedFile = .ok ⟨4, 0x8664, 3, 0x2022, 0x20b, 0x1234, 0x140000000⟩ ∧
    Describes ⟨4, 0x8664, 3, 0x2022, 0x20b, 0x1234, 0x140000000⟩ foldedFile ∧
    (∃ cause, decode overhangingFile = .error (.malformed cause)) ∧
    ∃ h, decode (overhangingFile.push 0) = .ok h := by
  have hd : decode foldedFile = .ok ⟨4, 0x8664, 3, 0x2022, 0x20b, 0x1234, 0x140000000⟩ :=
    decode_eq_ok_iff.2 ⟨by decide, by decide⟩
  exact ⟨hd, (decode_exact foldedFile).2.1 _ hd, (decode_exact overhangingFile).2.2.1 (by decide),
    (decode_exact (overhangingFile.push 0)).1.2 (by decide)⟩

end Header

end FunctionBounds.Pe
