import FunctionBounds.Proofs.Field.Locality
import FunctionBounds.Proofs.StringTable

/-!
# What a string table lists

- **Ends** (`StringTable.EndsAt`, `endOfName_eq`): a text ends in front of the first NUL, or at the
  end of the table. It does not depend on what stands there or after it (`nameAt_of_agreeOn`).
- **Starts** (`IsStart`, `starts_of_piece`): the offsets of octets that are not NUL, with nothing or
  a NUL before them. In the octets between two NULs, only the first is one.
- **Pieces** (`CutAt`, `piecesFrom_cutAt`): the pieces of a table stand one after the other, each
  but the last in front of a NUL.
- **Listing** (`entries_eq`): the running offset of the pieces is where they stand, so the listing
  is the starts with the texts there.

`entries_agree` compares the listing with the two readers of names.
-/

namespace FunctionBounds.StringTable

variable {t t' : Bytes} {off stop : Nat}

/-! ## Ends -/

/-- No octet of a range is a NUL. -/
def NoNul (t : Bytes) (off stop : Nat) : Prop := ∀ i, off ≤ i → i < stop → t[i]? ≠ some 0

/-- No text that starts before an offset goes on from there. -/
def EndsAt (t : Bytes) (stop : Nat) : Prop := t[stop]? = some 0 ∨ t.size = stop

instance (t : Bytes) (stop : Nat) : Decidable (EndsAt t stop) :=
  inferInstanceAs (Decidable (_ ∨ _))

theorem EndsAt.le_size (h : EndsAt t stop) : stop ≤ t.size := by
  obtain hnul | hsize := h
  · exact Nat.le_of_lt (Array.getElem?_eq_some_iff.1 hnul).1
  · exact Nat.le_of_eq hsize.symm

/-- With no NUL before it, an end comes before any other. -/
theorem NoNul.le_of_endsAt {other : Nat} (h : NoNul t off stop) (hsize : stop ≤ t.size)
    (hle : off ≤ other) (hend : EndsAt t other) : stop ≤ other := by
  refine Nat.le_of_not_lt fun hlt => ?_
  obtain hnul | hother := hend
  · exact h other hle hlt hnul
  · omega

theorem noNul_of_indexFrom? (h : t.indexFrom? (· == 0) off = some stop) : NoNul t off stop := by
  intro i hoff hstop hnul
  have := (Bytes.indexFrom?_eq_some_iff.1 h).2.2 i 0 hoff hstop hnul
  simp at this

theorem getElem?_of_indexFrom? (h : t.indexFrom? (· == 0) off = some stop) :
    t[stop]? = some 0 := by
  obtain ⟨-, ⟨b, hb, hnul⟩, -⟩ := Bytes.indexFrom?_eq_some_iff.1 h
  rwa [eq_of_beq hnul] at hb

theorem noNul_of_indexFrom?_none (h : t.indexFrom? (· == 0) off = none) :
    NoNul t off t.size := by
  intro i hoff _ hnul
  have : (t.indexFrom? (· == 0) off).isSome = true :=
    Bytes.isSome_indexFrom?.2 ⟨i, 0, hoff, hnul, rfl⟩
  rw [h] at this
  cases this

theorem endOfName_spec (h : off ≤ t.size) :
    off ≤ endOfName t off ∧ NoNul t off (endOfName t off) ∧ EndsAt t (endOfName t off) := by
  unfold endOfName
  cases hfind : t.indexFrom? (· == 0) off with
  | none => exact ⟨h, noNul_of_indexFrom?_none hfind, .inr rfl⟩
  | some first =>
    exact ⟨(Bytes.indexFrom?_bounds hfind).1, noNul_of_indexFrom? hfind,
      .inl (getElem?_of_indexFrom? hfind)⟩

theorem endOfName_eq (hle : off ≤ stop) (hno : NoNul t off stop) (hend : EndsAt t stop) :
    endOfName t off = stop := by
  obtain ⟨hoff, hfree, hfirst⟩ := endOfName_spec (Nat.le_trans hle hend.le_size)
  exact Nat.le_antisymm (hfree.le_of_endsAt hfirst.le_size hle hend)
    (hno.le_of_endsAt hend.le_size hoff hfirst)

theorem nameAt_eq_extract (hle : off ≤ stop) (hno : NoNul t off stop) (hend : EndsAt t stop) :
    nameAt t off = Text.Utf8.decode (t.extract off stop) := by
  unfold nameAt
  split
  · rw [endOfName_eq hle hno hend]
  · next hout =>
    have := hend.le_size
    have hempty : t.extract off stop = #[] := Array.extract_eq_empty_iff.2 (by omega)
    rw [hempty]
    rfl

/-- A text is that of any table with the same octets up to some end behind it. -/
theorem nameAt_of_agreeOn (hle : off ≤ stop) (hend : EndsAt t stop) (hend' : EndsAt t' stop)
    (hagree : t.AgreeOn t' off stop) : nameAt t' off = nameAt t off := by
  obtain ⟨hoff, hno, hfirst⟩ := endOfName_spec (Nat.le_trans hle hend.le_size)
  have hstop : endOfName t off ≤ stop := hno.le_of_endsAt hfirst.le_size hle hend
  generalize endOfName t off = first at hoff hno hfirst hstop
  have hno' : NoNul t' off first := fun i hi hlt hnul =>
    hno i hi hlt ((hagree i hi (Nat.lt_of_lt_of_le hlt hstop)).trans hnul)
  have hfirst' : EndsAt t' first := by
    rcases Nat.eq_or_lt_of_le hstop with rfl | hlt
    · exact hend'
    · -- The table goes on behind the text, so it is a NUL that ends it.
      obtain hnul | hsize := hfirst
      · exact .inl ((hagree first hoff hlt).symm.trans hnul)
      · exact absurd hend.le_size (by omega)
  rw [nameAt_eq_extract hoff hno hfirst, nameAt_eq_extract hoff hno' hfirst',
    (hagree.mono (Nat.le_refl _) hstop).extract_eq hfirst.le_size]

/-! ## Starts -/

/-- A text that is not empty starts at an offset. -/
def IsStart (t : Bytes) (off : Nat) : Prop :=
  off < t.size ∧ t[off]? ≠ some 0 ∧ (off = 0 ∨ t[off - 1]? = some 0)

instance (t : Bytes) (off : Nat) : Decidable (IsStart t off) :=
  inferInstanceAs (Decidable (_ ∧ _ ∧ _))

/-- The starts from an offset on. -/
def starts (t : Bytes) (off : Nat) : List Nat :=
  (List.range' off (t.size - off)).filter (IsStart t ·)

theorem starts_of_size_le (h : t.size ≤ off) : starts t off = [] := by
  rw [starts, Nat.sub_eq_zero_of_le h]
  rfl

theorem starts_of_isStart (h : IsStart t off) : starts t off = off :: starts t (off + 1) := by
  have hlt : off < t.size := h.1
  rw [starts, show t.size - off = t.size - (off + 1) + 1 by omega, List.range'_succ,
    List.filter_cons_of_pos (by simpa using h), starts]

theorem starts_of_not_isStart (h : ¬IsStart t off) : starts t off = starts t (off + 1) := by
  by_cases hlt : off < t.size
  · rw [starts, show t.size - off = t.size - (off + 1) + 1 by omega, List.range'_succ,
      List.filter_cons_of_neg (by simpa using h), starts]
  · rw [starts_of_size_le (by omega), starts_of_size_le (by omega)]

theorem starts_skip (hle : off ≤ stop) (h : ∀ i, off ≤ i → i < stop → ¬IsStart t i) :
    starts t off = starts t stop := by
  induction hle with
  | refl => rfl
  | step hle ih =>
    rw [ih fun i hi hlt => h i hi (Nat.lt_succ_of_lt hlt),
      starts_of_not_isStart (h _ hle (Nat.lt_succ_self _))]

/-- Of the octets of a piece, only the first is a start. -/
theorem starts_of_piece (hle : off ≤ stop) (hno : NoNul t off stop) (hend : EndsAt t stop)
    (hfirst : off = 0 ∨ t[off - 1]? = some 0) :
    starts t off = (if off < stop then [off] else []) ++ starts t (stop + 1) := by
  split
  · next hlt =>
    have hstart : IsStart t off :=
      ⟨Nat.lt_of_lt_of_le hlt hend.le_size, hno off (Nat.le_refl _) hlt, hfirst⟩
    rw [starts_of_isStart hstart, starts_skip (Nat.succ_le_succ hle), List.singleton_append]
    rintro i hi hstop ⟨-, -, hzero | hnul⟩
    · omega
    · exact hno (i - 1) (by omega) (by omega) hnul
  · next hge =>
    obtain rfl : off = stop := Nat.le_antisymm hle (Nat.le_of_not_lt hge)
    refine starts_of_not_isStart fun hstart => ?_
    obtain hnul | hsize := hend
    · exact hstart.2.1 hnul
    · exact absurd hstart.1 (by omega)

/-! ## Pieces -/

/-- Octets from an offset on in pieces, each but the last in front of a NUL. -/
inductive CutAt (t : Bytes) : Nat → List Bytes → Prop
  | last {off : Nat} (hle : off ≤ t.size) (hno : NoNul t off t.size) :
    CutAt t off [t.extract off t.size]
  | cons {off stop : Nat} {rest : List Bytes} (hle : off ≤ stop) (hno : NoNul t off stop)
    (hnul : t[stop]? = some 0) (hrest : CutAt t (stop + 1) rest) :
    CutAt t off (t.extract off stop :: rest)

theorem piecesFrom_cutAt (before : List Bytes) (hle : off ≤ t.size) :
    ∃ rest, CutAt t off rest ∧ piecesFrom t off before = before.reverse ++ rest := by
  fun_induction piecesFrom t off before with
  | case1 off before stop hfind ih =>
    obtain ⟨hoff, hlt⟩ := Bytes.indexFrom?_bounds hfind
    obtain ⟨rest, hcut, heq⟩ := ih hlt
    refine ⟨t.extract off stop :: rest,
      .cons hoff (noNul_of_indexFrom? hfind) (getElem?_of_indexFrom? hfind) hcut, ?_⟩
    rw [heq, List.reverse_cons, List.append_assoc, List.singleton_append]
  | case2 off before hfind =>
    exact ⟨_, .last hle (noNul_of_indexFrom?_none hfind), List.reverse_cons⟩

theorem pieces_cutAt (t : Bytes) : CutAt t 0 (pieces t) := by
  obtain ⟨rest, hcut, heq⟩ := piecesFrom_cutAt (t := t) [] (Nat.zero_le _)
  rw [pieces, heq]
  exact hcut

/-! ## Listing -/

theorem reverse_listed (hle : off ≤ stop) (hno : NoNul t off stop) (hend : EndsAt t stop)
    (before : List (Nat × String)) :
    (if (t.extract off stop).isEmpty then before
      else (off, Text.Utf8.decode (t.extract off stop)) :: before).reverse =
      before.reverse ++ (if off < stop then [off] else []).map fun o => (o, nameAt t o) := by
  have hempty : (t.extract off stop).isEmpty ↔ ¬off < stop := by
    have := hend.le_size
    rw [Array.isEmpty_iff, Array.extract_eq_empty_iff]
    omega
  by_cases hlt : off < stop
  · rw [if_neg (mt hempty.1 (not_not_intro hlt)), if_pos hlt, List.reverse_cons,
      ← nameAt_eq_extract hle hno hend]
    rfl
  · rw [if_pos (hempty.2 hlt), if_neg hlt, List.map_nil, List.append_nil]

/-- What is listed from a piece on, if the running offset is where the piece stands. -/
theorem listFrom_eq {rest : List Bytes} (hcut : CutAt t off rest)
    (hfirst : off = 0 ∨ t[off - 1]? = some 0) (before : List (Nat × String)) :
    listFrom off before rest =
      before.reverse ++ (starts t off).map fun o => (o, nameAt t o) := by
  induction hcut generalizing before with
  | @last off hle hno =>
    rw [listFrom, listFrom, reverse_listed hle hno (.inr rfl),
      starts_of_piece hle hno (.inr rfl) hfirst, starts_of_size_le (Nat.le_succ _), List.append_nil]
  | @cons off stop rest hle hno hnul _ ih =>
    have hstop : off + (t.extract off stop).size = stop := by
      have := (Array.getElem?_eq_some_iff.1 hnul).1
      rw [Array.size_extract]
      omega
    rw [listFrom, hstop, ih (.inr hnul), reverse_listed hle hno (.inl hnul),
      starts_of_piece hle hno (.inl hnul) hfirst, List.map_append, List.append_assoc]

theorem entries_eq (t : Bytes) : entries t = (starts t 0).map fun o => (o, nameAt t o) :=
  listFrom_eq (pieces_cutAt t) (.inl rfl) []

theorem mem_starts : off ∈ starts t 0 ↔ IsStart t off := by
  rw [starts, List.mem_filter, decide_eq_true_iff, List.mem_range'_1]
  refine and_iff_right_of_imp fun h => ⟨Nat.zero_le _, ?_⟩
  have := h.1
  omega

theorem mem_entries_iff {text : String} :
    (off, text) ∈ entries t ↔ IsStart t off ∧ nameAt t off = text := by
  rw [entries_eq, List.mem_map]
  constructor
  · rintro ⟨o, ho, heq⟩
    cases heq
    exact ⟨mem_starts.1 ho, rfl⟩
  · rintro ⟨hstart, rfl⟩
    exact ⟨off, mem_starts.2 hstart, rfl⟩

/-- The listing of a string table agrees with the two readers of names, and these with each other.
The text at an offset does not depend on what stands at the NUL that ends it or after that. -/
theorem entries_agree (t : Bytes) :
    (entries t).Pairwise (·.1 < ·.1) ∧
      (∀ off, (∃ text, (off, text) ∈ entries t) ↔
        off < t.size ∧ t[off]? ≠ some 0 ∧ (off = 0 ∨ t[off - 1]? = some 0)) ∧
      (∀ off text, (off, text) ∈ entries t →
        nameAt t off = text ∧ SectionHeader.nameAt t off = text) ∧
      ∀ off : Nat, nameAt t off = SectionHeader.nameAt t off ∧
        (t.size ≤ off → nameAt t off = "") ∧
        nameAt t off =
          Text.Utf8.decode ((t.toList.drop off).takeWhile (· != 0)).toArray ∧
        ∀ stop t', off ≤ stop → EndsAt t stop → EndsAt t' stop → t.AgreeOn t' off stop →
          nameAt t' off = nameAt t off := by
  have hreaders (off : Nat) : nameAt t off = SectionHeader.nameAt t off := by
    rw [nameAt_eq, SectionHeader.nameAt_natCast]
  refine ⟨?_, fun off => ?_, fun off text hmem => ?_, fun off => ⟨hreaders off, fun hout => ?_,
    nameAt_eq t off, fun stop t' hle hend hend' hagree => nameAt_of_agreeOn hle hend hend' hagree⟩⟩
  · rw [entries_eq, List.pairwise_map]
    exact List.Pairwise.filter _ List.pairwise_lt_range'
  · simp only [mem_entries_iff, exists_and_left, exists_eq', and_true]
    rfl
  · obtain ⟨-, hname⟩ := mem_entries_iff.1 hmem
    exact ⟨hname, hreaders off ▸ hname⟩
  · rw [nameAt_eq, textAt_of_size_le hout]

/-- A NUL in front, two in a row and none at the end. Two of the texts are not UTF-8. -/
def unevenTable : Bytes := #[0, 0x61, 0xff, 0, 0, 0x62, 0, 0xc3]

/-- A table with one of its texts, between others. -/
def sharingTable : Bytes := #[0x78, 0x61, 0xff, 0, 0x79]

theorem entries_agree_unevenTable :
    entries unevenTable = [(1, "a\uFFFD"), (5, "b"), (7, "\uFFFD")] ∧
    (∃ text, (7, text) ∈ entries unevenTable) ∧
    (¬∃ text, (2, text) ∈ entries unevenTable) ∧
    SectionHeader.nameAt unevenTable 7 = "\uFFFD" ∧
    nameAt unevenTable 2 = SectionHeader.nameAt unevenTable 2 ∧
    nameAt unevenTable 8 = "" ∧
    nameAt sharingTable 1 = nameAt unevenTable 1 := by
  have hentries : entries unevenTable = [(1, "a\uFFFD"), (5, "b"), (7, "\uFFFD")] := by
    simp only [entries_eq, nameAt_eq]
    decide
  obtain ⟨-, hlisted, htexts, hnames⟩ := entries_agree unevenTable
  have hlast := (htexts 7 "\uFFFD" (by rw [hentries]; decide)).2
  exact ⟨hentries, (hlisted 7).2 (by decide), mt (hlisted 2).1 (by decide), hlast, (hnames 2).1,
    (hnames 8).2.1 (by decide),
    (hnames 1).2.2.2 3 sharingTable (by decide) (by decide) (by decide) (by decide)⟩

end FunctionBounds.StringTable
