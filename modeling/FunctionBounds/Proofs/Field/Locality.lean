import FunctionBounds.Proofs.Field.Progress
import FunctionBounds.Proofs.Steps

/-!
# Locality of readers

A reader that succeeds has looked at the octets of its field and at no others.

- **Agreement** (`Bytes.AgreeOn d d' off stop`): two arrays have the same octets from `off` up to
  `stop`, wherever each of them ends after that.
- **Readers** (`ReadsUpTo off stop read`): a reader at `off` whose result tells by `stop` where it
  ended. It has not gone back, and it gives the same for all arrays that agree with this one up to
  there. `ReadsUpTo.bind` is about a reader after another one.
- **Fields** (`readByte_upTo`, `readEncodedValue_upTo`, `readPointer_upTo`, …): every reader of a
  field is one of these, aligned addresses included, which may stand after a gap.
-/

namespace FunctionBounds

namespace Bytes

/-- The octets from `off` up to `stop` are the same in both arrays. -/
def AgreeOn (d d' : Bytes) (off stop : Nat) : Prop :=
  ∀ i, off ≤ i → i < stop → d[i]? = d'[i]?

variable {d d' : Bytes} {off stop : Nat}

instance : Decidable (d.AgreeOn d' off stop) :=
  decidable_of_iff (∀ i < stop, off ≤ i → d[i]? = d'[i]?)
    ⟨fun h i hoff hstop => h i hstop hoff, fun h i hstop hoff => h i hoff hstop⟩

theorem AgreeOn.symm (h : d.AgreeOn d' off stop) : d'.AgreeOn d off stop :=
  fun i hoff hstop => (h i hoff hstop).symm

theorem AgreeOn.mono (h : d.AgreeOn d' off stop) {off₁ stop₁ : Nat} (hoff : off ≤ off₁)
    (hstop : stop₁ ≤ stop) : d.AgreeOn d' off₁ stop₁ :=
  fun i hi hi' => h i (Nat.le_trans hoff hi) (Nat.lt_of_lt_of_le hi' hstop)

theorem AgreeOn.get (h : d.AgreeOn d' off stop) {i : Nat} (hoff : off ≤ i) (hstop : i < stop)
    (hi : i < d.size) : ∃ hi' : i < d'.size, d'[i] = d[i] :=
  Array.getElem?_eq_some_iff.1 ((h i hoff hstop).symm.trans (Array.getElem?_eq_getElem hi))

/-- What is inside one array and not empty is inside the other. -/
theorem AgreeOn.le_size (h : d.AgreeOn d' off stop) (hlt : off < stop) (hsize : stop ≤ d.size) :
    stop ≤ d'.size := by
  obtain ⟨hlast, -⟩ := h.get (i := stop - 1) (by omega) (by omega) (by omega)
  omega

theorem AgreeOn.extract_eq (h : d.AgreeOn d' off stop) (hsize : stop ≤ d.size) :
    d'.extract off stop = d.extract off stop := by
  by_cases hlt : off < stop
  · have hsize' := h.le_size hlt hsize
    apply Array.ext_getElem?
    intro i
    rw [Array.getElem?_extract, Array.getElem?_extract, Nat.min_eq_left hsize,
      Nat.min_eq_left hsize']
    split
    · exact (h (off + i) (by omega) (by omega)).symm
    · rfl
  · rw [Array.extract_empty_of_stop_le_start (by omega),
      Array.extract_empty_of_stop_le_start (by omega)]

theorem AgreeOn.le_eq {n : Nat} (h : d.AgreeOn d' off (off + n)) (hsize : off + n ≤ d.size) :
    d'.le off n = d.le off n := by
  rw [le, le, slice, slice, h.extract_eq hsize]

theorem AgreeOn.indexFrom?_eq {p : UInt8 → Bool} {i : Nat} (hi : d.indexFrom? p off = some i)
    (h : d.AgreeOn d' off (i + 1)) : d'.indexFrom? p off = some i := by
  fun_induction indexFrom? d p off with
  | case1 off hlt hp =>
    cases hi
    obtain ⟨hlt', hget⟩ := h.get (Nat.le_refl _) (Nat.lt_succ_self _) hlt
    rw [indexFrom?, dif_pos hlt', hget, if_pos hp]
  | case2 off hlt hp ih =>
    have hle := (indexFrom?_bounds hi).1
    obtain ⟨hlt', hget⟩ := h.get (Nat.le_refl off) (by omega) hlt
    rw [indexFrom?, dif_pos hlt', hget, if_neg hp]
    exact ih hi (h.mono (Nat.le_succ _) (Nat.le_refl _))
  | case3 => cases hi

end Bytes

/-! ## Readers -/

/-- A reader at `off` whose result tells by `stop` where it ended: it has not gone back, and it
gives the same for all octets that agree with these up to there. -/
def ReadsUpTo {α : Type} (off : Nat) (stop : α → Nat) (read : Bytes → Except DecodeError α) :
    Prop :=
  ∀ d v, read d = .ok v → off ≤ stop v ∧ ∀ d', d.AgreeOn d' off (stop v) → read d' = .ok v

section

variable {α β : Type} {off : Nat} {stop : α → Nat} {stop' : β → Nat}

theorem readsUpTo_ok {v : α} (h : off ≤ stop v) : ReadsUpTo off stop fun _ => .ok v := by
  intro d w hw
  cases hw
  exact ⟨h, fun _ _ => rfl⟩

theorem readsUpTo_error {cause : DecodeError} : ReadsUpTo off stop fun _ => .error cause := nofun

theorem ReadsUpTo.bind {read : Bytes → Except DecodeError α}
    {next : α → Bytes → Except DecodeError β} (h : ReadsUpTo off stop read)
    (hnext : ∀ v, ReadsUpTo (stop v) stop' (next v)) :
    ReadsUpTo off stop' fun d => (read d).bind fun v => next v d := by
  intro d w hw
  obtain ⟨v, hread, hw⟩ := bind_eq_ok_iff.1 hw
  obtain ⟨hv, hsame⟩ := h d v hread
  obtain ⟨hw', hsame'⟩ := hnext v d w hw
  refine ⟨Nat.le_trans hv hw', fun d' hagree => bind_eq_ok_iff.2 ⟨v, ?_, ?_⟩⟩
  · exact hsame d' (hagree.mono (Nat.le_refl _) hw')
  · exact hsame' d' (hagree.mono hv (Nat.le_refl _))

/-- A reader may start with a gap. -/
theorem ReadsUpTo.of_le {read : Bytes → Except DecodeError α} {off₁ : Nat}
    (h : ReadsUpTo off₁ stop read) (hoff : off ≤ off₁) : ReadsUpTo off stop read := by
  intro d v hv
  obtain ⟨hle, hsame⟩ := h d v hv
  exact ⟨Nat.le_trans hoff hle, fun d' hagree => hsame d' (hagree.mono hoff (Nat.le_refl _))⟩

end

/-! ## Fields -/

namespace Bytes

variable (off : Nat)

theorem readByte_upTo : ReadsUpTo off Prod.snd fun d => d.readByte off := by
  intro d v (hv : d.readByte off = .ok v)
  unfold readByte at hv
  split at hv
  · next hlt =>
    cases hv
    refine ⟨Nat.le_succ _, fun d' hagree => ?_⟩
    obtain ⟨hlt', hget⟩ := hagree.get (Nat.le_refl off) (Nat.lt_succ_self off) hlt
    simp only [readByte, dif_pos hlt', hget]
  · cases hv

theorem readUnsigned_upTo {width : Nat} (hwidth : 0 < width) :
    ReadsUpTo off Prod.snd fun d => d.readUnsigned width off := by
  intro d v (hv : d.readUnsigned width off = .ok v)
  unfold readUnsigned at hv
  split at hv
  · next hsize =>
    cases hv
    refine ⟨Nat.le_add_right _ _, fun d' hagree => ?_⟩
    simp only [readUnsigned, if_pos (hagree.le_size (by omega) hsize), hagree.le_eq hsize]
  · cases hv

theorem readWord_upTo {w : Word} (hw : 0 < w.width) :
    ReadsUpTo off Prod.snd fun d => d.readWord w off :=
  (readUnsigned_upTo off hw).bind fun _ => readsUpTo_ok (Nat.le_refl _)

theorem readString_upTo : ReadsUpTo off Prod.snd fun d => d.readString off := by
  intro d v (hv : d.readString off = .ok v)
  have hnext := readString_next hv
  unfold readString at hv
  split at hv
  · next stop hstop =>
    cases hv
    refine ⟨Nat.le_of_lt hnext.1, fun d' hagree => ?_⟩
    have hbounds := indexFrom?_bounds hstop
    have hstring := (hagree.mono (Nat.le_refl _) (Nat.le_succ _)).extract_eq (by omega)
    simp only [readString, hagree.indexFrom?_eq hstop, hstring]
  · cases hv

theorem lebGroups?_of_agreeOn {d d' : Bytes} {groups : List UInt8} {next : Nat}
    (h : d.lebGroups? off = some (groups, next)) (hagree : d.AgreeOn d' off next) :
    d'.lebGroups? off = some (groups, next) := by
  obtain ⟨last, hlast, hgroups⟩ := Option.map_eq_some_iff.1 h
  cases hgroups
  have hbounds := indexFrom?_bounds hlast
  simp only [lebGroups?, hagree.indexFrom?_eq hlast, Option.map_some,
    hagree.extract_eq (by omega)]

theorem readUnsignedLeb_upTo : ReadsUpTo off Prod.snd fun d => d.readUnsignedLeb off := by
  intro d v (hv : d.readUnsignedLeb off = .ok v)
  have hnext := readUnsignedLeb_next hv
  unfold readUnsignedLeb at hv
  split at hv
  · next groups next hgroups =>
    cases hv
    refine ⟨Nat.le_of_lt hnext.1, fun d' hagree => ?_⟩
    simp only [readUnsignedLeb, lebGroups?_of_agreeOn off hgroups hagree]
  · cases hv

theorem readSignedLeb_upTo : ReadsUpTo off Prod.snd fun d => d.readSignedLeb off := by
  intro d v (hv : d.readSignedLeb off = .ok v)
  have hnext := readSignedLeb_next hv
  unfold readSignedLeb at hv
  split at hv
  · next groups next hgroups =>
    cases hv
    refine ⟨Nat.le_of_lt hnext.1, fun d' hagree => ?_⟩
    simp only [readSignedLeb, lebGroups?_of_agreeOn off hgroups hagree]
  · cases hv

theorem readValue_upTo (f : ValueFormat) (addressSize : Int) :
    ReadsUpTo off Prod.snd fun d => d.readValue f addressSize off := by
  cases f with
  | address => exact readWord_upTo off (addressWidth_pos addressSize)
  | uleb128 => exact (readUnsignedLeb_upTo off).bind fun _ => readsUpTo_ok (Nat.le_refl _)
  | sleb128 => exact readSignedLeb_upTo off
  | udata2 | udata4 | udata8 | sdata2 | sdata4 | sdata8 => exact readWord_upTo off (by decide)

theorem readEncodedValue_upTo (encoding addressSize : Int) :
    ReadsUpTo off Prod.snd fun d => d.readEncodedValue encoding addressSize off := by
  unfold readEncodedValue
  cases ValueFormat.ofEncoding? encoding with
  | some f => exact readValue_upTo off f addressSize
  | none => exact readsUpTo_error

theorem readPointer_upTo (b : PointerBase) (encoding : Int) (hb : 0 < b.addressSize) :
    ReadsUpTo off Prod.snd fun d => d.readPointer b encoding off := by
  have hgap : off ≤ alignedOffset off b.addressSize := by
    obtain ⟨n, hn⟩ := Int.eq_ofNat_of_zero_le (Int.le_of_lt hb)
    rw [hn] at hb ⊢
    exact le_alignedOffset off (by omega)
  unfold readPointer
  split
  · exact readsUpTo_error
  · split
    · exact readsUpTo_error
    · split
      · exact (readUnsigned_upTo _ (addressWidth_pos b.addressSize)).of_le hgap
      · refine (readEncodedValue_upTo off encoding b.addressSize).bind fun v => ?_
        cases Encoding.application? encoding with
        | some a => exact readsUpTo_ok (Nat.le_refl _)
        | none => exact readsUpTo_error

end Bytes

end FunctionBounds
