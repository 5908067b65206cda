import FunctionBounds.Proofs.Cfi.Passes
import FunctionBounds.Proofs.Cfi.Records

/-!
# Passes under both conventions

The entries that passes leave behind are kept by offset alone, whichever convention they were read
under.

- **Common entries** (`CommonEntry.read_other`): where a common entry can be read under one
  convention, there is none under the other, since the first octet of the identifier differs
  (`Record.octet_of_isCommon`).
- **Frame descriptions** (`Section.describe_failsInField`): with any common entry, a frame
  description fails for another reason than that there is none. So what a record contributes shows
  whether its common entry was kept by a pass under the other convention (`Section.outcomeBy_ne`).
- **Leaks** (`Section.Leaks`): a frame description under the later convention refers to an entry
  that a pass under the earlier one leaves behind.

`scanPasses_eq_map_scan_iff`: passes give what scans on their own give iff nothing leaks from an
earlier pass into a later one. `scanPasses_twoFaced` is a section in which something does.
-/

namespace FunctionBounds

/-- The low octet of a number stands first. -/
theorem Bytes.le_mod_256 {d : Bytes} {off n : Nat} (hn : 0 < n) (h : off + n ≤ d.size) :
    d[off]?.map (·.toNat) = some (d.le off n % 256) := by
  have hoff : off < d.size := by omega
  cases hoctets : (d.slice off n).toList with
  | nil =>
    have hsize := size_slice h
    rw [← Array.length_toList, hoctets, List.length_nil] at hsize
    omega
  | cons b bs =>
    have hhead : (d.slice off n).toList[0]? = d[off]? := by
      simp [slice, hn]
    rw [hoctets, List.getElem?_cons_zero] at hhead
    have := b.toNat_lt
    rw [← hhead, le, hoctets, ofLittleEndian, Option.map_some, Option.some.injEq]
    omega

/-! ## Errors about fields -/

/-- An error about where a record ends or which kind it is. -/
def DecodeError.aboutRecord : DecodeError → Bool
  | recordOutside .. | recordTooShort _ | notCommonEntry _ => true
  | _ => false

/-- A reader fails, if at all, with an error about a field. -/
def FailsInField {α : Type} (x : Except DecodeError α) : Prop :=
  ∀ cause, x = .error cause → cause.aboutRecord = false

section

variable {α β : Type}

theorem failsInField_ok (a : α) : FailsInField (.ok a) := nofun

theorem failsInField_error {cause : DecodeError} (h : cause.aboutRecord = false) :
    FailsInField (.error cause : Except DecodeError α) := by
  intro cause' hcause
  cases hcause
  exact h

theorem FailsInField.bind {x : Except DecodeError α} {f : α → Except DecodeError β}
    (hx : FailsInField x) (hf : ∀ a, FailsInField (f a)) : FailsInField (x.bind f) := by
  cases x with
  | ok a => exact hf a
  | error cause => exact failsInField_error (hx cause rfl)

end

namespace Bytes

variable (d : Bytes) (off : Nat)

theorem readUnsigned_failsInField (width : Nat) : FailsInField (d.readUnsigned width off) := by
  unfold readUnsigned
  split
  · exact failsInField_ok _
  · exact failsInField_error rfl

theorem readWord_failsInField (w : Word) : FailsInField (d.readWord w off) :=
  (d.readUnsigned_failsInField off w.width).bind fun _ => failsInField_ok _

theorem readUnsignedLeb_failsInField : FailsInField (d.readUnsignedLeb off) := by
  unfold readUnsignedLeb
  split
  · exact failsInField_ok _
  · exact failsInField_error rfl

theorem readSignedLeb_failsInField : FailsInField (d.readSignedLeb off) := by
  unfold readSignedLeb
  split
  · exact failsInField_ok _
  · exact failsInField_error rfl

theorem readEncodedValue_failsInField (encoding addressSize : Int) :
    FailsInField (d.readEncodedValue encoding addressSize off) := by
  unfold readEncodedValue
  split
  · next f _ =>
    cases f with
    | uleb128 => exact (d.readUnsignedLeb_failsInField off).bind fun _ => failsInField_ok _
    | sleb128 => exact d.readSignedLeb_failsInField off
    | address | udata2 | udata4 | udata8 | sdata2 | sdata4 | sdata8 =>
      exact d.readWord_failsInField off _
  · exact failsInField_error rfl

theorem readPointer_failsInField (b : PointerBase) (encoding : Int) :
    FailsInField (d.readPointer b encoding off) := by
  unfold readPointer
  split
  · exact failsInField_error rfl
  · split
    · exact failsInField_error rfl
    · split
      · exact d.readUnsigned_failsInField _ _
      · refine (d.readEncodedValue_failsInField off encoding b.addressSize).bind ?_
        rintro ⟨value, next⟩
        simp only
        split
        · exact failsInField_ok _
        · exact failsInField_error rfl

end Bytes

namespace Cfi

variable {d : Bytes} {c c' : Convention} {off : Nat} {r : Record}

theorem Section.describe_failsInField (s : Section) (entry : CommonEntry) (r : Record) :
    FailsInField (s.describe entry r) := by
  unfold describe
  refine (s.bytes.readPointer_failsInField _ _ _).bind fun p => ?_
  refine (s.bytes.readEncodedValue_failsInField _ _ _).bind fun q => ?_
  simp only
  split
  · exact failsInField_error rfl
  · split
    · exact failsInField_error rfl
    · exact failsInField_ok _

/-! ## Common entries -/

/-- The first octet of the identifier of a common entry. -/
def Convention.commonOctet : Convention → Nat
  | ehFrame => 0
  | debugFrame => 0xff

theorem Convention.commonOctet_inj (h : c.commonOctet = c'.commonOctet) : c = c' := by
  cases c <;> cases c' <;> first | rfl | cases h

namespace Record

theorem octet_of_isCommon (h : read d c off = .ok r) (hcommon : r.isCommon d c = true) :
    d[r.idOffset]?.map (·.toNat) = some c.commonOctet := by
  obtain ⟨-, -, hbody, hstop⟩ := read_bounds h
  have hid : d.le r.idOffset r.idWidth = c.commonId r.idWidth := beq_iff_eq.1 hcommon
  have hwidth := idWidth_of_read h
  rw [body] at hbody
  rw [Bytes.le_mod_256 (by omega) (Nat.le_trans hbody hstop), hid]
  rcases hwidth with hw | hw <;> rw [hw] <;> cases c <;> rfl

/-- Under the other convention a record starts its identifier at the same offset, unless it is too
short for that. -/
theorem read_other (h : read d c off = .ok r) (c' : Convention) :
    (∃ r', read d c' off = .ok r' ∧ r'.idOffset = r.idOffset) ∨
      read d c' off = .error (.recordTooShort off) := by
  rcases read_cases h with ⟨hsize, hlength, hbounded⟩ | ⟨hsize, hlength, hbounded⟩
  · rw [read_of_narrow hsize hlength]
    exact .inl ⟨r, hbounded, rfl⟩
  · rw [read_of_wide hsize hlength]
    obtain ⟨hstop, -, rfl⟩ := bounded_eq_ok_iff.1 hbounded
    unfold bounded
    rw [if_neg (by omega)]
    split
    · exact .inr rfl
    · exact .inl ⟨_, rfl, rfl⟩

end Record

/-- A common entry that can be read is one by its identifier. -/
theorem CommonEntry.read_record {entry : CommonEntry} (h : read d c off = .ok entry) :
    ∃ r, Record.read d c off = .ok r ∧ r.isCommon d c = true := by
  unfold read at h
  cases hrecord : Record.read d c off with
  | error cause => rw [hrecord] at h; cases h
  | ok r =>
    simp only [hrecord, bind, Except.bind] at h
    split at h
    · next hcommon => exact ⟨r, rfl, hcommon⟩
    · cases h

/-- Where a common entry can be read under one convention, there is none under the other. -/
theorem CommonEntry.read_other {entry : CommonEntry} (h : read d c off = .ok entry)
    (hne : c ≠ c') : ∃ cause, read d c' off = .error cause ∧ cause.aboutRecord = true := by
  obtain ⟨r, hrecord, hcommon⟩ := read_record h
  rcases Record.read_other hrecord c' with ⟨r', hrecord', hid⟩ | hshort
  · have hcommon' : r'.isCommon d c' = false := by
      rw [Bool.eq_false_iff]
      intro hcommon'
      have hoctet := Record.octet_of_isCommon hrecord hcommon
      have hoctet' := Record.octet_of_isCommon hrecord' hcommon'
      rw [hid, hoctet, Option.some.injEq] at hoctet'
      exact hne (Convention.commonOctet_inj hoctet')
    refine ⟨.notCommonEntry off, ?_, rfl⟩
    simp only [read, hrecord', bind, Except.bind, hcommon']
    rfl
  · refine ⟨.recordTooShort off, ?_, rfl⟩
    simp only [read, hshort, bind, Except.bind]

/-- An entry can be read under one convention only. -/
theorem CommonEntry.convention_unique {entry entry' : CommonEntry}
    (h : read d c off = .ok entry) (h' : read d c' off = .ok entry') : c = c' := by
  by_cases hne : c = c'
  · exact hne
  · obtain ⟨cause, herror, -⟩ := read_other h hne
    rw [herror] at h'
    cases h'

namespace Section

variable {s : Section}

/-! ## What a record contributes -/

/-- The offsets of the common entries that the frame descriptions of a section refer to. -/
def references (s : Section) (c : Convention) : List Nat :=
  (Chain.read s.bytes c).records.filterMap (s.reference? c)

theorem outcomeBy_of_reference {entry : Nat → Except DecodeError CommonEntry}
    (h : s.reference? c r = some off) :
    s.outcomeBy c entry r =
      match (entry off).bind (s.describe · r) with
      | .ok f => .function f
      | .error cause => .skipped cause := by
  unfold reference? at h
  split at h
  · cases h
  · next hcommon =>
    cases hoff : r.entryOffset s.bytes c with
    | error cause => rw [hoff] at h; cases h
    | ok off' =>
      rw [hoff] at h
      cases h
      simp only [outcomeBy, hcommon, hoff, Except.bind]
      rfl

/-- What a record contributes is decided by the entry at the offset that it refers to. -/
theorem outcomeBy_congr {entry entry' : Nat → Except DecodeError CommonEntry}
    (h : ∀ off, s.reference? c r = some off → entry off = entry' off) :
    s.outcomeBy c entry r = s.outcomeBy c entry' r := by
  cases hoff : s.reference? c r with
  | some off => rw [outcomeBy_of_reference hoff, outcomeBy_of_reference hoff, h off hoff]
  | none =>
    unfold reference? at hoff
    unfold outcomeBy
    split at hoff
    · next hcommon => rw [if_pos hcommon, if_pos hcommon]
    · cases hread : r.entryOffset s.bytes c with
      | error cause => rfl
      | ok off => rw [hread] at hoff; cases hoff

/-- A frame description with some common entry contributes something else than one without. -/
theorem outcomeBy_ne {entry entry' : Nat → Except DecodeError CommonEntry} {e : CommonEntry}
    {cause : DecodeError} (href : s.reference? c r = some off) (hentry : entry off = .ok e)
    (hentry' : entry' off = .error cause) (hcause : cause.aboutRecord = true) :
    s.outcomeBy c entry r ≠ s.outcomeBy c entry' r := by
  rw [outcomeBy_of_reference href, outcomeBy_of_reference href, hentry, hentry']
  simp only [Except.bind]
  cases hdescribe : s.describe e r with
  | ok f => exact Outcome.noConfusion
  | error cause' =>
    intro heq
    cases heq
    rw [s.describe_failsInField e r _ hdescribe] at hcause
    cases hcause

/-! ## Leaks -/

/-- A pass under the earlier convention leaves an entry behind that a frame description under the
later one, which is another, refers to. -/
def Leaks (s : Section) (earlier later : Convention) : Prop :=
  earlier ≠ later ∧ ∃ off ∈ s.references earlier, off ∈ s.references later ∧
    ∃ entry, CommonEntry.read s.bytes earlier off = .ok entry

/-- The entries kept are those that passes under the conventions `before` leave behind. -/
def KeepsAfter (s : Section) (before : List Convention) (cache : EntryCache) : Prop :=
  ∀ off entry, cache[off]? = some entry ↔
    ∃ c ∈ before, off ∈ s.references c ∧ CommonEntry.read s.bytes c off = .ok entry

variable {before : List Convention} {cache : EntryCache}

theorem keepsAfter_nil : s.KeepsAfter [] {} := by
  intro off entry
  simp

theorem KeepsAfter.scanWith (h : s.KeepsAfter before cache) (c : Convention) :
    s.KeepsAfter (before ++ [c]) (s.scanWith c cache).2 := by
  intro off entry
  have hkept : (s.scanWith c cache).2[off]? =
      cache[off]?.or (if off ∈ s.references c then s.readable? c off else none) :=
    s.getElem?_visitAll c cache _ off
  rw [hkept]
  cases hoff : cache[off]? with
  | some entry' =>
    obtain ⟨c', hc', href', hread'⟩ := (h off entry').1 hoff
    constructor
    · intro heq
      cases heq
      exact ⟨c', List.mem_append_left _ hc', href', hread'⟩
    · -- No two conventions can read an entry at one offset, so what is kept is not overwritten.
      rintro ⟨c'', -, -, hread⟩
      cases CommonEntry.convention_unique hread hread'
      rw [hread] at hread'
      cases hread'
      rfl
  | none =>
    simp only [Option.none_or, Option.ite_none_right_eq_some, readable?_eq_some_iff]
    constructor
    · rintro ⟨href, hread⟩
      exact ⟨c, by simp, href, hread⟩
    · rintro ⟨c', hc', href, hread⟩
      rcases List.mem_append.1 hc' with hc' | hc'
      · have hsome := (h off entry).2 ⟨c', hc', href, hread⟩
        rw [hoff] at hsome
        cases hsome
      · cases List.mem_singleton.1 hc'
        exact ⟨href, hread⟩

theorem KeepsAfter.entryFrom_eq (h : s.KeepsAfter before cache)
    (hleaks : ∀ earlier ∈ before, ¬ s.Leaks earlier c) (hoff : off ∈ s.references c) :
    s.entryFrom c cache off = CommonEntry.read s.bytes c off := by
  rw [Section.entryFrom_eq]
  cases hkept : cache[off]? with
  | none => rfl
  | some entry =>
    obtain ⟨c', hc', href', hread'⟩ := (h off entry).1 hkept
    by_cases hne : c' = c
    · rw [← hne, hread']
      rfl
    · exact absurd ⟨hne, off, href', hoff, entry, hread'⟩ (hleaks c' hc')

/-- A pass scans what a scan on its own does iff nothing leaks from the passes before it. -/
theorem KeepsAfter.scanWith_fst_iff (h : s.KeepsAfter before cache) (c : Convention) :
    (s.scanWith c cache).1 = s.scan c ↔ ∀ earlier ∈ before, ¬ s.Leaks earlier c := by
  have halone : s.scan c = s.scanAnew c := keeps_empty.scanWith
  rw [halone, scanAnew, scanWith_fst, ← outcomeBy_read]
  constructor
  · rintro heq earlier hearlier ⟨hne, off, href, href', entry, hread⟩
    obtain ⟨r, hr, hrefers⟩ := List.mem_filterMap.1 href'
    obtain ⟨cause, herror, hcause⟩ := CommonEntry.read_other hread hne
    have hkept : s.entryFrom c cache off = .ok entry := by
      rw [Section.entryFrom_eq, (h off entry).2 ⟨earlier, hearlier, href, hread⟩]
      rfl
    have hvisit := List.map_inj_left.1 (Scan.mk.inj heq).1 r hr
    exact outcomeBy_ne hrefers hkept herror hcause (Visit.mk.inj hvisit).2
  · intro hleaks
    have hvisits : ∀ r ∈ (Chain.read s.bytes c).records,
        (⟨r, s.outcomeBy c (s.entryFrom c cache) r⟩ : Visit) =
          ⟨r, s.outcomeBy c (CommonEntry.read s.bytes c) r⟩ := by
      intro r hr
      congr 1
      exact outcomeBy_congr fun off hoff =>
        h.entryFrom_eq hleaks (List.mem_filterMap.2 ⟨r, hr, hoff⟩)
    simp only [List.map_congr_left hvisits]

/-- Passes one after the other give what scans on their own give iff nothing leaks from a pass into
a later one. Under one convention nothing does. -/
theorem scanPasses_eq_map_scan_iff (s : Section) (cs : List Convention) :
    s.scanPasses cs = cs.map s.scan ↔
      cs.Pairwise fun earlier later => ¬ s.Leaks earlier later := by
  suffices hgo : ∀ before cache, s.KeepsAfter before cache →
      (scanPasses.go s cs cache = cs.map s.scan ↔
        (∀ earlier ∈ before, ∀ later ∈ cs, ¬ s.Leaks earlier later) ∧
          cs.Pairwise fun earlier later => ¬ s.Leaks earlier later) by
    refine (hgo [] {} keepsAfter_nil).trans (and_iff_right fun earlier hearlier => ?_)
    cases hearlier
  induction cs with
  | nil =>
    intro before cache h
    simp [scanPasses.go]
  | cons c cs ih =>
    intro before cache h
    simp only [scanPasses.go, List.map_cons, List.cons.injEq, h.scanWith_fst_iff,
      ih _ _ (h.scanWith c), List.pairwise_cons, List.mem_append, List.mem_cons]
    grind

/-- Two records. Under `.eh_frame` the first is a common entry and the second refers to it; under
`.debug_frame` the first is a frame description that refers to itself. -/
def twoFaced : Section where
  bytes := #[20, 0, 0, 0, 0, 0, 0, 0, 1, 0, 1, 0x78, 16, 0, 0, 0, 16, 0, 0, 0, 0, 0, 0, 0,
    20, 0, 0, 0, 28, 0, 0, 0, 0, 0x10, 0x40, 0, 0, 0, 0, 0, 32, 0, 0, 0, 0, 0, 0, 0]
  base := 0

/-- After a pass under the one convention, a pass under the other finds a function with the entry
that the first left behind, and without it none. -/
theorem scanPasses_twoFaced :
    (twoFaced.scanPasses [.ehFrame, .debugFrame]).map (·.candidates) =
        [[⟨"FUNC_0x401000", 0x401000, 32⟩], [⟨"FUNC_0x1078010001", 0x1078010001, 16⟩]] ∧
      ([Convention.ehFrame, .debugFrame].map twoFaced.scan).map (·.candidates) =
        [[⟨"FUNC_0x401000", 0x401000, 32⟩], []] := by
  decide +kernel

end Section

end Cfi

end FunctionBounds
