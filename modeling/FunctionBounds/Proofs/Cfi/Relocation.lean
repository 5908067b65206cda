import FunctionBounds.Proofs.Cfi.Completeness
import FunctionBounds.Proofs.Field.Locality
import Mathlib.Data.List.Forall2

/-!
# Sections at another address

What becomes of a scan if the section stands at another address.

- **Pointers** (`readPointer_moved`): an address that is relative to the section moves with it,
  modulo the number of addresses. One that is absolute or aligned does not, and whether there is an
  address at all does not depend on where the section stands.
- **Visits** (`Section.Relocated`): what a record contributes before and after the move. The records
  and the reasons for skipping one are the same, and so are the notes (`Relocated.note?_eq`).
- **Order** (`Candidate.SortedFrom`): the functions of a scan are sorted by start, which may be in
  another order after the move, since addresses wrap around.

`Section.scan_moved` says so of every section, both conventions and every distance.
-/

namespace FunctionBounds

/-! ## Pointers -/

/-- Whether a number is relative to where the section stands. -/
def Application.isRelative : Application → Bool
  | absolute => false
  | fieldRelative => true
  | dataRelative => true

/-- Whether the addresses of an encoding are relative to where the section stands. -/
def Encoding.isRelative (encoding : Int) : Bool := (application? encoding).any (·.isRelative)

/-- What pointers are relative to if the section stands `δ` further on. -/
def PointerBase.moved (b : PointerBase) (δ : Int) : PointerBase :=
  { b with sectionAddress := b.sectionAddress + δ, dataAddress := b.dataAddress.map (· + δ) }

theorem PointerBase.resolve_moved (b : PointerBase) (δ : Int) (off : Nat) (a : Application) :
    (b.moved δ).resolve off a = b.resolve off a + if a.isRelative then δ else 0 := by
  cases a with
  | absolute => rfl
  | fieldRelative =>
    simp only [resolve, moved, Application.isRelative, if_true]
    omega
  | dataRelative =>
    cases hdata : b.dataAddress <;>
      simp only [resolve, moved, hdata, Application.isRelative, if_true] <;> rfl

/-- An address that stands `δ` further on. -/
def movedAddress (address : Nat) (δ : Int) : Nat := ((address + δ) % addressCount).toNat

theorem movedAddress_wrapped (x δ : Int) :
    movedAddress (x % addressCount).toNat δ = ((x + δ) % addressCount).toNat := by
  have hnonneg : 0 ≤ x % addressCount := Int.emod_nonneg x (by decide)
  rw [movedAddress, Int.toNat_of_nonneg hnonneg, Int.emod_add_emod]

theorem Encoding.application?_aligned {encoding : Int} (h : application encoding = aligned) :
    application? encoding = none := by
  rw [application?, h]
  rfl

theorem Encoding.application_of_application? {encoding : Int} {a : Application}
    (h : application? encoding = some a) : application encoding = a.code := by
  have hcode := List.find?_some h
  exact (beq_iff_eq.1 hcode).symm

/-- An encoding with which an address can be read is absolute, aligned or relative. -/
theorem Bytes.application_of_readPointer {d : Bytes} {b : PointerBase} {encoding : Int} {off : Nat}
    {p : Nat × Nat} (h : d.readPointer b encoding off = .ok p) :
    if Encoding.isRelative encoding then
      Encoding.application encoding = Application.fieldRelative.code ∨
        Encoding.application encoding = Application.dataRelative.code
    else
      Encoding.application encoding = Application.absolute.code ∨
        Encoding.application encoding = Encoding.aligned := by
  cases happ : Encoding.application? encoding with
  | some a =>
    rw [Encoding.isRelative, happ, Encoding.application_of_application? happ]
    cases a <;> decide
  | none =>
    have hfixed : Encoding.isRelative encoding = false := by
      rw [Encoding.isRelative, happ]
      rfl
    rw [hfixed, if_neg (by decide)]
    by_cases haligned : Encoding.application encoding = Encoding.aligned
    · exact .inr haligned
    · unfold readPointer at h
      split at h
      · cases h
      · split at h
        · cases h
        · obtain ⟨v, -, h⟩ := bind_eq_ok_iff.1 h
          simp only [happ] at h
          cases h

/-- A pointer after the move: the address is another one only if it is relative. -/
theorem Bytes.readPointer_moved (d : Bytes) (b : PointerBase) (δ encoding : Int) (off : Nat) :
    d.readPointer (b.moved δ) encoding off =
      (d.readPointer b encoding off).map fun p =>
        (if Encoding.isRelative encoding then movedAddress p.1 δ else p.1, p.2) := by
  have hsize : (b.moved δ).addressSize = b.addressSize := rfl
  unfold readPointer
  rw [hsize]
  split
  · rfl
  · split
    · rfl
    · split
      · next haligned =>
        have hfixed : Encoding.isRelative encoding = false := by
          rw [Encoding.isRelative, Encoding.application?_aligned haligned]
          rfl
        rw [hfixed]
        cases d.readUnsigned (addressWidth b.addressSize) (alignedOffset off b.addressSize) <;> rfl
      · cases d.readEncodedValue encoding b.addressSize off with
        | error cause => rfl
        | ok p =>
          simp only [bind, Except.bind]
          cases happ : Encoding.application? encoding with
          | none => rfl
          | some a =>
            simp only [Encoding.isRelative, happ, Option.any_some, b.resolve_moved]
            cases a.isRelative with
            | false =>
              simp only [Bool.false_eq_true, if_false, Int.add_zero]
              rfl
            | true =>
              simp only [if_true, Except.map, pure, Except.pure, movedAddress_wrapped,
                Int.add_right_comm]

/-! ## Functions -/

/-- The candidate of a range of which only the addresses are known. -/
def Candidate.ofRange (start size : Nat) : Candidate := ⟨nameAt start, start, size⟩

namespace Cfi

/-- The same section at an address that is `δ` further on. -/
def Section.moved (s : Section) (δ : Int) : Section := { s with base := s.base + δ }

namespace Section

variable {s : Section} {c : Convention} {δ : Int} {r : Record}

/-- The function of a frame description after the move, given its common entry. -/
theorem describe_moved (s : Section) (δ : Int) (entry : CommonEntry) (r : Record) :
    (s.moved δ).describe entry r =
      (s.describe entry r).map fun f => .ofRange
        (if Encoding.isRelative entry.encoding then movedAddress f.start δ else f.start)
        f.size := by
  have hread := s.bytes.readPointer_moved
    { sectionAddress := s.base, addressSize := entry.addressSize } δ entry.encoding r.body
  have hbase : PointerBase.moved { sectionAddress := s.base, addressSize := entry.addressSize } δ =
      { sectionAddress := (s.moved δ).base, addressSize := entry.addressSize } := rfl
  have hbytes : (s.moved δ).bytes = s.bytes := rfl
  rw [hbase] at hread
  simp only [describe, hbytes, hread]
  cases s.bytes.readPointer { sectionAddress := s.base, addressSize := entry.addressSize }
      entry.encoding r.body with
  | error cause => rfl
  | ok start =>
    simp only [Except.map, bind, Except.bind]
    cases s.bytes.readEncodedValue entry.encoding entry.addressSize start.2 with
    | error cause => rfl
    | ok size =>
      simp only
      split
      · rfl
      · split <;> rfl

theorem describe_eq_ofRange {entry : CommonEntry} {f : Candidate}
    (h : s.describe entry r = .ok f) : f = .ofRange f.start f.size := by
  obtain ⟨start, -, h⟩ := bind_eq_ok_iff.1 h
  obtain ⟨size, -, h⟩ := bind_eq_ok_iff.1 h
  by_cases hstop : r.stop < size.2
  · simp only [if_pos hstop] at h
    cases h
  · simp only [if_neg hstop] at h
    by_cases hneg : size.1 < 0
    · simp only [if_pos hneg] at h
      cases h
    · simp only [if_neg hneg] at h
      cases h
      rfl

/-! ## Visits -/

/-- What a record contributes before the section moves and after it. -/
inductive Relocated (s : Section) (c : Convention) (δ : Int) : Visit → Visit → Prop where
  | commonEntry (r : Record) : Relocated s c δ ⟨r, .commonEntry⟩ ⟨r, .commonEntry⟩
  /-- A record that is skipped is skipped for the same reason. -/
  | skipped (r : Record) (cause : DecodeError) :
    Relocated s c δ ⟨r, .skipped cause⟩ ⟨r, .skipped cause⟩
  /-- An address that is relative to the section moves with it, and so does the name. -/
  | relative {r : Record} {off start size : Nat} {entry : CommonEntry}
    (hoff : r.entryOffset s.bytes c = .ok off)
    (hentry : CommonEntry.read s.bytes c off = .ok entry)
    (happlication : Encoding.application entry.encoding = Application.fieldRelative.code ∨
      Encoding.application entry.encoding = Application.dataRelative.code) :
    Relocated s c δ ⟨r, .function (.ofRange start size)⟩
      ⟨r, .function (.ofRange ((start + δ) % addressCount).toNat size)⟩
  /-- An address that is absolute or aligned stays. -/
  | fixed {r : Record} {off start size : Nat} {entry : CommonEntry}
    (hoff : r.entryOffset s.bytes c = .ok off)
    (hentry : CommonEntry.read s.bytes c off = .ok entry)
    (happlication : Encoding.application entry.encoding = Application.absolute.code ∨
      Encoding.application entry.encoding = Encoding.aligned) :
    Relocated s c δ ⟨r, .function (.ofRange start size)⟩ ⟨r, .function (.ofRange start size)⟩

/-- A record that cannot be decoded cannot be decoded after the move. -/
theorem function_moved_error {cause : DecodeError} (h : s.function c r = .error cause) :
    (s.moved δ).function c r = .error cause := by
  unfold function at h ⊢
  rw [show (s.moved δ).bytes = s.bytes from rfl]
  cases hoff : r.entryOffset s.bytes c with
  | error cause' => rw [hoff] at h; exact h
  | ok off =>
    rw [hoff] at h
    simp only [bind, Except.bind] at h ⊢
    cases hentry : CommonEntry.read s.bytes c off with
    | error cause' => rw [hentry] at h; exact h
    | ok entry =>
      rw [hentry] at h
      simp only at h ⊢
      rw [describe_moved, h]
      rfl

theorem outcome_moved (s : Section) (c : Convention) (δ : Int) (r : Record) :
    s.Relocated c δ ⟨r, s.outcome c r⟩ ⟨r, (s.moved δ).outcome c r⟩ := by
  have hbytes : (s.moved δ).bytes = s.bytes := rfl
  by_cases hcommon : r.isCommon s.bytes c = true
  · simp only [outcome, hbytes, if_pos hcommon]
    exact .commonEntry r
  · simp only [outcome, hbytes, if_neg hcommon]
    cases hf : s.function c r with
    | error cause =>
      rw [function_moved_error hf]
      exact .skipped r cause
    | ok f =>
      obtain ⟨off, hoff, h⟩ := bind_eq_ok_iff.1 hf
      obtain ⟨entry, hentry, hdescribe⟩ := bind_eq_ok_iff.1 h
      obtain ⟨p, hpointer, -⟩ := bind_eq_ok_iff.1 hdescribe
      have happlication := Bytes.application_of_readPointer hpointer
      have hmoved : (s.moved δ).function c r = .ok (.ofRange
          (if Encoding.isRelative entry.encoding then movedAddress f.start δ else f.start)
          f.size) := by
        refine bind_eq_ok_iff.2 ⟨off, hoff, bind_eq_ok_iff.2 ⟨entry, hentry, ?_⟩⟩
        rw [describe_moved, hdescribe]
        rfl
      rw [hmoved]
      rw [describe_eq_ofRange hdescribe]
      split at happlication
      · next hrelative =>
        simp only [if_pos hrelative]
        exact .relative hoff hentry happlication
      · next hrelative =>
        simp only [if_neg hrelative]
        exact .fixed hoff hentry happlication

theorem scan_moved_visits (s : Section) (c : Convention) (δ : Int) :
    List.Forall₂ (s.Relocated c δ) (s.scan c).visits ((s.moved δ).scan c).visits := by
  rw [scan_visits, scan_visits, List.forall₂_map_left_iff, List.forall₂_map_right_iff]
  exact List.forall₂_same.2 fun r _ => s.outcome_moved c δ r

theorem scan_stop (s : Section) (c : Convention) :
    (s.scan c).stop = (Chain.read s.bytes c).stop := rfl

theorem scan_ending (s : Section) (c : Convention) :
    (s.scan c).ending = (Chain.read s.bytes c).ending := rfl

/-- A section that moves keeps its chain of records. -/
theorem scan_moved_end (s : Section) (c : Convention) (δ : Int) :
    ((s.moved δ).scan c).stop = (s.scan c).stop ∧
      ((s.moved δ).scan c).ending = (s.scan c).ending := by
  have hbytes : (s.moved δ).bytes = s.bytes := rfl
  simp only [scan_stop, scan_ending, hbytes, and_self]

/-! ## Reports -/

theorem Relocated.note?_eq {v v' : Visit} (h : s.Relocated c δ v v') : v'.note? = v.note? := by
  cases h <;> simp only [Visit.note?]

theorem Relocated.unwritable?_eq {v v' : Visit} (h : s.Relocated c δ v v')
    (l : Text.DigitLimit) : v'.unwritable? l = v.unwritable? l := by
  cases h <;> simp only [Visit.unwritable?]

/-- The notes about visits, all of them and those before the first that cannot be written. -/
theorem notes_relocated {vs vs' : List Visit} (h : List.Forall₂ (s.Relocated c δ) vs vs')
    (l : Text.DigitLimit) :
    vs'.filterMap (·.note?) = vs.filterMap (·.note?) ∧
      vs'.findSome? (·.unwritable? l) = vs.findSome? (·.unwritable? l) ∧
      (vs'.takeWhile fun v => (v.unwritable? l).isNone).filterMap (·.note?) =
        (vs.takeWhile fun v => (v.unwritable? l).isNone).filterMap (·.note?) := by
  induction h with
  | nil => exact ⟨rfl, rfl, rfl⟩
  | cons hv _ ih =>
    obtain ⟨hnotes, hfound, hwritten⟩ := ih
    refine ⟨?_, ?_, ?_⟩
    · rw [List.filterMap_cons, List.filterMap_cons, hv.note?_eq, hnotes]
    · rw [List.findSome?_cons, List.findSome?_cons, hv.unwritable?_eq, hfound]
    · rw [List.takeWhile_cons, List.takeWhile_cons, hv.unwritable?_eq]
      split
      · rw [List.filterMap_cons, List.filterMap_cons, hv.note?_eq, hwritten]
      · rfl

/-- A report after the move: the same notes, the same error, or the functions that were found. -/
theorem report_moved (s : Section) (c : Convention) (δ : Int) (l : Text.DigitLimit) :
    ((s.moved δ).scan c).report l =
      let report := (s.scan c).report l
      ⟨report.result.map fun _ => ((s.moved δ).scan c).candidates, report.notes⟩ := by
  obtain ⟨hnotes, hfound, hwritten⟩ := notes_relocated (s.scan_moved_visits c δ) l
  have hstop : ((s.moved δ).scan c).stopNote? = (s.scan c).stopNote? := by
    simp only [Scan.stopNote?, s.scan_moved_end c δ]
  simp only [Scan.report, Scan.notes, hnotes, hfound, hwritten, hstop]
  cases (s.scan c).visits.findSome? (·.unwritable? l) <;> rfl

end Section

end Cfi

/-! ## Order -/

/-- The candidates found, by start; those of equal start stand in the order found. -/
structure Candidate.SortedFrom (sorted found : List Candidate) : Prop where
  perm : sorted.Perm found
  pairwise : sorted.Pairwise (·.start ≤ ·.start)
  stable : ∀ start, sorted.filter (·.start == start) = found.filter (·.start == start)

theorem Candidate.sortedFrom_sorted (found : List Candidate) :
    SortedFrom (sorted found) found :=
  ⟨Cfi.sorted_perm found, Cfi.sorted_pairwise found, Cfi.filter_sorted found⟩

namespace Cfi.Section

/-- A scan of a section, and one of the same octets at an address that is `δ` further on. They come
to the same records, end at the same place for the same reason and skip the same records with the
same notes. A function has the same size in both; its start moves with the section if it is relative
to it, modulo the number of addresses, and stays if it is absolute or aligned. What each reports are
its functions by start, those of equal start in the order of the section, unless a note that is the
same in both cannot be written. -/
theorem scan_moved (s : Section) (c : Convention) (δ : Int) :
    let here := s.scan c
    let there := (s.moved δ).scan c
    List.Forall₂ (s.Relocated c δ) here.visits there.visits ∧
      there.stop = here.stop ∧ there.ending = here.ending ∧
      (∀ scan ∈ [here, there],
        Candidate.SortedFrom scan.candidates (scan.visits.filterMap (·.candidate?)) ∧
          scan.report none = ⟨.ok scan.candidates, here.notes⟩) ∧
      ∀ l, there.report l =
        ⟨(here.report l).result.map fun _ => there.candidates, (here.report l).notes⟩ := by
  intro here there
  have hreport : there.report none = ⟨.ok there.candidates, here.notes⟩ := by
    rw [s.report_moved c δ none, Scan.report_none]
    rfl
  obtain ⟨hstop, hending⟩ := s.scan_moved_end c δ
  refine ⟨s.scan_moved_visits c δ, hstop, hending, fun scan hscan => ⟨?_, ?_⟩, s.report_moved c δ⟩
  · exact Candidate.sortedFrom_sorted _
  · rcases List.mem_cons.1 hscan with rfl | hscan
    · exact Scan.report_none _
    · rw [List.mem_singleton.1 hscan]
      exact hreport

end Cfi.Section

end FunctionBounds
