import FunctionBounds.Cfi.Scan
import Std.Data.TreeMap.Lemmas

/-!
# The cache of common entries

A scan keeps the common entries that it could read. It gives what a scan gives that reads the common
entry of every frame description anew.

- **Reading anew** (`Section.function`, `Section.outcome`): what a record contributes, without a
  cache.
- **Invariant** (`Section.Sound`): a cache holds at an offset only what can be read there. A visit
  keeps it and contributes the same (`Sound.visit`), and so do visits one after the other
  (`Sound.visitAll`).

`Section.scan_visits` says so of a whole scan.
-/

namespace FunctionBounds.Cfi.Section

variable {s : Section} {c : Convention} {cache : EntryCache}

/-- The function of a record that is a frame description; its common entry is read anew. -/
def function (s : Section) (c : Convention) (r : Record) : Except DecodeError Candidate := do
  let off ← r.entryOffset s.bytes c
  let entry ← CommonEntry.read s.bytes c off
  s.describe entry r

/-- What a record contributes; its common entry is read anew. -/
def outcome (s : Section) (c : Convention) (r : Record) : Outcome :=
  if r.isCommon s.bytes c then .commonEntry
  else
    match s.function c r with
    | .ok f => .function f
    | .error cause => .skipped cause

/-- A cache holds at an offset only the common entry that can be read there. -/
def Sound (s : Section) (c : Convention) (cache : EntryCache) : Prop :=
  ∀ off entry, cache[off]? = some entry → CommonEntry.read s.bytes c off = .ok entry

theorem sound_empty : s.Sound c {} := by
  intro off entry h
  simp at h

theorem Sound.insert (h : s.Sound c cache) {off : Nat} {entry : CommonEntry}
    (hread : CommonEntry.read s.bytes c off = .ok entry) : s.Sound c (cache.insert off entry) := by
  intro off' entry' h'
  rw [Std.TreeMap.getElem?_insert] at h'
  split at h'
  · next heq =>
    cases h'
    rw [← Nat.compare_eq_eq.1 heq]
    exact hread
  · exact h off' entry' h'

theorem Sound.entryAt (h : s.Sound c cache) (off : Nat) :
    (s.entryAt c cache off).1 = CommonEntry.read s.bytes c off ∧
      s.Sound c (s.entryAt c cache off).2 := by
  unfold Section.entryAt
  split
  · next entry hc => exact ⟨(h off entry hc).symm, h⟩
  · split
    · next entry hread => exact ⟨hread.symm, h.insert hread⟩
    · next cause hread => exact ⟨hread.symm, h⟩

theorem Sound.candidate (h : s.Sound c cache) (r : Record) :
    (s.candidate c cache r).1 = s.function c r ∧ s.Sound c (s.candidate c cache r).2 := by
  unfold Section.candidate Section.function
  cases hoff : r.entryOffset s.bytes c with
  | error cause => exact ⟨rfl, h⟩
  | ok off =>
    obtain ⟨hentry, hsound⟩ := h.entryAt off
    exact ⟨congrArg (·.bind (s.describe · r)) hentry, hsound⟩

theorem Sound.visit (h : s.Sound c cache) (r : Record) :
    (s.visit c cache r).1 = ⟨r, s.outcome c r⟩ ∧ s.Sound c (s.visit c cache r).2 := by
  obtain ⟨hfunction, hsound⟩ := h.candidate r
  unfold Section.visit outcome
  split
  · exact ⟨rfl, h⟩
  · rw [← hfunction]
    split
    · next f cache' hc => rw [hc] at hsound ⊢; exact ⟨rfl, hsound⟩
    · next cause cache' hc => rw [hc] at hsound ⊢; exact ⟨rfl, hsound⟩

@[simp] theorem visitAll_nil (s : Section) (c : Convention) (cache : EntryCache) :
    s.visitAll c cache [] = ([], cache) := rfl

/-- The fold over records puts visits in front of those it already has. -/
theorem foldl_visit (s : Section) (c : Convention) (records : List Record) (before : List Visit)
    (cache : EntryCache) :
    records.foldl (fun p r => ((s.visit c p.2 r).1 :: p.1, (s.visit c p.2 r).2)) (before, cache) =
      ((s.visitAll c cache records).1.reverse ++ before, (s.visitAll c cache records).2) := by
  induction records generalizing before cache with
  | nil => rfl
  | cons r records ih =>
    have hcons : s.visitAll c cache (r :: records) =
        let p := records.foldl (fun p r => ((s.visit c p.2 r).1 :: p.1, (s.visit c p.2 r).2))
          ([(s.visit c cache r).1], (s.visit c cache r).2)
        (p.1.reverse, p.2) := rfl
    rw [List.foldl_cons, ih, hcons, ih]
    simp

@[simp] theorem visitAll_cons (s : Section) (c : Convention) (cache : EntryCache) (r : Record)
    (records : List Record) :
    s.visitAll c cache (r :: records) =
      ((s.visit c cache r).1 :: (s.visitAll c (s.visit c cache r).2 records).1,
        (s.visitAll c (s.visit c cache r).2 records).2) := by
  have h := foldl_visit s c (r :: records) [] cache
  rw [List.foldl_cons, foldl_visit, Prod.mk.injEq] at h
  obtain ⟨hvisits, hcache⟩ := h
  refine Prod.ext ?_ hcache.symm
  simpa using congrArg List.reverse hvisits.symm

theorem Sound.visitAll (h : s.Sound c cache) (records : List Record) :
    (s.visitAll c cache records).1 = records.map (fun r => ⟨r, s.outcome c r⟩) ∧
      s.Sound c (s.visitAll c cache records).2 := by
  induction records generalizing cache with
  | nil => exact ⟨rfl, h⟩
  | cons r records ih =>
    obtain ⟨hvisit, hsound⟩ := h.visit r
    obtain ⟨hrest, hsound'⟩ := ih hsound
    rw [visitAll_cons]
    exact ⟨by rw [hrest, hvisit, List.map_cons], hsound'⟩

/-- The visits of a scan are those of its records, with every common entry read anew. -/
theorem scan_visits (s : Section) (c : Convention) :
    (s.scan c).visits =
      (Chain.read s.bytes c).records.map fun r => ⟨r, s.outcome c r⟩ :=
  (sound_empty.visitAll _).1

end FunctionBounds.Cfi.Section
