import FunctionBounds.Proofs.Cfi.Cache
import FunctionBounds.Proofs.Cfi.Records
import FunctionBounds.Proofs.Field.Progress
import FunctionBounds.Proofs.Session.Opening
import Std.Do.WP.SimpLemmas

/-!
# Checked scanners

The scanners once more, step by step: every octet, every field outside a record that may be skipped
and every candidate is checked where it is used, a loop has a number of rounds, and what nothing
handles gets out (`Escape`). Nothing but the errors that a scanner announces ever does.

- **Call-frame sections** (`checkedScan_eq`): nothing gets out, and the walk ends within one round
  for every eight octets and one more.
- **Search tables** (`checkedScan_eq`, `scan_bounded`): what gets out says why there is no table. A
  row has at least two octets, and there are as many candidates as the header states.
- **Symbol tables** (`checkedScan_eq`): what gets out is a table of the wrong size.
-/

namespace FunctionBounds

open Text (hex hexDigitsUpper)

/-- What ends a computation in which nothing handles it. -/
inductive Escape where
  /-- A field or a record cannot be decoded. -/
  | decoding (cause : DecodeError)
  /-- An octet or a record is taken that is not inside. -/
  | outside (offset size : Nat)
  /-- A draft is no candidate. -/
  | invalid (cause : Candidate.Error)
  | searchTable (cause : Cfi.SearchTable.Error)
  | symbolTable (cause : SymbolTable.SizeError)
  | missing (region : MissingRegion)
  /-- A loop goes on after its last round. -/
  | endless
  deriving DecidableEq, Repr

/-- The candidate of a range, if the range is one. -/
def validated (name : String) (start size : Int) : Except Escape Candidate :=
  (Candidate.Draft.ofRange name start size).check.mapError .invalid

theorem validated_of_nonneg {name : String} {start size : Int} (hstart : 0 ≤ start)
    (hsize : 0 ≤ size) : validated name start size = .ok ⟨name, start.toNat, size.toNat⟩ := by
  have hfaults : (Candidate.Draft.ofRange name start size).faults = [] := by
    simp only [Candidate.Draft.faults, Candidate.Draft.ofRange, Candidate.Fault.ofNumber?]
    rw [if_neg (by omega), if_neg (by omega), if_neg (by omega)]
    rfl
  rw [validated, Candidate.Draft.check, hfaults]
  simp only [Candidate.Draft.ofRange, if_true]
  rfl

/-! ## Call-frame sections -/

namespace Cfi.Section

variable {s : Section} {c : Convention} {cache : EntryCache}

/-- The function of a frame description, given its common entry. -/
def checkedDescribe (s : Section) (entry : CommonEntry) (r : Record) : Except Escape Candidate := do
  let base : PointerBase := { sectionAddress := s.base, addressSize := entry.addressSize }
  let (start, off) ← (s.bytes.readAddress base entry.encoding r.body).mapError .decoding
  let (size, off) ←
    (s.bytes.readEncodedValue entry.encoding entry.addressSize off).mapError .decoding
  if r.stop < off then throw (.decoding .descriptionOverrun)
  if size < 0 then throw (.decoding (.negativeRange size))
  validated ("FUNC_" ++ hex start) start size

/-- Where a record with an identifier says that its common entry stands, maybe before the start of
the section. -/
def entryPlace (c : Convention) (r : Record) (id : Nat) : Int :=
  match c with
  | .ehFrame => r.idOffset - id
  | .debugFrame => id

/-- The function of a record with an identifier. -/
def checkedCandidate (s : Section) (c : Convention) (cache : EntryCache) (r : Record) (id : Nat) :
    Except Escape Candidate × EntryCache :=
  let off := entryPlace c r id
  if off < 0 ∨ s.bytes.size ≤ off then (.error (.decoding (.entryPointer id)), cache)
  else
    match s.entryAt c cache off.toNat with
    | (.ok entry, cache) => (s.checkedDescribe entry r, cache)
    | (.error cause, cache) => (.error (.decoding cause), cache)

/-- Scans the records from an offset on, after visits that stand in reverse order. Only a record
that cannot be decoded is handled: as a frame description it is skipped, else it ends the walk. -/
def walk (s : Section) (c : Convention) :
    Nat → Nat → EntryCache → List Visit → Except Escape Scan
  | 0, _, _, _ => .error .endless
  | rounds + 1, off, cache, before =>
    if s.bytes.size < off + 4 then return ⟨before.reverse, off, .exhausted⟩
    else do
      let (length, _) ← (s.bytes.readUnsigned 4 off).mapError .decoding
      if length = 0 then return ⟨before.reverse, off, .terminator⟩
      else
        match Record.read s.bytes c off with
        | .error cause => return ⟨before.reverse, off, .undecodable cause⟩
        | .ok r => do
          let (id, _) ← (s.bytes.readUnsigned r.idWidth r.idOffset).mapError .decoding
          if id = c.commonId r.idWidth then
            s.walk c rounds r.stop cache (⟨r, .commonEntry⟩ :: before)
          else
            match s.checkedCandidate c cache r id with
            | (.ok f, cache) => s.walk c rounds r.stop cache (⟨r, .function f⟩ :: before)
            | (.error (.decoding cause), cache) =>
              s.walk c rounds r.stop cache (⟨r, .skipped cause⟩ :: before)
            | (.error escape, _) => .error escape

/-- Scans every record, in a number of rounds. -/
def checkedScan (s : Section) (c : Convention) (rounds : Nat) : Except Escape Scan :=
  s.walk c rounds 0 {} []

/-- A start and a size that are not negative make a candidate. -/
theorem checkedDescribe_eq (entry : CommonEntry) (r : Record) :
    s.checkedDescribe entry r = (s.describe entry r).mapError .decoding := by
  simp only [checkedDescribe, describe, Bytes.readPointer_eq]
  cases hstart : s.bytes.readAddress
      { sectionAddress := s.base, addressSize := entry.addressSize } entry.encoding r.body with
  | error cause => rfl
  | ok p =>
    obtain ⟨start, off⟩ := p
    have hnonneg := Bytes.readAddress_nonneg hstart
    simp only [Except.map, mapError_ok, bind, Except.bind]
    cases s.bytes.readEncodedValue entry.encoding entry.addressSize off with
    | error cause => rfl
    | ok p =>
      obtain ⟨size, off⟩ := p
      simp only [mapError_ok]
      split
      · rfl
      · split
        · rfl
        · rw [validated_of_nonneg hnonneg (by omega), Candidate.nameAt, Int.toNat_of_nonneg hnonneg]
          rfl

theorem entryOffset_eq (d : Bytes) (c : Convention) (r : Record) :
    r.entryOffset d c =
      let off := entryPlace c r (r.identifier d)
      if off < 0 ∨ d.size ≤ off then .error (.entryPointer (r.identifier d))
      else .ok off.toNat := by
  cases c with
  | ehFrame =>
    have hplace : entryPlace .ehFrame r (r.identifier d) = r.idOffset - r.identifier d := rfl
    simp only [Record.entryOffset]
    by_cases hback : r.identifier d ≤ r.idOffset
    · have hoff : (entryPlace .ehFrame r (r.identifier d)).toNat =
          r.idOffset - r.identifier d := by omega
      rw [if_pos hback, hoff]
      by_cases hinside : r.idOffset - r.identifier d < d.size
      · rw [if_neg (by omega)]
        exact if_pos hinside
      · rw [if_pos (by omega)]
        exact if_neg hinside
    · rw [if_neg hback, if_pos (Or.inl (by omega))]
  | debugFrame =>
    have hplace : entryPlace .debugFrame r (r.identifier d) = r.identifier d := rfl
    simp only [Record.entryOffset]
    by_cases hinside : r.identifier d < d.size
    · rw [if_pos hinside, if_neg (by omega), hplace, Int.toNat_natCast]
    · rw [if_neg hinside, if_pos (by omega)]

theorem checkedCandidate_eq (r : Record) :
    s.checkedCandidate c cache r (r.identifier s.bytes) =
      ((s.candidate c cache r).1.mapError .decoding, (s.candidate c cache r).2) := by
  simp only [checkedCandidate, candidate, entryOffset_eq]
  by_cases hout : entryPlace c r (r.identifier s.bytes) < 0 ∨
      s.bytes.size ≤ entryPlace c r (r.identifier s.bytes)
  · simp only [if_pos hout]
    rfl
  · simp only [if_neg hout]
    cases s.entryAt c cache (entryPlace c r (r.identifier s.bytes)).toNat with
    | mk entry cache' =>
      cases entry with
      | error cause => rfl
      | ok entry => simp only [checkedDescribe_eq, Except.bind]

section Rounds

variable {off : Nat} (rounds : Nat) (before : List Visit)

theorem walk_exhausted (h : s.bytes.size < off + 4) :
    s.walk c (rounds + 1) off cache before = .ok ⟨before.reverse, off, .exhausted⟩ := by
  rw [walk, if_pos h]
  rfl

/-- A round at an octet after which a length can be read. -/
theorem walk_succ (hsize : off + 4 ≤ s.bytes.size) :
    s.walk c (rounds + 1) off cache before =
      if s.bytes.le off 4 = 0 then .ok ⟨before.reverse, off, .terminator⟩
      else
        match Record.read s.bytes c off with
        | .error cause => .ok ⟨before.reverse, off, .undecodable cause⟩
        | .ok r =>
          s.walk c rounds r.stop (s.visit c cache r).2 ((s.visit c cache r).1 :: before) := by
  have hlength : s.bytes.readUnsigned 4 off = .ok (s.bytes.le off 4, off + 4) := if_pos hsize
  rw [walk, if_neg (by omega), hlength]
  simp only [mapError_ok, bind, Except.bind]
  split
  · rfl
  · cases hread : Record.read s.bytes c off with
    | error cause => rfl
    | ok r =>
      simp only [Record.readUnsigned_identifier hread, mapError_ok, checkedCandidate_eq, visit,
        Record.isCommon, beq_iff_eq]
      split
      · rfl
      · cases s.candidate c cache r with
        | mk found cache' => cases found <;> rfl

end Rounds

/-- A walk from the end of a record on, with what the records before it contributed, goes on like
the reading of records. -/
theorem walk_eq (h : s.Sound c cache) {rounds off : Nat} (hoff : off ≤ s.bytes.size)
    (hrounds : s.bytes.size < off + 8 * rounds) (before : List Record) :
    s.walk c rounds off cache (before.map fun r => ⟨r, s.outcome c r⟩) =
      let chain := Chain.readFrom s.bytes c off before
      .ok ⟨chain.records.map fun r => ⟨r, s.outcome c r⟩, chain.stop, chain.ending⟩ := by
  induction rounds generalizing cache off before with
  | zero => omega
  | succ rounds ih =>
    by_cases hsize : off + 4 ≤ s.bytes.size
    · rw [walk_succ rounds _ hsize]
      by_cases hzero : s.bytes.le off 4 = 0
      · rw [if_pos hzero, Chain.readFrom_terminator hsize hzero]
        simp only [List.map_reverse]
      · rw [if_neg hzero]
        cases hread : Record.read s.bytes c off with
        | error cause =>
          rw [Chain.readFrom_undecodable hsize hzero hread]
          simp only [List.map_reverse]
        | ok r =>
          -- A record has at least eight octets, so fewer rounds are needed after it.
          obtain ⟨hlong, hstop⟩ := Record.read_stop hread
          obtain ⟨hvisit, hsound⟩ := h.visit r
          rw [Chain.readFrom_step hread]
          simp only [hvisit]
          exact ih hsound hstop (by omega) (r :: before)
    · rw [walk_exhausted rounds _ (by omega), Chain.readFrom_exhausted (by omega)]
      simp only [List.map_reverse]

/-- Nothing gets out of a scan, and it ends within one round for every eight octets and one more. -/
theorem checkedScan_eq (s : Section) (c : Convention) {rounds : Nat}
    (hrounds : s.bytes.size < 8 * rounds) : s.checkedScan c rounds = .ok (s.scan c) := by
  have hwalk : s.walk c rounds 0 {} [] = _ := walk_eq sound_empty (Nat.zero_le _) (by omega) []
  have hvisits := s.scan_visits c
  rw [checkedScan, hwalk]
  simp only [Except.ok.injEq]
  rw [← Chain.read, ← hvisits]
  rfl

end Cfi.Section

/-! ## Search tables -/

/-- An octet that is taken without asking whether it is inside. -/
def octetAt (d : Bytes) (i : Nat) : Except Escape UInt8 :=
  if h : i < d.size then .ok d[i] else .error (.outside i d.size)

namespace Cfi.SearchTable

/-- The addresses of one row. -/
def readRowAddresses (d : Bytes) (base : PointerBase) (encoding off : Nat) :
    Except DecodeError ((Int × Int) × Nat) := do
  let (start, off) ← d.readAddress base encoding off
  let (description, off) ← d.readAddress base encoding off
  return ((start, description), off)

/-- Reads the last `left` of `count` rows. -/
def checkedRows (d : Bytes) (base : PointerBase) (encoding count : Nat) :
    Nat → Nat → List Candidate → Except Escape (List Candidate)
  | 0, _, before => .ok before.reverse
  | left + 1, off, before =>
    match readRowAddresses d base encoding off with
    | .error cause => .error (.searchTable (.row (count - (left + 1)) count cause))
    | .ok ((start, description), off) => do
      let f ← validated ("FUN_0x" ++ hexDigitsUpper start.toNat) start (max (description - start) 0)
      checkedRows d base encoding count left off (f :: before)

/-- The offset after the address of the call-frame section. -/
def checkedSectionAddress (d : Bytes) (base : PointerBase) (encoding off : Nat) :
    Except Escape Nat :=
  if encoding = Encoding.omitted then .ok off
  else
    match d.readAddress base encoding off with
    | .ok (_, off) => .ok off
    | .error cause => .error (.searchTable (.header cause))

/-- Reads the number of rows and the rows. -/
def checkedTable (d : Bytes) (base : PointerBase) (countEncoding rowEncoding off : Nat) :
    Except Escape (List Candidate) :=
  match d.readAddress base countEncoding off with
  | .ok (count, off) => checkedRows d base rowEncoding count.toNat count.toNat off []
  | .error cause => .error (.searchTable (.header cause))

/-- Reads the header and the rows of a table whose first octet has the address `address`. -/
def checkedScan (d : Bytes) (address : Int) : Except Escape (List Candidate) := do
  let base : PointerBase := { sectionAddress := address }
  if d.size < 4 then throw (.searchTable .tooShort)
  let version ← octetAt d 0
  let sectionEncoding ← octetAt d 1
  let countEncoding ← octetAt d 2
  let rowEncoding ← octetAt d 3
  if version ≠ 1 then throw (.searchTable (.version version.toNat))
  if countEncoding.toNat = Encoding.omitted ∨ rowEncoding.toNat = Encoding.omitted then
    throw (.searchTable .omitted)
  let off ← checkedSectionAddress d base sectionEncoding.toNat 4
  checkedTable d base countEncoding.toNat rowEncoding.toNat off

variable {d : Bytes} {base : PointerBase} {encoding count : Nat}

theorem checkedRows_eq (left off : Nat) (before : List Candidate) :
    checkedRows d base encoding count left off before =
      (readRows d base encoding count left off before).mapError .searchTable := by
  induction left generalizing off before with
  | zero => rfl
  | succ left ih =>
    simp only [checkedRows, readRows, readRow, readRowAddresses, Bytes.readPointer_eq]
    cases hstart : d.readAddress base encoding off with
    | error cause => rfl
    | ok p =>
      obtain ⟨start, off'⟩ := p
      simp only [bind, Except.bind, Except.map]
      cases hdescription : d.readAddress base encoding off' with
      | error cause => rfl
      | ok p =>
        obtain ⟨description, off''⟩ := p
        have hnonneg := Bytes.readAddress_nonneg hstart
        have hsize : (max (description - start) 0).toNat = description.toNat - start.toNat := by
          omega
        simp only [pure, Except.pure, validated_of_nonneg hnonneg (Int.le_max_right _ _), hsize]
        exact ih off'' (rowCandidate start.toNat description.toNat :: before)

theorem checkedSectionAddress_eq (off : Nat) :
    checkedSectionAddress d base encoding off =
      (readSectionAddress d base encoding off).result.mapError .searchTable := by
  simp only [checkedSectionAddress, readSectionAddress, Bytes.readPointer_eq]
  split
  · rfl
  · cases d.readAddress base encoding off <;> rfl

theorem checkedTable_eq (countEncoding rowEncoding off : Nat) :
    checkedTable d base countEncoding rowEncoding off =
      (match d.readPointer base countEncoding off with
      | .ok (count, off) => readRows d base rowEncoding count count off []
      | .error cause => .error (.header cause)).mapError .searchTable := by
  simp only [checkedTable, Bytes.readPointer_eq]
  cases d.readAddress base countEncoding off with
  | error cause => rfl
  | ok p => exact checkedRows_eq _ _ _

/-- What gets out of the scan of a search table says why there is none. -/
theorem checkedScan_eq (d : Bytes) (address : Int) :
    checkedScan d address = (scan d address).result.mapError .searchTable := by
  by_cases hsize : d.size < 4
  · have hlast : d[3]? = none := Array.getElem?_eq_none (by omega)
    simp only [checkedScan, scan, hlast, if_pos hsize]
    cases d[0]? <;> cases d[1]? <;> cases d[2]? <;> rfl
  · have hoctet (i : Nat) (hi : i < 4) :
        octetAt d i = .ok d[i] ∧ d[i]? = some d[i] :=
      ⟨dif_pos (by omega), Array.getElem?_eq_getElem (by omega)⟩
    obtain ⟨h₀, h₀'⟩ := hoctet 0 (by decide)
    obtain ⟨h₁, h₁'⟩ := hoctet 1 (by decide)
    obtain ⟨h₂, h₂'⟩ := hoctet 2 (by decide)
    obtain ⟨h₃, h₃'⟩ := hoctet 3 (by decide)
    simp only [checkedScan, scan, if_neg hsize, h₀, h₁, h₂, h₃, h₀', h₁', h₂', h₃', bind,
      Except.bind]
    split
    · rfl
    · split
      · rfl
      · rw [checkedSectionAddress_eq, Noted.result_andThen]
        cases (readSectionAddress d { sectionAddress := address } d[1].toNat 4).result with
        | error cause => rfl
        | ok off =>
          simp only [mapError_ok, Except.bind, checkedTable_eq]
          cases d.readPointer { sectionAddress := address } d[2].toNat off <;> rfl

/-! A row has at least two octets, so there are no more rows than fit in, whatever the header says
of their number. -/

theorem readRow_next {off next : Nat} {f : Candidate} (hbase : 0 < base.addressSize)
    (h : readRow d base encoding off = .ok (f, next)) : off + 2 ≤ next ∧ next ≤ d.size := by
  unfold readRow at h
  cases hstart : d.readPointer base encoding off with
  | error cause => rw [hstart] at h; cases h
  | ok p =>
    obtain ⟨start, off'⟩ := p
    simp only [hstart, bind, Except.bind] at h
    cases hdescription : d.readPointer base encoding off' with
    | error cause => rw [hdescription] at h; cases h
    | ok p =>
      rw [hdescription] at h
      cases h
      have := Bytes.readPointer_next hbase hstart
      have := Bytes.readPointer_next hbase hdescription
      omega

/-- The rows read before the last one, or before the one that cannot be read, lie inside. -/
theorem readRows_le (hbase : 0 < base.addressSize) (encoding : Nat) {left off : Nat}
    (hoff : off ≤ d.size) (hleft : left ≤ count) (before : List Candidate) :
    match readRows d base encoding count left off before with
    | .ok cs => cs.length = before.length + left ∧ off + 2 * left ≤ d.size
    | .error cause =>
      ∃ i e, cause = .row i count e ∧ off + 2 * (i - (count - left)) ≤ d.size ∧ i < count := by
  induction left generalizing off before with
  | zero => exact ⟨List.length_reverse, hoff⟩
  | succ left ih =>
    simp only [readRows]
    cases hrow : readRow d base encoding off with
    | error cause => exact ⟨_, _, rfl, by omega, by omega⟩
    | ok p =>
      obtain ⟨f, next⟩ := p
      obtain ⟨hnext, hsize⟩ := readRow_next hbase hrow
      have hrest := ih hsize (by omega) (f :: before)
      simp only
      cases hread : readRows d base encoding count left next (f :: before) with
      | ok cs =>
        rw [hread] at hrest
        obtain ⟨hlength, hinside⟩ := hrest
        exact ⟨by rw [hlength, List.length_cons]; omega, by omega⟩
      | error cause =>
        rw [hread] at hrest
        obtain ⟨i, e, rfl, hinside, hi⟩ := hrest
        exact ⟨i, e, rfl, by omega, hi⟩

theorem readSectionAddress_error {off : Nat} {cause : Error}
    (h : (readSectionAddress d base encoding off).result = .error cause) :
    ∃ e, cause = .header e := by
  unfold readSectionAddress at h
  split at h
  · cases h
  · split at h
    · cases h
    · next e _ => cases h; exact ⟨e, rfl⟩

/-- The number of rows that the header states, if it can be read. -/
def statedCount? (d : Bytes) (address : Int) : Option Nat := do
  let base : PointerBase := { sectionAddress := address }
  let sectionEncoding ← d[1]?
  let countEncoding ← d[2]?
  let off ← (readSectionAddress d base sectionEncoding.toNat 4).result.toOption
  let (count, _) ← (d.readPointer base countEncoding.toNat off).toOption
  return count

/-- A scan fails before its first row, or it gives what the reading of the rows gives. -/
theorem scan_cases (d : Bytes) (address : Int) :
    (∃ cause, (scan d address).result = .error cause ∧ ∀ i n e, cause ≠ .row i n e) ∨
      ∃ encoding count off, statedCount? d address = some count ∧ off ≤ d.size ∧
        (scan d address).result =
          readRows d { sectionAddress := address } encoding count count off [] := by
  generalize hresult : (scan d address).result = result
  unfold scan at hresult
  simp only at hresult
  split at hresult
  · next version sectionEncoding countEncoding rowEncoding _ h₁ h₂ _ =>
    split at hresult
    · exact .inl ⟨_, hresult.symm, nofun⟩
    · split at hresult
      · exact .inl ⟨_, hresult.symm, nofun⟩
      · simp only [bind, Noted.result_andThen] at hresult
        cases hsection : (readSectionAddress d { sectionAddress := address }
            sectionEncoding.toNat 4).result with
        | error cause =>
          obtain ⟨e, rfl⟩ := readSectionAddress_error hsection
          rw [hsection] at hresult
          exact .inl ⟨_, hresult.symm, nofun⟩
        | ok off =>
          simp only [hsection, Except.bind] at hresult
          cases hcount : d.readPointer { sectionAddress := address } countEncoding.toNat off with
          | error cause =>
            rw [hcount] at hresult
            exact .inl ⟨_, hresult.symm, nofun⟩
          | ok p =>
            rw [hcount] at hresult
            have hinside := (Bytes.readPointer_next (show (0 : Int) < 8 by decide) hcount).2
            have hstated : statedCount? d address = some p.1 := by
              simp only [statedCount?, h₁, h₂, bind, Option.bind, hsection, Except.toOption, hcount]
              rfl
            exact .inr ⟨rowEncoding.toNat, p.1, p.2, hstated, hinside, hresult.symm⟩
  · exact .inl ⟨_, hresult.symm, nofun⟩

/-- What a scan gives, whatever the octets are: an error, or as many candidates as the header
states. A row has at least two octets, which bounds both. -/
theorem scan_bounded (d : Bytes) (address : Int) :
    (∃ cause, (scan d address).result = .error cause ∧
      ∀ i n e, cause = .row i n e →
        statedCount? d address = some n ∧ i < n ∧ 2 * i ≤ d.size) ∨
    ∃ cs, (scan d address).result = .ok cs ∧ statedCount? d address = some cs.length ∧
      2 * cs.length ≤ d.size := by
  rcases scan_cases d address with
    ⟨cause, hresult, hrow⟩ | ⟨encoding, count, off, hstated, hoff, hresult⟩
  · exact .inl ⟨cause, hresult, fun i n e hcause => absurd hcause (hrow i n e)⟩
  · have hbase : 0 < (PointerBase.mk address none 8).addressSize := by
      show (0 : Int) < 8
      decide
    have hrows := readRows_le hbase encoding hoff (Nat.le_refl count) []
    rw [← hresult] at hrows
    cases hscan : (scan d address).result with
    | error cause =>
      rw [hscan] at hrows
      obtain ⟨i, e, rfl, hinside, hi⟩ := hrows
      refine .inl ⟨_, rfl, fun i' n e' hcause => ?_⟩
      cases hcause
      exact ⟨hstated, hi, by omega⟩
    | ok cs =>
      rw [hscan] at hrows
      obtain ⟨hlength, hinside⟩ := hrows
      rw [List.length_nil, Nat.zero_add] at hlength
      exact .inr ⟨cs, rfl, by rw [hstated, hlength], by omega⟩

/-- The loop over the rows ends within one round for every two octets and one more. -/
theorem scan_rows_le (d : Bytes) (address : Int) :
    match (scan d address).result with
    | .ok cs => 2 * cs.length ≤ d.size
    | .error (.row i _ _) => 2 * i ≤ d.size
    | .error _ => True := by
  rcases scan_bounded d address with ⟨cause, hresult, hrow⟩ | ⟨cs, hresult, -, hsize⟩
  · rw [hresult]
    split
    · next h => cases h
    · next i n e h => cases h; exact (hrow i n e rfl).2.2
    · trivial
  · rw [hresult]
    exact hsize

end Cfi.SearchTable

/-! ## Symbol tables -/

/-- The record at an offset, if all of it lies inside the table. -/
def Symbol.checkedDecode (d : Bytes) (off : Nat) : Except Escape Symbol :=
  if off + recordSize ≤ d.size then .ok (decode d off) else .error (.outside off d.size)

/-- The function of a symbol. -/
def Symbol.checkedCandidate (s : Symbol) (names : Bytes) : Except Escape Candidate :=
  let name := s.name names
  validated (if name.isEmpty then "FUNC_" ++ hex s.value.toNat else name) s.value.toNat s.size.toNat

namespace SymbolTable

/-- Cuts a table into records and gives the functions among them. -/
def checkedScan (d names : Bytes) : Except Escape (List Candidate) := do
  if d.size % Symbol.recordSize ≠ 0 then throw (.symbolTable ⟨d.size⟩)
  let symbols ← (List.range (d.size / Symbol.recordSize)).mapM fun i =>
    Symbol.checkedDecode d (i * Symbol.recordSize)
  (symbols.filter (·.isFunctionLike)).mapM (·.checkedCandidate names)

/-- What gets out of the scan of a symbol table is that its size is wrong. -/
theorem checkedScan_eq (d names : Bytes) :
    checkedScan d names = (scan d names).result.mapError .symbolTable := by
  by_cases hwhole : d.size % Symbol.recordSize = 0
  · have hdecode (i : Nat) (hi : i ∈ List.range (d.size / Symbol.recordSize)) :
        Symbol.checkedDecode d (i * Symbol.recordSize) =
          .ok (Symbol.decode d (i * Symbol.recordSize)) := by
      refine if_pos ?_
      have := List.mem_range.1 hi
      simp only [Symbol.recordSize] at *
      omega
    have hcandidate (symbol : Symbol) (_ : symbol ∈ ((List.range (d.size / Symbol.recordSize)).map
        fun i => Symbol.decode d (i * Symbol.recordSize)).filter (·.isFunctionLike)) :
        symbol.checkedCandidate names = .ok (symbol.candidate names) :=
      validated_of_nonneg (Int.natCast_nonneg _) (Int.natCast_nonneg _)
    have hread : read d = .ok ((List.range (d.size / Symbol.recordSize)).map
        fun i => Symbol.decode d (i * Symbol.recordSize)) := if_pos hwhole
    simp only [checkedScan, scan, hread]
    rw [if_neg (by omega)]
    simp only [bind, Except.bind, pure, mapM_eq_ok hdecode, mapM_eq_ok hcandidate]
    rfl
  · have hread : read d = .error ⟨d.size⟩ := if_neg hwhole
    simp only [checkedScan, scan, hread]
    rw [if_pos hwhole]
    rfl

end SymbolTable

end FunctionBounds
