import FunctionBounds.Proofs.Cfi.Reading

/-!
# Completeness of the scan

A scan of a section that was written finds every function in it and nothing else.

- **The walk** (`readFrom_written`): the records that are read are those that were written, by
  induction over them. Nothing that cannot be read ends them.
- **Visits** (`visits_written`): what a record contributes is what was written into it.
- **Order** (`sorted_perm`, `sorted_pairwise`, `filter_sorted`): the functions are sorted by start;
  those of equal start keep their order.

`report_written` says so for both conventions, every address and every list of records.
-/

namespace FunctionBounds.Cfi

variable {d : Bytes} {c : Convention} {off : Nat} {ws : List WrittenRecord}

/-! ## The walk -/

theorem sectionOctets_cons (w : WrittenRecord) :
    sectionOctets c off (w :: ws) = w.octets c off ++ sectionOctets c (off + w.size c) ws := rfl

theorem holds_sectionOctets_cons {w : WrittenRecord}
    (h : d.Holds off (sectionOctets c off (w :: ws))) :
    d.Holds off (w.octets c off) ∧
      d.Holds (off + w.size c) (sectionOctets c (off + w.size c) ws) := by
  rw [sectionOctets_cons] at h
  have hright := h.right
  rw [WrittenRecord.length_octets] at hright
  exact ⟨h.left, hright⟩

theorem holds_of_mem_placed (h : d.Holds off (sectionOctets c off ws)) {p : Nat × WrittenRecord}
    (hp : p ∈ placed c off ws) : d.Holds p.1 (p.2.octets c p.1) := by
  induction ws generalizing off with
  | nil => cases hp
  | cons w ws ih =>
    obtain ⟨hfirst, hrest⟩ := holds_sectionOctets_cons h
    rcases List.mem_cons.1 hp with rfl | hp
    · exact hfirst
    · exact ih hrest hp

theorem map_snd_placed : (placed c off ws).map (·.2) = ws := by
  induction ws generalizing off with
  | nil => rfl
  | cons w ws ih => rw [placed, List.map_cons, ih]

/-- The records that are read are those that were written, and they end quietly if what follows is
too short for a length or has a length of zero. -/
theorem readFrom_written (h : d.Holds off (sectionOctets c off ws))
    (hfits : ∀ w ∈ ws, w.LengthFits c)
    (hend : d.size < off + (sectionOctets c off ws).length + 4 ∨
      d.le (off + (sectionOctets c off ws).length) 4 = 0) (before : List Record) :
    (Chain.readFrom d c off before).records =
        before.reverse ++ (placed c off ws).map (fun p => p.2.bounds c p.1) ∧
      ∀ cause, (Chain.readFrom d c off before).ending ≠ .undecodable cause := by
  induction ws generalizing off before with
  | nil =>
    have hnil : (sectionOctets c off []).length = 0 := rfl
    rw [hnil, Nat.add_zero] at hend
    by_cases hsize : off + 4 ≤ d.size
    · rw [Chain.readFrom_terminator hsize (hend.resolve_left (by omega))]
      exact ⟨(List.append_nil _).symm, nofun⟩
    · rw [Chain.readFrom_exhausted (by omega)]
      exact ⟨(List.append_nil _).symm, nofun⟩
  | cons w ws ih =>
    obtain ⟨hfirst, hrest⟩ := holds_sectionOctets_cons h
    have hread := WrittenRecord.read hfirst (hfits w List.mem_cons_self)
    rw [sectionOctets_cons, List.length_append, WrittenRecord.length_octets, ← Nat.add_assoc]
      at hend
    have hnext := ih hrest (fun v hv => hfits v (List.mem_cons_of_mem w hv)) hend
      (w.bounds c off :: before)
    rw [Chain.readFrom_step hread]
    refine ⟨hnext.1.trans ?_, hnext.2⟩
    rw [List.reverse_cons, List.append_assoc]
    rfl

theorem read_written (h : d.Holds 0 (sectionOctets c 0 ws)) (hfits : ∀ w ∈ ws, w.LengthFits c)
    (hend : d.size < (sectionOctets c 0 ws).length + 4 ∨
      d.le (sectionOctets c 0 ws).length 4 = 0) :
    (Chain.read d c).records = (placed c 0 ws).map (fun p => p.2.bounds c p.1) ∧
      ∀ cause, (Chain.read d c).ending ≠ .undecodable cause :=
  readFrom_written h hfits (by rwa [Nat.zero_add]) []

/-! ## Visits -/

/-- What a record contributes to a scan. -/
def WrittenRecord.outcome : WrittenRecord → Outcome
  | common _ => .commonEntry
  | description f => .function f.candidate

variable {base : Int}

/-- A record that can be written contributes what was written. Its common entry may stand anywhere
in the section. -/
theorem outcome_written {all : List (Nat × WrittenRecord)} {w : WrittenRecord}
    (hall : ∀ p ∈ all, d.Holds p.1 (p.2.octets c p.1))
    (hfits : ∀ p ∈ all, p.2.LengthFits c) (h : d.Holds off (w.octets c off))
    (hw : w.Writable c base all off) :
    (Section.mk d base).outcome c (w.bounds c off) = w.outcome := by
  cases w with
  | common e =>
    rw [Section.outcome, if_pos (WrittenRecord.isCommon_common h)]
    rfl
  | description f =>
    obtain ⟨-, hmem, hrefers, hdescribed⟩ := hw
    have hcommon := WrittenRecord.isCommon_description h hrefers
    have hentry := WrittenEntry.read (hall _ hmem) (hfits _ hmem)
    have hinside : f.entryOffset < d.size := by
      have := (Record.read_stop (WrittenRecord.read (hall _ hmem) (hfits _ hmem)))
      simp only [WrittenRecord.bounds] at this
      omega
    have hfunction : (Section.mk d base).function c
        ((WrittenRecord.description f).bounds c off) = .ok f.candidate := by
      simp only [Section.function, WrittenDescription.refersTo h hrefers hinside, hentry, bind,
        Except.bind]
      exact WrittenDescription.describe h hdescribed rfl rfl
    rw [Section.outcome, hcommon, if_neg (by simp), hfunction]
    rfl

theorem Writable.lengthFits (hw : Writable c base ws) : ∀ w ∈ ws, w.LengthFits c := by
  intro w hmem
  have hws : (placed c 0 ws).map (·.2) = ws := map_snd_placed
  rw [← hws] at hmem
  obtain ⟨p, hp, rfl⟩ := List.mem_map.1 hmem
  exact (hw p hp).1

/-- The visits of a scan, if the records were written at the start of the section. -/
theorem visits_written (h : d.Holds 0 (sectionOctets c 0 ws)) (hw : Writable c base ws)
    (hend : d.size < (sectionOctets c 0 ws).length + 4 ∨
      d.le (sectionOctets c 0 ws).length 4 = 0) :
    ((Section.mk d base).scan c).visits =
      (placed c 0 ws).map fun p => ⟨p.2.bounds c p.1, p.2.outcome⟩ := by
  have hall := fun p (hp : p ∈ placed c 0 ws) => holds_of_mem_placed h hp
  rw [Section.scan_visits]
  simp only
  rw [(read_written h hw.lengthFits hend).1, List.map_map]
  refine List.map_congr_left fun p hp => ?_
  have houtcome := outcome_written hall (fun q hq => (hw q hq).1) (hall p hp) (hw p hp)
  simp only [Function.comp_apply, houtcome]

/-- Such visits give the functions that were described, and no notes. -/
theorem filterMap_visits (rs : List (Nat × WrittenRecord)) :
    (rs.map fun p => Visit.mk (p.2.bounds c p.1) p.2.outcome).filterMap (·.candidate?) =
      (rs.map (·.2)).filterMap (·.candidate?) := by
  have hsame (p : Nat × WrittenRecord) :
      (Visit.mk (p.2.bounds c p.1) p.2.outcome).candidate? = p.2.candidate? := by
    cases p.2 <;> rfl
  simp only [List.filterMap_map, Function.comp_def, hsame]

theorem note?_written {v : Visit} {rs : List (Nat × WrittenRecord)}
    (hv : v ∈ rs.map fun p => Visit.mk (p.2.bounds c p.1) p.2.outcome) (l : Text.DigitLimit) :
    v.note? = none ∧ v.unwritable? l = none := by
  obtain ⟨p, -, rfl⟩ := List.mem_map.1 hv
  simp only [Visit.note?, Visit.unwritable?]
  cases p.2 <;> exact ⟨rfl, rfl⟩

/-! ## Order -/

theorem sorted_perm (cs : List Candidate) : (Candidate.sorted cs).Perm cs :=
  List.mergeSort_perm _ _

private theorem start_le_trans (a b e : Candidate) (h : decide (a.start ≤ b.start) = true)
    (h' : decide (b.start ≤ e.start) = true) : decide (a.start ≤ e.start) = true := by
  simp only [decide_eq_true_eq] at *
  omega

private theorem start_le_total (a b : Candidate) :
    (decide (a.start ≤ b.start) || decide (b.start ≤ a.start)) = true := by
  simp only [Bool.or_eq_true, decide_eq_true_eq]
  omega

theorem sorted_pairwise (cs : List Candidate) :
    (Candidate.sorted cs).Pairwise (·.start ≤ ·.start) :=
  (List.pairwise_mergeSort start_le_trans start_le_total cs).imp of_decide_eq_true

/-- Candidates of equal start keep their order. -/
theorem filter_sorted (cs : List Candidate) (a : Nat) :
    (Candidate.sorted cs).filter (·.start == a) = cs.filter (·.start == a) := by
  have hequal : (cs.filter (·.start == a)).Pairwise fun x y => decide (x.start ≤ y.start) := by
    refine List.pairwise_of_forall_mem_list fun x hx y hy => ?_
    have hx := beq_iff_eq.1 (List.mem_filter.1 hx).2
    have hy := beq_iff_eq.1 (List.mem_filter.1 hy).2
    exact decide_eq_true (by omega)
  have hsub : (cs.filter (·.start == a)).Sublist (Candidate.sorted cs) :=
    List.sublist_mergeSort start_le_trans start_le_total hequal List.filter_sublist
  have hfiltered := hsub.filter (·.start == a)
  rw [List.filter_filter, funext fun _ => Bool.and_self _] at hfiltered
  exact (hfiltered.eq_of_length ((sorted_perm cs).filter _).length_eq.symm).symm

/-! ## Reports -/

theorem holds_section_tail (tail : List UInt8) (h : EndsRecords tail) :
    let d : Bytes := (sectionOctets c 0 ws ++ tail).toArray
    d.Holds 0 (sectionOctets c 0 ws) ∧ (d.size < (sectionOctets c 0 ws).length + 4 ∨
      d.le (sectionOctets c 0 ws).length 4 = 0) := by
  intro d
  refine ⟨Bytes.holds_toArray _ _, ?_⟩
  rcases h with hshort | ⟨more, rfl⟩
  · left
    simp only [d, List.size_toArray, List.length_append]
    omega
  · right
    have hzero : d.Holds (sectionOctets c 0 ws).length (littleEndian 4 0) :=
      ⟨sectionOctets c 0 ws, more, rfl, rfl⟩
    exact hzero.le

/-- A scan of a section in which records were written one after the other gives each function that
was described, by start and those of equal start in the order of the section, and skips nothing. -/
theorem report_written (c : Convention) (base : Int) (ws : List WrittenRecord)
    (tail : List UInt8) (l : Text.DigitLimit) (hw : Writable c base ws)
    (htail : EndsRecords tail) :
    let s : Section := ⟨(sectionOctets c 0 ws ++ tail).toArray, base⟩
    let described := ws.filterMap (·.candidate?)
    ∃ cs, (s.scan c).report l = ⟨.ok cs, []⟩ ∧ cs.Perm described ∧
      cs.Pairwise (·.start ≤ ·.start) ∧
      (∀ a, cs.filter (·.start == a) = described.filter (·.start == a)) ∧
      ∀ f ∈ cs, f.stop = f.start + f.size := by
  intro s described
  obtain ⟨hholds, hend⟩ := holds_section_tail tail htail
  have hvisits := visits_written hholds hw hend
  have hquiet := (read_written hholds hw.lengthFits hend).2
  have hcandidates : (s.scan c).candidates = Candidate.sorted described := by
    rw [Scan.candidates, hvisits, filterMap_visits, map_snd_placed]
  have hskips : (s.scan c).visits.filterMap (·.note?) = [] := by
    rw [hvisits, List.filterMap_eq_nil_iff]
    exact fun v hv => (note?_written hv l).1
  have hstop : (s.scan c).stopNote? = none := by
    unfold Scan.stopNote?
    split
    · next cause hcause => exact absurd hcause (hquiet cause)
    · rfl
  have hnotes : (s.scan c).notes = [] := by
    simp only [Scan.notes, hskips, hstop]
    rfl
  have hwritable : (s.scan c).visits.findSome? (·.unwritable? l) = none := by
    rw [hvisits, List.findSome?_eq_none_iff]
    exact fun v hv => (note?_written hv l).2
  refine ⟨Candidate.sorted described, ?_, sorted_perm _, sorted_pairwise _, filter_sorted _,
    fun _ _ => rfl⟩
  simp only [Scan.report, hwritable, hcandidates, hnotes]

/-- A common entry with three letters, the last of which says how function addresses are written. -/
def relativeEntry : WrittenEntry where
  wide := false
  version := .first
  augmentation := some ⟨[.personality 9 .sdata4 ⟨0x1000, 0⟩, .dataEncoding 0x1b,
    .addressEncoding ⟨.fieldRelative, .sdata4⟩], ⟨7, 0⟩⟩
  codeAlignment := ⟨1, 0⟩
  dataAlignment := ⟨-8, 0⟩
  returnRegister := ⟨16, 0⟩
  rest := [0x0c, 7, 8]

/-- A common entry without letters, for addresses of four octets. -/
def narrowEntry : WrittenEntry where
  wide := true
  version := .fourth true
  augmentation := none
  codeAlignment := ⟨1, 1⟩
  dataAlignment := ⟨-8, 2⟩
  returnRegister := ⟨16, 0⟩
  rest := []

/-- Three frame descriptions, two of them of one start, in a section at `0x402000`. -/
def mixedRecords : List WrittenRecord :=
  [.common relativeEntry,
    .description ⟨false, relativeEntry, 0, 0x401200, 16, ⟨0x401200 - 0x402024, 0⟩, 0, [0]⟩,
    .common narrowEntry,
    .description ⟨true, narrowEntry, 45, 0x401000, 32, ⟨0x401000, 0⟩, 0, []⟩,
    .description ⟨false, relativeEntry, 0, 0x401200, 8, ⟨0x401200 - 0x402067, 0⟩, 0, [0, 0]⟩]

theorem report_mixedRecords :
    Writable .ehFrame 0x402000 mixedRecords ∧ EndsRecords [0, 0, 0, 0] ∧
    let s : Section := ⟨(sectionOctets .ehFrame 0 mixedRecords ++ [0, 0, 0, 0]).toArray, 0x402000⟩
    let described := mixedRecords.filterMap (·.candidate?)
    described.length = 3 ∧
    ∃ cs, (s.scan .ehFrame).report .standard = ⟨.ok cs, []⟩ ∧ cs.Perm described ∧
      cs.Pairwise (·.start ≤ ·.start) ∧
      ∀ a, cs.filter (·.start == a) = described.filter (·.start == a) := by
  have hw : Writable .ehFrame 0x402000 mixedRecords := by decide
  have htail : EndsRecords [0, 0, 0, 0] := .inr ⟨[], rfl⟩
  obtain ⟨cs, hreport, hperm, hsorted, hstable, -⟩ :=
    report_written .ehFrame 0x402000 mixedRecords [0, 0, 0, 0] .standard hw htail
  exact ⟨hw, htail, rfl, cs, hreport, hperm, hsorted, hstable⟩

end FunctionBounds.Cfi
