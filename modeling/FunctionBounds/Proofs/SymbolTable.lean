import FunctionBounds.Proofs.Checked.Scanners
import FunctionBounds.Proofs.Field.Written
import FunctionBounds.Proofs.StringTable
import FunctionBounds.Proofs.Text.Utf8

/-!
# Written symbol tables

- **Records** (`Symbol.octets`): a record is read back wherever it stands
  (`Symbol.decode_of_holds`), and any 24 octets are a record (`Symbol.octets_decode`). So any octets
  that can be cut into records are written records (`SymbolTable.exists_octets`).
- **Names** (`WrittenSymbol.Stored`): a name stands at its offset with a NUL after it. It is read
  back up to the NUL (`StringTable.textAt_of_holds`).
- **Tables** (`SymbolTable.scan_octets`): the scan of records one after the other.

`SymbolTable.scan_decodes` is about written tables and about any octets.
-/

namespace FunctionBounds

open Text (hexDigits)

variable {d names : Bytes} {off : Nat}

/-! ## Records -/

namespace Symbol

/-- The octets of a record. -/
def octets (s : Symbol) : List UInt8 :=
  littleEndian 4 s.nameOffset.toNat ++ (littleEndian 1 s.info.toNat ++
    (littleEndian 1 s.other.toNat ++ (littleEndian 2 s.sectionIndex.toNat ++
      (littleEndian 8 s.value.toNat ++ littleEndian 8 s.size.toNat))))

@[simp] theorem length_octets (s : Symbol) : s.octets.length = recordSize := by
  simp only [octets, List.length_append, length_littleEndian, recordSize]

theorem decode_of_holds {s : Symbol} (h : d.Holds off s.octets) : decode d off = s := by
  have hname : d.le off 4 = s.nameOffset.toNat := h.left.le_of_lt s.nameOffset.toNat_lt
  have hinfo : d.le (off + 4) 1 = s.info.toNat := h.right.left.le_of_lt s.info.toNat_lt
  have hother : d.le (off + 5) 1 = s.other.toNat := h.right.right.left.le_of_lt s.other.toNat_lt
  have hsection : d.le (off + 6) 2 = s.sectionIndex.toNat :=
    h.right.right.right.left.le_of_lt s.sectionIndex.toNat_lt
  have hvalue : d.le (off + 8) 8 = s.value.toNat :=
    h.right.right.right.right.left.le_of_lt s.value.toNat_lt
  have hsize : d.le (off + 16) 8 = s.size.toNat :=
    h.right.right.right.right.right.le_of_lt s.size.toNat_lt
  simp only [decode, hname, hinfo, hother, hsection, hvalue, hsize, UInt32.ofNat_toNat,
    UInt8.ofNat_toNat, UInt16.ofNat_toNat, UInt64.ofNat_toNat]

/-- Any octets of the size of a record are those of the record that is read from them. -/
theorem octets_decode (h : off + recordSize ≤ d.size) :
    (decode d off).octets = (d.slice off recordSize).toList := by
  have hinside : off + 24 ≤ d.size := h
  have hname : (UInt32.ofNat (d.le off 4)).toNat = d.le off 4 :=
    UInt32.toNat_ofNat_of_lt' (Bytes.le_lt (by omega))
  have hinfo : (UInt8.ofNat (d.le (off + 4) 1)).toNat = d.le (off + 4) 1 :=
    UInt8.toNat_ofNat_of_lt' (Bytes.le_lt (by omega))
  have hother : (UInt8.ofNat (d.le (off + 5) 1)).toNat = d.le (off + 5) 1 :=
    UInt8.toNat_ofNat_of_lt' (Bytes.le_lt (by omega))
  have hsection : (UInt16.ofNat (d.le (off + 6) 2)).toNat = d.le (off + 6) 2 :=
    UInt16.toNat_ofNat_of_lt' (Bytes.le_lt (by omega))
  have hvalue : (UInt64.ofNat (d.le (off + 8) 8)).toNat = d.le (off + 8) 8 :=
    UInt64.toNat_ofNat_of_lt' (Bytes.le_lt (by omega))
  have hsize : (UInt64.ofNat (d.le (off + 16) 8)).toNat = d.le (off + 16) 8 :=
    UInt64.toNat_ofNat_of_lt' (Bytes.le_lt (by omega))
  simp only [octets, decode, hname, hinfo, hother, hsection, hvalue, hsize]
  rw [Bytes.littleEndian_le (by omega), Bytes.littleEndian_le (by omega),
    Bytes.littleEndian_le (by omega), Bytes.littleEndian_le (by omega),
    Bytes.littleEndian_le (by omega), Bytes.littleEndian_le (by omega),
    Bytes.toList_slice_append d (off + 8) 8 8, Bytes.toList_slice_append d (off + 6) 2 16,
    Bytes.toList_slice_append d (off + 5) 1 18, Bytes.toList_slice_append d (off + 4) 1 19,
    Bytes.toList_slice_append d off 4 20]
  rfl

/-- A symbol is defined and has an address and a size. -/
theorem isFunctionLike_eq (s : Symbol) :
    s.isFunctionLike = decide (s.sectionIndex ≠ 0 ∧ s.value ≠ 0 ∧ s.size ≠ 0) := by
  rw [Bool.eq_iff_iff]
  simp [isFunctionLike, and_assoc]

theorem candidate_eq (s : Symbol) (names : Bytes) :
    s.candidate names =
      let name := StringTable.textAt names s.nameOffset.toNat
      ⟨if name = "" then "FUNC_0x" ++ hexDigits s.value.toNat else name, s.value.toNat,
        s.size.toNat⟩ := by
  simp only [candidate, name, StringTable.nameAt_eq, Candidate.nameAt_eq, String.isEmpty_iff]

end Symbol

/-! ## Names -/

/-- A record and the name that it refers to. -/
structure WrittenSymbol where
  symbol : Symbol
  name : String
  deriving DecidableEq, Repr

/-- The name has no NUL and stands at the offset of the record, with a NUL after it. -/
def WrittenSymbol.Stored (names : Bytes) (w : WrittenSymbol) : Prop :=
  '\x00' ∉ w.name.toList ∧
    names.Holds w.symbol.nameOffset.toNat (Text.Utf8.octets w.name ++ [0])

instance (w : WrittenSymbol) : Decidable (w.Stored names) := inferInstanceAs (Decidable (_ ∧ _))

theorem StringTable.textAt_of_holds {text : String} (hnul : '\x00' ∉ text.toList)
    (h : names.Holds off (Text.Utf8.octets text ++ [0])) : textAt names off = text := by
  obtain ⟨before, after, hnames, rfl⟩ := h
  have hrest : names.toList.drop before.length = Text.Utf8.octets text ++ ([0] ++ after) := by
    rw [hnames, List.drop_left, List.append_assoc]
  have htake : (Text.Utf8.octets text ++ ([0] ++ after)).takeWhile (· != 0) =
      Text.Utf8.octets text := by
    rw [List.takeWhile_append_of_pos fun b hb =>
      bne_iff_ne.2 (Text.Utf8.ne_zero_of_mem_octets hnul hb)]
    exact List.append_nil _
  rw [textAt, hrest, htake, Text.Utf8.decode_octets]

/-! ## Tables -/

namespace SymbolTable

/-- By induction on the records that are left. -/
theorem map_decode {ss : List Symbol} (h : d.Holds off (ss.flatMap (·.octets))) :
    ((List.range ss.length).map fun i => Symbol.decode d (off + i * Symbol.recordSize)) = ss := by
  induction ss generalizing off with
  | nil => rfl
  | cons s ss ih =>
    rw [List.flatMap_cons] at h
    have hrest := h.right
    rw [Symbol.length_octets] at hrest
    have hshift : ∀ i, off + (i + 1) * Symbol.recordSize =
        off + Symbol.recordSize + i * Symbol.recordSize := by
      intro i
      rw [Nat.succ_mul]
      omega
    rw [List.length_cons, List.range_succ_eq_map, List.map_cons, List.map_map, Nat.zero_mul,
      Nat.add_zero, Symbol.decode_of_holds h.left]
    simp only [Function.comp_def, Nat.succ_eq_add_one, hshift, ih hrest]

theorem length_flatMap_octets (ss : List Symbol) :
    (ss.flatMap (·.octets)).length = ss.length * Symbol.recordSize := by
  induction ss with
  | nil => rfl
  | cons s ss ih =>
    rw [List.flatMap_cons, List.length_append, Symbol.length_octets, ih, List.length_cons,
      Nat.succ_mul, Nat.add_comm]

theorem read_octets (ss : List Symbol) : read (ss.flatMap (·.octets)).toArray = .ok ss := by
  have hholds : Bytes.Holds (ss.flatMap (·.octets)).toArray 0 (ss.flatMap (·.octets)) :=
    ⟨[], [], by simp, rfl⟩
  have hrecords := map_decode hholds
  simp only [Nat.zero_add] at hrecords
  rw [read, List.size_toArray, length_flatMap_octets, if_pos (Nat.mul_mod_left _ _),
    Nat.mul_div_cancel _ (by decide), hrecords]

/-- The scan of records one after the other: each is a candidate or counted as left out. -/
theorem scan_octets (ss : List Symbol) (names : Bytes) :
    scan (ss.flatMap (·.octets)).toArray names =
      let found := ss.filter (·.isFunctionLike)
      ⟨.ok (found.map (·.candidate names)),
        [.debug (s!"Symbol table: {found.length} candidate(s), " ++
          s!"{ss.length - found.length} filtered")]⟩ := by
  rw [scan, read_octets]
  rfl

/-- Octets that can be cut into records are written records, by induction on their number. -/
theorem flatMap_octets_decode {n : Nat} (h : n * Symbol.recordSize ≤ d.size) :
    ((List.range n).map fun i => Symbol.decode d (i * Symbol.recordSize)).flatMap (·.octets) =
      (d.slice 0 (n * Symbol.recordSize)).toList := by
  induction n with
  | zero => simp [Bytes.slice]
  | succ n ih =>
    rw [Nat.succ_mul] at h
    rw [List.range_succ, List.map_append, List.flatMap_append, ih (by omega), Nat.succ_mul,
      ← Bytes.toList_slice_append, Nat.zero_add, ← Symbol.octets_decode h]
    simp

theorem exists_octets (h : d.size % Symbol.recordSize = 0) :
    ∃ ss : List Symbol, d.toList = ss.flatMap (·.octets) := by
  have hwhole : d.size / Symbol.recordSize * Symbol.recordSize = d.size :=
    Nat.div_mul_cancel (Nat.dvd_of_mod_eq_zero h)
  have hrecords := flatMap_octets_decode (Nat.le_of_eq hwhole)
  rw [hwhole, Bytes.slice, Nat.zero_add, Array.extract_size] at hrecords
  exact ⟨_, hrecords.symm⟩

/-- Each name that is stored is read back. -/
theorem scan_written {ws : List WrittenSymbol} (h : ∀ w ∈ ws, w.Stored names) :
    (scan (ws.flatMap (·.symbol.octets)).toArray names).result =
      .ok ((ws.filter (·.symbol.isFunctionLike)).map fun w =>
        ⟨if w.name = "" then "FUNC_0x" ++ hexDigits w.symbol.value.toNat else w.name,
          w.symbol.value.toNat, w.symbol.size.toNat⟩) := by
  rw [← List.flatMap_map, scan_octets]
  simp only [List.filter_map, List.map_map]
  refine congrArg Except.ok (List.map_congr_left fun w hw => ?_)
  obtain ⟨hnul, hholds⟩ := h w (List.mem_filter.1 hw).1
  rw [Function.comp_apply, Symbol.candidate_eq, StringTable.textAt_of_holds hnul hholds]

/-- Each record of any table gives a candidate or is counted as left out. -/
theorem scan_of_whole (h : d.size % Symbol.recordSize = 0) (names : Bytes) :
    ∃ ss : List Symbol, d.toList = ss.flatMap (·.octets) ∧
      scan d names =
        let found := ss.filter (·.isFunctionLike)
        ⟨.ok (found.map (·.candidate names)),
          [.debug (s!"Symbol table: {found.length} candidate(s), " ++
            s!"{ss.length - found.length} filtered")]⟩ := by
  obtain ⟨ss, hss⟩ := exists_octets h
  exact ⟨ss, hss, by rw [← scan_octets, ← hss]⟩

/-- A table that is written gives a candidate for each symbol that is defined and has an address and
a size, in the order of the table, under the name that stands at its offset or, if that is empty,
under its address. Any octets that are no whole number of records are an error; others are a table,
in which each record gives a candidate or is counted as left out, wherever its name would stand. -/
theorem scan_decodes (names : Bytes) :
    (∀ ws : List WrittenSymbol, (∀ w ∈ ws, w.Stored names) →
      ∃ cs, (scan (ws.flatMap (·.symbol.octets)).toArray names).result = .ok cs ∧
        cs.map (fun f => (f.name, f.start, f.stop, f.size)) =
          (ws.filter fun w =>
              w.symbol.sectionIndex ≠ 0 ∧ w.symbol.value ≠ 0 ∧ w.symbol.size ≠ 0).map fun w =>
            (if w.name = "" then "FUNC_0x" ++ hexDigits w.symbol.value.toNat else w.name,
              w.symbol.value.toNat, w.symbol.value.toNat + w.symbol.size.toNat,
              w.symbol.size.toNat)) ∧
    (∀ d : Bytes,
      (checkedScan d names = .error (.symbolTable ⟨d.size⟩) ↔ d.size % 24 ≠ 0) ∧
      (d.size % 24 = 0 → ∃ (ss : List Symbol) (cs : List Candidate) (left : Nat),
        d.toList = ss.flatMap (·.octets) ∧ checkedScan d names = .ok cs ∧
        cs = (ss.filter fun s => s.sectionIndex ≠ 0 ∧ s.value ≠ 0 ∧ s.size ≠ 0).map (fun s =>
          let name := StringTable.textAt names s.nameOffset.toNat
          ⟨if name = "" then "FUNC_0x" ++ hexDigits s.value.toNat else name, s.value.toNat,
            s.size.toNat⟩) ∧
        cs.length + left = ss.length ∧
        (scan d names).notes = [.debug (s!"Symbol table: {cs.length} candidate(s), " ++
          s!"{left} filtered")])) ∧
    ∀ off, names.size ≤ off → StringTable.textAt names off = "" := by
  refine ⟨fun ws hstored => ⟨_, scan_written hstored, ?_⟩, fun d => ?_, fun off hoff =>
    StringTable.textAt_of_size_le hoff⟩
  · simp only [List.map_map, Symbol.isFunctionLike_eq]
    rfl
  · by_cases hwhole : d.size % 24 = 0
    · obtain ⟨ss, hss, hscan⟩ := scan_of_whole hwhole names
      have hleft : (ss.filter (·.isFunctionLike)).length ≤ ss.length := List.length_filter_le _ _
      rw [checkedScan_eq, hscan]
      refine ⟨iff_of_false nofun (not_not_intro hwhole), fun _ =>
        ⟨ss, _, ss.length - (ss.filter (·.isFunctionLike)).length, hss, rfl, ?_, ?_, ?_⟩⟩
      · simp only [Symbol.isFunctionLike_eq, Symbol.candidate_eq]
      · rw [List.length_map]
        omega
      · rw [List.length_map]
    · have hread : read d = .error ⟨d.size⟩ := if_neg hwhole
      have hscan : scan d names = ⟨.error ⟨d.size⟩, []⟩ := by
        rw [scan, hread]
        rfl
      rw [checkedScan_eq, hscan]
      exact ⟨iff_of_true rfl hwhole, fun h => absurd h hwhole⟩

/-- Two names, the second one of characters of two, three and four octets. -/
def mixedNames : Bytes :=
  #[0, 0x6d, 0x61, 0x69, 0x6e, 0, 0xc3, 0xa9, 0xe2, 0x82, 0xac, 0xf0, 0x9d, 0x84, 0x9e, 0]

/-- Symbols with those names, without a name, with the end of another one's name and without a
section. -/
def mixedSymbols : List WrittenSymbol :=
  [⟨⟨1, 0x12, 0, 1, 0x401000, 16⟩, "main"⟩, ⟨⟨0, 2, 0, 1, 0x4010ab, 8⟩, ""⟩,
    ⟨⟨6, 0x12, 3, 0xfff1, 0x401100, 32⟩, "é€𝄞"⟩, ⟨⟨1, 0x12, 0, 0, 0x401200, 16⟩, "main"⟩,
    ⟨⟨2, 0x12, 0, 1, 0x401000, 16⟩, "ain"⟩]

theorem scan_decodes_mixedSymbols :
    (∀ w ∈ mixedSymbols, w.Stored mixedNames) ∧
    (∃ cs, (scan (mixedSymbols.flatMap (·.symbol.octets)).toArray mixedNames).result = .ok cs ∧
      cs.map (fun f => (f.name, f.start, f.stop, f.size)) =
        [("main", 0x401000, 0x401010, 16), ("FUNC_0x4010ab", 0x4010ab, 0x4010b3, 8),
          ("é€𝄞", 0x401100, 0x401120, 32), ("ain", 0x401000, 0x401010, 16)]) ∧
    checkedScan (Array.replicate 25 0) mixedNames = .error (.symbolTable ⟨25⟩) ∧
    StringTable.textAt mixedNames 0xffffffff = "" := by
  have hstored : ∀ w ∈ mixedSymbols, w.Stored mixedNames := by decide
  obtain ⟨hwritten, hany, hout⟩ := scan_decodes mixedNames
  obtain ⟨cs, hscan, hcs⟩ := hwritten mixedSymbols hstored
  exact ⟨hstored, ⟨cs, hscan, hcs⟩, (hany (Array.replicate 25 0)).1.2 (by decide),
    hout _ (by decide)⟩

end SymbolTable

end FunctionBounds
