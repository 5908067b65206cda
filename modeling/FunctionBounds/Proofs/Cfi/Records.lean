import FunctionBounds.Cfi.Record

/-!
# Records and the walk over them

- **Forms** (`Record.read_cases`): a record has one of two forms of length, which decides where its
  identifier starts and how wide that is (`Record.idWidth_of_read`).
- **Bounds** (`Record.read_bounds`): the identifier of a record that can be read lies inside it, so
  it can be read as well (`Record.readUnsigned_identifier`).
- **Steps** (`Chain.readFrom_exhausted`, `readFrom_terminator`, `readFrom_undecodable`,
  `readFrom_step`): the four things that a walk may do at an offset.
-/

namespace FunctionBounds.Cfi

variable {d : Bytes} {c : Convention} {off : Nat} {r : Record}

namespace Record

theorem read_of_narrow (hsize : off + 4 ≤ d.size) (hlength : d.le off 4 ≠ wideLength) :
    read d c off = bounded d off (off + 4) (d.le off 4) 4 := by
  simp only [read, Bytes.readUnsigned, if_pos hsize, bind, Except.bind, if_neg hlength]

theorem read_of_wide (hsize : off + 12 ≤ d.size) (hlength : d.le off 4 = wideLength) :
    read d c off = bounded d off (off + 12) (d.le (off + 4) 8) c.wideIdWidth := by
  have hshort : off + 4 ≤ d.size := by omega
  have hwide : off + 4 + 8 ≤ d.size := by omega
  simp only [read, Bytes.readUnsigned, if_pos hshort, bind, Except.bind, if_pos hlength,
    if_pos hwide]

/-- The length of a record that can be read has four octets, or `0xffffffff` and eight octets. -/
theorem read_cases (h : read d c off = .ok r) :
    (off + 4 ≤ d.size ∧ d.le off 4 ≠ wideLength ∧
        bounded d off (off + 4) (d.le off 4) 4 = .ok r) ∨
      (off + 12 ≤ d.size ∧ d.le off 4 = wideLength ∧
        bounded d off (off + 12) (d.le (off + 4) 8) c.wideIdWidth = .ok r) := by
  by_cases hshort : off + 4 ≤ d.size
  · by_cases hlength : d.le off 4 = wideLength
    · by_cases hwide : off + 12 ≤ d.size
      · exact .inr ⟨hwide, hlength, by rwa [read_of_wide hwide hlength] at h⟩
      · have hnot : ¬ off + 4 + 8 ≤ d.size := by omega
        simp only [read, Bytes.readUnsigned, if_pos hshort, bind, Except.bind, if_pos hlength,
          if_neg hnot] at h
        cases h
    · exact .inl ⟨hshort, hlength, by rwa [read_of_narrow hshort hlength] at h⟩
  · simp only [read, Bytes.readUnsigned, if_neg hshort, bind, Except.bind] at h
    cases h

/-- A record that can be read has a length of its own, its identifier and nothing outside. -/
theorem read_bounds (h : read d c off = .ok r) :
    r.offset = off ∧ off + 4 ≤ r.idOffset ∧ r.body ≤ r.stop ∧ r.stop ≤ d.size := by
  rcases read_cases h with ⟨-, -, hbounded⟩ | ⟨-, -, hbounded⟩
  · obtain ⟨hsize, hid, rfl⟩ := bounded_eq_ok_iff.1 hbounded
    exact ⟨rfl, Nat.le_refl _, by simp only [body]; omega, hsize⟩
  · obtain ⟨hsize, hid, rfl⟩ := bounded_eq_ok_iff.1 hbounded
    exact ⟨rfl, by simp only; omega, by simp only [body]; omega, hsize⟩

theorem idWidth_of_read (h : read d c off = .ok r) : r.idWidth = 4 ∨ r.idWidth = 8 := by
  rcases read_cases h with ⟨-, -, hbounded⟩ | ⟨-, -, hbounded⟩
  · obtain ⟨-, -, rfl⟩ := bounded_eq_ok_iff.1 hbounded
    exact .inl rfl
  · obtain ⟨-, -, rfl⟩ := bounded_eq_ok_iff.1 hbounded
    cases c
    · exact .inl rfl
    · exact .inr rfl

theorem readUnsigned_identifier (h : read d c off = .ok r) :
    d.readUnsigned r.idWidth r.idOffset = .ok (r.identifier d, r.body) := by
  obtain ⟨-, -, hbody, hsize⟩ := read_bounds h
  exact if_pos (Nat.le_trans hbody hsize)

/-- No record can be read where the length is zero. -/
theorem le_ne_zero_of_read (h : read d c off = .ok r) : d.le off 4 ≠ 0 := by
  intro hzero
  rcases read_cases h with ⟨-, -, hbounded⟩ | ⟨-, hlength, -⟩
  · have := (bounded_eq_ok_iff.1 hbounded).2.1
    omega
  · rw [hzero] at hlength
    cases hlength

end Record

namespace Chain

variable {before : List Record}

theorem readFrom_exhausted (h : d.size < off + 4) :
    readFrom d c off before = ⟨before.reverse, off, .exhausted⟩ := by
  rw [readFrom, dif_neg (by omega)]

theorem readFrom_terminator (hsize : off + 4 ≤ d.size) (h : d.le off 4 = 0) :
    readFrom d c off before = ⟨before.reverse, off, .terminator⟩ := by
  rw [readFrom, dif_pos hsize, if_pos h]

theorem readFrom_undecodable {cause : DecodeError} (hsize : off + 4 ≤ d.size)
    (hlength : d.le off 4 ≠ 0) (h : Record.read d c off = .error cause) :
    readFrom d c off before = ⟨before.reverse, off, .undecodable cause⟩ := by
  rw [readFrom, dif_pos hsize, if_neg hlength]
  split
  · next cause' herror => rw [h] at herror; cases herror; rfl
  · next r hok => rw [h] at hok; cases hok

theorem readFrom_step (h : Record.read d c off = .ok r) :
    readFrom d c off before = readFrom d c r.stop (r :: before) := by
  have hstop := Record.read_stop h
  rw [readFrom, dif_pos (by omega), if_neg (Record.le_ne_zero_of_read h)]
  split
  · next cause herror => rw [h] at herror; cases herror
  · next r' hok => rw [h] at hok; cases hok; rfl

end Chain

end FunctionBounds.Cfi
