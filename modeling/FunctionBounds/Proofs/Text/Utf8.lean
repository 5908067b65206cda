import FunctionBounds.Text.Utf8

/-!
# Encoded texts

The octets of a text in UTF-8, and that decoding gives the text back.

- **Octets** (`octets`): those of the characters one after the other (`octets_eq`). Only NUL has an
  octet that is zero (`ne_zero_of_mem_encode`).
- **One character** (`Pending.Awaits`, `foldl_step_encode`): the octets of a character lead from
  rest to rest. What is owed on the way is the number of the character, six bits at a time.

`decode_octets` is about all characters.
-/

namespace FunctionBounds.Text.Utf8

/-- The octets of a text. -/
def octets (s : String) : List UInt8 := s.toUTF8.data.toList

theorem octets_eq (s : String) : octets s = s.toList.flatMap String.utf8EncodeChar := by
  rw [octets, String.toUTF8_eq_toByteArray, ← String.utf8Encode_toList, List.utf8Encode,
    List.toList_data_toByteArray]

/-! ## One character -/

variable {p : Pending} {n later : Nat} {done : List Char}

/-- The bits so far are those of `n` above its lowest six, the next octet may hold these, and
`later` octets are owed after it. -/
structure Pending.Awaits (p : Pending) (n later : Nat) : Prop where
  bits : p.bits = n / 64
  later : p.later = later
  low : p.low.toNat ≤ n % 64 + 0x80
  high : n % 64 + 0x80 ≤ p.high.toNat

/-- The octet that goes on with a character and has the lowest six bits of a number. -/
def continuation (n : Nat) : UInt8 := .ofNat (n % 64 + 0x80)

theorem toNat_continuation (n : Nat) : (continuation n).toNat = n % 64 + 0x80 := by
  have hlt : n % 64 + 0x80 < 256 := by omega
  exact UInt8.toNat_ofNat_of_lt' hlt

theorem Pending.Awaits.next (h : p.Awaits n later) :
    p.next (continuation n) =
      match later with
      | 0 => .char (Char.ofNat n)
      | later + 1 => .pending { bits := n, later } := by
  have hnumber := toNat_continuation n
  have hbounds : p.low ≤ continuation n ∧ continuation n ≤ p.high := by
    rw [UInt8.le_iff_toNat_le, UInt8.le_iff_toNat_le, hnumber]
    exact ⟨h.low, h.high⟩
  have hbits : p.bits * 64 + (n % 64 + 0x80 - 0x80) = n := by
    rw [h.bits]
    omega
  rw [Pending.next, if_pos hbounds, hnumber]
  simp only [hbits, h.later]
  cases later <;> rfl

/-- The last octet of a character. -/
theorem Pending.Awaits.step_last (h : p.Awaits n 0) :
    Decoding.step ⟨done, some p⟩ (continuation n) = ⟨Char.ofNat n :: done, none⟩ := by
  simp only [Decoding.step, h.next]

/-- An octet that is neither the first nor the last one of a character. -/
theorem Pending.Awaits.step_more (h : p.Awaits n (later + 1)) :
    Decoding.step ⟨done, some p⟩ (continuation n) = ⟨done, some { bits := n, later }⟩ := by
  simp only [Decoding.step, h.next]

/-- After an octet that is not the first one, any octet may follow that goes on with a character. -/
theorem awaits_of_div {m : Nat} (h : m / 64 = n) : Pending.Awaits { bits := n, later } m later where
  bits := h.symm
  later := rfl
  low := by
    show 0x80 ≤ m % 64 + 0x80
    omega
  high := by
    show m % 64 + 0x80 ≤ 0xbf
    omega

/-! ### First octets -/

/-- What is owed after the first of three octets. Numbers that need fewer octets and surrogates are
left out. -/
def ofThree (n : Nat) : Pending :=
  ⟨n, 1, if n = 0 then 0xa0 else 0x80, if n = 0xd then 0x9f else 0xbf⟩

/-- What is owed after the first of four octets. Numbers that need fewer octets and those that are
too large are left out. -/
def ofFour (n : Nat) : Pending :=
  ⟨n, 2, if n = 0 then 0x90 else 0x80, if n = 4 then 0x8f else 0xbf⟩

theorem ofOctet_one : ∀ n < 128, Reading.ofOctet (.ofNat n) = .char (Char.ofNat n) := by
  decide

theorem ofOctet_two : ∀ n < 32, 2 ≤ n →
    Reading.ofOctet (.ofNat (n + 0xc0)) = .pending { bits := n, later := 0 } := by
  decide

theorem ofOctet_three : ∀ n < 16, Reading.ofOctet (.ofNat (n + 0xe0)) = .pending (ofThree n) := by
  decide

theorem ofOctet_four : ∀ n < 5, Reading.ofOctet (.ofNat (n + 0xf0)) = .pending (ofFour n) := by
  decide

theorem ofThree_awaits (hlow : 0x800 ≤ n) (hhigh : n < 0x10000) (h : n < 0xd800 ∨ 0xdfff < n) :
    (ofThree (n / 4096 % 16)).Awaits (n / 64) 1 where
  bits := by
    show n / 4096 % 16 = n / 64 / 64
    omega
  later := rfl
  low := by
    show (if n / 4096 % 16 = 0 then (0xa0 : UInt8) else 0x80).toNat ≤ n / 64 % 64 + 0x80
    split
    · show 0xa0 ≤ n / 64 % 64 + 0x80
      omega
    · show 0x80 ≤ n / 64 % 64 + 0x80
      omega
  high := by
    show n / 64 % 64 + 0x80 ≤ (if n / 4096 % 16 = 0xd then (0x9f : UInt8) else 0xbf).toNat
    split
    · show n / 64 % 64 + 0x80 ≤ 0x9f
      omega
    · show n / 64 % 64 + 0x80 ≤ 0xbf
      omega

theorem ofFour_awaits (hlow : 0x10000 ≤ n) (hhigh : n < 0x110000) :
    (ofFour (n / 262144 % 8)).Awaits (n / 4096) 2 where
  bits := by
    show n / 262144 % 8 = n / 4096 / 64
    omega
  later := rfl
  low := by
    show (if n / 262144 % 8 = 0 then (0x90 : UInt8) else 0x80).toNat ≤ n / 4096 % 64 + 0x80
    split
    · show 0x90 ≤ n / 4096 % 64 + 0x80
      omega
    · show 0x80 ≤ n / 4096 % 64 + 0x80
      omega
  high := by
    show n / 4096 % 64 + 0x80 ≤ (if n / 262144 % 8 = 4 then (0x8f : UInt8) else 0xbf).toNat
    split
    · show n / 4096 % 64 + 0x80 ≤ 0x8f
      omega
    · show n / 4096 % 64 + 0x80 ≤ 0xbf
      omega

theorem step_start {b : UInt8} (h : Reading.ofOctet b = .pending p) :
    Decoding.step ⟨done, none⟩ b = ⟨done, some p⟩ := by
  simp only [Decoding.step, Decoding.start, h]

/-- The octets of a character lead from rest to rest. -/
theorem foldl_step_encode (c : Char) (done : List Char) :
    (String.utf8EncodeChar c).foldl Decoding.step ⟨done, none⟩ = ⟨c :: done, none⟩ := by
  have hvalid : c.toNat < 0xd800 ∨ 0xdfff < c.toNat ∧ c.toNat < 0x110000 := c.valid
  have hchar : Char.ofNat c.toNat = c := c.ofNat_toNat
  have hval : c.val.toNat = c.toNat := rfl
  simp only [String.utf8EncodeChar, hval]
  generalize c.toNat = n at hvalid hchar
  subst hchar
  split
  · next hone =>
    have hfirst := ofOctet_one n (by omega)
    simp only [List.foldl_cons, List.foldl_nil, Decoding.step, Decoding.start, hfirst]
  · split
    · next hmore htwo =>
      have hfirst := ofOctet_two (n / 64 % 32) (by omega) (by omega)
      have hlast : Pending.Awaits { bits := n / 64 % 32, later := 0 } n 0 :=
        awaits_of_div (by omega)
      rw [List.foldl_cons, step_start hfirst]
      exact hlast.step_last
    · split
      · next hmore hthree =>
        have hfirst := ofOctet_three (n / 4096 % 16) (by omega)
        have hsecond := ofThree_awaits (n := n) (by omega) (by omega) (by omega)
        have hlast : Pending.Awaits { bits := n / 64, later := 0 } n 0 := awaits_of_div rfl
        rw [List.foldl_cons, step_start hfirst]
        show ((Decoding.step ⟨done, some (ofThree (n / 4096 % 16))⟩ (continuation (n / 64))).step
          (continuation n)) = _
        rw [hsecond.step_more, hlast.step_last]
      · next hmore =>
        have hfirst := ofOctet_four (n / 262144 % 8) (by omega)
        have hsecond := ofFour_awaits (n := n) (by omega) (by omega)
        have hthird : Pending.Awaits { bits := n / 4096, later := 1 } (n / 64) 1 :=
          awaits_of_div (by omega)
        have hlast : Pending.Awaits { bits := n / 64, later := 0 } n 0 := awaits_of_div rfl
        rw [List.foldl_cons, step_start hfirst]
        show (((Decoding.step ⟨done, some (ofFour (n / 262144 % 8))⟩ (continuation (n / 4096))).step
          (continuation (n / 64))).step (continuation n)) = _
        rw [hsecond.step_more, hthird.step_more, hlast.step_last]

/-! ## Texts -/

/-- By induction on the characters that are left. -/
theorem foldl_step_flatMap (cs done : List Char) :
    (cs.flatMap String.utf8EncodeChar).foldl Decoding.step ⟨done, none⟩ =
      ⟨cs.reverse ++ done, none⟩ := by
  induction cs generalizing done with
  | nil => rfl
  | cons c cs ih =>
    rw [List.flatMap_cons, List.foldl_append, foldl_step_encode, ih, List.reverse_cons,
      List.append_assoc]
    rfl

/-- Decoding gives back the text whose octets they are. -/
theorem decode_octets (s : String) : decode (octets s).toArray = s := by
  rw [decode, List.foldl_toArray, octets_eq, foldl_step_flatMap, List.append_nil]
  simp only [Decoding.finish, Option.isSome_none, Bool.false_eq_true, if_false,
    List.reverse_reverse, String.ofList_toList]

/-- Of all characters, only NUL has an octet that is zero. -/
theorem ne_zero_of_mem_encode {c : Char} (h : c ≠ '\x00') {b : UInt8}
    (hb : b ∈ String.utf8EncodeChar c) : b ≠ 0 := by
  have hpos : c.toNat ≠ 0 := fun hzero => h (by rw [← c.ofNat_toNat, hzero])
  have hnat {n : Nat} (hn : 0 < n) (hlt : n < 256) : UInt8.ofNat n ≠ 0 := by
    intro hzero
    have hsame := congrArg UInt8.toNat hzero
    rw [UInt8.toNat_ofNat_of_lt' hlt] at hsame
    exact absurd hsame (Nat.ne_of_gt hn)
  have hval : c.val.toNat = c.toNat := rfl
  simp only [String.utf8EncodeChar, hval] at hb
  generalize c.toNat = n at hpos hb
  split at hb
  · rw [List.mem_singleton.1 hb]
    exact hnat (by omega) (by omega)
  · split at hb
    · simp only [List.mem_cons, List.not_mem_nil, or_false] at hb
      rcases hb with rfl | rfl <;> exact hnat (by omega) (by omega)
    · split at hb
      · simp only [List.mem_cons, List.not_mem_nil, or_false] at hb
        rcases hb with rfl | rfl | rfl <;> exact hnat (by omega) (by omega)
      · simp only [List.mem_cons, List.not_mem_nil, or_false] at hb
        rcases hb with rfl | rfl | rfl | rfl <;> exact hnat (by omega) (by omega)

theorem ne_zero_of_mem_octets {s : String} (h : '\x00' ∉ s.toList) {b : UInt8}
    (hb : b ∈ octets s) : b ≠ 0 := by
  rw [octets_eq] at hb
  obtain ⟨c, hc, hbc⟩ := List.mem_flatMap.1 hb
  exact ne_zero_of_mem_encode (fun hnul => h (hnul ▸ hc)) hbc

end FunctionBounds.Text.Utf8
