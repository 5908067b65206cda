import FunctionBounds.Proofs.Field.Written
import Mathlib.Algebra.Order.Ring.Int
import Mathlib.Data.Nat.Bitwise

/-!
# LEB128 encodings

How a number is written in groups of seven bits, with no more groups than it needs or with spare
ones, and what is read back.

- **Encodings** (`Leb128.minimal`, `Leb128.encoding`): the groups of a natural number or of an
  integer, followed by as many groups as one likes that only repeat its sign.
- **Octets that end** (`Leb128.Ends`): the last octet has bit 7 clear, and no other one. A reader
  takes such octets and no others (`Bytes.lebGroups?_eq_some_iff`), and all of them are encodings
  (`Leb128.exists_encoding`).
- **Values** (`Leb128.value_cons`, `Leb128.value_encoding`): the number, one group at a time.
- **One octet at a time** (`Bytes.accumulate`): the groups put in place by shifts and a bitwise or,
  until one ends them. This is how the readers can be run (`Bytes.readUnsignedLeb_eq_accumulate`,
  `Bytes.readSignedLeb_eq_accumulate`).

`Bytes.readLeb_inverts` puts these together.
-/

namespace FunctionBounds

namespace Leb128

/-! ## Encodings -/

/-- A number fits in one group of seven bits, the highest of which is the sign if it may have
one. -/
def IsShort (hasSign : Bool) (v : Int) : Prop := if hasSign then -64 ≤ v ∧ v < 64 else v < 128

variable {hasSign : Bool} {v : Int}

instance : Decidable (IsShort hasSign v) := by
  unfold IsShort
  infer_instance

@[simp] theorem isShort_false : IsShort false v ↔ v < 128 := Iff.rfl

@[simp] theorem isShort_true : IsShort true v ↔ -64 ≤ v ∧ v < 64 := Iff.rfl

/-- The groups of a number, no more than it needs. -/
def minimal (hasSign : Bool) (v : Int) : List UInt8 :=
  if IsShort hasSign v then [.ofNat (v % 128).toNat]
  else .ofNat ((v % 128).toNat + 128) :: minimal hasSign (v / 128)
termination_by v.natAbs
decreasing_by
  rename_i h
  unfold IsShort at h
  split at h <;> omega

/-- The group that repeats the sign of a number. -/
def signGroup (v : Int) : UInt8 := if v < 0 then 0x7f else 0

/-- The groups `bs` followed by `spare` groups `fill`. -/
def padded (fill : UInt8) (bs : List UInt8) : Nat → List UInt8
  | 0 => bs
  | spare + 1 => bs.map (· ||| 0x80) ++ (List.replicate spare (fill ||| 0x80) ++ [fill])

/-- The groups of a number, followed by `spare` groups that it does not need. -/
def encoding (hasSign : Bool) (v : Int) (spare : Nat) : List UInt8 :=
  padded (signGroup v) (minimal hasSign v) spare

/-- The octets of a number that is written in its lowest group alone, and `spare` groups after
it. -/
def shortEncoding (v : Int) (spare : Nat) : List UInt8 :=
  padded (signGroup v) [.ofNat (v % 128).toNat] spare

variable {spare : Nat} {b : UInt8} {bs : List UInt8}

theorem encoding_of_isShort (h : IsShort hasSign v) :
    encoding hasSign v spare = shortEncoding v spare := by
  rw [encoding, minimal, if_pos h, shortEncoding]

theorem signGroup_div (v : Int) : signGroup (v / 128) = signGroup v := by
  have hsign : v / 128 < 0 ↔ v < 0 := by omega
  simp only [signGroup, hsign]

theorem ofNat_or_128 {n : Nat} (h : n < 128) : UInt8.ofNat n ||| 0x80 = .ofNat (n + 128) := by
  have hbit : n ||| 128 = n + 128 := by
    rw [Nat.or_comm, Nat.add_comm]
    exact (Nat.shiftLeft_add_eq_or_of_lt (b := n) (i := 7) h 1).symm
  rw [← hbit]
  exact (UInt8.ofNat_or n 128).symm

theorem ofNat_add_or_128 {n : Nat} (h : n < 128) :
    UInt8.ofNat (n + 128) ||| 0x80 = .ofNat (n + 128) := by
  rw [← ofNat_or_128 h, UInt8.or_assoc, UInt8.or_self]

/-- A number that is too large for one group is its lowest group and the rest. -/
theorem encoding_of_not_isShort (h : ¬IsShort hasSign v) :
    encoding hasSign v spare =
      .ofNat ((v % 128).toNat + 128) :: encoding hasSign (v / 128) spare := by
  rw [encoding, minimal, if_neg h, encoding, signGroup_div]
  cases spare with
  | zero => rfl
  | succ spare =>
    have hgroup : (v % 128).toNat < 128 := by omega
    simp only [padded, List.map_cons, List.cons_append, ofNat_add_or_128 hgroup]

/-- The spare groups of a number. -/
theorem padded_signGroup (v : Int) (spare : Nat) :
    padded (signGroup v) [signGroup v] spare =
      List.replicate spare (signGroup v ||| 0x80) ++ [signGroup v] := by
  cases spare with
  | zero => rfl
  | succ spare => rw [List.replicate_succ, List.cons_append]; rfl

/-! ## Octets that end -/

/-- The last octet has bit 7 clear, and no other one. -/
def Ends : List UInt8 → Prop
  | [] => False
  | b :: bs => if isLast b then bs = [] else Ends bs

theorem Ends.ne_nil (h : Ends bs) : bs ≠ [] := by
  rintro rfl
  exact h

theorem ends_cons_of_not_isLast (hb : isLast b = false) (h : Ends bs) : Ends (b :: bs) := by
  rw [Ends, hb]
  exact h

theorem isLast_iff_toNat_lt (b : UInt8) : isLast b = true ↔ b.toNat < 128 := by
  rw [isLast, decide_eq_true_iff, UInt8.lt_iff_toNat_lt]
  rfl

/-- A bit of a number by itself. -/
theorem and_two_pow_eq (n i : Nat) : n &&& 2 ^ i = n / 2 ^ i % 2 * 2 ^ i := by
  rw [Nat.and_two_pow, Nat.testBit_eq_decide_div_mod_eq]
  rcases Nat.mod_two_eq_zero_or_one (n / 2 ^ i) with hbit | hbit <;> simp [hbit]

theorem isLast_iff (b : UInt8) : isLast b = true ↔ b &&& 0x80 = 0 := by
  have hoctet := b.toNat_lt
  have hbit : (b &&& 0x80).toNat = b.toNat / 128 % 2 * 128 := and_two_pow_eq b.toNat 7
  rw [isLast_iff_toNat_lt, ← UInt8.toNat_inj, hbit]
  show _ ↔ _ = 0
  omega

theorem isLast_ofNat {n : Nat} (h : n < 128) : isLast (.ofNat n) = true := by
  rw [isLast_iff_toNat_lt]
  show n % 256 < 128
  omega

theorem isLast_ofNat_add {n : Nat} (h : n < 128) : isLast (.ofNat (n + 128)) = false := by
  rw [← Bool.not_eq_true, isLast_iff_toNat_lt]
  show ¬(n + 128) % 256 < 128
  omega

theorem ends_padded_signGroup (v : Int) (spare : Nat) :
    Ends (padded (signGroup v) [signGroup v] spare) := by
  have hsign : isLast (signGroup v) = true ∧ isLast (signGroup v ||| 0x80) = false := by
    unfold signGroup
    split <;> decide
  rw [padded_signGroup]
  induction spare with
  | zero => exact (if_pos hsign.1).mpr rfl
  | succ spare ih => exact ends_cons_of_not_isLast hsign.2 ih

theorem ends_shortEncoding (v : Int) (spare : Nat) : Ends (shortEncoding v spare) := by
  have hgroup : (v % 128).toNat < 128 := by omega
  cases spare with
  | zero => exact (if_pos (isLast_ofNat hgroup)).mpr rfl
  | succ spare =>
    rw [shortEncoding, padded, ← padded_signGroup, List.map_singleton, ofNat_or_128 hgroup]
    exact ends_cons_of_not_isLast (isLast_ofNat_add hgroup) (ends_padded_signGroup v spare)

/-- Only the last group of a number ends it, by induction on the groups that it needs. -/
theorem ends_encoding (hasSign : Bool) (v : Int) (spare : Nat) :
    Ends (encoding hasSign v spare) := by
  induction v using minimal.induct hasSign with
  | case1 v h =>
    rw [encoding_of_isShort h]
    exact ends_shortEncoding v spare
  | case2 v h ih =>
    have hgroup : (v % 128).toNat < 128 := by omega
    rw [encoding_of_not_isShort h]
    exact ends_cons_of_not_isLast (isLast_ofNat_add hgroup) ih

/-! ## Values -/

/-- The number in the groups of an encoding. -/
def value (hasSign : Bool) (bs : List UInt8) : Int := if hasSign then signed bs else unsigned bs

theorem one_shiftLeft_mul_succ (k : Nat) : 1 <<< (7 * (k + 1)) = 128 * (1 <<< (7 * k)) := by
  rw [Nat.mul_succ, Nat.shiftLeft_add, Nat.shiftLeft_eq _ 7, Nat.mul_comm]

theorem value_singleton (hasSign : Bool) (b : UInt8) :
    IsShort hasSign (value hasSign [b]) ∧ value hasSign [b] % 128 = b.toNat % 128 := by
  have hgroup := Nat.mod_lt b.toNat (show 128 > 0 by decide)
  cases hasSign with
  | false =>
    have hvalue : value false [b] = (b.toNat % 128 : Nat) := by simp [value]
    rw [hvalue, IsShort, if_neg (by decide)]
    omega
  | true =>
    have hvalue : value true [b] = ((b.toNat % 128 : Nat) : Int).bmod 128 := by simp [value, signed]
    rw [hvalue, IsShort, if_pos rfl, Int.bmod_def]
    omega

/-- The first group of several holds the lowest seven bits, and the sign is in the others. -/
theorem value_cons (hasSign : Bool) (b : UInt8) (hbs : bs ≠ []) :
    value hasSign (b :: bs) = b.toNat % 128 + 128 * value hasSign bs := by
  have hgroup := Nat.mod_lt b.toNat (show 128 > 0 by decide)
  cases hasSign with
  | false =>
    simp only [value, Bool.false_eq_true, if_false, unsigned_cons]
    omega
  | true =>
    obtain ⟨k, hk⟩ : ∃ k, bs.length = k + 1 := Nat.exists_eq_succ_of_ne_zero (by simpa using hbs)
    have hpos : 0 < 1 <<< (7 * k) := by
      rw [Nat.one_shiftLeft]
      exact Nat.two_pow_pos _
    have hcount : 1 <<< (7 * bs.length) = 128 * (1 <<< (7 * k)) := by
      rw [hk, one_shiftLeft_mul_succ]
    have hcounts : 1 <<< (7 * (b :: bs).length) = 128 * (1 <<< (7 * bs.length)) := by
      rw [List.length_cons, one_shiftLeft_mul_succ]
    have hrest := Int.bmod_add_bdiv (unsigned bs) (1 <<< (7 * bs.length))
    have hlow := Int.le_bmod (x := unsigned bs) (m := 1 <<< (7 * bs.length)) (by omega)
    have hhigh := Int.bmod_lt (x := unsigned bs) (m := 1 <<< (7 * bs.length)) (by omega)
    simp only [value, if_true, signed, hcounts, unsigned_cons]
    generalize (unsigned bs : Int).bdiv (1 <<< (7 * bs.length)) = q at hrest
    generalize (unsigned bs : Int).bmod (1 <<< (7 * bs.length)) = r at hrest hlow hhigh
    generalize 1 <<< (7 * bs.length) = m at *
    have hsum : ((b.toNat % 128 + 128 * unsigned bs : Nat) : Int) =
        (b.toNat % 128 + 128 * r) + ((128 * m : Nat) : Int) * q := by
      push_cast
      rw [← hrest, mul_add, mul_assoc, add_assoc]
    rw [hsum, Int.add_mul_bmod_self_left]
    exact Int.bmod_eq_of_le_mul_two (by omega) (by omega)

/-- The highest bit of several groups is in those above the lowest one. -/
theorem le_unsigned_cons (b : UInt8) (hbs : bs ≠ []) :
    1 <<< (7 * (b :: bs).length) ≤ 2 * unsigned (b :: bs) ↔
      1 <<< (7 * bs.length) ≤ 2 * unsigned bs := by
  have hgroup := Nat.mod_lt b.toNat (show 128 > 0 by decide)
  obtain ⟨k, hk⟩ : ∃ k, bs.length = k + 1 := Nat.exists_eq_succ_of_ne_zero (by simpa using hbs)
  have hcount := one_shiftLeft_mul_succ k
  -- There is a group above the lowest one, so that the count is even and it decides nothing.
  rw [← hk] at hcount
  rw [List.length_cons, one_shiftLeft_mul_succ, unsigned_cons]
  omega

/-- A number has a sign only if it may have one. -/
def Writable (hasSign : Bool) (v : Int) : Prop := hasSign = true ∨ 0 ≤ v

theorem writable_false : Writable false v ↔ 0 ≤ v := by simp [Writable]

theorem Writable.imp {w : Int} (hv : Writable hasSign v) (h : 0 ≤ v → 0 ≤ w) :
    Writable hasSign w :=
  Or.imp_right h hv

theorem writable_value (hasSign : Bool) (bs : List UInt8) :
    Writable hasSign (value hasSign bs) := by
  cases hasSign with
  | false => exact .inr (Int.natCast_nonneg _)
  | true => exact .inl rfl

/-- A short number is told by its lowest seven bits. -/
theorem eq_of_isShort {w : Int} (hv : Writable hasSign v) (hw : Writable hasSign w)
    (hv' : IsShort hasSign v) (hw' : IsShort hasSign w) (h : v % 128 = w % 128) : v = w := by
  cases hasSign with
  | false =>
    rw [writable_false] at hv hw
    rw [isShort_false] at hv' hw'
    omega
  | true =>
    rw [isShort_true] at hv' hw'
    omega

theorem toNat_group_mod (v : Int) :
    ((UInt8.ofNat (v % 128).toNat).toNat % 128 : Int) = v % 128 := by
  have hgroup : (UInt8.ofNat (v % 128).toNat).toNat = (v % 128).toNat % 256 := rfl
  rw [hgroup]
  omega

theorem toNat_group_add_mod (v : Int) :
    ((UInt8.ofNat ((v % 128).toNat + 128)).toNat % 128 : Int) = v % 128 := by
  have hgroup : (UInt8.ofNat ((v % 128).toNat + 128)).toNat = ((v % 128).toNat + 128) % 256 := rfl
  rw [hgroup]
  omega

theorem value_group (hv : Writable hasSign v) (h : IsShort hasSign v) :
    value hasSign [.ofNat (v % 128).toNat] = v := by
  obtain ⟨hshort, hmod⟩ := value_singleton hasSign (.ofNat (v % 128).toNat)
  rw [toNat_group_mod] at hmod
  exact eq_of_isShort (writable_value _ _) hv hshort h hmod

/-- Spare groups stand for nothing but the sign. -/
theorem value_padded_signGroup (hv : Writable hasSign v) (spare : Nat) :
    value hasSign (padded (signGroup v) [signGroup v] spare) = if v < 0 then -1 else 0 := by
  have hgroups : ∀ b, b = signGroup v ∨ b = signGroup v ||| 0x80 →
      (b.toNat % 128 : Int) = (if v < 0 then -1 else 0) % 128 := by
    unfold signGroup
    rintro b (rfl | rfl) <;> split <;> rfl
  rw [padded_signGroup]
  induction spare with
  | zero =>
    obtain ⟨hshort, hmod⟩ := value_singleton hasSign (signGroup v)
    rw [hgroups _ (.inl rfl)] at hmod
    refine eq_of_isShort (writable_value _ _) (hv.imp fun hpos => ?_) hshort ?_ hmod
    · rw [if_neg (by omega)]
    · cases hasSign <;> split <;> simp
  | succ spare ih =>
    rw [List.replicate_succ, List.cons_append, value_cons _ _ (by simp), ih,
      hgroups _ (.inr rfl)]
    split <;> rfl

theorem value_shortEncoding (hv : Writable hasSign v) (h : IsShort hasSign v) (spare : Nat) :
    value hasSign (shortEncoding v spare) = v := by
  have hgroup : (v % 128).toNat < 128 := by omega
  cases spare with
  | zero => exact value_group hv h
  | succ spare =>
    rw [shortEncoding, padded, ← padded_signGroup, List.map_singleton, ofNat_or_128 hgroup,
      List.singleton_append, value_cons _ _ (ends_padded_signGroup v spare).ne_nil,
      value_padded_signGroup hv, toNat_group_add_mod]
    cases hasSign with
    | false =>
      rw [writable_false] at hv
      rw [isShort_false] at h
      split <;> omega
    | true =>
      rw [isShort_true] at h
      split <;> omega

/-- An encoding holds the number that it is an encoding of, whatever is spare. -/
theorem value_encoding (hv : Writable hasSign v) (spare : Nat) :
    value hasSign (encoding hasSign v spare) = v := by
  induction v using minimal.induct hasSign with
  | case1 v h => rw [encoding_of_isShort h, value_shortEncoding hv h]
  | case2 v h ih =>
    have hrest : Writable hasSign (v / 128) := hv.imp (by omega)
    rw [encoding_of_not_isShort h, value_cons _ _ (ends_encoding _ _ _).ne_nil, ih hrest,
      toNat_group_add_mod]
    omega

/-- The two's complement of a number of groups has its sign in the highest bit. -/
theorem signed_range (hbs : bs ≠ []) :
    -(2 ^ (7 * bs.length - 1) : Int) ≤ signed bs ∧ signed bs < 2 ^ (7 * bs.length - 1) := by
  obtain ⟨bits, hbits⟩ : ∃ bits, 7 * bs.length = bits + 1 := by
    have hlength := List.length_pos_iff.2 hbs
    exact ⟨7 * bs.length - 1, by omega⟩
  have hcount : 1 <<< (7 * bs.length) = 2 * 2 ^ bits := by
    rw [hbits, Nat.one_shiftLeft, Nat.pow_succ, Nat.mul_comm]
  have hpos := Nat.two_pow_pos bits
  have hpow : (2 ^ bits : Int) = (2 ^ bits : Nat) := by push_cast; rfl
  have hlow := Int.le_bmod (x := unsigned bs) (m := 2 * 2 ^ bits) (by omega)
  have hhigh := Int.bmod_lt (x := unsigned bs) (m := 2 * 2 ^ bits) (by omega)
  rw [signed, hcount, hbits, Nat.add_sub_cancel, hpow]
  omega

/-- Both readings are one number as far as the groups can tell. -/
theorem unsigned_emod (bs : List UInt8) :
    (unsigned bs : Int) % 2 ^ (7 * bs.length) = signed bs % 2 ^ (7 * bs.length) := by
  have hpow : (2 ^ (7 * bs.length) : Int) = (1 <<< (7 * bs.length) : Nat) := by
    rw [Nat.one_shiftLeft]
    push_cast
    rfl
  rw [hpow, signed, Int.bmod_emod]

/-- The groups above the lowest one repeat its sign, if that is all that is needed. -/
theorem div_of_isShort (hv : Writable hasSign (v / 128)) (h : IsShort hasSign v) :
    v / 128 = if v < 0 then -1 else 0 := by
  cases hasSign with
  | false =>
    rw [writable_false] at hv
    rw [isShort_false] at h
    split <;> omega
  | true =>
    rw [isShort_true] at h
    split <;> omega

/-- The number that stands for a sign alone is written in its groups. -/
theorem encoding_sign (hasSign : Bool) (v : Int) (spare : Nat) :
    encoding hasSign (if v < 0 then -1 else 0) spare =
      padded (signGroup v) [signGroup v] spare := by
  have hshort : IsShort hasSign (if v < 0 then -1 else 0) := by
    cases hasSign <;> split <;> decide
  rw [encoding_of_isShort hshort, shortEncoding]
  unfold signGroup
  split <;> rfl

/-- A group in front of an encoding of the rest gives an encoding of the number. If the number is
short, all that stands after the group is spare. -/
theorem exists_encoding_cons (hv : Writable hasSign (v / 128)) (spare : Nat) :
    ∃ spare', .ofNat ((v % 128).toNat + 128) :: encoding hasSign (v / 128) spare =
      encoding hasSign v spare' := by
  by_cases h : IsShort hasSign v
  · have hgroup : (v % 128).toNat < 128 := by omega
    refine ⟨spare + 1, ?_⟩
    rw [encoding_of_isShort h, shortEncoding, padded, ← padded_signGroup, ← encoding_sign,
      ← div_of_isShort hv h, List.map_singleton, ofNat_or_128 hgroup, List.singleton_append]
  · exact ⟨spare, (encoding_of_not_isShort h).symm⟩

/-- Octets that end are an encoding of their number. -/
theorem exists_encoding (hasSign : Bool) (h : Ends bs) :
    ∃ spare, bs = encoding hasSign (value hasSign bs) spare := by
  induction bs with
  | nil => exact h.elim
  | cons b bs ih =>
    have hoctet := b.toNat_lt
    rw [Ends] at h
    split at h
    · next hlast =>
      subst h
      obtain ⟨hshort, hmod⟩ := value_singleton hasSign b
      have hlow := (isLast_iff_toNat_lt b).1 hlast
      refine ⟨0, ?_⟩
      rw [encoding_of_isShort hshort, shortEncoding, padded, hmod]
      refine congrArg (fun b => [b]) (UInt8.toNat_inj.1 ?_)
      show b.toNat = ((b.toNat : Int) % 128).toNat % 256
      omega
    · next hmore =>
      have hhigh := mt (isLast_iff_toNat_lt b).2 hmore
      obtain ⟨spare, hbs⟩ := ih h
      have hvalue := value_cons hasSign b h.ne_nil
      have hrest := writable_value hasSign bs
      generalize value hasSign bs = w at hbs hvalue hrest
      generalize value hasSign (b :: bs) = v at hvalue
      obtain rfl : w = v / 128 := by omega
      have hgroup : b = .ofNat ((v % 128).toNat + 128) := by
        refine UInt8.toNat_inj.1 ?_
        show b.toNat = ((v % 128).toNat + 128) % 256
        omega
      obtain ⟨spare', hspare⟩ := exists_encoding_cons hrest spare
      exact ⟨spare', by rw [hgroup, hbs, hspare]⟩

end Leb128

namespace Bytes

open Leb128 (Ends Writable encoding isLast unsigned signed value)

variable {d : Bytes} {off next : Nat} {groups : List UInt8}

/-! ## Octets that are taken -/

theorem lebGroups?_of_size_le (h : d.size ≤ off) : d.lebGroups? off = none := by
  rw [lebGroups?, indexFrom?, dif_neg (by omega), Option.map_none]

/-- Groups are taken one octet after the other. -/
theorem lebGroups?_of_lt (h : off < d.size) :
    d.lebGroups? off =
      if isLast d[off] then some ([d[off]], off + 1)
      else (d.lebGroups? (off + 1)).map fun (groups, next) => (d[off] :: groups, next) := by
  have hcons {stop : Nat} (hstop : off < stop) (hsize : stop ≤ d.size) :
      (d.extract off stop).toList = d[off] :: (d.extract (off + 1) stop).toList := by
    have hget : d.toList.drop off = d[off] :: d.toList.drop (off + 1) := by
      rw [← Array.getElem_toList]
      exact List.drop_eq_getElem_cons (by rwa [Array.length_toList])
    obtain ⟨n, rfl⟩ : ∃ n, stop = off + 1 + n := ⟨stop - (off + 1), by omega⟩
    rw [Array.toList_extract, Array.toList_extract, List.extract_eq_take_drop,
      List.extract_eq_take_drop, hget, show off + 1 + n - off = n + 1 by omega,
      List.take_succ_cons, Nat.add_sub_cancel_left]
  rw [lebGroups?, indexFrom?, dif_pos h]
  split
  · rw [Option.map_some, hcons (Nat.lt_succ_self off) h,
      Array.extract_empty_of_stop_le_start (by omega)]
  · rw [lebGroups?]
    cases hlast : d.indexFrom? isLast (off + 1) with
    | none => rfl
    | some last =>
      have hbounds := indexFrom?_bounds hlast
      simp only [Option.map_some, hcons (show off < last + 1 by omega) hbounds.2]

/-- What is taken are octets that end, whatever stands after them. -/
theorem lebGroups?_eq_some_iff :
    d.lebGroups? off = some (groups, next) ↔
      Ends groups ∧ d.Holds off groups ∧ next = off + groups.length := by
  induction groups generalizing off with
  | nil =>
    refine ⟨fun h => ?_, fun h => h.1.elim⟩
    by_cases hlt : off < d.size
    · rw [lebGroups?_of_lt hlt] at h
      split at h
      · cases h
      · obtain ⟨p, -, hp⟩ := Option.map_eq_some_iff.1 h
        cases hp
    · rw [lebGroups?_of_size_le (by omega)] at h
      cases h
  | cons b bs ih =>
    by_cases hlt : off < d.size
    · rw [lebGroups?_of_lt hlt, holds_cons_iff, Array.getElem?_eq_getElem hlt, Ends]
      cases hlast : isLast d[off] with
      | true =>
        simp only [if_true, Option.some.injEq, Prod.mk.injEq, List.cons.injEq]
        constructor
        · rintro ⟨⟨rfl, rfl⟩, rfl⟩
          exact ⟨by rw [if_pos hlast], ⟨rfl, holds_nil (by omega)⟩, rfl⟩
        · rintro ⟨hends, ⟨rfl, -⟩, rfl⟩
          rw [if_pos hlast] at hends
          subst hends
          exact ⟨⟨rfl, rfl⟩, rfl⟩
      | false =>
        have hrest (bs' : List UInt8) (next' : Nat) :
            (d[off] :: bs' = b :: bs ∧ next' = next) ↔ d[off] = b ∧ bs' = bs ∧ next' = next := by
          rw [List.cons.injEq, and_assoc]
        simp only [Bool.false_eq_true, if_false, Option.map_eq_some_iff, Prod.exists,
          Prod.mk.injEq, hrest, Option.some.injEq, List.length_cons]
        constructor
        · rintro ⟨bs', next', htail, rfl, rfl, rfl⟩
          obtain ⟨hends, hholds, hnext⟩ := ih.1 htail
          refine ⟨by rwa [if_neg (by simp [hlast])], ⟨rfl, hholds⟩, by omega⟩
        · rintro ⟨hends, ⟨rfl, hholds⟩, hnext⟩
          rw [if_neg (by simp [hlast])] at hends
          exact ⟨bs, next, ih.2 ⟨hends, hholds, by omega⟩, rfl, rfl, rfl⟩
    · refine ⟨fun h => ?_, fun h => ?_⟩
      · rw [lebGroups?_of_size_le (by omega)] at h
        cases h
      · obtain ⟨hsize, -⟩ := h.2.1.get
        exact absurd hsize hlt

/-! ## One octet at a time -/

/-- The groups from `off` on, put above the lowest `bits` bits of a number, one octet after the
other. They give the number, how many bits it has, whether the highest one is set, and the offset
after the octet that ends them. -/
def accumulate (d : Bytes) (off number bits : Nat) : Option (Nat × Nat × Bool × Nat) :=
  if h : off < d.size then
    let number := number ||| (d[off].toNat &&& 0x7f) <<< bits
    if d[off] &&& 0x80 = 0 then some (number, bits + 7, d[off] &&& 0x40 != 0, off + 1)
    else d.accumulate (off + 1) number (bits + 7)
  else none
termination_by d.size - off

/-- A group above the bits of a number is added to it. -/
theorem or_shiftLeft_group {number bits : Nat} (h : number < 1 <<< bits) (b : UInt8) :
    number ||| (b.toNat &&& 0x7f) <<< bits = number + (b.toNat % 128) <<< bits := by
  have hgroup : b.toNat &&& 0x7f = b.toNat % 128 := Nat.and_two_pow_sub_one_eq_mod b.toNat 7
  rw [Nat.one_shiftLeft] at h
  rw [hgroup, Nat.or_comm, ← Nat.shiftLeft_add_eq_or_of_lt h, Nat.add_comm]

/-- With the group, the number has seven bits more. -/
theorem or_shiftLeft_group_lt {number bits : Nat} (h : number < 1 <<< bits) (b : UInt8) :
    number ||| (b.toNat &&& 0x7f) <<< bits < 1 <<< (bits + 7) := by
  have hgroup := Nat.mod_lt b.toNat (show 128 > 0 by decide)
  have hle := Nat.mul_le_mul_right (1 <<< bits) (Nat.le_of_lt_succ hgroup)
  have hbits : 1 <<< (bits + 7) = 128 * 1 <<< bits := by
    rw [Nat.shiftLeft_add, Nat.shiftLeft_eq _ 7, Nat.mul_comm]
  rw [or_shiftLeft_group h, Nat.shiftLeft_eq, ← Nat.one_shiftLeft]
  omega

/-- The groups that follow are put above the group. -/
theorem or_shiftLeft_group_add {number bits : Nat} (h : number < 1 <<< bits) (b : UInt8)
    (bs : List UInt8) :
    (number ||| (b.toNat &&& 0x7f) <<< bits) + unsigned bs <<< (bits + 7) =
      number + unsigned (b :: bs) <<< bits := by
  have hpow : 2 ^ (bits + 7) = 128 * 2 ^ bits := by rw [Nat.pow_add, Nat.mul_comm]
  rw [or_shiftLeft_group h]
  simp only [Leb128.unsigned_cons, Nat.shiftLeft_eq, hpow, Nat.add_mul]
  ac_rfl

theorem bne_and_64 (b : UInt8) : (b &&& 0x40 != 0) = decide (128 ≤ 2 * (b.toNat % 128)) := by
  have hbit : (b &&& 0x40).toNat = b.toNat / 64 % 2 * 64 := Leb128.and_two_pow_eq b.toNat 6
  rw [Bool.eq_iff_iff, bne_iff_ne, decide_eq_true_iff, ne_eq, ← UInt8.toNat_inj, hbit]
  show ¬_ = 0 ↔ _
  omega

/-- What the loop has taken is the number so far, and what is left are the groups above it. -/
theorem accumulate_eq {number bits : Nat} (h : number < 1 <<< bits) :
    d.accumulate off number bits =
      (d.lebGroups? off).map fun (groups, next) =>
        (number + unsigned groups <<< bits, bits + 7 * groups.length,
          decide (1 <<< (7 * groups.length) ≤ 2 * unsigned groups), next) := by
  fun_induction accumulate d off number bits with
  | case1 off number bits hlt sum hlast =>
    rw [lebGroups?_of_lt hlt, (Leb128.isLast_iff _).2 hlast, if_pos rfl, Option.map_some,
      bne_and_64]
    simp only [sum, or_shiftLeft_group h, Leb128.unsigned_cons, Leb128.unsigned_nil]
    rfl
  | case2 off number bits hlt sum hmore ih =>
    have hmore : ¬isLast d[off] = true := mt (Leb128.isLast_iff _).1 hmore
    rw [ih (or_shiftLeft_group_lt h d[off]), lebGroups?_of_lt hlt, if_neg hmore, Option.map_map]
    refine Option.map_congr ?_
    rintro ⟨groups, next⟩ htaken
    have hgroups : groups ≠ [] := (lebGroups?_eq_some_iff.1 (Option.mem_def.1 htaken)).1.ne_nil
    have hwidth : bits + 7 + 7 * groups.length = bits + 7 * (d[off] :: groups).length := by
      rw [List.length_cons]
      omega
    simp only [sum, Function.comp_apply, or_shiftLeft_group_add h, hwidth,
      Leb128.le_unsigned_cons _ hgroups]
  | case3 off number bits hout => rw [lebGroups?_of_size_le (by omega), Option.map_none]

/-- The unsigned reader takes one octet after the other. -/
theorem readUnsignedLeb_eq_accumulate (d : Bytes) (off : Nat) :
    d.readUnsignedLeb off =
      match d.accumulate off 0 0 with
      | some (number, _, _, next) => .ok (number, next)
      | none => .error .unsignedUnterminated := by
  rw [readUnsignedLeb, accumulate_eq (by decide)]
  cases d.lebGroups? off with
  | none => rfl
  | some p => simp only [Option.map_some, Nat.zero_add, Nat.shiftLeft_zero]

/-- The signed reader does so as well. It takes off two to the number of bits if the highest one
is set. -/
theorem readSignedLeb_eq_accumulate (d : Bytes) (off : Nat) :
    d.readSignedLeb off =
      match d.accumulate off 0 0 with
      | some (number, bits, negative, next) =>
        .ok (if negative then number - (1 <<< bits : Nat) else number, next)
      | none => .error .signedUnterminated := by
  rw [readSignedLeb, accumulate_eq (by decide)]
  cases d.lebGroups? off with
  | none => rfl
  | some p =>
    have hlt := Leb128.unsigned_lt p.1
    have hmod : (unsigned p.1 : Int) % (1 <<< (7 * p.1.length) : Nat) = unsigned p.1 :=
      Int.emod_eq_of_lt (Int.natCast_nonneg _) (Int.ofNat_lt.2 hlt)
    simp only [Option.map_some, Nat.zero_add, Nat.shiftLeft_zero, decide_eq_true_eq, Leb128.signed,
      Int.bmod_def, hmod]
    refine congrArg (fun v => Except.ok (v, p.2)) ?_
    split <;> split <;> omega

/-! ## What is read -/

/-- The first octet from `off` on with bit 7 clear stands at `last`. -/
def EndsAt (d : Bytes) (off last : Nat) : Prop :=
  off ≤ last ∧ (∃ b, d[last]? = some b ∧ b &&& 0x80 = 0) ∧
    ∀ i b, off ≤ i → i < last → d[i]? = some b → b &&& 0x80 ≠ 0

theorem indexFrom?_isLast {last : Nat} :
    d.indexFrom? isLast off = some last ↔ EndsAt d off last := by
  simp only [indexFrom?_eq_some_iff, EndsAt, Leb128.isLast_iff, ← Bool.not_eq_true, ne_eq]

theorem readUnsignedLeb_of_lebGroups? (h : d.lebGroups? off = some (groups, next)) :
    d.readUnsignedLeb off = .ok (unsigned groups, next) := by
  rw [readUnsignedLeb, h]

theorem readSignedLeb_of_lebGroups? (h : d.lebGroups? off = some (groups, next)) :
    d.readSignedLeb off = .ok (signed groups, next) := by
  rw [readSignedLeb, h]

/-- Both readers understand an encoding if an octet ends one. -/
theorem isSome_lebGroups? :
    (d.lebGroups? off).isSome = true ↔ ∃ i b, off ≤ i ∧ d[i]? = some b ∧ b &&& 0x80 = 0 := by
  simp only [lebGroups?, Option.isSome_map, isSome_indexFrom?, Leb128.isLast_iff]

theorem readUnsignedLeb_isOk :
    (∃ p, d.readUnsignedLeb off = .ok p) ↔ (d.lebGroups? off).isSome = true := by
  cases h : d.lebGroups? off <;> simp [readUnsignedLeb, h]

theorem readSignedLeb_isOk :
    (∃ p, d.readSignedLeb off = .ok p) ↔ (d.lebGroups? off).isSome = true := by
  cases h : d.lebGroups? off <;> simp [readSignedLeb, h]

/-- The octets that are taken are an encoding of the number in them, and no other octets are. -/
theorem exists_lebGroups?_iff {hasSign : Bool} {v : Int} (hv : Writable hasSign v) :
    (∃ groups, d.lebGroups? off = some (groups, next) ∧ value hasSign groups = v) ↔
      ∃ spare, d.Holds off (encoding hasSign v spare) ∧
        next = off + (encoding hasSign v spare).length := by
  constructor
  · rintro ⟨groups, htaken, rfl⟩
    obtain ⟨hends, hholds, hnext⟩ := lebGroups?_eq_some_iff.1 htaken
    obtain ⟨spare, hspare⟩ := Leb128.exists_encoding hasSign hends
    exact ⟨spare, hspare ▸ hholds, hspare ▸ hnext⟩
  · rintro ⟨spare, hholds, hnext⟩
    exact ⟨_, lebGroups?_eq_some_iff.2 ⟨Leb128.ends_encoding _ _ _, hholds, hnext⟩,
      Leb128.value_encoding hv spare⟩

theorem readUnsignedLeb_eq_ok_iff {n : Nat} :
    d.readUnsignedLeb off = .ok (n, next) ↔
      ∃ spare, d.Holds off (encoding false n spare) ∧
        next = off + (encoding false n spare).length := by
  rw [← exists_lebGroups?_iff (Leb128.writable_false.2 (Int.natCast_nonneg n))]
  rcases h : d.lebGroups? off with _ | ⟨taken, stop⟩ <;>
    simp [readUnsignedLeb, value, h, and_comm]

theorem readSignedLeb_eq_ok_iff {z : Int} :
    d.readSignedLeb off = .ok (z, next) ↔
      ∃ spare, d.Holds off (encoding true z spare) ∧
        next = off + (encoding true z spare).length := by
  rw [← exists_lebGroups?_iff (.inl rfl)]
  rcases h : d.lebGroups? off with _ | ⟨taken, stop⟩ <;>
    simp [readSignedLeb, value, h, and_comm]

/-- LEB128 numbers are read as they were written. An encoding of a number gives that number and the
offset after it, whatever is spare and whatever stands around it. The readers succeed if and only
if an octet with bit 7 clear stands at the offset or after it, and stop after the first one; the
octets up to there are an encoding of either number, which lies in the range of so many groups of
seven bits, and both numbers are the same modulo what those can tell apart. -/
theorem readLeb_inverts (d : Bytes) (off : Nat) :
    (∀ n spare : Nat, d.Holds off (encoding false n spare) →
      d.readUnsignedLeb off = .ok (n, off + (encoding false n spare).length)) ∧
    (∀ (z : Int) (spare : Nat), d.Holds off (encoding true z spare) →
      d.readSignedLeb off = .ok (z, off + (encoding true z spare).length)) ∧
    ((∃ p, d.readUnsignedLeb off = .ok p) ↔
      ∃ i b, off ≤ i ∧ d[i]? = some b ∧ b &&& 0x80 = 0) ∧
    ((∃ p, d.readSignedLeb off = .ok p) ↔
      ∃ i b, off ≤ i ∧ d[i]? = some b ∧ b &&& 0x80 = 0) ∧
    ∀ last, EndsAt d off last →
      ∃ (n : Nat) (z : Int) (k spare spare' : Nat), last + 1 = off + k ∧
        d.readUnsignedLeb off = .ok (n, last + 1) ∧ d.readSignedLeb off = .ok (z, last + 1) ∧
        d.Holds off (encoding false n spare) ∧ (encoding false n spare).length = k ∧
        encoding true z spare' = encoding false n spare ∧
        n < 2 ^ (7 * k) ∧ -2 ^ (7 * k - 1) ≤ z ∧ z < 2 ^ (7 * k - 1) ∧
        (n : Int) % 2 ^ (7 * k) = z % 2 ^ (7 * k) := by
  refine ⟨fun n spare h => ?_, fun z spare h => ?_, ?_, ?_, fun last hlast => ?_⟩
  · exact readUnsignedLeb_eq_ok_iff.2 ⟨spare, h, rfl⟩
  · exact readSignedLeb_eq_ok_iff.2 ⟨spare, h, rfl⟩
  · rw [readUnsignedLeb_isOk, isSome_lebGroups?]
  · rw [readSignedLeb_isOk, isSome_lebGroups?]
  · have htaken : d.lebGroups? off = some ((d.extract off (last + 1)).toList, last + 1) := by
      rw [lebGroups?, indexFrom?_isLast.2 hlast, Option.map_some]
    generalize (d.extract off (last + 1)).toList = groups at htaken
    obtain ⟨hends, hholds, hnext⟩ := lebGroups?_eq_some_iff.1 htaken
    obtain ⟨spare, hspare⟩ := Leb128.exists_encoding false hends
    obtain ⟨spare', hspare'⟩ := Leb128.exists_encoding true hends
    have hvalue : value false groups = unsigned groups := rfl
    have hvalue' : value true groups = signed groups := rfl
    have hlt := Leb128.unsigned_lt groups
    rw [hvalue] at hspare
    rw [hvalue'] at hspare'
    rw [Nat.one_shiftLeft] at hlt
    obtain ⟨hlow, hhigh⟩ := Leb128.signed_range hends.ne_nil
    refine ⟨unsigned groups, signed groups, groups.length, spare, spare', hnext,
      readUnsignedLeb_of_lebGroups? htaken, readSignedLeb_of_lebGroups? htaken, ?_, ?_, ?_, hlt,
      hlow, hhigh, Leb128.unsigned_emod groups⟩
    · rwa [← hspare]
    · rw [← hspare]
    · rw [← hspare, ← hspare']

/-- A number below zero and zero, both written with spare groups, and the same octets as a number
without a sign. -/
theorem readLeb_inverts_padded :
    let d : Bytes := #[0x90, 0xff, 0xfe, 0xff, 0x7f, 0x80, 0x00, 0x8f]
    (d.Holds 1 (encoding true (-129) 2) ∧ d.readSignedLeb 1 = .ok (-129, 5)) ∧
      (d.Holds 5 (encoding false 0 1) ∧ d.readUnsignedLeb 5 = .ok (0, 7)) ∧
      (EndsAt d 1 4 ∧
        ∃ n : Nat, d.readUnsignedLeb 1 = .ok (n, 5) ∧ (n : Int) % 2 ^ 28 = -129 % 2 ^ 28) := by
  intro d
  have hnegative : encoding true (-129) 2 = [0xff, 0xfe, 0xff, 0x7f] := by
    rw [Leb128.encoding_of_not_isShort (by decide), Leb128.encoding_of_isShort (by decide)]
    decide
  have hzero : encoding false 0 1 = [0x80, 0x00] := by
    rw [Leb128.encoding_of_isShort (by decide)]
    decide
  have hholds : d.Holds 1 (encoding true (-129) 2) := by
    rw [hnegative]
    decide
  have hholds' : d.Holds 5 (encoding false 0 1) := by
    rw [hzero]
    decide
  have hends : EndsAt d 1 4 := indexFrom?_isLast.1 (by cbv)
  have hread := (readLeb_inverts d 1).2.1 (-129) 2 hholds
  have hread' : d.readUnsignedLeb 5 = .ok (0, 5 + (encoding false 0 1).length) :=
    (readLeb_inverts d 5).1 0 1 hholds'
  obtain ⟨n, z, k, -, -, hk, hn, hz, -, -, -, -, -, -, hmod⟩ :=
    (readLeb_inverts d 1).2.2.2.2 4 hends
  obtain rfl : k = 4 := by omega
  rw [hnegative] at hread
  rw [hzero] at hread'
  obtain rfl : z = -129 := by
    rw [hread] at hz
    cases hz
    rfl
  exact ⟨⟨hholds, hread⟩, ⟨hholds', hread'⟩, hends, n, hn, hmod⟩

end Bytes

end FunctionBounds
