import FunctionBounds.Proofs.Cfi.Locality
import FunctionBounds.Proofs.Field.Written
import Mathlib.Control.Monad.Basic

/-!
# Personality routines

The fields of a common entry behind the address of a personality routine, which nothing needs.

- **Passing over a pointer** (`PassedOver`): the number in the format of a pointer ends where the
  pointer ends (`passedOver_iff`), except that nobody looks for the gap of an aligned one
  (`passedOver_aligned_iff`).
- **Fields in place** (`Letter.Laid`): the fields of letters one after the other, the address of a
  personality routine as a pointer. They are read from their own places as long as each of those
  addresses is passed over (`Letter.Laid.readAll`).
- **Entries** (`CommonEntry.readHead`): what stands in front of the fields of the letters.

`CommonEntry.encoding_behind_personality` is about the encoding of function addresses, and
`CommonEntry.encoding_behind_gap` about an aligned address, where it is taken from the wrong place.
-/

namespace FunctionBounds.Cfi

variable {d : Bytes} {b : PointerBase} {n form off next v : Nat}

/-! ## Passing over a pointer -/

/-- A pointer at `off` is passed over: if it is aligned, its gap and its address are as many octets
as a number of its format takes there. -/
def PassedOver (d : Bytes) (b : PointerBase) (form off : Nat) : Prop :=
  Encoding.application form = Encoding.aligned →
    ∃ value, d.readEncodedValue form b.addressSize off =
      .ok (value, alignedOffset off b.addressSize + addressWidth b.addressSize)

/-- A pointer that was read is an aligned address, or a number of its format. -/
theorem readPointer_cases (h : d.readPointer b form off = .ok (v, next)) :
    if Encoding.application form = Encoding.aligned then
      next = alignedOffset off b.addressSize + addressWidth b.addressSize ∧ next ≤ d.size
    else ∃ value, d.readEncodedValue form b.addressSize off = .ok (value, next) := by
  unfold Bytes.readPointer at h
  split at h
  · cases h
  · split at h
    · cases h
    · split at h
      · next haligned =>
        rw [if_pos haligned]
        exact Bytes.readUnsigned_next h
      · next hplain =>
        rw [if_neg hplain]
        obtain ⟨⟨value, stop⟩, hvalue, h⟩ := bind_eq_ok_iff.1 h
        cases happlication : Encoding.application? form with
        | none =>
          simp only [happlication] at h
          cases h
        | some a =>
          simp only [happlication] at h
          cases h
          exact ⟨value, hvalue⟩

/-- To be passed over is to end at the same place. -/
theorem passedOver_iff (h : d.readPointer b form off = .ok (v, next)) :
    PassedOver d b form off ↔
      ∃ value, d.readEncodedValue form b.addressSize off = .ok (value, next) := by
  have hcases := readPointer_cases h
  split at hcases
  · next haligned =>
    rw [hcases.1]
    exact ⟨fun hpassed => hpassed haligned, fun hvalue _ => hvalue⟩
  · next hplain => exact ⟨fun _ => hcases, fun _ haligned => absurd haligned hplain⟩

/-- A number of a fixed format ends after the octets of its word. -/
theorem exists_readEncodedValue_iff {f : ValueFormat} {w : Word} {addressSize : Int}
    (hform : ValueFormat.ofEncoding? form = some f) (hword : f.word? addressSize = some w)
    (hsize : next ≤ d.size) :
    (∃ value, d.readEncodedValue form addressSize off = .ok (value, next)) ↔
      next = off + w.width := by
  rw [Bytes.readEncodedValue, hform]
  simp only [Bytes.readValue_of_word? hword]
  constructor
  · rintro ⟨value, hread⟩
    exact (Bytes.readWord_next hread).1
  · rintro rfl
    rw [Bytes.readWord, Bytes.readUnsigned, if_pos hsize]
    exact ⟨_, rfl⟩

/-- An aligned pointer is passed over if and only if its word is as wide as its gap and its
address. -/
theorem passedOver_aligned_iff {f : ValueFormat} {w : Word} (hb : b.addressSize = n)
    (hn : n = 4 ∨ n = 8) (h : d.readPointer b form off = .ok (v, next))
    (haligned : Encoding.application form = Encoding.aligned)
    (hform : ValueFormat.ofEncoding? form = some f) (hword : f.word? n = some w) :
    PassedOver d b form off ↔ w.width = gap n off + n := by
  have hcases := readPointer_cases h
  rw [if_pos haligned, hb, alignedOffset_eq hn, addressWidth_natCast hn] at hcases
  rw [passedOver_iff h, hb, exists_readEncodedValue_iff hform hword hcases.2]
  omega

/-- A plain aligned pointer is passed over if and only if there is no gap. -/
theorem passedOver_plain_iff (hb : b.addressSize = n) (hn : n = 4 ∨ n = 8)
    (h : d.readPointer b Encoding.aligned off = .ok (v, next)) :
    PassedOver d b Encoding.aligned off ↔ n ∣ off := by
  have hword : ValueFormat.address.word? n = some ⟨addressWidth n, false⟩ := rfl
  rw [passedOver_aligned_iff hb hn h (by decide) (f := .address) (by decide) hword,
    ← gap_eq_zero_iff hn]
  simp only [addressWidth_natCast hn]
  omega

/-! ## Fields in place -/

namespace Letter

/-- The fields of letters stand one after the other from `off` to `stop`. The address of a
personality routine stands there as a pointer of which `P` holds. -/
inductive Laid (d : Bytes) (b : PointerBase) (P : Nat → Nat → Prop) :
    List Letter → Nat → Nat → Prop
  | nil (off : Nat) : Laid d b P [] off off
  | flag {l : Letter} {ls : List Letter} {off stop : Nat}
    (hl : l = .signalFrame ∨ l = .signedReturn) (hrest : Laid d b P ls off stop) :
    Laid d b P (l :: ls) off stop
  | byte {l : Letter} {ls : List Letter} {off stop : Nat}
    (hl : l = .addressEncoding ∨ l = .dataEncoding) (hoff : off < d.size)
    (hrest : Laid d b P ls (off + 1) stop) : Laid d b P (l :: ls) off stop
  | pointer {ls : List Letter} {form : UInt8} {off next stop v : Nat}
    (hform : d[off]? = some form) (hread : d.readPointer b form.toNat (off + 1) = .ok (v, next))
    (hP : P form.toNat (off + 1)) (hrest : Laid d b P ls next stop) :
    Laid d b P (.personality :: ls) off stop

variable {ls : List Letter} {stop encoding : Nat}

theorem readByte_of_getElem? {x : UInt8} (h : d[off]? = some x) :
    d.readByte off = .ok (x.toNat, off + 1) := by
  obtain ⟨hlt, rfl⟩ := Array.getElem?_eq_some_iff.1 h
  rw [Bytes.readByte, dif_pos hlt]

/-- Only the letter `R` gives the encoding of function addresses. -/
theorem encoding_of_read {l : Letter} {encoding' : Nat}
    (h : l.read d n encoding off = .ok (encoding', next)) (hl : l ≠ .addressEncoding) :
    encoding' = encoding := by
  cases l with
  | addressEncoding => exact absurd rfl hl
  | dataEncoding =>
    obtain ⟨p, -, h⟩ := bind_eq_ok_iff.1 h
    cases h
    rfl
  | personality =>
    obtain ⟨p, -, h⟩ := bind_eq_ok_iff.1 h
    obtain ⟨q, -, h⟩ := bind_eq_ok_iff.1 h
    cases h
    rfl
  | signalFrame | signedReturn =>
    cases h
    rfl

/-- Fields are read from their own places if every address of a personality routine is passed
over. -/
theorem Laid.readAll (h : Laid d b (PassedOver d b) ls off stop) (hb : b.addressSize = n)
    (encoding : Nat) (rest : List UInt8) :
    ∃ encoding', (.addressEncoding ∉ ls → encoding' = encoding) ∧
      Letter.readAll d n (ls.map octet ++ rest) encoding off =
        Letter.readAll d n rest encoding' stop := by
  induction h generalizing encoding with
  | nil off => exact ⟨encoding, fun _ => rfl, rfl⟩
  | @flag l ls off stop hl hrest ih =>
    have hread : l.read d n encoding off = .ok (encoding, off) := by
      rcases hl with rfl | rfl <;> rfl
    obtain ⟨encoding', hsame, hrest⟩ := ih encoding
    refine ⟨encoding', fun hnot => hsame fun hmem => hnot (List.mem_cons_of_mem l hmem), ?_⟩
    rw [List.map_cons, List.cons_append, readAll_cons, hread]
    exact hrest
  | @byte l ls off stop hl hoff hrest ih =>
    have hbyte : d.readByte off = .ok (d[off].toNat, off + 1) := by
      rw [Bytes.readByte, dif_pos hoff]
    have hread : ∃ encoding', l.read d n encoding off = .ok (encoding', off + 1) := by
      rcases hl with rfl | rfl
      · exact ⟨_, hbyte⟩
      · exact ⟨encoding, by rw [read, hbyte]; rfl⟩
    obtain ⟨revised, hread⟩ := hread
    obtain ⟨encoding', hsame, hrest⟩ := ih revised
    refine ⟨encoding', fun hnot => ?_, ?_⟩
    · rw [List.mem_cons, not_or] at hnot
      rw [hsame hnot.2, encoding_of_read hread (Ne.symm hnot.1)]
    · rw [List.map_cons, List.cons_append, readAll_cons, hread]
      exact hrest
  | @pointer ls form off next stop v hform hread hP hrest ih =>
    obtain ⟨value, hvalue⟩ := (passedOver_iff hread).1 hP
    rw [hb] at hvalue
    have hread : Letter.personality.read d n encoding off = .ok (encoding, next) := by
      simp only [read, readByte_of_getElem? hform, hvalue, bind, Except.bind]
      rfl
    obtain ⟨encoding', hsame, hrest⟩ := ih encoding
    refine ⟨encoding', fun hnot => hsame fun hmem => hnot (List.mem_cons_of_mem _ hmem), ?_⟩
    rw [List.map_cons, List.cons_append, readAll_cons, hread]
    exact hrest

/-- The letters from the first unknown one on. -/
def Unknown (rest : List UInt8) : Prop := ∀ x ∈ rest.head?, ofOctet? x = none

theorem unknown_nil : Unknown [] := nofun

theorem Unknown.readAll {rest : List UInt8} (h : Unknown rest) :
    Letter.readAll d n rest encoding off = .ok (encoding, off) := by
  cases rest with
  | nil => rfl
  | cons x rest =>
    have hx : ofOctet? x = none := h x (by simp)
    rw [Letter.readAll, hx]
    rfl

/-- Letters without an `R` leave the encoding as it is. -/
theorem encoding_of_readAll {rest : List UInt8} {encoding' : Nat} (hls : .addressEncoding ∉ ls)
    (hrest : Unknown rest)
    (h : readAll d n (ls.map octet ++ rest) encoding off = .ok (encoding', next)) :
    encoding' = encoding := by
  induction ls generalizing encoding off with
  | nil =>
    rw [List.map_nil, List.nil_append, hrest.readAll] at h
    cases h
    rfl
  | cons l ls ih =>
    rw [List.mem_cons, not_or] at hls
    rw [List.map_cons, List.cons_append, readAll_cons] at h
    obtain ⟨⟨revised, stop⟩, hread, h⟩ := bind_eq_ok_iff.1 h
    rw [ih hls.2 h, encoding_of_read hread (Ne.symm hls.1)]

end Letter

/-! ## Entries -/

namespace CommonEntry

/-- What stands in front of the fields of the letters. -/
structure Head where
  version : Nat
  augmentation : List UInt8
  addressSize : Nat
  /-- The offset after the return register. -/
  stop : Nat
  deriving DecidableEq, Repr

/-- Reads the fields of a common entry up to the return register. -/
def readHead (d : Bytes) (r : Record) : Except DecodeError Head := do
  let (version, off) ← d.readByte r.body
  unless version = 1 ∨ version = 3 ∨ version = 4 do throw (.entryVersion version)
  let (augmentation, off) ← d.readString off
  let (addressSize, off) ← readAddressSize d version off
  let off ← skipAlignments d version (skipLegacyData augmentation.toList addressSize off)
  return ⟨version, augmentation.toList, addressSize, off⟩

/-- An entry with a given encoding of function addresses. -/
def ofHead (r : Record) (head : Head) (encoding : Nat) : CommonEntry :=
  ⟨r.offset, head.version, head.augmentation, head.addressSize, encoding⟩

variable {c : Convention} {r : Record} {head : Head} {entry : CommonEntry}

/-- The fields of an entry are its head and the fields of its letters. -/
theorem readFields_eq (d : Bytes) (r : Record) :
    readFields d r =
      (readHead d r).bind fun head =>
        (readEncoding d head.augmentation head.addressSize head.stop).bind fun (encoding, off) =>
          if r.stop < off then .error (.entryOverrun r.offset)
          else if encoding = Encoding.omitted then .error (.entryWithoutAddresses r.offset)
          else .ok (ofHead r head encoding) := by
  simp only [readFields, readHead]
  cases d.readByte r.body with
  | error cause => rfl
  | ok version =>
    by_cases hversion : version.1 = 1 ∨ version.1 = 3 ∨ version.1 = 4
    · simp only [bind, Except.bind, if_pos hversion]
      cases d.readString version.2 with
      | error cause => rfl
      | ok augmentation =>
        simp only [pure, Except.pure]
        cases readAddressSize d version.1 augmentation.2 with
        | error cause => rfl
        | ok addressSize =>
          simp only
          cases skipAlignments d version.1
            (skipLegacyData augmentation.1.toList addressSize.1 addressSize.2) with
          | error cause => rfl
          | ok off =>
            simp only
            cases readEncoding d augmentation.1.toList addressSize.1 off with
            | error cause => rfl
            | ok encoding =>
              simp only
              split
              · rfl
              · split <;> rfl
    · simp only [bind, Except.bind, if_neg hversion]
      rfl

/-- A common entry whose augmentation starts with `z` and has its last `R` after the letters
`before`, whose fields start at `start`. -/
structure GivesEncoding (d : Bytes) (c : Convention) (off : Nat) (r : Record) (head : Head)
    (before after : List Letter) (start : Nat) : Prop where
  read : Record.read d c off = .ok r
  isCommon : r.isCommon d c = true
  readHead : readHead d r = .ok head
  augmentation : ∃ rest, Letter.Unknown rest ∧
    head.augmentation = 0x7a :: ((before ++ .addressEncoding :: after).map Letter.octet ++ rest)
  last : .addressEncoding ∉ after
  length : ∃ length, d.readUnsignedLeb head.stop = .ok (length, start)

namespace GivesEncoding

variable {before after : List Letter} {start stop last : Nat} {x : UInt8}

/-- The encoding is the octet of the last `R`, unless letters cannot be read behind it, the fields
end behind the entry, or the octet says that there are no addresses. -/
theorem read_eq (h : GivesEncoding d c off r head before after start)
    (hb : b.addressSize = head.addressSize)
    (hbefore : Letter.Laid d b (PassedOver d b) before start stop) (hx : d[stop]? = some x) :
    ∃ rest, Letter.Unknown rest ∧ CommonEntry.read d c off =
      (Letter.readAll d head.addressSize (after.map Letter.octet ++ rest) x.toNat (stop + 1)).bind
        fun (encoding, off) =>
          if r.stop < off then .error (.entryOverrun r.offset)
          else if encoding = Encoding.omitted then .error (.entryWithoutAddresses r.offset)
          else .ok (ofHead r head encoding) := by
  obtain ⟨rest, hrest, haugmentation⟩ := h.augmentation
  obtain ⟨length, hlength⟩ := h.length
  refine ⟨rest, hrest, ?_⟩
  obtain ⟨encoding, -, hletters⟩ := hbefore.readAll hb ValueFormat.address.code
    (Letter.addressEncoding.octet :: (after.map Letter.octet ++ rest))
  have hencoding : readEncoding d head.augmentation head.addressSize head.stop =
      Letter.readAll d head.addressSize (after.map Letter.octet ++ rest) x.toNat (stop + 1) := by
    rw [haugmentation]
    simp only [readEncoding, hlength, bind, Except.bind, List.map_append, List.map_cons,
      List.append_assoc, List.cons_append, hletters]
    rw [Letter.readAll_cons, Letter.read, Letter.readByte_of_getElem? hx]
    rfl
  rw [CommonEntry.read, h.read]
  simp only [bind, Except.bind, h.isCommon, if_true]
  rw [readFields_eq, h.readHead, Except.bind, hencoding]
  rfl

/-- An entry that can be read has the octet of its last `R`. -/
theorem encoding_eq (h : GivesEncoding d c off r head before after start)
    (hb : b.addressSize = head.addressSize)
    (hbefore : Letter.Laid d b (PassedOver d b) before start stop) (hx : d[stop]? = some x)
    (hentry : CommonEntry.read d c off = .ok entry) : entry.encoding = x.toNat := by
  obtain ⟨rest, hrest, hread⟩ := h.read_eq hb hbefore hx
  rw [hentry] at hread
  obtain ⟨⟨encoding, next⟩, hletters, hfields⟩ := bind_eq_ok_iff.1 hread.symm
  have hsame := Letter.encoding_of_readAll h.last hrest hletters
  simp only at hfields
  split at hfields
  · cases hfields
  · split at hfields
    · cases hfields
    · cases hfields
      exact hsame

/-- An entry can be read if the fields of its letters end inside it. -/
theorem read_eq_ok (h : GivesEncoding d c off r head before after start)
    (hb : b.addressSize = head.addressSize)
    (hbefore : Letter.Laid d b (PassedOver d b) before start stop) (hx : d[stop]? = some x)
    (hafter : Letter.Laid d b (PassedOver d b) after (stop + 1) last) (hlast : last ≤ r.stop)
    (homitted : x ≠ 0xff) : CommonEntry.read d c off = .ok (ofHead r head x.toNat) := by
  obtain ⟨rest, hrest, hread⟩ := h.read_eq hb hbefore hx
  obtain ⟨encoding, hsame, hletters⟩ := hafter.readAll hb x.toNat rest
  have homitted' : x.toNat ≠ Encoding.omitted := fun hx => homitted (UInt8.toNat_inj.1 hx)
  rw [hread, hletters, hsame h.last, hrest.readAll, Except.bind]
  simp only
  rw [if_neg (by omega), if_neg homitted']

end GivesEncoding

/-- A personality routine does not move what stands behind its address, if that is not aligned or
has no gap. A pointer ends where the number of its format ends, unless it is aligned; then it ends
after its gap and its address, and a number of a fixed format does so if its word is as wide as
both. Where every address in front of the last `R` is passed over in this way, a common entry that
can be read has the octet of that `R` as the encoding of function addresses, and it can be read if
the fields of all letters end inside it. -/
theorem encoding_behind_personality (d : Bytes) {b : PointerBase} {n : Nat}
    (hb : b.addressSize = n) (hn : n = 4 ∨ n = 8) :
    (∀ form off v next : Nat, d.readPointer b form off = .ok (v, next) →
      (PassedOver d b form off ↔
        ∃ value, d.readEncodedValue form n off = .ok (value, next)) ∧
      (Encoding.application form ≠ Encoding.aligned → PassedOver d b form off) ∧
      (Encoding.application form = Encoding.aligned → next = off + gap n off + n ∧
        ∀ f w, ValueFormat.ofEncoding? form = some f → f.word? n = some w →
          (PassedOver d b form off ↔ w.width = gap n off + n)) ∧
      (form = Encoding.aligned → (PassedOver d b form off ↔ n ∣ off))) ∧
    ∀ (c : Convention) (off : Nat) (r : Record) (head : Head) (before after : List Letter)
      (start stop : Nat) (x : UInt8),
      GivesEncoding d c off r head before after start → n = head.addressSize →
      Letter.Laid d b (PassedOver d b) before start stop → d[stop]? = some x →
      (∀ entry, CommonEntry.read d c off = .ok entry → entry.encoding = x.toNat) ∧
      ∀ last, Letter.Laid d b (PassedOver d b) after (stop + 1) last → last ≤ r.stop → x ≠ 0xff →
        CommonEntry.read d c off = .ok (ofHead r head x.toNat) := by
  constructor
  · intro form off v next hread
    refine ⟨hb ▸ passedOver_iff hread, fun hplain haligned => absurd haligned hplain,
      fun haligned => ⟨?_, fun f w => passedOver_aligned_iff hb hn hread haligned⟩, ?_⟩
    · have hcases := readPointer_cases hread
      rw [if_pos haligned, hb, alignedOffset_eq hn, addressWidth_natCast hn] at hcases
      exact hcases.1
    · rintro rfl
      exact passedOver_plain_iff hb hn hread
  · rintro c off r head before after start stop x h rfl hbefore hx
    exact ⟨fun entry => h.encoding_eq hb hbefore hx, fun last => h.read_eq_ok hb hbefore hx⟩

/-- An entry with the letters `P` and `R`, and an aligned address without a gap. -/
def gapless : Bytes :=
  #[0x20, 0, 0, 0, 0, 0, 0, 0, 1, 0x7a, 0x50, 0x52, 0, 1, 0x78, 0x10,
    0x8a, 0x80, 0x80, 0x80, 0x80, 0x80, 0, 0x50, 0, 0x10, 0, 0, 0, 0, 0, 0, 0x03, 0, 0, 0]

theorem encoding_behind_personality_gapless :
    let b : PointerBase := ⟨0, none, 8⟩
    let head : Head := ⟨1, [0x7a, 0x50, 0x52], 8, 16⟩
    (gapless.readPointer b (0x50 : Nat) 24 = .ok (0x1000, 32) ∧
      ∃ value, gapless.readEncodedValue (0x50 : Nat) (8 : Nat) 24 = .ok (value, 32)) ∧
    GivesEncoding gapless .ehFrame 0 ⟨0, 4, 4, 36⟩ head [.personality] [] 23 ∧
      Letter.Laid gapless b (PassedOver gapless b) [.personality] 23 32 ∧
      CommonEntry.read gapless .ehFrame 0 = .ok ⟨0, 1, [0x7a, 0x50, 0x52], 8, 3⟩ := by
  intro b head
  have hpointer : gapless.readPointer b (0x50 : Nat) 24 = .ok (0x1000, 32) := by cbv
  have hb : b.addressSize = (8 : Nat) := rfl
  obtain ⟨hpointers, hentries⟩ := encoding_behind_personality gapless hb (.inr rfl)
  obtain ⟨hpassed, -, -, hplain⟩ := hpointers 0x50 24 0x1000 32 hpointer
  have hgiven : GivesEncoding gapless .ehFrame 0 ⟨0, 4, 4, 36⟩ head [.personality] [] 23 :=
    { read := by cbv
      isCommon := by cbv
      readHead := by decide +kernel
      augmentation := ⟨[], Letter.unknown_nil, rfl⟩
      last := by decide
      length := ⟨10, by cbv⟩ }
  have hlaid : Letter.Laid gapless b (PassedOver gapless b) [.personality] 23 32 :=
    .pointer (show gapless[23]? = some 0x50 by cbv) hpointer ((hplain rfl).2 (by decide)) (.nil 32)
  have hread := (hentries .ehFrame 0 _ head _ _ _ _ 0x03 hgiven rfl hlaid (by cbv)).2 33 (.nil 33)
    (by decide) (by decide)
  exact ⟨⟨hpointer, hpassed.1 ((hplain rfl).2 (by decide))⟩, hgiven, hlaid, hread⟩

/-- An entry with the same letters and a gap of six octets, and the description of a function of 32
octets in the format that `R` gives. -/
def gapped : Bytes :=
  #[0x20, 0, 0, 0, 0, 0, 0, 0, 1, 0x7a, 0x50, 0x52, 0, 1, 0x78, 0x10,
    0x10, 0x50, 0, 0, 0, 0, 0, 0, 0, 0x10, 0, 0, 0, 0, 0, 0, 0x03, 0, 0, 0,
    0x14, 0, 0, 0, 0x28, 0, 0, 0, 0, 0x10, 0x40, 0, 0x20, 0, 0, 0, 0, 0, 0, 0, 0, 0, 0, 0]

/-- The octet of `R` is not found behind every address that can be read. Nobody looks for the gap
here, so that an octet of the address is taken for it. -/
theorem encoding_behind_gap :
    ¬ ∀ {d : Bytes} {c : Convention} {off : Nat} {r : Record} {head : Head} {b : PointerBase}
      {before after : List Letter} {start stop : Nat} {x : UInt8} {entry : CommonEntry},
      GivesEncoding d c off r head before after start → .personality ∈ before →
      b.addressSize = head.addressSize → Letter.Laid d b (fun _ _ => True) before start stop →
      d[stop]? = some x → CommonEntry.read d c off = .ok entry → entry.encoding = x.toNat := by
  intro h
  have hpointer : gapped.readPointer ⟨0, none, 8⟩ (0x50 : Nat) 18 = .ok (0x1000, 32) := by cbv
  have hgiven : GivesEncoding gapped .ehFrame 0 ⟨0, 4, 4, 36⟩ ⟨1, [0x7a, 0x50, 0x52], 8, 16⟩
      [.personality] [] 17 :=
    { read := by cbv
      isCommon := by cbv
      readHead := by decide +kernel
      augmentation := ⟨[], Letter.unknown_nil, rfl⟩
      last := by decide
      length := ⟨16, by cbv⟩ }
  have hread : CommonEntry.read gapped .ehFrame 0 = .ok ⟨0, 1, [0x7a, 0x50, 0x52], 8, 0⟩ := by
    decide +kernel
  have hencoding := h hgiven (by decide) rfl
    (.pointer (show gapped[17]? = some 0x50 by cbv) hpointer trivial (.nil 32))
    (show gapped[32]? = some 0x03 by cbv) hread
  exact absurd hencoding (by decide)

end CommonEntry

end FunctionBounds.Cfi
