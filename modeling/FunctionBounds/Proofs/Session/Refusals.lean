import FunctionBounds.Proofs.Analysis.Accounts
import FunctionBounds.Proofs.Session.Listing

/-!
# Refused scans

A scan is refused if its text names no kind, if a region is missing, or if what is there cannot be
mined.

- **Refusals** (`Refuses s op`): they depend on the image alone, so a scan that is refused once is
  refused whatever happens (`refuses_askAll`).
- **Writes** (`Stepwise`): a scan as a program on the session that looks up one region after the
  other, reads them and stores the candidates one by one, and whose writes stay if it fails.
  `Stepwise.scan_eq` says where it ends: no step after the first write can fail.
- **Runs** (`Query`, `answer`, `transcript`): what a session says to requests and looks in order.

`transcript_refused` leaves a refused scan out of a run.
-/

namespace FunctionBounds.Session

variable {s t : Session} {k : Evidence} {op : Operation} {α : Type}

/-! ## Refusals -/

/-- The kind that a scan asks for, or its text if that names none. -/
def Operation.kind? : Operation → Option (Except Evidence.Unknown Evidence)
  | scan k => some (.ok k)
  | scanNamed text => some (Evidence.parse text)
  | merge .. | finalize => none

/-- The request is a scan whose text names no kind, of which a region is missing, or which fails. -/
def Refuses (s : Session) (op : Operation) : Prop :=
  match op.kind? with
  | some (.ok k) => s.Lacks k ∨ ∃ cause, (s.scan k).2.result = .error cause
  | some (.error _) => True
  | none => False

theorem scan_result_of_mine_missing {m : MissingRegion}
    (h : (s.mine k).result = .error (.missing m)) : (s.scan k).2.result = .ok 0 := by
  simp only [scan, h]

theorem exists_scan_error_iff :
    (∃ cause, (s.scan k).2.result = .error cause) ↔
      ∃ cause, (s.mine k).result = .error (.failed cause) := by
  cases hmine : (s.mine k).result with
  | ok cs => simp [scan, hmine]
  | error cause => cases cause <;> simp [scan, hmine]

/-- A kind is refused iff mining it fails, for whichever reason. -/
theorem lacks_or_scan_error_iff :
    (s.Lacks k ∨ ∃ cause, (s.scan k).2.result = .error cause) ↔
      ∃ cause, (s.mine k).result = .error cause := by
  rw [← mine_missing_iff, exists_scan_error_iff]
  constructor
  · rintro (⟨m, hm⟩ | ⟨cause, hcause⟩)
    · exact ⟨_, hm⟩
    · exact ⟨_, hcause⟩
  · rintro ⟨cause, hcause⟩
    cases cause with
    | missing m => exact .inl ⟨m, hcause⟩
    | failed cause => exact .inr ⟨cause, hcause⟩

theorem scan_fst_of_mine_error {cause : MiningError} (h : (s.mine k).result = .error cause) :
    (s.scan k).1 = s := by
  cases cause <;> simp only [scan, h]

theorem perform_of_kind (h : op.kind? = some (.ok k)) : s.perform op = (s.scan k).1 := by
  cases op with
  | scan k' => cases h; rfl
  | scanNamed text => simp only [perform, Option.some.inj h]
  | merge | finalize => cases h

/-- A refused scan leaves the session alone. -/
theorem perform_of_refuses (h : s.Refuses op) : s.perform op = s := by
  unfold Refuses at h
  split at h
  · next k hkind =>
    obtain ⟨cause, hcause⟩ := lacks_or_scan_error_iff.1 h
    rw [perform_of_kind hkind, scan_fst_of_mine_error hcause]
  · next cause hkind =>
    cases op with
    | scanNamed text => simp only [perform, Option.some.inj hkind]
    | scan | merge | finalize => cases hkind
  · exact h.elim

/-- Sessions of one image refuse the same. -/
theorem refuses_iff_of_image (himage : t = { s with registry := t.registry, listed := t.listed }) :
    t.Refuses op ↔ s.Refuses op := by
  unfold Refuses
  split
  · rw [lacks_or_scan_error_iff, lacks_or_scan_error_iff, mine_eq himage]
  · exact Iff.rfl
  · exact Iff.rfl

/-! ## Writes -/

/-- A program on a session. What it wrote before it fails stays. -/
abbrev Stepwise := EStateM MiningError Session

namespace Stepwise

/-- The first region of a name. -/
def region (name : String) : Stepwise Region := do
  match (← get).requireRegion name with
  | .ok r => return r
  | .error missing => throw (.missing missing)

/-- What was read off the octets of regions. -/
def gather (x : Noted ScanError α) : Stepwise α :=
  match x.result with
  | .ok a => return a
  | .error cause => throw (.failed cause)

def mineFrames (c : Cfi.Convention) (name : String) : Stepwise (List Candidate) := do
  let r ← region name
  gather ((← get).mineFrames c r)

def mineSymbols (table names : String) : Stepwise (List Candidate) := do
  let t ← region table
  let n ← region names
  gather ((SymbolTable.scan t.raw n.raw).mapError .symbolTable)

def mine (k : Evidence) : Stepwise (List Candidate) :=
  match k with
  | .ehFrame => mineFrames .ehFrame k.regionName
  | .debugFrame => mineFrames .debugFrame k.regionName
  | .ehFrameHdr => do
    let r ← region k.regionName
    gather ((Cfi.SearchTable.scan r.raw r.virtualAddress).mapError .searchTable)
  | .symtab => mineSymbols ".symtab" ".strtab"
  | .dynsym => mineSymbols ".dynsym" ".dynstr"

/-- Stores a candidate, unless one that is trusted as much is there. -/
def store (source : Source) (c : Candidate) : Stepwise Unit :=
  modify fun s => { s with registry := (s.registry.mergeOne {} c source).1 }

/-- Stores candidates one by one, and drops the list of functions after the last. -/
def merge (cs : List Candidate) (source : Source) : Stepwise Nat := do
  cs.forM (store source)
  modify ({ · with listed := none })
  return cs.length

def scan (k : Evidence) : Stepwise Nat := do
  let cs ← mine k
  merge cs k.source

/-- A program that ended in a session. -/
def ending (s : Session) : Except MiningError α → EStateM.Result MiningError Session α
  | .ok a => .ok a s
  | .error cause => .error cause s

theorem bind_eq_ending {β : Type} {p : Stepwise α} {x : Except MiningError α}
    {f : α → Stepwise β} {y : α → Except MiningError β} (hp : p s = ending s x)
    (hf : ∀ a, f a s = ending s (y a)) : (p >>= f) s = ending s (x >>= y) := by
  have hbind : (p >>= f) s = EStateM.bind p f s := rfl
  rw [hbind, EStateM.bind, hp]
  cases x with
  | ok a => exact hf a
  | error cause => rfl

/-! ### What is read -/

theorem region_eq (name : String) (s : Session) :
    region name s = ending s ((s.requireRegion name).mapError .missing) := by
  have hget : region name s = (match s.requireRegion name with
    | .ok r => pure r
    | .error missing => throw (.missing missing) : Stepwise Region) s := rfl
  rw [hget]
  cases s.requireRegion name <;> rfl

theorem gather_eq (x : Noted ScanError α) (s : Session) :
    gather x s = ending s (x.mapError MiningError.failed).result := by
  unfold gather Noted.mapError
  cases x.result <;> rfl

theorem mineRegion_result (s : Session) (name : String)
    (f : Region → Noted ScanError (List Candidate)) :
    (s.mineRegion name f).result =
      (s.requireRegion name).mapError .missing >>= fun r => ((f r).mapError .failed).result := by
  unfold mineRegion
  cases s.requireRegion name <;> rfl

theorem mineSymbols_result (s : Session) (table names : String) :
    (s.mineSymbols table names).result =
      (s.requireRegion table).mapError .missing >>= fun t =>
        (s.requireRegion names).mapError .missing >>= fun n =>
          (((SymbolTable.scan t.raw n.raw).mapError .symbolTable).mapError .failed).result := by
  unfold Session.mineSymbols
  cases s.requireRegion table with
  | error missing => rfl
  | ok t => cases s.requireRegion names <;> rfl

theorem mineFrames_eq (c : Cfi.Convention) (name : String) (s : Session) :
    mineFrames c name s = ending s (s.mineRegion name (s.mineFrames c)).result := by
  rw [mineRegion_result]
  exact bind_eq_ending (region_eq name s) fun r => gather_eq (s.mineFrames c r) s

theorem mineSymbols_eq (table names : String) (s : Session) :
    mineSymbols table names s = ending s (s.mineSymbols table names).result := by
  rw [mineSymbols_result]
  exact bind_eq_ending (region_eq table s) fun t =>
    bind_eq_ending (region_eq names s) fun n => gather_eq _ s

/-- Everything that can fail comes before the first write. -/
theorem mine_eq (k : Evidence) (s : Session) : mine k s = ending s (s.mine k).result := by
  cases k with
  | ehFrame | debugFrame => exact mineFrames_eq _ _ s
  | ehFrameHdr =>
    rw [Session.mine, mineRegion_result]
    exact bind_eq_ending (region_eq _ s) fun r => gather_eq _ s
  | symtab | dynsym => exact mineSymbols_eq _ _ s

/-! ### What is written -/

theorem merge_fst_eq_foldl (r : Registry) (cs : List Candidate) (source : Source) :
    (r.merge cs source).1 = cs.foldl (fun r c => (r.mergeOne {} c source).1) r := by
  have htally : ∀ (r : Registry) (n : MergeTally) (c : Candidate),
      (r.mergeOne n c source).1 = (r.mergeOne {} c source).1 := by
    intro r n c
    unfold Registry.mergeOne
    split
    · rfl
    · split <;> rfl
  have hfold : ∀ p : Registry × MergeTally,
      (cs.foldl (fun p c => p.1.mergeOne p.2 c source) p).1 =
        cs.foldl (fun r c => (r.mergeOne {} c source).1) p.1 := by
    induction cs with
    | nil => exact fun p => rfl
    | cons c cs ih =>
      intro p
      rw [List.foldl_cons, List.foldl_cons, ih, htally]
  exact hfold (r, {})

/-- By induction on the candidates that are left. -/
theorem forM_store_eq (source : Source) (cs : List Candidate) (s : Session) :
    cs.forM (store source) s = .ok () { s with registry := (s.registry.merge cs source).1 } := by
  rw [merge_fst_eq_foldl]
  induction cs generalizing s with
  | nil => rfl
  | cons c cs ih => exact ih { s with registry := (s.registry.mergeOne {} c source).1 }

theorem merge_eq (cs : List Candidate) (source : Source) (s : Session) :
    merge cs source s = .ok cs.length (s.merge cs source).1 := by
  have hbind : merge cs source s = EStateM.bind (cs.forM (store source)) (fun _ => do
    modify ({ · with listed := none })
    return cs.length) s := rfl
  rw [hbind, EStateM.bind, forM_store_eq]
  rfl

/-- A scan that does not fail ends in the session after it; one that fails ends where it began. -/
theorem scan_eq (k : Evidence) (s : Session) :
    scan k s =
      match (s.mine k).result with
      | .ok cs => .ok cs.length (s.scan k).1
      | .error cause => .error cause s := by
  have hbind : scan k s = EStateM.bind (mine k) (fun cs => merge cs k.source) s := rfl
  rw [hbind, EStateM.bind, mine_eq]
  cases hmine : (s.mine k).result with
  | error cause => rfl
  | ok cs =>
    simp only [ending, merge_eq, Session.scan, hmine]

end Stepwise

/-! ## Runs -/

/-- A request to a session, or a look at it. -/
inductive Query where
  | request (op : Operation)
  /-- The source of the candidate at an address. -/
  | source (address : Int)
  /-- The number of candidates from each source. -/
  | counts
  | region (name : String)
  | regions
  | description

/-- What a session says. -/
inductive Answer where
  | scanned (outcome : Noted ScanError Nat)
  | unknown (cause : Evidence.Unknown)
  | merged (note : Note)
  | listed (functions : List Candidate) (notes : List Note)
  | source (source : Option Source)
  | counts (counts : List (Source × Nat))
  | region (region : Option Region)
  | regions (regions : List Region)
  | description (text : String)

/-- What a session says to a query. -/
def answer (s : Session) : Query → Answer
  | .request (.scan k) => .scanned (s.scan k).2
  | .request (.scanNamed text) =>
    match Evidence.parse text with
    | .ok k => .scanned (s.scan k).2
    | .error cause => .unknown cause
  | .request (.merge cs source) => .merged (s.merge cs source).2
  | .request .finalize => .listed s.finalize.2 s.finalizeNotes
  | .source address => .source (s.registry.source? address)
  | .counts => .counts s.registry.counts
  | .region name => .region (s.region? name)
  | .regions => .regions s.regions
  | .description => .description s.describe

/-- The session after a query. -/
def ask (s : Session) : Query → Session
  | .request op => s.perform op
  | _ => s

/-- The session after queries in order. -/
def askAll (s : Session) (qs : List Query) : Session := qs.foldl ask s

/-- What a session says to queries in order. -/
def transcript (s : Session) : List Query → List Answer
  | [] => []
  | q :: qs => s.answer q :: (s.ask q).transcript qs

theorem askAll_append (s : Session) (qs qs' : List Query) :
    s.askAll (qs ++ qs') = (s.askAll qs).askAll qs' := by
  simp only [askAll, List.foldl_append]

theorem transcript_append (s : Session) (qs qs' : List Query) :
    s.transcript (qs ++ qs') = s.transcript qs ++ (s.askAll qs).transcript qs' := by
  induction qs generalizing s with
  | nil => rfl
  | cons q qs ih => exact congrArg (s.answer q :: ·) (ih (s.ask q))

theorem length_transcript (s : Session) (qs : List Query) :
    (s.transcript qs).length = qs.length := by
  induction qs generalizing s with
  | nil => rfl
  | cons q qs ih => exact congrArg (· + 1) (ih (s.ask q))

/-- Requests write to the registry and the list only. -/
theorem perform_image (s : Session) (op : Operation) :
    s.perform op = { s with
      registry := (s.perform op).registry, listed := (s.perform op).listed } := by
  have hscan : ∀ k, (s.scan k).1 = { s with
      registry := (s.scan k).1.registry, listed := (s.scan k).1.listed } := by
    intro k
    rcases s.scan_fst k with ⟨hs, -⟩ | hs
    · rw [hs]
    · rw [hs]
      rfl
  cases op with
  | scan k => exact hscan k
  | scanNamed text =>
    simp only [perform]
    cases Evidence.parse text with
    | ok k => exact hscan k
    | error _ => rfl
  | merge cs source => simp only [perform, merge]
  | finalize =>
    simp only [perform, finalize]
    split <;> rfl

/-- Whatever a session is asked, it refuses what it refused before, by induction on the queries. -/
theorem refuses_askAll (s : Session) (qs : List Query) (op : Operation) :
    (s.askAll qs).Refuses op ↔ s.Refuses op := by
  induction qs generalizing s with
  | nil => exact Iff.rfl
  | cons q qs ih =>
    refine (ih (s.ask q)).trans ?_
    cases q with
    | request op' => exact refuses_iff_of_image (s.perform_image op')
    | _ => exact Iff.rfl

/-- A refused scan gives zero if a region is missing. As a program that writes as it goes it fails
in the session in which it began. It is refused whenever it is asked for again, and leaving it out
of a run changes neither the session at the end nor what the session says to all else. -/
theorem transcript_refused (s : Session) (before after : List Query) (op : Operation)
    (h : (s.askAll before).Refuses op) :
    let t := s.askAll before
    (∀ k, op.kind? = some (.ok k) →
      (t.Lacks k → (t.scan k).2.result = .ok 0) ∧ ∃ cause, Stepwise.scan k t = .error cause t) ∧
    t.perform op = t ∧
    (∀ later, (t.askAll later).Refuses op) ∧
    s.askAll (before ++ .request op :: after) = s.askAll (before ++ after) ∧
    (s.transcript (before ++ .request op :: after)).eraseIdx before.length =
      s.transcript (before ++ after) := by
  intro t
  have hsame : t.perform op = t := perform_of_refuses h
  have hask : t.ask (.request op) = t := hsame
  refine ⟨fun k hkind => ⟨fun hlacks => ?_, ?_⟩, hsame,
    fun later => (t.refuses_askAll later op).2 h, ?_, ?_⟩
  · obtain ⟨m, hm⟩ := mine_missing_iff.2 hlacks
    exact scan_result_of_mine_missing hm
  · simp only [Refuses, hkind] at h
    obtain ⟨cause, hcause⟩ := lacks_or_scan_error_iff.1 h
    exact ⟨cause, by rw [Stepwise.scan_eq, hcause]⟩
  · rw [askAll_append, askAll_append]
    exact congrArg (askAll · after) hask
  · have hanswers : s.transcript (before ++ .request op :: after) =
        s.transcript before ++ t.answer (.request op) :: t.transcript after := by
      rw [transcript_append, transcript, hask]
    rw [hanswers, transcript_append, ← length_transcript s before,
      List.eraseIdx_append_of_length_le (Nat.le_refl _), Nat.sub_self]
    rfl

/-- A search table of two rows that ends after the first, a symbol table of 25 octets, and a string
table. -/
def brokenSession : Session :=
  { strippedSession with
    regions := [
      { name := ".eh_frame_hdr",
        raw := #[1, 0xff, 3, 3, 2, 0, 0, 0, 0x00, 0x10, 0x40, 0, 0x20, 0x10, 0x40, 0] },
      { name := ".symtab", raw := Array.replicate 25 0 },
      { name := ".strtab", raw := #[0] }] }

/-- Functions that are listed before anything is mined. -/
def listedFirst : List Query :=
  [.request (.merge [⟨"main", 0x401000, 32⟩] .staticSymbols), .request .finalize]

/-- A scan whose second row is missing, and one whose region is. -/
theorem transcript_refused_brokenSession :
    let t := brokenSession.askAll listedFirst
    t.Refuses (.scan .ehFrameHdr) ∧ t.Refuses (.scanNamed " DynSym") ∧
    (∃ cause, Stepwise.scan .ehFrameHdr t = .error cause t) ∧ (t.scan .dynsym).2.result = .ok 0 ∧
    (brokenSession.transcript
        (listedFirst ++ .request (.scan .ehFrameHdr) :: [.counts, .request .finalize])).eraseIdx 2 =
      brokenSession.transcript (listedFirst ++ [.counts, .request .finalize]) := by
  intro t
  have hcut : t.Refuses (.scan .ehFrameHdr) := .inr ⟨_, rfl⟩
  have hlacks : t.Lacks .dynsym := ⟨".dynsym", List.mem_cons_self, rfl⟩
  have hmissing : t.Refuses (.scanNamed " DynSym") := .inl hlacks
  obtain ⟨hfails, -, -, -, hanswers⟩ :=
    transcript_refused brokenSession listedFirst [.counts, .request .finalize] _ hcut
  obtain ⟨hzero, -⟩ :=
    transcript_refused brokenSession listedFirst [] _ hmissing
  exact ⟨hcut, hmissing, (hfails _ rfl).2, (hzero _ rfl).1 hlacks, hanswers⟩

end FunctionBounds.Session
