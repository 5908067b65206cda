import FunctionBounds.Display.Views
import FunctionBounds.Proofs.Display.Renderer
import FunctionBounds.Proofs.Steps
import FunctionBounds.Proofs.Text.Hexadecimal

/-!
# Strings from outside

Messages and paths come from outside, and both are shown as text with markup. Of a message the
markup is escaped, of a path it is not.

- **Literal texts** (`isLiteral_decimal`, `isLiteral_grouped`, …): no number holds markup.
- **Lines** (`linesOf_append`, `linesOf_inj`): a text is its lines.
- **Messages** (`Console.labelled_eq`): a message is shown as it is, behind its label.
- **Headers** (`BinaryInfo.exists_view`): the parts that a path is written of stand in the first
  line, and nothing else depends on the path.

`BinaryInfo.shows_strings` is about any renderer that removes tags and shows what is escaped as it
is: all messages are shown as they are, but only those paths that are all text.
-/

namespace FunctionBounds

open Console (Item Output)
open Markup (IsLiteral IsClosed Part WellFormed inLines shown written)

/-! ## Literal texts -/

namespace Markup

theorem isLiteral_append {a b : String} : IsLiteral (a ++ b) ↔ IsLiteral a ∧ IsLiteral b := by
  simp only [IsLiteral, String.toList_append, List.mem_append, not_or]
  exact and_and_and_comm

theorem isLiteral_of_forall {s : String} {p : Char → Prop} (hp : ¬p '[' ∧ ¬p '\\')
    (h : ∀ c ∈ s.toList, p c) : IsLiteral s :=
  ⟨fun hmem => hp.1 (h _ hmem), fun hmem => hp.2 (h _ hmem)⟩

theorem isLiteral_natural (n : Nat) : IsLiteral (toString n) := by
  refine isLiteral_of_forall (p := (·.isDigit = true)) (by decide) fun c hc => ?_
  rw [Nat.toString_eq_ofList_toDigits, String.toList_ofList] at hc
  exact Nat.isDigit_of_mem_toDigits (by decide) (by decide) hc

theorem isLiteral_decimal (n : Int) : IsLiteral (toString n) := by
  cases n with
  | ofNat n => exact isLiteral_natural n
  | negSucc n => exact isLiteral_append.2 ⟨by decide, isLiteral_natural n.succ⟩

theorem isLiteral_grouped (n : Int) : IsLiteral (Text.grouped n) := by
  have hdigits : IsLiteral (Text.groupedDigits (Nat.toDigits 10 n.natAbs)) := by
    refine isLiteral_of_forall (p := fun c => c = ',' ∨ c.isDigit = true) (by decide) fun c hc => ?_
    exact (Text.mem_groupedDigits hc).imp_right
      (Nat.isDigit_of_mem_toDigits (by decide) (by decide))
  rw [Text.grouped]
  split
  · exact isLiteral_append.2 ⟨by decide, hdigits⟩
  · exact hdigits

theorem isLiteral_hex (n : Int) : IsLiteral (Text.hex n) := by
  have hdigits : ∀ width, IsLiteral (Text.zeroPadded width (Text.hexDigits n.natAbs)) :=
    fun width => isLiteral_of_forall (p := (· ∈ Text.lowerDigits)) (by decide) fun c =>
      Text.mem_lowerDigits_of_mem_zeroPadded
  rw [Text.hex, Text.hexField]
  split
  · exact isLiteral_append.2 ⟨by decide, isLiteral_append.2 ⟨by decide, hdigits _⟩⟩
  · exact isLiteral_append.2 ⟨by decide, hdigits _⟩

theorem isLiteral_kibi {n : Int} {text : String} (h : Text.kibi? n = some text) :
    IsLiteral text := by
  have hsign : IsLiteral (if n < 0 then "-" else "") := by split <;> decide
  unfold Text.kibi? at h
  dsimp only at h
  split at h
  · cases h
    exact isLiteral_append.2 ⟨isLiteral_append.2 ⟨isLiteral_append.2 ⟨hsign,
      isLiteral_natural _⟩, by decide⟩, isLiteral_natural _⟩
  · cases h

end Markup

open Markup

/-! ## Lines -/

theorem linesOf_append (a b : String) : linesOf (a ++ "\n" ++ b) = linesOf a ++ linesOf b := by
  have hlines : (a ++ "\n" ++ b).toList = a.toList ++ '\n' :: b.toList := by simp
  rw [linesOf, hlines, List.splitOn_append_cons_self, List.map_append, linesOf, linesOf]

theorem linesOf_of_not_mem {a : String} (h : '\n' ∉ a.toList) : linesOf a = [a] := by
  rw [linesOf, List.splitOn_eq_singleton h]
  simp

theorem linesOf_inj {a b : String} (h : linesOf a = linesOf b) : a = b := by
  have hsplit : a.toList.splitOn '\n' = b.toList.splitOn '\n' :=
    List.map_injective_iff.2 (fun _ _ => String.ofList_injective) h
  have hjoined := congrArg (List.intercalate ['\n']) hsplit
  rw [List.intercalate_splitOn, List.intercalate_splitOn] at hjoined
  exact String.toList_inj.1 hjoined

/-! ## Messages -/

/-- The label of a message: a mark in brackets and a word, in a style. -/
def Console.labelParts (style mark word : String) : List Part :=
  [.opening style, .bracket, .text s!"{mark}] {word}:", .closing style, .text " "]

/-- A message is shown as it is, behind its label. -/
theorem Console.labelled_eq {r : Renderer} (hr : r.Lawful) {style mark word : String}
    (hstyle : isStyle style = true) (hlabel : IsLiteral s!"{mark}] {word}:") (message : String) :
    labelled r style mark word message = .one (.text s!"[{mark}] {word}: {message}") := by
  have hparts : WellFormed [] (labelParts style mark word) :=
    ⟨hstyle, hlabel, List.mem_cons_self, by decide, trivial⟩
  have hwritten : s!"[{style}]\\[{mark}] {word}:[/{style}] {r.escape message}" =
      written (labelParts style mark word) ++ r.escape message := by
    rw [← String.toList_inj]
    simp [labelParts, written, Part.written, toString]
  have hshown : s!"[{mark}] {word}: {message}" =
      shown (labelParts style mark word) ++ message := by
    rw [← String.toList_inj]
    simp [labelParts, shown, Part.shown, toString]
  rw [labelled, markup, plain, hwritten, hr.escape_literal _ hparts, hshown]
  rfl

/-! ## Headers -/

theorem Console.eq_of_grouped_eq_ok {n : Int} {text : String} (h : grouped n = .ok text) :
    text = Text.grouped n := by
  unfold grouped at h
  cases hcheck : Text.DigitLimit.standard.check n with
  | ok => rw [hcheck] at h; exact (Except.ok.inj h).symm
  | error cause => rw [hcheck] at h; cases h

theorem Console.eq_of_decimal_eq_ok {n : Int} {text : String} (h : decimal n = .ok text) :
    text = toString n := by
  unfold decimal at h
  cases hcheck : Text.DigitLimit.standard.check n with
  | ok => rw [hcheck] at h; exact (Except.ok.inj h).symm
  | error cause => rw [hcheck] at h; cases h

/-- A label in bold, and a value behind it. -/
def fieldParts (label value : String) : List Part :=
  [.opening "bold", .text label, .closing "bold", .text value]

theorem written_fieldParts (label value : String) :
    written (fieldParts label value) = "[bold]" ++ label ++ "[/bold]" ++ value := by
  rw [← String.toList_inj]
  simp [fieldParts, written, Part.written]

theorem shown_fieldParts (label value : String) :
    shown (fieldParts label value) = label ++ value := by
  rw [← String.toList_inj]
  simp [fieldParts, shown, Part.shown]

theorem isClosed_fieldParts {label value : String} (hlabel : IsLiteral label)
    (hvalue : IsLiteral value) : IsClosed (fieldParts label value) := by
  intro opened
  refine ⟨⟨by decide, hlabel, List.mem_cons_self, hvalue, trivial⟩, ?_⟩
  exact List.erase_cons_head "bold" opened

/-- The numbers of a file can be written, and its texts but the path hold no markup. -/
structure BinaryInfo.Legible (i : BinaryInfo) : Prop where
  lines : ∃ ls, i.lines = .ok ls
  arch : IsLiteral i.arch
  sha256 : IsLiteral i.sha256

/-- The lines behind that of the path are fields of literal texts. -/
theorem BinaryInfo.Legible.exists_lines {i : BinaryInfo} (hi : i.Legible) :
    ∃ line rest, (∀ l ∈ line :: rest, IsClosed l) ∧ ∀ path, { i with path := path }.lines =
      .ok ((written (fieldParts "File:" "        ") ++ path) :: (line :: rest).map written) := by
  obtain ⟨ls, hls⟩ := hi.lines
  unfold BinaryInfo.lines at hls ⊢
  obtain ⟨size, hsize, hls⟩ := bind_eq_ok_iff.1 hls
  obtain ⟨kibi, hkibi, hls⟩ := bind_eq_ok_iff.1 hls
  obtain ⟨bits, hbits, -⟩ := bind_eq_ok_iff.1 hls
  have hsizeLiteral : IsLiteral size := Console.eq_of_grouped_eq_ok hsize ▸ isLiteral_grouped _
  have hbitsLiteral : IsLiteral bits := Console.eq_of_decimal_eq_ok hbits ▸ isLiteral_decimal _
  have hkibiLiteral : IsLiteral kibi := by
    cases hquotient : Text.kibi? i.size with
    | none => rw [hquotient] at hkibi; cases hkibi
    | some text => rw [hquotient] at hkibi; cases hkibi; exact isLiteral_kibi hquotient
  have hformatLiteral : IsLiteral (i.format.name.map Char.toUpper) := by
    cases i.format <;> decide +kernel
  have hyesNo : ∀ b, IsLiteral (yesNo b) := by decide
  have hbehind : ∀ {blanks text}, IsLiteral blanks → IsLiteral text → IsLiteral (blanks ++ text) :=
    fun hblanks htext => isLiteral_append.2 ⟨hblanks, htext⟩
  refine ⟨fieldParts "Size:" s!"        {size} bytes ({kibi} KiB)",
    [fieldParts "Format:" s!"      {i.format.name.map Char.toUpper}",
      fieldParts "Arch:" s!"        {i.arch} ({bits}-bit)",
      fieldParts "Entry Point:" s!" {Text.hex i.entryPoint}",
      fieldParts "Executable:" s!"  {yesNo i.isExecutable}",
      fieldParts "Stripped:" s!"    {yesNo i.isStripped}"] ++
      if i.sha256.isEmpty then [] else [fieldParts "SHA-256:" s!"     {i.sha256}"], ?_, ?_⟩
  · simp only [List.forall_mem_cons, List.forall_mem_append, List.not_mem_nil, false_implies,
      implies_true, and_true]
    refine ⟨isClosed_fieldParts (by decide) ?_, ⟨isClosed_fieldParts (by decide)
      (hbehind (by decide) hformatLiteral), isClosed_fieldParts (by decide) ?_,
      isClosed_fieldParts (by decide) (hbehind (by decide) (isLiteral_hex _)),
      isClosed_fieldParts (by decide) (hbehind (by decide) (hyesNo _)),
      isClosed_fieldParts (by decide) (hbehind (by decide) (hyesNo _))⟩, ?_⟩
    · simp only [isLiteral_append]
      exact ⟨⟨⟨⟨by decide, hsizeLiteral⟩, by decide⟩, hkibiLiteral⟩, by decide⟩
    · simp only [isLiteral_append]
      exact ⟨⟨⟨⟨by decide, hi.arch⟩, by decide⟩, hbitsLiteral⟩, by decide⟩
    · split
      · exact List.forall_mem_nil _
      · exact List.forall_mem_singleton.2
          (isClosed_fieldParts (by decide) (hbehind (by decide) hi.sha256))
  · intro path
    dsimp only
    rw [hsize, hkibi, hbits]
    refine congrArg Except.ok ?_
    split <;> simp [written_fieldParts, ← String.toList_inj, toString]

/-- A panel of a first line and others. -/
def headerOf (line : String) (others : List String) : Output :=
  ⟨[.panel "Binary Information" (line :: others), .text ""], none⟩

/-- What the parts that a path is written of show is shown in front of the other lines. -/
theorem BinaryInfo.exists_view {r : Renderer} (hr : r.Lawful) {i : BinaryInfo} (hi : i.Legible) :
    ∃ others, ∀ parts, WellFormed [] parts → { i with path := written parts }.view r =
      ⟨[.panel "Binary Information" (linesOf ("File:        " ++ shown parts ++ "\n" ++ others)),
        .text ""], none⟩ := by
  obtain ⟨line, rest, hclosed, hlines⟩ := hi.exists_lines
  refine ⟨"\n".intercalate ((line :: rest).map shown), fun parts hparts => ?_⟩
  have hfirst : WellFormed [] (fieldParts "File:" "        " ++ parts) := by
    have hfield : IsClosed (fieldParts "File:" "        ") :=
      isClosed_fieldParts (by decide) (by decide)
    obtain ⟨hlabel, hopen⟩ := hfield []
    exact wellFormed_append.2 ⟨hlabel, hopen.symm ▸ hparts⟩
  have hshown : shown (inLines ((fieldParts "File:" "        " ++ parts) :: line :: rest)) =
      "File:        " ++ shown parts ++ "\n" ++ "\n".intercalate ((line :: rest).map shown) := by
    rw [shown_inLines, List.map_cons, List.map_cons, String.intercalate_cons_cons, shown_append,
      shown_fieldParts]
    rfl
  have hplain := hr.removes_tags _ (wellFormed_inLines hfirst hclosed)
  rw [written_inLines, List.map_cons, written_append, hshown] at hplain
  rw [view, hlines]
  show Output.ofExcept ((Console.plain r _).bind _) ++ Console.blank = _
  rw [Console.plain, hplain]
  rfl

/-! ## Paths -/

/-- Everything that is shown is written. -/
theorem Markup.mem_written_of_mem_shown {parts : List Part} {c : Char}
    (h : c ∈ (shown parts).toList) : c ∈ (written parts).toList := by
  rw [shown, String.toList_join, List.flatMap_map, List.mem_flatMap] at h
  rw [written, String.toList_join, List.flatMap_map, List.mem_flatMap]
  obtain ⟨part, hpart, hc⟩ := h
  refine ⟨part, hpart, ?_⟩
  cases part with
  | text chars => exact hc
  | bracket => exact List.mem_cons_of_mem _ hc
  | opening style | closing style => cases hc

/-- A path without a line break stands in a line of its own. -/
theorem linesOf_path {line others : String} (h : '\n' ∉ line.toList) :
    linesOf ("File:        " ++ line ++ "\n" ++ others) =
      ("File:        " ++ line) :: linesOf others := by
  have hfirst : '\n' ∉ ("File:        " ++ line).toList := by
    rw [String.toList_append, List.mem_append]
    exact not_or.2 ⟨by decide, h⟩
  rw [linesOf_append, linesOf_of_not_mem hfirst]
  rfl

/-- All messages are shown as they are. A path that is written of parts of markup shows what these
parts show: what is written, only if all of them are text. Paths whose parts show the same are not
told apart. -/
theorem BinaryInfo.shows_strings {r : Renderer} (hr : r.Lawful) {i : BinaryInfo} (hi : i.Legible) :
    (∀ message,
      Console.success r message = .one (.text ("[✔] SUCCESS: " ++ message)) ∧
      Console.warning r message = .one (.text ("[⚠] WARNING: " ++ message)) ∧
      Console.error r message = .one (.text ("[✘] ERROR: " ++ message))) ∧
    ∃ others,
      (∀ parts, WellFormed [] parts → '\n' ∉ (written parts).toList →
        { i with path := written parts }.view r =
          headerOf ("File:        " ++ shown parts) others ∧
        ({ i with path := written parts }.view r =
            headerOf ("File:        " ++ written parts) others ↔
          ∀ part ∈ parts, ∃ chars, part = .text chars)) ∧
      ∀ parts parts', WellFormed [] parts → WellFormed [] parts' →
        ({ i with path := written parts }.view r = { i with path := written parts' }.view r ↔
          shown parts = shown parts') := by
  refine ⟨fun message => ⟨?_, ?_, ?_⟩, ?_⟩
  · exact Console.labelled_eq hr (by decide) (by decide) message
  · exact Console.labelled_eq hr (by decide) (by decide) message
  · exact Console.labelled_eq hr (by decide) (by decide) message
  obtain ⟨others, hview⟩ := exists_view hr hi
  refine ⟨linesOf others, fun parts hparts hline => ?_, fun parts parts' hparts hparts' => ?_⟩
  · have hheader : { i with path := written parts }.view r =
        headerOf ("File:        " ++ shown parts) (linesOf others) := by
      rw [hview parts hparts, linesOf_path (mt mem_written_of_mem_shown hline)]
      rfl
    refine ⟨hheader, ?_⟩
    rw [hheader, ← shown_eq_written_iff]
    constructor
    · intro heq
      simp only [headerOf, Output.mk.injEq, List.cons.injEq, Item.panel.injEq, true_and,
        and_true, String.append_right_inj] at heq
      exact heq
    · intro heq
      rw [heq]
  · rw [hview parts hparts, hview parts' hparts']
    constructor
    · intro heq
      simp only [Output.mk.injEq, List.cons.injEq, Item.panel.injEq, true_and, and_true] at heq
      have hchars := congrArg String.toList (linesOf_inj heq)
      simp only [String.toList_append, List.append_cancel_right_eq, List.append_cancel_left_eq]
        at hchars
      exact String.toList_inj.1 hchars
    · intro heq
      rw [heq]

theorem BinaryInfo.legible_default : ({} : BinaryInfo).Legible := by
  have hlines : ({} : BinaryInfo).lines.toOption.isSome = true := by decide +kernel
  obtain ⟨ls, hls⟩ := Option.isSome_iff_exists.1 hlines
  exact ⟨⟨ls, eq_ok_of_toOption hls⟩, by decide, by decide⟩

/-- The parts of the path `/bin/[x]app`: what stands in brackets could be a style. -/
def taggedPath : List Part := [.text "/bin/", .opening "x", .text "app"]

theorem written_taggedPath : written taggedPath = "/bin/[x]app" := by decide

theorem wellFormed_taggedPath : WellFormed [] taggedPath :=
  ⟨by decide, by decide, by decide, trivial⟩

theorem BinaryInfo.shows_strings_taggedPath :
    bareRenderer.Lawful ∧ ({} : BinaryInfo).Legible ∧
      Console.error bareRenderer "no [x] in [/bin]" = .one (.text "[✘] ERROR: no [x] in [/bin]") ∧
      ∃ others,
        ({ path := "/bin/app" } : BinaryInfo).view bareRenderer =
          headerOf "File:        /bin/app" others ∧
        ({ path := "/bin/[x]app" } : BinaryInfo).view bareRenderer =
          headerOf "File:        /bin/app" others := by
  obtain ⟨hmessages, others, hpaths, -⟩ := shows_strings lawful_bareRenderer legible_default
  have htext := (hpaths [.text "/bin/app"] ⟨by decide, trivial⟩ (by decide)).1
  have htag := (hpaths taggedPath wellFormed_taggedPath (by decide)).1
  rw [written_text] at htext
  rw [written_taggedPath] at htag
  exact ⟨lawful_bareRenderer, legible_default, (hmessages _).2.2, others, htext, htag⟩

/-- The path `/bin/[x]app` is shown as `/bin/app`, as is the path `/bin/app`, while a message that
consists of it is shown as it is. -/
theorem BinaryInfo.view_hides_tag :
    bareRenderer.Lawful ∧
      Console.error bareRenderer "/bin/[x]app" = .one (.text "[✘] ERROR: /bin/[x]app") ∧
      ({ path := "/bin/[x]app" } : BinaryInfo).view bareRenderer =
        ({ path := "/bin/app" } : BinaryInfo).view bareRenderer ∧
      ∃ others, ({ path := "/bin/[x]app" } : BinaryInfo).view bareRenderer =
        headerOf "File:        /bin/app" others := by
  obtain ⟨others, hview⟩ := exists_view lawful_bareRenderer legible_default
  have htext := hview [.text "/bin/app"] ⟨by decide, trivial⟩
  have htag := hview taggedPath wellFormed_taggedPath
  rw [written_text, shown_text] at htext
  rw [written_taggedPath] at htag
  refine ⟨lawful_bareRenderer, Console.labelled_eq lawful_bareRenderer (by decide) (by decide) _,
    htag.trans htext.symm, linesOf others, htag.trans ?_⟩
  rw [show shown taggedPath = "/bin/app" by decide, linesOf_path (by decide)]
  rfl

end FunctionBounds
