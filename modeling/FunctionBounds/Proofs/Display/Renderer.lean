import FunctionBounds.Display.Renderer
import Mathlib.Algebra.Order.BigOperators.Group.List
import Mathlib.Algebra.Order.Ring.Nat

/-!
# Parts of texts with markup

- **Parts** (`written_append`, `wellFormed_append`): parts behind others are well-formed where those
  styles are open that the others leave open (`stillOpen`).
- **Text** (`shown_eq_written_iff`): parts show what is written exactly if all of them are text.
- **Lines** (`inLines`, `wellFormed_inLines`): parts of several lines, with line breaks in between.
- **A renderer** (`lawful_bareRenderer`): one that drops everything between brackets keeps the laws.
-/

namespace FunctionBounds.Markup

/-! ## Parts -/

theorem written_append (a b : List Part) : written (a ++ b) = written a ++ written b := by
  rw [written, List.map_append, String.join_append, written, written]

theorem shown_append (a b : List Part) : shown (a ++ b) = shown a ++ shown b := by
  rw [shown, List.map_append, String.join_append, shown, shown]

@[simp] theorem written_text (chars : String) : written [.text chars] = chars := by
  rw [written, List.map_singleton, String.join_cons, String.join_nil]
  exact String.append_empty

@[simp] theorem shown_text (chars : String) : shown [.text chars] = chars := written_text chars

/-- The styles that parts leave open, if those in `opened` are open in front of them. -/
def stillOpen (opened : List String) : List Part → List String
  | [] => opened
  | .text _ :: parts | .bracket :: parts => stillOpen opened parts
  | .opening style :: parts => stillOpen (style :: opened) parts
  | .closing style :: parts => stillOpen (opened.erase style) parts

theorem wellFormed_append {opened : List String} {a b : List Part} :
    WellFormed opened (a ++ b) ↔ WellFormed opened a ∧ WellFormed (stillOpen opened a) b := by
  induction a generalizing opened with
  | nil => exact (and_iff_right trivial).symm
  | cons part a ih => cases part <;> simp [WellFormed, stillOpen, ih, and_assoc]

/-! ## Text -/

/-- Only what is written of text is shown with as many characters. -/
theorem Part.length_shown_lt {part : Part} (h : ∀ chars, part ≠ text chars) :
    part.shown.length < part.written.length := by
  cases part with
  | text chars => exact absurd rfl (h chars)
  | bracket => decide
  | opening style | closing style =>
    rw [shown, written, String.length_append]
    exact Nat.lt_add_left _ (by decide)

theorem Part.length_shown_le (part : Part) : part.shown.length ≤ part.written.length := by
  by_cases h : ∃ chars, part = text chars
  · obtain ⟨chars, rfl⟩ := h
    exact Nat.le_refl _
  · exact Nat.le_of_lt (length_shown_lt (not_exists.1 h))

/-- Parts show what is written exactly if all of them are text. -/
theorem shown_eq_written_iff {parts : List Part} :
    shown parts = written parts ↔ ∀ part ∈ parts, ∃ chars, part = .text chars := by
  constructor
  · intro heq
    by_contra hother
    push Not at hother
    obtain ⟨part, hmem, hpart⟩ := hother
    have hlt : (parts.map (·.shown.length)).sum < (parts.map (·.written.length)).sum :=
      List.sum_lt_sum _ _ (fun part _ => part.length_shown_le)
        ⟨part, hmem, Part.length_shown_lt hpart⟩
    have hlength := congrArg String.length heq
    simp only [shown, written, String.length_join, List.map_map, Function.comp_def] at hlength
    omega
  · intro htext
    refine congrArg String.join (List.map_congr_left fun part hpart => ?_)
    obtain ⟨chars, rfl⟩ := htext part hpart
    rfl

/-! ## Lines -/

/-- The parts of several lines, with line breaks between them. -/
def inLines (lines : List (List Part)) : List Part := [Part.text "\n"].intercalate lines

theorem inLines_cons_cons (line line' : List Part) (lines : List (List Part)) :
    inLines (line :: line' :: lines) = line ++ .text "\n" :: inLines (line' :: lines) := by
  rw [inLines, List.intercalate_cons_cons, List.append_assoc]
  rfl

theorem join_inLines {f : Part → String} (hf : f (.text "\n") = "\n") (lines : List (List Part)) :
    String.join ((inLines lines).map f) =
      "\n".intercalate (lines.map fun line => String.join (line.map f)) := by
  induction lines with
  | nil => rfl
  | cons line lines ih =>
    cases lines with
    | nil => simp [inLines]
    | cons line' lines =>
      rw [inLines_cons_cons, List.map_append, String.join_append, List.map_cons, String.join_cons,
        ih, hf, List.map_cons, List.map_cons, List.map_cons, String.intercalate_cons_cons,
        String.append_assoc]

theorem written_inLines (lines : List (List Part)) :
    written (inLines lines) = "\n".intercalate (lines.map written) := join_inLines rfl lines

theorem shown_inLines (lines : List (List Part)) :
    shown (inLines lines) = "\n".intercalate (lines.map shown) := join_inLines rfl lines

/-- Parts are well-formed anywhere, and close what they open. -/
def IsClosed (parts : List Part) : Prop :=
  ∀ opened, WellFormed opened parts ∧ stillOpen opened parts = opened

theorem wellFormed_inLines {opened : List String} {line : List Part} {lines : List (List Part)}
    (hline : WellFormed opened line) (hlines : ∀ line ∈ lines, IsClosed line) :
    WellFormed opened (inLines (line :: lines)) := by
  induction lines generalizing opened line with
  | nil => simpa [inLines] using hline
  | cons line' lines ih =>
    obtain ⟨hline', hlines⟩ := List.forall_mem_cons.1 hlines
    rw [inLines_cons_cons, wellFormed_append]
    exact ⟨hline, by decide, ih (hline' _).1 hlines⟩

/-! ## A renderer -/

/-- Where a character stands in a text with markup. -/
inductive Place where
  | text
  /-- Behind a backslash. -/
  | escaped
  /-- Between brackets. -/
  | tag
  deriving DecidableEq, Repr

/-- A text without its tags. -/
def withoutTags : Place → List Char → List Char
  | _, [] => []
  | .escaped, c :: rest => c :: withoutTags .text rest
  | .tag, c :: rest => withoutTags (if c = ']' then .text else .tag) rest
  | .text, c :: rest =>
    if c = '\\' then withoutTags .escaped rest
    else if c = '[' then withoutTags .tag rest
    else c :: withoutTags .text rest

/-- How a character is escaped. -/
def escapedChar (c : Char) : List Char := if c = '[' ∨ c = '\\' then ['\\', c] else [c]

/-- Every bracket that is not behind a backslash opens a tag, and nothing else is changed. -/
def bareRenderer : Renderer where
  plain := fun s => .ok (String.ofList (withoutTags .text s.toList))
  escape := fun s => String.ofList (s.toList.flatMap escapedChar)

theorem withoutTags_of_literal {cs : List Char} (h : '[' ∉ cs ∧ '\\' ∉ cs) (rest : List Char) :
    withoutTags .text (cs ++ rest) = cs ++ withoutTags .text rest := by
  induction cs with
  | nil => rfl
  | cons c cs ih =>
    simp only [List.mem_cons, not_or] at h
    obtain ⟨⟨hbracket, hbrackets⟩, hbackslash, hbackslashes⟩ := h
    rw [List.cons_append, withoutTags, if_neg (Ne.symm hbackslash), if_neg (Ne.symm hbracket),
      ih ⟨hbrackets, hbackslashes⟩, List.cons_append]

theorem withoutTags_escape (c : Char) (rest : List Char) :
    withoutTags .text ('\\' :: c :: rest) = c :: withoutTags .text rest := rfl

theorem withoutTags_tag {body : List Char} (h : ']' ∉ body) (rest : List Char) :
    withoutTags .text ('[' :: (body ++ ']' :: rest)) = withoutTags .text rest := by
  show withoutTags .tag _ = _
  induction body with
  | nil => rfl
  | cons c body ih =>
    simp only [List.mem_cons, not_or] at h
    rw [List.cons_append, withoutTags, if_neg (Ne.symm h.1), ih h.2]

theorem not_mem_of_isStyle {style : String} (h : isStyle style = true) : ']' ∉ style.toList := by
  intro hmem
  have hall := List.all_eq_true.1 (Bool.and_eq_true_iff.1 h).2 ']' hmem
  exact absurd hall (by decide)

/-- What parts show is left of what is written, by induction on the parts. -/
theorem withoutTags_written {opened : List String} {parts : List Part}
    (hopened : ∀ style ∈ opened, isStyle style = true) (h : WellFormed opened parts)
    (rest : List Char) :
    withoutTags .text ((written parts).toList ++ rest) =
      (shown parts).toList ++ withoutTags .text rest := by
  induction parts generalizing opened with
  | nil => rfl
  | cons part parts ih =>
    have hwritten : (written (part :: parts)).toList =
        part.written.toList ++ (written parts).toList := by
      rw [written, List.map_cons, String.join_cons, String.toList_append, written]
    have hshown : (shown (part :: parts)).toList = part.shown.toList ++ (shown parts).toList := by
      rw [shown, List.map_cons, String.join_cons, String.toList_append, shown]
    rw [hwritten, hshown, List.append_assoc, List.append_assoc]
    cases part with
    | text chars => rw [Part.written, withoutTags_of_literal h.1, ih hopened h.2, Part.shown]
    | bracket =>
      have hplain := withoutTags_escape '[' ((written parts).toList ++ rest)
      rw [ih hopened h] at hplain
      exact hplain
    | opening style =>
      have htag : (Part.opening style).written.toList ++ ((written parts).toList ++ rest) =
          '[' :: (style.toList ++ ']' :: ((written parts).toList ++ rest)) := by
        simp [Part.written]
      rw [htag, withoutTags_tag (not_mem_of_isStyle h.1),
        ih (List.forall_mem_cons.2 ⟨h.1, hopened⟩) h.2]
      rfl
    | closing style =>
      have htag : (Part.closing style).written.toList ++ ((written parts).toList ++ rest) =
          '[' :: ('/' :: style.toList ++ ']' :: ((written parts).toList ++ rest)) := by
        simp [Part.written]
      have hbody : ']' ∉ '/' :: style.toList :=
        List.not_mem_cons_of_ne_of_not_mem (by decide) (not_mem_of_isStyle (hopened style h.1))
      rw [htag, withoutTags_tag hbody,
        ih (fun style' hmem => hopened style' (List.mem_of_mem_erase hmem)) h.2]
      rfl

theorem withoutTags_escaped (cs : List Char) :
    withoutTags .text (cs.flatMap escapedChar) = cs := by
  induction cs with
  | nil => rfl
  | cons c cs ih =>
    rw [List.flatMap_cons, escapedChar]
    split
    · rw [List.cons_append, List.singleton_append, withoutTags_escape, ih]
    · next hplain =>
      obtain ⟨hbracket, hbackslash⟩ := not_or.1 hplain
      rw [List.singleton_append, withoutTags, if_neg hbackslash, if_neg hbracket, ih]

theorem lawful_bareRenderer : bareRenderer.Lawful where
  removes_tags parts h := by
    have hplain := withoutTags_written (List.forall_mem_nil _) h []
    rw [List.append_nil, withoutTags, List.append_nil] at hplain
    simp only [bareRenderer, hplain, String.ofList_toList]
  escape_literal parts h s := by
    have hplain := withoutTags_written (List.forall_mem_nil _) h (s.toList.flatMap escapedChar)
    rw [withoutTags_escaped] at hplain
    simp only [bareRenderer, String.toList_append, String.toList_ofList, hplain,
      String.ofList_append, String.ofList_toList]

end FunctionBounds.Markup
