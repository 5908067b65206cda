import FunctionBounds.Json

/-!
# Documents that can be written

- **Numbers** (`Json.numbers`): those of a document, at any depth.
- **Faults** (`Json.pretty_fault_eq_none_iff`): only a number that is too long keeps a document from
  being written.
-/

namespace FunctionBounds

namespace Json

mutual

/-- The numbers of a document. -/
def numbers : Json → List Int
  | integer n => [n]
  | array items => itemNumbers items
  | object members => memberNumbers members
  | null | boolean _ | string _ => []

/-- The numbers of the items of an array. -/
def itemNumbers : List Json → List Int
  | [] => []
  | item :: rest => item.numbers ++ itemNumbers rest

/-- The numbers of the members of an object. -/
def memberNumbers : List (String × Json) → List Int
  | [] => []
  | (_, v) :: rest => v.numbers ++ memberNumbers rest

end

/-- What can be written after something else that can. -/
theorem Written.append_fault_eq_none_iff {x y : Written} :
    (x ++ y).fault = none ↔ x.fault = none ∧ y.fault = none := by
  cases hx : x.fault with
  | none => simp [Written.append_of_no_fault y hx]
  | some cause => simp [Written.append_of_fault y hx, hx]

theorem Written.integer_fault_eq_none_iff {d : Text.DigitLimit} {n : Int} :
    (Written.integer d n).fault = none ↔ d.admits n = true := by
  rw [← Text.DigitLimit.check_eq_ok_iff, Written.integer]
  cases d.check n <;> simp

theorem Layout.enclose_fault_eq_none_iff (l : Layout) (level : Nat) (opening closing : String)
    (parts : List Written) :
    (l.enclose level opening closing parts).fault = none ↔ ∀ w ∈ parts, w.fault = none := by
  have hjoined : ∀ (start : String) (rest : List Written) (w : Written),
      (rest.foldl (fun w part => w ++ ⟨"," ++ l.afterComma ++ start, none⟩ ++ part) w).fault =
        none ↔ w.fault = none ∧ ∀ part ∈ rest, part.fault = none := by
    intro start rest
    induction rest with
    | nil => simp
    | cons part rest ih =>
      intro w
      rw [List.foldl_cons, ih]
      simp [Written.append_fault_eq_none_iff, and_assoc]
  unfold Layout.enclose
  cases parts with
  | nil => simp
  | cons first rest => simp [Written.append_fault_eq_none_iff, hjoined]

variable (l : Layout) (d : Text.DigitLimit)

mutual

theorem write_fault_eq_none_iff (level : Nat) : (j : Json) →
    ((write l d level j).fault = none ↔ ∀ n ∈ j.numbers, d.admits n = true)
  | null | boolean _ | string _ => by simp [write, numbers]
  | integer n => by simp [write, numbers, Written.integer_fault_eq_none_iff]
  | array items => by
    rw [write, numbers, Layout.enclose_fault_eq_none_iff]
    exact writeItems_fault_eq_none_iff (level + 1) items
  | object members => by
    rw [write, numbers, Layout.enclose_fault_eq_none_iff]
    exact writeMembers_fault_eq_none_iff (level + 1) members

theorem writeItems_fault_eq_none_iff (level : Nat) : (items : List Json) →
    ((∀ w ∈ writeItems l d level items, w.fault = none) ↔
      ∀ n ∈ itemNumbers items, d.admits n = true)
  | [] => by simp [writeItems, itemNumbers]
  | item :: rest => by
    rw [writeItems, itemNumbers, List.forall_mem_cons, List.forall_mem_append,
      write_fault_eq_none_iff level item, writeItems_fault_eq_none_iff level rest]

theorem writeMembers_fault_eq_none_iff (level : Nat) : (members : List (String × Json)) →
    ((∀ w ∈ writeMembers l d level members, w.fault = none) ↔
      ∀ n ∈ memberNumbers members, d.admits n = true)
  | [] => by simp [writeMembers, memberNumbers]
  | (key, v) :: rest => by
    rw [writeMembers, memberNumbers, List.forall_mem_cons, List.forall_mem_append,
      Written.append_fault_eq_none_iff, write_fault_eq_none_iff level v,
      writeMembers_fault_eq_none_iff level rest]
    simp

end

/-- A document can be written if each of its numbers can. -/
theorem pretty_fault_eq_none_iff (j : Json) :
    (j.pretty d).fault = none ↔ ∀ n ∈ j.numbers, d.admits n = true :=
  write_fault_eq_none_iff indented d 0 j

theorem mem_itemNumbers {items : List Json} {n : Int} :
    n ∈ itemNumbers items ↔ ∃ item ∈ items, n ∈ item.numbers := by
  induction items with
  | nil => simp [itemNumbers]
  | cons item rest ih => simp [itemNumbers, ih]

end Json

/-- A number can be written in decimal. -/
def IsShort (n : Int) : Prop := Text.DigitLimit.standard.admits n = true

/-- All numbers of a document can be written in decimal. -/
def Json.IsWritable (j : Json) : Prop := ∀ n ∈ j.numbers, IsShort n

theorem Json.isWritable_iff {j : Json} : (j.pretty .standard).fault = none ↔ j.IsWritable :=
  j.pretty_fault_eq_none_iff .standard

end FunctionBounds
