import Mathlib.Data.List.Basic

/-! Text in which a mark escapes the character after it: fields that are escaped, joined by a
separator and split again come back as they were, over any alphabet. -/

set_option autoImplicit false

namespace Wqm1.Library.Escape

variable {α : Type}

/-- A text put before the first of some parts. -/
def prepend (text : List α) : List (List α) → List (List α)
  | [] => [text]
  | first :: others => (text ++ first) :: others

theorem prepend_append (left right : List α) (parts : List (List α)) :
    prepend (left ++ right) parts = prepend left (prepend right parts) := by
  cases parts <;> simp [prepend]

theorem prepend_nil {parts : List (List α)} (some : parts ≠ []) : prepend [] parts = parts := by
  cases parts with
  | nil => exact absurd rfl some
  | cons first others => rfl

variable [DecidableEq α]

/-- The mark stands before every special character. -/
def escape (mark : α) (special : List α) (text : List α) : List α :=
  text.flatMap fun c => if special.contains c then [mark, c] else [c]

/-- The flag says that a mark came last. Nothing comes of a mark at the end of the text. -/
def unescape (mark : α) : Bool → List α → Option (List α)
  | escaped, [] => if escaped then none else some []
  | escaped, c :: rest =>
    if !escaped && c == mark then unescape mark true rest else (unescape mark false rest).map (c :: ·)

/-- The parts between the separators that no mark escapes. The marks stay. -/
def split (mark separator : α) : Bool → List α → List (List α)
  | _, [] => [[]]
  | escaped, c :: rest =>
    if !escaped && c == separator then [] :: split mark separator false rest
    else prepend [c] (split mark separator (!escaped && c == mark) rest)

variable {mark separator : α} {special text : List α}

theorem escape_cons (c : α) (text : List α) :
    escape mark special (c :: text) = (if special.contains c then [mark, c] else [c]) ++ escape mark special text := rfl

theorem unescape_escape (marked : mark ∈ special) (text : List α) :
    unescape mark false (escape mark special text) = some text := by
  induction text with
  | nil => rfl
  | cons c text ih =>
      rw [escape_cons]
      by_cases isSpecial : c ∈ special
      · simp [isSpecial, unescape, ih]
      · have plain : c ≠ mark := fun same => isSpecial (same ▸ marked)
        simp [isSpecial, unescape, plain, ih]

/-- The text lets no part end within it, and ends without an open mark. -/
def Inert (mark separator : α) (text : List α) : Prop :=
  ∀ rest, split mark separator false (text ++ rest) = prepend text (split mark separator false rest)

theorem split_ne_nil (escaped : Bool) (text : List α) : split mark separator escaped text ≠ [] := by
  cases text with
  | nil => exact List.cons_ne_nil _ _
  | cons c text =>
      rw [split]
      split
      next => exact List.cons_ne_nil _ _
      next => cases split mark separator (!escaped && c == mark) text <;> exact List.cons_ne_nil _ _

theorem Inert.nil : Inert mark separator [] :=
  fun rest => (prepend_nil (split_ne_nil false rest)).symm

theorem Inert.append {left right : List α} (first : Inert mark separator left)
    (second : Inert mark separator right) :
    Inert mark separator (left ++ right) := by
  intro rest
  rw [List.append_assoc, first, second, prepend_append]

theorem Inert.plain {c : α} (unmarked : c ≠ mark) (inside : c ≠ separator) :
    Inert mark separator [c] := by
  intro rest
  have closed : (c == mark) = false := beq_eq_false_iff_ne.mpr unmarked
  simp [split, closed, inside]

theorem Inert.marked (apart : mark ≠ separator) (c : α) : Inert mark separator [mark, c] := by
  intro rest
  have opened : split mark separator true (c :: rest) = prepend [c] (split mark separator false rest) := by simp [split]
  have shown : split mark separator false (mark :: c :: rest) =
      prepend [mark] (split mark separator true (c :: rest)) := by
    simp [split, apart]
  rw [List.cons_append, List.cons_append, List.nil_append, shown, opened, ← prepend_append]
  rfl

theorem Inert.of_plain (plain : ∀ c ∈ text, c ≠ mark ∧ c ≠ separator) :
    Inert mark separator text := by
  induction text with
  | nil => exact .nil
  | cons c text ih =>
      obtain ⟨first, others⟩ := List.forall_mem_cons.mp plain
      have single : Inert mark separator [c] := .plain first.1 first.2
      exact single.append (ih others)

theorem Inert.escape (apart : mark ≠ separator) (markSpecial : mark ∈ special)
    (separatorSpecial : separator ∈ special)
    (text : List α) : Inert mark separator (escape mark special text) := by
  induction text with
  | nil => exact .nil
  | cons c text ih =>
      rw [escape_cons]
      refine .append ?_ ih
      by_cases isSpecial : c ∈ special
      · rw [if_pos (List.contains_iff_mem.mpr isSpecial)]
        exact .marked apart c
      · rw [if_neg (mt List.contains_iff_mem.mp isSpecial)]
        exact .plain (fun same => isSpecial (same ▸ markSpecial))
          (fun same => isSpecial (same ▸ separatorSpecial))

/-- Each field ends with a separator. -/
def join (separator : α) (fields : List (List α)) : List α :=
  fields.flatMap fun field => field ++ [separator]

theorem split_join {fields : List (List α)} (inert : ∀ field ∈ fields, Inert mark separator field) :
    split mark separator false (join separator fields) = fields ++ [[]] := by
  induction fields with
  | nil => rfl
  | cons field fields ih =>
      obtain ⟨first, others⟩ := List.forall_mem_cons.mp inert
      have ended : split mark separator false (separator :: join separator fields) = [] :: (fields ++ [[]]) := by
        rw [← ih others]
        simp [split]
      have joined : join separator (field :: fields) = field ++ separator :: join separator fields := by simp [join]
      rw [joined, first, ended]
      simp [prepend]

end Wqm1.Library.Escape
