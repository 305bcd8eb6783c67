import Mathlib.Data.List.DropRight

/-! Text the way Python reads it: lines, white space and cuts at a character. -/

set_option autoImplicit false

namespace Wqm1.Library

abbrev Text := List Char

namespace Text

/-- The characters that end a line for `splitlines`. -/
def lineBreak (c : Char) : Bool := [10, 11, 12, 13, 28, 29, 30, 0x85, 0x2028, 0x2029].contains c.toNat

/-- `isspace`. -/
def whitespace (c : Char) : Bool :=
  lineBreak c || [0x09, 0x1F, 0x20, 0xA0, 0x1680, 0x2000, 0x2001, 0x2002, 0x2003, 0x2004, 0x2005, 0x2006, 0x2007,
    0x2008, 0x2009, 0x200A, 0x202F, 0x205F, 0x3000].contains c.toNat

/-- `splitlines`: a carriage return and a line feed are one break, and the end of the text
is no further line. -/
def splitLines : Text → List Text
  | [] => []
  | c :: rest =>
    if c = '\r' ∧ rest.head? = some '\n' then splitLines rest
    else if lineBreak c then [] :: splitLines rest
    else
      match splitLines rest with
      | [] => [[c]]
      | line :: lines => (c :: line) :: lines

/-- What is read of a stream in text mode: every line end is a line feed. -/
def universalNewlines : Text → Text
  | [] => []
  | c :: rest =>
    if c = '\r' then
      if rest.head? = some '\n' then universalNewlines rest else '\n' :: universalNewlines rest
    else c :: universalNewlines rest

/-- `strip`. -/
def strip (text : Text) : Text := (text.dropWhile whitespace).rdropWhile whitespace

/-- The text before and after the first `separator`. -/
def cut (separator : Char) : Text → Option (Text × Text)
  | [] => none
  | c :: rest =>
    if c = separator then some ([], rest)
    else (cut separator rest).map fun (before, after) => (c :: before, after)

/-- The text before and after the last `separator`. -/
def cutLast (separator : Char) (text : Text) : Option (Text × Text) :=
  (cut separator text.reverse).map fun (after, before) => (before.reverse, after.reverse)

/-- No character of the text breaks a line. -/
def Unbroken (text : Text) : Prop := ∀ c ∈ text, lineBreak c = false

/-- The first and the last character are not white space. -/
structure Trim (text : Text) : Prop where
  first : ∀ c ∈ text.head?, whitespace c = false
  last : ∀ c ∈ text.getLast?, whitespace c = false

variable {text line rest : Text} {c : Char}

/-- Decided along the text, and not over all characters. -/
theorem forall_mem {p : Char → Prop} [DecidablePred p] (text : Text)
    (every : (text.all fun c => decide (p c)) = true) : ∀ c ∈ text, p c :=
  fun c mem => of_decide_eq_true (List.all_eq_true.mp every c mem)

instance (text : Text) : Decidable (Unbroken text) := List.decidableBAll _ text

instance (text : Text) : Decidable (Trim text) :=
  decidable_of_iff (Option.any whitespace text.head? = false ∧ Option.any whitespace text.getLast? = false) (by
    simp only [Option.any_eq_false]
    exact ⟨fun visible => ⟨visible.1, visible.2⟩, fun trim => ⟨trim.first, trim.last⟩⟩)

theorem trim_nil : Trim [] where
  first _ mem := by cases mem
  last _ mem := by cases mem

theorem whitespace_of_lineBreak (breaks : lineBreak c = true) : whitespace c = true := by
  simp [whitespace, breaks]

theorem splitLines_cons (unbroken : lineBreak c = false) (rest : Text) :
    splitLines (c :: rest) =
      match splitLines rest with
      | [] => [[c]]
      | line :: lines => (c :: line) :: lines := by
  have notReturn : ¬ (c = '\r' ∧ rest.head? = some '\n') := by
    rintro ⟨rfl, _⟩
    cases unbroken
  rw [splitLines, if_neg notReturn, if_neg (ne_true_of_eq_false unbroken)]

theorem splitLines_ne_nil (nonempty : text ≠ []) : splitLines text ≠ [] := by
  induction text with
  | nil => exact absurd rfl nonempty
  | cons c rest ih =>
    rw [splitLines]
    split
    next returned =>
      apply ih
      rintro rfl
      cases returned.2
    next =>
      split
      next => exact List.cons_ne_nil _ _
      next => split <;> exact List.cons_ne_nil _ _

theorem splitLines_append {first : Text} {others : List Text} (unbroken : Unbroken line)
    (split : splitLines rest = first :: others) : splitLines (line ++ rest) = (line ++ first) :: others := by
  induction line with
  | nil => exact split
  | cons c line ih =>
    obtain ⟨ordinary, tail⟩ := List.forall_mem_cons.mp unbroken
    rw [List.cons_append, splitLines_cons ordinary, ih tail]
    rfl

theorem splitLines_line (unbroken : Unbroken line) (rest : Text) :
    splitLines (line ++ '\n' :: rest) = line :: splitLines rest := by
  have split : splitLines ('\n' :: rest) = [] :: splitLines rest := rfl
  rw [splitLines_append unbroken split, List.append_nil]

theorem splitLines_last (unbroken : Unbroken line) (nonempty : line ≠ []) : splitLines line = [line] := by
  induction line with
  | nil => exact absurd rfl nonempty
  | cons c line ih =>
    obtain ⟨first, others⟩ := List.forall_mem_cons.mp unbroken
    rw [splitLines_cons first]
    cases line with
    | nil => rfl
    | cons next line => rw [ih others (List.cons_ne_nil _ _)]

/-- A line feed separates the lines before it from the lines after it. -/
theorem splitLines_newline (before after : Text) :
    splitLines (before ++ '\n' :: after) = splitLines (before ++ ['\n']) ++ splitLines after := by
  induction before with
  | nil => rfl
  | cons c before ih =>
    have next : (before ++ '\n' :: after).head? = (before ++ ['\n']).head? := by cases before <;> rfl
    rw [List.cons_append, List.cons_append, splitLines, splitLines, next, ih]
    split
    next => rfl
    next =>
      split
      next => rfl
      next =>
        cases split : splitLines (before ++ ['\n']) with
        | cons line lines => rfl
        | nil =>
          have some : splitLines (before ++ ['\n']) ≠ [] := splitLines_ne_nil (by simp)
          exact absurd split some

theorem unbroken_of_mem_splitLines (mem : line ∈ splitLines text) : Unbroken line := by
  induction text generalizing line with
  | nil => cases mem
  | cons c rest ih =>
    rw [splitLines] at mem
    split at mem
    next => exact ih mem
    next =>
      split at mem
      next =>
        rcases List.mem_cons.mp mem with rfl | later
        · exact List.forall_mem_nil _
        · exact ih later
      next ordinary =>
        have unbroken : lineBreak c = false := eq_false_of_ne_true ordinary
        cases split : splitLines rest with
        | nil =>
          rw [split] at mem
          rw [List.mem_singleton.mp mem]
          exact List.forall_mem_cons.mpr ⟨unbroken, List.forall_mem_nil _⟩
        | cons first lines =>
          rw [split] at mem ih
          rcases List.mem_cons.mp mem with rfl | later
          · exact List.forall_mem_cons.mpr ⟨unbroken, ih List.mem_cons_self⟩
          · exact ih (List.mem_cons_of_mem _ later)

theorem cut_append {separator : Char} {before : Text} (absent : separator ∉ before) (after : Text) :
    cut separator (before ++ separator :: after) = some (before, after) := by
  induction before with
  | nil => simp [cut]
  | cons c before ih =>
    have other : c ≠ separator := fun same => absent (same ▸ List.mem_cons_self)
    have later : separator ∉ before := fun mem => absent (List.mem_cons_of_mem _ mem)
    simp [cut, other, ih later]

theorem eq_of_cut {separator : Char} {before after : Text} (split : cut separator text = some (before, after)) :
    text = before ++ separator :: after := by
  induction text generalizing before with
  | nil => cases split
  | cons c text ih =>
    rw [cut] at split
    by_cases here : c = separator
    · rw [if_pos here] at split
      cases split
      rw [here]
      rfl
    · rw [if_neg here] at split
      obtain ⟨⟨early, late⟩, found, same⟩ := Option.map_eq_some_iff.mp split
      cases same
      rw [ih found]
      rfl

theorem eq_of_cutLast {separator : Char} {before after : Text}
    (split : cutLast separator text = some (before, after)) : text = before ++ separator :: after := by
  obtain ⟨⟨late, early⟩, found, same⟩ := Option.map_eq_some_iff.mp split
  cases same
  have turned := congrArg List.reverse (eq_of_cut found)
  simpa using turned

theorem cutLast_append {separator : Char} {after : Text} (before : Text) (absent : separator ∉ after) :
    cutLast separator (before ++ separator :: after) = some (before, after) := by
  have same : (before ++ separator :: after).reverse = after.reverse ++ separator :: before.reverse := by simp
  rw [cutLast, same, cut_append (by simpa using absent)]
  simp

theorem universalNewlines_append (plain : '\r' ∉ line) (rest : Text) :
    universalNewlines (line ++ rest) = line ++ universalNewlines rest := by
  induction line with
  | nil => rfl
  | cons c line ih =>
    have ordinary : c ≠ '\r' := fun same => plain (same ▸ List.mem_cons_self)
    have later : '\r' ∉ line := fun mem => plain (List.mem_cons_of_mem _ mem)
    rw [List.cons_append, universalNewlines, if_neg ordinary, ih later]
    rfl

theorem universalNewlines_of_plain (plain : '\r' ∉ text) : universalNewlines text = text := by
  have same := universalNewlines_append plain []
  rwa [List.append_nil, universalNewlines, List.append_nil] at same

theorem universalNewlines_newline (before after : Text) :
    universalNewlines (before ++ '\n' :: after) = universalNewlines (before ++ ['\n']) ++ universalNewlines after := by
  induction before with
  | nil => rfl
  | cons c before ih =>
    have next : (before ++ '\n' :: after).head? = (before ++ ['\n']).head? := by cases before <;> rfl
    rw [List.cons_append, List.cons_append, universalNewlines, universalNewlines, next, ih]
    split
    next => split <;> rfl
    next => rfl

theorem mem_universalNewlines (mem : c ∈ universalNewlines text) : c ≠ '\r' ∧ (c = '\n' ∨ c ∈ text) := by
  induction text with
  | nil => cases mem
  | cons first rest ih =>
    have later : c ∈ universalNewlines rest → c ≠ '\r' ∧ (c = '\n' ∨ c ∈ first :: rest) := by
      intro mem
      exact ⟨(ih mem).1, (ih mem).2.imp_right (List.mem_cons_of_mem _)⟩
    rw [universalNewlines] at mem
    split at mem
    next =>
      split at mem
      next => exact later mem
      next =>
        rcases List.mem_cons.mp mem with rfl | mem
        · exact ⟨by decide, .inl rfl⟩
        · exact later mem
    next ordinary =>
      rcases List.mem_cons.mp mem with rfl | mem
      · exact ⟨ordinary, .inr List.mem_cons_self⟩
      · exact later mem

/-- A text of white space was one before its line ends were changed. -/
theorem whitespace_of_universalNewlines (blank : ∀ c ∈ universalNewlines text, whitespace c = true) :
    ∀ c ∈ text, whitespace c = true := by
  induction text with
  | nil => exact List.forall_mem_nil _
  | cons first rest ih =>
    rw [universalNewlines] at blank
    split at blank
    next returned =>
      have later : ∀ c ∈ rest, whitespace c = true := by
        split at blank
        next => exact ih blank
        next => exact ih (List.forall_mem_cons.mp blank).2
      exact List.forall_mem_cons.mpr ⟨by rw [returned]; rfl, later⟩
    next =>
      obtain ⟨head, tail⟩ := List.forall_mem_cons.mp blank
      exact List.forall_mem_cons.mpr ⟨head, ih tail⟩

/-- The text is empty or ends with a line feed. -/
def Ended (text : Text) : Prop := text = [] ∨ ∃ init, text = init ++ ['\n']

theorem Ended.universalNewlines (ended : Ended text) : Ended (universalNewlines text) := by
  rcases ended with rfl | ⟨init, rfl⟩
  · exact .inl rfl
  · right
    induction init with
    | nil => exact ⟨[], rfl⟩
    | cons c init ih =>
      obtain ⟨converted, same⟩ := ih
      rw [List.cons_append, Text.universalNewlines, same]
      split
      next =>
        split
        next => exact ⟨converted, rfl⟩
        next => exact ⟨'\n' :: converted, rfl⟩
      next => exact ⟨c :: converted, rfl⟩

theorem Ended.universalNewlines_append (ended : Ended text) (rest : Text) :
    Text.universalNewlines (text ++ rest) = Text.universalNewlines text ++ Text.universalNewlines rest := by
  rcases ended with rfl | ⟨init, rfl⟩
  · rfl
  · rw [List.append_assoc]
    exact universalNewlines_newline init rest

theorem ended_flatMap {Row : Type} (rows : List Row) (line : Row → Text) :
    Ended (rows.flatMap fun row => line row ++ ['\n']) := by
  rcases List.eq_nil_or_concat rows with rfl | ⟨init, last, rfl⟩
  · exact .inl rfl
  · exact .inr ⟨(init.flatMap fun row => line row ++ ['\n']) ++ line last, by simp⟩

theorem Ended.dropWhile (ended : Ended text) : Ended (text.dropWhile whitespace) := by
  rcases ended with rfl | ⟨init, rfl⟩
  · exact .inl rfl
  · rw [List.dropWhile_append]
    split
    next => exact .inl rfl
    next => exact .inr ⟨_, rfl⟩

theorem Ended.splitLines (ended : Ended text) (rest : Text) :
    splitLines (text ++ rest) = splitLines text ++ splitLines rest := by
  rcases ended with rfl | ⟨init, rfl⟩
  · rfl
  · rw [List.append_assoc]
    exact splitLines_newline init rest

theorem strip_of_trim (trim : Trim text) : strip text = text := by
  unfold strip
  have left : text.dropWhile whitespace = text := by
    cases text with
    | nil => rfl
    | cons c rest => rw [List.dropWhile_cons_of_neg (by simp [trim.first c rfl])]
  rw [left, List.rdropWhile_eq_self_iff]
  intro nonempty breaks
  rw [trim.last _ (List.getLast?_eq_some_getLast nonempty)] at breaks
  cases breaks

theorem trim_strip (text : Text) : Trim (strip text) where
  first c mem := by
    obtain ⟨tail, same⟩ := List.rdropWhile_prefix whitespace (text.dropWhile whitespace)
    have head : (text.dropWhile whitespace).head? = some c := by
      rw [← same, List.head?_append]
      exact Option.or_of_isSome (Option.isSome_of_mem mem) |>.trans mem
    have stopped := List.head?_dropWhile_not whitespace text
    rw [head] at stopped
    exact stopped
  last c mem := by
    obtain ⟨nonempty, same⟩ := List.mem_getLast?_eq_getLast mem
    rw [same]
    exact eq_false_of_ne_true (List.rdropWhile_last_not _ _ nonempty)

theorem strip_eq_nil_iff : strip text = [] ↔ ∀ c ∈ text, whitespace c = true := by
  unfold strip
  rw [List.rdropWhile_eq_nil_iff]
  constructor
  · intro blank c mem
    rw [← List.takeWhile_append_dropWhile (p := whitespace) (l := text)] at mem
    rcases List.mem_append.mp mem with early | late
    · exact List.mem_takeWhile_imp early
    · exact blank c late
  · intro blank c mem
    exact blank c ((List.dropWhile_suffix _).mem mem)

/-- Stripping a text takes nothing from a part of it that neither begins nor ends with white
space. -/
theorem strip_append {middle : Text} (trim : Trim middle) (nonempty : middle ≠ []) (before after : Text) :
    strip (before ++ (middle ++ after)) =
      before.dropWhile whitespace ++ (middle ++ after.rdropWhile whitespace) := by
  have left : (before ++ (middle ++ after)).dropWhile whitespace =
      before.dropWhile whitespace ++ (middle ++ after) := by
    rw [List.dropWhile_append]
    split
    next blank =>
      rw [List.isEmpty_iff.mp blank]
      cases middle with
      | nil => exact absurd rfl nonempty
      | cons c middle => exact List.dropWhile_cons_of_neg (by simp [trim.first c rfl])
    next => rfl
  have right : ∀ front, (front ++ (middle ++ after)).rdropWhile whitespace =
      front ++ (middle ++ after.rdropWhile whitespace) := by
    intro front
    unfold List.rdropWhile
    rw [List.reverse_append, List.reverse_append, List.append_assoc, List.dropWhile_append]
    split
    next blank =>
      rw [List.isEmpty_iff.mp blank]
      have head : middle.reverse.head? = some (middle.getLast nonempty) := by
        rw [List.head?_reverse, List.getLast?_eq_some_getLast nonempty]
      cases turned : middle.reverse with
      | nil =>
        rw [turned] at head
        cases head
      | cons c rest =>
        rw [turned] at head
        have kept : whitespace c = false := by
          apply trim.last
          rw [List.getLast?_eq_some_getLast nonempty]
          exact head.symm
        rw [List.cons_append, List.dropWhile_cons_of_neg (by simp [kept]), ← List.cons_append, ← turned]
        simp
    next => simp
  unfold strip
  rw [left, right]

/-- A line within a stripped text of lines is still one of its lines. -/
theorem splitLines_strip {before : Text} (ended : Ended before) (unbroken : Unbroken line) (trim : Trim line)
    (nonempty : line ≠ []) (after : Text) :
    ∃ later, splitLines (strip (before ++ (line ++ '\n' :: after))) =
      splitLines (before.dropWhile whitespace) ++ line :: later := by
  rw [strip_append trim nonempty, ended.dropWhile.splitLines]
  have rests : ('\n' :: after).rdropWhile whitespace = [] ∨
      ∃ rest, ('\n' :: after).rdropWhile whitespace = '\n' :: rest := by
    obtain ⟨tail, same⟩ := List.rdropWhile_prefix whitespace ('\n' :: after)
    cases kept : ('\n' :: after).rdropWhile whitespace with
    | nil => exact .inl rfl
    | cons c rest =>
      rw [kept] at same
      rw [(List.cons.inj same).1]
      exact .inr ⟨rest, rfl⟩
  rcases rests with gone | ⟨rest, kept⟩
  · exact ⟨[], by rw [gone, List.append_nil, splitLines_last unbroken nonempty]⟩
  · exact ⟨splitLines rest, by rw [kept, splitLines_line unbroken]⟩

theorem splitLines_flatMap {lines : List Text} (unbroken : ∀ line ∈ lines, Unbroken line) :
    splitLines (lines.flatMap (· ++ ['\n'])) = lines := by
  induction lines with
  | nil => rfl
  | cons line lines ih =>
    obtain ⟨first, rest⟩ := List.forall_mem_cons.mp unbroken
    rw [List.flatMap_cons, List.append_assoc]
    exact (splitLines_line first _).trans (congrArg _ (ih rest))

/-- The lines of an output without white space at the ends of its lines. -/
theorem splitLines_strip_flatMap {lines : List Text}
    (plain : ∀ line ∈ lines, Unbroken line ∧ Trim line ∧ line ≠ []) :
    splitLines (strip (lines.flatMap (· ++ ['\n']))) = lines := by
  rcases List.eq_nil_or_concat lines with rfl | ⟨init, last, rfl⟩
  · rfl
  · obtain ⟨lastUnbroken, lastTrim, lastNonempty⟩ := plain last (by simp)
    have whole : (init ++ [last]).flatMap (· ++ ['\n']) = [] ++ ((init.flatMap (· ++ ['\n']) ++ last) ++ ['\n']) := by
      simp
    have trim : Trim (init.flatMap (· ++ ['\n']) ++ last) := by
      refine ⟨fun c mem => ?_, fun c mem => ?_⟩
      · cases init with
        | nil => exact lastTrim.first c mem
        | cons first init =>
          obtain ⟨_, firstTrim, firstNonempty⟩ := plain first (by simp)
          rw [List.flatMap_cons, List.append_assoc, List.append_assoc, List.head?_append,
            List.head?_eq_some_head firstNonempty, Option.some_or] at mem
          exact firstTrim.first c (List.head?_eq_some_head firstNonempty ▸ mem)
      · rw [List.getLast?_append, List.getLast?_eq_some_getLast lastNonempty, Option.some_or] at mem
        exact lastTrim.last c (List.getLast?_eq_some_getLast lastNonempty ▸ mem)
    have stripped := strip_append trim (by simp [lastNonempty]) [] ['\n']
    rw [List.concat_eq_append, whole, stripped]
    have gone : ['\n'].rdropWhile whitespace = [] := by decide
    rw [gone, List.append_nil, List.dropWhile_nil, List.nil_append,
      (ended_flatMap init fun line => line).splitLines, splitLines_last lastUnbroken lastNonempty]
    congr 1
    exact splitLines_flatMap fun line mem => (plain line (List.concat_eq_append ▸ List.mem_append_left _ mem)).1

end Text

end Wqm1.Library
