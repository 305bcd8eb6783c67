import Mathlib.Data.List.TakeWhile
import Mathlib.Data.List.Infix

/-! One line of a bounded length, read from a stream that arrives in pieces of any size. -/

set_option autoImplicit false

namespace Wqm1.Library

/-- How the reading of a line ends. It is silent where the rest does not arrive in time. -/
inductive LineRead (Symbol : Type) where
  | line (text : List Symbol)
  | refused
  | silent
deriving DecidableEq

section Reading

variable {Symbol : Type} [DecidableEq Symbol]

/-- Read up to `mark`, at most `most` symbols with it. What is held has been read already, and each
size says how much of the stream has arrived when the reader asks again. -/
def readLine (mark : Symbol) (most : Nat) (closed : Bool) : List Nat → List Symbol → List Symbol → LineRead Symbol
  | [], held, _ => if mark ∈ held then .line (held.takeWhile (· ≠ mark)) else .silent
  | size :: later, held, stream =>
    if mark ∈ held then .line (held.takeWhile (· ≠ mark))
    else
      let count := max 1 (min size (most + 1 - held.length))
      if stream = [] then if closed then .refused else .silent
      else if most < (held ++ stream.take count).length then .refused
      else readLine mark most closed later (held ++ stream.take count) (stream.drop count)

variable {mark : Symbol} {most : Nat} {closed : Bool} {sizes : List Nat} {held stream line rest : List Symbol}

theorem takeWhile_line (clean : mark ∉ line) (rest : List Symbol) :
    (line ++ mark :: rest).takeWhile (· ≠ mark) = line := by
  induction line with
  | nil => simp
  | cons first others ih =>
    rw [List.mem_cons, not_or] at clean
    rw [List.cons_append, List.takeWhile_cons, if_pos (by simpa using Ne.symm clean.1), ih clean.2]

/-- The mark has been read: what is held is the line and all behind it. -/
theorem takeWhile_held (whole : held ++ stream = line ++ mark :: rest) (clean : mark ∉ line) (met : mark ∈ held) :
    held.takeWhile (· ≠ mark) = line := by
  obtain ⟨before, behind, rfl, first⟩ := List.eq_append_cons_of_mem met
  have same : before = line := by
    rw [← takeWhile_line first (behind ++ stream), ← takeWhile_line clean rest, ← whole]
    simp
  rw [takeWhile_line first, same]

/-- A line that is sent on its own is read as it was sent, however it arrives, or not at all. -/
theorem readLine_sent (closed : Bool) (sizes : List Nat) (whole : held ++ stream = line ++ [mark]) (clean : mark ∉ line) (short : line.length < most) :
    readLine mark most closed sizes held stream = .line line ∨
      (readLine mark most closed sizes held stream = .silent ∧ sizes.length < stream.length) := by
  have total : held.length + stream.length = line.length + 1 := by
    have lengths := congrArg List.length whole
    simpa using lengths
  induction sizes generalizing held stream with
  | nil =>
    unfold readLine
    split
    next met => exact .inl (congrArg _ (takeWhile_held whole clean met))
    next missing =>
      refine .inr ⟨rfl, List.length_pos_iff.mpr ?_⟩
      rintro rfl
      exact missing (by simp_all)
  | cons size later ih =>
    unfold readLine
    split
    next met => exact .inl (congrArg _ (takeWhile_held whole clean met))
    next missing =>
      have nonempty : stream ≠ [] := by
        rintro rfl
        exact missing (by simp_all)
      have left : 0 < stream.length := List.length_pos_iff.mpr nonempty
      generalize amount : max 1 (min size (most + 1 - held.length)) = count
      have positive : 0 < count := by omega
      have within : ¬most < (held ++ stream.take count).length := by
        rw [List.length_append, List.length_take]
        omega
      dsimp only
      rw [if_neg nonempty, if_neg within]
      have kept : held ++ stream.take count ++ stream.drop count = line ++ [mark] := by
        rw [List.append_assoc, List.take_append_drop, whole]
      rcases ih kept (by rw [← List.length_append, kept]; simp) with read | ⟨quiet, few⟩
      · exact .inl read
      · refine .inr ⟨quiet, ?_⟩
        rw [List.length_drop] at few
        rw [List.length_cons]
        omega

/-- Whatever arrives, a line that is read stands at the start of it and is short. -/
theorem readLine_line (read : readLine mark most closed sizes held stream = .line line) (few : held.length ≤ most) :
    (∃ rest, held ++ stream = line ++ mark :: rest) ∧ mark ∉ line ∧ line.length < most := by
  have found {held : List Symbol} (met : mark ∈ held) (few : held.length ≤ most)
      (same : held.takeWhile (· ≠ mark) = line) (stream : List Symbol) :
      (∃ rest, held ++ stream = line ++ mark :: rest) ∧ mark ∉ line ∧ line.length < most := by
    obtain ⟨before, behind, rfl, first⟩ := List.eq_append_cons_of_mem met
    rw [takeWhile_line first] at same
    subst same
    refine ⟨⟨behind ++ stream, by simp⟩, first, ?_⟩
    rw [List.length_append, List.length_cons] at few
    omega
  induction sizes generalizing held stream with
  | nil =>
    unfold readLine at read
    split at read
    next met => exact found met few (LineRead.line.inj read) stream
    next => cases read
  | cons size later ih =>
    unfold readLine at read
    split at read
    next met => exact found met few (LineRead.line.inj read) stream
    next missing =>
      dsimp only at read
      split at read
      next => split at read <;> cases read
      next =>
        split at read
        next => cases read
        next within =>
          have spec := ih read (Nat.le_of_not_lt within)
          rwa [List.append_assoc, List.take_append_drop] at spec

end Reading

end Wqm1.Library
