import Wqm1.Library.Events
import Mathlib.Data.List.Basic

/-! Threads over one shared state, each at a place of its own program; they take their
actions in any order. -/

set_option autoImplicit false

namespace Wqm1.Library

structure Crew (Shared Place : Type) where
  shared : Shared
  places : List Place

namespace Crew

variable {Shared Place Action : Type} {action : Shared → Place → Action → Option (Shared × Place)}
  {crew after : Crew Shared Place} {thread : Nat} {taken : Action}

/-- One thread takes one action, if it can at its place. -/
def act (action : Shared → Place → Action → Option (Shared × Place)) (crew : Crew Shared Place)
    (event : Nat × Action) : Option (Crew Shared Place) :=
  match crew.places[event.1]? with
  | none => none
  | some place =>
    (action crew.shared place event.2).map fun reached => ⟨reached.1, crew.places.set event.1 reached.2⟩

theorem act_eq_some (acted : crew.act action (thread, taken) = some after) :
    ∃ place shared next, crew.places[thread]? = some place ∧
      action crew.shared place taken = some (shared, next) ∧
      after = ⟨shared, crew.places.set thread next⟩ := by
  unfold act at acted
  cases found : crew.places[thread]? with
  | none => simp only [found] at acted; cases acted
  | some place =>
    simp only [found] at acted
    obtain ⟨⟨shared, next⟩, possible, same⟩ := Option.map_eq_some_iff.mp acted
    exact ⟨place, shared, next, rfl, possible, same.symm⟩

theorem places_set {places : List Place} {place next elsewhere : Place} {other : Nat}
    (found : places[thread]? = some place)
    (seen : (places.set thread next)[other]? = some elsewhere) :
    other = thread ∧ elsewhere = next ∨ other ≠ thread ∧ places[other]? = some elsewhere := by
  have bound : thread < places.length := (List.getElem?_eq_some_iff.mp found).1
  by_cases same : other = thread
  · rw [same, List.getElem?_set_self bound] at seen
    exact .inl ⟨same, (Option.some.inj seen).symm⟩
  · rw [List.getElem?_set_ne (Ne.symm same)] at seen
    exact .inr ⟨same, seen⟩

/-- What is known of the shared state, and what each thread knows of it at its place. -/
structure Annotated (known : Shared → Prop) (knows : Shared → Nat → Place → Prop)
    (crew : Crew Shared Place) : Prop where
  shared : known crew.shared
  places : ∀ thread place, crew.places[thread]? = some place → knows crew.shared thread place

/-- A thread that goes on to its next annotation, and leaves every other thread with one,
leaves the whole annotated. -/
theorem Annotated.set {known known' : Shared → Prop} {knows knows' : Shared → Nat → Place → Prop}
    {shared : Shared} {place next : Place} (annotated : Annotated known knows crew)
    (found : crew.places[thread]? = some place) (still : known' shared) (reached : knows' shared thread next)
    (others : ∀ other elsewhere, other ≠ thread → crew.places[other]? = some elsewhere →
      knows crew.shared other elsewhere → knows' shared other elsewhere) :
    Annotated known' knows' ⟨shared, crew.places.set thread next⟩ := by
  refine ⟨still, fun other elsewhere seen => ?_⟩
  rcases places_set found seen with ⟨same, this⟩ | ⟨different, before⟩
  · subst this
    exact same ▸ reached
  · exact others other elsewhere different before (annotated.places other elsewhere before)

/-- At most one thread is inside. -/
def Alone (inside : Place → Bool) (crew : Crew Shared Place) : Prop :=
  ∀ (left right : Nat) (here there : Place), crew.places[left]? = some here →
    crew.places[right]? = some there →
    inside here = true → inside there = true → left = right

theorem Alone.set {inside : Place → Bool} {shared : Shared} {place next : Place}
    (alone : Alone inside crew) (found : crew.places[thread]? = some place)
    (enters : inside next = true → inside place = true ∨ ∀ elsewhere ∈ crew.places, inside elsewhere = false) :
    Alone inside ⟨shared, crew.places.set thread next⟩ := by
  have single (other : Nat) (elsewhere : Place) (different : other ≠ thread)
      (seen : crew.places[other]? = some elsewhere) (entered : inside next = true) :
      inside elsewhere = false := by
    rcases enters entered with was | empty
    · cases occupied : inside elsewhere with
      | false => rfl
      | true => exact absurd (alone other thread elsewhere place seen found occupied was) different
    · exact empty elsewhere (List.mem_of_getElem? seen)
  intro left right here there leftSeen rightSeen leftIn rightIn
  rcases places_set found leftSeen with ⟨leftSame, this⟩ | ⟨leftOther, leftBefore⟩ <;>
    rcases places_set found rightSeen with ⟨rightSame, that⟩ | ⟨rightOther, rightBefore⟩
  · exact leftSame.trans rightSame.symm
  · subst this
    exact absurd rightIn (by rw [single right there rightOther rightBefore leftIn]; decide)
  · subst that
    exact absurd leftIn (by rw [single left here leftOther leftBefore rightIn]; decide)
  · exact alone left right here there leftBefore rightBefore leftIn rightIn

/-- While one thread is inside, no other is. -/
theorem Alone.outside {inside : Place → Bool} {place elsewhere : Place} {other : Nat}
    (alone : Alone inside crew) (found : crew.places[thread]? = some place) (within : inside place = true)
    (different : other ≠ thread) (seen : crew.places[other]? = some elsewhere) :
    inside elsewhere = false := by
  cases occupied : inside elsewhere with
  | false => rfl
  | true => exact absurd (alone other thread elsewhere place seen found occupied within) different

/-- The other threads are outside where one is inside or goes inside. -/
theorem Alone.others {inside : Place → Bool} {place next elsewhere : Place} {other : Nat}
    (alone : Alone inside crew) (found : crew.places[thread]? = some place)
    (enters : inside next = true → inside place = true ∨ ∀ elsewhere ∈ crew.places, inside elsewhere = false)
    (within : (inside place || inside next) = true) (different : other ≠ thread)
    (seen : crew.places[other]? = some elsewhere) : inside elsewhere = false := by
  have already : inside place = true ∨ ∀ elsewhere ∈ crew.places, inside elsewhere = false := by
    rcases Bool.or_eq_true_iff.mp within with here | now
    · exact .inl here
    · exact enters now
  rcases already with here | empty
  · exact alone.outside found here different seen
  · exact empty elsewhere (List.mem_of_getElem? seen)

section Resting

variable {places : List Place} {rest : Place} (same : ∀ place ∈ places, place = rest) {shared : Shared}

include same

theorem Annotated.resting {known : Shared → Prop} {knows : Shared → Nat → Place → Prop}
    (still : known shared)
    (rests : ∀ thread, knows shared thread rest) : Annotated known knows ⟨shared, places⟩ := by
  refine ⟨still, fun thread place found => ?_⟩
  rw [same place (List.mem_of_getElem? found)]
  exact rests thread

theorem Alone.resting {inside : Place → Bool} (outside : inside rest = false) :
    Alone inside ⟨shared, places⟩ := by
  intro left right here there foundHere foundThere within
  rw [same here (List.mem_of_getElem? foundHere), outside] at within
  cases within

end Resting

theorem resting_map (places : List Place) (rest : Place) :
    ∀ place ∈ places.map fun _ => rest, place = rest := by
  intro place member
  obtain ⟨before, listed, rests⟩ := List.mem_map.mp member
  exact rests.symm

end Crew

end Wqm1.Library
