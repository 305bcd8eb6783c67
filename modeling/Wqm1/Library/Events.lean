import Mathlib.Logic.Basic

/-! State machines driven by events. An event that cannot happen in a state has no
next state there. -/

set_option autoImplicit false

namespace Wqm1.Library.Events

variable {State Event : Type} {step : State → Event → Option State}
  {permits : State → Event → Prop} {start : State}

/-- The states of the runs from `start` whose events are all permitted. -/
inductive Reaches (step : State → Event → Option State) (permits : State → Event → Prop)
    (start : State) : State → Prop where
  | start : Reaches step permits start start
  | next {before after : State} {event : Event} (earlier : Reaches step permits start before)
      (permitted : permits before event) (stepped : step before event = some after) :
      Reaches step permits start after

/-- Every event is permitted. -/
abbrev anything (_ : State) (_ : Event) : Prop := True

theorem Reaches.mono {allows : State → Event → Prop} {final : State}
    (weaker : ∀ state event, permits state event → allows state event)
    (run : Reaches step permits start final) : Reaches step allows start final := by
  induction run with
  | start => exact .start
  | next _ permitted stepped ih => exact ih.next (weaker _ _ permitted) stepped

theorem Reaches.trans {middle final : State} (first : Reaches step permits start middle)
    (second : Reaches step permits middle final) : Reaches step permits start final := by
  induction second with
  | start => exact first
  | next _ permitted stepped ih => exact ih.next permitted stepped

/-- What holds at the start and is kept by every permitted event holds in every
state reached. -/
theorem Reaches.invariant {holds : State → Prop} {final : State}
    (run : Reaches step permits start final) (begins : holds start)
    (kept : ∀ before event after, Reaches step permits start before → permits before event →
      step before event = some after → holds before → holds after) : holds final := by
  induction run with
  | start => exact begins
  | next earlier permitted stepped ih => exact kept _ _ _ earlier permitted stepped ih

/-- The state after a list of events, if every one of them is permitted and can happen. -/
def play (step : State → Event → Option State) (permits : State → Event → Prop)
    [∀ state event, Decidable (permits state event)] : State → List Event → Option State
  | state, [] => some state
  | state, event :: events =>
    if permits state event then
      match step state event with
      | none => none
      | some next => play step permits next events
    else none

theorem reaches_play [∀ state event, Decidable (permits state event)] {events : List Event}
    {state final : State} (played : play step permits state events = some final) :
    Reaches step permits state final := by
  induction events generalizing state with
  | nil =>
    cases played
    exact .start
  | cons event events ih =>
    unfold play at played
    split at played
    next permitted =>
      cases stepped : step state event with
      | none => rw [stepped] at played; cases played
      | some next =>
        rw [stepped] at played
        exact (Reaches.start.next permitted stepped).trans (ih played)
    next => cases played

/-- `holds` is true in every state of the run of the events. -/
def Throughout (step : State → Event → Option State) (holds : State → Prop) : State → List Event → Prop
  | state, [] => holds state
  | state, event :: events =>
    holds state ∧ ∀ next, step state event = some next → Throughout step holds next events

/-- Every event that happens in the run is permitted where it happens. -/
def Along (step : State → Event → Option State) (permits : State → Event → Prop) :
    State → List Event → Prop
  | _, [] => True
  | state, event :: events =>
    ∀ next, step state event = some next → permits state event ∧ Along step permits next events

instance Along.decidable [∀ state event, Decidable (permits state event)] :
    (state : State) → (events : List Event) → Decidable (Along step permits state events)
  | _, [] => .isTrue trivial
  | state, event :: events =>
    match stepped : step state event with
    | none => .isTrue fun next happens => by cases stepped.symm.trans happens
    | some next =>
      have rest := Along.decidable next events
      decidable_of_iff (permits state event ∧ Along step permits next events)
        ⟨fun both other happens => Option.some.inj (stepped.symm.trans happens) ▸ both, fun all => all next stepped⟩

theorem Throughout.begin {holds : State → Prop} {events : List Event}
    (throughout : Throughout step holds start events) : holds start := by
  cases events with
  | nil => exact throughout
  | cons event events => exact throughout.1

theorem Throughout.final {holds : State → Prop} {events : List Event} {state final : State}
    (throughout : Throughout step holds state events)
    (played : play step anything state events = some final) : holds final := by
  induction events generalizing state with
  | nil =>
    cases played
    exact throughout
  | cons event events ih =>
    unfold play at played
    rw [if_pos trivial] at played
    cases stepped : step state event with
    | none => rw [stepped] at played; cases played
    | some next =>
      rw [stepped] at played
      exact ih (throughout.2 next stepped) played

/-- Where `clean` states hold good, and a step from a clean state is permitted exactly if it
leads to a clean state and otherwise leads to a bad one, a run is good throughout exactly
if every step is permitted. -/
theorem throughout_iff_along {clean good : State → Prop} (sound : ∀ {state}, clean state → good state)
    (kept : ∀ {before event after}, clean before → step before event = some after →
      permits before event → clean after)
    (broken : ∀ {before event after}, clean before → step before event = some after →
      ¬ permits before event → ¬ good after)
    (begins : clean start) (events : List Event) :
    Throughout step good start events ↔ Along step permits start events := by
  induction events generalizing start with
  | nil => exact ⟨fun _ => trivial, fun _ => sound begins⟩
  | cons event events ih =>
    constructor
    · intro throughout next stepped
      have permitted : permits start event := Classical.byContradiction fun refused =>
        broken begins stepped refused (throughout.2 next stepped).begin
      exact ⟨permitted, (ih (kept begins stepped permitted)).mp (throughout.2 next stepped)⟩
    · intro along
      refine ⟨sound begins, fun next stepped => ?_⟩
      obtain ⟨permitted, rest⟩ := along next stepped
      exact (ih (kept begins stepped permitted)).mpr rest

end Wqm1.Library.Events
