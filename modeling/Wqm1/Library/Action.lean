import Mathlib.Init

/-! Actions on a state that may raise, and triples about them. An exception keeps what
the action did to the state before it. -/

set_option autoImplicit false

namespace Wqm1.Library

abbrev Action (State Raised Value : Type) := ExceptT Raised (StateM State) Value

namespace Action

variable {State Raised Value Other Failure : Type}

/-- What an action returns or raises from a state, and the state it leaves. -/
def outcome (action : Action State Raised Value) (state : State) : Except Raised Value × State :=
  action.run.run state

def view (look : State → Value) : Action State Raised Value := do
  return look (← get)

/-- A change of the state that fails as a whole. -/
def call (change : State → Except Failure State) (raised : Failure → Raised) : Action State Raised Unit := do
  match change (← get) with
  | .ok changed => set changed
  | .error failure => throw (raised failure)

/-- From a state of `before` the action ends in `returns` or in `raises`. -/
def Meets (before : State → Prop) (action : Action State Raised Value) (returns : Value → State → Prop)
    (raises : Raised → State → Prop) : Prop :=
  ∀ state, before state →
    match action.outcome state with
    | (.ok value, final) => returns value final
    | (.error raised, final) => raises raised final

/-- However the action ends, `holds` stays. -/
def Keeps (holds : State → Prop) (action : Action State Raised Value) : Prop :=
  Meets holds action (fun _ => holds) fun _ => holds

variable {before holds : State → Prop} {returns : Value → State → Prop} {raises : Raised → State → Prop}
  {action : Action State Raised Value}

theorem outcome_bind (next : Value → Action State Raised Other) (state : State) :
    (action >>= next).outcome state =
      match action.outcome state with
      | (.ok value, middle) => (next value).outcome middle
      | (.error raised, final) => (.error raised, final) := by
  change (match (action state : Except Raised Value × State) with
    | (result, middle) => (ExceptT.bindCont next result middle : Except Raised Other × State)) =
      match (action state : Except Raised Value × State) with
      | (.ok value, middle) => (next value middle : Except Raised Other × State)
      | (.error raised, final) => (.error raised, final)
  cases (action state : Except Raised Value × State) with
  | mk result middle => cases result <;> rfl

theorem outcome_tryCatch (handler : Raised → Action State Raised Value) (state : State) :
    (tryCatch action handler).outcome state =
      match action.outcome state with
      | (.ok value, final) => (.ok value, final)
      | (.error raised, middle) => (handler raised).outcome middle := by
  unfold outcome ExceptT.run StateT.run
  simp only [tryCatch, tryCatchThe, MonadExceptOf.tryCatch, ExceptT.tryCatch, ExceptT.mk, bind, StateT.bind]
  cases action state with
  | mk result middle => cases result <;> rfl

theorem meets_pure {value : Value} (now : ∀ state, before state → returns value state) :
    Meets before (pure value) returns raises := now

theorem meets_throw {raised : Raised} (now : ∀ state, before state → raises raised state) :
    Meets before (throw raised) returns raises := now

theorem meets_view {look : State → Value} (now : ∀ state, before state → returns (look state) state) :
    Meets before (view look) returns raises := now

theorem Meets.weaken {stronger : State → Prop} {narrower : Value → State → Prop} {fewer : Raised → State → Prop}
    (meets : Meets before action narrower fewer) (first : ∀ state, stronger state → before state)
    (second : ∀ value state, narrower value state → returns value state)
    (third : ∀ raised state, fewer raised state → raises raised state) :
    Meets stronger action returns raises := by
  intro state now
  have met := meets state (first state now)
  cases ended : action.outcome state with
  | mk result final =>
    rw [ended] at met
    cases result with
    | ok value => exact second value final met
    | error raised => exact third raised final met

theorem Meets.either {other : State → Prop} (first : Meets before action returns raises)
    (second : Meets other action returns raises) : Meets (fun state => before state ∨ other state) action returns raises :=
  fun state now => now.elim (first state) (second state)

theorem Meets.bind {next : Value → Action State Raised Other} {middle : Value → State → Prop}
    {returns : Other → State → Prop} (first : Meets before action middle raises)
    (rest : ∀ value, Meets (middle value) (next value) returns raises) :
    Meets before (action >>= next) returns raises := by
  intro state now
  rw [outcome_bind]
  have met := first state now
  cases ended : action.outcome state with
  | mk result between =>
    rw [ended] at met
    cases result with
    | ok value => exact rest value between met
    | error raised => exact met

/-- `Meets.bind` by what is known between the two. -/
theorem Meets.through {next : Value → Action State Raised Other} {returns : Other → State → Prop}
    (middle : Value → State → Prop) (first : Meets before action middle raises)
    (rest : ∀ value, Meets (middle value) (next value) returns raises) :
    Meets before (action >>= next) returns raises :=
  first.bind rest

theorem Meets.tryCatch {handler : Raised → Action State Raised Value} {caught : Raised → State → Prop}
    (body : Meets before action returns caught)
    (handled : ∀ raised, Meets (caught raised) (handler raised) returns raises) :
    Meets before (tryCatch action handler) returns raises := by
  intro state now
  rw [outcome_tryCatch]
  have met := body state now
  cases ended : action.outcome state with
  | mk result between =>
    rw [ended] at met
    cases result with
    | ok value => exact met
    | error raised => exact handled raised between met

theorem meets_call {change : State → Except Failure State} {raised : Failure → Raised} {returns : Unit → State → Prop}
    (changes : ∀ state changed, before state → change state = .ok changed → returns () changed)
    (fails : ∀ state failure, before state → change state = .error failure → raises (raised failure) state) :
    Meets before (call change raised) returns raises := by
  intro state now
  have ran : (call change raised : Action State Raised Unit).outcome state =
      match change state with
      | .ok changed => (.ok (), changed)
      | .error failure => (.error (raised failure), state) := by
    unfold call
    rw [outcome_bind]
    change (match change state with
      | .ok changed => set changed
      | .error failure => throw (raised failure) : Action State Raised Unit).outcome state = _
    cases change state <;> rfl
  rw [ran]
  cases ended : change state with
  | ok changed => exact changes state changed now ended
  | error failure => exact fails state failure now ended

theorem keeps_pure (value : Value) : Keeps holds (pure value : Action State Raised Value) :=
  meets_pure fun _ now => now

theorem keeps_throw (raised : Raised) : Keeps holds (throw raised : Action State Raised Value) :=
  meets_throw fun _ now => now

theorem keeps_view (look : State → Value) : Keeps holds (view look : Action State Raised Value) :=
  meets_view fun _ now => now

theorem keeps_call {change : State → Except Failure State} {raised : Failure → Raised}
    (keeps : ∀ state changed, holds state → change state = .ok changed → holds changed) :
    Keeps holds (call change raised) :=
  meets_call keeps fun _ _ now _ => now

theorem Keeps.bind {next : Value → Action State Raised Other} (first : Keeps holds action)
    (rest : ∀ value, Keeps holds (next value)) : Keeps holds (action >>= next) :=
  Meets.bind first rest

theorem Keeps.tryCatch {handler : Raised → Action State Raised Value} (body : Keeps holds action)
    (handled : ∀ raised, Keeps holds (handler raised)) : Keeps holds (tryCatch action handler) :=
  Meets.tryCatch body handled

theorem Keeps.final {state : State} (keeps : Keeps holds action) (now : holds state) : holds (action.outcome state).2 := by
  have met := keeps state now
  cases ended : action.outcome state with
  | mk result final =>
    rw [ended] at met
    cases result <;> exact met

end Action

end Wqm1.Library
