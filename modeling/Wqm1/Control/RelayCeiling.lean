import Mathlib.Algebra.Order.Group.MinMax
import Mathlib.Tactic.Linarith
import Wqm1.Control.Relay

/-! Timers that were cancelled or replaced do nothing, and the on-time ceiling holds
until a write fails at the wrong moment or an on-period is prolonged. -/

set_option autoImplicit false

namespace Wqm1.Control

open Wqm1.Library

namespace RelayController

/-- No channel but this one has the timer, and no timer to come will be it. -/
structure OnlyOn (relay : RelayController) (thread : Nat) (channel : Int) : Prop where
  issued : thread < relay.nextThread
  only : ∀ other timer, relay.timers other = some timer → timer.thread = thread → other = channel

/-- No channel has the timer. -/
structure Superseded (relay : RelayController) (thread : Nat) : Prop where
  issued : thread < relay.nextThread
  nowhere : ∀ channel timer, relay.timers channel = some timer → timer.thread ≠ thread

/-- What an operation on a channel may do to the timers: keep, drop, or put a new one
on the channel. -/
structure TimersStep (target : Int) (before after : RelayController) : Prop where
  maxOnS : after.maxOnS = before.maxOnS
  grows : before.nextThread ≤ after.nextThread
  kept : ∀ channel timer, after.timers channel = some timer →
    before.timers channel = some timer ∨
      (channel = target ∧ before.nextThread ≤ timer.thread ∧ timer.thread < after.nextThread)

variable {target : Int}

theorem TimersStep.refl (relay : RelayController) : TimersStep target relay relay :=
  ⟨rfl, le_rfl, fun _ _ live => .inl live⟩

theorem TimersStep.trans {first second third : RelayController} (earlier : TimersStep target first second)
    (later : TimersStep target second third) : TimersStep target first third where
  maxOnS := later.maxOnS.trans earlier.maxOnS
  grows := earlier.grows.trans later.grows
  kept channel timer live := by
    cases later.kept channel timer live with
    | inl middle =>
      cases earlier.kept channel timer middle with
      | inl early => exact .inl early
      | inr fresh => exact .inr ⟨fresh.1, fresh.2.1, fresh.2.2.trans_le later.grows⟩
    | inr fresh => exact .inr ⟨fresh.1, earlier.grows.trans fresh.2.1, fresh.2.2⟩

theorem timersStep_of_eq {before after : RelayController} (timers : after.timers = before.timers)
    (next : after.nextThread = before.nextThread) (maxOnS : after.maxOnS = before.maxOnS) :
    TimersStep target before after where
  maxOnS := maxOnS
  grows := next.ge
  kept _ _ live := .inl (by rwa [timers] at live)

theorem timersStep_cancelTimer (target : Int) (relay : RelayController) (channel : Int) :
    TimersStep target relay (relay.cancelTimer channel) where
  maxOnS := rfl
  grows := le_rfl
  kept other timer live := by
    unfold cancelTimer at live
    by_cases same : other = channel
    · subst same
      simp at live
    · exact .inl (by simpa [same] using live)

theorem timersStep_arm (relay : RelayController) (channel : Int) (seconds now : Rat) :
    TimersStep channel relay (relay.arm channel seconds now) where
  maxOnS := rfl
  grows := Nat.le_succ _
  kept other timer live := by
    unfold arm at live
    by_cases same : other = channel
    · subst same
      have fresh : timer = ⟨relay.nextThread, now + seconds⟩ := by simpa using live.symm
      rw [fresh]
      exact .inr ⟨rfl, le_rfl, Nat.lt_succ_self _⟩
    · exact .inl (by simpa [same] using live)

theorem timersStep_set (relay : RelayController) (channel : Int) (state unbounded : Bool) (now : Rat)
    (written : Bool) : TimersStep channel relay (relay.set channel state unbounded now written).1 := by
  unfold set
  split
  next =>
    have driven : TimersStep channel relay { relay with
        pins := Function.update relay.pins channel state
        state := Function.update relay.state channel state } := timersStep_of_eq rfl rfl rfl
    have quiet := driven.trans (timersStep_cancelTimer channel _ channel)
    dsimp only
    split
    next => exact quiet.trans (timersStep_arm ..)
    next => exact quiet
  next => exact .refl relay

theorem timersStep_armAutoOff (relay : RelayController) (channel : Int) (durationS now : Rat) :
    TimersStep channel relay (relay.armAutoOff channel durationS now).1 := by
  unfold armAutoOff
  split
  next => exact timersStep_arm ..
  next => exact .refl relay

theorem timersStep_autoOff (relay : RelayController) (thread : Nat) (channel : Int) (written : Bool) :
    TimersStep target relay (relay.autoOff thread channel written) := by
  have fired := timersStep_cancelTimer target relay channel
  unfold autoOff
  split
  next =>
    dsimp only
    split
    next => exact fired.trans (timersStep_of_eq rfl rfl rfl)
    next => exact fired
  next => exact .refl relay

theorem foldl_cancelTimer (relay : RelayController) (cancelled : List Int) :
    (cancelled.foldl cancelTimer relay).timers = (fun channel =>
      if channel ∈ cancelled then none else relay.timers channel) ∧
    (cancelled.foldl cancelTimer relay).nextThread = relay.nextThread := by
  induction cancelled generalizing relay with
  | nil => simp
  | cons channel rest ih =>
    rw [List.foldl_cons]
    obtain ⟨timers, next⟩ := ih (relay.cancelTimer channel)
    refine ⟨?_, next⟩
    rw [timers]
    funext other
    unfold cancelTimer
    by_cases same : other = channel <;> by_cases listed : other ∈ rest <;> simp [same, listed]

theorem allOff_timers (relay : RelayController) (written : Int → Bool) :
    (relay.allOff written).1.timers = fun channel =>
      if channel ∈ channels then none else relay.timers channel :=
  (foldl_cancelTimer relay channels).1

theorem timersStep_allOff (relay : RelayController) (written : Int → Bool) :
    TimersStep target relay (relay.allOff written).1 where
  maxOnS := rfl
  grows := (foldl_cancelTimer relay channels).2.ge
  kept channel timer live := by
    rw [allOff_timers] at live
    dsimp only at live
    split at live
    next => cases live
    next => exact .inl live

theorem OnlyOn.step {before after : RelayController} {thread : Nat} {channel : Int}
    (only : before.OnlyOn thread channel) (changed : TimersStep target before after) : after.OnlyOn thread channel where
  issued := only.issued.trans_le changed.grows
  only other timer live named := by
    cases changed.kept other timer live with
    | inl earlier => exact only.only other timer earlier named
    | inr fresh =>
      have issued := only.issued
      omega

theorem Superseded.step {before after : RelayController} {thread : Nat}
    (superseded : before.Superseded thread) (changed : TimersStep target before after) : after.Superseded thread where
  issued := superseded.issued.trans_le changed.grows
  nowhere channel timer live := by
    cases changed.kept channel timer live with
    | inl earlier => exact superseded.nowhere channel timer earlier
    | inr fresh =>
      have issued := superseded.issued
      omega

theorem Superseded.autoOff {relay : RelayController} {thread : Nat} (superseded : relay.Superseded thread)
    (channel : Int) (written : Bool) : relay.autoOff thread channel written = relay := by
  apply if_neg
  intro live
  obtain ⟨timer, armed, named⟩ := Option.map_eq_some_iff.mp live
  exact superseded.nowhere channel timer armed named

def Distinct (relay : RelayController) : Prop :=
  ∀ channel timer, relay.timers channel = some timer → relay.OnlyOn timer.thread channel

theorem Distinct.step {before after : RelayController} (distinct : before.Distinct)
    (changed : TimersStep target before after) : after.Distinct := by
  intro channel timer live
  cases changed.kept channel timer live with
  | inl earlier => exact (distinct channel timer earlier).step changed
  | inr fresh =>
    refine ⟨fresh.2.2, ?_⟩
    intro other same also named
    cases changed.kept other same also with
    | inl earlier =>
      have issued := (distinct other same earlier).issued
      omega
    | inr both => rw [both.1, fresh.1]

theorem OnlyOn.superseded {relay : RelayController} {thread : Nat} {channel : Int}
    (only : relay.OnlyOn thread channel) (gone : ∀ timer, relay.timers channel = some timer → timer.thread ≠ thread) :
    relay.Superseded thread where
  issued := only.issued
  nowhere other timer live named := by
    have same := only.only other timer live named
    subst same
    exact gone timer live named

end RelayController

namespace RelayRun

open RelayController

theorem timersStep {run after : RelayRun} {event : RelayEvent} (stepped : run.step event = some after) :
    ∃ target, TimersStep target run.relay after.relay := by
  cases event with
  | set channel state unbounded written =>
    refine ⟨channel, ?_⟩
    have changed := timersStep_set run.relay channel state unbounded run.now written
    unfold step at stepped
    dsimp only at stepped
    cases stepped
    split
    next => exact changed
    next => exact changed
  | armAutoOff channel durationS =>
    cases stepped
    exact ⟨channel, timersStep_armAutoOff ..⟩
  | allOff written =>
    cases stepped
    exact ⟨0, timersStep_allOff ..⟩
  | expire thread channel written =>
    unfold step at stepped
    dsimp only at stepped
    split at stepped
    next => cases stepped
    next =>
      cases stepped
      exact ⟨0, timersStep_autoOff ..⟩
  | advance seconds =>
    unfold step at stepped
    dsimp only at stepped
    split at stepped
    next =>
      cases stepped
      exact ⟨0, .refl _⟩
    next => cases stepped

/-- What is kept by changes of the timers is kept by a run. -/
theorem kept_of_timersStep {holds : RelayController → Prop} {permits : RelayRun → RelayEvent → Prop}
    {first last : RelayRun}
    (kept : ∀ target before after, TimersStep target before after → holds before → holds after)
    (run : Events.Reaches step permits first last) (begins : holds first.relay) : holds last.relay := by
  apply run.invariant begins
  intro before event after _ _ stepped held
  obtain ⟨target, changed⟩ := timersStep stepped
  exact kept target before.relay after.relay changed held

theorem step_superseded {run : RelayRun} {thread : Nat} (superseded : run.relay.Superseded thread)
    (channel : Int) (written : Bool) : run.step (.expire thread channel written) = some run := by
  have due : ¬ ∃ timer ∈ run.relay.timers channel, timer.thread = thread ∧ run.now < timer.deadline := by
    intro early
    obtain ⟨timer, live, named, _⟩ := early
    exact superseded.nowhere channel timer live named
  unfold step
  dsimp only
  rw [if_neg due, superseded.autoOff]

/-- The channel is recorded as energised by a request without the exemption. -/
def BoundedOn (run : RelayRun) (channel : Int) : Prop :=
  run.relay.state channel = true ∧ run.bounded channel = true

/-- Such a channel has a timer within the ceiling of its last ON. -/
def CeilingOn (run : RelayRun) (channel : Int) : Prop :=
  run.BoundedOn channel → ∃ timer, run.relay.timers channel = some timer ∧
    timer.deadline ≤ run.lastOn channel + run.relay.maxOnS

/-- No write that ends a bounded on-period raises after its timer was taken away, and
no bounded on-period is prolonged past the ceiling of its last ON. -/
def keepsCeiling (run : RelayRun) : RelayEvent → Prop
  | .armAutoOff channel durationS => run.BoundedOn channel →
      run.now + min durationS run.relay.maxOnS ≤ run.lastOn channel + run.relay.maxOnS
  | .allOff written => (∃ channel ∈ channels, run.BoundedOn channel) →
      ∀ channel ∈ channels, written channel = true
  | .expire thread channel written =>
      (run.relay.timers channel).map RelayTimer.thread = some thread → run.BoundedOn channel → written = true
  | _ => True

structure SameOn (before after : RelayRun) (channel : Int) : Prop where
  state : after.relay.state channel = before.relay.state channel
  timers : after.relay.timers channel = before.relay.timers channel
  bounded : after.bounded channel = before.bounded channel
  lastOn : after.lastOn channel = before.lastOn channel
  maxOnS : after.relay.maxOnS = before.relay.maxOnS

theorem SameOn.ceiling {before after : RelayRun} {channel : Int} (same : SameOn before after channel)
    (ceiling : before.CeilingOn channel) : after.CeilingOn channel := by
  unfold CeilingOn BoundedOn
  rw [same.state, same.timers, same.bounded, same.lastOn, same.maxOnS]
  exact ceiling

theorem ceiling_of_off {run : RelayRun} {channel : Int} (off : run.relay.state channel = false) :
    run.CeilingOn channel := by
  intro boundedOn
  rw [boundedOn.1] at off
  cases off

theorem ceiling_set {run after : RelayRun} {target : Int} {state unbounded written : Bool}
    (stepped : run.step (.set target state unbounded written) = some after) (positive : 0 < run.relay.maxOnS)
    {channel : Int} (ceiling : run.CeilingOn channel) : after.CeilingOn channel := by
  unfold step RelayController.set at stepped
  dsimp only at stepped
  by_cases returns : isChannel target ∧ written = true
  · rw [if_pos returns] at stepped
    by_cases same : channel = target
    · subst same
      cases state with
      | false =>
        apply ceiling_of_off
        simp only [Bool.false_eq_true, false_and, and_false, ↓reduceIte, Option.some.injEq] at stepped
        simp [← stepped, cancelTimer]
      | true =>
        cases unbounded with
        | true =>
          intro boundedOn
          have exempt := boundedOn.2
          simp [← Option.some.inj stepped] at exempt
        | false =>
          simp [CeilingOn, ← Option.some.inj stepped, arm, cancelTimer, positive]
    · have kept : SameOn run after channel := by
        rw [← Option.some.inj stepped]
        constructor <;> cases state <;> cases unbounded <;> simp [positive, arm, cancelTimer, same]
      exact kept.ceiling ceiling
  · rw [if_neg returns] at stepped
    have kept : SameOn run after channel := by
      rw [← Option.some.inj stepped]
      constructor <;> simp
    exact kept.ceiling ceiling

theorem ceiling_armAutoOff {run after : RelayRun} {target : Int} {durationS : Rat}
    (stepped : run.step (.armAutoOff target durationS) = some after) (positive : 0 < run.relay.maxOnS)
    (permitted : run.keepsCeiling (.armAutoOff target durationS))
    {channel : Int} (ceiling : run.CeilingOn channel) : after.CeilingOn channel := by
  rw [← Option.some.inj stepped]
  unfold armAutoOff
  by_cases arms : isChannel target ∧ 0 < durationS ∧ run.relay.state target = true
  · rw [if_pos arms]
    by_cases same : channel = target
    · subst same
      intro boundedOn
      refine ⟨⟨run.relay.nextThread, run.now + min durationS run.relay.maxOnS⟩, ?_, permitted boundedOn⟩
      simp [arm, positive]
    · refine SameOn.ceiling ?_ ceiling
      constructor <;> simp [arm, cancelTimer, same]
  · rw [if_neg arms]
    exact ceiling

theorem dropPins_complete {written : Int → Bool} {dropped : List Int}
    (succeed : ∀ channel ∈ dropped, written channel = true) (pins : Int → Bool) :
    (dropPins written dropped pins).2 = true := by
  induction dropped generalizing pins with
  | nil => rfl
  | cons channel rest ih =>
    rw [dropPins, if_pos (succeed channel List.mem_cons_self)]
    exact ih (fun other member => succeed other (List.mem_cons_of_mem _ member)) _

theorem ceiling_allOff {run after : RelayRun} {written : Int → Bool}
    (stepped : run.step (.allOff written) = some after) (permitted : run.keepsCeiling (.allOff written))
    {channel : Int} (ceiling : run.CeilingOn channel) : after.CeilingOn channel := by
  rw [← Option.some.inj stepped]
  by_cases dropped : (dropPins written channels run.relay.pins).2 = true
  · apply ceiling_of_off
    simp [allOff, dropped]
  · intro boundedOn
    have on : run.BoundedOn channel := by simpa [BoundedOn, allOff, dropped] using boundedOn
    by_cases listed : channel ∈ channels
    · exact absurd (dropPins_complete (permitted ⟨channel, listed, on⟩) _) dropped
    · obtain ⟨timer, live, within⟩ := ceiling on
      refine ⟨timer, ?_, ?_⟩
      · simp only [allOff_timers, if_neg listed]
        exact live
      · have same : (run.relay.allOff written).1.maxOnS = run.relay.maxOnS := rfl
        simp only [same]
        exact within

theorem ceiling_expire {run after : RelayRun} {thread : Nat} {target : Int} {written : Bool}
    (stepped : run.step (.expire thread target written) = some after)
    (permitted : run.keepsCeiling (.expire thread target written))
    {channel : Int} (ceiling : run.CeilingOn channel) : after.CeilingOn channel := by
  unfold step at stepped
  dsimp only at stepped
  split at stepped
  next => cases stepped
  next =>
    rw [← Option.some.inj stepped]
    unfold autoOff
    by_cases live : (run.relay.timers target).map RelayTimer.thread = some thread
    · rw [if_pos live]
      by_cases same : channel = target
      · subst same
        by_cases on : run.BoundedOn channel
        · apply ceiling_of_off
          simp [on.1, permitted live on]
        · intro boundedOn
          refine absurd ⟨?_, boundedOn.2⟩ on
          have recorded := boundedOn.1
          dsimp only at recorded
          split at recorded
          next => simp at recorded
          next => exact recorded
      · refine SameOn.ceiling ?_ ceiling
        dsimp only
        split <;> constructor <;> simp [cancelTimer, same]
    · rw [if_neg live]
      exact ceiling

theorem ceiling_reachable {maxOnS : Rat} (positive : 0 < maxOnS) {run : RelayRun}
    (reached : run.Reachable maxOnS keepsCeiling) : run.relay.maxOnS = maxOnS ∧ ∀ channel, run.CeilingOn channel := by
  apply reached.invariant
  · exact ⟨rfl, fun _ => ceiling_of_off rfl⟩
  · intro before event after _ permitted stepped holds
    obtain ⟨constant, ceiling⟩ := holds
    obtain ⟨_, changed⟩ := timersStep stepped
    refine ⟨changed.maxOnS.trans constant, fun channel => ?_⟩
    rw [← constant] at positive
    cases event with
    | set target state unbounded written => exact ceiling_set stepped positive (ceiling channel)
    | armAutoOff target durationS => exact ceiling_armAutoOff stepped positive permitted (ceiling channel)
    | allOff written => exact ceiling_allOff stepped permitted (ceiling channel)
    | expire thread target written => exact ceiling_expire stepped permitted (ceiling channel)
    | advance seconds =>
      unfold step at stepped
      dsimp only at stepped
      split at stepped
      next =>
        rw [← Option.some.inj stepped]
        exact ceiling channel
      next => cases stepped

/-- A timer that was live and no longer is does nothing whenever it expires; and a bounded
on-period has a timer within the ceiling of its last ON as long as no write that ends one
raises and none is prolonged past the ceiling. -/
theorem superseded_timers_idle_and_ceiling_kept (maxOnS : Rat) :
    (∀ {before after later : RelayRun} {channel : Int} {timer : RelayTimer},
      before.Reachable maxOnS Events.anything → before.relay.timers channel = some timer →
      Events.Reaches step Events.anything before after →
      (∀ live, after.relay.timers channel = some live → live.thread ≠ timer.thread) →
      Events.Reaches step Events.anything after later →
      ∀ target written, later.step (.expire timer.thread target written) = some later) ∧
    (0 < maxOnS → ∀ {run : RelayRun}, run.Reachable maxOnS keepsCeiling →
      ∀ channel, run.relay.state channel = true → run.bounded channel = true →
        ∃ timer, run.relay.timers channel = some timer ∧ timer.deadline ≤ run.lastOn channel + maxOnS) := by
  constructor
  · intro before after later channel timer reached live between gone further target written
    have distinct : before.relay.Distinct := by
      refine kept_of_timersStep (fun _ _ _ changed held => Distinct.step held changed) reached ?_
      intro _ _ none
      cases none
    have only : after.relay.OnlyOn timer.thread channel :=
      kept_of_timersStep (fun _ _ _ changed held => OnlyOn.step held changed) between
        (distinct channel timer live)
    have superseded : later.relay.Superseded timer.thread :=
      kept_of_timersStep (fun _ _ _ changed held => Superseded.step held changed) further
        (only.superseded gone)
    exact step_superseded superseded target written
  · intro positive run reached channel on bounded
    obtain ⟨constant, ceiling⟩ := ceiling_reachable positive reached
    rw [← constant]
    exact ceiling channel ⟨on, bounded⟩

instance (run : RelayRun) (channel : Int) : Decidable (run.BoundedOn channel) :=
  inferInstanceAs (Decidable (_ ∧ _))

instance (run : RelayRun) (event : RelayEvent) : Decidable (run.keepsCeiling event) := by
  cases event <;> unfold keepsCeiling <;> infer_instance

def renewed : List RelayEvent := [.advance 3, .set 1 true false true]

theorem superseded_timers_idle_and_ceiling_kept_renewed :
    ∃ run : RelayRun, run.Reachable 10 keepsCeiling ∧ run.step (.expire 0 1 true) = some run ∧
      ∃ timer, run.relay.timers 1 = some timer ∧ timer.deadline ≤ run.lastOn 1 + 10 := by
  have played : ((Events.play step keepsCeiling (start 10) [.set 1 true false true]).bind fun before =>
      (Events.play step keepsCeiling before renewed).map fun after =>
        (before.relay.timers 1, after.relay.timers 1, after.relay.state 1, after.bounded 1)) =
      some (some ⟨0, 10⟩, some ⟨1, 13⟩, true, true) := by
    decide +kernel
  obtain ⟨before, first, second⟩ := Option.bind_eq_some_iff.mp played
  obtain ⟨after, renewal, seen⟩ := Option.map_eq_some_iff.mp second
  simp only [Prod.mk.injEq] at seen
  have reached := Events.reaches_play first
  have between := Events.reaches_play renewal
  have weaker (state : RelayRun) (event : RelayEvent) (_ : state.keepsCeiling event) :
      Events.anything state event := trivial
  have whole := reached.trans between
  have kept := superseded_timers_idle_and_ceiling_kept 10
  refine ⟨after, whole, ?_, kept.2 (by norm_num) whole 1 seen.2.2.1 seen.2.2.2⟩
  apply kept.1 (reached.mono weaker) seen.1 (between.mono weaker) _ .start 1 true
  intro live armed
  rw [seen.2.1] at armed
  cases armed
  decide

/-- A write that raises in the timer thread leaves the coil on without a timer. -/
theorem failed_auto_off_leaves_no_timer :
    ¬ ∀ (maxOnS : Rat) (run : RelayRun), 0 < maxOnS → run.Reachable maxOnS Events.anything →
      ∀ channel, run.relay.state channel = true → run.bounded channel = true →
        ∃ timer, run.relay.timers channel = some timer ∧ timer.deadline ≤ run.lastOn channel + maxOnS := by
  intro claimed
  have played : (Events.play step Events.anything (start 10)
      [.set 1 true false true, .advance 10, .expire 0 1 false]).map
        (fun run => (run.relay.timers 1, run.relay.state 1, run.bounded 1)) = some (none, true, true) := by
    decide +kernel
  obtain ⟨run, reached, seen⟩ := Option.map_eq_some_iff.mp played
  simp only [Prod.mk.injEq] at seen
  obtain ⟨timer, live, _⟩ := claimed 10 run (by norm_num) (Events.reaches_play reached) 1 seen.2.1 seen.2.2
  rw [seen.1] at live
  cases live

end RelayRun

end Wqm1.Control
