import Wqm1.Library.Dict
import Wqm1.Library.Events

/-! The queue of device events awaiting upload: workers put events on it, and the command
worker drains it and sends what it drained. -/

set_option autoImplicit false

namespace Wqm1.App

open Wqm1.Library

variable {Value : Type}

structure DeviceEvent (Value : Type) where
  type : Option String
  message : Option String
  sensor : Option String
  details : Option (Dict String Value)

structure EventBody (Value : Type) where
  type : String
  message : Option String
  sensor : Option String
  details : Option (Dict String Value)

/-- What `send_event` posts. -/
def DeviceEvent.body (event : DeviceEvent Value) : EventBody Value where
  type := event.type.getD "degraded"
  message := (event.message.filter (· ≠ "")).map fun message => String.ofList (message.toList.take 300)
  sensor := event.sensor.filter (· ≠ "")
  details := event.details.filter fun details => !details.entries.isEmpty

/-- `send_event`; the post ends with a status, 0 for a failed transport, or at `none` with
an exception. -/
def sendEvent (apiBase : String) (post : EventBody Value → Option Int) (event : DeviceEvent Value) :
    Option Bool :=
  if apiBase = "" then some false else (post event.body).map fun status => decide (status = 200)

/-- An event on its way, numbered in the order of the emissions. -/
structure Emission (Value : Type) where
  number : Nat
  event : DeviceEvent Value

/-- Where the command worker is in its step. -/
inductive Upload (Value : Type) where
  | outside
  | draining (drained : List (Emission Value))
  | sending (remaining : List (Emission Value))

def Upload.held : Upload Value → List (Emission Value)
  | outside => []
  | draining drained => drained
  | sending remaining => remaining

inductive LossCause where
  | queueFull | sendFailed
deriving DecidableEq

/-- The queue and the command worker. The last fields are for the statements only. -/
structure EventStore (Value : Type) where
  events : List (Emission Value) := []
  upload : Upload Value := .outside
  emitted : Nat := 0
  accepted : List Nat := []
  lost : List (Nat × LossCause) := []

inductive EventActivity (Value : Type) where
  | emit (event : DeviceEvent Value)
  /-- The command worker's step up to the drain; `raises` when the poll, a command or a
  callback raises before it. -/
  | poll (cloudEnabled : Bool) (apiKey : String) (raises : Bool)
  | getNowait
  | send (post : EventBody Value → Option Int)

namespace EventStore

def maxsize : Nat := 100

def drainLimit : Nat := 10

/-- `emit_event`. -/
def emitEvent (store : EventStore Value) (event : DeviceEvent Value) : Bool × EventStore Value :=
  if store.events.length < maxsize then
    (true, { store with
      events := store.events ++ [⟨store.emitted, event⟩], emitted := store.emitted + 1 })
  else
    (false, { store with
      emitted := store.emitted + 1, lost := store.lost ++ [(store.emitted, .queueFull)] })

/-- One turn of the loop of `drain_events`. -/
def drainNext (store : EventStore Value) (drained : List (Emission Value)) : EventStore Value :=
  if drained.length < drainLimit then
    match store.events with
    | [] => { store with upload := .sending drained }
    | first :: rest => { store with events := rest, upload := .draining (drained ++ [first]) }
  else { store with upload := .sending drained }

/-- One turn of the loop over the drained events; an exception ends the step. -/
def sendNext (apiBase : String) (post : EventBody Value → Option Int) (store : EventStore Value) :
    List (Emission Value) → EventStore Value
  | [] => { store with upload := .outside }
  | first :: rest =>
    match sendEvent apiBase post first.event with
    | some true => { store with upload := .sending rest, accepted := store.accepted ++ [first.number] }
    | some false =>
      { store with upload := .sending rest, lost := store.lost ++ [(first.number, .sendFailed)] }
    | none =>
      { store with
        upload := .outside
        lost := store.lost ++ (first :: rest).map fun emission => (emission.number, .sendFailed) }

/-- The command worker's step up to the drain. -/
def poll (store : EventStore Value) (cloudEnabled : Bool) (apiKey : String) (raises : Bool) :
    Option (EventStore Value) :=
  match store.upload with
  | .outside =>
    if cloudEnabled && apiKey ≠ "" && !raises then some { store with upload := .draining [] }
    else some store
  | _ => none

def getNowait (store : EventStore Value) : Option (EventStore Value) :=
  match store.upload with
  | .draining drained => some (store.drainNext drained)
  | _ => none

def send (apiBase : String) (store : EventStore Value) (post : EventBody Value → Option Int) :
    Option (EventStore Value) :=
  match store.upload with
  | .sending remaining => some (store.sendNext apiBase post remaining)
  | _ => none

/-- One activity of any of the threads; `none` where the command worker is not there. -/
def step (apiBase : String) (store : EventStore Value) : EventActivity Value → Option (EventStore Value)
  | .emit event => some (store.emitEvent event).2
  | .poll cloudEnabled apiKey raises => store.poll cloudEnabled apiKey raises
  | .getNowait => store.getNowait
  | .send post => store.send apiBase post

def Queued (store : EventStore Value) (number : Nat) : Prop :=
  number ∈ store.events.map Emission.number

def Held (store : EventStore Value) (number : Nat) : Prop :=
  number ∈ store.upload.held.map Emission.number

/-- Accepted by the cloud, queued, or in the hands of the command worker. -/
def Safe (store : EventStore Value) (number : Nat) : Prop :=
  number ∈ store.accepted ∨ store.Queued number ∨ store.Held number

/-- The events survive up to the bound of the queue, the oldest being dropped first. -/
structure Survive (store : EventStore Value) : Prop where
  kept : ∀ number < store.emitted, store.Safe number ∨ number + 100 < store.emitted
  oldestFirst : ∀ number < store.emitted, ¬ store.Safe number →
    ∀ older < number, ¬ store.Queued older
  notBySending : ∀ number, (number, LossCause.sendFailed) ∉ store.lost

/-- The queue has room for an emission, and the cloud accepts what is sent. -/
def Uncongested (apiBase : String) (store : EventStore Value) : EventActivity Value → Prop
  | .emit _ => store.events.length < maxsize
  | .send post => ∀ emission ∈ store.upload.held.head?, sendEvent apiBase post emission.event = some true
  | _ => True

/-- Nothing has been lost, and no number is in use that is still to come. -/
structure Clean (store : EventStore Value) : Prop where
  safe : ∀ number < store.emitted, store.Safe number
  past : ∀ number, store.Safe number → number < store.emitted
  lossless : store.lost = []

theorem Clean.survive {store : EventStore Value} (clean : store.Clean) : store.Survive where
  kept number early := .inl (clean.safe number early)
  oldestFirst number early gone := absurd (clean.safe number early) gone
  notBySending number member := by
    rw [clean.lossless] at member
    cases member

theorem clean_empty : ({} : EventStore Value).Clean where
  safe number early := absurd early (Nat.not_lt_zero number)
  past number safe := by
    rcases safe with accepted | queued | held
    · cases accepted
    · cases queued
    · cases held
  lossless := rfl

/-- A store with the same numbers in safety, of which none was lost, is clean too. -/
theorem Clean.of_same {before after : EventStore Value} (clean : before.Clean)
    (safe : ∀ number, after.Safe number ↔ before.Safe number)
    (emitted : after.emitted = before.emitted) (lost : after.lost = before.lost) : after.Clean where
  safe number early := (safe number).mpr (clean.safe number (emitted ▸ early))
  past number held := emitted ▸ clean.past number ((safe number).mp held)
  lossless := lost.trans clean.lossless

theorem Clean.emitEvent {store : EventStore Value} (clean : store.Clean) {event : DeviceEvent Value}
    (room : store.events.length < maxsize) : (store.emitEvent event).2.Clean := by
  have safe : ∀ number, (store.emitEvent event).2.Safe number ↔
      store.Safe number ∨ number = store.emitted := by
    intro number
    unfold EventStore.emitEvent
    rw [if_pos room]
    simp only [Safe, Queued, Held, List.map_append, List.map_cons, List.map_nil, List.mem_append,
      List.mem_singleton]
    tauto
  have emitted : (store.emitEvent event).2.emitted = store.emitted + 1 := by
    unfold EventStore.emitEvent
    rw [if_pos room]
  constructor
  · intro number early
    rw [emitted] at early
    rcases Nat.lt_succ_iff_lt_or_eq.mp early with before | last
    · exact (safe number).mpr (.inl (clean.safe number before))
    · exact (safe number).mpr (.inr last)
  · intro number held
    rw [emitted]
    rcases (safe number).mp held with before | last
    · exact Nat.lt_succ_of_lt (clean.past number before)
    · exact last ▸ Nat.lt_succ_self _
  · unfold EventStore.emitEvent
    rw [if_pos room]
    exact clean.lossless

theorem Clean.drainNext {store : EventStore Value} (clean : store.Clean)
    {drained : List (Emission Value)} (draining : store.upload = .draining drained) :
    (store.drainNext drained).Clean := by
  unfold EventStore.drainNext
  split
  · cases queue : store.events with
    | nil =>
      exact clean.of_same (fun number => by simp [Safe, Queued, Held, draining, Upload.held, queue]) rfl rfl
    | cons first rest =>
      refine clean.of_same (fun number => ?_) rfl rfl
      simp only [Safe, Queued, Held, draining, Upload.held, queue, List.map_append, List.map_cons,
        List.map_nil, List.mem_append, List.mem_cons, List.not_mem_nil, or_false]
      tauto
  · exact clean.of_same (fun number => by simp [Safe, Queued, Held, draining, Upload.held]) rfl rfl

theorem Clean.sendNext {apiBase : String} {store : EventStore Value} (clean : store.Clean)
    {post : EventBody Value → Option Int} {remaining : List (Emission Value)}
    (sending : store.upload = .sending remaining)
    (answered : ∀ emission ∈ remaining.head?, sendEvent apiBase post emission.event = some true) :
    (store.sendNext apiBase post remaining).Clean := by
  cases remaining with
  | nil => exact clean.of_same (fun number => by simp [EventStore.sendNext, Safe, Queued, Held, sending, Upload.held]) rfl rfl
  | cons first rest =>
    simp only [EventStore.sendNext, answered first rfl]
    refine clean.of_same (fun number => ?_) rfl rfl
    simp only [Safe, Queued, Held, sending, Upload.held, List.map_cons, List.mem_append,
      List.mem_cons, List.not_mem_nil, or_false]
    tauto

theorem Clean.poll {before after : EventStore Value} (clean : before.Clean) {cloudEnabled : Bool}
    {apiKey : String} {raises : Bool} (polled : before.poll cloudEnabled apiKey raises = some after) :
    after.Clean := by
  unfold EventStore.poll at polled
  split at polled
  next outside =>
    split at polled
    · cases polled
      exact clean.of_same (fun number => by simp [Safe, Queued, Held, outside, Upload.held]) rfl rfl
    · cases polled
      exact clean
  next => cases polled

theorem getNowait_eq_some {before after : EventStore Value} (got : before.getNowait = some after) :
    ∃ drained, before.upload = .draining drained ∧ after = before.drainNext drained := by
  unfold getNowait at got
  split at got
  next drained draining =>
    cases got
    exact ⟨drained, draining, rfl⟩
  next => cases got

theorem send_eq_some {apiBase : String} {before after : EventStore Value}
    {post : EventBody Value → Option Int} (sent : before.send apiBase post = some after) :
    ∃ remaining, before.upload = .sending remaining ∧ after = before.sendNext apiBase post remaining := by
  unfold send at sent
  split at sent
  next remaining sending =>
    cases sent
    exact ⟨remaining, sending, rfl⟩
  next => cases sent

theorem Clean.step {apiBase : String} {before after : EventStore Value}
    {activity : EventActivity Value} (clean : before.Clean)
    (stepped : before.step apiBase activity = some after)
    (uncongested : before.Uncongested apiBase activity) : after.Clean := by
  cases activity with
  | emit event =>
    cases stepped
    exact clean.emitEvent uncongested
  | poll cloudEnabled apiKey raises => exact clean.poll stepped
  | getNowait =>
    obtain ⟨drained, draining, rfl⟩ := getNowait_eq_some stepped
    exact clean.drainNext draining
  | send post =>
    obtain ⟨remaining, sending, rfl⟩ := send_eq_some stepped
    simp only [Uncongested, sending, Upload.held] at uncongested
    exact clean.sendNext sending uncongested

/-- An event that the queue refuses is gone at once, with nothing emitted after it. -/
theorem Clean.refused {store : EventStore Value} (clean : store.Clean) {event : DeviceEvent Value}
    (full : ¬ store.events.length < maxsize) : ¬ (store.emitEvent event).2.Survive := by
  intro survive
  unfold EventStore.emitEvent at survive
  rw [if_neg full] at survive
  rcases survive.kept store.emitted (Nat.lt_succ_self _) with safe | displaced
  · exact Nat.lt_irrefl _ (clean.past store.emitted safe)
  · have later : store.emitted + 100 < store.emitted + 1 := displaced
    omega

theorem unsent {apiBase : String} {store : EventStore Value} {post : EventBody Value → Option Int}
    {first : Emission Value} {rest : List (Emission Value)}
    (failed : sendEvent apiBase post first.event ≠ some true) :
    (first.number, LossCause.sendFailed) ∈ (store.sendNext apiBase post (first :: rest)).lost := by
  cases answer : sendEvent apiBase post first.event with
  | none => simp [sendNext, answer]
  | some accepted =>
    cases accepted with
    | true => exact absurd answer failed
    | false => simp [sendNext, answer]

theorem Clean.congested {apiBase : String} {before after : EventStore Value}
    {activity : EventActivity Value} (clean : before.Clean)
    (stepped : before.step apiBase activity = some after)
    (congested : ¬ before.Uncongested apiBase activity) : ¬ after.Survive := by
  cases activity with
  | emit event =>
    cases stepped
    exact clean.refused congested
  | poll cloudEnabled apiKey raises => exact absurd trivial congested
  | getNowait => exact absurd trivial congested
  | send post =>
    obtain ⟨remaining, sending, rfl⟩ := send_eq_some stepped
    simp only [Uncongested, sending, Upload.held, not_forall] at congested
    obtain ⟨emission, head, failed⟩ := congested
    cases remaining with
    | nil => cases head
    | cons first rest =>
      cases head
      exact fun survive => survive.notBySending _ (unsent failed)

/-- The events survive throughout a run if and only if the queue always has room for an
emission and the cloud accepts whatever is sent. -/
theorem survive_throughout_iff (apiBase : String) (activities : List (EventActivity Value)) :
    Events.Throughout (step apiBase) Survive {} activities ↔
      Events.Along (step apiBase) (Uncongested apiBase) {} activities :=
  Events.throughout_iff_along Clean.survive
    (fun clean stepped uncongested => clean.step stepped uncongested)
    (fun clean stepped congested => clean.congested stepped congested) clean_empty activities

instance (store : EventStore Value) (number : Nat) : Decidable (store.Safe number) :=
  inferInstanceAs (Decidable (_ ∨ _ ∈ _ ∨ _ ∈ _))

/-- A hundred and one emissions while the cloud is away: the queue drops the newest. And a
single event whose post is answered 503. -/
theorem survive_throughout_fails :
    ¬ Events.Throughout (step "https://cloud") Survive ({} : EventStore Unit)
      (List.replicate 101 (.emit ⟨some "anomaly_spike", none, none, none⟩)) ∧
    ¬ Events.Throughout (step "https://cloud") Survive ({} : EventStore Unit)
      [.emit ⟨some "sensor_stuck", none, some "ph", none⟩, .poll true "key" false, .getNowait,
        .getNowait, .send fun _ => some 503] := by
  constructor
  · intro throughout
    have newest : (Events.play (step "https://cloud") Events.anything ({} : EventStore Unit)
        (List.replicate 101 (.emit ⟨some "anomaly_spike", none, none, none⟩))).any
          (fun store => store.emitted = 101 ∧ ¬ store.Safe 100) = true := by decide +kernel
    obtain ⟨final, played, gone⟩ := (Option.any_eq_true _ _).mp newest
    have lost : final.emitted = 101 ∧ ¬ final.Safe 100 := by simpa using gone
    rcases (throughout.final played).kept 100 (by omega) with safe | displaced
    · exact lost.2 safe
    · omega
  · intro throughout
    have unanswered : (Events.play (step "https://cloud") Events.anything ({} : EventStore Unit)
        [.emit ⟨some "sensor_stuck", none, some "ph", none⟩, .poll true "key" false, .getNowait,
          .getNowait, .send fun _ => some 503]).any
            (fun store => (0, LossCause.sendFailed) ∈ store.lost) = true := by decide +kernel
    obtain ⟨final, played, lost⟩ := (Option.any_eq_true _ _).mp unanswered
    exact (throughout.final played).notBySending 0 (by simpa using lost)

end EventStore

end Wqm1.App
