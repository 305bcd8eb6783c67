import Wqm1.Cloud.CommandOnce

/-! What the cloud is told about device commands: results are posted, kept while a post
fails, and posted again. -/

set_option autoImplicit false

namespace Wqm1.Cloud

open Wqm1.Library

variable {Object : Type} {isoMs : String → Option Int}

/-- How a post ends: with a status (0 for a failed transport) or, at `none`, with an
exception; and whether the cloud recorded the result. -/
structure PostAnswer where
  code : Option Int
  recorded : Bool

inductive PostResult where
  | accepted | retry | drop
deriving DecidableEq

/-- `post_command_result`. -/
def postResult (code : Int) : PostResult :=
  if code = 200 ∨ code = 409 then .accepted
  else if 500 ≤ code ∨ code ∈ [0, 401, 403, 408, 429] then .retry
  else if 400 ≤ code then .drop
  else .retry

def handledCommandsMax : Nat := 64

/-- A command of the pending list, and what happens while it is applied and reported. -/
structure Delivery (Object : Type) where
  command : DeviceCommand Object
  readings : Readings
  execution : Execution Object
  answer : PostAnswer

/-- The command worker. The last fields are for the statements only: what the first
application of each id ended with and when it was checked, the executions that drove the
hardware, and the results that the cloud recorded. -/
structure CommandWorker (Object : Type) where
  unit : CommandUnit Object
  unposted : Dict String (CommandOutcome Object) := Dict.empty
  told : String → Option (CommandOutcome Object × Int) := fun _ => none
  drives : List (String × CommandOutcome Object) := []
  recorded : List (String × CommandOutcome Object) := []

/-- The outcome of an application; an exception is a rejection. -/
def Application.report (application : Application Object) : CommandOutcome Object :=
  match application.outcome with
  | .ok outcome => outcome
  | .error text => { status := .rejected, message := text }

/-- The outcome with its message as it is posted. -/
def CommandOutcome.sent (outcome : CommandOutcome Object) : CommandOutcome Object :=
  { outcome with message := clip outcome.message }

namespace CommandWorker

variable (worker : CommandWorker Object)

/-- There is room for one more result; the oldest ones go. -/
def makeRoom (unposted : Dict String (CommandOutcome Object)) :
    Dict String (CommandOutcome Object) :=
  unposted.drop (unposted.entries.length + 1 - handledCommandsMax)

def record (id : String) (outcome : CommandOutcome Object) (answer : PostAnswer) :
    CommandWorker Object :=
  if answer.recorded then { worker with recorded := (id, outcome.sent) :: worker.recorded } else worker

/-- `_deliver_device_result`; the flag says that no exception was raised. -/
def deliverDeviceResult (id : String) (outcome : CommandOutcome Object) (answer : PostAnswer) :
    CommandWorker Object × Bool :=
  let posted := worker.record id outcome answer
  match answer.code with
  | none => (posted, false)
  | some code =>
    match postResult code with
    | .retry =>
      let room := if (posted.unposted.get id).isSome then posted.unposted else makeRoom posted.unposted
      ({ posted with unposted := room.set id outcome.sent }, true)
    | _ => ({ posted with unposted := posted.unposted.filter fun entry => entry.1 ≠ id }, true)

/-- `_retry_unposted_device_results`, over the results that were there at its start. -/
def retryUnposted (answers : String → PostAnswer) :
    List (String × CommandOutcome Object) → CommandWorker Object → CommandWorker Object × Bool
  | [], worker => (worker, true)
  | (id, outcome) :: rest, worker =>
    let delivered := worker.deliverDeviceResult id outcome (answers id)
    if delivered.2 then retryUnposted answers rest delivered.1 else delivered

/-- The application of a command. -/
def applyCommand (isoMs : String → Option Int) (delivery : Delivery Object) :
    CommandWorker Object :=
  let application :=
    worker.unit.dispatcher.apply isoMs delivery.command delivery.readings delivery.execution
  let applied := { worker with
    unit := worker.unit.deliver isoMs delivery.command delivery.readings delivery.execution }
  match Dispatcher.commandId delivery.command.id with
  | none => applied
  | some id =>
    { applied with
      told := Function.update worker.told id
        (some ((worker.told id).getD (application.report, delivery.readings.check)))
      drives := if application.executed then (id, application.report) :: worker.drives else worker.drives }

/-- A command of the pending list: it is applied and its result is delivered. -/
def handle (isoMs : String → Option Int) (delivery : Delivery Object) :
    CommandWorker Object × Bool :=
  let application :=
    worker.unit.dispatcher.apply isoMs delivery.command delivery.readings delivery.execution
  let applied := worker.applyCommand isoMs delivery
  match Dispatcher.commandId delivery.command.id with
  | none => (applied, true)
  | some id => applied.deliverDeviceResult id application.report delivery.answer

def handleAll (isoMs : String → Option Int) :
    List (Delivery Object) → CommandWorker Object → CommandWorker Object
  | [], worker => worker
  | delivery :: rest, worker =>
    let handled := worker.handle isoMs delivery
    if handled.2 then handleAll isoMs rest handled.1 else handled.1

/-- `_apply_pending_device_commands`. -/
def applyPending (isoMs : String → Option Int) (answers : String → PostAnswer)
    (pending : List (Delivery Object)) :
    CommandWorker Object :=
  let retried := retryUnposted answers worker.unposted.entries worker
  if retried.2 then handleAll isoMs pending retried.1 else retried.1

end CommandWorker

/-- The readings of the clock follow one another. -/
def readingsFollow : Int → List Readings → Bool
  | _, [] => true
  | clock, readings :: rest => readings.follow clock && readingsFollow readings.store rest

inductive WorkerEvent (Object : Type) where
  | step (answers : String → PostAnswer) (pending : List (Delivery Object))
  | restart (now : Int)

namespace CommandWorker

def step (isoMs : String → Option Int) (worker : CommandWorker Object) :
    WorkerEvent Object → Option (CommandWorker Object)
  | .step answers pending =>
    if readingsFollow worker.unit.clock (pending.map Delivery.readings) then
      some (worker.applyPending isoMs answers pending)
    else none
  | .restart now =>
    (worker.unit.step isoMs (.restart now)).map fun unit => { worker with unit := unit, unposted := Dict.empty }

/-- The commands of an id are always the same. -/
def fixedCommands (commands : String → DeviceCommand Object) (_ : CommandWorker Object) :
    WorkerEvent Object → Prop
  | .step _ pending => ∀ delivery ∈ pending, ∀ id ∈ Dispatcher.commandId delivery.command.id,
      delivery.command = commands id
  | .restart _ => True

/-- Nothing but its expiry and its payload can stand against a command. -/
def wellTyped (command : DeviceCommand Object) : Prop :=
  unexpected command.keys commandKeys = none ∧ ∃ type ∈ commandTypes, command.type = .text type

/-- A well-typed command that was first checked before its expiry is not handed out again
at its expiry or later. -/
def timely (isoMs : String → Option Int) (worker : CommandWorker Object)
    (delivery : Delivery Object) : Prop :=
  ∀ id ∈ Dispatcher.commandId delivery.command.id, ∀ told ∈ worker.told id, wellTyped delivery.command →
    ∀ usable ∈ parseExpiresAtMs isoMs delivery.command.expiresAt, ∀ parsed ∈ usable,
      told.2 < parsed → delivery.readings.evict < parsed

def allTimely (isoMs : String → Option Int) : List (Delivery Object) → CommandWorker Object → Prop
  | [], _ => True
  | delivery :: rest, worker => timely isoMs worker delivery ∧
      ((worker.handle isoMs delivery).2 = true → allTimely isoMs rest (worker.handle isoMs delivery).1)

/-- Besides, no command is handed out too late. -/
def fixedTimely (isoMs : String → Option Int) (commands : String → DeviceCommand Object)
    (worker : CommandWorker Object) :
    WorkerEvent Object → Prop
  | .step answers pending => fixedCommands commands worker (.step answers pending) ∧
      ((retryUnposted answers worker.unposted.entries worker).2 = true →
        allTimely isoMs pending (retryUnposted answers worker.unposted.entries worker).1)
  | .restart _ => True

/-- Every result that the cloud recorded, its message included, is what the one application of
the command ended with: its execution, or the refusal of a command that was never executed. -/
def Truthful (worker : CommandWorker Object) : Prop :=
  ∀ id outcome, (id, outcome) ∈ worker.recorded →
    (∃ checked, worker.told id = some (outcome, checked)) ∧
    (∀ drive, (id, drive) ∈ worker.drives → outcome = drive) ∧
    ((∀ drive, (id, drive) ∉ worker.drives) → outcome.status = .rejected ∧ outcome.result = none) ∧
    ∀ other, (id, other) ∈ worker.recorded → outcome = other

end CommandWorker

section

variable {command : DeviceCommand Object} {readings : Readings} {execution : Execution Object} {id : String}
  {commands : String → DeviceCommand Object}

theorem clip_clip (message : String) : clip (clip message) = clip message := by
  unfold clip
  rw [String.toList_ofList, List.take_take, Nat.min_self]

theorem sent_rejected (message : String) :
    (rejected message : CommandOutcome Object).sent = rejected message := by
  unfold CommandOutcome.sent rejected
  dsimp only
  rw [clip_clip]

theorem sent_outcome (execution : Execution Object) :
    execution.outcome.sent = execution.outcome := by
  cases execution with
  | applied message result =>
    unfold CommandOutcome.sent Execution.outcome applied
    dsimp only
    rw [clip_clip]
  | rejected message => exact sent_rejected message
  | raised text => exact sent_rejected _

/-- A command that is not executed is refused with a message. -/
theorem screen_rejected {now : Int} {outcome : CommandOutcome Object}
    (refused : screen isoMs command now = some outcome) :
    ∃ message, outcome = rejected message := by
  unfold screen at refused
  split at refused
  next => exact ⟨_, (Option.some.inj refused).symm⟩
  next =>
    split at refused
    next =>
      split at refused
      next => exact ⟨_, (Option.some.inj refused).symm⟩
      next =>
        split at refused
        next => exact ⟨_, (Option.some.inj refused).symm⟩
        next =>
          split at refused
          next => exact ⟨_, (Option.some.inj refused).symm⟩
          next =>
            split at refused
            next =>
              split at refused
              next => exact ⟨_, (Option.some.inj refused).symm⟩
              next =>
                split at refused
                next => cases refused
                next => exact ⟨_, (Option.some.inj refused).symm⟩
            next => exact ⟨_, (Option.some.inj refused).symm⟩
    next => exact ⟨_, (Option.some.inj refused).symm⟩

/-- The rows of the cache after an application were there before, or one is its outcome. -/
theorem Dispatcher.apply_rows (dispatcher : Dispatcher Object) {other : String}
    {row : Handled Object}
    (found : (dispatcher.apply isoMs command readings execution).dispatcher.handled.get other = some row) :
    dispatcher.handled.get other = some row ∨ commandId command.id = some other ∧
      (dispatcher.apply isoMs command readings execution).report = row.outcome := by
  cases dispatcher.apply_cases command readings execution with
  | unnamed unnamed same =>
    rw [same] at found
    exact .inl found
  | known id cached named present same =>
    rw [same] at found
    dsimp only at found
    rw [Dict.get_moveToEnd] at found
    exact .inl (get_evictExpired.mp found).1
  | overflows id named absent unusable same =>
    rw [same] at found
    exact .inl (get_evictExpired.mp found).1
  | handled id outcome keepUntil named absent keeps judged same =>
    rw [same] at found ⊢
    dsimp only at found
    rw [get_store] at found
    split at found
    next here =>
      cases found
      exact .inr ⟨here ▸ named, rfl⟩
    next => exact .inl (get_evictExpired.mp (get_evictExpired.mp found).1).1

/-- The cache file is rewritten with the cache, or stays. -/
theorem Dispatcher.apply_file (dispatcher : Dispatcher Object) (isoMs : String → Option Int)
    (command : DeviceCommand Object) (readings : Readings) (execution : Execution Object) :
    (dispatcher.apply isoMs command readings execution).dispatcher.file = dispatcher.file ∨
      (dispatcher.apply isoMs command readings execution).dispatcher.file =
        some (saveHandled (dispatcher.apply isoMs command readings execution).dispatcher.handled) := by
  cases dispatcher.apply_cases command readings execution with
  | unnamed unnamed same => exact .inl (by rw [same])
  | known id row named found same => exact .inl (by rw [same]; rfl)
  | overflows id named absent unusable same => exact .inl (by rw [same]; rfl)
  | handled id outcome keepUntil named absent keeps judged same => exact .inr (by rw [same]; rfl)

/-- An application returns unless the expiry overflows. -/
theorem Dispatcher.apply_returns (dispatcher : Dispatcher Object)
    (usable : parseExpiresAtMs isoMs command.expiresAt ≠ none) (readings : Readings)
    (execution : Execution Object) :
    ∃ outcome, (dispatcher.apply isoMs command readings execution).outcome = .ok outcome := by
  cases dispatcher.apply_cases command readings execution with
  | unnamed unnamed same => exact ⟨_, by rw [same]⟩
  | known id row named found same => exact ⟨_, by rw [same]⟩
  | overflows id named absent unusable same => exact absurd (Option.map_eq_none_iff.mp unusable) usable
  | handled id outcome keepUntil named absent keeps judged same => exact ⟨_, by rw [same]⟩

/-- Only the expiry of a well-typed command changes how a command is judged. -/
theorem screen_stable {first now : Int} (later : first ≤ now)
    (settled : CommandWorker.wellTyped command → ∀ parsed,
      parseExpiresAtMs isoMs command.expiresAt = some (some parsed) → parsed ≤ first) :
    ∃ refusal, screen isoMs command first = some refusal ∧
      screen isoMs command now = some refusal := by
  unfold screen
  cases fields : unexpected command.keys commandKeys with
  | some message => exact ⟨_, rfl, rfl⟩
  | none =>
    dsimp only
    split
    next type text =>
      split
      next => exact ⟨_, rfl, rfl⟩
      next =>
        split
        next => exact ⟨_, rfl, rfl⟩
        next known =>
          have typed : CommandWorker.wellTyped command := ⟨fields, type, not_not.mp known, text⟩
          split
          next => exact ⟨_, rfl, rfl⟩
          next raw =>
            split
            next parsed usable =>
              have expired := settled typed parsed usable
              rw [if_pos expired, if_pos (expired.trans later)]
              exact ⟨_, rfl, rfl⟩
            next => exact ⟨_, rfl, rfl⟩
    next => exact ⟨_, rfl, rfl⟩

theorem keepUntilMs_eq_none {raw : JsonValue Object} {now : Int} :
    keepUntilMs isoMs raw now = none ↔ parseExpiresAtMs isoMs raw = none := by
  unfold keepUntilMs
  exact Option.map_eq_none_iff

end

namespace CommandUnit

variable {unit : CommandUnit Object} {command : DeviceCommand Object} {readings : Readings}
  {execution : Execution Object} {id : String}

theorem deliver_dispatcher : (unit.deliver isoMs command readings execution).dispatcher =
    (unit.dispatcher.apply isoMs command readings execution).dispatcher := by
  unfold deliver
  dsimp only
  split <;> rfl

theorem deliver_clock : (unit.deliver isoMs command readings execution).clock = readings.store := by
  unfold deliver
  dsimp only
  split <;> rfl

theorem deliver_first_isSome {outcome : CommandOutcome Object}
    (named : Dispatcher.commandId command.id = some id)
    (returned : (unit.dispatcher.apply isoMs command readings execution).outcome = .ok outcome) :
    ((unit.deliver isoMs command readings execution).first id).isSome = true := by
  unfold deliver
  dsimp only
  rw [named, returned]
  exact noteFirst_isSome (.inl rfl) _

theorem deliver_first_mono (noted : (unit.first id).isSome = true) :
    ((unit.deliver isoMs command readings execution).first id).isSome = true := by
  unfold deliver
  dsimp only
  split
  next => exact noteFirst_isSome (.inr noted) _
  next => exact noted

end CommandUnit

namespace CommandWorker

variable {commands : String → DeviceCommand Object} {worker : CommandWorker Object}

/-- What an application that raised is reported as. -/
def overflowed : CommandOutcome Object :=
  { status := .rejected, message := "int too large to convert to float" }

/-- The outcome of the first application of a command, checked at an instant. -/
structure Answered (isoMs : String → Option Int) (command : DeviceCommand Object)
    (outcome : CommandOutcome Object)
    (checked : Int) : Prop where
  overflow : parseExpiresAtMs isoMs command.expiresAt = none → outcome = overflowed
  refusal : parseExpiresAtMs isoMs command.expiresAt ≠ none → ∀ refusal,
    screen isoMs command checked = some refusal → outcome = refusal
  short : outcome.sent = outcome

/-- A cached outcome is the first one as long as it is kept. -/
def RowsAgree (worker : CommandWorker Object) (rows : Dict String (Handled Object)) : Prop :=
  ∀ id row, rows.get id = some row → ∃ outcome checked, worker.told id = some (outcome, checked) ∧
    (row.expiresAtMs ≤ worker.unit.clock ∨ row.outcome = outcome)

/-- What is told about the commands that were applied. -/
structure Honest (isoMs : String → Option Int) (commands : String → DeviceCommand Object)
    (worker : CommandWorker Object) : Prop where
  kept : CommandUnit.Kept isoMs (fun id => (commands id).expiresAt) worker.unit
  past : ∀ id outcome checked, worker.told id = some (outcome, checked) →
    checked ≤ worker.unit.clock
  linked : ∀ id, (worker.told id).isSome = true →
    parseExpiresAtMs isoMs (commands id).expiresAt ≠ none →
    (worker.unit.first id).isSome = true
  answered : ∀ id outcome checked, worker.told id = some (outcome, checked) →
    Answered isoMs (commands id) outcome checked
  rows : RowsAgree worker worker.unit.dispatcher.handled
  fileRows : worker.unit.dispatcher.file = none ∨
    ∃ saved, worker.unit.dispatcher.file = some (saveHandled saved) ∧ RowsAgree worker saved
  drives : ∀ id outcome, (id, outcome) ∈ worker.drives →
    ∃ checked, worker.told id = some (outcome, checked)
  refused : ∀ id outcome checked, worker.told id = some (outcome, checked) →
    (id, outcome) ∈ worker.drives ∨ outcome.status = .rejected ∧ outcome.result = none

/-- What was posted or is to be posted was told. -/
structure Reported (worker : CommandWorker Object) : Prop where
  unposted : ∀ id outcome, worker.unposted.get id = some outcome →
    ∃ checked, worker.told id = some (outcome, checked)
  recorded : ∀ id outcome, (id, outcome) ∈ worker.recorded →
    ∃ checked, worker.told id = some (outcome, checked)

section

variable {delivery : Delivery Object} {id : String}

/-- What the worker gets from the dispatcher. -/
abbrev application (isoMs : String → Option Int) (worker : CommandWorker Object)
    (delivery : Delivery Object) :
    Application Object :=
  worker.unit.dispatcher.apply isoMs delivery.command delivery.readings delivery.execution

/-- A command that was told before is reported the same again. -/
theorem Honest.reports_again (honest : Honest isoMs commands worker)
    (follows : delivery.readings.follow worker.unit.clock) (named : Dispatcher.commandId delivery.command.id = some id)
    (fixed : delivery.command = commands id) (timely : timely isoMs worker delivery)
    {outcome : CommandOutcome Object} {checked : Int}
      (told : worker.told id = some (outcome, checked)) :
    (application isoMs worker delivery).report = outcome ∧
      (application isoMs worker delivery).executed = false := by
  obtain ⟨forward, keeping, checking, storing⟩ := follows
  have past := honest.past id outcome checked told
  have answered := honest.answered id outcome checked told
  unfold application
  cases worker.unit.dispatcher.apply_cases delivery.command delivery.readings delivery.execution with
  | unnamed unnamed same =>
    rw [unnamed] at named
    cases named
  | known other row same found applied =>
    rw [named] at same
    cases same
    obtain ⟨cached, early⟩ := Dispatcher.get_evictExpired.mp found
    rw [applied]
    refine ⟨?_, rfl⟩
    obtain ⟨first, since, noted, agrees⟩ := honest.rows id row cached
    rw [told] at noted
    cases noted
    cases agrees with
    | inl expired => omega
    | inr agrees => exact agrees
  | overflows other same absent unusable applied =>
    rw [named] at same
    cases same
    rw [applied]
    exact ⟨(answered.overflow (fixed ▸ keepUntilMs_eq_none.mp unusable)).symm, rfl⟩
  | handled other result keepUntil same absent keeps judged applied =>
    rw [named] at same
    cases same
    have usable : parseExpiresAtMs isoMs (commands id).expiresAt ≠ none := by
      intro none
      rw [fixed, keepUntilMs_eq_none.mpr none] at keeps
      cases keeps
    have settled : wellTyped (commands id) → ∀ parsed,
        parseExpiresAtMs isoMs (commands id).expiresAt = some (some parsed) → parsed ≤ checked := by
      intro typed parsed parses
      by_contra early
      have before :=
        timely id named _ told (fixed ▸ typed) _ (fixed ▸ parses) parsed rfl (not_le.mp early)
      obtain ⟨first, present⟩ :=
        Option.isSome_iff_exists.mp (honest.linked id (by rw [told]; rfl) usable)
      have keptUntil := honest.kept.expires id first.1 first.2 present parsed parses
      rw [honest.kept.found present forward (keptUntil ▸ before)] at absent
      cases absent
    obtain ⟨refusal, first, now⟩ :=
      screen_stable (past.trans (forward.trans (keeping.trans checking))) settled
    rw [fixed] at judged
    rw [applied]
    rw [now, Option.getD_some] at judged
    rw [fixed, now]
    exact ⟨judged.trans (answered.refusal usable refusal first).symm, rfl⟩

/-- A command that is looked at for the first time. -/
theorem Honest.reports_first (honest : Honest isoMs commands worker)
    (named : Dispatcher.commandId delivery.command.id = some id) (fixed : delivery.command = commands id)
    (fresh : worker.told id = none) :
    Answered isoMs (commands id) (application isoMs worker delivery).report delivery.readings.check ∧
      ((application isoMs worker delivery).executed = true ∨
        (application isoMs worker delivery).report.status = .rejected ∧
        (application isoMs worker delivery).report.result = none) := by
  unfold application
  cases worker.unit.dispatcher.apply_cases delivery.command delivery.readings delivery.execution with
  | unnamed unnamed same =>
    rw [unnamed] at named
    cases named
  | known other row same found applied =>
    rw [named] at same
    cases same
    obtain ⟨first, since, noted, _⟩ := honest.rows id row (Dispatcher.get_evictExpired.mp found).1
    rw [fresh] at noted
    cases noted
  | overflows other same absent unusable applied =>
    rw [named] at same
    cases same
    rw [applied]
    have parses := keepUntilMs_eq_none.mp unusable
    refine ⟨⟨fun _ => rfl, fun usable => absurd (fixed ▸ parses) usable, ?_⟩, .inr ⟨rfl, rfl⟩⟩
    unfold CommandOutcome.sent Application.report
    dsimp only
    congr 1
  | handled other result keepUntil same absent keeps judged applied =>
    rw [named] at same
    cases same
    rw [applied]
    rw [fixed] at judged keeps
    have usable : parseExpiresAtMs isoMs (commands id).expiresAt ≠ none := by
      intro none
      rw [keepUntilMs_eq_none.mpr none] at keeps
      cases keeps
    rw [fixed]
    cases screened : screen isoMs (commands id) delivery.readings.check with
    | some refusal =>
      rw [screened, Option.getD_some] at judged
      obtain ⟨message, refused⟩ := screen_rejected screened
      refine ⟨⟨fun none => absurd none usable, fun _ other same => ?_, ?_⟩, .inr ⟨?_, ?_⟩⟩
      · exact judged.trans (Option.some.inj (screened.symm.trans same))
      · unfold Application.report
        dsimp only
        rw [judged, refused, sent_rejected]
      · unfold Application.report
        dsimp only
        rw [judged, refused]
        rfl
      · unfold Application.report
        dsimp only
        rw [judged, refused]
        rfl
    | none =>
      rw [screened, Option.getD_none] at judged
      refine ⟨⟨fun none => absurd none usable, fun _ other same => ?_, ?_⟩, .inl rfl⟩
      · rw [screened] at same
        cases same
      · unfold Application.report
        dsimp only
        rw [judged, sent_outcome]

theorem told_applyCommand (delivery : Delivery Object) {told : CommandOutcome Object × Int}
    (before : worker.told id = some told) :
    (worker.applyCommand isoMs delivery).told id = some told := by
  unfold applyCommand
  dsimp only
  split
  next => exact before
  next other named =>
    dsimp only
    by_cases same : id = other
    · rw [← same, Function.update_self, before]
      rfl
    · rw [Function.update_of_ne same]
      exact before

theorem told_applyCommand_named (named : Dispatcher.commandId delivery.command.id = some id) :
    (worker.applyCommand isoMs delivery).told id =
      some ((worker.told id).getD ((application isoMs worker delivery).report, delivery.readings.check)) := by
  unfold applyCommand
  rw [named]
  exact Function.update_self ..

theorem told_applyCommand_of_ne (other : Dispatcher.commandId delivery.command.id ≠ some id) :
    (worker.applyCommand isoMs delivery).told id = worker.told id := by
  unfold applyCommand
  dsimp only
  split
  next => rfl
  next name named => exact Function.update_of_ne (fun same => other (named.trans (congrArg some same.symm))) ..

/-- What is told after a command was told before, or is its report. -/
theorem told_applyCommand_cases {told : CommandOutcome Object × Int}
    (present : (worker.applyCommand isoMs delivery).told id = some told) :
    worker.told id = some told ∨ Dispatcher.commandId delivery.command.id = some id ∧
      worker.told id = none ∧
      told = ((application isoMs worker delivery).report, delivery.readings.check) := by
  by_cases named : Dispatcher.commandId delivery.command.id = some id
  · rw [told_applyCommand_named named] at present
    cases before : worker.told id with
    | none =>
      rw [before] at present
      exact .inr ⟨named, rfl, (Option.some.inj present).symm⟩
    | some earlier =>
      rw [before] at present
      exact .inl present
  · rw [told_applyCommand_of_ne named] at present
    exact .inl present

theorem drives_applyCommand {drive : String × CommandOutcome Object}
    (before : drive ∈ worker.drives) :
    drive ∈ (worker.applyCommand isoMs delivery).drives := by
  unfold applyCommand
  dsimp only
  split
  next => exact before
  next =>
    dsimp only
    split
    next => exact List.mem_cons_of_mem _ before
    next => exact before

theorem drives_applyCommand_executed (named : Dispatcher.commandId delivery.command.id = some id)
    (executed : (application isoMs worker delivery).executed = true) :
    (id, (application isoMs worker delivery).report) ∈ (worker.applyCommand isoMs delivery).drives := by
  unfold applyCommand
  rw [named]
  dsimp only
  rw [if_pos executed]
  exact List.mem_cons_self

theorem drives_applyCommand_cases {outcome : CommandOutcome Object}
    (driven : (id, outcome) ∈ (worker.applyCommand isoMs delivery).drives) :
    (id, outcome) ∈ worker.drives ∨ Dispatcher.commandId delivery.command.id = some id ∧
      outcome = (application isoMs worker delivery).report := by
  unfold applyCommand at driven
  dsimp only at driven
  split at driven
  next => exact .inl driven
  next other named =>
    dsimp only at driven
    split at driven
    next =>
      cases List.mem_cons.mp driven with
      | inl here =>
        cases here
        exact .inr ⟨named, rfl⟩
      | inr earlier => exact .inl earlier
    next => exact .inl driven

theorem unit_applyCommand (delivery : Delivery Object) : (worker.applyCommand isoMs delivery).unit =
    worker.unit.deliver isoMs delivery.command delivery.readings delivery.execution := by
  unfold applyCommand
  dsimp only
  split <;> rfl

theorem clock_applyCommand (delivery : Delivery Object) :
    (worker.applyCommand isoMs delivery).unit.clock = delivery.readings.store := by
  rw [unit_applyCommand, CommandUnit.deliver_clock]

theorem RowsAgree.later {after : CommandWorker Object} {rows : Dict String (Handled Object)}
    (agree : RowsAgree worker rows) (forward : worker.unit.clock ≤ after.unit.clock)
    (told : ∀ id told, worker.told id = some told → after.told id = some told) :
    RowsAgree after rows := by
  intro id row found
  obtain ⟨outcome, checked, before, same⟩ := agree id row found
  exact ⟨outcome, checked, told id _ before, same.imp_left fun expired => expired.trans forward⟩

/-- What a delivered command is reported as is what is told about it. -/
theorem Honest.told_report (honest : Honest isoMs commands worker)
    (follows : delivery.readings.follow worker.unit.clock) (named : Dispatcher.commandId delivery.command.id = some id)
    (fixed : delivery.command = commands id) (timely : timely isoMs worker delivery) :
    ∃ checked, (worker.applyCommand isoMs delivery).told id =
      some ((application isoMs worker delivery).report, checked) := by
  cases before : worker.told id with
  | none =>
    rw [told_applyCommand_named named, before]
    exact ⟨_, rfl⟩
  | some told =>
    rw [told_applyCommand_named named, before, (honest.reports_again follows named fixed timely before).1]
    exact ⟨told.2, rfl⟩

theorem Honest.rows_applyCommand (honest : Honest isoMs commands worker)
    (follows : delivery.readings.follow worker.unit.clock)
    (fixed : ∀ id ∈ Dispatcher.commandId delivery.command.id, delivery.command = commands id)
    (timely : timely isoMs worker delivery) :
    RowsAgree (worker.applyCommand isoMs delivery)
    (application isoMs worker delivery).dispatcher.handled := by
  intro other row found
  cases worker.unit.dispatcher.apply_rows found with
  | inl before =>
    have forward : worker.unit.clock ≤ (worker.applyCommand isoMs delivery).unit.clock := by
      rw [clock_applyCommand]
      exact follows.1.trans (follows.2.1.trans (follows.2.2.1.trans follows.2.2.2))
    exact honest.rows.later forward (fun _ _ => told_applyCommand delivery) other row before
  | inr now =>
    obtain ⟨named, report⟩ := now
    obtain ⟨checked, told⟩ := honest.told_report follows named (fixed other named) timely
    exact ⟨_, checked, told, .inr report.symm⟩

/-- Applying a command keeps what is told. -/
theorem Honest.applyCommand (honest : Honest isoMs commands worker)
    (follows : delivery.readings.follow worker.unit.clock)
    (fixed : ∀ id ∈ Dispatcher.commandId delivery.command.id, delivery.command = commands id)
    (timely : timely isoMs worker delivery) :
    Honest isoMs commands (worker.applyCommand isoMs delivery) := by
  have forward : worker.unit.clock ≤ (worker.applyCommand isoMs delivery).unit.clock := by
    rw [clock_applyCommand]
    exact follows.1.trans (follows.2.1.trans (follows.2.2.1.trans follows.2.2.2))
  have rows := honest.rows_applyCommand follows fixed timely
  have dispatcher : (worker.applyCommand isoMs delivery).unit.dispatcher =
      (application isoMs worker delivery).dispatcher := by
    rw [unit_applyCommand, CommandUnit.deliver_dispatcher]
  refine ⟨?_, ?_, ?_, ?_, dispatcher ▸ rows, ?_, ?_, ?_⟩
  · rw [unit_applyCommand]
    exact honest.kept.deliver follows (fun id named => by rw [fixed id named]) delivery.execution
  · intro id outcome checked told
    cases told_applyCommand_cases told with
    | inl before => exact (honest.past id outcome checked before).trans forward
    | inr now =>
      cases now.2.2
      rw [clock_applyCommand]
      exact follows.2.2.2
  · intro id told usable
    rw [unit_applyCommand]
    obtain ⟨told, present⟩ := Option.isSome_iff_exists.mp told
    cases told_applyCommand_cases present with
    | inl before =>
      exact CommandUnit.deliver_first_mono
        (honest.linked id (Option.isSome_iff_exists.mpr ⟨told, before⟩) usable)
    | inr now =>
      obtain ⟨outcome, returned⟩ :=
        worker.unit.dispatcher.apply_returns (fixed id now.1 ▸ usable) delivery.readings
        delivery.execution
      exact CommandUnit.deliver_first_isSome now.1 returned
  · intro id outcome checked told
    cases told_applyCommand_cases told with
    | inl before => exact honest.answered id outcome checked before
    | inr now =>
      obtain ⟨named, fresh, same⟩ := now
      cases same
      exact (honest.reports_first named (fixed id named) fresh).1
  · rw [dispatcher]
    cases worker.unit.dispatcher.apply_file isoMs delivery.command delivery.readings delivery.execution with
    | inl same =>
      rw [same]
      refine honest.fileRows.imp_right fun written => ?_
      obtain ⟨saved, file, agree⟩ := written
      exact ⟨saved, file, agree.later forward fun _ _ => told_applyCommand delivery⟩
    | inr written => exact .inr ⟨_, written, rows⟩
  · intro id outcome driven
    cases drives_applyCommand_cases driven with
    | inl before =>
      obtain ⟨checked, told⟩ := honest.drives id outcome before
      exact ⟨checked, told_applyCommand delivery told⟩
    | inr now =>
      obtain ⟨named, rfl⟩ := now
      exact honest.told_report follows named (fixed id named) timely
  · intro id outcome checked told
    cases told_applyCommand_cases told with
    | inl before => exact (honest.refused id outcome checked before).imp_left drives_applyCommand
    | inr now =>
      obtain ⟨named, fresh, same⟩ := now
      cases same
      exact (honest.reports_first named (fixed id named) fresh).2.imp_left
        (drives_applyCommand_executed named)

end

section

variable {outcome : CommandOutcome Object} {answer : PostAnswer} {id : String}

theorem unit_deliverDeviceResult :
    (worker.deliverDeviceResult id outcome answer).1.unit = worker.unit := by
  unfold deliverDeviceResult record
  dsimp only
  grind

theorem told_deliverDeviceResult :
    (worker.deliverDeviceResult id outcome answer).1.told = worker.told := by
  unfold deliverDeviceResult record
  dsimp only
  grind

theorem drives_deliverDeviceResult :
    (worker.deliverDeviceResult id outcome answer).1.drives = worker.drives := by
  unfold deliverDeviceResult record
  dsimp only
  grind

theorem recorded_deliverDeviceResult {entry : String × CommandOutcome Object}
    (recorded : entry ∈ (worker.deliverDeviceResult id outcome answer).1.recorded) :
    entry = (id, outcome.sent) ∨ entry ∈ worker.recorded := by
  unfold deliverDeviceResult record at recorded
  dsimp only at recorded
  grind

theorem makeRoom_get {unposted : Dict String (CommandOutcome Object)} {other : String}
    {kept : CommandOutcome Object}
    (found : (makeRoom unposted).get other = some kept) : unposted.get other = some kept :=
  Dict.get_drop found

/-- A result that is still to be posted was so before, or was not accepted now. -/
theorem unposted_deliverDeviceResult {other : String} {kept : CommandOutcome Object}
    (found : (worker.deliverDeviceResult id outcome answer).1.unposted.get other = some kept) :
    worker.unposted.get other = some kept ∨ other = id ∧ kept = outcome.sent := by
  have same : (worker.record id outcome answer).unposted = worker.unposted := by
    unfold record
    split <;> rfl
  unfold deliverDeviceResult at found
  dsimp only at found
  split at found
  next => exact .inl (same ▸ found)
  next code _ =>
    split at found
    next =>
      dsimp only at found
      rw [Dict.get_set] at found
      split at found
      next here => exact .inr ⟨here, (Option.some.inj found).symm⟩
      next =>
        rw [same] at found
        split at found
        next => exact .inl found
        next => exact .inl (makeRoom_get found)
    next =>
      dsimp only at found
      exact .inl (same ▸ (Dict.get_filter_eq_some_iff.mp found).1)

theorem Honest.same {after : CommandWorker Object} (honest : Honest isoMs commands worker)
    (unit : after.unit = worker.unit) (told : after.told = worker.told)
    (drives : after.drives = worker.drives) :
    Honest isoMs commands after := by
  obtain ⟨_, _, _, _, _⟩ := worker
  obtain ⟨_, _, _, _, _⟩ := after
  cases unit
  cases told
  cases drives
  exact ⟨honest.kept, honest.past, honest.linked, honest.answered, honest.rows, honest.fileRows, honest.drives,
    honest.refused⟩

theorem Reported.same {after : CommandWorker Object} (reported : Reported worker)
    (unposted : after.unposted = worker.unposted) (recorded : after.recorded = worker.recorded)
    (told : ∀ id told, worker.told id = some told → after.told id = some told) :
    Reported after := by
  refine ⟨fun id outcome found => ?_, fun id outcome posted => ?_⟩
  · obtain ⟨checked, before⟩ := reported.unposted id outcome (unposted ▸ found)
    exact ⟨checked, told id _ before⟩
  · obtain ⟨checked, before⟩ := reported.recorded id outcome (recorded ▸ posted)
    exact ⟨checked, told id _ before⟩

/-- Delivering a result that was told. -/
theorem Reported.deliverDeviceResult (honest : Honest isoMs commands worker)
    (reported : Reported worker)
    {checked : Int} (told : worker.told id = some (outcome, checked)) (answer : PostAnswer) :
    Honest isoMs commands (worker.deliverDeviceResult id outcome answer).1 ∧
      Reported (worker.deliverDeviceResult id outcome answer).1 := by
  have short := (honest.answered id outcome checked told).short
  refine ⟨honest.same unit_deliverDeviceResult told_deliverDeviceResult drives_deliverDeviceResult, ?_, ?_⟩
  · intro other kept found
    rw [told_deliverDeviceResult]
    cases unposted_deliverDeviceResult found with
    | inl before => exact reported.unposted other kept before
    | inr now =>
      obtain ⟨rfl, rfl⟩ := now
      exact ⟨checked, short.symm ▸ told⟩
  · intro other posted recorded
    rw [told_deliverDeviceResult]
    cases recorded_deliverDeviceResult recorded with
    | inl now =>
      cases now
      exact ⟨checked, short.symm ▸ told⟩
    | inr before => exact reported.recorded other posted before

end

/-- Results that were told are posted again. -/
theorem Reported.retryUnposted (answers : String → PostAnswer)
    {results : List (String × CommandOutcome Object)}
    (honest : Honest isoMs commands worker) (reported : Reported worker)
    (told : ∀ id outcome, (id, outcome) ∈ results → ∃ checked, worker.told id = some (outcome, checked)) :
    Honest isoMs commands (retryUnposted answers results worker).1 ∧
      Reported (retryUnposted answers results worker).1 ∧
      (retryUnposted answers results worker).1.unit = worker.unit := by
  induction results generalizing worker with
  | nil => exact ⟨honest, reported, rfl⟩
  | cons result rest ih =>
    obtain ⟨id, outcome⟩ := result
    obtain ⟨checked, first⟩ := told id outcome List.mem_cons_self
    obtain ⟨honest, reported⟩ := reported.deliverDeviceResult honest first (answers id)
    unfold CommandWorker.retryUnposted
    dsimp only
    split
    next =>
      have later := ih honest reported fun other outcome member => by
        rw [told_deliverDeviceResult]
        exact told other outcome (List.mem_cons_of_mem _ member)
      exact ⟨later.1, later.2.1, later.2.2.trans unit_deliverDeviceResult⟩
    next => exact ⟨honest, reported, unit_deliverDeviceResult⟩

theorem Reported.handle {delivery : Delivery Object} (honest : Honest isoMs commands worker)
    (reported : Reported worker) (follows : delivery.readings.follow worker.unit.clock)
    (fixed : ∀ id ∈ Dispatcher.commandId delivery.command.id, delivery.command = commands id)
    (timely : timely isoMs worker delivery) :
    Honest isoMs commands (worker.handle isoMs delivery).1 ∧
      Reported (worker.handle isoMs delivery).1 ∧
      (worker.handle isoMs delivery).1.unit.clock = delivery.readings.store := by
  have applied := honest.applyCommand follows fixed timely
  have unposted : (worker.applyCommand isoMs delivery).unposted = worker.unposted := by
    unfold CommandWorker.applyCommand
    dsimp only
    split <;> rfl
  have recorded : (worker.applyCommand isoMs delivery).recorded = worker.recorded := by
    unfold CommandWorker.applyCommand
    dsimp only
    split <;> rfl
  have still := reported.same unposted recorded fun _ _ => told_applyCommand delivery
  unfold CommandWorker.handle
  dsimp only
  split
  next => exact ⟨applied, still, clock_applyCommand delivery⟩
  next id named =>
    obtain ⟨checked, told⟩ := honest.told_report follows named (fixed id named) timely
    obtain ⟨honest, reported⟩ := still.deliverDeviceResult applied told delivery.answer
    exact ⟨honest, reported, by rw [unit_deliverDeviceResult, clock_applyCommand]⟩

/-- The commands of the pending list one after another. -/
theorem Reported.handleAll {pending : List (Delivery Object)}
    (honest : Honest isoMs commands worker)
    (reported : Reported worker) (follow : readingsFollow worker.unit.clock (pending.map Delivery.readings) = true)
    (fixed : ∀ delivery ∈ pending, ∀ id ∈ Dispatcher.commandId delivery.command.id, delivery.command = commands id)
    (timely : allTimely isoMs pending worker) :
    Honest isoMs commands (handleAll isoMs pending worker) ∧
      Reported (handleAll isoMs pending worker) := by
  induction pending generalizing worker with
  | nil => exact ⟨honest, reported⟩
  | cons delivery rest ih =>
    rw [List.map_cons] at follow
    unfold readingsFollow at follow
    rw [Bool.and_eq_true, decide_eq_true_eq] at follow
    obtain ⟨honest, reported, clock⟩ :=
      reported.handle honest follow.1 (fixed delivery List.mem_cons_self) timely.1
    unfold CommandWorker.handleAll
    dsimp only
    split
    next returned =>
      exact ih honest reported (clock ▸ follow.2)
        (fun other member => fixed other (List.mem_cons_of_mem _ member))
        (timely.2 returned)
    next => exact ⟨honest, reported⟩

theorem Honest.restart {unit : CommandUnit Object} {now : Int}
    (honest : Honest isoMs commands worker)
    (stepped : worker.unit.step isoMs (.restart now) = some unit) :
    Honest isoMs commands { worker with unit := unit, unposted := Dict.empty } := by
  have kept := honest.kept.restart stepped
  unfold CommandUnit.step at stepped
  dsimp only at stepped
  split at stepped
  next forward =>
    obtain ⟨dispatcher, opened, rfl⟩ := Option.map_eq_some_iff.mp stepped
    obtain ⟨loaded, read, rfl⟩ := Option.map_eq_some_iff.mp opened
    refine ⟨kept, ?_, honest.linked, honest.answered, ?_, ?_, honest.drives, honest.refused⟩
    · intro id outcome checked told
      exact (honest.past id outcome checked told).trans forward
    · cases honest.fileRows with
      | inl none =>
        rw [none] at read
        cases Option.some.inj read
        exact fun id row found => by cases found
      | inr written =>
        obtain ⟨saved, file, agree⟩ := written
        rw [file] at read
        rw [Dispatcher.load_saved read]
        exact agree.later forward fun _ _ told => told
    · refine honest.fileRows.imp_right fun written => ?_
      obtain ⟨saved, file, agree⟩ := written
      exact ⟨saved, file, agree.later forward fun _ _ told => told⟩
  next => cases stepped

theorem Reported.step {after : CommandWorker Object} {event : WorkerEvent Object}
    (honest : Honest isoMs commands worker) (reported : Reported worker)
    (permitted : fixedTimely isoMs commands worker event)
    (stepped : worker.step isoMs event = some after) :
    Honest isoMs commands after ∧ Reported after := by
  cases event with
  | step answers pending =>
    unfold CommandWorker.step at stepped
    dsimp only at stepped
    split at stepped
    next follow =>
      cases stepped
      obtain ⟨fixed, timely⟩ := permitted
      obtain ⟨honest, reported, unit⟩ := reported.retryUnposted answers honest
        fun id outcome member => reported.unposted id outcome (Dict.get_eq_some_iff.mpr member)
      unfold applyPending
      dsimp only
      split
      next returned => exact reported.handleAll honest (unit ▸ follow) fixed (timely returned)
      next => exact ⟨honest, reported⟩
    next => cases stepped
  | restart now =>
    obtain ⟨unit, restarted, rfl⟩ := Option.map_eq_some_iff.mp stepped
    refine ⟨honest.restart restarted, ⟨fun id outcome found => ?_, reported.recorded⟩⟩
    cases found

theorem honest_of_reaches {clock : Int}
    (run : Events.Reaches (step isoMs) (fixedTimely isoMs commands)
      ({ unit := { clock := clock } } : CommandWorker Object) worker) :
    Honest isoMs commands worker ∧ Reported worker := by
  apply run.invariant
  · have kept : CommandUnit.Kept isoMs (fun id => (commands id).expiresAt) { clock := clock } :=
      CommandUnit.kept_of_reaches .start
    refine ⟨⟨kept, ?_, ?_, ?_, ?_, .inl rfl, ?_, ?_⟩, ?_, ?_⟩
    · intro id outcome checked told
      cases told
    · intro id told
      cases told
    · intro id outcome checked told
      cases told
    · intro id row found
      cases found
    · intro id outcome driven
      cases driven
    · intro id outcome checked told
      cases told
    · intro id outcome found
      cases found
    · intro id outcome recorded
      cases recorded
  · intro before event after _ permitted stepped holds
    exact holds.2.step holds.1 permitted stepped

/-- In every run in which no well-typed command that was first checked before its expiry is
handed out again at its expiry or later, the cloud records the truth. -/
theorem reports_truth {clock : Int}
    (run : Events.Reaches (step isoMs) (fixedTimely isoMs commands)
      ({ unit := { clock := clock } } : CommandWorker Object) worker) : Truthful worker := by
  obtain ⟨honest, reported⟩ := honest_of_reaches run
  intro id outcome recorded
  obtain ⟨checked, told⟩ := reported.recorded id outcome recorded
  have only {other : CommandOutcome Object}
      (again : ∃ checked, worker.told id = some (other, checked)) :
      outcome = other := by
    obtain ⟨_, again⟩ := again
    rw [told] at again
    cases again
    rfl
  refine ⟨⟨checked, told⟩, fun drive driven => only (honest.drives id drive driven), fun still => ?_, fun other again =>
    only (reported.recorded id other again)⟩
  exact (honest.refused id outcome checked told).resolve_left (still outcome)

section

variable {commands : String → DeviceCommand Unit} {worker : CommandWorker Unit}

instance (command : DeviceCommand Unit) : Decidable (wellTyped command) :=
  inferInstanceAs (Decidable (_ ∧ _))

instance (delivery : Delivery Unit) : Decidable (timely isoMs worker delivery) := by
  unfold timely
  infer_instance

instance decidableAllTimely : (pending : List (Delivery Unit)) → (worker : CommandWorker Unit) →
    Decidable (allTimely isoMs pending worker)
  | [], _ => .isTrue trivial
  | delivery :: rest, worker =>
    have := decidableAllTimely rest (worker.handle isoMs delivery).1
    inferInstanceAs (Decidable (timely isoMs worker delivery ∧ (_ = true → _)))

instance (event : WorkerEvent Unit) : Decidable (fixedCommands commands worker event) := by
  cases event <;> unfold fixedCommands <;> infer_instance

instance (event : WorkerEvent Unit) : Decidable (fixedTimely isoMs commands worker event) := by
  cases event <;> unfold fixedTimely <;> infer_instance

end

/-- A command to add a sensor is handed out at an instant, and succeeds if it is executed. -/
def sensorDelivery (now : Int) (answer : PostAnswer) : Delivery Unit where
  command := CommandUnit.addSensor
  readings := ⟨now, now, now, now⟩
  execution := .applied "RS485 sensor added" (some ())
  answer := answer

/-- Its result cannot be posted at first; it is handed out again just before its expiry. -/
theorem reports_truth_again :
    ∃ worker : CommandWorker Unit, worker.recorded = [("c1", ⟨.applied, some (), "RS485 sensor added"⟩)] ∧
      Truthful worker := by
  have played : ((Events.play (step fun _ => none) (fixedTimely (fun _ => none) fun _ => CommandUnit.addSensor)
      ({ unit := { clock := 0 } } : CommandWorker Unit)
      [.step (fun _ => ⟨some 0, false⟩) [sensorDelivery 10 ⟨some 0, false⟩],
        .step (fun _ => ⟨some 503, false⟩) [sensorDelivery 999 ⟨some 200, true⟩]]).map CommandWorker.recorded) =
      some [("c1", ⟨.applied, some (), "RS485 sensor added"⟩)] := by
    decide +kernel
  obtain ⟨worker, run, recorded⟩ := Option.map_eq_some_iff.mp played
  exact ⟨worker, recorded, reports_truth (Events.reaches_play run)⟩

/-- The sensor was added, but the cloud is told at the expiry that the command was refused. -/
theorem expired_after_applied :
    ¬ ∀ (commands : String → DeviceCommand Unit) (worker : CommandWorker Unit) (clock : Int),
      Events.Reaches (step fun _ => none) (fixedCommands commands)
        ({ unit := { clock := clock } } : CommandWorker Unit) worker → Truthful worker := by
  intro truthful
  have played : ((Events.play (step fun _ => none) (fixedCommands fun _ => CommandUnit.addSensor)
      ({ unit := { clock := 0 } } : CommandWorker Unit)
      [.step (fun _ => ⟨some 0, false⟩) [sensorDelivery 10 ⟨some 0, false⟩],
        .step (fun _ => ⟨some 503, false⟩) [sensorDelivery 1000 ⟨some 200, true⟩]]).map fun worker =>
          (worker.drives, worker.recorded)) =
      some ([("c1", ⟨.applied, some (), "RS485 sensor added"⟩)], [("c1", ⟨.rejected, none, "expired"⟩)]) := by
    decide +kernel
  obtain ⟨worker, run, seen⟩ := Option.map_eq_some_iff.mp played
  rw [Prod.mk.injEq] at seen
  obtain ⟨drives, recorded⟩ := seen
  have both := truthful _ worker 0 (Events.reaches_play run) "c1" ⟨.rejected, none, "expired"⟩
    (recorded ▸ List.mem_cons_self)
  have same := both.2.1 ⟨.applied, some (), "RS485 sensor added"⟩ (drives ▸ List.mem_cons_self)
  cases same

end CommandWorker

end Wqm1.Cloud
