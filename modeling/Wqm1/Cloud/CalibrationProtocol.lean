import Wqm1.Cloud.DeviceHandlers

/-! The calibration of the analog pH probe over any sequence of `ph_calibrate` commands: what
the voltages that reach the hardware are made of. -/

set_option autoImplicit false

namespace Wqm1.Cloud

open Wqm1.Library Wqm1.Sensing Rs485

/-- A command, and how the hardware would answer while it is handled. -/
structure PhCommand where
  payload : Payload
  hardware : Hardware

structure PhRecord where
  command : PhCommand
  execution : Execution Payload
  calls : List HardwareCall

def history (calibration : PhCalibration) : List PhCommand → List PhRecord
  | [] => []
  | command :: rest =>
    let handling := calibration.phCalibrate command.hardware command.payload
    ⟨command, handling.execution, handling.calls⟩ :: history handling.calibration rest

namespace PhRecord

variable (record : PhRecord)

def Asks (step probe : String) : Prop :=
  record.command.payload.get "step" = some (.text step) ∧
    record.command.payload.get "probe" = some (.text probe)

def Succeeded : Prop := ∃ message result, record.execution = .applied message result

def AnalogStart : Prop := record.Asks "start" "analog" ∧ record.Succeeded

def AnalogFinished : Prop := record.Asks "finish" "analog" ∧ record.Succeeded

end PhRecord

/-- The number that a value is as a float. -/
inductive ReadsAs : Yaml → Rat → Prop where
  | int {number : Int} {value : Rat} (converted : Double.ofInt number = some (.finite value)) :
      ReadsAs (.int number) value
  | float (value : Rat) : ReadsAs (.float (.finite value)) value

/-- A burst of finite samples that stay within the spread, with its median. -/
def StableBurst (answers : Nat → Except String Double) (volts : Rat) : Prop :=
  ∃ samples : List Rat, samples.length = analogPointReads ∧
    (∀ read sample, samples[read]? = some sample → answers read = .ok (.finite sample)) ∧
    (∀ high ∈ samples, ∀ low ∈ samples, high - low ≤ analogPointMaxSpreadV) ∧ volts = median samples

/-- A point that was accepted for a buffer. -/
structure AcceptedPoint (record : PhRecord) (buffer volts : Rat) : Prop where
  asks : record.Asks "point" "analog"
  succeeded : record.Succeeded
  names : ∃ given value, record.command.payload.get "buffer" = some given ∧ ReadsAs given value ∧
    roundTo 2 value = buffer
  burst : StableBurst record.command.hardware.volts volts

/-- The records since the latest start of an analog calibration that is not finished. -/
def Session (records since : List PhRecord) : Prop :=
  ∃ earlier start, records = earlier ++ start :: since ∧ start.AnalogStart ∧
    ∀ record ∈ since, ¬record.AnalogStart ∧ ¬record.AnalogFinished

def LatestPoint (since : List PhRecord) (buffer volts : Rat) : Prop :=
  ∃ earlier point later, since = earlier ++ point :: later ∧ AcceptedPoint point buffer volts ∧
    ∀ record ∈ later, ∀ other, ¬AcceptedPoint record buffer other

/-- A call of `apply_analog_ph` in its place: by a finish of a started calibration, with the
latest points since its start, and after no other call than those that raised. -/
structure CallInPlace (before : List PhRecord) (record : PhRecord) (v4 v7 : Rat) : Prop where
  asks : record.Asks "finish" "analog"
  single : record.calls = [.applyAnalogPh v4 v7]
  closes : ∀ numbers, record.command.hardware.applied = .ok numbers → record.Succeeded
  session : ∃ since, Session before since ∧ LatestPoint since 4 v4 ∧ LatestPoint since 7 v7 ∧
    ∀ other ∈ since, ∀ low high, .applyAnalogPh low high ∈ other.calls →
      ∃ text, other.command.hardware.applied = .error text

def HardwareCall.coefficients : HardwareCall → Option (Rat × Rat)
  | .applyAnalogPh v4 v7 => some (v4, v7)
  | _ => none

def applyCalls (records : List PhRecord) : List (Rat × Rat) :=
  records.flatMap fun record => record.calls.filterMap HardwareCall.coefficients

def PhCommand.forRs485 (command : PhCommand) : Bool :=
  match command.payload.get "probe" with
  | some (.text "rs485_multi") => true
  | _ => false

def PhProbe.name : PhProbe → String
  | analog => "analog"
  | rs485Multi => "rs485_multi"

/-- What a payload with a request holds. -/
inductive Requests (payload : Payload) : PhRequest → Prop where
  | start (probe : PhProbe) (step : payload.get "step" = some (.text "start"))
      (named : payload.get "probe" = some (.text probe.name)) : Requests payload (.start probe)
  | point (probe : PhProbe) (buffer : Rat) (label : String) (step : payload.get "step" = some (.text "point"))
      (named : payload.get "probe" = some (.text probe.name))
      (buffered : bufferLabel probe (payload.get "buffer") = .ok (buffer, label)) :
      Requests payload (.point probe buffer label)
  | finish (probe : PhProbe) (step : payload.get "step" = some (.text "finish"))
      (named : payload.get "probe" = some (.text probe.name)) : Requests payload (.finish probe)

theorem bind_eq_ok {α β : Type} {first : Checked α} {next : α → Checked β} {result : β} :
    first.bind next = .ok result ↔ ∃ value, first = .ok value ∧ next value = .ok result := by
  cases first with
  | error refusal => simp [Except.bind]
  | ok value => simp [Except.bind]

theorem map_eq_ok {α β : Type} {first : Checked α} {next : α → β} {result : β} :
    first.map next = .ok result ↔ ∃ value, first = .ok value ∧ next value = result := by
  cases first with
  | error refusal => simp [Except.map]
  | ok value => simp [Except.map]

theorem oneOf_eq_ok {allowed : List String} {message word : String} {value : Option Yaml}
    (found : oneOf allowed message value = .ok word) :
    value = some (.text word) ∧ word ∈ allowed := by
  unfold oneOf at found
  split at found
  next given =>
    split at found
    next listed =>
      cases found
      exact ⟨rfl, listed⟩
    next => cases found
  next => cases found
  next => cases found
  next => cases found

theorem probe_name {field : Option Yaml} {named : String}
    (found : oneOf phProbes "unknown probe" field = .ok named) :
    field = some (.text (if named = "analog" then PhProbe.analog else .rs485Multi).name) := by
  obtain ⟨same, listed⟩ := oneOf_eq_ok found
  rw [same]
  split
  next analog => rw [analog]; rfl
  next other =>
    have last : named = "rs485_multi" := by simpa [phProbes, other] using listed
    rw [last]
    rfl

/-- A request comes of known fields only, and without a buffer unless it is a point. -/
theorem phRequest_cases {payload : Payload} {request : PhRequest}
    (asked : phRequest payload = .ok request) :
    unexpected payload.keys phKeys = none ∧ Requests payload request ∧
      ∀ probe, request = .start probe ∨ request = .finish probe → payload.get "buffer" = none := by
  unfold phRequest at asked
  split at asked
  next => cases asked
  next expected =>
    refine ⟨expected, ?_⟩
    obtain ⟨step, stepped, asked⟩ := bind_eq_ok.mp asked
    obtain ⟨named, probed, asked⟩ := bind_eq_ok.mp asked
    obtain ⟨step_eq, step_mem⟩ := oneOf_eq_ok stepped
    have name := probe_name probed
    dsimp only at asked
    split at asked
    next same =>
      obtain ⟨buffer, buffered, asked⟩ := map_eq_ok.mp asked
      rw [← asked]
      refine ⟨.point _ _ _ (same ▸ step_eq) name buffered, ?_⟩
      rintro _ (other | other)
      · cases other
      · cases other
    next notPoint =>
      split at asked
      next => cases asked
      next absent =>
        rw [← Except.ok.inj asked]
        refine ⟨?_, fun _ _ => by simpa using absent⟩
        split
        next same => exact .start _ (same ▸ step_eq) name
        next notStart =>
          have last : step = "finish" := by simpa [phSteps, notPoint, notStart] using step_mem
          exact .finish _ (last ▸ step_eq) name

theorem phRequest_requests {payload : Payload} {request : PhRequest}
    (asked : phRequest payload = .ok request) :
    Requests payload request :=
  (phRequest_cases asked).2.1

theorem bufferLabel_reads {probe : PhProbe} {field : Option Yaml} {buffer : Rat} {label : String}
    (buffered : bufferLabel probe field = .ok (buffer, label)) :
    ∃ given value, field = some given ∧ ReadsAs given value ∧ roundTo 2 value = buffer := by
  have rounded {value : Rat} (accepted : roundedLabel probe value = .ok (buffer, label)) :
      roundTo 2 value = buffer := by
    unfold roundedLabel at accepted
    dsimp only at accepted
    split at accepted
    next =>
      split at accepted
      next => exact congrArg Prod.fst (Except.ok.inj accepted)
      next => cases accepted
    next =>
      split at accepted
      next => exact congrArg Prod.fst (Except.ok.inj accepted)
      next => cases accepted
  unfold bufferLabel at buffered
  split at buffered
  next number =>
    split at buffered
    next value converted => exact ⟨_, value, rfl, .int converted, rounded buffered⟩
    next => cases buffered
  next value => exact ⟨_, value, rfl, .float value, rounded buffered⟩
  next => cases buffered
  next => cases buffered

theorem span_le {samples : List Rat} {bound : Rat} (narrow : ¬bound < PhSensor.span samples) :
    ∀ high ∈ samples, ∀ low ∈ samples, high - low ≤ bound := by
  intro high above low below
  unfold PhSensor.span at narrow
  split at narrow
  next most least largest smallest =>
    have upper := (List.max?_eq_some_iff.mp largest).2 high above
    have lower := (List.min?_eq_some_iff.mp smallest).2 low below
    linarith
  next empty =>
    have filled : samples ≠ [] := List.ne_nil_of_mem above
    obtain ⟨most, largest⟩ := Option.isSome_iff_exists.mp (List.isSome_max?_of_ne_nil filled)
    obtain ⟨least, smallest⟩ := Option.isSome_iff_exists.mp (List.isSome_min?_of_ne_nil filled)
    exact absurd smallest (empty most least largest)

theorem readSamples_ok {answers : Nat → Except String Double} {reads : List Nat}
    {samples : List Rat}
    (taken : readSamples answers reads = .ok samples) :
    samples.length = reads.length ∧ ∀ (place : Nat) (sample : Rat), samples[place]? = some sample →
      ∃ read, reads[place]? = some read ∧ answers read = .ok (.finite sample) := by
  induction reads generalizing samples with
  | nil =>
      cases taken
      exact ⟨rfl, fun place sample found => by simp at found⟩
  | cons read rest ih =>
      unfold readSamples at taken
      split at taken
      next => cases taken
      next first answered =>
        obtain ⟨later, takenLater, same⟩ := map_eq_ok.mp taken
        obtain ⟨lengths, answers⟩ := ih takenLater
        rw [← same]
        refine ⟨congrArg Nat.succ lengths, fun place sample found => ?_⟩
        cases place with
        | zero =>
            cases found
            exact ⟨read, rfl, answered⟩
        | succ place => exact answers place sample found
      next => cases taken

theorem readAnalogPoint_stable {answers : Nat → Except String Double} {volts : Rat}
    (read : readAnalogPoint answers = .ok volts) : StableBurst answers volts := by
  obtain ⟨samples, taken, judged⟩ := bind_eq_ok.mp read
  obtain ⟨lengths, answered⟩ := readSamples_ok taken
  rw [List.length_range] at lengths
  split at judged
  next => cases judged
  next narrow =>
    refine ⟨samples, lengths, fun place sample found => ?_, span_le narrow, (Except.ok.inj judged).symm⟩
    obtain ⟨read, inPlace, answer⟩ := answered place sample found
    have same : place = read := by
      rw [← (List.getElem?_eq_some_iff.mp inPlace).2, List.getElem_range]
    exact same ▸ answer

theorem Refusal.not_applied (refusal : Refusal) (message : String) (result : Option Payload) :
    refusal.execution ≠ .applied message result := by
  cases refusal with
  | rejected text => exact nofun
  | raised text => exact nofun

def PhCalibration.record (calibration : PhCalibration) (command : PhCommand) : PhRecord :=
  ⟨command, (calibration.phCalibrate command.hardware command.payload).execution,
    (calibration.phCalibrate command.hardware command.payload).calls⟩

structure Apart (record : PhRecord) : Prop where
  start : ¬record.AnalogStart
  finish : ¬record.AnalogFinished
  point : ∀ buffer volts, ¬AcceptedPoint record buffer volts

theorem Apart.of_failed {record : PhRecord} (failed : ¬record.Succeeded) : Apart record :=
  ⟨fun start => failed start.2, fun finish => failed finish.2, fun _ _ point => failed point.succeeded⟩

theorem Apart.of_rs485 {record : PhRecord}
    (named : record.command.payload.get "probe" = some (.text (PhProbe.name .rs485Multi))) :
    Apart record := by
  have other (step : String) : ¬record.Asks step "analog" := by
    intro asks
    have same := named.symm.trans asks.2
    simp [PhProbe.name] at same
  exact ⟨fun start => other _ start.1, fun finish => other _ finish.1, fun _ _ point => other _ point.asks⟩

def Silent (calls : List HardwareCall) : Prop := ∀ v4 v7, .applyAnalogPh v4 v7 ∉ calls

def SameAnalog (before after : PhCalibration) : Prop :=
  after.analogVolts = before.analogVolts ∧ after.analogStarted = before.analogStarted

/-- What a command does to the analog calibration. -/
inductive AnalogStep (calibration : PhCalibration) (record : PhRecord) (after : PhCalibration) : Prop where
  | start (starts : record.AnalogStart) (silent : Silent record.calls) (volts : after.analogVolts = .empty)
  | point (buffer volts : Rat) (accepted : AcceptedPoint record buffer volts) (silent : Silent record.calls)
      (started : calibration.analogStarted = true)
      (stored : after.analogVolts = calibration.analogVolts.set buffer volts)
  | finish (v4 v7 : Rat) (asks : record.Asks "finish" "analog") (started : calibration.analogStarted = true)
      (low : calibration.analogVolts.get 4 = some v4) (high : calibration.analogVolts.get 7 = some v7)
      (single : record.calls = [.applyAnalogPh v4 v7]) (succeeded : record.Succeeded)
      (closed : after.analogStarted = false)
  | raised (v4 v7 : Rat) (text : String) (asks : record.Asks "finish" "analog")
      (started : calibration.analogStarted = true)
      (low : calibration.analogVolts.get 4 = some v4) (high : calibration.analogVolts.get 7 = some v7)
      (single : record.calls = [.applyAnalogPh v4 v7]) (fails : record.command.hardware.applied = .error text)
      (failed : ¬record.Succeeded) (same : SameAnalog calibration after)
  | apart (apart : Apart record) (silent : Silent record.calls) (same : SameAnalog calibration after)

theorem silent_nil : Silent [] := fun v4 v7 member => by cases member

theorem silent_sampleCalls (answers : Nat → Except String Double) (reads : List Nat) :
    Silent (sampleCalls answers reads) := by
  intro v4 v7 member
  induction reads with
  | nil => cases member
  | cons read rest ih =>
      unfold sampleCalls at member
      cases member with
      | tail _ later =>
          split at later
          next => exact ih later
          next => cases later

theorem sameAnalog_refl (calibration : PhCalibration) : SameAnalog calibration calibration := ⟨rfl, rfl⟩

theorem failed_of_execution {record : PhRecord} (refusal : Refusal)
    (same : record.execution = refusal.execution) :
    ¬record.Succeeded := by
  intro succeeded
  obtain ⟨message, result, applied⟩ := succeeded
  exact refusal.not_applied message result (same.symm.trans applied)

section Step

variable {calibration : PhCalibration} {command : PhCommand}

theorem AnalogStep.of_refusal (refusal : Refusal) {handling : Handling}
    (silent : Silent handling.calls)
    (refused : handling.execution = refusal.execution)
    (same : SameAnalog calibration handling.calibration) :
    AnalogStep calibration ⟨command, handling.execution, handling.calls⟩ handling.calibration :=
  .apart (.of_failed (failed_of_execution refusal refused)) silent same

theorem analogStep_point {buffer : Rat} {label : String}
    (step : command.payload.get "step" = some (.text "point"))
    (named : command.payload.get "probe" = some (.text "analog"))
    (buffered : bufferLabel .analog (command.payload.get "buffer") = .ok (buffer, label))
    (started : calibration.analogStarted = true) {handling : Handling}
    (handled : handling = calibration.analogPoint command.hardware buffer label) :
    AnalogStep calibration ⟨command, handling.execution, handling.calls⟩ handling.calibration := by
  unfold PhCalibration.analogPoint at handled
  dsimp only at handled
  cases read : readAnalogPoint command.hardware.volts with
  | error refusal =>
      rw [read] at handled
      rw [handled]
      exact .of_refusal refusal (silent_sampleCalls _ _) rfl (sameAnalog_refl calibration)
  | ok volts =>
      rw [read] at handled
      rw [handled]
      refine .point buffer volts ?_ (silent_sampleCalls _ _) started rfl
      exact ⟨⟨step, named⟩, ⟨_, _, rfl⟩, bufferLabel_reads buffered, readAnalogPoint_stable read⟩

theorem analogStep_finish (asks : command.payload.get "step" = some (.text "finish"))
    (named : command.payload.get "probe" = some (.text "analog")) (started : calibration.analogStarted = true)
    {handling : Handling} (handled : handling = calibration.finishAnalog command.hardware) :
    AnalogStep calibration ⟨command, handling.execution, handling.calls⟩ handling.calibration := by
  unfold PhCalibration.finishAnalog at handled
  split at handled
  next v4 v7 low high =>
    split at handled
    next =>
      rw [handled]
      exact .of_refusal (.rejected _) silent_nil rfl (sameAnalog_refl calibration)
    next =>
      dsimp only at handled
      split at handled
      next text fails =>
        rw [handled]
        exact .raised v4 v7 text ⟨asks, named⟩ started low high rfl fails
          (failed_of_execution (.raised text) rfl)
          (sameAnalog_refl calibration)
      next slope offset answered =>
        rw [handled]
        exact .finish v4 v7 ⟨asks, named⟩ started low high rfl ⟨_, _, rfl⟩ rfl
  next =>
    rw [handled]
    exact .of_refusal (.rejected _) silent_nil rfl (sameAnalog_refl calibration)

end Step

def PhRequest.probe : PhRequest → PhProbe
  | start probe => probe
  | point probe _ _ => probe
  | finish probe => probe

/-- The handlers of the RS485 probe leave the analog calibration alone. -/
theorem handle_rs485 (calibration : PhCalibration) (hardware : Hardware) {request : PhRequest}
    (other : request.probe = .rs485Multi) :
    SameAnalog calibration (calibration.handle hardware request).calibration ∧
      Silent (calibration.handle hardware request).calls := by
  have quiet (label : String) : Silent [HardwareCall.calibrateRs485PhPoint label] := by
    intro v4 v7 member
    cases member with
    | tail _ later => cases later
  cases request with
  | start probe =>
      cases other
      exact ⟨⟨rfl, rfl⟩, silent_nil⟩
  | point probe buffer label =>
      cases other
      unfold PhCalibration.handle PhCalibration.rs485Point
      dsimp only
      split
      next => exact ⟨⟨rfl, rfl⟩, silent_nil⟩
      next =>
        split
        next => exact ⟨⟨rfl, rfl⟩, quiet label⟩
        next => exact ⟨⟨rfl, rfl⟩, quiet label⟩
  | finish probe =>
      cases other
      unfold PhCalibration.handle PhCalibration.finishRs485
      dsimp only
      split
      next => exact ⟨⟨rfl, rfl⟩, silent_nil⟩
      next =>
        split
        next => exact ⟨⟨rfl, rfl⟩, silent_nil⟩
        next => exact ⟨⟨rfl, rfl⟩, silent_nil⟩

/-- The handlers of the analog probe see nothing else than the analog calibration. -/
theorem handle_analog {first second : PhCalibration} (same : SameAnalog first second)
    (hardware : Hardware)
    {request : PhRequest} (analog : request.probe = .analog) :
    SameAnalog (first.handle hardware request).calibration (second.handle hardware request).calibration ∧
      (second.handle hardware request).calls = (first.handle hardware request).calls := by
  obtain ⟨volts, started⟩ := same
  cases request with
  | start probe =>
      cases analog
      exact ⟨⟨rfl, rfl⟩, rfl⟩
  | point probe buffer label =>
      cases analog
      unfold PhCalibration.handle PhCalibration.analogPoint PhCalibration.started
      dsimp only
      rw [started, volts]
      split
      next => exact ⟨⟨volts, started⟩, rfl⟩
      next =>
        split
        next => exact ⟨⟨volts, started⟩, rfl⟩
        next => exact ⟨⟨rfl, rfl⟩, rfl⟩
  | finish probe =>
      cases analog
      unfold PhCalibration.handle PhCalibration.finishAnalog PhCalibration.started
      dsimp only
      rw [started, volts]
      split
      next => exact ⟨⟨volts, started⟩, rfl⟩
      next =>
        split
        next =>
          split
          next => exact ⟨⟨volts, started⟩, rfl⟩
          next =>
            split
            next => exact ⟨⟨volts, started⟩, rfl⟩
            next => exact ⟨⟨rfl, rfl⟩, rfl⟩
        next => exact ⟨⟨volts, started⟩, rfl⟩

theorem phCalibrate_requested {calibration : PhCalibration} {hardware : Hardware}
    {payload : Payload}
    {request : PhRequest}
    (asked : phRequest payload = .ok request) :
    calibration.phCalibrate hardware payload = calibration.handle hardware request := by
  unfold PhCalibration.phCalibrate
  rw [asked]

theorem analogStep (calibration : PhCalibration) (command : PhCommand) :
    AnalogStep calibration (calibration.record command)
      (calibration.phCalibrate command.hardware command.payload).calibration := by
  unfold PhCalibration.record
  cases asked : phRequest command.payload with
  | error refusal =>
      unfold PhCalibration.phCalibrate
      rw [asked]
      exact .of_refusal refusal silent_nil rfl (sameAnalog_refl calibration)
  | ok request =>
      rw [phCalibrate_requested asked]
      have apart (named : command.payload.get "probe" = some (.text (PhProbe.name .rs485Multi)))
          (other : request.probe = .rs485Multi) :
          AnalogStep calibration ⟨command, (calibration.handle command.hardware request).execution,
            (calibration.handle command.hardware request).calls⟩
            (calibration.handle command.hardware request).calibration :=
        .apart (.of_rs485 named) (handle_rs485 calibration command.hardware other).2
          (handle_rs485 calibration command.hardware other).1
      cases phRequest_requests asked with
      | start probe step named =>
          cases probe with
          | rs485Multi => exact apart named rfl
          | analog => exact .start ⟨⟨step, named⟩, ⟨_, _, rfl⟩⟩ silent_nil rfl
      | point probe buffer label step named buffered =>
          cases probe with
          | rs485Multi => exact apart named rfl
          | analog =>
              cases started : calibration.analogStarted with
              | false =>
                  unfold PhCalibration.handle PhCalibration.started
                  dsimp only
                  rw [started]
                  exact .of_refusal (.rejected _) silent_nil rfl (sameAnalog_refl calibration)
              | true =>
                  apply analogStep_point step named buffered started
                  unfold PhCalibration.handle PhCalibration.started
                  dsimp only
                  rw [started]
                  rfl
      | finish probe step named =>
          cases probe with
          | rs485Multi => exact apart named rfl
          | analog =>
              cases started : calibration.analogStarted with
              | false =>
                  unfold PhCalibration.handle PhCalibration.started
                  dsimp only
                  rw [started]
                  exact .of_refusal (.rejected _) silent_nil rfl (sameAnalog_refl calibration)
              | true =>
                  apply analogStep_finish step named started
                  unfold PhCalibration.handle PhCalibration.started
                  dsimp only
                  rw [started]
                  rfl

/-- What the records say of a calibration that is under way. -/
structure UnderWay (records since : List PhRecord) (calibration : PhCalibration) : Prop where
  session : Session records since
  points : ∀ buffer volts, calibration.analogVolts.get buffer = some volts →
    LatestPoint since buffer volts
  raised : ∀ other ∈ since, ∀ low high, .applyAnalogPh low high ∈ other.calls →
    ∃ text, other.command.hardware.applied = .error text

/-- What every command keeps. -/
def Kept (records : List PhRecord) (calibration : PhCalibration) : Prop :=
  calibration.analogStarted = true → ∃ since, UnderWay records since calibration

theorem Session.snoc {records since : List PhRecord} {record : PhRecord}
    (session : Session records since)
    (start : ¬record.AnalogStart) (finish : ¬record.AnalogFinished) :
    Session (records ++ [record]) (since ++ [record]) := by
  obtain ⟨earlier, first, same, starts, open_⟩ := session
  refine ⟨earlier, first, by rw [same]; simp, starts, fun other member => ?_⟩
  cases List.mem_append.mp member with
  | inl before => exact open_ other before
  | inr last =>
      rw [List.mem_singleton.mp last]
      exact ⟨start, finish⟩

theorem LatestPoint.snoc {since : List PhRecord} {record : PhRecord} {buffer volts : Rat}
    (latest : LatestPoint since buffer volts)
    (other : ∀ volts, ¬AcceptedPoint record buffer volts) :
    LatestPoint (since ++ [record]) buffer volts := by
  obtain ⟨earlier, point, later, same, accepted, last⟩ := latest
  refine ⟨earlier, point, later ++ [record], by rw [same]; simp, accepted, fun found member => ?_⟩
  cases List.mem_append.mp member with
  | inl before => exact last found before
  | inr added =>
      rw [List.mem_singleton.mp added]
      exact other

theorem LatestPoint.of_last {record : PhRecord} {buffer volts : Rat}
    (accepted : AcceptedPoint record buffer volts)
    (since : List PhRecord) : LatestPoint (since ++ [record]) buffer volts :=
  ⟨since, record, [], rfl, accepted, fun _ member => by cases member⟩

theorem AcceptedPoint.buffer_eq {record : PhRecord} {buffer other volts volts' : Rat}
    (first : AcceptedPoint record buffer volts) (second : AcceptedPoint record other volts') :
    buffer = other := by
  obtain ⟨given, value, field, reads, rounded⟩ := first.names
  obtain ⟨given', value', field', reads', rounded'⟩ := second.names
  cases field.symm.trans field'
  have same : value = value' := by
    cases reads with
    | int converted =>
        cases reads' with
        | int converted' => exact Double.finite.inj (Option.some.inj (converted.symm.trans converted'))
    | float => cases reads'; rfl
  rw [← rounded, same, rounded']

theorem UnderWay.snoc {records since : List PhRecord} {calibration after : PhCalibration}
    {record : PhRecord}
    (under : UnderWay records since calibration) (start : ¬record.AnalogStart) (finish : ¬record.AnalogFinished)
    (points : ∀ buffer volts, after.analogVolts.get buffer = some volts → LatestPoint (since ++ [record]) buffer volts)
    (raised : ∀ low high, .applyAnalogPh low high ∈ record.calls →
      ∃ text, record.command.hardware.applied = .error text) :
    UnderWay (records ++ [record]) (since ++ [record]) after := by
  refine ⟨under.session.snoc start finish, points, fun other member low high called => ?_⟩
  cases List.mem_append.mp member with
  | inl before => exact under.raised other before low high called
  | inr last =>
      rw [List.mem_singleton.mp last] at called ⊢
      exact raised low high called

theorem Asks.step_eq {record : PhRecord} {step step' probe probe' : String}
    (first : record.Asks step probe)
    (second : record.Asks step' probe') : step = step' := by
  have same := first.1.symm.trans second.1
  simpa using same

theorem AnalogStep.kept {records : List PhRecord} {calibration after : PhCalibration}
    {record : PhRecord}
    (step : AnalogStep calibration record after) (kept : Kept records calibration) :
    Kept (records ++ [record]) after := by
  intro running
  cases step with
  | start starts silent empty =>
      refine ⟨[], ⟨records, record, rfl, starts, fun _ member => by cases member⟩, fun buffer volts found => ?_,
        fun _ member => by cases member⟩
      rw [empty] at found
      cases found
  | point buffer volts accepted silent started stored =>
      obtain ⟨since, under⟩ := kept started
      refine ⟨since ++ [record], under.snoc (fun start => ?_) (fun finish => ?_) (fun other found held => ?_)
        fun low high called => absurd called (silent low high)⟩
      · exact absurd (Asks.step_eq accepted.asks start.1) (by decide)
      · exact absurd (Asks.step_eq accepted.asks finish.1) (by decide)
      · rw [stored, Dict.get_set] at held
        split at held
        next same =>
          rw [same, ← Option.some.inj held]
          exact .of_last accepted since
        next different =>
          exact (under.points other found held).snoc fun volts again => different (again.buffer_eq accepted)
  | finish v4 v7 asks started low high single succeeded closed => cases closed.symm.trans running
  | raised v4 v7 text asks started low high single fails failed same =>
      obtain ⟨since, under⟩ := kept started
      have apart := Apart.of_failed failed
      refine ⟨since ++ [record], under.snoc apart.start apart.finish (fun other found held => ?_)
        fun _ _ _ => ⟨text, fails⟩⟩
      rw [same.1] at held
      exact (under.points other found held).snoc fun volts again => apart.point _ _ again
  | apart apart silent same =>
      rw [same.2] at running
      obtain ⟨since, under⟩ := kept running
      refine ⟨since ++ [record], under.snoc apart.start apart.finish (fun other found held => ?_)
        fun low high called => absurd called (silent low high)⟩
      rw [same.1] at held
      exact (under.points other found held).snoc fun volts again => apart.point _ _ again

theorem AnalogStep.inPlace {records : List PhRecord} {calibration after : PhCalibration}
    {record : PhRecord}
    (step : AnalogStep calibration record after) (kept : Kept records calibration) {v4 v7 : Rat}
    (called : .applyAnalogPh v4 v7 ∈ record.calls) : CallInPlace records record v4 v7 := by
  have place {low high : Rat} (asks : record.Asks "finish" "analog")
      (started : calibration.analogStarted = true)
      (point4 : calibration.analogVolts.get 4 = some low) (point7 : calibration.analogVolts.get 7 = some high)
      (single : record.calls = [.applyAnalogPh low high])
      (closes : ∀ numbers, record.command.hardware.applied = .ok numbers → record.Succeeded) :
      CallInPlace records record v4 v7 := by
    rw [single, List.mem_singleton] at called
    cases called
    obtain ⟨since, under⟩ := kept started
    exact ⟨asks, single, closes, since, under.session, under.points 4 _ point4, under.points 7 _ point7, under.raised⟩
  cases step with
  | start starts silent volts => exact absurd called (silent v4 v7)
  | point buffer volts accepted silent started stored => exact absurd called (silent v4 v7)
  | finish low high asks started point4 point7 single succeeded closed =>
      exact place asks started point4 point7 single fun _ _ => succeeded
  | raised low high text asks started point4 point7 single fails failed same =>
      exact place asks started point4 point7 single fun numbers answered => by cases fails.symm.trans answered
  | apart apart silent same => exact absurd called (silent v4 v7)

theorem history_inPlace {calibration : PhCalibration} {seen : List PhRecord}
    (kept : Kept seen calibration)
    (commands : List PhCommand) {before later : List PhRecord} {record : PhRecord}
    (split : history calibration commands = before ++ record :: later) {v4 v7 : Rat}
    (called : .applyAnalogPh v4 v7 ∈ record.calls) : CallInPlace (seen ++ before) record v4 v7 := by
  induction commands generalizing calibration seen before with
  | nil => cases before <;> cases split
  | cons command rest ih =>
      have step := analogStep calibration command
      cases before with
      | nil =>
          have first : calibration.record command = record := (List.cons.inj split).1
          rw [List.append_nil, ← first]
          rw [← first] at called
          exact step.inPlace kept called
      | cons head tail =>
          have first : calibration.record command = head := (List.cons.inj split).1
          have place := ih (step.kept kept) (List.cons.inj split).2
          rw [List.append_assoc, first] at place
          exact place

/-- A command that is not for the RS485 probe does the same in states with one analog calibration. -/
theorem phCalibrate_sameAnalog {first second : PhCalibration} (same : SameAnalog first second)
    (hardware : Hardware)
    {payload : Payload} (other : payload.get "probe" ≠ some (.text (PhProbe.name .rs485Multi))) :
    SameAnalog (first.phCalibrate hardware payload).calibration (second.phCalibrate hardware payload).calibration ∧
      (second.phCalibrate hardware payload).calls = (first.phCalibrate hardware payload).calls := by
  cases asked : phRequest payload with
  | error refusal =>
      unfold PhCalibration.phCalibrate
      rw [asked]
      exact ⟨same, rfl⟩
  | ok request =>
      rw [phCalibrate_requested asked, phCalibrate_requested asked]
      apply handle_analog same
      cases phRequest_requests asked with
      | start probe step named | finish probe step named | point probe _ _ step named =>
          cases probe with
          | analog => rfl
          | rs485Multi => exact absurd named other

theorem phCalibrate_rs485 (calibration : PhCalibration) (hardware : Hardware) {payload : Payload}
    (named : payload.get "probe" = some (.text (PhProbe.name .rs485Multi))) :
    SameAnalog calibration (calibration.phCalibrate hardware payload).calibration ∧
      Silent (calibration.phCalibrate hardware payload).calls := by
  cases asked : phRequest payload with
  | error refusal =>
      unfold PhCalibration.phCalibrate
      rw [asked]
      exact ⟨sameAnalog_refl calibration, silent_nil⟩
  | ok request =>
      rw [phCalibrate_requested asked]
      apply handle_rs485
      cases phRequest_requests asked with
      | start probe step given | finish probe step given | point probe _ _ step given =>
          cases probe with
          | rs485Multi => rfl
          | analog =>
              have same := given.symm.trans named
              simp [PhProbe.name] at same

theorem forRs485_iff (command : PhCommand) :
    command.forRs485 = true ↔ command.payload.get "probe" = some (.text (PhProbe.name .rs485Multi)) := by
  unfold PhCommand.forRs485
  split
  next named => exact iff_of_true rfl named
  next other => exact iff_of_false Bool.false_ne_true other

theorem coefficients_of_silent {calls : List HardwareCall} (silent : Silent calls) :
    calls.filterMap HardwareCall.coefficients = [] := by
  rw [List.filterMap_eq_nil_iff]
  intro call member
  cases call with
  | applyAnalogPh v4 v7 => exact absurd member (silent v4 v7)
  | readPhAdcVolts | calibrateRs485PhPoint buffer | rs485 sensor op => rfl

theorem applyCalls_cons (calibration : PhCalibration) (command : PhCommand)
    (rest : List PhCommand) :
    applyCalls (history calibration (command :: rest)) =
      (calibration.phCalibrate command.hardware command.payload).calls.filterMap HardwareCall.coefficients ++
        applyCalls (history (calibration.phCalibrate command.hardware command.payload).calibration rest) :=
  List.flatMap_cons

theorem applyCalls_without_rs485 {first second : PhCalibration} (same : SameAnalog first second)
    (commands : List PhCommand) :
    applyCalls (history second (commands.filter fun command => !command.forRs485)) =
      applyCalls (history first commands) := by
  induction commands generalizing first second with
  | nil => rfl
  | cons command rest ih =>
      by_cases named : command.payload.get "probe" = some (.text (PhProbe.name .rs485Multi))
      · have dropped := (forRs485_iff command).mpr named
        have alone := phCalibrate_rs485 first command.hardware named
        rw [List.filter_cons_of_neg (by simp [dropped]), ih ⟨same.1.trans alone.1.1.symm, same.2.trans alone.1.2.symm⟩,
          applyCalls_cons, coefficients_of_silent alone.2, List.nil_append]
      · have kept : command.forRs485 = false :=
          Bool.eq_false_iff.mpr fun dropped => named ((forRs485_iff command).mp dropped)
        have both := phCalibrate_sameAnalog same command.hardware named
        rw [List.filter_cons_of_pos (by simp [kept]), applyCalls_cons, applyCalls_cons, both.2, ih both.1]

/-- Every call of `apply_analog_ph` is in its place, whatever the commands, the probes, the
buffers and the answers of the hardware, and without the commands for the RS485 probe the
calls are the same. -/
theorem calibration_protocol (commands : List PhCommand) :
    (∀ before record later, history {} commands = before ++ record :: later →
        ∀ v4 v7, .applyAnalogPh v4 v7 ∈ record.calls → CallInPlace before record v4 v7) ∧
      applyCalls (history {} (commands.filter fun command => !command.forRs485)) =
        applyCalls (history {} commands) := by
  constructor
  · intro before record later split v4 v7 called
    have idle : Kept [] {} := fun running => by cases running
    exact history_inPlace idle commands split called
  · exact applyCalls_without_rs485 (sameAnalog_refl {}) commands

end Wqm1.Cloud
