import Wqm1.Cloud.DeviceCommands
import Wqm1.Library.Events

/-! Commands that are handed out again and again, also after restarts, act at most once. -/

set_option autoImplicit false

namespace Wqm1.Cloud

open Wqm1.Library

variable {Object : Type} {isoMs : String → Option Int}

namespace Dispatcher

/-- What an application of a command is. -/
inductive ApplyCases (isoMs : String → Option Int) (dispatcher : Dispatcher Object) (command : DeviceCommand Object)
    (readings : Readings) (execution : Execution Object) (application : Application Object) : Prop where
  | unnamed (unnamed : commandId command.id = none)
      (same : application = { dispatcher := dispatcher, outcome := .ok (rejected "missing id") })
  | known (id : String) (row : Handled Object) (named : commandId command.id = some id)
      (found : (dispatcher.evictExpired readings.evict).handled.get id = some row)
      (same : application =
        { dispatcher := { dispatcher.evictExpired readings.evict with
            handled := (dispatcher.evictExpired readings.evict).handled.moveToEnd id }
          outcome := .ok row.outcome })
  | overflows (id : String) (named : commandId command.id = some id)
      (absent : (dispatcher.evictExpired readings.evict).handled.get id = none)
      (unusable : keepUntilMs isoMs command.expiresAt readings.keepUntil = none)
      (same : application =
        { dispatcher := dispatcher.evictExpired readings.evict, outcome := .error "int too large to convert to float" })
  | handled (id : String) (outcome : CommandOutcome Object) (keepUntil : Int)
      (named : commandId command.id = some id)
      (absent : (dispatcher.evictExpired readings.evict).handled.get id = none)
      (keeps : keepUntilMs isoMs command.expiresAt readings.keepUntil = some keepUntil)
      (judged : outcome = (screen isoMs command readings.check).getD execution.outcome)
      (same : application =
        { dispatcher := (dispatcher.evictExpired readings.evict).store id outcome keepUntil readings.store
          outcome := .ok outcome
          executed := (screen isoMs command readings.check).isNone })

theorem apply_cases (dispatcher : Dispatcher Object) (command : DeviceCommand Object)
    (readings : Readings)
    (execution : Execution Object) :
    ApplyCases isoMs dispatcher command readings execution (dispatcher.apply isoMs command readings execution) := by
  unfold apply
  cases named : commandId command.id with
  | none => exact .unnamed named rfl
  | some id =>
    dsimp only
    cases found : (dispatcher.evictExpired readings.evict).handled.get id with
    | some row => exact .known id row named found rfl
    | none =>
      dsimp only
      cases keeps : keepUntilMs isoMs command.expiresAt readings.keepUntil with
      | none => exact .overflows id named found keeps rfl
      | some keepUntil =>
        dsimp only
        cases screened : screen isoMs command readings.check with
        | some outcome => exact .handled id outcome keepUntil named found keeps (by rw [screened]; rfl) (by rw [screened]; rfl)
        | none => exact .handled id execution.outcome keepUntil named found keeps (by rw [screened]; rfl) (by rw [screened]; rfl)

end Dispatcher

/-- The dispatcher in the course of time. `clock` is the last reading. The last fields are
for the statements only: the first outcome of each id with the time until which it is
kept, and the ids whose command drove the hardware, the last one first. -/
structure CommandUnit (Object : Type) where
  dispatcher : Dispatcher Object := {}
  clock : Int
  first : String → Option (CommandOutcome Object × Int) := fun _ => none
  driven : List String := []

inductive CommandEvent (Object : Type) where
  | deliver (command : DeviceCommand Object) (readings : Readings) (execution : Execution Object)
  | restart (now : Int)

/-- Time does not go back. -/
def Readings.follow (readings : Readings) (clock : Int) : Prop :=
  clock ≤ readings.evict ∧ readings.evict ≤ readings.keepUntil ∧
    readings.keepUntil ≤ readings.check ∧
    readings.check ≤ readings.store

instance (readings : Readings) (clock : Int) : Decidable (readings.follow clock) :=
  inferInstanceAs (Decidable (_ ∧ _))

namespace CommandUnit

variable (unit : CommandUnit Object)

/-- The first outcome of an id stays the first. -/
def noteFirst (first : String → Option (CommandOutcome Object × Int)) (id : String)
    (outcome : CommandOutcome Object × Int) : String → Option (CommandOutcome Object × Int) :=
  Function.update first id (some ((first id).getD outcome))

def deliver (isoMs : String → Option Int) (command : DeviceCommand Object) (readings : Readings)
    (execution : Execution Object) : CommandUnit Object :=
  let application := unit.dispatcher.apply isoMs command readings execution
  let delivered := { unit with dispatcher := application.dispatcher, clock := readings.store }
  match Dispatcher.commandId command.id, application.outcome with
  | some id, .ok outcome =>
    { delivered with
      first := noteFirst unit.first id
        (outcome, (keepUntilMs isoMs command.expiresAt readings.keepUntil).getD readings.store)
      driven := if application.executed then id :: unit.driven else unit.driven }
  | _, _ => delivered

def step (isoMs : String → Option Int) (unit : CommandUnit Object) :
    CommandEvent Object → Option (CommandUnit Object)
  | .deliver command readings execution =>
    if readings.follow unit.clock then some (unit.deliver isoMs command readings execution) else none
  | .restart now =>
    if unit.clock ≤ now then
      (unit.dispatcher.restart now).map fun dispatcher => { unit with dispatcher := dispatcher, clock := now }
    else none

/-- The commands of an id always carry the same expiry. -/
def fixedExpiry (expiry : String → JsonValue Object) (_ : CommandUnit Object) :
    CommandEvent Object → Prop
  | .deliver command _ _ => ∀ id ∈ Dispatcher.commandId command.id, command.expiresAt = expiry id
  | .restart _ => True

/-- An outcome is in the cache and in its file. -/
def Remembers (dispatcher : Dispatcher Object) (id : String) (row : Handled Object) : Prop :=
  dispatcher.handled.get id = some row ∧
    ∃ saved, dispatcher.file = some (saveHandled saved) ∧ saved.get id = some row

/-- What every step keeps. -/
structure Kept (isoMs : String → Option Int) (expiry : String → JsonValue Object)
    (unit : CommandUnit Object) : Prop where
  cached : ∀ id row, unit.dispatcher.handled.get id = some row → (unit.first id).isSome = true
  file : unit.dispatcher.file = none ∨ ∃ saved, unit.dispatcher.file = some (saveHandled saved) ∧
    ∀ id row, saved.get id = some row → (unit.first id).isSome = true
  remembers : ∀ id outcome keepUntil, unit.first id = some (outcome, keepUntil) →
    unit.clock < keepUntil →
    Remembers unit.dispatcher id ⟨outcome, keepUntil⟩
  expires : ∀ id outcome keepUntil, unit.first id = some (outcome, keepUntil) → ∀ parsed,
    parseExpiresAtMs isoMs (expiry id) = some (some parsed) → keepUntil = parsed
  driven : ∀ id ∈ unit.driven, (unit.first id).isSome = true ∧
    ∃ parsed, parseExpiresAtMs isoMs (expiry id) = some (some parsed)
  once : unit.driven.Nodup

variable {unit : CommandUnit Object} {expiry : String → JsonValue Object} {id : String}
  {outcome : CommandOutcome Object} {keepUntil : Int}

theorem Remembers.evict {dispatcher : Dispatcher Object} {row : Handled Object}
    (remembers : Remembers dispatcher id row) {now : Int} (early : now < row.expiresAtMs) :
    Remembers (dispatcher.evictExpired now) id row :=
  ⟨Dispatcher.get_evictExpired.mpr ⟨remembers.1, early⟩, remembers.2⟩

theorem Remembers.move {dispatcher : Dispatcher Object} {row : Handled Object}
    (remembers : Remembers dispatcher id row) (moved : String) :
    Remembers { dispatcher with handled := dispatcher.handled.moveToEnd moved } id row :=
  ⟨(Dict.get_moveToEnd ..).trans remembers.1, remembers.2⟩

theorem remembers_store (dispatcher : Dispatcher Object) (id : String)
    (outcome : CommandOutcome Object)
    (keepUntil now : Int) :
    Remembers (dispatcher.store id outcome keepUntil now) id ⟨outcome, keepUntil⟩ := by
  have found : (dispatcher.store id outcome keepUntil now).handled.get id = some ⟨outcome, keepUntil⟩ := by
    rw [Dispatcher.get_store, if_pos rfl]
  exact ⟨found, _, Dispatcher.file_store .., found⟩

theorem Remembers.store {dispatcher : Dispatcher Object} {row : Handled Object}
    (remembers : Remembers dispatcher id row) {other : String} (different : id ≠ other)
    (outcome : CommandOutcome Object) (keepUntil : Int) {now : Int}
      (early : now < row.expiresAtMs) :
    Remembers (dispatcher.store other outcome keepUntil now) id row := by
  have found : (dispatcher.store other outcome keepUntil now).handled.get id = some row := by
    rw [Dispatcher.get_store, if_neg different]
    exact (remembers.evict early).1
  exact ⟨found, _, Dispatcher.file_store .., found⟩

theorem Remembers.restart {dispatcher restarted : Dispatcher Object} {row : Handled Object} {now : Int}
    (remembers : Remembers dispatcher id row) (read : dispatcher.restart now = some restarted) :
    Remembers restarted id row := by
  obtain ⟨_, saved, file, found⟩ := remembers
  obtain ⟨loaded, opened, rfl⟩ := Option.map_eq_some_iff.mp read
  rw [file] at opened
  rw [Dispatcher.load_saved opened]
  exact ⟨found, saved, file, found⟩

/-- As long as its first outcome is kept, a command finds it. -/
theorem Kept.found (kept : Kept isoMs expiry unit)
    (first : unit.first id = some (outcome, keepUntil)) {now : Int}
    (forward : unit.clock ≤ now) (early : now < keepUntil) :
    (unit.dispatcher.evictExpired now).handled.get id = some ⟨outcome, keepUntil⟩ :=
  ((kept.remembers id outcome keepUntil first (lt_of_le_of_lt forward early)).evict early).1

theorem Kept.restart {after : CommandUnit Object} {now : Int} (kept : Kept isoMs expiry unit)
    (stepped : unit.step isoMs (.restart now) = some after) : Kept isoMs expiry after := by
  unfold step at stepped
  dsimp only at stepped
  split at stepped
  next forward =>
    obtain ⟨dispatcher, opened, rfl⟩ := Option.map_eq_some_iff.mp stepped
    refine ⟨?_, ?_, ?_, kept.expires, kept.driven, kept.once⟩
    · obtain ⟨loaded, read, rfl⟩ := Option.map_eq_some_iff.mp opened
      cases kept.file with
      | inl none =>
        rw [none] at read
        cases Option.some.inj read
        exact fun id row found => by cases found
      | inr written =>
        obtain ⟨saved, file, noted⟩ := written
        rw [file] at read
        rw [Dispatcher.load_saved read]
        exact noted
    · obtain ⟨loaded, _, rfl⟩ := Option.map_eq_some_iff.mp opened
      exact kept.file
    · intro id outcome keepUntil first early
      exact (kept.remembers id outcome keepUntil first (lt_of_le_of_lt forward early)).restart opened
  next => cases stepped

/-- The cache after an application that notes no outcome. -/
theorem Kept.passes {clock : Int} {dispatcher : Dispatcher Object} (kept : Kept isoMs expiry unit)
    (file : dispatcher.file = unit.dispatcher.file)
    (cached : ∀ id row, dispatcher.handled.get id = some row → ∃ row, unit.dispatcher.handled.get id = some row)
    (remembers : ∀ id outcome keepUntil, unit.first id = some (outcome, keepUntil) → clock < keepUntil →
      Remembers dispatcher id ⟨outcome, keepUntil⟩) :
    Kept isoMs expiry { unit with dispatcher := dispatcher, clock := clock } where
  cached id row found := by
    obtain ⟨earlier, before⟩ := cached id row found
    exact kept.cached id earlier before
  file := file ▸ kept.file
  remembers := remembers
  expires := kept.expires
  driven := kept.driven
  once := kept.once

theorem noteFirst_self {first : String → Option (CommandOutcome Object × Int)}
    (noted : (first id).isSome = true)
    (late : CommandOutcome Object × Int) : noteFirst first id late = first := by
  obtain ⟨outcome, present⟩ := Option.isSome_iff_exists.mp noted
  unfold noteFirst
  rw [present, Option.getD_some, ← present, Function.update_eq_self]

/-- What is noted was noted before, or now. -/
theorem noteFirst_cases {first : String → Option (CommandOutcome Object × Int)} {other : String}
    {noted found : CommandOutcome Object × Int}
      (present : noteFirst first id noted other = some found) :
    first other = some found ∨ other = id ∧ found = noted := by
  by_cases same : other = id
  · subst same
    rw [noteFirst, Function.update_self] at present
    cases before : first other with
    | none =>
      rw [before] at present
      exact .inr ⟨rfl, (Option.some.inj present).symm⟩
    | some earlier =>
      rw [before] at present
      exact .inl present
  · rw [noteFirst, Function.update_of_ne same] at present
    exact .inl present

theorem noteFirst_isSome {first : String → Option (CommandOutcome Object × Int)} {other : String}
    (before : other = id ∨ (first other).isSome = true) (noted : CommandOutcome Object × Int) :
    (noteFirst first id noted other).isSome = true := by
  by_cases same : other = id
  · rw [same, noteFirst, Function.update_self]
    rfl
  · rw [noteFirst, Function.update_of_ne same]
    exact before.resolve_left same

/-- A command that is looked at anew: its first outcome, if it had one, is kept no longer. -/
theorem Kept.handles {readings : Readings} (kept : Kept isoMs expiry unit)
    (follows : readings.follow unit.clock)
    (absent : (unit.dispatcher.evictExpired readings.evict).handled.get id = none)
    (expires : ∀ parsed, parseExpiresAtMs isoMs (expiry id) = some (some parsed) → keepUntil = parsed)
    {driven : List String} (drives : driven = unit.driven ∨ driven = id :: unit.driven ∧
      ∃ parsed, parseExpiresAtMs isoMs (expiry id) = some (some parsed) ∧ readings.check < parsed) :
    Kept isoMs expiry { unit with
      dispatcher :=
        (unit.dispatcher.evictExpired readings.evict).store id outcome keepUntil readings.store
      clock := readings.store
      first := noteFirst unit.first id (outcome, keepUntil)
      driven := driven } := by
  obtain ⟨forward, keeping, checking, storing⟩ := follows
  have passed : ∀ outcome ends, unit.first id = some (outcome, ends) → ends ≤ readings.evict := by
    intro outcome ends first
    by_contra early
    rw [kept.found first forward (not_le.mp early)] at absent
    cases absent
  have noted : ∀ other, other = id ∨ (unit.first other).isSome = true →
      (noteFirst unit.first id (outcome, keepUntil) other).isSome = true := fun other before =>
    noteFirst_isSome before _
  have cached :
      ∀ other row, ((unit.dispatcher.evictExpired readings.evict).store id outcome keepUntil
      readings.store).handled.get other = some row → (noteFirst unit.first id (outcome, keepUntil) other).isSome = true := by
    intro other row found
    apply noted
    by_cases same : other = id
    · exact .inl same
    · rw [Dispatcher.get_store, if_neg same, Dispatcher.get_evictExpired, Dispatcher.get_evictExpired] at found
      exact .inr (kept.cached other row found.1.1)
  refine ⟨cached, .inr ⟨_, Dispatcher.file_store .., cached⟩, ?_, ?_, ?_, ?_⟩
  · intro other result ends first early
    have early : readings.store < ends := early
    cases noteFirst_cases first with
    | inl before =>
      have old := kept.remembers other result ends before (by omega)
      have different : other ≠ id := by
        rintro rfl
        have expired := passed result ends before
        omega
      exact (old.evict (by dsimp only; omega)).store different outcome keepUntil early
    | inr now =>
      obtain ⟨rfl, same⟩ := now
      cases same
      exact remembers_store ..
  · intro other result ends first parsed usable
    cases noteFirst_cases first with
    | inl before => exact kept.expires other result ends before parsed usable
    | inr now =>
      obtain ⟨rfl, same⟩ := now
      cases same
      exact expires parsed usable
  · intro other listed
    cases drives with
    | inl same =>
      obtain ⟨before, usable⟩ := kept.driven other (same ▸ listed)
      exact ⟨noted other (.inr before), usable⟩
    | inr driven =>
      obtain ⟨same, parsed, usable, _⟩ := driven
      cases List.mem_cons.mp (same ▸ listed) with
      | inl here => exact ⟨noted other (.inl here), parsed, here ▸ usable⟩
      | inr earlier =>
        obtain ⟨before, usable⟩ := kept.driven other earlier
        exact ⟨noted other (.inr before), usable⟩
  · cases drives with
    | inl same => exact same ▸ kept.once
    | inr driven =>
      obtain ⟨same, parsed, usable, early⟩ := driven
      rw [same, List.nodup_cons]
      refine ⟨fun earlier => ?_, kept.once⟩
      obtain ⟨before, _⟩ := kept.driven id earlier
      obtain ⟨noted, present⟩ := Option.isSome_iff_exists.mp before
      have expired := passed noted.1 noted.2 present
      have ends := kept.expires id noted.1 noted.2 present parsed usable
      omega

theorem evicted_cached {dispatcher : Dispatcher Object} {now : Int} (row : Handled Object)
    (found : (dispatcher.evictExpired now).handled.get id = some row) :
    ∃ row, dispatcher.handled.get id = some row :=
  ⟨row, (Dispatcher.get_evictExpired.mp found).1⟩

theorem Kept.deliver {command : DeviceCommand Object} {readings : Readings}
    (kept : Kept isoMs expiry unit)
    (follows : readings.follow unit.clock)
    (fixed : ∀ id ∈ Dispatcher.commandId command.id, command.expiresAt = expiry id)
    (execution : Execution Object) :
    Kept isoMs expiry (unit.deliver isoMs command readings execution) := by
  obtain ⟨forward, keeping, checking, storing⟩ := follows
  have later : unit.clock ≤ readings.store := by omega
  unfold CommandUnit.deliver
  dsimp only
  cases unit.dispatcher.apply_cases command readings execution with
  | unnamed unnamed same =>
    rw [unnamed, same]
    exact kept.passes rfl (fun _ row found => ⟨row, found⟩) fun id outcome keepUntil first early =>
      kept.remembers id outcome keepUntil first (lt_of_le_of_lt later early)
  | known id row named found same =>
    have noted := kept.cached id row (Dispatcher.get_evictExpired.mp found).1
    rw [named, same]
    dsimp only
    rw [noteFirst_self noted, if_neg Bool.false_ne_true]
    refine kept.passes rfl ?_ ?_
    · intro other row found
      rw [Dict.get_moveToEnd] at found
      exact evicted_cached row found
    · intro other outcome keepUntil first early
      have old := kept.remembers other outcome keepUntil first (lt_of_le_of_lt later early)
      exact (old.evict (by dsimp only; omega)).move id
  | overflows id named absent unusable same =>
    rw [named, same]
    refine kept.passes rfl (fun _ row found => evicted_cached row found) ?_
    intro other outcome keepUntil first early
    have old := kept.remembers other outcome keepUntil first (lt_of_le_of_lt later early)
    exact old.evict (by dsimp only; omega)
  | handled id outcome keepUntil named absent keeps judged same =>
    have expiring := fixed id named
    rw [named, same]
    dsimp only
    rw [keeps, Option.getD_some]
    apply kept.handles ⟨forward, keeping, checking, storing⟩ absent
    · intro parsed usable
      rw [expiring, Dispatcher.keepUntilMs_of_usable usable] at keeps
      exact (Option.some.inj keeps).symm
    · cases screened : screen isoMs command readings.check with
      | some refused => exact .inl rfl
      | none =>
        obtain ⟨parsed, usable, early⟩ := Dispatcher.expiry_of_screen screened
        exact .inr ⟨rfl, parsed, expiring ▸ usable, early⟩

theorem Kept.step {after : CommandUnit Object} {event : CommandEvent Object}
    (kept : Kept isoMs expiry unit)
    (fixed : fixedExpiry expiry unit event) (stepped : unit.step isoMs event = some after) :
    Kept isoMs expiry after := by
  cases event with
  | deliver command readings execution =>
    unfold CommandUnit.step at stepped
    dsimp only at stepped
    split at stepped
    next follows =>
      cases stepped
      exact kept.deliver follows fixed execution
    next => cases stepped
  | restart now => exact kept.restart stepped

theorem kept_of_reaches {clock : Int}
    (run : Events.Reaches (step isoMs) (fixedExpiry expiry) ({ clock := clock } : CommandUnit Object) unit) :
    Kept isoMs expiry unit := by
  apply run.invariant
  · refine ⟨fun _ _ found => ?_, .inl rfl, fun _ _ _ first => ?_, fun _ _ _ first => ?_, fun _ listed => ?_, .nil⟩
    · cases found
    · cases first
    · cases first
    · cases listed
  · intro before event after _ fixed stepped kept
    exact kept.step fixed stepped

/-- Across deliveries and restarts no command id drives the hardware twice, and a command
that is handed out again before its expiry gets its first outcome, without being executed.
Without a usable expiry its first outcome is kept for a day. -/
theorem command_acts_once {clock : Int}
    (run : Events.Reaches (step isoMs) (fixedExpiry expiry) ({ clock := clock } : CommandUnit Object) unit) :
    unit.driven.Nodup ∧
      ∀ id outcome keepUntil, unit.first id = some (outcome, keepUntil) →
        (∀ parsed, parseExpiresAtMs isoMs (expiry id) = some (some parsed) → keepUntil = parsed) ∧
        ∀ (command : DeviceCommand Object) (readings : Readings) (execution : Execution Object),
          Dispatcher.commandId command.id = some id → unit.clock ≤ readings.evict →
            readings.evict < keepUntil →
            (unit.dispatcher.apply isoMs command readings execution).outcome = .ok outcome ∧
            (unit.dispatcher.apply isoMs command readings execution).executed = false := by
  have kept := kept_of_reaches run
  refine ⟨kept.once, fun id outcome keepUntil first => ⟨kept.expires id outcome keepUntil first, ?_⟩⟩
  intro command readings execution named forward early
  have found := kept.found first forward early
  unfold Dispatcher.apply
  rw [named]
  dsimp only
  rw [found]
  exact ⟨rfl, rfl⟩

/-- A command to add a sensor, to be executed in the first second. -/
def addSensor : DeviceCommand Unit where
  keys := ["id", "type", "payload", "expiresAt"]
  id := .text "c1"
  type := .text "rs485_config"
  expiresAt := .integer 1000
  payload := .object ()

instance (expiry : String → JsonValue Unit) (unit : CommandUnit Unit) (event : CommandEvent Unit) :
    Decidable (fixedExpiry expiry unit event) := by
  cases event <;> unfold fixedExpiry <;> infer_instance

/-- The command is handed out, the process starts again, and it is handed out once more. -/
theorem command_acts_once_added :
    ∃ unit : CommandUnit Unit, unit.driven = ["c1"] ∧
      (unit.dispatcher.apply (fun _ => none) addSensor ⟨900, 900, 900, 900⟩ (.raised "again")).outcome =
        .ok ⟨.applied, some (), "RS485 sensor added"⟩ := by
  have played : ((Events.play (step fun _ => none) (fixedExpiry fun _ => .integer 1000)
      ({ clock := 0 } : CommandUnit Unit)
      [.deliver addSensor ⟨10, 10, 10, 20⟩ (.applied "RS485 sensor added" (some ())), .restart 30]).map fun unit =>
        (unit.driven, unit.clock, unit.first "c1")) =
      some (["c1"], 30, some (⟨.applied, some (), "RS485 sensor added"⟩, 1000)) := by
    decide +kernel
  obtain ⟨unit, run, seen⟩ := Option.map_eq_some_iff.mp played
  simp only [Prod.mk.injEq] at seen
  obtain ⟨driven, clock, first⟩ := seen
  have once := (command_acts_once (Events.reaches_play run)).2 "c1" _ _ first
  exact ⟨unit, driven, (once.2 addSensor ⟨900, 900, 900, 900⟩ (.raised "again") rfl (clock ▸ by decide) (by decide)).1⟩

end CommandUnit

end Wqm1.Cloud
