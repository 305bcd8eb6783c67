import Wqm1.Library.Dict
import Mathlib.Data.Rat.Floor

/-! The device commands of the cloud: which of them are executed, and the cache of their
outcomes. -/

set_option autoImplicit false

namespace Wqm1.Cloud

open Wqm1.Library

variable {Object : Type}

/-- A value of a JSON document; a missing key reads as `null`. -/
inductive JsonValue (Object : Type) where
  | null
  | bool (value : Bool)
  | integer (value : Int)
  | real (value : Rat)
  | nonFinite
  | text (value : String)
  | array
  | object (value : Object)
deriving DecidableEq

inductive CommandStatus where
  | applied | rejected
deriving DecidableEq

structure CommandOutcome (Object : Type) where
  status : CommandStatus
  result : Option Object := none
  message : String := ""
deriving DecidableEq

structure Handled (Object : Type) where
  outcome : CommandOutcome Object
  expiresAtMs : Int
deriving DecidableEq

/-- A command as it is handed out; `keys` are all of its keys. -/
structure DeviceCommand (Object : Type) where
  keys : List String
  id : JsonValue Object
  type : JsonValue Object
  expiresAt : JsonValue Object
  payload : JsonValue Object
deriving DecidableEq

/-- How the handler of a command ends. -/
inductive Execution (Object : Type) where
  | applied (message : String) (result : Option Object)
  | rejected (message : String)
  | raised (text : String)

/-- The clock in milliseconds, at the places where a command's application reads it. -/
structure Readings where
  evict : Int
  keepUntil : Int
  check : Int
  store : Int

def commandTypes : List String := ["ph_calibrate", "rs485_config"]

def commandKeys : List String := ["id", "type", "payload", "expiresAt"]

def messageMax : Nat := 200

def handledWithoutExpiresMs : Int := 24 * 60 * 60 * 1000

/-- `message[:200]`. -/
def clip (message : String) : String := String.ofList (message.toList.take messageMax)

def rejected (message : String) : CommandOutcome Object :=
  { status := .rejected, message := clip message }

def applied (message : String) (result : Option Object) : CommandOutcome Object :=
  { status := .applied, result := result, message := clip message }

def Execution.outcome : Execution Object → CommandOutcome Object
  | applied message result => Cloud.applied message result
  | rejected message => Cloud.rejected message
  | raised text => Cloud.rejected (if text = "" then "command failed" else text)

/-- `float(value)` raises an `OverflowError`: the value rounds to 2^1024 or more. -/
def floatOverflows (value : Int) : Prop := 2 ^ 1024 - 2 ^ 970 ≤ value.natAbs

instance (value : Int) : Decidable (floatOverflows value) := inferInstanceAs (Decidable (_ ≤ _))

/-- `int(value)` of a fraction. -/
def truncate (value : Rat) : Int := if 0 ≤ value then ⌊value⌋ else ⌈value⌉

/-- The number of milliseconds at a finite number; `none` is the overflow. A fraction
beyond the range of a float reads as infinity. -/
def finiteMs : JsonValue Object → Option (Option Int)
  | .integer value => if floatOverflows value then none else some (some value)
  | .real value => some (if floatOverflows (truncate value) then none else some (truncate value))
  | _ => some none

section

variable (isoMs : String → Option Int)

/-- `_parse_expires_at_ms`: `some none` is an unusable value, `none` the overflow. `isoMs`
reads an ISO-8601 text; a text that is blank or of another form is `none`. -/
def parseExpiresAtMs (raw : JsonValue Object) : Option (Option Int) :=
  match finiteMs raw with
  | none => none
  | some (some value) => some (some value)
  | some none =>
    match raw with
    | .text text => some (isoMs text)
    | _ => some none

/-- `_keep_until_ms`. -/
def keepUntilMs (raw : JsonValue Object) (now : Int) : Option Int :=
  (parseExpiresAtMs isoMs raw).map fun parsed => parsed.getD (now + handledWithoutExpiresMs)

/-- The first of some strings in the order of their characters. -/
def smallest : List String → Option String
  | [] => none
  | head :: rest =>
    match smallest rest with
    | none => some head
    | some other => some (if head < other then head else other)

def unexpected (keys allowed : List String) : Option String :=
  (smallest (keys.filter fun key => key ∉ allowed)).map fun key => "unexpected field: " ++ key

/-- The outcome of a command that is not executed. -/
def screen (command : DeviceCommand Object) (now : Int) : Option (CommandOutcome Object) :=
  match unexpected command.keys commandKeys with
  | some message => some (rejected message)
  | none =>
    match command.type with
    | .text type =>
      if type = "" then some (rejected "missing type")
      else if type ∉ commandTypes then some (rejected "unknown type")
      else
        match command.expiresAt with
        | .null => some (rejected "missing expiresAt")
        | raw =>
          match parseExpiresAtMs isoMs raw with
          | some (some parsed) =>
            if parsed ≤ now then some (rejected "expired")
            else
              match command.payload with
              | .object _ => none
              | _ => some (rejected "payload must be an object")
          | _ => some (rejected "expiresAt must be epoch-ms or ISO-8601")
    | _ => some (rejected "missing type")

end

/-- An item of the cache file; `message` is the text that `str(… or "")` gives. -/
structure HandledBody (Object : Type) where
  status : JsonValue Object
  result : JsonValue Object
  message : String
  expiresAt : JsonValue Object

def CommandStatus.text : CommandStatus → String
  | applied => "applied"
  | rejected => "rejected"

def Handled.body (row : Handled Object) : HandledBody Object where
  status := .text row.outcome.status.text
  result := (row.outcome.result.map JsonValue.object).getD .null
  message := row.outcome.message
  expiresAt := .integer row.expiresAtMs

/-- The list in the cache file; an item of another shape is `none`. -/
abbrev CacheFile (Object : Type) := List (Option (String × HandledBody Object))

def saveHandled (handled : Dict String (Handled Object)) : CacheFile Object :=
  handled.entries.map fun entry => some (entry.1, entry.2.body)

def loadedStatus : JsonValue Object → Option CommandStatus
  | .text "applied" => some .applied
  | .text "rejected" => some .rejected
  | _ => none

def loadedResult : JsonValue Object → Option Object
  | .object value => some value
  | _ => none

/-- One item of the file; the outer `none` is the overflow. -/
def loadItem (fallback : Int) (handled : Dict String (Handled Object)) :
    Option (String × HandledBody Object) → Option (Dict String (Handled Object))
  | none => some handled
  | some (id, body) =>
    match loadedStatus body.status with
    | none => some handled
    | some status =>
      (finiteMs body.expiresAt).map fun expires => handled.set id
        { outcome := { status := status, result := loadedResult body.result, message := body.message }
          expiresAtMs := expires.getD fallback }

/-- `_load_handled`; an unreadable file or one that is no list is `none`. -/
def loadHandled (now : Int) : Option (CacheFile Object) → Option (Dict String (Handled Object))
  | none => some Dict.empty
  | some items => items.foldlM (loadItem (now + handledWithoutExpiresMs)) Dict.empty

/-- The dispatcher and its cache file. -/
structure Dispatcher (Object : Type) where
  handled : Dict String (Handled Object) := Dict.empty
  file : Option (CacheFile Object) := none

/-- How an application ends: with the outcome or an exception's text, and whether the
handler was called. -/
structure Application (Object : Type) where
  dispatcher : Dispatcher Object
  outcome : Except String (CommandOutcome Object)
  executed : Bool := false

namespace Dispatcher

variable (dispatcher : Dispatcher Object)

def evictExpired (now : Int) : Dispatcher Object :=
  { dispatcher with handled := dispatcher.handled.filter fun entry => now < entry.2.expiresAtMs }

def store (id : String) (outcome : CommandOutcome Object) (keepUntil now : Int) : Dispatcher Object :=
  let evicted := dispatcher.evictExpired now
  let handled := (evicted.handled.set id ⟨outcome, keepUntil⟩).moveToEnd id
  { handled := handled, file := some (saveHandled handled) }

/-- The `id` of a command, if it has one. -/
def commandId : JsonValue Object → Option String
  | .text id => if id = "" then none else some id
  | _ => none

def apply (isoMs : String → Option Int) (command : DeviceCommand Object) (readings : Readings)
    (execution : Execution Object) : Application Object :=
  match commandId command.id with
  | none => { dispatcher := dispatcher, outcome := .ok (rejected "missing id") }
  | some id =>
    let evicted := dispatcher.evictExpired readings.evict
    match evicted.handled.get id with
    | some row =>
      { dispatcher := { evicted with handled := evicted.handled.moveToEnd id }, outcome := .ok row.outcome }
    | none =>
      match keepUntilMs isoMs command.expiresAt readings.keepUntil with
      | none => { dispatcher := evicted, outcome := .error "int too large to convert to float" }
      | some keepUntil =>
        match screen isoMs command readings.check with
        | some outcome =>
          { dispatcher := evicted.store id outcome keepUntil readings.store, outcome := .ok outcome }
        | none =>
          { dispatcher := evicted.store id execution.outcome keepUntil readings.store
            outcome := .ok execution.outcome
            executed := true }

/-- A new process. -/
def restart (now : Int) : Option (Dispatcher Object) :=
  (loadHandled now dispatcher.file).map fun handled => { dispatcher with handled := handled }

variable {dispatcher} {isoMs : String → Option Int}

/-- A command that is executed has an expiry that is still to come. -/
theorem expiry_of_screen {command : DeviceCommand Object} {now : Int} (passed : screen isoMs command now = none) :
    ∃ parsed, parseExpiresAtMs isoMs command.expiresAt = some (some parsed) ∧ now < parsed := by
  unfold screen at passed
  split at passed
  next => cases passed
  next =>
    split at passed
    next type =>
      split at passed
      next => cases passed
      next =>
        split at passed
        next => cases passed
        next =>
          split at passed
          next => cases passed
          next raw =>
            split at passed
            next parsed usable =>
              split at passed
              next => cases passed
              next early => exact ⟨parsed, usable, not_le.mp early⟩
            next => cases passed
    next => cases passed

theorem keepUntilMs_of_usable {raw : JsonValue Object} {parsed : Int}
    (usable : parseExpiresAtMs isoMs raw = some (some parsed)) (now : Int) :
    keepUntilMs isoMs raw now = some parsed := by
  rw [keepUntilMs, usable]
  rfl

theorem get_evictExpired {now : Int} {id : String} {row : Handled Object} :
    (dispatcher.evictExpired now).handled.get id = some row ↔
      dispatcher.handled.get id = some row ∧ now < row.expiresAtMs := by
  unfold evictExpired
  rw [Dict.get_filter_eq_some_iff, decide_eq_true_eq]

theorem get_store (id other : String) (outcome : CommandOutcome Object) (keepUntil now : Int) :
    (dispatcher.store id outcome keepUntil now).handled.get other =
      if other = id then some ⟨outcome, keepUntil⟩ else (dispatcher.evictExpired now).handled.get other := by
  unfold store
  rw [Dict.get_moveToEnd, Dict.get_set]

theorem file_store (id : String) (outcome : CommandOutcome Object) (keepUntil now : Int) :
    (dispatcher.store id outcome keepUntil now).file =
      some (saveHandled (dispatcher.store id outcome keepUntil now).handled) := rfl

theorem loadItem_body {fallback : Int} {loaded after : Dict String (Handled Object)} {id : String}
    {row : Handled Object} (read : loadItem fallback loaded (some (id, row.body)) = some after) :
    after = loaded.set id row := by
  obtain ⟨⟨status, result, message⟩, expiresAtMs⟩ := row
  have known : loadedStatus (.text status.text : JsonValue Object) = some status := by
    cases status <;> rfl
  have kept : loadedResult ((result.map JsonValue.object).getD .null) = result := by
    cases result <;> rfl
  unfold loadItem Handled.body at read
  dsimp only at read
  rw [known, kept] at read
  unfold finiteMs at read
  dsimp only at read
  split at read
  next => cases read
  next => exact (Option.some.inj read).symm

/-- What is read back is what was saved. -/
theorem load_saved {now : Int} {saved loaded : Dict String (Handled Object)}
    (read : loadHandled now (some (saveHandled saved)) = some loaded) : loaded = saved := by
  have fold {entries : List (String × Handled Object)} {before : Dict String (Handled Object)}
      (read : (entries.map fun entry => some (entry.1, entry.2.body)).foldlM
        (loadItem (now + handledWithoutExpiresMs)) before = some loaded) :
      loaded = entries.foldl (fun dict entry => dict.set entry.1 entry.2) before := by
    induction entries generalizing before with
    | nil => exact (Option.some.inj read).symm
    | cons entry rest ih =>
      rw [List.map_cons, List.foldlM_cons] at read
      obtain ⟨after, first, later⟩ := Option.bind_eq_some_iff.mp read
      rw [loadItem_body first] at later
      exact ih later
  apply Dict.ext
  rw [fold read, Dict.entries_foldl_set]
  · rfl
  · exact saved.nodup

end Dispatcher

end Wqm1.Cloud
