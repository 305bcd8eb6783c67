import Wqm1.Library.Events
import Wqm1.Library.Text
import Mathlib.Logic.Function.Basic

/-! The publisher for Home Assistant, its MQTT client, and what the brokers retain. -/

set_option autoImplicit false

namespace Wqm1.Integrations.HomeAssistant

open Wqm1.Library Wqm1.Library.Events

structure Entity where
  key : String
  name : String
  unit : String
  deviceClass : Option String := none
  stateClass : Option String := some "measurement"
  icon : Option String := none
deriving DecidableEq

def entities : List Entity := [
  { key := "temperature", name := "Water temperature", unit := "°C", deviceClass := some "temperature" },
  { key := "ph", name := "pH", unit := "pH", deviceClass := some "ph" },
  { key := "tds", name := "TDS", unit := "ppm", icon := some "mdi:water-opacity" },
  { key := "turbidity", name := "Turbidity", unit := "NTU", icon := some "mdi:blur" },
  { key := "orp", name := "ORP", unit := "mV", icon := some "mdi:flash-outline" },
  { key := "chlorine", name := "Residual chlorine", unit := "mg/L", icon := some "mdi:test-tube" },
  { key := "conductivity", name := "Conductivity", unit := "µS/cm", icon := some "mdi:omega" },
  { key := "salinity", name := "Salinity", unit := "ppt", icon := some "mdi:shaker-outline" },
  { key := "flow_rate", name := "Flow rate", unit := "gal/min", deviceClass := some "volume_flow_rate" },
  { key := "flow_total", name := "Water produced", unit := "gal", deviceClass := some "water",
    stateClass := some "total_increasing" }]

def holdEntity : Entity :=
  { key := "irrigation_hold", name := "Irrigation hold", unit := "", stateClass := none, icon := some "mdi:sprinkler-variant" }

def defaultPort : Int := 1883

def defaultTlsPort : Int := 8883

def defaultDiscoveryPrefix : Text := "homeassistant".toList

def topicRoot : Text := "bluesignal/wqm1".toList

structure Topics where
  state : Text
  availability : Text
  discoveryPrefix : Text
deriving DecidableEq

def stripSlashes (text : Text) : Text := (text.dropWhile (· = '/')).rdropWhile (· = '/')

def topicsFor (node discoveryPrefix : Text) : Topics where
  state := topicRoot ++ '/' :: (node ++ "/state".toList)
  availability := topicRoot ++ '/' :: (node ++ "/availability".toList)
  discoveryPrefix := stripSlashes (if discoveryPrefix = [] then defaultDiscoveryPrefix else discoveryPrefix)

/-- A config document: the entity and the topics that it names, and the version of the device. -/
structure ConfigDocument where
  entity : Entity
  uniqueId : Text
  stateTopic : Text
  availabilityTopic : Text
  swVersion : Text
deriving DecidableEq

inductive Payload where
  | config (document : ConfigDocument)
  | online
  | offline
deriving DecidableEq

abbrev Message := Text × Payload

def configMessage (node firmware discoveryPrefix kind : Text) (entity : Entity) : Message :=
  let topics := topicsFor node discoveryPrefix
  (topics.discoveryPrefix ++ '/' :: (kind ++ '/' :: (node ++ '/' :: (entity.key.toList ++ "/config".toList))),
    .config
      { entity
        uniqueId := node ++ '_' :: entity.key.toList
        stateTopic := topics.state
        availabilityTopic := topics.availability
        swVersion := firmware })

def discoveryMessages (node firmware discoveryPrefix : Text) : List Message :=
  entities.map (configMessage node firmware discoveryPrefix "sensor".toList) ++
    [configMessage node firmware discoveryPrefix "binary_sensor".toList holdEntity]

structure Connection where
  host : Text := []
  port : Int := 0
  username : Text := []
  password : Text := []
  tls : Bool := false
deriving DecidableEq

/-- The `mqtt_*` settings. -/
structure MqttSettings where
  mqttEnabled : Bool
  mqttHost : Text
  mqttPort : Int := 0
  mqttUsername : Text := []
  mqttPassword : Text := []
  mqttTls : Bool := false
  mqttDiscoveryPrefix : Text := defaultDiscoveryPrefix

def connectionFrom (settings : MqttSettings) : Connection where
  host := Text.strip settings.mqttHost
  port := if settings.mqttPort ≤ 0 then (if settings.mqttTls then defaultTlsPort else defaultPort) else settings.mqttPort
  username := settings.mqttUsername
  password := settings.mqttPassword
  tls := settings.mqttTls

/-- `MqttAdapter`: where it connects to, its will, and whether it is connected. -/
structure MqttAdapter where
  host : Text
  port : Int
  willTopic : Text
  connected : Bool := false
deriving DecidableEq

inductive Fault where
  | noHost
  | libraryMissing
  | startFailed
deriving DecidableEq

structure HomeAssistantPublisher where
  node : Text
  firmware : Text
  adapter : Option MqttAdapter := none
  enabled : Bool := false
  conn : Connection := {}
  discoveryPrefix : Text := defaultDiscoveryPrefix
  error : Option Fault := none
  announced : Bool := false
  pushes : Nat := 0
deriving DecidableEq

abbrev Broker := Text × Int

def MqttAdapter.broker (adapter : MqttAdapter) : Broker := (adapter.host, adapter.port)

/-- A unit and the brokers, with the retained messages that each has received, the latest first.
For the statements only, `lost` says that the connection of the announcement was lost, and
`updated` that the last event was an update while connected all of whose publishes succeeded. -/
structure Site where
  publisher : HomeAssistantPublisher
  received : Broker → List Message
  lost : Bool := false
  updated : Bool := false

/-- How the construction and the start of a client turn out. -/
inductive Started where
  | works
  | libraryMissing
  | raises
deriving DecidableEq

/-- `farewell` says whether the goodbye of a client that is stopped reaches the broker, and
`fails` after how many publishes of an update the client raises, if it does, at the latest
with the state document. -/
inductive SiteEvent where
  | configure (settings : MqttSettings) (started : Started) (farewell : Bool)
  | update (fails : Option Nat)
  | connect (accepted : Bool)
  | disconnect
  | stop (farewell : Bool)

namespace Site

def receive (site : Site) (broker : Broker) (messages : List Message) : Site :=
  { site with received := Function.update site.received broker (messages.reverse ++ site.received broker) }

def retained (site : Site) (broker : Broker) (topic : Text) : Option Payload := (site.received broker).lookup topic

def topics (site : Site) : Topics := topicsFor site.publisher.node site.publisher.discoveryPrefix

/-- `_start_locked`. -/
def start (site : Site) (started : Started) : Site :=
  let publisher := site.publisher
  match started with
  | .works =>
    { site with
      publisher := { publisher with
        adapter := some { host := publisher.conn.host, port := publisher.conn.port, willTopic := site.topics.availability }
        announced := false }
      lost := false }
  | .libraryMissing => { site with publisher := { publisher with adapter := none, error := some .libraryMissing } }
  | .raises => { site with publisher := { publisher with adapter := none, error := some .startFailed } }

/-- `_stop_locked` and `MqttAdapter.stop`. -/
def stop (site : Site) (farewell : Bool) : Site :=
  let stopped := { site with publisher := { site.publisher with adapter := none, announced := false }, lost := false }
  match site.publisher.adapter with
  | none => stopped
  | some adapter =>
    if adapter.connected && farewell then stopped.receive adapter.broker [(adapter.willTopic, .offline)] else stopped

/-- The settings are taken over, and a host that has arrived clears its error. -/
def snapshot (site : Site) (conn : Connection) (discoveryPrefix : Text) : Site :=
  { site with
    publisher := { site.publisher with
      conn, discoveryPrefix
      error := if site.publisher.error = some .noHost ∧ conn.host ≠ [] then none else site.publisher.error } }

def configure (site : Site) (settings : MqttSettings) (started : Started) (farewell : Bool) : Site :=
  let conn := connectionFrom settings
  let stripped := stripSlashes settings.mqttDiscoveryPrefix
  let discoveryPrefix := if stripped = [] then defaultDiscoveryPrefix else stripped
  let changed := site.publisher.adapter.isSome &&
    (conn ≠ site.publisher.conn || discoveryPrefix ≠ site.publisher.discoveryPrefix)
  let taken := site.snapshot conn discoveryPrefix
  let moved :=
    if settings.mqttEnabled && conn.host = [] then
      let stopped := if taken.publisher.adapter.isSome then taken.stop farewell else taken
      { stopped with publisher := { stopped.publisher with error := some .noHost } }
    else if settings.mqttEnabled && (taken.publisher.adapter.isNone || changed) && taken.publisher.error.isNone then
      (if changed then taken.stop farewell else taken).start started
    else if !settings.mqttEnabled && taken.publisher.adapter.isSome then taken.stop farewell
    else taken
  { moved with
    publisher := { moved.publisher with
      error := if settings.mqttEnabled then moved.publisher.error else none
      enabled := settings.mqttEnabled } }

/-- What an update publishes to be retained. -/
def announcement (publisher : HomeAssistantPublisher) : List Message :=
  if publisher.announced then []
  else
    discoveryMessages publisher.node publisher.firmware publisher.discoveryPrefix ++
      [((topicsFor publisher.node publisher.discoveryPrefix).availability, .online)]

/-- `_push`; the state document, which is not retained, comes last. -/
def push (site : Site) (fails : Option Nat) : Site :=
  match site.publisher.adapter with
  | none => site
  | some adapter =>
    if !adapter.connected then site
    else
      let messages := announcement site.publisher
      let sent := fails.elim messages fun count => messages.take count
      let whole : Bool := sent.length = messages.length
      let told := site.receive adapter.broker sent
      { told with
        publisher := { site.publisher with
          announced := site.publisher.announced || whole
          pushes := if fails.isNone then site.publisher.pushes + 1 else site.publisher.pushes }
        updated := fails.isNone }

/-- A callback of the client, or the broker's: the will of a connection that is lost is published. -/
def connect (site : Site) (accepted : Bool) : Option Site :=
  match site.publisher.adapter with
  | none => none
  | some adapter =>
    if adapter.connected then none
    else some { site with publisher := { site.publisher with adapter := some { adapter with connected := accepted } } }

def disconnect (site : Site) : Option Site :=
  match site.publisher.adapter with
  | none => none
  | some adapter =>
    if !adapter.connected then none
    else
      let dropped := { site with
        publisher := { site.publisher with adapter := some { adapter with connected := false } }
        lost := site.lost || site.publisher.announced }
      some (dropped.receive adapter.broker [(adapter.willTopic, .offline)])

def step (site : Site) : SiteEvent → Option Site
  | .configure settings started farewell => some ({ site with updated := false }.configure settings started farewell)
  | .update fails => some ({ site with updated := false }.push fails)
  | .connect accepted => { site with updated := false }.connect accepted
  | .disconnect => { site with updated := false }.disconnect
  | .stop farewell => some ({ site with updated := false }.stop farewell)

end Site

/-- A unit at start, with whatever the brokers retain. -/
def initial (node firmware : Text) (received : Broker → List Message) : Site :=
  { publisher := { node, firmware }, received }

/-- Where the last event was an update that went well, the unit is shown online and every entity
has been announced under the current prefix. -/
def Available (site : Site) : Prop :=
  site.updated = true → ∃ adapter, site.publisher.adapter = some adapter ∧
    adapter.broker = (site.publisher.conn.host, site.publisher.conn.port) ∧
    site.retained adapter.broker site.topics.availability = some .online ∧
    ∀ message ∈ discoveryMessages site.publisher.node site.publisher.firmware site.publisher.discoveryPrefix,
      message ∈ site.received adapter.broker

/-- No update goes well on a connection later than that of the announcement. -/
def FirstConnection (site : Site) : SiteEvent → Prop
  | .update none => (site.publisher.adapter.any fun adapter => adapter.connected) = true → site.lost = false
  | _ => True

namespace Site

variable {site : Site}

theorem received_receive (site : Site) (broker : Broker) (messages : List Message) :
    (site.receive broker messages).received broker = messages.reverse ++ site.received broker :=
  Function.update_self ..

theorem retained_receive (site : Site) (broker : Broker) (messages : List Message) (topic : Text) (payload : Payload) :
    (site.receive broker (messages ++ [(topic, payload)])).retained broker topic = some payload := by
  unfold retained
  rw [received_receive, List.reverse_append]
  exact List.lookup_cons_self

theorem mem_receive {broker : Broker} {message : Message} (member : message ∈ site.received broker)
    (messages : List Message) : message ∈ (site.receive broker messages).received broker := by
  rw [received_receive]
  exact List.mem_append_right _ member

/-- There is no client. -/
structure Resting (site : Site) : Prop where
  adapter : site.publisher.adapter = none
  announced : site.publisher.announced = false
  lost : site.lost = false
  updated : site.updated = false

/-- The broker of a client that has announced has every announcement, and shows the unit online
unless the connection was lost since. -/
structure Clean (site : Site) : Prop where
  client : ∀ adapter, site.publisher.adapter = some adapter →
    adapter.broker = (site.publisher.conn.host, site.publisher.conn.port) ∧
      adapter.willTopic = site.topics.availability ∧ site.publisher.error = none
  idle : site.publisher.adapter = none → site.publisher.announced = false
  shown : ∀ adapter, site.publisher.adapter = some adapter → site.publisher.announced = true →
    site.retained adapter.broker site.topics.availability = some (if site.lost then .offline else .online) ∧
      ∀ message ∈ discoveryMessages site.publisher.node site.publisher.firmware site.publisher.discoveryPrefix,
        message ∈ site.received adapter.broker
  lost : site.lost = true → site.publisher.announced = true
  updated : site.updated = true → site.publisher.announced = true ∧ site.lost = false

theorem Clean.available (clean : site.Clean) : Available site := by
  intro updated
  obtain ⟨announced, kept⟩ := clean.updated updated
  cases there : site.publisher.adapter with
  | none =>
    rw [clean.idle there] at announced
    cases announced
  | some adapter =>
    obtain ⟨retained, every⟩ := clean.shown adapter there announced
    rw [kept] at retained
    exact ⟨adapter, rfl, (clean.client adapter there).1, retained, every⟩

theorem Resting.clean (resting : site.Resting) : site.Clean where
  client adapter there := by
    rw [resting.adapter] at there
    cases there
  idle _ := resting.announced
  shown adapter there := by
    rw [resting.adapter] at there
    cases there
  lost impossible := by
    rw [resting.lost] at impossible
    cases impossible
  updated impossible := by
    rw [resting.updated] at impossible
    cases impossible

/-- The end of an update leaves what is known but that it was one. -/
theorem Clean.later (clean : site.Clean) : ({ site with updated := false } : Site).Clean where
  client := clean.client
  idle := clean.idle
  shown := clean.shown
  lost := clean.lost
  updated impossible := by cases impossible

theorem Clean.resting (clean : site.Clean) (absent : site.publisher.adapter = none) (updated : site.updated = false) :
    site.Resting where
  adapter := absent
  announced := clean.idle absent
  lost := by
    cases gone : site.lost with
    | false => rfl
    | true => exact (clean.lost gone).symm.trans (clean.idle absent)
  updated := updated

theorem resting_stop (updated : site.updated = false) (farewell : Bool) : (site.stop farewell).Resting := by
  unfold stop
  dsimp only
  split
  next => exact ⟨rfl, rfl, rfl, updated⟩
  next => split <;> exact ⟨rfl, rfl, rfl, updated⟩

@[simp] theorem error_stop (site : Site) (farewell : Bool) : (site.stop farewell).publisher.error = site.publisher.error := by
  unfold stop
  dsimp only
  split
  next => rfl
  next => split <;> rfl

theorem Resting.start (resting : site.Resting) (fine : site.publisher.error = none) (started : Started) :
    (site.start started).Clean := by
  cases started with
  | libraryMissing => exact Resting.clean ⟨rfl, resting.announced, resting.lost, resting.updated⟩
  | raises => exact Resting.clean ⟨rfl, resting.announced, resting.lost, resting.updated⟩
  | works =>
    exact {
      client := fun adapter there => by
        cases there
        exact ⟨rfl, rfl, fine⟩
      idle := fun _ => rfl
      shown := fun _ _ impossible => by cases impossible
      lost := fun impossible => by cases impossible
      updated := fun impossible => by
        rw [show (site.start .works).updated = site.updated from rfl, resting.updated] at impossible
        cases impossible }

/-- The end of `configure`. -/
theorem Clean.marked (clean : site.Clean) (enabled : Bool) :
    ({ site with publisher := { site.publisher with
        error := if enabled then site.publisher.error else none, enabled } } : Site).Clean where
  client adapter there := by
    obtain ⟨broker, willTopic, fine⟩ := clean.client adapter there
    refine ⟨broker, willTopic, ?_⟩
    dsimp only
    split
    next => exact fine
    next => rfl
  idle := clean.idle
  shown := clean.shown
  lost := clean.lost
  updated := clean.updated

theorem Resting.snapshot (resting : site.Resting) (conn : Connection) (discoveryPrefix : Text) :
    (site.snapshot conn discoveryPrefix).Resting :=
  ⟨resting.adapter, resting.announced, resting.lost, resting.updated⟩

/-- Settings that have not changed are taken over. -/
theorem Clean.snapshot_same (clean : site.Clean) :
    (site.snapshot site.publisher.conn site.publisher.discoveryPrefix).Clean where
  client adapter there := by
    obtain ⟨broker, willTopic, fine⟩ := clean.client adapter there
    refine ⟨broker, willTopic, ?_⟩
    show (if site.publisher.error = some .noHost ∧ _ then none else site.publisher.error) = none
    rw [fine, ite_self]
  idle := clean.idle
  shown := clean.shown
  lost := clean.lost
  updated := clean.updated

theorem Clean.configure (clean : site.Clean) (updated : site.updated = false) (settings : MqttSettings)
    (started : Started) (farewell : Bool) : (site.configure settings started farewell).Clean := by
  unfold Site.configure
  dsimp only
  refine Clean.marked ?_ settings.mqttEnabled
  generalize connectionFrom settings = conn
  generalize (if stripSlashes settings.mqttDiscoveryPrefix = [] then defaultDiscoveryPrefix
    else stripSlashes settings.mqttDiscoveryPrefix) = discoveryPrefix
  have same : (site.snapshot conn discoveryPrefix).publisher.adapter = site.publisher.adapter := rfl
  have later : (site.snapshot conn discoveryPrefix).updated = false := updated
  have stopped := resting_stop later farewell
  have rests (absent : site.publisher.adapter = none) : (site.snapshot conn discoveryPrefix).Resting :=
    (clean.resting absent updated).snapshot conn discoveryPrefix
  rw [same]
  split
  next =>
    refine Resting.clean ?_
    split
    next => exact ⟨stopped.adapter, stopped.announced, stopped.lost, stopped.updated⟩
    next absent =>
      have rest := rests (Option.not_isSome_iff_eq_none.mp absent)
      exact ⟨rest.adapter, rest.announced, rest.lost, rest.updated⟩
  next =>
    split
    next starts =>
      obtain ⟨due, fine⟩ := (Bool.and_eq_true _ _).mp starts
      have fine := Option.isNone_iff_eq_none.mp fine
      split
      next => exact stopped.start ((error_stop _ farewell).trans fine) started
      next unchanged =>
        have absent := ((Bool.and_eq_true _ _).mp due).2
        rw [Bool.not_eq_true _ |>.mp unchanged, Bool.or_false] at absent
        exact (rests (Option.isNone_iff_eq_none.mp absent)).start fine started
    next idle =>
      split
      next => exact stopped.clean
      next runs =>
        cases there : site.publisher.adapter with
        | none => exact (rests there).clean
        | some adapter =>
          have fine := (clean.client adapter there).2.2
          have kept : (site.snapshot conn discoveryPrefix).publisher.error = none := by
            show (if site.publisher.error = some .noHost ∧ _ then none else site.publisher.error) = none
            rw [fine, ite_self]
          rw [there, kept] at idle
          rw [there] at runs
          have unchanged : conn = site.publisher.conn ∧ discoveryPrefix = site.publisher.discoveryPrefix := by
            simp only [Option.isSome_some, Bool.and_true, Bool.not_eq_true, Bool.not_eq_false'] at runs
            simpa [runs] using idle
          rw [unchanged.1, unchanged.2]
          exact clean.snapshot_same

theorem Clean.connect {after : Site} (clean : site.Clean) {accepted : Bool} (done : site.connect accepted = some after) :
    after.Clean := by
  unfold Site.connect at done
  cases there : site.publisher.adapter with
  | none =>
    rw [there] at done
    cases done
  | some adapter =>
    rw [there] at done
    obtain ⟨-, done⟩ := Option.ite_none_left_eq_some.mp done
    cases done
    exact {
      client := fun other same => by
        cases same
        exact clean.client adapter there
      idle := fun impossible => by cases impossible
      shown := fun other same announced => by
        cases same
        exact clean.shown adapter there announced
      lost := clean.lost
      updated := clean.updated }

theorem Clean.disconnect {after : Site} (clean : site.Clean) (updated : site.updated = false)
    (done : site.disconnect = some after) : after.Clean := by
  unfold Site.disconnect at done
  cases there : site.publisher.adapter with
  | none =>
    rw [there] at done
    cases done
  | some adapter =>
    rw [there] at done
    obtain ⟨-, done⟩ := Option.ite_none_left_eq_some.mp done
    cases done
    obtain ⟨broker, willTopic, fine⟩ := clean.client adapter there
    refine ⟨fun other same => ?_, fun impossible => (by cases impossible), fun other same announced => ?_, ?_, ?_⟩
    · cases same
      exact ⟨broker, willTopic, fine⟩
    · cases same
      have announced : site.publisher.announced = true := announced
      have offline (dropped : Site) : (dropped.receive adapter.broker [(adapter.willTopic, .offline)]).retained
          adapter.broker site.topics.availability = some .offline := by
        rw [← willTopic]
        exact retained_receive dropped adapter.broker [] adapter.willTopic .offline
      constructor
      · refine (offline _).trans ?_
        show some Payload.offline = some (if (site.lost || site.publisher.announced) = true then .offline else .online)
        rw [announced, Bool.or_true, if_pos rfl]
      · intro message member
        exact mem_receive ((clean.shown adapter there announced).2 message member) _
    · intro gone
      rcases Bool.or_eq_true_iff.mp gone with before | now
      · exact clean.lost before
      · exact now
    · intro impossible
      have impossible : site.updated = true := impossible
      cases updated.symm.trans impossible

theorem receive_nil (site : Site) (broker : Broker) : site.receive broker [] = site := by
  unfold receive
  rw [List.reverse_nil, List.nil_append, Function.update_eq_self]

theorem announcement_announced (announced : site.publisher.announced = true) : announcement site.publisher = [] :=
  if_pos announced

theorem announcement_fresh (fresh : site.publisher.announced = false) :
    announcement site.publisher =
      discoveryMessages site.publisher.node site.publisher.firmware site.publisher.discoveryPrefix ++
        [(site.topics.availability, .online)] :=
  if_neg (ne_true_of_eq_false fresh)

/-- What an update of a connected client leaves, by how much of the announcement it sent. -/
theorem Clean.published (clean : site.Clean) {adapter : MqttAdapter} (there : site.publisher.adapter = some adapter)
    (fails : Option Nat) (first : fails = none → site.lost = false) {sent : List Message} {pushes : Nat}
    (whole : fails = none → sent = announcement site.publisher)
    (prefixed : sent <+: announcement site.publisher) :
    ({ site.receive adapter.broker sent with
        publisher := { site.publisher with
          announced := site.publisher.announced || (sent.length = (announcement site.publisher).length : Bool)
          pushes }
        updated := fails.isNone } : Site).Clean := by
  cases announced : site.publisher.announced with
  | true =>
    have nothing := announcement_announced announced
    rw [nothing] at prefixed
    cases List.prefix_nil.mp prefixed
    rw [receive_nil]
    exact {
      client := clean.client
      idle := fun impossible => by
        cases there.symm.trans impossible
      shown := fun other same _ => clean.shown other same announced
      lost := fun _ => rfl
      updated := fun last => ⟨rfl, first (Option.isNone_iff_eq_none.mp last)⟩ }
  | false =>
    have kept : site.lost = false := by
      cases gone : site.lost with
      | false => rfl
      | true => exact (clean.lost gone).symm.trans announced
    refine ⟨clean.client, fun impossible => (by cases there.symm.trans impossible), ?_, ?_, ?_⟩
    · intro other same now
      cases there.symm.trans same
      have now : sent = announcement site.publisher := prefixed.eq_of_length (of_decide_eq_true now)
      rw [announcement_fresh announced] at now
      subst now
      constructor
      · refine (retained_receive site adapter.broker _ site.topics.availability .online).trans ?_
        show some Payload.online = some (if site.lost = true then .offline else .online)
        rw [kept]
        rfl
      · intro message member
        show message ∈ (site.receive adapter.broker _).received adapter.broker
        rw [received_receive]
        exact List.mem_append_left _ (List.mem_reverse.mpr (List.mem_append_left _ member))
    · intro gone
      have gone : site.lost = true := gone
      cases kept.symm.trans gone
    · intro last
      have all := whole (Option.isNone_iff_eq_none.mp last)
      exact ⟨decide_eq_true (congrArg List.length all), kept⟩

theorem Clean.push (clean : site.Clean) (fails : Option Nat)
    (first : fails = none → (site.publisher.adapter.any fun adapter => adapter.connected) = true → site.lost = false) :
    (site.push fails).Clean := by
  unfold Site.push
  cases there : site.publisher.adapter with
  | none => exact clean
  | some adapter =>
    rw [there] at first
    dsimp only
    split
    next => exact clean
    next connected =>
      have connected : adapter.connected = true := by simpa using connected
      refine clean.published there fails (fun fine => first fine connected) ?_ ?_
      · intro fine
        rw [fine]
        rfl
      · cases fails with
        | none => exact List.prefix_rfl
        | some count => exact List.take_prefix count _

theorem Clean.step {after : Site} {event : SiteEvent} (clean : site.Clean) (first : FirstConnection site event)
    (done : site.step event = some after) : after.Clean := by
  have later := clean.later
  cases event with
  | configure settings started farewell =>
    cases done
    exact later.configure rfl settings started farewell
  | update fails =>
    cases done
    refine later.push fails fun fine => ?_
    cases fine
    exact first
  | connect accepted => exact later.connect done
  | disconnect => exact later.disconnect rfl done
  | stop farewell =>
    cases done
    exact (resting_stop rfl farewell).clean

/-- An update after the announcement publishes nothing that is retained. -/
theorem push_again {adapter : MqttAdapter} (there : site.publisher.adapter = some adapter)
    (connected : adapter.connected = true) (announced : site.publisher.announced = true) :
    site.push none =
      { site with publisher := { site.publisher with pushes := site.publisher.pushes + 1 }, updated := true } := by
  unfold Site.push
  rw [there]
  dsimp only
  rw [connected, announcement_announced announced]
  show { site.receive adapter.broker [] with
    publisher := { site.publisher with
      announced := site.publisher.announced || true, pushes := site.publisher.pushes + 1 }, updated := true } = _
  rw [receive_nil, Bool.or_true, ← announced]

/-- An update that goes well on a later connection leaves the unit shown offline. -/
theorem Clean.unavailable {after : Site} {event : SiteEvent} (clean : site.Clean)
    (again : ¬ FirstConnection site event) (done : site.step event = some after) : ¬ Available after := by
  cases event with
  | update fails =>
    cases fails with
    | some count => exact absurd trivial again
    | none =>
      obtain ⟨connected, gone⟩ := Classical.not_imp.mp again
      have gone : site.lost = true := by simpa using gone
      have announced := clean.lost gone
      obtain ⟨adapter, there, connected⟩ := (Option.any_eq_true _ _).mp connected
      obtain ⟨offline, -⟩ := clean.shown adapter there announced
      have again := @push_again { site with updated := false } adapter there connected announced
      cases (Option.some.inj done).symm.trans again
      intro available
      obtain ⟨other, same, -, online, -⟩ := available rfl
      cases there.symm.trans same
      have offline : site.retained adapter.broker site.topics.availability = some .offline := by
        rw [offline, gone, if_pos rfl]
      cases offline.symm.trans online
  | configure | connect | disconnect | stop => exact absurd trivial again

end Site

/-- In a run from a unit's start, every update that goes well leaves the unit shown online if
and only if none is made on a connection later than that of the announcement. -/
theorem availability_iff (node firmware : Text) (received : Broker → List Message) (events : List SiteEvent) :
    Throughout Site.step Available (initial node firmware received) events ↔
      Along Site.step FirstConnection (initial node firmware received) events := by
  have begins : (initial node firmware received).Clean := Site.Resting.clean ⟨rfl, rfl, rfl, rfl⟩
  exact throughout_iff_along (fun clean => clean.available) (fun clean stepped first => clean.step first stepped)
    (fun clean stepped again => clean.unavailable again stepped) begins events

def brokerSettings : MqttSettings := { mqttEnabled := true, mqttHost := "homeassistant.local".toList }

/-- The connection is lost after the announcement and comes back. -/
def reconnectRun : List SiteEvent :=
  [.configure brokerSettings .works true, .connect true, .update none, .disconnect, .connect true, .update none]

theorem offline_after_reconnect : ¬ ∀ (node firmware : Text) (received : Broker → List Message) (events : List SiteEvent),
    Throughout Site.step Available (initial node firmware received) events := by
  intro claim
  have throughout := claim "wqm1_bs_0042".toList "2.4.0".toList (fun _ => []) reconnectRun
  have lost : ((play Site.step anything (initial "wqm1_bs_0042".toList "2.4.0".toList fun _ => []) reconnectRun).any
      fun site => site.updated && site.publisher.adapter.all fun adapter =>
        site.retained adapter.broker site.topics.availability = some .offline) = true := by decide +kernel
  obtain ⟨site, played, both⟩ := (Option.any_eq_true _ _).mp lost
  obtain ⟨updated, offline⟩ := (Bool.and_eq_true _ _).mp both
  obtain ⟨adapter, there, -, online, -⟩ := throughout.final played updated
  rw [there] at offline
  cases (of_decide_eq_true offline).symm.trans online

end Wqm1.Integrations.HomeAssistant
