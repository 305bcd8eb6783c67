import Wqm1.Network.Hotspot

/-! Who drives wlan0: NetworkManager and the hotspot never at once, and never neither. -/

set_option autoImplicit false

namespace Wqm1.Network.Hotspot

open Wqm1.Library Prog

namespace Radio

/-- dnsmasq runs only beside hostapd, and NetworkManager manages the interface only without both. -/
structure Owned (radio : Radio) : Prop where
  served : radio.dnsmasq = true → radio.hostapd = true
  apart : radio.shaken = false → radio.faults = false → radio.managed = true → radio.hostapd = false

/-- NetworkManager has the interface to itself. -/
structure Down (radio : Radio) : Prop where
  managed : radio.managed = true
  hostapd : radio.hostapd = false
  dnsmasq : radio.dnsmasq = false
  address : radio.address = false

/-- The hotspot beacons, hands out addresses and answers at its own. -/
structure Complete (radio : Radio) : Prop where
  managed : radio.managed = false
  hostapd : radio.hostapd = true
  dnsmasq : radio.dnsmasq = true
  address : radio.address = true

end Radio

/-- What a program does to the radio alone. -/
def Keeps {α : Type} (program : Program α) (radio : Radio) (after : Option α → Radio → Prop) : Prop :=
  ∀ wlan : Wlan, wlan.toRadio = radio →
    program.Safe wifi (fun wlan => wlan.Owned) (fun result wlan => after result wlan.toRadio) wlan

def Call.quiet : Call → Bool
  | .begin _ | hold | deliver | reboot | apActive | ensureApUnits | deleteSetup | setManaged _ | addAddress | flush
  | start _ | stop _ => false
  | _ => true

section Rules

variable {α β : Type} {radio : Radio} {after : Option α → Radio → Prop}

theorem Keeps.mono {program : Program α} {weaker : Option α → Radio → Prop}
    (keeps : Keeps program radio after)
    (weaken : ∀ result radio, after result radio → weaker result radio) :
    Keeps program radio weaker :=
  fun wlan same => (keeps wlan same).mono fun result wlan => weaken result wlan.toRadio

theorem Keeps.done {value : α} (reached : after (some value) radio) :
    Keeps (pure value) radio after := by
  rintro _ rfl
  exact reached

theorem Keeps.raises (reached : after none radio) : Keeps raise radio after := by
  rintro _ rfl
  exact reached

theorem Keeps.bind {program : Program α} {next : α → Program β} {after : Option β → Radio → Prop}
    (normal : α → Radio → Prop) (first : Keeps program radio (ends normal (after none)))
    (rest : ∀ value radio, normal value radio → Keeps (next value) radio after) :
    Keeps (program >>= next) radio after := by
  intro wlan same
  refine Safe.bind (fun value wlan => normal value wlan.toRadio)
    ((first wlan same).mono fun result wlan reached => ?_)
    fun value wlan reached => rest value wlan.toRadio reached wlan rfl
  cases result <;> exact reached

theorem Keeps.caughtThen {program : Program α} {next : Option α → Program β}
    {after : Option β → Radio → Prop}
    (reached : Option α → Radio → Prop) (first : Keeps program radio reached)
    (rest : ∀ result radio, reached result radio → Keeps (next result) radio after) :
    Keeps (program.caught >>= next) radio after := by
  intro wlan same
  refine safe_monad_bind.mpr (safe_caught.mpr ((first wlan same).mono fun result wlan ended => ?_))
  exact rest result wlan.toRadio ended wlan rfl

theorem Keeps.askThen {request : Call} {next : request.Answer → Program α} (owned : radio.Owned)
    (answered : ∀ answer, request.possible radio (some answer) = true →
      Keeps (next answer) (request.onRadio (some answer) radio) after)
    (raised : request.possible radio none = true → after none (request.onRadio none radio)) :
    Keeps (ask request >>= next) radio after := by
  rintro wlan rfl
  exact Safe.invokeThen owned (fun answer possible => answered answer possible _ rfl) raised

theorem Keeps.askLast {request : Call} {after : Option request.Answer → Radio → Prop}
    (owned : radio.Owned)
    (answered : ∀ answer, request.possible radio answer = true → after answer (request.onRadio answer radio)) :
    Keeps (ask request) radio after := by
  rintro wlan rfl
  refine safe_call owned fun answer possible => ?_
  cases answer <;> exact answered _ possible

theorem onRadio_quiet {request : Call} (quiet : request.quiet = true)
    (answer : Option request.Answer)
    (radio : Radio) : request.onRadio answer radio = radio := by
  cases request <;> first | rfl | cases quiet

theorem possible_quiet {request : Call} (quiet : request.quiet = true)
    (possible : request.possible radio none = true) : radio.interruptible = true := by
  cases request <;> first | exact possible | cases quiet

/-- A program that leaves the radio alone, and that raises only on SIGTERM. -/
def Quiet (program : Program α) : Prop :=
  ∀ radio : Radio, radio.Owned →
    Keeps program radio fun result after => after = radio ∧
      (result = none → radio.interruptible = true)

theorem Keeps.quietThen {program : Program α} {next : α → Program β}
    {after : Option β → Radio → Prop}
    (quiet : Quiet program) (owned : radio.Owned) (rest : ∀ value, Keeps (next value) radio after)
    (raised : radio.interruptible = true → after none radio) :
    Keeps (program >>= next) radio after := by
  refine Keeps.bind (fun _ seen => seen = radio) ((quiet radio owned).mono ?_) ?_
  · rintro result _ ⟨rfl, signal⟩
    cases result with
    | none => exact raised (signal rfl)
    | some value => rfl
  · rintro value _ rfl
    exact rest value

theorem Keeps.quietLast {program : Program α} (quiet : Quiet program) (owned : radio.Owned)
    (rest : ∀ value, after (some value) radio)
    (raised : radio.interruptible = true → after none radio) :
    Keeps program radio after := by
  refine (quiet radio owned).mono ?_
  rintro result _ ⟨rfl, signal⟩
  cases result with
  | none => exact raised (signal rfl)
  | some value => exact rest value

theorem Quiet.done (value : α) : Quiet (pure value) := fun _ _ => Keeps.done ⟨rfl, nofun⟩

theorem Quiet.bind {program : Program α} {next : α → Program β} (first : Quiet program)
    (rest : ∀ value, Quiet (next value)) : Quiet (program >>= next) :=
  fun radio owned => Keeps.quietThen first owned (fun value => rest value radio owned) fun signal => ⟨rfl, fun _ => signal⟩

theorem quiet_ask {request : Call} (quiet : request.quiet = true) : Quiet (ask request) := by
  rintro _ owned wlan rfl
  refine safe_call owned fun answer possible => ?_
  cases answer with
  | none => exact ⟨onRadio_quiet quiet none wlan.toRadio, fun _ => possible_quiet quiet possible⟩
  | some answer => exact ⟨onRadio_quiet quiet (some answer) wlan.toRadio, nofun⟩

theorem Quiet.given {body : Program Unit} (condition : Bool) (quiet : Quiet body) :
    Quiet (given condition body) := by
  unfold Hotspot.given
  split
  · exact quiet
  · exact .done ()

theorem Quiet.ite {condition : Prop} [Decidable condition] {first second : Program α}
    (left : Quiet first)
    (right : Quiet second) : Quiet (if condition then first else second) := by
  split
  · exact left
  · exact right

theorem Keeps.ite {condition : Prop} [Decidable condition] {first second : Program α}
    (left : condition → Keeps first radio after) (right : ¬ condition → Keeps second radio after) :
    Keeps (if condition then first else second) radio after := by
  split
  next holds => exact left holds
  next fails => exact right fails

end Rules

section AccessPoint

theorem quiet_armPortal : Quiet armPortal := .bind (quiet_ask rfl) fun _ => .done ()

theorem quiet_disarmPortal (reason : String) : Quiet (disarmPortal reason) :=
  .bind (quiet_ask rfl) fun _ => .done ()

variable {radio : Radio}

theorem Radio.torn_true (radio : Radio) : radio.torn true = radio := by simp [torn]

theorem Radio.Owned.torn_false (owned : radio.Owned) : (radio.torn false).Owned where
  served := owned.served
  apart _ sound := by simp [torn] at sound

/-- How far a teardown is, unless a step of it failed or was cut short. -/
structure Radio.Torn (before : Radio) (reached : Radio → Prop) (now : Radio) : Prop where
  owned : now.Owned
  interruptible : now.interruptible = before.interruptible
  sound : now.faults = false → before.faults = false ∧ reached now

/-- SIGTERM cut the teardown short. -/
structure Radio.Cut (before after : Radio) : Prop where
  owned : after.Owned
  faults : after.faults = true
  interruptible : before.interruptible = true

theorem Keeps.tearThen {α : Type} {before : Radio} {reached : Radio → Prop} {request : Call}
    {next : request.Answer → Program α} {after : Option α → Radio → Prop} (further : Radio → Prop)
    (torn : before.Torn reached radio)
    (steps : ∀ answer, request.possible radio answer = true → before.Torn further (request.onRadio answer radio))
    (cut : (request.onRadio none radio).faults = true) (signal : request.possible radio none = radio.interruptible)
    (raised : ∀ radio, before.Cut radio → after none radio)
    (rest : ∀ answer radio, before.Torn further radio → Keeps (next answer) radio after) :
    Keeps (ask request >>= next) radio after :=
  Keeps.askThen torn.owned (fun answer possible => rest answer _ (steps (some answer) possible))
    fun possible => raised _ ⟨(steps none possible).owned, cut, torn.interruptible ▸ signal ▸ possible⟩

theorem Radio.Torn.cut {before now : Radio} {reached further : Radio → Prop}
    (torn : before.Torn reached now) :
    before.Torn further (now.torn false) := by
  refine ⟨torn.owned.torn_false, torn.interruptible, fun sound => ?_⟩
  cases sound

/-- A step of a teardown that worked. -/
theorem Radio.Torn.step {before now after : Radio} {reached further : Radio → Prop}
    (torn : before.Torn reached now)
    (owned : after.Owned) (same : after.interruptible = now.interruptible) (faults : after.faults = now.faults)
    (moves : reached now → further after) : before.Torn further after := by
  refine ⟨owned, same.trans torn.interruptible, fun sound => ?_⟩
  obtain ⟨began, there⟩ := torn.sound (faults ▸ sound)
  exact ⟨began, moves there⟩

/-- `nmcli device set wlan0 managed yes`, where hostapd does not run. -/
theorem Radio.Torn.handedBack {before now : Radio} {reached further : Radio → Prop}
    (torn : before.Torn reached now)
    (exit : Exit) (free : reached now → now.hostapd = false)
    (moves : exit.ok = true → reached now → further (Call.onRadio (.setManaged true) (some exit) now)) :
    before.Torn further (Call.onRadio (.setManaged true) (some exit) now) := by
  cases ok : exit.ok with
  | false =>
    refine ⟨⟨torn.owned.served, fun _ sound => ?_⟩, torn.interruptible, fun sound => ?_⟩ <;>
      simp [Call.onRadio, Radio.torn, ok] at sound
  | true =>
    have kept : (Call.onRadio (.setManaged true) (some exit) now).faults = now.faults := by
      simp [Call.onRadio, Radio.torn, ok]
    refine ⟨⟨torn.owned.served, fun _ sound _ => free (torn.sound (kept ▸ sound)).2⟩, torn.interruptible, fun sound => ?_⟩
    obtain ⟨began, there⟩ := torn.sound (kept ▸ sound)
    exact ⟨began, moves ok there⟩

/-- Taking the hotspot down. -/
theorem release_keeps {radio : Radio} (owned : radio.Owned) :
    Keeps releaseApIface radio (ends (fun _ => radio.Torn Radio.Down) radio.Cut) := by
  unfold releaseApIface
  have begun : radio.Torn (fun _ => True) radio := ⟨owned, rfl, fun sound => ⟨sound, trivial⟩⟩
  refine Keeps.tearThen (fun now => now.dnsmasq = false) begun (fun answer _ => ?_) rfl rfl
    (fun _ => id)
    fun _ first torn => ?_
  · match answer with
    | some true => exact begun.step ⟨nofun, owned.apart⟩ rfl rfl fun _ => rfl
    | some false | none => exact begun.cut
  refine Keeps.tearThen (fun now => now.dnsmasq = false ∧ now.hostapd = false) torn
    (fun answer _ => ?_) rfl rfl (fun _ => id)
    fun _ second torn => ?_
  · match answer with
    | some true => exact torn.step ⟨nofun, fun _ _ _ => rfl⟩ rfl rfl fun _ => ⟨rfl, rfl⟩
    | some false | none => exact torn.cut
  refine Keeps.tearThen
    (fun now => now.dnsmasq = false ∧ now.hostapd = false ∧ now.address = false) torn
    (fun answer _ => ?_) rfl rfl (fun _ => id) fun _ third torn => ?_
  · match answer with
    | some true => exact torn.step ⟨torn.owned.served, torn.owned.apart⟩ rfl rfl fun down => ⟨down.1, down.2, rfl⟩
    | some false | none => exact torn.cut
  refine Keeps.tearThen
    (fun now => now.dnsmasq = false ∧ now.hostapd = false ∧ now.address = false) torn
    (fun answer _ => ?_) rfl rfl (fun _ => id) fun _ fourth torn => ?_
  · match answer with
    | some () => exact torn.step torn.owned rfl rfl id
    | none => exact torn.cut
  refine Keeps.tearThen Radio.Down torn (fun answer _ => ?_) rfl rfl
    (fun _ => id) fun _ _ torn => Keeps.done torn
  cases answer with
  | none => exact torn.cut
  | some exit =>
    exact torn.handedBack exit
      (fun down => down.2.1) fun ok down => ⟨by simp [Call.onRadio, ok], down.2.1, down.1, down.2.2⟩

/-- The interface is handed back, without an access point. -/
structure Radio.HandedBack (before after : Radio) : Prop where
  managed : after.managed = true
  hostapd : after.hostapd = false
  dnsmasq : after.dnsmasq = true → before.dnsmasq = true
  address : after.address = true → before.address = true

theorem handBack_keeps {radio : Radio} (owned : radio.Owned)
    (free : radio.faults = false → radio.hostapd = false)
    (error : Text) : Keeps (handBack error) radio
      (ends (fun result after => result = some error ∧ radio.Torn radio.HandedBack after) radio.Cut) := by
  have begun : radio.Torn (fun now => now = radio ∧ now.hostapd = false) radio :=
    ⟨owned, rfl, fun sound => ⟨sound, rfl, free sound⟩⟩
  refine Keeps.tearThen radio.HandedBack begun (fun answer _ => ?_) rfl rfl (fun _ => id)
    fun _ _ torn => Keeps.done ⟨rfl, torn⟩
  cases answer with
  | none => exact begun.cut
  | some exit =>
    exact begun.handedBack exit And.right fun ok there => ⟨by simp [Call.onRadio, ok], there.2, id, id⟩

/-- The outcomes of the services and of `start_ap` from the configuration on, told by whether they return
an error. -/
def Radio.Served (before : Radio) (error : Option Text) : Radio → Prop :=
  before.Torn (if error = none then Radio.Complete else Radio.Down)

def Radio.Started (before : Radio) (error : Option Text) : Radio → Prop :=
  before.Torn (if error = none then Radio.Complete else before.HandedBack)

theorem Radio.Torn.from {first before after : Radio} {reached further : Radio → Prop}
    (torn : before.Torn reached after)
    (same : before.interruptible = first.interruptible) (faults : before.faults = first.faults)
    (moves : reached after → further after) : first.Torn further after :=
  ⟨torn.owned, torn.interruptible.trans same, fun sound => faults ▸ (torn.sound sound).imp_right moves⟩

theorem Radio.Served.started {first before after : Radio} {error : Option Text}
    (served : before.Served error after)
    (same : before.interruptible = first.interruptible) (faults : before.faults = first.faults) :
    first.Started error after := by
  refine Radio.Torn.from served same faults fun reached => ?_
  cases error with
  | none => exact reached
  | some _ =>
    have down : after.Down := reached
    exact ⟨down.managed, down.hostapd, by simp [down.dnsmasq], by simp [down.address]⟩

/-- SIGTERM somewhere else. -/
structure Radio.Interrupted (before after : Radio) : Prop where
  owned : after.Owned
  interruptible : before.interruptible = true

theorem Radio.Cut.interrupted {before after : Radio} (cut : before.Cut after) :
    before.Interrupted after :=
  ⟨cut.owned, cut.interruptible⟩

/-- A failure that takes down what was started. -/
theorem takeDown_keeps (before : Radio) {radio : Radio} (owned : radio.Owned)
    (same : radio.interruptible = before.interruptible)
    (faults : radio.faults = before.faults) (error : Text) :
    Keeps (do releaseApIface; pure (some error)) radio (ends before.Served before.Interrupted) := by
  refine Keeps.bind (fun _ => radio.Torn Radio.Down)
    ((release_keeps owned).mono fun result after ended => ?_)
    fun _ after torn => Keeps.done ?_
  · cases result with
    | none => exact ⟨ended.owned, same ▸ ended.interruptible⟩
    | some _ => exact ended
  · exact torn.from same faults id

theorem startServices_keeps {radio : Radio} (owned : radio.Owned)
    (unmanaged : radio.managed = false)
    (address : radio.address = true) :
    Keeps startServices radio (ends radio.Served radio.Interrupted) := by
  have begun : (radio.start .hostapd).Owned :=
    ⟨fun _ => rfl, fun _ _ managed => absurd managed (by simp [Radio.start, unmanaged])⟩
  have serving : ((radio.start .hostapd).start .dnsmasq).Owned := ⟨fun _ => rfl, begun.apart⟩
  refine Keeps.askThen owned (fun started _ => ?_) fun signal => ⟨begun, signal⟩
  refine Keeps.bind (fun _ after => after = radio.start .hostapd) ?_ ?_
  · split
    · exact Keeps.quietLast (quiet_ask rfl) begun (fun _ => rfl) fun signal => ⟨begun, signal⟩
    · exact Keeps.done rfl
  rintro enabled _ rfl
  cases enabled with
  | false =>
    simp only [Bool.not_false, ↓reduceIte]
    exact takeDown_keeps radio begun rfl rfl _
  | true =>
  simp only [Bool.not_true, Bool.false_eq_true, ↓reduceIte]
  refine Keeps.quietThen (quiet_ask rfl) begun (fun _ => ?_) fun signal => ⟨begun, signal⟩
  refine Keeps.askThen begun (fun served _ => ?_) fun signal => ⟨serving, signal⟩
  cases served.ok with
  | false =>
    simp only [Bool.not_false, ↓reduceIte]
    exact takeDown_keeps radio serving rfl rfl _
  | true =>
    simp only [Bool.not_true, Bool.false_eq_true, ↓reduceIte]
    refine Keeps.quietThen quiet_armPortal serving (fun _ => ?_) fun signal => ⟨serving, signal⟩
    exact Keeps.done ⟨serving, rfl, fun sound => ⟨sound, unmanaged, rfl, rfl, address⟩⟩

theorem handBack_started (first : Radio) {radio : Radio} (owned : radio.Owned)
    (free : radio.faults = false → radio.hostapd = false) (same : radio.interruptible = first.interruptible)
    (faults : radio.faults = first.faults) (dnsmasq : radio.dnsmasq = first.dnsmasq) (address : radio.address = first.address)
    (error : Text) : Keeps (handBack error) radio (ends first.Started first.Interrupted) := by
  refine (handBack_keeps owned free error).mono fun result after ended => ?_
  cases result with
  | none => exact ⟨ended.owned, same ▸ ended.interruptible⟩
  | some result =>
    obtain ⟨rfl, torn⟩ := ended
    exact torn.from same faults fun back => ⟨back.managed, back.hostapd, dnsmasq ▸ back.dnsmasq, address ▸ back.address⟩

theorem configureIface_keeps {radio : Radio} (owned : radio.Owned)
    (unmanaged : radio.managed = false)
    (free : radio.faults = false → radio.hostapd = false) (ssid : Text) (passphrase : Option Text) :
    Keeps (configureIface ssid passphrase) radio (ends radio.Started radio.Interrupted) := by
  have signalled (signal : radio.interruptible = true) : radio.Interrupted radio := ⟨owned, signal⟩
  refine Keeps.quietThen (quiet_ask rfl) owned (fun code => ?_) signalled
  refine Keeps.quietThen (quiet_ask rfl) owned (fun written => ?_) signalled
  cases written with
  | some error => exact handBack_started radio owned free rfl rfl rfl rfl error
  | none =>
  refine Keeps.quietThen (quiet_ask rfl) owned (fun conf => ?_) signalled
  cases conf with
  | some error => exact handBack_started radio owned free rfl rfl rfl rfl error
  | none =>
  refine Keeps.quietThen (quiet_ask rfl) owned (fun _ => ?_) signalled
  refine Keeps.askThen owned
    (fun addressed _ => ?_) fun signal => ⟨⟨owned.served, owned.apart⟩, signal⟩
  have still : (Call.onRadio .addAddress (some addressed) radio).Owned :=
    ⟨owned.served, owned.apart⟩
  cases ok : addressed.ok with
  | false =>
    simp only [Bool.not_false, ↓reduceIte]
    exact handBack_started radio still free rfl rfl rfl (by simp [Call.onRadio, ok]) _
  | true =>
    simp only [Bool.not_true, Bool.false_eq_true, ↓reduceIte]
    refine (startServices_keeps still unmanaged (by simp [Call.onRadio, ok])).mono fun result after ended => ?_
    cases result with
    | none => exact ⟨ended.owned, ended.interruptible⟩
    | some error => exact Radio.Served.started ended rfl rfl

/-- No access point came of it: nothing changed, or the interface is handed back. -/
def Radio.Idle (before after : Radio) : Prop :=
  after = before ∨ before.hostapd = false ∧ before.HandedBack after

/-- The hotspot is up: it was before, or it is complete now. -/
def Radio.Raised (before after : Radio) : Prop :=
  after = before ∧ before.hostapd = true ∨ before.hostapd = false ∧ after.Complete

/-- The outcome of hotspot attempts, told by whether one worked. -/
def Radio.Attempted (before : Radio) (worked : Bool) : Radio → Prop :=
  before.Torn (if worked then before.Raised else before.Idle)

/-- An exception leaves a process without SIGTERM only where no access point came of it. -/
structure Radio.Left (before after : Radio) : Prop where
  owned : after.Owned
  still : before.interruptible = false → before.Torn before.Idle after

theorem Radio.Idle.hostapd {before after : Radio} (idle : before.Idle after)
    (down : before.hostapd = false) :
    after.hostapd = false := by
  rcases idle with rfl | ⟨_, back⟩
  · exact down
  · exact back.hostapd

theorem Radio.Idle.trans {before middle after : Radio} (first : before.Idle middle)
    (second : middle.Idle after) :
    before.Idle after := by
  rcases first with rfl | ⟨down, back⟩
  · exact second
  · refine .inr ⟨down, ?_⟩
    rcases second with rfl | ⟨_, again⟩
    · exact back
    · exact ⟨again.managed, again.hostapd, back.dnsmasq ∘ again.dnsmasq, back.address ∘ again.address⟩

theorem Radio.Idle.raised {before middle after : Radio} (first : before.Idle middle)
    (second : middle.Raised after) :
    before.Raised after := by
  rcases first with rfl | ⟨down, back⟩
  · exact second
  · rcases second with ⟨_, beacons⟩ | ⟨_, complete⟩
    · simp [back.hostapd] at beacons
    · exact .inr ⟨down, complete⟩

theorem Radio.Torn.trans {before middle after : Radio} {reached further final : Radio → Prop}
    (first : before.Torn reached middle) (second : middle.Torn further after)
    (moves : reached middle → further after → final after) : before.Torn final after := by
  refine ⟨second.owned, second.interruptible.trans first.interruptible, fun sound => ?_⟩
  obtain ⟨between, last⟩ := second.sound sound
  obtain ⟨began, there⟩ := first.sound between
  exact ⟨began, moves there last⟩

theorem Radio.Interrupted.left {before after : Radio} (interrupted : before.Interrupted after) :
    before.Left after :=
  ⟨interrupted.owned, fun still => absurd interrupted.interruptible (by simp [still])⟩

theorem takeIface_keeps {first radio : Radio}
    (known : first.Torn (fun now => now = first ∧ now.hostapd = false) radio)
    (ssid : Text) (passphrase : Option Text) :
    Keeps (takeIface ssid passphrase) radio (ends (fun error => first.Attempted error.isNone) first.Left) := by
  have owned := known.owned
  have cut (after : Radio) (owned : after.Owned) (signal : radio.interruptible = true) :
      first.Left after :=
    Radio.Interrupted.left ⟨owned, known.interruptible ▸ signal⟩
  have unchanged (error : Text) : Keeps (pure (some error)) radio (ends (fun error => first.Attempted error.isNone) first.Left) :=
    Keeps.done (known.from rfl rfl fun there => .inl there.1)
  refine Keeps.askThen owned
    (fun installed _ => ?_) fun _ => ⟨owned, fun _ => known.from rfl rfl fun there => .inl there.1⟩
  cases installed with
  | some error => exact unchanged error
  | none =>
  refine Keeps.quietThen (quiet_ask rfl) owned (fun _ => ?_) (cut _ owned)
  refine Keeps.quietThen (quiet_ask rfl) owned (fun _ => ?_) (cut _ owned)
  refine Keeps.askThen owned (fun _ _ => ?_) (cut _ owned.torn_false)
  refine Keeps.askThen owned (fun unmanaged _ => ?_)
    (cut _ ⟨owned.served, fun _ _ managed => by cases managed⟩)
  change Keeps _ (Call.onRadio (.setManaged false) (some unmanaged) radio) _
  cases ok : unmanaged.ok with
  | false =>
    have same : Call.onRadio (.setManaged false) (some unmanaged) radio = radio := by simp [Call.onRadio, ok]
    simp only [Bool.not_false, ↓reduceIte]
    rw [same]
    exact unchanged _
  | true =>
    simp only [Bool.not_true, Bool.false_eq_true, ↓reduceIte]
    have taken : (Call.onRadio (.setManaged false) (some unmanaged) radio).managed = false := by simp [Call.onRadio, ok]
    have held : (Call.onRadio (.setManaged false) (some unmanaged) radio).Owned :=
      ⟨owned.served, fun _ _ managed => absurd managed (by simp [taken])⟩
    refine (configureIface_keeps held taken (fun sound => (known.sound sound).2.2) ssid passphrase).mono
      fun result after ended => ?_
    cases result with
    | none => exact cut after ended.owned ended.interruptible
    | some error =>
      refine ⟨ended.owned, ended.interruptible.trans known.interruptible, fun sound => ?_⟩
      obtain ⟨began, reached⟩ := Radio.Torn.sound ended sound
      obtain ⟨clear, rfl, down⟩ := known.sound began
      cases error with
      | none => exact ⟨clear, .inr ⟨down, reached⟩⟩
      | some _ => exact ⟨clear, .inr ⟨down, reached.managed, reached.hostapd, reached.dnsmasq, reached.address⟩⟩

/-- A hotspot that is not reported is not there. -/
theorem Radio.Owned.unreported {radio : Radio} (owned : radio.Owned) :
    radio.Torn (fun now => now = radio ∧ now.hostapd = false)
    (Call.onRadio .apActive (some false) radio) := by
  refine ⟨⟨owned.served, fun calm sound => owned.apart calm ?_⟩, rfl, fun sound => ?_⟩
  · simp only [Call.onRadio, Radio.torn, Bool.or_eq_false_iff] at sound
    exact sound.2
  · simp only [Call.onRadio, Radio.torn, Bool.or_eq_false_iff, Bool.not_eq_false', Bool.or_false, Bool.not_eq_true'] at sound
    obtain ⟨down, clear⟩ := sound
    exact ⟨clear, by simp [Call.onRadio, down, Radio.torn_true], down⟩

theorem onRadio_reported (radio : Radio) : Call.onRadio .apActive (some true) radio = radio := by
  simp [Call.onRadio, Radio.torn_true]

theorem hostapd_of_reported {radio : Radio}
    (possible : Call.possible .apActive radio (some true) = true) :
    radio.hostapd = true := by
  simpa [Call.possible] using possible

theorem startAp_keeps {radio : Radio} (owned : radio.Owned) (ssid : Text)
    (passphrase : Option Text) :
    Keeps (startAp ssid passphrase) radio (ends (fun error => radio.Attempted error.isNone) radio.Left) := by
  have begun : radio.Torn (fun now => now = radio) radio := ⟨owned, rfl, fun sound => ⟨sound, rfl⟩⟩
  have refused (error : Text) : Keeps (pure (some error)) radio (ends (fun error => radio.Attempted error.isNone) radio.Left) :=
    Keeps.done ⟨owned, rfl, fun sound => ⟨sound, .inl rfl⟩⟩
  unfold startAp
  refine Keeps.ite (fun _ => refused _) fun _ => Keeps.ite (fun _ => refused _) fun _ =>
    Keeps.ite (fun _ => refused _) fun _ => ?_
  refine Keeps.askThen owned
    (fun reported possible => ?_) fun signal => Radio.Interrupted.left ⟨owned, signal⟩
  cases reported with
  | true =>
    have beacons := hostapd_of_reported possible
    rw [onRadio_reported, if_pos rfl]
    refine Keeps.quietThen quiet_armPortal owned
      (fun _ => ?_) fun signal => Radio.Interrupted.left ⟨owned, signal⟩
    exact Keeps.done ⟨owned, rfl, fun sound => ⟨sound, .inl ⟨rfl, beacons⟩⟩⟩
  | false =>
  rw [if_neg (by simp)]
  exact takeIface_keeps owned.unreported ssid _

theorem raiseAp_keeps {radio : Radio} (owned : radio.Owned) (ssid : Text) (passphrase : Option Text)
    (left : Nat) :
    Keeps (raiseAp ssid passphrase left) radio (ends radio.Attempted radio.Left) := by
  induction left generalizing radio with
  | zero => exact Keeps.done ⟨owned, rfl, fun sound => ⟨sound, .inl rfl⟩⟩
  | succ left ih =>
    refine Keeps.bind (fun error => radio.Attempted error.isNone)
      (startAp_keeps owned ssid passphrase) fun error after tried => ?_
    cases error with
    | none => exact Keeps.done tried
    | some error =>
      rw [if_neg (by simp)]
      refine Keeps.ite (fun _ => Keeps.done tried) fun _ => ?_
      have idle : radio.Torn radio.Idle after := tried
      have signalled (signal : after.interruptible = true) : radio.Left after :=
        Radio.Interrupted.left ⟨idle.owned, idle.interruptible ▸ signal⟩
      refine Keeps.quietThen (quiet_ask rfl) idle.owned
        (fun _ => (ih idle.owned).mono fun result final ended => ?_) signalled
      cases result with
      | none => exact ⟨ended.owned, fun still => idle.trans (ended.still (idle.interruptible ▸ still)) Radio.Idle.trans⟩
      | some worked =>
        cases worked with
        | true => exact idle.trans ended Radio.Idle.raised
        | false => exact idle.trans ended Radio.Idle.trans

/-- The outcome of `_restore_ap`: without a hotspot before nothing is tried. -/
structure Radio.Restored (hadAp : Bool) (before : Radio) (worked : Bool) (after : Radio) : Prop where
  attempted : before.Attempted worked after
  untried : hadAp = false → worked = false ∧ after = before

/-- Without a hotspot before only SIGTERM raises. -/
structure Radio.Thrown (hadAp : Bool) (before after : Radio) : Prop where
  left : before.Left after
  untried : hadAp = false → before.interruptible = true

theorem Radio.Interrupted.thrown {hadAp : Bool} {before after : Radio}
    (interrupted : before.Interrupted after) :
    before.Thrown hadAp after :=
  ⟨interrupted.left, fun _ => interrupted.interruptible⟩

theorem restoreAp_keeps {radio : Radio} (owned : radio.Owned) (hadAp : Bool)
    (ssid passphrase : Option Text) :
    Keeps (restoreAp hadAp ssid passphrase) radio (ends (radio.Restored hadAp) (radio.Thrown hadAp)) := by
  unfold restoreAp
  split
  next =>
    refine (raiseAp_keeps owned _ passphrase apAttempts).mono fun result after ended => ?_
    cases result with
    | none => exact ⟨ended, nofun⟩
    | some worked => exact ⟨ended, nofun⟩
  next => exact Keeps.done ⟨⟨owned, rfl, fun sound => ⟨sound, .inl rfl⟩⟩, fun _ => ⟨rfl, rfl⟩⟩

end AccessPoint

section Join

theorem quiet_connectLoop (join : Join) (index : Nat) (attempts : List Bool) (last : Exit × Text) :
    Quiet (connectLoop join index attempts last) := by
  induction attempts generalizing index last with
  | nil => exact .done last
  | cons hidden rest ih =>
    refine .bind (.given _ (.bind (quiet_ask rfl) fun _ => .done ())) fun _ => .bind (.given _ (quiet_ask rfl)) fun _ => ?_
    exact .bind (quiet_ask rfl) fun exit => .ite (.done _) (ih _ _)

theorem quiet_connect (join : Join) : Quiet (connect join) :=
  .ite (quiet_connectLoop _ _ _ _) (.bind (quiet_ask rfl) fun _ => quiet_connectLoop _ _ _ _)

theorem quiet_reportAp (station : Text) (restored : Bool) : Quiet (reportAp station restored) :=
  .ite (.bind (quiet_ask rfl) fun _ => quiet_ask rfl) (.bind (quiet_disarmPortal _) fun _ => quiet_ask rfl)

/-- What a join leaves: a link on the radio as it was, or what the hotspot attempts left. -/
def Radio.Ended (hadAp : Bool) (before : Radio) (result : JoinResult) (after : Radio) : Prop :=
  if result.connected then after = before else before.Restored hadAp result.apRestored after

theorem failJoin_keeps {radio : Radio} (owned : radio.Owned) (join : Join) (hadAp : Bool)
    (nmText : Text)
    (kind : FailKind) (linkLocal : List Text) :
    Keeps (failJoin join hadAp nmText kind linkLocal) radio (ends (radio.Ended hadAp) (radio.Thrown hadAp)) := by
  have signalled (signal : radio.interruptible = true) : radio.Thrown hadAp radio :=
    Radio.Interrupted.thrown ⟨owned, signal⟩
  refine Keeps.quietThen (quiet_ask rfl) owned (fun _ => ?_) signalled
  refine Keeps.quietThen (quiet_ask rfl) owned (fun _ => ?_) signalled
  refine Keeps.quietThen (quiet_ask rfl) owned (fun _ => ?_) signalled
  refine Keeps.bind (radio.Restored hadAp) (restoreAp_keeps owned hadAp join.setup join.passphrase)
    fun restored after tried => ?_
  have tearing := tried.attempted
  exact Keeps.quietThen (quiet_reportAp _ _) tearing.owned (fun _ => Keeps.done tried) fun signal =>
    Radio.Interrupted.thrown ⟨tearing.owned, tearing.interruptible ▸ signal⟩

theorem joined_keeps {radio : Radio} (owned : radio.Owned) (join : Join) (hadAp : Bool)
    (ip : Text) :
    Keeps (joined join ip) radio (ends (radio.Ended hadAp) (radio.Thrown hadAp)) := by
  have signalled (signal : radio.interruptible = true) : radio.Thrown hadAp radio :=
    Radio.Interrupted.thrown ⟨owned, signal⟩
  refine Keeps.quietThen (quiet_ask rfl) owned (fun _ => ?_) signalled
  refine Keeps.quietThen (quiet_disarmPortal _) owned (fun _ => ?_) signalled
  refine Keeps.quietThen (quiet_ask rfl) owned (fun _ => ?_) signalled
  exact Keeps.quietThen (quiet_ask rfl) owned (fun _ => Keeps.done rfl) signalled

theorem pollJoin_keeps {radio : Radio} (owned : radio.Owned) (join : Join) (hadAp : Bool)
    (nmText : Text)
    {unreached : Net → Program JoinResult}
    (rest : ∀ net, Keeps (unreached net) radio (ends (radio.Ended hadAp) (radio.Thrown hadAp))) :
    Keeps (pollJoin join hadAp nmText unreached) radio (ends (radio.Ended hadAp) (radio.Thrown hadAp)) := by
  have signalled (signal : radio.interruptible = true) : radio.Thrown hadAp radio :=
    Radio.Interrupted.thrown ⟨owned, signal⟩
  refine Keeps.quietThen (quiet_ask rfl) owned (fun net => ?_) signalled
  refine Keeps.quietThen (.ite (quiet_ask rfl) (.done false)) owned (fun reached => ?_) signalled
  refine Keeps.ite (fun _ => rest net) fun _ => ?_
  refine Keeps.quietThen (quiet_ask rfl) owned (fun captive => ?_) signalled
  refine Keeps.ite (fun _ => failJoin_keeps owned _ _ _ _ _) fun _ => ?_
  refine Keeps.quietThen (quiet_ask rfl) owned (fun proof => ?_) signalled
  exact Keeps.ite (fun _ => failJoin_keeps owned _ _ _ _ _) fun _ => joined_keeps owned _ _ _

theorem pollUntil_keeps {radio : Radio} (owned : radio.Owned) (join : Join) (hadAp : Bool)
    (nmText : Text)
    (polls : Nat) : Keeps (pollUntil join hadAp nmText polls) radio (ends (radio.Ended hadAp) (radio.Thrown hadAp)) := by
  have signalled (signal : radio.interruptible = true) : radio.Thrown hadAp radio :=
    Radio.Interrupted.thrown ⟨owned, signal⟩
  induction polls with
  | zero =>
    refine pollJoin_keeps owned join hadAp nmText fun net => ?_
    exact Keeps.quietThen (.ite (quiet_ask rfl) (.done false)) owned
      (fun _ => failJoin_keeps owned _ _ _ _ _) signalled
  | succ polls ih =>
    refine pollJoin_keeps owned join hadAp nmText fun _ => ?_
    exact Keeps.quietThen (quiet_ask rfl) owned (fun _ => ih) signalled

theorem afterConnect_keeps {radio : Radio} (owned : radio.Owned) (join : Join) (hadAp : Bool) :
    Keeps (afterConnect join hadAp) radio (ends (radio.Ended hadAp) (radio.Thrown hadAp)) := by
  have signalled (signal : radio.interruptible = true) : radio.Thrown hadAp radio :=
    Radio.Interrupted.thrown ⟨owned, signal⟩
  refine Keeps.quietThen (quiet_connect join) owned (fun answer => ?_) signalled
  obtain ⟨exit, nmText⟩ := answer
  refine Keeps.quietThen (quiet_ask rfl) owned (fun polls => ?_) signalled
  cases (if exit.ok then none else classifyConnectError nmText : Option FailKind) with
  | none => exact pollUntil_keeps owned join hadAp nmText polls
  | some kind =>
    refine Keeps.quietThen (quiet_ask rfl) owned (fun net => ?_) signalled
    exact Keeps.ite (fun _ => failJoin_keeps owned _ _ _ _ _) fun _ => pollUntil_keeps owned join hadAp nmText polls

/-- SIGTERM while the hotspot is left. -/
structure Radio.CutOff (before after : Radio) : Prop where
  interrupted : before.Interrupted after
  down : after.faults = false → after.Down

theorem leaveAp_keeps {radio : Radio} (owned : radio.Owned) :
    Keeps leaveAp radio (ends (fun _ => radio.Torn Radio.Down) radio.CutOff) := by
  refine Keeps.bind (fun _ => radio.Torn Radio.Down)
    ((release_keeps owned).mono fun result after ended => ?_)
    fun _ after torn => ?_
  · cases result with
    | none => exact ⟨Radio.Cut.interrupted ended, fun sound => absurd ended.faults (by simp [sound])⟩
    | some _ => exact ended
  · exact Keeps.quietLast (quiet_disarmPortal _) torn.owned (fun _ => torn) fun signal =>
      ⟨⟨torn.owned, torn.interruptible ▸ signal⟩, fun sound => (torn.sound sound).2⟩

theorem Radio.Down.idle {before after : Radio} (down : before.Down) (idle : before.Idle after) :
    after.Down := by
  rcases idle with rfl | ⟨_, back⟩
  · exact down
  · refine ⟨back.managed, back.hostapd, Bool.eq_false_iff.mpr fun runs => ?_, Bool.eq_false_iff.mpr fun set => ?_⟩
    · exact absurd (back.dnsmasq runs) (by simp [down.dnsmasq])
    · exact absurd (back.address set) (by simp [down.address])

theorem Radio.Down.raised {before after : Radio} (down : before.Down)
    (raised : before.Raised after) : after.Complete := by
  rcases raised with ⟨_, beacons⟩ | ⟨_, complete⟩
  · simp [down.hostapd] at beacons
  · exact complete

/-- What a join makes of the radio: with a hotspot before, the interface is NetworkManager's alone, or the
hotspot is complete again; without one, nothing. -/
def Radio.Joined (before : Radio) (result : JoinResult) : Radio → Prop :=
  before.Torn fun after =>
    (before.hostapd = true → if result.connected || !result.apRestored then after.Down else after.Complete) ∧
      (before.hostapd = false → after = before)

/-- The same for a join that raised. -/
structure Radio.Abandoned (before after : Radio) : Prop where
  owned : after.Owned
  still : before.interruptible = false →
    before.Torn (fun after => (before.hostapd = true → after.Down) ∧ (before.hostapd = false → after = before)) after

theorem joinLocked_keeps {radio : Radio} (owned : radio.Owned) (join : Join) :
    Keeps (joinLocked join) radio (ends radio.Joined radio.Abandoned) := by
  have cut (after : Radio) (owned : after.Owned) (signal : radio.interruptible = true) :
      radio.Abandoned after :=
    ⟨owned, fun still => absurd signal (by simp [still])⟩
  refine Keeps.askThen owned (fun reported possible => ?_) (cut _ owned)
  cases reported with
  | true =>
    have beacons := hostapd_of_reported possible
    rw [onRadio_reported]
    refine Keeps.bind (fun _ => radio.Torn Radio.Down)
      ((leaveAp_keeps owned).mono fun result after ended => ?_)
      fun _ middle torn => (afterConnect_keeps torn.owned join true).mono fun result after ended => ?_
    · cases result with
      | none => exact cut after ended.interrupted.owned ended.interrupted.interruptible
      | some _ => exact ended
    · have never {reached : Prop} (down : radio.hostapd = false) : reached :=
        absurd beacons (by simp [down])
      cases result with
      | none =>
        exact ⟨ended.left.owned, fun still => torn.trans (ended.left.still (torn.interruptible ▸ still)) fun down idle =>
          ⟨fun _ => down.idle idle, never⟩⟩
      | some result =>
        have final : middle.Ended true result after := ended
        obtain ⟨_, connected, restored, _, _, _, _⟩ := result
        cases connected with
        | true =>
          cases (final : after = middle)
          exact torn.from rfl rfl fun down => ⟨fun _ => down, never⟩
        | false =>
          have tried : middle.Restored true restored after := final
          cases restored with
          | true => exact torn.trans tried.attempted fun down raised => ⟨fun _ => down.raised raised, never⟩
          | false => exact torn.trans tried.attempted fun down idle => ⟨fun _ => down.idle idle, never⟩
  | false =>
    have torn := owned.unreported
    refine (afterConnect_keeps torn.owned join false).mono fun result after ended => ?_
    cases result with
    | none => exact cut after ended.left.owned (torn.interruptible ▸ ended.untried rfl)
    | some result =>
      have final : Radio.Ended false _ result after := ended
      have same : after = Call.onRadio .apActive (some false) radio := by
        unfold Radio.Ended at final
        split at final
        next => exact final
        next => exact (final.untried rfl).2
      subst same
      refine torn.from rfl rfl fun ⟨same, down⟩ => ⟨fun beacons => ?_, fun _ => same⟩
      have off : radio.hostapd = false := (congrArg Radio.hostapd same).symm.trans down
      exact absurd beacons (by simp [off])

theorem joinNetwork_keeps {radio : Radio} (owned : radio.Owned) (join : Join)
    (valid : validSsid join.ssid = true) :
    Keeps (joinNetwork join) radio (ends radio.Joined radio.Abandoned) := by
  unfold joinNetwork
  rw [valid]
  exact joinLocked_keeps owned join

/-- What a join worker makes of the radio; `none` is a join that raised, after which the hotspot was tried
again. -/
def Radio.Worked (before : Radio) : Option JoinResult → Radio → Prop
  | some result => before.Joined result
  | none => before.Torn fun after => (before.hostapd = true → after.Complete ∨ after.Down) ∧
      (before.hostapd = false → before.Raised after ∨ before.Idle after)

theorem restoreHotspot_keeps {radio : Radio} (owned : radio.Owned)
    (still : radio.interruptible = false)
    (setup passphrase : Option Text) :
    Keeps (restoreHotspot setup passphrase) radio fun result after =>
      result ≠ none ∧ radio.Torn (fun after => radio.Raised after ∨ radio.Idle after) after := by
  have begun : radio.Torn (fun after => radio.Raised after ∨ radio.Idle after) radio :=
    ⟨owned, rfl, fun sound => ⟨sound, .inr (.inl rfl)⟩⟩
  have silent {reached : Prop} (signal : radio.interruptible = true) : reached :=
    absurd signal (by simp [still])
  unfold restoreHotspot
  split
  next =>
    refine Keeps.askThen owned (fun reported possible => ?_) silent
    cases reported with
    | true =>
      rw [onRadio_reported, if_pos rfl]
      exact Keeps.done ⟨nofun, begun⟩
    | false =>
      rw [if_neg (by simp)]
      have known := owned.unreported
      refine Keeps.caughtThen _
        (raiseAp_keeps known.owned _ passphrase apAttempts) fun result after ended =>
        Keeps.done ⟨nofun, ?_⟩
      match result with
      | none => exact known.trans (ended.still still) fun there idle => .inr (there.1 ▸ idle)
      | some true => exact known.trans ended fun there raised => .inl (there.1 ▸ raised)
      | some false => exact known.trans ended fun there idle => .inr (there.1 ▸ idle)
  next => exact Keeps.done ⟨nofun, begun⟩

theorem joinWorker_keeps {radio : Radio} (owned : radio.Owned) (still : radio.interruptible = false)
    (join : Join)
    (valid : validSsid join.ssid = true) :
    Keeps (joinWorker join) radio fun result after => ∃ answer, result = some answer ∧
      radio.Worked answer after := by
  have silent {reached : Prop} {other : Radio} (same : other.interruptible = radio.interruptible)
      (signal : other.interruptible = true) : reached :=
    absurd signal (by simp [same, still])
  refine Keeps.caughtThen _ (joinNetwork_keeps owned join valid) fun result middle ended => ?_
  cases result with
  | some result =>
    have joined : radio.Joined result middle := ended
    refine Keeps.quietThen (.given _ (quiet_ask rfl)) joined.owned (fun _ => ?_)
      (silent joined.interruptible)
    exact Keeps.done ⟨some result, rfl, joined⟩
  | none =>
    have left := ended.still still
    refine Keeps.bind
      (fun _ after => middle.Torn (fun after => middle.Raised after ∨ middle.Idle after) after)
      ((restoreHotspot_keeps left.owned (left.interruptible.trans still) _ _).mono ?_) fun _ after tried =>
        Keeps.done ⟨none, rfl, left.trans tried fun there outcome => ⟨fun beacons => ?_, fun off => ?_⟩⟩
    · rintro result after ⟨returned, tried⟩
      cases result with
      | none => exact absurd rfl returned
      | some _ => exact tried
    · exact outcome.imp (there.1 beacons).raised (there.1 beacons).idle
    · exact there.2 off ▸ outcome

theorem recoverInterruptedJoin_keeps {radio : Radio} (owned : radio.Owned) :
    Keeps recoverInterruptedJoin radio fun _ after => after.Owned := by
  refine Keeps.quietThen (quiet_ask rfl) owned
    (fun _ => Keeps.ite (fun _ => Keeps.done owned) fun _ => ?_) fun _ => owned
  refine Keeps.askThen owned (fun reported _ => ?_) fun _ => owned
  cases reported with
  | true =>
    rw [onRadio_reported, if_pos rfl]
    exact Keeps.done owned
  | false =>
    rw [if_neg (by simp)]
    have known := owned.unreported.owned
    refine Keeps.quietThen (quiet_ask rfl) known
      (fun _ => Keeps.ite (fun _ => Keeps.done known) fun _ => ?_) fun _ => known
    refine Keeps.bind (fun _ after => after.Owned)
      ((startAp_keeps known setupSsid none).mono fun result after ended => ?_)
      fun _ _ => fun owned => Keeps.done owned
    cases result with
    | none => exact ended.owned
    | some _ => exact Radio.Torn.owned ended

end Join

section Retry

theorem quiet_stationReady : Quiet stationReady :=
  .bind (quiet_ask rfl) fun _ => .ite (.bind (quiet_ask rfl) fun _ => .done _) (.done none)

theorem quiet_arrived (net : Net) : Quiet (arrived net) :=
  .bind (quiet_disarmPortal _) fun _ => .bind (quiet_ask rfl) fun _ => .done _

theorem quiet_pollStation (polls : Nat) : Quiet (pollStation polls) := by
  induction polls with
  | zero =>
    refine .bind quiet_stationReady fun ready => ?_
    cases ready with
    | none => exact .done none
    | some net => exact quiet_arrived net
  | succ polls ih =>
    refine .bind quiet_stationReady fun ready => ?_
    cases ready with
    | none => exact .bind (quiet_ask rfl) fun _ => ih
    | some net => exact quiet_arrived net

theorem quiet_retryProfiles (first : Bool) (profiles : List SavedWifi) (lastError : Text) :
    Quiet (retryProfiles first profiles lastError) := by
  induction profiles generalizing first lastError with
  | nil => exact .done _
  | cons profile rest ih =>
    refine .bind (.ite (.done true) (quiet_ask rfl)) fun _ => .ite (.done _) ?_
    refine .bind (quiet_ask rfl) fun _ => .bind (quiet_ask rfl) fun exit => .ite (ih _ _) ?_
    refine .bind (quiet_ask rfl) fun polls => .bind (quiet_pollStation polls) fun found => ?_
    cases found with
    | none => exact ih _ _
    | some ip => exact .done _

/-- A radio in a known state, unless a teardown failed or was cut short. -/
structure Radio.Reached (state : Radio → Prop) (radio : Radio) : Prop where
  owned : radio.Owned
  sound : radio.faults = false → state radio

/-- The hotspot complete, or the interface NetworkManager's alone. -/
def Radio.Back (restored : Bool) : Radio → Prop := if restored then Radio.Complete else Radio.Down

theorem Radio.Back.released {restored : Bool} {radio : Radio} (back : radio.Back restored)
    (interruptible : Bool) :
    Radio.Back restored { radio with interruptible } := by
  cases restored with
  | true =>
    have complete : radio.Complete := back
    exact ⟨complete.managed, complete.hostapd, complete.dnsmasq, complete.address⟩
  | false =>
    have down : radio.Down := back
    exact ⟨down.managed, down.hostapd, down.dnsmasq, down.address⟩

/-- The `finally` of the retry, from an interface that is NetworkManager's alone. -/
theorem comeBack_keeps {radio : Radio} (down : radio.Reached Radio.Down) (setup : Text)
    (passphrase : Option Text)
    (lastError : Text) :
    Keeps (comeBack setup passphrase lastError) radio
      (ends (fun restored => Radio.Reached (Radio.Back restored))
        (Radio.Reached fun after => ∃ restored, after.Back restored)) := by
  refine Keeps.askThen down.owned
    (fun _ _ => ?_) fun _ => ⟨down.owned.torn_false, fun sound => by cases sound⟩
  have held : (Call.onRadio .hold (some ()) radio).Owned := ⟨down.owned.served, down.owned.apart⟩
  have silent {reached : Prop}
      (signal : (Call.onRadio .hold (some ()) radio).interruptible = true) : reached := by
    cases signal
  refine Keeps.quietThen (quiet_ask rfl) held (fun connected => ?_) silent
  refine Keeps.quietThen (.given _ (quiet_ask rfl)) held (fun _ => ?_) silent
  have alone (sound : radio.faults = false) : (Call.onRadio .hold (some ()) radio).Down :=
    Radio.Back.released (show Radio.Back false radio from down.sound sound) false
  refine Keeps.bind
    (fun restored after => (Call.onRadio .hold (some ()) radio).Torn (Radio.Back restored) after)
    ((restoreAp_keeps held true (some setup) passphrase).mono fun result after ended => ?_) fun restored after torn => ?_
  · cases result with
    | none =>
      have torn := ended.left.still rfl
      exact ⟨torn.owned, fun sound => ⟨false, (alone (torn.sound sound).1).idle (torn.sound sound).2⟩⟩
    | some restored =>
      have tried := ended.attempted
      refine ⟨tried.owned, tried.interruptible, fun sound => (tried.sound sound).imp_right fun reached => ?_⟩
      have before := alone (tried.sound sound).1
      cases restored with
      | true => exact before.raised reached
      | false => exact before.idle reached
  · refine Keeps.quietThen (quiet_ask rfl) torn.owned
      (fun _ => ?_) fun signal => silent (torn.interruptible ▸ signal)
    have delivered : Radio.Reached (Radio.Back restored) { after with interruptible := true } :=
      ⟨⟨torn.owned.served, torn.owned.apart⟩, fun sound => Radio.Back.released (torn.sound sound).2 true⟩
    exact Keeps.askThen torn.owned (fun _ _ => Keeps.done delivered) fun _ =>
      ⟨delivered.owned, fun sound => ⟨restored, delivered.sound sound⟩⟩

/-- What the retry makes of the radio. An end without a result is SIGTERM. -/
def Radio.Retried (before : Radio) (result : Option RetryResult) : Radio → Prop :=
  Radio.Reached fun after => match result with
    | some (.skipped _) => after = before
    | some (.station _) => after.Down
    | some (.hotspot restored) => after.Back restored
    | none => after = before ∨ ∃ restored, after.Back restored

theorem leaveHotspot_keeps {radio : Radio} (owned : radio.Owned) (setup : Text)
    (passphrase : Option Text)
    (profiles : List SavedWifi) :
    Keeps (leaveHotspot setup passphrase profiles) radio radio.Retried := by
  refine Keeps.caughtThen (fun _ => Radio.Reached Radio.Down) ?_ fun result after down => ?_
  · refine Keeps.bind (fun _ => radio.Torn Radio.Down)
      ((leaveAp_keeps owned).mono fun result after ended => ?_)
      fun _ after torn => ?_
    · cases result with
      | none => exact ⟨ended.interrupted.owned, ended.down⟩
      | some _ => exact ended
    · have down : after.Reached Radio.Down := ⟨torn.owned, fun sound => (torn.sound sound).2⟩
      exact Keeps.quietLast (quiet_retryProfiles _ _ _) torn.owned (fun _ => down) fun _ => down
  · match result with
    | some (.inl ip) => exact Keeps.done down
    | some (.inr lastError) =>
      refine Keeps.bind (fun restored => Radio.Reached (Radio.Back restored))
        ((comeBack_keeps down setup passphrase lastError).mono fun result after ended => ?_) fun _ _ back => Keeps.done back
      cases result with
      | none => exact ⟨ended.owned, fun sound => .inr (ended.sound sound)⟩
      | some _ => exact ended
    | none =>
      refine Keeps.bind (fun restored => Radio.Reached (Radio.Back restored))
        ((comeBack_keeps down setup passphrase []).mono fun result after ended => ?_)
        fun restored _ back => Keeps.raises ⟨back.owned, fun sound => .inr ⟨restored, back.sound sound⟩⟩
      cases result with
      | none => exact ⟨ended.owned, fun sound => .inr (ended.sound sound)⟩
      | some _ => exact ended

theorem Radio.Owned.unchanged {radio : Radio} (owned : radio.Owned) :
    radio.Reached (fun after => after = radio) :=
  ⟨owned, fun _ => rfl⟩

theorem noClients_keeps {radio : Radio} (owned : radio.Owned) {next : Program RetryResult}
    (rest : Keeps next radio radio.Retried) : Keeps (noClients next) radio radio.Retried := by
  refine Keeps.quietThen (quiet_ask rfl) owned
    (fun clients => ?_) fun _ => ⟨owned, fun _ => .inl rfl⟩
  cases clients with
  | none => exact Keeps.done owned.unchanged
  | some clients => exact Keeps.ite (fun _ => Keeps.done owned.unchanged) fun _ => rest

theorem retrySavedStation_keeps {radio : Radio} (owned : radio.Owned) (setup : Text)
    (passphrase : Option Text) :
    Keeps (retrySavedStation setup passphrase) radio radio.Retried := by
  have interrupted (_ : radio.interruptible = true) : radio.Retried none radio :=
    ⟨owned, fun _ => .inl rfl⟩
  refine Keeps.quietThen (quiet_ask rfl) owned
    (fun _ => Keeps.ite (fun _ => ?_) fun _ => Keeps.done owned.unchanged)
    interrupted
  refine Keeps.askThen owned (fun reported _ => ?_) interrupted
  cases reported with
  | false =>
    have known := owned.unreported
    rw [if_pos (by simp)]
    exact Keeps.done ⟨known.owned, fun sound => (known.sound sound).2.1⟩
  | true =>
  rw [onRadio_reported, if_neg (by simp)]
  refine noClients_keeps owned ?_
  refine Keeps.quietThen (quiet_ask rfl) owned (fun listed => ?_) interrupted
  refine Keeps.ite (fun _ => Keeps.done owned.unchanged) fun _ => ?_
  refine Keeps.quietThen (quiet_ask rfl) owned (fun moved => ?_) interrupted
  match moved with
  | some true => exact Keeps.done owned.unchanged
  | none => exact Keeps.done owned.unchanged
  | some false => exact noClients_keeps owned (leaveHotspot_keeps owned setup passphrase _)

end Retry

section Boot

theorem quiet_takeStation (reconfirm : Bool) : Quiet (takeStation reconfirm) := by
  refine .ite (.done none) (.bind quiet_stationReady fun ready => ?_)
  cases ready with
  | none => exact .done none
  | some net => exact .bind (quiet_disarmPortal _) fun _ => .done _

theorem quiet_noteUnusable : Quiet noteUnusable :=
  .bind (quiet_ask rfl) fun _ => .ite (.bind quiet_stationReady fun _ => .done _) (.done false)

theorem quiet_bringUp (profiles : List SavedWifi) (lastError : Text) :
    Quiet (bringUp profiles lastError) := by
  induction profiles generalizing lastError with
  | nil => exact .done _
  | cons profile rest ih =>
    refine .bind (quiet_ask rfl) fun _ => .ite (.done _) (.bind (quiet_ask rfl) fun _ => ?_)
    exact .bind (quiet_ask rfl) fun exit => .ite (.done _) (ih _)

theorem quiet_listProfiles (left : Nat) : Quiet (listProfiles left) := by
  induction left with
  | zero => exact .done []
  | succ left ih =>
    refine .bind (quiet_ask rfl) fun listed => ?_
    cases listed with
    | some profiles => exact .done profiles
    | none => exact .bind (.given _ (quiet_ask rfl)) fun _ => ih

theorem quiet_forM {α : Type} (items : List α) {body : α → Program Unit}
    (quiet : ∀ item, Quiet (body item)) :
    Quiet (items.forM body) := by
  induction items with
  | nil => exact .done ()
  | cons item rest ih => exact .bind (quiet item) fun _ => ih

theorem quiet_holdSiteWifi : Quiet holdSiteWifi :=
  .bind (quiet_ask rfl) fun _ => .bind (quiet_forM _ fun _ => quiet_ask rfl) fun _ =>
    .bind (quiet_ask rfl) fun _ => .given _ (quiet_ask rfl)

/-- What boot makes of the radio: the hotspot is complete, or no access point came of it. -/
def Radio.Booted (before : Radio) (result : Option BootResult) : Radio → Prop :=
  before.Torn fun after => match result with
    | some (.hotspot none _) => after.Complete
    | _ => before.HandedBack after

theorem Radio.HandedBack.idle {before middle after : Radio} (back : before.HandedBack middle)
    (idle : middle.Idle after) :
    before.HandedBack after := by
  rcases idle with rfl | ⟨_, again⟩
  · exact back
  · exact ⟨again.managed, again.hostapd, back.dnsmasq ∘ again.dnsmasq, back.address ∘ again.address⟩

variable {radio now : Radio}

theorem prepareWifiRadio_keeps (torn : radio.Torn (fun now => now = radio ∧ now.hostapd = false ∨ radio.HandedBack now) now)
    (still : radio.interruptible = false) :
    Keeps prepareWifiRadio now (ends (fun _ => radio.Torn radio.HandedBack) fun _ => False) := by
  have silent {reached : Prop} (signal : now.interruptible = true) : reached :=
    absurd signal (by simp [torn.interruptible, still])
  refine Keeps.quietThen (quiet_ask rfl) torn.owned (fun _ => ?_) silent
  refine Keeps.askThen torn.owned
    (fun exit _ => Keeps.done (torn.handedBack exit ?_ fun ok there => ?_)) silent
  · rintro (⟨_, down⟩ | back)
    · exact down
    · exact back.hostapd
  · rcases there with ⟨rfl, down⟩ | back
    · exact ⟨by simp [Call.onRadio, ok], down, id, id⟩
    · exact ⟨by simp [Call.onRadio, ok], back.hostapd, back.dnsmasq, back.address⟩

theorem unlessStation_keeps (torn : radio.Torn radio.HandedBack now)
    (still : radio.interruptible = false)
    (reconfirm : Bool) {next : Program BootResult} (rest : Keeps next now radio.Booted) :
    Keeps (unlessStation reconfirm next) now radio.Booted := by
  refine Keeps.quietThen (quiet_takeStation reconfirm) torn.owned (fun taken => ?_) fun signal =>
    absurd signal (by simp [torn.interruptible, still])
  cases taken with
  | some ip => exact Keeps.done torn
  | none => exact rest

theorem raiseAttempts_keeps (torn : radio.Torn radio.HandedBack now)
    (still : radio.interruptible = false)
    (reconfirm : Bool) (setup : Text) (passphrase : Option Text) (seen : Seen) (left : Nat) (last : Option Text)
    (failed : left = 0 → last ≠ none) :
    Keeps (raiseAttempts reconfirm setup passphrase seen left last) now radio.Booted := by
  induction left generalizing now last with
  | zero =>
    cases last with
    | none => exact absurd rfl (failed rfl)
    | some error => exact Keeps.done torn
  | succ left ih =>
    have silent {reached : Prop} {other : Radio} (torn : radio.Torn radio.HandedBack other)
        (signal : other.interruptible = true) : reached :=
      absurd signal (by simp [torn.interruptible, still])
    refine unlessStation_keeps torn still reconfirm ?_
    refine Keeps.quietThen (quiet_ask rfl) torn.owned (fun usable => ?_) (silent torn)
    refine Keeps.bind (fun _ => radio.Torn radio.HandedBack) ?_ fun _ ready torn => ?_
    · unfold given
      refine Keeps.ite (fun _ => ?_) fun _ => Keeps.done torn
      refine (prepareWifiRadio_keeps (torn.from rfl rfl .inr) still).mono fun result after ended => ?_
      cases result with
      | none => exact ended.elim
      | some _ => exact ended
    refine Keeps.bind (fun error => ready.Attempted error.isNone)
      ((startAp_keeps torn.owned setup passphrase).mono fun result after ended => ?_) fun error after tried => ?_
    · cases result with
      | none => exact torn.trans (ended.still (torn.interruptible.trans still)) Radio.HandedBack.idle
      | some _ => exact ended
    · cases error with
      | none =>
        refine Keeps.done (torn.trans tried fun back raised => ?_)
        rcases raised with ⟨_, beacons⟩ | ⟨_, complete⟩
        · exact absurd beacons (by simp [back.hostapd])
        · exact complete
      | some error =>
        have torn : radio.Torn radio.HandedBack after := torn.trans tried Radio.HandedBack.idle
        exact Keeps.quietThen (.given _ (quiet_ask rfl)) torn.owned
          (fun _ => ih torn (some error) fun _ => nofun)
          (silent torn)

theorem raiseHotspot_keeps (torn : radio.Torn radio.HandedBack now)
    (still : radio.interruptible = false)
    (reconfirm : Bool) (setup : Text) (passphrase : Option Text) (seen : Seen) :
    Keeps (raiseHotspot reconfirm setup passphrase seen) now radio.Booted := by
  have silent {reached : Prop} (signal : now.interruptible = true) : reached :=
    absurd signal (by simp [torn.interruptible, still])
  refine Keeps.quietThen quiet_noteUnusable torn.owned (fun stuck => ?_) silent
  refine Keeps.quietThen (.given _ (quiet_ask rfl)) torn.owned (fun _ => ?_) silent
  exact raiseAttempts_keeps torn still reconfirm setup passphrase _ apAttempts none nofun

theorem pause_keeps (torn : radio.Torn radio.HandedBack now) (still : radio.interruptible = false)
    (reconfirm : Bool)
    {next : Program BootResult} (rest : Keeps next now radio.Booted) (left : Nat) :
    Keeps (pause reconfirm next left) now radio.Booted := by
  have silent {reached : Prop} (signal : now.interruptible = true) : reached :=
    absurd signal (by simp [torn.interruptible, still])
  induction left with
  | zero => exact rest
  | succ left ih =>
    refine unlessStation_keeps torn still reconfirm ?_
    refine Keeps.quietThen (quiet_ask rfl) torn.owned
      (fun expired => Keeps.ite (fun _ => rest) fun _ => ?_) silent
    exact Keeps.quietThen (quiet_ask rfl) torn.owned (fun _ => ih) silent

theorem graceRounds_keeps (torn : radio.Torn radio.HandedBack now)
    (still : radio.interruptible = false)
    (reconfirm : Bool) (setup : Text) (passphrase : Option Text) (profiles : List SavedWifi)
    (rounds : Nat) (seen : Seen) :
    Keeps (graceRounds reconfirm setup passphrase profiles rounds seen) now radio.Booted := by
  have silent {reached : Prop} (signal : now.interruptible = true) : reached :=
    absurd signal (by simp [torn.interruptible, still])
  induction rounds generalizing seen with
  | zero => exact raiseHotspot_keeps torn still reconfirm setup passphrase seen
  | succ rounds ih =>
    refine unlessStation_keeps torn still reconfirm ?_
    refine Keeps.quietThen quiet_noteUnusable torn.owned (fun unusable => ?_) silent
    refine Keeps.quietThen (quiet_ask rfl) torn.owned (fun connected => ?_) silent
    refine Keeps.quietThen (.ite (.done _) (quiet_bringUp profiles _)) torn.owned
      (fun lastError => ?_) silent
    exact pause_keeps torn still reconfirm (ih _) 5

theorem giveGrace_keeps (torn : radio.Torn radio.HandedBack now)
    (still : radio.interruptible = false)
    (reconfirm : Bool) (setup : Text) (passphrase : Option Text) (seen : Seen) :
    Keeps (giveGrace reconfirm setup passphrase seen) now radio.Booted := by
  have silent {reached : Prop} (signal : now.interruptible = true) : reached :=
    absurd signal (by simp [torn.interruptible, still])
  refine unlessStation_keeps torn still reconfirm ?_
  refine Keeps.quietThen quiet_noteUnusable torn.owned (fun unusable => ?_) silent
  refine Keeps.quietThen (.ite (.done []) (quiet_listProfiles _)) torn.owned
    (fun profiles => ?_) silent
  refine Keeps.quietThen (.ite (.done 0) (quiet_ask rfl)) torn.owned (fun rounds => ?_) silent
  exact graceRounds_keeps torn still reconfirm setup passphrase profiles rounds _

theorem waitRadio_keeps (torn : radio.Torn radio.HandedBack now)
    (still : radio.interruptible = false)
    (reconfirm : Bool) (setup : Text) (passphrase : Option Text) (polls : Nat) (seen : Seen) :
    Keeps (waitRadio reconfirm setup passphrase polls seen) now radio.Booted := by
  have silent {reached : Prop} (signal : now.interruptible = true) : reached :=
    absurd signal (by simp [torn.interruptible, still])
  induction polls generalizing seen with
  | zero =>
    refine unlessStation_keeps torn still reconfirm ?_
    refine Keeps.quietThen quiet_noteUnusable torn.owned (fun unusable => ?_) silent
    refine Keeps.quietThen (quiet_ask rfl) torn.owned (fun usable => ?_) silent
    exact Keeps.ite
      (fun _ => giveGrace_keeps torn still _ _ _ _) fun _ => giveGrace_keeps torn still _ _ _ _
  | succ polls ih =>
    refine unlessStation_keeps torn still reconfirm ?_
    refine Keeps.quietThen quiet_noteUnusable torn.owned (fun unusable => ?_) silent
    refine Keeps.quietThen (quiet_ask rfl) torn.owned (fun usable => ?_) silent
    refine Keeps.ite (fun _ => giveGrace_keeps torn still _ _ _ _) fun _ => ?_
    exact Keeps.quietThen (quiet_ask rfl) torn.owned (fun _ => ih _) silent

theorem ensureReachable_keeps (owned : radio.Owned) (off : radio.hostapd = false)
    (still : radio.interruptible = false)
    (setup : Text) (passphrase : Option Text) :
    Keeps (ensureReachable setup passphrase) radio radio.Booted := by
  have silent {reached : Prop} (signal : radio.interruptible = true) : reached :=
    absurd signal (by simp [still])
  have begun : radio.Torn (fun now => now = radio ∧ now.hostapd = false ∨ radio.HandedBack now) radio :=
    ⟨owned, rfl, fun sound => ⟨sound, .inl ⟨rfl, off⟩⟩⟩
  refine Keeps.quietThen (quiet_ask rfl) owned (fun moved => ?_) silent
  refine Keeps.quietThen (.given _ quiet_holdSiteWifi) owned (fun _ => ?_) silent
  refine Keeps.bind (fun _ => radio.Torn radio.HandedBack)
    ((prepareWifiRadio_keeps begun still).mono fun result after ended => ?_)
    fun _ now torn => ?_
  · cases result with
    | none => exact ended.elim
    | some _ => exact ended
  · refine Keeps.quietThen (quiet_ask rfl) torn.owned (fun polls => ?_) fun signal =>
      absurd signal (by simp [torn.interruptible, still])
    exact waitRadio_keeps torn still _ setup passphrase polls {}

end Boot

section Runs

theorem Radio.Owned.began {radio : Radio} (owned : radio.Owned) (interruptible : Bool) :
    (radio.began interruptible).Owned := by
  refine ⟨owned.served, fun calm _ => ?_⟩
  obtain ⟨sound, before⟩ := Bool.or_eq_false_iff.mp calm
  exact owned.apart before sound

theorem begin_keeps {α : Type} {radio : Radio} {program : Program α}
    {after : Option α → Radio → Prop}
    (interruptible : Bool) (owned : radio.Owned)
    (rest : (radio.began interruptible).Owned → Keeps program (radio.began interruptible) after) :
    Keeps (ask (.begin interruptible) >>= fun _ => program) radio after :=
  Keeps.askThen owned (fun _ _ => rest (owned.began interruptible)) nofun

theorem discard_keeps {α : Type} {radio : Radio} {program : Program α}
    (keeps : Keeps program radio fun _ after => after.Owned) :
    Keeps (discard program) radio fun _ after => after.Owned :=
  Keeps.bind (fun _ after => after.Owned) (keeps.mono fun result after owned => by cases result <;> exact owned)
    fun _ _ owned => Keeps.done owned

theorem program_keeps (job : Job) {wlan : Wlan} (owned : wlan.Owned)
    (starts : job.starts wlan = true) :
    Keeps job.program wlan.toRadio fun _ after => after.Owned := by
  cases job with
  | reboot => exact Keeps.askLast owned fun answer _ => ⟨nofun, fun _ _ _ => rfl⟩
  | boot setup passphrase =>
    have off : wlan.hostapd = false := by
      simp only [Job.starts, Bool.and_eq_true, Bool.not_eq_true'] at starts
      exact starts.1
    exact discard_keeps (begin_keeps false owned fun begun =>
      (ensureReachable_keeps begun off rfl setup passphrase).mono fun _ _ booted => booted.owned)
  | join request =>
    refine discard_keeps (begin_keeps false owned fun begun => ?_)
    cases valid : validSsid request.ssid with
    | true =>
      refine (joinWorker_keeps begun rfl request valid).mono ?_
      rintro _ after ⟨answer, rfl, worked⟩
      cases answer <;> exact Radio.Torn.owned worked
    | false =>
      have refused : joinNetwork request = pure (notJoined .invalidSsid "invalid ssid".toList
          (FailKind.joinMessage .invalidSsid [])) := by
        simp [joinNetwork, valid]
      unfold joinWorker
      rw [refused]
      refine Keeps.caughtThen (fun result after => result ≠ none ∧ after.Owned)
        (Keeps.done ⟨nofun, begun⟩) ?_
      rintro result after ⟨returned, owned⟩
      cases result with
      | none => exact absurd rfl returned
      | some result => exact Keeps.quietThen (.given _ (quiet_ask rfl)) owned (fun _ => Keeps.done owned) fun _ => owned
  | retry setup passphrase =>
    exact discard_keeps (begin_keeps true owned fun begun =>
      (retrySavedStation_keeps begun setup passphrase).mono fun _ _ retried => retried.owned)
  | recover => exact discard_keeps (begin_keeps false owned fun begun => recoverInterruptedJoin_keeps begun)

theorem owned_of_reaches {machine : Machine Wlan Call.Answer}
    (run : wifi.Reaches ⟨{}, none⟩ machine) :
    machine.memory.Owned :=
  (System.invariant (fun wlan => wlan.Owned) (fun wlan => wlan.Owned) (fun _ => id) ⟨nofun, fun _ _ _ => rfl⟩
    (fun job wlan owned starts => program_keeps job owned starts wlan rfl) (fun effect => nomatch effect)
    (fun _ owned _ => owned) run).1

/-- However the boots, joins and retries follow one another, and wherever their processes are killed:
NetworkManager does not manage wlan0 while hostapd runs on it, and dnsmasq runs only beside hostapd. -/
theorem never_shared {machine : Machine Wlan Call.Answer} (run : wifi.Reaches ⟨{}, none⟩ machine) :
    (machine.memory.shaken = false → machine.memory.faults = false → machine.memory.managed = true →
      machine.memory.hostapd = false) ∧
      (machine.memory.dnsmasq = true → machine.memory.hostapd = true) :=
  ⟨(owned_of_reaches run).apart, (owned_of_reaches run).served⟩

end Runs

end Wqm1.Network.Hotspot
