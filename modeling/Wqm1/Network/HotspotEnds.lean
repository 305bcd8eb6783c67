import Wqm1.Network.RadioOwner

/-! How a retry, a join and a boot end: what was read of the link, what the portal was told, and which saved
profiles were touched. -/

set_option autoImplicit false

namespace Wqm1.Network.Hotspot

open Wqm1.Library Prog

/-- What holds after a program that returned. -/
def Tells {α : Type} (before : Wlan → Prop) (program : Program α) (after : α → Wlan → Prop) : Prop :=
  ∀ wlan, before wlan → program.Safe wifi (fun _ => True) (ends after fun _ => True) wlan

section Rules

variable {α β : Type} {before : Wlan → Prop} {program : Program α} {after : α → Wlan → Prop}

theorem Tells.mono {weaker : α → Wlan → Prop} (tells : Tells before program after)
    (weaken : ∀ value wlan, after value wlan → weaker value wlan) :
    Tells before program weaker := by
  refine fun wlan begun => (tells wlan begun).mono fun result wlan reached => ?_
  cases result with
  | none => trivial
  | some value => exact weaken value wlan reached

theorem Tells.from {stronger : Wlan → Prop} (tells : Tells before program after)
    (strengthen : ∀ wlan, stronger wlan → before wlan) : Tells stronger program after :=
  fun wlan begun => tells wlan (strengthen wlan begun)

theorem Tells.done {value : α} (reached : ∀ wlan, before wlan → after value wlan) :
    Tells before (pure value) after :=
  reached

theorem Tells.bind {next : α → Program β} {after : β → Wlan → Prop} (middle : α → Wlan → Prop)
    (first : Tells before program middle)
    (rest : ∀ value, Tells (middle value) (next value) after) :
    Tells before (program >>= next) after := by
  refine fun wlan begun => Safe.bind middle ((first wlan begun).mono fun result wlan reached => ?_) rest
  cases result with
  | none => trivial
  | some value => exact reached

theorem Tells.any (program : Program α) : Tells before program fun _ _ => True :=
  fun wlan _ => (safe_trivial program wlan).mono fun result _ _ => by cases result <;> trivial

/-- A part of a program of which nothing need be known. -/
theorem Tells.then {next : α → Program β} {after : β → Wlan → Prop}
    (rest : ∀ value, Tells (fun _ => True) (next value) after) :
    Tells before (program >>= next) after :=
  Tells.bind (fun _ _ => True) (Tells.any program) rest

theorem Tells.ite {condition : Prop} [Decidable condition] {second : Program α}
    (left : condition → Tells before program after)
    (right : ¬ condition → Tells before second after) :
    Tells before (if condition then program else second) after := by
  split
  next holds => exact left holds
  next fails => exact right fails

theorem tells_ask {request : Call} {after : request.Answer → Wlan → Prop}
    (answered : ∀ wlan answer, before wlan → after answer (request.perform (some answer) wlan)) :
    Tells before (ask request) after := by
  refine fun wlan begun => safe_call trivial fun answer _ => ?_
  cases answer with
  | none => trivial
  | some answer => exact answered wlan answer begun

theorem Tells.keep {stable : Wlan → Prop} {next : α → Program β} {after : β → Wlan → Prop}
    (kept : Tells stable program fun _ => stable)
    (rest : ∀ value, Tells stable (next value) after) :
    Tells stable (program >>= next) after :=
  Tells.bind (fun _ => stable) kept rest

theorem Tells.caught (tells : Tells before program after) :
    Tells before program.caught fun result wlan => ∀ value, result = some value →
      after value wlan := by
  refine fun wlan begun => safe_caught.mpr ((tells wlan begun).mono fun result wlan reached => ?_)
  cases result with
  | none => exact nofun
  | some value =>
    rintro _ ⟨⟩
    exact reached

theorem Tells.of_ends {wlan final : Wlan} {value : α} (tells : Tells before program after)
    (begun : before wlan)
    (ended : Ends wifi program wlan (some value) final) : after value final :=
  (tells wlan begun).after_ends ended

end Rules

/-- The portal was told this last, unless the mode file could not be written. -/
def Wlan.Told (mode : String) (wlan : Wlan) : Prop :=
  wlan.stale = false → wlan.mode = some mode.toList

theorem tells_writeMode {before : Wlan → Prop} (mode : String) :
    Tells before (ask (.writeMode mode.toList)) fun _ wlan => wlan.Told mode := by
  refine tells_ask fun wlan written _ sound => ?_
  cases written with
  | true => rfl
  | false => cases sound

/-- Writing the mode file says nothing of the link. -/
theorem tells_disarmPortal_linked (linked : Link → Prop) (reason : String) :
    Tells (fun wlan => linked wlan.link) (disarmPortal reason)
      fun _ wlan => linked wlan.link ∧ wlan.Told s!"down: {reason}" := by
  refine Tells.bind
    (fun _ wlan => linked wlan.link ∧ wlan.Told s!"down: {reason}") ?_ fun _ => .done fun _ => id
  refine tells_ask fun wlan written kept => ⟨kept, fun sound => ?_⟩
  cases written with
  | true => rfl
  | false => cases sound

theorem tells_disarmPortal {before : Wlan → Prop} (reason : String) :
    Tells before (disarmPortal reason) fun _ wlan => wlan.Told s!"down: {reason}" :=
  Tells.bind (fun _ wlan => wlan.Told s!"down: {reason}") (tells_writeMode _) fun _ => .done fun _ => id

section AccessPoint

variable {before : Wlan → Prop}

/-- A hotspot that came up has told the portal so. -/
def Armed (error : Option Text) (wlan : Wlan) : Prop := error = none → wlan.Told "up"

theorem tells_failed (error : Text) : Tells before (pure (some error)) Armed :=
  .done fun _ _ => nofun

theorem tells_armed : Tells before (do armPortal; pure none) Armed := by
  refine Tells.bind (fun _ wlan => wlan.Told "up") ?_ fun _ => .done fun _ told _ => told
  exact Tells.bind (fun _ wlan => wlan.Told "up") (tells_writeMode _) fun _ => .done fun _ => id

theorem tells_startServices : Tells before startServices Armed :=
  .then fun _ => .then fun _ => .ite (fun _ => .then fun _ => tells_failed _) fun _ =>
    .then fun _ => .then fun _ => .ite (fun _ => .then fun _ => tells_failed _) fun _ => tells_armed

theorem tells_configureIface (ssid : Text) (passphrase : Option Text) :
    Tells before (configureIface ssid passphrase) Armed := by
  refine .then fun _ => .then fun written => ?_
  cases written with
  | some error => exact .then fun _ => tells_failed error
  | none =>
  refine .then fun conf => ?_
  cases conf with
  | some error => exact .then fun _ => tells_failed error
  | none => exact .then fun _ => .then fun _ => .ite (fun _ => .then fun _ => tells_failed _) fun _ => tells_startServices

theorem tells_startAp (ssid : Text) (passphrase : Option Text) :
    Tells before (startAp ssid passphrase) Armed := by
  refine .ite (fun _ => tells_failed _) fun _ => .ite (fun _ => tells_failed _) fun _ =>
    .ite (fun _ => tells_failed _) fun _ => .then fun _ => .ite (fun _ => tells_armed) fun _ => ?_
  refine .then fun installed => ?_
  cases installed with
  | some error => exact tells_failed error
  | none =>
    exact .then fun _ => .then fun _ => .then fun _ => .then fun _ =>
      .ite (fun _ => tells_failed _) fun _ => tells_configureIface ssid _

theorem tells_raiseAp (ssid : Text) (passphrase : Option Text) (left : Nat) :
    Tells before (raiseAp ssid passphrase left) fun restored wlan => restored = true →
      wlan.Told "up" := by
  induction left generalizing before with
  | zero => exact .done fun _ _ => nofun
  | succ left ih =>
    refine Tells.bind Armed (tells_startAp ssid passphrase) fun error => .ite (fun up => .done fun _ armed _ => ?_) fun _ =>
      .ite (fun _ => .done fun _ _ => nofun) fun _ => .then fun _ => ih
    exact armed (Option.isNone_iff_eq_none.mp up)

theorem tells_restoreAp (hadAp : Bool) (ssid passphrase : Option Text) :
    Tells before (restoreAp hadAp ssid passphrase) fun restored wlan => restored = true →
      wlan.Told "up" := by
  unfold restoreAp
  split
  next => exact tells_raiseAp _ passphrase apAttempts
  next => exact .done fun _ _ => nofun

end AccessPoint

section Retry

/-- The address is the first usable one that was just read, and the portal is closed. -/
structure Wlan.Stationed (ip : Text) (wlan : Wlan) : Prop where
  address : ∃ net, wlan.link.net = some net ∧ net.usable.head? = some ip
  told : wlan.Told "down: station"

theorem tells_stationReady {before : Wlan → Prop} :
    Tells before stationReady fun ready wlan => ∀ net, ready = some net → wlan.link.net = some net ∧
      net.usable ≠ [] := by
  refine .then fun _ => .ite (fun _ => ?_) fun _ => .done fun _ _ => nofun
  refine Tells.bind (fun net wlan => wlan.link.net = some net)
    (tells_ask fun _ _ _ => rfl) fun net => .done ?_
  intro wlan read found given
  split at given
  next => cases given
  next some =>
    cases given
    exact ⟨read, some⟩

theorem head?_of_ne_nil {ips : List Text} (some : ips ≠ []) :
    ips.head? = Option.some (ips.headD []) := by
  cases ips with
  | nil => exact absurd rfl some
  | cons ip rest => rfl

theorem tells_arrived (net : Net) :
    Tells (fun wlan => wlan.link.net = some net ∧ net.usable ≠ []) (arrived net)
      fun found wlan => ∀ ip, found = some ip → wlan.Stationed ip := by
  refine Tells.bind
    (fun _ wlan => (wlan.link.net = some net ∧ net.usable ≠ []) ∧ wlan.Told "down: station")
    (tells_disarmPortal_linked (fun link => link.net = some net ∧ net.usable ≠ []) "station") fun _ => ?_
  refine Tells.keep (tells_ask fun _ _ kept => kept) fun _ => .done ?_
  rintro wlan ⟨⟨read, some⟩, told⟩ _ ⟨⟩
  exact ⟨⟨net, read, head?_of_ne_nil some⟩, told⟩

theorem tells_pollStation {before : Wlan → Prop} (polls : Nat) :
    Tells before (pollStation polls) fun found wlan => ∀ ip, found = some ip →
      wlan.Stationed ip := by
  induction polls generalizing before with
  | zero =>
    refine Tells.bind _ tells_stationReady fun ready => ?_
    cases ready with
    | none => exact .done fun _ _ => nofun
    | some net => exact (tells_arrived net).from fun _ read => read net rfl
  | succ polls ih =>
    refine Tells.bind _ tells_stationReady fun ready => ?_
    cases ready with
    | none => exact .then fun _ => ih
    | some net => exact (tells_arrived net).from fun _ read => read net rfl

theorem tells_retryProfiles {before : Wlan → Prop} (first : Bool) (profiles : List SavedWifi)
    (lastError : Text) :
    Tells before (retryProfiles first profiles lastError) fun found wlan => ∀ ip, found = .inl ip →
      wlan.Stationed ip := by
  induction profiles generalizing before first lastError with
  | nil => exact .done fun _ _ => nofun
  | cons profile rest ih =>
    refine .then fun _ => .ite (fun _ => .done fun _ _ => nofun) fun _ => .then fun _ => .then fun exit =>
      .ite (fun _ => ih _ _) fun _ => .then fun polls => Tells.bind _ (tells_pollStation polls) fun found => ?_
    cases found with
    | none => exact ih _ _
    | some ip =>
      refine .done fun wlan stationed given same => ?_
      cases same
      exact stationed ip rfl

theorem tells_comeBack {before : Wlan → Prop} (setup : Text) (passphrase : Option Text)
    (lastError : Text) :
    Tells before (comeBack setup passphrase lastError) fun restored wlan => restored = true →
      wlan.Told "up" := by
  refine .then fun _ => .then fun _ => .then fun _ => Tells.bind _ (tells_restoreAp true _ passphrase) fun restored => ?_
  exact Tells.keep
    (tells_ask fun _ _ told => told) fun _ => Tells.keep (tells_ask fun _ _ told => told) fun _ =>
    .done fun _ => id

/-- What a retry that returned says of the link and the portal. -/
def RetryResult.Told (result : RetryResult) (wlan : Wlan) : Prop :=
  match result with
  | station ip => wlan.Stationed ip
  | hotspot true => wlan.Told "up"
  | _ => True

theorem tells_noClients {before : Wlan → Prop} {next : Program RetryResult}
    (rest : Tells (fun _ => True) next RetryResult.Told) :
    Tells before (noClients next) RetryResult.Told := by
  refine .then fun clients => ?_
  cases clients with
  | none => exact .done fun _ _ => trivial
  | some clients => exact .ite (fun _ => .done fun _ _ => trivial) fun _ => rest

theorem tells_leaveHotspot {before : Wlan → Prop} (setup : Text) (passphrase : Option Text)
    (profiles : List SavedWifi) :
    Tells before (leaveHotspot setup passphrase profiles) RetryResult.Told := by
  refine Tells.bind _
    (Tells.caught (Tells.then fun _ => tells_retryProfiles true profiles [])) fun result => ?_
  match result with
  | some (.inl ip) => exact .done fun wlan found => found _ rfl ip rfl
  | some (.inr lastError) =>
    refine Tells.bind _
      (tells_comeBack setup passphrase lastError) fun restored => .done fun wlan told => ?_
    cases restored with
    | true => exact told rfl
    | false => trivial
  | none => exact .then fun _ _ _ => trivial

theorem tells_retrySavedStation (setup : Text) (passphrase : Option Text) :
    Tells (fun _ => True) (retrySavedStation setup passphrase) RetryResult.Told := by
  refine .then fun _ => .ite (fun _ => ?_) fun _ => .done fun _ _ => trivial
  refine .then fun _ => .ite (fun _ => .done fun _ _ => trivial) fun _ => tells_noClients ?_
  refine .then fun listed => .ite (fun _ => .done fun _ _ => trivial) fun _ => .then fun moved => ?_
  match moved with
  | some true => exact .done fun _ _ => trivial
  | none => exact .done fun _ _ => trivial
  | some false => exact tells_noClients (tells_leaveHotspot setup passphrase _)

end Retry

section Join

/-- The four proofs of a join, all read since the link last changed. -/
structure Link.Proven (ssid ip : Text) (link : Link) : Prop where
  net : ∃ net, link.net = some net ∧ net.ssid = some ssid ∧ net.usable.head? = some ip
  reached : link.reached = true
  clear : link.clear = true
  bluesignal : link.bluesignal = true

/-- What a join that returned says of the link and the portal. -/
structure JoinResult.Told (ssid : Text) (result : JoinResult) (wlan : Wlan) : Prop where
  proven : result.connected = true → ∃ ip, result.ip = some ip ∧ wlan.link.Proven ssid ip ∧
    wlan.Told "down: station"
  restored : result.connected = false → result.apRestored = true → wlan.Told "up"
  lost : result.connected = false → result.apRestored = false → wlan.Told "down: hotspot down"

variable {before : Wlan → Prop} (join : Join)

theorem tells_reportAp (station : Text) (restored : Bool) :
    Tells (fun wlan => restored = true → wlan.Told "up") (reportAp station restored) fun _ wlan =>
      (restored = true → wlan.Told "up") ∧ (restored = false → wlan.Told "down: hotspot down") := by
  refine .ite (fun up => ?_) fun down => ?_
  · refine Tells.keep
      (tells_ask fun _ _ told => told) fun _ => tells_ask fun _ _ told => ⟨told, fun off => ?_⟩
    exact absurd up (by simp [off])
  · refine Tells.bind (fun _ wlan => wlan.Told "down: hotspot down")
      (tells_disarmPortal "hotspot down") fun _ => ?_
    exact tells_ask fun _ _ told => ⟨fun up => absurd up down, fun _ => told⟩

theorem tells_failJoin (hadAp : Bool) (nmText : Text) (kind : FailKind) (linkLocal : List Text) :
    Tells before (failJoin join hadAp nmText kind linkLocal) (JoinResult.Told join.ssid) := by
  refine .then fun _ => .then fun _ => .then fun _ => Tells.bind _ (tells_restoreAp hadAp _ _) fun restored => ?_
  refine Tells.bind _ (tells_reportAp _ restored) fun _ => .done fun wlan told => ⟨nofun, fun _ => told.1, fun _ => told.2⟩

theorem tells_joined (ip : Text) :
    Tells (fun wlan => wlan.link.Proven join.ssid ip) (joined join ip)
    (JoinResult.Told join.ssid) := by
  refine Tells.keep (tells_ask fun _ _ proven => proven) fun _ => ?_
  refine Tells.bind (fun _ wlan => wlan.link.Proven join.ssid ip ∧ wlan.Told "down: station")
    (tells_disarmPortal_linked (Link.Proven join.ssid ip) "station") fun _ => ?_
  refine Tells.keep (tells_ask fun _ _ kept => kept) fun _ => Tells.keep (tells_ask fun _ _ kept => kept) fun _ => ?_
  exact .done fun wlan kept => ⟨fun _ => ⟨ip, rfl, kept⟩, nofun, nofun⟩

theorem tells_pollJoin (hadAp : Bool) (nmText : Text) {unreached : Net → Program JoinResult}
    (rest : ∀ net, Tells (fun _ => True) (unreached net) (JoinResult.Told join.ssid)) :
    Tells before (pollJoin join hadAp nmText unreached) (JoinResult.Told join.ssid) := by
  refine Tells.bind (fun net wlan => wlan.link = { net := some net })
    (tells_ask fun _ _ _ => rfl) fun net => ?_
  refine Tells.bind (fun reached wlan => reached = true →
    net.onTarget join.ssid = true ∧
      wlan.link = { net := some net, reached := true }) ?_ fun reached => ?_
  · refine .ite (fun target => tells_ask fun wlan reached read up => ⟨target, ?_⟩) fun _ => .done fun _ _ => nofun
    change ({ wlan.link with reached } : Link) = _
    rw [read, up]
  · refine .ite (fun _ => (rest net).from fun _ _ => trivial) fun hit => ?_
    refine Tells.bind (fun captive wlan => captive = false →
      net.onTarget join.ssid = true ∧
        wlan.link = { net := some net, reached := true, clear := true }) ?_ fun captive => ?_
    · refine tells_ask fun wlan captive read free => ?_
      obtain ⟨target, linked⟩ := read (by simpa using hit)
      refine ⟨target, ?_⟩
      change ({ wlan.link with clear := !captive } : Link) = _
      rw [linked, free]
      rfl
    refine .ite (fun _ => tells_failJoin join _ _ _ _) fun free => ?_
    refine Tells.bind (fun proof wlan => proof = true → wlan.link.Proven join.ssid (net.usable.headD [])) ?_ fun proof => ?_
    · refine tells_ask fun wlan proof read answered => ?_
      obtain ⟨target, linked⟩ := read (by simpa using free)
      simp only [Net.onTarget, Bool.and_eq_true, decide_eq_true_eq] at target
      have proven : ({ wlan.link with bluesignal := proof } : Link).Proven join.ssid (net.usable.headD []) := by
        rw [linked]
        exact ⟨⟨net, rfl, target.1, head?_of_ne_nil target.2⟩, rfl, rfl, answered⟩
      exact proven
    exact .ite (fun _ => tells_failJoin join _ _ _ _) fun answered => (tells_joined join _).from fun _ proven =>
      proven (by simpa using answered)

theorem tells_pollUntil (hadAp : Bool) (nmText : Text) (polls : Nat) :
    Tells before (pollUntil join hadAp nmText polls) (JoinResult.Told join.ssid) := by
  induction polls generalizing before with
  | zero => exact tells_pollJoin join hadAp nmText fun net => .then fun _ => tells_failJoin join _ _ _ _
  | succ polls ih => exact tells_pollJoin join hadAp nmText fun _ => .then fun _ => ih

theorem tells_joinLocked : Tells before (joinLocked join) (JoinResult.Told join.ssid) := by
  refine .then fun hadAp => .then fun _ => .then fun ⟨exit, nmText⟩ => .then fun polls => ?_
  cases (if exit.ok then none else classifyConnectError nmText : Option FailKind) with
  | none => exact tells_pollUntil join hadAp nmText polls
  | some kind => exact .then fun net => .ite (fun _ => tells_failJoin join _ _ _ _) fun _ => tells_pollUntil join hadAp nmText polls

theorem tells_joinWorker (valid : validSsid join.ssid = true) :
    Tells before (joinWorker join) fun answer wlan => ∀ result, answer =
      some result → result.Told join.ssid wlan := by
  have tells : Tells before (joinNetwork join) (JoinResult.Told join.ssid) := by
    unfold joinNetwork
    rw [valid]
    exact tells_joinLocked join
  refine Tells.bind _ tells.caught fun answer => ?_
  cases answer with
  | none => exact .then fun _ => .done fun _ _ => nofun
  | some result =>
    refine Tells.bind
      (fun _ wlan => result.Told join.ssid wlan) ?_ fun _ => .done fun wlan told given same => ?_
    · refine .ite
        (fun _ => tells_ask fun wlan _ told => ?_) fun _ => .done fun wlan told => told result rfl
      have kept := told result rfl
      exact ⟨kept.proven, kept.restored, kept.lost⟩
    · cases same
      exact told

end Join

section Boot

variable {before : Wlan → Prop} (setup : Text) (passphrase : Option Text)

/-- What a boot that returned says of the link and the portal. -/
def BootResult.Told (result : BootResult) (wlan : Wlan) : Prop :=
  match result with
  | station ip => wlan.Stationed ip
  | hotspot none _ => wlan.Told "up"
  | hotspot (some _) _ => True

theorem tells_unlessStation (reconfirm : Bool) {next : Program BootResult}
    (rest : Tells (fun _ => True) next BootResult.Told) :
    Tells before (unlessStation reconfirm next) BootResult.Told := by
  refine Tells.bind (fun found wlan => ∀ ip, found = some ip → wlan.Stationed ip) ?_ fun found => ?_
  · refine .ite
      (fun _ => .done fun _ _ => nofun) fun _ => Tells.bind _ tells_stationReady fun ready => ?_
    cases ready with
    | none => exact .done fun _ _ => nofun
    | some net =>
      refine Tells.bind
        (fun _ wlan => (wlan.link.net = some net ∧ net.usable ≠ []) ∧ wlan.Told "down: station") ?_
        fun _ => .done ?_
      · exact (tells_disarmPortal_linked (fun link => link.net = some net ∧ net.usable ≠ []) "station").from
          fun _ read => read net rfl
      · rintro wlan ⟨⟨read, some⟩, told⟩ _ ⟨⟩
        exact ⟨⟨net, read, head?_of_ne_nil some⟩, told⟩
  · cases found with
    | some ip => exact .done fun wlan stationed => stationed ip rfl
    | none => exact rest.from fun _ _ => trivial

theorem tells_raiseAttempts (reconfirm : Bool) (seen : Seen) (left : Nat) (last : Option Text)
    (failed : left = 0 → last ≠ none) :
    Tells before (raiseAttempts reconfirm setup passphrase seen left last) BootResult.Told := by
  induction left generalizing before last with
  | zero =>
    cases last with
    | none => exact absurd rfl (failed rfl)
    | some error => exact .done fun _ _ => trivial
  | succ left ih =>
    refine tells_unlessStation reconfirm (.then fun usable => .then fun _ =>
      Tells.bind Armed (tells_startAp setup passphrase) fun error => ?_)
    cases error with
    | none => exact .done fun wlan armed => armed rfl
    | some error => exact .then fun _ => ih (some error) fun _ => nofun

theorem tells_raiseHotspot (reconfirm : Bool) (seen : Seen) :
    Tells before (raiseHotspot reconfirm setup passphrase seen) BootResult.Told :=
  .then fun _ => .then fun _ => tells_raiseAttempts setup passphrase reconfirm _ apAttempts none nofun

theorem tells_pause (reconfirm : Bool) {next : Program BootResult}
    (rest : Tells (fun _ => True) next BootResult.Told)
    (left : Nat) : Tells (fun _ => True) (pause reconfirm next left) BootResult.Told := by
  induction left with
  | zero => exact rest
  | succ left ih => exact tells_unlessStation reconfirm (.then fun _ => .ite (fun _ => rest) fun _ => .then fun _ => ih)

theorem tells_graceRounds (reconfirm : Bool) (profiles : List SavedWifi) (rounds : Nat)
    (seen : Seen) :
    Tells (fun _ => True)
    (graceRounds reconfirm setup passphrase profiles rounds seen) BootResult.Told := by
  induction rounds generalizing seen with
  | zero => exact tells_raiseHotspot setup passphrase reconfirm seen
  | succ rounds ih =>
    exact tells_unlessStation reconfirm
      (.then fun _ => .then fun _ => .then fun _ => tells_pause reconfirm (ih _) 5)

theorem tells_giveGrace (reconfirm : Bool) (seen : Seen) :
    Tells before (giveGrace reconfirm setup passphrase seen) BootResult.Told :=
  tells_unlessStation reconfirm (.then fun _ => .then fun _ => .then fun _ =>
    (tells_graceRounds setup passphrase reconfirm _ _ _).from fun _ _ => trivial)

theorem tells_waitRadio (reconfirm : Bool) (polls : Nat) (seen : Seen) :
    Tells before (waitRadio reconfirm setup passphrase polls seen) BootResult.Told := by
  induction polls generalizing before seen with
  | zero =>
    exact tells_unlessStation reconfirm (.then fun _ => .then fun _ =>
      .ite (fun _ => tells_giveGrace setup passphrase reconfirm _) fun _ => tells_giveGrace setup passphrase reconfirm _)
  | succ polls ih =>
    exact tells_unlessStation reconfirm (.then fun _ => .then fun _ =>
      .ite (fun _ => tells_giveGrace setup passphrase reconfirm _) fun _ => .then fun _ => ih _)

theorem tells_ensureReachable : Tells before (ensureReachable setup passphrase) BootResult.Told :=
  .then fun _ => .then fun _ => .then fun _ => .then fun _ => tells_waitRadio setup passphrase _ _ _

end Boot

section Profiles

/-- A call that deletes no profile but that of the hotspot and brings none up. -/
def Call.plain : Call → Bool
  | delete _ | up _ | reconfirmRequired => false
  | _ => true

/-- No profile but one is deleted by name. -/
def Call.Spares (tryName : Text) (request : Call) : Prop :=
  ∀ name, request = .delete name → name = tryName

variable {α β : Type} {allowed : Call → Prop}

theorem only_ask {request : Call} (fits : allowed request) : (ask request).Only allowed :=
  only_invoke fits

theorem only_given {body : Program Unit} (condition : Bool) (only : body.Only allowed) :
    (given condition body).Only allowed :=
  .ite only trivial

/-- A program that touches no saved profile. -/
def Plain (program : Program α) : Prop := program.Only (·.plain = true)

theorem plain_armPortal : Plain armPortal := .bind (only_ask rfl) fun _ => trivial

theorem plain_disarmPortal (reason : String) : Plain (disarmPortal reason) :=
  .bind (only_ask rfl) fun _ => trivial

theorem plain_releaseApIface : Plain releaseApIface :=
  .bind (only_ask rfl) fun _ => .bind (only_ask rfl) fun _ => .bind (only_ask rfl) fun _ =>
    .bind (only_ask rfl) fun _ => .bind (only_ask rfl) fun _ => trivial

theorem plain_startServices : Plain startServices :=
  .bind (only_ask rfl) fun _ => .bind (.ite (only_ask rfl) trivial) fun _ =>
    .ite (.bind plain_releaseApIface fun _ => trivial) (.bind (only_ask rfl) fun _ =>
      .bind (only_ask rfl) fun _ => .ite (.bind plain_releaseApIface fun _ => trivial)
        (.bind plain_armPortal fun _ => trivial))

theorem plain_handBack (error : Text) : Plain (handBack error) :=
  .bind (only_ask rfl) fun _ => trivial

theorem plain_configureIface (ssid : Text) (passphrase : Option Text) :
    Plain (configureIface ssid passphrase) := by
  refine .bind (only_ask rfl) fun _ => .bind (only_ask rfl) fun written => ?_
  cases written with
  | some error => exact plain_handBack error
  | none =>
  refine .bind (only_ask rfl) fun conf => ?_
  cases conf with
  | some error => exact plain_handBack error
  | none =>
    exact .bind (only_ask rfl) fun _ => .bind (only_ask rfl) fun _ =>
      .ite (plain_handBack _) plain_startServices

theorem plain_startAp (ssid : Text) (passphrase : Option Text) :
    Plain (startAp ssid passphrase) := by
  refine .ite trivial (.ite trivial (.ite trivial (.bind (only_ask rfl) fun _ =>
    .ite (.bind plain_armPortal fun _ => trivial) (.bind (only_ask rfl) fun installed => ?_))))
  cases installed with
  | some error => trivial
  | none =>
    exact .bind (only_ask rfl) fun _ => .bind (only_ask rfl) fun _ =>
      .bind (only_ask rfl) fun _ => .bind (only_ask rfl) fun _ =>
        .ite trivial (plain_configureIface ssid _)

theorem plain_raiseAp (ssid : Text) (passphrase : Option Text) (left : Nat) :
    Plain (raiseAp ssid passphrase left) := by
  induction left with
  | zero => trivial
  | succ left ih =>
    exact .bind (plain_startAp ssid passphrase) fun _ => .ite trivial (.ite trivial
      (.bind (only_ask rfl) fun _ => ih))

theorem plain_restoreAp (hadAp : Bool) (ssid passphrase : Option Text) :
    Plain (restoreAp hadAp ssid passphrase) := by
  unfold restoreAp
  split
  next => exact plain_raiseAp _ passphrase apAttempts
  next => trivial

/-- A program that deletes no profile but that of the hotspot and one other. -/
def Spares (tryName : Text) (program : Program α) : Prop := program.Only (Call.Spares tryName)

theorem Plain.spares {program : Program α} (plain : Plain program) (tryName : Text) :
    Spares tryName program :=
  Only.mono plain fun request plain name same => by
    subst same
    cases plain

variable (join : Join)

theorem spares_failJoin (hadAp : Bool) (nmText : Text) (kind : FailKind) (linkLocal : List Text) :
    Spares join.tryName (failJoin join hadAp nmText kind linkLocal) := by
  refine .bind (only_ask fun name same => ?_) fun _ => .bind (only_ask nofun) fun _ => .bind (only_ask nofun) fun _ =>
    .bind ((plain_restoreAp _ _ _).spares _) fun restored => .bind (.ite ?_ ?_) fun _ => trivial
  · cases same
    rfl
  · exact .bind (only_ask nofun) fun _ => only_ask nofun
  · exact .bind ((plain_disarmPortal _).spares _) fun _ => only_ask nofun

theorem spares_connectLoop (index : Nat) (attempts : List Bool) (last : Exit × Text) :
    Spares join.tryName (connectLoop join index attempts last) := by
  induction attempts generalizing index last with
  | nil => trivial
  | cons hidden rest ih =>
    refine .bind (only_given _ (.bind (only_ask nofun) fun _ => trivial)) fun _ =>
      .bind (only_given _ (only_ask fun name same => ?_)) fun _ => .bind (only_ask nofun) fun exit => .ite trivial (ih _ _)
    cases same
    rfl

theorem spares_pollJoin (hadAp : Bool) (nmText : Text) {unreached : Net → Program JoinResult}
    (rest : ∀ net, Spares join.tryName (unreached net)) :
    Spares join.tryName (pollJoin join hadAp nmText unreached) := by
  refine .bind (only_ask nofun) fun net => .bind (.ite (only_ask nofun) trivial) fun reached => .ite (rest net) ?_
  refine .bind (only_ask nofun) fun captive => .ite (spares_failJoin join _ _ _ _) (.bind (only_ask nofun) fun proof => ?_)
  refine .ite (spares_failJoin join _ _ _ _) (.bind (only_ask nofun) fun _ => ?_)
  exact .bind ((plain_disarmPortal _).spares _) fun _ => .bind (only_ask nofun) fun _ => .bind (only_ask nofun) fun _ => trivial

theorem spares_pollUntil (hadAp : Bool) (nmText : Text) (polls : Nat) :
    Spares join.tryName (pollUntil join hadAp nmText polls) := by
  induction polls with
  | zero =>
    exact spares_pollJoin join hadAp nmText fun net => .bind (.ite (only_ask nofun) trivial) fun _ =>
      spares_failJoin join _ _ _ _
  | succ polls ih => exact spares_pollJoin join hadAp nmText fun _ => .bind (only_ask nofun) fun _ => ih

theorem spares_joinLocked : Spares join.tryName (joinLocked join) := by
  have left : Plain leaveAp := .bind plain_releaseApIface fun _ => plain_disarmPortal _
  refine .bind (only_ask nofun) fun hadAp => .bind (only_given _ (left.spares _)) fun _ => .bind ?_ fun ⟨exit, nmText⟩ => ?_
  · exact .ite (spares_connectLoop join _ _ _)
      (.bind (only_ask nofun) fun _ => spares_connectLoop join _ _ _)
  refine .bind (only_ask nofun) fun polls => ?_
  cases (if exit.ok then none else classifyConnectError nmText : Option FailKind) with
  | none => exact spares_pollUntil join hadAp nmText polls
  | some kind =>
    exact .bind (only_ask nofun) fun net => .ite (spares_failJoin join _ _ _ _) (spares_pollUntil join hadAp nmText polls)

theorem spares_joinProcess : Spares join.tryName (joinProcess join) := by
  refine .bind (only_ask nofun) fun _ => .bind (.caught (.ite trivial (spares_joinLocked join))) fun answer => ?_
  cases answer with
  | some result => exact .bind (only_given _ (only_ask nofun)) fun _ => trivial
  | none =>
    refine .bind ?_ fun _ => trivial
    unfold restoreHotspot
    split
    next =>
      exact .bind (only_ask nofun) fun _ => .ite trivial
        (.bind (.caught ((plain_raiseAp _ _ _).spares _)) fun _ => trivial)
    next => trivial

/-- No other profile is ever deleted by name. -/
theorem deleted_joinProcess {wlan after : Wlan} {result : Option (Option JoinResult)}
    (ended : Ends wifi (joinProcess join) wlan result after) :
    ∀ name ∈ after.deleted, name ∈ wlan.deleted ∨ name = apConnectionName ∨
      name = join.tryName := by
  have safe : (joinProcess join).Safe wifi (fun _ => True)
      (fun _ seen => ∀ name ∈ seen.deleted, name ∈ wlan.deleted ∨ name = apConnectionName ∨ name = join.tryName) wlan := by
    refine Only.safe (spares_joinProcess join) (fun name => .inl)
      (fun _ _ => trivial) fun request seen answer spared kept _ => ?_
    intro name deleted
    change name ∈ (Call.perform request answer seen).deleted at deleted
    cases request with
    | deleteSetup =>
      rcases List.mem_append.mp deleted with earlier | now
      · exact kept name earlier
      · exact .inr (.inl (List.mem_singleton.mp now))
    | delete other =>
      rcases List.mem_append.mp deleted with earlier | now
      · exact kept name earlier
      · exact .inr (.inr ((List.mem_singleton.mp now).trans (spared other rfl)))
    | _ => exact kept name deleted
  exact safe.after_ends ended

section Moved

/-- The card has moved, and no profile was brought up since. -/
def Held (tried : List Text) (wlan : Wlan) : Prop := wlan.moved = true ∧ wlan.tried = tried

variable {tried : List Text} {wlan : Wlan}

theorem Plain.held {program : Program α} (plain : Plain program) (held : Held tried wlan) :
    program.Safe wifi (fun _ => True) (fun _ => Held tried) wlan := by
  refine Only.safe plain held (fun _ _ => trivial) fun request seen answer plain kept _ => ?_
  change Held tried (Call.perform request answer seen)
  cases request <;> first | exact kept | cases plain

theorem plain_stationReady : Plain stationReady :=
  .bind (only_ask rfl) fun _ => .ite (.bind (only_ask rfl) fun _ => trivial) trivial

theorem plain_noteUnusable : Plain noteUnusable :=
  .bind (only_ask rfl) fun _ => .ite (.bind plain_stationReady fun _ => trivial) trivial

theorem plain_holdSiteWifi : Plain holdSiteWifi := by
  refine .bind (only_ask rfl) fun listed => .bind ?_ fun _ => .bind (only_ask rfl) fun _ => only_given _ (only_ask rfl)
  induction listed.getD [] with
  | nil => trivial
  | cons profile rest ih => exact .bind (only_ask rfl) fun _ => ih

theorem plain_prepareWifiRadio : Plain prepareWifiRadio :=
  .bind (only_ask rfl) fun _ => .bind (only_ask rfl) fun _ => trivial

/-- What boot makes of a moved card, whether it returns or raises: no station, and no profile brought up. -/
def Waited (tried : List Text) (result : Option BootResult) (wlan : Wlan) : Prop :=
  Held tried wlan ∧ ∀ ip, result ≠ some (.station ip)

def Waits (tried : List Text) (program : Program BootResult) : Prop :=
  ∀ wlan, Held tried wlan → program.Safe wifi (fun _ => True) (Waited tried) wlan

theorem Plain.thenWaits {program : Program α} {next : α → Program BootResult}
    (plain : Plain program)
    (rest : ∀ value, Waits tried (next value)) : Waits tried (program >>= next) := by
  refine fun wlan held => Safe.bind (fun _ => Held tried) ((plain.held held).mono fun result after kept => ?_) rest
  cases result with
  | none => exact ⟨kept, nofun⟩
  | some _ => exact kept

variable (setup : Text) (passphrase : Option Text)

theorem unlessStation_moved (next : Program BootResult) : unlessStation true next = next := rfl

theorem waits_raiseAttempts (seen : Seen) (left : Nat) (last : Option Text) :
    Waits tried (raiseAttempts true setup passphrase seen left last) := by
  induction left generalizing last with
  | zero => exact fun _ held => ⟨held, nofun⟩
  | succ left ih =>
    rw [raiseAttempts, unlessStation_moved]
    refine Plain.thenWaits (only_ask rfl) fun usable => ?_
    refine Plain.thenWaits (only_given _ plain_prepareWifiRadio) fun _ => ?_
    refine (plain_startAp setup passphrase).thenWaits fun error => ?_
    cases error with
    | none => exact fun _ held => ⟨held, nofun⟩
    | some error => exact Plain.thenWaits (only_given _ (only_ask rfl)) fun _ => ih (some error)

/-- Without saved profiles there is no grace. -/
theorem waits_giveGrace (seen : Seen) : Waits tried (giveGrace true setup passphrase seen) := by
  rw [giveGrace, unlessStation_moved]
  refine plain_noteUnusable.thenWaits fun unusable => ?_
  change Waits tried (raiseHotspot true setup passphrase (seen.note unusable))
  refine plain_noteUnusable.thenWaits fun stuck => ?_
  exact Plain.thenWaits
    (only_given _ (only_ask rfl)) fun _ => waits_raiseAttempts setup passphrase _ apAttempts none

theorem waits_waitRadio (polls : Nat) (seen : Seen) :
    Waits tried (waitRadio true setup passphrase polls seen) := by
  induction polls generalizing seen with
  | zero =>
    rw [waitRadio, unlessStation_moved]
    refine plain_noteUnusable.thenWaits fun unusable => Plain.thenWaits (only_ask rfl) fun usable => ?_
    split
    next => exact waits_giveGrace setup passphrase _
    next => exact waits_giveGrace setup passphrase _
  | succ polls ih =>
    rw [waitRadio, unlessStation_moved]
    refine plain_noteUnusable.thenWaits fun unusable => Plain.thenWaits (only_ask rfl) fun usable => ?_
    split
    next => exact waits_giveGrace setup passphrase _
    next => exact Plain.thenWaits (only_ask rfl) fun _ => ih _

/-- A program that does not ask again whether the card has moved. -/
def Settled (program : Program α) : Prop := program.Only (· ≠ .reconfirmRequired)

theorem Plain.settled {program : Program α} (plain : Plain program) : Settled program :=
  Only.mono plain fun request plain same => by
    subst same
    cases plain

theorem Settled.moved {program : Program α} (settled : Settled program)
    (still : wlan.moved = false) :
    program.Safe wifi (fun _ => True) (fun _ after => after.moved = false) wlan := by
  refine Only.safe settled still (fun _ _ => trivial) fun request seen answer other kept _ => ?_
  change (Call.perform request answer seen).moved = false
  cases request <;> first | exact kept | exact absurd rfl other

theorem settled_unlessStation (reconfirm : Bool) {next : Program BootResult} (rest : Settled next) :
    Settled (unlessStation reconfirm next) := by
  refine .bind (.ite trivial (.bind plain_stationReady.settled fun ready => ?_)) fun found => ?_
  · cases ready with
    | none => trivial
    | some net => exact .bind (plain_disarmPortal _).settled fun _ => trivial
  · cases found with
    | none => exact rest
    | some ip => trivial

theorem settled_raiseAttempts (reconfirm : Bool) (seen : Seen) (left : Nat) (last : Option Text) :
    Settled (raiseAttempts reconfirm setup passphrase seen left last) := by
  induction left generalizing last with
  | zero => trivial
  | succ left ih =>
    refine settled_unlessStation reconfirm (.bind (only_ask nofun) fun _ =>
      .bind (only_given _ plain_prepareWifiRadio.settled) fun _ => .bind (plain_startAp _ _).settled fun error => ?_)
    cases error with
    | none => trivial
    | some error => exact .bind (only_given _ (only_ask nofun)) fun _ => ih _

theorem settled_bringUp (profiles : List SavedWifi) (lastError : Text) :
    Settled (bringUp profiles lastError) := by
  induction profiles generalizing lastError with
  | nil => trivial
  | cons profile rest ih =>
    exact .bind (only_ask nofun) fun _ => .ite trivial (.bind (only_ask nofun) fun _ =>
      .bind (only_ask nofun) fun _ => .ite trivial (ih _))

theorem settled_pause (reconfirm : Bool) {next : Program BootResult} (rest : Settled next)
    (left : Nat) :
    Settled (pause reconfirm next left) := by
  induction left with
  | zero => exact rest
  | succ left ih =>
    exact settled_unlessStation reconfirm
      (.bind (only_ask nofun) fun _ => .ite rest (.bind (only_ask nofun) fun _ => ih))

theorem settled_graceRounds (reconfirm : Bool) (profiles : List SavedWifi) (rounds : Nat)
    (seen : Seen) :
    Settled (graceRounds reconfirm setup passphrase profiles rounds seen) := by
  induction rounds generalizing seen with
  | zero =>
    exact .bind plain_noteUnusable.settled fun _ => .bind (only_given _ (only_ask nofun)) fun _ =>
      settled_raiseAttempts setup passphrase reconfirm _ _ _
  | succ rounds ih =>
    exact settled_unlessStation reconfirm
      (.bind plain_noteUnusable.settled fun _ => .bind (only_ask nofun) fun _ =>
      .bind (.ite trivial (settled_bringUp _ _)) fun _ => settled_pause reconfirm (ih _) 5)

theorem settled_listProfiles (left : Nat) : Settled (listProfiles left) := by
  induction left with
  | zero => trivial
  | succ left ih =>
    refine .bind (only_ask nofun) fun listed => ?_
    cases listed with
    | some profiles => trivial
    | none => exact .bind (only_given _ (only_ask nofun)) fun _ => ih

theorem settled_giveGrace (reconfirm : Bool) (seen : Seen) :
    Settled (giveGrace reconfirm setup passphrase seen) :=
  settled_unlessStation reconfirm (.bind plain_noteUnusable.settled fun _ =>
    .bind (.ite trivial (settled_listProfiles _)) fun _ => .bind (.ite trivial (only_ask nofun)) fun _ =>
      settled_graceRounds setup passphrase reconfirm _ _ _)

theorem settled_waitRadio (reconfirm : Bool) (polls : Nat) (seen : Seen) :
    Settled (waitRadio reconfirm setup passphrase polls seen) := by
  induction polls generalizing seen with
  | zero =>
    exact settled_unlessStation reconfirm
      (.bind plain_noteUnusable.settled fun _ => .bind (only_ask nofun) fun _ =>
      .ite (settled_giveGrace setup passphrase _ _) (settled_giveGrace setup passphrase _ _))
  | succ polls ih =>
    exact settled_unlessStation reconfirm
      (.bind plain_noteUnusable.settled fun _ => .bind (only_ask nofun) fun _ =>
      .ite (settled_giveGrace setup passphrase _ _) (.bind (only_ask nofun) fun _ => ih _))

/-- A boot that has found the card moved brings no saved profile up. -/
theorem waits_ensureReachable (same : wlan.tried = tried) :
    (ensureReachable setup passphrase).Safe wifi (fun _ => True)
      (fun result after => after.moved = true → Waited tried result after) wlan := by
  refine Safe.bind (fun answer wlan => wlan.moved = answer.getD false ∧ wlan.tried = tried)
    (safe_call trivial fun answer _ => ?_) ?_
  · match answer with
    | some (some true) | some (some false) | some none => exact ⟨rfl, same⟩
    | none => exact fun moved => by cases moved
  rintro answer wlan ⟨moved, same⟩
  cases found : answer.getD false with
  | true =>
    have waits : Waits tried (do
        given true holdSiteWifi
        prepareWifiRadio
        let polls ← ask .deadline
        waitRadio true setup passphrase polls {}) :=
      Plain.thenWaits (only_given true plain_holdSiteWifi) fun _ => plain_prepareWifiRadio.thenWaits fun _ =>
        Plain.thenWaits (only_ask rfl) fun polls => waits_waitRadio setup passphrase polls {}
    exact (waits wlan ⟨moved.trans found, same⟩).mono fun _ _ waited _ => waited
  | false =>
    have settled : Settled (do
        given false holdSiteWifi
        prepareWifiRadio
        let polls ← ask .deadline
        waitRadio false setup passphrase polls {}) :=
      .bind trivial fun _ => .bind plain_prepareWifiRadio.settled fun _ => .bind (only_ask nofun) fun polls =>
        settled_waitRadio setup passphrase false polls {}
    exact (settled.moved (moved.trans found)).mono fun _ _ still moved => absurd moved (by simp [still])

end Moved

end Profiles

section Examples

def works : Exit := ⟨0, [], []⟩

/-- A system on which all works. `reported` says what hostapd answers, `net` is what the interface shows. -/
def answering (reported : Bool) (net : Option Net) (saved : List SavedWifi) :
    (request : Call) → Option request.Answer
  | .apActive => some reported
  | .stationConnected => some net.isSome
  | .awaitHostapd | .ifaceUsable | .stop _ | .flush | .writeMode _ | .reach .. | .reachBluesignal | .tryLock | .fits =>
    some true
  | .signIn | .interruptedJoin | .expired => some false
  | .ensureApUnits | .writeConf _ | .ensureDnsmasqConf | .regdom => some none
  | .setManaged _ | .addAddress | .start _ | .connect .. | .up _ => some works
  | .readNet => some (net.getD ⟨none, [], none, []⟩)
  | .reconfirmRequired => some (some false)
  | .listSaved => some (some saved)
  | .apClients => some (some 0)
  | .deadline => some 0
  | .waitUntilReachable => some []
  | .begin _ | .hold | .deliver | .reboot | .cacheScan | .disconnect | .deleteSetup | .delete _ | .linkUp | .powerSaveOff
  | .wakeRadio | .promote .. | .forget _ | .confirmCard | .waitForSsid _ | .autoconnectOff _ | .sleep | .notify _
  | .publish .. => some ()

/-- A first boot without any network. -/
def firstBoot : List (Move Call.Answer Job Empty) :=
  .start (.boot setupSsid none) :: List.replicate 30 (.reply (answering false none []))

theorem reaches_firstBoot : wifi.Reaches ⟨{}, none⟩ (wifi.play ⟨{}, none⟩ firstBoot) :=
  System.reaches_play (by decide +kernel)


def home : Text := "Well house".toList

def homeNet : Net := ⟨some home, ["192.168.1.57".toList], some "192.168.1.1".toList, []⟩

def homeJoin : Join := ⟨home, none, false, some setupSsid, none, "bs-try-4f1c".toList⟩

end Examples

section Ends

variable {machine : Machine Wlan Call.Answer} {after : Wlan}

/-- How a retry may end. -/
def RetryEnd (before after : Wlan) : Option RetryResult → Prop
  | some (.skipped _) => after.toRadio = before.toRadio.began true
  | some (.station ip) => after.Down ∧ after.Stationed ip
  | some (.hotspot true) => after.Complete ∧ after.Told "up"
  | some (.hotspot false) => after.Down
  | none => after.toRadio = before.toRadio.began true ∨ after.Complete ∨ after.Down

/-- A retry that finds the saved network has its address, one that does not has its hotspot back, and where
neither works the interface is NetworkManager's. SIGTERM changes nothing of that. -/
theorem retry_never_strands (run : wifi.Reaches ⟨{}, none⟩ machine) {setup : Text} {passphrase : Option Text}
    {result : Option RetryResult} (ended : Ends wifi (retryProcess setup passphrase) machine.memory result after)
    (sound : after.faults = false) : RetryEnd machine.memory after result := by
  have owned := owned_of_reaches run
  have kept : Radio.Retried (machine.memory.began true) result after.toRadio :=
    (begin_keeps true owned (fun begun => retrySavedStation_keeps begun setup passphrase) machine.memory rfl).after_ends
      ended
  have reached := kept.sound sound
  have tells : Tells (fun _ => True) (retryProcess setup passphrase) RetryResult.Told :=
    .then fun _ => tells_retrySavedStation setup passphrase
  cases result with
  | none =>
    rcases reached with same | ⟨restored, back⟩
    · exact .inl same
    · cases restored with
      | true => exact .inr (.inl back)
      | false => exact .inr (.inr back)
  | some result =>
    have told := tells.of_ends trivial ended
    match result with
    | .skipped _ => exact reached
    | .station ip => exact ⟨reached, told⟩
    | .hotspot true => exact ⟨reached, told⟩
    | .hotspot false => exact reached

/-- How a join may end. -/
structure JoinEnd (ssid : Text) (before after : Wlan) (result : JoinResult) : Prop where
  proven : result.connected = true → ∃ ip, result.ip = some ip ∧ after.link.Proven ssid ip ∧
    after.Told "down: station"
  left : before.hostapd = true → result.connected = true → after.Down
  restored : before.hostapd = true → result.connected = false → result.apRestored = true →
    after.Complete ∧ after.Told "up"
  lost : before.hostapd = true → result.connected = false → result.apRestored = false → after.Down
  untouched : before.hostapd = false → after.toRadio = before.toRadio.began false

/-- How a worker may end whose join raised. -/
structure JoinLost (before after : Wlan) : Prop where
  left : before.hostapd = true → after.Complete ∨ after.Down
  found : before.hostapd = false → after.toRadio = before.toRadio.began false ∨ after.Complete ∨
    after.managed = true ∧ after.hostapd = false ∧ (after.address = true → before.address = true)

def WorkerEnd (ssid : Text) (before after : Wlan) : Option JoinResult → Prop
  | some result => JoinEnd ssid before after result
  | none => JoinLost before after

theorem lost_of_worked {before after : Wlan}
    (worked : (before.began false).Worked none after.toRadio)
    (sound : after.faults = false) : JoinLost before after := by
  obtain ⟨_, up, off⟩ := Radio.Torn.sound worked sound
  refine ⟨up, fun down => ?_⟩
  rcases off down with raised | idle
  · rcases raised with ⟨_, beacons⟩ | ⟨_, complete⟩
    · exact absurd beacons (by simp [Radio.began, down])
    · exact .inr (.inl complete)
  · rcases idle with same | ⟨_, back⟩
    · exact .inl same
    · exact .inr (.inr ⟨back.managed, back.hostapd, back.address⟩)

/-- A worker always returns, and what it reports is so. -/
theorem join_ends (run : wifi.Reaches ⟨{}, none⟩ machine) {join : Join} (valid : validSsid join.ssid = true)
    {result : Option (Option JoinResult)} (ended : Ends wifi (joinProcess join) machine.memory result after)
    (sound : after.faults = false) :
    (∃ answer, result = some answer ∧ WorkerEnd join.ssid machine.memory after answer) ∧
      ∀ name ∈ after.deleted, name ∈ machine.memory.deleted ∨ name = apConnectionName ∨
        name = join.tryName := by
  refine ⟨?_, deleted_joinProcess join ended⟩
  obtain ⟨answer, rfl, worked⟩ :=
    (begin_keeps false (owned_of_reaches run) (fun begun => joinWorker_keeps begun rfl join valid) machine.memory
      rfl).after_ends ended
  refine ⟨answer, rfl, ?_⟩
  cases answer with
  | none => exact lost_of_worked worked sound
  | some result =>
  have tells : Tells (fun _ => True) (joinProcess join) fun answer wlan =>
      ∀ result, answer = some result → result.Told join.ssid wlan :=
    .then fun _ => tells_joinWorker join valid
  have told := tells.of_ends trivial ended result rfl
  obtain ⟨_, up, off⟩ := Radio.Torn.sound worked sound
  exact {
    proven := told.proven
    left := fun beacons connected => by simpa [connected] using up beacons
    restored := fun beacons failed back => ⟨by simpa [failed, back] using up beacons, told.restored failed back⟩
    lost := fun beacons failed back => by simpa [failed, back] using up beacons
    untouched := off }

/-- How a boot may end; without a result it raised. -/
def BootEnd (before after : Wlan) : Option BootResult → Prop
  | some (.station ip) => after.managed = true ∧ after.hostapd = false ∧ after.Stationed ip
  | some (.hotspot none _) => after.Complete ∧ after.Told "up"
  | some (.hotspot (some _) _) | none => after.managed = true ∧ after.hostapd = false ∧
      (after.address = true → before.address = true)

/-- A boot that finds no hotspot ends with a station that has an address, or with a complete hotspot, or hands
the interface back. A card that has moved waits: no station, and no saved profile is brought up. -/
theorem boot_ends (run : wifi.Reaches ⟨{}, none⟩ machine) (off : machine.memory.hostapd = false) {setup : Text}
    {passphrase : Option Text} {result : Option BootResult}
    (ended : Ends wifi (bootProcess setup passphrase) machine.memory result after)
    (sound : after.faults = false) :
    BootEnd machine.memory after result ∧
      (after.moved = true → after.tried = machine.memory.tried ∧ ∀ ip, result ≠ some (.station ip)) := by
  have booted : Radio.Booted (machine.memory.began false) result after.toRadio :=
    (begin_keeps false (owned_of_reaches run) (fun begun => ensureReachable_keeps begun off rfl setup passphrase)
      machine.memory rfl).after_ends ended
  have reached := (booted.sound sound).2
  have tells : Tells (fun _ => True) (bootProcess setup passphrase) BootResult.Told :=
    .then fun _ => tells_ensureReachable setup passphrase
  refine ⟨?_, ?_⟩
  · match result with
    | some (.station ip) => exact ⟨reached.managed, reached.hostapd, tells.of_ends trivial ended⟩
    | some (.hotspot none _) => exact ⟨reached, tells.of_ends trivial ended⟩
    | some (.hotspot (some _) _) | none => exact ⟨reached.managed, reached.hostapd, reached.address⟩
  · have waits : (bootProcess setup passphrase).Safe wifi (fun _ => True)
        (fun result after => after.moved = true → Waited machine.memory.tried result after) machine.memory :=
      Safe.invokeThen trivial (fun _ _ => waits_ensureReachable setup passphrase rfl) nofun
    intro moved
    obtain ⟨held, unjoined⟩ := waits.after_ends ended moved
    exact ⟨held.2, unjoined⟩

theorem never_shared_firstBoot :
    ∃ machine : Machine Wlan Call.Answer, machine.memory.hostapd = true ∧
    ((machine.memory.shaken = false → machine.memory.faults = false → machine.memory.managed = true →
      machine.memory.hostapd = false) ∧
      (machine.memory.dnsmasq = true → machine.memory.hostapd = true)) :=
  ⟨_, by decide +kernel, never_shared reaches_firstBoot⟩

/-- The address a retry came home with. -/
def RetryResult.home? : RetryResult → Option Text
  | .station ip => some ip
  | .skipped _ | .hotspot _ => none

theorem RetryResult.home?_eq_some {result : RetryResult} {ip : Text}
    (found : result.home? = some ip) :
    result = .station ip := by
  cases result with
  | station address => exact congrArg _ (Option.some.inj found)
  | skipped _ => cases found
  | hotspot _ => cases found

/-- Whether a boot raised the whole hotspot. -/
def BootResult.raised : BootResult → Bool
  | .hotspot none _ => true
  | .hotspot (some _) _ | .station _ => false

theorem BootResult.raised_eq_true {result : BootResult} (up : result.raised = true) :
    ∃ failure, result = .hotspot none failure := by
  cases result with
  | station _ => cases up
  | hotspot lost failure =>
    cases lost with
    | none => exact ⟨failure, rfl⟩
    | some _ => cases up

/-- The saved network is back, and the timer finds it. -/
theorem retry_never_strands_home :
    ∃ (machine : Machine Wlan Call.Answer) (after : Wlan) (ip : Text),
    machine.memory.hostapd = true ∧ RetryEnd machine.memory after (some (.station ip)) := by
  have followed :
      ((retryProcess setupSsid none).follow wifi (answering true (some homeNet) [⟨home, home⟩])
      (wifi.play ⟨{}, none⟩ firstBoot).memory).map (fun run => (run.1.bind RetryResult.home?, run.2.faults)) =
        some (some "192.168.1.57".toList, false) := by
    decide +kernel
  obtain ⟨⟨result, after⟩, run, same⟩ := Option.map_eq_some_iff.mp followed
  simp only [Prod.mk.injEq] at same
  obtain ⟨result, rfl, found⟩ := Option.bind_eq_some_iff.mp same.1
  obtain rfl := RetryResult.home?_eq_some found
  exact ⟨_, after, _, by decide +kernel, retry_never_strands reaches_firstBoot (ends_follow run) same.2⟩

/-- A join from the hotspot that is proven. -/
theorem join_ends_home :
    ∃ (machine : Machine Wlan Call.Answer) (after : Wlan) (result : JoinResult),
    result.connected = true ∧ JoinEnd home machine.memory after result := by
  have followed : ((joinProcess homeJoin).follow wifi (answering true (some homeNet) [])
      (wifi.play ⟨{}, none⟩ firstBoot).memory).map (fun run =>
        (run.1.join.map JoinResult.connected, run.2.faults)) = some (some true, false) := by
    decide +kernel
  obtain ⟨⟨result, after⟩, run, same⟩ := Option.map_eq_some_iff.mp followed
  simp only [Prod.mk.injEq] at same
  obtain ⟨result, answered, connected⟩ := Option.map_eq_some_iff.mp same.1
  obtain ⟨⟨answer, given, ends⟩, _⟩ :=
    join_ends reaches_firstBoot (by decide) (ends_follow run) same.2
  obtain rfl := given
  obtain rfl := answered
  exact ⟨_, after, result, connected, ends⟩

/-- The first boot ends with a hotspot. -/
theorem boot_ends_firstBoot : ∃ (after : Wlan) (failure : Option String),
    BootEnd {} after (some (.hotspot none failure)) := by
  have followed :
      ((bootProcess setupSsid none).follow wifi (answering false none []) {}).map (fun run =>
        (run.1.map BootResult.raised, run.2.faults)) = some (some true, false) := by
    decide +kernel
  obtain ⟨⟨result, after⟩, run, same⟩ := Option.map_eq_some_iff.mp followed
  simp only [Prod.mk.injEq] at same
  obtain ⟨result, rfl, up⟩ := Option.map_eq_some_iff.mp same.1
  obtain ⟨failure, rfl⟩ := BootResult.raised_eq_true up
  have initial : wifi.Reaches ⟨{}, none⟩ ⟨{}, none⟩ := .refl
  exact ⟨after, failure, (boot_ends initial rfl (ends_follow run) same.2).1⟩

end Ends

end Wqm1.Network.Hotspot
