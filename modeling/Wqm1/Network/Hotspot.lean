import Wqm1.Library.Calls
import Wqm1.Network.JoinRecord
import Wqm1.Network.TerseNames

/-! The setup hotspot: raising it, joining a network from it, and what boot and the timer do. -/

set_option autoImplicit false

namespace Wqm1.Network.Hotspot

open Wqm1.Library
open JoinRecord (octet usableIpv4)

def apAttempts : Nat := 3
def savedListRetries : Nat := 6
def apChannel : Nat := 6
def hostapdCtrl : Text := "/run/wqm1/hostapd".toList
def defaultWifiIface : Text := "wlan0".toList

/-- `_SSID_RE`, whose `$` matches before a last newline as well. -/
def validSsid (ssid : Text) : Bool :=
  let name := if ssid.getLast? = some '\n' then ssid.dropLast else ssid
  name.all (0x20 ≤ ·.toNat) && 1 ≤ name.length && name.length ≤ 32

/-- `str.lower` as far as a search for plain ASCII words can tell. -/
def lower (text : Text) : Text :=
  text.flatMap fun c =>
    if c = Char.ofNat 0x212A then ['k'] else if c = Char.ofNat 0x130 then ['i', Char.ofNat 0x307] else [c.toLower]

def contains (text : Text) (part : String) : Bool := text.tails.any part.toList.isPrefixOf

inductive FailKind where
  | wrongPassword
  | notFound
  | noDhcp
  | noInternet
  | noAssociation
  | invalidSsid
  | captiveSignIn
  | noBluesignal
deriving DecidableEq

namespace FailKind

def code : FailKind → String
  | wrongPassword => "wrong_password"
  | notFound => "not_found"
  | noDhcp => "no_dhcp"
  | noInternet => "no_internet"
  | noAssociation => "no_association"
  | invalidSsid => "invalid_ssid"
  | captiveSignIn => "captive_sign_in"
  | noBluesignal => "no_bluesignal"

/-- `_STATION_FAIL`. -/
def stationFail : FailKind → String
  | wrongPassword => "wrong password"
  | notFound => "network not found"
  | noDhcp => "no address"
  | noInternet => "no internet"
  | noAssociation => "could not join"
  | invalidSsid => "invalid network name"
  | captiveSignIn => "sign-in page"
  | noBluesignal => "no BlueSignal"

end FailKind

/-- What a command left: its exit code and what it printed. -/
structure Exit where
  code : Nat
  out : Text
  err : Text

namespace Exit

def ok (exit : Exit) : Bool := exit.code = 0

/-- `err or out or f"nmcli rc {rc}"`. -/
def text (exit : Exit) : Text :=
  if exit.err ≠ [] then exit.err
  else if exit.out ≠ [] then exit.out
  else if exit.ok then [] else s!"nmcli rc {exit.code}".toList

end Exit

def words (text : Text) : List Text := (text.splitOnP Text.whitespace).filter (· ≠ [])

/-- `" ".join(text.split())`. -/
def singleSpaced (text : Text) : Text := [' '].intercalate (words text)

/-- `_nm_error`: stderr first. -/
def nmError (exit : Exit) : Text :=
  match ([exit.err, exit.out].map singleSpaced).filter (· ≠ []) |>.dedup with
  | [] => s!"nmcli rc {exit.code}".toList
  | parts => " | ".toList.intercalate parts

/-- `text.replace(secret, mark)` for a secret that is not empty. -/
def replaceAll (secret mark : Text) : Nat → Text → Text
  | _, [] => []
  | skip + 1, _ :: rest => replaceAll secret mark skip rest
  | 0, c :: rest =>
    if secret.isPrefixOf (c :: rest) then mark ++ replaceAll secret mark (secret.length - 1) rest
    else c :: replaceAll secret mark 0 rest

def redactSecret (text : Text) (secret : Option Text) : Text :=
  match secret with
  | some secret =>
    if 4 ≤ secret.length then replaceAll secret "[redacted]".toList 0 (singleSpaced text) else singleSpaced text
  | none => singleSpaced text

def classifyConnectError (text : Text) : Option FailKind :=
  let low := lower text
  if contains low "secret" || contains low "wrong password" || contains low "invalid password" then
    some .wrongPassword
  else if contains low "no network with ssid" || contains low "ssid not found" then some .notFound
  else none

/-- What `read_iface_net` reads off the interface. -/
structure Net where
  ssid : Option Text
  addrs : List Text
  gateway : Option Text
  dnsLines : List Text

def isLinkLocal (addr : Text) : Bool :=
  match ((Text.strip (addr.takeWhile (· ≠ '/'))).splitOn '.').map octet with
  | [some 169, some 254, some _, some _] => true
  | _ => false

namespace Net

def usable (net : Net) : List Text := net.addrs.filter usableIpv4

def linkLocal (net : Net) : List Text := net.addrs.filter isLinkLocal

def dns (net : Net) : List Text :=
  (net.dnsLines.map fun line => (Text.strip line).takeWhile (· ≠ '/')).filter fun host =>
    host ≠ [] && host ≠ "--".toList && usableIpv4 host

def onTarget (net : Net) (ssid : Text) : Bool := net.ssid = some ssid && net.usable ≠ []

end Net

def failureKind (ssid : Text) (net : Net) (nmText : Text) : FailKind :=
  if net.onTarget ssid then .noInternet
  else if net.ssid = some ssid then .noDhcp
  else if contains (lower nmText) "ip configuration" || contains (lower nmText) "no available address" then .noDhcp
  else (classifyConnectError nmText).getD .noAssociation

def captiveJoinMessage : String :=
  "The unit got an address, but a sign-in page is blocking the internet. " ++
    "This unit cannot tap through that page. Use a network with a normal password, " ++
    "or ask the site to allow this unit without a sign-in page."

/-- `_JOIN_MESSAGES`. -/
def FailKind.joinMessage (kind : FailKind) (linkLocal : List Text) : String :=
  match kind with
  | wrongPassword =>
    "The password was not accepted (wrong password). Check it with the owner and try again."
  | notFound => "That network was not found. Move the unit closer to the router and scan again."
  | noDhcp =>
    if linkLocal = [] then
      "The unit joined the Wi-Fi but did not get an address from the router (no DHCP). " ++
        "Check that the router is handing out addresses, then try again."
    else
      "The unit joined the Wi-Fi but only has a link-local address (169.254.x), not one from the router. " ++
        "Check that the router is handing out addresses, then try again."
  | noInternet =>
    "The unit has an address but cannot reach the router or DNS (no internet). " ++
      "Check the router's connection, then try again."
  | captiveSignIn => captiveJoinMessage
  | noAssociation =>
    "The unit could not join that network. Check the password and that the router is on, then try again."
  | invalidSsid => "That network name cannot be used. Pick one from the list."
  | noBluesignal =>
    "The unit is on the Wi-Fi but could not reach BlueSignal. If the router asks you to approve new devices, " ++
      "approve this one, then try again."

def country (regdom : Option Text) : Text :=
  match regdom with
  | some code => if code.length = 2 && code.all Char.isAlpha then code.map Char.toUpper else "US".toList
  | none => "US".toList

def hostapdConfig (ssid : Text) (passphrase : Option Text) (iface code : Text) : Text :=
  let secured := match passphrase with
    | some passphrase =>
      ["wpa=2".toList, "wpa_key_mgmt=WPA-PSK".toList, "wpa_passphrase=".toList ++ passphrase, "rsn_pairwise=CCMP".toList]
    | none => []
  (["interface=".toList ++ iface, "driver=nl80211".toList, "ssid=".toList ++ ssid, "hw_mode=g".toList,
    s!"channel={apChannel}".toList, "country_code=".toList ++ code, "ieee80211d=1".toList, "auth_algs=1".toList] ++
    secured ++ ["ieee80211w=0".toList, "ctrl_interface=".toList ++ hostapdCtrl, "ctrl_interface_group=0".toList]).flatMap
    (· ++ ['\n'])

/-- `ap_credentials`. -/
def setupSsid : Text := "BlueSignal Setup".toList

inductive Service where
  | hostapd
  | dnsmasq
deriving DecidableEq

/-- What has been read of the station link since the last command that may have changed it. -/
structure Link where
  net : Option Net := none
  reached : Bool := false
  clear : Bool := false
  bluesignal : Bool := false

/-- wlan0 and the units that drive it as an access point. A unit counts as running from the first attempt to
start it to the stop that worked. `interruptible` says that SIGTERM raises in the process at work. `faults`,
for the statements only, says that in this process a command that takes the hotspot down or hands wlan0 back
failed or was cut short, that SIGTERM came at the instant it was to be held, or that hostapd was not reported
though it was started; `shaken` says so of the processes before it. -/
structure Radio where
  managed : Bool := true
  hostapd : Bool := false
  dnsmasq : Bool := false
  address : Bool := false
  interruptible : Bool := false
  faults : Bool := false
  shaken : Bool := false

/-- The radio and the mode file of the portal. The other fields are for the statements only: the last write of
the mode file failed; the profiles deleted and brought up by name; the card was found to have moved. -/
structure Wlan extends Radio where
  mode : Option Text := none
  stale : Bool := false
  link : Link := {}
  deleted : List Text := []
  tried : List Text := []
  moved : Bool := false

/-- The outcome of `join_network`. -/
structure JoinResult where
  ok : Bool
  connected : Bool
  apRestored : Bool
  error : Option Text
  message : Option Text
  reason : Option FailKind
  ip : Option Text

/-- What the three programs ask of the system. `deadline` answers how many more polls a deadline that is set
now leaves, `fits` whether the next profile still fits into the time, `expired` whether the time is over.
`begin` and `hold` set what SIGTERM does, `deliver` is where a SIGTERM that was held arrives. -/
inductive Call where
  | begin (interruptible : Bool)
  | hold
  | deliver
  | reboot
  | apActive
  | ensureApUnits
  | cacheScan
  | disconnect
  | deleteSetup
  | delete (name : Text)
  | setManaged (managed : Bool)
  | regdom
  | writeConf (text : Text)
  | ensureDnsmasqConf
  | linkUp
  | addAddress
  | flush
  | start (service : Service)
  | stop (service : Service)
  | awaitHostapd
  | powerSaveOff
  | writeMode (mode : Text)
  | wakeRadio
  | ifaceUsable
  | stationConnected
  | readNet
  | reach (gateway : Option Text) (dns : List Text)
  | signIn
  | reachBluesignal
  | promote (tryName ssid : Text)
  | forget (keep : Text)
  | confirmCard
  | waitForSsid (ssid : Text)
  | connect (ssid : Text) (password : Option Text) (name : Text) (hidden : Bool)
  | up (name : Text)
  | autoconnectOff (name : Text)
  | listSaved
  | apClients
  | reconfirmRequired
  | tryLock
  | interruptedJoin
  | deadline
  | fits
  | expired
  | sleep
  | notify (pending : JoinResult)
  | publish (station : Text) (hotspot portal : Option Text)
  | waitUntilReachable

/-- A command that may print an error answers with its exit, one whose result is dropped with whether it
took effect. `reconfirmRequired` answers `none` where it raised. -/
abbrev Call.Answer : Call → Type
  | apActive | awaitHostapd | stationConnected | ifaceUsable => Bool
  | ensureApUnits | writeConf _ | ensureDnsmasqConf | regdom => Option Text
  | setManaged _ | addAddress | start _ | connect .. | up _ => Exit
  | stop _ | flush | writeMode _ => Bool
  | readNet => Net
  | reach .. | signIn | reachBluesignal | tryLock | interruptedJoin => Bool
  | reconfirmRequired => Option Bool
  | listSaved => Option (List SavedWifi)
  | apClients => Option Nat
  | deadline => Nat
  | fits | expired => Bool
  | waitUntilReachable => Text
  | _ => Unit

abbrev Program (α : Type) := Prog Wlan Call.Answer α

open Prog

/-- `if condition: body`. -/
def given (condition : Bool) (body : Program Unit) : Program Unit := if condition then body else pure ()

def ask (request : Call) : Program request.Answer := invoke (A := Call.Answer) request

section AccessPoint

def armPortal : Program Unit := do
  let _ ← ask (.writeMode "up".toList)

def disarmPortal (reason : String) : Program Unit := do
  let _ ← ask (.writeMode s!"down: {reason}".toList)

def releaseApIface : Program Unit := do
  let _ ← ask (.stop .dnsmasq)
  let _ ← ask (.stop .hostapd)
  let _ ← ask .flush
  ask .deleteSetup
  let _ ← ask (.setManaged true)

/-- The branches of `start_ap` that fail before hostapd is started. -/
def handBack (error : Text) : Program (Option Text) := do
  let _ ← ask (.setManaged true)
  pure (some error)

def startServices : Program (Option Text) := do
  let started ← ask (.start .hostapd)
  let enabled ← (if started.ok then ask .awaitHostapd else pure false : Program Bool)
  if !enabled then
    releaseApIface
    pure (some (if started.ok then "hostapd did not reach ENABLED".toList else nmError started))
  else
    ask .powerSaveOff
    let served ← ask (.start .dnsmasq)
    if !served.ok then
      releaseApIface
      pure (some (nmError served))
    else
      armPortal
      pure none

def configureIface (ssid : Text) (passphrase : Option Text) : Program (Option Text) := do
  let code ← ask .regdom
  match ← ask (.writeConf (hostapdConfig ssid passphrase defaultWifiIface (country code))) with
  | some error => handBack error
  | none =>
    match ← ask .ensureDnsmasqConf with
    | some error => handBack error
    | none =>
      ask .linkUp
      let addressed ← ask .addAddress
      if !addressed.ok then
        handBack (if addressed.err ≠ [] then addressed.err
          else if addressed.out ≠ [] then addressed.out else s!"ip addr rc {addressed.code}".toList)
      else startServices

/-- `start_ap` where the hotspot is not up. -/
def takeIface (ssid : Text) (passphrase : Option Text) : Program (Option Text) := do
  match ← ask .ensureApUnits with
  | some error => pure (some error)
  | none =>
    ask .cacheScan
    ask .disconnect
    ask .deleteSetup
    let unmanaged ← ask (.setManaged false)
    if !unmanaged.ok then pure (some (nmError unmanaged)) else configureIface ssid passphrase

/-- `start_ap`; `none` says that the hotspot is up. -/
def startAp (ssid : Text) (passphrase : Option Text) : Program (Option Text) := do
  let secret := passphrase.getD []
  if !validSsid ssid then pure (some "invalid ssid".toList)
  else if secret ≠ [] && secret.length < 8 then pure (some "passphrase must be at least 8 characters".toList)
  else if secret.any (·.toNat < 32) then pure (some "invalid passphrase".toList)
  else if ← ask .apActive then
    armPortal
    pure none
  else takeIface ssid (if secret = [] then none else passphrase)

def raiseAp (ssid : Text) (passphrase : Option Text) : Nat → Program Bool
  | 0 => pure false
  | left + 1 => do
    let error ← startAp ssid passphrase
    if error.isNone then pure true
    else if left = 0 then pure false
    else
      ask .sleep
      raiseAp ssid passphrase left

def restoreAp (hadAp : Bool) (ssid passphrase : Option Text) : Program Bool :=
  match hadAp, ssid with
  | true, some (c :: ssid) => raiseAp (c :: ssid) passphrase apAttempts
  | _, _ => pure false

end AccessPoint

section Join

/-- The arguments of `join_network`; `setup` is the name of the hotspot to come back to, `tryName` the
name drawn for the temporary profile. -/
structure Join where
  ssid : Text
  password : Option Text
  hidden : Bool
  setup : Option Text
  passphrase : Option Text
  tryName : Text

def notJoined (kind : FailKind) (error : Text) (message : String) : JoinResult :=
  ⟨false, false, false, some error, some message.toList, some kind, none⟩

/-- The end of `_fail_join`. -/
def reportAp (station : Text) (restored : Bool) : Program Unit := do
  if restored then
    let portal ← ask .waitUntilReachable
    ask (.publish station "up".toList portal)
  else
    disarmPortal "hotspot down"
    ask (.publish station "down".toList "down: hotspot down".toList)

/-- `_fail_join`. -/
def failJoin (join : Join) (hadAp : Bool) (nmText : Text) (kind : FailKind) (linkLocal : List Text) :
    Program JoinResult := do
  let message := kind.joinMessage linkLocal
  let station := s!"fail: {kind.stationFail}".toList
  ask (.delete join.tryName)
  let redacted := redactSecret nmText join.password
  let pending := notJoined kind (if redacted = [] then message.toList else redacted) message
  ask (.publish station none "down: joining".toList)
  ask (.notify pending)
  let restored ← restoreAp hadAp join.setup join.passphrase
  reportAp station restored
  pure { pending with apRestored := restored }

/-- The attempts of `_connect`: whether each asks for a hidden network. -/
def connectLoop (join : Join) : Nat → List Bool → Exit × Text → Program (Exit × Text)
  | _, [], last => pure last
  | index, hidden :: rest, _ => do
    given (index = 1) (discard (ask (.waitForSsid join.ssid)))
    given (index ≠ 0) (ask (.delete join.tryName))
    let exit ← ask (.connect join.ssid join.password join.tryName hidden)
    let nmText := redactSecret exit.text join.password
    if exit.ok || classifyConnectError nmText ≠ some .notFound then pure (exit, nmText)
    else connectLoop join (index + 1) rest (exit, nmText)

def connect (join : Join) : Program (Exit × Text) := do
  if join.hidden then connectLoop join 0 [true] (⟨0, [], []⟩, [])
  else
    let _ ← ask (.waitForSsid join.ssid)
    connectLoop join 0 [false, false, true] (⟨0, [], []⟩, [])

def joined (join : Join) (ip : Text) : Program JoinResult := do
  ask (.promote join.tryName join.ssid)
  disarmPortal "station"
  ask (.publish ("ok ".toList ++ ip) "station".toList "down: station".toList)
  ask .confirmCard
  pure ⟨true, true, false, none, none, none, some ip⟩

/-- One round of the loop of `_join_network_locked`. -/
def pollJoin (join : Join) (hadAp : Bool) (nmText : Text) (unreached : Net → Program JoinResult) :
    Program JoinResult := do
  let net ← ask .readNet
  let reached ← (if net.onTarget join.ssid then ask (.reach net.gateway net.dns) else pure false : Program Bool)
  if !reached then unreached net
  else if ← ask .signIn then failJoin join hadAp nmText .captiveSignIn net.linkLocal
  else if !(← ask .reachBluesignal) then failJoin join hadAp nmText .noBluesignal net.linkLocal
  else joined join (net.usable.headD [])

/-- The deadline passed. -/
def expiredJoin (join : Join) (hadAp : Bool) (nmText : Text) (net : Net) : Program JoinResult := do
  let kind := failureKind join.ssid net nmText
  let captive ← (if kind = .noInternet then ask .signIn else pure false : Program Bool)
  failJoin join hadAp nmText (if captive then .captiveSignIn else kind) net.linkLocal

def pollUntil (join : Join) (hadAp : Bool) (nmText : Text) : Nat → Program JoinResult
  | 0 => pollJoin join hadAp nmText (expiredJoin join hadAp nmText)
  | polls + 1 => pollJoin join hadAp nmText fun _ => do
    ask .sleep
    pollUntil join hadAp nmText polls

/-- The part of `_join_network_locked` after the hotspot is down. -/
def afterConnect (join : Join) (hadAp : Bool) : Program JoinResult := do
  let (exit, nmText) ← connect join
  let polls ← ask .deadline
  match (if exit.ok then none else classifyConnectError nmText : Option FailKind) with
  | some kind =>
    let net ← ask .readNet
    if !net.onTarget join.ssid then failJoin join hadAp nmText kind net.linkLocal
    else pollUntil join hadAp nmText polls
  | none => pollUntil join hadAp nmText polls

/-- `stop_ap` and the portal with it. -/
def leaveAp : Program Unit := do
  releaseApIface
  disarmPortal "joining"

/-- `_join_network_locked`. -/
def joinLocked (join : Join) : Program JoinResult := do
  let hadAp ← ask .apActive
  given hadAp leaveAp
  afterConnect join hadAp

def joinNetwork (join : Join) : Program JoinResult :=
  if !validSsid join.ssid then
    pure (notJoined .invalidSsid "invalid ssid".toList (FailKind.joinMessage .invalidSsid []))
  else joinLocked join

/-- `_restore_hotspot` of the worker, after an exception. -/
def restoreHotspot (setup passphrase : Option Text) : Program Bool :=
  match setup with
  | some (c :: setup) => do
    if ← ask .apActive then pure true
    else pure ((← (raiseAp (c :: setup) passphrase apAttempts).caught).getD false)
  | _ => pure false

/-- The worker of `utils.join`; `none` stands for a join that raised. -/
def joinWorker (join : Join) : Program (Option JoinResult) := do
  match ← (joinNetwork join).caught with
  | some result =>
    given (result.connected && usableIpv4 (result.ip.getD [])) (ask (.forget join.ssid))
    pure (some result)
  | none =>
    let _ ← restoreHotspot join.setup join.passphrase
    pure none

/-- `recover_interrupted_join`; the call answers whether a join of this boot was cut short. -/
def recoverInterruptedJoin : Program Bool := do
  if !(← ask .interruptedJoin) then pure false
  else if ← ask .apActive then pure false
  else if ← ask .stationConnected then pure false
  else pure (← startAp setupSsid none).isNone

end Join

section Retry

inductive RetryResult where
  | skipped (reason : String)
  | station (ip : Text)
  | hotspot (restored : Bool)

/-- `_station_ready`. -/
def stationReady : Program (Option Net) := do
  if ← ask .stationConnected then
    let net ← ask .readNet
    pure (if net.usable = [] then none else some net)
  else pure none

def arrived (net : Net) : Program (Option Text) := do
  let ip := net.usable.headD []
  disarmPortal "station"
  ask (.publish ("ok ".toList ++ ip) "station".toList "down: station".toList)
  pure (some ip)

/-- The wait for an address of one profile that came up. -/
def pollStation : Nat → Program (Option Text)
  | 0 => do
    match ← stationReady with
    | some net => arrived net
    | none => pure none
  | polls + 1 => do
    match ← stationReady with
    | some net => arrived net
    | none =>
      ask .sleep
      pollStation polls

/-- `_retry_profiles`: the address, or the last error. -/
def retryProfiles : Bool → List SavedWifi → Text → Program (Text ⊕ Text)
  | _, [], lastError => pure (.inr lastError)
  | first, profile :: rest, lastError => do
    let fits ← (if first then pure true else ask .fits : Program Bool)
    if !fits then pure (.inr lastError)
    else
      let _ ← ask (.waitForSsid profile.ssid)
      let exit ← ask (.up profile.name)
      if !exit.ok then retryProfiles false rest (Text.strip exit.text)
      else
        let polls ← ask .deadline
        match ← pollStation polls with
        | some ip => pure (.inl ip)
        | none => retryProfiles false rest "no address".toList

/-- The `finally` of the retry: under a SIGTERM that is held, wlan0 is given back to the hotspot. -/
def comeBack (setup : Text) (passphrase : Option Text) (lastError : Text) : Program Bool := do
  ask .hold
  let connected ← ask .stationConnected
  given connected (ask .disconnect)
  let restored ← restoreAp true setup passphrase
  let kind :=
    if lastError = "no address".toList then FailKind.noDhcp else (classifyConnectError lastError).getD .noAssociation
  ask (.publish s!"fail: {kind.stationFail}".toList (if restored then "up".toList else "down".toList)
    (if restored then "up (80)".toList else "down: hotspot down".toList))
  ask .deliver
  pure restored

/-- The part of `_retry_saved_station_locked` from the stop of the hotspot on. -/
def leaveHotspot (setup : Text) (passphrase : Option Text) (profiles : List SavedWifi) : Program RetryResult := do
  match ← (leaveAp >>= fun _ => retryProfiles true profiles []).caught with
  | some (.inl ip) => pure (.station ip)
  | some (.inr lastError) => pure (.hotspot (← comeBack setup passphrase lastError))
  | none =>
    let _ ← comeBack setup passphrase []
    raise

def noClients (next : Program RetryResult) : Program RetryResult := do
  match ← ask .apClients with
  | none => pure (.skipped "could not read hotspot clients")
  | some clients => if 0 < clients then pure (.skipped "a phone is on the hotspot") else next

def retryLocked (setup : Text) (passphrase : Option Text) : Program RetryResult := do
  if !(← ask .apActive) then pure (.skipped "hotspot not up")
  else noClients do
    let profiles := (← ask .listSaved).getD []
    if profiles = [] then pure (.skipped "no saved network")
    else
      match ← ask .reconfirmRequired with
      | some true => pure (.skipped "card moved; setup must confirm the site network")
      | none => pure (.skipped "card move check failed")
      | some false => noClients (leaveHotspot setup passphrase profiles)

def retrySavedStation (setup : Text) (passphrase : Option Text) : Program RetryResult := do
  if ← ask .tryLock then retryLocked setup passphrase
  else pure (.skipped "wlan0 in use")

end Retry

section Boot

/-- What `ensure_reachable` returns. -/
inductive BootResult where
  | station (ip : Text)
  | hotspot (error : Option Text) (stationFailure : Option String)

/-- `prepare_wifi_radio`. -/
def prepareWifiRadio : Program Unit := do
  ask .wakeRadio
  let _ ← ask (.setManaged true)

/-- `_hold_site_wifi`. -/
def holdSiteWifi : Program Unit := do
  let profiles := (← ask .listSaved).getD []
  profiles.forM fun profile => ask (.autoconnectOff profile.name)
  let connected ← ask .stationConnected
  given connected (ask .disconnect)

/-- `_take_station`. -/
def takeStation (reconfirm : Bool) : Program (Option Text) := do
  if reconfirm then pure none
  else
    match ← stationReady with
    | none => pure none
    | some net =>
      disarmPortal "station"
      pure (some (net.usable.headD []))

/-- `_note_unusable`. -/
def noteUnusable : Program Bool := do
  if ← ask .stationConnected then pure (← stationReady).isNone
  else pure false

/-- A station ends the boot; without one it goes on. -/
def unlessStation (reconfirm : Bool) (next : Program BootResult) : Program BootResult := do
  match ← takeStation reconfirm with
  | some ip => pure (.station ip)
  | none => next

/-- What boot has seen so far of a station that came up without an address, and of profiles that did not. -/
structure Seen where
  unusable : Bool := false
  lastError : Text := []

def Seen.note (seen : Seen) (unusable : Bool) : Seen := { seen with unusable := seen.unusable || unusable }

def Seen.failure (seen : Seen) : Option String :=
  if seen.unusable then some "no address"
  else if seen.lastError ≠ [] then
    some ((classifyConnectError seen.lastError).getD .noAssociation).stationFail
  else none

/-- The hotspot attempts at the end of `ensure_reachable`. -/
def raiseAttempts (reconfirm : Bool) (setup : Text) (passphrase : Option Text) (seen : Seen) :
    Nat → Option Text → Program BootResult
  | 0, last => pure (.hotspot last seen.failure)
  | left + 1, _ => unlessStation reconfirm do
    let usable ← ask .ifaceUsable
    given (!usable) prepareWifiRadio
    match ← startAp setup passphrase with
    | none => pure (.hotspot none seen.failure)
    | some error =>
      given (left ≠ 0) (ask .sleep)
      raiseAttempts reconfirm setup passphrase seen left (some error)

def raiseHotspot (reconfirm : Bool) (setup : Text) (passphrase : Option Text) (seen : Seen) : Program BootResult := do
  let stuck ← noteUnusable
  given stuck (ask .disconnect)
  raiseAttempts reconfirm setup passphrase (seen.note stuck) apAttempts none

/-- The saved profiles of one round, as long as one fits into the grace; the last error. -/
def bringUp : List SavedWifi → Text → Program Text
  | [], lastError => pure lastError
  | profile :: rest, lastError => do
    if !(← ask .fits) then pure lastError
    else
      let _ ← ask (.waitForSsid profile.ssid)
      let exit ← ask (.up profile.name)
      if exit.ok then pure [] else bringUp rest (Text.strip exit.text)

/-- The pauses after a round. -/
def pause (reconfirm : Bool) (next : Program BootResult) : Nat → Program BootResult
  | 0 => next
  | left + 1 => unlessStation reconfirm do
    if ← ask .expired then next
    else
      ask .sleep
      pause reconfirm next left

/-- The rounds of the grace. -/
def graceRounds (reconfirm : Bool) (setup : Text) (passphrase : Option Text) (profiles : List SavedWifi) :
    Nat → Seen → Program BootResult
  | 0, seen => raiseHotspot reconfirm setup passphrase seen
  | rounds + 1, seen => unlessStation reconfirm do
    let seen := seen.note (← noteUnusable)
    let connected ← ask .stationConnected
    let lastError ← (if connected then pure seen.lastError else bringUp profiles seen.lastError : Program Text)
    pause reconfirm (graceRounds reconfirm setup passphrase profiles rounds { seen with lastError }) 5

/-- The listing of the saved profiles, asked again while NetworkManager does not answer. -/
def listProfiles : Nat → Program (List SavedWifi)
  | 0 => pure []
  | left + 1 => do
    match ← ask .listSaved with
    | some profiles => pure profiles
    | none =>
      given (left ≠ 0) (ask .sleep)
      listProfiles left

def giveGrace (reconfirm : Bool) (setup : Text) (passphrase : Option Text) (seen : Seen) : Program BootResult :=
  unlessStation reconfirm do
    let seen := seen.note (← noteUnusable)
    let profiles ← (if reconfirm then pure [] else listProfiles savedListRetries : Program (List SavedWifi))
    let rounds ← (if profiles = [] then pure 0 else ask .deadline : Program Nat)
    graceRounds reconfirm setup passphrase profiles rounds seen

/-- The wait for the radio. -/
def waitRadio (reconfirm : Bool) (setup : Text) (passphrase : Option Text) : Nat → Seen → Program BootResult
  | polls, seen => unlessStation reconfirm do
    let seen := seen.note (← noteUnusable)
    if ← ask .ifaceUsable then giveGrace reconfirm setup passphrase seen
    else
      match polls with
      | 0 => giveGrace reconfirm setup passphrase seen
      | polls + 1 =>
        ask .sleep
        waitRadio reconfirm setup passphrase polls seen

def ensureReachable (setup : Text) (passphrase : Option Text) : Program BootResult := do
  let reconfirm := (← ask .reconfirmRequired).getD false
  given reconfirm holdSiteWifi
  prepareWifiRadio
  let polls ← ask .deadline
  waitRadio reconfirm setup passphrase polls {}

end Boot

/-- The processes that drive wlan0. In the timer's alone SIGTERM raises. -/
def retryProcess (setup : Text) (passphrase : Option Text) : Program RetryResult := do
  ask (.begin true)
  retrySavedStation setup passphrase

def joinProcess (join : Join) : Program (Option JoinResult) := do
  ask (.begin false)
  joinWorker join

def bootProcess (setup : Text) (passphrase : Option Text) : Program BootResult := do
  ask (.begin false)
  ensureReachable setup passphrase

def recoverProcess : Program Bool := do
  ask (.begin false)
  recoverInterruptedJoin

/-- One process after another drives wlan0: the fallback at boot, the worker of a join, the timer, and
the recovery of the join service. The first and the last of them take no lock, so that a run in which they
overlap with another is left out here. -/
inductive Job where
  | reboot
  | boot (setup : Text) (passphrase : Option Text)
  | join (request : Join)
  | retry (setup : Text) (passphrase : Option Text)
  | recover

def Job.program : Job → Program Unit
  | reboot => ask .reboot
  | boot setup passphrase => discard (bootProcess setup passphrase)
  | join request => discard (joinProcess request)
  | retry setup passphrase => discard (retryProcess setup passphrase)
  | recover => discard recoverProcess

/-- The fallback at boot finds no hotspot. -/
def Job.starts : Job → Wlan → Bool
  | boot .., wlan => !wlan.hostapd && !wlan.dnsmasq
  | _, _ => true

namespace Radio

/-- Another process is at work. -/
def began (radio : Radio) (interruptible : Bool) : Radio :=
  { radio with interruptible, faults := false, shaken := radio.faults || radio.shaken }

/-- A teardown or a hand-back that did not work, or was cut short. -/
def torn (radio : Radio) (worked : Bool) : Radio := { radio with faults := !worked || radio.faults }

/-- The unit of dnsmasq is part of that of hostapd and is stopped with it. -/
def stop (radio : Radio) : Service → Radio
  | .hostapd => { radio with hostapd := false, dnsmasq := false }
  | .dnsmasq => { radio with dnsmasq := false }

def start (radio : Radio) : Service → Radio
  | .hostapd => { radio with hostapd := true }
  | .dnsmasq => { radio with dnsmasq := true }

end Radio

/-- What a call does to the radio. -/
def Call.onRadio : (call : Call) → Option call.Answer → Radio → Radio
  | begin interruptible, _, radio => radio.began interruptible
  | hold, some (), radio => { radio with interruptible := false }
  | hold, none, radio => radio.torn false
  | deliver, _, radio => { radio with interruptible := true }
  | reboot, _, _ => {}
  | apActive, some reported, radio => radio.torn (!radio.hostapd || reported)
  | stop service, some true, radio => radio.stop service
  | stop _, _, radio => radio.torn false
  | flush, some true, radio => { radio with address := false }
  | flush, _, radio => radio.torn false
  | setManaged true, some exit, radio => { radio.torn exit.ok with managed := radio.managed || exit.ok }
  | setManaged true, none, radio => radio.torn false
  | setManaged false, some exit, radio => { radio with managed := radio.managed && !exit.ok }
  | setManaged false, none, radio => { radio with managed := false }
  | addAddress, some exit, radio => { radio with address := radio.address || exit.ok }
  | addAddress, none, radio => { radio with address := true }
  | start service, _, radio => radio.start service
  | deleteSetup, none, radio => radio.torn false
  | _, _, radio => radio

/-- Whether the station link may be another one after the call. -/
def Call.relinks : Call → Bool
  | reboot | stop _ | flush | setManaged _ | addAddress | start _ | deleteSetup | delete _ | disconnect | connect ..
  | up _ | wakeRadio => true
  | _ => false

def Call.onLink : (call : Call) → Option call.Answer → Link → Link
  | readNet, some net, _ => { net := some net }
  | reach .., some reached, link => { link with reached }
  | signIn, some captive, link => { link with clear := !captive }
  | reachBluesignal, some bluesignal, link => { link with bluesignal }
  | _, _, link => link

def Call.perform (call : Call) (answer : Option call.Answer) (wlan : Wlan) : Wlan where
  toRadio := call.onRadio answer wlan.toRadio
  mode := match call, answer with
    | writeMode mode, some true => some mode
    | reboot, _ => none
    | _, _ => wlan.mode
  stale := match call, answer with
    | writeMode _, answer => answer ≠ some true
    | reboot, _ => false
    | _, _ => wlan.stale
  link := if call.relinks then {} else call.onLink answer wlan.link
  deleted := match call with
    | deleteSetup => wlan.deleted ++ [apConnectionName]
    | delete name => wlan.deleted ++ [name]
    | _ => wlan.deleted
  tried := match call with
    | up name => wlan.tried ++ [name]
    | _ => wlan.tried
  moved := match call, answer with
    | reconfirmRequired, answer => answer = some (some true)
    | _, _ => wlan.moved

/-- The answer `none` is SIGTERM, or the one exception that leaves `ensure_ap_units`. hostapd reports ENABLED
only while it runs. -/
def Call.possible : (call : Call) → Radio → Option call.Answer → Bool
  | ensureApUnits, _, none => true
  | deliver, _, none => true
  | begin _, _, none => false
  | _, radio, none => radio.interruptible
  | apActive, radio, some reported => radio.hostapd || !reported
  | awaitHostapd, radio, some enabled => radio.hostapd || !enabled
  | _, _, some _ => true

/-- A process may be killed wherever it waits. The interface stays as it is. -/
def wifi : System Wlan Call.Answer Job Empty where
  program := Job.program
  starts := Job.starts
  perform := Call.perform
  answers call wlan := call.possible wlan.toRadio
  effect _ wlan := wlan
  permits _ _ := false
  restart wlan := wlan
  crashes _ := true

end Wqm1.Network.Hotspot
