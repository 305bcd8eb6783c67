import Wqm1.Library.Held
import Wqm1.Network.ScanList

/-! The scan that is kept in a file for the setup page while the radio is busy. -/

set_option autoImplicit false

namespace Wqm1.Network.ScanList

open Wqm1.Library

section File

def ScanRow.Note.text : ScanRow.Note → String
  | .band => "This unit only sees 2.4 GHz WiFi. Turn on 2.4 GHz on the router or use its 2.4 GHz network."
  | .enterprise =>
    "This network is WPA2-Enterprise. It wants a username and a company login, not just a Wi-Fi password. " ++
      "This unit cannot join it. Ask the site for a normal 2.4 GHz network with a password."
  | .saeOnly =>
    "This network is WPA3 only. This unit joins WPA2 networks that use a password. On the router, turn on WPA2 and " ++
      "WPA3 together, or use the 2.4 GHz WPA2 network."
  | .wep =>
    "This network uses old WEP security. This unit cannot join it. Use a WPA2 network with a password."
  | .openNetwork =>
    "This network is open. If it has a sign-in page, this unit cannot tap through it. A network with a normal " ++
      "password is the one that works."

def optional {Value : Type} (write : Value → Json) (value : Option Value) : Json := (value.map write).getD .null

namespace ScanRow

/-- The dictionary that `annotate_network` returns. -/
def members (row : ScanRow) : List (Text × Json) :=
  [("ssid".toList, .text row.ssid), ("signal".toList, .integer row.signal), ("secured".toList, .bool row.secured),
    ("security".toList, .text row.security.text),
    ("security_note".toList, optional (fun note => .text note.text.toList) row.securityNote),
    ("rssi_dbm".toList, optional .integer row.rssiDbm), ("bars".toList, .integer row.bars),
    ("bar_text".toList, .text (barGlyphs row.bars)), ("weak".toList, .bool (isWeakRssi row.rssiDbm)),
    ("freq_mhz".toList, optional .integer row.freqMhz), ("band".toList, .text row.band.text),
    ("hidden".toList, .bool row.hidden), ("joinable".toList, .bool row.joinable)]

/-- An annotated row, to be annotated again. -/
def raw (row : ScanRow) : RawRow where
  ssid := row.ssid
  signal := some row.signal
  rssiDbm := row.rssiDbm
  freqMhz := row.freqMhz
  band := some row.band
  security := some row.security
  secured := some row.secured
  hidden := row.hidden

end ScanRow

def Band.read (text : Text) : Option Band := [Band.two, .five, .six, .unknown].find? fun band => band.text = text

def Security.read (text : Text) : Option Security :=
  [Security.openNetwork, .wpaPsk, .enterprise, .saeOnly, .wep, .unknown].find? fun security => security.text = text

section Members

def readText : Json → Option Text
  | .null => some []
  | .text text => some text
  | _ => none

def readInt : Json → Option (Option Int)
  | .null => some none
  | .integer value => some (some value)
  | _ => none

def readBool : Json → Option (Option Bool)
  | .null => some none
  | .bool value => some (some value)
  | _ => none

/-- A name that stands for something, or nothing where the name is missing, null or empty. -/
def readNamed {Value : Type} (read : Text → Option Value) (json : Json) : Option (Option Value) := do
  let text ← readText json
  if text = [] then return none else return some (← read text)

/-- A row of the file, as far as its members have the types that the program writes. -/
def RawRow.ofMembers (members : List (Text × Json)) : Option RawRow := do
  return {
    ssid := ← readText (Json.get members "ssid".toList)
    signal := ← readInt (Json.get members "signal".toList)
    rssiDbm := ← readInt (Json.get members "rssi_dbm".toList)
    freqMhz := ← readInt (Json.get members "freq_mhz".toList)
    freq := ← readText (Json.get members "freq".toList)
    band := ← readNamed Band.read (Json.get members "band".toList)
    security := ← readNamed Security.read (Json.get members "security".toList)
    securityText := ← readText (Json.get members "security_text".toList)
    secured := ← readBool (Json.get members "secured".toList)
    hidden := (← readBool (Json.get members "hidden".toList)).getD false }

end Members

/-- `write_scan_cache`; none where a row raises. -/
def writeScanCache (now : Text) (networks : List ScanRow) : Option Json :=
  (networks.mapM fun row => annotateNetwork row.raw).map fun rows =>
    .object [("at".toList, .text now), ("networks".toList, .array (rows.map fun row => .object row.members))]

def asMembers : Json → Option (List (Text × Json))
  | .object members => some members
  | _ => none

/-- `read_scan_cache`, without its time; none where a row raises. -/
def readScanCache (file : Option Text) : Option (List ScanRow) :=
  match (file.bind Json.loads).bind asMembers with
  | some payload =>
    match Json.get payload "networks".toList with
    | .array rows => (rows.filterMap asMembers).mapM fun members => (RawRow.ofMembers members).bind annotateNetwork
    | _ => some []
  | none => some []

end File

section Numbers

variable {number : Double} {whole : Int}

theorem roundHalfEven_intCast (number : Int) : Radio.roundHalfEven number = number := by
  simp [Radio.roundHalfEven]

theorem sound_float {text : Text} (read : Numeral.float text = some number) : number.Sound := by
  obtain ⟨plain, -, found⟩ := Option.bind_eq_some_iff.mp read
  obtain ⟨magnitude, measured, signed⟩ := Option.map_eq_some_iff.mp found
  have sound : magnitude.Sound := by
    unfold Numeral.magnitude at measured
    split at measured
    next => exact Option.some.inj measured ▸ trivial
    next =>
      split at measured
      next => exact Option.some.inj measured ▸ trivial
      next =>
        obtain ⟨value, -, rounding⟩ := Option.map_eq_some_iff.mp measured
        exact rounding ▸ Double.sound_ofRat value
  rw [← signed]
  split
  next => exact sound.neg
  next => exact sound

theorem sound_times (factor : Rat) (number : Double) : (times factor number).Sound := by
  cases number with
  | finite value => exact Double.sound_ofRat _
  | infinite => trivial
  | nan => trivial

theorem sound_asFloat {value : Rat} (made : asFloat value = some number) : number.Sound := by
  have sound := Double.sound_ofRat value
  unfold asFloat at made
  split at made
  next held =>
    cases made
    rwa [held] at sound
  next => cases made
  next => cases made

theorem sound_add {value : Rat} : (number.add (.finite value)).Sound := by
  cases number with
  | finite other => exact Double.sound_ofRat _
  | infinite => trivial
  | nan => trivial

/-- What a rounding makes is an integer of the format: a number that is too large for that is whole already. -/
theorem held_rounded (sound : number.Sound) (made : rounded number = some whole) : Double.Held whole := by
  cases number with
  | finite value =>
    obtain rfl := Option.some.inj made
    by_cases large : 2 ^ 52 ≤ |value|
    · obtain ⟨exact, rfl⟩ := Double.Held.whole sound large
      rwa [roundHalfEven_intCast]
    · apply Double.held_intCast
      have near := Radio.abs_round_sub value
      have small : |(Radio.roundHalfEven value : Rat)| ≤ 2 ^ 53 := by
        calc |(Radio.roundHalfEven value : Rat)| = |(Radio.roundHalfEven value - value) + value| := by
              rw [sub_add_cancel]
          _ ≤ |(Radio.roundHalfEven value : Rat) - value| + |value| := abs_add_le _ _
          _ ≤ 1 / 2 + 2 ^ 52 := add_le_add near (le_of_not_ge large)
          _ ≤ 2 ^ 53 := by norm_num
      have cast : ((Radio.roundHalfEven value).natAbs : Rat) = |(Radio.roundHalfEven value : Rat)| := by
        rw [Nat.cast_natAbs, Int.cast_abs]
      rw [← cast] at small
      exact_mod_cast small
  | infinite => cases made
  | nan => cases made

theorem rounded_asFloat (held : Double.Held whole) : (asFloat whole).bind rounded = some whole := by
  rw [asFloat, held.ofRat]
  exact congrArg some (roundHalfEven_intCast whole)

theorem short_of_held (held : Double.Held whole) : Json.Short whole := by
  refine Json.short_of_lt_two_pow 1024 (by decide) (by decide) ?_
  have below : ((whole.natAbs : Nat) : Rat) < 2 ^ 1024 := by
    rw [Nat.cast_natAbs, Int.cast_abs]
    exact held.range
  exact_mod_cast below

theorem held_percentToDbm {percent : Int} (made : percentToDbm percent = some whole) : Double.Held whole := by
  obtain ⟨half, -, made⟩ := Option.bind_eq_some_iff.mp made
  exact held_rounded sound_add made

theorem short_dbmToPercent {dbm : Int} (made : dbmToPercent dbm = some whole) : Json.Short whole := by
  obtain ⟨value, -, made⟩ := Option.bind_eq_some_iff.mp made
  obtain ⟨percent, -, clamped⟩ := Option.bind_eq_some_iff.mp made
  refine Json.short_of_lt 3 (by decide) (by decide) ?_
  rw [← Option.some.inj clamped]
  omega

theorem held_parseFreqToken {text : Text} (read : parseFreqToken text = some (some whole)) : Double.Held whole := by
  unfold parseFreqToken at read
  dsimp only at read
  split at read
  next => cases Option.some.inj read
  next =>
    split at read
    next => cases Option.some.inj read
    next literal rest found =>
      obtain ⟨value, converted, read⟩ := Option.bind_eq_some_iff.mp read
      obtain ⟨freq, made, same⟩ := Option.bind_eq_some_iff.mp read
      obtain rfl := Option.some.inj (Option.some.inj same)
      refine held_rounded ?_ made
      split
      next => exact sound_times _ _
      next => exact sound_float converted

end Numbers

section RoundTrip

theorem exists_of_mem_mapM {Item Result : Type} {make : Item → Option Result} {items : List Item}
    {results : List Result} (made : items.mapM make = some results) {result : Result} (member : result ∈ results) :
    ∃ item ∈ items, make item = some result := by
  induction items generalizing results with
  | nil =>
    obtain rfl := Option.some.inj made
    cases member
  | cons item rest ih =>
    rw [List.mapM_cons] at made
    obtain ⟨first, head, made⟩ := Option.bind_eq_some_iff.mp made
    obtain ⟨others, tail, made⟩ := Option.bind_eq_some_iff.mp made
    obtain rfl := Option.some.inj made
    rcases List.mem_cons.mp member with rfl | behind
    · exact ⟨item, List.mem_cons_self, head⟩
    · obtain ⟨found, inside, same⟩ := ih tail behind
      exact ⟨found, List.mem_cons_of_mem _ inside, same⟩

theorem mapM_eq_map {Item Result : Type} {make : Item → Option Result} {plain : Item → Result} {items : List Item}
    (same : ∀ item ∈ items, make item = some (plain item)) : items.mapM make = some (items.map plain) := by
  induction items with
  | nil => rfl
  | cons item rest ih =>
    rw [List.forall_mem_cons] at same
    rw [List.mapM_cons, same.1, ih same.2]
    rfl

/-- A row that another annotation leaves as it is, and whose numbers can be printed. -/
structure Settled (row : ScanRow) : Prop where
  again : annotateNetwork row.raw = some row
  signal : Json.Short row.signal
  rssi : ∀ dbm, row.rssiDbm = some dbm → Json.Short dbm
  freq : ∀ mhz, row.freqMhz = some mhz → Json.Short mhz

theorem freqOf_raw (row : ScanRow) : row.raw.freqOf = some row.freqMhz := by
  cases found : row.freqMhz with
  | none => simp [RawRow.freqOf, ScanRow.raw, found]
  | some freq => simp [RawRow.freqOf, ScanRow.raw, found]

theorem Security.secured_again (security : Security) (said : Option Bool) :
    security.secured (some (security.secured said)) = security.secured said := by
  cases security <;> simp [secured]

/-- The strength of a row with one of the two numbers is an integer that a float holds. -/
theorem held_rssiOf {raw : RawRow} (strong : raw.signal.isSome = true ∨ raw.rssiDbm.isSome = true)
    {rssi : Option Int} (made : raw.rssiOf = some rssi) : ∃ dbm, rssi = some dbm ∧ Double.Held dbm := by
  unfold RawRow.rssiOf at made
  split at made
  next dbm _ _ =>
    obtain ⟨rounding, bound, rfl⟩ := Option.map_eq_some_iff.mp made
    obtain ⟨value, converted, bound⟩ := Option.bind_eq_some_iff.mp bound
    exact ⟨rounding, rfl, held_rounded (sound_asFloat converted) bound⟩
  next signal _ _ =>
    obtain ⟨dbm, converted, rfl⟩ := Option.map_eq_some_iff.mp made
    exact ⟨dbm, rfl, held_percentToDbm converted⟩
  next rssi signal => simp [rssi, signal] at strong

/-- A row with a strength is settled; one without gets one when it is annotated again. -/
theorem settled_of_annotate {raw : RawRow} {row : ScanRow} (annotated : annotateNetwork raw = some row)
    (strong : raw.signal.isSome = true ∨ raw.rssiDbm.isSome = true)
    (signal : ∀ percent, raw.signal = some percent → Json.Short percent)
    (freq : ∀ mhz, raw.freqMhz = some mhz → Json.Short mhz) : Settled row := by
  obtain ⟨rssiDbm, rssiOf, annotated⟩ := Option.bind_eq_some_iff.mp annotated
  obtain ⟨freqMhz, freqOf, annotated⟩ := Option.bind_eq_some_iff.mp annotated
  have made := Option.some.inj annotated
  obtain ⟨dbm, rfl, held⟩ := held_rssiOf strong rssiOf
  have ssid : row.ssid = if row.hidden then [] else raw.ssid := by rw [← made]
  have hidden : row.hidden = (raw.hidden || hiddenSsid raw.ssid) := by rw [← made, RawRow.concealed]
  have rssi : row.rssiDbm = some dbm := by rw [← made]
  constructor
  case again =>
    have secured : row.security.secured (some row.secured) = row.secured := by
      rw [← made]
      exact Security.secured_again _ _
    have concealed : row.raw.concealed = row.hidden := by
      simp only [RawRow.concealed, ScanRow.raw, ssid]
      cases found : row.hidden with
      | true => simp
      | false => simpa using (Bool.or_eq_false_iff.mp (hidden.symm.trans found)).2
    have blank : (if row.hidden then [] else row.ssid) = row.ssid := by
      rw [ssid]
      split <;> rfl
    have strength : row.raw.rssiOf = some row.rssiDbm := by
      simp only [RawRow.rssiOf, ScanRow.raw, rssi, rounded_asFloat held, Option.map_some]
    unfold annotateNetwork
    rw [strength, freqOf_raw, concealed]
    obtain ⟨rowSsid, rowSignal, rowSecured, security, rowRssi, rowFreq, band, rowHidden⟩ := row
    simp_all [ScanRow.raw, RawRow.securityOf]
  case signal =>
    rw [← made]
    cases heard : raw.signal with
    | none => exact Json.short_zero
    | some percent => exact signal percent heard
  case rssi =>
    intro found known
    obtain rfl := Option.some.inj (rssi.symm.trans known)
    exact short_of_held held
  case freq =>
    intro mhz known
    have found : freqMhz = some mhz := by rw [← known, ← made]
    unfold RawRow.freqOf at freqOf
    split at freqOf
    next given =>
      obtain rfl := Option.some.inj freqOf
      exact freq mhz (given.trans found)
    next =>
      split at freqOf
      next =>
        obtain rfl := Option.some.inj freqOf
        cases found
      next =>
        subst found
        exact short_of_held (held_parseFreqToken freqOf)

theorem settled_nmcli {text : Text} {heard : List ScanRow} (read : heardNmcli text = some heard) :
    ∀ row ∈ heard, Settled row := by
  intro row member
  obtain ⟨raw, listed, annotated⟩ := exists_of_mem_mapM read member
  obtain ⟨line, -, said⟩ := List.mem_filterMap.mp listed
  unfold nmcliRow at said
  split at said
  next signal others _ =>
    obtain rfl := Option.some.inj (Option.ite_none_left_eq_some.mp said).2
    refine settled_of_annotate annotated (.inl rfl) ?_ (fun _ known => by cases known)
    intro percent known
    obtain rfl := Option.some.inj known
    cases number : Numeral.int signal with
    | none => exact Json.short_zero
    | some value => exact Json.short_of_int number
  next => cases said

/-- What has been read of a BSS are numbers that can be printed. -/
structure Bss.Fit (bss : Bss) : Prop where
  signal : Json.Short bss.signalPct
  freq : ∀ mhz, bss.freq = some mhz → Json.Short mhz

theorem Bss.fit_start : ({} : Bss).Fit where
  signal := Json.short_zero
  freq _ known := by cases known

theorem Bss.Fit.read {bss after : Bss} (fit : bss.Fit) {line : Text} (step : bss.read line = some after) :
    after.Fit := by
  unfold Bss.read at step
  dsimp only at step
  split at step
  next => exact Option.some.inj step ▸ ⟨fit.signal, fit.freq⟩
  next =>
    split at step
    next =>
      obtain ⟨freq, parsed, rfl⟩ := Option.map_eq_some_iff.mp step
      refine ⟨fit.signal, ?_⟩
      rintro mhz rfl
      exact short_of_held (held_parseFreqToken parsed)
    next =>
      split at step
      next =>
        obtain ⟨parsed, -, step⟩ := Option.bind_eq_some_iff.mp step
        cases parsed with
        | none => exact Option.some.inj step ▸ fit
        | some dbm =>
          obtain ⟨percent, made, rfl⟩ := Option.map_eq_some_iff.mp step
          exact ⟨short_dbmToPercent made, fit.freq⟩
      next =>
        split at step
        next => exact Option.some.inj step ▸ ⟨fit.signal, fit.freq⟩
        next =>
          split at step
          next => exact Option.some.inj step ▸ ⟨fit.signal, fit.freq⟩
          next =>
            split at step
            next => exact Option.some.inj step ▸ ⟨fit.signal, fit.freq⟩
            next => exact Option.some.inj step ▸ fit

theorem settled_flush {found after : List ScanRow} {bss : Bss} (settled : ∀ row ∈ found, Settled row) (fit : bss.Fit)
    (flushed : flush found bss = some after) : ∀ row ∈ after, Settled row := by
  unfold flush at flushed
  split at flushed
  next =>
    obtain ⟨row, annotated, rfl⟩ := Option.map_eq_some_iff.mp flushed
    rw [List.forall_mem_append, List.forall_mem_singleton]
    refine ⟨settled, settled_of_annotate annotated (.inl rfl) ?_ fit.freq⟩
    intro percent known
    exact Option.some.inj known ▸ fit.signal
  next => exact Option.some.inj flushed ▸ settled

theorem settled_readIw {found heard : List ScanRow} {bss : Bss} {lines : List Text}
    (settled : ∀ row ∈ found, Settled row) (fit : bss.Fit) (read : readIw found bss lines = some heard) :
    ∀ row ∈ heard, Settled row := by
  induction lines generalizing found bss with
  | nil => exact settled_flush settled fit read
  | cons raw rest ih =>
    unfold readIw at read
    split at read
    next =>
      obtain ⟨after, flushed, read⟩ := Option.bind_eq_some_iff.mp read
      exact ih (settled_flush settled fit flushed) Bss.fit_start read
    next =>
      obtain ⟨after, step, read⟩ := Option.bind_eq_some_iff.mp read
      exact ih settled (fit.read step) read

theorem settled_iw {text : Text} {heard : List ScanRow} (read : heardIw text = some heard) :
    ∀ row ∈ heard, Settled row :=
  settled_readIw (fun _ absent => (List.not_mem_nil absent).elim) Bss.fit_start read

theorem Band.read_text (band : Band) : readNamed Band.read (.text band.text) = some (some band) := by
  cases band <;> decide

theorem Security.read_text (security : Security) :
    readNamed Security.read (.text security.text) = some (some security) := by
  cases security <;> decide

theorem readInt_optional (value : Option Int) : readInt (optional .integer value) = some value := by
  cases value <;> rfl

/-- The dictionary of a row says all that is needed to annotate it again. -/
theorem ofMembers_members (row : ScanRow) : RawRow.ofMembers row.members = some row.raw := by
  have ssid : Json.get row.members "ssid".toList = .text row.ssid := rfl
  have signal : Json.get row.members "signal".toList = .integer row.signal := rfl
  have rssi : Json.get row.members "rssi_dbm".toList = optional .integer row.rssiDbm := rfl
  have freqMhz : Json.get row.members "freq_mhz".toList = optional .integer row.freqMhz := rfl
  have freq : Json.get row.members "freq".toList = .null := rfl
  have band : Json.get row.members "band".toList = .text row.band.text := rfl
  have security : Json.get row.members "security".toList = .text row.security.text := rfl
  have securityText : Json.get row.members "security_text".toList = .null := rfl
  have secured : Json.get row.members "secured".toList = .bool row.secured := rfl
  have hidden : Json.get row.members "hidden".toList = .bool row.hidden := rfl
  unfold RawRow.ofMembers
  rw [ssid, signal, rssi, freqMhz, freq, band, security, securityText, secured, hidden, readInt_optional,
    readInt_optional, Band.read_text, Security.read_text]
  rfl

theorem plain_optional {Value : Type} {write : Value → Json} {value : Option Value}
    (plain : ∀ given, value = some given → (write given).Plain) : (optional write value).Plain := by
  cases value with
  | none => exact .null
  | some given => exact plain given rfl

theorem plain_members {row : ScanRow} (settled : Settled row) : (Json.object row.members).Plain := by
  have bars : Json.Short row.bars := by
    refine Json.short_of_lt 1 (by decide) (by decide) ?_
    have few : row.bars ≤ 4 := by
      unfold ScanRow.bars barsForDbm
      split
      next => omega
      next => split_ifs <;> omega
    omega
  have note : (optional (fun note => .text (ScanRow.Note.text note).toList) row.securityNote).Plain :=
    plain_optional fun _ _ => .text _
  have rssi : (optional .integer row.rssiDbm).Plain := plain_optional fun dbm known => .integer (settled.rssi dbm known)
  have freq : (optional .integer row.freqMhz).Plain := plain_optional fun mhz known => .integer (settled.freq mhz known)
  refine .object ?_ (by simp [ScanRow.members])
  simp only [ScanRow.members, List.forall_mem_cons, List.not_mem_nil, false_implies, implies_true, and_true]
  exact ⟨.text _, .integer settled.signal, .bool _, .text _, note, rssi, .integer bars, .text _, .bool _, freq,
    .text _, .bool _, .bool _⟩

/-- A list of settled rows comes back from the file as it was. -/
theorem readScanCache_writeScanCache {rows : List ScanRow} (settled : ∀ row ∈ rows, Settled row) (now : Text)
    (repr : Double → Text) : ∃ payload, writeScanCache now rows = some payload ∧
      readScanCache (some (Json.dumps repr payload)) = some rows := by
  have written : writeScanCache now rows = some (.object [("at".toList, .text now),
      ("networks".toList, .array (rows.map fun row => .object row.members))]) := by
    rw [writeScanCache, mapM_eq_map fun row member => (settled row member).again, List.map_id', Option.map_some]
  have plain : (Json.object [("at".toList, .text now),
      ("networks".toList, .array (rows.map fun row => .object row.members))]).Plain := by
    refine .object ?_ (by simp)
    simp only [List.forall_mem_cons, List.not_mem_nil, false_implies, implies_true, and_true]
    refine ⟨.text now, .array ?_⟩
    rw [List.forall_mem_map]
    exact fun row member => plain_members (settled row member)
  have annotated : (rows.map ScanRow.members).mapM (fun members =>
      (RawRow.ofMembers members).bind annotateNetwork) = some rows := by
    rw [List.mapM_map]
    refine (mapM_eq_map fun row member => ?_).trans (congrArg some (List.map_id rows))
    rw [Function.comp_apply, ofMembers_members, Option.bind_some, (settled row member).again, id]
  have objects : (rows.map fun row => Json.object row.members).filterMap asMembers = rows.map ScanRow.members := by
    rw [List.filterMap_map, ← List.filterMap_eq_map]
    rfl
  refine ⟨_, written, ?_⟩
  rw [readScanCache, Option.bind_some, Json.loads_dumps plain]
  exact (congrArg _ objects).trans annotated

theorem settled_heard {text : Text} {heard : List ScanRow}
    (read : heardNmcli text = some heard ∨ heardIw text = some heard) : ∀ row ∈ strongest heard, Settled row := by
  intro row member
  have known := (listed_strongest heard).known row member
  rcases read with nmcli | iw
  · exact settled_nmcli nmcli row known
  · exact settled_iw iw row known

/-- The page shows the scan that was made: the file loses nothing of it. -/
theorem scan_kept {text : Text} {heard : List ScanRow}
    (read : heardNmcli text = some heard ∨ heardIw text = some heard) (now : Text) (repr : Double → Text) :
    Listed heard (strongest heard) ∧ ∃ payload, writeScanCache now (strongest heard) = some payload ∧
      readScanCache (some (Json.dumps repr payload)) = some (strongest heard) :=
  ⟨listed_strongest heard, readScanCache_writeScanCache (settled_heard read) now repr⟩

/-- Two rows of one name, one of another and a hidden network. -/
def siteLines : Text :=
  "Site\\:A:40:WPA2:2412 MHz\nSite\\:A:70:WPA2:5180 MHz\nBarn:55:WPA2:2437 MHz\n:30:WPA2:2462 MHz".toList

theorem scan_kept_site : ∃ heard, heardNmcli siteLines = some heard ∧ heard.length = 4 ∧
    (strongest heard).length = 3 ∧ Listed heard (strongest heard) ∧
      ∃ payload, writeScanCache [] (strongest heard) = some payload ∧
        readScanCache (some (Json.dumps (fun _ => []) payload)) = some (strongest heard) := by
  have read : (heardNmcli siteLines).any (fun heard =>
      (heard.length, (heard.foldl Strongest.keep {}).rows.length) = (4, 3)) = true := by decide +kernel
  obtain ⟨heard, known, sizes⟩ := (Option.any_eq_true _ _).mp read
  obtain ⟨all, listed⟩ := Prod.mk.inj (of_decide_eq_true sizes)
  exact ⟨heard, known, all, (List.length_mergeSort _).trans listed, scan_kept (.inl known) [] fun _ => []⟩

end RoundTrip

end Wqm1.Network.ScanList
