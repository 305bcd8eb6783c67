import Wqm1.Network.ScanCache

/-! The Wi-Fi page on port 80: the networks it lists, the requests it answers and what it makes of
a form. -/

set_option autoImplicit false

namespace Wqm1.Network.SetupPage

open Wqm1.Library Wqm1.Network.ScanList

/-- Why the page does not start a join. -/
inductive Refusal where
  | tryAgain | pickFirst | networkNameBad | refusedBand | refusedEnterprise | refusedSaeOnly | refusedWep
  | trailingSpace | passwordNeeded | passwordChar | passwordShort | passwordLong
deriving DecidableEq

/-- The sentence of the page that a refusal stands for. -/
def Refusal.key : Refusal → Text
  | tryAgain => "try_again".toList
  | pickFirst => "pick_first".toList
  | networkNameBad => "network_name_bad".toList
  | refusedBand => "refused_band".toList
  | refusedEnterprise => "refused_enterprise".toList
  | refusedSaeOnly => "refused_sae_only".toList
  | refusedWep => "refused_wep".toList
  | trailingSpace => "trailing_space".toList
  | passwordNeeded => "password_needed".toList
  | passwordChar => "password_char".toList
  | passwordShort => "password_short".toList
  | passwordLong => "password_long".toList

/-- The keys of `setup_copy.en`. -/
def copyKeys : List Text :=
  ["lang", "title", "lead", "stay_connected", "networks", "other", "name_label", "password_label", "show_password",
    "keep_space", "connect", "rescan", "rescanning", "rescan_failed", "none_found", "only_24", "hidden_nearby", "weak",
    "phone_hotspot", "open_network", "drop_warning", "joining", "busy", "joined", "pick_first", "network_name_bad",
    "trailing_space", "password_needed", "password_short", "password_long", "password_char", "refused_band",
    "refused_enterprise", "refused_sae_only", "refused_wep", "wrong_password", "not_found", "no_dhcp", "no_internet",
    "no_association", "invalid_ssid", "captive_sign_in", "no_bluesignal", "interrupted", "try_again", "not_here",
    "open_setup"].map String.toList

theorem key_mem_copyKeys (refusal : Refusal) : refusal.key ∈ copyKeys := by
  cases refusal <;> decide

section Rules

def blockCode (row : ScanRow) : Option Refusal :=
  if row.highBand then some .refusedBand
  else match row.security with
    | .enterprise => some .refusedEnterprise
    | .saeOnly => some .refusedSaeOnly
    | .wep => some .refusedWep
    | .openNetwork | .wpaPsk | .unknown => none

def findNetwork (networks : List ScanRow) (ssid : Text) : Option ScanRow :=
  networks.find? fun row => !row.hidden && row.ssid = Text.strip ssid

/-- `normalize_password`, with a warning where it took a space away. -/
def normalizePassword (raw : Text) (keepTrailingSpace : Bool) : Text × Bool :=
  if keepTrailingSpace then (raw, false)
  else (raw.rdropWhile (· = ' '), raw.rdropWhile (· = ' ') ≠ raw)

def wpaPskMin : Nat := 8

def wpaPskMax : Nat := 63

def passwordProblemCode (password : Text) (secured : Bool) : Option Refusal :=
  if password = [] then if secured then some .passwordNeeded else none
  else if password.any fun c => c.toNat < 32 || c.toNat = 127 then some .passwordChar
  else if password.length < wpaPskMin then some .passwordShort
  else if wpaPskMax < password.length then some .passwordLong
  else none

def bandNotice (networks : List ScanRow) : Bool :=
  let known := (networks.map ScanRow.band).filter (· ≠ .unknown)
  networks = [] || (known ≠ [] && .two ∉ known)

def phoneNames : List Text :=
  ["iphone", "ipad", "android", "androidap", "galaxy", "pixel", "oneplus", "moto", "motorola", "redmi", "xiaomi",
    "huawei", "oppo", "vivo", "hotspot"].map String.toList

/-- Whether the name of a phone stands alone in a text, of which the last character before it is given. -/
def namesPhone (before : Option Char) : Text → Bool
  | [] => false
  | c :: rest =>
    (!before.any Char.isLower && phoneNames.any fun name =>
      name.isPrefixOf (c :: rest) && !(((c :: rest).drop name.length).head?.any Char.isLower)) ||
    namesPhone (some c) rest

def looksLikePhoneHotspot (ssid : Text) : Bool := namesPhone none (caseless ssid)

end Rules

section Join

/-- What a join is asked with. -/
structure JoinArgs where
  ssid : Text
  password : Option Text
  hidden : Bool
deriving DecidableEq

def saysTrue : Json → Bool
  | .bool true => true
  | _ => false

def textOr : Json → Text
  | .text text => text
  | _ => []

/-- A password, or none where the member has another type. -/
def passwordOf : Json → Option Text
  | .null => some []
  | .text text => some text
  | _ => none

/-- The last part of `validate_join`: the password of the form, for a network that needs one or not. -/
def acceptPassword (members : List (Text × Json)) (secured : Bool) : Except Refusal (Option Text) :=
  match passwordOf (Json.get members "password".toList) with
  | none => .error .tryAgain
  | some raw =>
    let (password, trimmed) :=
      normalizePassword raw (saysTrue (Json.get members "keep_space".toList))
    if trimmed && !saysTrue (Json.get members "trim_ack".toList) then .error .trailingSpace
    else match passwordProblemCode password secured with
      | some problem => .error problem
      | none => .ok (if password = [] then none else some password)

def validateJoin (body : Json) (networks : List ScanRow) : Except Refusal JoinArgs :=
  match body with
  | .object members =>
    let hidden := saysTrue (Json.get members "hidden".toList)
    let raw := textOr (Json.get members "ssid".toList)
    let ssid := if hidden then Text.strip raw else raw
    if ssid = [] then .error .pickFirst
    else if !Hotspot.validSsid ssid then .error .networkNameBad
    else
      let found := if hidden then none else findNetwork networks ssid
      match found.bind blockCode with
      | some refused => .error refused
      | none => (acceptPassword members (found.any ScanRow.secured)).map fun password =>
          { ssid := ssid, password := password, hidden := hidden || found.isNone }
  | _ => .error .tryAgain

end Join

section View

/-- A network as the page lists it. -/
structure Entry where
  ssid : Text
  joinable : Bool
  secured : Bool
  bars : Nat
  barText : Text
  weak : Bool
  phone : Bool
  note : Option Text
deriving DecidableEq

structure View where
  networks : List Entry
  hidden : Bool
  only24 : Bool

def entryOf (row : ScanRow) : Entry where
  ssid := row.ssid
  joinable := (blockCode row).isNone
  secured := row.secured
  bars := row.bars
  barText := barGlyphs row.bars
  weak := isWeakRssi row.rssiDbm
  phone := looksLikePhoneHotspot row.ssid
  note := ((blockCode row).map Refusal.key).or
    (if row.security = .openNetwork then some "open_network".toList else none)

/-- Networks that can be joined come first, and those with more bars before those with fewer. -/
def Entry.before (left right : Entry) : Bool :=
  if left.joinable = right.joinable then right.bars ≤ left.bars else left.joinable

def networksView (networks : List ScanRow) : View where
  networks := ((networks.filter fun row => row.ssid ≠ [] && !row.hidden).map entryOf).mergeSort Entry.before
  hidden := networks.any ScanRow.hidden
  only24 := bandNotice networks

end View

section Route

/-- The methods that the handler has; another one is answered before it is asked. -/
inductive Verb where
  | get | head | post | put | delete | patch | options
deriving DecidableEq

/-- A request as it reaches the handler. `stalls` when the client keeps the connection open
although it has sent all of `body`. -/
structure Request where
  verb : Verb
  path : Text
  host : Text
  secFetchSite : Option Text := none
  origin : Option Text := none
  contentLength : Option Text := none
  body : Bytes := []
  stalls : Bool := false

def portalHost : Text := "192.168.4.1".toList

def probePaths : List Text :=
  ["/hotspot-detect.html", "/library/test/success.html", "/generate_204", "/gen_204", "/connecttest.txt", "/ncsi.txt",
    "/redirect", "/canonical.html", "/success.txt", "/check_network_status.txt"].map String.toList

def probeHosts : List Text :=
  ["captive.apple.com", "www.apple.com", "www.appleiphonecell.com", "connectivitycheck.gstatic.com",
    "connectivitycheck.android.com", "clients3.google.com", "play.googleapis.com", "www.msftconnecttest.com",
    "msftconnecttest.com", "www.msftncsi.com", "ipv6.msftconnecttest.com", "detectportal.firefox.com"].map String.toList

def ownHosts : List Text := [portalHost, "localhost".toList, "127.0.0.1".toList]

def pagePaths : List Text := ["/", "/setup", "/setup/"].map String.toList

def maxBody : Nat := 4096

def hostName (host : Text) : Text :=
  let text := Hotspot.lower (Text.strip host)
  if text.head? = some '[' then
    let inner := (text.drop 1).takeWhile (· ≠ ']')
    if ']' ∈ text ∧ inner ≠ [] then inner else text
  else if text.count ':' = 1 then text.takeWhile (· ≠ ':')
  else text

def isOwnHost (host : Text) : Bool :=
  hostName host = [] || ownHosts.contains (hostName host) || ".local".toList.isSuffixOf (hostName host)

def requestPath (raw : Text) : Text :=
  let path := raw.takeWhile (· ≠ '?')
  if path.head? = some '/' then path else '/' :: path

def isProbe (path host : Text) : Bool :=
  probePaths.contains (requestPath path) || probeHosts.contains (hostName host)

inductive Api where
  | networks | state | join | rescan
deriving DecidableEq

inductive Kind where
  | redirect | page | api (name : Api) | notFound
deriving DecidableEq

def apiRoute (verb : Verb) (route : Text) : Option Api :=
  match verb with
  | .get | .head =>
    if route = "/api/networks".toList then some .networks
    else if route = "/api/state".toList then some .state
    else none
  | .post =>
    if route = "/api/join".toList then some .join else if route = "/api/rescan".toList then some .rescan else none
  | .put | .delete | .patch | .options => none

def classifyRequest (path host : Text) (verb : Verb) : Kind :=
  if isProbe path host then .redirect
  else if !isOwnHost host then .redirect
  else if pagePaths.contains (requestPath path) && (verb = .get || verb = .head) then .page
  else match apiRoute verb (requestPath path) with
    | some api => .api api
    | none => .notFound

def crossSite (request : Request) : Bool :=
  let named := Hotspot.lower (Text.strip request.host)
  request.verb = .post &&
    (request.secFetchSite.any (fun site => site ≠ "same-origin".toList && site ≠ "none".toList) ||
      request.origin.any fun origin =>
        Hotspot.lower (Text.strip origin) ≠ "http://".toList ++ named &&
          Hotspot.lower (Text.strip origin) ≠ "https://".toList ++ named)

/-- What `_read_json` makes of a body. -/
inductive Body where
  | refused | stalled | value (json : Json)

/-- `raw.decode("utf-8")`. -/
def utf8 (bytes : Bytes) : Option Text :=
  (String.fromUTF8? ⟨bytes.toArray⟩).map String.toList

def readJson (request : Request) : Body :=
  match Numeral.int (if request.contentLength.getD [] = [] then ['0'] else request.contentLength.getD []) with
  | none => .refused
  | some length =>
    if length < 0 ∨ (maxBody : Int) < length then .refused
    else if request.body.length < length.toNat ∧ request.stalls then .stalled
    else if request.body.take length.toNat = [] then .value (.object [])
    else .value (((utf8 (request.body.take length.toNat)).bind Json.loads).getD .null)

end Route

section Shown

/-- The form names a network, and does not say that the network is hidden. -/
structure Names (members : List (Text × Json)) (name : Text) : Prop where
  typed : Json.get members "ssid".toList = .text name
  visible : saysTrue (Json.get members "hidden".toList) = false

/-- What a phone may rely on in the list that the page shows of the networks that were heard. A name
is looked up without the whitespace around it. -/
structure Shows (heard rows : List ScanRow) (entries : List Entry) : Prop where
  joinableFirst : entries.Pairwise fun earlier later => later.joinable = true →
    earlier.joinable = true
  strongerFirst : entries.Pairwise fun earlier later => later.joinable = earlier.joinable →
    later.bars ≤ earlier.bars
  distinct : (entries.map Entry.ssid).Nodup
  complete : ∀ row ∈ heard, row.hidden = false → row.ssid ≠ [] →
    ∃ entry ∈ entries, entry.ssid = row.ssid
  noted : ∀ entry ∈ entries, ∀ key, entry.note = some key → key ∈ copyKeys
  refuses : ∀ entry ∈ entries, entry.joinable = false → ∀ name, Text.strip name = entry.ssid →
    Hotspot.validSsid name = true → ∀ members, Names members name →
    ∃ refusal, entry.note = some refusal.key ∧ validateJoin (.object members) rows = .error refusal
  accepts : ∀ entry ∈ entries, entry.joinable = true → ∀ name, Text.strip name = entry.ssid →
    Hotspot.validSsid name = true → ∀ members, Names members name →
    validateJoin (.object members) rows = (acceptPassword members entry.secured).map fun password =>
      { ssid := name, password := password, hidden := false }
  unlisted : ∀ name, Text.strip name ≠ [] → (∀ entry ∈ entries, entry.ssid ≠ Text.strip name) →
    Hotspot.validSsid name = true → ∀ members, Names members name →
    validateJoin (.object members) rows = (acceptPassword members false).map fun password =>
      { ssid := name, password := password, hidden := true }
  misnamed : ∀ name, name ≠ [] → Hotspot.validSsid name = false → ∀ members, Names members name →
    validateJoin (.object members) rows = .error .networkNameBad

variable {heard rows : List ScanRow} {row : ScanRow}

theorem mem_view {entry : Entry} : entry ∈ (networksView rows).networks ↔
    ∃ row ∈ rows, row.ssid ≠ [] ∧ row.hidden = false ∧ entryOf row = entry := by
  simp [networksView, List.mem_mergeSort, and_assoc]

theorem findNetwork_of_apart {name : Text} (apart : rows.Pairwise Apart) (member : row ∈ rows)
    (shown : row.hidden = false) (same : Text.strip name = row.ssid) :
    findNetwork rows name = some row := by
  unfold findNetwork
  rw [same]
  induction rows with
  | nil => cases member
  | cons first others ih =>
    rw [List.pairwise_cons] at apart
    rcases List.mem_cons.mp member with rfl | behind
    · simp [shown]
    · have different : ¬(first.hidden = false ∧ first.ssid = row.ssid) := fun both =>
        (apart.1 row behind).2 both.1 shown both.2
      rw [List.find?_cons_of_neg (by simpa using different)]
      exact ih apart.2 behind

/-- Nothing but whitespace around it is taken from a name, so that a name of a network is not empty. -/
theorem ne_nil_of_strip {name : Text} (named : Text.strip name ≠ []) : name ≠ [] := by
  intro empty
  rw [empty] at named
  exact named rfl

theorem validateJoin_named {members : List (Text × Json)} {name : Text} (names : Names members name)
    (named : name ≠ []) (valid : Hotspot.validSsid name = true) : validateJoin (.object members) rows =
      match (findNetwork rows name).bind blockCode with
      | some refused => .error refused
      | none => (acceptPassword members ((findNetwork rows name).any ScanRow.secured)).map fun password =>
        { ssid := name, password := password, hidden := (findNetwork rows name).isNone } := by
  unfold validateJoin
  simp only [names.typed, names.visible, textOr, Bool.false_eq_true, ↓reduceIte, if_neg named, valid, Bool.not_true,
    Bool.false_or]

theorem note_refused {refusal : Refusal} (refused : blockCode row = some refusal) :
    (entryOf row).note = some refusal.key := by
  simp only [entryOf, refused, Option.map_some, Option.some_or]

theorem note_free (free : blockCode row = none) :
    (entryOf row).note = if row.security = .openNetwork then some "open_network".toList else none := by
  simp only [entryOf, free, Option.map_none, Option.none_or]

theorem Entry.before_total (left right : Entry) :
    (left.before right || right.before left) = true := by
  unfold Entry.before
  cases left.joinable <;> cases right.joinable <;> simp <;> omega

theorem Entry.before_trans (first second third : Entry) (earlier : first.before second = true)
    (later : second.before third = true) : first.before third = true := by
  unfold Entry.before at *
  grind

/-- The page shows every network that was heard, and a join of it ends as the page says. -/
theorem shows_networksView (heard : List ScanRow) :
    Shows heard (strongest heard) (networksView (strongest heard)).networks := by
  have listed := listed_strongest heard
  have sorted : (networksView (strongest heard)).networks.Pairwise fun left right => left.before right = true :=
    List.pairwise_mergeSort Entry.before_trans Entry.before_total _
  constructor
  case joinableFirst =>
    refine sorted.imp ?_
    intro left right before joinable
    unfold Entry.before at before
    split at before
    next same => exact same.trans joinable
    next => exact before
  case strongerFirst =>
    refine sorted.imp ?_
    intro left right before same
    unfold Entry.before at before
    rw [if_pos same.symm] at before
    exact of_decide_eq_true before
  case distinct =>
    have permuted : ((networksView (strongest heard)).networks.map Entry.ssid).Perm
        (((strongest heard).filter fun row => row.ssid ≠ [] && !row.hidden).map ScanRow.ssid) := by
      refine ((List.mergeSort_perm _ _).map Entry.ssid).trans (.of_eq ?_)
      rw [List.map_map]
      rfl
    refine permuted.nodup_iff.mpr
      (List.pairwise_map.mpr (List.Pairwise.imp_of_mem ?_ (listed.apart.filter _)))
    intro left right leftMember rightMember apart
    have leftShown := (List.mem_filter.mp leftMember).2
    have rightShown := (List.mem_filter.mp rightMember).2
    simp only [Bool.and_eq_true, Bool.not_eq_true'] at leftShown rightShown
    exact apart.2 leftShown.2 rightShown.2
  case complete =>
    intro row member shown named
    obtain ⟨kept, inside, visible, same, -⟩ := listed.visible row member shown named
    exact ⟨entryOf kept, mem_view.mpr ⟨kept, inside, by rwa [same], visible, rfl⟩, same⟩
  case noted =>
    intro entry member key noted
    obtain ⟨row, -, -, -, rfl⟩ := mem_view.mp member
    cases refused : blockCode row with
    | some refusal =>
      rw [note_refused refused] at noted
      exact Option.some.inj noted ▸ key_mem_copyKeys refusal
    | none =>
      rw [note_free refused] at noted
      obtain ⟨-, same⟩ := Option.ite_none_right_eq_some.mp noted
      exact Option.some.inj same ▸ by decide
  case refuses =>
    intro entry member refused name same valid members names
    obtain ⟨row, inside, named, shown, rfl⟩ := mem_view.mp member
    have found := findNetwork_of_apart listed.apart inside shown same
    obtain ⟨refusal, blocked⟩ := Option.isSome_iff_exists.mp (Option.isNone_eq_false_iff.mp refused)
    refine ⟨refusal, note_refused blocked, ?_⟩
    rw [validateJoin_named names (ne_nil_of_strip (same ▸ named)) valid, found, Option.bind_some, blocked]
  case accepts =>
    intro entry member joinable name same valid members names
    obtain ⟨row, inside, named, shown, rfl⟩ := mem_view.mp member
    have found := findNetwork_of_apart listed.apart inside shown same
    have free : blockCode row = none := Option.isNone_iff_eq_none.mp joinable
    rw [validateJoin_named names (ne_nil_of_strip (same ▸ named)) valid, found, Option.bind_some, free]
    rfl
  case unlisted =>
    intro name named absent valid members names
    have missing : findNetwork (strongest heard) name = none := by
      apply List.find?_eq_none.mpr
      intro row inside matched
      simp only [Bool.and_eq_true, Bool.not_eq_true', decide_eq_true_eq] at matched
      exact absent (entryOf row)
        (mem_view.mpr ⟨row, inside, matched.2 ▸ named, matched.1, rfl⟩) matched.2
    rw [validateJoin_named names (ne_nil_of_strip named) valid, missing]
    rfl
  case misnamed =>
    intro name named invalid members names
    unfold validateJoin
    simp only [names.typed, names.visible, textOr, Bool.false_eq_true, ↓reduceIte, if_neg named, invalid, Bool.not_false]

end Shown

end Wqm1.Network.SetupPage
