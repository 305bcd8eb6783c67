import Wqm1.Library.Text

/-! The names of profiles and networks as nmcli prints them in terse mode, and the three
readers of that output. -/

set_option autoImplicit false

namespace Wqm1.Network

open Wqm1.Library

def apConnectionName : Text := "wqm1-setup-ap".toList
def wirelessType : Text := "802-11-wireless".toList
def connectedState : Text := "connected".toList

/-- A field of terse output. -/
def escape (field : Text) : Text := field.flatMap fun c => if c = ':' ∨ c = '\\' then ['\\', c] else [c]

/-- A row of terse output. -/
def terse : List Text → Text
  | [] => []
  | [field] => escape field
  | field :: fields => escape field ++ ':' :: terse fields

/-- The fields so far, the one being read, and whether a backslash came last. -/
structure TerseScan where
  parts : List Text := []
  buf : Text := []
  escaped : Bool := false

def TerseScan.next (scan : TerseScan) (ch : Char) : TerseScan :=
  if scan.escaped then { scan with buf := scan.buf ++ [ch], escaped := false }
  else if ch = '\\' then { scan with escaped := true }
  else if ch = ':' then { scan with parts := scan.parts ++ [scan.buf], buf := [] }
  else { scan with buf := scan.buf ++ [ch] }

def splitNmcliTerse (line : Text) : List Text :=
  let scan := line.foldl TerseScan.next {}
  scan.parts ++ [scan.buf]

/-- `replace("\\:", ":")`: a backslash before a colon goes. -/
def replaceColons : Text → Text
  | [] => []
  | c :: rest => if c = '\\' ∧ rest.head? = some ':' then replaceColons rest else c :: replaceColons rest

structure SavedWifi where
  name : Text
  ssid : Text
deriving DecidableEq

/-- The SSID that nmcli gave, or the name where it gave none. -/
def ssidOr (answer : Option Text) (name : Text) : Text :=
  match answer with
  | some (c :: ssid) => c :: ssid
  | _ => name

/-- `shown` is the output of `connection show` and `ssidOf` that for the SSID of a name, none
where nmcli failed. -/
def listSavedWifi (shown : Option Text) (ssidOf : Text → Option Text) : Option (List SavedWifi) :=
  shown.map fun out => (Text.splitLines out).filterMap fun line =>
    match Text.cutLast ':' line with
    | none => none
    | some (name, ctype) =>
      if ctype ≠ wirelessType ∨ replaceColons name = apConnectionName then none
      else some ⟨replaceColons name, ssidOr (ssidOf (replaceColons name)) (replaceColons name)⟩

/-- The connection of the first line that says that the interface is connected. -/
def connectionOf (iface : Text) : List Text → Option Text
  | [] => none
  | line :: lines =>
    match line.splitOn ':' with
    | device :: state :: name :: _ =>
      if device = iface ∧ state = connectedState then some name else connectionOf iface lines
    | _ => connectionOf iface lines

/-- `status` is the output of `device status`. -/
def associatedSsid (status : Option Text) (ssidOf : Text → Option Text) (iface : Text) : Option Text :=
  match status with
  | none => none
  | some out =>
    match connectionOf iface (Text.splitLines out) with
    | none => none
    | some name =>
      if name = [] ∨ name = "--".toList ∨ name = apConnectionName then none else some (ssidOr (ssidOf name) name)

/-- A profile of NetworkManager, which has a name and, if it is a wireless one, an SSID. -/
structure Profile where
  name : Text
  type : Text
  ssid : Text
  named : name ≠ []
  ssidGiven : type = wirelessType → ssid ≠ []
  oneLine : '\n' ∉ name ∧ '\n' ∉ ssid

/-- A row of `device status`: the kernel lets no white space and no colon into the name of an
interface, and the state is one of NetworkManager's own words. -/
structure Device where
  device : Text
  state : Text
  connection : Text
  named : device ≠ []
  deviceName : ∀ c ∈ device, Text.whitespace c = false ∧ c ≠ ':' ∧ c ≠ '\\'
  stateWords : ∀ c ∈ state, Text.lineBreak c = false ∧ c ≠ ':' ∧ c ≠ '\\'
  oneLine : '\n' ∉ connection

structure NetworkManager where
  profiles : List Profile
  devices : List Device
  distinct : (devices.map Device.device).Nodup

namespace NetworkManager

/-- What `_run` returns of an output. -/
def received (stdout : Text) : Text := Text.strip (Text.universalNewlines stdout)

/-- The profile that nmcli finds under a name. -/
def find (nm : NetworkManager) (name : Text) : Option Profile := nm.profiles.find? (·.name = name)

/-- `nmcli -t -f NAME,TYPE connection show`. -/
def connectionShow (nm : NetworkManager) : Text :=
  nm.profiles.flatMap fun profile => terse [profile.name, profile.type] ++ ['\n']

/-- `nmcli -g 802-11-wireless.ssid connection show NAME`. -/
def ssidOf (nm : NetworkManager) (name : Text) : Option Text :=
  (nm.find name).map fun profile => received (escape profile.ssid ++ ['\n'])

/-- `nmcli -t -f DEVICE,STATE,CONNECTION device status`. -/
def deviceStatus (nm : NetworkManager) : Text :=
  nm.devices.flatMap fun row => terse [row.device, row.state, row.connection] ++ ['\n']

def savedWifi (nm : NetworkManager) : List SavedWifi :=
  (listSavedWifi (some (received nm.connectionShow)) nm.ssidOf).getD []

def associated (nm : NetworkManager) (iface : Text) : Option Text :=
  associatedSsid (some (received nm.deviceStatus)) nm.ssidOf iface

end NetworkManager

/-- What comes back whole of a field that is printed alone and never unescaped. -/
structure Readable (field : Text) : Prop where
  plain : ':' ∉ field ∧ '\\' ∉ field ∧ '\r' ∉ field
  trim : Text.Trim field

/-- The profiles that `_list_saved_wifi` reports as they are, wherever they stand. -/
structure ListedWhole (profile : Profile) : Prop where
  unbroken : Text.Unbroken profile.name
  backslash : '\\' ∉ profile.name
  first : ∀ c ∈ profile.name.head?, Text.whitespace c = false
  ssid : Readable profile.ssid

/-- The profiles whose station `associated_ssid` reports as it is. -/
structure AssociatedWhole (profile : Profile) : Prop where
  unbroken : Text.Unbroken profile.name
  plain : ':' ∉ profile.name ∧ '\\' ∉ profile.name
  last : ∀ c ∈ profile.name.getLast?, Text.whitespace c = false
  shown : profile.name ≠ "--".toList
  ssid : Readable profile.ssid

theorem escape_cons (c : Char) (field : Text) :
    escape (c :: field) = (if c = ':' ∨ c = '\\' then ['\\', c] else [c]) ++ escape field := rfl

/-- Scanning an escaped field adds the field to the buffer. -/
theorem scan_escape (parts : List Text) (buf field rest : Text) :
    (escape field ++ rest).foldl TerseScan.next ⟨parts, buf, false⟩ =
      rest.foldl TerseScan.next ⟨parts, buf ++ field, false⟩ := by
  induction field generalizing buf with
  | nil => rw [List.append_nil]; rfl
  | cons c field ih =>
    have added : buf ++ c :: field = (buf ++ [c]) ++ field := by simp
    rw [added, ← ih, escape_cons]
    by_cases special : c = ':' ∨ c = '\\'
    · rw [if_pos special]
      simp [TerseScan.next]
    · obtain ⟨colon, backslash⟩ := not_or.mp special
      rw [if_neg special]
      simp [TerseScan.next, colon, backslash]

theorem scan_terse (parts : List Text) (field : Text) (fields : List Text) :
    let scan := (terse (field :: fields)).foldl TerseScan.next ⟨parts, [], false⟩
    scan.parts ++ [scan.buf] = parts ++ field :: fields := by
  induction fields generalizing parts field with
  | nil =>
    have scanned := scan_escape parts [] field []
    rw [List.append_nil] at scanned
    dsimp only [terse]
    rw [scanned]
    rfl
  | cons next fields ih =>
    have scanned := scan_escape parts [] field (':' :: terse (next :: fields))
    have separated : (':' :: terse (next :: fields)).foldl TerseScan.next ⟨parts, field, false⟩ =
        (terse (next :: fields)).foldl TerseScan.next ⟨parts ++ [field], [], false⟩ := rfl
    have rest := ih (parts ++ [field]) next
    dsimp only [terse] at rest scanned separated ⊢
    rw [scanned, List.nil_append, separated, rest]
    simp

/-- `split_nmcli_terse` recovers the fields of every row. -/
theorem splitNmcliTerse_terse (field : Text) (fields : List Text) :
    splitNmcliTerse (terse (field :: fields)) = field :: fields :=
  scan_terse [] field fields

theorem escape_of_plain {field : Text} (colon : ':' ∉ field) (backslash : '\\' ∉ field) : escape field = field := by
  induction field with
  | nil => rfl
  | cons c field ih =>
    have ordinary : ¬ (c = ':' ∨ c = '\\') := by
      rintro (rfl | rfl)
      · exact colon List.mem_cons_self
      · exact backslash List.mem_cons_self
    rw [escape_cons, if_neg ordinary,
      ih (fun mem => colon (List.mem_cons_of_mem _ mem)) (fun mem => backslash (List.mem_cons_of_mem _ mem))]
    rfl

theorem length_le_escape (field : Text) : field.length ≤ (escape field).length := by
  induction field with
  | nil => exact Nat.le_refl _
  | cons c field ih =>
    rw [escape_cons, List.length_append, List.length_cons]
    split <;> simp <;> omega

theorem plain_of_escape {field : Text} (same : escape field = field) : ':' ∉ field ∧ '\\' ∉ field := by
  have each : ∀ c ∈ field, ¬ (c = ':' ∨ c = '\\') := by
    induction field with
    | nil => exact List.forall_mem_nil _
    | cons c field ih =>
      rw [escape_cons] at same
      split at same
      next =>
        have longer := length_le_escape field
        have lengths := congrArg List.length same
        simp at lengths
        omega
      next ordinary => exact List.forall_mem_cons.mpr ⟨ordinary, ih (List.cons.inj same).2⟩
  exact ⟨fun mem => each _ mem (.inl rfl), fun mem => each _ mem (.inr rfl)⟩

theorem mem_escape {c : Char} {field : Text} (mem : c ∈ escape field) : c = '\\' ∨ c ∈ field := by
  obtain ⟨origin, inside, mem⟩ := List.mem_flatMap.mp mem
  split at mem
  next =>
    rcases List.mem_cons.mp mem with rfl | mem
    · exact .inl rfl
    · exact .inr (List.mem_singleton.mp mem ▸ inside)
  next => exact .inr (List.mem_singleton.mp mem ▸ inside)

theorem mem_escape_of_mem {c : Char} {field : Text} (mem : c ∈ field) : c ∈ escape field := by
  apply List.mem_flatMap.mpr
  refine ⟨c, mem, ?_⟩
  split <;> simp

theorem escape_ends {field : Text} (nonempty : field ≠ []) :
    ∃ c ∈ (escape field).head?, c = '\\' ∨ c ∈ field.head? := by
  cases field with
  | nil => exact absurd rfl nonempty
  | cons c field =>
    rw [escape_cons]
    split
    next => exact ⟨'\\', rfl, .inl rfl⟩
    next => exact ⟨c, rfl, .inr rfl⟩

theorem getLast?_escape (field : Text) : (escape field).getLast? = field.getLast? := by
  induction field with
  | nil => rfl
  | cons c field ih =>
    rw [escape_cons, List.getLast?_append, ih]
    cases field with
    | nil => split <;> rfl
    | cons next field => rw [Option.or_of_isSome (by simp), List.getLast?_cons_cons]

theorem trim_escape {field : Text} (trim : Text.Trim field) : Text.Trim (escape field) where
  first c mem := by
    cases field with
    | nil => cases mem
    | cons head field =>
      obtain ⟨first, isFirst, origin⟩ := escape_ends (List.cons_ne_nil head field)
      rw [Option.mem_unique mem isFirst]
      rcases origin with rfl | same
      · decide
      · exact trim.first first same
  last c mem := trim.last c (getLast?_escape field ▸ mem)

namespace NetworkManager

/-- A text without carriage returns, printed on a line of its own. -/
theorem received_line {line : Text} (plain : '\r' ∉ line) (trim : Text.Trim line) :
    received (line ++ ['\n']) = line := by
  have kept : '\r' ∉ line ++ ['\n'] := by simpa using plain
  unfold received
  rw [Text.universalNewlines_of_plain kept]
  by_cases nonempty : line = []
  · rw [nonempty]
    rfl
  · have stripped := Text.strip_append trim nonempty [] ['\n']
    rw [List.nil_append] at stripped
    rw [stripped]
    exact List.append_nil line

/-- A field comes back whole exactly if it is readable. -/
theorem received_escape_iff (field : Text) : received (escape field ++ ['\n']) = field ↔ Readable field := by
  constructor
  · intro whole
    have trim : Text.Trim field := by
      rw [← whole]
      exact Text.trim_strip _
    have plain : '\r' ∉ field := by
      intro mem
      rw [← whole] at mem
      have kept : '\r' ∈ Text.universalNewlines (escape field ++ ['\n']) := by
        obtain ⟨tail, same⟩ := List.rdropWhile_prefix Text.whitespace
          ((Text.universalNewlines (escape field ++ ['\n'])).dropWhile Text.whitespace)
        apply (List.dropWhile_suffix _).mem
        rw [← same]
        exact List.mem_append_left _ mem
      exact (Text.mem_universalNewlines kept).1 rfl
    have escaped : '\r' ∉ escape field := by
      intro mem
      rcases mem_escape mem with same | mem
      · cases same
      · exact plain mem
    rw [received_line escaped (trim_escape trim)] at whole
    exact ⟨⟨(plain_of_escape whole).1, (plain_of_escape whole).2, plain⟩, trim⟩
  · rintro ⟨⟨colon, backslash, plain⟩, trim⟩
    rw [escape_of_plain colon backslash, received_line plain trim]

/-- A field that comes back empty is white space. -/
theorem whitespace_of_received_nil {field : Text} (empty : received (escape field ++ ['\n']) = []) :
    ∀ c ∈ field, Text.whitespace c = true := by
  have blank := Text.whitespace_of_universalNewlines (Text.strip_eq_nil_iff.mp empty)
  intro c mem
  exact blank c (List.mem_append_left _ (mem_escape_of_mem mem))

theorem ssidOr_received_iff {name ssid : Text} (given : ssid ≠ [])
    (visible : ∃ c ∈ name, Text.whitespace c = false) :
    ssidOr (some (received (escape ssid ++ ['\n']))) name = ssid ↔ Readable ssid := by
  rw [← received_escape_iff]
  cases answer : received (escape ssid ++ ['\n']) with
  | cons c rest => rfl
  | nil =>
    have blank := whitespace_of_received_nil answer
    obtain ⟨c, mem, seen⟩ := visible
    constructor
    · intro same
      have same : name = ssid := same
      rw [blank c (same ▸ mem)] at seen
      cases seen
    · intro same
      exact absurd same.symm given

theorem ssidOf_found {nm : NetworkManager} {profile : Profile} {name : Text} (found : nm.find name = some profile) :
    nm.ssidOf name = some (received (escape profile.ssid ++ ['\n'])) := by
  rw [ssidOf, found]
  rfl

end NetworkManager

theorem replaceColons_escape (name : Text) :
    replaceColons (escape name) = name.flatMap fun c => if c = '\\' then ['\\', '\\'] else [c] := by
  induction name with
  | nil => rfl
  | cons c name ih =>
    have head : (escape name).head? ≠ some ':' := by
      cases name with
      | nil => decide
      | cons next name =>
        rw [escape_cons]
        split
        next => simp
        next ordinary =>
          intro same
          exact ordinary (.inl (Option.some.inj same))
    rw [escape_cons, List.flatMap_cons, ← ih]
    by_cases colon : c = ':'
    · subst colon
      simp [replaceColons]
    by_cases backslash : c = '\\'
    · subst backslash
      simp [replaceColons, head]
    · simp [replaceColons, colon, backslash]

theorem mem_replaceColons {c : Char} {text : Text} (mem : c ∈ replaceColons text) : c ∈ text := by
  induction text with
  | nil => cases mem
  | cons first rest ih =>
    rw [replaceColons] at mem
    split at mem
    next => exact List.mem_cons_of_mem _ (ih mem)
    next =>
      rcases List.mem_cons.mp mem with rfl | mem
      · exact List.mem_cons_self
      · exact List.mem_cons_of_mem _ (ih mem)

theorem replaceColons_escape_iff (name : Text) : replaceColons (escape name) = name ↔ '\\' ∉ name := by
  rw [replaceColons_escape]
  have longer : ∀ name : Text, name.length ≤
      (name.flatMap fun c => if c = '\\' then ['\\', '\\'] else [c]).length := by
    intro name
    induction name with
    | nil => exact Nat.le_refl _
    | cons c name ih =>
      rw [List.flatMap_cons, List.length_append, List.length_cons]
      split <;> simp only [List.length_cons, List.length_nil] <;> omega
  induction name with
  | nil => simp
  | cons c name ih =>
    rw [List.flatMap_cons]
    by_cases backslash : c = '\\'
    · rw [if_pos backslash]
      refine iff_of_false (fun same => ?_) (fun absent => absent (backslash ▸ List.mem_cons_self))
      have lengths := congrArg List.length same
      have more := longer name
      rw [List.length_append, List.length_cons] at lengths
      simp only [List.length_cons, List.length_nil] at lengths
      omega
    · rw [if_neg backslash, List.singleton_append, List.cons.injEq, List.mem_cons]
      simp [ih, Ne.symm backslash]

theorem dropWhile_escape (name : Text) :
    (escape name).dropWhile Text.whitespace = escape (name.dropWhile Text.whitespace) := by
  induction name with
  | nil => rfl
  | cons c name ih =>
    rw [escape_cons]
    split
    next special =>
      have visible : Text.whitespace c = false := by rcases special with rfl | rfl <;> decide
      rw [List.dropWhile_cons_of_neg (by simp [visible]), escape_cons, if_pos special]
      exact List.dropWhile_cons_of_neg (by decide)
    next ordinary =>
      rw [List.singleton_append]
      by_cases blank : Text.whitespace c = true
      · rw [List.dropWhile_cons_of_pos blank, List.dropWhile_cons_of_pos blank, ih]
      · rw [List.dropWhile_cons_of_neg blank, List.dropWhile_cons_of_neg blank, escape_cons, if_neg ordinary]
        rfl

/-- A name that is read back after white space was taken off the front of its line. -/
theorem unstripped {name : Text} (same : name = replaceColons (escape (name.dropWhile Text.whitespace))) :
    (∀ c ∈ name.head?, Text.whitespace c = false) ∧ '\\' ∉ name := by
  have head : ∀ text : Text, (replaceColons (escape text)).head? = text.head? := by
    intro text
    rw [replaceColons_escape]
    cases text with
    | nil => rfl
    | cons c text =>
      rw [List.flatMap_cons]
      split
      next special => rw [special]; rfl
      next => rfl
  have first : ∀ c ∈ name.head?, Text.whitespace c = false := by
    intro c mem
    have stopped := List.head?_dropWhile_not Text.whitespace name
    rw [same, head] at mem
    rw [Option.mem_def.mp mem] at stopped
    exact stopped
  have kept : name.dropWhile Text.whitespace = name := by
    cases name with
    | nil => rfl
    | cons c name => exact List.dropWhile_cons_of_neg (by simp [first c rfl])
  rw [kept] at same
  exact ⟨first, (replaceColons_escape_iff name).mp same.symm⟩

theorem unbroken_escape {field : Text} (unbroken : Text.Unbroken field) : Text.Unbroken (escape field) := by
  intro c mem
  rcases mem_escape mem with rfl | mem
  · decide
  · exact unbroken c mem

theorem Profile.visible {profile : Profile} {c : Char} (mem : c ∈ profile.name.head? ∨ c ∈ profile.name.getLast?)
    (seen : Text.whitespace c = false) : ∃ c ∈ profile.name, Text.whitespace c = false :=
  ⟨c, mem.elim List.mem_of_mem_head? List.mem_of_getLast?, seen⟩

namespace NetworkManager

/-- A line of an output is read as one if it has no breaks and no white space at its ends. -/
theorem splitLines_received {before line : Text} (ended : Text.Ended before) (unbroken : Text.Unbroken line)
    (trim : Text.Trim line) (nonempty : line ≠ []) (after : Text) :
    ∃ later, Text.splitLines (received (before ++ (line ++ '\n' :: after))) =
      Text.splitLines ((Text.universalNewlines before).dropWhile Text.whitespace) ++ line :: later := by
  have plain : '\r' ∉ line ++ ['\n'] := by
    intro mem
    rcases List.mem_append.mp mem with mem | mem
    · cases unbroken _ mem
    · cases List.mem_singleton.mp mem
  have converted : Text.universalNewlines (before ++ (line ++ '\n' :: after)) =
      Text.universalNewlines before ++ (line ++ '\n' :: Text.universalNewlines after) := by
    have joined : line ++ '\n' :: after = (line ++ ['\n']) ++ after := by simp
    rw [ended.universalNewlines_append, joined, Text.universalNewlines_append plain]
    simp
  unfold received
  rw [converted]
  exact Text.splitLines_strip ended.universalNewlines unbroken trim nonempty _

theorem terse_wireless (name : Text) : terse [name, wirelessType] = escape name ++ ':' :: wirelessType := rfl

theorem mem_savedWifi {nm : NetworkManager} {entry : SavedWifi} :
    entry ∈ nm.savedWifi ↔ ∃ line ∈ Text.splitLines (received nm.connectionShow), ∃ name,
      Text.cutLast ':' line = some (name, wirelessType) ∧ replaceColons name ≠ apConnectionName ∧
        entry = ⟨replaceColons name, ssidOr (nm.ssidOf (replaceColons name)) (replaceColons name)⟩ := by
  show entry ∈ List.filterMap _ _ ↔ _
  rw [List.mem_filterMap]
  constructor
  · rintro ⟨line, mem, made⟩
    refine ⟨line, mem, ?_⟩
    split at made
    next => cases made
    next name ctype cut =>
      split at made
      next => cases made
      next kept =>
        obtain ⟨wireless, station⟩ := not_or.mp kept
        cases made
        exact ⟨name, by rw [cut, not_not.mp wireless], station, rfl⟩
  · rintro ⟨line, mem, name, cut, station, rfl⟩
    refine ⟨line, mem, ?_⟩
    simp [cut, station]

theorem whole_line {profile : Profile} (whole : ListedWhole profile) :
    Text.Unbroken (escape profile.name ++ ':' :: wirelessType) ∧
      Text.Trim (escape profile.name ++ ':' :: wirelessType) := by
  obtain ⟨first, isFirst, origin⟩ := escape_ends profile.named
  refine ⟨?_, ?_, ?_⟩
  · intro c mem
    rcases List.mem_append.mp mem with mem | mem
    · exact unbroken_escape whole.unbroken c mem
    · exact (by decide : Text.Unbroken (':' :: wirelessType)) c mem
  · intro c mem
    rw [List.head?_append, Option.or_of_isSome (Option.isSome_of_mem isFirst)] at mem
    rw [Option.mem_unique mem isFirst]
    rcases origin with rfl | same
    · decide
    · exact whole.first first same
  · intro c mem
    rw [List.getLast?_append, Option.or_of_isSome rfl] at mem
    exact (by decide : Text.Trim (':' :: wirelessType)).last c mem

/-- A profile that is whole is listed as it is. -/
theorem listed_of_whole {nm : NetworkManager} {profile : Profile} (wireless : profile.type = wirelessType)
    (station : profile.name ≠ apConnectionName) (whole : ListedWhole profile)
    (found : nm.find profile.name = some profile) : ⟨profile.name, profile.ssid⟩ ∈ nm.savedWifi := by
  have line := whole_line whole
  obtain ⟨before, after, split⟩ := List.append_of_mem (List.mem_of_find?_eq_some found)
  have shown : nm.connectionShow =
      (before.flatMap fun profile => terse [profile.name, profile.type] ++ ['\n']) ++
        ((escape profile.name ++ ':' :: wirelessType) ++ '\n' ::
          (after.flatMap fun profile => terse [profile.name, profile.type] ++ ['\n'])) := by
    rw [connectionShow, split, List.flatMap_append, List.flatMap_cons, wireless, terse_wireless]
    simp
  obtain ⟨later, lines⟩ := splitLines_received
    (Text.ended_flatMap before fun profile => terse [profile.name, profile.type]) line.1 line.2 (by simp)
    (after.flatMap fun profile => terse [profile.name, profile.type] ++ ['\n'])
  have recovered : replaceColons (escape profile.name) = profile.name :=
    (replaceColons_escape_iff _).mpr whole.backslash
  obtain ⟨head, isHead⟩ : ∃ head, head ∈ profile.name.head? :=
    ⟨_, List.head?_eq_some_head profile.named⟩
  have ssid := (ssidOr_received_iff (profile.ssidGiven wireless)
    (Profile.visible (.inl isHead) (whole.first head isHead))).mpr whole.ssid
  rw [mem_savedWifi]
  refine ⟨escape profile.name ++ ':' :: wirelessType, ?_, escape profile.name,
    Text.cutLast_append _ (by decide), ?_, ?_⟩
  · rw [shown, lines]
    exact List.mem_append_right _ List.mem_cons_self
  · rw [recovered]
    exact station
  · rw [recovered, ssidOf_found found, ssid]

/-- Where all profiles are whole, each is listed under its name with the SSID that nmcli finds
for the name. -/
theorem savedWifi_of_whole {nm : NetworkManager}
    (whole : ∀ profile ∈ nm.profiles, profile.type = wirelessType ∧ ListedWhole profile) :
    nm.savedWifi = (nm.profiles.filter (·.name ≠ apConnectionName)).map fun profile =>
      ⟨profile.name, ssidOr ((nm.find profile.name).map Profile.ssid) profile.name⟩ := by
  have shown : nm.connectionShow =
      (nm.profiles.map fun profile => escape profile.name ++ ':' :: wirelessType).flatMap (· ++ ['\n']) := by
    rw [connectionShow, List.flatMap_map]
    apply List.flatMap_congr
    intro profile mem
    rw [(whole profile mem).1, terse_wireless]
  have plain : ∀ line ∈ nm.profiles.map fun profile => escape profile.name ++ ':' :: wirelessType,
      Text.Unbroken line ∧ Text.Trim line ∧ line ≠ [] := by
    intro line mem
    obtain ⟨profile, inside, rfl⟩ := List.mem_map.mp mem
    have line := whole_line (whole profile inside).2
    exact ⟨line.1, line.2, by simp⟩
  have returns : '\r' ∉ nm.connectionShow := by
    rw [shown]
    intro mem
    obtain ⟨line, inside, mem⟩ := List.mem_flatMap.mp mem
    rcases List.mem_append.mp mem with mem | mem
    · cases (plain line inside).1 _ mem
    · cases List.mem_singleton.mp mem
  have lines : Text.splitLines (received nm.connectionShow) =
      nm.profiles.map fun profile => escape profile.name ++ ':' :: wirelessType := by
    rw [received, Text.universalNewlines_of_plain returns, shown, Text.splitLines_strip_flatMap plain]
  have answers : ∀ name, ssidOr (nm.ssidOf name) name = ssidOr ((nm.find name).map Profile.ssid) name := by
    intro name
    cases found : nm.find name with
    | none => rw [ssidOf, found]; rfl
    | some profile =>
      have ssid := (whole profile (List.mem_of_find?_eq_some found)).2.ssid
      rw [ssidOf_found found, (received_escape_iff profile.ssid).mpr ssid]
      rfl
  unfold savedWifi listSavedWifi
  rw [Option.map_some, Option.getD_some, lines, List.filterMap_map, ← List.filterMap_eq_map', List.filterMap_filter]
  apply List.filterMap_congr
  intro profile mem
  have recovered : replaceColons (escape profile.name) = profile.name :=
    (replaceColons_escape_iff _).mpr (whole profile mem).2.backslash
  rw [Function.comp_apply, Text.cutLast_append _ (by decide)]
  simp [recovered, answers]

/-- NetworkManager with this one profile. -/
def only (profile : Profile) : NetworkManager := ⟨[profile], [], .nil⟩

theorem find_only (profile : Profile) : (only profile).find profile.name = some profile := by
  simp [find, only]

/-- A profile that is listed as it is where it is the only one is whole. -/
theorem whole_of_listed {profile : Profile} (wireless : profile.type = wirelessType)
    (listed : ⟨profile.name, profile.ssid⟩ ∈ (only profile).savedWifi) : ListedWhole profile := by
  obtain ⟨line, mem, name, cut, _, same⟩ := mem_savedWifi.mp listed
  obtain ⟨nameSame, ssidSame⟩ := SavedWifi.mk.inj same
  have unbroken : Text.Unbroken profile.name := by
    intro c mem
    rw [nameSame] at mem
    apply Text.unbroken_of_mem_splitLines ‹line ∈ _› c
    rw [Text.eq_of_cutLast cut]
    exact List.mem_append_left _ (mem_replaceColons mem)
  have shown : received (only profile).connectionShow =
      escape (profile.name.dropWhile Text.whitespace) ++ ':' :: wirelessType := by
    have printed : (only profile).connectionShow = escape profile.name ++ (':' :: wirelessType ++ ['\n']) := by
      simp [connectionShow, only, wireless, terse_wireless]
    have plain : '\r' ∉ escape profile.name ++ (':' :: wirelessType ++ ['\n']) := by
      intro mem
      rcases List.mem_append.mp mem with mem | mem
      · cases unbroken_escape unbroken _ mem
      · exact absurd mem (by decide)
    rw [printed, received, Text.universalNewlines_of_plain plain,
      Text.strip_append (by decide) (List.cons_ne_nil _ _), dropWhile_escape]
    rfl
  have read : profile.name = replaceColons (escape (profile.name.dropWhile Text.whitespace)) := by
    have whole : Text.Unbroken (escape (profile.name.dropWhile Text.whitespace) ++ ':' :: wirelessType) := by
      intro c mem
      rcases List.mem_append.mp mem with mem | mem
      · exact unbroken_escape (fun c mem => unbroken c ((List.dropWhile_suffix _).mem mem)) c mem
      · exact (by decide : Text.Unbroken (':' :: wirelessType)) c mem
    rw [shown, Text.splitLines_last whole (by simp), List.mem_singleton] at mem
    rw [mem, Text.cutLast_append _ (by decide)] at cut
    rw [(Prod.mk.inj (Option.some.inj cut)).1]
    exact nameSame
  obtain ⟨first, backslash⟩ := unstripped read
  rw [← nameSame, ssidOf_found (find_only profile)] at ssidSame
  obtain ⟨head, isHead⟩ : ∃ head, head ∈ profile.name.head? :=
    ⟨_, List.head?_eq_some_head profile.named⟩
  exact ⟨unbroken, backslash, first, (ssidOr_received_iff (profile.ssidGiven wireless)
    (Profile.visible (.inl isHead) (first head isHead))).mp ssidSame.symm⟩

end NetworkManager

theorem splitOn_cut {first : Text} (plain : ':' ∉ first) (rest : Text) :
    (first ++ ':' :: rest).splitOn ':' = first :: rest.splitOn ':' := by
  have single : first.splitOn ':' = [first] :=
    List.splitOnP_eq_singleton fun c mem => beq_eq_false_iff_ne.mpr fun same => plain (same ▸ mem)
  have split : (first ++ ':' :: rest).splitOn ':' = first.splitOn ':' ++ rest.splitOn ':' :=
    List.splitOnP_append_cons first rest (by rfl)
  rw [split, single]
  rfl

theorem splitOn_takeWhile (text : Text) : ∃ rest, text.splitOn ':' = text.takeWhile (· ≠ ':') :: rest := by
  by_cases mem : ':' ∈ text
  · obtain ⟨first, rest, same, plain⟩ := List.eq_append_cons_of_mem mem
    have before : ∀ c ∈ first, decide (c ≠ ':') = true := fun c inside =>
      decide_eq_true fun same => plain (same ▸ inside)
    refine ⟨rest.splitOn ':', ?_⟩
    rw [same, splitOn_cut plain, List.takeWhile_append_of_pos before]
    simp
  · have every : ∀ c ∈ text, decide (c ≠ ':') = true := fun c inside =>
      decide_eq_true fun same => mem (same ▸ inside)
    refine ⟨[], ?_⟩
    rw [List.takeWhile_eq_self_iff.mpr every]
    exact List.splitOnP_eq_singleton fun c inside => beq_eq_false_iff_ne.mpr (of_decide_eq_true (every c inside))

/-- A line whose first colon has a backslash before it. -/
def Fenced (line : Text) : Prop :=
  ∀ first next rest, line.splitOn ':' = first :: next :: rest → first.getLast? = some '\\'

theorem fenced_nil : Fenced [] := by
  intro first next rest split
  cases split

theorem Fenced.cons {c : Char} {line : Text} (ordinary : c ≠ ':') (fenced : Fenced line) : Fenced (c :: line) := by
  intro first next rest split
  have pieces : (c :: line).splitOn ':' = (line.splitOn ':').modifyHead (c :: ·) := by
    show List.splitOnP _ _ = _
    rw [List.splitOnP_cons_eq_if_modifyHead, if_neg (by simpa using ordinary)]
    rfl
  rw [pieces] at split
  cases parts : line.splitOn ':' with
  | nil =>
    rw [parts] at split
    cases split
  | cons head others =>
    rw [parts] at split
    obtain ⟨rfl, rfl⟩ := List.cons.inj split
    rw [List.getLast?_cons, fenced head next rest parts]
    rfl

theorem fenced_colon (line : Text) : Fenced ('\\' :: ':' :: line) := by
  intro first next rest split
  have cut := @splitOn_cut ['\\'] (by decide) line
  obtain ⟨rfl, _⟩ := List.cons.inj (cut.symm.trans split)
  rfl

/-- However the name of a connection is broken into lines, its colons stay fenced. -/
theorem fenced_lines (connection : Text) :
    ∃ first others, Text.splitLines (Text.universalNewlines (escape connection ++ ['\n'])) = first :: others ∧
      Fenced first ∧ ∀ line ∈ others, Fenced line := by
  induction connection with
  | nil => exact ⟨[], [], rfl, fenced_nil, List.forall_mem_nil _⟩
  | cons c connection ih =>
    obtain ⟨first, others, split, fencedFirst, fencedOthers⟩ := ih
    have later : ∀ line ∈ first :: others, Fenced line := List.forall_mem_cons.mpr ⟨fencedFirst, fencedOthers⟩
    rw [escape_cons, List.append_assoc]
    by_cases colon : c = ':'
    · subst colon
      refine ⟨'\\' :: ':' :: first, others, ?_, fenced_colon first, fencedOthers⟩
      rw [if_pos (.inl rfl), Text.universalNewlines_append (by decide)]
      exact @Text.splitLines_append ['\\', ':'] _ _ _ (by decide) split
    by_cases backslash : c = '\\'
    · subst backslash
      refine ⟨'\\' :: '\\' :: first, others, ?_, (fencedFirst.cons (by decide)).cons (by decide), fencedOthers⟩
      rw [if_pos (.inr rfl), Text.universalNewlines_append (by decide)]
      exact @Text.splitLines_append ['\\', '\\'] _ _ _ (by decide) split
    rw [if_neg (by simp [colon, backslash]), List.singleton_append, Text.universalNewlines]
    by_cases returned : c = '\r'
    · rw [if_pos returned]
      split
      next => exact ⟨first, others, split, fencedFirst, fencedOthers⟩
      next => exact ⟨[], first :: others, by rw [← split]; rfl, fenced_nil, later⟩
    rw [if_neg returned]
    by_cases breaks : Text.lineBreak c = true
    · refine ⟨[], first :: others, ?_, fenced_nil, later⟩
      rw [Text.splitLines, if_neg (fun both => returned both.1), if_pos breaks, split]
    · refine ⟨c :: first, others, ?_, fencedFirst.cons colon, fencedOthers⟩
      rw [Text.splitLines_cons (eq_false_of_ne_true breaks), split]

/-- The line says nothing of the interface. -/
def Unmatched (iface line : Text) : Prop := ∀ next rest, line.splitOn ':' ≠ iface :: next :: rest

theorem connectionOf_append {iface : Text} {earlier : List Text} (unmatched : ∀ line ∈ earlier, Unmatched iface line)
    (lines : List Text) : connectionOf iface (earlier ++ lines) = connectionOf iface lines := by
  induction earlier with
  | nil => rfl
  | cons line earlier ih =>
    obtain ⟨other, rest⟩ := List.forall_mem_cons.mp unmatched
    rw [List.cons_append, connectionOf]
    split
    next device state name parts split =>
      rw [if_neg, ih rest]
      rintro ⟨rfl, _⟩
      exact other _ _ split
    next => exact ih rest

namespace Device

theorem terse_eq (row : Device) : terse [row.device, row.state, row.connection] =
    (row.device ++ ':' :: (row.state ++ [':'])) ++ escape row.connection := by
  have device : escape row.device = row.device :=
    escape_of_plain (fun mem => (row.deviceName _ mem).2.1 rfl) fun mem => (row.deviceName _ mem).2.2 rfl
  have state : escape row.state = row.state :=
    escape_of_plain (fun mem => (row.stateWords _ mem).2.1 rfl) fun mem => (row.stateWords _ mem).2.2 rfl
  simp [terse, device, state]

theorem unbroken_head (row : Device) : Text.Unbroken (row.device ++ ':' :: (row.state ++ [':'])) := by
  intro c mem
  rcases List.mem_append.mp mem with mem | mem
  · apply eq_false_of_ne_true
    intro breaks
    have blank := Text.whitespace_of_lineBreak breaks
    rw [(row.deviceName c mem).1] at blank
    cases blank
  rcases List.mem_cons.mp mem with rfl | mem
  · decide
  rcases List.mem_append.mp mem with mem | mem
  · exact (row.stateWords c mem).1
  · rw [List.mem_singleton.mp mem]
    decide

theorem splitOn_head (row : Device) (rest : Text) : ((row.device ++ ':' :: (row.state ++ [':'])) ++ rest).splitOn ':' =
    row.device :: row.state :: rest.splitOn ':' := by
  have joined : (row.device ++ ':' :: (row.state ++ [':'])) ++ rest =
      row.device ++ ':' :: (row.state ++ ':' :: rest) := by simp
  rw [joined, splitOn_cut fun mem => (row.deviceName _ mem).2.1 rfl,
    splitOn_cut fun mem => (row.stateWords _ mem).2.1 rfl]

theorem plain_head (row : Device) : '\r' ∉ row.device ++ ':' :: (row.state ++ [':']) := by
  intro mem
  cases row.unbroken_head _ mem

/-- The row of one interface is not taken for that of another, whatever its connection is called. -/
theorem unmatched {row other : Device} (different : other.device ≠ row.device) :
    ∀ line ∈ Text.splitLines (Text.universalNewlines (terse [other.device, other.state, other.connection] ++ ['\n'])),
      Unmatched row.device line := by
  obtain ⟨first, others, split, _, fenced⟩ := fenced_lines other.connection
  rw [other.terse_eq, List.append_assoc, Text.universalNewlines_append other.plain_head,
    Text.splitLines_append other.unbroken_head split]
  intro line mem next rest same
  rcases List.mem_cons.mp mem with rfl | mem
  · rw [other.splitOn_head] at same
    exact different (List.cons.inj same).1
  · have last := fenced line mem _ _ _ same
    exact (row.deviceName _ (List.mem_of_getLast? last)).2.2 rfl

end Device

namespace NetworkManager

theorem unmatched_rows {row : Device} {before : List Device} (others : ∀ other ∈ before, other.device ≠ row.device) :
    ∀ line ∈ Text.splitLines (Text.universalNewlines (before.flatMap fun row =>
      terse [row.device, row.state, row.connection] ++ ['\n'])), Unmatched row.device line := by
  induction before with
  | nil => exact List.forall_mem_nil _
  | cons first before ih =>
    obtain ⟨different, rest⟩ := List.forall_mem_cons.mp others
    have ended : Text.Ended (terse [first.device, first.state, first.connection] ++ ['\n']) := .inr ⟨_, rfl⟩
    rw [List.flatMap_cons, ended.universalNewlines_append, ended.universalNewlines.splitLines]
    intro line mem
    rcases List.mem_append.mp mem with mem | mem
    · exact Device.unmatched different line mem
    · exact ih rest line mem

/-- A status begins with the name of an interface. -/
theorem dropWhile_rows (rows : List Device) :
    (Text.universalNewlines (rows.flatMap fun row =>
      terse [row.device, row.state, row.connection] ++ ['\n'])).dropWhile Text.whitespace =
    Text.universalNewlines (rows.flatMap fun row => terse [row.device, row.state, row.connection] ++ ['\n']) := by
  cases rows with
  | nil => rfl
  | cons first rows =>
    rw [List.flatMap_cons, first.terse_eq, List.append_assoc, List.append_assoc,
      Text.universalNewlines_append first.plain_head]
    cases name : first.device with
    | nil => exact absurd name first.named
    | cons c device =>
      have visible := (first.deviceName c (name ▸ List.mem_cons_self)).1
      exact List.dropWhile_cons_of_neg (by simp [visible])

/-- The SSID of a station whose profile is whole is reported as it is. -/
theorem associated_of_whole {nm : NetworkManager} {profile : Profile} (wireless : profile.type = wirelessType)
    (station : profile.name ≠ apConnectionName) (whole : AssociatedWhole profile) {row : Device}
    (mem : row ∈ nm.devices) (connected : row.state = connectedState) (through : row.connection = profile.name)
    (found : nm.find profile.name = some profile) : nm.associated row.device = some profile.ssid := by
  obtain ⟨before, after, split⟩ := List.append_of_mem mem
  have others : ∀ other ∈ before, other.device ≠ row.device := by
    have distinct := nm.distinct
    rw [split, List.map_append, List.map_cons] at distinct
    intro other mem same
    exact (List.nodup_append.mp distinct).2.2 _ (List.mem_map_of_mem mem) _ List.mem_cons_self same
  have name : escape profile.name = profile.name := escape_of_plain whole.plain.1 whole.plain.2
  have line : terse [row.device, row.state, row.connection] =
      (row.device ++ ':' :: (row.state ++ [':'])) ++ profile.name := by
    rw [row.terse_eq, through, name]
  have unbroken : Text.Unbroken ((row.device ++ ':' :: (row.state ++ [':'])) ++ profile.name) := by
    intro c mem
    rcases List.mem_append.mp mem with mem | mem
    · exact row.unbroken_head c mem
    · exact whole.unbroken c mem
  obtain ⟨last, isLast⟩ : ∃ last, last ∈ profile.name.getLast? := ⟨_, List.getLast?_eq_some_getLast profile.named⟩
  have trim : Text.Trim ((row.device ++ ':' :: (row.state ++ [':'])) ++ profile.name) := by
    refine ⟨fun c mem => ?_, fun c mem => ?_⟩
    · rw [List.append_assoc, List.head?_append, List.head?_eq_some_head row.named, Option.some_or] at mem
      rw [← Option.some.inj mem]
      exact (row.deviceName _ (List.head_mem row.named)).1
    · rw [List.getLast?_append, Option.or_of_isSome (Option.isSome_of_mem isLast)] at mem
      exact whole.last c mem
  have shown : nm.deviceStatus =
      (before.flatMap fun row => terse [row.device, row.state, row.connection] ++ ['\n']) ++
        (((row.device ++ ':' :: (row.state ++ [':'])) ++ profile.name) ++ '\n' ::
          (after.flatMap fun row => terse [row.device, row.state, row.connection] ++ ['\n'])) := by
    rw [deviceStatus, split, List.flatMap_append, List.flatMap_cons, line]
    simp
  obtain ⟨later, lines⟩ := splitLines_received
    (Text.ended_flatMap before fun row => terse [row.device, row.state, row.connection]) unbroken trim (by simp)
    (after.flatMap fun row => terse [row.device, row.state, row.connection] ++ ['\n'])
  have connection : connectionOf row.device (Text.splitLines (received nm.deviceStatus)) = some profile.name := by
    have single : profile.name.splitOn ':' = [profile.name] :=
      List.splitOnP_eq_singleton fun c mem => beq_eq_false_iff_ne.mpr fun same => whole.plain.1 (same ▸ mem)
    rw [shown, lines, dropWhile_rows, connectionOf_append (unmatched_rows others), connectionOf, row.splitOn_head,
      single]
    simp [connected]
  have ssid := (ssidOr_received_iff (profile.ssidGiven wireless)
    (Profile.visible (.inr isLast) (whole.last last isLast))).mpr whole.ssid
  unfold associated associatedSsid
  dsimp only
  rw [connection]
  dsimp only
  rw [if_neg, ssidOf_found found, ssid]
  rintro (empty | shown | setup)
  · exact profile.named empty
  · exact whole.shown shown
  · exact station setup

/-- The row of a station that is connected through a profile. -/
def stationRow (profile : Profile) : Device where
  device := "wlan0".toList
  state := connectedState
  connection := profile.name
  named := by decide
  deviceName := Text.forall_mem _ (by decide)
  stateWords := Text.forall_mem _ (by decide)
  oneLine := profile.oneLine.1

/-- NetworkManager with these profiles and no device but the station. -/
def station (profiles : List Profile) (profile : Profile) : NetworkManager :=
  ⟨profiles, [stationRow profile], by simp⟩

/-- The name that is read in the row of the station. -/
def readName (name : Text) : Text :=
  ((Text.splitLines ((Text.universalNewlines (escape name ++ ['\n'])).rdropWhile Text.whitespace)).head?.getD
    []).takeWhile (· ≠ ':')

theorem connectionOf_station (profiles : List Profile) (profile : Profile) :
    connectionOf "wlan0".toList (Text.splitLines (received (station profiles profile).deviceStatus)) =
      some (readName profile.name) := by
  have status : (station profiles profile).deviceStatus =
      "wlan0:connected:".toList ++ (escape profile.name ++ ['\n']) := by
    show [stationRow profile].flatMap _ = _
    rw [List.flatMap_singleton, (stationRow profile).terse_eq, List.append_assoc]
    rfl
  have stripped := @Text.strip_append "wlan0:connected:".toList (by decide) (by decide) []
    (Text.universalNewlines (escape profile.name ++ ['\n']))
  have matched : ∀ first others, connectionOf "wlan0".toList (("wlan0:connected:".toList ++ first) :: others) =
      some (first.takeWhile (· ≠ ':')) := by
    intro first others
    obtain ⟨rest, pieces⟩ := splitOn_takeWhile first
    have split := (stationRow profile).splitOn_head first
    rw [pieces] at split
    have split : ("wlan0:connected:".toList ++ first).splitOn ':' =
        "wlan0".toList :: connectedState :: first.takeWhile (· ≠ ':') :: rest := split
    rw [connectionOf, split]
    simp
  unfold readName
  rw [received, status, Text.universalNewlines_append (by decide), ← List.nil_append ("wlan0:connected:".toList ++ _),
    stripped]
  have unbroken : Text.Unbroken "wlan0:connected:".toList := by decide
  cases lines : Text.splitLines
      ((Text.universalNewlines (escape profile.name ++ ['\n'])).rdropWhile Text.whitespace) with
  | nil =>
    have empty : (Text.universalNewlines (escape profile.name ++ ['\n'])).rdropWhile Text.whitespace = [] := by
      by_contra nonempty
      exact Text.splitLines_ne_nil nonempty lines
    rw [empty]
    exact matched [] []
  | cons first others =>
    have joined := Text.splitLines_append unbroken lines
    exact (congrArg (connectionOf _) joined).trans (matched first others)

theorem readName_chars (name : Text) : ∀ c ∈ readName name, Text.lineBreak c = false ∧ c ≠ ':' := by
  intro c mem
  unfold readName at mem
  refine ⟨?_, of_decide_eq_true (@List.mem_takeWhile_imp _ (fun c => decide (c ≠ ':')) _ _ mem)⟩
  have inside := (List.takeWhile_prefix _).mem mem
  cases lines : Text.splitLines ((Text.universalNewlines (escape name ++ ['\n'])).rdropWhile Text.whitespace) with
  | nil =>
    rw [lines] at inside
    cases inside
  | cons first others =>
    rw [lines] at inside
    exact Text.unbroken_of_mem_splitLines (lines ▸ List.mem_cons_self) c inside

/-- A name that is read as it is has neither of the characters that are escaped, and does not
end in white space. -/
theorem whole_of_readName {name : Text} (named : name ≠ []) (same : readName name = name) :
    Text.Unbroken name ∧ (':' ∉ name ∧ '\\' ∉ name) ∧ ∀ c ∈ name.getLast?, Text.whitespace c = false := by
  have chars := readName_chars name
  rw [same] at chars
  have unbroken : Text.Unbroken name := fun c mem => (chars c mem).1
  have colon : ':' ∉ name := fun mem => (chars _ mem).2 rfl
  have plain : '\r' ∉ escape name ++ ['\n'] := by
    intro mem
    rcases List.mem_append.mp mem with mem | mem
    · cases unbroken_escape unbroken _ mem
    · cases List.mem_singleton.mp mem
  have read : readName name = (escape name).rdropWhile Text.whitespace := by
    have inside : ∀ c ∈ (escape name).rdropWhile Text.whitespace, c ∈ escape name := fun c mem =>
      (List.rdropWhile_prefix _ _).mem mem
    have whole : ((escape name).rdropWhile Text.whitespace).takeWhile (· ≠ ':') =
        (escape name).rdropWhile Text.whitespace := by
      rw [List.takeWhile_eq_self_iff]
      intro c mem
      apply decide_eq_true
      rintro rfl
      rcases mem_escape (inside _ mem) with same | mem
      · cases same
      · exact colon mem
    unfold readName
    rw [Text.universalNewlines_of_plain plain, List.rdropWhile_concat_pos _ _ _ (by decide)]
    by_cases empty : (escape name).rdropWhile Text.whitespace = []
    · rw [empty]
      rfl
    · rw [Text.splitLines_last (fun c mem => unbroken_escape unbroken c (inside c mem)) empty]
      exact whole
  rw [same] at read
  have last : ∀ c ∈ name.getLast?, Text.whitespace c = false := by
    intro c mem
    have nonempty : (escape name).rdropWhile Text.whitespace ≠ [] := by
      rw [← read]
      exact named
    have visible := List.rdropWhile_last_not Text.whitespace (escape name) nonempty
    rw [read, List.getLast?_eq_some_getLast nonempty] at mem
    rw [Option.some.inj mem] at visible
    exact eq_false_of_ne_true visible
  have kept : (escape name).rdropWhile Text.whitespace = escape name := by
    rw [List.rdropWhile_eq_self_iff]
    intro nonempty blank
    have visible := last ((escape name).getLast nonempty)
      (by rw [← getLast?_escape, List.getLast?_eq_some_getLast nonempty]; rfl)
    rw [visible] at blank
    cases blank
  rw [kept] at read
  exact ⟨unbroken, plain_of_escape read.symm, last⟩

theorem associated_station (profiles : List Profile) (profile : Profile) :
    (station profiles profile).associated "wlan0".toList =
      if readName profile.name = [] ∨ readName profile.name = "--".toList ∨
        readName profile.name = apConnectionName then none
      else some (ssidOr ((station profiles profile).ssidOf (readName profile.name)) (readName profile.name)) := by
  unfold associated associatedSsid
  dsimp only
  rw [connectionOf_station]

/-- A profile under the given name with another SSID. -/
def decoy (name ssid : Text) (named : name ≠ []) (oneLine : '\n' ∉ name) : Profile where
  name := name
  type := wirelessType
  ssid := if ssid = ['a'] then ['b'] else ['a']
  named := named
  ssidGiven _ := by split <;> simp
  oneLine := ⟨oneLine, by split <;> simp⟩

theorem received_decoy (name ssid : Text) (named : name ≠ []) (oneLine : '\n' ∉ name) (other : Text) :
    ssidOr (some (received (escape (decoy name ssid named oneLine).ssid ++ ['\n']))) other ≠ ssid := by
  unfold decoy
  dsimp only
  split
  next same =>
    have answer : received (escape ['b'] ++ ['\n']) = ['b'] := by decide
    rw [answer, same]
    exact (by decide : (['b'] : Text) ≠ ['a'])
  next different => exact fun same => different same.symm

/-- The names of a profile are listed as they are, whatever else NetworkManager has. -/
def ListedAsIs (profile : Profile) : Prop :=
  ∀ nm : NetworkManager, nm.find profile.name = some profile → ⟨profile.name, profile.ssid⟩ ∈ nm.savedWifi

/-- A station connected through a profile is reported on its SSID, whatever else
NetworkManager has. -/
def AssociatedAsIs (profile : Profile) : Prop :=
  ∀ (nm : NetworkManager) (row : Device), row ∈ nm.devices → row.state = connectedState →
    row.connection = profile.name → nm.find profile.name = some profile →
    nm.associated row.device = some profile.ssid

/-- A name that is read as another one is looked up as that other one. -/
theorem readName_of_associatedAsIs {profile : Profile} (asIs : AssociatedAsIs profile) :
    readName profile.name = profile.name := by
  by_contra different
  have unbroken := readName_chars profile.name
  have oneLine : '\n' ∉ readName profile.name := fun mem => by cases (unbroken _ mem).1
  by_cases empty : readName profile.name = []
  · have found : (station [profile] profile).find profile.name = some profile := by simp [find, station]
    have answer := asIs _ (stationRow profile) List.mem_cons_self rfl rfl found
    have none := (associated_station [profile] profile).trans (if_pos (.inl empty))
    cases none.symm.trans answer
  · have found : (station [decoy (readName profile.name) profile.ssid empty oneLine, profile] profile).find
        profile.name = some profile := by
      simp [find, station, decoy, different]
    have taken : (station [decoy (readName profile.name) profile.ssid empty oneLine, profile] profile).find
        (readName profile.name) = some (decoy (readName profile.name) profile.ssid empty oneLine) := by
      simp [find, station, decoy]
    have answer := asIs _ (stationRow profile) List.mem_cons_self rfl rfl found
    have asked := associated_station
      [decoy (readName profile.name) profile.ssid empty oneLine, profile] profile
    rw [ssidOf_found taken] at asked
    have answer := asked.symm.trans answer
    split at answer
    next => cases answer
    next => exact received_decoy _ _ empty oneLine _ (Option.some.inj answer)

theorem whole_of_associatedAsIs {profile : Profile} (wireless : profile.type = wirelessType)
    (asIs : AssociatedAsIs profile) : AssociatedWhole profile := by
  have same := readName_of_associatedAsIs asIs
  obtain ⟨unbroken, plain, last⟩ := whole_of_readName profile.named same
  have found : (station [profile] profile).find profile.name = some profile := by simp [find, station]
  have answer := asIs _ (stationRow profile) List.mem_cons_self rfl rfl found
  have asked := associated_station [profile] profile
  rw [same, ssidOf_found found] at asked
  have answer := asked.symm.trans answer
  split at answer
  next => cases answer
  next kept =>
    obtain ⟨ending, isLast⟩ : ∃ last, last ∈ profile.name.getLast? := ⟨_, List.getLast?_eq_some_getLast profile.named⟩
    have ssid := (ssidOr_received_iff (profile.ssidGiven wireless)
      (Profile.visible (.inr isLast) (last ending isLast))).mp (Option.some.inj answer)
    exact ⟨unbroken, plain, last, fun shown => kept (.inr (.inl shown)), ssid⟩

/-- The rows of terse output are split into their fields; the names of a wireless profile
survive the other two readers exactly if they are whole for them. -/
theorem names_survive_iff (profile : Profile) (wireless : profile.type = wirelessType)
    (station : profile.name ≠ apConnectionName) :
    (∀ field fields, splitNmcliTerse (terse (field :: fields)) = field :: fields) ∧
      (ListedAsIs profile ↔ ListedWhole profile) ∧ (AssociatedAsIs profile ↔ AssociatedWhole profile) := by
  refine ⟨splitNmcliTerse_terse, ⟨fun asIs => ?_, fun whole nm found => ?_⟩, ⟨fun asIs => ?_, fun whole => ?_⟩⟩
  · exact whole_of_listed wireless (asIs _ (find_only profile))
  · exact listed_of_whole wireless station whole found
  · exact whole_of_associatedAsIs wireless asIs
  · intro nm row mem connected through found
    exact associated_of_whole wireless station whole mem connected through found

/-- A profile whose name and SSID are the given text. -/
def wirelessProfile (name : Text) (named : name ≠ []) (oneLine : '\n' ∉ name) : Profile :=
  ⟨name, wirelessType, name, named, fun _ => named, oneLine, oneLine⟩

theorem names_survive_depot : ListedAsIs (wirelessProfile "Depot 7".toList (by decide) (by decide)) ∧
    AssociatedAsIs (wirelessProfile "Depot 7".toList (by decide) (by decide)) := by
  have unbroken : Text.Unbroken "Depot 7".toList := by decide
  have trim : Text.Trim "Depot 7".toList := by decide
  have readable : Readable "Depot 7".toList := ⟨by decide, trim⟩
  obtain ⟨_, listed, associated⟩ :=
    names_survive_iff (wirelessProfile "Depot 7".toList (by decide) (by decide)) rfl (by decide)
  exact ⟨listed.mpr ⟨unbroken, by decide, trim.first, readable⟩,
    associated.mpr ⟨unbroken, by decide, trim.last, by decide, readable⟩⟩

/-- The network `Depot:7` is listed with another SSID, and a station on it is reported on
another network. -/
theorem names_lost : ¬ ListedAsIs (wirelessProfile "Depot:7".toList (by decide) (by decide)) ∧
    ¬ AssociatedAsIs (wirelessProfile "Depot:7".toList (by decide) (by decide)) := by
  constructor
  · intro listed
    exact absurd (listed _ (find_only _)) (by decide +kernel)
  · intro associated
    have answer := associated (.station [wirelessProfile "Depot:7".toList (by decide) (by decide)]
      (wirelessProfile "Depot:7".toList (by decide) (by decide))) (stationRow _) List.mem_cons_self rfl rfl
      (by simp [find, station])
    exact absurd answer (by decide +kernel)

end NetworkManager

end Wqm1.Network
