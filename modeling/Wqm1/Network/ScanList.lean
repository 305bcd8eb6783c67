import Wqm1.Library.JsonText
import Wqm1.Network.Hotspot
import Wqm1.Network.TerseNames
import Wqm1.Radio.Region

/-! The networks in range: what nmcli and iw print of them, the list that is made of it, and
the file that keeps the list for the setup page. -/

set_option autoImplicit false

namespace Wqm1.Network.ScanList

open Wqm1.Library Wqm1.Network

inductive Band where
  | two | five | six | unknown
deriving DecidableEq

inductive Security where
  | openNetwork | wpaPsk | enterprise | saeOnly | wep | unknown
deriving DecidableEq

def Band.text : Band → Text
  | two => "2.4".toList
  | five => "5".toList
  | six => "6".toList
  | unknown => "unknown".toList

def Security.text : Security → Text
  | openNetwork => "open".toList
  | wpaPsk => "wpa_psk".toList
  | enterprise => "enterprise".toList
  | saeOnly => "sae_only".toList
  | wep => "wep".toList
  | unknown => "unknown".toList

/-- One row of a scan before it is annotated; `none` where the key is missing or null. -/
structure RawRow where
  ssid : Text := []
  signal : Option Int := none
  rssiDbm : Option Int := none
  freqMhz : Option Int := none
  freq : Text := []
  band : Option Band := none
  security : Option Security := none
  securityText : Text := []
  secured : Option Bool := none
  hidden : Bool := false

/-- An annotated row. What else such a row holds follows from these. -/
structure ScanRow where
  ssid : Text
  signal : Int
  secured : Bool
  security : Security
  rssiDbm : Option Int
  freqMhz : Option Int
  band : Band
  hidden : Bool
deriving DecidableEq

section Parse

def bandOfMhz : Option Int → Band
  | none => .unknown
  | some freq =>
    if 2400 ≤ freq ∧ freq ≤ 2500 then .two
    else if 4900 ≤ freq ∧ freq < 5925 then .five
    else if 5925 ≤ freq then .six
    else .unknown

/-- `\d`. -/
def digit (c : Char) : Bool := (Numeral.digitValue c).isSome

/-- The longest number without a sign, and what follows it. -/
def takeNumber (text : Text) : Option (Text × Text) :=
  let whole := text.takeWhile digit
  let behind := text.drop whole.length
  if whole = [] then none
  else match behind with
    | '.' :: rest =>
      if rest.takeWhile digit = [] then some (whole, behind)
      else some (whole ++ '.' :: rest.takeWhile digit, rest.dropWhile digit)
    | _ => some (whole, behind)

/-- Lower case the way a pattern without case compares it. -/
def caseless (text : Text) : Text :=
  text.map fun c =>
    if c = Char.ofNat 0x130 ∨ c = Char.ofNat 0x131 then 'i'
    else if c = Char.ofNat 0x17F then 's'
    else if c = Char.ofNat 0x212A then 'k'
    else c.toLower

/-- `int(round(value))`, which refuses an infinity. -/
def rounded : Double → Option Int
  | .finite value => some (Radio.roundHalfEven value)
  | .infinite _ | .nan => none

def times (factor : Rat) : Double → Double
  | .finite value => .ofRat (value * factor)
  | .infinite negative => .infinite negative
  | .nan => .nan

/-- `parse_freq_token`; none where it raises. -/
def parseFreqToken (text : Text) : Option (Option Int) :=
  let raw := Text.strip text
  if raw = [] ∨ raw = "--".toList then some none
  else match takeNumber (raw.dropWhile fun c => !digit c) with
    | none => some none
    | some (literal, rest) => do
      let value ← Numeral.float literal
      let ghz := "ghz".toList.isPrefixOf (caseless (rest.dropWhile Text.whitespace))
      return some (← rounded (if ghz || value.lt 20 then times 1000 value else value))

/-- The first number that `dBm` follows. -/
def findDbm : Text → Option Text
  | [] => none
  | c :: rest =>
    let signed := if c = '-' then takeNumber rest else takeNumber (c :: rest)
    match signed.filter fun read => "dbm".toList.isPrefixOf (caseless (read.2.dropWhile Text.whitespace)) with
    | some read => some (if c = '-' then '-' :: read.1 else read.1)
    | none => findDbm rest

/-- `parse_iw_link`; none where it raises. -/
def parseIwLink (text : Text) : Option (Option Int) :=
  match findDbm text with
  | none => some none
  | some literal => do return some (← rounded (← Numeral.float literal))

/-- An integer, or a quotient of two, as a float; what is beyond the range raises. -/
def asFloat (value : Rat) : Option Double :=
  match Double.ofRat value with
  | .finite held => some (.finite held)
  | .infinite _ | .nan => none

def percentToDbm (percent : Int) : Option Int := do rounded ((← asFloat (percent / 2)).add (.finite (-100)))

def dbmToPercent (dbm : Int) : Option Int := do
  let percent ← rounded (times 2 ((← asFloat dbm).add (.finite 100)))
  return max 0 (min 100 percent)

def barsForDbm : Option Int → Nat
  | none => 0
  | some dbm => if -50 ≤ dbm then 4 else if -60 ≤ dbm then 3 else if -70 ≤ dbm then 2 else if -80 ≤ dbm then 1 else 0

def weakRssiDbm : Int := -70

def isWeakRssi (dbm : Option Int) : Bool := dbm.any fun dbm => dbm < weakRssiDbm

def barGlyphs (bars : Nat) : Text := List.replicate bars '▮' ++ List.replicate (4 - bars) '▯'

inductive Suite where
  | ieee8021x | sae | psk
deriving DecidableEq

def suiteName (text : Text) : Option Suite :=
  let low := Hotspot.lower text
  if Hotspot.contains low "802.1x" || Hotspot.contains low "00-0f-ac:1" then some .ieee8021x
  else if Hotspot.contains low "sae" || Hotspot.contains low "00-0f-ac:8" then some .sae
  else if Hotspot.contains low "psk" || Hotspot.contains low "00-0f-ac:2" || Hotspot.contains low "00-0f-ac:6" then
    some .psk
  else none

def classifyAuthSuites (suites : List Suite) : Security :=
  if .ieee8021x ∈ suites ∧ .psk ∉ suites then .enterprise
  else if .sae ∈ suites ∧ .psk ∉ suites then .saeOnly
  else if .psk ∈ suites ∨ .sae ∈ suites then .wpaPsk
  else if .ieee8021x ∈ suites then .enterprise
  else .openNetwork

def classifyNmcliSecurity (text : Text) : Security :=
  let raw := Text.strip text
  let up := raw.map Char.toUpper
  if raw = [] ∨ raw = "--".toList then .openNetwork
  else if Hotspot.contains up "802.1X" || Hotspot.contains up "ENTERPRISE" then .enterprise
  else if Hotspot.contains up "WEP" then .wep
  else if Hotspot.contains up "WPA3" && !Hotspot.contains up "WPA2" && !Hotspot.contains up "WPA1" then .saeOnly
  else if Hotspot.contains up "WPA" then .wpaPsk
  else .unknown

/-- A text without the four characters that iw prints for a zero byte. -/
def withoutEscapedZeros : Text → Text
  | '\\' :: 'x' :: '0' :: '0' :: rest => withoutEscapedZeros rest
  | c :: rest => c :: withoutEscapedZeros rest
  | [] => []

def hiddenSsid (ssid : Text) : Bool :=
  let text := Text.strip ssid
  text = [] || (withoutEscapedZeros text).all (· = Char.ofNat 0)

end Parse

namespace ScanRow

def bars (row : ScanRow) : Nat := barsForDbm row.rssiDbm

def highBand (row : ScanRow) : Bool := row.band = .five || row.band = .six

def unjoinable (row : ScanRow) : Bool :=
  row.security = .enterprise || row.security = .saeOnly || row.security = .wep

def joinable (row : ScanRow) : Bool := !row.unjoinable && !row.highBand && !row.hidden

inductive Note where
  | band | enterprise | saeOnly | wep | openNetwork
deriving DecidableEq

def securityNote (row : ScanRow) : Option Note :=
  if row.highBand then some .band
  else match row.security with
    | .enterprise => some .enterprise
    | .saeOnly => some .saeOnly
    | .wep => some .wep
    | .openNetwork => some .openNetwork
    | .wpaPsk | .unknown => none

end ScanRow

/-- Whether a network of this security asks for a password; the row itself says it where nothing else does. -/
def Security.secured (security : Security) (said : Option Bool) : Bool :=
  match security with
  | .unknown => said = some true
  | .openNetwork => false
  | .wpaPsk | .enterprise | .saeOnly | .wep => true

namespace RawRow

def concealed (raw : RawRow) : Bool := raw.hidden || hiddenSsid raw.ssid

/-- The strength of a row in dBm; none where a conversion raises. -/
def rssiOf (raw : RawRow) : Option (Option Int) :=
  match raw.rssiDbm, raw.signal with
  | some dbm, _ => ((asFloat dbm).bind rounded).map some
  | none, some signal => (percentToDbm signal).map some
  | none, none => some none

/-- The frequency of a row; none where its text raises. -/
def freqOf (raw : RawRow) : Option (Option Int) :=
  match raw.freqMhz with
  | some freq => some (some freq)
  | none => if raw.freq = [] then some none else parseFreqToken raw.freq

def securityOf (raw : RawRow) : Security :=
  match raw.security, raw.secured with
  | some security, _ => security
  | none, some false => .openNetwork
  | none, some true => .wpaPsk
  | none, none => classifyNmcliSecurity raw.securityText

end RawRow

/-- `annotate_network`; none where a conversion raises. -/
def annotateNetwork (raw : RawRow) : Option ScanRow := do
  let rssiDbm ← raw.rssiOf
  let freqMhz ← raw.freqOf
  return {
    ssid := if raw.concealed then [] else raw.ssid
    signal := raw.signal.getD 0
    secured := raw.securityOf.secured raw.secured
    security := raw.securityOf
    rssiDbm := rssiDbm
    freqMhz := freqMhz
    band := raw.band.getD (bandOfMhz freqMhz)
    hidden := raw.concealed }

/-- The visible rows, one for each SSID in the order of their first, and the hidden one. -/
structure Strongest where
  best : Dict Text ScanRow := .empty
  hidden : Option ScanRow := none

def Strongest.keep (kept : Strongest) (row : ScanRow) : Strongest :=
  if row.hidden then
    { kept with hidden := if kept.hidden.all fun old => old.signal < row.signal then some row else kept.hidden }
  else if row.ssid = [] then kept
  else if (kept.best.get row.ssid).all fun old => old.signal < row.signal then
    { kept with best := kept.best.set row.ssid row }
  else kept

def Strongest.rows (kept : Strongest) : List ScanRow := kept.best.entries.map Prod.snd ++ kept.hidden.toList

/-- `_strongest`. -/
def strongest (rows : List ScanRow) : List ScanRow :=
  (rows.foldl Strongest.keep {}).rows.mergeSort fun left right => right.signal ≤ left.signal

section Readers

/-- One line of `nmcli -t -f SSID,SIGNAL,SECURITY,FREQ device wifi list`. -/
def nmcliRow (line : Text) : Option RawRow :=
  match splitNmcliTerse line with
  | ssid :: signal :: others =>
    if Text.strip line = [] then none
    else some {
      ssid := ssid
      signal := some ((Numeral.int signal).getD 0)
      security := some (classifyNmcliSecurity (others.headD []))
      securityText := others.headD []
      freq := (others.drop 1).headD []
      hidden := hiddenSsid ssid }
  | _ => none

/-- The rows that nmcli printed; none where one of them raises. -/
def heardNmcli (text : Text) : Option (List ScanRow) := ((Text.splitLines text).filterMap nmcliRow).mapM annotateNetwork

def parseNmcliWifi (text : Text) : Option (List ScanRow) := (heardNmcli text).map strongest

/-- What `iw` has said so far of one BSS. -/
structure Bss where
  ssid : Text := []
  sawSsid : Bool := false
  signalPct : Int := 0
  dbm : Option Int := none
  freq : Option Int := none
  suites : List Suite := []
  sawRsn : Bool := false
  privacy : Bool := false

def Bss.security (bss : Bss) : Security :=
  if bss.suites ≠ [] then classifyAuthSuites bss.suites
  else if bss.sawRsn then .wpaPsk
  else if bss.privacy then .wep
  else .openNetwork

def Bss.raw (bss : Bss) : RawRow :=
  let hidden := if bss.sawSsid then hiddenSsid bss.ssid else true
  { ssid := if hidden then [] else bss.ssid
    signal := some bss.signalPct
    rssiDbm := bss.dbm
    freqMhz := bss.freq
    security := some bss.security
    hidden := hidden || !bss.sawSsid }

/-- `flush`: a BSS of which nothing was said is none. -/
def flush (found : List ScanRow) (bss : Bss) : Option (List ScanRow) :=
  if bss.sawSsid || bss.sawRsn || bss.freq.isSome || bss.dbm.isSome then
    (annotateNetwork bss.raw).map fun row => found ++ [row]
  else some found

/-- What follows the first "authentication suites:" of a line, if there is something. -/
def suitesOf (line : Text) : Option Text :=
  let mark := "authentication suites:".toList
  (line.tails.find? fun tail => mark.isPrefixOf (caseless tail)).bind fun tail =>
    let named := Text.strip (tail.drop mark.length)
    if named = [] then none else some named

/-- What a line says of a BSS; none where a number in it raises. -/
def Bss.read (bss : Bss) (line : Text) : Option Bss :=
  let behind := (line.dropWhile (· ≠ ':')).drop 1
  if "SSID:".toList.isPrefixOf line then some { bss with sawSsid := true, ssid := Text.strip behind }
  else if "freq:".toList.isPrefixOf line then (parseFreqToken behind).map fun freq => { bss with freq := freq }
  else if "signal:".toList.isPrefixOf line then
    (parseIwLink line).bind fun
      | some dbm => (dbmToPercent dbm).map fun percent => { bss with dbm := some dbm, signalPct := percent }
      | none => some bss
  else if "RSN:".toList.isPrefixOf line || "WPA:".toList.isPrefixOf line then some { bss with sawRsn := true }
  else if Hotspot.contains line "Privacy" && "capability".toList.isPrefixOf (Hotspot.lower line) then
    some { bss with privacy := true }
  else match (suitesOf line).bind suiteName with
    | some suite => some { bss with suites := suite :: bss.suites }
    | none => some bss

/-- The loop of `parse_iw_scan`. -/
def readIw : List ScanRow → Bss → List Text → Option (List ScanRow)
  | found, bss, [] => flush found bss
  | found, bss, raw :: rest =>
    if "BSS ".toList.isPrefixOf raw then do readIw (← flush found bss) {} rest
    else do readIw found (← bss.read (Text.strip raw)) rest

def heardIw (text : Text) : Option (List ScanRow) := readIw [] {} (Text.splitLines text)

def parseIwScan (text : Text) : Option (List ScanRow) := (heardIw text).map strongest

end Readers

section Strongest

/-- Two rows that a list may hold together: they are not both hidden, nor visible under one name. -/
def Apart (left right : ScanRow) : Prop :=
  ¬(left.hidden = true ∧ right.hidden = true) ∧
    (left.hidden = false → right.hidden = false → left.ssid ≠ right.ssid)

/-- The list that is made of the rows that were heard. -/
structure Listed (heard rows : List ScanRow) : Prop where
  ordered : rows.Pairwise fun earlier later => later.signal ≤ earlier.signal
  apart : rows.Pairwise Apart
  known : ∀ row ∈ rows, row ∈ heard
  visible : ∀ row ∈ heard, row.hidden = false → row.ssid ≠ [] →
    ∃ kept ∈ rows, kept.hidden = false ∧ kept.ssid = row.ssid ∧ row.signal ≤ kept.signal
  hidden : ∀ row ∈ heard, row.hidden = true → ∃ kept ∈ rows, kept.hidden = true ∧ row.signal ≤ kept.signal

/-- What `_strongest` has kept of the rows it has seen. -/
structure Strongest.Of (kept : Strongest) (seen : List ScanRow) : Prop where
  named : ∀ ssid row, kept.best.get ssid = some row → row.ssid = ssid ∧ row.hidden = false ∧ row ∈ seen
  unnamed : ∀ row, kept.hidden = some row → row.hidden = true ∧ row ∈ seen
  visible : ∀ row ∈ seen, row.hidden = false → row.ssid ≠ [] →
    ∃ best, kept.best.get row.ssid = some best ∧ row.signal ≤ best.signal
  covered : ∀ row ∈ seen, row.hidden = true → ∃ best, kept.hidden = some best ∧ row.signal ≤ best.signal

variable {seen : List ScanRow} {kept after : Strongest}

/-- One more row, where what is kept only gets stronger. -/
theorem Strongest.Of.grow (of : kept.Of seen) {row : ScanRow}
    (better : ∀ ssid, after.best.get ssid = kept.best.get ssid ∨
      (after.best.get ssid = some row ∧ row.ssid = ssid ∧ row.hidden = false ∧
        ∀ old, kept.best.get ssid = some old → old.signal ≤ row.signal))
    (louder : after.hidden = kept.hidden ∨
      (after.hidden = some row ∧ row.hidden = true ∧ ∀ old, kept.hidden = some old → old.signal ≤ row.signal))
    (visible : row.hidden = false → row.ssid ≠ [] →
      ∃ best, after.best.get row.ssid = some best ∧ row.signal ≤ best.signal)
    (covered : row.hidden = true → ∃ best, after.hidden = some best ∧ row.signal ≤ best.signal) :
    after.Of (seen ++ [row]) where
  named ssid found located := by
    rcases better ssid with same | ⟨new, named, shown, -⟩
    · obtain ⟨named, shown, member⟩ := of.named ssid found (same ▸ located)
      exact ⟨named, shown, List.mem_append_left _ member⟩
    · obtain rfl := Option.some.inj (new.symm.trans located)
      exact ⟨named, shown, List.mem_append_right _ List.mem_cons_self⟩
  unnamed found located := by
    rcases louder with same | ⟨new, concealed, -⟩
    · obtain ⟨concealed, member⟩ := of.unnamed found (same ▸ located)
      exact ⟨concealed, List.mem_append_left _ member⟩
    · obtain rfl := Option.some.inj (new.symm.trans located)
      exact ⟨concealed, List.mem_append_right _ List.mem_cons_self⟩
  visible old member shown named := by
    rcases List.mem_append.mp member with before | now
    · obtain ⟨found, located, weaker⟩ := of.visible old before shown named
      rcases better old.ssid with same | ⟨new, -, -, stronger⟩
      · exact ⟨found, same ▸ located, weaker⟩
      · exact ⟨row, new, Int.le_trans weaker (stronger found located)⟩
    · obtain rfl := List.mem_singleton.mp now
      exact visible shown named
  covered old member concealed := by
    rcases List.mem_append.mp member with before | now
    · obtain ⟨found, located, weaker⟩ := of.covered old before concealed
      rcases louder with same | ⟨new, -, stronger⟩
      · exact ⟨found, same ▸ located, weaker⟩
      · exact ⟨row, new, Int.le_trans weaker (stronger found located)⟩
    · obtain rfl := List.mem_singleton.mp now
      exact covered concealed

theorem Strongest.Of.step (of : kept.Of seen) (row : ScanRow) : (kept.keep row).Of (seen ++ [row]) := by
  unfold Strongest.keep
  split
  next concealed =>
    have shown : row.hidden ≠ false := by simp [concealed]
    refine of.grow (fun _ => .inl rfl) ?_ (fun visible => (shown visible).elim) fun _ => ?_
    · dsimp only
      split
      next louder =>
        refine .inr ⟨rfl, concealed, fun old found => ?_⟩
        rw [found] at louder
        exact Int.le_of_lt (by simpa using louder)
      next => exact .inl rfl
    · dsimp only
      split
      next louder => exact ⟨row, rfl, Int.le_refl _⟩
      next quieter =>
        cases found : kept.hidden with
        | none => simp [found] at quieter
        | some old => exact ⟨old, rfl, by simpa [found] using quieter⟩
  next shown =>
    split
    next unnamed =>
      exact of.grow (fun _ => .inl rfl) (.inl rfl) (fun _ named => (named unnamed).elim)
        fun concealed => (shown concealed).elim
    next =>
      split
      next stronger =>
        refine of.grow (fun ssid => ?_) (.inl rfl) (fun _ _ => ?_) fun concealed => (shown concealed).elim
        · dsimp only
          rw [Dict.get_set]
          split
          next same =>
            subst same
            refine .inr ⟨rfl, rfl, by simpa using shown, fun old found => ?_⟩
            rw [found] at stronger
            exact Int.le_of_lt (by simpa using stronger)
          next => exact .inl rfl
        · exact ⟨row, by simp, Int.le_refl _⟩
      next weaker =>
        refine of.grow (fun _ => .inl rfl) (.inl rfl) (fun _ _ => ?_) fun concealed => (shown concealed).elim
        cases found : kept.best.get row.ssid with
        | none => simp [found] at weaker
        | some old => exact ⟨old, rfl, by simpa [found] using weaker⟩

theorem Strongest.Of.foldl (heard : List ScanRow) (of : kept.Of seen) :
    (heard.foldl Strongest.keep kept).Of (seen ++ heard) := by
  induction heard generalizing seen kept with
  | nil => rwa [List.append_nil]
  | cons row rest ih =>
    rw [List.foldl_cons, List.append_cons]
    exact ih (of.step row)

theorem Strongest.Of.listed {heard : List ScanRow} (of : kept.Of heard) :
    Listed heard (kept.rows.mergeSort fun left right => right.signal ≤ left.signal) := by
  have permuted := List.mergeSort_perm kept.rows fun left right => right.signal ≤ left.signal
  have located (entry : Text × ScanRow) (member : entry ∈ kept.best.entries) :
      kept.best.get entry.1 = some entry.2 := Dict.get_eq_some_iff.mpr member
  have found {ssid : Text} {row : ScanRow} (got : kept.best.get ssid = some row) : row ∈ kept.rows :=
    List.mem_append_left _ (List.mem_map.mpr ⟨(ssid, row), Dict.get_eq_some_iff.mp got, rfl⟩)
  constructor
  case ordered =>
    refine (List.pairwise_mergeSort ?_ ?_ _).imp of_decide_eq_true
    · intro first second third
      simp only [decide_eq_true_eq]
      omega
    · intro first second
      simp only [Bool.or_eq_true, decide_eq_true_eq]
      omega
  case apart =>
    have symmetric {left right : ScanRow} (apart : Apart left right) : Apart right left :=
      ⟨fun both => apart.1 ⟨both.2, both.1⟩, fun first second same => apart.2 second first same.symm⟩
    refine List.Pairwise.perm ?_ permuted.symm symmetric
    refine List.pairwise_append.mpr ⟨?_, ?_, ?_⟩
    · refine List.pairwise_map.mpr ((List.pairwise_map.mp kept.best.nodup).imp_of_mem ?_)
      intro left right leftMember rightMember different
      obtain ⟨leftNamed, leftShown, -⟩ := of.named _ _ (located left leftMember)
      obtain ⟨rightNamed, -, -⟩ := of.named _ _ (located right rightMember)
      exact ⟨fun both => by simp [leftShown] at both, fun _ _ same => different (leftNamed ▸ rightNamed ▸ same)⟩
    · cases kept.hidden with
      | none => exact .nil
      | some row => exact List.pairwise_singleton _ _
    · intro left leftMember right rightMember
      obtain ⟨entry, member, rfl⟩ := List.mem_map.mp leftMember
      obtain ⟨-, shown, -⟩ := of.named _ _ (located entry member)
      have concealed := (of.unnamed right (Option.mem_toList.mp rightMember)).1
      exact ⟨fun both => by simp [shown] at both, fun _ visible => by simp [concealed] at visible⟩
  case known =>
    intro row member
    rcases List.mem_append.mp (permuted.mem_iff.mp member) with visible | concealed
    · obtain ⟨entry, inside, rfl⟩ := List.mem_map.mp visible
      exact (of.named _ _ (located entry inside)).2.2
    · exact (of.unnamed row (Option.mem_toList.mp concealed)).2
  case visible =>
    intro row member shown named
    obtain ⟨strong, got, louder⟩ := of.visible row member shown named
    obtain ⟨same, visible, -⟩ := of.named _ _ got
    exact ⟨strong, permuted.mem_iff.mpr (found got), visible, same, louder⟩
  case hidden =>
    intro row member concealed
    obtain ⟨strong, got, louder⟩ := of.covered row member concealed
    exact ⟨strong, permuted.mem_iff.mpr (List.mem_append_right _ (Option.mem_toList.mpr got)),
      (of.unnamed strong got).1, louder⟩

theorem listed_strongest (heard : List ScanRow) : Listed heard (strongest heard) := by
  have empty : Strongest.Of {} [] := {
    named := fun _ _ absent => (Option.some_ne_none _ absent.symm).elim
    unnamed := fun _ absent => (Option.some_ne_none _ absent.symm).elim
    visible := fun _ absent => (List.not_mem_nil absent).elim
    covered := fun _ absent => (List.not_mem_nil absent).elim }
  exact (empty.foldl heard).listed

end Strongest

end Wqm1.Network.ScanList
