import Wqm1.Library.Events
import Wqm1.Library.Text

/-! The Pi that a card is commissioned to: the binding file, and the latch that keeps a moved
card off the old site's network. -/

set_option autoImplicit false

namespace Wqm1.Network

open Wqm1.Library Wqm1.Library.Events

def fallbackPiSerial : Text := List.replicate 16 '0'

def hexDigit (c : Char) : Bool := c ∈ "0123456789abcdef".toList

/-- The last 16 hex digits in lower case, or nothing when that is not the serial of a Pi. -/
def normaliseSerial (serial : Text) : Text :=
  let hexDigits := ((Text.strip serial).map Char.toLower).filter hexDigit
  if hexDigits = [] then []
  else
    let serial16 := (hexDigits.drop (hexDigits.length - 16)).leftpad 16 '0'
    if ¬ (serial16.length = 16 ∧ serial16.all hexDigit) ∨ serial16 = fallbackPiSerial then [] else serial16

structure CardBinding where
  commissionedSerial : Text := []
  movedFrom : Text := []
  movedTo : Text := []
  wifiReconfirm : Bool := false
deriving DecidableEq

namespace CardBinding

def keys : List Text :=
  ["commissioned_serial".toList, "moved_from".toList, "moved_to".toList, "wifi_reconfirm".toList]

def line (key value : Text) : Text := key ++ '=' :: (value ++ ['\n'])

/-- The key and the value of a line, if it is about one of the keys. -/
def parseLine (line : Text) : Option (Text × Text) :=
  if line.head? = some '#' then none
  else
    match Text.cut '=' line with
    | none => none
    | some (key, value) => if Text.strip key ∈ keys then some (Text.strip key, Text.strip value) else none

/-- The value of the last line about the key. -/
def value (lines : List Text) (key : Text) (default : Text) : Text :=
  ((lines.filterMap parseLine).reverse.lookup key).getD default

def parse (text : Text) : CardBinding :=
  let lines := Text.splitLines text
  { commissionedSerial := normaliseSerial (value lines "commissioned_serial".toList [])
    movedFrom := normaliseSerial (value lines "moved_from".toList [])
    movedTo := normaliseSerial (value lines "moved_to".toList [])
    wifiReconfirm := value lines "wifi_reconfirm".toList ['0'] = ['1'] }

/-- The binding in a file; a missing or unreadable file is an empty binding. -/
def load (file : Option Text) (readable : Bool) : CardBinding :=
  match file, readable with
  | some text, true => parse text
  | _, _ => {}

/-- The text that `save` writes. -/
def render (binding : CardBinding) : Text :=
  line "commissioned_serial".toList binding.commissionedSerial ++
    (line "moved_from".toList binding.movedFrom ++
      (line "moved_to".toList binding.movedTo ++
        line "wifi_reconfirm".toList [if binding.wifiReconfirm then '1' else '0']))

/-- What a boot on `current` makes of the binding; the second part is what it saves. `siteWifi`
is absent when the list of saved networks could not be read. -/
def observe (current : Text) (siteWifi : Option Bool) (binding : CardBinding) : CardBinding × Option CardBinding :=
  let serial := normaliseSerial current
  if serial = [] then (binding, none)
  else if binding.commissionedSerial = [] then
    let first := { commissionedSerial := serial }
    (first, some first)
  else if binding.commissionedSerial = serial then
    if !binding.wifiReconfirm && (binding.movedFrom ≠ [] || binding.movedTo ≠ []) then
      let settled := { commissionedSerial := serial }
      (settled, some settled)
    else (binding, none)
  else
    let needsHold := siteWifi.getD true
    let moved :=
      if needsHold then
        { commissionedSerial := binding.commissionedSerial, movedFrom := binding.commissionedSerial
          movedTo := serial, wifiReconfirm := true }
      else
        { commissionedSerial := serial, movedFrom := binding.commissionedSerial
          movedTo := serial, wifiReconfirm := false }
    (moved, some moved)

/-- What a join that confirms the Pi saves, given that there is a binding file. -/
def confirmBinding (serial : Text) : Option CardBinding :=
  let chosen := normaliseSerial serial
  if chosen = [] then none else some { commissionedSerial := chosen }

end CardBinding

/-- A card with its binding file and what `wifi_reconfirm_required` said at the last boot. For
the statements only, `home` is the Pi it was last commissioned or confirmed on, and `waiting`
says whether it has since been moved and not been set up. -/
structure Card where
  bindingFile : Option Text := none
  required : Bool := false
  home : Option Text := none
  waiting : Bool := false
deriving DecidableEq

/-- At a boot, whether `observe` and `wifi_reconfirm_required` can read the file. -/
inductive CardEvent where
  | boot (current : Text) (siteWifi : Option Bool) (observed : Bool) (asked : Bool)
  | confirm (serial : Text)

namespace Card

/-- The Pi that a card is at home on after a boot, and whether it has to wait. -/
def moved (standing : Option Text × Bool) (current : Text) (siteWifi : Option Bool) : Option Text × Bool :=
  let serial := normaliseSerial current
  if serial = [] then standing
  else if standing.1 = none then (some serial, false)
  else if standing.1 = some serial then standing
  else if siteWifi = some false then (some serial, false)
  else (standing.1, true)

def save (card : Card) (saved : Option CardBinding) : Option Text := (saved.map CardBinding.render).or card.bindingFile

def boot (card : Card) (current : Text) (siteWifi : Option Bool) (observed asked : Bool) : Card :=
  let bindingFile := card.save ((CardBinding.load card.bindingFile observed).observe current siteWifi).2
  { bindingFile, required := (CardBinding.load bindingFile asked).wifiReconfirm
    home := (moved (card.home, card.waiting) current siteWifi).1
    waiting := (moved (card.home, card.waiting) current siteWifi).2 }

def confirm (card : Card) (serial : Text) : Card :=
  match card.bindingFile, CardBinding.confirmBinding serial with
  | some _, some binding =>
    { card with bindingFile := some binding.render, home := some binding.commissionedSerial, waiting := false }
  | _, _ => card

def step (card : Card) : CardEvent → Option Card
  | .boot current siteWifi observed asked => some (card.boot current siteWifi observed asked)
  | .confirm serial => some (card.confirm serial)

end Card

/-- The serial of a Pi. -/
structure PiSerial (serial : Text) : Prop where
  length : serial.length = 16
  digits : ∀ c ∈ serial, hexDigit c = true
  known : serial ≠ fallbackPiSerial

theorem hexDigit_plain {c : Char} (digit : hexDigit c = true) :
    Text.whitespace c = false ∧ Text.lineBreak c = false ∧ c.toLower = c := by
  have every : ∀ c ∈ "0123456789abcdef".toList,
      Text.whitespace c = false ∧ Text.lineBreak c = false ∧ c.toLower = c :=
    Text.forall_mem _ (by decide)
  exact every c (by simpa [hexDigit] using digit)

theorem normaliseSerial_cases (serial : Text) :
    normaliseSerial serial = [] ∨ PiSerial (normaliseSerial serial) := by
  unfold normaliseSerial
  dsimp only
  split
  next => exact .inl rfl
  next =>
    split
    next => exact .inl rfl
    next accepted =>
      obtain ⟨shape, known⟩ := not_or.mp accepted
      obtain ⟨length, digits⟩ := not_not.mp shape
      exact .inr ⟨length, List.all_eq_true.mp digits, known⟩

theorem PiSerial.trim {serial : Text} (pi : PiSerial serial) : Text.Trim serial where
  first c mem := (hexDigit_plain (pi.digits c (List.mem_of_mem_head? mem))).1
  last c mem := (hexDigit_plain (pi.digits c (List.mem_of_getLast? mem))).1

theorem PiSerial.normalise {serial : Text} (pi : PiSerial serial) : normaliseSerial serial = serial := by
  have lower : serial.map Char.toLower = serial :=
    List.map_congr_left (fun c mem => (hexDigit_plain (pi.digits c mem)).2.2) |>.trans (List.map_id _)
  have nonempty : serial ≠ [] := fun empty => by simpa [empty] using pi.length
  have padded : serial.leftpad 16 '0' = serial := by simp [List.leftpad, pi.length]
  unfold normaliseSerial
  rw [Text.strip_of_trim pi.trim, lower, List.filter_eq_self.mpr pi.digits, if_neg nonempty, pi.length,
    Nat.sub_self, List.drop_zero]
  dsimp only
  rw [padded, if_neg]
  rintro (malformed | unknown)
  · exact malformed ⟨pi.length, List.all_eq_true.mpr pi.digits⟩
  · exact pi.known unknown

theorem normaliseSerial_normaliseSerial (serial : Text) :
    normaliseSerial (normaliseSerial serial) = normaliseSerial serial := by
  rcases normaliseSerial_cases serial with empty | pi
  · rw [empty]
    rfl
  · exact pi.normalise

namespace CardBinding

/-- Every serial in the binding is one or is empty. -/
structure Sound (binding : CardBinding) : Prop where
  commissionedSerial : normaliseSerial binding.commissionedSerial = binding.commissionedSerial
  movedFrom : normaliseSerial binding.movedFrom = binding.movedFrom
  movedTo : normaliseSerial binding.movedTo = binding.movedTo

theorem sound_load (file : Option Text) (readable : Bool) : (load file readable).Sound := by
  unfold load
  split
  next => exact ⟨normaliseSerial_normaliseSerial _, normaliseSerial_normaliseSerial _, normaliseSerial_normaliseSerial _⟩
  next => exact ⟨rfl, rfl, rfl⟩

theorem sound_observe (current : Text) (siteWifi : Option Bool) {binding saved : CardBinding} (sound : binding.Sound)
    (written : (observe current siteWifi binding).2 = some saved) : saved.Sound := by
  have serial := normaliseSerial_normaliseSerial current
  unfold observe at written
  dsimp only at written
  split at written
  next => cases written
  next =>
    split at written
    next =>
      cases written
      exact ⟨serial, rfl, rfl⟩
    next =>
      split at written
      next =>
        split at written
        next =>
          cases written
          exact ⟨serial, rfl, rfl⟩
        next => cases written
      next =>
        cases written
        split
        next => exact ⟨sound.commissionedSerial, sound.commissionedSerial, serial⟩
        next => exact ⟨serial, sound.commissionedSerial, serial⟩

theorem sound_confirmBinding (serial : Text) {saved : CardBinding} (written : confirmBinding serial = some saved) :
    saved.Sound := by
  unfold confirmBinding at written
  dsimp only at written
  split at written
  next => cases written
  next =>
    cases written
    exact ⟨normaliseSerial_normaliseSerial serial, rfl, rfl⟩

theorem keys_plain : ∀ key ∈ keys, key.head? ≠ some '#' ∧ key ≠ [] ∧ '=' ∉ key ∧ Text.strip key = key ∧
    Text.Unbroken key := by decide +kernel

theorem parseLine_entry {key value : Text} (known : key ∈ keys) (trim : Text.Trim value) :
    parseLine (key ++ '=' :: value) = some (key, value) := by
  obtain ⟨comment, nonempty, separator, stripped, _⟩ := keys_plain key known
  have head : (key ++ '=' :: value).head? = key.head? := by
    rw [List.head?_append, List.head?_eq_some_head nonempty]
    rfl
  unfold parseLine
  rw [head, if_neg comment, Text.cut_append separator]
  dsimp only
  rw [stripped, if_pos known, Text.strip_of_trim trim]

theorem splitLines_line {key value : Text} (known : key ∈ keys) (unbroken : Text.Unbroken value) (rest : Text) :
    Text.splitLines (line key value ++ rest) = (key ++ '=' :: value) :: Text.splitLines rest := by
  have whole : Text.Unbroken (key ++ '=' :: value) := by
    intro c mem
    rcases List.mem_append.mp mem with inKey | inValue
    · exact (keys_plain key known).2.2.2.2 c inKey
    · rcases List.mem_cons.mp inValue with rfl | inValue
      · rfl
      · exact unbroken c inValue
  have same : line key value ++ rest = (key ++ '=' :: value) ++ '\n' :: rest := by simp [line]
  rw [same, Text.splitLines_line whole]

theorem plain_of_normal {serial : Text} (normal : normaliseSerial serial = serial) :
    Text.Trim serial ∧ Text.Unbroken serial := by
  rcases normaliseSerial_cases serial with empty | pi
  · rw [normal] at empty
    subst empty
    exact ⟨Text.trim_nil, List.forall_mem_nil _⟩
  · rw [normal] at pi
    exact ⟨pi.trim, fun c mem => (hexDigit_plain (pi.digits c mem)).2.1⟩

/-- A binding of serials is read back from the text it is saved as. -/
theorem parse_render {binding : CardBinding} (sound : binding.Sound) : parse binding.render = binding := by
  obtain ⟨trim1, unbroken1⟩ := plain_of_normal sound.commissionedSerial
  obtain ⟨trim2, unbroken2⟩ := plain_of_normal sound.movedFrom
  obtain ⟨trim3, unbroken3⟩ := plain_of_normal sound.movedTo
  have flag : ∀ wifiReconfirm : Bool, Text.Trim [if wifiReconfirm then '1' else '0'] ∧
      Text.Unbroken [if wifiReconfirm then '1' else '0'] := by
    intro wifiReconfirm
    cases wifiReconfirm <;> exact ⟨by decide, by decide⟩
  obtain ⟨trim4, unbroken4⟩ := flag binding.wifiReconfirm
  have lines : (Text.splitLines binding.render).filterMap parseLine =
      [("commissioned_serial".toList, binding.commissionedSerial), ("moved_from".toList, binding.movedFrom),
        ("moved_to".toList, binding.movedTo),
        ("wifi_reconfirm".toList, [if binding.wifiReconfirm then '1' else '0'])] := by
    unfold render
    rw [splitLines_line (by decide) unbroken1, splitLines_line (by decide) unbroken2,
      splitLines_line (by decide) unbroken3, ← List.append_nil (line "wifi_reconfirm".toList _),
      splitLines_line (by decide) unbroken4, List.filterMap_cons_some (parseLine_entry (by decide) trim1),
      List.filterMap_cons_some (parseLine_entry (by decide) trim2),
      List.filterMap_cons_some (parseLine_entry (by decide) trim3),
      List.filterMap_cons_some (parseLine_entry (by decide) trim4)]
    rfl
  have values : parse binding.render =
      { commissionedSerial := normaliseSerial binding.commissionedSerial
        movedFrom := normaliseSerial binding.movedFrom, movedTo := normaliseSerial binding.movedTo
        wifiReconfirm := [if binding.wifiReconfirm then '1' else '0'] = ['1'] } := by
    unfold parse value
    dsimp only
    rw [lines]
    rfl
  rw [values, sound.commissionedSerial, sound.movedFrom, sound.movedTo]
  obtain ⟨commissionedSerial, movedFrom, movedTo, wifiReconfirm⟩ := binding
  cases wifiReconfirm <;> rfl

/-- What a binding says of the card. -/
def standing (binding : CardBinding) : Option Text × Bool :=
  (if binding.commissionedSerial = [] then none else some binding.commissionedSerial, binding.wifiReconfirm)

/-- The binding left by `observe` says of the card what the boot has made of it. -/
theorem standing_observe (current : Text) (siteWifi : Option Bool) (binding : CardBinding) :
    ((observe current siteWifi binding).2.getD binding).standing = Card.moved binding.standing current siteWifi := by
  unfold observe Card.moved standing
  dsimp only
  split
  next => rfl
  next serial =>
    split
    next =>
      simp [serial]
    next commissioned =>
      simp only [reduceCtorEq, Option.some.injEq, ↓reduceIte]
      split
      next same =>
        split
        next settled =>
          have unlatched : binding.wifiReconfirm = false := by
            cases latch : binding.wifiReconfirm with
            | false => rfl
            | true => simp [latch] at settled
          simp [serial, same, unlatched]
        next => simp [commissioned]
      next =>
        rcases siteWifi with _ | _ | _ <;> simp [serial, commissioned]

theorem observe_fst (current : Text) (siteWifi : Option Bool) (binding : CardBinding) :
    (observe current siteWifi binding).1 = (observe current siteWifi binding).2.getD binding := by
  unfold observe
  dsimp only
  split
  next => rfl
  next => split <;> [rfl; (split <;> [(split <;> rfl); rfl])]

theorem load_save (card : Card) (saved : Option CardBinding) (sound : ∀ binding ∈ saved, binding.Sound) :
    load (card.save saved) true = saved.getD (load card.bindingFile true) := by
  cases saved with
  | none => rfl
  | some binding => exact parse_render (sound binding rfl)

end CardBinding

namespace Card

/-- A card that has to wait has the latch in its file, and the last boot saw it. -/
def Waits (card : Card) : Prop :=
  card.waiting = true → (CardBinding.load card.bindingFile true).wifiReconfirm = true ∧ card.required = true

/-- Where the card has to wait, `observe` on a known Pi and `wifi_reconfirm_required` can
read the file. -/
def Readable (card : Card) : CardEvent → Prop
  | .boot current siteWifi observed asked =>
    (moved (card.home, card.waiting) current siteWifi).2 = true →
      (observed = true ∨ normaliseSerial current = []) ∧ asked = true
  | .confirm _ => True

/-- The file says of the card what its history does. -/
structure Clean (card : Card) : Prop where
  standing : (CardBinding.load card.bindingFile true).standing = (card.home, card.waiting)
  required : card.waiting = true → card.required = true

variable {card after : Card}

theorem Clean.waits (clean : Clean card) : Waits card := by
  intro waiting
  have latch : (CardBinding.load card.bindingFile true).wifiReconfirm = card.waiting :=
    congrArg Prod.snd clean.standing
  exact ⟨latch.trans waiting, clean.required waiting⟩

theorem standing_boot_read (clean : Clean card) (current : Text) (siteWifi : Option Bool) (asked : Bool) :
    (CardBinding.load (card.boot current siteWifi true asked).bindingFile true).standing =
      moved (card.home, card.waiting) current siteWifi := by
  have sound := CardBinding.sound_load card.bindingFile true
  have kept := CardBinding.standing_observe current siteWifi (CardBinding.load card.bindingFile true)
  rw [clean.standing] at kept
  show (CardBinding.load (card.save _) true).standing = _
  rw [CardBinding.load_save card _ fun _ written => CardBinding.sound_observe current siteWifi sound written]
  exact kept

/-- Where `observe` cannot read the file, it takes the boot for the first one. -/
theorem standing_boot_unread (card : Card) {current : Text} (serial : normaliseSerial current ≠ [])
    (siteWifi : Option Bool) (asked : Bool) :
    (CardBinding.load (card.boot current siteWifi false asked).bindingFile true).standing =
      (some (normaliseSerial current), false) := by
  have unread : CardBinding.load card.bindingFile false = {} := by cases card.bindingFile <;> rfl
  have first : (CardBinding.observe current siteWifi {}).2 = some { commissionedSerial := normaliseSerial current } := by
    simp [CardBinding.observe, serial]
  show (CardBinding.load (card.save (CardBinding.observe current siteWifi (CardBinding.load card.bindingFile false)).2)
    true).standing = _
  rw [unread, first, CardBinding.load_save card _ fun binding mem => by
    cases mem
    exact ⟨normaliseSerial_normaliseSerial current, rfl, rfl⟩]
  simp [CardBinding.standing, serial]

/-- A boot on a Pi that leaves nothing to wait for leaves the card at home there. -/
theorem moved_settled {standing : Option Text × Bool} {current : Text} {siteWifi : Option Bool}
    (serial : normaliseSerial current ≠ []) (settled : (moved standing current siteWifi).2 = false) :
    moved standing current siteWifi = (some (normaliseSerial current), false) := by
  unfold moved at settled ⊢
  dsimp only at settled ⊢
  rw [if_neg serial] at settled ⊢
  split
  next => rfl
  next known =>
    rw [if_neg known] at settled
    split
    next same =>
      rw [if_pos same] at settled
      exact Prod.ext same settled
    next other =>
      rw [if_neg other] at settled
      split
      next => rfl
      next taken =>
        rw [if_neg taken] at settled
        cases settled

theorem Clean.standing_boot (clean : Clean card) {current : Text} {siteWifi : Option Bool} {observed asked : Bool}
    (readable : (moved (card.home, card.waiting) current siteWifi).2 = true →
      observed = true ∨ normaliseSerial current = []) :
    (CardBinding.load (card.boot current siteWifi observed asked).bindingFile true).standing =
      moved (card.home, card.waiting) current siteWifi := by
  cases observed with
  | true => exact standing_boot_read clean current siteWifi asked
  | false =>
    by_cases serial : normaliseSerial current = []
    · have same : moved (card.home, card.waiting) current siteWifi = (card.home, card.waiting) := if_pos serial
      have unsaved : ∀ binding, (CardBinding.observe current siteWifi binding).2 = none := by
        intro binding
        simp [CardBinding.observe, serial]
      rw [same, ← clean.standing]
      show (CardBinding.load (card.save _) true).standing = _
      rw [unsaved]
      rfl
    · have settled : (moved (card.home, card.waiting) current siteWifi).2 = false := by
        apply eq_false_of_ne_true
        intro waiting
        rcases readable waiting with read | unknown
        · cases read
        · exact serial unknown
      rw [standing_boot_unread card serial, moved_settled serial settled]

theorem Clean.step (clean : Clean card) {event : CardEvent} (stepped : card.step event = some after)
    (readable : Readable card event) : Clean after := by
  cases event with
  | boot current siteWifi observed asked =>
    cases stepped
    have standing := @Clean.standing_boot _ clean current siteWifi observed asked fun waiting => (readable waiting).1
    refine ⟨standing, fun waiting => ?_⟩
    have answered : asked = true := (readable waiting).2
    subst answered
    exact (congrArg Prod.snd standing).trans waiting
  | confirm serial =>
    cases stepped
    unfold confirm
    split
    next binding _ confirmed =>
      have sound := CardBinding.sound_confirmBinding serial confirmed
      have latch : binding.wifiReconfirm = false ∧ binding.commissionedSerial ≠ [] := by
        unfold CardBinding.confirmBinding at confirmed
        dsimp only at confirmed
        split at confirmed
        next => cases confirmed
        next known =>
          cases confirmed
          exact ⟨rfl, known⟩
      refine ⟨?_, fun waiting => by cases waiting⟩
      show (CardBinding.parse binding.render).standing = _
      rw [CardBinding.parse_render sound]
      simp [CardBinding.standing, latch]
    next => exact clean

theorem not_waits_step {event : CardEvent} (stepped : card.step event = some after)
    (unreadable : ¬ Readable card event) : ¬ Waits after := by
  intro waits
  cases event with
  | confirm serial => exact unreadable trivial
  | boot current siteWifi observed asked =>
    cases stepped
    apply unreadable
    intro waiting
    obtain ⟨latch, required⟩ := waits waiting
    constructor
    · by_cases serial : normaliseSerial current = []
      · exact .inr serial
      · cases observed with
        | true => exact .inl rfl
        | false =>
          have first := congrArg Prod.snd (standing_boot_unread card serial siteWifi asked)
          cases latch.symm.trans first
    · cases asked with
      | true => rfl
      | false =>
        have unread : ∀ file, CardBinding.load file false = {} := fun file => by cases file <;> rfl
        have answer : (card.boot current siteWifi observed false).required = false :=
          congrArg CardBinding.wifiReconfirm (unread _)
        exact absurd (required.symm.trans answer) (by decide)

/-- What `observe` returns and what a join confirms are read back from the text they are
saved as. -/
def RoundTrip : Prop :=
  (∀ file readable current siteWifi,
    let binding := (CardBinding.observe current siteWifi (CardBinding.load file readable)).1
    CardBinding.load (some binding.render) true = binding) ∧
  ∀ serial binding, CardBinding.confirmBinding serial = some binding →
    CardBinding.load (some binding.render) true = binding

theorem round_trip : RoundTrip := by
  refine ⟨fun file readable current siteWifi => ?_, fun serial binding confirmed => ?_⟩
  · have sound := CardBinding.sound_load file readable
    apply CardBinding.parse_render
    rw [CardBinding.observe_fst]
    cases written : (CardBinding.observe current siteWifi (CardBinding.load file readable)).2 with
    | none => exact sound
    | some binding => exact CardBinding.sound_observe current siteWifi sound written
  · exact CardBinding.parse_render (CardBinding.sound_confirmBinding serial confirmed)

/-- Bindings are read back as saved, and a moved card waits throughout exactly if the file can
be read wherever the card has to wait. -/
theorem moved_card_waits_iff (events : List CardEvent) :
    (RoundTrip ∧ Throughout step Waits {} events) ↔ Along step Readable {} events := by
  have fresh : Clean {} := ⟨rfl, fun waiting => by cases waiting⟩
  have runs : Throughout step Waits {} events ↔ Along step Readable {} events :=
    throughout_iff_along (fun clean => clean.waits) (fun clean stepped readable => clean.step stepped readable)
      (fun _ stepped unreadable => not_waits_step stepped unreadable) fresh events
  exact ⟨fun both => runs.mp both.2, fun along => ⟨round_trip, runs.mpr along⟩⟩

/-- A commissioned card is moved, has to wait, and the next boot cannot read its file. -/
def unreadAfterMove : List CardEvent :=
  [.boot "1000000086544fd8".toList (some false) true true, .boot "00000000aabbccdd".toList (some true) true true,
    .boot "00000000aabbccdd".toList (some true) false true]

theorem moved_card_forgets : ¬ ∀ events : List CardEvent, Throughout step Waits {} events := by
  intro claim
  have lost : ((play step anything {} unreadAfterMove).any fun card => card.waiting && !card.required) = true := by
    decide +kernel
  obtain ⟨card, played, forgot⟩ := (Option.any_eq_true _ _).mp lost
  obtain ⟨waiting, unasked⟩ := (Bool.and_eq_true _ _).mp forgot
  have required := ((claim unreadAfterMove).final played waiting).2
  rw [required] at unasked
  cases unasked

end Card

end Wqm1.Network
