import Mathlib.Data.BitVec
import Wqm1.Library.Crew

/-! The ADS1115 on the HAT: one conversion register for four channels, read by several threads. -/

set_option autoImplicit false

namespace Wqm1.Sensing.Ads1115

open Wqm1.Library Wqm1.Library.Events

section Chip

/-- A conversion that has been started: how many there were before it, and the config word it was started with. -/
structure Conversion where
  number : Nat
  config : Nat
deriving DecidableEq

structure Sample where
  conversion : Conversion
  code : BitVec 16
deriving DecidableEq

/-- The chip in single-shot mode: the conversion that runs, and the last one that has come to its end. -/
structure Chip where
  started : Nat := 0
  running : Option Conversion := none
  result : Option Sample := none
deriving DecidableEq

def startsConversion (config : Nat) : Bool := config / 0x8000 % 2 = 1 && config / 0x100 % 2 = 1

/-- The input that the multiplexer selects, 4 to 7 for the four inputs against ground. -/
def muxOf (config : Nat) : Nat := config / 0x1000 % 8

def pgaOf (config : Nat) : Nat := config / 0x200 % 8

/-- A write to the config register. A conversion that runs already goes on as it was started. -/
def Chip.writeConfig (chip : Chip) : List Nat → Chip
  | [high, low] =>
    if startsConversion (high * 256 + low) && chip.running.isNone then
      { chip with started := chip.started + 1, running := some ⟨chip.started, high * 256 + low⟩ }
    else chip
  | _ => chip

/-- The first byte of the config register, of which the highest bit is set while no conversion runs. -/
def Chip.readStatus (chip : Chip) : Nat := if chip.running.isNone then 0x80 else 0

def Chip.code (chip : Chip) : BitVec 16 := (chip.result.map Sample.code).getD 0

def Chip.readConversion (chip : Chip) : Nat × Nat := (chip.code.toNat / 256, chip.code.toNat % 256)

def Chip.complete (chip : Chip) (code : BitVec 16) : Option Chip :=
  chip.running.map fun conversion => { chip with running := none, result := some ⟨conversion, code⟩ }

end Chip

section Driver

def osStart : Nat := 0x8000
def pga6144 : Nat := 0x0000
def pga4096 : Nat := 0x0200
def modeSingle : Nat := 0x0100
def dr128 : Nat := 0x0080
def compDisable : Nat := 0x0003

def pgaByChannel : Nat → Nat
  | 1 => pga6144
  | _ => pga4096

/-- The config word that starts a conversion of a channel. -/
def configWord (channel : Nat) : Nat :=
  osStart ||| ((0x04 + channel) <<< 12) ||| pgaByChannel channel ||| modeSingle ||| dr128 ||| compDisable

def configBytes (channel : Nat) : List Nat := [(configWord channel >>> 8) &&& 0xFF, configWord channel &&& 0xFF]

/-- The number that two bytes of the conversion register stand for. -/
def signedWord (high low : Nat) : Int :=
  let raw := (high <<< 8) ||| low
  if 0x8000 ≤ raw then (raw : Int) - 0x10000 else raw

/-- What `read_raw` has returned; `started` is the number of the conversion that it started. -/
structure Reading where
  channel : Nat
  started : Nat
  raw : Int
  sample : Option Sample
deriving DecidableEq

structure Desk where
  chip : Chip := {}
  busOpen : Bool := true
  locked : Bool := false
  returned : List Reading := []

inductive Place where
  | idle
  | waiting (channel : Nat)
  | starting (channel : Nat)
  | polling (channel started : Nat)
  | fetching (channel started : Nat)
  | toClose
  | closing
deriving DecidableEq

inductive Action where
  | read (channel : Int)
  | close
  /-- The next step of a thread on its way. -/
  | proceed
  /-- A transaction raises, or the deadline has passed. -/
  | fail
  /-- The write of the config register raises although the chip has received it. -/
  | lost
deriving DecidableEq

def Desk.unlock (desk : Desk) : Desk := { desk with locked := false }

def proceed (desk : Desk) : Place → Option (Desk × Place)
  | .idle => none
  | .waiting channel => if desk.locked then none else some ({ desk with locked := true }, .starting channel)
  | .starting channel =>
    if desk.busOpen then
      some ({ desk with chip := desk.chip.writeConfig (configBytes channel) }, .polling channel desk.chip.started)
    else some (desk.unlock, .idle)
  | .polling channel started =>
    if desk.chip.readStatus &&& 0x80 ≠ 0 then some (desk, .fetching channel started)
    else some (desk, .polling channel started)
  | .fetching channel started =>
    let (high, low) := desk.chip.readConversion
    some ({ desk.unlock with
      returned := desk.returned ++ [⟨channel, started, signedWord high low, desk.chip.result⟩] }, .idle)
  | .toClose => if desk.locked then none else some ({ desk with locked := true }, .closing)
  | .closing => some ({ desk.unlock with busOpen := false }, .idle)

def action (desk : Desk) (place : Place) : Action → Option (Desk × Place)
  | .read channel =>
    if place = .idle then
      some (desk, if 0 ≤ channel ∧ channel ≤ 3 ∧ desk.busOpen then .waiting channel.toNat else .idle)
    else none
  | .close => if place = .idle then some (desk, .toClose) else none
  | .proceed => proceed desk place
  | .fail =>
    match place with
    | .starting _ | .polling _ _ | .fetching _ _ | .closing => some (desk.unlock, .idle)
    | _ => none
  | .lost =>
    match place with
    | .starting channel =>
      some ({ desk.unlock with chip := desk.chip.writeConfig (configBytes channel) }, .idle)
    | _ => none

inductive Happening where
  | act (thread : Nat) (taken : Action)
  | complete (code : BitVec 16)
deriving DecidableEq

def step (crew : Crew Desk Place) : Happening → Option (Crew Desk Place)
  | .act thread taken => crew.act action (thread, taken)
  | .complete code =>
    (crew.shared.chip.complete code).map fun chip => ⟨{ crew.shared with chip := chip }, crew.places⟩

def initial (threads : Nat) : Crew Desk Place := ⟨{}, List.replicate threads .idle⟩

/-- No read is given up while the chip still converts for it. -/
def Calm (desk : Desk) : Action → Prop
  | .lost => False
  | .fail => desk.chip.running = none
  | .read _ | .close | .proceed => True

instance (desk : Desk) (taken : Action) : Decidable (Calm desk taken) :=
  match taken with
  | .lost => inferInstanceAs (Decidable False)
  | .fail => inferInstanceAs (Decidable (desk.chip.running = none))
  | .read _ | .close | .proceed => inferInstanceAs (Decidable True)

def Unabandoned (crew : Crew Desk Place) : Happening → Prop
  | .act _ taken => Calm crew.shared taken
  | .complete _ => True

instance (crew : Crew Desk Place) (event : Happening) : Decidable (Unabandoned crew event) :=
  match event with
  | .act _ taken => inferInstanceAs (Decidable (Calm crew.shared taken))
  | .complete _ => inferInstanceAs (Decidable True)

end Driver

section Words

theorem muxOf_configWord : ∀ channel < 4, muxOf (configWord channel) = 4 + channel := by decide

theorem pgaOf_configWord : ∀ channel < 4, pgaOf (configWord channel) = pgaByChannel channel / 0x200 := by decide

theorem configBytes_eq : ∀ channel < 4, ∃ high low, configBytes channel = [high, low] ∧
    high * 256 + low = configWord channel ∧ startsConversion (configWord channel) = true := by
  intro channel small
  have known : ∀ channel < 4, ((configWord channel >>> 8) &&& 0xFF) * 256 + (configWord channel &&& 0xFF) =
      configWord channel ∧ startsConversion (configWord channel) = true := by decide
  exact ⟨_, _, rfl, known channel small⟩

/-- The driver reads the two bytes of a code as the number that the chip means. -/
theorem signedWord_bytes (code : BitVec 16) : signedWord (code.toNat / 256) (code.toNat % 256) = code.toInt := by
  have joined : (code.toNat / 256) <<< 8 ||| code.toNat % 256 = code.toNat := by
    rw [Nat.shiftLeft_eq, Nat.mul_comm, ← Nat.two_pow_add_eq_or_of_lt (show code.toNat % 256 < 2 ^ 8 by omega)]
    omega
  have bound := code.isLt
  unfold signedWord
  dsimp only
  rw [joined, BitVec.toInt]
  split <;> split <;> omega

end Words

section Runs

variable {desk after : Desk} {place next : Place} {taken : Action} {crew final : Crew Desk Place}

def Place.inside : Place → Bool
  | .starting _ | .polling _ _ | .fetching _ _ | .closing => true
  | .idle | .waiting _ | .toClose => false

/-- What a read of a channel returns: its own conversion, at the gain of its channel. -/
structure Own (reading : Reading) : Prop where
  channel : reading.channel < 4
  sample : ∃ code, reading.sample = some ⟨⟨reading.started, configWord reading.channel⟩, code⟩ ∧
    reading.raw = code.toInt

structure Known (desk : Desk) : Prop where
  rests : desk.locked = false → desk.chip.running = none
  own : ∀ reading ∈ desk.returned, Own reading ∧ reading.started < desk.chip.started
  ordered : desk.returned.Pairwise fun earlier later => earlier.started < later.started

/-- The conversion of a read that has the lock is the last one that was started. -/
structure Latest (desk : Desk) (channel started : Nat) : Prop where
  locked : desk.locked = true
  channel : channel < 4
  last : started + 1 = desk.chip.started
  fresh : ∀ reading ∈ desk.returned, reading.started < started

def Knows (desk : Desk) : Place → Prop
  | .idle | .toClose => True
  | .waiting channel => channel < 4
  | .starting channel => desk.locked = true ∧ channel < 4 ∧ desk.chip.running = none
  | .polling channel started => Latest desk channel started ∧
    (desk.chip.running = some ⟨started, configWord channel⟩ ∨ (desk.chip.running = none ∧
      ∃ code, desk.chip.result = some ⟨⟨started, configWord channel⟩, code⟩))
  | .fetching channel started => Latest desk channel started ∧ desk.chip.running = none ∧
    ∃ code, desk.chip.result = some ⟨⟨started, configWord channel⟩, code⟩
  | .closing => desk.locked = true ∧ desk.chip.running = none

theorem locked_of_inside (knows : Knows desk place) (inside : place.inside = true) : desk.locked = true := by
  cases place with
  | idle | waiting | toClose => cases inside
  | starting => exact knows.1
  | polling => exact knows.1.locked
  | fetching => exact knows.1.locked
  | closing => exact knows.1

theorem knows_outside (outside : place.inside = false) (knows : Knows desk place) : Knows after place := by
  cases place with
  | idle | toClose => trivial
  | waiting => exact knows
  | starting | polling | fetching | closing => cases outside

theorem Known.unlock (known : Known desk) (still : desk.chip.running = none) : Known desk.unlock where
  rests _ := still
  own := known.own
  ordered := known.ordered

theorem writeConfig_start {chip : Chip} {channel : Nat} (small : channel < 4) (rests : chip.running = none) :
    chip.writeConfig (configBytes channel) =
      { chip with started := chip.started + 1, running := some ⟨chip.started, configWord channel⟩ } := by
  obtain ⟨high, low, bytes, word, starts⟩ := configBytes_eq channel small
  rw [bytes]
  simp only [Chip.writeConfig, word, starts, rests, Option.isNone_none, Bool.and_self, ↓reduceIte]

theorem readStatus_ready {chip : Chip} : chip.readStatus &&& 0x80 ≠ 0 ↔ chip.running = none := by
  unfold Chip.readStatus
  cases chip.running <;> simp

theorem known_fetched {channel started : Nat} {code : BitVec 16} (known : Known desk)
    (latest : Latest desk channel started) (rests : desk.chip.running = none)
    (result : desk.chip.result = some ⟨⟨started, configWord channel⟩, code⟩) {high low : Nat}
    (read : desk.chip.readConversion = (high, low)) : Known { desk.unlock with
      returned := desk.returned ++ [⟨channel, started, signedWord high low, desk.chip.result⟩] } := by
  have value : signedWord high low = code.toInt := by
    have bytes : desk.chip.readConversion = (code.toNat / 256, code.toNat % 256) := by
      simp only [Chip.readConversion, Chip.code, result, Option.map_some, Option.getD_some]
    obtain ⟨rfl, rfl⟩ := Prod.mk.inj (read.symm.trans bytes)
    exact signedWord_bytes code
  constructor
  case rests => exact fun _ => rests
  case own =>
    intro reading member
    rcases List.mem_append.mp member with before | now
    · exact known.own reading before
    · obtain rfl := List.mem_singleton.mp now
      exact ⟨⟨latest.channel, code, result, value⟩, latest.last ▸ Nat.lt_succ_self started⟩
  case ordered =>
    refine List.pairwise_append.mpr ⟨known.ordered, List.pairwise_singleton _ _, ?_⟩
    intro earlier member later now
    obtain rfl := List.mem_singleton.mp now
    exact latest.fresh earlier member

theorem proceed_kept (known : Known desk) (knows : Knows desk place) (acted : proceed desk place = some (after, next)) :
    Known after ∧ Knows after next := by
  cases place with
  | idle => cases acted
  | waiting channel =>
    obtain ⟨free, same⟩ := Option.ite_none_left_eq_some.mp acted
    obtain ⟨rfl, rfl⟩ := Prod.mk.inj (Option.some.inj same)
    have rests := known.rests (Bool.eq_false_iff.mpr free)
    exact ⟨⟨fun _ => rests, known.own, known.ordered⟩, rfl, knows, rests⟩
  | starting channel =>
    obtain ⟨locked, small, rests⟩ := knows
    dsimp only [proceed] at acted
    split at acted
    next =>
      obtain ⟨rfl, rfl⟩ := Prod.mk.inj (Option.some.inj acted)
      rw [writeConfig_start small rests]
      refine ⟨⟨fun free => ?_, ?_, known.ordered⟩, ⟨locked, small, rfl, ?_⟩, .inl rfl⟩
      · rw [locked] at free
        cases free
      · intro reading member
        obtain ⟨own, before⟩ := known.own reading member
        exact ⟨own, Nat.lt_succ_of_lt before⟩
      · exact fun reading member => (known.own reading member).2
    next =>
      obtain ⟨rfl, rfl⟩ := Prod.mk.inj (Option.some.inj acted)
      exact ⟨known.unlock rests, trivial⟩
  | polling channel started =>
    dsimp only [proceed] at acted
    split at acted
    next ready =>
      obtain ⟨rfl, rfl⟩ := Prod.mk.inj (Option.some.inj acted)
      have rests := readStatus_ready.mp ready
      refine ⟨known, knows.1, rests, ?_⟩
      rcases knows.2 with runs | ⟨-, result⟩
      · rw [rests] at runs
        cases runs
      · exact result
    next =>
      obtain ⟨rfl, rfl⟩ := Prod.mk.inj (Option.some.inj acted)
      exact ⟨known, knows⟩
  | fetching channel started =>
    obtain ⟨latest, rests, code, result⟩ := knows
    obtain ⟨rfl, rfl⟩ := Prod.mk.inj (Option.some.inj acted)
    exact ⟨known_fetched known latest rests result rfl, trivial⟩
  | toClose =>
    obtain ⟨free, same⟩ := Option.ite_none_left_eq_some.mp acted
    obtain ⟨rfl, rfl⟩ := Prod.mk.inj (Option.some.inj same)
    have rests := known.rests (Bool.eq_false_iff.mpr free)
    exact ⟨⟨fun _ => rests, known.own, known.ordered⟩, rfl, rests⟩
  | closing =>
    obtain ⟨rfl, rfl⟩ := Prod.mk.inj (Option.some.inj acted)
    exact ⟨⟨fun _ => knows.2, known.own, known.ordered⟩, trivial⟩

theorem kept (known : Known desk) (knows : Knows desk place) (calm : Calm desk taken)
    (acted : action desk place taken = some (after, next)) : Known after ∧ Knows after next := by
  cases taken with
  | read channel =>
    obtain ⟨-, same⟩ := Option.ite_none_right_eq_some.mp acted
    obtain ⟨rfl, rfl⟩ := Prod.mk.inj (Option.some.inj same)
    refine ⟨known, ?_⟩
    split
    next range =>
      show channel.toNat < 4
      omega
    next => trivial
  | close =>
    obtain ⟨-, same⟩ := Option.ite_none_right_eq_some.mp acted
    obtain ⟨rfl, rfl⟩ := Prod.mk.inj (Option.some.inj same)
    exact ⟨known, trivial⟩
  | proceed => exact proceed_kept known knows acted
  | fail =>
    cases place with
    | starting | polling | fetching | closing =>
      obtain ⟨rfl, rfl⟩ := Prod.mk.inj (Option.some.inj acted)
      exact ⟨known.unlock calm, trivial⟩
    | idle | waiting | toClose => cases acted
  | lost => exact calm.elim

/-- A thread that stays outside changes nothing, and one goes inside only while the lock is free. -/
theorem outside_action (acted : action desk place taken = some (after, next)) :
    place.inside = true ∨ (next.inside = true ∧ desk.locked = false) ∨ (next.inside = false ∧ after = desk) := by
  cases taken with
  | read channel =>
    obtain ⟨-, same⟩ := Option.ite_none_right_eq_some.mp acted
    obtain ⟨rfl, rfl⟩ := Prod.mk.inj (Option.some.inj same)
    refine .inr (.inr ⟨?_, rfl⟩)
    split <;> rfl
  | close =>
    obtain ⟨-, same⟩ := Option.ite_none_right_eq_some.mp acted
    obtain ⟨rfl, rfl⟩ := Prod.mk.inj (Option.some.inj same)
    exact .inr (.inr ⟨rfl, rfl⟩)
  | proceed =>
    cases place with
    | idle => cases acted
    | waiting | toClose =>
      obtain ⟨free, same⟩ := Option.ite_none_left_eq_some.mp acted
      obtain ⟨-, rfl⟩ := Prod.mk.inj (Option.some.inj same)
      exact .inr (.inl ⟨rfl, Bool.eq_false_iff.mpr free⟩)
    | starting | polling | fetching | closing => exact .inl rfl
  | fail =>
    cases place with
    | starting | polling | fetching | closing => exact .inl rfl
    | idle | waiting | toClose => cases acted
  | lost =>
    cases place with
    | starting => exact .inl rfl
    | idle | waiting | polling | fetching | toClose | closing => cases acted

structure Sound (crew : Crew Desk Place) : Prop where
  annotated : Crew.Annotated Known (fun desk _ place => Knows desk place) crew
  alone : Crew.Alone Place.inside crew

theorem Sound.act (sound : Sound crew) {thread : Nat} (calm : Calm crew.shared taken)
    (acted : crew.act action (thread, taken) = some final) : Sound final := by
  obtain ⟨place, after, next, found, possible, rfl⟩ := Crew.act_eq_some acted
  obtain ⟨known, knows⟩ := kept sound.annotated.shared (sound.annotated.places thread place found) calm possible
  have outside := outside_action possible
  have enters : next.inside = true →
      place.inside = true ∨ ∀ elsewhere ∈ crew.places, elsewhere.inside = false := by
    intro inside
    rcases outside with within | ⟨-, free⟩ | ⟨out, -⟩
    · exact .inl within
    · refine .inr fun elsewhere member => ?_
      obtain ⟨other, seen⟩ := List.getElem?_of_mem member
      refine Bool.eq_false_iff.mpr fun occupied => ?_
      have locked := locked_of_inside (sound.annotated.places other elsewhere seen) occupied
      rw [free] at locked
      cases locked
    · rw [inside] at out
      cases out
  refine ⟨sound.annotated.set found known knows ?_, sound.alone.set found enters⟩
  intro other elsewhere different seen knew
  rcases outside with within | ⟨inside, -⟩ | ⟨-, rfl⟩
  · exact knows_outside (sound.alone.outside found within different seen) knew
  · exact knows_outside (sound.alone.others found enters (by rw [inside, Bool.or_true]) different seen) knew
  · exact knew

theorem Sound.complete (sound : Sound crew) {code : BitVec 16} {chip : Chip}
    (completed : crew.shared.chip.complete code = some chip) :
    Sound ⟨{ crew.shared with chip := chip }, crew.places⟩ := by
  obtain ⟨conversion, runs, rfl⟩ := Option.map_eq_some_iff.mp completed
  have known := sound.annotated.shared
  refine ⟨⟨⟨fun _ => rfl, known.own, known.ordered⟩, fun thread place found => ?_⟩, sound.alone⟩
  have knew := sound.annotated.places thread place found
  cases place with
  | idle | toClose => trivial
  | waiting => exact knew
  | starting channel =>
    obtain ⟨-, -, rests⟩ := knew
    rw [rests] at runs
    cases runs
  | polling channel started =>
    obtain ⟨latest, running | ⟨rests, -⟩⟩ := knew
    · obtain rfl := Option.some.inj (runs.symm.trans running)
      exact ⟨⟨latest.locked, latest.channel, latest.last, latest.fresh⟩, .inr ⟨rfl, code, rfl⟩⟩
    · rw [rests] at runs
      cases runs
  | fetching channel started =>
    obtain ⟨-, rests, -⟩ := knew
    rw [rests] at runs
    cases runs
  | closing =>
    rw [knew.2] at runs
    cases runs

theorem sound_run {threads : Nat} (run : Reaches step Unabandoned (initial threads) crew) : Sound crew := by
  refine run.invariant ?_ fun before event after _ calm stepped sound => ?_
  · have rests : ∀ place ∈ (initial threads).places, place = .idle := fun _ member => List.eq_of_mem_replicate member
    refine ⟨Crew.Annotated.resting rests ⟨fun _ => rfl, ?_, .nil⟩ fun _ => trivial, Crew.Alone.resting rests rfl⟩
    exact fun _ absent => (List.not_mem_nil absent).elim
  · cases event with
    | act thread taken => exact sound.act calm stepped
    | complete code =>
      obtain ⟨chip, completed, rfl⟩ := Option.map_eq_some_iff.mp stepped
      exact sound.complete completed

structure Faithful (reading : Reading) : Prop where
  converted : ∃ sample, reading.sample = some sample ∧ sample.conversion.number = reading.started ∧
    muxOf sample.conversion.config = 4 + reading.channel ∧
    pgaOf sample.conversion.config = pgaByChannel reading.channel / 0x200 ∧ reading.raw = sample.code.toInt

/-- However the threads take turns, a read returns the conversion of its own channel that it has started
itself, and no conversion is returned twice. -/
theorem reads_own_channel {threads : Nat} (run : Reaches step Unabandoned (initial threads) crew) :
    (∀ reading ∈ crew.shared.returned, Faithful reading) ∧ (crew.shared.returned.map Reading.started).Nodup := by
  have known := (sound_run run).annotated.shared
  constructor
  · intro reading member
    obtain ⟨small, code, sample, raw⟩ := (known.own reading member).1
    exact ⟨_, sample, rfl, muxOf_configWord _ small, pgaOf_configWord _ small, raw⟩
  · exact List.pairwise_map.mpr (known.ordered.imp Nat.ne_of_lt)

/-- Two threads ask for two channels at once; the second has to wait for the lock. -/
def twoReads : List Happening :=
  [.act 0 (.read 1), .act 1 (.read 2), .act 0 .proceed, .act 0 .proceed, .act 0 .proceed, .complete 0x1234,
    .act 0 .proceed, .act 0 .proceed, .act 1 .proceed, .act 1 .proceed, .complete 0xFFFE, .act 1 .proceed,
    .act 1 .proceed]

theorem reads_own_channel_two : ∃ crew, play step Unabandoned (initial 2) twoReads = some crew ∧
    crew.shared.returned.map Reading.raw = [0x1234, -2] ∧ ∀ reading ∈ crew.shared.returned, Faithful reading := by
  have plays : (play step Unabandoned (initial 2) twoReads).any
      (fun crew => crew.shared.returned.map Reading.raw = [0x1234, -2]) = true := by decide +kernel
  obtain ⟨crew, played, raws⟩ := (Option.any_eq_true _ _).mp plays
  exact ⟨crew, played, of_decide_eq_true raws, (reads_own_channel (reaches_play played)).1⟩

end Runs

end Wqm1.Sensing.Ads1115
