import Wqm1.Radio.Sx1262

/-! What the chip is set to whenever it is told to transmit or to listen, over any use of the driver. -/

set_option autoImplicit false

namespace Wqm1.Radio.Sx1262

open Wqm1.Library Wqm1.Library.Prog

/-- What `init` leaves in the chip. -/
def initialSettings : List (UInt8 × Bytes) :=
  [(cmdSetRegulatorMode, [0x01]), (cmdSetDio3AsTcxoCtrl, [0x03, 0x00, 0x01, 0x40]), (cmdCalibrate, [0x7F]),
    (cmdCalibrateImage, [0xE1, 0xE9]), (cmdSetPacketType, [0x01]), (cmdSetDio2AsRfSwitchCtrl, [0x01]),
    (cmdSetPaConfig, [0x04, 0x07, 0x00, 0x01]), (cmdSetTxParams, [22, 0x04]), (cmdSetBufferBaseAddr, [0x00, 0x80])]

def bigEndian (word : Bytes) : Nat := word.foldl (fun value byte => 256 * value + byte.toNat) 0

namespace Chip

structure Prepared (chip : Chip) : Prop where
  settings : ∀ entry ∈ initialSettings, chip.settings entry.1 = some entry.2
  syncMsb : chip.registers regLoraSyncWordMsb = some 0x34
  syncLsb : chip.registers regLoraSyncWordLsb = some 0x44

/-- The frequency the synthesizer is set to, in Hz. -/
def carrier (chip : Chip) : Option Rat :=
  (chip.settings cmdSetRfFrequency).map fun word => bigEndian word * 32000000 / 2 ^ 25

/-- The chip is less than 1 Hz below the frequency, and its low data rate optimisation is on where a
symbol takes more than 16 ms. -/
structure Tuned (chip : Chip) (tuning : Tuning) : Prop where
  carrier : tuning.frequency < 4096000000 →
    ∃ carrier, chip.carrier = some carrier ∧ carrier ≤ tuning.frequency ∧
      tuning.frequency < carrier + 1
  modulation : chip.settings cmdSetModulationParams = some [tuning.sf, tuning.bw, 0x01,
    if 16 * (bwHz.lookup tuning.bw).getD 125000 < 1000 * 2 ^ tuning.sf.toNat then 1 else 0]

/-- The chip neither inverts the IQ of what it sends nor expects it inverted. -/
def standardIq (chip : Chip) : Bool :=
  (chip.registers regIqPolarity).elim false fun value => value &&& 0x04 != 0

def invertedIq (chip : Chip) : Bool :=
  (chip.registers regIqPolarity).elim false fun value => value &&& 0x04 == 0

end Chip

/-- The uplink on its own frequency, as uplinks are sent, with TxDone alone on DIO1. The rest of the chip is
set up where `init` returned. -/
structure Transmission.Right (sent : Transmission) : Prop where
  prepared : sent.ready = true → sent.chip.Prepared
  tuned : sent.chip.Tuned sent.tuning
  length : sent.payload.length ≤ 255
  packet : sent.chip.settings cmdSetPacketParams = some [0x00, 0x08, 0x00, .ofNat sent.payload.length, 0x01, 0x00]
  standardIq : sent.chip.standardIq = true
  payload : sent.chip.buffer.take sent.payload.length = sent.payload
  interrupts : sent.chip.settings cmdSetDioIrqParams = some [0x00, 0x01, 0x00, 0x01, 0x00, 0x00, 0x00, 0x00]
  unflagged : sent.chip.flagged = false

/-- The window where it was last tuned to, as downlinks are sent, with RxDone and Timeout on DIO1. -/
structure Listening.Right (heard : Listening) : Prop where
  prepared : heard.ready = true → heard.chip.Prepared
  tuned : ∀ tuning, heard.tuning = some tuning → heard.chip.Tuned tuning
  packet : heard.chip.settings cmdSetPacketParams = some [0x00, 0x08, 0x00, 0xFF, 0x00, 0x01]
  invertedIq : heard.chip.invertedIq = true
  interrupts : heard.chip.settings cmdSetDioIrqParams = some [0x02, 0x02, 0x02, 0x02, 0x00, 0x00, 0x00, 0x00]
  unflagged : heard.chip.flagged = false

section Words

variable {frequency word : Nat}

theorem frequencyWord_eq (low : frequency < 4096000000) :
    frequencyWord frequency = some ((frequency * 2 ^ 14 / 15625 : Nat) : Int) := by
  have whole : frequency * 2 ^ 25 * 15625 = frequency * 2 ^ 14 * 32000000 := by omega
  have reduced : ((frequency * 2 ^ 25 : Nat) : Rat) / (32000000 : Nat) = (frequency * 2 ^ 14 : Nat) / (15625 : Nat) := by
    rw [div_eq_div_iff (by norm_num) (by norm_num)]
    exact_mod_cast whole
  have below : ((frequency * 2 ^ 14 : Nat) : Rat) / (15625 : Nat) < 2 ^ 33 := by
    rw [div_lt_iff₀ (by norm_num)]
    exact_mod_cast (by omega : frequency * 2 ^ 14 < 2 ^ 33 * 15625)
  rw [frequencyWord, Double.quotient, reduced]
  exact Double.trunc_quotient (by decide) (by decide) (by decide) (by decide) below

theorem bigEndian_word32 (short : word < 2 ^ 32) : bigEndian (word32 word) = word := by
  simp only [bigEndian, word32, word24, List.foldl_cons, List.foldl_nil, UInt8.toNat_ofNat']
  omega

theorem bandwidth_known (bwCode : UInt8) :
    (bwHz.lookup bwCode).getD 125000 ∈ bwHz.map Prod.snd := by
  cases found : bwHz.lookup bwCode with
  | none => decide
  | some hz =>
    obtain ⟨before, after, split, -⟩ := List.lookup_eq_some_iff.mp found
    rw [split]
    simp

/-- No symbol time of the table is near the threshold. -/
theorem symbolTime_apart (sf : Nat) {hz : Nat} (known : hz ∈ bwHz.map Prod.snd) :
    16 * hz + 8 ≤ 1000 * 2 ^ sf ∨ 1000 * 2 ^ sf + 8 ≤ 16 * hz := by
  by_cases short : sf < 14
  · have checked : ∀ hz ∈ bwHz.map Prod.snd, ∀ sf < 14, 16 * hz + 8 ≤ 1000 * 2 ^ sf ∨ 1000 * 2 ^ sf + 8 ≤ 16 * hz := by
      decide
    exact checked hz known sf short
  · have most : ∀ hz ∈ bwHz.map Prod.snd, hz ≤ 500000 := by decide
    have least : 2 ^ 14 ≤ 2 ^ sf := Nat.pow_le_pow_right Nat.two_pos (by omega)
    have narrow := most hz known
    omega

theorem ldroFor_eq (sf bwCode : UInt8) :
    ldroFor sf bwCode =
      if 16 * (bwHz.lookup bwCode).getD 125000 < 1000 * 2 ^ sf.toNat then 1 else 0 := by
  have known := bandwidth_known bwCode
  unfold ldroFor
  generalize (bwHz.lookup bwCode).getD 125000 = hz at *
  have range : ∀ hz ∈ bwHz.map Prod.snd, 0 < hz ∧ hz ≤ 500000 := by decide
  obtain ⟨some, most⟩ := range hz known
  have positive : (0 : Rat) < hz := by exact_mod_cast some
  have bound : (hz : Rat) ≤ 500000 := by exact_mod_cast most
  rcases symbolTime_apart sf.toNat known with longer | shorter
  · have time : (16 * hz + 8 : Rat) ≤ 1000 * (2 ^ sf.toNat : Nat) := by exact_mod_cast longer
    have apart : (16 / 1000 : Rat) * (1 + 2 ^ (-50 : Int)) ≤ (2 ^ sf.toNat : Nat) / hz := by
      rw [le_div_iff₀ positive]
      norm_num at time ⊢
      linarith
    have normal : (2 : Rat) ^ (-1022 : Int) ≤ 16 / 1000 :=
      Double.least_normal_le.trans (by norm_num)
    rw [if_pos (Double.roundRat_lt_roundRat normal apart), if_pos (by omega)]
  · have time : (1000 * (2 ^ sf.toNat : Nat) + 8 : Rat) ≤ 16 * hz := by exact_mod_cast shorter
    have symbol : (1 : Rat) ≤ (2 ^ sf.toNat : Nat) := by exact_mod_cast Nat.one_le_two_pow
    have apart : ((2 ^ sf.toNat : Nat) / hz : Rat) * (1 + 2 ^ (-50 : Int)) ≤ 16 / 1000 := by
      rw [div_mul_eq_mul_div, div_le_iff₀ positive]
      norm_num at time ⊢
      linarith
    have normal : (2 : Rat) ^ (-1022 : Int) ≤ (2 ^ sf.toNat : Nat) / hz := by
      rw [le_div_iff₀ positive]
      calc (2 : Rat) ^ (-1022 : Int) * hz ≤ 2 ^ (-52 : Int) * 500000 :=
            mul_le_mul Double.least_normal_le bound positive.le (by norm_num)
        _ ≤ 1 := by norm_num
        _ ≤ (2 ^ sf.toNat : Nat) := symbol
    rw [if_neg (Double.roundRat_lt_roundRat normal apart).not_gt, if_neg (by omega)]

end Words

section Commands

variable {chip : Chip} {tuning : Tuning} {opcode other : UInt8} {params : Bytes} {value : UInt8}

namespace Chip

theorem settings_command_other (different : opcode ≠ other) :
    (chip.command (opcode :: params)).settings other = chip.settings other := by
  have kept : (chip.set opcode params).settings other = chip.settings other :=
    Function.update_of_ne different.symm ..
  unfold command
  dsimp only
  split
  · split <;> rfl
  split
  · split <;> rfl
  split
  · rfl
  split <;> exact kept

theorem settings_command_self
    (plain : opcode ≠ cmdWriteRegister ∧ opcode ≠ cmdWriteBuffer ∧ opcode ≠ cmdClrIrqStatus) :
    (chip.command (opcode :: params)).settings opcode = some params := by
  have written : (chip.set opcode params).settings opcode = some params := Function.update_self ..
  unfold command
  dsimp only
  rw [if_neg plain.1, if_neg plain.2.1, if_neg plain.2.2]
  split <;> exact written

theorem registers_command (plain : opcode ≠ cmdWriteRegister) :
    (chip.command (opcode :: params)).registers = chip.registers := by
  unfold command
  dsimp only
  rw [if_neg plain]
  split
  · split <;> rfl
  split
  · rfl
  split <;> rfl

theorem buffer_command (plain : opcode ≠ cmdWriteBuffer) :
    (chip.command (opcode :: params)).buffer = chip.buffer := by
  unfold command
  dsimp only
  split
  · split <;> rfl
  split
  · rfl
  split <;> rfl

theorem registers_writeRegister (chip : Chip) (value : UInt8) (address : Nat)
    (short : address < 2 ^ 16) :
    (chip.command (cmdWriteRegister :: word16 address ++ [value])).registers =
      Function.update chip.registers address (some value) := by
  have whole : (UInt8.ofNat (address / 2 ^ 8)).toNat * 256 + (UInt8.ofNat address).toNat = address := by
    simp only [UInt8.toNat_ofNat']
    omega
  change Function.update chip.registers
    ((UInt8.ofNat (address / 2 ^ 8)).toNat * 256 + (UInt8.ofNat address).toNat) _ = _
  rw [whole]

theorem Prepared.command (prepared : chip.Prepared)
    (plain : opcode ∉ cmdWriteRegister :: initialSettings.map Prod.fst) :
    (chip.command (opcode :: params)).Prepared := by
  obtain ⟨notRegister, unguarded⟩ := not_or.mp (List.mem_cons.not.mp plain)
  have registers : (chip.command (opcode :: params)).registers = chip.registers :=
    registers_command notRegister
  refine ⟨fun entry initial => ?_, registers ▸ prepared.syncMsb, registers ▸ prepared.syncLsb⟩
  have different : opcode ≠ entry.1 := by
    intro same
    rw [same] at unguarded
    exact unguarded (List.mem_map_of_mem initial)
  rw [settings_command_other different]
  exact prepared.settings entry initial

theorem Prepared.setIqPolarity (prepared : chip.Prepared) :
    (chip.command (cmdWriteRegister :: word16 regIqPolarity ++ [value])).Prepared := by
  have registers := registers_writeRegister chip value regIqPolarity (by decide)
  refine ⟨fun entry initial => ?_, ?_, ?_⟩
  · have guarded : cmdWriteRegister ∉ initialSettings.map Prod.fst := by decide
    have different : cmdWriteRegister ≠ entry.1 := by
      intro same
      rw [same] at guarded
      exact guarded (List.mem_map_of_mem initial)
    rw [List.cons_append, settings_command_other different]
    exact prepared.settings entry initial
  · rw [registers, Function.update_of_ne (by decide)]
    exact prepared.syncMsb
  · rw [registers, Function.update_of_ne (by decide)]
    exact prepared.syncLsb

theorem Tuned.command (tuned : chip.Tuned tuning) (frequency : opcode ≠ cmdSetRfFrequency)
    (modulation : opcode ≠ cmdSetModulationParams) :
    (chip.command (opcode :: params)).Tuned tuning := by
  refine ⟨fun low => ?_, (settings_command_other modulation).trans tuned.modulation⟩
  unfold Chip.carrier
  rw [settings_command_other frequency]
  exact tuned.carrier low

/-- The two commands of a tuning. -/
theorem tuned_commands {freqReg : Int} (found : frequencyWord tuning.frequency = some freqReg) :
    ((chip.command (cmdSetRfFrequency :: word32 freqReg)).command
      (cmdSetModulationParams :: tuning.modulation)).Tuned tuning := by
  constructor
  · intro low
    rw [frequencyWord_eq low] at found
    cases found
    unfold carrier
    rw [settings_command_other (by decide), settings_command_self (by decide), Option.map_some,
      bigEndian_word32 (by omega)]
    have parts := Nat.div_add_mod (tuning.frequency * 2 ^ 14) 15625
    have rest := Nat.mod_lt (tuning.frequency * 2 ^ 14) (show 0 < 15625 by decide)
    generalize tuning.frequency * 2 ^ 14 / 15625 = word at *
    have above : (15625 * word : Rat) ≤ tuning.frequency * 2 ^ 14 := by exact_mod_cast (by omega)
    have below : (tuning.frequency * 2 ^ 14 : Rat) < 15625 * word + 15625 := by exact_mod_cast (by omega)
    refine ⟨_, rfl, ?_, ?_⟩
    · norm_num at above ⊢
      linarith
    · norm_num at below ⊢
      linarith
  · rw [settings_command_self (by decide), Tuning.modulation, ldroFor_eq]
    rfl

end Chip

theorem standard_bit :
    ∀ value : Fin 256, ((UInt8.ofFin value ||| 0x04) &&& 0x04 != 0) = true := by decide +kernel

theorem inverted_bit :
    ∀ value : Fin 256, ((UInt8.ofFin value &&& ~~~0x04) &&& 0x04 == 0) = true := by decide +kernel

end Commands

/-- Everything recorded is right, and the chip is as the driver takes it to be. -/
structure Sound (driver : Driver) : Prop where
  aired : ∀ sent ∈ driver.aired, sent.Right
  listened : ∀ heard ∈ driver.listened, heard.Right
  prepared : driver.ready = true → driver.chip.Prepared
  tuned : ∀ tuning, driver.tuned = some tuning → driver.chip.Tuned tuning

section Steps

variable {driver : Driver} {chip : Chip} {opcode : UInt8} {params : Bytes}

def Driver.withChip (driver : Driver) (chip : Chip) : Driver := { driver with chip }

/-- The command neither transmits nor listens. -/
def quiet (opcode : UInt8) : Bool := opcode != cmdSetTx && opcode != cmdSetRx

/-- The opcodes whose parameters `init` or a tuning has set. -/
def guarded : List UInt8 :=
  cmdSetRfFrequency :: cmdSetModulationParams :: cmdWriteRegister :: initialSettings.map Prod.fst

theorem transfer_withChip (still : quiet opcode = true) :
    (driver.withChip chip).transfer (opcode :: params) =
      driver.withChip (chip.command (opcode :: params)) := by
  have apart : opcode ≠ cmdSetTx ∧ opcode ≠ cmdSetRx := by simpa [quiet] using still
  simp [Driver.transfer, Driver.withChip, apart]

theorem Sound.withChip (sound : Sound driver) (prepared : driver.ready = true → chip.Prepared)
    (tuned : ∀ tuning, driver.tuned = some tuning → chip.Tuned tuning) :
    Sound (driver.withChip chip) :=
  ⟨sound.aired, sound.listened, prepared, tuned⟩

theorem Sound.command (sound : Sound (driver.withChip chip)) (opcode : UInt8) (params : Bytes)
    (unguarded : opcode ∉ guarded) :
    Sound (driver.withChip (chip.command (opcode :: params))) := by
  simp only [guarded, List.mem_cons, not_or] at unguarded
  obtain ⟨frequency, modulation, register, initial⟩ := unguarded
  refine ⟨sound.aired, sound.listened, fun ready => (sound.prepared ready).command ?_, fun tuning tuned =>
    (sound.tuned tuning tuned).command frequency modulation⟩
  exact fun listed => (List.mem_cons.mp listed).elim register initial

theorem xfer_spec {data : Bytes} (sound : Sound driver) (kept : Sound (driver.transfer data)) :
    (xfer data).Safe radio Sound (ends (fun _ after => after = driver.transfer data) Sound) driver := by
  refine Safe.inspectThen ?_
  split
  · refine Safe.invokeThen sound (fun answer _ => ?_) fun _ => sound
    cases answer with
    | some response => exact rfl
    | none => exact kept
  · exact sound

theorem waitBusy_spec (sound : Sound driver) :
    waitBusy.Safe radio Sound (ends (fun _ after => after = driver) Sound) driver :=
  safe_invokeLast sound (fun _ _ => rfl) fun _ => sound

theorem cmd_spec (sound : Sound driver) (kept : Sound (driver.transfer (opcode :: params))) :
    (cmd opcode params).Safe radio Sound (ends (fun _ => Sound) Sound) driver := by
  refine Safe.bind _ (xfer_spec sound kept) ?_
  rintro _ _ rfl
  refine Safe.bind _ (waitBusy_spec kept) ?_
  rintro _ _ rfl
  exact kept

theorem quietXfer_spec (sound : Sound (driver.withChip chip)) (still : quiet opcode = true)
    (kept : Sound (driver.withChip (chip.command (opcode :: params)))) :
    (xfer (opcode :: params)).Safe radio Sound
      (ends (fun _ after => after = driver.withChip (chip.command (opcode :: params))) Sound)
        (driver.withChip chip) := by
  rw [← transfer_withChip still] at kept ⊢
  exact xfer_spec sound kept

theorem cmdWait_spec (sound : Sound (driver.withChip chip)) (still : quiet opcode = true)
    (kept : Sound (driver.withChip (chip.command (opcode :: params)))) :
    (cmdWait opcode params).Safe radio Sound
      (ends (fun _ after => after = driver.withChip (chip.command (opcode :: params))) Sound)
        (driver.withChip chip) := by
  have waits {α : Type} (value : α) :
      (waitBusy >>= fun _ => pure value : Program α).Safe radio Sound
      (ends (fun _ after => after = driver.withChip (chip.command (opcode :: params))) Sound)
      (driver.withChip (chip.command (opcode :: params))) :=
    Safe.bind _ (waitBusy_spec kept) fun _ _ => id
  have sends : (cmd opcode params).Safe radio Sound
      (ends (fun _ after => after = driver.withChip (chip.command (opcode :: params))) Sound)
        (driver.withChip chip) := by
    refine Safe.bind _ (quietXfer_spec sound still kept) ?_
    rintro _ _ rfl
    exact waits ()
  refine Safe.bind _ sends ?_
  rintro _ _ rfl
  exact waits ()

theorem standby_spec (sound : Sound driver) :
    standby.Safe radio Sound (ends (fun _ => Sound) Sound) driver := by
  have kept : Sound (driver.withChip (driver.chip.command (cmdSetStandby :: [stdbyXosc]))) :=
    Sound.command sound _ _ (by decide)
  have specified : standby.Safe radio Sound (ends _ Sound) (driver.withChip driver.chip) :=
    cmdWait_spec sound (by decide) kept
  refine Safe.mono specified fun result after reached => ?_
  cases result with
  | none => exact reached
  | some value => exact (show after = _ from reached) ▸ kept

/-- What a tuning leaves as it was. -/
structure Retuned (driver : Driver) (tuning : Tuning) (after : Driver) : Prop where
  txCfg : after.txCfg = driver.txCfg
  payload : after.payload = driver.payload
  ready : after.ready = driver.ready
  tuned : after.tuned = some tuning
  settings : ∀ opcode, opcode ≠ cmdSetRfFrequency → opcode ≠ cmdSetModulationParams →
    after.chip.settings opcode = driver.chip.settings opcode
  registers : after.chip.registers = driver.chip.registers
  sound : Sound after

theorem tune_spec (sound : Sound driver) (tuning : Tuning) :
    (tune tuning).Safe radio Sound (ends (fun _ => Retuned driver tuning) Sound) driver := by
  have untuned : Sound (({ driver with tuned := none } : Driver).withChip driver.chip) :=
    ⟨sound.aired, sound.listened, sound.prepared, nofun⟩
  refine Safe.updateThen ?_
  unfold setFrequency
  cases found : frequencyWord tuning.frequency with
  | none => exact untuned
  | some freqReg =>
    have moved (ready : driver.ready = true) :
        (driver.chip.command (cmdSetRfFrequency :: word32 freqReg)).Prepared :=
      (sound.prepared ready).command (by decide)
    have modulated (ready : driver.ready = true) :
        ((driver.chip.command (cmdSetRfFrequency :: word32 freqReg)).command
        (cmdSetModulationParams :: tuning.modulation)).Prepared := (moved ready).command (by decide)
    have first : Sound (({ driver with tuned := none } : Driver).withChip
        (driver.chip.command (cmdSetRfFrequency :: word32 freqReg))) :=
      ⟨sound.aired, sound.listened, moved, nofun⟩
    refine Safe.bind _ (cmdWait_spec untuned (by decide) first) ?_
    rintro _ _ rfl
    have second : Sound (({ driver with tuned := none } : Driver).withChip
        ((driver.chip.command (cmdSetRfFrequency :: word32 freqReg)).command
          (cmdSetModulationParams :: tuning.modulation))) :=
      ⟨sound.aired, sound.listened, modulated, nofun⟩
    refine Safe.bind _ (cmdWait_spec first (by decide) second) ?_
    rintro _ _ rfl
    refine ⟨rfl, rfl, rfl, rfl, fun opcode frequency modulation => ?_, ?_, second.aired, second.listened, second.prepared, ?_⟩
    · exact (Chip.settings_command_other modulation.symm).trans
        (Chip.settings_command_other frequency.symm)
    · exact (Chip.registers_command (by decide)).trans (Chip.registers_command (by decide))
    · rintro _ ⟨⟩
      exact Chip.tuned_commands found

theorem setIqInverted_spec (sound : Sound (driver.withChip chip)) (inverted : Bool) :
    (setIqInverted inverted).Safe radio Sound (ends (fun _ after => Sound after ∧ ∃ value : UInt8,
      after = driver.withChip ((chip.command (cmdReadRegister :: word16 regIqPolarity ++ [0x00, 0x00])).command
        (cmdWriteRegister :: word16 regIqPolarity ++
          [if inverted then value &&& ~~~0x04 else value ||| 0x04]))) Sound) (driver.withChip chip) := by
  have read : Sound (driver.withChip
      (chip.command (cmdReadRegister :: word16 regIqPolarity ++ [0x00, 0x00]))) := sound.command _ _ (by decide)
  unfold setIqInverted readRegister
  refine Safe.bind (fun _ after => after = driver.withChip
      (chip.command (cmdReadRegister :: word16 regIqPolarity ++ [0x00, 0x00])))
    (Safe.bind _ (quietXfer_spec sound (by decide) read) ?_) ?_
  · rintro response _ rfl
    cases response[4]? with
    | none => exact read
    | some value => exact rfl
  · rintro value _ rfl
    generalize written : (if inverted then value &&& ~~~0x04 else value ||| 0x04) = byte
    have write : Sound (driver.withChip ((chip.command
        (cmdReadRegister :: word16 regIqPolarity ++ [0x00, 0x00])).command
          (cmdWriteRegister :: word16 regIqPolarity ++ [byte]))) :=
      read.withChip (fun ready => (read.prepared ready).setIqPolarity) fun tuning tuned =>
        (read.tuned tuning tuned).command (by decide) (by decide)
    unfold writeRegister
    refine Safe.bind _ (quietXfer_spec read (by decide) write) ?_
    rintro _ _ rfl
    refine Safe.bind _ (waitBusy_spec write) ?_
    rintro _ _ rfl
    exact ⟨write, value, written ▸ rfl⟩

end Steps

section Windows

variable {driver : Driver} {chip : Chip} {value : UInt8} {data : Bytes}

namespace Chip

/-- The commands of `send` after the tuning and before SetTx; `value` is what the polarity register
was read as. -/
def readyToSend (chip : Chip) (value : UInt8) (data : Bytes) : Chip :=
  (((((chip.command (cmdSetPacketParams :: uplinkPacket data.length)).command
    (cmdReadRegister :: word16 regIqPolarity ++ [0x00, 0x00])).command
    (cmdWriteRegister :: word16 regIqPolarity ++ [value ||| 0x04])).command
    (cmdWriteBuffer :: 0x00 :: data)).command
    (cmdSetDioIrqParams :: irqParams irqTxDone)).command [cmdClrIrqStatus, 0xFF, 0xFF]

/-- The commands of `receive` before SetRx. -/
def readyToListen (chip : Chip) (value : UInt8) : Chip :=
  ((((chip.command (cmdSetPacketParams :: downlinkPacket)).command
    (cmdReadRegister :: word16 regIqPolarity ++ [0x00, 0x00])).command
    (cmdWriteRegister :: word16 regIqPolarity ++ [value &&& ~~~0x04])).command
    (cmdSetDioIrqParams :: irqParams (irqRxDone ||| irqTimeout))).command [cmdClrIrqStatus, 0xFF, 0xFF]

theorem packet_readyToSend :
    (chip.readyToSend value data).settings cmdSetPacketParams = some (uplinkPacket data.length) := by
  simp (disch := decide) only [readyToSend, List.cons_append, settings_command_other, settings_command_self]

theorem interrupts_readyToSend :
    (chip.readyToSend value data).settings cmdSetDioIrqParams = some (irqParams irqTxDone) := by
  simp (disch := decide) only [readyToSend, settings_command_other, settings_command_self]

theorem standardIq_readyToSend : (chip.readyToSend value data).standardIq = true := by
  have registers :
      (chip.readyToSend value data).registers regIqPolarity = some (value ||| 0x04) := by
    simp (disch := decide) only [readyToSend, registers_command, registers_writeRegister, Function.update_self]
  rw [standardIq, registers]
  exact standard_bit value.toFin

theorem buffer_readyToSend : (chip.readyToSend value data).buffer.take data.length = data := by
  have written : (chip.readyToSend value data).buffer =
      data ++ ((chip.command (cmdSetPacketParams :: uplinkPacket data.length)).buffer.drop data.length) := by
    rw [readyToSend, buffer_command (by decide), buffer_command (by decide)]
    rfl
  rw [written, List.take_left]

theorem flagged_readyToSend : (chip.readyToSend value data).flagged = false := Bool.and_false _

theorem packet_readyToListen :
    (chip.readyToListen value).settings cmdSetPacketParams = some downlinkPacket := by
  simp (disch := decide) only [readyToListen, List.cons_append, settings_command_other, settings_command_self]

theorem interrupts_readyToListen :
    (chip.readyToListen value).settings cmdSetDioIrqParams =
      some (irqParams (irqRxDone ||| irqTimeout)) := by
  simp (disch := decide) only [readyToListen, settings_command_other, settings_command_self]

theorem invertedIq_readyToListen : (chip.readyToListen value).invertedIq = true := by
  have registers :
      (chip.readyToListen value).registers regIqPolarity = some (value &&& ~~~0x04) := by
    simp (disch := decide) only [readyToListen, registers_command, registers_writeRegister, Function.update_self]
  rw [invertedIq, registers]
  exact inverted_bit value.toFin

theorem flagged_readyToListen : (chip.readyToListen value).flagged = false := Bool.and_false _

end Chip

theorem Sound.send (sound : Sound driver) (data : Bytes) :
    (Sx1262.send data).Safe radio Sound (fun _ => Sound) driver := by
  unfold Sx1262.send
  split
  next => exact sound
  next short =>
  refine Safe.updateThen ?_
  have begun : Sound { driver with payload := data } :=
    ⟨sound.aired, sound.listened, sound.prepared, sound.tuned⟩
  refine Safe.bind _ (Safe.inspectThen (tune_spec begun driver.txCfg)) fun _ tuned retuned => ?_
  have packet : Sound (tuned.withChip (tuned.chip.command (cmdSetPacketParams :: uplinkPacket data.length))) :=
    Sound.command retuned.sound _ _ (by decide)
  refine Safe.bind _
    (cmdWait_spec (show Sound (tuned.withChip tuned.chip) from retuned.sound) (by decide) packet) ?_
  rintro _ _ rfl
  refine Safe.bind _ (setIqInverted_spec packet false) ?_
  rintro _ _ ⟨polarity, value, rfl⟩
  have written := polarity.command cmdWriteBuffer (0x00 :: data) (by decide)
  refine Safe.bind _ (quietXfer_spec polarity (by decide) written) ?_
  rintro _ _ rfl
  refine Safe.bind _ (waitBusy_spec written) ?_
  rintro _ _ rfl
  have armed := written.command cmdSetDioIrqParams (irqParams irqTxDone) (by decide)
  refine Safe.bind _ (cmdWait_spec written (by decide) armed) ?_
  rintro _ _ rfl
  have cleared := armed.command cmdClrIrqStatus [0xFF, 0xFF] (by decide)
  refine Safe.bind _ (cmdWait_spec armed (by decide) cleared) ?_
  rintro _ _ rfl
  have set : Sound ((tuned.withChip (tuned.chip.readyToSend value data)).transfer [cmdSetTx, 0x00, 0x00, 0x00]) := by
    have still := cleared.command cmdSetTx [0x00, 0x00, 0x00] (by decide)
    have payload : tuned.payload = data := retuned.payload
    subst payload
    refine ⟨fun sent recorded => ?_, still.listened, still.prepared, still.tuned⟩
    rcases List.mem_append.mp recorded with earlier | now
    · exact cleared.aired sent earlier
    · rw [List.mem_singleton.mp now]
      constructor
      · exact cleared.prepared
      · exact retuned.txCfg ▸ cleared.tuned _ retuned.tuned
      · exact Nat.not_lt.mp short
      · exact Chip.packet_readyToSend
      · exact Chip.standardIq_readyToSend
      · exact Chip.buffer_readyToSend
      · exact Chip.interrupts_readyToSend
      · exact Chip.flagged_readyToSend
  refine Safe.bind _ (cmd_spec cleared set) fun _ after sent => ?_
  refine Safe.invokeThen sent (fun done _ => ?_) fun _ => sent
  cases done with
  | true => exact sent
  | false => exact Safe.bind _ (standby_spec sent) fun _ _ => id

theorem xfer_keeps {opcode : UInt8} {params : Bytes} (sound : Sound driver)
    (still : quiet opcode = true)
    (unguarded : opcode ∉ guarded) :
    (xfer (opcode :: params)).Safe radio Sound (ends (fun _ => Sound) Sound) driver := by
  have kept : Sound (driver.withChip (driver.chip.command (opcode :: params))) :=
    Sound.command sound _ _ unguarded
  have specified :
      (xfer (opcode :: params)).Safe radio Sound (ends _ Sound) (driver.withChip driver.chip) :=
    quietXfer_spec sound still kept
  refine Safe.mono specified fun result after reached => ?_
  cases result with
  | none => exact reached
  | some value => exact (show after = _ from reached) ▸ kept

theorem waits {α : Type} {next : Bool → Program α} {after : Option α → Driver → Prop}
    (sound : Sound driver)
    (raised : ∀ driver, Sound driver → after none driver)
    (rest : ∀ waited, (next waited).Safe radio Sound after driver) :
    (waitBusy >>= next).Safe radio Sound after driver :=
  Safe.invokeThen sound (fun waited _ => rest waited) fun _ => raised driver sound

theorem Sound.readPacket (sound : Sound driver) :
    Sx1262.readPacket.Safe radio Sound (fun _ => Sound) driver := by
  have raised (driver : Driver) : Sound driver → Sound driver := id
  unfold Sx1262.readPacket
  refine Safe.bind _ (xfer_keeps sound (by decide) (by decide)) fun status asked sound => ?_
  refine waits sound raised fun _ => ?_
  dsimp only
  split
  next => exact sound
  next =>
  refine Safe.bind _ (xfer_keeps sound (by decide) (by decide)) fun rxData read sound => ?_
  refine waits sound raised fun _ => ?_
  refine Safe.bind (fun _ => Sound) ?_ fun rssi measured sound => ?_
  · refine Safe.bind _ (xfer_keeps sound (by decide) (by decide)) fun response answered sound => ?_
    refine waits sound raised fun _ => ?_
    exact ⟨sound.aired, sound.listened, sound.prepared, sound.tuned⟩
  · refine Safe.updateThen ?_
    refine Safe.bind _ (standby_spec ⟨sound.aired, sound.listened, sound.prepared, sound.tuned⟩) ?_
    exact fun _ _ sound => sound

theorem Sound.receive (sound : Sound driver) (timeoutS : Rat) :
    (Sx1262.receive timeoutS).Safe radio Sound (fun _ => Sound) driver := by
  unfold Sx1262.receive
  have packet :
      Sound (driver.withChip (driver.chip.command (cmdSetPacketParams :: downlinkPacket))) :=
    Sound.command sound _ _ (by decide)
  refine Safe.bind _
    (cmdWait_spec (show Sound (driver.withChip driver.chip) from sound) (by decide) packet) ?_
  rintro _ _ rfl
  refine Safe.bind _ (setIqInverted_spec packet true) ?_
  rintro _ _ ⟨polarity, value, rfl⟩
  have armed :=
    polarity.command cmdSetDioIrqParams (irqParams (irqRxDone ||| irqTimeout)) (by decide)
  refine Safe.bind _ (cmdWait_spec polarity (by decide) armed) ?_
  rintro _ _ rfl
  have cleared := armed.command cmdClrIrqStatus [0xFF, 0xFF] (by decide)
  refine Safe.bind _ (cmdWait_spec armed (by decide) cleared) ?_
  rintro _ _ rfl
  cases (Double.ofRat (timeoutS * 64000)).trunc with
  | none => exact cleared
  | some rxTimeout =>
  have set : Sound ((driver.withChip (driver.chip.readyToListen value)).transfer (cmdSetRx :: word24 rxTimeout)) := by
    have still := cleared.command cmdSetRx (word24 rxTimeout) (by decide)
    refine ⟨still.aired, fun heard recorded => ?_, still.prepared, still.tuned⟩
    rcases List.mem_append.mp recorded with earlier | now
    · exact cleared.listened heard earlier
    · rw [List.mem_singleton.mp now]
      exact ⟨cleared.prepared, cleared.tuned, Chip.packet_readyToListen, Chip.invertedIq_readyToListen,
        Chip.interrupts_readyToListen, Chip.flagged_readyToListen⟩
  refine Safe.bind (fun ticks after => ticks = rxTimeout ∧ after = _) ⟨rfl, rfl⟩ ?_
  rintro _ _ ⟨rfl, rfl⟩
  refine Safe.bind _ (cmd_spec cleared set) fun _ listening sound => ?_
  have gives (driver : Driver) (sound : Sound driver) :
      (do standby; pure none : Program (Option Bytes)).Safe radio Sound (fun _ => Sound) driver :=
    Safe.bind _ (standby_spec sound) fun _ _ => id
  refine Safe.invokeThen sound (fun woken _ => ?_) fun _ => sound
  cases woken with
  | false => exact gives listening sound
  | true =>
    refine Safe.bind (fun _ => Sound) ?_ fun irq checked sound => ?_
    · refine Safe.bind _
        (xfer_keeps sound (by decide) (by decide)) fun response answered sound => ?_
      exact waits sound (fun _ => id) fun _ => sound
    · split
      next => exact gives checked sound
      next => exact sound.readPacket

end Windows

section Initialisation

variable {driver : Driver} {entries : List (UInt8 × Bytes)} {registers : List (Nat × UInt8)}

/-- What `init` has set so far. -/
structure Initialising (entries : List (UInt8 × Bytes)) (registers : List (Nat × UInt8))
    (driver : Driver) : Prop where
  sound : Sound driver
  ready : driver.ready = false
  settings : ∀ entry ∈ entries, driver.chip.settings entry.1 = some entry.2
  registers : ∀ entry ∈ registers, driver.chip.registers entry.1 = some entry.2

namespace Initialising

theorem unready (initialising : Initialising entries registers driver) {chip : Chip}
    (tuned : ∀ tuning, driver.tuned = some tuning → chip.Tuned tuning) :
    Sound (driver.withChip chip) :=
  initialising.sound.withChip (fun ready => absurd (initialising.ready.symm.trans ready) (by decide)) tuned

/-- A command of `init` whose opcode is new. -/
theorem configure (initialising : Initialising entries registers driver) (opcode : UInt8)
    (params : Bytes)
    (plain : quiet opcode = true ∧ opcode ∉ [cmdSetRfFrequency, cmdSetModulationParams, cmdWriteRegister,
      cmdWriteBuffer, cmdClrIrqStatus]) (new : opcode ∉ entries.map Prod.fst) :
    (cmdWait opcode params).Safe radio Sound (ends (fun _ => Initialising ((opcode, params) :: entries) registers) Sound)
      driver := by
  obtain ⟨still, special⟩ := plain
  simp only [List.mem_cons, List.not_mem_nil, or_false, not_or] at special
  obtain ⟨frequency, modulation, register, buffer, clear⟩ := special
  have kept : Sound (driver.withChip (driver.chip.command (opcode :: params))) :=
    initialising.unready fun tuning tuned => (initialising.sound.tuned tuning tuned).command frequency modulation
  have specified :
      (cmdWait opcode params).Safe radio Sound (ends _ Sound) (driver.withChip driver.chip) :=
    cmdWait_spec initialising.sound still kept
  refine Safe.mono specified fun result after reached => ?_
  cases result with
  | none => exact reached
  | some value =>
    rw [show after = _ from reached]
    refine ⟨kept, initialising.ready, ?_, ?_⟩
    · rintro entry (_ | ⟨_, earlier⟩)
      · exact Chip.settings_command_self ⟨register, buffer, clear⟩
      · have different : opcode ≠ entry.1 := by
          rintro rfl
          exact new (List.mem_map_of_mem earlier)
        exact (Chip.settings_command_other different).trans (initialising.settings entry earlier)
    · intro entry earlier
      exact (congrFun (Chip.registers_command register) entry.1).trans
        (initialising.registers entry earlier)

theorem writeRegister (initialising : Initialising entries registers driver) (address : Nat)
    (value : UInt8)
    (short : address < 2 ^ 16) (new : address ∉ registers.map Prod.fst)
    (unset : cmdWriteRegister ∉ entries.map Prod.fst) :
    (Sx1262.writeRegister address value).Safe radio Sound
      (ends (fun _ => Initialising entries ((address, value) :: registers)) Sound) driver := by
  have kept : Sound (driver.withChip (driver.chip.command (cmdWriteRegister :: word16 address ++ [value]))) :=
    initialising.unready fun tuning tuned => (initialising.sound.tuned tuning tuned).command (by decide) (by decide)
  have specified :
      (xfer (cmdWriteRegister :: word16 address ++ [value])).Safe radio Sound (ends _ Sound)
      (driver.withChip driver.chip) := quietXfer_spec initialising.sound (by decide) kept
  refine Safe.bind _ specified ?_
  rintro _ _ rfl
  refine waits kept (fun _ => id) fun _ => ?_
  refine ⟨kept, initialising.ready, fun entry earlier => ?_, fun entry listed => ?_⟩
  · have different : cmdWriteRegister ≠ entry.1 := by
      intro same
      rw [same] at unset
      exact unset (List.mem_map_of_mem earlier)
    change (driver.chip.command (cmdWriteRegister :: (word16 address ++ [value]))).settings entry.1 = _
    rw [Chip.settings_command_other different]
    exact initialising.settings entry earlier
  · refine (congrFun (Chip.registers_writeRegister _ _ address short) entry.1).trans ?_
    rcases listed with _ | ⟨_, earlier⟩
    · exact Function.update_self ..
    · have different : entry.1 ≠ address := by
        rintro rfl
        exact new (List.mem_map_of_mem earlier)
      rw [Function.update_of_ne different]
      exact initialising.registers entry earlier

theorem applyTxConfig (initialising : Initialising entries registers driver)
    (apart : cmdSetRfFrequency ∉ entries.map Prod.fst ∧ cmdSetModulationParams ∉ entries.map Prod.fst) :
    Sx1262.applyTxConfig.Safe radio Sound (ends (fun _ => Initialising entries registers) Sound) driver := by
  refine Safe.inspectThen
    (Safe.mono (tune_spec initialising.sound driver.txCfg) fun result after reached => ?_)
  cases result with
  | none => exact reached
  | some value =>
    obtain ⟨-, -, ready, -, settings, same, sound⟩ := reached
    refine ⟨sound, ready.trans initialising.ready, fun entry earlier => ?_, same ▸ initialising.registers⟩
    have listed : entry.1 ∈ entries.map Prod.fst := List.mem_map_of_mem earlier
    rw [settings entry.1 (fun is => apart.1 (is ▸ listed)) fun is => apart.2 (is ▸ listed)]
    exact initialising.settings entry earlier

end Initialising

theorem claimAlert_spec {stable : Driver → Prop} (now : stable driver)
    (holding : ∀ driver, stable driver → Sound driver)
    (kept : ∀ driver alert, stable driver → stable { driver with alert }) :
    claimAlert.Safe radio Sound (ends (fun _ => stable) Sound) driver := by
  have claims (driver : Driver) (now : stable driver) : (do
      invoke (A := Call.Answer) .claimAlert
      update fun driver : Driver => ({ driver with alert := true }, ()) : Program Unit).Safe radio Sound
        (ends (fun _ => stable) Sound) driver :=
    Safe.invokeThen (holding driver now) (fun _ _ => kept driver true now) fun _ => holding driver now
  unfold claimAlert
  refine Safe.inspectThen ?_
  split
  · refine Safe.attemptThen (holding driver now) fun answer _ => Safe.updateThen ?_
    exact claims _ (kept driver false now)
  · exact claims driver now

theorem Sound.init (sound : Sound driver) :
    Sx1262.init.Safe radio Sound (fun _ => Sound) driver := by
  unfold Sx1262.init
  have unready : Sound { driver with ready := false, tuned := none } :=
    ⟨sound.aired, sound.listened, nofun, nofun⟩
  have begun : Initialising [] [] { driver with chip := {}, ready := false, tuned := none } :=
    ⟨⟨sound.aired, sound.listened, nofun, nofun⟩, rfl, nofun, nofun⟩
  refine Safe.updateThen (Safe.invokeThen unready (fun answer _ => ?_) fun _ => unready)
  cases answer with
  | none => exact begun.sound
  | some _ =>
  refine waits begun.sound (fun _ => id) fun free => ?_
  split
  next => exact begun.sound
  next =>
  refine Safe.bind _ (begun.configure _ _ (by decide) (by decide)) fun _ _ regulator => ?_
  refine Safe.bind _ (regulator.configure _ _ (by decide) (by decide)) fun _ _ tcxo => ?_
  refine Safe.bind _ (tcxo.configure _ _ (by decide) (by decide)) fun _ _ calibrated => ?_
  refine Safe.bind _ (calibrated.configure _ _ (by decide) (by decide)) fun _ _ image => ?_
  refine Safe.bind _ (image.configure _ _ (by decide) (by decide)) fun _ _ standby => ?_
  refine Safe.bind _ (standby.configure _ _ (by decide) (by decide)) fun _ _ packetType => ?_
  refine Safe.bind _ (packetType.configure _ _ (by decide) (by decide)) fun _ _ switched => ?_
  refine Safe.bind _ (switched.applyTxConfig (by decide)) fun _ _ tuned => ?_
  refine Safe.bind _ (tuned.configure _ _ (by decide) (by decide)) fun _ _ amplifier => ?_
  refine Safe.bind _ (amplifier.configure _ _ (by decide) (by decide)) fun _ _ power => ?_
  refine Safe.bind _ (power.writeRegister _ _ (by decide) (by decide) (by decide)) fun _ _ msb => ?_
  refine Safe.bind _ (msb.writeRegister _ _ (by decide) (by decide) (by decide)) fun _ _ lsb => ?_
  refine Safe.bind _ (lsb.configure _ _ (by decide) (by decide)) fun _ _ base => ?_
  refine Safe.bind _ (base.configure _ _ (by decide) (by decide)) fun _ _ armed => ?_
  refine Safe.bind _ (claimAlert_spec armed (fun _ still => still.sound) fun _ _ still =>
    ⟨⟨still.sound.aired, still.sound.listened, still.sound.prepared, still.sound.tuned⟩, still.ready, still.settings,
      still.registers⟩) fun _ done complete => ?_
  refine ⟨complete.sound.aired, complete.sound.listened, fun _ => ⟨fun entry initial => ?_, ?_, ?_⟩, complete.sound.tuned⟩
  · refine complete.settings entry (?_ : entry ∈ _)
    revert entry
    decide
  · exact complete.registers (regLoraSyncWordMsb, 0x34) (by decide)
  · exact complete.registers (regLoraSyncWordLsb, 0x44) (by decide)

end Initialisation

section Runs

variable {driver : Driver}

theorem Sound.close (sound : Sound driver) :
    Sx1262.close.Safe radio Sound (fun _ => Sound) driver := by
  have closes (driver : Driver) (sound : Sound driver) : (do
      let _ ← attempt (A := Call.Answer) .releaseGpio
      if ← inspect fun driver : Driver => driver.isOpen then
        invoke (A := Call.Answer) .closeSpi
        update fun driver : Driver => ({ driver with isOpen := false }, ()) : Program Unit).Safe radio Sound
          (fun _ => Sound) driver := by
    refine Safe.attemptThen sound fun answer _ => Safe.inspectThen ?_
    split
    · refine Safe.invokeThen sound (fun _ _ => ?_) fun _ => sound
      exact ⟨sound.aired, sound.listened, sound.prepared, sound.tuned⟩
    · exact sound
  unfold Sx1262.close
  refine Safe.inspectThen ?_
  split
  · refine Safe.attemptThen sound fun answer _ => Safe.updateThen (closes _ ?_)
    exact ⟨sound.aired, sound.listened, sound.prepared, sound.tuned⟩
  · exact closes driver sound

theorem Sound.job (sound : Sound driver) (job : Job) :
    job.program.Safe radio Sound (fun _ => Sound) driver := by
  cases job with
  | init => exact sound.init
  | setTxConfig tuning =>
    refine Safe.updateThen
      (Safe.inspectThen (Safe.mono (tune_spec ?_ tuning) fun result after reached => ?_))
    · exact ⟨sound.aired, sound.listened, sound.prepared, sound.tuned⟩
    · cases result with
      | none => exact reached
      | some value => exact reached.sound
  | setRxConfig tuning =>
    refine Safe.mono (tune_spec sound tuning) fun result after reached => ?_
    cases result with
    | none => exact reached
    | some value => exact reached.sound
  | send data => exact Safe.bind _ (safe_ends.mpr (sound.send data)) fun _ _ => id
  | receive timeoutS => exact Safe.bind _ (safe_ends.mpr (sound.receive timeoutS)) fun _ _ => id
  | close => exact sound.close

theorem sound_of_reaches {chip : Chip} {machine : Machine Driver Call.Answer}
    (run : radio.Reaches ⟨.new chip, none⟩ machine) : Sound machine.memory := by
  refine (System.invariant Sound Sound (fun _ => id) ?_ (fun job _ sound _ => sound.job job) (fun effect => nomatch effect)
    (fun _ sound _ => ?_) run).1
  · exact ⟨nofun, nofun, nofun, nofun⟩
  · exact ⟨sound.aired, sound.listened, nofun, nofun⟩

theorem transmissions_right {chip : Chip} {machine : Machine Driver Call.Answer}
    (run : radio.Reaches ⟨.new chip, none⟩ machine) : ∀ sent ∈ machine.memory.aired, sent.Right :=
  (sound_of_reaches run).aired

def answering : (call : Call) → Option call.Answer
  | .xfer2 _ => some (some (List.replicate 8 0x02))
  | .waitBusy | .awaitDio1 => some true
  | .reset => some (some ())
  | .claimAlert | .cancelAlert | .releaseGpio | .closeSpi => some ()

def answers (count : Nat) : List (Move Call.Answer Job Empty) :=
  List.replicate count (.reply answering)

/-- A window of the second kind between the setting of the uplink and the uplink. -/
def session : List (Move Call.Answer Job Empty) :=
  .start .init :: answers 46 ++ .start (.setTxConfig ⟨903900000, 10, 4⟩) :: answers 6 ++
    .start (.setRxConfig ⟨923300000, 12, 6⟩) :: answers 6 ++ .start (.receive (1 / 2)) :: answers 26 ++
    .start (.send [0x40, 0x01, 0x02]) :: answers 23

theorem reaches_session : radio.Reaches ⟨.new {}, none⟩ (radio.play ⟨.new {}, none⟩ session) :=
  System.reaches_play (by decide +kernel)

theorem transmissions_right_session : ∃ machine : Machine Driver Call.Answer,
    machine.memory.aired.map Transmission.ready = [true] ∧
      ∀ sent ∈ machine.memory.aired, sent.Right :=
  ⟨_, by decide +kernel, transmissions_right reaches_session⟩

theorem windows_right {chip : Chip} {machine : Machine Driver Call.Answer}
    (run : radio.Reaches ⟨.new chip, none⟩ machine) :
    ∀ heard ∈ machine.memory.listened, heard.Right :=
  (sound_of_reaches run).listened

theorem windows_right_session : ∃ machine : Machine Driver Call.Answer,
    machine.memory.listened.map Listening.ready = [true] ∧
      ∀ heard ∈ machine.memory.listened, heard.Right :=
  ⟨_, by decide +kernel, windows_right reaches_session⟩

end Runs

end Wqm1.Radio.Sx1262
