import Mathlib.Data.List.Chain
import Wqm1.Library.Events
import Wqm1.Radio.Region

/-! The inline pulse flow meter: a lifetime pulse count that is turned into gallons at every
read, over restarts and bucket tests. -/

set_option autoImplicit false

namespace Wqm1.Sensing

open Wqm1.Library.Events

/-- Python's `round` to a number of decimals. -/
def roundTo (decimals : Nat) (value : Rat) : Rat := Radio.roundHalfEven (value * 10 ^ decimals) / 10 ^ decimals

theorem abs_roundTo_three_sub (value : Rat) : |roundTo 3 value - value| ≤ 1 / 2000 := by
  have near := Radio.abs_round_sub (value * 10 ^ 3)
  unfold roundTo
  rw [abs_le] at near ⊢
  constructor <;> linarith

theorem roundTo_mono (decimals : Nat) {small large : Rat} (less : small ≤ large) :
    roundTo decimals small ≤ roundTo decimals large := by
  have positive : (0 : Rat) < 10 ^ decimals := by positivity
  have scaled : small * 10 ^ decimals ≤ large * 10 ^ decimals := by gcongr
  have rounded : (Radio.roundHalfEven (small * 10 ^ decimals) : Rat) ≤
      Radio.roundHalfEven (large * 10 ^ decimals) := by
    exact_mod_cast Radio.roundHalfEven_mono scaled
  exact (div_le_div_iff_of_pos_right positive).mpr rounded

/-- What a read says about the rate. -/
inductive FlowRate where
  | ok (gpm : Rat)
  | outOfRange (gpm : Rat)
deriving DecidableEq

/-- The rate is absent from the first sample after a start. -/
structure FlowReading where
  flowTotalGal : Rat
  flowRateGpm : Option FlowRate
deriving DecidableEq

structure PulseFlowMeter where
  kPpg : Rat
  count : Nat
  lastReadCount : Nat
  lastReadAt : Option Rat := none
deriving DecidableEq

namespace PulseFlowMeter

def defaultKPpg : Rat := 17034 / 10
def rateMaxGpm : Rat := 500

/-- The constructor, with the count and the calibration that the last run left behind. -/
def new (kPpg : Rat) (initialCount : Int) : PulseFlowMeter :=
  let count := (max 0 initialCount).toNat
  { kPpg := if 0 < kPpg then kPpg else defaultKPpg, count, lastReadCount := count }

def onEdge (meter : PulseFlowMeter) : PulseFlowMeter := { meter with count := meter.count + 1 }

/-- A K-factor that is not positive is a `ValueError`. -/
def setCalibration (meter : PulseFlowMeter) (kPpg : Rat) : Option PulseFlowMeter :=
  if kPpg ≤ 0 then none else some { meter with kPpg }

/-- The rate over the time since the last read, if there was one. -/
def rate (meter : PulseFlowMeter) (now : Rat) : Option Rat :=
  match meter.lastReadAt with
  | none => none
  | some last =>
    if last < now then
      some (((meter.count : Rat) - meter.lastReadCount) / meter.kPpg / ((now - last) / 60))
    else none

def readDetailed (meter : PulseFlowMeter) (now : Rat) : FlowReading × PulseFlowMeter :=
  let flowRateGpm := (meter.rate now).map fun rate =>
    if rateMaxGpm < rate then .outOfRange rate else .ok (roundTo 3 rate)
  ({ flowTotalGal := roundTo 3 (meter.count / meter.kPpg), flowRateGpm },
    { meter with lastReadCount := meter.count, lastReadAt := some now })

theorem new_kPpg_pos (kPpg : Rat) (initialCount : Int) : 0 < (new kPpg initialCount).kPpg := by
  unfold new
  dsimp only
  split
  next positive => exact positive
  next => decide +kernel

end PulseFlowMeter

/-- `CalibrationManager.calibrate_flow`: the K-factor of a bucket test that is stored. A bucket
or a count that is not positive is a `ValueError`. -/
def calibrateFlow (knownGal : Rat) (pulses : Int) : Option Rat :=
  if knownGal ≤ 0 ∨ pulses ≤ 0 then none else some (roundTo 2 (pulses / knownGal))

/-- A reading with the register and the K-factor it was made from, the edges counted so far and
the pulses that restarts have lost so far. -/
structure FlowSample where
  reading : FlowReading
  count : Nat
  kPpg : Rat
  edges : Nat
  lost : Nat
deriving DecidableEq

/-- `flowPulseCount` is the persisted count and `flowKPpg` the K-factor in the calibration file.
`edges`, `lost` and `published`, the latest first, are for the statements only. -/
structure FlowSite where
  meter : PulseFlowMeter
  flowPulseCount : Option Int
  flowKPpg : Rat
  edges : Nat := 0
  lost : Nat := 0
  published : List FlowSample := []
deriving DecidableEq

/-- A bucket test writes the calibration file, unless the write fails; the driver takes the
K-factor from it at the next restart. -/
inductive FlowEvent where
  | edge
  | read (now : Rat) (persisted : Bool)
  | restart
  | setCalibration (kPpg : Rat)
  | calibrateFlow (knownGal : Rat) (pulses : Int) (saved : Bool)

namespace FlowSite

/-- The site at the start of a run of the firmware. -/
def booted (flowKPpg : Rat) (flowPulseCount : Option Int) : FlowSite :=
  { meter := .new flowKPpg (flowPulseCount.getD 0), flowPulseCount, flowKPpg }

def read (site : FlowSite) (now : Rat) (persisted : Bool) : FlowSite :=
  let (reading, meter) := site.meter.readDetailed now
  let sample := ⟨reading, site.meter.count, site.meter.kPpg, site.edges, site.lost⟩
  { site with
    meter, published := sample :: site.published
    flowPulseCount := if persisted then some site.meter.count else site.flowPulseCount }

def restart (site : FlowSite) : FlowSite :=
  let meter := PulseFlowMeter.new site.flowKPpg (site.flowPulseCount.getD 0)
  { site with meter, lost := site.lost + (site.meter.count - meter.count) }

def step (site : FlowSite) : FlowEvent → Option FlowSite
  | .edge => some { site with meter := site.meter.onEdge, edges := site.edges + 1 }
  | .read now persisted => some (site.read now persisted)
  | .restart => some site.restart
  | .setCalibration kPpg => (site.meter.setCalibration kPpg).map fun meter => { site with meter }
  | .calibrateFlow knownGal pulses saved =>
    (calibrateFlow knownGal pulses).map fun stored =>
      { site with flowKPpg := if saved then stored else site.flowKPpg }

end FlowSite

/-- The pulses counted from one sample to a later one, less those a restart lost. -/
def FlowSample.accrued (later earlier : FlowSample) : Rat :=
  ((later.edges : Rat) - earlier.edges) - ((later.lost : Rat) - earlier.lost)

/-- The published difference is the pulses between the samples at the K-factor in force. -/
structure Evidence (later earlier : FlowSample) : Prop where
  volume : |later.reading.flowTotalGal - earlier.reading.flowTotalGal - later.accrued earlier / later.kPpg| ≤ 1 / 1000
  grows : later.lost = earlier.lost → earlier.reading.flowTotalGal ≤ later.reading.flowTotalGal

/-- The same with a new K-factor applied to the whole register of the earlier sample. -/
structure Accrues (later earlier : FlowSample) : Prop where
  volume : |later.reading.flowTotalGal - earlier.reading.flowTotalGal -
    (later.accrued earlier / later.kPpg + (earlier.count / later.kPpg - earlier.count / earlier.kPpg))| ≤ 1 / 1000
  grows : later.kPpg ≤ earlier.kPpg ∨ earlier.count = 0 → later.lost = earlier.lost →
    earlier.reading.flowTotalGal ≤ later.reading.flowTotalGal

/-- The K-factor is the one of the earlier sample, or there was no pulse to apply it to. -/
def FlowSample.SameFactor (later earlier : FlowSample) : Prop := later.kPpg = earlier.kPpg ∨ earlier.count = 0

theorem Accrues.evidence {later earlier : FlowSample} (accrues : Accrues later earlier)
    (same : later.SameFactor earlier) : Evidence later earlier where
  volume := by
    have unchanged : (earlier.count : Rat) / later.kPpg - earlier.count / earlier.kPpg = 0 := by
      obtain factor | empty := same
      · rw [factor, sub_self]
      · rw [empty, Nat.cast_zero, zero_div, zero_div, sub_self]
    have volume := accrues.volume
    rw [unchanged, add_zero] at volume
    exact volume
  grows := accrues.grows (same.imp_left le_of_eq)

/-- A sample of a site whose register began the run at `counted`. -/
structure FlowSample.Sound (counted : Nat) (sample : FlowSample) : Prop where
  positive : 0 < sample.kPpg
  total : sample.reading.flowTotalGal = roundTo 3 (sample.count / sample.kPpg)
  register : sample.count + sample.lost = counted + sample.edges

theorem FlowSample.Sound.accrues {counted : Nat} {later earlier : FlowSample} (sound : later.Sound counted)
    (before : earlier.Sound counted) (order : earlier.edges ≤ later.edges) : Accrues later earlier where
  volume := by
    have register : (later.count : Rat) + later.lost = counted + later.edges := by exact_mod_cast sound.register
    have first : (earlier.count : Rat) + earlier.lost = counted + earlier.edges := by exact_mod_cast before.register
    have counts : later.accrued earlier = later.count - earlier.count := by
      unfold accrued
      linarith
    have near := abs_le.mp (abs_roundTo_three_sub (later.count / later.kPpg))
    have far := abs_le.mp (abs_roundTo_three_sub (earlier.count / earlier.kPpg))
    rw [sound.total, before.total, counts, sub_div, abs_le]
    constructor <;> linarith
  grows := by
    intro lowered sameLost
    have register := sound.register
    have first := before.register
    have counts : (earlier.count : Rat) ≤ later.count := by
      have more : earlier.count ≤ later.count := by omega
      exact_mod_cast more
    rw [sound.total, before.total]
    apply roundTo_mono
    have positive := sound.positive
    obtain less | empty := lowered
    · calc (earlier.count : Rat) / earlier.kPpg ≤ earlier.count / later.kPpg := by gcongr
        _ ≤ later.count / later.kPpg := by gcongr
    · rw [empty, Nat.cast_zero, zero_div]
      positivity

namespace FlowSite

/-- The register is what the run began with and the edges since, less what restarts lost. -/
structure Kept (counted : Nat) (site : FlowSite) : Prop where
  positive : 0 < site.meter.kPpg
  register : site.meter.count + site.lost = counted + site.edges
  persisted : (max 0 (site.flowPulseCount.getD 0)).toNat ≤ site.meter.count
  sound : ∀ sample ∈ site.published, sample.Sound counted
  past : ∀ sample ∈ site.published, sample.edges ≤ site.edges
  ordered : site.published.Pairwise fun later earlier => earlier.edges ≤ later.edges

theorem kept_booted (flowKPpg : Rat) (flowPulseCount : Option Int) :
    Kept (max 0 (flowPulseCount.getD 0)).toNat (booted flowKPpg flowPulseCount) where
  positive := PulseFlowMeter.new_kPpg_pos _ _
  register := rfl
  persisted := Nat.le_refl _
  sound := List.forall_mem_nil _
  past := List.forall_mem_nil _
  ordered := .nil

variable {counted : Nat} {site after : FlowSite}

theorem Kept.read (kept : Kept counted site) (now : Rat) (persisted : Bool) :
    Kept counted (site.read now persisted) where
  positive := kept.positive
  register := kept.register
  persisted := by
    cases persisted with
    | true => simp [FlowSite.read, PulseFlowMeter.readDetailed]
    | false => exact kept.persisted
  sound := List.forall_mem_cons.mpr ⟨⟨kept.positive, rfl, kept.register⟩, kept.sound⟩
  past := List.forall_mem_cons.mpr ⟨Nat.le_refl _, kept.past⟩
  ordered := List.pairwise_cons.mpr ⟨kept.past, kept.ordered⟩

theorem Kept.restart (kept : Kept counted site) : Kept counted site.restart where
  positive := PulseFlowMeter.new_kPpg_pos _ _
  register := by
    have register := kept.register
    have persisted := kept.persisted
    show (max 0 (site.flowPulseCount.getD 0)).toNat +
      (site.lost + (site.meter.count - (max 0 (site.flowPulseCount.getD 0)).toNat)) = counted + site.edges
    omega
  persisted := Nat.le_refl _
  sound := kept.sound
  past := kept.past
  ordered := kept.ordered

theorem Kept.step (kept : Kept counted site) {event : FlowEvent} (stepped : site.step event = some after) :
    Kept counted after := by
  cases event with
  | edge =>
    cases stepped
    have register := kept.register
    refine ⟨kept.positive, ?_, Nat.le_succ_of_le kept.persisted, kept.sound, ?_, kept.ordered⟩
    · show site.meter.count + 1 + site.lost = counted + (site.edges + 1)
      omega
    · intro sample mem
      exact Nat.le_succ_of_le (kept.past sample mem)
  | read now persisted =>
    cases stepped
    exact kept.read now persisted
  | restart =>
    cases stepped
    exact kept.restart
  | setCalibration kPpg =>
    obtain ⟨meter, set, rfl⟩ := Option.map_eq_some_iff.mp stepped
    unfold PulseFlowMeter.setCalibration at set
    split at set
    next => cases set
    next notNegative =>
      cases set
      exact ⟨not_le.mp notNegative, kept.register, kept.persisted, kept.sound, kept.past, kept.ordered⟩
  | calibrateFlow knownGal pulses saved =>
    obtain ⟨stored, _, rfl⟩ := Option.map_eq_some_iff.mp stepped
    exact ⟨kept.positive, kept.register, kept.persisted, kept.sound, kept.past, kept.ordered⟩

/-- Every total is the register at the K-factor in force, and any two of them differ by the
pulses between them and by what a new K-factor makes of the register. -/
theorem totals_accrue (flowKPpg : Rat) (flowPulseCount : Option Int) {site : FlowSite}
    (run : Reaches step anything (booted flowKPpg flowPulseCount) site) :
    (∀ sample ∈ site.published, sample.reading.flowTotalGal = roundTo 3 (sample.count / sample.kPpg)) ∧
      site.published.Pairwise Accrues := by
  have kept : Kept (max 0 (flowPulseCount.getD 0)).toNat site :=
    run.invariant (kept_booted flowKPpg flowPulseCount)
      fun _ _ _ _ _ stepped before => before.step stepped
  refine ⟨fun sample mem => (kept.sound sample mem).total, ?_⟩
  apply kept.ordered.imp_of_mem
  intro later earlier laterMem earlierMem order
  exact (kept.sound later laterMem).accrues (kept.sound earlier earlierMem) order

/-- A total is published with the K-factor of the total before it, unless that was made from an
empty register. -/
def keepsFactor (site : FlowSite) : FlowEvent → Prop
  | .read _ _ => ∀ last ∈ site.published.head?, site.meter.kPpg = last.kPpg ∨ last.count = 0
  | _ => True

theorem Kept.evidence (kept : Kept counted site) {event : FlowEvent} (permitted : keepsFactor site event)
    (stepped : site.step event = some after) (before : site.published.IsChain Evidence) :
    after.published.IsChain Evidence := by
  cases event with
  | edge | restart =>
    cases stepped
    exact before
  | read now persisted =>
    cases stepped
    have sound := (kept.read now persisted).sound _ List.mem_cons_self
    refine before.cons fun last head => ?_
    have mem : last ∈ site.published := List.mem_of_mem_head? head
    exact (sound.accrues (kept.sound last mem) (kept.past last mem)).evidence (permitted last head)
  | setCalibration kPpg | calibrateFlow knownGal pulses saved =>
    obtain ⟨_, _, rfl⟩ := Option.map_eq_some_iff.mp stepped
    exact before

/-- In a run in which no new K-factor is applied to a register that a total was made from, the
totals are evidence. -/
theorem totals_are_evidence (flowKPpg : Rat) (flowPulseCount : Option Int) {site : FlowSite}
    (run : Reaches step keepsFactor (booted flowKPpg flowPulseCount) site) : site.published.IsChain Evidence := by
  have held : Kept (max 0 (flowPulseCount.getD 0)).toNat site ∧ site.published.IsChain Evidence := by
    apply run.invariant
    · exact ⟨kept_booted flowKPpg flowPulseCount, .nil⟩
    · intro before event after _ permitted stepped held
      exact ⟨held.1.step stepped, held.1.evidence permitted stepped held.2⟩
  exact held.2

instance (site : FlowSite) : DecidablePred (keepsFactor site)
  | .read _ _ => inferInstanceAs (Decidable (∀ last ∈ site.published.head?, _))
  | .edge | .restart | .setCalibration _ | .calibrateFlow _ _ _ => inferInstanceAs (Decidable True)

/-- A bucket test at installation, before the first pulse; then five pulses that a restart loses. -/
def installed : List FlowEvent :=
  [.read 900 true, .calibrateFlow 1 200 true, .restart] ++ List.replicate 10 .edge ++ [.read 1000 true] ++
    List.replicate 5 .edge ++ [.read 1060 false, .setCalibration 200, .restart, .edge, .read 1120 true]

theorem totals_are_evidence_installed : ∃ site, play step keepsFactor (booted 100 none) installed = some site ∧
    site.published.map (·.reading.flowTotalGal) = [11 / 200, 3 / 40, 1 / 20, 0] ∧ site.published.IsChain Evidence := by
  have played : (play step keepsFactor (booted 100 none) installed).map
      (fun site => site.published.map (·.reading.flowTotalGal)) = some [11 / 200, 3 / 40, 1 / 20, 0] := by decide +kernel
  obtain ⟨site, run, totals⟩ := Option.map_eq_some_iff.mp played
  exact ⟨site, run, totals, totals_are_evidence 100 none (reaches_play run)⟩

/-- The bucket test of a unit whose register stands at 1000 gallons, and a reboot. -/
def recalibrated : List FlowEvent := [.read 1000 true, .calibrateFlow 5 10000 true, .restart, .read 1060 true]

theorem recalibrated_total_falls : ¬ ∀ (flowKPpg : Rat) (flowPulseCount : Option Int) (site : FlowSite),
    Reaches step anything (booted flowKPpg flowPulseCount) site → site.published.IsChain Evidence := by
  intro claim
  have played : (play step anything (booted PulseFlowMeter.defaultKPpg (some 1703400)) recalibrated).map
      (fun site => site.published.map fun sample => (sample.reading.flowTotalGal, sample.lost)) =
      some [(8517 / 10, 0), (1000, 0)] := by decide +kernel
  obtain ⟨site, run, totals⟩ := Option.map_eq_some_iff.mp played
  have chain := claim _ _ site (reaches_play run)
  obtain ⟨later, rest, published, last, earlier⟩ := List.map_eq_cons_iff.mp totals
  obtain ⟨earlier, start, remaining, first, -⟩ := List.map_eq_cons_iff.mp earlier
  obtain ⟨fallen, kept⟩ := Prod.mk.inj last
  obtain ⟨before, counted⟩ := Prod.mk.inj first
  rw [published, remaining] at chain
  have grows := (List.isChain_cons_cons.mp chain).1.grows (kept.trans counted.symm)
  rw [fallen, before] at grows
  exact absurd grows (by norm_num)

end FlowSite

end Wqm1.Sensing
