import Mathlib.Algebra.Order.Ring.Rat
import Mathlib.Tactic.Linarith
import Wqm1.Library.Events

/-! How far the clock of a reading can be trusted: NTP, a GPS time that agrees with it, or nothing. -/

set_option autoImplicit false

namespace Wqm1.Sensing.ClockSource

open Wqm1.Library.Events

/-- The 1st of September 2026 in seconds since 1970. -/
def earliestPlausibleUtc : Rat := 1788220800
def maxGpsSkewS : Rat := 300
def gpsTrustS : Rat := 6 * 3600
def ntpCacheS : Rat := 60

inductive Source where
  | ntp | gps | unsynced
deriving DecidableEq

inductive Reason where
  | tooEarly | skew
deriving DecidableEq

structure Correction where
  reason : Reason
  previous : Rat
  next : Rat
deriving DecidableEq

inductive Observed where
  | noGpsTime
  | ntp
  | set (correction : Correction)
  | setFailed (correction : Correction)
  | agree (offsetS : Rat)
deriving DecidableEq

structure ClockDiscipline where
  ntpCached : Option (Rat × Bool) := none
  gpsAgreedMono : Option Rat := none
  lastCorrection : Option Correction := none
  corrections : Nat := 0
deriving DecidableEq

def systemTimePlausible (now : Rat) : Bool := earliestPlausibleUtc ≤ now

namespace ClockDiscipline

/-- The answer of `ntp_synced` that is still good. -/
def cached (discipline : ClockDiscipline) (mono : Rat) : Option Bool :=
  (discipline.ntpCached.filter fun known => mono - known.1 < ntpCacheS).map Prod.snd

/-- `ntp_synced`; `reply` is what timedatectl answers where it is asked. -/
def ntpSynced (discipline : ClockDiscipline) (mono : Rat) (reply : Bool) : Bool × ClockDiscipline :=
  match discipline.cached mono with
  | some known => (known, discipline)
  | none => (reply, { discipline with ntpCached := some (mono, reply) })

/-- `observe_gps` after the question about NTP; `agreedMono` is the time at its end, and `works` whether
the clock can be set. -/
def observe (discipline : ClockDiscipline) (gpsUtc now agreedMono : Rat) (works : Bool) :
    Observed × ClockDiscipline :=
  let offsetS := gpsUtc - now
  if !systemTimePlausible now || maxGpsSkewS < |offsetS| then
    let correction := ⟨if systemTimePlausible now then .skew else .tooEarly, now, gpsUtc⟩
    if works then
      (.set correction, { discipline with
        corrections := discipline.corrections + 1
        lastCorrection := some correction
        gpsAgreedMono := some agreedMono })
    else (.setFailed correction, discipline)
  else (.agree offsetS, { discipline with gpsAgreedMono := some agreedMono })

def observeGps (discipline : ClockDiscipline) (gpsUtc : Option Rat) (now mono agreedMono : Rat) (reply works : Bool) :
    Observed × ClockDiscipline :=
  match gpsUtc with
  | none => (.noGpsTime, discipline)
  | some gpsUtc =>
    let (synced, asked) := discipline.ntpSynced mono reply
    if synced then (.ntp, asked) else asked.observe gpsUtc now agreedMono works

/-- `source`; `judged` is the time after the question about NTP. -/
def source (discipline : ClockDiscipline) (mono judged : Rat) (reply : Bool) : Source × ClockDiscipline :=
  let (synced, asked) := discipline.ntpSynced mono reply
  (if synced then .ntp
    else if asked.gpsAgreedMono.any fun agreed => judged - agreed < gpsTrustS then .gps
    else .unsynced, asked)

end ClockDiscipline

section Runs

/-- A GPS time that the clock agreed with or was set to. -/
structure Sight where
  began : Rat
  mono : Rat
  gpsUtc : Rat
  /-- The clock before it, and the clock that the sight leaves behind. -/
  before : Rat
  after : Rat
deriving DecidableEq

structure Stamp where
  source : Source
  began : Rat
  judged : Rat
  seen : List Sight
deriving DecidableEq

/-- The process that owns the clock. The lists are for the statements only: what timedatectl has said and
when, the GPS times that were taken up, the corrections and the verdicts. -/
structure Process where
  discipline : ClockDiscipline := {}
  mono : Rat := 0
  wall : Rat
  told : List (Rat × Bool) := []
  sights : List Sight := []
  stamps : List Stamp := []
deriving DecidableEq

inductive Event where
  | observe (gpsUtc : Option Rat) (reply : Bool) (took : Rat) (works : Bool)
  | stamp (reply : Bool) (took : Rat)
  | pass (seconds : Rat)
  /-- Something else sets the clock. -/
  | setClock (wall : Rat)
deriving DecidableEq

namespace Process

def pass (process : Process) (seconds : Rat) : Process :=
  { process with mono := process.mono + seconds, wall := process.wall + seconds }

/-- The question to timedatectl, which is put when the last answer is too old. -/
def note (process : Process) (reply : Bool) : List (Rat × Bool) :=
  if (process.discipline.cached process.mono).isSome then process.told else (process.mono, reply) :: process.told

def observeGps (process : Process) (gpsUtc : Option Rat) (reply : Bool) (took : Rat) (works : Bool) : Process :=
  let later := process.pass took
  let done := process.discipline.observeGps gpsUtc process.wall process.mono later.mono reply works
  let told := if gpsUtc.isSome then process.note reply else process.told
  match done.1 with
  | .set correction => { later with
      discipline := done.2
      wall := correction.next
      told := told
      sights := ⟨process.mono, later.mono, correction.next, process.wall, correction.next⟩ :: process.sights }
  | .agree offsetS => { later with
      discipline := done.2
      told := told
      sights := ⟨process.mono, later.mono, process.wall + offsetS, process.wall, process.wall⟩ :: process.sights }
  | .noGpsTime | .ntp | .setFailed _ => { later with discipline := done.2, told := told }

def stamp (process : Process) (reply : Bool) (took : Rat) : Process :=
  let later := process.pass took
  let done := process.discipline.source process.mono later.mono reply
  { later with
    discipline := done.2
    told := process.note reply
    stamps := ⟨done.1, process.mono, later.mono, process.sights⟩ :: process.stamps }

end Process

def step (process : Process) : Event → Option Process
  | .observe gpsUtc reply took works => if 0 ≤ took then some (process.observeGps gpsUtc reply took works) else none
  | .stamp reply took => if 0 ≤ took then some (process.stamp reply took) else none
  | .pass seconds => if 0 ≤ seconds then some (process.pass seconds) else none
  | .setClock wall => some { process with wall := wall }

def initial (wall : Rat) : Process := { wall := wall }

end Runs

section Warranted

variable {process after : Process} {told more : List (Rat × Bool)} {mono took : Rat} {reply synced works : Bool}

/-- timedatectl has given this answer within the last minute. -/
def Fresh (told : List (Rat × Bool)) (mono : Rat) (synced : Bool) : Prop :=
  ∃ moment, (moment, synced) ∈ told ∧ moment ≤ mono ∧ mono - moment < ntpCacheS

theorem Fresh.grow (fresh : Fresh told mono synced) (grows : told ⊆ more) : Fresh more mono synced := by
  obtain ⟨moment, member, past, recent⟩ := fresh
  exact ⟨moment, grows member, past, recent⟩

/-- A GPS time is taken up only without NTP; it sets a clock that cannot be right, and leaves one that agrees. -/
structure Sight.Sound (told : List (Rat × Bool)) (sight : Sight) : Prop where
  unsynced : Fresh told sight.began false
  clock : if systemTimePlausible sight.before ∧ |sight.gpsUtc - sight.before| ≤ maxGpsSkewS
    then sight.after = sight.before else sight.after = sight.gpsUtc

/-- Each verdict has its reason, and the weakest is given only where there is none for a better one. -/
def Stamp.Warranted (told : List (Rat × Bool)) (stamp : Stamp) : Prop :=
  match stamp.source with
  | .ntp => Fresh told stamp.began true
  | .gps => Fresh told stamp.began false ∧ ∃ sight ∈ stamp.seen, sight.Sound told ∧
      |sight.gpsUtc - sight.after| ≤ maxGpsSkewS ∧ stamp.judged - sight.mono < gpsTrustS
  | .unsynced => Fresh told stamp.began false ∧ ∀ sight ∈ stamp.seen, gpsTrustS ≤ stamp.judged - sight.mono

structure Known (process : Process) : Prop where
  cached : ∀ known, process.discipline.ntpCached = some known → known ∈ process.told ∧ known.1 ≤ process.mono
  agreed : process.discipline.gpsAgreedMono = process.sights.head?.map Sight.mono
  ordered : process.sights.Pairwise fun later earlier => earlier.mono ≤ later.mono
  past : ∀ sight ∈ process.sights, sight.mono ≤ process.mono
  sights : ∀ sight ∈ process.sights, sight.Sound process.told
  stamps : ∀ stamp ∈ process.stamps, stamp.Warranted process.told

theorem Sight.Sound.grow {sight : Sight} (sound : sight.Sound told) (grows : told ⊆ more) : sight.Sound more where
  unsynced := sound.unsynced.grow grows
  clock := sound.clock

theorem Sight.Sound.near {sight : Sight} (sound : sight.Sound told) :
    |sight.gpsUtc - sight.after| ≤ maxGpsSkewS := by
  have clock := sound.clock
  split at clock
  next agrees => rw [clock]; exact agrees.2
  next => rw [clock, sub_self, abs_zero]; unfold maxGpsSkewS; norm_num

theorem Stamp.Warranted.grow {stamp : Stamp} (warranted : stamp.Warranted told) (grows : told ⊆ more) :
    stamp.Warranted more := by
  unfold Stamp.Warranted at warranted ⊢
  split at warranted
  next => exact warranted.grow grows
  next =>
    obtain ⟨fresh, sight, member, sound, near⟩ := warranted
    exact ⟨fresh.grow grows, sight, member, sound.grow grows, near⟩
  next => exact ⟨warranted.1.grow grows, warranted.2⟩

theorem subset_note : process.told ⊆ process.note reply := by
  unfold Process.note
  split
  · exact fun _ => id
  · exact List.subset_cons_self _ _

/-- The answer about NTP is one that timedatectl gave within the last minute, and it is kept as such. -/
theorem ntpSynced_fresh (reply : Bool) (known : Known process) :
    Fresh (process.note reply) process.mono (process.discipline.ntpSynced process.mono reply).1 ∧
      ∀ kept, (process.discipline.ntpSynced process.mono reply).2.ntpCached = some kept →
        kept ∈ process.note reply ∧ kept.1 ≤ process.mono := by
  unfold ClockDiscipline.ntpSynced Process.note
  cases cached : process.discipline.cached process.mono with
  | some answer =>
    obtain ⟨kept, filtered, rfl⟩ := Option.map_eq_some_iff.mp cached
    obtain ⟨same, recent⟩ := Option.filter_eq_some_iff.mp filtered
    obtain ⟨member, past⟩ := known.cached kept same
    exact ⟨⟨kept.1, member, past, of_decide_eq_true recent⟩, known.cached⟩
  | none =>
    refine ⟨⟨process.mono, List.mem_cons_self, le_refl _, ?_⟩, ?_⟩
    · rw [sub_self]
      unfold ntpCacheS
      norm_num
    · rintro kept same
      obtain rfl := Option.some.inj same
      exact ⟨List.mem_cons_self, le_refl _⟩

theorem ntpSynced_agreed {discipline : ClockDiscipline} :
    (discipline.ntpSynced mono reply).2.gpsAgreedMono = discipline.gpsAgreedMono := by
  unfold ClockDiscipline.ntpSynced
  split <;> rfl

theorem known_initial (wall : Rat) : Known (initial wall) :=
  ⟨nofun, rfl, .nil, nofun, nofun, nofun⟩

theorem Known.pass (known : Known process) (later : 0 ≤ took) : Known (process.pass took) where
  cached kept same := ⟨(known.cached kept same).1, (known.cached kept same).2.trans (le_add_of_nonneg_right later)⟩
  agreed := known.agreed
  ordered := known.ordered
  past sight member := (known.past sight member).trans (le_add_of_nonneg_right later)
  sights := known.sights
  stamps := known.stamps

theorem Known.asked (known : Known process) (later : 0 ≤ took) (reply : Bool) :
    Known { process.pass took with
      discipline := (process.discipline.ntpSynced process.mono reply).2
      told := process.note reply } where
  cached kept same := by
    obtain ⟨member, past⟩ := (ntpSynced_fresh reply known).2 kept same
    exact ⟨member, past.trans (le_add_of_nonneg_right later)⟩
  agreed := ntpSynced_agreed.trans known.agreed
  ordered := known.ordered
  past := (known.pass later).past
  sights sight member := (known.sights sight member).grow subset_note
  stamps stamp member := (known.stamps stamp member).grow subset_note

theorem Known.see (known : Known process) {sight : Sight} {discipline : ClockDiscipline} {wall : Rat}
    (now : sight.mono = process.mono) (sound : sight.Sound process.told)
    (kept : discipline.ntpCached = process.discipline.ntpCached)
    (agreed : discipline.gpsAgreedMono = some sight.mono) :
    Known { process with discipline := discipline, wall := wall, sights := sight :: process.sights } where
  cached answer same := known.cached answer (kept.symm.trans same)
  agreed := agreed
  ordered := .cons (fun earlier member => (known.past earlier member).trans now.ge) known.ordered
  past := List.forall_mem_cons.mpr ⟨now.le, known.past⟩
  sights := List.forall_mem_cons.mpr ⟨sound, known.sights⟩
  stamps := known.stamps

theorem known_observe (known : Known process) (later : 0 ≤ took) (gpsUtc : Option Rat) :
    Known (process.observeGps gpsUtc reply took works) := by
  unfold Process.observeGps ClockDiscipline.observeGps
  cases gpsUtc with
  | none => exact known.pass later
  | some gpsUtc =>
    have asked := known.asked later reply
    have fresh := (ntpSynced_fresh reply known).1
    dsimp only [Option.isSome_some, ↓reduceIte]
    cases synced : (process.discipline.ntpSynced process.mono reply).1 with
    | true => exact asked
    | false =>
      rw [synced] at fresh
      unfold ClockDiscipline.observe
      dsimp only
      by_cases wrong : (!systemTimePlausible process.wall || decide (maxGpsSkewS < |gpsUtc - process.wall|)) = true
      · have clock : ¬(systemTimePlausible process.wall ∧ |gpsUtc - process.wall| ≤ maxGpsSkewS) := by
          rintro ⟨possible, near⟩
          simp [possible, not_lt.mpr near] at wrong
        simp only [wrong, ↓reduceIte]
        cases works with
        | true => exact asked.see rfl ⟨fresh, by rw [if_neg clock]⟩ rfl rfl
        | false => exact asked
      · have clock : systemTimePlausible process.wall ∧ |gpsUtc - process.wall| ≤ maxGpsSkewS := by
          simpa using wrong
        simp only [wrong, Bool.false_eq_true, ↓reduceIte]
        refine asked.see rfl ⟨fresh, ?_⟩ rfl rfl
        rw [if_pos (by simpa using clock)]

theorem known_stamp (known : Known process) (later : 0 ≤ took) : Known (process.stamp reply took) := by
  have asked := known.asked later reply
  have fresh := (ntpSynced_fresh reply known).1
  refine ⟨asked.cached, asked.agreed, asked.ordered, asked.past, asked.sights, ?_⟩
  refine List.forall_mem_cons.mpr ⟨?_, asked.stamps⟩
  unfold ClockDiscipline.source Stamp.Warranted
  dsimp only
  cases synced : (process.discipline.ntpSynced process.mono reply).1 with
  | true =>
    rw [synced] at fresh
    exact fresh
  | false =>
    rw [synced] at fresh
    have agreed : (process.discipline.ntpSynced process.mono reply).2.gpsAgreedMono =
      process.sights.head?.map Sight.mono := ntpSynced_agreed.trans known.agreed
    rw [agreed]
    cases seen : process.sights with
    | nil =>
      simp only [List.head?_nil, Option.map_none, Option.any_none, Bool.false_eq_true, ↓reduceIte]
      exact ⟨fresh, nofun⟩
    | cons sight earlier =>
      have ordered := known.ordered
      rw [seen] at ordered
      have first := known.sights sight (seen ▸ List.mem_cons_self)
      by_cases recent : (process.pass took).mono - sight.mono < gpsTrustS
      · simp only [List.head?_cons, Option.map_some, Option.any_some]
        simp only [Bool.false_eq_true, recent, decide_true, ↓reduceIte]
        exact ⟨fresh, sight, List.mem_cons_self, first.grow subset_note, first.near, recent⟩
      · simp only [List.head?_cons, Option.map_some, Option.any_some]
        simp only [Bool.false_eq_true, recent, decide_false, ↓reduceIte]
        refine ⟨fresh, List.forall_mem_cons.mpr ⟨not_lt.mp recent, fun older member => ?_⟩⟩
        have order := (List.pairwise_cons.mp ordered).1 older member
        linarith

/-- However the calls of the two workers come, the clock is set by others and NTP comes and goes: every
verdict about the clock has its reason. -/
theorem stamps_warranted {wall : Rat} (run : Reaches step anything (initial wall) process) :
    ∀ stamp ∈ process.stamps, stamp.Warranted process.told := by
  have known : Known process := by
    refine run.invariant (known_initial wall) fun before event after _ _ stepped known => ?_
    cases event with
    | observe gpsUtc reply took works =>
      obtain ⟨later, same⟩ := Option.ite_none_right_eq_some.mp stepped
      obtain rfl := Option.some.inj same
      exact known_observe known later gpsUtc
    | stamp reply took =>
      obtain ⟨later, same⟩ := Option.ite_none_right_eq_some.mp stepped
      obtain rfl := Option.some.inj same
      exact known_stamp known later
    | pass seconds =>
      obtain ⟨later, same⟩ := Option.ite_none_right_eq_some.mp stepped
      obtain rfl := Option.some.inj same
      exact known.pass later
    | setClock wall =>
      obtain rfl := Option.some.inj stepped
      exact ⟨known.cached, known.agreed, known.ordered, known.past, known.sights, known.stamps⟩
  exact known.stamps

/-- A unit without NTP that has started in 1970, sets its clock by GPS and loses the sky. -/
def darkUnit : List Event :=
  [.stamp false 0, .observe (some 1790000000) false 1 true, .stamp false 0, .pass 21600, .stamp false 0]

theorem stamps_warranted_darkUnit : ∃ process, play step anything (initial 12) darkUnit = some process ∧
    process.stamps.map Stamp.source = [.unsynced, .gps, .unsynced] ∧
    ∀ stamp ∈ process.stamps, stamp.Warranted process.told := by
  have plays : (play step anything (initial 12) darkUnit).any
      (fun process => process.stamps.map Stamp.source = [.unsynced, .gps, .unsynced]) = true := by decide +kernel
  obtain ⟨process, played, sources⟩ := (Option.any_eq_true _ _).mp plays
  exact ⟨process, played, of_decide_eq_true sources, stamps_warranted (reaches_play played)⟩

end Warranted

end Wqm1.Sensing.ClockSource
