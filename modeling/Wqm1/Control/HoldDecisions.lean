import Wqm1.Control.HoldAgreement
import Mathlib.Data.List.DropRight

/-! The decisions of the irrigation hold against what its settings promise: it engages
after a run of tripping samples, and lets go after a run of clear ones or an unknown one. -/

set_option autoImplicit false

namespace Wqm1.Control

/-- One cycle with working relays; a missing suspended set stands for no news. -/
structure HoldSample where
  reading : CycleReading
  suspended : Option (List String)
  now : Rat
  wall : Rat

inductive SampleKind where
  | tripping
  | clear
  | unknown
deriving DecidableEq

structure Moment where
  kind : SampleKind
  now : Rat

namespace HoldConfig

/-- What a condition reads, unless its probe is suspended. -/
def reads (suspended : List String) (reading : CycleReading) (condition : Threshold) : Option Rat :=
  if condition.column ∈ suspended ∨
    ∃ sensor ∈ columnToSensor.lookup condition.column, sensor ∈ suspended then none
  else reading condition.column

/-- A sample is unknown where a condition cannot be read, whatever the others say. -/
def kind (cfg : HoldConfig) (suspended : List String) (reading : CycleReading) : SampleKind :=
  if ∃ condition ∈ cfg.thresholds, reads suspended reading condition = none then .unknown
  else if ∃ condition ∈ cfg.thresholds, ∃ value ∈ reads suspended reading condition,
      condition.op.holds value condition.threshold then .tripping
  else .clear

/-- The samples as they are judged, from a set of suspended sensors. -/
def moments (cfg : HoldConfig) : List String → List HoldSample → List Moment
  | _, [] => []
  | suspended, sample :: rest =>
    let known := sample.suspended.getD suspended
    ⟨cfg.kind known sample.reading, sample.now⟩ :: cfg.moments known rest

/-- The sample counts towards an engagement. -/
def trips (cfg : HoldConfig) (moment : Moment) : Bool :=
  moment.kind = .tripping || (moment.kind = .unknown && cfg.onFault = .hold)

/-- A run of clear samples that lasts for the release time, measured from its first sample. -/
def ClearRun (cfg : HoldConfig) (moments : List Moment) : Prop :=
  ∃ first last, moments.head? = some first ∧ moments.getLast? = some last ∧
    (∀ moment ∈ moments, moment.kind = .clear) ∧ cfg.releaseS ≤ last.now - first.now

/-- Something among the samples releases the hold. -/
def Released (cfg : HoldConfig) (moments : List Moment) : Prop :=
  (cfg.onFault = .release ∧ ∃ moment ∈ moments, moment.kind = .unknown) ∨
    ∃ before run after, moments = before ++ run ++ after ∧ cfg.ClearRun run

/-- A run of samples has engaged the hold, and nothing after it releases it. -/
def HoldsAfter (cfg : HoldConfig) (moments : List Moment) : Prop :=
  ∃ before run after, moments = before ++ run ++ after ∧ run.length = cfg.tripSamples ∧
    (∀ moment ∈ run, cfg.trips moment = true) ∧ ¬ cfg.Released after

theorem tripSamples_pos (settings : HoldSettings) : 0 < (fromSettings settings).tripSamples := by
  show 0 < (max 1 (if settings.tripSamples = 0 then 1 else settings.tripSamples)).toNat
  omega

variable {cfg : HoldConfig} {moments after : List Moment} {moment : Moment}

def streak (cfg : HoldConfig) (moments : List Moment) : List Moment := moments.rtakeWhile cfg.trips

def clearTail (moments : List Moment) : List Moment :=
  moments.rtakeWhile fun moment => moment.kind = .clear

theorem streak_of_trips (trips : cfg.trips moment = true) :
    cfg.streak (moments ++ [moment]) = cfg.streak moments ++ [moment] :=
  List.rtakeWhile_concat_pos _ _ _ trips

theorem streak_of_silent (silent : cfg.trips moment = false) :
    cfg.streak (moments ++ [moment]) = [] :=
  List.rtakeWhile_concat_neg _ _ _ (ne_true_of_eq_false silent)

theorem silent_of_clear (clear : moment.kind = .clear) : cfg.trips moment = false := by
  unfold trips
  rw [clear]
  rfl

theorem silent_of_release (release : cfg.onFault = .release) (unknown : moment.kind = .unknown) :
    cfg.trips moment = false := by
  unfold trips
  rw [unknown, release]
  rfl

/-- A sample that neither counts nor releases at once is clear. -/
theorem clear_of_silent (silent : cfg.trips moment = false)
    (stays : ¬ (moment.kind = .unknown ∧ cfg.onFault = .release)) : moment.kind = .clear := by
  unfold HoldConfig.trips at silent
  cases shown : moment.kind with
  | clear => rfl
  | tripping =>
    rw [shown] at silent
    cases silent
  | unknown =>
    cases mode : cfg.onFault with
    | release => exact absurd ⟨shown, mode⟩ stays
    | hold =>
      rw [shown, mode] at silent
      cases silent

theorem rtakeWhile_append_of_all {Value : Type} {holds : Value → Bool} (before : List Value)
    {run : List Value}
    (all : ∀ value ∈ run, holds value = true) :
    (before ++ run).rtakeWhile holds = before.rtakeWhile holds ++ run := by
  induction run using List.reverseRecOn with
  | nil => rw [List.append_nil, List.append_nil]
  | append_singleton run last ih =>
    have earlier := ih fun value member => all value (List.mem_append_left _ member)
    have current : holds last = true := all last (List.mem_append_right _ List.mem_cons_self)
    rw [← List.append_assoc, List.rtakeWhile_concat_pos _ _ _ current, earlier, List.append_assoc]

theorem rtakeWhile_append_of_stop {Value : Type} {holds : Value → Bool} {before : List Value}
    (stops : before.rtakeWhile holds = []) (run : List Value) :
    (before ++ run).rtakeWhile holds = run.rtakeWhile holds := by
  induction run using List.reverseRecOn with
  | nil => rw [List.append_nil, stops, List.rtakeWhile_nil]
  | append_singleton run last ih =>
    rw [← List.append_assoc, List.rtakeWhile_concat, List.rtakeWhile_concat, ih]

/-- The last sample stands after an engagement, or at its end. -/
theorem HoldsAfter.concat (holds : cfg.HoldsAfter (moments ++ [moment]))
    (positive : 0 < cfg.tripSamples) :
    (cfg.trips moment = true ∧ cfg.tripSamples ≤ (cfg.streak (moments ++ [moment])).length) ∨
      ∃ before run after, moments = before ++ run ++ after ∧ run.length = cfg.tripSamples ∧
        (∀ moment ∈ run, cfg.trips moment = true) ∧ ¬ cfg.Released (after ++ [moment]) := by
  obtain ⟨before, run, after, parts, long, all, kept⟩ := holds
  rcases List.eq_nil_or_concat after with none | ⟨after, last, ends⟩
  · subst none
    rw [List.append_nil] at parts
    left
    have counted : run.length ≤ (cfg.streak (moments ++ [moment])).length := by
      unfold streak
      rw [parts, rtakeWhile_append_of_all before all, List.length_append]
      omega
    refine ⟨?_, long ▸ counted⟩
    rcases List.eq_nil_or_concat run with none | ⟨run, last, ends⟩
    · rw [none, List.length_nil] at long
      omega
    · rw [ends, List.concat_eq_append, ← List.append_assoc] at parts
      rw [(List.append_singleton_inj.mp parts).2]
      exact all last
        (by rw [ends, List.concat_eq_append]; exact List.mem_append_right _ List.mem_cons_self)
  · right
    rw [ends, List.concat_eq_append, ← List.append_assoc] at parts
    obtain ⟨same, last⟩ := List.append_singleton_inj.mp parts
    refine ⟨before, run, after, same, long, all, ?_⟩
    rw [last, ← List.concat_eq_append, ← ends]
    exact kept

theorem ClearRun.clear {run : List Moment} (clear : cfg.ClearRun run) :
    ∀ moment ∈ run, moment.kind = .clear := by
  obtain ⟨first, last, _, _, all, _⟩ := clear
  exact all

theorem Released.concat (moment : Moment) (released : cfg.Released moments) :
    cfg.Released (moments ++ [moment]) := by
  rcases released with ⟨release, found, member, unknown⟩ | ⟨before, run, after, parts, clear⟩
  · exact .inl ⟨release, found, List.mem_append_left _ member, unknown⟩
  · exact .inr ⟨before, run, after ++ [moment], by rw [parts, List.append_assoc _ after], clear⟩

/-- What the last sample can release: it is unknown, or a clear run ends with it. -/
theorem Released.cases (released : cfg.Released (moments ++ [moment])) : cfg.Released moments ∨
    (cfg.onFault = .release ∧ moment.kind = .unknown) ∨
      ∃ before run, moments = before ++ run ∧ cfg.ClearRun (run ++ [moment]) := by
  rcases released with ⟨release, found, member, unknown⟩ | ⟨before, run, after, parts, clear⟩
  · rcases List.mem_append.mp member with earlier | last
    · exact .inl (.inl ⟨release, found, earlier, unknown⟩)
    · exact .inr (.inl ⟨release, List.mem_singleton.mp last ▸ unknown⟩)
  · rcases List.eq_nil_or_concat after with none | ⟨after, last, ends⟩
    · rw [none, List.append_nil] at parts
      rcases List.eq_nil_or_concat run with none | ⟨run, last, ends⟩
      · obtain ⟨_, _, first, _⟩ := clear
        rw [none] at first
        cases first
      · rw [ends, List.concat_eq_append, ← List.append_assoc] at parts
        obtain ⟨same, last⟩ := List.append_singleton_inj.mp parts
        rw [ends, List.concat_eq_append, ← last] at clear
        exact .inr (.inr ⟨before, run, same, clear⟩)
    · rw [ends, List.concat_eq_append, ← List.append_assoc] at parts
      exact .inl (.inr ⟨before, run, after, (List.append_singleton_inj.mp parts).1, clear⟩)

theorem not_holdsAfter_unknown (positive : 0 < cfg.tripSamples) (release : cfg.onFault = .release)
    (unknown : moment.kind = .unknown) : ¬ cfg.HoldsAfter (moments ++ [moment]) := by
  intro holds
  rcases holds.concat positive with ⟨trips, _⟩ | ⟨_, _, after, _, _, _, kept⟩
  · cases trips.symm.trans (silent_of_release release unknown)
  · exact kept (.inl ⟨release, moment, List.mem_append_right _ List.mem_cons_self, unknown⟩)

theorem holdsAfter_trips (positive : 0 < cfg.tripSamples) (trips : cfg.trips moment = true) :
    cfg.HoldsAfter (moments ++ [moment]) ↔
      cfg.HoldsAfter moments ∨ cfg.tripSamples ≤ (cfg.streak (moments ++ [moment])).length := by
  constructor
  · intro holds
    rcases holds.concat positive with ⟨_, long⟩ | ⟨before, run, after, parts, long, all, kept⟩
    · exact .inr long
    · exact .inl ⟨before, run, after, parts, long, all, fun released => kept (released.concat moment)⟩
  · rintro (⟨before, run, after, parts, long, all, kept⟩ | long)
    · refine ⟨before, run, after ++ [moment], by rw [parts, List.append_assoc _ after], long, all, fun released => ?_⟩
      rcases released.cases with earlier | ⟨release, unknown⟩ | ⟨_, run, _, calm⟩
      · exact kept earlier
      · cases trips.symm.trans (silent_of_release release unknown)
      · have clear := calm.clear moment (List.mem_append_right _ List.mem_cons_self)
        cases trips.symm.trans (silent_of_clear clear)
    · obtain ⟨before, parts⟩ := List.rtakeWhile_suffix cfg.trips (moments ++ [moment])
      let tail := cfg.streak (moments ++ [moment])
      refine ⟨before ++ tail.take (tail.length - cfg.tripSamples), tail.drop (tail.length - cfg.tripSamples), [],
        ?_, ?_, fun found member => List.mem_rtakeWhile_imp (List.mem_of_mem_drop member), ?_⟩
      · rw [List.append_nil, List.append_assoc, List.take_append_drop]
        exact parts.symm
      · rw [List.length_drop]
        show tail.length - (tail.length - cfg.tripSamples) = cfg.tripSamples
        have enough : cfg.tripSamples ≤ tail.length := long
        omega
      · rintro (⟨_, _, member, _⟩ | ⟨before, run, after, parts, _, _, first, _⟩)
        · cases member
        · have none : run = [] :=
            (List.append_eq_nil_iff.mp (List.append_eq_nil_iff.mp parts.symm).1).2
          rw [none] at first
          cases first

def clearSince (moments : List Moment) : Option Rat := (clearTail moments).head?.map Moment.now

theorem clearTail_concat (clear : moment.kind = .clear) :
    clearTail (moments ++ [moment]) = clearTail moments ++ [moment] :=
  List.rtakeWhile_concat_pos _ _ _ (decide_eq_true clear)

theorem clear_of_mem_clearTail {found : Moment} (member : found ∈ clearTail moments) :
    found.kind = .clear :=
  of_decide_eq_true (List.mem_rtakeWhile_imp (p := fun moment : Moment => decide (moment.kind = .clear)) member)

/-- No clear sample counts towards an engagement. -/
theorem clearTail_of_trips {run : List Moment} (some_sample : run ≠ [])
    (all : ∀ moment ∈ run, cfg.trips moment = true)
    (before : List Moment) : clearTail (before ++ run) = [] := by
  apply List.rtakeWhile_eq_nil_iff.mpr
  intro nonempty clear
  have last : (before ++ run).getLast nonempty ∈ run := by
    rw [List.getLast_append_of_ne_nil nonempty some_sample]
    exact List.getLast_mem some_sample
  have trips := all _ last
  unfold HoldConfig.trips at trips
  rw [of_decide_eq_true clear] at trips
  cases trips

theorem clearSince_of_trips (trips : cfg.trips moment = true) :
    clearSince (moments ++ [moment]) = none := by
  unfold clearSince
  rw [clearTail_of_trips (List.cons_ne_nil _ _) fun found member => List.mem_singleton.mp member ▸ trips]
  rfl

theorem clearSince_of_clear (clear : moment.kind = .clear) :
    clearSince (moments ++ [moment]) = some ((clearSince moments).getD moment.now) := by
  unfold clearSince
  rw [clearTail_concat clear]
  cases clearTail moments <;> rfl

/-- A clear sample releases a hold whose clear samples have lasted long enough. -/
theorem holdsAfter_clear (positive : 0 < cfg.tripSamples)
    (ordered : (moments ++ [moment]).Pairwise fun earlier later => earlier.now ≤ later.now)
    (clear : moment.kind = .clear) :
    cfg.HoldsAfter (moments ++ [moment]) ↔
      cfg.HoldsAfter moments ∧
        ∀ since ∈ clearSince (moments ++ [moment]), moment.now - since < cfg.releaseS := by
  constructor
  · intro holds
    rcases holds.concat positive with ⟨trips, _⟩ | ⟨before, run, after, parts, long, all, kept⟩
    · cases trips.symm.trans (silent_of_clear clear)
    · refine ⟨⟨before, run, after, parts, long, all, fun released => kept (released.concat moment)⟩, ?_⟩
      have some_sample : run ≠ [] := List.ne_nil_of_length_pos (long ▸ positive)
      have tail : clearTail (moments ++ [moment]) = clearTail (after ++ [moment]) := by
        rw [parts, List.append_assoc]
        exact rtakeWhile_append_of_stop (clearTail_of_trips some_sample all before) _
      obtain ⟨rest, suffix⟩ :=
        List.rtakeWhile_suffix (fun moment : Moment => decide (moment.kind = .clear)) (after ++ [moment])
      intro since began
      obtain ⟨first, head, same⟩ := Option.map_eq_some_iff.mp began
      refine not_le.mp fun lasted =>
        kept (.inr ⟨rest, clearTail (after ++ [moment]), [], ?_, first, moment, ?_, ?_, ?_, ?_⟩)
      · rw [List.append_nil]
        exact suffix.symm
      · rw [← tail]
        exact head
      · rw [clearTail_concat clear]
        exact List.getLast?_concat
      · exact fun found member => clear_of_mem_clearTail member
      · rw [same]
        exact lasted
  · rintro ⟨⟨before, run, after, parts, long, all, kept⟩, early⟩
    refine ⟨before, run, after ++ [moment], by rw [parts, List.append_assoc _ after], long, all, fun released => ?_⟩
    rcases released.cases with earlier | ⟨_, unknown⟩ | ⟨silence, calm, cut, first, last, head, ends, all, lasted⟩
    · exact kept earlier
    · rw [clear] at unknown
      cases unknown
    · obtain rfl : moment = last := Option.some.inj (List.getLast?_concat.symm.trans ends)
      have whole : moments ++ [moment] = (before ++ run ++ silence) ++ (calm ++ [moment]) := by
        rw [parts, cut]
        simp only [List.append_assoc]
      have tail : clearTail (moments ++ [moment]) =
          clearTail (before ++ run ++ silence) ++ (calm ++ [moment]) := by
        rw [whole]
        exact rtakeWhile_append_of_all _ fun found member => decide_eq_true (all found member)
      have inCalm : first ∈ calm ++ [moment] := List.mem_of_head? head
      rw [whole] at ordered
      have later := (List.pairwise_append.mp ordered).2.2
      unfold clearSince at early
      rw [tail] at early
      cases began : clearTail (before ++ run ++ silence) with
      | nil =>
        rw [began, List.nil_append, head] at early
        exact absurd (early first.now rfl) (not_lt.mpr lasted)
      | cons oldest rest =>
        rw [began] at early
        have member : oldest ∈ before ++ run ++ silence :=
          (List.rtakeWhile_suffix _ _).mem (began ▸ List.mem_cons_self)
        have order := later oldest member first inCalm
        have soon := early oldest.now rfl
        linarith

end HoldConfig

namespace IrrigationHold

variable {hold : IrrigationHold} {cfg : HoldConfig} {moments : List Moment}

theorem unknown_iff (reading : CycleReading) :
    hold.unknown reading = true ↔ hold.cfg.kind hold.lastSuspended reading = .unknown := by
  have same : hold.unknown reading = true ↔
      ∃ condition ∈ hold.cfg.thresholds, HoldConfig.reads hold.lastSuspended reading condition = none := by
    unfold unknown
    rw [List.any_eq_true]
    exact exists_congr fun condition => and_congr_right fun _ => Option.isNone_iff_eq_none
  rw [same]
  unfold HoldConfig.kind
  split
  next unread => exact iff_of_true unread rfl
  next read =>
    refine iff_of_false read ?_
    split <;> decide

theorem tripping_iff (reading : CycleReading)
    (read : hold.cfg.kind hold.lastSuspended reading ≠ .unknown) :
    hold.tripping reading ≠ [] ↔ hold.cfg.kind hold.lastSuspended reading = .tripping := by
  have same : hold.tripping reading ≠ [] ↔ ∃ condition ∈ hold.cfg.thresholds,
      ∃ value ∈ HoldConfig.reads hold.lastSuspended reading condition,
        condition.op.holds value condition.threshold := by
    unfold tripping
    rw [Ne, List.filterMap_eq_nil_iff, not_forall]
    refine exists_congr fun condition => ?_
    rw [not_forall, exists_prop]
    refine and_congr_right fun _ => ?_
    show ¬ (HoldConfig.reads hold.lastSuspended reading condition).bind _ = none ↔ _
    cases HoldConfig.reads hold.lastSuspended reading condition with
    | none => simp
    | some value => simp
  rw [same]
  unfold HoldConfig.kind at read ⊢
  split
  next unread => exact absurd (if_pos unread) read
  next =>
    split
    next trips => exact iff_of_true trips rfl
    next quiet => exact iff_of_false quiet (by decide)

theorem judge_eq (hold : IrrigationHold) (reading : CycleReading) (now wall : Rat) :
    hold.judge reading now wall =
      let kind := hold.cfg.kind hold.lastSuspended reading
      if kind = .unknown ∧
        hold.cfg.onFault = .release then { hold.reset with fault := some .released }
      else if hold.cfg.trips ⟨kind, now⟩ then hold.trip (hold.tripping reading) (hold.unknown reading) wall
      else hold.clear now := by
  have unread := @unknown_iff hold reading
  unfold judge
  dsimp only
  by_cases released : hold.cfg.kind hold.lastSuspended reading = .unknown ∧
    hold.cfg.onFault = .release
  · rw [if_pos released, if_pos ⟨unread.mpr released.1, released.2⟩]
  · rw [if_neg released, if_neg fun both => released ⟨unread.mp both.1, both.2⟩]
    refine if_congr ?_ rfl rfl
    rw [unread]
    unfold HoldConfig.trips
    cases judged : hold.cfg.kind hold.lastSuspended reading with
    | unknown =>
      cases mode : hold.cfg.onFault with
      | release => exact absurd ⟨judged, mode⟩ released
      | hold => exact iff_of_true (.inr rfl) rfl
    | tripping =>
      have read : hold.cfg.kind hold.lastSuspended reading ≠ .unknown := by
        rw [judged]
        decide
      exact iff_of_true (.inl ((tripping_iff reading read).mpr judged)) rfl
    | clear =>
      have read : hold.cfg.kind hold.lastSuspended reading ≠ .unknown := by
        rw [judged]
        decide
      rw [tripping_iff reading read, judged]
      simp

/-- What the judgement of a sample leaves of the counters. -/
structure Counts (before after : IrrigationHold) (holding : Bool) (tripCount : Nat)
    (clearSince : Option Rat) :
    Prop where
  cfg : after.cfg = before.cfg
  holding : after.holding = holding
  tripCount : after.tripCount = tripCount
  clearSince : after.clearSince = clearSince

theorem trip_counts (tripping : List HoldReason) (unknown : Bool) (wall : Rat) :
    Counts hold (hold.trip tripping unknown wall)
      (hold.holding || decide (hold.cfg.tripSamples ≤ hold.tripCount + 1))
        (hold.tripCount + 1) none := by
  unfold trip
  dsimp only
  cases held : hold.holding with
  | true => exact ⟨rfl, rfl, rfl, rfl⟩
  | false =>
    by_cases enough : hold.cfg.tripSamples ≤ hold.tripCount + 1
    · rw [if_pos ⟨rfl, enough⟩, decide_eq_true enough]
      exact ⟨rfl, rfl, rfl, rfl⟩
    · rw [if_neg fun both => enough both.2, decide_eq_false enough]
      exact ⟨rfl, rfl, rfl, rfl⟩

theorem clear_counts (now : Rat) :
    let early := decide (now - hold.clearSince.getD now < hold.cfg.releaseS)
    Counts hold (hold.clear now) (hold.holding && early) 0
      (if hold.holding then if early then some (hold.clearSince.getD now) else none else hold.clearSince) := by
  unfold clear
  dsimp only
  cases held : hold.holding with
  | false => exact ⟨rfl, rfl, rfl, rfl⟩
  | true =>
    by_cases long : hold.cfg.releaseS ≤ now - hold.clearSince.getD now
    · rw [if_pos rfl, if_pos long, decide_eq_false (not_lt.mpr long)]
      exact ⟨rfl, rfl, rfl, rfl⟩
    · rw [if_pos rfl, if_neg long, decide_eq_true (not_le.mp long)]
      exact ⟨rfl, rfl, rfl, rfl⟩

/-- The hold has decided as its settings promise. -/
structure Decided (settings : HoldConfig) (moments : List Moment) (hold : IrrigationHold) : Prop where
  cfg : hold.cfg = settings
  tripCount : hold.tripCount = (settings.streak moments).length
  holding : hold.holding = true ↔ settings.HoldsAfter moments
  clearSince : hold.clearSince = if hold.holding then HoldConfig.clearSince moments else none

theorem Decided.reset (decided : Decided cfg moments hold) (positive : 0 < cfg.tripSamples)
    {moment : Moment}
    (unknown : moment.kind = .unknown) (release : cfg.onFault = .release) :
    Decided cfg (moments ++ [moment]) { hold.reset with fault := some .released } := by
  refine ⟨decided.cfg, ?_, ?_, rfl⟩
  · rw [HoldConfig.streak_of_silent (HoldConfig.silent_of_release release unknown)]
    rfl
  · exact iff_of_false Bool.false_ne_true
      (HoldConfig.not_holdsAfter_unknown positive release unknown)

theorem Decided.trip (decided : Decided cfg moments hold) (positive : 0 < cfg.tripSamples)
    {moment : Moment}
    (trips : cfg.trips moment = true) (tripping : List HoldReason) (unknown : Bool) (wall : Rat) :
    Decided cfg (moments ++ [moment]) (hold.trip tripping unknown wall) := by
  have counts := @trip_counts hold tripping unknown wall
  have longer : (cfg.streak (moments ++ [moment])).length = hold.tripCount + 1 := by
    rw [HoldConfig.streak_of_trips trips, List.length_append, decided.tripCount]
    rfl
  refine ⟨counts.cfg.trans decided.cfg, counts.tripCount.trans longer.symm, ?_, ?_⟩
  · rw [counts.holding, HoldConfig.holdsAfter_trips positive trips, longer, ← decided.holding, decided.cfg,
      Bool.or_eq_true, decide_eq_true_iff]
  · rw [counts.clearSince, HoldConfig.clearSince_of_trips trips, ite_self]

theorem Decided.clear (decided : Decided cfg moments hold) (positive : 0 < cfg.tripSamples)
    {moment : Moment}
    (clear : moment.kind = .clear)
    (ordered : (moments ++ [moment]).Pairwise fun earlier later => earlier.now ≤ later.now) :
    Decided cfg (moments ++ [moment]) (hold.clear moment.now) := by
  obtain ⟨same, tripCount, holding, clearSince⟩ := decided
  have counts := @clear_counts hold moment.now
  have began := @HoldConfig.clearSince_of_clear moments moment clear
  have kept := HoldConfig.holdsAfter_clear positive ordered clear
  rw [began, ← holding] at kept
  refine ⟨counts.cfg.trans same, ?_, ?_, ?_⟩
  · rw [HoldConfig.streak_of_silent (HoldConfig.silent_of_clear clear)]
    exact counts.tripCount
  · rw [counts.holding, kept, Bool.and_eq_true, decide_eq_true_iff, same]
    refine and_congr_right fun held => ?_
    rw [clearSince, if_pos held]
    simp
  · rw [counts.clearSince, counts.holding, began]
    cases held : hold.holding with
    | false =>
      rw [held] at clearSince
      exact clearSince
    | true =>
      rw [held] at clearSince
      rw [clearSince]
      rfl

theorem Decided.judge (decided : Decided cfg moments hold) (positive : 0 < cfg.tripSamples) {now : Rat}
    (reading : CycleReading) (wall : Rat) {moment : Moment}
    (judged : moment = ⟨cfg.kind hold.lastSuspended reading, now⟩)
    (ordered : (moments ++ [moment]).Pairwise fun earlier later => earlier.now ≤ later.now) :
    Decided cfg (moments ++ [moment]) (hold.judge reading now wall) := by
  have kind : cfg.kind hold.lastSuspended reading = moment.kind := by rw [judged]
  have time : now = moment.now := by rw [judged]
  have judgement := judge_eq hold reading now wall
  dsimp only at judgement
  rw [decided.cfg, ← judged, kind] at judgement
  rw [judgement]
  by_cases released : moment.kind = .unknown ∧ cfg.onFault = .release
  · rw [if_pos released]
    exact decided.reset positive released.1 released.2
  · rw [if_neg released]
    cases counts : cfg.trips moment with
    | true =>
      rw [if_pos rfl]
      exact decided.trip positive counts _ _ wall
    | false =>
      rw [if_neg Bool.false_ne_true, time]
      exact decided.clear positive (HoldConfig.clear_of_silent counts released) ordered

theorem judge_lastSuspended (hold : IrrigationHold) (reading : CycleReading) (now wall : Rat) :
    (hold.judge reading now wall).lastSuspended = hold.lastSuspended := by
  unfold judge trip clear
  dsimp only
  split
  next => rfl
  next =>
    split
    next => split <;> rfl
    next =>
      split
      next => split <;> rfl
      next => rfl

end IrrigationHold

namespace HoldUnit

structure Sampled (cfg : HoldConfig) (suspended : List String) (moments : List Moment)
    (unit : HoldUnit) : Prop where
  decided : unit.hold.Decided cfg moments
  relays : unit.hold.relays = true
  suspended : unit.hold.lastSuspended = suspended
  driven : unit.hold.driven = unit.hold.holding
  channel : unit.hold.drivenChannel = if unit.hold.driven then cfg.relay else 0

def sample (unit : HoldUnit) (sample : HoldSample) : HoldUnit :=
  unit.evaluate sample.reading sample.suspended sample.now sample.wall []

variable {cfg : HoldConfig} {suspended : List String} {moments : List Moment} {unit : HoldUnit}

theorem hold_driven {hold : IrrigationHold} {driven : Bool} {channel : Int}
    (drives : hold.driven = driven)
    (here : hold.drivenChannel = channel) :
    hold = { hold with driven, drivenChannel := channel } := by
  subst drives here
  rfl

theorem drive_works (armed : unit.hold.cfg.armed = true) (relays : unit.hold.relays = true)
    (outcomes : unit.outcomes = [])
    (channel : unit.hold.drivenChannel = if unit.hold.driven then unit.hold.cfg.relay else 0)
    (on : Bool) :
    (unit.drive on).hold =
      { unit.hold with driven := on, drivenChannel := if on then unit.hold.cfg.relay else 0 } := by
  have target : unit.target on = unit.hold.cfg.relay := by
    unfold HoldUnit.target
    rw [channel]
    cases on <;> cases unit.hold.driven <;> simp
  unfold drive
  dsimp only
  rw [target, if_pos ⟨relays, HoldConfig.isChannel_of_armed armed⟩, outcomes]
  rfl

/-- A sample of an armed hold whose relay is on the channel of its settings. -/
theorem sample_of_current (current : ¬ (unit.hold.driven = true ∧
      (unit.hold.cfg.armed = false ∨ unit.hold.drivenChannel ≠ unit.hold.cfg.relay)))
    (armed : unit.hold.cfg.armed = true) (sample : HoldSample) :
    let told : IrrigationHold :=
      { unit.hold with lastSuspended := sample.suspended.getD unit.hold.lastSuspended }
    let hold := told.judge sample.reading sample.now sample.wall
    unit.sample sample = if hold.holding ≠ hold.driven then
      { unit.begin [] with hold }.drive hold.holding else { unit.begin [] with hold } := by
  intro told hold
  let begun : HoldUnit := { unit.begin [] with hold := told }
  have evaluated : unit.sample sample = if begun.retried.hold.cfg.armed then
      begun.retried.judged sample.reading sample.now sample.wall else begun.retried := rfl
  have stays : begun.retried = begun := if_neg current
  have armed' : begun.hold.cfg.armed = true := armed
  rw [evaluated, stays, if_pos armed']
  rfl

theorem Sampled.sample (before : Sampled cfg suspended moments unit) (armed : cfg.armed = true)
    (positive : 0 < cfg.tripSamples) (sample : HoldSample) {moment : Moment}
    (judged : moment = ⟨cfg.kind (sample.suspended.getD suspended) sample.reading, sample.now⟩)
    (ordered : (moments ++ [moment]).Pairwise fun earlier later => earlier.now ≤ later.now) :
    Sampled cfg (sample.suspended.getD suspended) (moments ++ [moment]) (unit.sample sample) := by
  obtain ⟨decided, relays, same, driven, channel⟩ := before
  let told : IrrigationHold :=
    { unit.hold with lastSuspended := sample.suspended.getD unit.hold.lastSuspended }
  let hold := told.judge sample.reading sample.now sample.wall
  have known : told.lastSuspended = sample.suspended.getD suspended := by
    show sample.suspended.getD unit.hold.lastSuspended = _
    rw [same]
  have start : told.Decided cfg moments :=
    ⟨decided.cfg, decided.tripCount, decided.holding, decided.clearSince⟩
  have after : hold.Decided cfg (moments ++ [moment]) :=
    start.judge positive sample.reading sample.wall (by rw [judged, known]) ordered
  obtain ⟨sameRelays, sameCfg, sameDriven, sameChannel⟩ :=
    judge_frame told sample.reading sample.now sample.wall
  have current : ¬ (unit.hold.driven = true ∧
      (unit.hold.cfg.armed = false ∨ unit.hold.drivenChannel ≠ unit.hold.cfg.relay)) := by
    rintro ⟨drives, disarmed | elsewhere⟩
    · rw [decided.cfg, armed] at disarmed
      cases disarmed
    · rw [channel, drives, decided.cfg] at elsewhere
      exact elsewhere rfl
  have ran : unit.sample sample = if hold.holding ≠ hold.driven then
      { unit.begin [] with hold }.drive hold.holding else { unit.begin [] with hold } :=
    sample_of_current current (by rw [decided.cfg]; exact armed) sample
  have told_cfg : hold.cfg = cfg := after.cfg
  have channel' : hold.drivenChannel = if hold.driven then hold.cfg.relay else 0 := by
    rw [sameChannel, sameDriven, told_cfg]
    exact channel
  have frame : (unit.sample sample).hold =
      { hold with driven := hold.holding, drivenChannel := if hold.holding then hold.cfg.relay else 0 } := by
    rw [ran]
    split
    next =>
      exact @drive_works { unit.begin [] with hold } (told_cfg ▸ armed)
        (sameRelays.trans relays) rfl channel' _
    next settled =>
      have agrees : hold.holding = hold.driven := not_not.mp settled
      exact hold_driven agrees.symm (by rw [agrees]; exact channel')
  refine ⟨?_, ?_, ?_, ?_, ?_⟩
  · rw [frame]
    exact ⟨after.cfg, after.tripCount, after.holding, after.clearSince⟩
  · rw [frame]
    exact sameRelays.trans relays
  · rw [frame]
    exact (IrrigationHold.judge_lastSuspended told sample.reading sample.now sample.wall).trans known
  · rw [frame]
  · rw [frame, ← told_cfg]

theorem Sampled.samples (before : Sampled cfg suspended moments unit) (armed : cfg.armed = true)
    (positive : 0 < cfg.tripSamples) (samples : List HoldSample)
    (ordered : (moments ++ cfg.moments suspended samples).Pairwise fun earlier later => earlier.now ≤ later.now) :
    (samples.foldl HoldUnit.sample unit).hold.Decided cfg (moments ++ cfg.moments suspended samples) ∧
      (samples.foldl HoldUnit.sample unit).hold.driven =
        (samples.foldl HoldUnit.sample unit).hold.holding := by
  induction samples generalizing suspended moments unit with
  | nil =>
    show unit.hold.Decided cfg (moments ++ []) ∧ _
    rw [List.append_nil]
    exact ⟨before.decided, before.driven⟩
  | cons sample rest ih =>
    have split (later : List Moment) (moment : Moment) :
        moments ++ moment :: later = moments ++ [moment] ++ later := by
      rw [List.append_assoc]
      rfl
    unfold HoldConfig.moments at ordered ⊢
    dsimp only at ordered ⊢
    rw [split] at ordered ⊢
    exact ih (before.sample armed positive sample rfl (List.pairwise_append.mp ordered).1) ordered

theorem sampled_configure {settings : HoldSettings}
    (armed : (HoldConfig.fromSettings settings).armed = true) :
    Sampled (HoldConfig.fromSettings settings) [] [] (start.configure settings []) := by
  have real := HoldConfig.isChannel_of_armed armed
  have elsewhere : (HoldConfig.fromSettings settings).relay ≠ 0 := by
    unfold isChannel at real
    omega
  let fresh : HoldUnit :=
    { start.begin [] with hold := { start.hold with cfg := HoldConfig.fromSettings settings, configured := true } }
  have first : start.configure settings [] =
      (fresh.letGo {}).takeOver (HoldConfig.fromSettings settings) {} := by
    unfold configure
    dsimp only
    split
    next same => exact absurd same.1 Bool.false_ne_true
    next => rfl
  have released : fresh.letGo {} = fresh.reset := by
    unfold letGo
    rw [if_neg fun both => Bool.false_ne_true both.1, if_pos (.inr elsewhere)]
  have configured : start.configure settings [] = fresh.reset.drive false := by
    rw [first, released]
    exact if_pos ⟨armed, .inl rfl⟩
  have hold := @drive_works fresh.reset armed rfl rfl rfl false
  rw [configured]
  refine ⟨?_, ?_, ?_, ?_, ?_⟩
  all_goals rw [hold]
  · refine ⟨rfl, rfl, iff_of_false Bool.false_ne_true ?_, rfl⟩
    rintro ⟨before, run, after, parts, long, _⟩
    have none : run = [] := (List.append_eq_nil_iff.mp (List.append_eq_nil_iff.mp parts.symm).1).2
    have positive := HoldConfig.tripSamples_pos settings
    rw [← long, none] at positive
    cases positive
  all_goals rfl

end HoldUnit

theorem HoldConfig.now_moments (cfg : HoldConfig) (suspended : List String)
    (samples : List HoldSample) :
    (cfg.moments suspended samples).map Moment.now = samples.map HoldSample.now := by
  induction samples generalizing suspended with
  | nil => rfl
  | cons sample rest ih =>
    unfold HoldConfig.moments
    exact congrArg (sample.now :: ·) (ih _)

/-- From a fresh state with working relays, the hold is active after a sample if and only if
a run of samples has engaged it and nothing since has released it. -/
theorem hold_active_iff (settings : HoldSettings)
    (armed : (HoldConfig.fromSettings settings).armed = true)
    (samples : List HoldSample) (ordered : (samples.map HoldSample.now).Pairwise (· ≤ ·)) :
    (samples.foldl HoldUnit.sample (HoldUnit.start.configure settings [])).hold.state.active = true ↔
      (HoldConfig.fromSettings settings).HoldsAfter ((HoldConfig.fromSettings settings).moments [] samples) := by
  rw [← HoldConfig.now_moments (HoldConfig.fromSettings settings) [] samples, List.pairwise_map] at ordered
  obtain ⟨decided, driven⟩ :=
    (HoldUnit.sampled_configure armed).samples armed (HoldConfig.tripSamples_pos settings)
    samples ordered
  show (samples.foldl HoldUnit.sample (HoldUnit.start.configure settings [])).hold.driven = true ↔ _
  rw [driven]
  exact decided.holding

/-- The water is turbid, and then clear for nine minutes. -/
def clearing : List HoldSample :=
  [⟨HoldUnit.turbid, some [], 0, 0⟩, ⟨fun _ => some 0, some [], 60, 60⟩, ⟨fun _ => some 0, none, 600, 600⟩]

theorem hold_active_clearing :
    (HoldConfig.fromSettings HoldUnit.turbidHold).HoldsAfter
      ((HoldConfig.fromSettings HoldUnit.turbidHold).moments [] clearing) :=
  (hold_active_iff HoldUnit.turbidHold (by decide +kernel) clearing (by decide +kernel)).mp (by decide +kernel)

end Wqm1.Control
