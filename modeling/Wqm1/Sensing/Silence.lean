import Wqm1.Sensing.Monitor

/-! When a silent sensor is suspended. An observation enters the window of its
sensor, the window is pruned to the entries at most `windowS` old, and silence is
reported once the entries left span at least `windowS`. -/

set_option autoImplicit false

namespace Wqm1.Sensing

open Wqm1.Library.Window

variable {α : Type} [Field α] [LinearOrder α]

structure Observation (α : Type) where
  now : α
  reading : Reading α

def Monitor.run [FloorRing α] (settings : Settings α) (observations : List (Observation α)) : Monitor α :=
  observations.foldl (fun monitor observation =>
    (monitor.observe settings observation.now observation.reading).1) .start

def Observation.sample (sensor : Sensor) (observation : Observation α) : Option (Entry α) :=
  (observation.reading sensor.field).map fun value => ⟨observation.now, value⟩

/-- The observations of one sensor. -/
def samples (sensor : Sensor) (observations : List (Observation α)) : List (Entry α) :=
  observations.filterMap (Observation.sample sensor)

/-- At least two entries at the end carry no value, the first of them `windowS` or more
before the last. -/
def SilentSpan (windowS : α) (entries : List (Entry α)) : Prop :=
  ∃ earlier first middle last, entries = earlier ++ first :: (middle ++ [last]) ∧
    (∀ entry ∈ first :: (middle ++ [last]), entry.value = none) ∧ windowS ≤ last.time - first.time

/-- The latest entries, as many as a window can hold, reach back to one exactly `windowS`
before `now`, and from that time on none carries a value. -/
def ReachesBack (windowS : α) (entries : List (Entry α)) (now : α) : Prop :=
  (∃ entry ∈ recent windowMax entries, entry.time = now - windowS) ∧
    ∀ entry ∈ recent windowMax entries, now - windowS ≤ entry.time → entry.value = none

theorem windowMax_pos : 0 < windowMax := by decide

namespace Channel

variable {settings : Settings α} {sensor : Sensor} {channel : Channel α} {entry : Entry α}

/-- What an observation does to the window and the stuck flag. -/
def note (settings : Settings α) (sensor : Sensor) (channel : Channel α) (entry : Entry α) : Channel α :=
  ({ channel with window := enter entry.time entry.value settings.windowS channel.window }.checkStuck
    settings sensor).1

/-- Two channels agree but for their spikes. -/
def SameTrack (left right : Channel α) : Prop := left.window = right.window ∧ left.stuck = right.stuck

theorem checkStuck_window : (channel.checkStuck settings sensor).1.window = channel.window := by
  unfold checkStuck
  dsimp only
  repeat' split
  all_goals rfl

theorem checkStuck_congr {left right : Channel α} (same : SameTrack left right) :
    SameTrack (left.checkStuck settings sensor).1 (right.checkStuck settings sensor).1 := by
  constructor
  · rw [checkStuck_window, checkStuck_window, same.1]
  · unfold checkStuck values
    rw [same.1, same.2]
    dsimp only
    repeat' split
    all_goals first | rfl | exact same.2

theorem note_congr (settings : Settings α) (sensor : Sensor) (entry : Entry α) {left right : Channel α}
    (same : SameTrack left right) :
    SameTrack (left.note settings sensor entry) (right.note settings sensor entry) := by
  apply checkStuck_congr
  exact ⟨by rw [same.1], same.2⟩

theorem checkSpike_track {now value : α} :
    SameTrack (channel.checkSpike settings sensor now value).1 channel := by
  unfold checkSpike
  dsimp only
  repeat' split
  all_goals exact ⟨rfl, rfl⟩

variable [IsStrictOrderedRing α]

theorem windowS_nonneg (settings : Settings α) : 0 ≤ settings.windowS := by
  unfold Settings.windowS
  positivity

/-- The newest entry stays in the window. -/
theorem getLast_enter (settings : Settings α) (entry : Entry α) (window : List (Entry α)) :
    (enter entry.time entry.value settings.windowS window).getLast? = some entry := by
  have young : ¬ entry.time < entry.time - settings.windowS :=
    not_lt.mpr (sub_le_self _ (windowS_nonneg settings))
  obtain ⟨others, kept⟩ := getLast_appendBounded windowMax window entry
  change (prune Entry.time (entry.time - settings.windowS) (appendBounded windowMax window entry)).getLast? = _
  rw [kept, prune, List.dropWhile_append]
  split
  · simp [young]
  · simp

omit [IsStrictOrderedRing α] in
theorem checkStuck_noData_iff (last : channel.window.getLast? = some entry) :
    (channel.checkStuck settings sensor).1.stuck = some .noData ↔
      (channel.stuck = some .noData ∧ entry.value = none) ∨
        (channel.stuck = none ∧
          (∃ first, channel.window.head? = some first ∧ settings.windowS ≤ entry.time - first.time) ∧
          ∀ other ∈ channel.window, other.value = none) := by
  have silent : channel.values = [] ↔ ∀ other ∈ channel.window, other.value = none :=
    List.filterMap_eq_nil_iff
  unfold checkStuck
  dsimp only
  cases stuck : channel.stuck with
  | some kind =>
    cases kind with
    | noData => cases value : entry.value <;> simp [last, value, stuck]
    | flat =>
      by_cases recovers : (decide (2 ≤ channel.values.length) &&
          decide (sensor.noiseFloor ^ 2 ≤ pvariance channel.values)) = true
      · simp [recovers]
      · simp [recovers, stuck]
  | none =>
    cases head : channel.window.head? with
    | none =>
      rw [List.head?_eq_none_iff.mp head] at last
      cases last
    | some first =>
      simp only [last, reduceCtorEq, false_and, true_and, false_or, Option.some.injEq, exists_eq_left', ← silent]
      by_cases short : entry.time - first.time < settings.windowS
      · simp [short, stuck]
      · by_cases empty : channel.values = []
        · simp [short, empty, not_lt.mp short]
        · simp only [short, empty, ↓reduceIte, and_false, iff_false]
          by_cases moves : sensor.noiseFloor ^ 2 ≤ (if 2 ≤ channel.values.length then
              pvariance channel.values else 0) ∨ sensor.noFlatline = true
          · simp [moves, stuck]
          · simp [moves]

/-- Silence is noted from the healthy state when the window spans `windowS` and holds no
value, and it stays noted until a value comes. -/
theorem note_noData_iff : (channel.note settings sensor entry).stuck = some .noData ↔
    (channel.stuck = some .noData ∧ entry.value = none) ∨
      (channel.stuck = none ∧
        (∃ first, (enter entry.time entry.value settings.windowS channel.window).head? = some first ∧
          settings.windowS ≤ entry.time - first.time) ∧
        ∀ other ∈ enter entry.time entry.value settings.windowS channel.window, other.value = none) := by
  have last := getLast_enter settings entry channel.window
  unfold note
  generalize enter entry.time entry.value settings.windowS channel.window = window at last ⊢
  exact checkStuck_noData_iff last

end Channel

variable [IsStrictOrderedRing α] (settings : Settings α) (sensor : Sensor)

/-- The channel of a sensor after its observations, but for the spikes. -/
def track (entries : List (Entry α)) : Channel α :=
  entries.foldl (Channel.note settings sensor) ⟨[], none, none, none⟩

abbrev Ordered (entries : List (Entry α)) : Prop :=
  entries.Pairwise fun left right => left.time ≤ right.time

omit [IsStrictOrderedRing α] in
theorem track_append (entries : List (Entry α)) (entry : Entry α) :
    track settings sensor (entries ++ [entry]) = (track settings sensor entries).note settings sensor entry :=
  List.foldl_concat ..

omit [IsStrictOrderedRing α] in
theorem track_window_append (entries : List (Entry α)) (entry : Entry α) :
    (track settings sensor (entries ++ [entry])).window =
      Channel.enter entry.time entry.value settings.windowS (track settings sensor entries).window := by
  rw [track_append, Channel.note, Channel.checkStuck_window]

/-- The window holds the recent entries that are at most `windowS` old. -/
theorem track_window {entries : List (Entry α)} {entry : Entry α} (ordered : Ordered (entries ++ [entry])) :
    (track settings sensor (entries ++ [entry])).window =
      since Entry.time (entry.time - settings.windowS) (recent windowMax (entries ++ [entry])) := by
  induction entries using List.reverseRecOn generalizing entry with
  | nil =>
    have untouched : (track settings sensor []).window = [] := rfl
    have nothing : recent windowMax ([] : List (Entry α)) = [] := List.drop_nil
    have single : appendBounded windowMax [] entry = [entry] :=
      appendBounded_of_room entry windowMax_pos
    rw [track_window_append, untouched, Channel.enter, recent_append windowMax_pos, nothing, single]
    exact prune_eq_since (List.pairwise_singleton ..) _
  | append_singleton entries previous ih =>
    obtain ⟨before, _, across⟩ := List.pairwise_append.mp ordered
    have later : previous.time ≤ entry.time := across previous (by simp) entry (by simp)
    have sorted := before.sublist (recent_sublist windowMax _)
    have appended : Ordered (appendBounded windowMax
        (since Entry.time (previous.time - settings.windowS) (recent windowMax (entries ++ [previous]))) entry) := by
      refine List.Pairwise.sublist (appendBounded_sublist ..) (List.pairwise_append.mpr ⟨?_, ?_, ?_⟩)
      · exact sorted.sublist List.filter_sublist
      · exact List.pairwise_singleton ..
      · intro left member right last
        have recentMember := (mem_since.mp member).1
        exact across left ((recent_sublist ..).subset recentMember) right last
    rw [track_window_append, ih before, Channel.enter, prune_eq_since appended,
      since_appendBounded_since sorted (sub_le_sub_right later _) _ (length_recent ..), ← recent_append windowMax_pos]

/-- When the silence of a sensor is noted, in terms of its observations. -/
theorem track_noData_append {entries : List (Entry α)} {entry : Entry α}
    (ordered : Ordered (entries ++ [entry])) :
    (track settings sensor (entries ++ [entry])).stuck = some .noData ↔
      ((track settings sensor entries).stuck = some .noData ∧ entry.value = none) ∨
        ((track settings sensor entries).stuck = none ∧
          ReachesBack settings.windowS (entries ++ [entry]) entry.time) := by
  have window := track_window settings sensor ordered
  rw [track_window_append] at window
  rw [track_append, Channel.note_noData_iff, window]
  have sorted : Ordered (since Entry.time (entry.time - settings.windowS)
      (recent windowMax (entries ++ [entry]))) :=
    (ordered.sublist (recent_sublist ..)).sublist List.filter_sublist
  have reaches : (∃ first, (since Entry.time (entry.time - settings.windowS)
        (recent windowMax (entries ++ [entry]))).head? = some first ∧
        settings.windowS ≤ entry.time - first.time) ↔
      ∃ other ∈ recent windowMax (entries ++ [entry]), other.time = entry.time - settings.windowS := by
    constructor
    · intro exact_
      obtain ⟨first, head, span⟩ := exact_
      obtain ⟨member, young⟩ := mem_since.mp (List.mem_of_head? head)
      exact ⟨first, member, le_antisymm (le_sub_comm.mp span) young⟩
    · intro back
      obtain ⟨other, member, time⟩ := back
      have kept : other ∈ since Entry.time (entry.time - settings.windowS)
          (recent windowMax (entries ++ [entry])) := mem_since.mpr ⟨member, time.ge⟩
      cases window : since Entry.time (entry.time - settings.windowS)
          (recent windowMax (entries ++ [entry])) with
      | nil => rw [window] at kept; cases kept
      | cons first rest =>
        rw [window] at kept sorted
        refine ⟨first, rfl, le_sub_comm.mp ?_⟩
        rw [← time]
        cases kept with
        | head => exact le_rfl
        | tail _ after => exact (List.pairwise_cons.mp sorted).1 other after
  simp only [reaches, mem_since, ReachesBack, and_imp]

/-- Silence is noted exactly when one of the trailing entries without a value met the
healthy state and reached back. -/
theorem track_noData_iff {entries : List (Entry α)} (ordered : Ordered entries) :
    (track settings sensor entries).stuck = some .noData ↔
      ∃ before entry after, entries = before ++ entry :: after ∧
        (∀ other ∈ entry :: after, other.value = none) ∧ (track settings sensor before).stuck = none ∧
        ReachesBack settings.windowS (before ++ [entry]) entry.time := by
  induction entries using List.reverseRecOn with
  | nil => simp [track]
  | append_singleton entries latest ih =>
    rw [track_noData_append settings sensor ordered, ih (List.pairwise_append.mp ordered).1]
    constructor
    · intro noted
      cases noted with
      | inl earlier =>
        obtain ⟨⟨before, entry, after, rfl, silent, healthy, back⟩, still⟩ := earlier
        refine ⟨before, entry, after ++ [latest], by simp, ?_, healthy, back⟩
        intro other member
        rw [← List.cons_append, List.mem_append, List.mem_singleton] at member
        cases member with
        | inl old => exact silent other old
        | inr new => rw [new, still]
      | inr now =>
        obtain ⟨healthy, back⟩ := now
        refine ⟨entries, latest, [], rfl, ?_, healthy, back⟩
        intro other member
        rw [List.mem_singleton.mp member]
        apply back.2 latest
        · obtain ⟨others, kept⟩ := getLast_appendBounded windowMax (recent windowMax entries) latest
          rw [recent_append windowMax_pos, kept]
          simp
        · exact sub_le_self _ (Channel.windowS_nonneg settings)
    · intro noted
      obtain ⟨before, entry, after, split, silent, healthy, back⟩ := noted
      cases after using List.reverseRecOn with
      | nil =>
        obtain ⟨rfl, same⟩ := List.append_inj' split rfl
        cases same
        exact .inr ⟨healthy, back⟩
      | append_singleton after last =>
        have parted : entries ++ [latest] = (before ++ entry :: after) ++ [last] := by simp [split]
        obtain ⟨rfl, same⟩ := List.append_inj' parted rfl
        cases same
        refine .inl ⟨⟨before, entry, after, rfl, ?_, healthy, back⟩, silent latest (by simp)⟩
        intro other member
        apply silent other
        rw [← List.cons_append]
        exact List.mem_append_left _ member

theorem track_silent {entries : List (Entry α)} (noted : (track settings sensor entries).stuck = some .noData) :
    ∀ entry ∈ (track settings sensor entries).window, entry.value = none := by
  induction entries using List.reverseRecOn with
  | nil => cases noted
  | append_singleton entries latest ih =>
    rw [track_append, Channel.note_noData_iff] at noted
    rw [track_window_append]
    cases noted with
    | inl earlier =>
      intro entry member
      have appended : entry ∈ (track settings sensor entries).window ++ [latest] :=
        ((appendBounded_sublist ..).subset ((List.dropWhile_sublist _).subset member))
      rw [List.mem_append, List.mem_singleton] at appended
      cases appended with
      | inl old => exact ih earlier.1 entry old
      | inr new => rw [new, earlier.2]
    | inr now => exact now.2.2

theorem track_last_silent {entries : List (Entry α)} {latest : Entry α}
    (noted : (track settings sensor (entries ++ [latest])).stuck = some .noData) : latest.value = none := by
  apply track_silent settings sensor noted
  rw [track_window_append]
  exact List.mem_of_getLast? (Channel.getLast_enter settings latest _)

variable [FloorRing α]

omit [IsStrictOrderedRing α] in
theorem observeSensor_other {now : α} {other : Sensor} (different : other ≠ sensor) (value : Option α)
    (monitor : Monitor α) :
    (monitor.observeSensor settings now sensor value).1.channels other = monitor.channels other := by
  unfold Monitor.observeSensor
  generalize Channel.enter now value settings.windowS (monitor.channels sensor).window = window
  cases value with
  | none => simp only [Function.update_of_ne different]
  | some value =>
    cases stuck : (monitor.channels sensor).stuck with
    | some kind => simp only [stuck, Option.isSome_some, Function.update_of_ne different]
    | none =>
      by_cases enabled : settings.driftCheckEnabled
      · simp only [stuck, Option.isSome_none, enabled, ↓reduceIte, Function.update_of_ne different]
      · simp only [stuck, Option.isSome_none, enabled, Bool.false_eq_true, ↓reduceIte,
          Function.update_of_ne different]

omit [IsStrictOrderedRing α] in
theorem observeSensor_track (now : α) (value : Option α) (monitor : Monitor α) :
    Channel.SameTrack ((monitor.observeSensor settings now sensor value).1.channels sensor)
      ((monitor.channels sensor).note settings sensor ⟨now, value⟩) := by
  unfold Monitor.observeSensor Channel.note
  generalize Channel.enter now value settings.windowS (monitor.channels sensor).window = window
  cases value with
  | none =>
    simp only [Function.update_self]
    exact ⟨rfl, rfl⟩
  | some value =>
    cases stuck : (monitor.channels sensor).stuck with
    | some kind =>
      simp only [stuck, Option.isSome_some, Function.update_self]
      exact ⟨rfl, rfl⟩
    | none =>
      by_cases enabled : settings.driftCheckEnabled
      · simp only [stuck, Option.isSome_none, enabled, ↓reduceIte, Function.update_self]
        exact Channel.checkSpike_track
      · simp only [stuck, Option.isSome_none, enabled, Bool.false_eq_true, ↓reduceIte, Function.update_self]
        exact Channel.checkSpike_track

omit [IsStrictOrderedRing α] in
theorem observe_track (now : α) (reading : Reading α) (monitor : Monitor α) :
    Channel.SameTrack ((monitor.observe settings now reading).1.channels sensor)
      ((reading sensor.field).elim (monitor.channels sensor) fun value =>
        (monitor.channels sensor).note settings sensor ⟨now, value⟩) := by
  have fold : ∀ (sensors : List Sensor) (reached : Monitor α × List (Event α)), sensors.Nodup →
      Channel.SameTrack ((sensors.foldl (Monitor.observeColumn settings now reading) reached).1.channels sensor)
        (if sensor ∈ sensors then
          (reading sensor.field).elim (reached.1.channels sensor) fun value =>
            (reached.1.channels sensor).note settings sensor ⟨now, value⟩
        else reached.1.channels sensor) := by
    intro sensors
    induction sensors with
    | nil => exact fun _ _ => ⟨rfl, rfl⟩
    | cons first rest ih =>
      intro reached distinct
      obtain ⟨fresh, others⟩ := List.nodup_cons.mp distinct
      rw [List.foldl_cons]
      have kept := ih (Monitor.observeColumn settings now reading reached first) others
      by_cases same : sensor = first
      · subst same
        rw [if_neg fresh] at kept
        rw [if_pos (List.mem_cons_self ..)]
        cases column : reading sensor.field with
        | none =>
          simp only [Monitor.observeColumn, column] at kept
          simpa only [Monitor.observeColumn, column, Option.elim_none] using kept
        | some value =>
          simp only [Monitor.observeColumn, column] at kept
          have noted := observeSensor_track settings sensor now value reached.1
          simp only [Monitor.observeColumn, column, Option.elim_some]
          exact ⟨kept.1.trans noted.1, kept.2.trans noted.2⟩
      · have untouched : (Monitor.observeColumn settings now reading reached first).1.channels sensor =
            reached.1.channels sensor := by
          unfold Monitor.observeColumn
          cases reading first.field with
          | none => rfl
          | some value => exact observeSensor_other settings first same value reached.1
        rw [untouched] at kept
        simpa only [List.mem_cons, same, false_or] using kept
  have whole := fold Sensor.all (monitor, []) (by decide)
  rw [if_pos (Sensor.mem_all sensor)] at whole
  exact whole

omit [IsStrictOrderedRing α] in
theorem run_track (observations : List (Observation α)) :
    Channel.SameTrack ((Monitor.run settings observations).channels sensor)
      (track settings sensor (samples sensor observations)) := by
  induction observations using List.reverseRecOn with
  | nil => exact ⟨rfl, rfl⟩
  | append_singleton observations latest ih =>
    have step : Monitor.run settings (observations ++ [latest]) =
        ((Monitor.run settings observations).observe settings latest.now latest.reading).1 :=
      List.foldl_concat ..
    have moved := observe_track settings sensor latest.now latest.reading
      (Monitor.run settings observations)
    rw [step]
    cases column : latest.reading sensor.field with
    | none =>
      have unseen : samples sensor (observations ++ [latest]) = samples sensor observations := by
        simp [samples, Observation.sample, column]
      rw [column] at moved
      rw [unseen]
      exact ⟨moved.1.trans ih.1, moved.2.trans ih.2⟩
    | some value =>
      have seen : samples sensor (observations ++ [latest]) =
          samples sensor observations ++ [⟨latest.now, value⟩] := by
        simp [samples, Observation.sample, column]
      rw [column] at moved
      rw [seen, track_append]
      have noted := Channel.note_congr settings sensor ⟨latest.now, value⟩ ih
      exact ⟨moved.1.trans noted.1, moved.2.trans noted.2⟩

/-- What the monitor owes a sensor after a run: silent for a whole window it is
suspended, and suspended right after an observation it had no value there nor in any
entry still in its window. -/
def SilenceTold (observations : List (Observation α)) : Prop :=
  (SilentSpan settings.windowS (samples sensor observations) →
    sensor ∈ (Monitor.run settings observations).suspendedSensors) ∧
  ∀ earlier latest value, observations = earlier ++ [latest] → latest.reading sensor.field = some value →
    sensor ∈ (Monitor.run settings observations).suspendedSensors →
    value = none ∧ ∀ entry ∈ ((Monitor.run settings observations).channels sensor).window, entry.value = none

/-- Some observation of the trailing silence finds the sensor not flagged, and among the
entries a window can hold one that is exactly as old as the window is long, with no
value since. -/
def Noticed (observations : List (Observation α)) : Prop :=
  ∃ earlier observation later, observations = earlier ++ observation :: later ∧
    observation.reading sensor.field = some none ∧ (∀ entry ∈ samples sensor later, entry.value = none) ∧
    ((Monitor.run settings earlier).channels sensor).stuck = none ∧
    ReachesBack settings.windowS (samples sensor (earlier ++ [observation])) observation.now

omit [Field α] [LinearOrder α] [IsStrictOrderedRing α] [FloorRing α] in
theorem samples_append (earlier later : List (Observation α)) :
    samples sensor (earlier ++ later) = samples sensor earlier ++ samples sensor later :=
  List.filterMap_append

omit [Field α] [LinearOrder α] [IsStrictOrderedRing α] [FloorRing α] in
theorem sample_eq_some {sensor : Sensor} {observation : Observation α} {entry : Entry α} :
    observation.sample sensor = some entry ↔
      observation.reading sensor.field = some entry.value ∧ observation.now = entry.time := by
  unfold Observation.sample
  constructor
  · intro sampled
    obtain ⟨value, column, rfl⟩ := Option.map_eq_some_iff.mp sampled
    exact ⟨column, rfl⟩
  · intro column
    rw [column.1, column.2]
    rfl

omit [Field α] [IsStrictOrderedRing α] [FloorRing α] in
theorem ordered_samples {observations : List (Observation α)}
    (ordered : observations.Pairwise fun left right => left.now ≤ right.now) :
    Ordered (samples sensor observations) := by
  apply List.pairwise_filterMap.mpr
  apply ordered.imp
  intro left right before leftEntry leftSampled rightEntry rightSampled
  rw [← (sample_eq_some.mp leftSampled).2, ← (sample_eq_some.mp rightSampled).2]
  exact before

theorem noticed_iff {observations : List (Observation α)}
    (ordered : Ordered (samples sensor observations)) :
    sensor ∈ (Monitor.run settings observations).suspendedSensors ↔ Noticed settings sensor observations := by
  rw [Monitor.mem_suspendedSensors, (run_track settings sensor observations).2, track_noData_iff settings sensor ordered]
  constructor
  · intro noted
    obtain ⟨before, entry, after, split, silent, healthy, back⟩ := noted
    obtain ⟨first, second, rfl, rfl, rest⟩ := List.filterMap_eq_append_iff.mp split
    obtain ⟨skipped, observation, later, rfl, unseen, sampled, rfl⟩ := List.filterMap_eq_cons_iff.mp rest
    obtain ⟨column, time⟩ := sample_eq_some.mp sampled
    have nothing : samples sensor skipped = [] := List.filterMap_eq_nil_iff.mpr unseen
    have earlier : samples sensor (first ++ skipped) = samples sensor first := by
      rw [samples_append, nothing, List.append_nil]
    have one : samples sensor [observation] = [entry] := by
      simp [samples, sampled]
    refine ⟨first ++ skipped, observation, later, by simp, ?_, ?_, ?_, ?_⟩
    · rw [column, silent entry (by simp)]
    · exact fun other member => silent other (List.mem_cons_of_mem _ member)
    · rw [(run_track settings sensor _).2, earlier]
      exact healthy
    · rw [samples_append, earlier, one, time]
      exact back
  · intro noticed
    obtain ⟨earlier, observation, later, rfl, column, silent, healthy, back⟩ := noticed
    have one : samples sensor [observation] = [⟨observation.now, none⟩] := by
      simp [samples, Observation.sample, column]
    refine ⟨samples sensor earlier, ⟨observation.now, none⟩, samples sensor later, ?_, ?_, ?_, ?_⟩
    · rw [samples_append, ← List.singleton_append, samples_append, one, List.singleton_append]
    · intro other member
      cases member with
      | head => rfl
      | tail _ after => exact silent other after
    · rw [← (run_track settings sensor earlier).2]
      exact healthy
    · rw [samples_append, one] at back
      exact back

/-- For every run with non-decreasing times: the monitor tells the silence of a sensor
exactly when each silence of a whole window is noticed. -/
theorem silence_told_iff {observations : List (Observation α)}
    (ordered : observations.Pairwise fun left right => left.now ≤ right.now) :
    SilenceTold settings sensor observations ↔
      (SilentSpan settings.windowS (samples sensor observations) → Noticed settings sensor observations) := by
  have told := noticed_iff settings sensor (ordered_samples sensor ordered)
  constructor
  · intro tells silent
    exact told.mp (tells.1 silent)
  · intro notices
    constructor
    · intro silent
      exact told.mpr (notices silent)
    · intro earlier latest value split column suspended
      have track := run_track settings sensor observations
      rw [Monitor.mem_suspendedSensors, track.2] at suspended
      constructor
      · have one : samples sensor [latest] = [⟨latest.now, value⟩] := by
          simp [samples, Observation.sample, column]
        rw [split, samples_append, one] at suspended
        exact track_last_silent settings sensor suspended
      · rw [track.1]
        exact track_silent settings sensor suspended

/-- A pH probe that returns nothing. -/
def blankReading : Reading Rat := fun column => if column = "ph" then some none else none

def defaultSettings : Settings Rat := ⟨20, 6, true⟩

theorem silence_told_on_schedule :
    SilenceTold defaultSettings .ph [⟨0, blankReading⟩, ⟨600, blankReading⟩, ⟨1200, blankReading⟩] := by
  apply (silence_told_iff defaultSettings .ph (by decide +kernel)).mpr
  intro _
  refine ⟨[⟨0, blankReading⟩, ⟨600, blankReading⟩], ⟨1200, blankReading⟩, [], rfl, rfl, ?_, ?_, ?_, ?_⟩
  · exact fun _ member => absurd member List.not_mem_nil
  · decide +kernel
  · exact ⟨⟨0, none⟩, by decide +kernel, by decide +kernel⟩
  · decide +kernel

/-- Three blank readings over 1201 s leave the pH probe trusted. -/
theorem jittered_silence_untold : ¬ ∀ (settings : Settings Rat) (sensor : Sensor)
    (observations : List (Observation Rat)),
    (observations.Pairwise fun left right => left.now ≤ right.now) →
      SilenceTold settings sensor observations := by
  intro always
  have told := (always defaultSettings .ph
    [⟨0, blankReading⟩, ⟨1201 / 2, blankReading⟩, ⟨1201, blankReading⟩] (by decide +kernel)).1
  have silent : SilentSpan defaultSettings.windowS
      (samples .ph [⟨0, blankReading⟩, ⟨1201 / 2, blankReading⟩, ⟨1201, blankReading⟩]) :=
    ⟨[], ⟨0, none⟩, [⟨1201 / 2, none⟩], ⟨1201, none⟩, rfl, by decide +kernel, by decide +kernel⟩
  have trusted : Sensor.ph ∉ (Monitor.run defaultSettings
      [⟨0, blankReading⟩, ⟨1201 / 2, blankReading⟩, ⟨1201, blankReading⟩]).suspendedSensors := by
    decide +kernel
  exact trusted (told silent)

end Wqm1.Sensing
