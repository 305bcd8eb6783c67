import Wqm1.Control.WaterProfile

/-! Water profiles of any shape: when an installation is all or nothing, and when the baselines
in force give every rule an answer. -/

set_option autoImplicit false

namespace Wqm1.Control.WaterProfile

open Wqm1.Library

/-! Which baselines an hour can be looked up in. -/

/-- `isinstance(value, int | float)`. -/
def IsNumber : Yaml → Prop
  | .bool _ | .int _ | .float _ => True
  | _ => False

/-- An integer that no float can hold. -/
def Huge (value : Yaml) : Prop :=
  ∃ number : Int, value = .int number ∧ Double.overflow ≤ number.natAbs

/-- Buckets that are missing or falsy, a list, a text, or an object that is asked for nothing. -/
def Indexable (hour : Nat) : Option Yaml → Prop
  | none | some (.text _) | some (.seq _) => True
  | some (.mapping entries) =>
      (Dict.ofList entries).entries.length ≤ hour ∨
        ((Dict.ofList entries).get (.int hour)).isSome = true
  | some other => other.truthy = false

def hourly (hour : Nat) : Option Yaml → Option Yaml
  | some (.text word) => (word.toList[hour]?).map fun letter => .text (String.ofList [letter])
  | some (.seq items) => items[hour]?
  | some (.mapping entries) =>
      if hour < (Dict.ofList entries).entries.length then (Dict.ofList entries).get (.int hour) else none
  | _ => none

def statsAt (hour : Nat) (baseline : Dict YamlKey Yaml) : Option Yaml :=
  ((hourly hour (baseline.get (.text "buckets"))).filter Yaml.truthy).or (baseline.get (.text "overall"))

/-- Statistics without a median that is a number, or with numbers that a float can hold. -/
def Computable (stats : Dict YamlKey Yaml) : Prop :=
  ∀ median, stats.get (.text "m") = some median → IsNumber median →
    ¬Huge median ∧ ∀ mad, stats.get (.text "mad") = some mad → mad.truthy = true → IsNumber mad ∧ ¬Huge mad

/-- A baseline that gives every rule an answer at an hour. -/
def SafeAt (hour : Nat) (baseline : Dict YamlKey Yaml) : Prop :=
  (baseline.get (.text "learning")).any Yaml.truthy = true ∨
    Indexable hour (baseline.get (.text "buckets")) ∧
      ∀ entries, statsAt hour baseline = some (.mapping entries) → Computable (Dict.ofList entries)

def Succeeds {α : Type} (result : Except ProfileError α) : Prop := ∃ value, result = .ok value

theorem succeeds_ok {α : Type} (value : α) : Succeeds (.ok value : Except ProfileError α) :=
  ⟨value, rfl⟩

theorem not_succeeds_error {α : Type} (raised : ProfileError) :
    ¬Succeeds (.error raised : Except ProfileError α) := by
  intro succeeds
  obtain ⟨value, same⟩ := succeeds
  cases same

theorem succeeds_bind {α β : Type} {first : Except ProfileError α}
    {next : α → Except ProfileError β} :
    Succeeds (first.bind next) ↔ ∃ value, first = .ok value ∧ Succeeds (next value) := by
  cases first with
  | error raised =>
      refine iff_of_false (not_succeeds_error raised) fun goes => ?_
      obtain ⟨value, same, _⟩ := goes
      cases same
  | ok value =>
      constructor
      · intro goes
        exact ⟨value, rfl, goes⟩
      · intro goes
        obtain ⟨other, same, goes⟩ := goes
        cases same
        exact goes

theorem succeeds_map {α β : Type} {first : Except ProfileError α} {next : α → β} :
    Succeeds (first.map next) ↔ Succeeds first := by
  cases first with
  | error raised => exact iff_of_false (not_succeeds_error raised) (not_succeeds_error raised)
  | ok value => exact iff_of_true (succeeds_ok _) (succeeds_ok value)

theorem isNumber_iff (value : Yaml) : IsNumber value ↔ (asFloat value).isSome = true := by
  cases value <;> simp [IsNumber, asFloat]

theorem asFloat_succeeds {value : Yaml} {converted : Except ProfileError Double}
    (read : asFloat value = some converted) :
    Succeeds converted ↔ ¬Huge value := by
  cases value with
  | bool value =>
      cases read
      refine iff_of_true (succeeds_ok _) fun huge => ?_
      obtain ⟨number, same, large⟩ := huge
      cases same
  | float number =>
      cases read
      refine iff_of_true (succeeds_ok _) fun huge => ?_
      obtain ⟨number, same, large⟩ := huge
      cases same
  | int number =>
      have huge_iff : Huge (.int number) ↔ Double.ofInt number = none := by
        rw [Double.ofInt_eq_none_iff]
        constructor
        · intro huge
          obtain ⟨other, same, large⟩ := huge
          cases same
          exact large
        · intro large
          exact ⟨number, rfl, large⟩
      rw [huge_iff]
      unfold asFloat at read
      dsimp only at read
      cases fits : Double.ofInt number with
      | none =>
          rw [fits] at read
          cases read
          exact iff_of_false (not_succeeds_error _) (not_not_intro rfl)
      | some converted =>
          rw [fits] at read
          cases read
          exact iff_of_true (succeeds_ok _) nofun
  | null | text word | seq items | mapping entries | other holds => cases read

theorem madOf_succeeds (stats : Dict YamlKey Yaml) : Succeeds (madOf stats) ↔
    ∀ mad, stats.get (.text "mad") = some mad → mad.truthy = true → IsNumber mad ∧ ¬Huge mad := by
  unfold madOf
  cases held : stats.get (.text "mad") with
  | none => exact iff_of_true (succeeds_ok _) nofun
  | some mad =>
      dsimp only
      split
      next truthy =>
        have only (good : IsNumber mad ∧ ¬Huge mad) (other : Yaml) (same : some mad = some other)
            (_ : other.truthy = true) :
            IsNumber other ∧ ¬Huge other := Option.some.inj same ▸ good
        cases read : asFloat mad with
        | none =>
            refine iff_of_false (not_succeeds_error _) fun good => ?_
            have number := (isNumber_iff mad).mp (good mad rfl truthy).1
            rw [read] at number
            cases number
        | some converted =>
            rw [Option.getD_some, asFloat_succeeds read]
            have number : IsNumber mad := (isNumber_iff mad).mpr (by rw [read]; rfl)
            exact ⟨fun small => only ⟨number, small⟩, fun good => (good mad rfl truthy).2⟩
      next falsy =>
        refine iff_of_true (succeeds_ok _) fun other same truthy => ?_
        cases same
        exact absurd truthy falsy

theorem statsThreshold_succeeds (rule : Rule) (width : Rat) (stats : Dict YamlKey Yaml) :
    Succeeds (statsThreshold rule width stats) ↔ Computable stats := by
  unfold statsThreshold Computable
  cases held : stats.get (.text "m") with
  | none => exact iff_of_true (succeeds_ok _) nofun
  | some median =>
      rw [Option.bind_some]
      cases read : asFloat median with
      | none =>
          refine iff_of_true (succeeds_ok _) fun other same number => ?_
          cases same
          rw [isNumber_iff, read] at number
          cases number
      | some converted =>
          have number : IsNumber median := (isNumber_iff median).mpr (by rw [read]; rfl)
          dsimp only
          rw [succeeds_bind]
          constructor
          · intro goes other same _
            cases same
            obtain ⟨mad, madRead, goes⟩ := goes
            exact ⟨(asFloat_succeeds read).mp (succeeds_map.mp goes), (madOf_succeeds stats).mp ⟨mad, madRead⟩⟩
          · intro computable
            obtain ⟨small, mads⟩ := computable median rfl number
            obtain ⟨mad, madRead⟩ := (madOf_succeeds stats).mpr mads
            exact ⟨mad, madRead, succeeds_map.mpr ((asFloat_succeeds read).mpr small)⟩

theorem bucketAt_falsy {buckets : Yaml} (falsy : buckets.truthy = false) (hour : Nat) :
    bucketAt (some buckets) hour = .ok none := by
  unfold bucketAt
  dsimp only
  rw [if_neg (by rw [falsy]; exact Bool.false_ne_true)]
  rfl

theorem bucketAt_truthy {buckets : Yaml} (truthy : buckets.truthy = true) {count : Nat}
    (sized : size buckets = some count)
    (hour : Nat) : bucketAt (some buckets) hour =
      if hour < count then (item buckets hour).map fun found => if found.truthy then some found else none
      else .ok none := by
  unfold bucketAt
  dsimp only
  rw [if_pos truthy, sized]

theorem bucketAt_text (word : String) (hour : Nat) :
    bucketAt (some (.text word)) hour =
      .ok ((hourly hour (some (.text word))).filter Yaml.truthy) := by
  unfold hourly
  dsimp only
  cases truthy : (Yaml.text word).truthy with
  | false =>
      have empty : word = "" := by simpa [Yaml.truthy] using truthy
      rw [bucketAt_falsy truthy, empty]
      rfl
  | true =>
      rw [bucketAt_truthy truthy rfl]
      have letters : word.toList.length = word.length := String.length_toList
      by_cases inside : hour < word.length
      · have found : word.toList[hour]? = some (word.toList.get ⟨hour, letters.symm ▸ inside⟩) :=
          List.getElem?_eq_getElem _
        have shown (letter : Char) : (Yaml.text (String.ofList [letter])).truthy = true := by
          simp [Yaml.truthy]
        rw [if_pos inside, item, found]
        simp only [Except.map, Option.toList_some, Option.map_some, shown, if_true, Option.filter]
      · have missing : word.toList[hour]? = none :=
          List.getElem?_eq_none (letters.symm ▸ Nat.le_of_not_lt inside)
        rw [if_neg inside, missing]
        rfl

theorem bucketAt_seq (items : List Yaml) (hour : Nat) :
    bucketAt (some (.seq items)) hour =
      .ok ((hourly hour (some (.seq items))).filter Yaml.truthy) := by
  unfold hourly
  dsimp only
  cases truthy : (Yaml.seq items).truthy with
  | false =>
      have empty : items = [] := by simpa [Yaml.truthy] using truthy
      rw [bucketAt_falsy truthy, empty]
      rfl
  | true =>
      rw [bucketAt_truthy truthy rfl]
      by_cases inside : hour < items.length
      · rw [if_pos inside, item, List.getD_eq_getElem _ _ inside, List.getElem?_eq_getElem inside]
        simp [Except.map, Option.filter]
      · rw [if_neg inside, List.getElem?_eq_none (Nat.le_of_not_lt inside)]
        rfl

theorem bucketAt_mapping (entries : List (YamlKey × Yaml)) (hour : Nat) :
    Indexable hour (some (.mapping entries)) ∧
        bucketAt (some (.mapping entries)) hour = .ok ((hourly hour (some (.mapping entries))).filter Yaml.truthy) ∨
      ¬Indexable hour (some (.mapping entries)) ∧
        ∃ raised, bucketAt (some (.mapping entries)) hour = .error raised := by
  unfold Indexable hourly
  dsimp only
  cases truthy : (Yaml.mapping entries).truthy with
  | false =>
      have empty : entries = [] := by simpa [Yaml.truthy] using truthy
      rw [bucketAt_falsy truthy, empty]
      exact .inl ⟨.inl (Nat.zero_le hour), rfl⟩
  | true =>
      rw [bucketAt_truthy truthy rfl]
      by_cases inside : hour < (Dict.ofList entries).entries.length
      · rw [if_pos inside, if_pos inside, item]
        cases found : (Dict.ofList entries).get (.int hour) with
        | none =>
            refine .inr ⟨fun indexable => ?_, .keyError, rfl⟩
            cases indexable with
            | inl short => exact absurd inside (Nat.not_lt.mpr short)
            | inr there => cases there
        | some value =>
            refine .inl ⟨.inr rfl, ?_⟩
            simp [Except.map, Option.filter]
      · rw [if_neg inside, if_neg inside]
        exact .inl ⟨.inl (Nat.le_of_not_lt inside), rfl⟩

theorem bucketAt_unsized {buckets : Yaml} (unsized : size buckets = none) (hour : Nat) :
    buckets.truthy = false ∧ bucketAt (some buckets) hour = .ok none ∨
      ¬buckets.truthy = false ∧ ∃ raised, bucketAt (some buckets) hour = .error raised := by
  cases truthy : buckets.truthy with
  | false => exact .inl ⟨rfl, bucketAt_falsy truthy hour⟩
  | true =>
      refine .inr ⟨nofun, .typeError, ?_⟩
      unfold bucketAt
      dsimp only
      rw [if_pos truthy, unsized]

/-- The bucket of an hour, or an exception where the buckets cannot be asked. -/
theorem bucketAt_cases (buckets : Option Yaml) (hour : Nat) :
    Indexable hour buckets ∧
      bucketAt buckets hour = .ok ((hourly hour buckets).filter Yaml.truthy) ∨
      ¬Indexable hour buckets ∧ ∃ raised, bucketAt buckets hour = .error raised := by
  cases buckets with
  | none => exact .inl ⟨trivial, rfl⟩
  | some value =>
      cases value with
      | text word => exact .inl ⟨trivial, bucketAt_text word hour⟩
      | seq items => exact .inl ⟨trivial, bucketAt_seq items hour⟩
      | mapping entries => exact bucketAt_mapping entries hour
      | null | bool value | int number | float number | other holds => exact bucketAt_unsized rfl hour

theorem baselineThreshold_succeeds (rule : Rule) (width : Rat) (hour : Nat)
    (baseline : Dict YamlKey Yaml) :
    Succeeds (baselineThreshold rule width hour baseline) ↔ SafeAt hour baseline := by
  unfold baselineThreshold SafeAt
  split
  next learning => exact iff_of_true (succeeds_ok _) (.inl learning)
  next learned =>
    rw [succeeds_bind, or_iff_right learned]
    cases bucketAt_cases (baseline.get (.text "buckets")) hour with
    | inl found =>
        rw [and_iff_right found.1, found.2]
        simp only [Except.ok.injEq, exists_eq_left']
        split
        next entries picked =>
          have chosen : statsAt hour baseline = some (.mapping entries) := picked
          rw [chosen, statsThreshold_succeeds]
          exact ⟨fun fine other same => (by cases same; exact fine), fun fine => fine entries rfl⟩
        next other => exact iff_of_true (succeeds_ok _) fun entries chosen => absurd chosen (other entries)
    | inr raises =>
        obtain ⟨unindexable, raised, same⟩ := raises
        rw [same]
        refine iff_of_false (fun goes => ?_) fun safe => unindexable safe.1
        obtain ⟨bucket, fails, _⟩ := goes
        cases fails

theorem resolveThreshold_succeeds (baselines : Dict YamlKey Yaml) (rule : Rule) (hour : Nat) :
    Succeeds (resolveThreshold baselines rule hour) ↔ (rule.adaptiveK.isSome = true → ∀ entries,
      baselines.get (.text (paramOf rule.sensor)) = some (.mapping entries) → SafeAt hour (Dict.ofList entries)) := by
  unfold resolveThreshold
  cases rule.adaptiveK with
  | none => exact iff_of_true (succeeds_ok _) nofun
  | some width =>
      dsimp only
      split
      next entries held =>
        rw [held, baselineThreshold_succeeds]
        exact ⟨fun safe _ other same => (by cases same; exact safe), fun safe => safe rfl entries rfl⟩
      next other => exact iff_of_true (succeeds_ok _) fun _ entries held => absurd held (other entries)

theorem succeeds_mapM {α β : Type} {ask : α → Except ProfileError β} {items : List α} :
    Succeeds (items.mapM ask) ↔ ∀ item ∈ items, Succeeds (ask item) := by
  induction items with
  | nil => exact iff_of_true (succeeds_ok []) nofun
  | cons item rest ih =>
      rw [List.mapM_cons, List.forall_mem_cons, ← ih]
      cases ask item with
      | error raised => exact iff_of_false (not_succeeds_error raised) fun both => not_succeeds_error raised both.1
      | ok value =>
          refine (?_ : Succeeds (List.mapM ask rest >>= fun values => pure (value :: values)) ↔ _).trans
            (and_iff_right (succeeds_ok value)).symm
          cases List.mapM ask rest with
          | error raised => exact iff_of_false (not_succeeds_error raised) (not_succeeds_error raised)
          | ok values => exact iff_of_true (succeeds_ok _) (succeeds_ok values)

/-! Runs of installations, restarts and evaluations. -/

inductive ProfileEvent where
  | install (profile : Profile) (persist written : Bool)
  | restart
  | evaluate (engine : RulesEngine) (cycle : Cycle)

def step (state : ProfileState) : ProfileEvent → ProfileState
  | .install profile persist written => state.applyWaterProfile profile persist written
  | .restart => state.restart
  | .evaluate _ _ => state

def run (state : ProfileState) (events : List ProfileEvent) : ProfileState :=
  events.foldl step state

/-- Nothing has changed, or the profile is in force and, where it can be, in the cache. -/
def AllOrNothing (profile : Profile) (persist written : Bool) (before after : ProfileState) : Prop :=
  (after.baselines = before.baselines ∧ after.cache = before.cache) ∨
    (after.baselines = paramsOf profile ∧ (persist = true → written = true → after.cache = some profile))

/-- What is asked of a step from a state. -/
def Holds (state : ProfileState) : ProfileEvent → Prop
  | .install profile persist written =>
    AllOrNothing profile persist written state (step state (.install profile persist written))
  | .restart => True
  | .evaluate engine cycle => Succeeds (thresholds state.baselines engine cycle)

def AllObjects (profile : Profile) : Prop :=
  ∀ entry ∈ (paramsOf profile).entries, ∃ entries, entry.2 = .mapping entries

/-- A profile that can be walked, or one that is not to be written, or that changes nothing. -/
def Installable (state : ProfileState) (profile : Profile) (persist written : Bool) : Prop :=
  AllObjects profile ∨ persist = false ∨ written = false ∨ state.baselines = paramsOf profile ∨
    state.cache = some profile

/-- Every adaptive rule that is asked finds a baseline that is safe at the hour, or none. -/
def SafeToAsk (baselines : Dict YamlKey Yaml) (engine : RulesEngine) (cycle : Cycle) : Prop :=
  ∀ rule ∈ asked engine cycle, rule.adaptiveK.isSome = true → ∀ entries,
    baselines.get (.text (paramOf rule.sensor)) = some (.mapping entries) →
      SafeAt cycle.wall.utcHour (Dict.ofList entries)

def Condition (state : ProfileState) : ProfileEvent → Prop
  | .install profile persist written => Installable state profile persist written
  | .restart => True
  | .evaluate engine cycle => SafeToAsk state.baselines engine cycle

theorem walk_succeeds (entries : List (YamlKey × Yaml)) :
    Succeeds (walk entries) ↔ ∀ entry ∈ entries, ∃ inner, entry.2 = .mapping inner := by
  induction entries with
  | nil => exact iff_of_true (succeeds_ok ()) nofun
  | cons entry rest ih =>
      rw [List.forall_mem_cons]
      obtain ⟨key, value⟩ := entry
      cases value with
      | mapping inner => exact ih.trans (and_iff_right ⟨inner, rfl⟩).symm
      | null | bool value | int number | float number | text word | seq items | other holds =>
          refine iff_of_false (not_succeeds_error _) fun both => ?_
          obtain ⟨inner, same⟩ := both.1
          cases same

theorem applyWaterProfile_eq (state : ProfileState) (profile : Profile) (persist written : Bool) :
    AllObjects profile ∧ state.applyWaterProfile profile persist written =
        ⟨paramsOf profile, if persist && written then some profile else state.cache⟩ ∨
      ¬AllObjects profile ∧
        state.applyWaterProfile profile persist written = ⟨paramsOf profile, state.cache⟩ := by
  unfold ProfileState.applyWaterProfile ProfileState.setBaselines
  have walks := walk_succeeds (paramsOf profile).entries
  cases walked : walk (paramsOf profile).entries with
  | error raised =>
      rw [walked] at walks
      exact .inr ⟨fun objects => not_succeeds_error raised (walks.mpr objects), rfl⟩
  | ok done =>
      rw [walked] at walks
      refine .inl ⟨walks.mp (succeeds_ok done), ?_⟩
      cases persist && written <;> rfl

theorem install_iff (state : ProfileState) (profile : Profile) (persist written : Bool) :
    AllOrNothing profile persist written state (state.applyWaterProfile profile persist written) ↔
      Installable state profile persist written := by
  unfold AllOrNothing Installable
  cases applyWaterProfile_eq state profile persist written with
  | inl objects =>
      rw [objects.2]
      refine iff_of_true (.inr ⟨rfl, fun asked succeeds => ?_⟩) (.inl objects.1)
      rw [asked, succeeds]
      rfl
  | inr odd =>
      rw [odd.2, or_iff_right odd.1]
      constructor
      · intro whole
        cases whole with
        | inl same => exact .inr (.inr (.inl same.1.symm))
        | inr installed =>
            cases persist with
            | false => exact .inl rfl
            | true =>
                cases written with
                | false => exact .inr (.inl rfl)
                | true => exact .inr (.inr (.inr (installed.2 rfl rfl)))
      · intro harmless
        rcases harmless with off | fails | same | cached
        · exact .inr ⟨rfl, fun asked _ => by cases off.symm.trans asked⟩
        · exact .inr ⟨rfl, fun _ succeeds => by cases fails.symm.trans succeeds⟩
        · exact .inl ⟨same.symm, rfl⟩
        · exact .inr ⟨rfl, fun _ _ => cached⟩

theorem thresholds_iff (baselines : Dict YamlKey Yaml) (engine : RulesEngine) (cycle : Cycle) :
    Succeeds (thresholds baselines engine cycle) ↔ SafeToAsk baselines engine cycle := by
  unfold thresholds SafeToAsk
  rw [succeeds_mapM]
  exact forall₂_congr fun rule _ => resolveThreshold_succeeds baselines rule cycle.wall.utcHour

theorem holds_iff_condition (state : ProfileState) (event : ProfileEvent) :
    Holds state event ↔ Condition state event := by
  cases event with
  | install profile persist written => exact install_iff state profile persist written
  | restart => exact Iff.rfl
  | evaluate engine cycle => exact thresholds_iff state.baselines engine cycle

/-- Every step of a run does what is asked of it if and only if every step meets its condition
in the state that the steps before it leave. -/
theorem run_holds_iff (state : ProfileState) (events : List ProfileEvent) :
    (∀ before event later, events = before ++ event :: later → Holds (run state before) event) ↔
      ∀ before event later, events = before ++ event :: later → Condition (run state before) event :=
  forall₄_congr fun before event _ _ => holds_iff_condition (run state before) event

def SoundBaselines (baselines : Dict YamlKey Yaml) : Prop :=
  ∀ key entries, baselines.get key = some (.mapping entries) →
    ∀ hour, SafeAt hour (Dict.ofList entries)

structure SoundProfile (profile : Profile) : Prop where
  objects : AllObjects profile
  safe : SoundBaselines (paramsOf profile)

structure SoundState (state : ProfileState) : Prop where
  baselines : SoundBaselines state.baselines
  cache : ∀ profile, state.cache = some profile → SoundProfile profile

theorem soundBaselines_empty : SoundBaselines .empty := fun _ _ held => by cases held

theorem SoundState.apply {state : ProfileState} (sound : SoundState state) {profile : Profile}
    (fine : SoundProfile profile) (persist written : Bool) :
    SoundState (state.applyWaterProfile profile persist written) := by
  cases applyWaterProfile_eq state profile persist written with
  | inl objects =>
      rw [objects.2]
      refine ⟨fine.safe, fun cached same => ?_⟩
      dsimp only at same
      split at same
      next => exact Option.some.inj same ▸ fine
      next => exact sound.cache cached same
  | inr odd => exact absurd fine.objects odd.1

theorem SoundState.step {state : ProfileState} (sound : SoundState state) {event : ProfileEvent}
    (fine : ∀ profile persist written, event = .install profile persist written → SoundProfile profile) :
    SoundState (WaterProfile.step state event) := by
  cases event with
  | install profile persist written => exact sound.apply (fine profile persist written rfl) persist written
  | evaluate engine cycle => exact sound
  | restart =>
      show SoundState state.restart
      have fresh : SoundState { state with baselines := .empty } :=
        ⟨soundBaselines_empty, sound.cache⟩
      unfold ProfileState.restart
      split
      next => exact fresh
      next profile cached => exact fresh.apply (sound.cache profile cached) false false

/-- Where all profiles are sound, every step of a run does what is asked of it. -/
theorem sound_run_holds {state : ProfileState} (sound : SoundState state)
    {events : List ProfileEvent}
    (fine : ∀ profile persist written, .install profile persist written ∈ events → SoundProfile profile)
    {before later : List ProfileEvent} {event : ProfileEvent}
      (split : events = before ++ event :: later) :
    Holds (run state before) event := by
  rw [split] at fine
  have reached : SoundState (run state before) := by
    have known (profile : Profile) (persist written : Bool)
        (member : .install profile persist written ∈ before) :
        SoundProfile profile := fine profile persist written (List.mem_append_left _ member)
    clear fine split
    induction before generalizing state with
    | nil => exact sound
    | cons first rest ih =>
        refine ih (sound.step fun profile persist written same => ?_) fun profile persist written member =>
          known profile persist written (List.mem_cons_of_mem _ member)
        exact known profile persist written (same ▸ List.mem_cons_self)
  rw [holds_iff_condition]
  cases event with
  | install profile persist written =>
      exact .inl (fine profile persist written (List.mem_append_right _ List.mem_cons_self)).objects
  | restart => trivial
  | evaluate engine cycle => exact fun rule _ _ entries held => reached.baselines _ entries held _

/-- A number as the statistics of a parameter: the walk fails, the baselines stay and the cache
does not follow. -/
theorem odd_profile_half_installed : ¬∀ before event later,
    [ProfileEvent.install (Dict.empty.set "params" (.mapping [(.text "ph", .int 7)])) true true] = before ++ event :: later →
      Holds (run {} before) event := by
  intro holds
  have first := holds [] _ [] rfl
  rw [holds_iff_condition] at first
  rcases first with objects | off | fails | same | cached
  · obtain ⟨entries, same⟩ := objects (.text "ph", .int 7) List.mem_cons_self
    cases same
  · cases off
  · cases fails
  · have keys := congrArg (fun dict => dict.keys) same
    cases keys
  · cases cached

/-! Baselines in the documented form. -/

/-- The documented form of the statistics, where a missing number is left out. -/
def statsDocument (samples : Nat) (stats : Stats) : Yaml :=
  .mapping (((stats.m.map fun median => (YamlKey.text "m", Yaml.float (.finite median))).toList ++
    (stats.mad.map fun mad => (YamlKey.text "mad", Yaml.float (.finite mad))).toList) ++ [(.text "n", .int samples)])

def baselineDocument (samples : Nat) (baseline : Baseline) : Yaml :=
  .mapping [(.text "learning", .bool baseline.learning),
    (.text "buckets", .seq (baseline.buckets.map fun stats => stats.elim .null (statsDocument samples))),
    (.text "overall", baseline.overall.elim .null (statsDocument samples))]

theorem get_statsDocument (samples : Nat) (stats : Stats) :
    ∃ entries, statsDocument samples stats = .mapping entries ∧
    entries ≠ [] ∧
    (Dict.ofList entries).get (.text "m") = stats.m.map (fun median => .float (.finite median)) ∧
    (Dict.ofList entries).get (.text "mad") = stats.mad.map (fun mad => .float (.finite mad)) := by
  obtain ⟨m, mad⟩ := stats
  refine ⟨_, rfl, by simp, ?_, ?_⟩
  · cases m <;> cases mad <;> rfl
  · cases m <;> cases mad <;> rfl

/-- On the documented form the statistics give what the engine's own reading of them gives. -/
theorem statsThreshold_document (rule : Rule) (width : Rat) (samples : Nat) (stats : Stats) :
    ∃ entries, statsDocument samples stats = .mapping entries ∧ entries ≠ [] ∧
      statsThreshold rule width (Dict.ofList entries) =
        .ok (stats.m.map fun median => band rule width (.finite median) (.finite (stats.mad.getD 0))) := by
  obtain ⟨entries, same, filled, median_eq, mad_eq⟩ := get_statsDocument samples stats
  refine ⟨entries, same, filled, ?_⟩
  unfold statsThreshold
  rw [median_eq]
  cases stats.m with
  | none => rfl
  | some median =>
      have mads : madOf (Dict.ofList entries) = .ok (.finite (stats.mad.getD 0)) := by
        unfold madOf
        rw [mad_eq]
        cases stats.mad with
        | none => rfl
        | some mad =>
            dsimp only [Option.map_some, Option.getD_some]
            split
            next => rfl
            next falsy =>
              have zero : mad = 0 := by simpa [Yaml.truthy] using falsy
              rw [zero]
      change (madOf (Dict.ofList entries)).bind _ = _
      rw [mads]
      rfl

theorem or_document (samples hour : Nat) (buckets : List (Option Stats)) (overall : Option Stats) :
    ((hourly hour (some (.seq (buckets.map fun stats => stats.elim .null (statsDocument samples))))).filter
        Yaml.truthy).or (some (overall.elim .null (statsDocument samples))) =
      some ((((buckets[hour]?).join).or overall).elim .null (statsDocument samples)) := by
  unfold hourly
  dsimp only
  rw [List.getElem?_map]
  cases buckets[hour]? with
  | none => rfl
  | some bucket =>
      cases bucket with
      | none => rfl
      | some stats =>
          obtain ⟨entries, same, filled, _⟩ := get_statsDocument samples stats
          have truthy : (statsDocument samples stats).truthy = true := by
            rw [same]
            simpa [Yaml.truthy] using filled
          simp only [Option.map_some, Option.elim_some, Option.filter, truthy, if_true, Option.join_some, Option.some_or]

theorem get_baselineDocument (samples : Nat) (baseline : Baseline) : ∃ entries,
    baselineDocument samples baseline = .mapping entries ∧
    (Dict.ofList entries).get (.text "learning") = some (.bool baseline.learning) ∧
    (Dict.ofList entries).get (.text "buckets") =
      some (.seq (baseline.buckets.map fun stats => stats.elim .null (statsDocument samples))) ∧
    (Dict.ofList entries).get (.text "overall") =
      some (baseline.overall.elim .null (statsDocument samples)) :=
  ⟨_, rfl, rfl, rfl, rfl⟩

theorem baselineThreshold_document (rule : Rule) (width : Rat) (samples hour : Nat)
    (baseline : Baseline) :
    ∃ entries, baselineDocument samples baseline = .mapping entries ∧
      baselineThreshold rule width hour (Dict.ofList entries) =
        .ok (if baseline.learning then none
          else (((baseline.buckets[hour]?).join).or baseline.overall).bind fun stats =>
            stats.m.map fun median => band rule width (.finite median)
              (.finite (stats.mad.getD 0))) := by
  obtain ⟨entries, same, learning, buckets, overall⟩ := get_baselineDocument samples baseline
  refine ⟨entries, same, ?_⟩
  unfold baselineThreshold
  rw [learning, buckets, overall, bucketAt_seq]
  cases baseline.learning with
  | true => rfl
  | false =>
      rw [if_neg (by decide), if_neg Bool.false_ne_true]
      dsimp only [Except.bind]
      rw [or_document]
      cases ((baseline.buckets[hour]?).join).or baseline.overall with
      | none => rfl
      | some stats =>
          obtain ⟨entries, same, _, resolved⟩ := statsThreshold_document rule width samples stats
          rw [Option.elim_some, same]
          exact resolved

theorem band_finite (rule : Rule) (width median mad : Rat) :
    band rule width (.finite median) (.finite mad) =
    .finite (if rule.operator = some .gt ∨ rule.operator = some .ge then
        median + width * max (mad * madToSigma) ((madFloors.lookup rule.sensor).getD (1 / 2))
      else median - width * max (mad * madToSigma)
        ((madFloors.lookup rule.sensor).getD (1 / 2))) := by
  have sigma (floor : Rat) :
      atLeast (.finite (mad * madToSigma)) floor = .finite (max (mad * madToSigma) floor) := by
    unfold atLeast Double.lt
    by_cases low : mad * madToSigma < floor
    · rw [if_pos (decide_eq_true low), max_eq_right (le_of_lt low)]
    · rw [if_neg (by simpa using low), max_eq_left (not_lt.mp low)]
  unfold band scaled
  dsimp only
  rw [sigma]
  dsimp only [plus, minus]
  split
  next => rw [mul_comm width]
  next => rw [mul_comm width, sub_eq_add_neg]

/-- For baselines in the documented form the threshold is that of the rules engine. -/
theorem resolveThreshold_document {engine : RulesEngine} {baselines : Dict YamlKey Yaml}
    {samples : Nat}
    (documented : ∀ param, baselines.get (.text param) = (engine.baselines param).map (baselineDocument samples))
    (rule : Rule) (wall : WallClock) :
    resolveThreshold baselines rule wall.utcHour =
      .ok ((engine.resolveThreshold rule wall).map .finite) := by
  unfold resolveThreshold RulesEngine.resolveThreshold
  cases rule.adaptiveK with
  | none => rfl
  | some width =>
      dsimp only
      rw [documented]
      cases engine.baselines (paramOf rule.sensor) with
      | none => rfl
      | some baseline =>
          obtain ⟨entries, same, resolved⟩ :=
            baselineThreshold_document rule width samples wall.utcHour baseline
          rw [Option.map_some, same]
          refine resolved.trans (congrArg Except.ok ?_)
          cases learning : baseline.learning with
          | true => simp [learning]
          | false =>
              cases found : ((baseline.buckets[wall.utcHour]?).join).or baseline.overall with
              | none => simp [found, learning]
              | some stats =>
                  cases median : stats.m with
                  | none => simp [found, median, learning]
                  | some m =>
                      simp only [found, median, learning, Option.bind_some, Option.map_some, Option.bind_eq_bind,
                        Bool.false_eq_true, if_false, band_finite]
                      split <;> rfl

end Wqm1.Control.WaterProfile
