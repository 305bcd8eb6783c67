import Wqm1.Ota.Agent

/-! What a failed update leaves behind, whatever raises. -/

set_option autoImplicit false

namespace Wqm1.Ota

open Wqm1.Library Wqm1.Library.Prog

/-- The agent on a unit where every call may raise, also the write of the state file. -/
def Agent.onUnit (agent : Agent) : System World Call.Answer Unit Empty where
  program _ := do
    let _ ← agent.checkAndApply
    pure ()
  starts _ _ := true
  perform := agent.perform
  answers := legal
  effect effect _ := effect.elim
  permits effect _ := effect.elim
  restart world := world
  crashes _ := false

/-- A removal that took something of the running release, or the link to it. -/
def Entry.Hits (agent : Agent) (path : Path) : Entry → Prop
  | ⟨.removeTree dir, some removal⟩ =>
    dir <+: path ∧ World.Removal.left removal path ≠ .whole ∨
      dir <+: agent.currentLink ∧ World.Removal.left removal agent.currentLink ≠ .whole
  | _ => False

/-- A step of the flip that raised. -/
def Entry.FlipRaised : Entry → Prop
  | ⟨.clearTmp, none⟩ => True
  | ⟨.linkTmp _, none⟩ => True
  | ⟨.replaceCurrent _, none⟩ => True
  | _ => False

def Entry.RestartRaised : Entry → Prop
  | ⟨.restartServices, none⟩ => True
  | _ => False

/-- The record that an update is being applied was written. -/
def Entry.Applies : Entry → Prop
  | ⟨.writeState record, some written⟩ => record.phase = .applying ∧ written = true
  | _ => False

/-- The recorded phase is not an incomplete one. -/
def World.Settled (world : World) : Prop :=
  ∀ record, world.record = some record → ¬ record.phase.incomplete

/-- No earlier update was left unfinished, the removals spare the running release, and
after the record was written neither the flip nor the restart raises. -/
structure FailsEarly (agent : Agent) (path : Path) (start : World) (log : List Entry) : Prop where
  settled : start.Settled
  spared : ∀ entry ∈ log, ¬ entry.Hits agent path
  flips : ∀ entry ∈ log, entry.FlipRaised → ∀ other ∈ log, ¬ other.Applies
  restarts : ∀ entry ∈ log, ¬ entry.RestartRaised

/-- The failed call left everything as it was exactly when it failed early. -/
def Verdict (agent : Agent) (path : Path) (release : Release) (start world : World) : Prop :=
  world.running = some (path, release) ∧ world.Settled ↔ FailsEarly agent path start world.log

/-- Another directory than the release is at its place, or the link is gone. -/
def Lost (path : Path) (release : Release) (world : World) : Prop :=
  world.current = none ∨
    ∀ found, world.dirs path = some found → release.serial < found.serial ∨
      release.losses < found.losses

/-- The running release is still what it was, or a removal has hit it. -/
def Tracked (agent : Agent) (path : Path) (release : Release) (world : World) : Prop :=
  world.current = some path ∧ world.dirs path = some release ∧
    (∀ entry ∈ world.log, ¬ entry.Hits agent path) ∨
    Lost path release world ∧ ∃ entry ∈ world.log, entry.Hits agent path

section

variable {agent : Agent} {path : Path} {release : Release} {start world : World}

theorem Lost.not_running (lost : Lost path release world) :
    world.running ≠ some (path, release) := by
  intro running
  obtain ⟨current, there⟩ := running_iff.mp running
  cases lost with
  | inl gone =>
    rw [gone] at current
    cases current
  | inr other =>
    have differs := other release there
    omega

/-- A call that changes neither a release nor which one runs nor the record, and that is
no step of a flip. -/
def Call.Plain : Call → Prop
  | removeTree _ => False
  | makeDir _ => False
  | extract _ _ => False
  | rename _ _ => False
  | writeState _ => False
  | clearTmp => False
  | linkTmp _ => False
  | replaceCurrent _ => False
  | restartServices => False
  | _ => True

/-- A call before the record is written. -/
def Call.Early : Call → Prop
  | writeState _ => False
  | clearTmp => False
  | linkTmp _ => False
  | replaceCurrent _ => False
  | restartServices => False
  | _ => True

theorem plain_of_harmless {bundle : Path} {request : Call} (harmless : request.Harmless bundle) :
    request.Plain := by
  cases request <;> trivial

theorem early_of_plain {request : Call} (plain : request.Plain) : request.Early := by
  cases request <;> trivial

theorem not_hits {request : Call} {answer : Option request.Answer}
    (other : ∀ dir, request ≠ .removeTree dir) :
    ¬ Entry.Hits agent path ⟨request, answer⟩ := by
  cases request with
  | removeTree dir => exact absurd rfl (other dir)
  | _ => cases answer <;> exact id

theorem not_flipRaised {entry : Entry} (early : entry.request.Early) : ¬ entry.FlipRaised := by
  obtain ⟨request, answer⟩ := entry
  cases request <;> cases answer <;> first | exact early.elim | exact id

theorem not_restartRaised {entry : Entry} (early : entry.request.Early) :
    ¬ entry.RestartRaised := by
  obtain ⟨request, answer⟩ := entry
  cases request <;> cases answer <;> first | exact early.elim | exact id

theorem not_applies {entry : Entry} (early : entry.request.Early) : ¬ entry.Applies := by
  obtain ⟨request, answer⟩ := entry
  cases request <;> cases answer <;> first | exact early.elim | exact id

/-- Before the record is written. -/
structure Stage (agent : Agent) (path : Path) (release : Release) (start world : World) : Prop where
  tracked : Tracked agent path release world
  record : world.record = start.record
  early : ∀ entry ∈ world.log, entry.request.Early
  numbered : release.serial < world.made

theorem Stage.verdict (stage : Stage agent path release start world) :
    Verdict agent path release start world := by
  have settled : world.Settled ↔ start.Settled := by
    unfold World.Settled
    rw [stage.record]
  constructor
  · rintro ⟨running, ended⟩
    refine ⟨settled.mp ended, ?_, fun entry member raised => ?_, fun entry member => ?_⟩
    · cases stage.tracked with
      | inl kept => exact kept.2.2
      | inr lost => exact absurd running lost.1.not_running
    · exact absurd raised (not_flipRaised (stage.early entry member))
    · exact not_restartRaised (stage.early entry member)
  · rintro ⟨began, spared, _, _⟩
    refine ⟨?_, settled.mpr began⟩
    cases stage.tracked with
    | inl kept => exact running_iff.mpr ⟨kept.1, kept.2.1⟩
    | inr lost =>
      obtain ⟨entry, member, hits⟩ := lost.2
      exact absurd hits (spared entry member)

/-- What a plain call leaves as it was. -/
theorem plain_same {request : Call} (plain : request.Plain) (answer : Option request.Answer) :
    (agent.perform request answer world).dirs = world.dirs ∧
      (agent.perform request answer world).current = world.current ∧
      (agent.perform request answer world).record = world.record ∧
      (agent.perform request answer world).made = world.made := by
  cases answer <;> cases request <;> first | exact ⟨rfl, rfl, rfl, rfl⟩ | exact plain.elim

theorem Stage.next {request : Call} {answer : Option request.Answer}
    (stage : Stage agent path release start world)
    (early : request.Early)
    (tracked : Tracked agent path release (agent.perform request answer world)) :
    Stage agent path release start (agent.perform request answer world) := by
  have record : (agent.perform request answer world).record = world.record := by
    cases answer <;> cases request <;> first | rfl | exact early.elim
  have made : world.made ≤ (agent.perform request answer world).made := by
    cases answer <;> cases request <;> first | exact early.elim | exact Nat.le_refl world.made | exact Nat.le_succ world.made
  refine ⟨tracked, record.trans stage.record, fun entry member => ?_, Nat.lt_of_lt_of_le stage.numbered made⟩
  cases List.mem_cons.mp member with
  | inl now => exact now ▸ early
  | inr before => exact stage.early entry before

/-- What stays tracked: the release is still there and was not hit, or is lost as before. -/
theorem Tracked.next {request : Call} {answer : Option request.Answer}
    (tracked : Tracked agent path release world)
    (kept : world.current = some path → world.dirs path = some release →
      (agent.perform request answer world).current = some path ∧
        (agent.perform request answer world).dirs path = some release ∧
          ¬ Entry.Hits agent path ⟨request, answer⟩ ∨
      Lost path release (agent.perform request answer world) ∧
        Entry.Hits agent path ⟨request, answer⟩)
    (lost : Lost path release world → Lost path release (agent.perform request answer world)) :
    Tracked agent path release (agent.perform request answer world) := by
  cases tracked with
  | inl whole =>
    obtain ⟨current, there, spared⟩ := whole
    cases kept current there with
    | inl still =>
      obtain ⟨current, there, missed⟩ := still
      refine .inl ⟨current, there, fun entry member => ?_⟩
      cases List.mem_cons.mp member with
      | inl now => exact now ▸ missed
      | inr before => exact spared entry before
    | inr hit => exact .inr ⟨hit.1, _, List.mem_cons_self, hit.2⟩
  | inr gone =>
    obtain ⟨gone, entry, member, hits⟩ := gone
    exact .inr ⟨lost gone, entry, List.mem_cons_of_mem _ member, hits⟩

theorem Stage.plain (stage : Stage agent path release start world) (request : Call)
    (plain : request.Plain)
    (answer : Option request.Answer) :
    Stage agent path release start (agent.perform request answer world) := by
  have dirs : (agent.perform request answer world).dirs = world.dirs := (plain_same plain answer).1
  have current : (agent.perform request answer world).current = world.current :=
    (plain_same plain answer).2.1
  have misses : ¬ Entry.Hits agent path ⟨request, answer⟩ := not_hits fun dir same => by
    rw [same] at plain
    exact plain
  refine stage.next (early_of_plain plain)
    (stage.tracked.next (fun now there => .inl ?_) fun lost => ?_)
  · exact ⟨current.trans now, (congrFun dirs path).trans there, misses⟩
  · unfold Lost
    rw [dirs, current]
    exact lost

theorem remainder_lost {remains : Remains} (taken : remains ≠ .whole) {found : Release}
    (left : World.remainder release remains = some found) :
    release.serial < found.serial ∨ release.losses < found.losses := by
  cases remains with
  | whole => exact absurd rfl taken
  | damaged =>
    cases left
    exact .inr (Nat.lt_succ_self _)
  | gone => cases left

theorem remainder_grows {remains : Remains} {found left : Release}
    (same : World.remainder found remains = some left) :
    left.serial = found.serial ∧ found.losses ≤ left.losses := by
  cases remains with
  | whole =>
    cases same
    exact ⟨rfl, Nat.le_refl _⟩
  | damaged =>
    cases same
    exact ⟨rfl, Nat.le_succ _⟩
  | gone => cases same

theorem Stage.removeTree (stage : Stage agent path release start world) (dir : Path)
    (answer : Option Removal) :
    Stage agent path release start (agent.perform (.removeTree dir) answer world) := by
  refine stage.next trivial ?_
  cases answer with
  | none => exact stage.tracked.next (fun current there => .inl ⟨current, there, id⟩) id
  | some removal =>
    refine stage.tracked.next (fun current there => ?_) fun lost => ?_
    · by_cases link : dir <+: agent.currentLink ∧
        World.Removal.left removal agent.currentLink ≠ .whole
      · exact .inr ⟨.inl (if_pos link), .inr link⟩
      · by_cases hit : dir <+: path ∧ World.Removal.left removal path ≠ .whole
        · refine .inr ⟨.inr fun found left => ?_, .inl hit⟩
          have left : (world.dirs path).bind (fun release => World.remainder release
              (World.Removal.left removal path)) = some found := (if_pos hit.1).symm.trans left
          rw [there, Option.bind_some] at left
          exact remainder_lost hit.2 left
        · refine .inl ⟨(if_neg link).trans current, ?_, not_or.mpr ⟨hit, link⟩⟩
          change (if dir <+: path then _ else _) = _
          split
          next above =>
            have whole : World.Removal.left removal path = .whole :=
              not_not.mp fun taken => hit ⟨above, taken⟩
            rw [there, Option.bind_some, whole]
            rfl
          next => exact there
    · cases lost with
      | inl gone =>
        left
        change (if _ then none else world.current) = none
        rw [gone, ite_self]
      | inr other =>
        refine .inr fun found left => ?_
        change (if dir <+: path then _ else _) = _ at left
        split at left
        next =>
          obtain ⟨before, there, same⟩ := Option.bind_eq_some_iff.mp left
          obtain ⟨serial, losses⟩ := remainder_grows same
          have differs := other before there
          omega
        next => exact other found left

/-- A directory that came later than the running release. -/
def Later (dir : Path) (release : Release) (world : World) : Prop :=
  ∀ found, world.dirs dir = some found → release.serial < found.serial

theorem dirs_makeDir (dir other : Path) : (world.makeDir dir).dirs other =
    if other <+: dir ∧ world.dirs other = none then some { complete := false, serial := world.made }
    else world.dirs other := rfl

theorem Stage.makeDir (stage : Stage agent path release start world) (dir : Path)
    (answer : Option Unit) :
    Stage agent path release start (agent.perform (.makeDir dir) answer world) := by
  refine stage.next trivial ?_
  cases answer with
  | none => exact stage.tracked.next (fun current there => .inl ⟨current, there, id⟩) id
  | some _ =>
    refine stage.tracked.next
      (fun current there => .inl ⟨current, ?_, id⟩) fun lost => lost.imp_right ?_
    · refine (dirs_makeDir dir path).trans ?_
      rw [if_neg, there]
      rw [there]
      exact fun both => nomatch both.2
    · intro other found made
      have made := (dirs_makeDir dir path).symm.trans made
      split at made
      next =>
        cases made
        exact .inl stage.numbered
      next => exact other found made

theorem later_makeDir (stage : Stage agent path release start world) {dir : Path}
    (absent : world.dirs dir = none) :
    Later dir release (agent.perform (.makeDir dir) (some ()) world) := by
  intro found made
  have made := (dirs_makeDir dir dir).symm.trans made
  rw [if_pos ⟨List.prefix_rfl, absent⟩] at made
  cases made
  exact stage.numbered

/-- The running release is not in a directory that came later. -/
theorem Later.ne {dir : Path} (later : Later dir release world)
    (there : world.dirs path = some release) :
    path ≠ dir := by
  rintro rfl
  exact Nat.lt_irrefl _ (later release there)

theorem dirs_extract (dir other : Path) (finished : Bool) :
    (world.extract dir finished).dirs other =
    if other = dir then (world.dirs dir).map fun release => { release with complete := finished }
    else world.dirs other := Function.update_apply ..

theorem Stage.extract (stage : Stage agent path release start world) {dir : Path}
    (later : Later dir release world)
    (bundle : Path) (answer : Option Bool) :
    Stage agent path release start (agent.perform (.extract bundle dir) answer world) := by
  refine stage.next trivial ?_
  cases answer with
  | none => exact stage.tracked.next (fun current there => .inl ⟨current, there, id⟩) id
  | some finished =>
    refine stage.tracked.next
      (fun current there => .inl ⟨current, ?_, id⟩) fun lost => lost.imp_right ?_
    · exact ((dirs_extract dir path finished).trans (if_neg (later.ne there))).trans there
    · intro other found filled
      have filled := (dirs_extract dir path finished).symm.trans filled
      split at filled
      next =>
        obtain ⟨before, there, same⟩ := Option.map_eq_some_iff.mp filled
        cases same
        exact .inl (later before there)
      next => exact other found filled

theorem later_extract (agent : Agent) {dir : Path} (later : Later dir release world) (bundle : Path)
    (finished : Bool) :
    Later dir release (agent.perform (.extract bundle dir) (some finished) world) := by
  intro found filled
  have filled := (dirs_extract dir dir finished).symm.trans filled
  rw [if_pos rfl] at filled
  obtain ⟨before, there, same⟩ := Option.map_eq_some_iff.mp filled
  cases same
  exact later before there

theorem dirs_rename (source target other : Path) : (world.rename source target).dirs other =
    if other = target then world.dirs source else if other = source then none else world.dirs other := by
  unfold World.rename
  dsimp only
  rw [Function.update_apply, Function.update_apply]

theorem Stage.rename (stage : Stage agent path release start world) {source target : Path}
    (later : Later source release world) (absent : world.dirs target = none)
    (answer : Option Unit) :
    Stage agent path release start (agent.perform (.rename source target) answer world) := by
  refine stage.next trivial ?_
  cases answer with
  | none => exact stage.tracked.next (fun current there => .inl ⟨current, there, id⟩) id
  | some _ =>
    refine stage.tracked.next
      (fun current there => .inl ⟨current, ?_, id⟩) fun lost => lost.imp_right ?_
    · have other : path ≠ target := by
        rintro rfl
        rw [there] at absent
        cases absent
      exact (dirs_rename source target path).trans
        ((if_neg other).trans ((if_neg (later.ne there)).trans there))
    · intro other found moved
      have moved := (dirs_rename source target path).symm.trans moved
      split at moved
      next => exact .inl (later found moved)
      next =>
        split at moved
        next => cases moved
        next => exact other found moved

theorem later_rename (agent : Agent) {source : Path} (target : Path)
    (later : Later source release world) :
    Later target release (agent.perform (.rename source target) (some ()) world) := by
  intro found moved
  exact later found ((if_pos rfl).symm.trans ((dirs_rename source target target).symm.trans moved))

theorem Later.removeTree {dir removed : Path} (later : Later dir release world) (agent : Agent)
    (removal : Removal) :
    Later dir release (agent.perform (.removeTree removed) (some removal) world) := by
  intro found left
  change (if removed <+: dir then _ else _) = _ at left
  split at left
  next =>
    obtain ⟨before, there, same⟩ := Option.bind_eq_some_iff.mp left
    rw [(remainder_grows same).1]
    exact later before there
  next => exact later found left

theorem safe_clearDir_stage (stage : Stage agent path release start world) (dir : Path) :
    (clearDir dir).Safe agent.onUnit (fun _ => True) (ends (fun _ after => Stage agent path release start after ∧
      after.dirs dir = none ∧ ∀ other, Later other release world → Later other release after)
      (Stage agent path release start)) world := by
  have looks := stage.plain (.pathExists dir) trivial
  refine Safe.invokeThen trivial (fun found possible => ?_) fun _ => looks none
  have seen : ((world.dirs dir).isNone || found) = true := possible
  split
  next =>
    refine Safe.invokeThen trivial
      (fun removal _ => ?_) fun _ => (looks (some found)).removeTree dir none
    have removes := (looks (some found)).removeTree dir (some removal)
    unfold require
    split
    next finished =>
      exact ⟨removes, removeTree_removes agent.currentLink removal finished, fun other later => later.removeTree agent removal⟩
    next => exact removes
  next absent =>
    refine ⟨looks (some found), ?_, fun other later => later⟩
    rw [Bool.not_eq_true] at absent
    rw [absent, Bool.or_false, Option.isNone_iff_eq_none] at seen
    exact seen

theorem safe_prepare_stage {version : String} {bundle : Path}
    (stage : Stage agent path release start world) :
    (agent.prepare version bundle).Safe agent.onUnit (fun _ => True) (ends (fun previous after =>
      Stage agent path release start after ∧ Later (agent.finalDir version) release after ∧
        previous = after.current)
      (Stage agent path release start)) world := by
  unfold Agent.prepare
  dsimp only
  refine Safe.bind _ (safe_clearDir_stage stage _) ?_
  rintro _ cleared ⟨stage, absent, _⟩
  refine Safe.invokeThen trivial (fun _ _ => ?_) fun _ => stage.makeDir _ none
  have later := later_makeDir stage absent
  have stage := stage.makeDir (agent.stagingDir version) (some ())
  refine Safe.invokeThen trivial (fun extracted _ => ?_) fun _ => stage.extract later bundle none
  have stage := stage.extract later bundle (some extracted)
  have later := later_extract agent later bundle extracted
  refine safe_requireThen ?_ ?_
  · intro _
    refine Safe.bind _ (safe_clearDir_stage stage _) ?_
    rintro _ replaced ⟨stage, absent, kept⟩
    have later := kept _ later
    refine Safe.invokeThen trivial (fun _ _ => ?_) fun _ => stage.rename later absent none
    have stage := stage.rename later absent (some ())
    have later := later_rename agent (agent.finalDir version) later
    refine Safe.attemptThen trivial fun compiled _ => ?_
    have stage := stage.plain (.compile (agent.finalDir version)) trivial compiled
    refine safe_invokeLast trivial
      (fun found possible => ?_) fun _ => stage.plain .realpathCurrent trivial none
    refine ⟨stage.plain .realpathCurrent trivial (some found), ?_, of_decide_eq_true possible⟩
    cases compiled <;> exact later
  · exact stage

/-- After the write of the record, before `current` is flipped. -/
structure Flipping (agent : Agent) (path : Path) (release : Release) (start world : World) : Prop where
  tracked : Tracked agent path release world
  unraised : ∀ entry ∈ world.log, ¬ entry.FlipRaised ∧ ¬ entry.RestartRaised
  recorded : world.record = start.record ∧ (∀ entry ∈ world.log, ¬ entry.Applies) ∨
    (¬ world.Settled ∧ ∃ entry ∈ world.log, entry.Applies)

theorem Flipping.quiet (flipping : Flipping agent path release start world) (request : Call)
    (answer : Option request.Answer)
    (same : agent.effect request answer world = world) (other : ∀ dir, request ≠ .removeTree dir)
    (unraised : ¬ Entry.FlipRaised ⟨request, answer⟩ ∧ ¬ Entry.RestartRaised ⟨request, answer⟩)
    (silent : ¬ Entry.Applies ⟨request, answer⟩) :
    Flipping agent path release start (agent.perform request answer world) := by
  have kept : agent.perform request answer world =
      { world with log := ⟨request, answer⟩ :: world.log } := by
    unfold Agent.perform
    rw [same]
  refine ⟨flipping.tracked.next (fun current there => .inl ⟨?_, ?_, not_hits other⟩) ?_, ?_, ?_⟩
  · exact (congrArg World.current kept).trans current
  · exact (congrFun (congrArg World.dirs kept) path).trans there
  · intro lost
    rw [kept]
    exact lost
  · intro entry member
    cases List.mem_cons.mp member with
    | inl now => exact now ▸ unraised
    | inr before => exact flipping.unraised entry before
  · have log : (agent.perform request answer world).log = ⟨request, answer⟩ :: world.log := rfl
    rw [log, kept]
    refine flipping.recorded.imp
      (fun untouched => ⟨untouched.1, fun entry member => ?_⟩) fun written => ⟨written.1, ?_⟩
    · cases List.mem_cons.mp member with
      | inl now => exact now ▸ silent
      | inr before => exact untouched.2 entry before
    · obtain ⟨entry, member, applies⟩ := written.2
      exact ⟨entry, List.mem_cons_of_mem _ member, applies⟩

/-- A flip that fails is a verdict: only an unwritten record is harmless. -/
theorem Flipping.raises (flipping : Flipping agent path release start world) (request : Call)
    (same : agent.effect request none world = world) (other : ∀ dir, request ≠ .removeTree dir)
    (raised : Entry.FlipRaised ⟨request, none⟩) (unraised : ¬ Entry.RestartRaised ⟨request, none⟩)
    (silent : ¬ Entry.Applies ⟨request, none⟩) :
    Verdict agent path release start (agent.perform request none world) := by
  have kept : agent.perform request none world =
      { world with log := ⟨request, none⟩ :: world.log } := by
    unfold Agent.perform
    rw [same]
  have log : (agent.perform request none world).log = ⟨request, none⟩ :: world.log := rfl
  unfold Verdict
  rw [log, kept]
  cases flipping.recorded with
  | inr written =>
    obtain ⟨unsettled, entry, member, applies⟩ := written
    constructor
    · exact fun both => absurd both.2 unsettled
    · intro early
      exact absurd applies
        (early.flips _ List.mem_cons_self raised entry (List.mem_cons_of_mem _ member))
  | inl untouched =>
    obtain ⟨record, unwritten⟩ := untouched
    have settled :
        ({ world with log := ⟨request, none⟩ :: world.log } : World).Settled ↔ start.Settled := by
      unfold World.Settled
      rw [record]
    constructor
    · rintro ⟨running, ended⟩
      refine ⟨settled.mp ended, fun entry member => ?_, fun _ _ _ entry member => ?_, fun entry member => ?_⟩
      · cases List.mem_cons.mp member with
        | inl now => exact now ▸ not_hits other
        | inr before =>
          cases flipping.tracked with
          | inl whole => exact whole.2.2 entry before
          | inr lost => exact absurd running lost.1.not_running
      · cases List.mem_cons.mp member with
        | inl now => exact now ▸ silent
        | inr before => exact unwritten entry before
      · cases List.mem_cons.mp member with
        | inl now => exact now ▸ unraised
        | inr before => exact (flipping.unraised entry before).2
    · rintro ⟨began, spared, _, _⟩
      refine ⟨?_, settled.mpr began⟩
      cases flipping.tracked with
      | inl whole => exact running_iff.mpr ⟨whole.1, whole.2.1⟩
      | inr lost =>
        obtain ⟨entry, member, hits⟩ := lost.2
        exact absurd hits (spared entry (List.mem_cons_of_mem _ member))

theorem Stage.writeState (stage : Stage agent path release start world) (version : String)
    (previous : Option Path)
    (answer : Option Bool) :
    Flipping agent path release start (agent.perform (.writeState ⟨.applying, version, previous⟩) answer world) := by
  have early (entry : Entry) (member : entry ∈ world.log) := stage.early entry member
  have raises :
      ∀ entry ∈ (⟨.writeState ⟨.applying, version, previous⟩, answer⟩ :: world.log : List Entry),
      ¬ entry.FlipRaised ∧ ¬ entry.RestartRaised := by
    intro entry member
    cases List.mem_cons.mp member with
    | inl now => cases answer <;> exact now ▸ ⟨id, id⟩
    | inr before => exact ⟨not_flipRaised (early entry before), not_restartRaised (early entry before)⟩
  have silent (unwritten : ¬ Entry.Applies ⟨.writeState ⟨.applying, version, previous⟩, answer⟩) :
      ∀ entry ∈ (⟨.writeState ⟨.applying, version, previous⟩, answer⟩ :: world.log : List Entry), ¬ entry.Applies := by
    intro entry member
    cases List.mem_cons.mp member with
    | inl now => exact now ▸ unwritten
    | inr before => exact not_applies (early entry before)
  cases answer with
  | none =>
    exact ⟨stage.tracked.next (fun current there => .inl ⟨current, there, id⟩) id, raises, .inl ⟨stage.record, silent id⟩⟩
  | some written =>
    cases written with
    | false =>
      exact ⟨stage.tracked.next (fun current there => .inl ⟨current, there, id⟩) id, raises,
        .inl ⟨stage.record, silent fun both => Bool.false_ne_true both.2⟩⟩
    | true =>
      refine ⟨stage.tracked.next (fun current there => .inl ⟨current, there, id⟩) id, raises, .inr ⟨?_, ?_⟩⟩
      · exact fun settled => settled _ rfl (by decide : Phase.applying.incomplete)
      · exact ⟨_, List.mem_cons_self, rfl, rfl⟩

/-- `current` leads to a directory that came later than the release. -/
def Replaced (final : Path) (release : Release) (world : World) : Prop :=
  world.current = some final ∧ Later final release world

theorem Replaced.not_running {final : Path} (replaced : Replaced final release world) :
    world.running ≠ some (path, release) := by
  intro running
  obtain ⟨current, there⟩ := running_iff.mp running
  rw [replaced.1] at current
  cases current
  exact Nat.lt_irrefl _ (replaced.2 release there)

theorem safe_activate_flipping {version : String} {previous : Option Path}
    (stage : Stage agent path release start world)
    (later : Later (agent.finalDir version) release world) :
    (agent.activate version previous).Safe agent.onUnit (fun _ => True)
      (ends (fun _ after => Replaced (agent.finalDir version) release after ∧ ∀ entry ∈ world.log, entry ∈ after.log)
        (Verdict agent path release start)) world := by
  unfold Agent.activate flipCurrent
  refine Safe.bind (fun _ after => Flipping agent path release start after ∧
    Later (agent.finalDir version) release after ∧ ∀ entry ∈ world.log, entry ∈ after.log) ?_ ?_
  · refine Safe.attemptThen trivial fun written _ => ?_
    refine ⟨stage.writeState version previous written, ?_, fun entry => List.mem_cons_of_mem _⟩
    cases written with
    | none => exact later
    | some written => cases written <;> exact later
  rintro _ recorded ⟨flipping, later, grown⟩
  refine Safe.bind (fun _ after => Replaced (agent.finalDir version) release after ∧
    ∀ entry ∈ world.log, entry ∈ after.log) ?_ ?_
  · refine Safe.invokeThen trivial (fun cleared _ => ?_) fun _ =>
      flipping.raises .clearTmp rfl (fun _ => nofun) trivial id id
    have clears := flipping.quiet .clearTmp (some cleared) rfl (fun _ => nofun) ⟨id, id⟩ id
    refine Safe.invokeThen trivial (fun linked _ => ?_) fun _ =>
      clears.raises (.linkTmp _) rfl (fun _ => nofun) trivial id id
    have links := clears.quiet (.linkTmp (agent.finalDir version)) (some linked) rfl (fun _ => nofun) ⟨id, id⟩ id
    refine safe_invokeLast trivial (fun _ _ => ?_) fun _ =>
      links.raises (.replaceCurrent _) rfl (fun _ => nofun) trivial id id
    exact ⟨⟨rfl, later⟩, fun entry member =>
      List.mem_cons_of_mem _ (List.mem_cons_of_mem _ (List.mem_cons_of_mem _ (grown entry member)))⟩
  rintro _ flipped ⟨replaced, grown⟩
  refine safe_invokeLast trivial
    (fun _ _ => ⟨replaced, fun entry member => List.mem_cons_of_mem _ (grown entry member)⟩)
    fun _ => ?_
  have unrestarted : (agent.perform .restartServices none flipped).running ≠ some (path, release) :=
    Replaced.not_running replaced
  constructor
  · exact fun both => absurd both.1 unrestarted
  · exact fun early => (early.restarts _ List.mem_cons_self trivial).elim

theorem Verdict.harmless {bundle : Path} {request : Call}
    (verdict : Verdict agent path release start world)
    (harmless : request.Harmless bundle) (answer : Option request.Answer) :
    Verdict agent path release start (agent.perform request answer world) := by
  have kept : agent.perform request answer world =
      { world with log := ⟨request, answer⟩ :: world.log } := by
    unfold Agent.perform
    rw [harmless.effect]
  have early := early_of_plain (plain_of_harmless harmless)
  have misses : ¬ Entry.Hits agent path ⟨request, answer⟩ := not_hits fun dir same => by
    rw [same] at harmless
    exact harmless
  refine Iff.trans ?_ (verdict.trans ⟨fun fails => ?_, fun fails => ?_⟩)
  · rw [kept]
    exact Iff.rfl
  · refine ⟨fails.settled, fun entry member => ?_, fun entry member raised other also => ?_, fun entry member => ?_⟩
    · cases List.mem_cons.mp member with
      | inl now => exact now ▸ misses
      | inr before => exact fails.spared entry before
    · cases List.mem_cons.mp member with
      | inl now => exact (not_flipRaised early (now ▸ raised)).elim
      | inr before =>
        cases List.mem_cons.mp also with
        | inl now => exact now ▸ not_applies early
        | inr earlier => exact fails.flips entry before raised other earlier
    · cases List.mem_cons.mp member with
      | inl now => exact now ▸ not_restartRaised early
      | inr before => exact fails.restarts entry before
  · have grown {entry : Entry} (member : entry ∈ world.log) :
      entry ∈ (agent.perform request answer world).log :=
      List.mem_cons_of_mem _ member
    exact ⟨fails.settled, fun entry member => fails.spared entry (grown member),
      fun entry member raised other also => fails.flips entry (grown member) raised other (grown also),
      fun entry member => fails.restarts entry (grown member)⟩

/-- Harmless calls after a verdict. -/
theorem Verdict.safe {bundle : Path} {α : Type} {program : OtaProg α}
    (verdict : Verdict agent path release start world)
    (only : program.Only (Call.Harmless bundle)) :
    program.Safe agent.onUnit (fun _ => True) (fun _ => Verdict agent path release start) world :=
  only.safe verdict (fun _ _ => trivial) fun _ _ answer harmless verdict _ => verdict.harmless harmless answer

theorem Stage.safe {bundle : Path} {α : Type} {program : OtaProg α}
    (stage : Stage agent path release start world)
    (only : program.Only (Call.Harmless bundle)) :
    program.Safe agent.onUnit (fun _ => True) (fun _ => Stage agent path release start) world :=
  only.safe stage (fun _ _ => trivial) fun request _ answer harmless stage _ =>
    stage.plain request (plain_of_harmless harmless) answer

/-- The phases of a call that gave up. -/
def failures : List Phase := [.error, .idle, .failed, .verifyFailed]

/-- What is shown of a call: if it gave up, its verdict. -/
def Outcome (agent : Agent) (path : Path) (release : Release) (start : World)
    (result : Option Phase)
    (world : World) : Prop :=
  ∀ phase, result = some phase → phase ∈ failures → Verdict agent path release start world

theorem outcome_raised : Outcome agent path release start none world := by
  intro phase found
  cases found

theorem outcome_other {phase : Phase} (other : phase ∉ failures) :
    Outcome agent path release start (some phase) world := by
  intro found same failing
  cases same
  exact absurd failing other

theorem Verdict.outcome {result : Option Phase} (verdict : Verdict agent path release start world) :
    Outcome agent path release start result world := fun _ _ _ => verdict

/-- A record is written where the release is gone and was hit. -/
def Struck (agent : Agent) (path final : Path) (release : Release) (world : World) : Prop :=
  Replaced final release world ∧ ∃ entry ∈ world.log, entry.Hits agent path

theorem Struck.verdict {final : Path} (struck : Struck agent path final release world) :
    Verdict agent path release start world := by
  obtain ⟨replaced, entry, member, hits⟩ := struck
  exact ⟨fun both => absurd both.1 replaced.not_running, fun early => absurd hits (early.spared entry member)⟩

theorem Struck.writeState {final : Path} (struck : Struck agent path final release world)
    (record : StateRecord)
    (answer : Option Bool) :
    Struck agent path final release (agent.perform (.writeState record) answer world) := by
  obtain ⟨replaced, entry, member, hits⟩ := struck
  refine ⟨?_, entry, List.mem_cons_of_mem _ member, hits⟩
  cases answer with
  | none => exact replaced
  | some written => cases written <;> exact replaced

theorem Struck.quiet {final : Path} (struck : Struck agent path final release world)
    (request : Call)
    (answer : Option request.Answer) (same : agent.effect request answer world = world) :
    Struck agent path final release (agent.perform request answer world) := by
  obtain ⟨replaced, entry, member, hits⟩ := struck
  refine ⟨?_, entry, List.mem_cons_of_mem _ member, hits⟩
  unfold Agent.perform
  rw [same]
  exact replaced

theorem safe_finish_struck {version : String} {previous : Option Path} {final : Path}
    (struck : previous = none → Struck agent path final release world) :
    (agent.finish version previous).Safe agent.onUnit (fun _ => True)
    (Outcome agent path release start) world := by
  unfold Agent.finish
  refine Safe.attemptThen trivial fun written _ => ?_
  have struck := fun first => (struck first).writeState ⟨.selfTest, version, previous⟩ written
  refine Safe.attemptThen trivial fun told _ => ?_
  have struck := fun first => (struck first).quiet (.report .selfTest version) told rfl
  refine Safe.invokeThen trivial (fun ok _ => ?_) fun _ => outcome_raised
  have struck := fun first => (struck first).quiet .selfTest (some ok) rfl
  split
  next =>
    refine Safe.ignoring
      (fun _ => outcome_raised) fun _ _ => Safe.ignoring (fun _ => outcome_raised) fun _ _ => ?_
    exact Safe.ignoring (fun _ => outcome_raised) fun _ _ => outcome_other (by decide)
  next =>
    cases previous with
    | none =>
      refine Safe.attemptThen trivial fun told _ => Safe.attemptThen trivial fun written _ => ?_
      exact (((struck rfl).quiet (.report .failed version) told rfl).writeState _ written).verdict.outcome
    | some previous => exact Safe.ignoring (fun _ => outcome_raised) fun _ _ => outcome_other (by decide)

theorem safe_update_outcome {version : String} {bundle : Path}
    (stage : Stage agent path release start world) :
    (agent.update version bundle).Safe agent.onUnit (fun _ => True)
    (Outcome agent path release start) world := by
  unfold Agent.update Agent.apply
  refine Safe.caughtThen (fun previous after => previous = none → Struck agent path (agent.finalDir version) release after)
    (Verdict agent path release start) ?_ ?_ ?_
  · refine Safe.bind (fun _ => Stage agent path release start) ?_ ?_
    · exact Safe.attemptThen trivial fun told _ => stage.plain (.report ..) trivial told
    intro _ told stage
    refine Safe.bind (fun previous after => Stage agent path release start after ∧
      Later (agent.finalDir version) release after ∧ previous = after.current)
      ((safe_prepare_stage stage).mono fun result after prepared => ?_) ?_
    · cases result with
      | none => exact prepared.verdict
      | some previous => exact prepared
    rintro previous prepared ⟨stage, later, rfl⟩
    refine Safe.bind _ (safe_activate_flipping stage later) ?_
    rintro _ applied ⟨replaced, grown⟩ missing
    refine ⟨replaced, ?_⟩
    cases stage.tracked with
    | inl whole =>
      rw [whole.1] at missing
      cases missing
    | inr lost =>
      obtain ⟨entry, member, hits⟩ := lost.2
      exact ⟨entry, grown entry member, hits⟩
  · intro previous applied struck
    refine Safe.bind (fun _ after => previous = none → Struck agent path (agent.finalDir version) release after) ?_ ?_
    · refine Safe.attemptThen trivial fun cleaned _ missing => ?_
      cases cleaned <;> exact (struck missing).quiet (.unlink bundle) _ rfl
    · exact fun _ _ struck => safe_finish_struck struck
  · intro failed verdict
    have only : (do
        let _ ← report .failed version
        let _ ← cleanupDownload bundle
        let _ ← cleanupDownload bundle
        pure Phase.failed : OtaProg Phase).Only (Call.Harmless bundle) :=
      (only_report ..).bind fun _ => only_cleanupDownload.bind fun _ => only_cleanupDownload.bind fun _ => trivial
    exact (verdict.safe only).mono fun _ _ verdict => verdict.outcome

theorem safe_consider_outcome {target : Target} {bundle : Path}
    (stage : Stage agent path release start world) :
    (agent.consider target bundle).Safe agent.onUnit (fun _ => True)
    (Outcome agent path release start) world := by
  unfold Agent.consider
  have reports : (do
      let _ ← report .verifying target.version
      agent.verify target bundle : OtaProg Manifest).Only (Call.Harmless bundle) :=
    (only_report ..).bind fun _ => only_verify target
  have gives (phase : Phase) : (do
      let _ ← report phase target.version
      let _ ← cleanupDownload bundle
      pure phase : OtaProg Phase).Only (Call.Harmless bundle) :=
    (only_report ..).bind fun _ => only_cleanupDownload.bind fun _ => trivial
  refine Safe.caughtThen _ _ (safe_ends.mpr (stage.safe reports)) ?_ ?_
  · intro manifest verified stage
    dsimp only
    split
    next => exact (stage.verdict.safe (gives .failed)).mono fun _ _ verdict => verdict.outcome
    next => exact safe_update_outcome stage
  · intro failed stage
    exact (stage.verdict.safe (gives .verifyFailed)).mono fun _ _ verdict => verdict.outcome

theorem safe_checkAndApply_outcome (stage : Stage agent path release start world) :
    agent.checkAndApply.Safe agent.onUnit (fun _ => True)
    (Outcome agent path release start) world := by
  unfold Agent.checkAndApply
  refine Safe.attemptThen trivial fun answer _ => ?_
  have stage := stage.plain .poll trivial answer
  cases answer with
  | none => exact stage.verdict.outcome
  | some assigned =>
    cases assigned with
    | none => exact stage.verdict.outcome
    | some target =>
      refine Safe.invokeThen trivial (fun installed _ => ?_) fun _ => outcome_raised
      have stage := stage.plain .installedVersion trivial (some installed)
      split
      next => exact stage.verdict.outcome
      next =>
        unfold Agent.upgrade
        have reports : (do
            let _ ← report .downloading target.version
            agent.download target :
              OtaProg Path).Only (Call.Harmless (agent.bundlePath target.version)) :=
          (only_report ..).bind fun _ => only_download target
        refine Safe.caughtThen _ _ (safe_ends.mpr (stage.safe reports)) ?_ ?_
        · intro bundle downloaded stage
          exact safe_consider_outcome stage
        · intro failed stage
          have only : (do
              let _ ← report .failed target.version
              pure Phase.failed :
                OtaProg Phase).Only (Call.Harmless (agent.bundlePath target.version)) :=
            (only_report ..).bind fun _ => trivial
          exact (stage.verdict.safe only).mono fun _ _ verdict => verdict.outcome

end

variable {agent : Agent} {path : Path} {release : Release} {start final : World}

/-- A call that gives up leaves the running release and no unfinished phase exactly when no
earlier update was left unfinished, the removals spared the running release, and after the
record was written neither the flip nor the restart raised. -/
theorem failure_leaves_release {phase : Phase} (running : start.running = some (path, release))
    (numbered : release.serial < start.made) (begins : start.log = [])
    (ended : Ends agent.onUnit agent.checkAndApply start (some phase) final)
    (failing : phase ∈ failures) :
    final.running = some (path, release) ∧
      final.Settled ↔ FailsEarly agent path start final.log := by
  obtain ⟨current, there⟩ := running_iff.mp running
  have none {entry : Entry} (member : entry ∈ start.log) : False := by
    rw [begins] at member
    cases member
  have stage : Stage agent path release start start :=
    ⟨.inl ⟨current, there, fun _ member => (none member).elim⟩, rfl, fun _ member => (none member).elim, numbered⟩
  exact (safe_checkAndApply_outcome stage).after_ends ended phase rfl failing

/-- What calls return in the field where one call raises. -/
def fieldRaises (raising request : Call) : Option request.Answer :=
  if request = raising then none else fieldAnswer (fieldPath "2.0.0") none request

/-- The hash of the bundle cannot be computed. -/
theorem failure_leaves_release_digest :
    ∃ final, Ends fieldAgent.onUnit fieldAgent.checkAndApply fieldWorld (some .verifyFailed) final ∧
      (final.running = some (fieldPath "2.0.0", { complete := true, serial := 0 }) ∧ final.Settled ↔
        FailsEarly fieldAgent (fieldPath "2.0.0") fieldWorld final.log) := by
  have followed : ((fieldAgent.checkAndApply.follow fieldAgent.onUnit
      (fieldRaises (.digest (fieldAgent.bundlePath "2.1.0"))) fieldWorld).map Prod.fst) = some (some .verifyFailed) := by
    decide +kernel
  obtain ⟨⟨result, final⟩, run, same⟩ := Option.map_eq_some_iff.mp followed
  cases same
  exact ⟨final, ends_follow run, failure_leaves_release (by decide) (by decide) rfl (ends_follow run) (by decide)⟩

/-- The restart of the services fails after the flip: version 2.1.0 stays, and the call
returns `failed`. -/
theorem failed_after_flip :
    ¬ ∀ (agent : Agent) (start final : World) (path : Path) (release : Release) (phase : Phase),
      start.running = some (path, release) → start.Settled →
      Ends agent.onUnit agent.checkAndApply start (some phase) final → phase ∈ failures →
      final.running = some (path, release) ∧ final.Settled := by
  intro atomic
  have followed : ((fieldAgent.checkAndApply.follow fieldAgent.onUnit (fieldRaises .restartServices) fieldWorld).map
      fun ended => (ended.1, ended.2.current)) = some (some .failed, some (fieldPath "2.1.0")) := by
    decide +kernel
  obtain ⟨⟨result, final⟩, run, same⟩ := Option.map_eq_some_iff.mp followed
  simp only [Prod.mk.injEq] at same
  obtain ⟨rfl, flipped⟩ := same
  have kept := (atomic fieldAgent fieldWorld final (fieldPath "2.0.0") { complete := true, serial := 0 } .failed (by decide)
    (fun _ found => by cases found) (ends_follow run) (by decide)).1
  rw [(running_iff.mp kept).1] at flipped
  exact absurd flipped (by decide)

end Wqm1.Ota
