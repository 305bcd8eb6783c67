import Wqm1.Ota.Agent

/-! The agent is killed at any point of an update or of a recovery, and starts again. -/

set_option autoImplicit false

namespace Wqm1.Ota

open Wqm1.Library Wqm1.Library.Prog

inductive Job where
  | recover | checkAndApply
deriving DecidableEq

namespace World

variable (world : World)

/-- The name of the directory that `current` leads to. -/
def currentName : Option String := world.current.bind List.getLast?

def recordedVersion : Option String := world.record.map StateRecord.version

/-- A recovery would restart the services, or need not. -/
def recoverable : Bool :=
  world.restarted || (world.currentName.isSome && world.currentName == world.recordedVersion)

/-- What the recovery and every update end with. -/
structure Sound : Prop where
  running : ∃ path release, world.running = some (path, release) ∧ release.complete = true ∧
    (world.baseline = some (path, release) ∨ world.succeeded = true)
  restarted : world.restarted = true
  settled : ∀ record, world.record = some record → ¬ record.phase.incomplete

end World

namespace Agent

variable (agent : Agent)

/-- Both directories of an update are what their names say, and neither is the directory
of the running release, or one above it. -/
def ownDirs (world : World) (version : String) : Bool :=
  agent.finalDir version = agent.releasesDir ++ [version] ∧
    agent.stagingDir version = agent.releasesDir ++ [version ++ ".staging"] ∧
    ∀ path ∈ world.current, ¬ agent.finalDir version <+: path ∧ ¬ agent.stagingDir version <+: path

/-- State files are written, and the flip of `current`, the restart of the services and
what only reads do not fail; `applies` says which versions get as far as to be applied. -/
def works (applies : World → String → Bool) :
    (request : Call) → World → Option request.Answer → Bool
  | .report .applying version, world, _ => applies world version
  | .writeState _, _, answer => answer = some true
  | .clearTmp, _, answer => answer.isSome
  | .linkTmp _, _, answer => answer.isSome
  | .replaceCurrent _, _, answer => answer.isSome
  | .restartServices, _, answer => answer.isSome
  | .realpathCurrent, _, answer => answer.isSome
  | .readState, _, answer => answer.isSome
  | .selfTest, _, answer => answer.isSome
  | _, _, _ => true

def job : Job → OtaProg Unit
  | .recover => do
    let _ ← recoverIncompleteApply
    Prog.update fun world => ({ world with booted := true }, ())
  | .checkAndApply => do
    let _ ← agent.checkAndApply
    pure ()

/-- The agent on a unit where it may be killed. -/
def killable (applies : World → String → Bool) (crashes : World → Bool) :
    System World Call.Answer Job Empty where
  program := agent.job
  starts job world := world.booted == decide (job = .checkAndApply)
  perform := agent.perform
  answers request world answer := legal request world answer && works applies request world answer
  effect effect _ := effect.elim
  permits effect _ := effect.elim
  restart world := { world with booted := false }
  crashes := crashes

/-- The agent on a unit where updates have directories of their own, and where it is not
killed between the flip of a rollback and its restart. -/
abbrev careful : System World Call.Answer Job Empty :=
  agent.killable agent.ownDirs World.recoverable

/-- No release is above the link. -/
theorem release_not_above (name : String) :
    ¬ agent.releasesDir ++ [name] <+: agent.currentLink := by
  intro above
  have shorter := above.length_le
  unfold releasesDir currentLink at shorter
  simp only [List.length_append, List.length_cons, List.length_nil] at shorter
  omega

end Agent

/-- The running release is complete, and nothing is to be recovered. -/
structure Calm (path : Path) (release : Release) (world : World) : Prop where
  current : world.current = some path
  there : world.dirs path = some release
  complete : release.complete = true
  restarted : world.restarted = true
  settled : ∀ record, world.record = some record → ¬ record.phase.incomplete

/-- An update that has not changed the running release. -/
structure Before (path : Path) (release : Release) (world : World) :
    Prop extends Calm path release world where
  baseline : world.baseline = some (path, release)

/-- The record tells how to go back; `current` leads to the old release or the new one. -/
structure Pending (version : String) (path : Path) (release : Release) (now : Path)
    (world : World) : Prop where
  baseline : world.baseline = some (path, release)
  there : world.dirs path = some release
  complete : release.complete = true
  named : version ≠ ""
  record : ∃ phase : Phase, phase.incomplete ∧ world.record = some ⟨phase, version, some path⟩
  current : world.current = some now
  usable : ∃ release, world.dirs now = some release ∧ release.complete = true
  known : now = path ∨ now.getLast? = some version

/-- Nothing is to be recovered, and the release is the old one or a tested one. -/
def Rests (world : World) : Prop :=
  ∃ path release, Calm path release world ∧
    (world.baseline = some (path, release) ∨ world.succeeded = true)

/-- What holds at every moment. -/
def Guarded (world : World) : Prop :=
  Rests world ∨ ∃ version path release now, Pending version path release now world

section

variable {path : Path} {release : Release} {world : World} {version : String} {now : Path}

theorem Before.rests (before : Before path release world) : Rests world :=
  ⟨path, release, before.toCalm, .inl before.baseline⟩

theorem Before.guarded (before : Before path release world) : Guarded world := .inl before.rests

theorem Pending.guarded (pending : Pending version path release now world) : Guarded world :=
  .inr ⟨version, path, release, now, pending⟩

theorem Rests.sound (rests : Rests world) : world.Sound := by
  obtain ⟨path, release, calm, origin⟩ := rests
  exact ⟨⟨path, release, running_iff.mpr ⟨calm.current, calm.there⟩, calm.complete, origin⟩, calm.restarted,
    calm.settled⟩

theorem World.Sound.rests (sound : world.Sound) : Rests world := by
  obtain ⟨path, release, running, complete, origin⟩ := sound.running
  obtain ⟨current, there⟩ := running_iff.mp running
  exact ⟨path, release, ⟨current, there, complete, sound.restarted, sound.settled⟩, origin⟩

/-- There is always a directory that `current` leads to. -/
theorem Guarded.running (guarded : Guarded world) :
    ∃ path release, world.running = some (path, release) := by
  cases guarded with
  | inl calm =>
    obtain ⟨path, release, calm, _⟩ := calm
    exact ⟨path, release, running_iff.mpr ⟨calm.current, calm.there⟩⟩
  | inr pending =>
    obtain ⟨version, path, release, now, pending⟩ := pending
    obtain ⟨release, there, _⟩ := pending.usable
    exact ⟨now, release, running_iff.mpr ⟨pending.current, there⟩⟩

theorem Pending.logged (pending : Pending version path release now world) (log : List Entry) :
    Pending version path release now { world with log := log } :=
  ⟨pending.baseline, pending.there, pending.complete, pending.named, pending.record, pending.current, pending.usable,
    pending.known⟩

end

section

variable {agent : Agent} {path : Path} {release : Release} {world : World} {version : String} {now : Path}

theorem answers_careful {request : Call} {answer : Option request.Answer}
    (possible : agent.careful.answers request world answer = true) :
    Agent.legal request world answer = true ∧
      Agent.works agent.ownDirs request world answer = true :=
  Bool.and_eq_true_iff.mp possible

/-- A call that neither touches a release nor what decides which one runs. -/
def Agent.Spares (agent : Agent) (path : Path) : Call → Prop
  | .removeTree dir => ¬ dir <+: path ∧ ¬ dir <+: agent.currentLink
  | .extract _ dir => path ≠ dir
  | .rename source target => path ≠ source ∧ path ≠ target
  | .poll => False
  | .writeState _ => False
  | .replaceCurrent _ => False
  | .restartServices => False
  | _ => True

theorem spares_of_harmless {bundle : Path} {request : Call} (harmless : request.Harmless bundle) :
    agent.Spares path request := by
  cases request <;> trivial

theorem Calm.spared (calm : Calm path release world) (agent : Agent) (request : Call)
    (spares : agent.Spares path request) (answer : Option request.Answer) :
    Calm path release (agent.perform request answer world) := by
  obtain ⟨current, there, complete, restarted, settled⟩ := calm
  have plain : Calm path release { world with log := ⟨request, answer⟩ :: world.log } :=
    ⟨current, there, complete, restarted, settled⟩
  cases answer with
  | none => cases request <;> first | exact plain | exact spares.elim
  | some answer =>
    cases request with
    | removeTree dir =>
      obtain ⟨away, aside⟩ := spares
      exact ⟨(if_neg fun both => aside both.1).trans current, (if_neg away).trans there, complete, restarted, settled⟩
    | makeDir dir =>
      have stays : (world.makeDir dir).dirs path = some release := by
        unfold World.makeDir
        dsimp only
        rw [if_neg, there]
        rw [there]
        exact fun both => nomatch both.2
      exact ⟨current, stays, complete, restarted, settled⟩
    | extract bundle dir =>
      exact ⟨current, (Function.update_of_ne spares ..).trans there, complete, restarted, settled⟩
    | rename source target =>
      have stays : (world.rename source target).dirs path = some release :=
        (Function.update_of_ne spares.2 ..).trans ((Function.update_of_ne spares.1 ..).trans there)
      exact ⟨current, stays, complete, restarted, settled⟩
    | poll => exact spares.elim
    | writeState record => exact spares.elim
    | replaceCurrent target => exact spares.elim
    | restartServices => exact spares.elim
    | _ => exact plain

/-- Only polls and records change what is known about the last update. -/
theorem origin_spared {agent : Agent} {request : Call} (spares : agent.Spares path request)
    (answer : Option request.Answer) : (agent.perform request answer world).baseline = world.baseline ∧
      (agent.perform request answer world).succeeded = world.succeeded := by
  cases answer <;> cases request <;> first | exact ⟨rfl, rfl⟩ | exact spares.elim

theorem Before.spared (before : Before path release world) (agent : Agent) (request : Call)
    (spares : agent.Spares path request) (answer : Option request.Answer) :
    Before path release (agent.perform request answer world) :=
  ⟨before.toCalm.spared agent request spares answer, (origin_spared spares answer).1.trans before.baseline⟩

/-- Calls that change nothing. -/
theorem Before.harmless {bundle : Path} {α : Type} {program : OtaProg α}
    (before : Before path release world)
    (only : program.Only (Call.Harmless bundle)) :
    program.Safe agent.careful Guarded (fun _ => Before path release) world :=
  only.safe before (fun _ => Before.guarded) fun request _ answer harmless before _ =>
    before.spared agent request (spares_of_harmless harmless) answer

theorem safe_clearDir {dir : Path} (before : Before path release world) (away : ¬ dir <+: path)
    (aside : ¬ dir <+: agent.currentLink) :
    (clearDir dir).Safe agent.careful Guarded (ends (fun _ after => Before path release after ∧
      after.dirs dir = none ∧ ∀ other, after.dirs other = world.dirs other ∨
        after.dirs other = none)
      (Before path release)) world := by
  have looks := before.spared agent (.pathExists dir) trivial
  refine Safe.invokeThen before.guarded (fun found possible => ?_) fun _ => looks none
  have seen : ((world.dirs dir).isNone || found) = true := (answers_careful possible).1
  split
  next _ =>
    have removes := (looks (some found)).spared agent (.removeTree dir) ⟨away, aside⟩
    refine Safe.invokeThen (looks (some found)).guarded (fun removal _ => ?_) fun _ => removes none
    unfold require
    split
    next finished =>
      exact ⟨removes (some removal), removeTree_removes agent.currentLink removal finished,
        removeTree_shrinks agent.currentLink removal finished⟩
    next => exact removes (some removal)
  next absent =>
    refine ⟨looks (some found), ?_, fun other => .inl rfl⟩
    rw [Bool.not_eq_true] at absent
    rw [absent, Bool.or_false, Option.isNone_iff_eq_none] at seen
    exact seen

theorem ownDirs_spec (own : agent.ownDirs world version = true)
    (current : world.current = some path) :
    agent.finalDir version = agent.releasesDir ++ [version] ∧
      agent.stagingDir version = agent.releasesDir ++ [version ++ ".staging"] ∧
      ¬ agent.finalDir version <+: path ∧ ¬ agent.stagingDir version <+: path := by
  obtain ⟨final, staging, away⟩ := of_decide_eq_true own
  exact ⟨final, staging, away path current⟩

theorem safe_prepare {bundle : Path} (before : Before path release world)
    (own : agent.ownDirs world version = true) :
    (agent.prepare version bundle).Safe agent.careful Guarded (ends (fun previous after => previous = some path ∧
      Before path release after ∧ ∃ release, after.dirs (agent.finalDir version) = some release ∧
        release.complete = true) (Before path release)) world := by
  obtain ⟨final, staging, finalAway, stagingAway⟩ := ownDirs_spec own before.current
  have finalAside : ¬ agent.finalDir version <+: agent.currentLink :=
    final ▸ agent.release_not_above _
  have stagingAside : ¬ agent.stagingDir version <+: agent.currentLink :=
    staging ▸ agent.release_not_above _
  have stagingNot : path ≠ agent.stagingDir version :=
    fun same => stagingAway (same ▸ List.prefix_rfl)
  have finalNot : path ≠ agent.finalDir version := fun same => finalAway (same ▸ List.prefix_rfl)
  unfold Agent.prepare
  dsimp only
  refine Safe.bind _ (safe_clearDir before stagingAway stagingAside) ?_
  rintro _ world ⟨before, _, _⟩
  have makes := before.spared agent (.makeDir (agent.stagingDir version)) trivial
  refine Safe.invokeThen before.guarded (fun _ possible => ?_) fun _ => makes none
  have extracts :=
    (makes (some ())).spared agent (.extract bundle (agent.stagingDir version)) stagingNot
  refine Safe.invokeThen (makes (some ())).guarded (fun extracted _ => ?_) fun _ => extracts none
  refine safe_requireThen (fun complete => ?_) (extracts (some extracted))
  refine Safe.bind _ (safe_clearDir (extracts (some extracted)) finalAway finalAside) ?_
  rintro _ cleared ⟨before, _, shrunk⟩
  have renames := before.spared agent (.rename (agent.stagingDir version) (agent.finalDir version)) ⟨stagingNot, finalNot⟩
  refine Safe.invokeThen before.guarded (fun _ possible => ?_) fun _ => renames none
  have compiles := (renames (some ())).spared agent (.compile (agent.finalDir version)) trivial
  refine Safe.attemptThen (renames (some ())).guarded fun compiled _ => ?_
  have looks := (compiles compiled).spared agent .realpathCurrent trivial
  refine safe_invokeLast (compiles compiled).guarded
    (fun found seen => ⟨?_, looks (some found), ?_⟩) fun _ => looks none
  · exact (of_decide_eq_true (answers_careful seen).1).trans (compiles compiled).current
  · have moved := (Bool.and_eq_true_iff.mp (answers_careful possible).1).1
    obtain ⟨release, present⟩ := Option.isSome_iff_exists.mp moved
    refine ⟨release, (Function.update_self ..).trans present, ?_⟩
    have filled :
        cleared.dirs (agent.stagingDir version) = ((world.makeDir (agent.stagingDir version)).dirs
        (agent.stagingDir version)).map fun release => { release with complete := extracted } := by
      cases shrunk (agent.stagingDir version) with
      | inl same => exact same.trans (Function.update_self ..)
      | inr none =>
        rw [none] at present
        cases present
    rw [filled] at present
    obtain ⟨_, _, same⟩ := Option.map_eq_some_iff.mp present
    exact same ▸ complete

theorem Pending.quiet (pending : Pending version path release now world) (agent : Agent)
    (request : Call)
    (answer : Option request.Answer) (same : agent.effect request answer world = world) :
    Pending version path release now (agent.perform request answer world) := by
  unfold Agent.perform
  rw [same]
  exact pending.logged _

theorem Pending.restart (pending : Pending version path release now world) :
    Pending version path release now { world with restarted := true } :=
  ⟨pending.baseline, pending.there, pending.complete, pending.named, pending.record, pending.current, pending.usable,
    pending.known⟩

theorem Pending.flip (pending : Pending version path release now world) {target : Path}
    (usable : ∃ release, world.dirs target = some release ∧ release.complete = true)
    (known : target = path ∨ target.getLast? = some version) :
    Pending version path release target { world with current := some target, restarted := false } :=
  ⟨pending.baseline, pending.there, pending.complete, pending.named, pending.record, rfl, usable, known⟩

theorem safe_flipCurrent {target : Path} (pending : Pending version path release now world)
    (usable : ∃ release, world.dirs target = some release ∧ release.complete = true)
    (known : target = path ∨ target.getLast? = some version) :
    (flipCurrent target).Safe agent.careful Guarded
      (ends (fun _ => Pending version path release target) fun _ => False) world := by
  have clears := pending.quiet agent .clearTmp
  refine Safe.invokeThen pending.guarded (fun cleared _ => ?_) fun possible => ?_
  · have links := (clears (some cleared) rfl).quiet agent (.linkTmp target)
    refine Safe.invokeThen (clears _ rfl).guarded (fun linked _ => ?_) fun possible => ?_
    · refine safe_invokeLast (links (some linked) rfl).guarded (fun _ _ => ?_) fun possible => ?_
      · exact ((links (some linked) rfl).flip usable known).logged _
      · cases (answers_careful possible).2
    · cases (answers_careful possible).2
  · cases (answers_careful possible).2

theorem safe_restart (pending : Pending version path release now world) :
    (ask .restartServices).Safe agent.careful Guarded
      (ends (fun _ after => Pending version path release now after ∧ after.restarted = true) fun _ => False) world := by
  refine safe_invokeLast pending.guarded
    (fun _ _ => ⟨pending.restart.logged _, rfl⟩) fun possible => ?_
  cases (answers_careful possible).2

/-- A record of an unfinished update. -/
theorem safe_writeState (phase : Phase) (incomplete : phase.incomplete)
    (baseline : world.baseline = some (path, release))
    (there : world.dirs path = some release) (complete : release.complete = true) (named : version ≠ "")
    (current : world.current = some now) (usable : ∃ release, world.dirs now = some release ∧ release.complete = true)
    (known : now = path ∨ now.getLast? = some version) (guarded : Guarded world) :
    (writeState phase version (some path)).Safe agent.careful Guarded
      (ends (fun _ after => Pending version path release now after ∧ after.restarted = world.restarted ∧
        after.dirs = world.dirs) fun _ => False) world := by
  refine Safe.attemptThen guarded fun answer possible => ?_
  cases of_decide_eq_true (answers_careful possible).2
  exact ⟨⟨baseline, there, complete, named, ⟨phase, incomplete, rfl⟩, current, usable, known⟩, rfl, rfl⟩

theorem safe_activate (before : Before path release world)
    (final : (agent.finalDir version).getLast? = some version)
    (usable : ∃ release, world.dirs (agent.finalDir version) = some release ∧ release.complete = true)
    (named : version ≠ "") :
    (agent.activate version (some path)).Safe agent.careful Guarded (ends (fun _ after =>
      Pending version path release (agent.finalDir version) after ∧
        after.restarted = true) fun _ => False) world := by
  unfold Agent.activate
  refine Safe.bind _ (safe_writeState .applying (by decide) before.baseline before.there before.complete named before.current
    ⟨release, before.there, before.complete⟩ (.inl rfl) before.guarded) ?_
  rintro _ written ⟨pending, _, dirs⟩
  refine Safe.bind _ (safe_flipCurrent pending (dirs ▸ usable) (.inr final)) ?_
  intro _ flipped pending
  exact safe_restart pending

theorem safe_rollback (pending : Pending version path release now world) :
    (rollback path version).Safe agent.careful Guarded (ends (fun _ => Before path release) fun _ => False) world := by
  unfold rollback
  refine Safe.bind _
    (safe_flipCurrent pending ⟨release, pending.there, pending.complete⟩ (.inl rfl)) ?_
  intro _ flipped pending
  refine Safe.bind _ (safe_restart pending) ?_
  rintro _ restarted ⟨pending, running⟩
  refine Safe.bind (fun _ => Before path release)
    (Safe.attemptThen pending.guarded fun answer possible => ?_) ?_
  · cases of_decide_eq_true (answers_careful possible).2
    refine ⟨⟨pending.current, pending.there, pending.complete, running, fun record written => ?_⟩, pending.baseline⟩
    cases written
    exact (by decide : ¬ Phase.rolledBack.incomplete)
  · intro _ written before
    exact Safe.attemptThen before.guarded fun answer _ => before.spared agent (.report ..) trivial answer

theorem only_removeAll {names : List String}
    (other : ∀ name ∈ names, ¬ agent.releasesDir ++ [name] <+: path) :
    (agent.removeAll names).Only (agent.Spares path) := by
  induction names with
  | nil => trivial
  | cons name rest ih =>
    unfold Agent.removeAll
    have spares : agent.Spares path (.removeTree (agent.releasesDir ++ [name])) :=
      ⟨other name List.mem_cons_self, agent.release_not_above name⟩
    exact Only.bind (only_attempt spares) fun _ => ih fun name member => other name (List.mem_cons_of_mem _ member)

/-- The release that was tested is not pruned. -/
theorem safe_pruneReleases {protect : List String}
    (calm : Calm (agent.releasesDir ++ [version]) release world)
    (succeeded : world.succeeded = true) (listed : version ∈ protect) :
    (agent.pruneReleases protect).Safe agent.careful Guarded (fun _ => Rests) world := by
  have rests {world : World}
      (holds : Calm (agent.releasesDir ++ [version]) release world ∧ world.succeeded = true) :
      Rests world := ⟨_, release, holds.1, .inr holds.2⟩
  have keeps (request : Call) (world : World) (answer : Option request.Answer)
      (spares : agent.Spares (agent.releasesDir ++ [version]) request)
      (holds : Calm (agent.releasesDir ++ [version]) release world ∧ world.succeeded = true) :
      Calm (agent.releasesDir ++ [version]) release (agent.perform request answer world) ∧
        (agent.perform request answer world).succeeded = true :=
    ⟨holds.1.spared agent request spares answer, (origin_spared spares answer).2.trans holds.2⟩
  unfold Agent.pruneReleases
  refine Safe.invokeThen (.inl (rests ⟨calm, succeeded⟩)) (fun names _ => ?_) fun _ =>
    rests (keeps .listReleases world none trivial ⟨calm, succeeded⟩)
  have other : ∀ name ∈ (names.drop (max agent.keepReleases 1).toNat).filter fun name => name ∉ protect,
      ¬ agent.releasesDir ++ [name] <+: agent.releasesDir ++ [version] := by
    intro name member above
    have same : name = version := by
      have prefixed := (List.prefix_append_right_inj _).mp above
      exact (List.cons_prefix_cons.mp prefixed).1
    exact of_decide_eq_true (List.mem_filter.mp member).2 (same ▸ listed)
  refine ((only_removeAll other).safe (keeps .listReleases world (some names) trivial ⟨calm, succeeded⟩)
    (fun _ holds => .inl (rests holds)) fun request world answer spares holds _ =>
      keeps request world answer spares holds).mono fun _ _ holds => rests holds

/-- The record of a tested release. -/
theorem safe_succeed (pending : Pending version path release now world)
    (running : world.restarted = true) :
    (writeState .success version none).Safe agent.careful Guarded
      (ends (fun _ after => (∃ release, Calm now release after) ∧ after.succeeded = true) fun _ => False) world := by
  refine Safe.attemptThen pending.guarded fun answer possible => ?_
  cases of_decide_eq_true (answers_careful possible).2
  obtain ⟨release, there, complete⟩ := pending.usable
  refine ⟨⟨release, pending.current, there, complete, running, fun record written => ?_⟩, ?_⟩
  · cases written
    exact (by decide : ¬ Phase.success.incomplete)
  · exact Bool.or_true _

theorem safe_finish (pending : Pending version path release (agent.finalDir version) world)
    (running : world.restarted = true)
    (final : agent.finalDir version = agent.releasesDir ++ [version]) :
    (agent.finish version (some path)).Safe agent.careful Guarded (fun _ => Rests) world := by
  unfold Agent.finish
  refine Safe.returnsThen _
    (safe_writeState .selfTest (by decide) pending.baseline pending.there pending.complete
    pending.named pending.current pending.usable pending.known pending.guarded) ?_
  rintro _ tested ⟨pending, same, _⟩
  rw [running] at same
  refine Safe.returnsThen (fun _ after =>
    Pending version path release (agent.finalDir version) after ∧ after.restarted = true) ?_ ?_
  · exact Safe.attemptThen pending.guarded fun told _ => ⟨pending.quiet agent (.report ..) told rfl, same⟩
  rintro _ told ⟨pending, running⟩
  refine Safe.invokeThen pending.guarded (fun ok _ => ?_) fun possible => ?_
  · have seen := pending.quiet agent .selfTest (some ok) rfl
    split
    next =>
      refine Safe.returnsThen (fun _ after =>
        Pending version path release (agent.finalDir version) after ∧ after.restarted = true) ?_ ?_
      · exact Safe.attemptThen seen.guarded fun told _ => ⟨seen.quiet agent (.report ..) told rfl, running⟩
      rintro _ told ⟨pending, running⟩
      refine Safe.returnsThen _ (safe_succeed pending running) ?_
      rintro _ recorded ⟨⟨release, calm⟩, succeeded⟩
      refine Safe.bind _
        (safe_ends.mpr (safe_pruneReleases (final ▸ calm) succeeded List.mem_cons_self)) ?_
      exact fun _ _ rests => rests
    next => exact Safe.returnsThen _ (safe_rollback seen) fun _ _ before => before.rests
  · cases (answers_careful possible).2

/-- The update of a verified bundle. -/
theorem safe_update {bundle : Path} (before : Before path release world) (named : version ≠ "") :
    (agent.update version bundle).Safe agent.careful Guarded (fun _ => Rests) world := by
  unfold Agent.update
  refine Safe.caughtThen (fun previous after => previous = some path ∧
    Pending version path release (agent.finalDir version) after ∧ after.restarted = true ∧
      agent.finalDir version = agent.releasesDir ++ [version]) (Before path release) ?_ ?_ ?_
  · refine Safe.bind
      (fun _ after => Before path release after ∧ agent.ownDirs after version = true) ?_ ?_
    · refine Safe.attemptThen before.guarded fun told possible => ?_
      exact ⟨before.spared agent (.report ..) trivial told, (answers_careful possible).2⟩
    rintro _ told ⟨before, own⟩
    have final := (ownDirs_spec own before.current).1
    have last : (agent.finalDir version).getLast? = some version := by
      rw [final, List.getLast?_concat]
    unfold Agent.apply
    refine Safe.bind _ (safe_prepare before own) ?_
    rintro _ prepared ⟨rfl, before, usable⟩
    refine Safe.returnsThen _ (safe_activate before last usable named) ?_
    rintro _ applied ⟨pending, running⟩
    exact ⟨rfl, pending, running, final⟩
  · rintro _ applied ⟨rfl, pending, running, final⟩
    refine Safe.returnsThen (fun _ after =>
      Pending version path release (agent.finalDir version) after ∧ after.restarted = true) ?_ ?_
    · refine Safe.attemptThen pending.guarded fun cleaned _ => ?_
      cases cleaned <;> exact ⟨pending.quiet agent (.unlink bundle) _ rfl, running⟩
    rintro _ cleaned ⟨pending, running⟩
    exact safe_finish pending running final
  · intro failed before
    have only : (do
        let _ ← report .failed version
        let _ ← cleanupDownload bundle
        let _ ← cleanupDownload bundle
        pure Phase.failed : OtaProg Phase).Only (Call.Harmless bundle) :=
      (only_report ..).bind fun _ => only_cleanupDownload.bind fun _ => only_cleanupDownload.bind fun _ => trivial
    exact (before.harmless only).mono fun _ _ before => before.rests

theorem safe_consider {target : Target} {bundle : Path} (before : Before path release world)
    (named : target.version ≠ "") :
    (agent.consider target bundle).Safe agent.careful Guarded (fun _ => Rests) world := by
  unfold Agent.consider
  have reports : (do
      let _ ← report .verifying target.version
      agent.verify target bundle : OtaProg Manifest).Only (Call.Harmless bundle) :=
    (only_report ..).bind fun _ => only_verify target
  refine Safe.caughtThen _ _ (safe_ends.mpr (before.harmless reports)) ?_ ?_
  · intro manifest verified before
    dsimp only
    split
    next =>
      have only : (do
          let _ ← report .failed target.version
          let _ ← cleanupDownload bundle
          pure Phase.failed : OtaProg Phase).Only (Call.Harmless bundle) :=
        (only_report ..).bind fun _ => only_cleanupDownload.bind fun _ => trivial
      exact (before.harmless only).mono fun _ _ before => before.rests
    next => exact safe_update before named
  · intro failed before
    have only : (do
        let _ ← report .verifyFailed target.version
        let _ ← cleanupDownload bundle
        pure Phase.verifyFailed : OtaProg Phase).Only (Call.Harmless bundle) :=
      (only_report ..).bind fun _ => only_cleanupDownload.bind fun _ => trivial
    exact (before.harmless only).mono fun _ _ before => before.rests

theorem safe_upgrade {target : Target} (before : Before path release world)
    (named : target.version ≠ "") :
    (agent.upgrade target).Safe agent.careful Guarded (fun _ => Rests) world := by
  unfold Agent.upgrade
  have reports : (do
      let _ ← report .downloading target.version
      agent.download target :
        OtaProg Path).Only (Call.Harmless (agent.bundlePath target.version)) :=
    (only_report ..).bind fun _ => only_download target
  refine Safe.caughtThen _ _ (safe_ends.mpr (before.harmless reports)) ?_ ?_
  · intro bundle downloaded before
    exact safe_consider before named
  · intro failed before
    have only : (do
        let _ ← report .failed target.version
        pure Phase.failed : OtaProg Phase).Only (Call.Harmless (agent.bundlePath target.version)) :=
      (only_report ..).bind fun _ => trivial
    exact (before.harmless only).mono fun _ _ before => before.rests

/-- One update, from where nothing is to be recovered. -/
theorem safe_checkAndApply (rests : Rests world) :
    agent.checkAndApply.Safe agent.careful Guarded (fun _ => Rests) world := by
  obtain ⟨path, release, calm, origin⟩ := rests
  have polled (answer : Option (Option Target)) :
      Before path release (agent.perform .poll answer world) := by
    have running : world.running = some (path, release) :=
      running_iff.mpr ⟨calm.current, calm.there⟩
    exact ⟨⟨calm.current, calm.there, calm.complete, calm.restarted, calm.settled⟩, running⟩
  unfold Agent.checkAndApply
  refine Safe.attemptThen (.inl ⟨path, release, calm, origin⟩) fun answer _ => ?_
  cases answer with
  | none => exact (polled none).rests
  | some assigned =>
    cases assigned with
    | none => exact (polled (some none)).rests
    | some target =>
      have reads := (polled (some (some target))).spared agent .installedVersion trivial
      refine Safe.invokeThen (polled _).guarded (fun installed _ => ?_) fun _ => (reads none).rests
      split
      next => exact (reads (some installed)).rests
      next due => exact safe_upgrade (reads (some installed)) (not_or.mp due).1

/-- The record of an update that changed nothing. -/
theorem safe_giveUp (pending : Pending version path release path world)
    (running : world.restarted = true) :
    (writeState .failed version none).Safe agent.careful Guarded (ends (fun _ => Before path release) fun _ => False)
      world := by
  refine Safe.attemptThen pending.guarded fun answer possible => ?_
  cases of_decide_eq_true (answers_careful possible).2
  refine ⟨⟨pending.current, pending.there, pending.complete, running, fun record written => ?_⟩, pending.baseline⟩
  cases written
  exact (by decide : ¬ Phase.failed.incomplete)

/-- A recovery goes back to the old release, or finds that it runs. -/
theorem safe_recover (guarded : Guarded world) (recoverable : world.recoverable = true) :
    recoverIncompleteApply.Safe agent.careful Guarded (ends (fun _ => Rests) fun _ => False) world := by
  unfold recoverIncompleteApply
  refine Safe.invokeThen guarded (fun found possible => ?_) fun possible => ?_
  · have read : found = world.record := of_decide_eq_true (answers_careful possible).1
    cases guarded with
    | inl rests =>
      obtain ⟨path, release, calm, origin⟩ := rests
      have reads : Rests (agent.perform .readState (some found) world) :=
        ⟨path, release, calm.spared agent .readState trivial (some found), origin⟩
      cases found with
      | none => exact reads
      | some record =>
        dsimp only
        rw [if_neg (calm.settled record read.symm)]
        exact reads
    | inr pending =>
      obtain ⟨version, path, release, now, pending⟩ := pending
      obtain ⟨phase, incomplete, record⟩ := pending.record
      cases read.trans record
      have reads := pending.quiet agent .readState (some (some ⟨phase, version, some path⟩)) rfl
      dsimp only
      rw [if_pos incomplete, if_neg pending.named]
      refine Safe.invokeThen reads.guarded (fun current possible => ?_) fun possible => ?_
      · have sees : current = some now :=
          (of_decide_eq_true (answers_careful possible).1).trans pending.current
        cases sees
        have resolves := reads.quiet agent .realpathCurrent (some (some now)) rfl
        dsimp only
        split
        next => exact Safe.returnsThen _ (safe_rollback resolves) fun _ _ before => before.rests
        next other =>
          cases pending.known.resolve_right other
          refine Safe.returnsThen _ (safe_giveUp resolves ?_) ?_
          · have unnamed : world.currentName ≠ world.recordedVersion := by
              unfold World.currentName World.recordedVersion
              rw [pending.current, record]
              exact other
            unfold World.recoverable at recoverable
            rw [beq_false_of_ne unnamed, Bool.and_false, Bool.or_false] at recoverable
            exact recoverable
          rintro _ recorded before
          refine Safe.attemptThen before.guarded fun told _ => ?_
          exact (before.spared agent (.report ..) trivial told).rests
      · cases (answers_careful possible).2
  · cases (answers_careful possible).2

end

variable {agent : Agent} {world : World}

/-- Between two jobs: after the recovery of a boot nothing is to be recovered. -/
def Idle (world : World) : Prop :=
  Rests world ∨ world.booted = false ∧ Guarded world ∧ world.recoverable = true

theorem idle_guarded (idle : Idle world) : Guarded world ∧ world.recoverable = true := by
  cases idle with
  | inl rests =>
    refine ⟨.inl rests, ?_⟩
    obtain ⟨path, release, calm, _⟩ := rests
    unfold World.recoverable
    rw [calm.restarted, Bool.true_or]
  | inr pending => exact pending.2

theorem safe_job (job : Job) (idle : Idle world) (starts : agent.careful.starts job world = true) :
    (agent.job job).Safe agent.careful Guarded (fun _ => Idle) world := by
  have booted : world.booted = decide (job = .checkAndApply) := beq_iff_eq.mp starts
  cases job with
  | recover =>
    obtain ⟨guarded, recoverable⟩ := idle_guarded idle
    refine Safe.returnsThen _ (safe_recover guarded recoverable) fun _ after rests => ?_
    obtain ⟨path, release, calm, origin⟩ := rests
    exact .inl ⟨path, release, ⟨calm.current, calm.there, calm.complete, calm.restarted, calm.settled⟩, origin⟩
  | checkAndApply =>
    have rests : Rests world := by
      cases idle with
      | inl rests => exact rests
      | inr unbooted =>
        rw [unbooted.1] at booted
        cases booted
    refine Safe.bind (fun _ => Rests)
      ((safe_checkAndApply rests).mono fun result after rests => ?_) ?_
    · cases result with
      | none => exact .inl rests
      | some _ => exact rests
    · exact fun _ _ rests => .inl rests

/-- At every moment `current` leads to a directory, and after a recovery a complete release
runs, the one from before the update unless the success of its test was recorded: in every
run in which updates have directories of their own, and in which the agent is not killed
between the flip of a rollback and the restart of the services. -/
theorem killed_anywhere {machine : Machine World Call.Answer} (installed : world.Sound)
    (run : agent.careful.Reaches ⟨world, none⟩ machine) :
    (∃ path release, machine.memory.running = some (path, release)) ∧
      (machine.waiting = none → machine.memory.booted = true → machine.memory.Sound) := by
  have holds :=
    System.invariant Idle Guarded (fun _ idle => (idle_guarded idle).1) (.inl installed.rests)
    (fun job memory idle starts => safe_job job idle starts) (fun effect => effect.elim) ?_ run
  · refine ⟨holds.1.running, fun resting booted => ?_⟩
    cases holds.2 resting with
    | inl rests => exact rests.sound
    | inr unbooted =>
      rw [unbooted.1] at booted
      cases booted
  · intro memory guarded recoverable
    refine .inr ⟨rfl, ?_, recoverable⟩
    cases guarded with
    | inl rests =>
      obtain ⟨path, release, calm, origin⟩ := rests
      exact .inl ⟨path, release, ⟨calm.current, calm.there, calm.complete, calm.restarted, calm.settled⟩, origin⟩
    | inr pending =>
      obtain ⟨version, path, release, now, pending⟩ := pending
      exact .inr ⟨version, path, release, now, pending.baseline, pending.there, pending.complete, pending.named,
        pending.record, pending.current, pending.usable, pending.known⟩

theorem fieldWorld_sound : fieldWorld.Sound where
  running := ⟨fieldPath "2.0.0", { complete := true, serial := 0 }, by decide, rfl, .inl rfl⟩
  restarted := rfl
  settled := fun _ found => by cases found

/-- The agent starts, updates, and is killed after so many answers; then it starts again,
and recovers with so many answers. -/
def fieldRun (answers recovery : Nat) (current : Path) (phase : Phase) :
    List (Move Call.Answer Job Empty) :=
  [.start .recover, .reply (fieldAnswer (fieldPath "2.0.0") none), .start .checkAndApply] ++
    List.replicate answers (.reply (fieldAnswer (fieldPath "2.0.0") none)) ++ [.crash, .start .recover] ++
    List.replicate recovery (.reply (fieldAnswer current (some ⟨phase, "2.1.0", some (fieldPath "2.0.0")⟩)))

/-- It is killed between the flip to version 2.1.0 and the restart of the services. -/
theorem killed_after_flip :
    ∃ machine : Machine World Call.Answer, machine.memory.current = some (fieldPath "2.0.0") ∧
      machine.memory.Sound := by
  let machine :=
    fieldAgent.careful.play ⟨fieldWorld, none⟩ (fieldRun 25 8 (fieldPath "2.1.0") .applying)
  have legal : fieldAgent.careful.legalRun ⟨fieldWorld, none⟩ (fieldRun 25 8 (fieldPath "2.1.0") .applying) = true := by
    decide +kernel
  have resting : machine.waiting.isNone = true := by decide +kernel
  have booted : machine.memory.booted = true := by decide +kernel
  have current : machine.memory.current = some (fieldPath "2.0.0") := by decide +kernel
  have safe := killed_anywhere fieldWorld_sound (System.reaches_play legal)
  exact ⟨machine, current, safe.2 (Option.isNone_iff_eq_none.mp resting) booted⟩

/-- It is killed in a rollback, between the flip back to version 2.0.0 and the restart: the
recovery finds the old release and does not restart the services. -/
theorem killed_in_rollback :
    ¬ ∀ (agent : Agent) (world : World) (machine : Machine World Call.Answer), world.Sound →
      (agent.killable (fun _ _ => true) fun _ => true).Reaches ⟨world, none⟩ machine →
      (∃ path release, machine.memory.running = some (path, release)) ∧
        (machine.waiting = none → machine.memory.booted = true → machine.memory.Sound) := by
  intro safe
  let system := fieldAgent.killable (fun _ _ => true) fun _ => true
  let machine := system.play ⟨fieldWorld, none⟩ (fieldRun 33 4 (fieldPath "2.0.0") .selfTest)
  have legal : system.legalRun ⟨fieldWorld, none⟩ (fieldRun 33 4 (fieldPath "2.0.0") .selfTest) = true := by
    decide +kernel
  have resting : machine.waiting.isNone = true := by decide +kernel
  have booted : machine.memory.booted = true := by decide +kernel
  have stale : machine.memory.restarted = false := by decide +kernel
  have sound := (safe fieldAgent fieldWorld machine fieldWorld_sound (System.reaches_play legal)).2
    (Option.isNone_iff_eq_none.mp resting) booted
  rw [sound.restarted] at stale
  cases stale

end Wqm1.Ota
