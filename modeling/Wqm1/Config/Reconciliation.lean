import Wqm1.Config.RemoteCalls
import Wqm1.Library.Events
import Mathlib.Algebra.Order.Ring.Rat
import Mathlib.Tactic.Linarith

/-! The polls for a remote config: when the config is fetched, and what is done with it. -/

set_option autoImplicit false

namespace Wqm1.Config

open Wqm1.Library Wqm1.Library.Events

/-- Seconds between two refreshes of the water profile. -/
def profileRefreshS : Rat := 6 * 3600

/-- The number that a version is compared as; `True` is 1. -/
def versionNumber : Option Yaml → Option Int
  | some (.int number) => some number
  | some (.bool value) => some (if value then 1 else 0)
  | _ => none

/-- A response with status 200 and a body. -/
structure ConfigResponse where
  version : Option Yaml
  values : Yaml
  profile : Bool

structure FetchedConfig where
  version : Option Yaml
  values : Dict YamlKey Yaml
  profile : Bool

/-- No response is a 204, a failure, or a fetch that raises: the worker catches it. -/
def fetchConfig : Option ConfigResponse → Option FetchedConfig
  | none => none
  | some response =>
    if (versionOf response.version).isNone && !response.profile then none
    else some ⟨versionOf response.version, response.values.dict, response.profile⟩

/-- A poll: the clock when it looks and when it counts an attempt, and how its fetch and its
write would turn out. -/
structure ConfigPoll where
  polled : Rat
  counted : Rat
  response : Option ConfigResponse
  persistFailure : Option String := none
  ordered : polled ≤ counted

structure Attempt where
  polled : Rat
  counted : Rat

inductive ConfigEvent where
  | configApplied (version : Yaml)
  | configRejected (version : Yaml) (errors : List String)

/-- For the statements only: the attempts so far, the events with their attempts, what was
fetched, and whether the last attempt was for a new version and brought no valid document
for it. -/
structure Reconciler where
  config : ConfigManager
  profileSyncedMono : Option Rat := none
  attempts : List Attempt := []
  events : List (Attempt × ConfigEvent) := []
  fetched : List FetchedConfig := []
  missed : Bool := false

def configNew (cloudVersion : Option Yaml) (config : ConfigManager) : Bool :=
  (versionOf cloudVersion).isSome && versionNumber cloudVersion ≠ versionNumber config.remoteVersion

/-- The check passes all the values. -/
def passes (values : Dict YamlKey Yaml) : Bool :=
  match validateValues values true with
  | .ok (_, errors) => errors.isEmpty
  | .error _ => false

/-- The document is for this version and passes the check. -/
def FetchedConfig.validFor (fetched : FetchedConfig) (cloudVersion : Option Yaml) : Bool :=
  versionNumber fetched.version = versionNumber cloudVersion && passes fetched.values

namespace Reconciler

def profileStale (device : Reconciler) (now : Rat) : Bool :=
  device.profileSyncedMono.all fun synced => profileRefreshS ≤ now - synced

/-- The attempt is counted before the fetch. -/
def count (device : Reconciler) (cloudVersion : Option Yaml) (poll : ConfigPoll) : Reconciler :=
  { device with
    profileSyncedMono := some poll.counted
    attempts := ⟨poll.polled, poll.counted⟩ :: device.attempts
    fetched := (fetchConfig poll.response).toList ++ device.fetched
    missed := configNew cloudVersion device.config &&
      !(fetchConfig poll.response).any fun fetched => fetched.validFor cloudVersion }

def emit (device : Reconciler) (poll : ConfigPoll) (event : ConfigEvent) : Reconciler :=
  { device with events := (⟨poll.polled, poll.counted⟩, event) :: device.events }

def applyFetched (device : Reconciler) (poll : ConfigPoll) (version : Yaml) (values : Dict YamlKey Yaml) :
    Reconciler :=
  match device.config.applyRemoteConfig ⟨version, values, poll.persistFailure⟩ with
  | (.ok (true, _), config) => { device with config }.emit poll (.configApplied version)
  | (.ok (false, errors), config) => { device with config }.emit poll (.configRejected version (errors.take 5))
  | (.error _, config) => { device with config }

def reconcileRemoteConfig (device : Reconciler) (cloudVersion : Option Yaml) (poll : ConfigPoll) : Reconciler :=
  let isNew := configNew cloudVersion device.config
  if !isNew && !device.profileStale poll.polled then device
  else
    let counted := device.count cloudVersion poll
    match fetchConfig poll.response with
    | none => counted
    | some fetched =>
      match isNew, fetched.version with
      | true, some version => counted.applyFetched poll version fetched.values
      | _, _ => counted

/-- `CommandWorker.step`, where the server reports a config version. -/
def step (configVersion : Yaml) (device : Reconciler) (poll : ConfigPoll) : Option Reconciler :=
  some (device.reconcileRemoteConfig (versionOf (some configVersion)) poll)

end Reconciler

/-- The earlier attempt was counted a whole period before the later one. -/
def Spaced (later earlier : Attempt) : Prop := earlier.counted + profileRefreshS ≤ later.polled

def ConfigEvent.rejected : ConfigEvent → Bool
  | .configRejected _ _ => true
  | .configApplied _ => false

def ConfigEvent.applies (cloudVersion : Option Yaml) : ConfigEvent → Bool
  | .configApplied version => versionNumber (some version) = versionNumber cloudVersion
  | .configRejected _ _ => false

namespace Reconciler

def rejections (device : Reconciler) : List Attempt := (device.events.filter fun event => event.2.rejected).map Prod.fst

def applications (device : Reconciler) (cloudVersion : Option Yaml) : Nat :=
  device.events.countP fun event => event.2.applies cloudVersion

/-- A valid document for the version has been fetched. -/
def delivered (device : Reconciler) (cloudVersion : Option Yaml) : Bool :=
  device.fetched.any fun fetched => fetched.validFor cloudVersion

/-- Attempts and rejections keep their distance, and a valid document for the version has been
applied once, unless the version was in force at the start. -/
structure Settled (cloudVersion : Option Yaml) (start : ConfigManager) (device : Reconciler) : Prop where
  attempts : device.attempts.Pairwise Spaced
  rejections : device.rejections.Pairwise Spaced
  applied : device.applications cloudVersion =
    if configNew cloudVersion start && device.delivered cloudVersion then 1 else 0

end Reconciler

def ConfigManager.baseLoads (config : ConfigManager) : Bool :=
  match applyFile settingsDefaults config.base false with
  | .ok _ => true
  | .error _ => false

/-- After an attempt that brought no valid document for a new version no poll comes until the
profile is stale, and a valid document for a new version can be written and reloaded. -/
def Patient (cloudVersion : Option Yaml) (device : Reconciler) (poll : ConfigPoll) : Prop :=
  (device.missed = true → device.profileStale poll.polled = true) ∧
    (configNew cloudVersion device.config = true →
      ((fetchConfig poll.response).any fun fetched => fetched.validFor cloudVersion) = true →
      poll.persistFailure = none ∧ device.config.baseLoads = true)

theorem versionOf_versionOf (version : Option Yaml) : versionOf (versionOf version) = versionOf version := by
  cases version with
  | none => rfl
  | some content => cases content <;> rfl

theorem orEmpty_ofDict (dict : Dict String Yaml) : (Yaml.ofDict dict).orEmpty = Yaml.ofDict dict := by
  unfold Yaml.orEmpty
  split
  next => rfl
  next empty =>
    unfold Yaml.ofDict Yaml.truthy at empty
    unfold Yaml.ofDict
    cases entries : dict.entries.map fun entry => (YamlKey.text entry.1, entry.2) with
    | nil => rfl
    | cons entry rest =>
      rw [entries] at empty
      exact absurd rfl empty

/-- The version of a document that was written is read back at the reload. -/
theorem remoteVersion_written {manager after : ConfigManager} {version : Yaml} {values : Dict YamlKey Yaml}
    {accepted : Dict String Yaml} {errors : List SettingError}
    (validated : validateValues values true = .ok (accepted, errors))
    (file : manager.overlay = .parsed (overlayDocument version accepted)) (reloaded : manager.reload = .ok after) :
    after.remoteVersion = versionOf (some version) := by
  have quiet : Quiet true (Yaml.ofDict accepted).dict := quiet_written (validateValues_ok validated).2
  unfold ConfigManager.reload at reloaded
  cases based : applyFile settingsDefaults manager.base false with
  | error raised =>
    rw [based] at reloaded
    cases reloaded
  | ok settings =>
    rw [based] at reloaded
    cases reloaded
    have document (key : String) : (overlayDocument version accepted).dict.get (.text key) =
        if key = "values" then some (Yaml.ofDict accepted) else if key = "version" then some version else none := by
      unfold overlayDocument Yaml.dict Dict.ofList
      have missing : (Dict.empty : Dict YamlKey Yaml).get (.text key) = none := rfl
      simp [Dict.get_set, missing]
    show (applyRemoteOverlay settings manager.overlay).2 = _
    rw [file]
    show (applyDocument settings (overlayDocument version accepted).dict).2 = _
    unfold applyDocument
    rw [document, document, if_pos rfl, Option.getD_some, orEmpty_ofDict]
    cases checked : validateValues (Yaml.ofDict accepted).dict true with
    | error raised => exact absurd quiet (validateValues_error checked)
    | ok outcome =>
      show (match validateValues (Yaml.ofDict accepted).dict true with
        | .ok (accepted, _) => (settings.update accepted, versionOf (some version))
        | .error _ => (settings, none)).2 = _
      rw [checked]

theorem baseLoads_iff (manager : ConfigManager) :
    manager.baseLoads = true ↔ ∃ after, manager.reload = .ok after := by
  unfold ConfigManager.baseLoads ConfigManager.reload
  cases applyFile settingsDefaults manager.base false with
  | ok settings => exact ⟨fun _ => ⟨_, rfl⟩, fun _ => rfl⟩
  | error raised =>
    refine ⟨fun impossible => (by cases impossible), fun loaded => ?_⟩
    obtain ⟨after, impossible⟩ := loaded
    cases impossible

theorem baseLoads_of_reload {manager after : ConfigManager} {overlay : ConfigFile}
    (reloaded : { manager with overlay }.reload = .ok after) : manager.baseLoads = true :=
  (baseLoads_iff { manager with overlay }).mpr ⟨after, reloaded⟩

theorem passes_iff (values : Dict YamlKey Yaml) :
    passes values = true ↔ ∃ accepted, validateValues values true = .ok (accepted, []) := by
  unfold passes
  cases validateValues values true with
  | error raised =>
    refine ⟨fun impossible => (by cases impossible), fun valid => ?_⟩
    obtain ⟨accepted, impossible⟩ := valid
    cases impossible
  | ok outcome =>
    obtain ⟨accepted, errors⟩ := outcome
    constructor
    · intro clean
      cases List.isEmpty_iff.mp clean
      exact ⟨accepted, rfl⟩
    · rintro ⟨_, ⟨⟩⟩
      rfl

namespace Reconciler

variable {device after : Reconciler} {cloudVersion : Option Yaml} {poll : ConfigPoll} {start : ConfigManager}

/-- What a poll does. -/
inductive Reconciled (device : Reconciler) (cloudVersion : Option Yaml) (poll : ConfigPoll) : Reconciler → Prop where
  | idle (known : configNew cloudVersion device.config = false) (fresh : device.profileStale poll.polled = false) :
      Reconciled device cloudVersion poll device
  | refreshed (known : configNew cloudVersion device.config = false) (stale : device.profileStale poll.polled = true) :
      Reconciled device cloudVersion poll (device.count cloudVersion poll)
  | applied {fetched : FetchedConfig} {version : Yaml} {config : ConfigManager}
      (isNew : configNew cloudVersion device.config = true) (found : fetchConfig poll.response = some fetched)
      (carries : fetched.version = some version) (valid : passes fetched.values = true)
      (writes : poll.persistFailure = none) (loads : device.config.baseLoads = true)
      (inForce : config.remoteVersion = some version) :
      Reconciled device cloudVersion poll
        ({ device.count cloudVersion poll with config }.emit poll (.configApplied version))
  | failed {config : ConfigManager} (isNew : configNew cloudVersion device.config = true)
      (inForce : config.remoteVersion = device.config.remoteVersion)
      (cause : ∀ fetched, fetchConfig poll.response = some fetched → fetched.validFor cloudVersion = true →
        poll.persistFailure = none → device.config.baseLoads = false) :
      Reconciled device cloudVersion poll { device.count cloudVersion poll with config }
  | rejected {config : ConfigManager} {version : Yaml} {errors : List String}
      (isNew : configNew cloudVersion device.config = true)
      (inForce : config.remoteVersion = device.config.remoteVersion)
      (cause : ∀ fetched, fetchConfig poll.response = some fetched → fetched.validFor cloudVersion = true →
        poll.persistFailure = none → device.config.baseLoads = false) :
      Reconciled device cloudVersion poll
        ({ device.count cloudVersion poll with config }.emit poll (.configRejected version errors))

theorem versionOf_fetched {response : Option ConfigResponse} {fetched : FetchedConfig}
    (found : fetchConfig response = some fetched) : versionOf fetched.version = fetched.version := by
  cases response with
  | none => cases found
  | some response =>
    obtain ⟨-, same⟩ := Option.ite_none_left_eq_some.mp found
    cases same
    exact versionOf_versionOf _

/-- A document without a version is for no version that is new. -/
theorem not_validFor {fetched : FetchedConfig} {config : ConfigManager} (isNew : configNew cloudVersion config = true)
    (absent : fetched.version = none) : fetched.validFor cloudVersion = false := by
  obtain ⟨reported, -⟩ := (Bool.and_eq_true _ _).mp isNew
  unfold FetchedConfig.validFor
  rw [absent]
  cases cloudVersion with
  | none => cases reported
  | some version => cases version with
    | int => rfl
    | bool => rfl
    | _ => cases reported

theorem reconciled (device : Reconciler) (cloudVersion : Option Yaml) (poll : ConfigPoll) :
    Reconciled device cloudVersion poll (device.reconcileRemoteConfig cloudVersion poll) := by
  unfold reconcileRemoteConfig
  dsimp only
  split
  next idle =>
    obtain ⟨known, fresh⟩ := (Bool.and_eq_true _ _).mp idle
    exact .idle (Bool.not_eq_true' _ |>.mp known) (Bool.not_eq_true' _ |>.mp fresh)
  next due =>
    cases isNew : configNew cloudVersion device.config with
    | false =>
      have stale : device.profileStale poll.polled = true := by simpa [isNew] using due
      split
      next => exact .refreshed isNew stale
      next => exact .refreshed isNew stale
    | true =>
      split
      next nothing =>
        refine .failed isNew rfl fun fetched found => ?_
        cases nothing.symm.trans found
      next fetched found =>
        split
        next version _ carries =>
          unfold applyFetched
          have called := called device.config ⟨version, fetched.values, poll.persistFailure⟩
          have same : (device.count cloudVersion poll).config = device.config := rfl
          rw [same]
          have cause (refused : ∀ accepted, validateValues fetched.values true = .ok (accepted, []) →
              poll.persistFailure = none → ∀ after,
              { device.config with overlay := .parsed (overlayDocument version accepted) }.reload ≠ .ok after)
              (other : FetchedConfig) (seen : fetchConfig poll.response = some other)
              (valid : other.validFor cloudVersion = true) (writes : poll.persistFailure = none) :
              device.config.baseLoads = false := by
            cases found.symm.trans seen
            obtain ⟨accepted, validated⟩ := (passes_iff _).mp ((Bool.and_eq_true _ _).mp valid).2
            refine Bool.eq_false_iff.mpr fun loads => ?_
            obtain ⟨after, reloaded⟩ := (baseLoads_iff
              { device.config with overlay := .parsed (overlayDocument version accepted) }).mp loads
            exact refused accepted validated writes after reloaded
          split
          next listed config outcome =>
            rw [outcome] at called
            cases called with
            | applied validated writes reloaded =>
              refine .applied isNew found carries ((passes_iff _).mpr ⟨_, validated⟩) writes
                (baseLoads_of_reload reloaded) ((remoteVersion_written validated rfl reloaded).trans ?_)
              have known := versionOf_fetched found
              rwa [carries] at known
            | unapplied failed => exact absurd rfl (failed _)
          next errors config outcome =>
            rw [outcome] at called
            cases called with
            | unapplied _ refused => exact .rejected isNew rfl (cause refused)
          next raised config outcome =>
            rw [outcome] at called
            cases called with
            | unapplied _ refused => exact .failed isNew rfl (cause refused)
        next other =>
          refine .failed isNew rfl fun fetched seen valid => ?_
          cases found.symm.trans seen
          have absent : fetched.version = none := by
            cases carried : fetched.version with
            | none => rfl
            | some version => exact absurd carried (other version rfl)
          rw [not_validFor isNew absent] at valid
          cases valid

/-- What stands while every poll is patient. -/
structure Clean (cloudVersion : Option Yaml) (start : ConfigManager) (device : Reconciler) : Prop where
  attempts : device.attempts.Pairwise Spaced
  ordered : ∀ attempt ∈ device.attempts, attempt.polled ≤ attempt.counted
  synced : device.profileSyncedMono = device.attempts.head?.map Attempt.counted
  rejections : device.rejections.Sublist device.attempts
  version : configNew cloudVersion device.config =
    (configNew cloudVersion start && !device.delivered cloudVersion)
  applied : device.applications cloudVersion =
    if configNew cloudVersion start && device.delivered cloudVersion then 1 else 0
  missed : device.missed = true → configNew cloudVersion device.config = true
  owed : configNew cloudVersion device.config = true → device.attempts = [] ∨ device.missed = true

theorem Clean.settled (clean : Clean cloudVersion start device) : Settled cloudVersion start device :=
  ⟨clean.attempts, clean.attempts.sublist clean.rejections, clean.applied⟩

theorem Clean.spaced (clean : Clean cloudVersion start device) (stale : device.profileStale poll.polled = true) :
    (⟨poll.polled, poll.counted⟩ :: device.attempts : List Attempt).Pairwise Spaced := by
  refine List.pairwise_cons.mpr ⟨?_, clean.attempts⟩
  have synced := clean.synced
  have attempts := clean.attempts
  have ordered := clean.ordered
  unfold profileStale at stale
  rw [synced] at stale
  cases listed : device.attempts with
  | nil => exact List.forall_mem_nil _
  | cons last earlier =>
    rw [listed] at stale attempts ordered
    have long : profileRefreshS ≤ poll.polled - last.counted := of_decide_eq_true stale
    have before := (List.pairwise_cons.mp attempts).1
    have lastOrdered := ordered last List.mem_cons_self
    intro attempt member
    show attempt.counted + profileRefreshS ≤ poll.polled
    rcases List.mem_cons.mp member with same | member
    · rw [same]
      linarith
    · have apart : attempt.counted + profileRefreshS ≤ last.polled := before attempt member
      have positive : 0 ≤ profileRefreshS := by
        unfold profileRefreshS
        norm_num
      linarith

theorem Clean.stale (clean : Clean cloudVersion start device) (patient : Patient cloudVersion device poll)
    (isNew : configNew cloudVersion device.config = true) : device.profileStale poll.polled = true := by
  rcases clean.owed isNew with first | missed
  · unfold profileStale
    rw [clean.synced, first]
    rfl
  · exact patient.1 missed

theorem delivered_count (device : Reconciler) (cloudVersion : Option Yaml) (poll : ConfigPoll) :
    (device.count cloudVersion poll).delivered cloudVersion =
      ((fetchConfig poll.response).any (fun fetched => fetched.validFor cloudVersion) ||
        device.delivered cloudVersion) := by
  unfold delivered count
  rw [List.any_append]
  cases fetchConfig poll.response with
  | none => rfl
  | some fetched => simp

theorem configNew_congr {config other : ConfigManager} (same : config.remoteVersion = other.remoteVersion) :
    configNew cloudVersion config = configNew cloudVersion other := by
  unfold configNew
  rw [same]

/-- The version is new until a valid document for it is in force. -/
theorem configNew_applied {fetched : FetchedConfig} {version : Yaml} {config other : ConfigManager}
    (isNew : configNew cloudVersion other = true) (carries : fetched.version = some version)
    (valid : passes fetched.values = true) (inForce : config.remoteVersion = some version) :
    configNew cloudVersion config = !fetched.validFor cloudVersion := by
  unfold configNew at isNew ⊢
  unfold FetchedConfig.validFor
  rw [((Bool.and_eq_true _ _).mp isNew).1, inForce, valid, carries]
  by_cases same : versionNumber (some version) = versionNumber cloudVersion
  · simp [same]
  · simp [same, Ne.symm same]

theorem Clean.attempted (clean : Clean cloudVersion start device) (stale : device.profileStale poll.polled = true)
    (attempts : after.attempts = ⟨poll.polled, poll.counted⟩ :: device.attempts)
    (synced : after.profileSyncedMono = some poll.counted) (rejections : after.rejections.Sublist after.attempts)
    (version : configNew cloudVersion after.config =
      (configNew cloudVersion start && !after.delivered cloudVersion))
    (applied : after.applications cloudVersion =
      if configNew cloudVersion start && after.delivered cloudVersion then 1 else 0)
    (missed : after.missed = configNew cloudVersion after.config) : Clean cloudVersion start after where
  attempts := by
    rw [attempts]
    exact clean.spaced stale
  ordered := by
    rw [attempts]
    exact List.forall_mem_cons.mpr ⟨poll.ordered, clean.ordered⟩
  synced := by
    rw [attempts, synced]
    rfl
  rejections := rejections
  version := version
  applied := applied
  missed last := missed.symm.trans last
  owed isNew := .inr (missed.trans isNew)

/-- Where the version is new, it was at the start, and no valid document has come. -/
theorem Clean.undelivered (clean : Clean cloudVersion start device)
    (isNew : configNew cloudVersion device.config = true) :
    configNew cloudVersion start = true ∧ device.delivered cloudVersion = false := by
  obtain ⟨began, none⟩ := (Bool.and_eq_true _ _).mp (clean.version.symm.trans isNew)
  exact ⟨began, Bool.not_eq_true' _ |>.mp none⟩

/-- A document that is not put in force was not valid. -/
theorem invalid_of_cause (patient : Patient cloudVersion device poll)
    (isNew : configNew cloudVersion device.config = true)
    (cause : ∀ fetched, fetchConfig poll.response = some fetched → fetched.validFor cloudVersion = true →
      poll.persistFailure = none → device.config.baseLoads = false) :
    ((fetchConfig poll.response).any fun fetched => fetched.validFor cloudVersion) = false := by
  cases valid : (fetchConfig poll.response).any fun fetched => fetched.validFor cloudVersion with
  | false => rfl
  | true =>
    obtain ⟨writes, loads⟩ := patient.2 isNew valid
    obtain ⟨fetched, found, this⟩ := (Option.any_eq_true _ _).mp valid
    rw [cause fetched found this writes] at loads
    cases loads

/-- A poll that puts nothing in force for a new version. -/
theorem Clean.unapplied (clean : Clean cloudVersion start device) (patient : Patient cloudVersion device poll)
    (isNew : configNew cloudVersion device.config = true)
    (inForce : after.config.remoteVersion = device.config.remoteVersion)
    (cause : ∀ fetched, fetchConfig poll.response = some fetched → fetched.validFor cloudVersion = true →
      poll.persistFailure = none → device.config.baseLoads = false)
    (counted : { after with config := device.config, events := device.events } = device.count cloudVersion poll)
    (rejections : after.rejections.Sublist after.attempts)
    (applications : after.applications cloudVersion = device.applications cloudVersion) :
    Clean cloudVersion start after := by
  obtain ⟨began, undelivered⟩ := clean.undelivered isNew
  have invalid := invalid_of_cause patient isNew cause
  have now : configNew cloudVersion after.config = true := (configNew_congr inForce).trans isNew
  have fetched : after.delivered cloudVersion = (device.count cloudVersion poll).delivered cloudVersion :=
    congrArg (fun device => device.delivered cloudVersion) counted
  have delivered : after.delivered cloudVersion = false := by
    rw [fetched, delivered_count, invalid, undelivered]
    rfl
  have missed : after.missed = (device.count cloudVersion poll).missed :=
    congrArg (fun device => device.missed) counted
  refine clean.attempted (clean.stale patient isNew) (congrArg Reconciler.attempts counted)
    (congrArg Reconciler.profileSyncedMono counted) rejections ?_ ?_ ?_
  · rw [now, began, delivered]
    rfl
  · rw [applications, clean.applied, undelivered, delivered]
  · rw [missed, now]
    unfold count
    dsimp only
    rw [isNew, invalid]
    rfl

theorem Clean.step (clean : Clean cloudVersion start device) (patient : Patient cloudVersion device poll)
    (done : Reconciled device cloudVersion poll after) : Clean cloudVersion start after := by
  have delivered := delivered_count device cloudVersion poll
  cases done with
  | idle => exact clean
  | refreshed known stale =>
    have came : configNew cloudVersion start = true → device.delivered cloudVersion = true := by
      intro began
      simpa [known, began] using clean.version
    refine clean.attempted stale rfl rfl (clean.rejections.cons _) ?_ ?_ ?_
    · refine known.trans ?_
      cases began : configNew cloudVersion start with
      | false => rfl
      | true => rw [delivered, came began, Bool.or_true, Bool.not_true, Bool.and_false]
    · refine clean.applied.trans ?_
      cases began : configNew cloudVersion start with
      | false => rfl
      | true => rw [delivered, came began, Bool.or_true]
    · exact (congrArg (· && _) known).trans known.symm
  | @applied fetched version config isNew found carries valid _ _ inForce =>
    obtain ⟨began, undelivered⟩ := clean.undelivered isNew
    have applied := clean.applied
    rw [found, Option.any_some, undelivered, Bool.or_false] at delivered
    rw [began, undelivered, Bool.and_false, if_neg Bool.false_ne_true] at applied
    have now := configNew_applied isNew carries valid inForce
    refine clean.attempted (clean.stale patient isNew) rfl rfl (clean.rejections.cons _) ?_ ?_ ?_
    · refine now.trans ?_
      rw [began, Bool.true_and]
      exact congrArg (! ·) delivered.symm
    · have applies : ConfigEvent.applies cloudVersion (.configApplied version) = fetched.validFor cloudVersion := by
        unfold ConfigEvent.applies FetchedConfig.validFor
        rw [valid, Bool.and_true, carries]
      refine (List.countP_cons ..).trans ?_
      rw [began, Bool.true_and]
      show device.applications cloudVersion + (if ConfigEvent.applies cloudVersion (.configApplied version) = true then 1 else 0) =
        if (device.count cloudVersion poll).delivered cloudVersion = true then 1 else 0
      rw [applied, applies, delivered, Nat.zero_add]
    · show (configNew cloudVersion device.config && !(fetchConfig poll.response).any _) = configNew cloudVersion config
      rw [isNew, found, Option.any_some, now, Bool.true_and]
  | failed isNew inForce cause =>
    exact clean.unapplied patient isNew inForce cause rfl (clean.rejections.cons _) rfl
  | rejected isNew inForce cause =>
    exact clean.unapplied patient isNew inForce cause rfl (clean.rejections.cons_cons _) rfl

/-- A poll that looks again too soon leaves two attempts too close. -/
theorem Clean.hurried (clean : Clean cloudVersion start device) (fresh : ¬ device.profileStale poll.polled = true)
    (attempts : after.attempts = ⟨poll.polled, poll.counted⟩ :: device.attempts) : ¬ after.attempts.Pairwise Spaced := by
  intro spaced
  unfold profileStale at fresh
  rw [clean.synced] at fresh
  rw [attempts] at spaced
  cases listed : device.attempts with
  | nil =>
    rw [listed] at fresh
    exact fresh rfl
  | cons last earlier =>
    rw [listed] at fresh spaced
    have apart : last.counted + profileRefreshS ≤ poll.polled :=
      (List.pairwise_cons.mp spaced).1 last List.mem_cons_self
    refine fresh (decide_eq_true ?_)
    linarith

theorem attempts_of_new (isNew : configNew cloudVersion device.config = true)
    (done : Reconciled device cloudVersion poll after) :
    after.attempts = ⟨poll.polled, poll.counted⟩ :: device.attempts := by
  cases done with
  | idle known => cases known.symm.trans isNew
  | refreshed | applied | failed | rejected => rfl

/-- A valid document that is not put in force has not been applied. -/
theorem Clean.lost (clean : Clean cloudVersion start device) (isNew : configNew cloudVersion device.config = true)
    (valid : ((fetchConfig poll.response).any fun fetched => fetched.validFor cloudVersion) = true)
    (delivered : after.delivered cloudVersion = (device.count cloudVersion poll).delivered cloudVersion)
    (applications : after.applications cloudVersion = device.applications cloudVersion) :
    ¬ Settled cloudVersion start after := by
  intro settled
  obtain ⟨began, undelivered⟩ := clean.undelivered isNew
  have once := settled.applied
  rw [applications, clean.applied, delivered, delivered_count, valid, undelivered, began] at once
  cases once

theorem Clean.unsettled (clean : Clean cloudVersion start device) (impatient : ¬ Patient cloudVersion device poll)
    (done : Reconciled device cloudVersion poll after) : ¬ Settled cloudVersion start after := by
  by_cases waits : device.missed = true → device.profileStale poll.polled = true
  · have refused : ¬ (configNew cloudVersion device.config = true →
        ((fetchConfig poll.response).any fun fetched => fetched.validFor cloudVersion) = true →
        poll.persistFailure = none ∧ device.config.baseLoads = true) := fun kept => impatient ⟨waits, kept⟩
    simp only [Classical.not_imp] at refused
    obtain ⟨isNew, valid, unwritable⟩ := refused
    cases done with
    | idle known => cases known.symm.trans isNew
    | refreshed known => cases known.symm.trans isNew
    | applied _ _ _ _ writes loads => exact absurd ⟨writes, loads⟩ unwritable
    | failed => exact clean.lost isNew valid rfl rfl
    | rejected => exact clean.lost isNew valid rfl rfl
  · obtain ⟨missed, fresh⟩ := Classical.not_imp.mp waits
    exact fun settled => clean.hurried fresh (attempts_of_new (clean.missed missed) done) settled.attempts

end Reconciler

/-- The attempts of a run keep their distance and valid documents are applied once if and only
if every poll of it is patient. -/
theorem remote_config_settles_iff (configVersion : Yaml) (start : ConfigManager) (polls : List ConfigPoll) :
    Throughout (Reconciler.step configVersion) (Reconciler.Settled (versionOf (some configVersion)) start)
        { config := start } polls ↔
      Along (Reconciler.step configVersion) (Patient (versionOf (some configVersion))) { config := start } polls := by
  have begins : Reconciler.Clean (versionOf (some configVersion)) start { config := start } :=
    { attempts := .nil
      ordered := List.forall_mem_nil _
      synced := rfl
      rejections := .slnil
      version := by rw [Reconciler.delivered, List.any_nil, Bool.not_false, Bool.and_true]
      applied := by rw [Reconciler.delivered, List.any_nil, Bool.and_false]; rfl
      missed := fun impossible => (by cases impossible)
      owed := fun _ => .inl rfl }
  refine @throughout_iff_along _ _ (Reconciler.step configVersion) _ { config := start } (Reconciler.Clean _ start)
    (Reconciler.Settled _ start) Reconciler.Clean.settled ?_ ?_ begins polls
  · intro before poll after clean stepped patient
    cases stepped
    exact clean.step patient (Reconciler.reconciled before _ poll)
  · intro before poll after clean stepped impatient
    cases stepped
    exact clean.unsettled impatient (Reconciler.reconciled before _ poll)

/-- A poll whose fetch fails. -/
def unanswered (now : Rat) : ConfigPoll := ⟨now, now, none, none, le_refl now⟩

/-- A device without config files polls twice within a minute for version 5, and no fetch works. -/
theorem failed_fetch_repeats : ¬ ∀ (configVersion : Yaml) (start : ConfigManager) (polls : List ConfigPoll),
    Throughout (Reconciler.step configVersion) (Reconciler.Settled (versionOf (some configVersion)) start)
      { config := start } polls := by
  intro claim
  have settled := (claim (.int 5) { base := .missing, overlay := .missing } [unanswered 0, unanswered 60]).final rfl
  have apart : (0 : Rat) + profileRefreshS ≤ 60 := (List.pairwise_cons.mp settled.attempts).1 _ List.mem_cons_self
  unfold profileRefreshS at apart
  norm_num at apart

end Wqm1.Config
