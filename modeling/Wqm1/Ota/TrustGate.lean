import Wqm1.Ota.Agent

/-! Which calls an update makes before the target is verified. -/

set_option autoImplicit false

namespace Wqm1.Ota

open Wqm1.Library Wqm1.Library.Prog

/-- A call that creates, overwrites or deletes a file outside the download directory. -/
def Call.Outside (agent : Agent) : Call → Prop
  | openWrite path => ¬ agent.downloadDir <+: path
  | write path _ => ¬ agent.downloadDir <+: path
  | unlink path => ¬ agent.downloadDir <+: path
  | removeTree _ => True
  | makeDir _ => True
  | extract _ _ => True
  | rename _ _ => True
  | compile _ => True
  | writeState _ => True
  | clearTmp => True
  | linkTmp _ => True
  | replaceCurrent _ => True
  | _ => False

/-- A call that touches the releases or `current`. -/
def Call.Touches (agent : Agent) : Call → Prop
  | openWrite path => ¬ agent.downloadDir <+: path ∧
    (agent.releasesDir <+: path ∨ path = agent.currentLink)
  | write path _ => ¬ agent.downloadDir <+: path ∧
    (agent.releasesDir <+: path ∨ path = agent.currentLink)
  | unlink path => ¬ agent.downloadDir <+: path ∧
    (agent.releasesDir <+: path ∨ path = agent.currentLink)
  | removeTree _ => True
  | makeDir _ => True
  | extract _ _ => True
  | rename _ _ => True
  | compile _ => True
  | clearTmp => True
  | linkTmp _ => True
  | replaceCurrent _ => True
  | _ => False

/-- The signature over the manifest passed. -/
def Signed (agent : Agent) (target : Target) (earlier : List Entry) : Prop :=
  ∃ key signature, ⟨.loadPublicKey, some key⟩ ∈ earlier ∧
    agent.decodeBase64 target.signature = some signature ∧
    agent.verifyManifestSignature key target.manifest signature = true

/-- All checks of the verification passed. -/
structure Verified (agent : Agent) (target : Target) (manifest : Manifest) (earlier : List Entry) : Prop where
  signed : Signed agent target earlier
  parsed : agent.parseManifest target.manifest = some manifest
  product : manifest.product = some "wqm1"
  version : manifest.version = some target.version
  bundle : ⟨.digest (agent.bundlePath target.version), some manifest.sha256⟩ ∈ earlier
  archive : ⟨.validateTarMembers (agent.bundlePath target.version), some true⟩ ∈ earlier
  newEnough : ∀ required ∈ manifest.minFromVersion, ∃ installed,
    ⟨.installedVersion, some installed⟩ ∈ earlier ∧ agent.newEnough installed required = true

/-- Every call is judged by the calls before it. -/
def Gated (agent : Agent) (target : Target) : List Entry → Prop
  | [] => True
  | entry :: earlier =>
    (entry.request.Touches agent →
      ∃ manifest, Verified agent target manifest earlier ∧ manifest.requiresDeps = false) ∧
    (entry.request.Outside agent → Signed agent target earlier) ∧ Gated agent target earlier

/-- Every call so far was allowed. -/
abbrev Guards (agent : Agent) (target : Target) (world : World) : Prop :=
  Gated agent target world.log

/-- The server assigns this target, or does not answer. -/
def Target.assigned (target : Target) : (request : Call) → Option request.Answer → Bool
  | .poll, some answer => decide (answer = some target)
  | _, _ => true

/-- The agent on a unit that the server assigns this target to. -/
def Agent.serving (agent : Agent) (target : Target) : System World Call.Answer Unit Empty where
  program _ := do
    let _ ← agent.checkAndApply
    pure ()
  starts _ _ := true
  perform := agent.perform
  answers request world answer := legal request world answer && target.assigned request answer
  effect effect _ := effect.elim
  permits effect _ := effect.elim
  restart world := world
  crashes _ := false

/-- The target gets as far as to its bundle being opened. -/
def Agent.Downloads (agent : Agent) (target : Target) : Prop :=
  target.version ≠ "" ∧ target.url ≠ "" ∧
    ∃ sizeHint ∈ target.sizeBytes, (agent.bundleLimit sizeHint).isSome = true

section

variable {agent : Agent} {target : Target} {manifest : Manifest} {bundle : Path} {world : World} {earlier : List Entry}

theorem Signed.later (signed : Signed agent target earlier) (entry : Entry) :
    Signed agent target (entry :: earlier) := by
  obtain ⟨key, signature, loaded, rest⟩ := signed
  exact ⟨key, signature, List.mem_cons_of_mem _ loaded, rest⟩

theorem Verified.later (verified : Verified agent target manifest earlier) (entry : Entry) :
    Verified agent target manifest (entry :: earlier) := by
  refine ⟨verified.signed.later entry, verified.parsed, verified.product, verified.version,
    List.mem_cons_of_mem _ verified.bundle, List.mem_cons_of_mem _ verified.archive, fun required listed => ?_⟩
  obtain ⟨installed, read, newEnough⟩ := verified.newEnough required listed
  exact ⟨installed, List.mem_cons_of_mem _ read, newEnough⟩

/-- A call that needs no permission. -/
def Call.Free (agent : Agent) (request : Call) : Prop :=
  ¬ request.Touches agent ∧ ¬ request.Outside agent

theorem free_of_harmless {request : Call} (harmless : request.Harmless bundle)
    (inside : agent.downloadDir <+: bundle) :
    request.Free agent := by
  cases request with
  | openWrite path => exact harmless ▸ ⟨fun both => both.1 inside, fun outside => outside inside⟩
  | write path size =>
    cases harmless
    exact ⟨fun both => both.1 inside, fun outside => outside inside⟩
  | unlink path => exact harmless ▸ ⟨fun both => both.1 inside, fun outside => outside inside⟩
  | report => exact ⟨id, id⟩
  | installedVersion => exact ⟨id, id⟩
  | makeDownloadDir => exact ⟨id, id⟩
  | openUrl => exact ⟨id, id⟩
  | freeDisk => exact ⟨id, id⟩
  | stat => exact ⟨id, id⟩
  | loadPublicKey => exact ⟨id, id⟩
  | digest => exact ⟨id, id⟩
  | validateTarMembers => exact ⟨id, id⟩
  | _ => exact harmless.elim

theorem Gated.free (gated : Guards agent target world) (request : Call) (free : request.Free agent)
    (answer : Option request.Answer) : Guards agent target (agent.perform request answer world) :=
  ⟨fun touches => absurd touches free.1, fun outside => absurd outside free.2, gated⟩

/-- An update that may touch anything. -/
structure Permitted (agent : Agent) (target : Target) (world : World) : Prop where
  gated : Guards agent target world
  verified : ∃ manifest, Verified agent target manifest world.log ∧ manifest.requiresDeps = false

theorem Permitted.call (permitted : Permitted agent target world) (request : Call)
    (answer : Option request.Answer) :
    Permitted agent target (agent.perform request answer world) := by
  obtain ⟨gated, manifest, verified, deps⟩ := permitted
  exact ⟨⟨fun _ => ⟨manifest, verified, deps⟩, fun _ => verified.signed, gated⟩, manifest, verified.later _, deps⟩

/-- A program that writes nothing itself. -/
abbrev Calls {α : Type} (program : OtaProg α) : Prop := program.Only fun _ => True

theorem calls_ask (request : Call) : Calls (ask request) := only_invoke trivial

theorem calls_tell (request : Call) : Calls (tell request) := only_attempt trivial

theorem calls_report (phase : Phase) (version : String) : Calls (report phase version) :=
  (calls_tell _).bind fun _ => trivial

theorem calls_writeState (phase : Phase) (version : String) (previous : Option Path) :
    Calls (writeState phase version previous) :=
  (calls_tell _).bind fun _ => trivial

theorem calls_cleanupDownload : Calls (cleanupDownload bundle) :=
  (calls_tell _).bind fun _ => trivial

theorem calls_require (condition : Bool) : Calls (require condition) := by
  unfold require
  split <;> trivial

theorem calls_flipCurrent (path : Path) : Calls (flipCurrent path) :=
  (calls_ask _).bind fun _ => (calls_ask _).bind fun _ => calls_ask _

theorem calls_clearDir (path : Path) : Calls (clearDir path) := by
  refine (calls_ask _).bind fun found => ?_
  split
  next => exact (calls_ask _).bind fun removal => calls_require _
  next => trivial

theorem calls_apply (version : String) : Calls (agent.apply version bundle) := by
  unfold Agent.apply Agent.prepare Agent.activate
  refine Only.bind ((calls_clearDir _).bind fun _ => (calls_ask _).bind fun _ => (calls_ask _).bind fun extracted => ?_)
    fun previous => ?_
  · refine (calls_require _).bind fun _ => (calls_clearDir _).bind fun _ => (calls_ask _).bind fun _ => ?_
    exact (calls_tell _).bind fun _ => calls_ask _
  · refine Only.bind ((calls_writeState ..).bind fun _ => (calls_flipCurrent _).bind fun _ => calls_ask _) fun _ => ?_
    trivial

theorem calls_rollback (previous : Path) (version : String) : Calls (rollback previous version) :=
  (calls_flipCurrent _).bind fun _ => (calls_ask _).bind fun _ => (calls_writeState ..).bind fun _ => calls_report ..

theorem calls_removeAll (names : List String) : Calls (agent.removeAll names) := by
  induction names with
  | nil => trivial
  | cons name rest ih => exact (calls_tell _).bind fun _ => ih

theorem calls_finish (version : String) (previous : Option Path) :
    Calls (agent.finish version previous) := by
  unfold Agent.finish
  refine (calls_writeState ..).bind fun _ => (calls_report ..).bind fun _ => (calls_ask _).bind fun ok => ?_
  split
  next =>
    refine (calls_report ..).bind fun _ => (calls_writeState ..).bind fun _ => Only.bind ?_ fun _ => trivial
    exact (calls_ask _).bind fun names => calls_removeAll _
  next =>
    cases previous with
    | none => exact (calls_report ..).bind fun _ => (calls_writeState ..).bind fun _ => trivial
    | some previous => exact (calls_rollback ..).bind fun _ => trivial

theorem calls_update (version : String) : Calls (agent.update version bundle) := by
  unfold Agent.update
  refine ((calls_report ..).bind fun _ => calls_apply version).caught.bind fun applied => ?_
  cases applied with
  | none =>
    exact (calls_report ..).bind fun _ => calls_cleanupDownload.bind fun _ => calls_cleanupDownload.bind fun _ => trivial
  | some previous => exact calls_cleanupDownload.bind fun _ => calls_finish ..

theorem safe_orRaiseThen {α β : Type} {value : Option α} {next : α → OtaProg β}
    {holds : World → Prop}
    {after : Option β → World → Prop} {system : System World Call.Answer Unit Empty}
    (given : ∀ found, value = some found → (next found).Safe system holds after world)
    (failed : after none world) :
    (orRaise value >>= next).Safe system holds after world := by
  cases value with
  | none => exact failed
  | some found => exact given found rfl

/-- What verification has checked. -/
theorem safe_verify (gated : Guards agent target world) :
    (agent.verify target (agent.bundlePath target.version)).Safe (agent.serving target) (fun _ => True)
      (ends (fun manifest after => Guards agent target after ∧ Verified agent target manifest after.log)
        (Guards agent target)) world := by
  unfold Agent.verify
  refine safe_requireThen (fun _ => ?_) gated
  refine safe_orRaiseThen (fun signature decoded => ?_) gated
  refine Safe.invokeThen trivial (fun key _ => ?_) fun _ => gated.free _ ⟨id, id⟩ none
  have gated := gated.free .loadPublicKey ⟨id, id⟩ (some key)
  refine safe_requireThen (fun valid => ?_) gated
  refine safe_orRaiseThen (fun manifest parsed => ?_) gated
  refine safe_requireThen (fun product => ?_) gated
  refine safe_requireThen (fun version => ?_) gated
  have signed : Signed agent target (agent.perform .loadPublicKey (some key) world).log :=
    ⟨key, signature, List.mem_cons_self, decoded, valid⟩
  refine Safe.invokeThen trivial (fun digest _ => ?_) fun _ => gated.free _ ⟨id, id⟩ none
  have gated := gated.free (.digest (agent.bundlePath target.version)) ⟨id, id⟩ (some digest)
  refine safe_requireThen (fun same => ?_) gated
  refine Safe.invokeThen trivial (fun sane _ => ?_) fun _ => gated.free _ ⟨id, id⟩ none
  have gated :=
    gated.free (.validateTarMembers (agent.bundlePath target.version)) ⟨id, id⟩ (some sane)
  refine safe_requireThen (fun clean => ?_) gated
  have product := of_decide_eq_true product
  have version := of_decide_eq_true version
  cases of_decide_eq_true same
  cases clean
  cases bound : manifest.minFromVersion with
  | none =>
    refine ⟨gated, (signed.later _).later _, parsed, product, version, List.mem_cons_of_mem _ List.mem_cons_self,
      List.mem_cons_self, fun required listed => ?_⟩
    rw [bound] at listed
    cases listed
  | some required =>
    refine Safe.invokeThen trivial (fun installed _ => ?_) fun _ => gated.free _ ⟨id, id⟩ none
    have gated := gated.free .installedVersion ⟨id, id⟩ (some installed)
    refine safe_requireThen (fun newEnough => ?_) gated
    refine ⟨gated, ((signed.later _).later _).later _, parsed, product, version,
      List.mem_cons_of_mem _ (List.mem_cons_of_mem _ List.mem_cons_self), List.mem_cons_of_mem _ List.mem_cons_self,
      fun listed member => ?_⟩
    rw [bound] at member
    cases member
    exact ⟨installed, List.mem_cons_self, newEnough⟩

/-- The calls before a bundle is applied, where it lies in the download directory. -/
theorem Gated.safe {α : Type} {program : OtaProg α} (gated : Guards agent target world)
    (inside : agent.downloadDir <+: bundle) (only : program.Only (Call.Harmless bundle)) :
    program.Safe (agent.serving target) (fun _ => True) (fun _ => Guards agent target) world :=
  only.safe gated (fun _ _ => trivial) fun request _ answer harmless gated _ =>
    Gated.free gated request (free_of_harmless harmless inside) answer

theorem safe_download (gated : Guards agent target world)
    (inside : agent.downloadDir <+: agent.bundlePath target.version) :
    (agent.download target).Safe (agent.serving target) (fun _ => True) (ends (fun bundle after =>
      bundle = agent.bundlePath target.version ∧
        Guards agent target after) (Guards agent target)) world := by
  unfold Agent.download
  split
  next => exact gated
  next =>
    refine safe_orRaiseThen (fun sizeHint _ => safe_orRaiseThen (fun limit _ => ?_) gated) gated
    refine Safe.invokeThen trivial (fun made _ => ?_) fun _ => gated.free _ ⟨id, id⟩ none
    have gated := gated.free .makeDownloadDir ⟨id, id⟩ (some made)
    refine Safe.invokeThen trivial (fun response _ => ?_) fun _ => Gated.free gated _ ⟨id, id⟩ none
    have gated := Gated.free gated (.openUrl target.url) ⟨id, id⟩ (some response)
    refine Safe.caughtThen _ _ (safe_ends.mpr (Gated.safe gated inside (only_fetch ..))) ?_ ?_
    · intro _ fetched gated
      refine Safe.invokeThen trivial
        (fun _ _ => ⟨rfl, ?_⟩) fun _ => Gated.free gated _ ⟨id, id⟩ none
      exact Gated.free gated (.stat _) ⟨id, id⟩ (some ())
    · intro failed gated
      refine Safe.attemptThen trivial fun removed _ => ?_
      exact Gated.free gated
        (.unlink _) ⟨fun both => both.1 inside, fun outside => outside inside⟩ removed

theorem safe_consider_gated (gated : Guards agent target world)
    (inside : agent.downloadDir <+: agent.bundlePath target.version) :
    (agent.consider target (agent.bundlePath target.version)).Safe (agent.serving target) (fun _ => True)
      (fun _ => Guards agent target) world := by
  have gives (phase : Phase) : (do
      let _ ← report phase target.version
      let _ ← cleanupDownload (agent.bundlePath target.version)
      pure phase : OtaProg Phase).Only (Call.Harmless (agent.bundlePath target.version)) :=
    (only_report ..).bind fun _ => only_cleanupDownload.bind fun _ => trivial
  unfold Agent.consider
  refine Safe.caughtThen _ _
    (Safe.bind (fun _ => Guards agent target) ?_ fun _ _ gated => safe_verify gated) ?_ ?_
  · exact Safe.attemptThen trivial fun told _ => gated.free (.report ..) ⟨id, id⟩ told
  · rintro manifest after ⟨gated, verified⟩
    dsimp only
    split
    next => exact Gated.safe gated inside (gives .failed)
    next independent =>
      have permitted : Permitted agent target after :=
        ⟨gated, manifest, verified, Bool.not_eq_true _ ▸ independent⟩
      refine ((calls_update target.version).safe permitted (fun _ _ => trivial) ?_).mono fun _ _ ended => ended.gated
      exact fun request memory answer _ permitted _ => permitted.call request answer
  · intro after gated
    exact Gated.safe gated inside (gives .verifyFailed)

theorem download_raises (dull : ¬ agent.Downloads target) (named : target.version ≠ "") :
    agent.download target = .raise := by
  unfold Agent.download
  split
  next => rfl
  next url =>
    cases hint : target.sizeBytes with
    | none => rfl
    | some sizeHint =>
      cases limit : agent.bundleLimit sizeHint with
      | some limit => exact absurd ⟨named, url, sizeHint, hint, by rw [limit]; rfl⟩ dull
      | none =>
        change (orRaise (agent.bundleLimit sizeHint) >>= _ : OtaProg Path) = _
        rw [limit]
        rfl

theorem safe_upgrade_gated (gated : Guards agent target world) (named : target.version ≠ "")
    (fits : agent.Downloads target → agent.downloadDir <+: agent.bundlePath target.version) :
    (agent.upgrade target).Safe (agent.serving target) (fun _ => True)
    (fun _ => Guards agent target) world := by
  unfold Agent.upgrade
  refine Safe.caughtThen
    (fun bundle after => agent.downloadDir <+: agent.bundlePath target.version ∧
    bundle = agent.bundlePath target.version ∧ Guards agent target after) (Guards agent target)
    (Safe.bind (fun _ => Guards agent target) ?_ fun _ told gated => ?_) ?_ ?_
  · exact Safe.attemptThen trivial fun told _ => gated.free (.report ..) ⟨id, id⟩ told
  · by_cases downloads : agent.Downloads target
    · have inside := fits downloads
      refine (safe_download gated inside).mono fun result after ended => ?_
      cases result with
      | none => exact ended
      | some bundle => exact ⟨inside, ended⟩
    · rw [download_raises downloads named]
      exact gated
  · rintro bundle after ⟨inside, rfl, gated⟩
    exact safe_consider_gated gated inside
  · intro failed gated
    exact Safe.attemptThen trivial fun told _ => Gated.free gated (.report ..) ⟨id, id⟩ told

/-- Where the bundle has its place in the download directory, or is never opened, every
call is allowed. -/
theorem safe_checkAndApply_gated (gated : Guards agent target world)
    (fits : agent.Downloads target → agent.downloadDir <+: agent.bundlePath target.version) :
    agent.checkAndApply.Safe (agent.serving target) (fun _ => True)
    (fun _ => Guards agent target) world := by
  unfold Agent.checkAndApply
  refine Safe.attemptThen trivial fun answer possible => ?_
  have gated := gated.free .poll ⟨id, id⟩ answer
  cases answer with
  | none => exact gated
  | some assigned =>
    have same : assigned = some target := of_decide_eq_true possible
    cases same
    refine Safe.invokeThen trivial (fun installed _ => ?_) fun _ => Gated.free gated _ ⟨id, id⟩ none
    have gated := Gated.free gated .installedVersion ⟨id, id⟩ (some installed)
    split
    next => exact gated
    next due => exact safe_upgrade_gated gated (not_or.mp due).1 fits

/-- An empty bundle is fetched. -/
theorem fetches (agent : Agent) (target : Target) (world : World) (bundle : Path)
    (limit sizeHint : Int) :
    ∃ final after before, Ends (agent.serving target) (fetch bundle limit sizeHint ⟨some limit, [], false⟩) world
      (some ()) final ∧ final.log = after ++ ⟨.openWrite bundle, some ()⟩ :: before ++ world.log ∧
      ∀ key, ⟨.loadPublicKey, some key⟩ ∉ before := by
  have room : ¬ freeDiskFactor * max (max limit sizeHint) 1 < freeDiskFactor * max (max limit sizeHint) 1 :=
    Int.lt_irrefl _
  let asked := agent.perform .freeDisk (some (freeDiskFactor * max (max limit sizeHint) 1)) world
  refine ⟨agent.perform (.openWrite bundle) (some ()) asked, [],
    [⟨.freeDisk, some (freeDiskFactor * max (max limit sizeHint) 1)⟩], ?_, ?_, ?_⟩
  · unfold fetch
    refine Ends.bind (.done limit world) ?_
    rw [if_neg (Int.lt_irrefl _)]
    refine Ends.bind (Ends.invoked (some (freeDiskFactor * max (max limit sizeHint) 1)) rfl) ?_
    rw [if_neg room]
    exact Ends.bind (Ends.invoked (some ()) rfl) (.done ..)
  · rfl
  · intro key member
    cases List.mem_singleton.mp member

/-- A run in which an empty bundle is opened. -/
theorem opens_bundle (world : World) (downloads : agent.Downloads target)
    (begins : world.log = []) :
    ∃ final after before, Ends (agent.serving target) agent.checkAndApply world (some .failed) final ∧
      final.log = after ++ ⟨.openWrite (agent.bundlePath target.version), some ()⟩ :: before ∧
      ∀ key, ⟨.loadPublicKey, some key⟩ ∉ before := by
  obtain ⟨named, url, sizeHint, hint, limited⟩ := downloads
  obtain ⟨limit, limited⟩ := Option.isSome_iff_exists.mp limited
  have other : ¬ (target.version = "" ∨ target.version = target.version ++ "x") := by
    refine not_or.mpr ⟨named, fun same => ?_⟩
    have lengths := congrArg String.length same
    rw [String.length_append] at lengths
    have one : "x".length = 1 := by decide
    omega
  let polled := agent.perform .poll (some (some target)) world
  let looked := agent.perform .installedVersion (some (target.version ++ "x")) polled
  let told := agent.perform (.report .downloading target.version) none looked
  let made := agent.perform .makeDownloadDir (some ()) told
  let opened := agent.perform (.openUrl target.url) (some ⟨some limit, [], false⟩) made
  obtain ⟨fetched, after, before, ended, log, keyless⟩ :=
    fetches agent target opened (agent.bundlePath target.version) limit sizeHint
  have downloaded : Ends (agent.serving target) (agent.download target) told none
      (agent.perform (.stat (agent.bundlePath target.version)) none fetched) := by
    unfold Agent.download
    rw [if_neg url, hint]
    refine Ends.bind (.done sizeHint told) ?_
    rw [limited]
    refine Ends.bind (.done limit told) (Ends.bind (Ends.invoked (some ()) rfl) ?_)
    refine Ends.bind (Ends.invoked (some ⟨some limit, [], false⟩) rfl) (Ends.bind ended.caught ?_)
    exact Ends.raises (Ends.invoked none rfl)
  let final := agent.perform (.report .failed target.version) none
    (agent.perform (.stat (agent.bundlePath target.version)) none fetched)
  refine ⟨final, ⟨.report .failed target.version, none⟩ :: ⟨.stat (agent.bundlePath target.version), none⟩ :: after,
    before ++ opened.log, ?_, ?_, ?_⟩
  · unfold Agent.checkAndApply
    have assigned : (agent.serving target).answers .poll world (some (some target)) = true :=
      decide_eq_true rfl
    refine Ends.bind (Ends.attempted _ assigned) (Ends.bind (Ends.invoked (some (target.version ++ "x")) rfl) ?_)
    rw [if_neg other]
    unfold Agent.upgrade
    have reported : Ends (agent.serving target) (do
        let _ ← report .downloading target.version
        agent.download target) looked none (agent.perform (.stat (agent.bundlePath target.version)) none fetched) :=
      Ends.bind (Ends.bind (Ends.attempted none rfl) (.done ..)) downloaded
    refine Ends.bind reported.caught ?_
    exact Ends.bind (Ends.bind (Ends.attempted none rfl) (.done ..)) (.done ..)
  · change _ :: _ :: fetched.log = _
    rw [log, List.append_assoc]
    rfl
  · intro key member
    cases List.mem_append.mp member with
    | inl fetching => exact keyless key fetching
    | inr earlier =>
      have listed : opened.log = ⟨.openUrl target.url, some ⟨some limit, [], false⟩⟩ :: ⟨.makeDownloadDir, some ()⟩ ::
          ⟨.report .downloading target.version, none⟩ :: ⟨.installedVersion, some (target.version ++ "x")⟩ ::
          ⟨.poll, some (some target)⟩ :: world.log := rfl
      rw [listed, begins] at earlier
      simp only [List.mem_cons, Entry.mk.injEq, reduceCtorEq, false_and, or_self, List.not_mem_nil] at earlier

theorem Gated.before {entry : Entry} {after : List Entry}
    (gated : Gated agent target (after ++ entry :: earlier)) :
    entry.request.Outside agent → Signed agent target earlier := by
  induction after with
  | nil => exact gated.2.1
  | cons _ rest ih => exact ih gated.2.2

end

/-- For every target that the server assigns: nothing of the releases and `current` is
touched before all checks passed, and no file outside the download directory before the
signature passed, exactly when the bundle has its place in the download directory or is
never opened. -/
theorem trust_gate (agent : Agent) (target : Target) (start : World) (begins : start.log = []) :
    (∀ result final, Ends (agent.serving target) agent.checkAndApply start result final → Gated agent target final.log) ↔
      (agent.Downloads target → agent.downloadDir <+: agent.bundlePath target.version) := by
  constructor
  · intro gated downloads
    obtain ⟨final, after, before, ended, log, keyless⟩ := opens_bundle start downloads begins
    have judged := gated _ _ ended
    rw [log] at judged
    by_contra outside
    obtain ⟨key, signature, loaded, _⟩ := judged.before outside
    exact keyless key loaded
  · intro fits result final ended
    have gated : Guards agent target start := by
      unfold Guards
      rw [begins]
      trivial
    exact (safe_checkAndApply_gated gated fits).after_ends ended

/-- A target in the field. -/
def fieldTarget (version : String) : Target where
  version := version
  url := "https://cloud/bundle"
  sizeBytes := some 10
  manifest := "manifest"
  signature := ""

theorem trust_gate_field :
    (∀ result final, Ends (fieldAgent.serving (fieldTarget "2.1.0")) fieldAgent.checkAndApply fieldWorld result final →
      Gated fieldAgent (fieldTarget "2.1.0") final.log) ∧
      fieldAgent.downloadDir <+: fieldAgent.bundlePath "2.1.0" := by
  have inside : fieldAgent.downloadDir <+: fieldAgent.bundlePath "2.1.0" := by decide +kernel
  exact ⟨(trust_gate fieldAgent (fieldTarget "2.1.0") fieldWorld rfl).mpr fun _ => inside, inside⟩

/-- A version with `..` in it: the bundle is written elsewhere before anything is checked. -/
theorem bundle_elsewhere :
    ¬ ∀ (agent : Agent) (target : Target) (start final : World) (result : Option Phase), start.log = [] →
      Ends (agent.serving target) agent.checkAndApply start result final →
        Gated agent target final.log := by
  intro gated
  let target := fieldTarget "../bundle"
  have downloads : fieldAgent.Downloads target := ⟨by decide, by decide, 10, rfl, rfl⟩
  obtain ⟨final, after, before, ended, log, keyless⟩ :=
    opens_bundle fieldWorld downloads rfl
  have judged := gated fieldAgent target fieldWorld final _ rfl ended
  rw [log] at judged
  have outside :
      ¬ fieldAgent.downloadDir <+: fieldAgent.bundlePath target.version := by decide +kernel
  obtain ⟨key, signature, loaded, _⟩ := judged.before outside
  exact keyless key loaded

end Wqm1.Ota
