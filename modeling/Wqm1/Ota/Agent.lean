import Wqm1.Library.Calls
import Wqm1.Ota.Paths

/-! The OTA agent: one update from the poll to its end, the recovery at boot, and what
their calls do to the unit. -/

set_option autoImplicit false

namespace Wqm1.Ota

open Wqm1.Library

inductive Phase where
  | idle | error | downloading | verifying | verifyFailed | applying | selfTest | success | failed | rolledBack
deriving DecidableEq

/-- `_INCOMPLETE_PHASES`. -/
def Phase.incomplete (phase : Phase) : Prop := phase ∈ [applying, selfTest]

instance (phase : Phase) : Decidable phase.incomplete := inferInstanceAs (Decidable (_ ∈ _))

/-- The assigned target; a missing text is empty. `sizeBytes` is what `int` gives, or
`none` where it raises. -/
structure Target where
  version : String
  url : String
  sizeBytes : Option Int
  manifest : String
  signature : String
deriving DecidableEq

structure Manifest where
  product : Option String
  version : Option String
  sha256 : String
  minFromVersion : Option String
  requiresDeps : Bool

/-- What the bundle's URL answers: the `Content-Length` as `int` gives it, the sizes of
the chunks, and whether the stream then breaks. -/
structure Response where
  contentLength : Option Int
  chunks : List Nat
  broken : Bool

structure StateRecord where
  phase : Phase
  version : String
  previous : Option Path
deriving DecidableEq

/-- The agent's settings and roots, and the library functions that it uses. `place` is
where a name under a directory leads. -/
structure Agent where
  root : Path
  stateDir : Path
  maxBundleBytes : Int
  keepReleases : Int
  place : Path → String → Path
  slack : Int → Option Int
  decodeBase64 : String → Option (List UInt8)
  parseManifest : String → Option Manifest
  verifyManifestSignature : String → String → List UInt8 → Bool
  parseInt : String → Option Int

/-- How much a removal left of a directory. -/
inductive Remains where
  | whole | damaged | gone
deriving DecidableEq

structure Removal where
  finished : Bool
  remains : Path → Remains

inductive Call where
  | poll
  | report (phase : Phase) (version : String)
  | installedVersion
  | makeDownloadDir
  | openUrl (url : String)
  | freeDisk
  | openWrite (path : Path)
  | write (path : Path) (size : Nat)
  | stat (path : Path)
  | unlink (path : Path)
  | loadPublicKey
  | digest (path : Path)
  | validateTarMembers (path : Path)
  | pathExists (path : Path)
  | removeTree (path : Path)
  | makeDir (path : Path)
  | extract (bundle path : Path)
  | rename (source target : Path)
  | compile (path : Path)
  | realpathCurrent
  | writeState (record : StateRecord)
  | readState
  | clearTmp
  | linkTmp (target : Path)
  | replaceCurrent (target : Path)
  | restartServices
  | selfTest
  | listReleases
deriving DecidableEq

/-- What a call returns. A removal and an extraction that did not finish are answered by
how far they got. -/
abbrev Call.Answer : Call → Type
  | poll => Option Target
  | installedVersion => String
  | openUrl _ => Response
  | freeDisk => Int
  | loadPublicKey => String
  | digest _ => String
  | validateTarMembers _ => Bool
  | pathExists _ => Bool
  | removeTree _ => Removal
  | extract _ _ => Bool
  | realpathCurrent => Option Path
  | writeState _ => Bool
  | readState => Option StateRecord
  | selfTest => Bool
  | listReleases => List String
  | _ => Unit

structure Entry where
  request : Call
  answer : Option request.Answer

/-- A directory; a release is complete when all of its bundle is extracted. `serial`
tells directories apart that came one after another, `losses` counts the removals that
took something of it. -/
structure Release where
  complete : Bool
  serial : Nat
  losses : Nat := 0
deriving DecidableEq

/-- The unit. The last fields are for the statements only: the calls so far, the last one
first, whether the agent is past the recovery of its boot, the release that ran when the
last update began, and whether the success of that update was recorded. -/
structure World where
  dirs : Path → Option Release
  made : Nat
  current : Option Path
  record : Option StateRecord
  restarted : Bool := true
  log : List Entry := []
  booted : Bool := false
  baseline : Option (Path × Release) := none
  succeeded : Bool := false

namespace World

variable (world : World)

/-- What `current` resolves to. -/
def running : Option (Path × Release) := do
  let path ← world.current
  let release ← world.dirs path
  some (path, release)

def Removal.left (removal : Removal) (path : Path) : Remains :=
  if removal.finished then .gone else removal.remains path

def remainder (release : Release) : Remains → Option Release
  | .whole => some release
  | .damaged => some { release with complete := false, losses := release.losses + 1 }
  | .gone => none

def removeTree (link path : Path) (removal : Removal) : World :=
  { world with
    dirs := fun other => if path <+: other then (world.dirs other).bind fun release =>
      remainder release (Removal.left removal other) else world.dirs other
    current := if path <+: link ∧ Removal.left removal link ≠ .whole then none else world.current }

/-- `mkdir(parents=True)`. -/
def makeDir (path : Path) : World :=
  { world with
    dirs := fun other =>
      if other <+: path ∧ world.dirs other = none then some { complete := false, serial := world.made } else world.dirs other
    made := world.made + 1 }

def extract (path : Path) (finished : Bool) : World :=
  { world with
    dirs := Function.update world.dirs path ((world.dirs path).map fun release => { release with complete := finished }) }

def rename (source target : Path) : World :=
  { world with dirs := Function.update (Function.update world.dirs source none) target (world.dirs source) }

def writeState (record : StateRecord) : World :=
  { world with record := some record, succeeded := world.succeeded || record.phase = .success }

end World

namespace Agent

variable (agent : Agent)

def releasesDir : Path := agent.root ++ ["releases"]

def currentLink : Path := agent.root ++ ["current"]

def downloadDir : Path := agent.stateDir ++ ["ota-download"]

/-- What an answered call does to the unit. -/
def effect : (request : Call) → Option request.Answer → World → World
  | .poll, _, world => { world with baseline := world.running, succeeded := false }
  | .removeTree path, some removal, world => world.removeTree agent.currentLink path removal
  | .makeDir path, some _, world => world.makeDir path
  | .extract _ path, some finished, world => world.extract path finished
  | .rename source target, some _, world => world.rename source target
  | .writeState record, some written, world => if written = true then world.writeState record else world
  | .replaceCurrent target, some _, world => { world with current := some target, restarted := false }
  | .restartServices, some _, world => { world with restarted := true }
  | _, _, world => world

def perform (request : Call) (answer : Option request.Answer) (world : World) : World :=
  { agent.effect request answer world with log := ⟨request, answer⟩ :: world.log }

/-- Which answers the unit can give. Any call may raise. -/
def legal : (request : Call) → World → Option request.Answer → Bool
  | .pathExists path, world, some found => (world.dirs path).isNone || found
  | .makeDir path, world, some _ => (world.dirs path).isNone
  | .rename source target, world, some _ => (world.dirs source).isSome && (world.dirs target).isNone
  | .realpathCurrent, world, some found => decide (found = world.current)
  | .readState, world, some found => decide (found = world.record)
  | _, _, _ => true

end Agent

abbrev OtaProg := Prog World Call.Answer

open Prog

/-- A call whose exception leaves the program. -/
def ask (request : Call) : OtaProg request.Answer := invoke request

/-- A call whose exception is dropped. -/
def tell (request : Call) : OtaProg (Option request.Answer) := attempt request

def require (condition : Bool) : OtaProg Unit := if condition = true then .done () else .raise

/-- `_report`, which never raises. -/
def report (phase : Phase) (version : String) : OtaProg Unit := do
  let _ ← tell (.report phase version)
  pure ()

/-- `_write_state`, which only logs that a write failed. -/
def writeState (phase : Phase) (version : String) (previous : Option Path) : OtaProg Unit := do
  let _ ← tell (.writeState ⟨phase, version, previous⟩)
  pure ()

/-- `_cleanup_download`. -/
def cleanupDownload (bundle : Path) : OtaProg Unit := do
  let _ ← tell (.unlink bundle)
  pure ()

def freeDiskFactor : Int := 3

/-- The loop over the chunks of the bundle. -/
def writeChunks (dest : Path) (limit : Int) (broken : Bool) : Int → List Nat → OtaProg Unit
  | _, [] => require !broken
  | written, size :: rest =>
    if limit < written + size then .raise
    else do
      let _ ← ask (.write dest size)
      writeChunks dest limit broken (written + size) rest

def fetch (dest : Path) (limit sizeHint : Int) (response : Response) : OtaProg Unit := do
  let declared ← orRaise response.contentLength
  if limit < declared then .raise
  else do
    let free : Int ← ask .freeDisk
    if free < freeDiskFactor * max (max declared sizeHint) 1 then .raise
    else do
      let _ ← ask (.openWrite dest)
      writeChunks dest limit response.broken 0 response.chunks

/-- `_flip_current`. -/
def flipCurrent (target : Path) : OtaProg Unit := do
  let _ ← ask .clearTmp
  let _ ← ask (.linkTmp target)
  ask (.replaceCurrent target)

/-- `if path.exists(): shutil.rmtree(path)`. -/
def clearDir (path : Path) : OtaProg Unit := do
  let found ← ask (.pathExists path)
  if found = true then do
    let removal ← ask (.removeTree path)
    require removal.finished
  else pure ()

/-- `_rollback`. -/
def rollback (previous : Path) (version : String) : OtaProg Unit := do
  let _ ← flipCurrent previous
  let _ ← ask .restartServices
  let _ ← writeState .rolledBack version (some previous)
  report .rolledBack version

/-- `recover_incomplete_apply`. -/
def recoverIncompleteApply : OtaProg (Option Phase) := do
  let record ← ask .readState
  match record with
  | none => pure none
  | some record =>
    if record.phase.incomplete then do
      let version := if record.version = "" then "0.0.0" else record.version
      let current ← ask .realpathCurrent
      match record.previous, current with
      | some previous, some current =>
        if current.getLast? = some version then do
          let _ ← rollback previous version
          pure (some .rolledBack)
        else do
          let _ ← writeState .failed version none
          let _ ← report .failed version
          pure (some .failed)
      | _, _ => do
        let _ ← writeState .failed version none
        let _ ← report .failed version
        pure (some .failed)
    else pure none

/-- `version_tuple`; `int` strips its parts itself. -/
def versionTuple (parseInt : String → Option Int) (version : String) : Option (List Int) :=
  (version.splitOn ".").mapM parseInt

namespace Agent

variable (agent : Agent)

def bundlePath (version : String) : Path := agent.place agent.downloadDir (version ++ ".tar.gz")

def finalDir (version : String) : Path := agent.place agent.releasesDir version

def stagingDir (version : String) : Path := agent.place agent.releasesDir (version ++ ".staging")

def bundleLimit (sizeHint : Int) : Option Int :=
  if 0 < sizeHint then (agent.slack sizeHint).map fun padded => min agent.maxBundleBytes padded
  else some agent.maxBundleBytes

/-- `_download`. -/
def download (target : Target) : OtaProg Path :=
  if target.url = "" then .raise
  else do
    let sizeHint ← orRaise target.sizeBytes
    let limit ← orRaise (agent.bundleLimit sizeHint)
    let _ ← ask .makeDownloadDir
    let dest := agent.bundlePath target.version
    let response ← ask (.openUrl target.url)
    let fetched ← caught (fetch dest limit sizeHint response)
    match fetched with
    | none => do
      let _ ← tell (.unlink dest)
      .raise
    | some _ => do
      let _ ← ask (.stat dest)
      pure dest

/-- The guard against downgrades. -/
def newEnough (installed required : String) : Bool :=
  match versionTuple agent.parseInt installed, versionTuple agent.parseInt required with
  | some installed, some required => ¬ installed < required
  | _, _ => false

/-- `_verify`. -/
def verify (target : Target) (bundle : Path) : OtaProg Manifest := do
  let _ ← require (target.manifest ≠ "")
  let signature ← orRaise (agent.decodeBase64 target.signature)
  let key ← ask .loadPublicKey
  let _ ← require (agent.verifyManifestSignature key target.manifest signature)
  let manifest ← orRaise (agent.parseManifest target.manifest)
  let _ ← require (manifest.product = some "wqm1")
  let _ ← require (manifest.version = some target.version)
  let digest ← ask (.digest bundle)
  let _ ← require (digest = manifest.sha256)
  let sane ← ask (.validateTarMembers bundle)
  let _ ← require sane
  match manifest.minFromVersion with
  | none => pure manifest
  | some required => do
    let installed ← ask .installedVersion
    let _ ← require (agent.newEnough installed required)
    pure manifest

/-- The part of `_apply` before the record is written. -/
def prepare (version : String) (bundle : Path) : OtaProg (Option Path) := do
  let staging := agent.stagingDir version
  let final := agent.finalDir version
  let _ ← clearDir staging
  let _ ← ask (.makeDir staging)
  let extracted ← ask (.extract bundle staging)
  let _ ← require extracted
  let _ ← clearDir final
  let _ ← ask (.rename staging final)
  let _ ← tell (.compile final)
  ask .realpathCurrent

/-- The rest of `_apply`. -/
def activate (version : String) (previous : Option Path) : OtaProg Unit := do
  let _ ← writeState .applying version previous
  let _ ← flipCurrent (agent.finalDir version)
  ask .restartServices

/-- `_apply`. -/
def apply (version : String) (bundle : Path) : OtaProg (Option Path) := do
  let previous ← agent.prepare version bundle
  let _ ← agent.activate version previous
  pure previous

/-- The removal of old releases one after another, whose errors are ignored. -/
def removeAll : List String → OtaProg Unit
  | [] => pure ()
  | name :: rest => do
    let _ ← tell (.removeTree (agent.releasesDir ++ [name]))
    removeAll rest

/-- `_prune_releases`; the names come in the order of their age, the newest first. -/
def pruneReleases (protect : List String) : OtaProg Unit := do
  let names ← ask .listReleases
  agent.removeAll ((names.drop (max agent.keepReleases 1).toNat).filter fun name => name ∉ protect)

/-- The update after it was applied. -/
def finish (version : String) (previous : Option Path) : OtaProg Phase := do
  let _ ← writeState .selfTest version previous
  let _ ← report .selfTest version
  let ok ← ask .selfTest
  if ok = true then do
    let _ ← report .success version
    let _ ← writeState .success version none
    let _ ← agent.pruneReleases (version :: (previous.bind List.getLast?).toList)
    pure .success
  else
    match previous with
    | none => do
      let _ ← report .failed version
      let _ ← writeState .failed version none
      pure .failed
    | some previous => do
      let _ ← rollback previous version
      pure .rolledBack

/-- The update of a verified bundle. -/
def update (version : String) (bundle : Path) : OtaProg Phase := do
  let applied ← caught (do
    let _ ← report .applying version
    agent.apply version bundle)
  match applied with
  | none => do
    let _ ← report .failed version
    let _ ← cleanupDownload bundle
    let _ ← cleanupDownload bundle
    pure .failed
  | some previous => do
    let _ ← cleanupDownload bundle
    agent.finish version previous

/-- The update of a downloaded bundle. -/
def consider (target : Target) (bundle : Path) : OtaProg Phase := do
  let verified ← caught (do
    let _ ← report .verifying target.version
    agent.verify target bundle)
  match verified with
  | none => do
    let _ ← report .verifyFailed target.version
    let _ ← cleanupDownload bundle
    pure .verifyFailed
  | some manifest =>
    if manifest.requiresDeps = true then do
      let _ ← report .failed target.version
      let _ ← cleanupDownload bundle
      pure .failed
    else agent.update target.version bundle

/-- The update to an assigned target. -/
def upgrade (target : Target) : OtaProg Phase := do
  let downloaded ← caught (do
    let _ ← report .downloading target.version
    agent.download target)
  match downloaded with
  | none => do
    let _ ← report .failed target.version
    pure .failed
  | some bundle => agent.consider target bundle

/-- `check_and_apply`. -/
def checkAndApply : OtaProg Phase := do
  let polled ← tell .poll
  match polled with
  | none => pure .error
  | some none => pure .idle
  | some (some target) => do
    let installed ← ask .installedVersion
    if target.version = "" ∨ target.version = installed then pure .idle
    else agent.upgrade target

end Agent

/-- The calls before a bundle is applied; of the files, they change only this bundle. -/
def Call.Harmless (bundle : Path) : Call → Prop
  | report _ _ => True
  | installedVersion => True
  | makeDownloadDir => True
  | openUrl _ => True
  | freeDisk => True
  | openWrite path => path = bundle
  | write path _ => path = bundle
  | stat _ => True
  | unlink path => path = bundle
  | loadPublicKey => True
  | digest _ => True
  | validateTarMembers _ => True
  | _ => False

section

variable {agent : Agent} {bundle : Path}

theorem Call.Harmless.effect {request : Call} (harmless : request.Harmless bundle) (answer : Option request.Answer)
    (world : World) : agent.effect request answer world = world := by
  cases request <;> first | exact harmless.elim | (cases answer <;> rfl)

theorem only_ask {request : Call} {α : Type} {next : request.Answer → OtaProg α} (harmless : request.Harmless bundle)
    (rest : ∀ answer, (next answer).Only (Call.Harmless bundle)) :
    (ask request >>= next).Only (Call.Harmless bundle) :=
  (only_invoke harmless).bind rest

theorem only_tell {request : Call} {α : Type} {next : Option request.Answer → OtaProg α}
    (harmless : request.Harmless bundle) (rest : ∀ answer, (next answer).Only (Call.Harmless bundle)) :
    (tell request >>= next).Only (Call.Harmless bundle) :=
  (only_attempt harmless).bind rest

theorem only_report (phase : Phase) (version : String) : (report phase version).Only (Call.Harmless bundle) :=
  only_tell trivial fun _ => trivial

theorem only_cleanupDownload : (cleanupDownload bundle).Only (Call.Harmless bundle) :=
  only_tell rfl fun _ => trivial

theorem only_require (condition : Bool) : (require condition).Only (Call.Harmless bundle) := by
  unfold require
  split <;> trivial

theorem only_writeChunks (limit : Int) (broken : Bool) (written : Int) (chunks : List Nat) :
    (writeChunks bundle limit broken written chunks).Only (Call.Harmless bundle) := by
  induction chunks generalizing written with
  | nil => exact only_require _
  | cons size rest ih =>
    unfold writeChunks
    split
    next => trivial
    next => exact only_ask rfl fun _ => ih _

theorem only_fetch (limit sizeHint : Int) (response : Response) :
    (fetch bundle limit sizeHint response).Only (Call.Harmless bundle) := by
  unfold fetch
  refine (only_orRaise _).bind fun declared => ?_
  split
  next => trivial
  next =>
    refine only_ask trivial fun free => ?_
    split
    next => trivial
    next => exact only_ask rfl fun _ => only_writeChunks ..

theorem only_download (target : Target) :
    (agent.download target).Only (Call.Harmless (agent.bundlePath target.version)) := by
  unfold Agent.download
  split
  next => trivial
  next =>
    refine (only_orRaise _).bind fun sizeHint => (only_orRaise _).bind fun limit => ?_
    refine only_ask trivial fun _ => only_ask trivial fun response => ?_
    refine (only_fetch ..).caught.bind fun fetched => ?_
    cases fetched with
    | none => exact only_tell rfl fun _ => trivial
    | some _ => exact only_ask trivial fun _ => trivial

theorem only_verify (target : Target) : (agent.verify target bundle).Only (Call.Harmless bundle) := by
  unfold Agent.verify
  refine (only_require _).bind fun _ => (only_orRaise _).bind fun signature => ?_
  refine only_ask trivial fun key => (only_require _).bind fun _ => ?_
  refine (only_orRaise _).bind fun manifest => (only_require _).bind fun _ => (only_require _).bind fun _ => ?_
  refine only_ask trivial fun digest => (only_require _).bind fun _ => ?_
  refine only_ask trivial fun sane => (only_require _).bind fun _ => ?_
  cases manifest.minFromVersion with
  | none => trivial
  | some required => exact only_ask trivial fun installed => (only_require _).bind fun _ => trivial

end

section

variable {world : World}

theorem running_iff {path : Path} {release : Release} : world.running = some (path, release) ↔
    world.current = some path ∧ world.dirs path = some release := by
  constructor
  · intro running
    unfold World.running at running
    obtain ⟨found, current, rest⟩ := Option.bind_eq_some_iff.mp running
    obtain ⟨there, found, same⟩ := Option.bind_eq_some_iff.mp rest
    cases same
    exact ⟨current, found⟩
  · intro both
    unfold World.running
    rw [both.1, Option.bind_eq_bind, Option.bind_some, both.2]
    rfl

theorem removeTree_shrinks (link : Path) {removed : Path} (removal : Removal) (finished : removal.finished = true)
    (other : Path) : (world.removeTree link removed removal).dirs other = world.dirs other ∨
      (world.removeTree link removed removal).dirs other = none := by
  unfold World.removeTree World.Removal.left
  rw [finished]
  dsimp only
  split
  next =>
    right
    cases world.dirs other <;> rfl
  next => exact .inl rfl

theorem removeTree_removes (link : Path) {removed : Path} (removal : Removal) (finished : removal.finished = true) :
    (world.removeTree link removed removal).dirs removed = none := by
  unfold World.removeTree World.Removal.left
  rw [finished]
  dsimp only
  rw [if_pos List.prefix_rfl]
  cases world.dirs removed <;> rfl

theorem safe_requireThen {condition : Bool} {α : Type} {next : Unit → OtaProg α} {holds : World → Prop}
    {after : Option α → World → Prop} {J : Type}
    {system : System World Call.Answer J Empty}
    (met : condition = true → (next ()).Safe system holds after world) (failed : after none world) :
    (require condition >>= next).Safe system holds after world := by
  unfold require
  split
  next holds => exact met holds
  next => exact failed

end

/-- A unit in the field that is offered version 2.1.0. -/
def fieldAgent : Agent where
  root := ["opt", "bluesignal"]
  stateDir := ["var", "lib", "bluesignal"]
  maxBundleBytes := 1000
  keepReleases := 2
  place := joinPath
  slack := some
  decodeBase64 _ := some []
  parseManifest _ := some ⟨some "wqm1", some "2.1.0", "ab", none, false⟩
  verifyManifestSignature _ _ _ := true
  parseInt _ := some 0

def fieldPath (version : String) : Path := fieldAgent.releasesDir ++ [version]

/-- It runs version 2.0.0. -/
def fieldWorld : World where
  dirs := fun path => if path = fieldPath "2.0.0" then some { complete := true, serial := 0 } else none
  made := 1
  current := some (fieldPath "2.0.0")
  record := none
  baseline := some (fieldPath "2.0.0", { complete := true, serial := 0 })

/-- What its calls return, where `current` leads to this path and the state file holds
this record; the self-test fails. -/
def fieldAnswer (current : Path) (record : Option StateRecord) : (request : Call) → Option request.Answer
  | .poll => some (some ⟨"2.1.0", "https://cloud/bundle", some 10, "manifest", ""⟩)
  | .report _ _ => some ()
  | .installedVersion => some "2.0.0"
  | .makeDownloadDir => some ()
  | .openUrl _ => some ⟨some 10, [10], false⟩
  | .freeDisk => some 1000
  | .openWrite _ => some ()
  | .write _ _ => some ()
  | .stat _ => some ()
  | .unlink _ => some ()
  | .loadPublicKey => some "key"
  | .digest _ => some "ab"
  | .validateTarMembers _ => some true
  | .pathExists _ => some false
  | .removeTree _ => none
  | .makeDir _ => some ()
  | .extract _ _ => some true
  | .rename _ _ => some ()
  | .compile _ => some ()
  | .realpathCurrent => some (some current)
  | .writeState _ => some true
  | .readState => some record
  | .clearTmp => some ()
  | .linkTmp _ => some ()
  | .replaceCurrent _ => some ()
  | .restartServices => some ()
  | .selfTest => some false
  | .listReleases => some []

end Wqm1.Ota
