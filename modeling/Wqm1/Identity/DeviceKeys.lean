import Wqm1.Library.Crew
import Wqm1.Library.Disk

/-! The identity key of the device: processes read it or create it under a file lock, sign
with it, are killed at any point and lose power. -/

set_option autoImplicit false

namespace Wqm1.Identity

open Wqm1.Library

/-- Ed25519: a signature verifies under the public key of the seed that made it. -/
structure Ed25519 (Key Message Signature : Type) where
  publicKey : Bytes → Key
  sign : Bytes → Message → Signature
  verify : Key → Message → Signature → Bool
  verify_sign : ∀ seed message, verify (publicKey seed) message (sign seed message) = true

variable {Key Message Signature : Type}

def seedBytes : Nat := 32

/-- What a call of `_ensure_keypair_locked` is for. -/
inductive Purpose (Message : Type) where
  | ensure
  | sign (message : Message)

/-- Where a process is: from `reading` to `releasing` with the file lock. -/
inductive Place (Message : Type) where
  | idle
  | looking (message : Message)
  | waiting (purpose : Purpose Message)
  | reading (purpose : Purpose Message)
  | promoting (purpose : Purpose Message)
  | discarding (purpose : Purpose Message)
  | checking (purpose : Purpose Message)
  | moving (purpose : Purpose Message) (seed : Bytes)
  | rereading (purpose : Purpose Message) (seed : Bytes)
  | generating (purpose : Purpose Message)
  | opened (purpose : Purpose Message) (seed : Bytes) (inode : Nat)
  | written (purpose : Purpose Message) (inode : Nat)
  | synced (purpose : Purpose Message) (inode : Nat)
  | failing (purpose : Purpose Message)
  | replaced (purpose : Purpose Message)
  | verifying (purpose : Purpose Message)
  | releasing (outcome : Option (Purpose Message × Bytes))
  | signing (message : Message)

def Place.holdsLock : Place Message → Bool
  | .idle | .looking _ | .waiting _ | .signing _ => false
  | _ => true

/-- About to read the temporary file. -/
def Place.promotes : Place Message → Bool
  | .promoting _ => true
  | _ => false

/-- The key file and its lock. The last fields are for the statements only: the seeds that
were taken into use, the public keys and the signatures that were returned, and whether a
generated key has replaced a key file that was there. -/
structure KeyStore (Key Message Signature : Type) where
  disk : Disk
  locked : Bool := false
  used : List Bytes := []
  keys : List Key := []
  signatures : List (Message × Signature) := []
  overwritten : Bool := false

inductive Action (Message : Type) where
  | call (purpose : Purpose Message)
  /-- The seed that `ECC.generate` made; `opens` when the temporary file can be opened. -/
  | generate (seed : Bytes) (opens : Bool)
  /-- How much of the seed `os.write` has written. -/
  | write (count : Nat)
  /-- An exception of `os.write` or `os.fsync`. -/
  | fail
  /-- The next step; `works` when it raises no `OSError`. -/
  | proceed (works : Bool)
  | kill

namespace KeyStore

variable (ed : Ed25519 Key Message Signature) (store : KeyStore Key Message Signature)

/-- `_read_seed` of the file that a name leads to. -/
def readSeed (inode : Option Nat) (works : Bool) : Option Bytes :=
  if works then (inode.map store.disk.content).filter (·.length = seedBytes) else none

def use (seed : Bytes) : KeyStore Key Message Signature :=
  { store with used := store.used ++ [seed] }

/-- The signing in `sign_bytes` with the seed that was read. -/
def signWith (seed : Bytes) (message : Message) : KeyStore Key Message Signature :=
  { store.use seed with signatures := store.signatures ++ [(message, ed.sign seed message)] }

def look (message : Message) (works : Bool) : KeyStore Key Message Signature × Place Message :=
  match store.readSeed store.disk.directory.dest works with
  | some seed => (store.signWith ed seed message, .idle)
  | none => (store, .waiting (.sign message))

/-- `flock`; it waits while another holds the lock. -/
def lock (purpose : Purpose Message) (works : Bool) :
    Option (KeyStore Key Message Signature × Place Message) :=
  if works then if store.locked then none else some ({ store with locked := true }, .reading purpose)
  else some (store, .idle)

def read (purpose : Purpose Message) (works : Bool) :
    KeyStore Key Message Signature × Place Message :=
  match store.readSeed store.disk.directory.dest works with
  | some seed => (store.use seed, .releasing (some (purpose, seed)))
  | none => (store, .promoting purpose)

def promote (purpose : Purpose Message) (works : Bool) : Place Message :=
  match store.readSeed store.disk.directory.tmp works with
  | some seed => .moving purpose seed
  | none => .discarding purpose

/-- `path.exists()` after there was nothing to promote. -/
def check (purpose : Purpose Message) : Place Message :=
  if store.disk.directory.dest.isSome then .releasing none else .generating purpose

/-- The rename of a leftover temporary file; its seed is returned also if that fails. -/
def rename (purpose : Purpose Message) (seed : Bytes) (works : Bool) :
    KeyStore Key Message Signature × Place Message :=
  match if works then store.disk.replace else none with
  | some disk => ({ store with disk := disk }, .rereading purpose seed)
  | none => (store.use seed, .releasing (some (purpose, seed)))

def reread (purpose : Purpose Message) (seed : Bytes) (works : Bool) :
    KeyStore Key Message Signature × Place Message :=
  let present := (store.readSeed store.disk.directory.dest works).getD seed
  (store.use present, .releasing (some (purpose, present)))

def generate (purpose : Purpose Message) (seed : Bytes) (opens : Bool) :
    KeyStore Key Message Signature × Place Message :=
  if seed.length = seedBytes ∧ opens then
    ({ store with disk := store.disk.openTmp.2 }, .opened purpose seed store.disk.openTmp.1)
  else (store, .releasing none)

/-- The rename of a new key. -/
def install (purpose : Purpose Message) (works : Bool) :
    KeyStore Key Message Signature × Place Message :=
  match if works then store.disk.replace else none with
  | some disk =>
    ({ store with disk := disk, overwritten := store.overwritten || store.disk.directory.dest.isSome },
      .replaced purpose)
  | none => (store, .releasing none)

def verify (purpose : Purpose Message) (works : Bool) :
    KeyStore Key Message Signature × Place Message :=
  match store.readSeed store.disk.directory.dest works with
  | some seed => (store.use seed, .releasing (some (purpose, seed)))
  | none => (store, .releasing none)

/-- The end of the lock's block, and of `ensure_keypair`. -/
def release (outcome : Option (Purpose Message × Bytes)) :
    KeyStore Key Message Signature × Place Message :=
  match outcome with
  | some (.ensure, seed) => ({ store with locked := false, keys := store.keys ++ [ed.publicKey seed] }, .idle)
  | some (.sign message, _) => ({ store with locked := false }, .signing message)
  | none => ({ store with locked := false }, .idle)

def finishSign (message : Message) (works : Bool) :
    KeyStore Key Message Signature × Place Message :=
  match store.readSeed store.disk.directory.dest works with
  | some seed => (store.signWith ed seed message, .idle)
  | none => (store, .idle)

def proceed (works : Bool) : Place Message → Option (KeyStore Key Message Signature × Place Message)
  | .looking message => some (store.look ed message works)
  | .waiting purpose => store.lock purpose works
  | .reading purpose => some (store.read purpose works)
  | .promoting purpose => some (store, store.promote purpose works)
  | .discarding purpose =>
    some (if works then { store with disk := store.disk.unlinkTmp } else store, .checking purpose)
  | .checking purpose => some (store, store.check purpose)
  | .moving purpose seed => some (store.rename purpose seed works)
  | .rereading purpose seed => some (store.reread purpose seed works)
  | .written purpose inode => some ({ store with disk := store.disk.fsync inode }, .synced purpose inode)
  | .synced purpose _ => some (store.install purpose works)
  | .failing _ =>
    some (if works then { store with disk := store.disk.unlinkTmp } else store, .releasing none)
  | .replaced purpose =>
    some (if works then { store with disk := store.disk.fsyncDirectory } else store, .verifying purpose)
  | .verifying purpose => some (store.verify purpose works)
  | .releasing outcome => some (store.release ed outcome)
  | .signing message => some (store.finishSign ed message works)
  | .idle | .generating _ | .opened .. => none

def action (place : Place Message) :
    Action Message → Option (KeyStore Key Message Signature × Place Message)
  | .call purpose =>
    match place, purpose with
    | .idle, .ensure => some (store, .waiting .ensure)
    | .idle, .sign message => some (store, .looking message)
    | _, _ => none
  | .generate seed opens =>
    match place with
    | .generating purpose => some (store.generate purpose seed opens)
    | _ => none
  | .write count =>
    match place with
    | .opened purpose seed inode =>
      some ({ store with disk := store.disk.write inode 0 (seed.take count) }, .written purpose inode)
    | _ => none
  | .fail =>
    match place with
    | .opened purpose _ _ | .written purpose _ => some (store, .failing purpose)
    | _ => none
  | .proceed works => store.proceed ed works place
  | .kill => some ({ store with locked := store.locked && !place.holdsLock }, .idle)

end KeyStore

inductive Happening (Message : Type) where
  | act (process : Nat) (action : Action Message)
  | powerCut (left : Directory) (torn : Nat → Bytes)

def step (ed : Ed25519 Key Message Signature)
    (crew : Crew (KeyStore Key Message Signature) (Place Message)) :
    Happening Message → Option (Crew (KeyStore Key Message Signature) (Place Message))
  | .act process taken => Crew.act (KeyStore.action ed) crew (process, taken)
  | .powerCut left torn =>
    (crew.shared.disk.powerCut left torn).map fun disk =>
      ⟨{ crew.shared with disk := disk, locked := false }, crew.places.map fun _ => .idle⟩

/-- What the first process finds: no key, a temporary file only, or a key file. -/
inductive OnDisk where
  | nothing
  | tmpOnly (bytes : Bytes)
  | keyFile (bytes : Bytes)

def OnDisk.disk : OnDisk → Disk
  | nothing => ⟨fun _ => [], fun _ => true, 1, ⟨none, none⟩, [⟨none, none⟩]⟩
  | tmpOnly bytes => ⟨fun _ => bytes, fun _ => true, 1, ⟨none, some 0⟩, [⟨none, some 0⟩]⟩
  | keyFile bytes => ⟨fun _ => bytes, fun _ => true, 1, ⟨some 0, none⟩, [⟨some 0, none⟩]⟩

def initial (found : OnDisk) (processes : Nat) :
    Crew (KeyStore Key Message Signature) (Place Message) :=
  ⟨{ disk := found.disk }, List.replicate processes .idle⟩

/-- A process that comes to a temporary file of the size of a seed can read it, and its
bytes are on the medium. -/
def Promotable (crew : Crew (KeyStore Key Message Signature) (Place Message)) :
    Happening Message → Prop
  | .act process (.proceed works) => ∀ place ∈ crew.places[process]?, place.promotes = true →
    ∀ inode ∈ crew.shared.disk.directory.tmp, (crew.shared.disk.content inode).length = seedBytes →
      works = true ∧ crew.shared.disk.synced inode = true
  | _ => True

instance (crew : Crew (KeyStore Key Message Signature) (Place Message)) :
    ∀ happening, Decidable (Promotable crew happening)
  | .act _ (.proceed _) => inferInstanceAs (Decidable (∀ place ∈ _, _ → ∀ inode ∈ _, _ → _ ∧ _))
  | .act _ (.call _) | .act _ (.generate ..) | .act _ (.write _) | .act _ .fail | .act _ .kill
  | .powerCut .. => inferInstanceAs (Decidable True)

/-- All that was returned belongs to one seed, and no key file was replaced. -/
structure OneIdentity (ed : Ed25519 Key Message Signature)
    (store : KeyStore Key Message Signature) : Prop where
  single : ∃ seed, (∀ key ∈ store.keys, key = ed.publicKey seed) ∧
    ∀ signed ∈ store.signatures, ed.verify (ed.publicKey seed) signed.1 signed.2 = true
  kept : store.overwritten = false

end Wqm1.Identity
