import Wqm1.Identity.DeviceKeys

/-! One identity for all processes: a seed that was taken into use is found again after
every crash, unless a temporary file that was never synced is promoted. -/

set_option autoImplicit false

namespace Wqm1.Identity

open Wqm1.Library

variable {Key Message Signature : Type} {ed : Ed25519 Key Message Signature}

/-- Whatever a loss of power leaves leads to an inode with this seed on the medium. -/
def Anchored (disk : Disk) (seed : Bytes) : Prop :=
  seed.length = seedBytes ∧ ∀ left ∈ disk.durable, ∃ inode, left.links inode = true ∧
    disk.synced inode = true ∧ disk.content inode = seed

/-- There is never both a key file and a temporary file, and a synced inode under the
current name is one that any loss of power leaves. -/
structure Layout (disk : Disk) : Prop where
  current : disk.directory ∈ disk.durable
  oneName : ∀ left ∈ disk.durable, left.dest = none ∨ left.tmp = none
  bound : ∀ left ∈ disk.durable, ∀ inode, left.links inode = true → inode < disk.fresh
  tmpLinked : ∀ inode, disk.directory.tmp = some inode → disk.synced inode = true →
    ∀ left ∈ disk.durable, left.links inode = true
  destLinked : ∀ inode, disk.directory.dest = some inode → (disk.content inode).length = seedBytes →
    disk.synced inode = true ∧ ∀ left ∈ disk.durable, left.links inode = true

theorem links_iff {directory : Directory} {inode : Nat} :
    directory.links inode = true ↔ directory.dest = some inode ∨ directory.tmp = some inode := by
  unfold Directory.links
  rw [Bool.or_eq_true, decide_eq_true_eq, decide_eq_true_eq]

theorem links_unique {directory : Directory} (oneName : directory.dest = none ∨ directory.tmp = none)
    {one other : Nat} (links : directory.links one = true) (too : directory.links other = true) : one = other := by
  rw [links_iff] at links too
  rcases oneName with nothing | nothing
  · rw [nothing] at links too
    simp only [reduceCtorEq, false_or] at links too
    exact Option.some.inj (links.symm.trans too)
  · rw [nothing] at links too
    simp only [reduceCtorEq, or_false] at links too
    exact Option.some.inj (links.symm.trans too)

namespace Layout

variable {disk : Disk}

theorem dest_none (layout : Layout disk) {inode : Nat} (there : disk.directory.tmp = some inode) :
    disk.directory.dest = none := by
  rcases layout.oneName _ layout.current with nothing | nothing
  · exact nothing
  · rw [nothing] at there
    cases there

theorem anchored_of_tmp (layout : Layout disk) {inode : Nat} (there : disk.directory.tmp = some inode)
    (synced : disk.synced inode = true) (full : (disk.content inode).length = seedBytes) :
    Anchored disk (disk.content inode) :=
  ⟨full, fun left possible => ⟨inode, layout.tmpLinked inode there synced left possible, synced, rfl⟩⟩

theorem anchored_of_dest (layout : Layout disk) {inode : Nat} (there : disk.directory.dest = some inode)
    (full : (disk.content inode).length = seedBytes) : Anchored disk (disk.content inode) := by
  obtain ⟨synced, linked⟩ := layout.destLinked inode there full
  exact ⟨full, fun left possible => ⟨inode, linked left possible, synced, rfl⟩⟩

/-- The rename of a synced temporary file. -/
theorem replaced (layout : Layout disk) {inode : Nat} (there : disk.directory.tmp = some inode)
    (synced : disk.synced inode = true) : Layout (disk.enter ⟨some inode, none⟩) := by
  have linked : ∀ left ∈ (disk.enter ⟨some inode, none⟩).durable, left.links inode = true := by
    intro left possible
    rcases Disk.mem_durable_enter possible with before | now
    · exact layout.tmpLinked inode there synced left before
    · subst now
      exact links_iff.mpr (.inl rfl)
  constructor
  · exact Disk.current_enter _
  · intro left possible
    rcases Disk.mem_durable_enter possible with before | now
    · exact layout.oneName left before
    · subst now
      exact .inr rfl
  · intro left possible other links
    rcases Disk.mem_durable_enter possible with before | now
    · exact layout.bound left before other links
    · subst now
      have same : inode = other := Option.some.inj ((links_iff.mp links).resolve_right (fun impossible => by cases impossible))
      exact same ▸ layout.bound _ layout.current inode (links_iff.mpr (.inr there))
  · exact fun _ impossible => by cases impossible
  · intro other leads full
    cases leads
    exact ⟨synced, linked⟩

theorem anchored_replaced (layout : Layout disk) {inode : Nat} (there : disk.directory.tmp = some inode)
    {seed : Bytes} (anchored : Anchored disk seed) : Anchored (disk.enter ⟨some inode, none⟩) seed := by
  refine ⟨anchored.1, fun left possible => ?_⟩
  rcases List.mem_append.mp possible with before | now
  · exact anchored.2 left before
  · cases List.mem_singleton.mp now
    obtain ⟨other, links, rest⟩ := anchored.2 _ layout.current
    have same : other = inode :=
      links_unique (layout.oneName _ layout.current) links (links_iff.mpr (.inr there))
    exact ⟨inode, links_iff.mpr (.inl rfl), same ▸ rest⟩

theorem unlinkTmp (layout : Layout disk) : Layout disk.unlinkTmp := by
  unfold Disk.unlinkTmp
  split
  next there =>
    obtain ⟨inode, there⟩ := Option.isSome_iff_exists.mp there
    have missing := layout.dest_none there
    constructor
    · exact Disk.current_enter _
    · intro left possible
      rcases Disk.mem_durable_enter possible with before | now
      · exact layout.oneName left before
      · subst now
        exact .inr rfl
    · intro left possible other links
      rcases Disk.mem_durable_enter possible with before | now
      · exact layout.bound left before other links
      · subst now
        have leads := (links_iff.mp links).resolve_right (fun impossible => by cases impossible)
        rw [show disk.directory.dest = none from missing] at leads
        cases leads
    · exact fun _ impossible => by cases impossible
    · intro other leads
      rw [show disk.directory.dest = some other from leads] at missing
      cases missing
  next => exact layout

/-- The opening of the temporary file where there is no key file. -/
theorem openTmp (layout : Layout disk) (missing : disk.directory.dest = none) : Layout disk.openTmp.2 := by
  have effect := Disk.opened_openTmp disk
  have unsynced : disk.openTmp.2.synced disk.openTmp.1 = false := effect.unsynced
  generalize disk.openTmp = result at effect unsynced ⊢
  obtain ⟨inode, opened⟩ := result
  dsimp only at effect unsynced ⊢
  have bound : inode < opened.fresh ∧ disk.fresh ≤ opened.fresh := by
    rcases effect.origin with ⟨there, same⟩ | ⟨-, isFresh, grown⟩
    · exact ⟨same ▸ layout.bound _ layout.current inode (links_iff.mpr (.inr there)), Nat.le_of_eq same.symm⟩
    · omega
  constructor
  · exact effect.current layout.current
  · intro left possible
    rcases effect.durable left possible with before | now
    · exact layout.oneName left before
    · rw [now, effect.directory]
      exact .inl missing
  · intro left possible other links
    rcases effect.durable left possible with before | now
    · exact Nat.lt_of_lt_of_le (layout.bound left before other links) bound.2
    · rw [now, effect.directory, links_iff] at links
      rcases links with leads | leads
      · rw [show disk.directory.dest = none from missing] at leads
        cases leads
      · cases leads
        exact bound.1
  · intro other there synced
    rw [effect.directory] at there
    cases there
    rw [unsynced] at synced
    cases synced
  · intro other leads
    rw [effect.directory, show disk.directory.dest = none from missing] at leads
    cases leads

/-- A write to the temporary file. -/
theorem setContent (layout : Layout disk) {inode : Nat} (there : disk.directory.tmp = some inode) (bytes : Bytes) :
    Layout (disk.setContent inode bytes) := by
  have missing := layout.dest_none there
  refine ⟨layout.current, layout.oneName, layout.bound, ?_, ?_⟩
  · intro other leads synced
    cases there.symm.trans leads
    have unsynced : (disk.setContent inode bytes).synced inode = false := Function.update_self ..
    rw [unsynced] at synced
    cases synced
  · intro other leads
    rw [show disk.directory.dest = some other from leads] at missing
    cases missing

theorem fsync (layout : Layout disk) {inode : Nat} (there : disk.directory.tmp = some inode) :
    Layout (disk.fsync inode) := by
  have missing := layout.dest_none there
  refine ⟨Disk.current_fsync layout.current, fun left possible => layout.oneName left (Disk.mem_durable_fsync possible),
    fun left possible => layout.bound left (Disk.mem_durable_fsync possible), ?_, ?_⟩
  · intro other leads _ left possible
    cases there.symm.trans leads
    have links : disk.directory.links inode = true := links_iff.mpr (.inr there)
    simp only [Disk.fsync, links, ↓reduceIte] at possible
    exact (List.mem_filter.mp possible).2
  · intro other leads
    rw [show disk.directory.dest = some other from leads] at missing
    cases missing

theorem fsyncDirectory (layout : Layout disk) : Layout disk.fsyncDirectory := by
  have only {left : Directory} (possible : left ∈ disk.fsyncDirectory.durable) : left ∈ disk.durable :=
    List.mem_singleton.mp possible ▸ layout.current
  exact {
    current := List.mem_singleton.mpr rfl
    oneName := fun left possible => layout.oneName left (only possible)
    bound := fun left possible => layout.bound left (only possible)
    tmpLinked := fun inode there synced left possible => layout.tmpLinked inode there synced left (only possible)
    destLinked := fun inode there full =>
      ⟨(layout.destLinked inode there full).1, fun left possible =>
        (layout.destLinked inode there full).2 left (only possible)⟩ }

theorem anchored_fsyncDirectory (layout : Layout disk) {seed : Bytes} (anchored : Anchored disk seed) :
    Anchored disk.fsyncDirectory seed :=
  ⟨anchored.1, fun _ possible => anchored.2 _ (List.mem_singleton.mp possible ▸ layout.current)⟩

theorem powerCut (layout : Layout disk) {left : Directory} {torn : Nat → Bytes} {after : Disk}
    (lost : disk.powerCut left torn = some after) :
    Layout after ∧ ∀ seed, Anchored disk seed → Anchored after seed := by
  obtain ⟨possible, done⟩ := Option.ite_none_right_eq_some.mp lost
  cases done
  constructor
  · constructor
    · exact List.mem_singleton.mpr rfl
    · intro other remaining
      cases List.mem_singleton.mp remaining
      exact layout.oneName left possible
    · intro other remaining inode links
      cases List.mem_singleton.mp remaining
      exact layout.bound left possible inode links
    · intro inode there _ other remaining
      cases List.mem_singleton.mp remaining
      exact links_iff.mpr (.inr there)
    · intro inode leads _
      refine ⟨rfl, fun other remaining => ?_⟩
      cases List.mem_singleton.mp remaining
      exact links_iff.mpr (.inl leads)
  · rintro seed ⟨full, everywhere⟩
    refine ⟨full, fun other remaining => ?_⟩
    cases List.mem_singleton.mp remaining
    obtain ⟨inode, links, synced, content⟩ := everywhere left possible
    exact ⟨inode, links, rfl, by simpa only [synced, ↓reduceIte] using content⟩

end Layout

variable {store after : KeyStore Key Message Signature} {process : Nat} {place next : Place Message}

/-- Every seed in use is anchored, and all that was returned comes from one of them. -/
structure Sound (ed : Ed25519 Key Message Signature) (store : KeyStore Key Message Signature) : Prop where
  layout : Layout store.disk
  anchored : ∀ seed ∈ store.used, Anchored store.disk seed
  keys : ∀ key ∈ store.keys, ∃ seed ∈ store.used, key = ed.publicKey seed
  signatures : ∀ signed ∈ store.signatures, ∃ seed ∈ store.used, signed.2 = ed.sign seed signed.1
  kept : store.overwritten = false

/-- There is no key file and no seed in use. -/
structure Blank (store : KeyStore Key Message Signature) : Prop where
  missing : store.disk.directory.dest = none
  unused : store.used = []

/-- What a process knows at its place in the lock. -/
def KnowsHere (store : KeyStore Key Message Signature) : Place Message → Prop
  | .discarding _ | .checking _ => store.disk.directory.dest = none → store.used = []
  | .moving _ seed => ∃ inode, store.disk.directory.tmp = some inode ∧ store.disk.synced inode = true ∧
    store.disk.content inode = seed ∧ seed.length = seedBytes
  | .rereading _ seed => ∃ inode, store.disk.directory.dest = some inode ∧
    store.disk.content inode = seed ∧ seed.length = seedBytes
  | .generating _ | .failing _ => Blank store
  | .opened _ _ inode | .written _ inode => Blank store ∧ store.disk.directory.tmp = some inode
  | .synced _ inode => Blank store ∧ store.disk.directory.tmp = some inode ∧ store.disk.synced inode = true
  | .releasing (some (_, seed)) => seed ∈ store.used
  | _ => True

def Knows (store : KeyStore Key Message Signature) (_ : Nat) (place : Place Message) : Prop :=
  (place.holdsLock = true → store.locked = true) ∧ KnowsHere store place

theorem knows_of_free (free : place.holdsLock = false) : Knows store process place := by
  refine ⟨fun holds => absurd holds (by rw [free]; decide), ?_⟩
  cases place with
  | idle | looking | waiting | signing => trivial
  | reading | promoting | discarding | checking | moving | rereading | generating | opened | written
  | synced | failing | replaced | verifying | releasing => cases free

/-- What a process knows outlives a use of the key file by another one. -/
theorem Knows.outside (knows : Knows store process place) (disk : after.disk = store.disk)
    (locked : after.locked = store.locked)
    (used : after.used = store.used ∨ store.disk.directory.dest ≠ none ∧ store.used ⊆ after.used) :
    Knows after process place := by
  have grows : store.used ⊆ after.used := by
    rcases used with same | ⟨-, grows⟩
    · exact same ▸ List.Subset.refl _
    · exact grows
  have unused (missing : store.disk.directory.dest = none) (before : store.used = []) : after.used = [] := by
    rcases used with same | ⟨present, -⟩
    · exact same.trans before
    · exact absurd missing present
  have blank (blank : Blank store) : Blank after :=
    ⟨disk ▸ blank.missing, unused blank.missing blank.unused⟩
  refine ⟨fun holds => locked ▸ knows.1 holds, ?_⟩
  have here := knows.2
  cases place with
  | idle | looking | waiting | signing | reading | promoting | replaced | verifying => trivial
  | discarding | checking => exact fun missing => unused (disk ▸ missing) (here (disk ▸ missing))
  | moving purpose seed | rereading purpose seed =>
    simp only [KnowsHere, disk] at here ⊢
    exact here
  | generating | failing => exact blank here
  | opened | written => exact ⟨blank here.1, disk ▸ here.2⟩
  | synced => exact ⟨blank here.1, disk ▸ here.2⟩
  | releasing outcome =>
    cases outcome with
    | none => trivial
    | some owed => exact grows here

theorem readSeed_eq_some {inode : Option Nat} {works : Bool} {seed : Bytes}
    (red : store.readSeed inode works = some seed) :
    ∃ leads, inode = some leads ∧ store.disk.content leads = seed ∧ seed.length = seedBytes := by
  unfold KeyStore.readSeed at red
  split at red
  · obtain ⟨content, full⟩ := Option.filter_eq_some_iff.mp red
    obtain ⟨leads, there, same⟩ := Option.map_eq_some_iff.mp content
    exact ⟨leads, there, same, of_decide_eq_true full⟩
  · cases red

namespace Sound

/-- What is read from the key file is anchored. -/
theorem anchored_read (sound : Sound ed store) {works : Bool} {seed : Bytes}
    (red : store.readSeed store.disk.directory.dest works = some seed) :
    Anchored store.disk seed ∧ store.disk.directory.dest ≠ none := by
  obtain ⟨inode, there, same, full⟩ := readSeed_eq_some red
  subst same
  exact ⟨sound.layout.anchored_of_dest there full, by rw [there]; exact Option.some_ne_none _⟩

theorem use (sound : Sound ed store) {seed : Bytes} (anchored : Anchored store.disk seed) :
    Sound ed (store.use seed) where
  layout := sound.layout
  anchored other member := by
    rcases List.mem_append.mp member with before | now
    · exact sound.anchored other before
    · exact List.mem_singleton.mp now ▸ anchored
  keys key member := by
    obtain ⟨other, used, same⟩ := sound.keys key member
    exact ⟨other, List.mem_append_left _ used, same⟩
  signatures signed member := by
    obtain ⟨other, used, same⟩ := sound.signatures signed member
    exact ⟨other, List.mem_append_left _ used, same⟩
  kept := sound.kept

theorem signWith (sound : Sound ed store) {seed : Bytes} (anchored : Anchored store.disk seed)
    (message : Message) : Sound ed (store.signWith ed seed message) :=
  { sound.use anchored with
    signatures := fun signed member => by
      rcases List.mem_append.mp member with before | now
      · exact (sound.use anchored).signatures signed before
      · cases List.mem_singleton.mp now
        exact ⟨seed, List.mem_append_right _ (List.mem_singleton.mpr rfl), rfl⟩ }

/-- A step on the disk that keeps the layout and the anchored seeds. -/
theorem onDisk (sound : Sound ed store) {disk : Disk} (layout : Layout disk)
    (anchored : ∀ seed ∈ store.used, Anchored disk seed) : Sound ed { store with disk := disk } :=
  ⟨layout, anchored, sound.keys, sound.signatures, sound.kept⟩

theorem onBlank (sound : Sound ed store) (blank : Blank store) {disk : Disk} (layout : Layout disk) :
    Sound ed { store with disk := disk } :=
  sound.onDisk layout fun seed member => by
    rw [blank.unused] at member
    cases member

/-- Seeds in use are those of the current file, of which there is one. -/
theorem used_eq (sound : Sound ed store) {one other : Bytes} (left : one ∈ store.used)
    (right : other ∈ store.used) : one = other := by
  obtain ⟨inode, links, -, content⟩ := (sound.anchored one left).2 _ sound.layout.current
  obtain ⟨leads, too, -, same⟩ := (sound.anchored other right).2 _ sound.layout.current
  rw [← content, ← same, links_unique (sound.layout.oneName _ sound.layout.current) links too]

/-- Where there is no key file and no whole seed in a temporary file, none is in use. -/
theorem unused (sound : Sound ed store) (missing : store.disk.directory.dest = none)
    (nothing : ∀ inode, store.disk.directory.tmp = some inode →
      (store.disk.content inode).length ≠ seedBytes) : store.used = [] := by
  refine List.eq_nil_iff_forall_not_mem.mpr fun seed member => ?_
  obtain ⟨full, everywhere⟩ := sound.anchored seed member
  obtain ⟨inode, links, -, content⟩ := everywhere _ sound.layout.current
  rw [links_iff, missing] at links
  exact nothing inode (links.resolve_left fun impossible => by cases impossible) (content ▸ full)

end Sound

/-- What a step leaves: a sound store, the process at a place it knows, and every other one
knowing what it knew, where it does not hold the lock if this one does. -/
structure Kept (ed : Ed25519 Key Message Signature) (store : KeyStore Key Message Signature) (process : Nat)
    (place : Place Message) (reached : KeyStore Key Message Signature × Place Message) : Prop where
  sound : Sound ed reached.1
  knows : Knows reached.1 process reached.2
  others : ∀ other elsewhere, (place.holdsLock || reached.2.holdsLock → elsewhere.holdsLock = false) →
    Knows store other elsewhere → Knows reached.1 other elsewhere

/-- A step of the process that has the lock. -/
theorem kept_locked {reached : KeyStore Key Message Signature × Place Message} (holds : place.holdsLock = true)
    (sound : Sound ed reached.1) (locked : reached.1.locked = true) (here : KnowsHere reached.1 reached.2) :
    Kept ed store process place reached :=
  ⟨sound, ⟨fun _ => locked, here⟩, fun _ _ free _ => knows_of_free (free (by rw [holds]; rfl))⟩

theorem look_kept {message : Message} {works : Bool} (sound : Sound ed store) :
    Kept ed store process (.looking message) (store.look ed message works) := by
  unfold KeyStore.look
  cases red : store.readSeed store.disk.directory.dest works with
  | none => exact ⟨sound, knows_of_free rfl, fun _ _ _ known => known⟩
  | some seed =>
    obtain ⟨anchored, present⟩ := sound.anchored_read red
    exact ⟨sound.signWith anchored message, knows_of_free rfl,
      fun _ _ _ known => known.outside rfl rfl (.inr ⟨present, List.subset_append_left _ _⟩)⟩

theorem finishSign_kept {message : Message} {works : Bool} (sound : Sound ed store) :
    Kept ed store process (.signing message) (store.finishSign ed message works) := by
  unfold KeyStore.finishSign
  cases red : store.readSeed store.disk.directory.dest works with
  | none => exact ⟨sound, knows_of_free rfl, fun _ _ _ known => known⟩
  | some seed =>
    obtain ⟨anchored, present⟩ := sound.anchored_read red
    exact ⟨sound.signWith anchored message, knows_of_free rfl,
      fun _ _ _ known => known.outside rfl rfl (.inr ⟨present, List.subset_append_left _ _⟩)⟩

theorem lock_kept {purpose : Purpose Message} {works : Bool}
    {reached : KeyStore Key Message Signature × Place Message} (sound : Sound ed store)
    (locks : store.lock purpose works = some reached) : Kept ed store process (.waiting purpose) reached := by
  unfold KeyStore.lock at locks
  split at locks
  · obtain ⟨-, done⟩ := Option.ite_none_left_eq_some.mp locks
    cases done
    exact ⟨⟨sound.layout, sound.anchored, sound.keys, sound.signatures, sound.kept⟩, ⟨fun _ => rfl, trivial⟩,
      fun _ _ free _ => knows_of_free (free rfl)⟩
  · cases locks
    exact ⟨sound, knows_of_free rfl, fun _ _ _ known => known⟩

theorem read_kept {purpose : Purpose Message} {works : Bool} (sound : Sound ed store)
    (locked : store.locked = true) : Kept ed store process (.reading purpose) (store.read purpose works) := by
  unfold KeyStore.read
  cases red : store.readSeed store.disk.directory.dest works with
  | none => exact kept_locked rfl sound locked trivial
  | some seed =>
    exact kept_locked rfl (sound.use (sound.anchored_read red).1) locked
      (List.mem_append_right _ (List.mem_singleton.mpr rfl))

/-- A process that finds no seed in the temporary file, where it could have read one, knows
that none is in use unless there is a key file. -/
theorem promote_kept {purpose : Purpose Message} {works : Bool} (sound : Sound ed store)
    (locked : store.locked = true)
    (promotable : ∀ inode, store.disk.directory.tmp = some inode →
      (store.disk.content inode).length = seedBytes → works = true ∧ store.disk.synced inode = true) :
    Kept ed store process (.promoting purpose) (store, store.promote purpose works) := by
  refine kept_locked rfl sound locked ?_
  unfold KeyStore.promote
  cases red : store.readSeed store.disk.directory.tmp works with
  | none =>
    refine fun missing => sound.unused missing fun inode there full => ?_
    obtain ⟨readable, -⟩ := promotable inode there full
    simp only [KeyStore.readSeed, readable, there, ↓reduceIte, Option.map_some, Option.filter_eq_none_iff,
      Option.some.injEq, forall_eq', full, decide_true, not_true_eq_false] at red
  | some seed =>
    obtain ⟨inode, there, same, full⟩ := readSeed_eq_some red
    exact ⟨inode, there, (promotable inode there (same.symm ▸ full)).2, same, full⟩

theorem discard_kept {purpose : Purpose Message} {works : Bool} (sound : Sound ed store)
    (locked : store.locked = true) (unused : store.disk.directory.dest = none → store.used = []) :
    Kept ed store process (.discarding purpose)
      (if works then { store with disk := store.disk.unlinkTmp } else store, .checking purpose) := by
  cases works with
  | false => exact kept_locked rfl sound locked unused
  | true =>
    have dest : store.disk.unlinkTmp.directory.dest = store.disk.directory.dest := by
      unfold Disk.unlinkTmp
      split <;> rfl
    refine kept_locked rfl ?_ locked fun missing => unused (dest ▸ missing)
    cases there : store.disk.directory.tmp with
    | none =>
      have same : store.disk.unlinkTmp = store.disk := by
        unfold Disk.unlinkTmp
        rw [there]
        rfl
      simpa only [↓reduceIte, same] using sound
    | some inode =>
      have missing := sound.layout.dest_none there
      exact sound.onBlank ⟨missing, unused missing⟩ sound.layout.unlinkTmp

theorem check_kept {purpose : Purpose Message} (sound : Sound ed store) (locked : store.locked = true)
    (unused : store.disk.directory.dest = none → store.used = []) :
    Kept ed store process (.checking purpose) (store, store.check purpose) := by
  refine kept_locked rfl sound locked ?_
  unfold KeyStore.check
  cases there : store.disk.directory.dest with
  | none => exact ⟨there, unused there⟩
  | some inode => trivial

/-- The rename of a synced leftover seed; where it fails the seed is still anchored. -/
theorem rename_kept {purpose : Purpose Message} {seed : Bytes} {works : Bool} (sound : Sound ed store)
    (locked : store.locked = true) (here : KnowsHere store (.moving purpose seed)) :
    Kept ed store process (.moving purpose seed) (store.rename purpose seed works) := by
  obtain ⟨inode, there, synced, content, full⟩ := here
  subst content
  unfold KeyStore.rename
  cases works with
  | false =>
    exact kept_locked rfl (sound.use (sound.layout.anchored_of_tmp there synced full)) locked
      (List.mem_append_right _ (List.mem_singleton.mpr rfl))
  | true =>
    simp only [↓reduceIte, Disk.replace, there, Option.map_some]
    exact kept_locked rfl
      (sound.onDisk (sound.layout.replaced there synced) fun other member =>
        sound.layout.anchored_replaced there (sound.anchored other member))
      locked ⟨inode, rfl, rfl, full⟩

theorem reread_kept {purpose : Purpose Message} {seed : Bytes} {works : Bool} (sound : Sound ed store)
    (locked : store.locked = true) (here : KnowsHere store (.rereading purpose seed)) :
    Kept ed store process (.rereading purpose seed) (store.reread purpose seed works) := by
  obtain ⟨inode, there, content, full⟩ := here
  subst content
  have anchored := sound.layout.anchored_of_dest there full
  have present : (store.readSeed store.disk.directory.dest works).getD (store.disk.content inode) =
      store.disk.content inode := by
    cases red : store.readSeed store.disk.directory.dest works with
    | none => rfl
    | some seed =>
      obtain ⟨leads, same, content, -⟩ := readSeed_eq_some red
      cases there.symm.trans same
      exact content.symm
  unfold KeyStore.reread
  rw [present]
  exact kept_locked rfl (sound.use anchored) locked (List.mem_append_right _ (List.mem_singleton.mpr rfl))

theorem generate_kept {purpose : Purpose Message} {seed : Bytes} {opens : Bool} (sound : Sound ed store)
    (locked : store.locked = true) (blank : Blank store) :
    Kept ed store process (.generating purpose) (store.generate purpose seed opens) := by
  unfold KeyStore.generate
  split
  next =>
    have directory := (Disk.opened_openTmp store.disk).directory
    refine kept_locked rfl (sound.onBlank blank (sound.layout.openTmp blank.missing)) locked ⟨⟨?_, blank.unused⟩, ?_⟩
    · exact (congrArg Directory.dest directory).trans blank.missing
    · exact congrArg Directory.tmp directory
  next => exact kept_locked rfl sound locked trivial

theorem write_kept {purpose : Purpose Message} {seed : Bytes} {inode count : Nat} (sound : Sound ed store)
    (locked : store.locked = true) (here : KnowsHere store (.opened purpose seed inode)) :
    Kept ed store process (.opened purpose seed inode)
      ({ store with disk := store.disk.write inode 0 (seed.take count) }, .written purpose inode) := by
  obtain ⟨blank, there⟩ := here
  exact kept_locked rfl (sound.onBlank blank (sound.layout.setContent there _)) locked
    ⟨⟨blank.missing, blank.unused⟩, there⟩

theorem fsync_kept {purpose : Purpose Message} {inode : Nat} (sound : Sound ed store)
    (locked : store.locked = true) (here : KnowsHere store (.written purpose inode)) :
    Kept ed store process (.written purpose inode)
      ({ store with disk := store.disk.fsync inode }, .synced purpose inode) := by
  obtain ⟨blank, there⟩ := here
  exact kept_locked rfl (sound.onBlank blank (sound.layout.fsync there)) locked
    ⟨⟨blank.missing, blank.unused⟩, there, Function.update_self ..⟩

/-- The rename of a new key finds no key file in its place. -/
theorem install_kept {purpose : Purpose Message} {inode : Nat} {works : Bool} (sound : Sound ed store)
    (locked : store.locked = true) (here : KnowsHere store (.synced purpose inode)) :
    Kept ed store process (.synced purpose inode) (store.install purpose works) := by
  obtain ⟨blank, there, synced⟩ := here
  unfold KeyStore.install
  cases works with
  | false => exact kept_locked rfl sound locked trivial
  | true =>
    simp only [↓reduceIte, Disk.replace, there, Option.map_some]
    have installed := sound.onBlank blank (sound.layout.replaced there synced)
    have kept : (store.overwritten || store.disk.directory.dest.isSome) = false := by
      rw [sound.kept, blank.missing]
      rfl
    exact kept_locked rfl
      ⟨installed.layout, installed.anchored, installed.keys, installed.signatures, kept⟩ locked trivial

theorem unlink_kept {purpose : Purpose Message} {works : Bool} (sound : Sound ed store)
    (locked : store.locked = true) (blank : Blank store) :
    Kept ed store process (.failing purpose)
      (if works then { store with disk := store.disk.unlinkTmp } else store, .releasing none) := by
  cases works with
  | false => exact kept_locked rfl sound locked trivial
  | true => exact kept_locked rfl (sound.onBlank blank sound.layout.unlinkTmp) locked trivial

theorem fsyncDirectory_kept {purpose : Purpose Message} {works : Bool} (sound : Sound ed store)
    (locked : store.locked = true) :
    Kept ed store process (.replaced purpose)
      (if works then { store with disk := store.disk.fsyncDirectory } else store, .verifying purpose) := by
  cases works with
  | false => exact kept_locked rfl sound locked trivial
  | true =>
    exact kept_locked rfl (sound.onDisk sound.layout.fsyncDirectory fun seed member =>
      sound.layout.anchored_fsyncDirectory (sound.anchored seed member)) locked trivial

theorem verify_kept {purpose : Purpose Message} {works : Bool} (sound : Sound ed store)
    (locked : store.locked = true) : Kept ed store process (.verifying purpose) (store.verify purpose works) := by
  unfold KeyStore.verify
  cases red : store.readSeed store.disk.directory.dest works with
  | none => exact kept_locked rfl sound locked trivial
  | some seed =>
    exact kept_locked rfl (sound.use (sound.anchored_read red).1) locked
      (List.mem_append_right _ (List.mem_singleton.mpr rfl))

theorem release_kept {outcome : Option (Purpose Message × Bytes)} (sound : Sound ed store)
    (here : KnowsHere store (.releasing outcome)) :
    Kept ed store process (.releasing outcome) (store.release ed outcome) := by
  have unlocked : Sound ed { store with locked := false } :=
    ⟨sound.layout, sound.anchored, sound.keys, sound.signatures, sound.kept⟩
  have free (reached : KeyStore Key Message Signature × Place Message) (sound : Sound ed reached.1)
      (out : reached.2.holdsLock = false) : Kept ed store process (.releasing outcome) reached :=
    ⟨sound, knows_of_free out, fun _ _ free _ => knows_of_free (free rfl)⟩
  unfold KeyStore.release
  split
  next seed =>
    refine free _ { unlocked with keys := fun key member => ?_ } rfl
    rcases List.mem_append.mp member with before | now
    · exact sound.keys key before
    · exact ⟨seed, here, List.mem_singleton.mp now⟩
  next => exact free _ unlocked rfl
  next => exact free _ unlocked rfl

theorem proceed_kept {works : Bool} {reached : KeyStore Key Message Signature × Place Message}
    (sound : Sound ed store) (knows : Knows store process place)
    (promotable : place.promotes = true → ∀ inode, store.disk.directory.tmp = some inode →
      (store.disk.content inode).length = seedBytes → works = true ∧ store.disk.synced inode = true)
    (proceeded : store.proceed ed works place = some reached) : Kept ed store process place reached := by
  obtain ⟨locked, here⟩ := knows
  cases place with
  | idle | generating | opened => cases proceeded
  | looking message =>
    cases proceeded
    exact look_kept sound
  | waiting purpose => exact lock_kept sound proceeded
  | reading purpose =>
    cases proceeded
    exact read_kept sound (locked rfl)
  | promoting purpose =>
    cases proceeded
    exact promote_kept sound (locked rfl) (promotable rfl)
  | discarding purpose =>
    cases proceeded
    exact discard_kept sound (locked rfl) here
  | checking purpose =>
    cases proceeded
    exact check_kept sound (locked rfl) here
  | moving purpose seed =>
    cases proceeded
    exact rename_kept sound (locked rfl) here
  | rereading purpose seed =>
    cases proceeded
    exact reread_kept sound (locked rfl) here
  | written purpose inode =>
    cases proceeded
    exact fsync_kept sound (locked rfl) here
  | synced purpose inode =>
    cases proceeded
    exact install_kept sound (locked rfl) here
  | failing purpose =>
    cases proceeded
    exact unlink_kept sound (locked rfl) here
  | replaced purpose =>
    cases proceeded
    exact fsyncDirectory_kept sound (locked rfl)
  | verifying purpose =>
    cases proceeded
    exact verify_kept sound (locked rfl)
  | releasing outcome =>
    cases proceeded
    exact release_kept sound here
  | signing message =>
    cases proceeded
    exact finishSign_kept sound

/-- A killed process gives the lock back. -/
theorem kill_kept (sound : Sound ed store) :
    Kept ed store process place ({ store with locked := store.locked && !place.holdsLock }, .idle) := by
  refine ⟨⟨sound.layout, sound.anchored, sound.keys, sound.signatures, sound.kept⟩, knows_of_free rfl, ?_⟩
  intro other elsewhere free known
  cases holds : place.holdsLock with
  | true => exact knows_of_free (free (by rw [holds]; rfl))
  | false => exact known.outside rfl (by simp) (.inl rfl)

theorem action_kept {taken : Action Message} {reached : KeyStore Key Message Signature × Place Message}
    (sound : Sound ed store) (knows : Knows store process place)
    (promotable : ∀ works, taken = .proceed works → place.promotes = true →
      ∀ inode, store.disk.directory.tmp = some inode → (store.disk.content inode).length = seedBytes →
        works = true ∧ store.disk.synced inode = true)
    (acted : store.action ed place taken = some reached) : Kept ed store process place reached := by
  cases taken with
  | call purpose =>
    simp only [KeyStore.action] at acted
    split at acted
    next =>
      cases acted
      exact ⟨sound, knows_of_free rfl, fun _ _ _ known => known⟩
    next =>
      cases acted
      exact ⟨sound, knows_of_free rfl, fun _ _ _ known => known⟩
    next => cases acted
  | generate seed opens =>
    simp only [KeyStore.action] at acted
    split at acted
    next =>
      cases acted
      exact generate_kept sound (knows.1 rfl) knows.2
    next => cases acted
  | write count =>
    simp only [KeyStore.action] at acted
    split at acted
    next =>
      cases acted
      exact write_kept sound (knows.1 rfl) knows.2
    next => cases acted
  | fail =>
    simp only [KeyStore.action] at acted
    split at acted
    next =>
      cases acted
      exact kept_locked rfl sound (knows.1 rfl) knows.2.1
    next =>
      cases acted
      exact kept_locked rfl sound (knows.1 rfl) knows.2.1
    next => cases acted
  | proceed works => exact proceed_kept sound knows (promotable works rfl) acted
  | kill =>
    cases acted
    exact kill_kept sound

/-- Whoever comes to hold the lock held it before, or found it free. -/
theorem holdsLock_action {taken : Action Message} {reached : KeyStore Key Message Signature × Place Message}
    (acted : store.action ed place taken = some reached) (holds : reached.2.holdsLock = true) :
    place.holdsLock = true ∨ store.locked = false := by
  cases place with
  | reading | promoting | discarding | checking | moving | rereading | generating | opened | written
  | synced | failing | replaced | verifying | releasing => exact .inl rfl
  | idle =>
    cases taken with
    | call purpose => cases purpose <;> cases acted <;> cases holds
    | kill => cases acted; cases holds
    | generate | write | fail | proceed => cases acted
  | looking message =>
    cases taken with
    | proceed works =>
      cases acted
      unfold KeyStore.look at holds
      split at holds <;> cases holds
    | kill => cases acted; cases holds
    | call | generate | write | fail => cases acted
  | signing message =>
    cases taken with
    | proceed works =>
      cases acted
      unfold KeyStore.finishSign at holds
      split at holds <;> cases holds
    | kill => cases acted; cases holds
    | call | generate | write | fail => cases acted
  | waiting purpose =>
    cases taken with
    | proceed works =>
      simp only [KeyStore.action, KeyStore.proceed, KeyStore.lock] at acted
      split at acted
      · exact .inr (by simpa using (Option.ite_none_left_eq_some.mp acted).1)
      · cases acted
        cases holds
    | kill => cases acted; cases holds
    | call | generate | write | fail => cases acted

/-- The store is sound, every process knows where it is, and one has the lock at most. -/
def Settled (ed : Ed25519 Key Message Signature) (crew : Crew (KeyStore Key Message Signature) (Place Message)) :
    Prop :=
  Crew.Annotated (Sound ed) Knows crew ∧ Crew.Alone Place.holdsLock crew

theorem Settled.step {before later : Crew (KeyStore Key Message Signature) (Place Message)}
    {happening : Happening Message} (settled : Settled ed before) (promotable : Promotable before happening)
    (stepped : step ed before happening = some later) : Settled ed later := by
  obtain ⟨annotated, alone⟩ := settled
  cases happening with
  | act process taken =>
    obtain ⟨place, store, next, found, acted, rfl⟩ := Crew.act_eq_some stepped
    have kept := action_kept annotated.shared (annotated.places process place found)
      (fun works proceeds promotes inode there full => by
        subst proceeds
        exact promotable place found promotes inode there full) acted
    have enters (holds : next.holdsLock = true) :
        place.holdsLock = true ∨ ∀ elsewhere ∈ before.places, elsewhere.holdsLock = false := by
      rcases holdsLock_action acted holds with held | free
      · exact .inl held
      · refine .inr fun elsewhere member => ?_
        obtain ⟨other, seen⟩ := List.mem_iff_getElem?.mp member
        cases occupied : elsewhere.holdsLock with
        | false => rfl
        | true =>
          have locked := (annotated.places other elsewhere seen).1 occupied
          rw [free] at locked
          cases locked
    refine ⟨annotated.set found kept.sound kept.knows ?_, alone.set found enters⟩
    intro other elsewhere different seen known
    exact kept.others other elsewhere (fun held => alone.others found enters held different seen) known
  | powerCut left torn =>
    obtain ⟨disk, lost, rfl⟩ := Option.map_eq_some_iff.mp stepped
    obtain ⟨layout, anchored⟩ := annotated.shared.layout.powerCut lost
    have sound := annotated.shared.onDisk layout fun seed member => anchored seed (annotated.shared.anchored seed member)
    have idle := Crew.resting_map before.places (Place.idle : Place Message)
    refine ⟨.resting idle ?_ fun _ => knows_of_free rfl, .resting idle rfl⟩
    exact ⟨sound.layout, sound.anchored, sound.keys, sound.signatures, sound.kept⟩

theorem layout_found (found : OnDisk) : Layout found.disk := by
  cases found with
  | nothing =>
    refine ⟨List.mem_singleton.mpr rfl, ?_, ?_, (fun _ there => by cases there), (fun _ there => by cases there)⟩
    · intro left possible
      cases List.mem_singleton.mp possible
      exact .inl rfl
    · intro left possible inode links
      cases List.mem_singleton.mp possible
      cases links
  | tmpOnly bytes =>
    refine ⟨List.mem_singleton.mpr rfl, ?_, ?_, ?_, (fun _ there => by cases there)⟩
    · intro left possible
      cases List.mem_singleton.mp possible
      exact .inl rfl
    · intro left possible inode links
      cases List.mem_singleton.mp possible
      rcases links_iff.mp links with leads | leads <;> cases leads
      exact Nat.zero_lt_one
    · intro inode there _ left possible
      cases List.mem_singleton.mp possible
      exact links_iff.mpr (.inr there)
  | keyFile bytes =>
    refine ⟨List.mem_singleton.mpr rfl, ?_, ?_, (fun _ there => by cases there), ?_⟩
    · intro left possible
      cases List.mem_singleton.mp possible
      exact .inr rfl
    · intro left possible inode links
      cases List.mem_singleton.mp possible
      rcases links_iff.mp links with leads | leads <;> cases leads
      exact Nat.zero_lt_one
    · intro inode there _
      refine ⟨rfl, fun left possible => ?_⟩
      cases List.mem_singleton.mp possible
      exact links_iff.mpr (.inl there)

theorem settled_initial (ed : Ed25519 Key Message Signature) (found : OnDisk) (processes : Nat) :
    Settled ed (initial found processes) := by
  have idle (place : Place Message) (member : place ∈ List.replicate processes Place.idle) : place = .idle :=
    List.eq_of_mem_replicate member
  refine ⟨.resting idle ⟨layout_found found, ?_, ?_, ?_, rfl⟩ fun _ => knows_of_free rfl, .resting idle rfl⟩
  · exact fun seed member => by cases member
  · exact fun key member => by cases member
  · exact fun signed member => by cases member

theorem Sound.oneIdentity (sound : Sound ed store) : OneIdentity ed store := by
  refine ⟨?_, sound.kept⟩
  cases inUse : store.used with
  | nil =>
    refine ⟨[], fun key member => ?_, fun signed member => ?_⟩
    · obtain ⟨seed, used, -⟩ := sound.keys key member
      rw [inUse] at used
      cases used
    · obtain ⟨seed, used, -⟩ := sound.signatures signed member
      rw [inUse] at used
      cases used
  | cons seed others =>
    have mine : seed ∈ store.used := inUse ▸ List.mem_cons_self
    refine ⟨seed, fun key member => ?_, fun signed member => ?_⟩
    · obtain ⟨other, used, same⟩ := sound.keys key member
      rw [same, sound.used_eq used mine]
    · obtain ⟨other, used, same⟩ := sound.signatures signed member
      rw [same, sound.used_eq used mine]
      exact ed.verify_sign seed signed.1

/-- In a run in which whoever comes to a temporary file with a whole seed can read it and
finds it synced, all public keys and signatures that are returned belong to one seed, and
no key file is replaced by a generated one. -/
theorem one_identity (ed : Ed25519 Key Message Signature) (found : OnDisk) (processes : Nat)
    {final : Crew (KeyStore Key Message Signature) (Place Message)}
    (run : Events.Reaches (step ed) Promotable (initial found processes) final) :
    OneIdentity ed final.shared :=
  (run.invariant (settled_initial ed found processes)
    fun _ _ _ _ promotable stepped settled => settled.step promotable stepped).1.shared.oneIdentity

/-- Signatures that show the seed. -/
def transparent : Ed25519 Bytes Unit Bytes where
  publicKey seed := seed
  sign seed _ := seed
  verify key _ signature := decide (key = signature)
  verify_sign _ _ := by rw [decide_eq_true_eq]

/-- A call of `ensure_keypair` up to the reading of the temporary file. -/
def beginning (process : Nat) : List (Happening Unit) :=
  [.act process (.call .ensure), .act process (.proceed true), .act process (.proceed true),
    .act process (.proceed true)]

def proceeds (process count : Nat) : List (Happening Unit) :=
  List.replicate count (.act process (.proceed true))

/-- The temporary file is dropped if it is there, and a new seed is written to it. -/
def generation (process : Nat) (seed : Bytes) : List (Happening Unit) :=
  proceeds process 2 ++ [.act process (.generate seed true), .act process (.write seedBytes)]

/-- A key is generated, a loss of power undoes its rename, and another process signs. -/
def cutRun : List (Happening Unit) :=
  beginning 0 ++ generation 0 (List.replicate seedBytes 1) ++ proceeds 0 2 ++
    .powerCut ⟨none, some 1⟩ (fun _ => []) :: .act 1 (.call (.sign ())) :: proceeds 1 8

theorem one_identity_cut : ∃ final,
    Events.play (step transparent) Promotable (initial .nothing 2) cutRun = some final ∧
      OneIdentity transparent final.shared := by
  have plays : (Events.play (step transparent) Promotable (initial .nothing 2) cutRun).isSome := by decide +kernel
  obtain ⟨final, played⟩ := Option.isSome_iff_exists.mp plays
  exact ⟨final, played, one_identity transparent .nothing 2 (Events.reaches_play played)⟩

/-- The first process is killed before it syncs the seed that it wrote, the second promotes
it, and it is lost with the power. -/
def unsyncedRun : List (Happening Unit) :=
  beginning 0 ++ generation 0 (List.replicate seedBytes 1) ++ .act 0 .kill :: beginning 1 ++ proceeds 1 3 ++
    .powerCut ⟨none, some 1⟩ (fun _ => []) :: beginning 0 ++ generation 0 (List.replicate seedBytes 2) ++
    proceeds 0 5

theorem two_identities :
    ¬ ∀ (found : OnDisk) (processes : Nat) (final : Crew (KeyStore Bytes Unit Bytes) (Place Unit)),
      Events.Reaches (step transparent) Events.anything (initial found processes) final →
      OneIdentity transparent final.shared := by
  intro oneIdentity
  have plays : (Events.play (step transparent) Events.anything (initial .nothing 2) unsyncedRun).any (fun final =>
      final.shared.keys = [List.replicate seedBytes 1, List.replicate seedBytes 2]) = true := by decide +kernel
  obtain ⟨final, played, ended⟩ := (Option.any_eq_true _ _).mp plays
  have keys := of_decide_eq_true ended
  obtain ⟨seed, single, -⟩ := (oneIdentity .nothing 2 final (Events.reaches_play played)).single
  have first : List.replicate seedBytes 1 = seed := single _ (by rw [keys]; exact List.mem_cons_self)
  have second : List.replicate seedBytes 2 = seed :=
    single _ (by rw [keys]; exact List.mem_cons_of_mem _ List.mem_cons_self)
  exact absurd (first.trans second.symm) (by decide)

end Wqm1.Identity
