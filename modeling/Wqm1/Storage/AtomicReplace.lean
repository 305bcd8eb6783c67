import Wqm1.Library.Crew
import Wqm1.Library.Disk

/-! Replacing a file by way of its temporary file, with several processes at it at once,
killed at any point or cut off from power. -/

set_option autoImplicit false

namespace Wqm1.Storage.AtomicReplace

open Wqm1.Library

/-- The disk. The last fields are for the statements only: what the file held at first and
what has been written to it, and what its readers have read. -/
structure Files where
  disk : Disk
  versions : List Bytes
  seen : List Bytes := []

/-- Where a process is: in `atomic_write_bytes`, or reading the file. -/
inductive Place where
  | idle
  | writing (data : Bytes) (inode position : Nat)
  | flushed (data : Bytes) (inode : Nat)
  | replaced
  | failing
  | reading (inode : Nat) (got : Bytes)
deriving DecidableEq

inductive Action where
  | openTmp (data : Bytes) (works : Bool)
  | write (count : Nat)
  | fsync
  | replace (works : Bool)
  | fsyncDirectory (works : Bool)
  /-- An exception in the `try` block. -/
  | fail
  | unlink (works : Bool)
  | openRead
  | read (count : Nat)
  | kill
deriving DecidableEq

/-- Between the opening of the temporary file and the rename or the exception. -/
def Place.holdsTmp : Place → Bool
  | .writing .. | .flushed .. => true
  | _ => false

def openTmp (files : Files) (data : Bytes) (works : Bool) : Files × Place :=
  if works then
    ({ files with disk := files.disk.openTmp.2, versions := files.versions ++ [data] },
      .writing data files.disk.openTmp.1 0)
  else (files, .failing)

/-- The next bytes that reach the file, at least one. -/
def write (files : Files) (data : Bytes) (inode position count : Nat) : Option (Files × Place) :=
  if position < data.length then
    let piece := (data.drop position).take (count + 1)
    some ({ files with disk := files.disk.write inode position piece },
      .writing data inode (position + piece.length))
  else none

def fsync (files : Files) (data : Bytes) (inode position : Nat) : Option (Files × Place) :=
  if position = data.length then
    some ({ files with disk := files.disk.fsync inode }, .flushed data inode)
  else none

def replace (files : Files) (works : Bool) : Files × Place :=
  match files.disk.replace with
  | some disk => if works then ({ files with disk := disk }, .replaced) else (files, .failing)
  | none => (files, .failing)

def openRead (files : Files) : Files × Place :=
  match files.disk.directory.dest with
  | some inode => (files, .reading inode [])
  | none => (files, .idle)

/-- The next bytes of the file, at least one before its end. -/
def read (files : Files) (inode : Nat) (got : Bytes) (count : Nat) : Files × Place :=
  let piece := ((files.disk.content inode).drop got.length).take (count + 1)
  if piece = [] then ({ files with seen := files.seen ++ [got] }, .idle)
  else (files, .reading inode (got ++ piece))

def action (files : Files) (place : Place) : Action → Option (Files × Place)
  | .openTmp data works => if place = .idle then some (openTmp files data works) else none
  | .write count =>
    match place with
    | .writing data inode position => write files data inode position count
    | _ => none
  | .fsync =>
    match place with
    | .writing data inode position => fsync files data inode position
    | _ => none
  | .replace works =>
    match place with
    | .flushed .. => some (replace files works)
    | _ => none
  | .fsyncDirectory works =>
    if place = .replaced then
      some (if works then { files with disk := files.disk.fsyncDirectory } else files, .idle)
    else none
  | .fail => if place.holdsTmp then some (files, .failing) else none
  | .unlink works =>
    if place = .failing then
      some (if works then { files with disk := files.disk.unlinkTmp } else files, .idle)
    else none
  | .openRead => if place = .idle then some (openRead files) else none
  | .read count =>
    match place with
    | .reading inode got => some (read files inode got count)
    | _ => none
  | .kill => some (files, .idle)

inductive Happening where
  | act (process : Nat) (action : Action)
  | powerCut (left : Directory) (torn : Nat → Bytes)

def step (crew : Crew Files Place) : Happening → Option (Crew Files Place)
  | .act process taken => crew.act action (process, taken)
  | .powerCut left torn =>
    (crew.shared.disk.powerCut left torn).map fun disk =>
      ⟨{ crew.shared with disk := disk }, crew.places.map fun _ => .idle⟩

/-- The file with its content and a leftover temporary file, where there are any, and idle
processes. -/
def initial (old leftover : Option Bytes) (processes : Nat) : Crew Files Place :=
  let directory : Directory := ⟨old.map fun _ => 0, leftover.map fun _ => 1⟩
  ⟨⟨⟨fun inode => if inode = 0 then old.getD [] else leftover.getD [], fun _ => true, 2, directory,
    [directory]⟩, old.toList, []⟩, List.replicate processes .idle⟩

/-- No process opens the temporary file while another is between the opening and the rename. -/
def Exclusive (crew : Crew Files Place) : Happening → Prop
  | .act _ (.openTmp _ true) => ∀ place ∈ crew.places, place.holdsTmp = false
  | _ => True

instance (crew : Crew Files Place) : ∀ happening, Decidable (Exclusive crew happening)
  | .act _ (.openTmp _ true) => inferInstanceAs (Decidable (∀ place ∈ _, _ = false))
  | .act _ (.openTmp _ false) | .act _ (.write _) | .act _ .fsync | .act _ (.replace _)
  | .act _ (.fsyncDirectory _) | .act _ .fail | .act _ (.unlink _) | .act _ .openRead
  | .act _ (.read _) | .act _ .kill | .powerCut .. => inferInstanceAs (Decidable True)

/-- The file is there if it was, and holds one of the versions; so does all that was read. -/
structure Complete (old : Option Bytes) (files : Files) : Prop where
  present : old.isSome → files.disk.read.isSome
  content : ∀ bytes, files.disk.read = some bytes → bytes ∈ files.versions
  seen : ∀ bytes ∈ files.seen, bytes ∈ files.versions

/-- The inodes that the file's name has led to are complete and out of the writers' reach,
and whatever a loss of power leaves leads to one of them. -/
structure Intact (present : Bool) (published : Nat → Prop) (files : Files) : Prop where
  current : files.disk.directory ∈ files.disk.durable
  shown : ∀ left ∈ files.disk.durable, ∀ inode, left.dest = some inode →
    published inode ∧ left.tmp ≠ some inode
  complete : ∀ inode, published inode → inode < files.disk.fresh ∧ files.disk.synced inode = true ∧
    files.disk.content inode ∈ files.versions
  apart : ∀ inode, files.disk.directory.tmp = some inode → ¬ published inode
  bound : ∀ left ∈ files.disk.durable, ∀ inode, left.tmp = some inode → inode < files.disk.fresh
  remains : present = true → ∀ left ∈ files.disk.durable, left.dest.isSome = true
  seen : ∀ bytes ∈ files.seen, bytes ∈ files.versions

/-- The temporary file, if it is there, is the inode, which no reader can reach. -/
structure Holds (published : Nat → Prop) (files : Files) (inode : Nat) : Prop where
  hidden : ¬ published inode
  bound : inode < files.disk.fresh
  only : ∀ other, files.disk.directory.tmp = some other → other = inode

def Knows (published : Nat → Prop) (files : Files) (_ : Nat) : Place → Prop
  | .writing data inode position => data ∈ files.versions ∧ position ≤ data.length ∧
    files.disk.content inode = data.take position ∧ Holds published files inode
  | .flushed data inode => data ∈ files.versions ∧ files.disk.content inode = data ∧
    files.disk.synced inode = true ∧ Holds published files inode
  | .reading inode got => published inode ∧ got <+: files.disk.content inode
  | _ => True

variable {present : Bool} {published : Nat → Prop} {files after : Files} {process other : Nat}
  {place next elsewhere : Place}

/-- What a process knows outlives a step that writes to no inode and makes no temporary file. -/
theorem Knows.gentle (knows : Knows published files process place)
    (content : after.disk.content = files.disk.content) (synced : after.disk.synced = files.disk.synced)
    (fresh : after.disk.fresh = files.disk.fresh) (versions : after.versions = files.versions)
    (tmp : ∀ inode, after.disk.directory.tmp = some inode → files.disk.directory.tmp = some inode) :
    Knows published after process place := by
  have holds {inode : Nat} (holds : Holds published files inode) : Holds published after inode :=
    ⟨holds.hidden, fresh ▸ holds.bound, fun other there => holds.only other (tmp other there)⟩
  unfold Knows at knows ⊢
  cases place with
  | writing data inode position =>
    obtain ⟨version, within, written, owned⟩ := knows
    exact ⟨versions ▸ version, within, content ▸ written, holds owned⟩
  | flushed data inode =>
    obtain ⟨version, written, durable, owned⟩ := knows
    exact ⟨versions ▸ version, content ▸ written, synced ▸ durable, holds owned⟩
  | reading inode got => exact ⟨knows.1, content ▸ knows.2⟩
  | idle => trivial
  | replaced => trivial
  | failing => trivial

/-- What a process that holds no temporary file knows outlives any step that leaves the
published inodes alone. -/
theorem Knows.outside {published' : Nat → Prop} (knows : Knows published files process place)
    (outside : place.holdsTmp = false)
    (content : ∀ inode, published inode → after.disk.content inode = files.disk.content inode)
    (grows : ∀ inode, published inode → published' inode) : Knows published' after process place := by
  unfold Knows at knows ⊢
  cases place with
  | writing data inode position => cases outside
  | flushed data inode => cases outside
  | reading inode got => exact ⟨grows inode knows.1, (content inode knows.1) ▸ knows.2⟩
  | idle => trivial
  | replaced => trivial
  | failing => trivial

/-- What a step from `files` and `place` leaves: the files intact, the process at a place it
knows, and every other process knowing what it knew, where it holds no temporary file if
this one does. -/
structure Kept (present : Bool) (published : Nat → Prop) (files : Files) (process : Nat)
    (place : Place) (after : Files) (next : Place) (published' : Nat → Prop) : Prop where
  intact : Intact present published' after
  knows : Knows published' after process next
  others : ∀ other elsewhere, (place.holdsTmp || next.holdsTmp → elsewhere.holdsTmp = false) →
    Knows published files other elsewhere → Knows published' after other elsewhere

theorem kept_same (intact : Intact present published files) (knows : Knows published files process next) :
    Kept present published files process place files next published :=
  ⟨intact, knows, fun _ _ _ known => known⟩

theorem openTmp_kept (intact : Intact present published files) {data : Bytes} {works : Bool}
    (opened : openTmp files data works = (after, next)) :
    Kept present published files process .idle after next published := by
  unfold openTmp at opened
  cases works with
  | false =>
    cases opened
    exact kept_same intact trivial
  | true =>
    cases opened
    have effect := Disk.opened_openTmp files.disk
    generalize files.disk.openTmp = result at effect
    obtain ⟨inode, disk⟩ := result
    have hidden : ¬ published inode := by
      rcases effect.origin with ⟨there, -⟩ | ⟨-, isFresh, -⟩
      · exact intact.apart inode there
      · intro known
        exact Nat.lt_irrefl _ (isFresh ▸ (intact.complete inode known).1)
    have bound : inode < disk.fresh ∧ files.disk.fresh ≤ disk.fresh := by
      rcases effect.origin with ⟨there, same⟩ | ⟨-, isFresh, grown⟩
      · exact ⟨same ▸ intact.bound _ intact.current inode there, same ▸ Nat.le_refl _⟩
      · dsimp only at isFresh grown ⊢
        omega
    have apart (old : Nat) (known : published old) : old ≠ inode := fun same => hidden (same ▸ known)
    refine ⟨?_, ?_, ?_⟩
    · constructor
      · exact effect.current intact.current
      · intro left possible old leads
        rcases effect.durable left possible with before | now
        · exact intact.shown left before old leads
        · rw [now, effect.directory] at leads ⊢
          have known := (intact.shown _ intact.current old leads).1
          exact ⟨known, fun same => apart old known (Option.some.inj same).symm⟩
      · intro old known
        obtain ⟨below, durable, version⟩ := intact.complete old known
        obtain ⟨sameContent, sameSynced⟩ := effect.others old (apart old known)
        exact ⟨Nat.lt_of_lt_of_le below bound.2, sameSynced ▸ durable,
          List.mem_append_left _ (sameContent ▸ version)⟩
      · intro other there
        rw [effect.directory] at there
        cases there
        exact hidden
      · intro left possible other leads
        rcases effect.durable left possible with before | now
        · exact Nat.lt_of_lt_of_le (intact.bound left before other leads) bound.2
        · rw [now, effect.directory] at leads
          cases leads
          exact bound.1
      · intro was left possible
        rcases effect.durable left possible with before | now
        · exact intact.remains was left before
        · rw [now, effect.directory]
          exact intact.remains was files.disk.directory intact.current
      · exact fun bytes member => List.mem_append_left _ (intact.seen bytes member)
    · refine ⟨List.mem_append_right _ (List.mem_singleton.mpr rfl), Nat.zero_le _, effect.empty, hidden,
        bound.1, fun other there => ?_⟩
      rw [effect.directory] at there
      exact (Option.some.inj there).symm
    · intro other elsewhere outside known
      exact known.outside (outside rfl) (fun old shown => (effect.others old (apart old shown)).1)
        fun _ shown => shown

/-- Bytes written to an inode out of the readers' reach. -/
theorem Intact.setContent (intact : Intact present published files) {inode : Nat}
    (hidden : ¬ published inode) (bytes : Bytes) :
    Intact present published { files with disk := files.disk.setContent inode bytes } := by
  refine { intact with complete := fun old known => ?_ }
  have different : old ≠ inode := fun same => hidden (same ▸ known)
  obtain ⟨below, durable, version⟩ := intact.complete old known
  refine ⟨below, (Disk.synced_setContent_of_ne bytes different).trans durable, ?_⟩
  rwa [Disk.content_setContent_of_ne bytes different]

theorem write_kept (intact : Intact present published files) {data : Bytes} {inode position count : Nat}
    (knows : Knows published files process (.writing data inode position))
    (written : write files data inode position count = some (after, next)) :
    Kept present published files process (.writing data inode position) after next published := by
  obtain ⟨version, within, prefixed, holds⟩ := knows
  unfold write at written
  obtain ⟨-, done⟩ := Option.ite_none_right_eq_some.mp written
  cases done
  refine ⟨intact.setContent holds.hidden _, ⟨version, ?_, ?_, holds.hidden, holds.bound, holds.only⟩, ?_⟩
  · rw [List.length_take, List.length_drop]
    omega
  · have content : (files.disk.write inode position ((data.drop position).take (count + 1))).content inode =
        writeAt (files.disk.content inode) position ((data.drop position).take (count + 1)) :=
      Function.update_self ..
    rw [content, prefixed]
    exact writeAt_take (count + 1) within
  · intro other elsewhere outside known
    have apart (old : Nat) (shown : published old) : old ≠ inode := fun same => holds.hidden (same ▸ shown)
    exact known.outside (outside rfl) (fun old shown => Disk.content_setContent_of_ne _ (apart old shown))
      fun _ shown => shown

theorem fsync_kept (intact : Intact present published files) {data : Bytes} {inode position : Nat}
    (knows : Knows published files process (.writing data inode position))
    (synced : fsync files data inode position = some (after, next)) :
    Kept present published files process (.writing data inode position) after next published := by
  obtain ⟨version, -, prefixed, holds⟩ := knows
  unfold fsync at synced
  obtain ⟨full, done⟩ := Option.ite_none_right_eq_some.mp synced
  cases done
  refine ⟨?_, ⟨version, ?_, Function.update_self .., holds.hidden, holds.bound, holds.only⟩, ?_⟩
  · exact { intact with
      current := Disk.current_fsync intact.current
      shown := fun left possible => intact.shown left (Disk.mem_durable_fsync possible)
      bound := fun left possible => intact.bound left (Disk.mem_durable_fsync possible)
      remains := fun was left possible => intact.remains was left (Disk.mem_durable_fsync possible)
      complete := fun old known => by
        obtain ⟨below, durable, version⟩ := intact.complete old known
        have different : old ≠ inode := fun same => holds.hidden (same ▸ known)
        exact ⟨below, (Function.update_of_ne different ..).trans durable, version⟩ }
  · rw [full, List.take_length] at prefixed
    exact prefixed
  · intro other elsewhere outside known
    exact known.outside (outside rfl) (fun _ _ => rfl) fun _ shown => shown

/-- The rename publishes the synced inode. -/
theorem renamed_kept (intact : Intact present published files) {data : Bytes} {inode : Nat}
    (knows : Knows published files process (.flushed data inode)) :
    Kept present published files process (.flushed data inode)
      { files with disk := files.disk.enter ⟨some inode, none⟩ } .replaced
      fun old => published old ∨ old = inode := by
  obtain ⟨version, content, synced, holds⟩ := knows
  refine ⟨?_, trivial, ?_⟩
  · constructor
    · exact Disk.current_enter _
    · intro left possible old leads
      rcases Disk.mem_durable_enter possible with before | now
      · obtain ⟨known, different⟩ := intact.shown left before old leads
        exact ⟨.inl known, different⟩
      · subst now
        cases leads
        exact ⟨.inr rfl, fun impossible => by cases impossible⟩
    · rintro old (known | this)
      · exact intact.complete old known
      · subst this
        exact ⟨holds.bound, synced, content ▸ version⟩
    · exact fun _ impossible => by cases impossible
    · intro left possible old leads
      rcases Disk.mem_durable_enter possible with before | now
      · exact intact.bound left before old leads
      · subst now
        cases leads
    · intro was left possible
      rcases Disk.mem_durable_enter possible with before | now
      · exact intact.remains was left before
      · subst now
        rfl
    · exact intact.seen
  · intro other elsewhere outside known
    exact known.outside (outside rfl) (fun _ _ => rfl) fun _ shown => .inl shown

theorem replace_of_tmp {tmp : Nat} (there : files.disk.directory.tmp = some tmp) (works : Bool) :
    replace files works = if works then
      ({ files with disk := files.disk.enter ⟨some tmp, none⟩ }, .replaced) else (files, .failing) := by
  unfold replace Disk.replace
  rw [there]
  rfl

theorem replace_kept (intact : Intact present published files) {data : Bytes} {inode : Nat} {works : Bool}
    (knows : Knows published files process (.flushed data inode))
    (renamed : replace files works = (after, next)) :
    ∃ published', Kept present published files process (.flushed data inode) after next published' := by
  have failed (renamed : (files, Place.failing) = (after, next)) :
      Kept present published files process (.flushed data inode) after next published := by
    cases renamed
    exact kept_same intact trivial
  cases there : files.disk.directory.tmp with
  | none =>
    simp only [replace, Disk.replace, there, Option.map_none] at renamed
    exact ⟨published, failed renamed⟩
  | some tmp =>
    rw [replace_of_tmp there] at renamed
    cases works with
    | false => exact ⟨published, failed renamed⟩
    | true =>
      cases renamed
      cases knows.2.2.2.only tmp there
      exact ⟨_, renamed_kept intact knows⟩

theorem fsyncDirectory_kept (intact : Intact present published files) {works : Bool} :
    Kept present published files process .replaced
      (if works then { files with disk := files.disk.fsyncDirectory } else files) .idle published := by
  split
  · refine ⟨?_, trivial, fun _ _ _ known => known.gentle rfl rfl rfl rfl fun _ there => there⟩
    have only {left : Directory} (possible : left ∈ [files.disk.directory]) : left ∈ files.disk.durable :=
      List.mem_singleton.mp possible ▸ intact.current
    exact { intact with
      current := List.mem_singleton.mpr rfl
      shown := fun left possible => intact.shown left (only possible)
      bound := fun left possible => intact.bound left (only possible)
      remains := fun was left possible => intact.remains was left (only possible) }
  · exact kept_same intact trivial

theorem unlink_kept (intact : Intact present published files) {works : Bool} :
    Kept present published files process .failing
      (if works then { files with disk := files.disk.unlinkTmp } else files) .idle published := by
  cases works with
  | false => exact kept_same intact trivial
  | true =>
    simp only [↓reduceIte, Disk.unlinkTmp]
    split
    next =>
      refine ⟨?_, trivial, fun _ _ _ known => known.gentle rfl rfl rfl rfl fun _ impossible => by cases impossible⟩
      constructor
      · exact Disk.current_enter _
      · intro left possible old leads
        rcases Disk.mem_durable_enter possible with before | now
        · exact intact.shown left before old leads
        · subst now
          exact ⟨(intact.shown _ intact.current old leads).1, fun impossible => by cases impossible⟩
      · exact intact.complete
      · exact fun _ impossible => by cases impossible
      · intro left possible old leads
        rcases Disk.mem_durable_enter possible with before | now
        · exact intact.bound left before old leads
        · subst now
          cases leads
      · intro was left possible
        rcases Disk.mem_durable_enter possible with before | now
        · exact intact.remains was left before
        · subst now
          exact intact.remains was files.disk.directory intact.current
      · exact intact.seen
    next => exact kept_same intact trivial

theorem openRead_kept (intact : Intact present published files) (opened : openRead files = (after, next)) :
    Kept present published files process .idle after next published := by
  unfold openRead at opened
  split at opened
  next inode leads =>
    cases opened
    exact kept_same intact ⟨(intact.shown _ intact.current inode leads).1, List.nil_prefix⟩
  next =>
    cases opened
    exact kept_same intact trivial

/-- A reader at the end of the inode has its whole content. -/
theorem read_kept (intact : Intact present published files) {inode : Nat} {got : Bytes} {count : Nat}
    (knows : Knows published files process (.reading inode got))
    (red : read files inode got count = (after, next)) :
    Kept present published files process (.reading inode got) after next published := by
  obtain ⟨known, rest, whole⟩ := knows
  have remaining : (files.disk.content inode).drop got.length = rest := by rw [← whole, List.drop_left]
  unfold read at red
  rw [remaining] at red
  simp only [List.take_eq_nil_iff, Nat.add_eq_zero_iff, one_ne_zero, and_false, false_or] at red
  split at red
  next finished =>
    cases red
    rw [finished, List.append_nil] at whole
    refine ⟨{ intact with seen := fun bytes member => ?_ }, trivial,
      fun _ _ _ knew => knew.gentle rfl rfl rfl rfl fun _ there => there⟩
    rcases List.mem_append.mp member with before | now
    · exact intact.seen bytes before
    · rw [List.mem_singleton.mp now, whole]
      exact (intact.complete inode known).2.2
  next =>
    cases red
    refine kept_same intact ⟨known, rest.drop (count + 1), ?_⟩
    rw [List.append_assoc, List.take_append_drop]
    exact whole

theorem action_kept (intact : Intact present published files) (knows : Knows published files process place)
    {taken : Action} (acted : action files place taken = some (after, next)) :
    ∃ published', Kept present published files process place after next published' := by
  cases taken with
  | openTmp data works =>
    obtain ⟨rfl, done⟩ := Option.ite_none_right_eq_some.mp acted
    exact ⟨published, openTmp_kept intact (Option.some.inj done)⟩
  | write count =>
    simp only [action] at acted
    split at acted
    next => exact ⟨published, write_kept intact knows acted⟩
    next => cases acted
  | fsync =>
    simp only [action] at acted
    split at acted
    next => exact ⟨published, fsync_kept intact knows acted⟩
    next => cases acted
  | replace works =>
    simp only [action] at acted
    split at acted
    next => exact replace_kept intact knows (Option.some.inj acted)
    next => cases acted
  | fsyncDirectory works =>
    obtain ⟨rfl, done⟩ := Option.ite_none_right_eq_some.mp acted
    cases done
    exact ⟨published, fsyncDirectory_kept intact⟩
  | fail =>
    obtain ⟨-, done⟩ := Option.ite_none_right_eq_some.mp acted
    cases done
    exact ⟨published, kept_same intact trivial⟩
  | unlink works =>
    obtain ⟨rfl, done⟩ := Option.ite_none_right_eq_some.mp acted
    cases done
    exact ⟨published, unlink_kept intact⟩
  | openRead =>
    obtain ⟨rfl, done⟩ := Option.ite_none_right_eq_some.mp acted
    exact ⟨published, openRead_kept intact (Option.some.inj done)⟩
  | read count =>
    simp only [action] at acted
    split at acted
    next => exact ⟨published, read_kept intact knows (Option.some.inj acted)⟩
    next => cases acted
  | kill =>
    cases acted
    exact ⟨published, kept_same intact trivial⟩

/-- Only the opening leads a process to hold the temporary file. -/
theorem holdsTmp_action {taken : Action} (acted : action files place taken = some (after, next))
    (holds : next.holdsTmp = true) : place.holdsTmp = true ∨ ∃ data, taken = .openTmp data true := by
  cases taken with
  | openTmp data works =>
    obtain ⟨-, done⟩ := Option.ite_none_right_eq_some.mp acted
    cases works with
    | false => cases done; cases holds
    | true => exact .inr ⟨data, rfl⟩
  | write count | fsync | replace works =>
    simp only [action] at acted
    split at acted
    next => exact .inl rfl
    next => cases acted
  | fsyncDirectory works | unlink works =>
    obtain ⟨-, done⟩ := Option.ite_none_right_eq_some.mp acted
    cases done
    cases holds
  | fail =>
    obtain ⟨-, done⟩ := Option.ite_none_right_eq_some.mp acted
    cases done
    cases holds
  | openRead =>
    obtain ⟨-, done⟩ := Option.ite_none_right_eq_some.mp acted
    unfold openRead at done
    split at done <;> cases done <;> cases holds
  | read count =>
    simp only [action] at acted
    split at acted
    next =>
      unfold read at acted
      dsimp only at acted
      split at acted <;> cases acted <;> cases holds
    next => cases acted
  | kill =>
    cases acted
    cases holds

/-- What a loss of power leaves is intact: its file is one of the published inodes. -/
theorem Intact.powerCut (intact : Intact present published files) {left : Directory} {torn : Nat → Bytes}
    {disk : Disk} (lost : files.disk.powerCut left torn = some disk) :
    Intact present (fun inode => left.dest = some inode) { files with disk := disk } := by
  obtain ⟨possible, done⟩ := Option.ite_none_right_eq_some.mp lost
  cases done
  have only {other : Directory} (this : other ∈ [left]) : other = left := List.mem_singleton.mp this
  constructor
  · exact List.mem_singleton.mpr rfl
  · intro other remaining inode leads
    cases only remaining
    exact ⟨leads, (intact.shown left possible inode leads).2⟩
  · intro inode leads
    obtain ⟨below, synced, version⟩ := intact.complete inode (intact.shown left possible inode leads).1
    exact ⟨below, rfl, by simpa only [synced, ↓reduceIte] using version⟩
  · intro inode there leads
    exact (intact.shown left possible inode leads).2 there
  · intro other remaining inode leads
    cases only remaining
    exact intact.bound left possible inode leads
  · intro was other remaining
    cases only remaining
    exact intact.remains was left possible
  · exact intact.seen

/-- The files are intact, every process knows where it is, and at most one of them holds
the temporary file. -/
def Sound (present : Bool) (crew : Crew Files Place) : Prop :=
  (∃ published, Crew.Annotated (Intact present published) (Knows published) crew) ∧
    Crew.Alone Place.holdsTmp crew

theorem Sound.step {before after : Crew Files Place} {happening : Happening} (sound : Sound present before)
    (exclusive : Exclusive before happening) (stepped : step before happening = some after) :
    Sound present after := by
  obtain ⟨⟨published, annotated⟩, alone⟩ := sound
  cases happening with
  | act process taken =>
    obtain ⟨place, files, next, found, acted, rfl⟩ := Crew.act_eq_some stepped
    obtain ⟨published', kept⟩ := action_kept annotated.shared (annotated.places process place found) acted
    have enters (holds : next.holdsTmp = true) :
        place.holdsTmp = true ∨ ∀ elsewhere ∈ before.places, elsewhere.holdsTmp = false := by
      rcases holdsTmp_action acted holds with held | ⟨data, opens⟩
      · exact .inl held
      · subst opens
        exact .inr exclusive
    refine ⟨⟨published', annotated.set found kept.intact kept.knows ?_⟩, alone.set found enters⟩
    intro other elsewhere different seen known
    exact kept.others other elsewhere (fun held => alone.others found enters held different seen) known
  | powerCut left torn =>
    obtain ⟨disk, lost, rfl⟩ := Option.map_eq_some_iff.mp stepped
    have idle := Crew.resting_map before.places Place.idle
    exact ⟨⟨_, .resting idle (annotated.shared.powerCut lost) fun _ => trivial⟩, .resting idle rfl⟩

theorem intact_initial (old leftover : Option Bytes) (processes : Nat) :
    Intact old.isSome (fun inode => old.isSome = true ∧ inode = 0) (initial old leftover processes).shared := by
  have mine {left : Directory} (possible : left ∈ (initial old leftover processes).shared.disk.durable) :
      left = ⟨old.map fun _ => 0, leftover.map fun _ => 1⟩ := List.mem_singleton.mp possible
  constructor
  · exact List.mem_singleton.mpr rfl
  · intro left possible inode leads
    rw [mine possible] at leads ⊢
    obtain ⟨bytes, there, rfl⟩ := Option.map_eq_some_iff.mp leads
    exact ⟨⟨Option.isSome_of_eq_some there, rfl⟩, by cases leftover <;> exact fun impossible => by cases impossible⟩
  · rintro inode ⟨there, rfl⟩
    obtain ⟨bytes, rfl⟩ := Option.isSome_iff_exists.mp there
    exact ⟨Nat.zero_lt_two, rfl, List.mem_singleton.mpr rfl⟩
  · rintro inode there ⟨-, rfl⟩
    cases leftover <;> cases there
  · intro left possible inode leads
    rw [mine possible] at leads
    obtain ⟨bytes, there, rfl⟩ := Option.map_eq_some_iff.mp leads
    exact Nat.lt_succ_self 1
  · intro was left possible
    rw [mine possible, Option.isSome_map]
    exact was
  · exact fun _ impossible => by cases impossible

theorem sound_initial (old leftover : Option Bytes) (processes : Nat) :
    Sound old.isSome (initial old leftover processes) := by
  have idle (place : Place) (member : place ∈ List.replicate processes Place.idle) : place = .idle :=
    List.eq_of_mem_replicate member
  exact ⟨⟨_, .resting idle (intact_initial old leftover processes) fun _ => trivial⟩, .resting idle rfl⟩

/-- In a run in which no process opens the temporary file while another has it open, the
file holds a complete version at every moment, and every reader gets a complete version. -/
theorem complete_versions (old leftover : Option Bytes) (processes : Nat) {final : Crew Files Place}
    (run : Events.Reaches step Exclusive (initial old leftover processes) final) :
    Complete old final.shared := by
  have sound : Sound old.isSome final := run.invariant (sound_initial old leftover processes)
    fun _ _ _ _ exclusive stepped sound => sound.step exclusive stepped
  obtain ⟨⟨published, annotated⟩, -⟩ := sound
  have intact := annotated.shared
  constructor
  · intro was
    rw [Disk.read, Option.isSome_map]
    exact intact.remains was _ intact.current
  · intro bytes red
    obtain ⟨inode, leads, same⟩ := Option.map_eq_some_iff.mp red
    exact same ▸ (intact.complete inode (intact.shown _ intact.current inode leads).1).2.2
  · exact intact.seen

/-- One write, its rename undone by a loss of power, and a reader. -/
theorem complete_versions_cut : ∃ final,
    Events.play step Exclusive (initial (some [1]) none 2)
      [.act 0 (.openTmp [2, 3] true), .act 0 (.write 5), .act 0 .fsync, .act 0 (.replace true),
        .powerCut ⟨some 0, some 2⟩ fun _ => [], .act 1 .openRead, .act 1 (.read 7), .act 1 (.read 0)] =
        some final ∧
      Complete (some [1]) final.shared := by
  have plays : (Events.play step Exclusive (initial (some [1]) none 2)
      [.act 0 (.openTmp [2, 3] true), .act 0 (.write 5), .act 0 .fsync, .act 0 (.replace true),
        .powerCut ⟨some 0, some 2⟩ fun _ => [], .act 1 .openRead, .act 1 (.read 7),
        .act 1 (.read 0)]).isSome := by decide +kernel
  obtain ⟨final, played⟩ := Option.isSome_iff_exists.mp plays
  exact ⟨final, played, complete_versions (some [1]) none 2 (Events.reaches_play played)⟩

/-- The second process empties the temporary file before the first renames it. -/
theorem empty_published :
    ¬ ∀ (old leftover : Option Bytes) (processes : Nat) (final : Crew Files Place),
      Events.Reaches step Events.anything (initial old leftover processes) final → Complete old final.shared := by
  intro complete
  have plays : (Events.play step Events.anything (initial (some [1]) none 3)
      [.act 0 (.openTmp [2, 3] true), .act 0 (.write 5), .act 0 .fsync, .act 1 (.openTmp [4] true),
        .act 0 (.replace true), .act 2 .openRead, .act 2 (.read 0)]).any (fun final =>
          [] ∈ final.shared.seen ∧ [] ∉ final.shared.versions) = true := by decide +kernel
  obtain ⟨final, played, torn⟩ := (Option.any_eq_true _ _).mp plays
  obtain ⟨seen, unwritten⟩ := of_decide_eq_true torn
  exact unwritten ((complete (some [1]) none 3 final (Events.reaches_play played)).seen [] seen)

end Wqm1.Storage.AtomicReplace
