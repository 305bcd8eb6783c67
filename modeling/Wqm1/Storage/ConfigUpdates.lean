import Wqm1.Library.Dict
import Wqm1.Storage.AtomicReplace

/-! Several processes merging keys into one YAML file, each by a read of the whole file and
an atomic replacement of it. -/

set_option autoImplicit false

namespace Wqm1.Storage.ConfigUpdates

open Wqm1.Library AtomicReplace

variable {Key Value : Type} [DecidableEq Key]

/-- `yaml.safe_dump` and `yaml.safe_load(...) or {}` of a mapping. -/
structure Yaml (Key Value : Type) where
  dump : Dict Key Value → Bytes
  load : Bytes → Option (Dict Key Value)
  load_dump : ∀ document, load (dump document) = some document

/-- The file. The last fields are for the statements only: the updates of the calls that
were started, of those that renamed their file, and of those that returned without an
exception. -/
structure Store (Key Value : Type) where
  files : Files
  started : List (Dict Key Value) := []
  renamed : List (Dict Key Value) := []
  returned : List (Dict Key Value) := []

/-- Where a process is in `update_config`. -/
inductive Place (Key Value : Type) where
  | idle
  | reading (updates : Dict Key Value) (inode : Nat) (got : Bytes)
  | merged (updates : Dict Key Value) (data : Bytes)
  | replacing (updates : Dict Key Value) (inner : AtomicReplace.Place)

inductive Action (Key Value : Type) where
  | begin (updates : Dict Key Value)
  | read (count : Nat)
  | openTmp (works : Bool)
  /-- The next step of `atomic_write_bytes` after the opening. -/
  | proceed (taken : AtomicReplace.Action)
  | kill

def Place.busy : Place Key Value → Bool
  | .idle => false
  | _ => true

/-- Between the opening of the temporary file and the end of `atomic_write_bytes`. -/
def isStep : AtomicReplace.Action → Bool
  | .write _ | .fsync | .replace _ | .fsyncDirectory _ | .fail | .unlink _ => true
  | _ => false

/-- The end of `read_config` and the merge; a file that is not YAML raises. -/
def merge (yaml : Yaml Key Value) (updates : Dict Key Value) (got : Bytes) : Place Key Value :=
  match yaml.load got with
  | some current => .merged updates (yaml.dump (current.update updates))
  | none => .idle

def begin (yaml : Yaml Key Value) (store : Store Key Value) (updates : Dict Key Value) :
    Store Key Value × Place Key Value :=
  ({ store with started := store.started ++ [updates] },
    match store.files.disk.directory.dest with
    | some inode => .reading updates inode []
    | none => .merged updates (yaml.dump (Dict.empty.update updates)))

def read (yaml : Yaml Key Value) (store : Store Key Value) (updates : Dict Key Value) (inode : Nat)
    (got : Bytes) (count : Nat) : Place Key Value :=
  let piece := ((store.files.disk.content inode).drop got.length).take (count + 1)
  if piece = [] then merge yaml updates got else .reading updates inode (got ++ piece)

/-- The store after a step of the atomic write that leads to another one. -/
def Store.stepped (store : Store Key Value) (updates : Dict Key Value) (files : Files)
    (next : AtomicReplace.Place) : Store Key Value :=
  { store with
    files
    renamed := match next with
      | .replaced => store.renamed ++ [updates]
      | _ => store.renamed }

/-- After a step of the atomic write, which returns after `replaced` and otherwise raises. -/
def proceed (store : Store Key Value) (updates : Dict Key Value) (inner : AtomicReplace.Place)
    (taken : AtomicReplace.Action) : Option (Store Key Value × Place Key Value) :=
  if isStep taken then
    (AtomicReplace.action store.files inner taken).map fun reached =>
      if reached.2 = .idle then
        ({ store with
          files := reached.1
          returned := if inner = .replaced then store.returned ++ [updates] else store.returned }, .idle)
      else (store.stepped updates reached.1 reached.2, .replacing updates reached.2)
  else none

def action (yaml : Yaml Key Value) (store : Store Key Value) (place : Place Key Value) :
    Action Key Value → Option (Store Key Value × Place Key Value)
  | .begin updates => if place.busy then none else some (begin yaml store updates)
  | .read count =>
    match place with
    | .reading updates inode got => some (store, read yaml store updates inode got count)
    | _ => none
  | .openTmp works =>
    match place with
    | .merged updates data =>
      let opened := AtomicReplace.openTmp store.files data works
      some ({ store with files := opened.1 }, .replacing updates opened.2)
    | _ => none
  | .proceed taken =>
    match place with
    | .replacing updates inner => proceed store updates inner taken
    | _ => none
  | .kill => some (store, .idle)

abbrev step (yaml : Yaml Key Value) :
    Crew (Store Key Value) (Place Key Value) → Nat × Action Key Value →
      Option (Crew (Store Key Value) (Place Key Value)) := Crew.act (action yaml)

/-- The file with a document, a leftover temporary file, where there are any, and idle
processes. -/
def initial (yaml : Yaml Key Value) (old : Option (Dict Key Value)) (leftover : Option Bytes)
    (processes : Nat) : Crew (Store Key Value) (Place Key Value) :=
  ⟨⟨(AtomicReplace.initial (old.map yaml.dump) leftover processes).shared, [], [], []⟩,
    List.replicate processes .idle⟩

/-- Before the rename of a call, or in the `finally` of one that did not rename. -/
def Place.merging : Place Key Value → Bool
  | .idle | .replacing _ .replaced => false
  | _ => true

/-- No call begins between the beginning of another and its rename. -/
def Apart (crew : Crew (Store Key Value) (Place Key Value)) (event : Nat × Action Key Value) : Prop :=
  match event.2 with
  | .begin _ => ∀ place ∈ crew.places, place.merging = false
  | _ => True

instance (crew : Crew (Store Key Value) (Place Key Value)) : ∀ event, Decidable (Apart crew event)
  | (_, .begin _) => inferInstanceAs (Decidable (∀ place ∈ _, _ = false))
  | (_, .read _) | (_, .openTmp _) | (_, .proceed _) | (_, .kill) => inferInstanceAs (Decidable True)

/-- The document in the file; a missing file has the empty one. -/
def Store.document (yaml : Yaml Key Value) (store : Store Key Value) : Option (Dict Key Value) :=
  match store.files.disk.read with
  | some bytes => yaml.load bytes
  | none => some Dict.empty

/-- Every key that a returned call updated has the value of one of the calls that updated
it, a key that no call updates has its previous value, and the updates of other keys
revert no returned update. -/
structure NoneLost (previous document : Dict Key Value) (store : Store Key Value) : Prop where
  updated : ∀ updates ∈ store.returned, ∀ key, updates.get key ≠ none →
    ∃ other ∈ store.started, other.get key ≠ none ∧ document.get key = other.get key
  untouched : ∀ key, (∀ updates ∈ store.started, updates.get key = none) →
    document.get key = previous.get key
  unreverted : ∀ updates ∈ store.returned, ∀ key, updates.get key ≠ none →
    (∀ other ∈ store.started, other.get key ≠ none → other = updates) → document.get key = updates.get key

/-- The same of the calls that have renamed their file, which those that returned have. -/
structure Merged (previous document : Dict Key Value) (store : Store Key Value) : Prop where
  updated : ∀ updates ∈ store.renamed, ∀ key, updates.get key ≠ none →
    ∃ other ∈ store.started, other.get key ≠ none ∧ document.get key = other.get key
  untouched : ∀ key, (∀ updates ∈ store.started, updates.get key = none) →
    document.get key = previous.get key
  returned : ∀ updates ∈ store.returned, updates ∈ store.renamed

/-- The names lead to different inodes, all of them in use. -/
structure Layout (disk : Disk) : Prop where
  apart : ∀ inode, disk.directory.dest = some inode → disk.directory.tmp ≠ some inode ∧ inode < disk.fresh
  bound : ∀ inode, disk.directory.tmp = some inode → inode < disk.fresh

/-- The file has a document from which nothing was lost. -/
structure Sound (yaml : Yaml Key Value) (previous : Dict Key Value) (store : Store Key Value) : Prop where
  layout : Layout store.files.disk
  document : ∃ document, store.document yaml = some document ∧ Merged previous document store

/-- The bytes that a call with these updates has to write. -/
def Target (yaml : Yaml Key Value) (store : Store Key Value) (updates : Dict Key Value) (data : Bytes) : Prop :=
  ∃ document, store.document yaml = some document ∧ data = yaml.dump (document.update updates)

/-- The inode is that of the temporary file. -/
def Reserved (store : Store Key Value) (inode : Nat) : Prop :=
  store.files.disk.directory.tmp = some inode

/-- What a call knows within the atomic write. -/
def KnowsInner (yaml : Yaml Key Value) (store : Store Key Value) (updates : Dict Key Value) :
    AtomicReplace.Place → Prop
  | .writing data inode position => Target yaml store updates data ∧ Reserved store inode ∧
    position ≤ data.length ∧ store.files.disk.content inode = data.take position
  | .flushed data inode => Target yaml store updates data ∧ Reserved store inode ∧
    store.files.disk.content inode = data
  | .replaced => updates ∈ store.renamed
  | .failing => True
  | .idle | .reading .. => False

/-- What a call knows; up to its rename no other call is before its own. -/
def Knows (yaml : Yaml Key Value) (store : Store Key Value) (_ : Nat) : Place Key Value → Prop
  | .idle => True
  | .reading updates inode got => updates ∈ store.started ∧
    store.files.disk.directory.dest = some inode ∧ got <+: store.files.disk.content inode
  | .merged updates data => updates ∈ store.started ∧ Target yaml store updates data
  | .replacing updates inner => updates ∈ store.started ∧ KnowsInner yaml store updates inner

variable {yaml : Yaml Key Value} {previous : Dict Key Value} {store after : Store Key Value} {process : Nat}
  {place next : Place Key Value} {updates : Dict Key Value}

omit [DecidableEq Key] in
theorem document_of_dest {inode : Nat} (leads : store.files.disk.directory.dest = some inode) :
    store.document yaml = yaml.load (store.files.disk.content inode) := by
  unfold Store.document Disk.read
  rw [leads]
  rfl

omit [DecidableEq Key] in
theorem document_of_missing (missing : store.files.disk.directory.dest = none) :
    store.document yaml = some Dict.empty := by
  unfold Store.document Disk.read
  rw [missing]
  rfl

omit [DecidableEq Key] in
/-- A step that leaves the file's name and the inode it leads to leaves the document. -/
theorem document_congr (dest : after.files.disk.directory.dest = store.files.disk.directory.dest)
    (content : ∀ inode, store.files.disk.directory.dest = some inode →
      after.files.disk.content inode = store.files.disk.content inode) :
    after.document yaml = store.document yaml := by
  cases leads : store.files.disk.directory.dest with
  | none => rw [document_of_missing leads, document_of_missing (dest.trans leads)]
  | some inode => rw [document_of_dest leads, document_of_dest (dest.trans leads), content inode leads]

theorem Merged.noneLost {document : Dict Key Value} (merged : Merged previous document store) :
    NoneLost previous document store where
  updated updates member := merged.updated updates (merged.returned updates member)
  untouched := merged.untouched
  unreverted updates member key touched alone := by
    obtain ⟨other, started, asked, same⟩ := merged.updated updates (merged.returned updates member) key touched
    rw [same, alone other started asked]

theorem Merged.start {document : Dict Key Value} (merged : Merged previous document store) :
    Merged previous document { store with started := store.started ++ [updates] } where
  updated earlier member key touched := by
    obtain ⟨other, started, rest⟩ := merged.updated earlier member key touched
    exact ⟨other, List.mem_append_left _ started, rest⟩
  untouched key absent := merged.untouched key fun earlier member => absent earlier (List.mem_append_left _ member)
  returned := merged.returned

/-- A rename puts the updates over the document. -/
theorem Merged.rename {document : Dict Key Value} (merged : Merged previous document store)
    (started : updates ∈ store.started) (files : Files) :
    Merged previous (document.update updates) (store.stepped updates files .replaced) where
  updated earlier member key touched := by
    rw [Dict.get_update]
    cases mine : updates.get key with
    | none =>
      rcases List.mem_append.mp member with before | last
      · exact merged.updated earlier before key touched
      · cases List.mem_singleton.mp last
        exact absurd mine touched
    | some value => exact ⟨updates, started, Option.ne_none_iff_exists'.mpr ⟨value, mine⟩, mine.symm⟩
  untouched key absent := by
    rw [Dict.get_update, absent updates started]
    exact merged.untouched key absent
  returned earlier member := List.mem_append_left _ (merged.returned earlier member)

theorem Merged.finish {document : Dict Key Value} (merged : Merged previous document store)
    (renamed : updates ∈ store.renamed) :
    Merged previous document { store with returned := store.returned ++ [updates] } where
  updated := merged.updated
  untouched := merged.untouched
  returned earlier member := by
    rcases List.mem_append.mp member with before | last
    · exact merged.returned earlier before
    · cases List.mem_singleton.mp last
      exact renamed

/-- What a step leaves: a sound store and a call that knows where it is. -/
structure Kept (yaml : Yaml Key Value) (previous : Dict Key Value) (process : Nat)
    (reached : Store Key Value × Place Key Value) : Prop where
  sound : Sound yaml previous reached.1
  knows : Knows yaml reached.1 process reached.2

theorem begin_kept (sound : Sound yaml previous store) : Kept yaml previous process (begin yaml store updates) := by
  obtain ⟨document, holds, merged⟩ := sound.document
  have mine : updates ∈ store.started ++ [updates] := List.mem_append_right _ (List.mem_singleton.mpr rfl)
  refine ⟨⟨sound.layout, document, holds, merged.start⟩, ?_⟩
  unfold begin
  cases leads : store.files.disk.directory.dest with
  | some inode => exact ⟨mine, leads, List.nil_prefix⟩
  | none => exact ⟨mine, Dict.empty, document_of_missing leads, rfl⟩

theorem read_kept {inode : Nat} {got : Bytes} {count : Nat} (sound : Sound yaml previous store)
    (knows : Knows yaml store process (.reading updates inode got)) :
    Kept yaml previous process (store, read yaml store updates inode got count) := by
  refine ⟨sound, ?_⟩
  obtain ⟨started, leads, rest, whole⟩ := knows
  obtain ⟨document, holds, -⟩ := sound.document
  have remaining : (store.files.disk.content inode).drop got.length = rest := by rw [← whole, List.drop_left]
  unfold read
  rw [remaining]
  simp only [List.take_eq_nil_iff, Nat.add_eq_zero_iff, one_ne_zero, and_false, false_or]
  split
  next finished =>
    rw [finished, List.append_nil] at whole
    rw [document_of_dest leads, ← whole] at holds
    unfold merge
    rw [holds]
    exact ⟨started, document, by rw [document_of_dest leads, ← whole, holds], rfl⟩
  next =>
    refine ⟨started, leads, rest.drop (count + 1), ?_⟩
    rw [List.append_assoc, List.take_append_drop]
    exact whole

theorem openTmp_kept {data : Bytes} {works : Bool} (sound : Sound yaml previous store)
    (knows : Knows yaml store process (.merged updates data)) :
    Kept yaml previous process
      ({ store with files := (AtomicReplace.openTmp store.files data works).1 },
        .replacing updates (AtomicReplace.openTmp store.files data works).2) := by
  obtain ⟨started, target⟩ := knows
  cases works with
  | false => exact ⟨sound, started, trivial⟩
  | true =>
    obtain ⟨document, holds, merged⟩ := sound.document
    have effect := Disk.opened_openTmp store.files.disk
    unfold AtomicReplace.openTmp
    simp only [↓reduceIte]
    generalize store.files.disk.openTmp = result at effect
    obtain ⟨inode, disk⟩ := result
    dsimp only at effect ⊢
    have dest : disk.directory.dest = store.files.disk.directory.dest := by rw [effect.directory]
    have different (old : Nat) (leads : store.files.disk.directory.dest = some old) : old ≠ inode := by
      intro same
      rcases effect.origin with ⟨there, -⟩ | ⟨-, isFresh, -⟩
      · exact (sound.layout.apart old leads).1 (same ▸ there)
      · exact Nat.lt_irrefl _ ((same.trans isFresh) ▸ (sound.layout.apart old leads).2)
    have bound : inode < disk.fresh ∧ store.files.disk.fresh ≤ disk.fresh := by
      rcases effect.origin with ⟨there, same⟩ | ⟨-, isFresh, grown⟩
      · exact ⟨same ▸ sound.layout.bound inode there, Nat.le_of_eq same.symm⟩
      · omega
    have document_same {opened : Store Key Value} (same : opened.files.disk = disk) :
        opened.document yaml = store.document yaml :=
      document_congr (same ▸ dest) fun old leads => same ▸ (effect.others old (different old leads)).1
    refine ⟨⟨⟨?_, ?_⟩, document, (document_same rfl).trans holds,
      merged.updated, merged.untouched, merged.returned⟩, started, ?_⟩
    · intro old leads
      have before := dest ▸ leads
      refine ⟨?_, Nat.lt_of_lt_of_le (sound.layout.apart old before).2 bound.2⟩
      rw [effect.directory]
      exact fun there => different old before (Option.some.inj there).symm
    · intro other there
      rw [effect.directory] at there
      cases there
      exact bound.1
    · obtain ⟨present, holdsToo, same⟩ := target
      refine ⟨⟨present, (document_same rfl).trans holdsToo, same⟩, ?_, Nat.zero_le _, effect.empty⟩
      unfold Reserved
      rw [effect.directory]

/-- A step of the atomic write on the files that leaves the store sound and the call
knowing where it is. -/
structure InnerKept (yaml : Yaml Key Value) (previous : Dict Key Value) (store : Store Key Value)
    (updates : Dict Key Value) (files : Files) (next : AtomicReplace.Place) : Prop where
  sound : Sound yaml previous (store.stepped updates files next)
  knows : KnowsInner yaml (store.stepped updates files next) updates next

/-- A write to the temporary file leaves the document. -/
theorem setContent_sound (sound : Sound yaml previous store) {inode : Nat} (reserved : Reserved store inode)
    (bytes : Bytes) :
    Sound yaml previous { store with
      files := { store.files with disk := store.files.disk.setContent inode bytes } } ∧
    ∀ updates data, Target yaml store updates data → Target yaml { store with
      files := { store.files with disk := store.files.disk.setContent inode bytes } } updates data := by
  obtain ⟨document, holds, merged⟩ := sound.document
  have same : ({ store with files := { store.files with disk := store.files.disk.setContent inode bytes } } :
      Store Key Value).document yaml = store.document yaml :=
    document_congr rfl fun old leads => Disk.content_setContent_of_ne bytes fun this =>
      (sound.layout.apart old leads).1 (this ▸ reserved)
  refine ⟨⟨⟨sound.layout.apart, sound.layout.bound⟩, document, same.trans holds, merged.updated,
    merged.untouched, merged.returned⟩, ?_⟩
  rintro updates data ⟨present, holdsToo, asked⟩
  exact ⟨present, same.trans holdsToo, asked⟩

theorem write_kept {data : Bytes} {inode position count : Nat} {files : Files} {reached : AtomicReplace.Place}
    (sound : Sound yaml previous store)
    (knows : KnowsInner yaml store updates (.writing data inode position))
    (written : AtomicReplace.write store.files data inode position count = some (files, reached)) :
    InnerKept yaml previous store updates files reached := by
  obtain ⟨target, reserved, within, prefixed⟩ := knows
  unfold AtomicReplace.write at written
  obtain ⟨-, done⟩ := Option.ite_none_right_eq_some.mp written
  cases done
  obtain ⟨stays, keeps⟩ := setContent_sound sound reserved
    (writeAt (store.files.disk.content inode) position ((data.drop position).take (count + 1)))
  refine ⟨stays, keeps updates data target, reserved, ?_, ?_⟩
  · rw [List.length_take, List.length_drop]
    omega
  · have content : (store.files.disk.write inode position ((data.drop position).take (count + 1))).content inode =
        writeAt (store.files.disk.content inode) position ((data.drop position).take (count + 1)) :=
      Function.update_self ..
    refine content.trans ?_
    rw [prefixed]
    exact writeAt_take (count + 1) within

theorem fsync_kept {data : Bytes} {inode position : Nat} {files : Files} {reached : AtomicReplace.Place}
    (sound : Sound yaml previous store)
    (knows : KnowsInner yaml store updates (.writing data inode position))
    (synced : AtomicReplace.fsync store.files data inode position = some (files, reached)) :
    InnerKept yaml previous store updates files reached := by
  obtain ⟨target, reserved, -, prefixed⟩ := knows
  unfold AtomicReplace.fsync at synced
  obtain ⟨full, done⟩ := Option.ite_none_right_eq_some.mp synced
  cases done
  obtain ⟨document, holds, merged⟩ := sound.document
  rw [full, List.take_length] at prefixed
  exact ⟨⟨⟨sound.layout.apart, sound.layout.bound⟩, document, holds, merged.updated, merged.untouched, merged.returned⟩,
    target, reserved, prefixed⟩

/-- The rename puts the merged document in the place of the one that was read. -/
theorem replace_kept {data : Bytes} {inode : Nat} {works : Bool} {files : Files} {reached : AtomicReplace.Place}
    (sound : Sound yaml previous store) (started : updates ∈ store.started)
    (knows : KnowsInner yaml store updates (.flushed data inode))
    (renamed : AtomicReplace.replace store.files works = (files, reached)) :
    InnerKept yaml previous store updates files reached := by
  obtain ⟨⟨document, holds, asked⟩, reserved, content⟩ := knows
  obtain ⟨same, holdsToo, merged⟩ := sound.document
  cases holds.symm.trans holdsToo
  rw [AtomicReplace.replace_of_tmp reserved] at renamed
  cases works with
  | false =>
    cases renamed
    exact ⟨sound, trivial⟩
  | true =>
    cases renamed
    have written : (store.stepped updates { store.files with
        disk := store.files.disk.enter ⟨some inode, none⟩ } .replaced).document yaml =
          some (document.update updates) := by
      rw [document_of_dest rfl]
      exact (congrArg yaml.load (content.trans asked)).trans (yaml.load_dump _)
    refine ⟨⟨⟨?_, fun _ impossible => by cases impossible⟩, _, written, merged.rename started _⟩,
      List.mem_append_right _ (List.mem_singleton.mpr rfl)⟩
    intro old leads
    cases leads
    exact ⟨(fun impossible => by cases impossible), sound.layout.bound inode reserved⟩

/-- The steps on a file that was not renamed yet lead to another such step, or to the
rename. -/
theorem inner_kept {inner reached : AtomicReplace.Place} {taken : AtomicReplace.Action} {files : Files}
    (sound : Sound yaml previous store) (started : updates ∈ store.started)
    (knows : KnowsInner yaml store updates inner) (holds : inner.holdsTmp = true) (steps : isStep taken = true)
    (acted : AtomicReplace.action store.files inner taken = some (files, reached)) :
    reached ≠ .idle ∧ InnerKept yaml previous store updates files reached := by
  cases taken with
  | openTmp | openRead | read | kill => cases steps
  | write count =>
    simp only [AtomicReplace.action] at acted
    split at acted
    next =>
      have kept := write_kept sound knows acted
      obtain ⟨-, done⟩ := Option.ite_none_right_eq_some.mp acted
      cases done
      exact ⟨(fun impossible => by cases impossible), kept⟩
    next => cases acted
  | fsync =>
    simp only [AtomicReplace.action] at acted
    split at acted
    next =>
      have kept := fsync_kept sound knows acted
      obtain ⟨-, done⟩ := Option.ite_none_right_eq_some.mp acted
      cases done
      exact ⟨(fun impossible => by cases impossible), kept⟩
    next => cases acted
  | replace works =>
    simp only [AtomicReplace.action] at acted
    split at acted
    next =>
      refine ⟨?_, replace_kept sound started knows (Option.some.inj acted)⟩
      rw [AtomicReplace.replace_of_tmp knows.2.1] at acted
      split at acted <;> cases acted <;> exact fun impossible => by cases impossible
    next => cases acted
  | fail =>
    obtain ⟨-, done⟩ := Option.ite_none_right_eq_some.mp acted
    cases done
    exact ⟨(fun impossible => by cases impossible), sound, trivial⟩
  | fsyncDirectory works | unlink works =>
    obtain ⟨same, -⟩ := Option.ite_none_right_eq_some.mp acted
    subst same
    cases holds

theorem fsyncDirectory_sound (works : Bool) (sound : Sound yaml previous store) :
    Sound yaml previous { store with files := if works then
      { store.files with disk := store.files.disk.fsyncDirectory } else store.files } := by
  obtain ⟨document, holds, merged⟩ := sound.document
  split <;> exact ⟨⟨sound.layout.apart, sound.layout.bound⟩, document, holds, merged.updated, merged.untouched, merged.returned⟩

theorem unlink_sound {works : Bool} (sound : Sound yaml previous store) :
    Sound yaml previous { store with files := if works then
      { store.files with disk := store.files.disk.unlinkTmp } else store.files } := by
  obtain ⟨document, holds, merged⟩ := sound.document
  cases works with
  | false => exact sound
  | true =>
    simp only [↓reduceIte, Disk.unlinkTmp]
    split
    next =>
      exact ⟨⟨fun inode leads => ⟨(fun impossible => by cases impossible), (sound.layout.apart inode leads).2⟩,
        fun _ impossible => by cases impossible⟩, document, holds,
        merged.updated, merged.untouched, merged.returned⟩
    next => exact sound

/-- A call that has renamed the file returns. -/
theorem returned_sound {works : Bool} (sound : Sound yaml previous store)
    (knows : KnowsInner yaml store updates .replaced) :
    Sound yaml previous { store with
      files := if works then { store.files with disk := store.files.disk.fsyncDirectory } else store.files
      returned := store.returned ++ [updates] } := by
  obtain ⟨layout, document, holds, merged⟩ := fsyncDirectory_sound works sound
  have finished : Merged previous document _ := merged.finish knows
  exact ⟨layout, document, holds, finished⟩

theorem proceed_kept {inner : AtomicReplace.Place} {taken : AtomicReplace.Action}
    {reached : Store Key Value × Place Key Value} (sound : Sound yaml previous store)
    (knows : Knows yaml store process (.replacing updates inner))
    (proceeded : proceed store updates inner taken = some reached) : Kept yaml previous process reached := by
  obtain ⟨started, inside⟩ := knows
  obtain ⟨steps, done⟩ := Option.ite_none_right_eq_some.mp proceeded
  obtain ⟨⟨files, nextInner⟩, acted, same⟩ := Option.map_eq_some_iff.mp done
  subst same
  have within (holds : inner.holdsTmp = true) : Kept yaml previous process
      (if nextInner = .idle then
        ({ store with
          files := files
          returned := if inner = .replaced then store.returned ++ [updates] else store.returned }, .idle)
      else (store.stepped updates files nextInner, .replacing updates nextInner)) := by
    obtain ⟨busy, kept⟩ := inner_kept sound started inside holds steps acted
    rw [if_neg busy]
    exact ⟨kept.sound, started, kept.knows⟩
  cases inner with
  | idle => exact inside.elim
  | reading inode got => exact inside.elim
  | writing data inode position => exact within rfl
  | flushed data inode => exact within rfl
  | replaced =>
    cases taken with
    | fsyncDirectory works =>
      cases acted
      exact ⟨returned_sound sound inside, trivial⟩
    | openTmp | openRead | read | kill => cases steps
    | write | fsync | replace | fail | unlink => cases acted
  | failing =>
    cases taken with
    | unlink works =>
      cases acted
      exact ⟨unlink_sound sound, trivial⟩
    | openTmp | openRead | read | kill => cases steps
    | write | fsync | replace | fail | fsyncDirectory => cases acted

/-- Every action of a call leaves the store sound and the call knowing where it is. -/
theorem action_kept {taken : Action Key Value} {reached : Store Key Value × Place Key Value}
    (sound : Sound yaml previous store) (knows : Knows yaml store process place)
    (acted : action yaml store place taken = some reached) : Kept yaml previous process reached := by
  cases taken with
  | begin updates =>
    obtain ⟨-, done⟩ := Option.ite_none_left_eq_some.mp acted
    cases done
    exact begin_kept sound
  | read count =>
    simp only [action] at acted
    split at acted
    next =>
      cases acted
      exact read_kept sound knows
    next => cases acted
  | openTmp works =>
    simp only [action] at acted
    split at acted
    next =>
      cases acted
      exact openTmp_kept sound knows
    next => cases acted
  | proceed taken =>
    simp only [action] at acted
    split at acted
    next => exact proceed_kept sound knows acted
    next => cases acted
  | kill =>
    cases acted
    exact ⟨sound, trivial⟩

/-- Whoever acts is before its rename, begins, only stops, or returns. -/
theorem action_cases {taken : Action Key Value} {reached : Store Key Value × Place Key Value}
    (acted : action yaml store place taken = some reached) :
    place.merging = true ∨ (∃ updates, taken = .begin updates) ∨ reached = (store, .idle) ∨
      ∃ updates, ∃ works : Bool, reached = ({ store with
        files := if works then { store.files with disk := store.files.disk.fsyncDirectory } else store.files
        returned := store.returned ++ [updates] }, .idle) := by
  cases taken with
  | begin updates => exact .inr (.inl ⟨updates, rfl⟩)
  | kill => exact .inr (.inr (.inl (Option.some.inj acted).symm))
  | read | openTmp =>
    simp only [action] at acted
    split at acted
    next => exact .inl rfl
    next => cases acted
  | proceed taken =>
    simp only [action] at acted
    split at acted
    next updates inner =>
      cases inner with
      | replaced =>
        obtain ⟨steps, done⟩ := Option.ite_none_right_eq_some.mp acted
        cases taken with
        | fsyncDirectory works =>
          obtain rfl := Option.some.inj done
          exact .inr (.inr (.inr ⟨updates, works, rfl⟩))
        | openTmp | openRead | read | kill => cases steps
        | write | fsync | replace | fail | unlink => cases done
      | _ => exact .inl rfl
    next => cases acted

/-- No action forgets a call that was started, nor one that has renamed. -/
theorem action_grows {taken : Action Key Value} {reached : Store Key Value × Place Key Value}
    (acted : action yaml store place taken = some reached) :
    store.started ⊆ reached.1.started ∧ store.renamed ⊆ reached.1.renamed := by
  cases taken with
  | begin updates =>
    obtain ⟨-, done⟩ := Option.ite_none_left_eq_some.mp acted
    cases done
    exact ⟨List.subset_append_left .., List.Subset.refl _⟩
  | kill =>
    cases acted
    exact ⟨List.Subset.refl _, List.Subset.refl _⟩
  | read | openTmp =>
    simp only [action] at acted
    split at acted
    next =>
      cases acted
      exact ⟨List.Subset.refl _, List.Subset.refl _⟩
    next => cases acted
  | proceed taken =>
    simp only [action] at acted
    split at acted
    next =>
      obtain ⟨-, done⟩ := Option.ite_none_right_eq_some.mp acted
      obtain ⟨⟨files, next⟩, -, rfl⟩ := Option.map_eq_some_iff.mp done
      dsimp only
      split
      next => exact ⟨List.Subset.refl _, List.Subset.refl _⟩
      next =>
        refine ⟨List.Subset.refl _, ?_⟩
        unfold Store.stepped
        dsimp only
        split
        next => exact List.subset_append_left ..
        next => exact List.Subset.refl _
    next => cases acted

/-- What a call that is not before its rename knows stays true. -/
theorem Knows.grow (known : Knows yaml store process place) (outside : place.merging = false)
    (grows : store.started ⊆ after.started ∧ store.renamed ⊆ after.renamed) : Knows yaml after process place := by
  cases place with
  | idle => trivial
  | reading | merged => cases outside
  | replacing updates inner =>
    cases inner with
    | replaced => exact ⟨grows.1 known.1, grows.2 known.2⟩
    | _ => cases outside

/-- The return of a call changes nothing that another one knows. -/
theorem Knows.synced (known : Knows yaml store process place) (works : Bool) (returned : List (Dict Key Value)) :
    Knows yaml { store with
      files := if works then { store.files with disk := store.files.disk.fsyncDirectory } else store.files
      returned } process place := by
  cases works with
  | false =>
    cases place with
    | replacing updates inner => cases inner <;> exact known
    | _ => exact known
  | true =>
    cases place with
    | replacing updates inner => cases inner <;> exact known
    | _ => exact known

/-- Nothing was lost, every call knows where it is, and at most one is before its rename. -/
def Settled (yaml : Yaml Key Value) (previous : Dict Key Value)
    (crew : Crew (Store Key Value) (Place Key Value)) : Prop :=
  Crew.Annotated (Sound yaml previous) (Knows yaml) crew ∧ Crew.Alone Place.merging crew

theorem Settled.step {before later : Crew (Store Key Value) (Place Key Value)} {event : Nat × Action Key Value}
    (settled : Settled yaml previous before) (apart : Apart before event)
    (stepped : step yaml before event = some later) : Settled yaml previous later := by
  obtain ⟨annotated, alone⟩ := settled
  obtain ⟨process, taken⟩ := event
  obtain ⟨place, store, next, found, acted, rfl⟩ := Crew.act_eq_some stepped
  have kept := action_kept annotated.shared (annotated.places process place found) acted
  rcases action_cases acted with merging | ⟨updates, begins⟩ | stopped | ⟨updates, works, returns⟩
  · refine ⟨annotated.set found kept.sound kept.knows ?_, alone.set found fun _ => .inl merging⟩
    intro other elsewhere different seen known
    exact known.grow (alone.outside found merging different seen) (action_grows acted)
  · subst begins
    refine ⟨annotated.set found kept.sound kept.knows ?_, alone.set found fun _ => .inr apart⟩
    intro other elsewhere different seen known
    exact known.grow (apart elsewhere (List.mem_of_getElem? seen)) (action_grows acted)
  · cases stopped
    exact ⟨annotated.set found annotated.shared trivial fun _ _ _ _ known => known,
      alone.set found fun merging => by cases merging⟩
  · cases returns
    exact ⟨annotated.set found kept.sound trivial fun _ _ _ _ known => known.synced works _,
      alone.set found fun merging => by cases merging⟩

omit [DecidableEq Key] in
theorem document_initial (yaml : Yaml Key Value) (old : Option (Dict Key Value)) (leftover : Option Bytes)
    (processes : Nat) :
    (initial yaml old leftover processes).shared.document yaml = some (old.getD Dict.empty) := by
  cases old with
  | none => rfl
  | some document => exact yaml.load_dump document

omit [DecidableEq Key] in
theorem layout_initial (yaml : Yaml Key Value) (old : Option (Dict Key Value)) (leftover : Option Bytes)
    (processes : Nat) : Layout (initial yaml old leftover processes).shared.files.disk := by
  constructor
  · intro inode leads
    obtain ⟨_, -, rfl⟩ := Option.map_eq_some_iff.mp leads
    exact ⟨by cases leftover <;> exact (fun impossible => by cases impossible), Nat.zero_lt_two⟩
  · intro inode leads
    obtain ⟨_, -, rfl⟩ := Option.map_eq_some_iff.mp leads
    exact Nat.lt_succ_self 1

theorem settled_initial (yaml : Yaml Key Value) (old : Option (Dict Key Value)) (leftover : Option Bytes)
    (processes : Nat) : Settled yaml (old.getD Dict.empty) (initial yaml old leftover processes) := by
  have idle (place : Place Key Value) (member : place ∈ List.replicate processes Place.idle) : place = .idle :=
    List.eq_of_mem_replicate member
  refine ⟨.resting idle ?_ fun _ => trivial, .resting idle rfl⟩
  exact ⟨layout_initial yaml old leftover processes, _, document_initial yaml old leftover processes,
    (fun _ member => by cases member), (fun _ _ => rfl), fun _ member => by cases member⟩

/-- In a run in which no call begins between the beginning of another and its rename, no update is lost. -/
theorem none_lost (yaml : Yaml Key Value) (old : Option (Dict Key Value)) (leftover : Option Bytes)
    (processes : Nat) {final : Crew (Store Key Value) (Place Key Value)}
    (run : Events.Reaches (step yaml) Apart (initial yaml old leftover processes) final) :
    ∃ document, final.shared.document yaml = some document ∧
      NoneLost (old.getD Dict.empty) document final.shared := by
  have settled : Settled yaml (old.getD Dict.empty) final :=
    run.invariant (settled_initial yaml old leftover processes)
      fun _ _ _ _ apart stepped settled => settled.step apart stepped
  obtain ⟨document, holds, merged⟩ := settled.1.shared.document
  exact ⟨document, holds, merged.noneLost⟩

/-- Two keys and their bytes, one a setting. -/
inductive SampleKey where
  | apiKey | siteName
deriving DecidableEq

def SampleKey.code : SampleKey × Bool → UInt8
  | (.apiKey, value) => if value then 1 else 0
  | (.siteName, value) => if value then 3 else 2

def SampleKey.decode (byte : UInt8) : SampleKey × Bool :=
  (if byte < 2 then .apiKey else .siteName, byte = 1 ∨ byte = 3)

def sampleYaml : Yaml SampleKey Bool where
  dump document := document.entries.map SampleKey.code
  load bytes :=
    if nodup : ((bytes.map SampleKey.decode).map Prod.fst).Nodup then some ⟨bytes.map SampleKey.decode, nodup⟩
    else none
  load_dump document := by
    have back : (document.entries.map SampleKey.code).map SampleKey.decode = document.entries := by
      rw [List.map_map]
      refine (List.map_congr_left fun entry _ => ?_).trans (List.map_id _)
      obtain ⟨key, value⟩ := entry
      cases key <;> cases value <;> rfl
    simp only [back, document.nodup, ↓reduceDIte]

def sampleDocument (key : SampleKey) (value : Bool) : Dict SampleKey Bool :=
  ⟨[(key, value)], List.nodup_singleton key⟩

/-- The steps of one call after its beginning, up to what it read. -/
def readSteps (process : Nat) : List (Nat × Action SampleKey Bool) :=
  [(process, .read 9), (process, .read 9)]

def writeSteps (process : Nat) : List (Nat × Action SampleKey Bool) :=
  [(process, .openTmp true), (process, .proceed (.write 9)), (process, .proceed .fsync),
    (process, .proceed (.replace true)), (process, .proceed (.fsyncDirectory true))]

/-- Two calls, one after the other. -/
def calls : List (Nat × Action SampleKey Bool) :=
  (0, .begin (sampleDocument .apiKey true)) :: readSteps 0 ++ writeSteps 0 ++
    (1, .begin (sampleDocument .siteName true)) :: readSteps 1 ++ writeSteps 1

theorem none_lost_calls : ∃ final,
    Events.play (step sampleYaml) Apart
        (initial sampleYaml (some (sampleDocument .apiKey false)) none 2) calls = some final ∧
      ∃ document, final.shared.document sampleYaml = some document ∧
        NoneLost (sampleDocument .apiKey false) document final.shared := by
  have plays : (Events.play (step sampleYaml) Apart
      (initial sampleYaml (some (sampleDocument .apiKey false)) none 2) calls).isSome := by decide +kernel
  obtain ⟨final, played⟩ := Option.isSome_iff_exists.mp plays
  exact ⟨final, played, none_lost sampleYaml (some (sampleDocument .apiKey false)) none 2
    (Events.reaches_play played)⟩

/-- Both calls read before either writes. -/
def overlappingCalls : List (Nat × Action SampleKey Bool) :=
  (0, .begin (sampleDocument .apiKey true)) :: (1, .begin (sampleDocument .siteName true)) ::
    readSteps 0 ++ readSteps 1 ++ writeSteps 0 ++ writeSteps 1

theorem update_lost :
    ¬ ∀ (old : Option (Dict SampleKey Bool)) (leftover : Option Bytes) (processes : Nat)
      (final : Crew (Store SampleKey Bool) (Place SampleKey Bool)),
      Events.Reaches (step sampleYaml) Events.anything (initial sampleYaml old leftover processes) final →
      ∃ document, final.shared.document sampleYaml = some document ∧
        NoneLost (old.getD Dict.empty) document final.shared := by
  intro noneLost
  have plays : (Events.play (step sampleYaml) Events.anything
      (initial sampleYaml (some (sampleDocument .apiKey false)) none 2) overlappingCalls).any (fun final =>
        (final.shared.document sampleYaml).any (fun document => document.get .apiKey = some false) ∧
          final.shared.started.all (fun updates => updates.get .apiKey ≠ some false) ∧
          final.shared.returned.any (fun updates => updates.get .apiKey ≠ none)) = true := by decide +kernel
  obtain ⟨final, played, ended⟩ := (Option.any_eq_true _ _).mp plays
  obtain ⟨kept, others, returned⟩ := of_decide_eq_true ended
  obtain ⟨document, holds, lost⟩ := noneLost _ none 2 final (Events.reaches_play played)
  obtain ⟨updates, member, touched⟩ := List.any_eq_true.mp returned
  obtain ⟨other, started, -, same⟩ := lost.updated updates member .apiKey (of_decide_eq_true touched)
  have reverted : document.get .apiKey = some false := by
    rw [holds] at kept
    exact of_decide_eq_true kept
  have different := of_decide_eq_true (List.all_eq_true.mp others other started)
  exact different (same.symm.trans reverted)

end Wqm1.Storage.ConfigUpdates
