import Wqm1.Library.Bytes
import Mathlib.Logic.Function.Basic

/-! A file and its temporary file on a disk that can lose power: the names lead to inodes,
and what was not synced may be lost. -/

set_option autoImplicit false

namespace Wqm1.Library

/-- The inodes that the name of the file and the name of its temporary file lead to. -/
structure Directory where
  dest : Option Nat
  tmp : Option Nat
deriving DecidableEq

def Directory.links (directory : Directory) (inode : Nat) : Bool :=
  directory.dest = some inode || directory.tmp = some inode

/-- `content` is what processes read, `synced` tells which of it is on the medium, and
`durable` has the directories that a loss of power may leave. -/
structure Disk where
  content : Nat → Bytes
  synced : Nat → Bool
  fresh : Nat
  directory : Directory
  durable : List Directory

/-- `data` written over `content` from `position` on; a gap is filled with zeros. -/
def writeAt (content : Bytes) (position : Nat) (data : Bytes) : Bytes :=
  content.take position ++ List.replicate (position - content.length) 0 ++ data ++
    content.drop (position + data.length)

theorem take_length_take {α : Type} (count : Nat) (list : List α) :
    list.take (list.take count).length = list.take count := by
  rw [List.length_take, List.take_eq_take_iff]
  omega

/-- Writing the next piece of a text after the pieces before it. -/
theorem writeAt_take {data : Bytes} {position : Nat} (count : Nat) (within : position ≤ data.length) :
    writeAt (data.take position) position ((data.drop position).take count) =
      data.take (position + ((data.drop position).take count).length) := by
  have length : (data.take position).length = position := List.length_take_of_le within
  have gap : position - (data.take position).length = 0 := by omega
  have rest : (data.take position).drop (position + ((data.drop position).take count).length) = [] :=
    List.drop_eq_nil_of_le (by omega)
  unfold writeAt
  rw [rest, gap, List.take_take, Nat.min_self, List.take_add, take_length_take]
  simp only [List.replicate_zero, List.append_nil]

namespace Disk

variable {disk : Disk}

def enter (disk : Disk) (directory : Directory) : Disk :=
  { disk with directory := directory, durable := disk.durable ++ [directory] }

def setContent (disk : Disk) (inode : Nat) (bytes : Bytes) : Disk :=
  { disk with
    content := Function.update disk.content inode bytes
    synced := Function.update disk.synced inode false }

theorem content_setContent_of_ne {inode other : Nat} (bytes : Bytes) (different : other ≠ inode) :
    (disk.setContent inode bytes).content other = disk.content other := Function.update_of_ne different ..

theorem synced_setContent_of_ne {inode other : Nat} (bytes : Bytes) (different : other ≠ inode) :
    (disk.setContent inode bytes).synced other = disk.synced other := Function.update_of_ne different ..

/-- `open(tmp, "wb")`: the inode that is there is emptied, or else a new one is made. -/
def openTmp (disk : Disk) : Nat × Disk :=
  match disk.directory.tmp with
  | some inode => (inode, disk.setContent inode [])
  | none =>
    (disk.fresh, { (disk.setContent disk.fresh []).enter { disk.directory with tmp := some disk.fresh } with
      fresh := disk.fresh + 1 })

def write (disk : Disk) (inode position : Nat) (data : Bytes) : Disk :=
  disk.setContent inode (writeAt (disk.content inode) position data)

/-- `fsync` of a file: its bytes are on the medium, and so is the name it goes by. -/
def fsync (disk : Disk) (inode : Nat) : Disk :=
  { disk with
    synced := Function.update disk.synced inode true
    durable := if disk.directory.links inode then disk.durable.filter (·.links inode) else disk.durable }

/-- `os.replace(tmp, dest)`; `none` where there is no temporary file. -/
def replace (disk : Disk) : Option Disk :=
  disk.directory.tmp.map fun inode => disk.enter ⟨some inode, none⟩

def unlinkTmp (disk : Disk) : Disk :=
  if disk.directory.tmp.isSome then disk.enter { disk.directory with tmp := none } else disk

def fsyncDirectory (disk : Disk) : Disk := { disk with durable := [disk.directory] }

/-- What is left after a loss of power: one of the directories that may be left, and
anything, `torn`, in the files that were not synced. -/
def powerCut (disk : Disk) (left : Directory) (torn : Nat → Bytes) : Option Disk :=
  if left ∈ disk.durable then
    some { disk with
      content := fun inode => if disk.synced inode then disk.content inode else torn inode
      synced := fun _ => true
      directory := left
      durable := [left] }
  else none

/-- What the file's name leads to. -/
def read (disk : Disk) : Option Bytes := disk.directory.dest.map disk.content

theorem current_enter (directory : Directory) : directory ∈ (disk.enter directory).durable :=
  List.mem_append_right _ (List.mem_singleton.mpr rfl)

/-- Entering a directory adds only it to what a crash may leave. -/
theorem mem_durable_enter {directory left : Directory} (possible : left ∈ (disk.enter directory).durable) :
    left ∈ disk.durable ∨ left = directory := by
  simpa only [enter, List.mem_append, List.mem_singleton] using possible

theorem mem_durable_fsync {inode : Nat} {directory : Directory}
    (left : directory ∈ (disk.fsync inode).durable) : directory ∈ disk.durable := by
  simp only [fsync] at left
  split at left
  · exact List.mem_of_mem_filter left
  · exact left

theorem current_fsync {inode : Nat} (current : disk.directory ∈ disk.durable) :
    disk.directory ∈ (disk.fsync inode).durable := by
  simp only [fsync]
  split
  next links => exact List.mem_filter.mpr ⟨current, links⟩
  next => exact current

/-- What `open(tmp, "wb")` does. -/
structure Opened (disk : Disk) (inode : Nat) (after : Disk) : Prop where
  empty : after.content inode = []
  unsynced : after.synced inode = false
  others : ∀ other, other ≠ inode → after.content other = disk.content other ∧
    after.synced other = disk.synced other
  directory : after.directory = { disk.directory with tmp := some inode }
  durable : ∀ left ∈ after.durable, left ∈ disk.durable ∨ left = after.directory
  current : disk.directory ∈ disk.durable → after.directory ∈ after.durable
  origin : disk.directory.tmp = some inode ∧ after.fresh = disk.fresh ∨
    disk.directory.tmp = none ∧ inode = disk.fresh ∧ after.fresh = disk.fresh + 1

theorem opened_openTmp (disk : Disk) : Opened disk disk.openTmp.1 disk.openTmp.2 := by
  unfold openTmp
  cases there : disk.directory.tmp with
  | some inode =>
    have same : ({ disk.directory with tmp := some inode } : Directory) = disk.directory := by rw [← there]
    exact {
      empty := Function.update_self ..
      unsynced := Function.update_self ..
      others := fun other different =>
        ⟨content_setContent_of_ne [] different, synced_setContent_of_ne [] different⟩
      directory := same.symm
      durable := fun left member => .inl member
      current := fun member => member
      origin := .inl ⟨there, rfl⟩ }
  | none =>
    exact {
      empty := Function.update_self ..
      unsynced := Function.update_self ..
      others := fun other different =>
        ⟨content_setContent_of_ne [] different, synced_setContent_of_ne [] different⟩
      directory := rfl
      durable := fun left member => by
        rcases List.mem_append.mp member with earlier | now
        · exact .inl earlier
        · exact .inr (List.mem_singleton.mp now)
      current := fun _ => List.mem_append_right _ (List.mem_singleton.mpr rfl)
      origin := .inr ⟨there, rfl, rfl⟩ }

end Disk

end Wqm1.Library
