import Mathlib.Data.List.Infix
import Mathlib.Logic.Function.Basic

/-! A tree of files with symbolic and hard links: how a path is resolved, and the calls of
the system that change the tree. Permissions and failures of the device are left out. -/

set_option autoImplicit false

namespace Wqm1.Library

/-- Where an object is: the names of the directories down to it, and its own. -/
abbrev Place := List String

/-- What a name in a directory stands for. A link holds its target by the components of
the text; the text of an absolute path begins with an empty component. -/
inductive FileEntry where
  | directory (inode : Nat)
  | file (inode : Nat)
  | link (inode : Nat) (target : List String)
deriving DecidableEq

namespace FileEntry

def inode : FileEntry → Nat
  | directory inode => inode
  | file inode => inode
  | link inode _ => inode

def isDirectory : FileEntry → Bool
  | directory _ => true
  | _ => false

end FileEntry

inductive Errno where
  | noEntry | present | notDirectory | isDirectory | notPermitted | loop
deriving DecidableEq

/-- The entries by place, and the objects behind them by inode. -/
structure FileTree (Content Attributes : Type) where
  entry : Place → Option FileEntry
  content : Nat → Content
  attributes : Nat → Attributes
  next : Nat

namespace FileTree

variable {Content Attributes : Type} (tree : FileTree Content Attributes)

/-- Where the components of a link's target begin. -/
def origin (here : Place) : List String → Place
  | "" :: _ :: _ => []
  | _ => here

/-- Follow components from a directory. `last` tells whether a link at the end is
followed; a missing name at the end is no failure. -/
def walk (follow : Place → List String → Except Errno Place) (last : Bool) (here : Place) :
    List String → Except Errno Place
  | [] => .ok here
  | component :: rest =>
    if component = "" ∨ component = "." then walk follow last here rest
    else if component = ".." then walk follow last here.dropLast rest
    else
      match tree.entry (here ++ [component]) with
      | none => if rest = [] then .ok (here ++ [component]) else .error .noEntry
      | some (.directory _) => walk follow last (here ++ [component]) rest
      | some (.file _) => if rest = [] then .ok (here ++ [component]) else .error .notDirectory
      | some (.link _ target) =>
        if rest = [] ∧ last = false then .ok (here ++ [component])
        else follow (origin here target) (target ++ rest)

/-- `walk` with at most so many links followed. -/
def resolve (last : Bool) : Nat → Place → List String → Except Errno Place
  | 0 => tree.walk (fun _ _ => .error .loop) last
  | links + 1 => tree.walk (resolve last links) last

def maxLinks : Nat := 40

def lookup (last : Bool) (here : Place) (path : List String) : Except Errno Place :=
  tree.resolve last maxLinks here path

/-- The entry a path leads to. -/
def find (last : Bool) (here : Place) (path : List String) : Except Errno (Place × FileEntry) :=
  match tree.lookup last here path with
  | .error errno => .error errno
  | .ok place =>
    match tree.entry place with
    | none => .error .noEntry
    | some entry => .ok (place, entry)

/-- `os.path.exists`, or `os.path.lexists` when the last link is not followed. -/
def pathExists (last : Bool) (here : Place) (path : List String) : Bool :=
  (tree.find last here path).toOption.isSome

/-- A new object under a name. -/
def add (place : Place) (make : Nat → FileEntry) (attributes : Attributes) : FileTree Content Attributes :=
  { tree with
    entry := Function.update tree.entry place (some (make tree.next))
    attributes := Function.update tree.attributes tree.next attributes
    next := tree.next + 1 }

/-- A call that makes a new name: what it puts there, if nothing is there. -/
def create (here : Place) (path : List String) (put : Place → FileTree Content Attributes) :
    Except Errno (FileTree Content Attributes) :=
  match tree.lookup false here path with
  | .error errno => .error errno
  | .ok place => if (tree.entry place).isSome then .error .present else .ok (put place)

def mkdir (here : Place) (path : List String) (attributes : Attributes) : Except Errno (FileTree Content Attributes) :=
  tree.create here path fun place => tree.add place .directory attributes

def symlink (target : List String) (here : Place) (path : List String) (attributes : Attributes) :
    Except Errno (FileTree Content Attributes) :=
  if target = [""] then .error .noEntry
  else tree.create here path fun place => tree.add place (.link · target) attributes

/-- `link(2)`, which does not follow a link at the end of the source. -/
def link (source : List String) (here : Place) (path : List String) : Except Errno (FileTree Content Attributes) :=
  match tree.find false here source with
  | .error errno => .error errno
  | .ok (_, entry) =>
    if entry.isDirectory then .error .notPermitted
    else tree.create here path fun place => { tree with entry := Function.update tree.entry place (some entry) }

def unlink (here : Place) (path : List String) : Except Errno (FileTree Content Attributes) :=
  match tree.find false here path with
  | .error errno => .error errno
  | .ok (place, entry) =>
    if entry.isDirectory then .error .isDirectory
    else .ok { tree with entry := Function.update tree.entry place none }

/-- `open(path, "wb")` and all that is written. -/
def writeFile (here : Place) (path : List String) (content : Content) (attributes : Attributes) :
    Except Errno (FileTree Content Attributes) :=
  match tree.lookup true here path with
  | .error errno => .error errno
  | .ok place =>
    match tree.entry place with
    | none =>
      let made := tree.add place .file attributes
      .ok { made with content := Function.update made.content tree.next content }
    | some (.file inode) => .ok { tree with content := Function.update tree.content inode content }
    | some (.directory _) => .error .isDirectory
    | some (.link _ _) => .error .loop

/-- `chown`, `chmod` and `utime`. -/
def setAttributes (last : Bool) (here : Place) (path : List String) (change : Attributes → Attributes) :
    Except Errno (FileTree Content Attributes) :=
  match tree.find last here path with
  | .error errno => .error errno
  | .ok (_, entry) =>
    .ok { tree with
      attributes := Function.update tree.attributes entry.inode (change (tree.attributes entry.inode)) }

section

variable {tree : FileTree Content Attributes} {last : Bool} {follow : Place → List String → Except Errno Place}

theorem walk_ne_present (followed : ∀ here path, follow here path ≠ .error .present) (here : Place) (path : List String) :
    tree.walk follow last here path ≠ .error .present := by
  induction path generalizing here with
  | nil => simp [walk]
  | cons component rest ih =>
    unfold walk
    split
    · exact ih here
    · split
      · exact ih here.dropLast
      · split
        · split <;> simp
        · exact ih _
        · split <;> simp
        · split
          · simp
          · exact followed _ _

/-- A lookup alone never finds that something is there already. -/
theorem lookup_ne_present (here : Place) (path : List String) : tree.lookup last here path ≠ .error .present := by
  unfold lookup
  generalize maxLinks = count
  induction count generalizing here path with
  | zero => exact walk_ne_present (fun _ _ => by simp) here path
  | succ count ih => exact walk_ne_present ih here path

theorem pathExists_of_lookup {here place : Place} {path : List String}
    (reached : tree.lookup last here path = .ok place) : tree.pathExists last here path = (tree.entry place).isSome := by
  unfold pathExists find
  rw [reached]
  cases entry : tree.entry place <;> simp [entry, Except.toOption]

theorem unlink_of_lookup {here place : Place} {path : List String} {entry : FileEntry}
    (reached : tree.lookup false here path = .ok place) (present : tree.entry place = some entry)
    (plain : entry.isDirectory = false) :
    tree.unlink here path = .ok { tree with entry := Function.update tree.entry place none } := by
  simp [unlink, find, reached, present, plain]

theorem symlink_of_lookup {here place : Place} {path target : List String} {attributes : Attributes}
    (reached : tree.lookup false here path = .ok place) (free : tree.entry place = none) (named : target ≠ [""]) :
    tree.symlink target here path attributes = .ok (tree.add place (.link · target) attributes) := by
  simp [symlink, create, reached, free, named]

end

end FileTree

end Wqm1.Library
