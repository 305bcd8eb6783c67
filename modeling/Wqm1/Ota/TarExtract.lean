import Mathlib.Data.List.DropRight
import Mathlib.Data.List.Sort
import Wqm1.Library.Action
import Wqm1.Library.FileTree
import Wqm1.Ota.Paths

/-! The tar-slip guard of an update's bundle, and the extraction of the bundle where
`tarfile` has no filters yet. -/

set_option autoImplicit false

namespace Wqm1.Ota

open Wqm1.Library

inductive MemberKind where
  | regular (content : List UInt8)
  | directory
  | symlink (linkname : String)
  | hardlink (linkname : String)
deriving DecidableEq

structure Member where
  name : String
  kind : MemberKind
  owner : Nat := 0
  mode : Nat := 0o644
  mtime : Nat := 0
deriving DecidableEq

namespace Member

variable (member : Member)

def isSymlink : Bool :=
  match member.kind with
  | .symlink _ => true
  | _ => false

def isDirectory : Bool :=
  member.kind = .directory

end Member

/-- `os.path.dirname`, by its components. -/
def dirname (text : String) : List String := (splitPath text).dropLast

def normStep (done : List String) (component : String) : List String :=
  if component = "" ∨ component = "." then done
  else if component ≠ ".." ∨ done = [] ∨ done.getLast? = some ".." then done ++ [component]
  else done.dropLast

/-- `os.path.normpath` of a relative path. -/
def normpath (components : List String) : List String := components.foldl normStep []

/-- `text.startswith(("/", "\\"))`. -/
def slashFirst (text : String) : Bool :=
  text.toList.head? = some '/' || text.toList.head? = some '\\'

/-- `resolved == ".." or resolved.startswith(("../", "..\\"))`. -/
def escapes (resolved : List String) : Bool :=
  resolved.head?.any fun first => first = ".." || "..\\".toList.isPrefixOf first.toList

namespace Member

variable (member : Member)

def linkOffence (base : List String) (link : String) : Option String :=
  if slashFirst link then
    some ("absolute link target: " ++ member.name ++ " -> " ++ link)
  else if escapes (normpath (base ++ splitPath link)) then
    some ("link escapes archive: " ++ member.name ++ " -> " ++ link)
  else none

def offence : Option String :=
  if slashFirst member.name || member.name.toList[1]? = some ':' then
    some ("absolute path in archive: " ++ member.name)
  else if ".." ∈ splitPath member.name then
    some ("path traversal in archive: " ++ member.name)
  else
    match member.kind with
    | .symlink link => member.linkOffence (dirname member.name) link
    | .hardlink link => member.linkOffence [] link
    | _ => none

end Member

def validateTarMembers (archive : List Member) : Option String :=
  archive.findSome? Member.offence

structure FileAttributes where
  owner : Nat
  mode : Nat
  mtime : Nat
deriving DecidableEq

abbrev Disk := FileTree (List UInt8) FileAttributes

inductive Raised where
  | osError (errno : Errno)
  | attributeError
  | keyError
  | extractError (text : String)
  | recursionError
deriving DecidableEq

/-- `symlink_exception` of `tarfile`. -/
def Raised.isSymlinkException : Raised → Bool
  | osError _ => true
  | attributeError => true
  | _ => false

abbrev Extraction (Value : Type) := Action Disk Raised Value

/-- `except FileExistsError: pass`. -/
def exceptPresent (action : Extraction Unit) : Extraction Unit :=
  tryCatch action fun raised => if raised = .osError .present then pure () else throw raised

/-- `if condition: action`. -/
def doIf (condition : Bool) (action : Extraction Unit) : Extraction Unit :=
  if condition then action else pure ()

/-- Where the staging directory is, the attributes that the system gives what the process
makes, and how deep `_extract_member` may call itself. -/
structure Unpacker where
  staging : Place
  fresh : FileAttributes
  recursionLimit : Nat

namespace Unpacker

variable (unpacker : Unpacker)

def ask (change : Disk → Except Errno Disk) : Extraction Unit :=
  Action.call change .osError

def present (last : Bool) (path : List String) : Extraction Bool :=
  Action.view fun disk => disk.pathExists last unpacker.staging path

/-- `os.makedirs`; the last component comes first. -/
def makedirs : List String → Extraction Unit
  | [] => pure ()
  | tail :: head =>
    if tail = "" then makedirs head
    else do
      let found ← unpacker.present true head.reverse
      doIf (!found) (exceptPresent (makedirs head))
      doIf (tail ≠ ".") (ask fun disk => disk.mkdir unpacker.staging (tail :: head).reverse unpacker.fresh)

/-- The directories above a member's place; those above the staging directory are there. -/
def makeUpper (path : List String) : Extraction Unit := do
  let found ← unpacker.present true path.dropLast
  doIf (!found) (unpacker.makedirs path.dropLast.reverse)

def setAttributes (last : Bool) (path : List String) (failed : String)
    (change : FileAttributes → FileAttributes) : Extraction Unit :=
  Action.call (fun disk => disk.setAttributes last unpacker.staging path change) fun _ => .extractError failed

def chown (member : Member) (path : List String) : Extraction Unit :=
  unpacker.setAttributes (!member.isSymlink) path "could not change owner" fun attributes =>
    { attributes with owner := member.owner }

def chmod (member : Member) (path : List String) : Extraction Unit :=
  unpacker.setAttributes true path "could not change mode" fun attributes => { attributes with mode := member.mode }

def utime (member : Member) (path : List String) : Extraction Unit :=
  unpacker.setAttributes true path "could not change modification time" fun attributes =>
    { attributes with mtime := member.mtime }

def makefile (content : List UInt8) (path : List String) : Extraction Unit :=
  ask fun disk => disk.writeFile unpacker.staging path content unpacker.fresh

def makedir (path : List String) : Extraction Unit :=
  exceptPresent (ask fun disk => disk.mkdir unpacker.staging path { unpacker.fresh with mode := 0o700 })

def replaceLink (link : String) (path : List String) : Extraction Unit := do
  let found ← unpacker.present false path
  doIf found (ask fun disk => disk.unlink unpacker.staging path)
  ask fun disk => disk.symlink (splitPath link) unpacker.staging path unpacker.fresh

/-- `aimed` tells whether the member has its `_link_target`. -/
def hardLink (aimed : Bool) (link : String) (path : List String) (copy : Extraction Unit) : Extraction Unit :=
  if aimed then do
    let found ← unpacker.present true (splitPath link)
    if found then ask fun disk => disk.link (splitPath link) unpacker.staging path else copy
  else throw .attributeError

/-- What a link member becomes where the link cannot be made. -/
def copyInstead (copy : Extraction Unit) (raised : Raised) : Extraction Unit :=
  if raised.isSymlinkException then
    tryCatch copy fun missing =>
      throw (if missing = .keyError then .extractError "unable to resolve link inside archive" else missing)
  else throw raised

def setAttrs (member : Member) (path : List String) : Extraction Unit := do
  unpacker.chown member path
  doIf (!member.isSymlink) do
    unpacker.chmod member path
    unpacker.utime member path

/-- The name under which the member that a link names is searched. -/
def wanted (member : Member) : List String :=
  match member.kind with
  | .symlink link => normpath (dirname member.name ++ splitPath link)
  | .hardlink link => normpath (splitPath link)
  | _ => []

/-- `_find_link_target`, with the member's position. -/
def findLinkTarget (archive : List Member) (member : Member) (position : Nat) : Option (Member × Nat) :=
  let searched := if member.isSymlink then archive else archive.take position
  searched.zipIdx.reverse.find? fun found => normpath (splitPath found.1.name) = wanted member

/-- What a member becomes at a path, while the member at `turn` is extracted: a hard link
further on has no `_link_target` yet. -/
def makeMember (turn : Nat) (member : Member) (position : Nat) (path : List String) (copy : Extraction Unit) :
    Extraction Unit :=
  match member.kind with
  | .regular content => unpacker.makefile content path
  | .directory => unpacker.makedir path
  | .symlink link => tryCatch (unpacker.replaceLink link path) (copyInstead copy)
  | .hardlink link => tryCatch (unpacker.hardLink (position ≤ turn) link path copy) (copyInstead copy)

/-- The extraction of the member that a link names, if there is one. -/
def copyFound (found : Option (Member × Nat)) (extracts : Member → Nat → Extraction Unit) : Extraction Unit :=
  match found with
  | none => throw .keyError
  | some (member, position) => extracts member position

/-- `_extract_member`. -/
def extractMember (archive : List Member) (turn : Nat) :
    Nat → Member → Nat → List String → Bool → Extraction Unit
  | 0, _, _, _, _ => throw .recursionError
  | depth + 1, member, position, path, attrs => do
    unpacker.makeUpper path
    unpacker.makeMember turn member position path
      (copyFound (findLinkTarget archive member position) fun found place =>
        extractMember archive turn depth found place path true)
    doIf attrs (unpacker.setAttrs member path)

/-- An `ExtractError` is only logged. -/
def logged (action : Extraction Unit) : Extraction Unit :=
  tryCatch action fun
    | .extractError _ => pure ()
    | raised => throw raised

/-- `targetpath.rstrip("/")`. -/
def targetPath (member : Member) : List String :=
  (splitPath member.name).rdropWhile (· = "")

def extract (archive : List Member) (member : Member) (position : Nat) : Extraction Unit :=
  logged (unpacker.extractMember archive position unpacker.recursionLimit member position (targetPath member)
    !member.isDirectory)

def extractEach (archive : List Member) : List (Member × Nat) → Extraction Unit
  | [] => pure ()
  | (member, position) :: rest => do
    unpacker.extract archive member position
    extractEach archive rest

/-- The directories from the last name to the first. -/
def directories (archive : List Member) : List Member :=
  ((archive.filter Member.isDirectory).insertionSort fun earlier later => ¬ later.name < earlier.name).reverse

def fixDirectories : List Member → Extraction Unit
  | [] => pure ()
  | member :: rest => do
    logged do
      unpacker.chown member (splitPath member.name)
      unpacker.utime member (splitPath member.name)
      unpacker.chmod member (splitPath member.name)
    fixDirectories rest

/-- `extractall(staging)`. -/
def extractall (archive : List Member) : Extraction Unit := do
  unpacker.extractEach archive archive.zipIdx
  unpacker.fixDirectories (directories archive)

end Unpacker

end Wqm1.Ota
