import Wqm1.Library.Table
import Mathlib.Data.String.Basic

/-! The buffer of readings in the database, and the answer of the cloud to an upload. -/

set_option autoImplicit false

namespace Wqm1.Storage

open Wqm1.Library

inductive SyncState where
  | pending | synced | failedPermanent
deriving DecidableEq

/-- A row of `readings`; `data` are its columns from the sensors. -/
structure Reading (Data : Type) where
  id : Nat
  timestamp : String
  data : Data
  synced : Nat := 0
  syncState : SyncState := .pending
  syncAttempts : Nat := 0
deriving DecidableEq

/-- The table of readings; `lastId` is its AUTOINCREMENT counter. -/
structure Buffer (Data : Type) where
  rows : List (Reading Data) := []
  lastId : Nat := 0

/-- What `LIMIT ?` leaves of `count` rows; a negative limit is none. -/
def sqlLimit (limit : Int) (count : Nat) : Nat :=
  if limit < 0 then count else min limit.toNat count

namespace Reading

variable {Data : Type}

def markSynced (row : Reading Data) : Reading Data :=
  { row with synced := 1, syncState := .synced }

def markFailedPermanent (row : Reading Data) : Reading Data :=
  { row with synced := 1, syncState := .failedPermanent }

def bumpSyncAttempts (row : Reading Data) : Reading Data :=
  { row with syncAttempts := row.syncAttempts + 1 }

def resolved (row : Reading Data) : Bool :=
  row.syncState = .synced || row.syncState = .failedPermanent

end Reading

namespace Buffer

variable {Data : Type} (buffer : Buffer Data)

/-- The row of a reading; without a timestamp it is stamped `now`. -/
def newReading (timestamp : Option String) (now : String) (data : Data) : Reading Data :=
  { id := buffer.lastId + 1
    timestamp := if timestamp.getD "" = "" then now else timestamp.getD ""
    data := data }

def insertReading (timestamp : Option String) (now : String) (data : Data) : Buffer Data × Nat :=
  ({ rows := buffer.rows ++ [buffer.newReading timestamp now data], lastId := buffer.lastId + 1 },
    buffer.lastId + 1)

def pendingRows : List (Reading Data) :=
  buffer.rows.filter fun row => row.syncState = .pending

def resolvedRows : List (Reading Data) :=
  buffer.rows.filter Reading.resolved

def updateMany (change : Reading Data → Reading Data) (ids : List Nat) : Buffer Data :=
  { buffer with rows := Table.updateMany Reading.id change ids buffer.rows }

def markSynced (ids : List Nat) : Buffer Data :=
  buffer.updateMany Reading.markSynced ids

def markFailedPermanent (ids : List Nat) : Buffer Data :=
  buffer.updateMany Reading.markFailedPermanent ids

def bumpSyncAttempts (ids : List Nat) : Buffer Data :=
  buffer.updateMany Reading.bumpSyncAttempts ids

def deleteRows (ids : List Nat) : Buffer Data :=
  { buffer with rows := Table.deleteMany Reading.id ids buffer.rows }

/-- What `get_unsynced` may return. -/
def Unsynced (limit : Int) (batch : List (Reading Data)) : Prop :=
  Table.Least Reading.timestamp buffer.pendingRows (sqlLimit limit buffer.pendingRows.length) batch

/-- By how many rows the buffer is over its limit; `none` when it is not. -/
def excess (maxRows : Int) : Option Nat :=
  if (buffer.rows.length : Int) ≤ maxRows then none else some (buffer.rows.length - maxRows).toNat

/-- What `rotate` may delete. -/
def Rotated (excess : Nat) (deleted : List (Reading Data)) : Prop :=
  Table.Least Reading.timestamp buffer.resolvedRows excess deleted

instance [DecidableEq Data] (limit : Int) (batch : List (Reading Data)) : Decidable (buffer.Unsynced limit batch) :=
  inferInstanceAs (Decidable (Table.Least ..))

instance [DecidableEq Data] (excess : Nat) (deleted : List (Reading Data)) : Decidable (buffer.Rotated excess deleted) :=
  inferInstanceAs (Decidable (Table.Least ..))

end Buffer

/-- One entry of `results`; an entry that is no object has none of the fields. `error` is
the truth of its error. -/
structure IngestResult where
  index : Option Int
  status : Option String := none
  error : Bool := false

/-- How the upload of a batch ends: without an answer by an exception, with a status other
than 200 (0 for a failed transport), or with 200 and the list at `results`. -/
inductive IngestResponse where
  | raised
  | status (code : Int)
  | ok (results : Option (List IngestResult))

namespace IngestResult

variable {Data : Type}

/-- The entry says what became of a row. -/
def resolves (entry : IngestResult) : Bool :=
  entry.status = some "stored" || entry.error

/-- `rows[idx]["id"]`, for an index in range. -/
def rowId (batch : List (Reading Data)) (entry : IngestResult) : Option Nat :=
  entry.index.bind fun index =>
    if 0 ≤ index ∧ index < batch.length then batch[index.toNat]?.map Reading.id else none

end IngestResult

/-- The list of results that names every row by its index. -/
def indexed : Option (List IngestResult) → Option (List IngestResult)
  | none => none
  | some results =>
    if 0 < results.length ∧ results.all fun entry => entry.index.isSome then some results else none

def storedIds {Data : Type} (batch : List (Reading Data)) (results : List IngestResult) : List Nat :=
  (results.filter fun entry => entry.status = some "stored").filterMap (IngestResult.rowId batch)

def failedIds {Data : Type} (batch : List (Reading Data)) (results : List IngestResult) : List Nat :=
  (results.filter fun entry => entry.status ≠ some "stored" && entry.error).filterMap (IngestResult.rowId batch)

end Wqm1.Storage
