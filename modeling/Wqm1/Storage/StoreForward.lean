import Wqm1.Storage.Buffer
import Wqm1.Library.Events

/-! Store and forward: readings come in, batches are uploaded, and the rows that the cloud
has answered are rotated out. -/

set_option autoImplicit false

namespace Wqm1.Storage

open Wqm1.Library

/-- The upload under way: a batch is sent, or its stored rows are marked and the rejected
ones are still to be. -/
inductive Upload (Data : Type) where
  | idle
  | sent (batch : List (Reading Data))
  | marking (failed : List Nat)

/-- The buffer, the upload and the rotation under way. `inserted` and `answered` are for
the statements only: the rows as they were inserted, and the ids of the rows whose index
in a batch the cloud answered. -/
structure StoreForward (Data : Type) where
  buffer : Buffer Data := {}
  upload : Upload Data := .idle
  rotation : Option Nat := none
  inserted : List (Reading Data) := []
  answered : List Nat := []

inductive StorageEvent (Data : Type) where
  | insert (timestamp : Option String) (now : String) (data : Data)
  | send (limit : Int) (batch : List (Reading Data))
  | answer (response : IngestResponse)
  | mark
  | countRows (maxRows : Int)
  | rotate (deleted : List (Reading Data))
  | restart

/-- The rows of a batch for which the answer has an entry with their index. -/
def answeredIds {Data : Type} (batch : List (Reading Data)) (results : List IngestResult) : List Nat :=
  (batch.zipIdx.filter fun indexed => results.any fun entry =>
    entry.index = some (indexed.2 : Int) && entry.resolves).map fun indexed => indexed.1.id

namespace StoreForward

variable {Data : Type} (state : StoreForward Data)

def insert (timestamp : Option String) (now : String) (data : Data) : StoreForward Data :=
  { state with
    buffer := (state.buffer.insertReading timestamp now data).1
    inserted := state.inserted ++ [state.buffer.newReading timestamp now data] }

/-- The answer to the batch; rows that it does not name stay pending. -/
def answer (batch : List (Reading Data)) : IngestResponse → StoreForward Data
  | .raised => { state with upload := .idle }
  | .status _ =>
    { state with buffer := state.buffer.bumpSyncAttempts (batch.map Reading.id), upload := .idle }
  | .ok results =>
    match indexed results with
    | none =>
      { state with buffer := state.buffer.markSynced (batch.map Reading.id), upload := .idle }
    | some results =>
      { state with
        buffer := state.buffer.markSynced (storedIds batch results)
        upload := .marking (failedIds batch results)
        answered := state.answered ++ answeredIds batch results }

def delete (deleted : List (Reading Data)) : StoreForward Data :=
  { state with buffer := state.buffer.deleteRows (deleted.map Reading.id), rotation := none }

/-- One commit of the database, or the kill of the process. -/
def step [DecidableEq Data] (state : StoreForward Data) : StorageEvent Data → Option (StoreForward Data)
  | .insert timestamp now data => some (state.insert timestamp now data)
  | .send limit batch =>
    match state.upload with
    | .idle =>
      if state.buffer.Unsynced limit batch then
        some (if batch = [] then state else { state with upload := .sent batch })
      else none
    | _ => none
  | .answer response =>
    match state.upload with
    | .sent batch => some (state.answer batch response)
    | _ => none
  | .mark =>
    match state.upload with
    | .marking failed =>
      some { state with buffer := state.buffer.markFailedPermanent failed, upload := .idle }
    | _ => none
  | .countRows maxRows =>
    match state.rotation with
    | none => some { state with rotation := state.buffer.excess maxRows }
    | some _ => none
  | .rotate deleted =>
    match state.rotation with
    | some excess =>
      if state.buffer.Rotated excess deleted then some (state.delete deleted) else none
    | none => none
  | .restart => some { state with upload := .idle, rotation := none }

/-- A 200 carries a list that names its rows, and the list is not empty. -/
def namesRows (_ : StoreForward Data) : StorageEvent Data → Prop
  | .answer (.ok results) => (indexed results).isSome = true
  | _ => True

/-- The row of a reading that waits for the cloud. -/
def Waits (buffer : Buffer Data) (reading : Reading Data) : Prop :=
  ∃ row ∈ buffer.rows, row.id = reading.id ∧ row.timestamp = reading.timestamp ∧ row.data = reading.data ∧
    row.syncState = .pending

/-- What every step keeps. -/
structure Kept (state : StoreForward Data) : Prop where
  distinct : (state.buffer.rows.map Reading.id).Nodup
  counted : ∀ row ∈ state.buffer.rows, row.id ≤ state.buffer.lastId
  waits : ∀ reading ∈ state.inserted, reading.id ∉ state.answered → Waits state.buffer reading
  flag : ∀ row ∈ state.buffer.rows, row.synced = 0 ↔ row.syncState = .pending
  asked : ∀ failed, state.upload = .marking failed → ∀ id ∈ failed, id ∈ state.answered

variable {state}

/-- The position of an entry's row in the batch is the one the entry names. -/
theorem mem_answeredIds {batch : List (Reading Data)} {results : List IngestResult} {entry : IngestResult}
    {id : Nat} (listed : entry ∈ results) (resolves : entry.resolves = true) (named : entry.rowId batch = some id) :
    id ∈ answeredIds batch results := by
  obtain ⟨index, indexed, inside⟩ := Option.bind_eq_some_iff.mp named
  split at inside
  next range =>
    obtain ⟨row, found, rfl⟩ := Option.map_eq_some_iff.mp inside
    refine List.mem_map.mpr ⟨(row, index.toNat), List.mem_filter.mpr ⟨?_, ?_⟩, rfl⟩
    · exact List.mk_mem_zipIdx_iff_getElem?.mpr found
    · refine List.any_eq_true.mpr ⟨entry, listed, ?_⟩
      rw [resolves, Bool.and_true, decide_eq_true_eq, indexed, Int.toNat_of_nonneg range.1]
  next => cases inside

theorem storedIds_answered {batch : List (Reading Data)} {results : List IngestResult} {id : Nat}
    (stored : id ∈ storedIds batch results) : id ∈ answeredIds batch results := by
  obtain ⟨entry, kept, named⟩ := List.mem_filterMap.mp stored
  obtain ⟨listed, status⟩ := List.mem_filter.mp kept
  exact mem_answeredIds listed (by rw [IngestResult.resolves, status, Bool.true_or]) named

theorem failedIds_answered {batch : List (Reading Data)} {results : List IngestResult} {id : Nat}
    (failed : id ∈ failedIds batch results) : id ∈ answeredIds batch results := by
  obtain ⟨entry, kept, named⟩ := List.mem_filterMap.mp failed
  obtain ⟨listed, status⟩ := List.mem_filter.mp kept
  rw [Bool.and_eq_true] at status
  exact mem_answeredIds listed (by rw [IngestResult.resolves, status.2, Bool.or_true]) named

section

variable {change : Reading Data → Reading Data}

/-- A change of rows that touches their flags only. -/
structure Marks (change : Reading Data → Reading Data) : Prop where
  id : ∀ row, (change row).id = row.id
  timestamp : ∀ row, (change row).timestamp = row.timestamp
  data : ∀ row, (change row).data = row.data
  flag : ∀ row : Reading Data, (row.synced = 0 ↔ row.syncState = .pending) →
    ((change row).synced = 0 ↔ (change row).syncState = .pending)

theorem marks_markSynced : Marks (@Reading.markSynced Data) where
  id _ := rfl
  timestamp _ := rfl
  data _ := rfl
  flag _ _ := by simp [Reading.markSynced]

theorem marks_markFailedPermanent : Marks (@Reading.markFailedPermanent Data) where
  id _ := rfl
  timestamp _ := rfl
  data _ := rfl
  flag _ _ := by simp [Reading.markFailedPermanent]

theorem marks_bumpSyncAttempts : Marks (@Reading.bumpSyncAttempts Data) where
  id _ := rfl
  timestamp _ := rfl
  data _ := rfl
  flag _ same := same

theorem Marks.iterate (marks : Marks change) (times : Nat) : Marks change^[times] := by
  induction times with
  | zero => exact ⟨fun _ => rfl, fun _ => rfl, fun _ => rfl, fun _ same => same⟩
  | succ times ih =>
    constructor
    · intro row
      rw [Function.iterate_succ_apply, ih.id, marks.id]
    · intro row
      rw [Function.iterate_succ_apply, ih.timestamp, marks.timestamp]
    · intro row
      rw [Function.iterate_succ_apply, ih.data, marks.data]
    · intro row same
      rw [Function.iterate_succ_apply]
      exact ih.flag _ (marks.flag row same)

/-- A pending row that an update does not resolve waits on. -/
theorem Waits.updateMany {buffer : Buffer Data} {reading : Reading Data} (waits : Waits buffer reading)
    (marks : Marks change) {ids : List Nat}
    (spared : reading.id ∉ ids ∨ ∀ row, (change row).syncState = row.syncState) :
    Waits (buffer.updateMany change ids) reading := by
  obtain ⟨row, present, id, timestamp, data, pending⟩ := waits
  have changed := marks.iterate (ids.count row.id)
  refine ⟨change^[ids.count row.id] row, ?_, (changed.id row).trans id, (changed.timestamp row).trans timestamp,
    (changed.data row).trans data, ?_⟩
  · unfold Buffer.updateMany
    dsimp only
    rw [Table.updateMany_eq marks.id]
    exact List.mem_map_of_mem present
  · cases spared with
    | inl unlisted =>
      rw [List.count_eq_zero_of_not_mem (id ▸ unlisted)]
      exact pending
    | inr keeps =>
      have same (times : Nat) : (change^[times] row).syncState = row.syncState := by
        induction times with
        | zero => rfl
        | succ times ih => rw [Function.iterate_succ_apply', keeps, ih]
      exact (same _).trans pending

/-- An update of the rows of some ids, all of them answered or none of them resolved. -/
theorem Kept.updateMany (kept : Kept state) (marks : Marks change) (ids answered : List Nat)
    (spared : (∀ id ∈ ids, id ∈ state.answered ++ answered) ∨ ∀ row, (change row).syncState = row.syncState)
    (upload : Upload Data) (asked : ∀ failed, upload = .marking failed → ∀ id ∈ failed, id ∈ state.answered ++ answered) :
    Kept { state with
      buffer := state.buffer.updateMany change ids, upload := upload, answered := state.answered ++ answered } where
  distinct := by
    have same := Table.updateMany_keys marks.id ids state.buffer.rows
    exact same.symm ▸ kept.distinct
  counted := by
    intro row present
    have listed : row.id ∈ state.buffer.rows.map Reading.id :=
      Table.updateMany_keys marks.id ids state.buffer.rows ▸ List.mem_map_of_mem present
    obtain ⟨earlier, before, same⟩ := List.mem_map.mp listed
    exact same ▸ kept.counted earlier before
  waits := by
    intro reading inserted unanswered
    have before := kept.waits reading inserted fun answered => unanswered (List.mem_append_left _ answered)
    apply before.updateMany marks
    cases spared with
    | inl listed => exact .inl fun id => unanswered (listed _ id)
    | inr keeps => exact .inr keeps
  flag := by
    intro row present
    unfold Buffer.updateMany at present
    dsimp only at present
    rw [Table.updateMany_eq marks.id] at present
    obtain ⟨earlier, before, rfl⟩ := List.mem_map.mp present
    exact (marks.iterate _).flag earlier (kept.flag earlier before)
  asked := asked

theorem Kept.insert (kept : Kept state) (timestamp : Option String) (now : String) (data : Data) :
    Kept (state.insert timestamp now data) where
  distinct := by
    unfold StoreForward.insert Buffer.insertReading
    dsimp only
    rw [List.map_append, List.nodup_append]
    refine ⟨kept.distinct, List.nodup_singleton _, ?_⟩
    intro earlier before fresh here same
    obtain ⟨row, present, rfl⟩ := List.mem_map.mp before
    have counted := kept.counted row present
    have new : fresh = state.buffer.lastId + 1 := List.mem_singleton.mp here
    omega
  counted := by
    intro row present
    cases List.mem_append.mp present with
    | inl before => exact Nat.le_trans (kept.counted row before) (Nat.le_succ _)
    | inr fresh =>
      cases List.mem_singleton.mp fresh
      exact Nat.le_refl _
  waits := by
    intro reading inserted unanswered
    cases List.mem_append.mp inserted with
    | inl before =>
      obtain ⟨row, present, same⟩ := kept.waits reading before unanswered
      exact ⟨row, List.mem_append_left _ present, same⟩
    | inr fresh =>
      cases List.mem_singleton.mp fresh
      exact ⟨_, List.mem_append_right _ (List.mem_singleton_self _), rfl, rfl, rfl, rfl⟩
  flag := by
    intro row present
    cases List.mem_append.mp present with
    | inl before => exact kept.flag row before
    | inr fresh =>
      cases List.mem_singleton.mp fresh
      exact ⟨fun _ => rfl, fun _ => rfl⟩
  asked := kept.asked

/-- Rows of readings that wait are not among those that a rotation deletes. -/
theorem Kept.delete (kept : Kept state) {deleted : List (Reading Data)}
    (resolved : ∀ row ∈ deleted, row ∈ state.buffer.resolvedRows) : Kept (state.delete deleted) where
  distinct := (List.filter_sublist.map Reading.id).nodup kept.distinct
  counted row present := kept.counted row (Table.mem_deleteMany.mp present).1
  waits := by
    intro reading inserted unanswered
    obtain ⟨row, present, id, same⟩ := kept.waits reading inserted unanswered
    refine ⟨row, Table.mem_deleteMany.mpr ⟨present, ?_⟩, id, same⟩
    intro listed
    obtain ⟨gone, taken, equal⟩ := List.mem_map.mp listed
    obtain ⟨member, done⟩ := List.mem_filter.mp (resolved gone taken)
    cases List.inj_on_of_nodup_map kept.distinct member present equal
    have pending := same.2.2
    simp [Reading.resolved, pending] at done
  flag row present := kept.flag row (Table.mem_deleteMany.mp present).1
  asked := kept.asked

end

theorem Kept.answer (kept : Kept state) (batch : List (Reading Data)) {response : IngestResponse}
    (named : namesRows state (.answer response)) : Kept (state.answer batch response) := by
  have idle : ∀ failed, (.idle : Upload Data) = .marking failed → ∀ id ∈ failed, id ∈ state.answered ++ [] := by
    intro failed same
    cases same
  cases response with
  | raised => exact ⟨kept.distinct, kept.counted, kept.waits, kept.flag, fun failed same => by cases same⟩
  | status code =>
    have bumped := kept.updateMany marks_bumpSyncAttempts (batch.map Reading.id) [] (.inr fun _ => rfl) .idle idle
    rwa [List.append_nil] at bumped
  | ok results =>
    unfold StoreForward.answer
    dsimp only
    cases list : indexed results with
    | none =>
      unfold namesRows at named
      dsimp only at named
      rw [list] at named
      cases named
    | some entries =>
      refine kept.updateMany marks_markSynced _ _ (.inl fun id stored => ?_) _ fun failed same id asked => ?_
      · exact List.mem_append_right _ (storedIds_answered stored)
      · cases same
        exact List.mem_append_right _ (failedIds_answered asked)

variable [DecidableEq Data]

theorem Kept.step {after : StoreForward Data} {event : StorageEvent Data} (kept : Kept state)
    (named : namesRows state event) (stepped : state.step event = some after) : Kept after := by
  cases event with
  | insert timestamp now data =>
    cases stepped
    exact kept.insert timestamp now data
  | send limit batch =>
    unfold StoreForward.step at stepped
    dsimp only at stepped
    split at stepped
    next =>
      split at stepped
      next =>
        cases stepped
        split
        next => exact kept
        next => exact ⟨kept.distinct, kept.counted, kept.waits, kept.flag, fun failed same => by cases same⟩
      next => cases stepped
    next => cases stepped
  | answer response =>
    unfold StoreForward.step at stepped
    dsimp only at stepped
    split at stepped
    next batch sent =>
      cases stepped
      exact kept.answer batch named
    next => cases stepped
  | mark =>
    unfold StoreForward.step at stepped
    dsimp only at stepped
    split at stepped
    next failed marking =>
      cases stepped
      have marked := kept.updateMany marks_markFailedPermanent failed []
        (.inl fun id listed => List.mem_append_left _ (kept.asked failed marking id listed))
        .idle (fun failed same => by cases same)
      rwa [List.append_nil] at marked
    next => cases stepped
  | countRows maxRows =>
    unfold StoreForward.step at stepped
    dsimp only at stepped
    split at stepped
    next =>
      cases stepped
      exact ⟨kept.distinct, kept.counted, kept.waits, kept.flag, kept.asked⟩
    next => cases stepped
  | rotate deleted =>
    unfold StoreForward.step at stepped
    dsimp only at stepped
    split at stepped
    next =>
      split at stepped
      next oldest =>
        cases stepped
        exact kept.delete oldest.subset
      next => cases stepped
    next => cases stepped
  | restart =>
    cases stepped
    exact ⟨kept.distinct, kept.counted, kept.waits, kept.flag, fun failed same => by cases same⟩

/-- A rotation deletes the rows that it selects and no others. -/
theorem Kept.rotates {after : StoreForward Data} {excess : Nat} {deleted : List (Reading Data)} (kept : Kept state)
    (rotation : state.rotation = some excess) (stepped : state.step (.rotate deleted) = some after) :
    state.buffer.Rotated excess deleted ∧ deleted.length = min excess state.buffer.resolvedRows.length ∧
      after.buffer.rows = (state.buffer.rows.filter fun row => row ∉ deleted) ∧
      after.buffer.rows.length + deleted.length = state.buffer.rows.length := by
  unfold StoreForward.step at stepped
  dsimp only at stepped
  rw [rotation] at stepped
  dsimp only at stepped
  split at stepped
  next oldest =>
    cases stepped
    have present (row : Reading Data) (listed : row ∈ deleted) : row ∈ state.buffer.rows :=
      List.mem_of_mem_filter (oldest.subset row listed)
    have left := Table.deleteMany_eq kept.distinct present
    have rows : (state.delete deleted).buffer.rows = state.buffer.rows.filter fun row => row ∉ deleted := left
    refine ⟨oldest, oldest.count, rows, ?_⟩
    rw [rows]
    exact Table.length_filter_notMem (List.Nodup.of_map _ kept.distinct) oldest.nodup present
  next => cases stepped

/-- A rotation that found too many rows can go on. -/
theorem Kept.rotation_goes_on {excess : Nat} (kept : Kept state) (rotation : state.rotation = some excess) :
    ∃ deleted after, state.step (.rotate deleted) = some after := by
  have distinct : state.buffer.resolvedRows.Nodup := (List.Nodup.of_map _ kept.distinct).filter _
  obtain ⟨deleted, oldest⟩ := Table.exists_least Reading.timestamp distinct excess
  have rotated : state.buffer.Rotated excess deleted := oldest
  refine ⟨deleted, state.delete deleted, ?_⟩
  unfold StoreForward.step
  dsimp only
  rw [rotation]
  dsimp only
  rw [if_pos rotated]

theorem kept_of_reaches (run : Events.Reaches step namesRows ({} : StoreForward Data) state) : Kept state := by
  apply run.invariant
  · constructor
    · exact List.nodup_nil
    · exact fun _ present => absurd present List.not_mem_nil
    · exact fun _ inserted => absurd inserted List.not_mem_nil
    · exact fun _ present => absurd present List.not_mem_nil
    · exact fun _ same => by cases same
  · intro before event after _ named stepped kept
    exact kept.step named stepped

/-- In a run whose 200 answers all carry a list that names its rows and is not empty, a
reading waits in the buffer until the cloud answered its index in a batch, and is deleted
only after that; the flag of a row agrees with its state; a rotation deletes exactly the
oldest resolved rows. -/
theorem store_forward (run : Events.Reaches step namesRows ({} : StoreForward Data) state) :
    (∀ reading ∈ state.inserted, reading.id ∉ state.answered → Waits state.buffer reading) ∧
    (∀ reading ∈ state.inserted, (∀ row ∈ state.buffer.rows, row.id ≠ reading.id) → reading.id ∈ state.answered) ∧
    (∀ row ∈ state.buffer.rows, row.synced = 0 ↔ row.syncState = .pending) ∧
    ∀ excess, state.rotation = some excess →
      (∃ deleted after, state.step (.rotate deleted) = some after) ∧
      ∀ deleted after, state.step (.rotate deleted) = some after →
        state.buffer.Rotated excess deleted ∧ deleted.length = min excess state.buffer.resolvedRows.length ∧
        after.buffer.rows = (state.buffer.rows.filter fun row => row ∉ deleted) ∧
        after.buffer.rows.length + deleted.length = state.buffer.rows.length := by
  have kept := kept_of_reaches run
  refine ⟨kept.waits, fun reading inserted absent => ?_, kept.flag,
    fun _ rotation => ⟨kept.rotation_goes_on rotation, fun _ _ => kept.rotates rotation⟩⟩
  by_contra unanswered
  obtain ⟨row, present, same, _⟩ := kept.waits reading inserted unanswered
  exact absent row present same

instance (state : StoreForward Data) (event : StorageEvent Data) : Decidable (namesRows state event) := by
  unfold namesRows
  split <;> infer_instance

/-- The rows of two readings, of which the cloud stores the older one. -/
theorem store_forward_pair :
    ∃ state : StoreForward Unit, Waits state.buffer ⟨2, "2026-01-01T00:00:10Z", (), 0, .pending, 0⟩ ∧
      state.answered = [1] ∧ state.buffer.rows.length = 1 := by
  let older : Reading Unit := ⟨1, "2026-01-01T00:00:00Z", (), 0, .pending, 0⟩
  let newer : Reading Unit := ⟨2, "2026-01-01T00:00:10Z", (), 0, .pending, 0⟩
  have played : ((Events.play step namesRows ({} : StoreForward Unit)
      [.insert (some older.timestamp) "" (), .insert (some newer.timestamp) "" (), .send 50 [older, newer],
        .answer (.ok (some [⟨some 0, some "stored", false⟩, ⟨some 7, none, true⟩])), .countRows 1, .mark,
        .rotate [older.markSynced]]).map fun state =>
          (state.inserted, state.answered, state.buffer.rows.length)) = some ([older, newer], [1], 1) := by
    decide +kernel
  obtain ⟨state, run, seen⟩ := Option.map_eq_some_iff.mp played
  simp only [Prod.mk.injEq] at seen
  obtain ⟨inserted, answered, rows⟩ := seen
  have forwarded := store_forward (Events.reaches_play run)
  refine ⟨state, forwarded.1 newer ?_ ?_, answered, rows⟩
  · rw [inserted]
    exact List.mem_cons_of_mem _ (List.mem_singleton_self _)
  · rw [answered]
    decide

/-- A 200 carries a list whose entries all have an index. -/
def allIndexed (_ : StoreForward Data) : StorageEvent Data → Prop
  | .answer (.ok none) => False
  | .answer (.ok (some results)) => ∀ entry ∈ results, entry.index.isSome = true
  | _ => True

instance (state : StoreForward Data) (event : StorageEvent Data) : Decidable (allIndexed state event) := by
  unfold allIndexed
  split <;> infer_instance

/-- An empty list of results resolves the whole batch. -/
theorem empty_results_resolve :
    ¬ ∀ state : StoreForward Unit, Events.Reaches step allIndexed {} state →
      ∀ reading ∈ state.inserted, reading.id ∉ state.answered → Waits state.buffer reading := by
  intro claimed
  let reading : Reading Unit := ⟨1, "2026-01-01T00:00:00Z", (), 0, .pending, 0⟩
  have played : ((Events.play step allIndexed ({} : StoreForward Unit)
      [.insert (some reading.timestamp) "" (), .send 50 [reading], .answer (.ok (some []))]).map fun state =>
        (state.inserted, state.answered, state.buffer.rows)) = some ([reading], [], [reading.markSynced]) := by
    decide +kernel
  obtain ⟨state, run, seen⟩ := Option.map_eq_some_iff.mp played
  simp only [Prod.mk.injEq] at seen
  obtain ⟨inserted, answered, rows⟩ := seen
  have waits := claimed state (Events.reaches_play run) reading (inserted ▸ List.mem_singleton_self _)
    (answered ▸ List.not_mem_nil)
  obtain ⟨row, present, _, _, _, pending⟩ := waits
  rw [rows] at present
  cases List.mem_singleton.mp present
  cases pending

end StoreForward

end Wqm1.Storage
