import Wqm1.Library.Prog
import Mathlib.Logic.Function.Basic

/-! The migration of a database of an older version, and its crashes. -/

set_option autoImplicit false

namespace Wqm1.Storage

open Wqm1.Library

inductive SqlValue where
  | null
  | integer (value : Int)
  | real (value : Rat)
  | text (value : String)
  | blob (bytes : List UInt8)
deriving DecidableEq

abbrev Row := String → SqlValue

structure SqlTable where
  columns : List String
  rows : List Row

inductive TableName where
  | readings | lorawanSession
deriving DecidableEq

/-- The tables that exist, and the number at `schema_version` in `meta`. -/
structure Database where
  readings : Option SqlTable
  lorawanSession : Option SqlTable
  schemaVersion : Option Nat

/-- A new column with the value that the existing rows get. -/
abbrev NewColumn := String × SqlValue

def SqlTable.addColumn (table : SqlTable) (column : NewColumn) : SqlTable where
  columns := table.columns ++ [column.1]
  rows := table.rows.map fun row => Function.update row column.1 column.2

namespace Database

def table (db : Database) : TableName → Option SqlTable
  | .readings => db.readings
  | .lorawanSession => db.lorawanSession

def alter (db : Database) (name : TableName) (change : SqlTable → SqlTable) : Database :=
  match name with
  | .readings => { db with readings := db.readings.map change }
  | .lorawanSession => { db with lorawanSession := db.lorawanSession.map change }

def addColumn (db : Database) (name : TableName) (column : NewColumn) : Database :=
  db.alter name fun table => table.addColumn column

/-- `PRAGMA table_info`. -/
def columns (db : Database) (name : TableName) : List String :=
  ((db.table name).map SqlTable.columns).getD []

/-- The version that `_migrate` starts from. -/
def current (db : Database) : Nat :=
  db.schemaVersion.getD 1

end Database

/-- The migration to one version: the columns that it adds to a table where they are
missing, and what it then does to every row. -/
structure Block where
  version : Nat
  table : TableName
  columns : List NewColumn
  backfill : Row → Row := id

def backfillSyncState (row : Row) : Row :=
  Function.update row "sync_state" (.text (if row "synced" = .integer 1 then "synced" else "pending"))

/-- The state of a row comes from its legacy flag. -/
def syncStateBlock : Block where
  version := 2
  table := .readings
  columns := [("sync_state", .text "pending"), ("sync_attempts", .integer 0)]
  backfill := backfillSyncState

def laterBlocks : List Block :=
  [{ version := 3, table := .readings
     columns := [("chlorine_mgl", .null), ("conductivity_uscm", .null), ("salinity_ppt", .null)] },
   { version := 4, table := .readings, columns := [("sensor_status", .null)] },
   { version := 5, table := .lorawanSession, columns := [("mac_params", .null)] },
   { version := 6, table := .readings, columns := [("flow_total_gal", .null), ("flow_rate_gpm", .null)] },
   { version := 7, table := .readings, columns := [("clock_source", .null)] }]

def blocks : List Block := syncStateBlock :: laterBlocks

def schemaVersion : Nat := 7

/-- `_SCHEMA`: the columns of a new table. -/
def readingsColumns : List String :=
  ["id", "timestamp", "ph", "tds_ppm", "turbidity_ntu", "orp_mv", "temp_c", "chlorine_mgl", "conductivity_uscm",
    "salinity_ppt", "flow_total_gal", "flow_rate_gpm", "lat", "lon", "alt_m", "battery_v", "relay_state", "synced",
    "sync_state", "sync_attempts", "sensor_status", "clock_source"]

def sessionColumns : List String :=
  ["id", "dev_addr", "nwk_skey", "app_skey", "fcnt_up", "fcnt_down", "joined", "updated_at", "mac_params"]

/-- The defaults of `INSERT OR IGNORE INTO lorawan_session (id) VALUES (1)`. -/
def sessionRow (now : String) (column : String) : SqlValue :=
  if column = "id" then .integer 1
  else if column = "fcnt_up" ∨ column = "fcnt_down" ∨ column = "joined" then .integer 0
  else if column = "updated_at" then .text now
  else .null

def SqlTable.insertSession (now : String) (table : SqlTable) : SqlTable :=
  if table.rows.any fun row => row "id" = .integer 1 then table
  else { table with rows := table.rows ++ [sessionRow now] }

/-- The update of the rows and the stamp, one transaction. -/
def Block.finish (block : Block) (db : Database) : Database :=
  { db.alter block.table (fun table => { table with rows := table.rows.map block.backfill }) with
    schemaVersion := some block.version }

/-- What becomes durable at once. An `ALTER TABLE` outside a transaction is one of its own. -/
inductive Commit where
  | createReadings
  | createSession
  | insertSession
  | addColumn (table : TableName) (column : NewColumn)
  | finish (block : Block)

/-- `CURRENT_TIMESTAMP` is read where a session is inserted. -/
def Commit.Answer : Commit → Type
  | insertSession => String
  | _ => Unit

def Commit.perform : (commit : Commit) → commit.Answer → Database → Database
  | createReadings, _, db => { db with readings := some (db.readings.getD ⟨readingsColumns, []⟩) }
  | createSession, _, db => { db with lorawanSession := some (db.lorawanSession.getD ⟨sessionColumns, []⟩) }
  | insertSession, now, db => db.alter .lorawanSession (SqlTable.insertSession now)
  | addColumn table column, _, db => db.addColumn table column
  | finish block, _, db => block.finish db

/-- The disk; `completed` says that the last opening of the database ran to its end. -/
structure Store where
  db : Database
  completed : Bool := false

abbrev OpenProg := Prog Store Commit.Answer

def addColumns (table : TableName) : List NewColumn → OpenProg Unit
  | [] => pure ()
  | column :: rest => do
      let _ ← Prog.invoke (.addColumn table column)
      addColumns table rest

def Block.missing (block : Block) (columns : List String) : List NewColumn :=
  block.columns.filter fun column => column.1 ∉ columns

def migrate : Nat → List Block → OpenProg Unit
  | _, [] => pure ()
  | current, block :: rest =>
      if current < block.version then do
        let columns ← Prog.inspect fun store => store.db.columns block.table
        addColumns block.table (block.missing columns)
        let _ ← Prog.invoke (.finish block)
        migrate block.version rest
      else migrate current rest

/-- `WQM1Database.__init__`. -/
def openDatabase : OpenProg Unit := do
  Prog.update fun store => ({ store with completed := false }, ())
  let _ ← Prog.invoke .createReadings
  let _ ← Prog.invoke .createSession
  let _ ← Prog.invoke .insertSession
  let current ← Prog.inspect fun store => store.db.current
  migrate current blocks
  Prog.update fun store => ({ store with completed := true }, ())

/-- The database is opened again and again. A commit that raises did not happen, and the
process may be killed before each. -/
def opening : System Store Commit.Answer Unit Empty where
  program _ := openDatabase
  starts _ _ := true
  perform commit answer store :=
    match answer with
    | none => store
    | some answer => { store with db := commit.perform answer store.db }
  answers _ _ _ := true
  effect effect _ := effect.elim
  permits effect _ := effect.elim
  restart store := store
  crashes _ := true

/-- An uninterrupted migration, as a function. -/
def Block.run (block : Block) (db : Database) : Database :=
  if db.current < block.version then
    block.finish ((block.missing (db.columns block.table)).foldl (fun db column => db.addColumn block.table column) db)
  else db

def migrated (db : Database) : Database :=
  blocks.foldl (fun db block => block.run db) db

/-- A database of some version: it has the tables with the columns of that version, and
the session. Version 1 has no stamp. -/
structure AtVersion (version : Nat) (db : Database) : Prop where
  range : 1 ≤ version ∧ version ≤ schemaVersion
  stamp : db.current = version
  readings : ∃ table, db.readings = some table ∧ "synced" ∈ table.columns
  session : ∃ table, db.lorawanSession = some table ∧ ∃ row ∈ table.rows, row "id" = .integer 1
  columns : ∀ block ∈ blocks, block.version ≤ version → ∀ column ∈ block.columns,
    column.1 ∈ db.columns block.table

section

variable {db : Database} {block : Block}

@[simp] theorem table_alter (db : Database) (name other : TableName)
    (change : SqlTable → SqlTable) :
    (db.alter name change).table other = if name = other then (db.table other).map change else db.table other := by
  cases name <;> cases other <;> rfl

@[simp] theorem current_alter (db : Database) (name : TableName) (change : SqlTable → SqlTable) :
    (db.alter name change).current = db.current := by
  cases name <;> rfl

@[simp] theorem table_finish (block : Block) (db : Database) (other : TableName) :
    (block.finish db).table other = (db.alter block.table fun table =>
      { table with rows := table.rows.map block.backfill }).table other := by
  unfold Block.finish
  cases block.table <;> cases other <;> rfl

@[simp] theorem current_finish (block : Block) (db : Database) : (block.finish db).current = block.version := rfl

/-- A database that has been opened. -/
structure Ready (db : Database) : Prop where
  readings : (db.table .readings).isSome = true
  session : ∃ table, db.table .lorawanSession = some table ∧
    ∃ row ∈ table.rows, row "id" = .integer 1

theorem Ready.isSome (ready : Ready db) (name : TableName) : (db.table name).isSome = true := by
  cases name with
  | readings => exact ready.readings
  | lorawanSession =>
    obtain ⟨table, found, _⟩ := ready.session
    rw [found]
    rfl

/-- A change of a table's rows that keeps the ids keeps a database ready. -/
theorem Ready.alter (ready : Ready db) (name : TableName) (change : SqlTable → SqlTable)
    (keeps : ∀ table, (∃ row ∈ table.rows, row "id" = .integer 1) →
      ∃ row ∈ (change table).rows, row "id" = .integer 1) : Ready (db.alter name change) where
  readings := by
    rw [table_alter]
    split
    next => rw [Option.isSome_map]; exact ready.readings
    next => exact ready.readings
  session := by
    obtain ⟨table, found, row⟩ := ready.session
    rw [table_alter, found]
    split
    next => exact ⟨change table, rfl, keeps table row⟩
    next => exact ⟨table, rfl, row⟩

theorem columns_addColumn (ready : Ready db) (name : TableName) (column : NewColumn) :
    (db.addColumn name column).columns name = db.columns name ++ [column.1] := by
  obtain ⟨table, found⟩ := Option.isSome_iff_exists.mp (ready.isSome name)
  unfold Database.columns Database.addColumn
  rw [table_alter, if_pos rfl, found]
  rfl

/-- The columns of a block have names of their own, and none touches the ids. -/
structure Block.WellFormed (block : Block) : Prop where
  names : (block.columns.map Prod.fst).Nodup
  ids : ∀ column ∈ block.columns, column.1 ≠ "id"
  backfill : ∀ row, block.backfill row "id" = row "id"

theorem blocks_wellFormed : ∀ block ∈ blocks, block.WellFormed := by
  intro block listed
  simp only [blocks, laterBlocks, List.mem_cons, List.not_mem_nil, or_false] at listed
  rcases listed with rfl | rfl | rfl | rfl | rfl | rfl <;>
    exact ⟨by decide, by decide, fun _ => rfl⟩

theorem blocks_ordered : blocks.Pairwise fun earlier later => earlier.version < later.version := by
  decide

theorem Ready.addColumn (ready : Ready db) (name : TableName) {column : NewColumn}
    (id : column.1 ≠ "id") :
    Ready (db.addColumn name column) := by
  apply ready.alter
  intro table session
  obtain ⟨row, listed, one⟩ := session
  exact ⟨_, List.mem_map_of_mem listed, (Function.update_of_ne id.symm ..).trans one⟩

theorem Ready.finish (ready : Ready db) (wellFormed : block.WellFormed) :
    Ready (block.finish db) := by
  have altered :=
    ready.alter block.table (fun table => { table with rows := table.rows.map block.backfill })
    fun table session => by
      obtain ⟨row, listed, one⟩ := session
      exact ⟨_, List.mem_map_of_mem listed, (wellFormed.backfill row).trans one⟩
  exact ⟨table_finish block db _ ▸ altered.readings, table_finish block db _ ▸ altered.session⟩

/-- A database with some columns added. -/
def Database.addColumns (db : Database) (name : TableName) (columns : List NewColumn) : Database :=
  columns.foldl (fun db column => db.addColumn name column) db

theorem Ready.addColumns (ready : Ready db) (name : TableName) {columns : List NewColumn}
    (ids : ∀ column ∈ columns, column.1 ≠ "id") :
    Ready (db.addColumns name columns) ∧ (db.addColumns name columns).current = db.current ∧
      (db.addColumns name columns).columns name = db.columns name ++ columns.map Prod.fst := by
  induction columns generalizing db with
  | nil => exact ⟨ready, rfl, (List.append_nil _).symm⟩
  | cons column rest ih =>
    have added := ready.addColumn name (ids column List.mem_cons_self)
    obtain ⟨kept, current, columns⟩ :=
      ih added fun other listed => ids other (List.mem_cons_of_mem _ listed)
    refine ⟨kept, current.trans (current_alter ..), columns.trans ?_⟩
    rw [columns_addColumn ready, List.append_assoc, List.map_cons, List.singleton_append]

/-- What a crash left missing is what comes after the columns that were added. -/
theorem missing_resumes (wellFormed : block.WellFormed) {columns : List String}
    {added left : List NewColumn}
    (missing : block.missing columns = added ++ left) :
    block.missing (columns ++ added.map Prod.fst) = left := by
  have names : ((added ++ left).map Prod.fst).Nodup := by
    rw [← missing]
    exact (List.filter_sublist.map Prod.fst).nodup wellFormed.names
  rw [List.map_append, List.nodup_append] at names
  have again : block.missing (columns ++ added.map Prod.fst) =
      (block.missing columns).filter fun column => column.1 ∉ added.map Prod.fst := by
    unfold Block.missing
    rw [List.filter_filter]
    apply List.filter_congr
    intro column _
    rw [← Bool.decide_and, decide_eq_decide, List.mem_append, not_or, and_comm]
  have gone : (added.filter fun column => column.1 ∉ added.map Prod.fst) = [] := by
    rw [List.filter_eq_nil_iff]
    intro column listed
    simpa using ⟨column.2, listed⟩
  have stays : (left.filter fun column => column.1 ∉ added.map Prod.fst) = left := by
    rw [List.filter_eq_self]
    intro column listed
    rw [decide_eq_true_eq]
    exact fun twice => names.2.2 _ twice _ (List.mem_map_of_mem listed) rfl
  rw [again, missing, List.filter_append, gone, stays, List.nil_append]

/-- A block does the same from every database that its crashes leave. -/
theorem run_resumes (ready : Ready db) (wellFormed : block.WellFormed)
    (due : db.current < block.version)
    {added left : List NewColumn}
      (missing : block.missing (db.columns block.table) = added ++ left) :
    block.run (db.addColumns block.table added) = block.run db := by
  have ids : ∀ column ∈ added, column.1 ≠ "id" := by
    intro column listed
    have member : column ∈ block.missing (db.columns block.table) :=
      missing ▸ List.mem_append_left _ listed
    exact wellFormed.ids column (List.mem_filter.mp member).1
  obtain ⟨_, current, columns⟩ := ready.addColumns block.table ids
  unfold Block.run
  rw [current, if_pos due, if_pos due, columns, missing_resumes wellFormed missing, missing, List.foldl_append]
  rfl

theorem run_finishes (due : db.current < block.version) {columns : List NewColumn}
    (missing : block.missing (db.columns block.table) = columns) :
    block.finish (db.addColumns block.table columns) = block.run db := by
  unfold Block.run
  rw [if_pos due, missing]
  rfl

/-- The blocks of the versions that a database has are skipped. -/
theorem foldl_run_skips {done : List Block} (old : ∀ block ∈ done, block.version ≤ db.current) :
    done.foldl (fun db block => block.run db) db = db := by
  induction done with
  | nil => rfl
  | cons block rest ih =>
    have skipped : block.run db = db := if_neg (Nat.not_lt.mpr (old block List.mem_cons_self))
    rw [List.foldl_cons, skipped]
    exact ih fun other listed => old other (List.mem_cons_of_mem _ listed)

theorem migrated_skips {done rest : List Block} (split : blocks = done ++ rest)
    (old : ∀ block ∈ done, block.version ≤ db.current) :
    migrated db = rest.foldl (fun db block => block.run db) db := by
  unfold migrated
  rw [split, List.foldl_append, foldl_run_skips old]

end

/-- The database can be migrated on to the result of the original. -/
structure Resumes (original : Database) (store : Store) : Prop where
  ready : Ready store.db
  same : migrated store.db = migrated original
  completed : store.completed = true → store.db = migrated original

section

open Prog

variable {original : Database} {store : Store}

theorem safe_commit {commit : Commit} {after : Option commit.Answer → Store → Prop}
    (now : Resumes original store) (raised : after none store)
    (done : ∀ answer, after (some answer) { store with db := commit.perform answer store.db }) :
    (Prog.invoke commit : OpenProg commit.Answer).Safe opening (Resumes original) after store := by
  refine safe_invoke commit (fun memory => memory = store) rfl (fun effect => effect.elim) ?_ ?_
  · rintro memory rfl
    exact now
  · rintro memory answer rfl _
    cases answer with
    | none => exact raised
    | some answer => exact done answer

/-- The end of a part of the opening that goes on with this database. -/
def GoesOn (db : Database) : Unit → Store → Prop :=
  fun _ store => store = ⟨db, false⟩

variable {db : Database} {block : Block} {done rest : List Block}

theorem safe_addColumns (split : blocks = done ++ block :: rest) (ready : Ready db)
    (old : ∀ block ∈ done, block.version ≤ db.current) (due : db.current < block.version)
    (same : migrated db = migrated original) (added left : List NewColumn)
    (missing : block.missing (db.columns block.table) = added ++ left) :
    (addColumns block.table left).Safe opening (Resumes original)
      (ends (GoesOn (db.addColumns block.table (added ++ left))) (Resumes original))
      ⟨db.addColumns block.table added, false⟩ := by
  induction left generalizing added with
  | nil =>
    rw [List.append_nil]
    exact rfl
  | cons column rest ih =>
    have wellFormed := blocks_wellFormed block (split ▸ List.mem_append_right _ List.mem_cons_self)
    have ids : ∀ column ∈ added, column.1 ≠ "id" := by
      intro column listed
      have member : column ∈ block.missing (db.columns block.table) :=
        missing ▸ List.mem_append_left _ listed
      exact wellFormed.ids column (List.mem_filter.mp member).1
    obtain ⟨kept, current, _⟩ := ready.addColumns block.table ids
    have resumes : Resumes original ⟨db.addColumns block.table added, false⟩ := by
      refine ⟨kept, ?_, fun completed => by cases completed⟩
      rw [← same, migrated_skips split old, migrated_skips split (current.symm ▸ old), List.foldl_cons,
        List.foldl_cons, run_resumes ready wellFormed due missing]
    have grown : db.addColumns block.table (added ++ [column]) =
        (db.addColumns block.table added).addColumn block.table column := by
      unfold Database.addColumns
      rw [List.foldl_append, List.foldl_cons, List.foldl_nil]
    refine Safe.bind (GoesOn (db.addColumns block.table (added ++ [column]))) ?_ ?_
    · exact safe_commit resumes resumes fun _ => congrArg (Store.mk · false) grown.symm
    · rintro _ _ rfl
      have further :=
        ih (added ++ [column]) (by rw [missing, List.append_assoc, List.singleton_append])
      rwa [List.append_assoc, List.singleton_append] at further

/-- The migration from where it is leads to the result of the original. -/
theorem safe_migrate (split : blocks = done ++ rest) (ready : Ready db)
    (old : ∀ block ∈ done, block.version ≤ db.current) (same : migrated db = migrated original) :
    (migrate db.current rest).Safe opening (Resumes original)
      (ends (fun _ store => Resumes original { store with completed := true }) (Resumes original)) ⟨db, false⟩ := by
  induction rest generalizing db done with
  | nil =>
    have finished : db = migrated original := by
      rw [← same, migrated_skips split old]
      rfl
    exact ⟨ready, same, fun _ => finished⟩
  | cons block rest ih =>
    have next : blocks =
        (done ++ [block]) ++ rest := by rw [split, List.append_assoc, List.singleton_append]
    have wellFormed := blocks_wellFormed block (split ▸ List.mem_append_right _ List.mem_cons_self)
    unfold migrate
    split
    next due =>
      refine Safe.inspectThen ?_
      have added := safe_addColumns split ready old due same [] _ rfl
      refine Safe.bind
        (GoesOn (db.addColumns block.table (block.missing (db.columns block.table)))) added ?_
      rintro _ _ rfl
      have ids : ∀ column ∈ block.missing (db.columns block.table), column.1 ≠ "id" :=
        fun column listed => wellFormed.ids column (List.mem_filter.mp listed).1
      obtain ⟨kept, current, _⟩ := ready.addColumns block.table ids
      have run := run_resumes ready wellFormed due (List.append_nil (block.missing (db.columns block.table))).symm
      have resumes : Resumes original ⟨db.addColumns block.table (block.missing (db.columns block.table)), false⟩ := by
        refine ⟨kept, ?_, fun completed => by cases completed⟩
        rw [← same, migrated_skips split old, migrated_skips split (current.symm ▸ old), List.foldl_cons,
          List.foldl_cons, run]
      have finishes := run_finishes due rfl
      refine Safe.bind (GoesOn (block.run db)) ?_ ?_
      · exact safe_commit resumes resumes fun _ => congrArg (Store.mk · false) finishes
      · rintro _ _ rfl
        have version : (block.run db).current = block.version := by rw [← finishes, current_finish]
        have ordered := blocks_ordered
        rw [split, List.pairwise_append] at ordered
        have older : ∀ other ∈ done ++ [block], other.version ≤ (block.run db).current := by
          intro other listed
          rw [version]
          cases List.mem_append.mp listed with
          | inl before => exact Nat.le_of_lt (ordered.2.2 other before block List.mem_cons_self)
          | inr here => exact (List.mem_singleton.mp here) ▸ Nat.le_refl _
        have ran : Ready (block.run db) := finishes ▸ kept.finish wellFormed
        have still : migrated (block.run db) = migrated original := by
          rw [← same, migrated_skips split old, migrated_skips next older, List.foldl_cons]
        have further := ih next ran older still
        rwa [version] at further
    next skipped =>
      have older : ∀ other ∈ done ++ [block], other.version ≤ db.current := by
        intro other listed
        cases List.mem_append.mp listed with
        | inl before => exact old other before
        | inr here => exact (List.mem_singleton.mp here) ▸ Nat.not_lt.mp skipped
      exact ih next ready older same

/-- The schema script changes nothing in a database that has been opened. -/
theorem perform_schema (ready : Ready db) :
    Commit.perform .createReadings () db = db ∧ Commit.perform .createSession () db = db ∧
      ∀ now, Commit.perform .insertSession now db = db := by
  obtain ⟨readings, session, version⟩ := db
  obtain ⟨table, found⟩ := Option.isSome_iff_exists.mp ready.readings
  obtain ⟨second, present, row, listed, one⟩ := ready.session
  cases found
  cases present
  refine ⟨rfl, rfl, fun now => ?_⟩
  have present : (second.rows.any fun row => row "id" = .integer 1) = true :=
    List.any_eq_true.mpr ⟨row, listed, decide_eq_true one⟩
  unfold Commit.perform Database.alter SqlTable.insertSession
  dsimp only
  rw [Option.map_some, if_pos present]

theorem safe_openDatabase (resumes : Resumes original store) :
    openDatabase.Safe opening (Resumes original) (fun _ store => Resumes original store) store := by
  obtain ⟨db, completed⟩ := store
  obtain ⟨ready, same, _⟩ := resumes
  obtain ⟨readings, session, row⟩ := perform_schema ready
  have begun : Resumes original ⟨db, false⟩ := ⟨ready, same, fun completed => by cases completed⟩
  refine Safe.updateThen ?_
  refine Safe.bind (fun _ store => store = ⟨db, false⟩)
    (safe_commit begun begun fun _ => congrArg (Store.mk · false) readings) ?_
  rintro _ _ rfl
  refine Safe.bind (fun _ store => store = ⟨db, false⟩)
    (safe_commit begun begun fun _ => congrArg (Store.mk · false) session) ?_
  rintro _ _ rfl
  refine Safe.bind (fun _ store => store = ⟨db, false⟩)
    (safe_commit begun begun fun now => congrArg (Store.mk · false) (row now)) ?_
  rintro _ _ rfl
  refine Safe.inspectThen ?_
  refine Safe.bind _ (safe_migrate (List.nil_append blocks).symm ready
    (fun _ listed => absurd listed List.not_mem_nil) same) fun _ store finished => ?_
  exact finished

end

section

variable {db after : Database} {block : Block}

/-- A later table: it has the columns, and its rows are the rows with other values only in
columns that `exempt` lists or that are new. -/
structure Carries (exempt : List String) (before after : SqlTable) (change : Row → Row) : Prop where
  columns : ∀ column ∈ before.columns, column ∈ after.columns
  rows : after.rows = before.rows.map change
  values : ∀ row, ∀ column ∈ before.columns, column ∉ exempt → change row column = row column

/-- Every table goes on as a later table. -/
def Extends (exempt : TableName → List String) (before after : Database) : Prop :=
  ∀ name table, before.table name = some table →
    ∃ later change, after.table name = some later ∧ Carries (exempt name) table later change

/-- No old value is overwritten. -/
abbrev nothing (_ : TableName) : List String := []

theorem Extends.refl (exempt : TableName → List String) (db : Database) : Extends exempt db db :=
  fun _ table found => ⟨table, id, found, fun _ listed => listed, (List.map_id _).symm, fun _ _ _ _ => rfl⟩

theorem Carries.trans {exempt : List String} {first second third : SqlTable}
    {earlier later : Row → Row}
    (before : Carries exempt first second earlier) (next : Carries exempt second third later) :
    Carries exempt first third (later ∘ earlier) where
  columns column listed := next.columns column (before.columns column listed)
  rows := by rw [next.rows, before.rows, List.map_map]
  values row column listed kept :=
    (next.values _ column (before.columns column listed) kept).trans (before.values row column listed kept)

theorem Extends.trans {exempt : TableName → List String} {first second third : Database}
    (before : Extends exempt first second)
    (next : Extends exempt second third) : Extends exempt first third := by
  intro name table found
  obtain ⟨middle, earlier, present, carries⟩ := before name table found
  obtain ⟨last, later, there, goes⟩ := next name middle present
  exact ⟨last, later ∘ earlier, there, carries.trans goes⟩

theorem Extends.weaken (grown : Extends nothing db after) (exempt : TableName → List String) :
    Extends exempt db after := by
  intro name table found
  obtain ⟨later, change, present, carries⟩ := grown name table found
  exact ⟨later, change, present, carries.columns, carries.rows,
    fun row column here _ => carries.values row column here List.not_mem_nil⟩

theorem Extends.columns {exempt : TableName → List String} (grown : Extends exempt db after)
    {name : TableName} {column : String}
    (listed : column ∈ db.columns name) : column ∈ after.columns name := by
  unfold Database.columns at listed ⊢
  cases found : db.table name with
  | none =>
    rw [found] at listed
    exact absurd listed List.not_mem_nil
  | some table =>
    obtain ⟨later, change, present, carries⟩ := grown name table found
    rw [found] at listed
    rw [present]
    exact carries.columns column listed

theorem extends_addColumn (name : TableName) {column : NewColumn}
    (new : column.1 ∉ db.columns name) :
    Extends nothing db (db.addColumn name column) := by
  intro other table found
  unfold Database.addColumn
  rw [table_alter, found]
  split
  next same =>
    subst same
    refine ⟨table.addColumn column, fun row => Function.update row column.1 column.2, rfl,
      fun _ listed => List.mem_append_left _ listed, rfl, fun row old listed _ => ?_⟩
    apply Function.update_of_ne
    rintro rfl
    apply new
    unfold Database.columns
    rw [found]
    exact listed
  next => exact ⟨table, id, rfl, fun _ listed => listed, (List.map_id _).symm, fun _ _ _ _ => rfl⟩

theorem extends_addColumns (ready : Ready db) (name : TableName) {columns : List NewColumn}
    (ids : ∀ column ∈ columns, column.1 ≠ "id") (names : (columns.map Prod.fst).Nodup)
    (new : ∀ column ∈ columns, column.1 ∉ db.columns name) :
    Extends nothing db (db.addColumns name columns) := by
  induction columns generalizing db with
  | nil => exact .refl nothing db
  | cons column rest ih =>
    rw [List.map_cons, List.nodup_cons] at names
    have added := extends_addColumn name (new column List.mem_cons_self)
    refine added.trans (ih (ready.addColumn name (ids column List.mem_cons_self))
      (fun other listed => ids other (List.mem_cons_of_mem _ listed)) names.2 fun other listed => ?_)
    rw [columns_addColumn ready, List.mem_append, List.mem_singleton, not_or]
    refine ⟨new other (List.mem_cons_of_mem _ listed), fun same => names.1 ?_⟩
    exact same ▸ List.mem_map_of_mem listed

theorem extends_finish {exempt : TableName → List String}
    (keeps : ∀ row, ∀ column, column ∉ exempt block.table → block.backfill row column = row column) :
    Extends exempt db (block.finish db) := by
  intro name table found
  rw [table_finish, table_alter, found]
  split
  next same =>
    subst same
    exact ⟨_, block.backfill, rfl, fun _ listed => listed, rfl, fun row column _ => keeps row column⟩
  next => exact ⟨table, id, rfl, fun _ listed => listed, (List.map_id _).symm, fun _ _ _ _ => rfl⟩

/-- The columns that a block overwrites in old rows. -/
def Block.exempt (block : Block) (name : TableName) : List String :=
  if block.version = 2 ∧ name = .readings then ["sync_state"] else []

theorem backfill_exempt : ∀ block ∈ blocks, ∀ row, ∀ column, column ∉ block.exempt block.table →
    block.backfill row column = row column := by
  intro block listed row column kept
  simp only [blocks, laterBlocks, List.mem_cons, List.not_mem_nil, or_false] at listed
  rcases listed with rfl | rfl | rfl | rfl | rfl | rfl
  · exact Function.update_of_ne (fun same => kept (List.mem_singleton.mpr same)) ..
  all_goals rfl

theorem extends_missing (ready : Ready db) (wellFormed : block.WellFormed) :
    Extends nothing db (db.addColumns block.table (block.missing (db.columns block.table))) := by
  apply extends_addColumns ready
  · exact fun column listed => wellFormed.ids column (List.mem_filter.mp listed).1
  · exact (List.filter_sublist.map Prod.fst).nodup wellFormed.names
  · exact fun column listed => of_decide_eq_true (List.mem_filter.mp listed).2

theorem extends_run (ready : Ready db) (listed : block ∈ blocks) :
    Extends block.exempt db (block.run db) := by
  by_cases due : db.current < block.version
  · rw [← run_finishes due rfl]
    have added := extends_missing ready (blocks_wellFormed block listed)
    exact (added.weaken _).trans (extends_finish (backfill_exempt block listed))
  · rw [Block.run, if_neg due]
    exact .refl _ db

theorem Ready.run (ready : Ready db) (wellFormed : block.WellFormed) : Ready (block.run db) := by
  by_cases due : db.current < block.version
  · rw [← run_finishes due rfl]
    exact (ready.addColumns block.table fun column listed =>
      wellFormed.ids column (List.mem_filter.mp listed).1).1.finish wellFormed
  · rwa [Block.run, if_neg due]

theorem current_run (block : Block) (db : Database) :
    (block.run db).current = max db.current block.version := by
  by_cases due : db.current < block.version
  · rw [Block.run, if_pos due, current_finish]
    omega
  · rw [Block.run, if_neg due]
    omega

/-- A block that is due leaves its columns. -/
theorem columns_run (ready : Ready db) (known : block ∈ blocks) (due : db.current < block.version) :
    ∀ column ∈ block.columns, column.1 ∈ (block.run db).columns block.table := by
  intro column listed
  have ids : ∀ column ∈ block.missing (db.columns block.table), column.1 ≠ "id" :=
    fun column listed => (blocks_wellFormed block known).ids column (List.mem_filter.mp listed).1
  obtain ⟨_, _, columns⟩ := ready.addColumns block.table ids
  have there : column.1 ∈ (db.addColumns block.table (block.missing (db.columns block.table))).columns block.table := by
    rw [columns, List.mem_append]
    by_cases present : column.1 ∈ db.columns block.table
    · exact .inl present
    · exact .inr (List.mem_map_of_mem (List.mem_filter.mpr ⟨listed, decide_eq_true present⟩))
  rw [← run_finishes due rfl]
  exact (extends_finish (backfill_exempt block known)).columns there

/-- What some blocks leave of a database. -/
theorem foldl_run {part : List Block} (ready : Ready db) (known : ∀ block ∈ part, block ∈ blocks) :
    Ready (part.foldl (fun db block => block.run db) db) ∧
      (∀ name, ∀ column ∈ db.columns name, column ∈ (part.foldl (fun db block => block.run db) db).columns name) ∧
      (∀ version, db.current < version → (∀ block ∈ part, block.version < version) →
        (part.foldl (fun db block => block.run db) db).current < version) := by
  induction part generalizing db with
  | nil => exact ⟨ready, fun _ _ listed => listed, fun _ earlier _ => earlier⟩
  | cons block rest ih =>
    have here := known block List.mem_cons_self
    obtain ⟨kept, columns, current⟩ := ih (ready.run (blocks_wellFormed block here))
      fun other listed => known other (List.mem_cons_of_mem _ listed)
    refine ⟨kept, fun name column listed => columns name column ((extends_run ready here).columns listed),
      fun version earlier older => current version ?_ fun other listed => older other (List.mem_cons_of_mem _ listed)⟩
    rw [current_run]
    exact Nat.max_lt.mpr ⟨earlier, older block List.mem_cons_self⟩

theorem extends_foldl {part : List Block} (ready : Ready db)
    (known : ∀ block ∈ part, block ∈ blocks)
    (plain : ∀ block ∈ part, block.version ≠ 2) :
    Extends nothing db (part.foldl (fun db block => block.run db) db) := by
  induction part generalizing db with
  | nil => exact .refl nothing db
  | cons block rest ih =>
    have here := known block List.mem_cons_self
    have unexempt : block.exempt = nothing :=
      funext fun name => if_neg fun both => plain block List.mem_cons_self both.1
    have ran := extends_run ready here
    rw [unexempt] at ran
    exact ran.trans (ih (ready.run (blocks_wellFormed block here))
      (fun other listed => known other (List.mem_cons_of_mem _ listed))
      fun other listed => plain other (List.mem_cons_of_mem _ listed))

theorem AtVersion.ready {version : Nat} (old : AtVersion version db) : Ready db where
  readings := by
    obtain ⟨table, found, _⟩ := old.readings
    exact Option.isSome_iff_exists.mpr ⟨table, found⟩
  session := old.session

theorem current_migrated (old : db.current ≤ schemaVersion) :
    (migrated db).schemaVersion = some schemaVersion := by
  have current : (migrated db).current = schemaVersion := by
    unfold migrated blocks laterBlocks
    simp only [List.foldl_cons, List.foldl_nil, current_run, syncStateBlock]
    unfold schemaVersion at old ⊢
    omega
  cases stamp : (migrated db).schemaVersion with
  | none =>
    rw [Database.current, stamp] at current
    cases current
  | some version =>
    rw [Database.current, stamp] at current
    exact congrArg some current

theorem columns_migrated {version : Nat} (old : AtVersion version db) (listed : block ∈ blocks) :
    ∀ column ∈ block.columns, column.1 ∈ (migrated db).columns block.table := by
  intro column new
  obtain ⟨done, rest, split⟩ := List.append_of_mem listed
  have known (other : Block) (here : other ∈ done ∨ other ∈ rest) : other ∈ blocks := by
    rw [split, List.mem_append, List.mem_cons]
    exact here.imp id .inr
  have ordered := blocks_ordered
  rw [split, List.pairwise_append] at ordered
  unfold migrated
  rw [split, List.foldl_append, List.foldl_cons]
  obtain ⟨ready, columns, current⟩ := foldl_run old.ready fun other here => known other (.inl here)
  have ran := ready.run (blocks_wellFormed block listed)
  apply (foldl_run ran fun other here => known other (.inr here)).2.1
  by_cases due : version < block.version
  · apply columns_run ready listed _ column new
    exact current block.version (old.stamp.symm ▸ due) fun other here =>
      ordered.2.2 other here block List.mem_cons_self
  · apply (extends_run ready listed).columns
    exact columns _ _ (old.columns block listed (Nat.not_lt.mp due) column new)


theorem extends_laterBlocks (ready : Ready db) :
    Extends nothing db (laterBlocks.foldl (fun db block => block.run db) db) :=
  extends_foldl ready (fun _ listed => List.mem_cons_of_mem _ listed) (by decide)

theorem extends_migrated {version : Nat} (old : AtVersion version db) (backfilled : version ≠ 1) :
    Extends nothing db (migrated db) := by
  have skipped : syncStateBlock.run db = db := by
    apply if_neg
    have stamp := old.stamp
    have range := old.range
    have two : syncStateBlock.version = 2 := rfl
    omega
  unfold migrated blocks
  rw [List.foldl_cons, skipped]
  exact extends_laterBlocks old.ready

/-- The readings of a database without states. -/
theorem readings_backfilled (old : AtVersion 1 db) {table : SqlTable}
    (found : db.table .readings = some table) :
    ∃ later change, (migrated db).table .readings = some later ∧
      Carries ["sync_state"] table later change ∧
      ∀ row, change row "sync_state" =
        .text (if row "synced" = .integer 1 then "synced" else "pending") := by
  have known : syncStateBlock ∈ blocks := List.mem_cons_self
  have due : db.current < syncStateBlock.version := by
    rw [old.stamp]
    decide
  obtain ⟨middle, added, present, carries⟩ :=
    extends_missing old.ready (blocks_wellFormed _ known) .readings table found
  have finished : (syncStateBlock.run db).table .readings =
      some { middle with rows := middle.rows.map backfillSyncState } := by
    have altered := table_alter
      (db.addColumns syncStateBlock.table (syncStateBlock.missing (db.columns syncStateBlock.table)))
      .readings .readings fun table => { table with rows := table.rows.map backfillSyncState }
    rw [present] at altered
    rw [← run_finishes due rfl, table_finish]
    exact altered
  have states : "sync_state" ∈ middle.columns := by
    have there := columns_run old.ready known due ("sync_state", .text "pending") List.mem_cons_self
    unfold Database.columns at there
    have same : syncStateBlock.table = .readings := rfl
    rw [same, finished] at there
    exact there
  have flags : "synced" ∈ table.columns := by
    obtain ⟨same, readings, synced⟩ := old.readings
    cases readings.symm.trans found
    exact synced
  have rest := extends_laterBlocks (old.ready.run (blocks_wellFormed _ known)) .readings _ finished
  obtain ⟨later, change, there, goes⟩ := rest
  refine ⟨later, change ∘ backfillSyncState ∘ added, there, ⟨?_, ?_, ?_⟩, fun row => ?_⟩
  · exact fun column listed => goes.columns column (carries.columns column listed)
  · rw [goes.rows, carries.rows, List.map_map, List.map_map]
    rfl
  · intro row column listed kept
    have other : column ≠ "sync_state" := fun same => kept (List.mem_singleton.mpr same)
    have unchanged :=
      goes.values (backfillSyncState (added row)) column (carries.columns column listed)
      List.not_mem_nil
    exact unchanged.trans ((Function.update_of_ne other ..).trans
      (carries.values row column listed List.not_mem_nil))
  · have kept := goes.values (backfillSyncState (added row)) "sync_state" states List.not_mem_nil
    have flag := carries.values row "synced" flags List.not_mem_nil
    rw [Function.comp_apply, Function.comp_apply, kept, backfillSyncState, Function.update_self, flag]

end

/-- What the migration makes of a table of some version. -/
def Upgraded (version : Nat) (name : TableName) (before after : SqlTable) : Prop :=
  ∃ change : Row → Row, after.rows = before.rows.map change ∧
    (∀ column ∈ before.columns, column ∈ after.columns) ∧
    (∀ row, ∀ column ∈ before.columns,
      (version = 1 → name = .readings → column ≠ "sync_state") → change row column = row column) ∧
    (version = 1 → name = .readings → ∀ row,
      change row "sync_state" = .text (if row "synced" = .integer 1 then "synced" else "pending"))

theorem upgraded_migrated {version : Nat} {original : Database} (old : AtVersion version original)
    (name : TableName) {table : SqlTable} (found : original.table name = some table) :
    ∃ later, (migrated original).table name = some later ∧ Upgraded version name table later := by
  by_cases first : version = 1
  · subst first
    cases name with
    | readings =>
      obtain ⟨later, change, present, carries, states⟩ := readings_backfilled old found
      refine ⟨later, present, change, carries.rows, carries.columns, ?_, fun _ _ => states⟩
      intro row column listed kept
      exact carries.values row column listed fun same => kept rfl rfl (List.mem_singleton.mp same)
    | lorawanSession =>
      have known : syncStateBlock ∈ blocks := List.mem_cons_self
      have ran := extends_run old.ready known
      have rest := extends_laterBlocks (old.ready.run (blocks_wellFormed _ known))
      obtain ⟨later, change, present, carries⟩ :=
        ran.trans (rest.weaken _) .lorawanSession table found
      have unexempt : syncStateBlock.exempt .lorawanSession = [] :=
        if_neg fun both => by cases both.2
      rw [unexempt] at carries
      refine ⟨later, present, change, carries.rows, carries.columns, ?_, fun _ same => by cases same⟩
      exact fun row column listed _ => carries.values row column listed List.not_mem_nil
  · obtain ⟨later, change, present, carries⟩ := extends_migrated old first name table found
    refine ⟨later, present, change, carries.rows, carries.columns, ?_, fun one => absurd one first⟩
    exact fun row column listed _ => carries.values row column listed List.not_mem_nil

/-- However often the opening of a database of an older version is cut short, the first one
that ends leaves what a single migration of the original makes of it: the last version,
all of its columns, and the old rows with the values they had. -/
theorem migration_crash_safe {version : Nat} {original : Database}
    (old : AtVersion version original)
    {machine : Machine Store Commit.Answer} (run : opening.Reaches ⟨⟨original, false⟩, none⟩ machine)
    (completed : machine.memory.completed = true) :
    machine.memory.db = migrated original ∧ machine.memory.db.schemaVersion = some schemaVersion ∧
      (∀ block ∈ blocks, ∀ column ∈ block.columns, column.1 ∈ machine.memory.db.columns block.table) ∧
      ∀ name table, original.table name = some table →
        ∃ later, machine.memory.db.table name = some later ∧ Upgraded version name table later := by
  have resumes : Resumes original machine.memory := by
    refine (System.invariant (Resumes original) (Resumes original) (fun _ held => held) ?_ ?_ ?_ ?_ run).1
    · exact ⟨old.ready, rfl, fun completed => by cases completed⟩
    · exact fun _ _ held _ => safe_openDatabase held
    · exact fun effect => effect.elim
    · exact fun _ held _ => held
  have same := resumes.completed completed
  rw [same]
  exact ⟨rfl, current_migrated (old.stamp ▸ old.range.2), fun block listed => columns_migrated old listed,
    fun name table => upgraded_migrated old name⟩

/-- A row of the first version that the cloud had stored. -/
def oldRow (column : String) : SqlValue :=
  if column = "id" ∨ column = "synced" then .integer 1 else .null

def oldDatabase : Database where
  readings := some ⟨["id", "timestamp", "ph", "synced"], [oldRow]⟩
  lorawanSession := some ⟨["id", "fcnt_up"], [oldRow]⟩
  schemaVersion := none

theorem oldDatabase_first : AtVersion 1 oldDatabase where
  range := by decide
  stamp := rfl
  readings := ⟨_, rfl, by decide⟩
  session := ⟨_, rfl, oldRow, List.mem_singleton_self _, rfl⟩
  columns := by decide

/-- The opening is killed between two columns and started again. -/
theorem migration_crash_safe_old :
    ∃ machine : Machine Store Commit.Answer, machine.memory.db = migrated oldDatabase ∧
      machine.memory.db.schemaVersion = some 7 := by
  let answer : (commit : Commit) → Option commit.Answer
    | .insertSession => some "2026-01-01 00:00:00"
    | .createReadings => some ()
    | .createSession => some ()
    | .addColumn _ _ => some ()
    | .finish _ => some ()
  let moves : List (Move Commit.Answer Unit Empty) :=
    .start () :: List.replicate 4 (.reply answer) ++ [.crash, .start ()] ++ List.replicate 18 (.reply answer)
  have legal : opening.legalRun ⟨⟨oldDatabase, false⟩, none⟩ moves = true := by decide +kernel
  have completed :
      (opening.play ⟨⟨oldDatabase, false⟩, none⟩ moves).memory.completed = true := by decide +kernel
  have opened := migration_crash_safe oldDatabase_first (System.reaches_play legal) completed
  exact ⟨_, opened.1, opened.2.1⟩

end Wqm1.Storage
