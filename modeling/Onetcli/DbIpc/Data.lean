import Onetcli.DbIpc.Ddl

/-!
Export, import and stream state of internal/dbipc/data.go. An export query is
kept with its projection, so that what it selects from a table can be told;
`buildExportSQL` is its text.
-/

/-!
The part of Go's database/sql that the server of internal/dbipc uses. A result
set is a value: the rows its driver will still deliver, each scanned or failing
to scan, and the errors that `Err` and `Close` will report. A transaction keeps
the flag by which `Tx` refuses every call after its first `Commit` or `Rollback`,
whether or not that call succeeded. Everything else a driver does is a function
of `Runtime`, free to succeed or fail at every call.
-/

namespace Onetcli.DbIpc

/-- A value scanned into an `any` or bound as an argument. A float carries its
printed form and whether JSON can encode it. -/
inductive SqlValue where
  | null
  | bool (value : Bool)
  | int (value : Int)
  | float (printed : String) (finite : Bool)
  | bytes (raw : List UInt8)
  | text (value : String)
  | other (printed : String)

structure ColumnType where
  name : String
  databaseTypeName : String
  nullable : Option Bool

/-- `*sql.Rows`. `pending` holds the outcome of `Scan` for each row to come. -/
structure Rows where
  columns : Except String (List ColumnType)
  pending : List (Except String (List SqlValue))
  err : Option String
  closeErr : Option String
  closed : Bool := false

/-- `rows.Next()` and the `rows.Scan` of the row it moved to. Reaching the end
closes the rows, as the package documents. -/
def Rows.next (rows : Rows) : Rows × Option (Except String (List SqlValue)) :=
  if rows.closed then (rows, none) else
    match rows.pending with
    | [] => ({ rows with closed := true }, none)
    | row :: rest => ({ rows with pending := rest }, some row)

/-- `rows.Close()`: idempotent, and only the first call reports an error. -/
def Rows.close (rows : Rows) : Rows × Option String :=
  if rows.closed then (rows, none) else ({ rows with closed := true }, rows.closeErr)

/-- The loop `for rows.Next() { rows.Scan(..) }` followed by `rows.Err()`, as every
reader of a whole result runs it: the first failing scan ends it. -/
def Rows.readAll (rows : Rows) : Except String (List (List SqlValue)) :=
  match rows.pending.mapM id with
  | .error err => .error err
  | .ok values =>
    match rows.err with
    | some err => .error err
    | none => .ok values

def Rows.columnNames (rows : Rows) : Except String (List String) :=
  rows.columns.map fun columns => columns.map (·.name)

/-- What one statement changed, as the driver reports it. -/
structure ExecResult where
  rowsAffected : Except String Int

/-- `sql.LevelDefault` and the levels the wire names. -/
inductive IsolationLevel where
  | default
  | readUncommitted
  | readCommitted
  | repeatableRead
  | serializable
  deriving DecidableEq

structure TxOptions where
  isolation : IsolationLevel := .default
  readOnly : Bool := false

/-- `*sql.Tx`: the driver's transaction and whether `Commit` or `Rollback` was
called on it. -/
structure Tx where
  handle : Nat
  done : Bool := false
  deriving DecidableEq

/-- Where a statement is sent: the pool or one open transaction. -/
inductive Executor where
  | db (pool : Db)
  | tx (transaction : Tx)

def errTxDone : String := "sql: transaction has already been committed or rolled back"

/-- The supported values of the `format` parameter of `data/export`. -/
inductive RowFormat where
  | json
  | ndjson
  | csv
  deriving DecidableEq

/-- The drivers behind database/sql, and what the process takes from outside:
`rangeNumbers` and `rangeIds` are the orders in which a `range` loop meets the
keys of a map, which Go leaves open; `encodeRows` is the text that the encoders
write for exported rows; `marshalCells` is the error of encoding/json on a page
of cells, each a value and the kind of its column. -/
structure Runtime (World : Type) where
  sqlOpen : String → String → World → World × Except String Db
  ping : Db → World → World × Option String
  closeDb : Db → World → World × Option String
  beginTx : Db → TxOptions → World → World × Except String Nat
  commitTx : Nat → World → World × Option String
  rollbackTx : Nat → World → World × Option String
  execDb : Db → String → List SqlValue → World → World × Except String ExecResult
  execTx : Nat → String → List SqlValue → World → World × Except String ExecResult
  queryDb : Db → String → List SqlValue → World → World × Except String Rows
  queryTx : Nat → String → List SqlValue → World → World × Except String Rows
  rangeNumbers : World → (keys : List Nat) → { order : List Nat // order.Perm keys }
  rangeIds : World → (keys : List String) → { order : List String // order.Perm keys }
  milliseconds : World → Nat
  encodeRows : RowFormat → List (String × String) → List String → List (List SqlValue) →
    Except String (List UInt8)
  marshalCells : List (List (SqlValue × String)) → Option String

variable {World : Type} (rt : Runtime World)

/-- `tx.Commit()`: the transaction is done whatever the driver answers. -/
def Tx.commit (tx : Tx) (world : World) : Tx × World × Option String :=
  if tx.done then (tx, world, some errTxDone) else
    let answer := rt.commitTx tx.handle world
    ({ tx with done := true }, answer.1, answer.2)

/-- `tx.Rollback()`. -/
def Tx.rollback (tx : Tx) (world : World) : Tx × World × Option String :=
  if tx.done then (tx, world, some errTxDone) else
    let answer := rt.rollbackTx tx.handle world
    ({ tx with done := true }, answer.1, answer.2)

/-- `ExecContext` on a pool or on a transaction. -/
def Executor.exec (executor : Executor) (sql : String) (args : List SqlValue) (world : World) :
    World × Except String ExecResult :=
  match executor with
  | .db pool => rt.execDb pool sql args world
  | .tx transaction =>
    if transaction.done then (world, .error errTxDone)
    else rt.execTx transaction.handle sql args world

/-- `QueryContext` on a pool or on a transaction. -/
def Executor.query (executor : Executor) (sql : String) (args : List SqlValue) (world : World) :
    World × Except String Rows :=
  match executor with
  | .db pool => rt.queryDb pool sql args world
  | .tx transaction =>
    if transaction.done then (world, .error errTxDone)
    else rt.queryTx transaction.handle sql args world

@[simp] theorem Tx.commit_done (tx : Tx) (world : World) : (tx.commit rt world).1.done = true := by
  unfold Tx.commit
  split <;> simp_all

@[simp] theorem Tx.rollback_done (tx : Tx) (world : World) :
    (tx.rollback rt world).1.done = true := by
  unfold Tx.rollback
  split <;> simp_all

end Onetcli.DbIpc

namespace Onetcli.DbIpc

open Text

variable {World : Type}

structure StreamState where
  data : List UInt8
  offset : Nat := 0

/-- A row that an import chunk could not insert. -/
structure FailedRow where
  rowIndex : Nat
  message : String
  code : Int
  deriving DecidableEq

structure ImportState where
  connID : Nat
  table : String
  schema : String
  database : String
  columns : List String
  format : String
  started : Nat
  inserted : Nat := 0
  failed : List FailedRow := []

def rowFormat (format : String) : Option RowFormat :=
  match toLower format with
  | "json" => some .json
  | "ndjson" => some .ndjson
  | "csv" => some .csv
  | _ => none

def exportRows (rt : Runtime World) (executor : Executor) (sqlText format : String)
    (args : List SqlValue) (options : List (String × String)) (world : World) :
    World × Except String (List UInt8 × List String × Nat) :=
  match executor.query rt sqlText args world with
  | (world, .error err) => (world, .error err)
  | (world, .ok rows) => (world, do
      let columns ← rows.columnNames
      match rowFormat format with
      | none => throw ("export format " ++ quoted format ++
          " is not supported by the generic database/sql driver")
      | some format =>
        let values ← rows.readAll
        let data ← rt.encodeRows format options columns values
        pure (data, columns, values.length))

/-- The chunk, whether it is the last one, and the advanced stream. -/
def streamReadChunk (stream : StreamState) (maxBytes : Nat) :
    List UInt8 × Bool × StreamState :=
  let maxBytes := if maxBytes = 0 then 64 * 1024 else maxBytes
  let stop := min (stream.offset + maxBytes) stream.data.length
  ((stream.data.take stop).drop stream.offset, decide (stream.data.length ≤ stop),
    { stream with offset := stop })

/-! ## Export statements -/

inductive Projection where
  | star
  | columns (names : List String)
  deriving DecidableEq

inductive ExportQuery where
  | raw (sqlText : String)
  | select (projection : Projection) (tableName whereClause : String)
  deriving DecidableEq

/-- The columns that an export query reads from a table with these columns. -/
def Projection.selected (tableColumns : List String) : Projection → List String
  | .star => tableColumns
  | .columns names => names

def buildExportQuery (spec : DriverSpec World) (table schema database sqlText whereClause : String)
    (includeColumns excludeColumns : List String) : Except String ExportQuery :=
  if !isBlank sqlText then .ok (.raw sqlText)
  else if isBlank table then .error "data/export requires either sql or table"
  else
    let filtered := includeColumns.filter (· ∉ excludeColumns)
    -- `quoteIdentifierList` leaves out empty names.
    let projection := if includeColumns ≠ [] ∧ filtered ≠ [] then
      Projection.columns (filtered.filter (· ≠ "")) else .star
    .ok (.select projection (qualifiedTableName spec database schema table) whereClause)

def ExportQuery.text (spec : DriverSpec World) : ExportQuery → String
  | .raw sqlText => sqlText
  | .select projection tableName whereClause =>
    let columns := match projection with
      | .star => "*"
      | .columns names => quoteIdentifierList spec names
    "SELECT " ++ columns ++ " FROM " ++ tableName ++
      if isBlank whereClause then "" else " WHERE " ++ whereClause

def buildExportSQL (spec : DriverSpec World) (table schema database sqlText whereClause : String)
    (includeColumns excludeColumns : List String) : Except String String :=
  (buildExportQuery spec table schema database sqlText whereClause includeColumns
    excludeColumns).map (ExportQuery.text spec)

def buildInsertSQL (spec : DriverSpec World) (imp : ImportState) : Except String String :=
  if imp.table = "" then .error "data import table is required"
  else if imp.columns = [] then .error "data import requires explicit columns"
  else
    .ok ("INSERT INTO " ++ qualifiedTableName spec imp.database imp.schema imp.table ++ " (" ++
      quoteIdentifierList spec imp.columns ++ ") VALUES (" ++
      String.intercalate ", " (imp.columns.map fun _ => "?") ++ ")")

end Onetcli.DbIpc
