import Onetcli.ProtocolCalls
import Onetcli.Lib.Tables
import Onetcli.Lib.Runs
import Onetcli.DuckDb.Ddl

/-!
Transactions, imports and batches of the DuckDB driver: the tables of
extensions/ipc/duckdb/src/state.rs, the handlers of handlers.rs and
data_import.rs, and the support functions of data_import_support.rs. The engine
behind `duckdb::Connection` is a parameter that answers every call from its own
state; a control command of a transaction is a text like any other.
-/

namespace Onetcli.DuckDb

open Text Tables Runs Protocol

/-- The calls on a `duckdb::Connection`. `query` gives the first column of a result. -/
structure Engine (World Value : Type) where
  execute : ConnId → String → World → World × Except String Nat
  query : ConnId → String → List String → World → World × Except String (List String)
  prepare : ConnId → String → World → World × Option String
  executePrepared : ConnId → String → List Value → World → World × Except String Nat
  milliseconds : World → Nat

/-! ## State -/

structure Session where
  connected : Bool
  deriving DecidableEq

structure ImportState where
  connId : ConnId
  tableRef : String
  columns : List String
  options : ImportOptions
  inserted : Nat := 0
  failed : List FailedRow := []
  failedCount : Nat := 0
  nextRow : Nat := 0
  started : Nat

def ImportState.recordInserted (imp : ImportState) : ImportState :=
  { imp with inserted := saturatingSucc imp.inserted, nextRow := saturatingSucc imp.nextRow }

def ImportState.recordFailed (imp : ImportState) (message : String) (code : ErrorCode) :
    ImportState × Option FailedRow :=
  let failed : FailedRow := ⟨imp.nextRow, message, code⟩
  let imp := { imp with
    failedCount := saturatingSucc imp.failedCount
    nextRow := saturatingSucc imp.nextRow }
  if imp.options.trackFailedRows then ({ imp with failed := imp.failed ++ [failed] }, some failed)
  else (imp, none)

structure ConnectionState where
  conns : Table ConnId Session
  imports : Table ImportId ImportState := ∅
  txs : Table TxId ConnId := ∅
  activeTxByConn : Table ConnId TxId := ∅
  nextImportId : Nat := 1
  nextTxId : Nat := 1

namespace ConnectionState

variable (state : ConnectionState)

/-- `get_conn` and `connection`, with the errors the handlers give them. -/
def connection (connId : ConnId) : Except ProtocolError Unit :=
  match state.conns.lookup connId with
  | none => .error (unknownConn connId)
  | some session =>
    if session.connected then .ok ()
    else .error ⟨.notInitialized, "DuckDB connection is not initialized"⟩

def importName (n : Nat) : ImportId := "i-" ++ toString n

def openImport (imp : ImportState) : ConnectionState × ImportId :=
  ({ state with
    nextImportId := state.nextImportId + 1
    imports := state.imports.insert (importName state.nextImportId) imp },
    importName state.nextImportId)

def removeImport (id : ImportId) : Option (ConnectionState × ImportState) :=
  (state.imports.lookup id).map fun imp => ({ state with imports := state.imports.erase id }, imp)

def insertImport (id : ImportId) (imp : ImportState) : ConnectionState :=
  { state with imports := state.imports.insert id imp }

def hasActiveTx (connId : ConnId) : Bool := (state.activeTxByConn.lookup connId).isSome

def txName (n : Nat) : TxId := "tx-" ++ toString n

def beginTx (connId : ConnId) : Option (ConnectionState × TxId) :=
  if state.hasActiveTx connId then none
  else some ({ state with
    nextTxId := state.nextTxId + 1
    txs := state.txs.insert (txName state.nextTxId) connId
    activeTxByConn := state.activeTxByConn.insert connId (txName state.nextTxId) },
    txName state.nextTxId)

def txConn (txId : TxId) : Option ConnId := state.txs.lookup txId

def closeTx (txId : TxId) : ConnectionState :=
  match state.txs.lookup txId with
  | none => state
  | some connId =>
    let active := if state.activeTxByConn.lookup connId = some txId then
      state.activeTxByConn.erase connId else state.activeTxByConn
    { state with txs := state.txs.erase txId, activeTxByConn := active }

end ConnectionState

/-! ## Errors of the engine -/

def classifyDuckdbSqlError (message : String) : ErrorCode :=
  let lower := message.toLower
  let has (part : String) : Bool := decide (part.toList <:+: lower.toList)
  if has "table" && has "does not exist" then .sqlUnknownTable
  else if has "column" && has "does not exist" then .sqlUnknownColumn
  else if has "function" && has "does not exist" then .sqlUnknownFunction
  else if has "duplicate key" || has "unique constraint" || has "primary key" then
    .sqlUniqueViolation
  else if has "not null constraint" || has "not-null constraint" then .sqlNotNullViolation
  else if has "check constraint" then .sqlCheckViolation
  else if has "constraint" then .sqlConstraintViolation
  else if has "already exists" then .sqlObjectAlreadyExists
  else .sqlSyntaxError

def duckdbSqlError (err : String) : ProtocolError := ⟨classifyDuckdbSqlError err, err⟩

section Handlers

variable {World Value : Type} (engine : Engine World Value) (state : ConnectionState)

def execTxControl (connId : ConnId) (command : String) (world : World) :
    World × Except ProtocolError Unit :=
  match engine.execute connId command world with
  | (world, .error err) => (world, .error ⟨.txRollbackRequired, err⟩)
  | (world, .ok _) => (world, .ok ())

/-! ## Transactions -/

def validateTxBeginOptions (params : TxBeginParams) : Except ProtocolError Unit :=
  if params.readOnly || params.deferrable.getD false then
    .error ⟨.txIsolationNotSupported,
      "DuckDB driver does not support read_only or deferrable transaction options"⟩
  else
    match params.isolation with
    | none | some .default => .ok ()
    | some _ => .error ⟨.txIsolationNotSupported,
        "DuckDB driver does not support custom transaction isolation levels"⟩

def nestedTx : ProtocolError :=
  ⟨.txNestedNotSupported, "DuckDB driver supports one active transaction per connection"⟩

def handleTxBegin (params : Params TxBeginParams) (world : World) :
    ConnectionState × World × Answer :=
  match (do
    let p ← decoded params
    validateTxBeginOptions p
    if state.hasActiveTx p.connId then throw nestedTx
    state.connection p.connId
    pure p) with
  | .error refusal => (state, world, .error refusal)
  | .ok p =>
    match execTxControl engine p.connId "BEGIN TRANSACTION" world with
    | (world, .error err) => (state, world, .error err)
    | (world, .ok _) =>
      match state.beginTx p.connId with
      -- Not reached: the active transaction was asked for before BEGIN.
      | none => (state, world, .error nestedTx)
      | some (state, txId) => (state, world, .ok (.txBegun txId))

/-- The end of `tx/commit` and of `tx/rollback`: the command runs first. -/
def endTx (txId : TxId) (connId : ConnId) (command : String) (world : World) :
    ConnectionState × World × Answer :=
  match execTxControl engine connId command world with
  | (world, .error err) => (state, world, .error err)
  | (world, .ok _) => (state.closeTx txId, world, .ok .null)

def knownTx (txId : TxId) : Except ProtocolError ConnId :=
  match state.txConn txId with
  | some connId => .ok connId
  | none => .error (unknownTx txId)

def handleTxCommit (params : Params TxId) (world : World) : ConnectionState × World × Answer :=
  match (do
    let txId ← decoded params
    let connId ← knownTx state txId
    state.connection connId
    pure (txId, connId)) with
  | .error refusal => (state, world, .error refusal)
  | .ok (txId, connId) => endTx engine state txId connId "COMMIT" world

def noSavepoints : ProtocolError :=
  ⟨.txNestedNotSupported, "DuckDB driver does not support savepoints"⟩

def handleTxRollback (params : Params TxRollbackParams) (world : World) :
    ConnectionState × World × Answer :=
  match (do
    let p ← decoded params
    let connId ← knownTx state p.txId
    if p.toSavepoint.isSome then throw noSavepoints
    state.connection connId
    pure (p.txId, connId)) with
  | .error refusal => (state, world, .error refusal)
  | .ok (txId, connId) => endTx engine state txId connId "ROLLBACK" world

/-! ## Batches -/

def runExecBatch (connId : ConnId) (stopOnError : Bool) :
    List String → Nat → World → World × ExecBatchResult
  | [], _, world => (world, {})
  | sql :: rest, index, world =>
    match engine.execute connId sql world with
    | (world, .ok affected) =>
      let tail := runExecBatch connId stopOnError rest (index + 1) world
      (tail.1, ⟨affected :: tail.2.results, tail.2.errors⟩)
    | (world, .error err) =>
      let error := duckdbSqlError err
      let item : BatchError := ⟨index % 2 ^ 32, error.code, error.message⟩
      if stopOnError then (world, ⟨[0], [item]⟩)
      else
        let tail := runExecBatch connId stopOnError rest (index + 1) world
        (tail.1, ⟨0 :: tail.2.results, item :: tail.2.errors⟩)

def batchEnd (result : ExecBatchResult) : String := if result.errors = [] then "COMMIT" else "ROLLBACK"

def handleExecBatch (params : Params ExecBatchParams) (world : World) : World × Answer :=
  match (do
    let p ← decoded params
    state.connection p.connId
    pure p) with
  | .error refusal => (world, .error refusal)
  | .ok p =>
    if p.inTransaction then
      match execTxControl engine p.connId "BEGIN" world with
      | (world, .error err) => (world, .error err)
      | (world, .ok _) =>
        match runExecBatch engine p.connId p.stopOnError p.statements 0 world with
        | (world, result) =>
          match execTxControl engine p.connId (batchEnd result) world with
          -- The results of the statements are lost with this error.
          | (world, .error err) => (world, .error err)
          | (world, .ok _) => (world, .ok (.batch result))
    else
      match runExecBatch engine p.connId p.stopOnError p.statements 0 world with
      | (world, result) => (world, .ok (.batch result))

/-! ## Imports -/

def validateDatabase (database : Option String) : Except ProtocolError Unit :=
  match database with
  | none | some "" | some "main" => .ok ()
  | some database => .error (invalidParams
      ("DuckDB data/import only supports database `main`, got `" ++ database ++ "`"))

def validateImportFormat (format : DataFormat) : Except ProtocolError Unit :=
  match format with
  | .csv | .json | .ndjson => .ok ()
  | .other name => .error (invalidParams
      ("DuckDB data/import does not support format `" ++ name ++ "` yet"))

def validateImportOptions (options : ImportOptions) : Except ProtocolError Unit :=
  if options.upsert || !options.onConflictColumns.isEmpty then
    .error (invalidParams "DuckDB data/import upsert is not implemented yet")
  else if options.disableTriggers then
    .error (invalidParams
      "DuckDB data/import cannot disable triggers because triggers are unsupported")
  else .ok ()

def validateBeginParams (params : ImportBeginParams) : Except ProtocolError Unit := do
  if isBlank params.table then throw (missingParam "table")
  validateDatabase params.database
  validateImportFormat params.format
  validateImportOptions params.options
  -- Only wire transactions are asked for: another open import makes BEGIN fail.
  if state.hasActiveTx params.connId then
    throw ⟨.txNestedNotSupported,
      "DuckDB data/import cannot run inside an active wire transaction"⟩
  if params.columns.any isBlank then
    throw (invalidParams "data/import columns must not be empty")

def loadTableColumns (connId : ConnId) (schema : Option String) (table : String)
    (world : World) : World × Except ProtocolError (List String) :=
  let sql := "SELECT column_name FROM duckdb_columns() WHERE table_name = ? AND internal = FALSE"
  let (sql, values) := match schema.filter (!isBlank ·) with
    | some schema => (sql ++ " AND schema_name = ?", [table, schema])
    | none => (sql, [table])
  match engine.query connId (sql ++ " ORDER BY column_index") values world with
  | (world, .error err) => (world, .error (duckdbSqlError err))
  | (world, .ok columns) =>
    (world, if columns = [] then
        .error ⟨.sqlUnknownTable, "unknown import table `" ++ table ++ "`"⟩
      else .ok columns)

def selectedImportColumns (tableColumns requested : List String) :
    Except ProtocolError (List String) :=
  let columns := if requested = [] then tableColumns else requested
  match columns.find? (· ∉ tableColumns) with
  | some column => .error ⟨.sqlUnknownColumn, "unknown import column `" ++ column ++ "`"⟩
  | none => .ok columns

/-- The identifiers are quoted as in ddl.rs. -/
def qualifiedTableRef (schema : Option String) (table : String) : String :=
  qualifiedName schema table

def startImportTx (params : ImportBeginParams) (world : World) :
    World × Except ProtocolError (String × List String) :=
  match state.connection params.connId with
  | .error refusal => (world, .error refusal)
  | .ok _ =>
    match loadTableColumns engine params.connId params.schema params.table world with
    | (world, .error err) => (world, .error err)
    | (world, .ok tableColumns) =>
      match selectedImportColumns tableColumns params.columns with
      | .error err => (world, .error err)
      | .ok columns =>
        match execTxControl engine params.connId "BEGIN TRANSACTION" world with
        | (world, .error err) => (world, .error err)
        | (world, .ok _) =>
          (world, .ok (qualifiedTableRef params.schema params.table, columns))

def handleDataImportBegin (params : Params ImportBeginParams) (world : World) :
    ConnectionState × World × Answer :=
  match (do
    let p ← decoded params
    validateBeginParams state p
    pure p) with
  | .error refusal => (state, world, .error refusal)
  | .ok p =>
    match startImportTx engine state p world with
    | (world, .error err) => (state, world, .error err)
    | (world, .ok (tableRef, columns)) =>
      let opened := state.openImport
        { connId := p.connId, tableRef, columns, options := p.options,
          started := engine.milliseconds world }
      (opened.1, world, .ok (.importBegun opened.2))

def insertSql (imp : ImportState) : String :=
  let columns := String.intercalate ", " (imp.columns.map quoteIdentifier)
  let placeholders := String.intercalate ", " (imp.columns.map fun _ => "?")
  "INSERT INTO " ++ imp.tableRef ++ " (" ++ columns ++ ") VALUES (" ++ placeholders ++ ")"

/-- `insert_row`: the error holds the failed row when the import keeps track of it. -/
def insertRow (sql : String) (imp : ImportState) (row : List (Except String Value))
    (world : World) : World × ImportState × Except (Option FailedRow) Unit :=
  if row.length ≠ imp.columns.length then
    let recorded := imp.recordFailed ("expected " ++ toString imp.columns.length ++
      " values, got " ++ toString row.length) .dataTypeMismatch
    (world, recorded.1, .error recorded.2)
  else
    match row.mapM id with
    | .error err =>
      let recorded := imp.recordFailed ("invalid import row value: " ++ err) .dataTypeMismatch
      (world, recorded.1, .error recorded.2)
    | .ok values =>
      match engine.executePrepared imp.connId sql values world with
      | (world, .ok _) => (world, imp.recordInserted, .ok ())
      | (world, .error err) =>
        let error := duckdbSqlError err
        let recorded := imp.recordFailed error.message error.code
        (world, recorded.1, .error recorded.2)

def enforceFailureThreshold (imp : ImportState) : Except ProtocolError Unit :=
  match imp.options.abortOnFailures with
  | none => .ok ()
  | some limit =>
    if limit < imp.failedCount then
      .error ⟨.dataTypeMismatch,
        "data/import failure threshold exceeded; call data/import_abort to roll back"⟩
    else .ok ()

/-- The loop over the rows of a chunk. What it recorded stays when the threshold ends it. -/
def insertRows (sql : String) : List (List (Except String Value)) → ImportState →
    ImportChunkResult → World → World × ImportState × Except ProtocolError ImportChunkResult
  | [], imp, result, world => (world, imp, .ok result)
  | row :: rest, imp, result, world =>
    match insertRow engine sql imp row world with
    | (world, imp, outcome) =>
      let result := match outcome with
        | .ok _ => { result with inserted := saturatingSucc result.inserted }
        | .error (some failed) => { result with failed := result.failed ++ [failed] }
        | .error none => result
      match enforceFailureThreshold imp with
      | .error err => (world, imp, .error err)
      | .ok _ => insertRows sql rest imp result world

def runImportChunk (imp : ImportState) (rows : List (List (Except String Value)))
    (world : World) : World × ImportState × Except ProtocolError ImportChunkResult :=
  if rows = [] then (world, imp, .ok {}) else
    match state.connection imp.connId with
    | .error refusal => (world, imp, .error refusal)
    | .ok _ =>
      match engine.prepare imp.connId (insertSql imp) world with
      | (world, some err) => (world, imp, .error (duckdbSqlError err))
      | (world, none) => insertRows engine (insertSql imp) rows imp {} world

def handleDataImportChunk (params : Params (ImportChunkParams Value)) (world : World) :
    ConnectionState × World × Answer :=
  match decoded params with
  | .error refusal => (state, world, .error refusal)
  | .ok p =>
    match state.removeImport p.importId with
    | none => (state, world, .error (unknownImport p.importId))
    | some (removed, imp) =>
      -- The entry is out of the table while its rows run, and always comes back.
      match runImportChunk engine removed imp p.rows world with
      | (world, imp, result) =>
        (removed.insertImport p.importId imp, world, result.map .chunk)

def execImportTx (connId : ConnId) (command : String) (world : World) :
    World × Except ProtocolError Unit :=
  match state.connection connId with
  | .error refusal => (world, .error refusal)
  | .ok _ => execTxControl engine connId command world

/-- `data/import_commit` and `data/import_abort`: the entry goes before the command runs. -/
def endImport (command : String) (params : Params ImportId)
    (reply : ImportState → World → Reply) (world : World) : ConnectionState × World × Answer :=
  match decoded params with
  | .error refusal => (state, world, .error refusal)
  | .ok importId =>
    match state.removeImport importId with
    | none => (state, world, .error (unknownImport importId))
    | some (removed, imp) =>
      -- When the command fails the entry does not come back.
      match execImportTx engine removed imp.connId command world with
      | (world, .error err) => (removed, world, .error err)
      | (world, .ok _) => (removed, world, .ok (reply imp world))

def handleDataImportCommit (params : Params ImportId) (world : World) :
    ConnectionState × World × Answer :=
  endImport engine state "COMMIT" params
    (fun imp world => .importDone
      { inserted := imp.inserted, updated := 0, deleted := 0, failed := imp.failed,
        elapsedMs := some (engine.milliseconds world - imp.started) }) world

def handleDataImportAbort (params : Params ImportId) (world : World) :
    ConnectionState × World × Answer :=
  endImport engine state "ROLLBACK" params (fun _ _ => .null) world

end Handlers

/-! ## Dispatch -/

inductive Call (Value : Type) where
  | txBegin (params : Params TxBeginParams)
  | txCommit (params : Params TxId)
  | txRollback (params : Params TxRollbackParams)
  | dataImportBegin (params : Params ImportBeginParams)
  | dataImportChunk (params : Params (ImportChunkParams Value))
  | dataImportCommit (params : Params ImportId)
  | dataImportAbort (params : Params ImportId)
  | execBatch (params : Params ExecBatchParams)

variable {World Value : Type} (engine : Engine World Value)

def call (state : ConnectionState) (world : World) :
    Call Value → ConnectionState × World × Answer
  | .txBegin params => handleTxBegin engine state params world
  | .txCommit params => handleTxCommit engine state params world
  | .txRollback params => handleTxRollback engine state params world
  | .dataImportBegin params => handleDataImportBegin engine state params world
  | .dataImportChunk params => handleDataImportChunk engine state params world
  | .dataImportCommit params => handleDataImportCommit engine state params world
  | .dataImportAbort params => handleDataImportAbort engine state params world
  | .execBatch params =>
    let answer := handleExecBatch engine state params world
    (state, answer.1, answer.2)

def machine : Machine (ConnectionState × World) (Call Value) Answer where
  step state request :=
    let answer := call engine state.1 state.2 request
    ((answer.1, answer.2.1), answer.2.2)

end Onetcli.DuckDb
