import Onetcli.DbIpc.Schema
import Onetcli.Lib.Tables
import Onetcli.Lib.Runs

/-!
The server of internal/dbipc/server.go: its five tables, every handler with its
error exits, and `handle`, which dispatches one request. The checks a handler
makes before it does anything run in `Except ProtocolError`. Handlers that change
no table return only the world and the reply. A `range` loop that deletes entries
of the map it walks is a `sweep` in the order the runtime gives.
-/

namespace Onetcli.DbIpc

open Text Tables Runs

variable {World : Type}

abbrev Opener (World : Type) := String → String → World → World × Except String Db

structure CursorState where
  connID : Nat
  rows : Option Rows
  kinds : List String
  maxRows : Option Nat
  fetched : Nat := 0
  done : Bool := false

structure TxState where
  connID : Nat
  tx : Tx

structure Server (World : Type) where
  spec : DriverSpec World
  opener : Opener World
  initialized : Bool := false
  nextConnID : Nat := 1
  nextCursor : Nat := 1
  nextTx : Nat := 1
  nextImport : Nat := 1
  conns : Table Nat (ConnectionState World) := ∅
  cursors : Table String CursorState := ∅
  txs : Table String TxState := ∅
  imports : Table String ImportState := ∅
  streams : Table String StreamState := ∅

def newServer (rt : Runtime World) (spec : DriverSpec World) (opener : Option (Opener World)) :
    Server World :=
  { spec, opener := opener.getD rt.sqlOpen }

/-! ## Checks -/

section Checks

variable (s : Server World)

def knownConn (connID : Nat) : Except ProtocolError (ConnectionState World) :=
  match s.conns.lookup connID with
  | some conn => .ok conn
  | none => .error (refuse errUnknownConnID ("unknown conn_id " ++ toString connID))

def knownCursor (cursorID : String) : Except ProtocolError CursorState :=
  match s.cursors.lookup cursorID with
  | some cursor => .ok cursor
  | none => .error (refuse errUnknownCursorID ("unknown cursor_id `" ++ cursorID ++ "`"))

def knownTx (txID : String) : Except ProtocolError TxState :=
  match s.txs.lookup txID with
  | some tx => .ok tx
  | none => .error (refuse errInvalidParams ("unknown tx_id `" ++ txID ++ "`"))

def knownImport (importID : String) : Except ProtocolError ImportState :=
  match s.imports.lookup importID with
  | some imp => .ok imp
  | none => .error (refuse errInvalidParams ("unknown import_id `" ++ importID ++ "`"))

def txForRequest (txID : String) (connID : Nat) : Except ProtocolError TxState := do
  let tx ← knownTx s txID
  if tx.connID = connID then pure tx
  else throw (refuse errInvalidParams ("tx_id `" ++ txID ++ "` does not belong to conn_id " ++
    toString connID))

/-- The pool of the connection, or the transaction that a request names. -/
def executorFor (conn : ConnectionState World) (txID : String) (connID : Nat) :
    Except ProtocolError Executor := do
  if txID = "" then pure (.db conn.db)
  else
    let tx ← txForRequest s txID connID
    pure (.tx tx.tx)

def connFromParams (params : Params Nat) : Except ProtocolError (ConnectionState World) := do
  let connID ← decoded params
  knownConn s connID

def ddlSpecForRequest (connID : Nat) : Except ProtocolError (DriverSpec World) :=
  if connID = 0 then .ok s.spec else
    match s.conns.lookup connID with
    | some conn => .ok conn.ddlSpec
    | none => .error (refuse errInvalidParams ("unknown conn_id " ++ toString connID))

end Checks

/-! ## Connections -/

section Connections

variable (rt : Runtime World) (s : Server World)

def normalizeConnectionSpec (connSpec : ConnectionSpec World) :
    Except String (ConnectionSpec World) :=
  let driverName := if connSpec.driverName = "" then s.spec.sqlDriverName else connSpec.driverName
  let schemaSQL := if schemaSQLIsEmpty connSpec.schemaSQL then s.spec.schemaSQL
    else connSpec.schemaSQL
  let adaptSchemaSQL := connSpec.adaptSchemaSQL <|> s.spec.adaptSchemaSQL
  if driverName = "" then .error "missing SQL driver name"
  else .ok { connSpec with driverName, schemaSQL, adaptSchemaSQL }

def resolveConnection (cfg : Config) (world : World) :
    World × Except String (ConnectionSpec World) :=
  match s.spec.resolveConnection with
  | some resolve =>
    match resolve cfg world with
    | (world, .error err) => (world, .error err)
    | (world, .ok connSpec) => (world, normalizeConnectionSpec s connSpec)
  | none =>
    match s.spec.buildDSN cfg with
    | .error err => (world, .error err)
    | .ok dsn => (world, normalizeConnectionSpec s
        { driverName := s.spec.sqlDriverName, dsn, schemaSQL := s.spec.schemaSQL })

def parseConfig (params : Params ConfigParams) (world : World) :
    World × Except String (Config × ConnectionSpec World) :=
  match params with
  | .error err => (world, .error err)
  | .ok p =>
    if p.driverID ≠ "" ∧ p.driverID ≠ s.spec.id then
      (world, .error ("unsupported driver_id `" ++ p.driverID ++ "`"))
    else
      match p.config with
      | .error err => (world, .error err)
      | .ok cfg =>
        let resolved := resolveConnection s cfg world
        (resolved.1, resolved.2.map fun connSpec => (cfg, connSpec))

def openPinged (connSpec : ConnectionSpec World) (world : World) : World × Except String Db :=
  match s.opener connSpec.driverName connSpec.dsn world with
  | (world, .error err) => (world, .error err)
  | (world, .ok db) =>
    match rt.ping db world with
    | (world, none) => (world, .ok db)
    | (world, some err) =>
      let closed := rt.closeDb db world
      (closed.1, .error
        ((joinCleanupError (some err) "close connection after failed ping" closed.2).getD err))

def elapsedMs (start world : World) : Nat := rt.milliseconds world - rt.milliseconds start

def handleConnTest (params : Params ConfigParams) (world : World) : World × Answer :=
  match parseConfig s params world with
  | (world, .error err) => (world, .error (refuse errInvalidParams err))
  | (start, .ok (cfg, connSpec)) =>
    match openPinged rt s connSpec start with
    | (world, .error err) => (world, .error (refuse errConnectionFailed err))
    | (world, .ok db) =>
      match rt.closeDb db world with
      | (world, some err) =>
        (world, .error (refuse errConnectionFailed ("close test connection: " ++ err)))
      | (world, none) =>
        (world, .ok (.tested (elapsedMs rt start world % 2 ^ 32) cfg.database))

def ddlSpecForConnection (connSpec : ConnectionSpec World) : DriverSpec World :=
  if connSpec.identifierQuoteLeft ≠ "" ∨ connSpec.identifierQuoteRight ≠ "" then
    { s.spec with
      identifierQuoteLeft := connSpec.identifierQuoteLeft
      identifierQuoteRight := connSpec.identifierQuoteRight }
  else s.spec

/-- The driver's adaptation of the metadata statements; a failed probe keeps them. -/
def adaptedSchemaSQL (connSpec : ConnectionSpec World) (db : Db) (world : World) :
    World × SchemaSQL :=
  match connSpec.adaptSchemaSQL with
  | none => (world, connSpec.schemaSQL)
  | some adapt =>
    match adapt db connSpec.schemaSQL world with
    | (world, .ok adapted) => (world, adapted)
    | (world, .error _) => (world, connSpec.schemaSQL)

def handleConnOpen (params : Params ConfigParams) (world : World) :
    Server World × World × Reply :=
  match parseConfig s params world with
  | (world, .error err) => (s, world, .error (refuse errInvalidParams err))
  | (world, .ok (cfg, connSpec)) =>
    match openPinged rt s connSpec world with
    | (world, .error err) => (s, world, .error (refuse errConnectionFailed err))
    | (world, .ok db) =>
      let adapted := adaptedSchemaSQL connSpec db world
      let conn : ConnectionState World :=
        { config := cfg, db, ddlSpec := ddlSpecForConnection s connSpec,
          schemaSQL := adapted.2 }
      ({ s with
        nextConnID := s.nextConnID + 1
        conns := s.conns.insert s.nextConnID conn },
        adapted.1, .ok (.connOpened s.nextConnID s.spec.name))

/-- `closeCursor` on an entry: its rows are closed once. -/
def closeCursor (cursor : CursorState) : CursorState × Option String :=
  match cursor.rows with
  | none => ({ cursor with done := true }, none)
  | some rows => ({ cursor with rows := none, done := true }, rows.close.2)

/-- The loops over `s.cursors` of `closeAll` and `closeCursorsForConn`. -/
def closeCursors (doomed : CursorState → Bool) (closeErr : Option String) (world : World) :
    Table String CursorState × Option String :=
  sweep doomed
    (fun cursorID cursor closeErr =>
      joinCleanupError closeErr ("close cursor " ++ cursorID) (closeCursor cursor).2)
    (rt.rangeIds world s.cursors.keys).1 s.cursors closeErr

/-- The loops over `s.txs` of `closeAll` and `rollbackTxsForConn`. -/
def rollbackTxs (doomed : TxState → Bool) (closeErr : Option String) (world : World) :
    Table String TxState × World × Option String :=
  sweep doomed
    (fun txID tx acc =>
      let answer := tx.tx.rollback rt acc.1
      (answer.2.1, joinCleanupError acc.2 ("rollback transaction " ++ txID) answer.2.2))
    (rt.rangeIds world s.txs.keys).1 s.txs (world, closeErr)

def closeConns (closeErr : Option String) (world : World) :
    Table Nat (ConnectionState World) × World × Option String :=
  sweep (fun _ => true)
    (fun connID conn acc =>
      let answer := rt.closeDb conn.db acc.1
      (answer.1, joinCleanupError acc.2 ("close connection " ++ toString connID) answer.2))
    (rt.rangeNumbers world s.conns.keys).1 s.conns (world, closeErr)

def dropImports (doomed : ImportState → Bool) (world : World) : Table String ImportState :=
  (sweep doomed (fun _ _ (_ : Unit) => ()) (rt.rangeIds world s.imports.keys).1 s.imports ()).1

def closeAll (world : World) : Server World × World × Option String :=
  let cursors := closeCursors rt s (fun _ => true) none world
  let txs := rollbackTxs rt s (fun _ => true) cursors.2 world
  let conns := closeConns rt s txs.2.2 txs.2.1
  ({ s with
    cursors := cursors.1
    txs := txs.1
    imports := dropImports rt s (fun _ => true) world
    streams := ∅
    conns := conns.1 },
    conns.2)

def closeConnection (connID : Nat) (conn : ConnectionState World) (world : World) :
    Server World × World × Option String :=
  let cursors := closeCursors rt s (fun cursor => cursor.connID == connID) none world
  let closeErr := joinCleanupError none "close cursors" cursors.2
  let txs := rollbackTxs rt s (fun tx => tx.connID == connID) none world
  let closeErr := joinCleanupError closeErr "rollback transactions" txs.2.2
  let closed := rt.closeDb conn.db txs.2.1
  ({ s with
    cursors := cursors.1
    txs := txs.1
    imports := dropImports rt s (fun imp => imp.connID == connID) world
    conns := s.conns.erase connID },
    closed.1, joinCleanupError closeErr "close connection" closed.2)

def handleConnClose (params : Params Nat) (world : World) : Server World × World × Answer :=
  match (do
    let connID ← decoded params
    let conn ← knownConn s connID
    pure (connID, conn)) with
  | .error refusal => (s, world, .error refusal)
  | .ok (connID, conn) =>
    match closeConnection rt s connID conn world with
    | (s, world, some err) => (s, world, .error (refuse errConnectionFailed err))
    | (s, world, none) => (s, world, .ok .null)

def handleConnPing (params : Params Nat) (world : World) : World × Answer :=
  match connFromParams s params with
  | .error refusal => (world, .error refusal)
  | .ok conn =>
    match rt.ping conn.db world with
    | (world, some err) => (world, .error (refuse errConnectionFailed err))
    | (after, none) => (after, .ok (.latency (elapsedMs rt world after % 2 ^ 32)))

def handleConnUse (params : Params ConnUseParams) : Server World × Answer :=
  match (do
    let p ← decoded params
    let conn ← knownConn s p.connID
    pure (p, conn)) with
  | .error refusal => (s, .error refusal)
  | .ok (p, conn) =>
    if p.database = "" then (s, .ok .null) else
      -- Only the remembered configuration changes, not the pool.
      let used := { conn with config := { conn.config with database := p.database } }
      ({ s with conns := s.conns.insert p.connID used }, .ok .null)

end Connections

/-! ## Queries -/

section Queries

variable (rt : Runtime World) (s : Server World)

def typeKind (raw : String) : String :=
  let t := toLower raw
  let has (part : String) : Bool := decide (part.toList <:+: t.toList)
  if has "bool" || has "tinyint(1)" then "bool"
  else if has "interval" then "text"
  else if has "unsigned" then "u64"
  else if has "int" || has "serial" then "i64"
  else if has "numeric" || has "decimal" || has "number" then "decimal"
  else if has "float" || has "double" || has "real" then "f64"
  else if has "date" && !has "time" then "date"
  else if has "time" || has "timestamp" then "datetime"
  else if has "blob" || has "byte" || has "binary" then "bytes"
  else if has "json" then "json"
  else if has "char" || has "text" || has "clob" || has "varchar" then "text"
  else if has "uuid" || has "xml" then "text"
  else "unknown"

def columnSpec (column : ColumnType) : ColumnSpec :=
  let typeName := if column.databaseTypeName = "" then "unknown" else column.databaseTypeName
  { name := column.name, type := typeName, typeKind := typeKind typeName,
    nullable := column.nullable }

def startQuery (executor : Executor) (sqlText : String) (args : List SqlValue) (world : World) :
    World × Except String (List ColumnSpec × Rows) :=
  match executor.query rt sqlText args world with
  | (world, .error err) => (world, .error err)
  | (world, .ok rows) => (world, rows.columns.map fun columns => (columns.map columnSpec, rows))

def cursorName (n : Nat) : String := s.spec.id ++ "-cursor-" ++ toString n

def handleQueryStart (params : Params QueryStartParams) (world : World) :
    Server World × World × Reply :=
  match (do
    let p ← decoded params
    let conn ← knownConn s p.connID
    let args ← decoded p.args
    let queryer ← executorFor s conn p.txID p.connID
    pure (p, args, queryer)) with
  | .error refusal => (s, world, .error refusal)
  | .ok (p, args, queryer) =>
    match startQuery rt queryer p.sql args world with
    | (world, .error err) => (s, world, .error (refuse errSQLSyntax err))
    | (world, .ok (columns, rows)) =>
      let cursor : CursorState :=
        { connID := p.connID, rows := some rows, kinds := columns.map (·.typeKind),
          maxRows := p.maxRows }
      ({ s with
        nextCursor := s.nextCursor + 1
        cursors := s.cursors.insert (cursorName s s.nextCursor) cursor },
        world, .ok (.cursorOpened (cursorName s s.nextCursor) columns))

def atLimit (maxRows : Option Nat) (fetched : Nat) : Bool :=
  match maxRows with
  | none => false
  | some limit => limit ≤ fetched

/-- The loop of `fetchRows`: at most the first argument's number of further rows.
The rows are advanced also when a scan fails. -/
def fetchRows (kinds : List String) (maxRows : Option Nat) :
    Nat → Rows → Nat → List (List (SqlValue × String)) →
      Rows × Except String (List (List (SqlValue × String)) × Bool × Nat)
  | 0, rows, fetched, out => (rows, .ok (out, atLimit maxRows fetched, fetched))
  | room + 1, rows, fetched, out =>
    if atLimit maxRows fetched then (rows, .ok (out, true, fetched)) else
      match rows.next with
      | (rows, none) =>
        match rows.err with
        | some err => (rows, .error err)
        | none => (rows, .ok (out, true, fetched))
      | (rows, some (.error err)) => (rows, .error err)
      | (rows, some (.ok values)) =>
        fetchRows kinds maxRows room rows (fetched + 1) (out ++ [values.zip kinds])

/-- `s.ok` on a page: encoding/json refuses floats that are not finite. -/
def pageReply (rows : List (List (SqlValue × String))) (done : Bool) : Answer :=
  match rt.marshalCells rows with
  | some err => .error (refuse errInternalError err)
  | none => .ok (.page rows done)

def fetchSize (n : Option Nat) : Nat :=
  match n with
  | none => 500
  | some n => if 0 < n then n else 500

def fetchPage (cursor : CursorState) (rows : Rows) (n : Nat) : CursorState × Answer :=
  match fetchRows cursor.kinds cursor.maxRows n rows cursor.fetched [] with
  | (rows, .error err) => ({ cursor with rows := some rows }, .error (refuse errSQLSyntax err))
  | (rows, .ok (page, false, fetched)) =>
    ({ cursor with rows := some rows, fetched }, pageReply rt page false)
  | (rows, .ok (page, true, fetched)) =>
    match rows.close with
    | (rows, some err) =>
      ({ cursor with rows := some rows, fetched, done := true },
        .error (refuse errSQLSyntax err))
    | (_, none) =>
      ({ cursor with rows := none, fetched, done := true }, pageReply rt page true)

def handleCursorFetch (params : Params CursorFetchParams) : Server World × Answer :=
  match (do
    let p ← decoded params
    let cursor ← knownCursor s p.cursorID
    pure (p, cursor)) with
  | .error refusal => (s, .error refusal)
  | .ok (p, cursor) =>
    match cursor.done, cursor.rows with
    | false, some rows =>
      let fetched := fetchPage rt cursor rows (fetchSize p.n)
      ({ s with cursors := s.cursors.insert p.cursorID fetched.1 }, fetched.2)
    | _, _ => (s, .ok (.page [] true))

def handleCursorClose (params : Params String) : Server World × Answer :=
  match (do
    let cursorID ← decoded params
    let cursor ← knownCursor s cursorID
    pure (cursorID, cursor)) with
  | .error refusal => (s, .error refusal)
  | .ok (cursorID, cursor) =>
    match closeCursor cursor with
    | (closed, some err) =>
      ({ s with cursors := s.cursors.insert cursorID closed },
        .error (refuse errSQLSyntax err))
    | (_, none) => ({ s with cursors := s.cursors.erase cursorID }, .ok .null)

def handleCursorCancel (params : Params String) : Server World × Answer :=
  match (do
    let cursorID ← decoded params
    let cursor ← knownCursor s cursorID
    pure (cursorID, cursor)) with
  | .error refusal => (s, .error refusal)
  | .ok (cursorID, cursor) =>
    let closed := closeCursor cursor
    ({ s with cursors := s.cursors.insert cursorID closed.1 },
      match closed.2 with
      | some err => .error (refuse errSQLSyntax err)
      | none => .ok .null)

def handleExecRun (params : Params ExecRunParams) (world : World) : World × Answer :=
  match (do
    let p ← decoded params
    let conn ← knownConn s p.connID
    let args ← decoded p.args
    let execer ← executorFor s conn p.txID p.connID
    pure (p, args, execer)) with
  | .error refusal => (world, .error refusal)
  | .ok (p, args, execer) =>
    match execer.exec rt p.sql args world with
    | (world, .error err) => (world, .error (refuse errSQLSyntax err))
    | (world, .ok res) =>
      (world, match rowsAffected res with
        | .error err => .error (refuse errSQLSyntax err)
        | .ok affected => .ok (.affected affected))

/-! ## Batches -/

/-- The outcome of one statement of a batch: the affected rows, or the operation
that failed and its error. -/
def batchStatement (execer : Executor) (index : Nat) (statement : String) (world : World) :
    World × Except (String × String) Nat :=
  match execer.exec rt statement [] world with
  | (world, .error err) =>
    (world, .error ("execute batch statement " ++ toString index, err))
  | (world, .ok res) =>
    (world, (rowsAffected res).mapError fun err =>
      ("read batch statement " ++ toString index ++ " result", err))

/-- The loop over the statements: results, reported errors and the joined error. -/
def runBatch (execer : Executor) (stopOnError : Bool) :
    List String → Nat → World → World × List Nat × List BatchError × Option String
  | [], _, world => (world, [], [], none)
  | statement :: rest, index, world =>
    match batchStatement rt execer index statement world with
    | (world, .ok affected) =>
      let tail := runBatch execer stopOnError rest (index + 1) world
      (tail.1, affected :: tail.2.1, tail.2.2)
    | (world, .error (operation, err)) =>
      let item : BatchError := ⟨index, errSQLSyntax, err⟩
      let wrapped := operation ++ ": " ++ err
      if stopOnError then (world, 0 :: rest.map (fun _ => 0), [item], some wrapped)
      else
        let tail := runBatch execer stopOnError rest (index + 1) world
        (tail.1, 0 :: tail.2.1, item :: tail.2.2.1,
          match tail.2.2.2 with
          | none => some wrapped
          | some later => some (wrapped ++ "\n" ++ later))

/-- End the transaction of a batch: roll back when an error was reported. -/
def endBatch (tx : Tx) (errors : List BatchError) (batchErr : Option String) (world : World) :
    World × Option String :=
  if errors ≠ [] then
    match tx.rollback rt world with
    | (_, world, some err) =>
      (world, joinCleanupError batchErr "rollback failed batch" (some err))
    | (_, world, none) => (world, none)
  else
    let answer := tx.commit rt world
    answer.2

def handleExecBatch (params : Params ExecBatchParams) (world : World) : World × Answer :=
  match (do
    let p ← decoded params
    let conn ← knownConn s p.connID
    pure (p, conn)) with
  | .error refusal => (world, .error refusal)
  | .ok (p, conn) =>
    if p.inTransaction then
      match rt.beginTx conn.db {} world with
      | (world, .error err) => (world, .error (refuse errSQLSyntax err))
      | (world, .ok handle) =>
        match runBatch rt (.tx ⟨handle, false⟩) p.stopOnError p.statements 0 world with
        | (world, results, errors, batchErr) =>
          match endBatch rt ⟨handle, false⟩ errors batchErr world with
          | (world, some err) => (world, .error (refuse errSQLSyntax err))
          | (world, none) => (world, .ok (.batch results errors))
    else
      match runBatch rt (.db conn.db) p.stopOnError p.statements 0 world with
      | (world, results, errors, _) => (world, .ok (.batch results errors))

end Queries

/-! ## Transactions -/

section Transactions

variable (rt : Runtime World) (s : Server World)

def isolationLevel (value : String) : IsolationLevel :=
  match value with
  | "read_uncommitted" => .readUncommitted
  | "read_committed" => .readCommitted
  | "repeatable_read" => .repeatableRead
  | "serializable" => .serializable
  | _ => .default

def txName (n : Nat) : String := s.spec.id ++ "-tx-" ++ toString n

def handleTxBegin (params : Params TxBeginParams) (world : World) :
    Server World × World × Reply :=
  match (do
    let p ← decoded params
    let conn ← knownConn s p.connID
    pure (p, conn)) with
  | .error refusal => (s, world, .error refusal)
  | .ok (p, conn) =>
    match rt.beginTx conn.db ⟨isolationLevel p.isolation, p.readOnly⟩ world with
    | (world, .error err) => (s, world, .error (refuse errSQLSyntax err))
    | (world, .ok handle) =>
      ({ s with
        nextTx := s.nextTx + 1
        txs := s.txs.insert (txName s s.nextTx) ⟨p.connID, ⟨handle, false⟩⟩ },
        world, .ok (.txBegun (txName s s.nextTx)))

/-- The end of `tx/commit` and of `tx/rollback`: the entry goes only when the
driver reports no error; otherwise the finished transaction stays in the table. -/
def settleTx (txID : String) (tx : TxState) (ended : Tx × World × Option String) :
    Server World × World × Answer :=
  match ended with
  | (finished, world, some err) =>
    -- `delete(s.txs, …)` stands after the early return.
    ({ s with txs := s.txs.insert txID { tx with tx := finished } }, world,
      .error (refuse errSQLSyntax err))
  | (_, world, none) => ({ s with txs := s.txs.erase txID }, world, .ok .null)

def handleTxCommit (params : Params String) (world : World) : Server World × World × Answer :=
  match (do
    let txID ← decoded params
    let tx ← knownTx s txID
    pure (txID, tx)) with
  | .error refusal => (s, world, .error refusal)
  | .ok (txID, tx) => settleTx s txID tx (tx.tx.commit rt world)

def execSavepoint (tx : TxState) (statement : String) (world : World) : World × Answer :=
  match (Executor.tx tx.tx).exec rt statement [] world with
  | (world, .error err) => (world, .error (refuse errSQLSyntax err))
  | (world, .ok _) => (world, .ok .null)

def handleTxRollback (params : Params TxRollbackParams) (world : World) :
    Server World × World × Answer :=
  match (do
    let p ← decoded params
    let tx ← knownTx s p.txID
    pure (p, tx)) with
  | .error refusal => (s, world, .error refusal)
  | .ok (p, tx) =>
    if p.toSavepoint ≠ "" then
      (s, execSavepoint rt tx
        ("ROLLBACK TO SAVEPOINT " ++ quoteIdentifier s.spec p.toSavepoint) world)
    else settleTx s p.txID tx (tx.tx.rollback rt world)

/-- `handleTxSavepoint` and `handleTxRelease`, with the words of their statement. -/
def handleSavepoint (words : String) (params : Params SavepointParams) (world : World) :
    World × Answer :=
  match (do
    let p ← decoded params
    let tx ← knownTx s p.txID
    if p.name = "" then throw (missingParameter "name")
    pure (p, tx)) with
  | .error refusal => (world, .error refusal)
  | .ok (p, tx) => execSavepoint rt tx (words ++ quoteIdentifier s.spec p.name) world

def handleTxSavepoint : Params SavepointParams → World → World × Answer :=
  handleSavepoint rt s "SAVEPOINT "

def handleTxRelease : Params SavepointParams → World → World × Answer :=
  handleSavepoint rt s "RELEASE SAVEPOINT "

end Transactions

/-! ## Statement builders -/

section Ddl

variable (s : Server World)

def databaseName (payload : DatabasePayload) : Except ProtocolError String :=
  let name := trimSpace payload.databaseName
  let name := if name = "" then trimSpace payload.name else name
  if name = "" then .error (refuse errInvalidParams "database name is required") else .ok name

def databaseStatement (spec : DriverSpec World) (words : String)
    (payload : Params DatabasePayload) : Answer := do
  let payload ← decoded payload
  let name ← databaseName payload
  let sqlText := words ++ quoteIdentifier spec name
  pure (.statements (some sqlText) [sqlText] [] [])

def dropStatement (spec : DriverSpec World) (p : DropParams) : Except ProtocolError String :=
  decoded (buildDropSQL spec p.kind p.database p.schema p.name p.ifExists p.cascade)

def handleDdlBuild (params : Params (Nat × DdlOp)) : Answer := do
  let (connID, op) ← decoded params
  let spec ← ddlSpecForRequest s connID
  let drop (kind : String) (payload : Params DropParams) : Answer := do
    let payload ← decoded payload
    let sqlText ← dropStatement spec
      { payload with kind := if payload.kind = "" then kind else payload.kind }
    pure (.statements none [sqlText] [] [])
  match op with
  | .createDatabase payload => databaseStatement spec "CREATE DATABASE " payload
  | .dropDatabase payload => databaseStatement spec "DROP DATABASE " payload
  | .createTable payload =>
    let payload ← decoded payload
    let built ← decoded (buildCreateTableSQL spec payload.spec payload.options)
    pure (.statements none built.2 [] [])
  | .dropTable payload => drop "table" payload
  | .dropView payload => drop "view" payload
  | .other op => throw (refuse errNotSupported
      ("ddl op " ++ quoted op ++ " is not supported by the generic builder"))

def handleDdlBuildCreateTable (params : Params (Nat × CreateTablePayload)) : Answer := do
  let (connID, p) ← decoded params
  let spec ← ddlSpecForRequest s connID
  let (sqlText, statements) ← decoded (buildCreateTableSQL spec p.spec p.options)
  pure (.statements (some sqlText) statements [] [])

def handleDdlBuildAlterTable (params : Params (Nat × AlterTableParams)) : Answer := do
  let (connID, p) ← decoded params
  let spec ← ddlSpecForRequest s connID
  let (statements, rollback, warnings) ←
    decoded (buildAlterTableSQL spec p.fromSpec p.toSpec p.columnRenames p.options)
  pure (.statements none statements rollback warnings)

def handleDdlBuildDrop (params : Params (Nat × DropParams)) : Answer := do
  let (connID, p) ← decoded params
  let spec ← ddlSpecForRequest s connID
  let sqlText ← dropStatement spec p
  pure (.statements (some sqlText) [] [] [])

end Ddl

/-! ## Export, import and streams -/

section DataTransfer

variable (rt : Runtime World) (s : Server World)

def handleDataExport (params : Params DataExportParams) (world : World) :
    Server World × World × Answer :=
  match (do
    let p ← decoded params
    let conn ← knownConn s p.connID
    if p.streamID = "" then throw (missingParameter "stream_id")
    let sqlText ← decoded (buildExportSQL s.spec p.table p.schema p.database p.sql p.whereClause
      p.includeColumns p.excludeColumns)
    let args ← decoded p.args
    pure (p, conn, sqlText, args)) with
  | .error refusal => (s, world, .error refusal)
  | .ok (p, conn, sqlText, args) =>
    match exportRows rt (.db conn.db) sqlText p.format args p.options world with
    | (world, .error err) => (s, world, .error (refuse errNotSupported err))
    | (world, .ok (data, columns, count)) =>
      ({ s with streams := s.streams.insert p.streamID { data } }, world,
        .ok (.exported data.length count columns p.format))

def importName (n : Nat) : String := s.spec.id ++ "-import-" ++ toString n

def handleDataImportBegin (params : Params ImportBeginParams) (world : World) :
    Server World × Reply :=
  match (do
    let p ← decoded params
    let _ ← knownConn s p.connID
    if p.format ∉ ["json", "ndjson", "csv"] then
      throw (refuse errNotSupported ("import format " ++ quoted p.format ++
        " is not supported by the generic database/sql driver"))
    pure p) with
  | .error refusal => (s, .error refusal)
  | .ok p =>
    -- Nothing reaches the database before the first chunk.
    let imp : ImportState :=
      { connID := p.connID, table := p.table, schema := p.schema, database := p.database,
        columns := p.columns, format := p.format, started := rt.milliseconds world }
    ({ s with
      nextImport := s.nextImport + 1
      imports := s.imports.insert (importName s s.nextImport) imp },
      .ok (.importBegun (importName s s.nextImport)))

/-- The loop over the rows of a chunk: the number inserted and the failed rows. -/
def insertRows (db : Db) (sqlText : String) :
    List (Except String (List SqlValue)) → Nat → World → World × Nat × List FailedRow
  | [], _, world => (world, 0, [])
  | row :: rest, index, world =>
    let answer := match row with
      | .error err => (world, some err)
      | .ok args =>
        match rt.execDb db sqlText args world with
        | (world, .error err) => (world, some err)
        | (world, .ok _) => (world, none)
    let tail := insertRows db sqlText rest (index + 1) answer.1
    match answer.2 with
    | some err => (tail.1, tail.2.1, ⟨index, err, errSQLSyntax⟩ :: tail.2.2)
    | none => (tail.1, tail.2.1 + 1, tail.2.2)

def handleDataImportChunk (params : Params ImportChunkParams) (world : World) :
    Server World × World × Answer :=
  match (do
    let p ← decoded params
    let imp ← knownImport s p.importID
    let conn ← knownConn s imp.connID
    let sqlText ← decoded (buildInsertSQL s.spec imp)
    pure (p, imp, conn, sqlText)) with
  | .error refusal => (s, world, .error refusal)
  | .ok (p, imp, conn, sqlText) =>
    match insertRows rt conn.db sqlText p.rows 0 world with
    | (world, inserted, failed) =>
      let imp := { imp with inserted := imp.inserted + inserted, failed := imp.failed ++ failed }
      ({ s with imports := s.imports.insert p.importID imp }, world,
        .ok (.chunkDone inserted failed))

def handleDataImportCommit (params : Params String) (world : World) : Server World × Answer :=
  match (do
    let importID ← decoded params
    let imp ← knownImport s importID
    pure (importID, imp)) with
  | .error refusal => (s, .error refusal)
  | .ok (importID, imp) =>
    ({ s with imports := s.imports.erase importID },
      .ok (.importDone imp.inserted imp.failed (rt.milliseconds world - imp.started)))

def handleDataImportAbort (params : Params String) : Server World × Answer :=
  match decoded params with
  | .error refusal => (s, .error refusal)
  | .ok importID => ({ s with imports := s.imports.erase importID }, .ok .null)

def handleStreamRead (params : Params StreamReadParams) : Server World × Answer :=
  match decoded params with
  | .error refusal => (s, .error refusal)
  | .ok p =>
    match s.streams.lookup p.streamID with
    | none => (s, .error (refuse errInvalidParams ("unknown stream_id `" ++ p.streamID ++ "`")))
    | some stream =>
      match streamReadChunk stream (p.maxBytes.getD 0) with
      | (data, done, stream) =>
        ({ s with streams := if done then s.streams.erase p.streamID
            else s.streams.insert p.streamID stream },
          .ok (.streamChunk data done))

def handleStreamClose (params : Params String) : Server World × Answer :=
  match decoded params with
  | .error refusal => (s, .error refusal)
  | .ok streamID => ({ s with streams := s.streams.erase streamID }, .ok .null)

end DataTransfer

/-! ## Dispatch -/

section Dispatch

variable (rt : Runtime World) (s : Server World)

def handleInit (params : InitParams) : Server World × Answer :=
  match validateHostVersion params with
  | some err => (s, .error (refuse errServerIncompatible err))
  | none => ({ s with initialized := true }, .ok (.ready [s.spec.id] (s.spec.name ++ " IPC Driver")))

def handleShutdown (world : World) : Server World × World × Answer :=
  match closeAll rt s world with
  | (s, world, some err) => (s, world, .error (refuse errConnectionFailed err))
  | (s, world, none) => (s, world, .ok .null)

def handleSchemaCall (call : SchemaCall) (params : Params SchemaParams) (world : World) :
    World × Answer :=
  match (do
    let p ← decoded params
    let conn ← knownConn s p.connID
    pure (p, conn)) with
  | .error refusal => (world, .error refusal)
  | .ok (p, conn) => handleSchema rt conn p call world

def handleDump (params : Params DumpParams) (world : World) : World × Answer :=
  match (do
    let p ← decoded params
    let conn ← knownConn s p.connID
    pure (p, conn)) with
  | .error refusal => (world, .error refusal)
  | .ok (p, conn) => handleSchemaDumpDDL rt conn p world

/-- The calls that are answered before `init`. -/
def Call.beforeInit : Call → Bool
  | .init _ | .ping | .shutdown => true
  | _ => false

/-- A reply that changes no table. -/
def unchanged (answer : World × Answer) : Server World × World × Reply :=
  (s, answer.1, answer.2.reply)

/-- A reply that reaches no driver. -/
def inProcess (world : World) (answer : Server World × Answer) : Server World × World × Reply :=
  (answer.1, world, answer.2.reply)

def changed (answer : Server World × World × Answer) : Server World × World × Reply :=
  (answer.1, answer.2.1, answer.2.2.reply)

/-- The `switch` on the method. -/
def dispatch (world : World) : Call → Server World × World × Reply
  | .init params => inProcess world (handleInit s params)
  | .ping => unchanged s (world, .ok .pong)
  | .shutdown => changed (handleShutdown rt s world)
  | .connTest params => unchanged s (handleConnTest rt s params world)
  | .connOpen params => handleConnOpen rt s params world
  | .connClose params => changed (handleConnClose rt s params world)
  | .connPing params => unchanged s (handleConnPing rt s params world)
  | .connUse params => inProcess world (handleConnUse s params)
  | .queryStart params => handleQueryStart rt s params world
  | .cursorFetch params => inProcess world (handleCursorFetch rt s params)
  | .cursorClose params => inProcess world (handleCursorClose s params)
  | .cursorCancel params => inProcess world (handleCursorCancel s params)
  | .execRun params => unchanged s (handleExecRun rt s params world)
  | .execBatch params => unchanged s (handleExecBatch rt s params world)
  | .txBegin params => handleTxBegin rt s params world
  | .txCommit params => changed (handleTxCommit rt s params world)
  | .txRollback params => changed (handleTxRollback rt s params world)
  | .txSavepoint params => unchanged s (handleTxSavepoint rt s params world)
  | .txRelease params => unchanged s (handleTxRelease rt s params world)
  | .ddlBuild params => unchanged s (world, handleDdlBuild s params)
  | .ddlBuildCreateTable params => unchanged s (world, handleDdlBuildCreateTable s params)
  | .ddlBuildAlterTable params => unchanged s (world, handleDdlBuildAlterTable s params)
  | .ddlBuildDrop params => unchanged s (world, handleDdlBuildDrop s params)
  | .dataExport params => changed (handleDataExport rt s params world)
  | .dataImportBegin params =>
    let answer := handleDataImportBegin rt s params world
    (answer.1, world, answer.2)
  | .dataImportChunk params => changed (handleDataImportChunk rt s params world)
  | .dataImportCommit params => inProcess world (handleDataImportCommit rt s params world)
  | .dataImportAbort params => inProcess world (handleDataImportAbort s params)
  | .streamRead params => inProcess world (handleStreamRead s params)
  | .streamClose params => inProcess world (handleStreamClose s params)
  | .schema call params => unchanged s (handleSchemaCall rt s call params world)
  | .schemaDumpDDL params => unchanged s (handleDump rt s params world)
  | .other method => unchanged s (world, .error (refuse errMethodNotFound
      ("method `" ++ method ++ "` is not implemented")))

def handle (world : World) (req : Message) : Server World × World × Response :=
  if req.jsonrpc ≠ "" ∧ req.jsonrpc ≠ "2.0" then
    (s, world, ⟨req.id, .error (refuse errInvalidRequest "jsonrpc must be 2.0")⟩)
  else
    let id := if req.id = "" then "null" else req.id
    if !req.call.beforeInit && !s.initialized then
      (s, world, ⟨id, .error (refuse errNotInitialized "init must be called first")⟩)
    else
      let answer := dispatch rt s world req.call
      (answer.1, answer.2.1, ⟨id, answer.2.2⟩)

def machine : Machine (Server World × World) Message Response where
  step state req :=
    let answer := handle rt state.1 state.2 req
    ((answer.1, answer.2.1), answer.2.2)

end Dispatch

end Onetcli.DbIpc
