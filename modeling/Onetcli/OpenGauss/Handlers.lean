import Onetcli.ProtocolCalls
import Onetcli.Lib.Tables
import Onetcli.Lib.Runs
import Onetcli.OpenGauss.Ddl
import Onetcli.Lib.FailureLimits

/-!
Transactions and batches of the openGauss driver: the `tx_conn` table of
extensions/ipc/opengauss/src/state.rs, the statements that session.rs sends and
the handlers of handlers.rs. All transactions of a client share its one session.
-/

namespace Onetcli.OpenGauss

open Tables Runs Protocol

/-- The client of the session, and the process's source of UUIDs. -/
structure Client (World : Type) where
  batchExecute : String → World → World × Option String
  execute : String → World → World × Except String Nat
  newUuid : World → World × String

structure ConnectionState where
  txConn : Table TxId Bool := ∅

namespace ConnectionState

variable (state : ConnectionState) (txId : TxId)

def insertTx : ConnectionState := { state with txConn := state.txConn.insert txId true }

def hasTx : Bool := (state.txConn.lookup txId).isSome

def removeTx : ConnectionState := { state with txConn := state.txConn.erase txId }

end ConnectionState

section Handlers

variable {World : Type} (client : Client World) (state : ConnectionState)

/-- `simple_execute`, with the code and the error chain the handlers give its error. -/
def simpleExecute (sql : String) (world : World) : World × Option ProtocolError :=
  match client.batchExecute sql world with
  | (world, none) => (world, none)
  | (world, some err) =>
    (world, some ⟨.sqlSyntaxError, "failed to execute OpenGauss batch `" ++ sql ++ "`: " ++ err⟩)

def isolationWords : IsolationLevel → String
  | .readUncommitted => "READ UNCOMMITTED"
  | .readCommitted => "READ COMMITTED"
  | .repeatableRead => "REPEATABLE READ"
  | .serializable => "SERIALIZABLE"
  | .default => "READ COMMITTED"

def beginSql (p : TxBeginParams) : String :=
  "BEGIN" ++
    (match p.isolation with
      | some isolation => " ISOLATION LEVEL " ++ isolationWords isolation
      | none => "") ++
    (if p.readOnly then " READ ONLY" else "") ++
    (match p.deferrable with
      | some true => " DEFERRABLE"
      | some false => " NOT DEFERRABLE"
      | none => "")

def txName (uuid : String) : TxId := "opengauss-tx-" ++ uuid

def handleTxBegin (params : Params TxBeginParams) (world : World) :
    ConnectionState × World × Answer :=
  match decoded params with
  | .error refusal => (state, world, .error refusal)
  | .ok p =>
    -- Live ids are not asked for: inside a transaction BEGIN only earns a warning.
    match simpleExecute client (beginSql p) world with
    | (world, some err) => (state, world, .error err)
    | (world, none) =>
      match client.newUuid world with
      | (world, uuid) =>
        (state.insertTx (txName uuid), world, .ok (.txBegun (txName uuid)))

/-- A statement that answers with nothing. -/
def nullAnswer (executed : World × Option ProtocolError) : World × Answer :=
  match executed with
  | (world, none) => (world, .ok .null)
  | (world, some err) => (world, .error err)

def handleTxCommit (params : Params TxId) (world : World) : ConnectionState × World × Answer :=
  match decoded params with
  | .error refusal => (state, world, .error refusal)
  | .ok txId =>
    if state.hasTx txId then
      -- `remove_tx` comes first, so the id is gone also when COMMIT fails.
      (state.removeTx txId, nullAnswer (simpleExecute client "COMMIT" world))
    else (state, world, .error (unknownTx txId))

/-- The statement that the words begin, on a quoted savepoint. -/
def savepointSql (words savepoint : String) : String := words ++ quoteIdentifier savepoint

def handleTxRollback (params : Params TxRollbackParams) (world : World) :
    ConnectionState × World × Answer :=
  match decoded params with
  | .error refusal => (state, world, .error refusal)
  | .ok p =>
    if state.hasTx p.txId then
      match p.toSavepoint with
      | some savepoint =>
        (state, nullAnswer
          (simpleExecute client (savepointSql "ROLLBACK TO SAVEPOINT " savepoint) world))
      | none =>
        (state.removeTx p.txId, nullAnswer (simpleExecute client "ROLLBACK" world))
    else (state, world, .error (unknownTx p.txId))

/-- `handle_tx_savepoint` and `handle_tx_release`, with the words of their statement. -/
def handleSavepoint (words : String) (params : Params TxSavepointParams) (world : World) :
    World × Answer :=
  match decoded params with
  | .error refusal => (world, .error refusal)
  | .ok p =>
    if state.hasTx p.txId then
      nullAnswer (simpleExecute client (savepointSql words p.name) world)
    else (world, .error (unknownTx p.txId))

def handleTxSavepoint : Params TxSavepointParams → World → World × Answer :=
  handleSavepoint client state "SAVEPOINT "

def handleTxRelease : Params TxSavepointParams → World → World × Answer :=
  handleSavepoint client state "RELEASE SAVEPOINT "

/-! ## Batches -/

/-- `execute_batch`: the first statement that fails ends it. -/
def executeBatch : List String → World → World × Except String (List Nat)
  | [], world => (world, .ok [])
  | statement :: rest, world =>
    match client.execute statement world with
    | (world, .error err) =>
      (world, .error
        ("failed to execute OpenGauss statement `" ++ statement ++ "`: " ++ err))
    | (world, .ok affected) =>
      match executeBatch rest world with
      | (world, .error err) => (world, .error err)
      | (world, .ok results) => (world, .ok (affected :: results))

/-- Neither `stop_on_error` nor `in_transaction` is looked at. -/
def handleExecBatch (params : Params ExecBatchParams) (world : World) : World × Answer :=
  match decoded params with
  | .error refusal => (world, .error refusal)
  | .ok p =>
    match executeBatch client p.statements world with
    | (world, .error err) => (world, .error ⟨.sqlSyntaxError, err⟩)
    | (world, .ok results) => (world, .ok (.batch { results }))

end Handlers

/-! ## Dispatch -/

inductive Call where
  | txBegin (params : Params TxBeginParams)
  | txCommit (params : Params TxId)
  | txRollback (params : Params TxRollbackParams)
  | txSavepoint (params : Params TxSavepointParams)
  | txRelease (params : Params TxSavepointParams)

variable {World : Type} (client : Client World)

def call (state : ConnectionState) (world : World) : Call → ConnectionState × World × Answer
  | .txBegin params => handleTxBegin client state params world
  | .txCommit params => handleTxCommit client state params world
  | .txRollback params => handleTxRollback client state params world
  | .txSavepoint params => (state, handleTxSavepoint client state params world)
  | .txRelease params => (state, handleTxRelease client state params world)

end Onetcli.OpenGauss

/-!
Imports of the openGauss driver: the `imports` table of extensions/ipc/opengauss/src/state.rs and
`data/import_begin` and `data/import_chunk` of handlers.rs. The failures that end a chunk are
counted in the list that the chunk answers with.
-/

namespace Onetcli.OpenGauss

open Tables Runs Protocol Text FailureLimits

structure FailedRow where
  rowIndex : Nat
  message : String
  code : Int := 0
  deriving DecidableEq

structure ImportState where
  table : String
  schema : Option String
  database : Option String
  columns : List String
  options : ImportOptions
  inserted : Nat := 0
  failed : List FailedRow := []
  nextRow : Nat := 0

namespace ImportState

variable (imp : ImportState)

def recordInserted : ImportState :=
  { imp with inserted := saturatingSucc imp.inserted, nextRow := saturatingSucc imp.nextRow }

def recordFailed (message : String) (code : Int) : ImportState × Option FailedRow :=
  let failed : FailedRow := ⟨imp.nextRow, message, code⟩
  let imp := { imp with nextRow := saturatingSucc imp.nextRow }
  if imp.options.trackFailedRows then ({ imp with failed := imp.failed ++ [failed] }, some failed)
  else (imp, none)

end ImportState

abbrev Imports := Table ImportId ImportState

structure ChunkParams (Cell : Type) where
  importId : ImportId
  rows : List (List Cell)

structure ChunkResult where
  inserted : Nat
  failed : List FailedRow
  deriving DecidableEq

def insertSql (imp : ImportState) : String :=
  let names (columns : List String) := String.intercalate ", " (columns.map quoteIdentifier)
  let placeholders := (List.range' 1 imp.columns.length).map fun index => "$" ++ toString index
  "INSERT INTO " ++ qualifiedName imp.database imp.schema imp.table ++ " (" ++ names imp.columns ++
    ") VALUES (" ++ String.intercalate ", " placeholders ++ ")" ++
    if imp.options.upsert then
      if imp.options.onConflictColumns = [] then " ON CONFLICT DO NOTHING"
      else " ON CONFLICT (" ++ names imp.options.onConflictColumns ++ ") DO NOTHING"
    else ""

def buildInsertSql {Cell : Type} (imp : ImportState) (row : List Cell) :
    Except ProtocolError (String × List Cell) :=
  if row.length ≠ imp.columns.length then
    .error (invalidParams ("import row has " ++ toString row.length ++ " cells but " ++
      toString imp.columns.length ++ " columns were declared"))
  else .ok (insertSql imp, row)

/-- The session's client, as the rows of an import use it. -/
structure RowClient (Cell World : Type) where
  execute : String → List Cell → World → World × Except String Nat
  newUuid : World → World × String

/-- `abort_on_failures` after a failure: the length is cast to 32 bits. -/
def aborts (options : ImportOptions) (failed : Nat) : Bool :=
  options.abortOnFailures.any fun limit => limit ≤ failed % 2 ^ 32

/-- What became of the rows of a chunk: the outcomes of those that were executed, in order, the
rows that were not, and the answer. -/
structure ChunkRun (Cell World : Type) where
  imports : Imports
  world : World
  executed : List Outcome := []
  left : List (List Cell) := []
  answer : Except ProtocolError ChunkResult

def ChunkRun.after {Cell World : Type} (outcome : Outcome) (run : ChunkRun Cell World) :
    ChunkRun Cell World :=
  { run with executed := outcome :: run.executed }

section Handlers

variable {Cell World : Type} (client : RowClient Cell World)

def importName (uuid : String) : ImportId := "opengauss-import-" ++ uuid

def handleDataImportBegin (imports : Imports) (params : Params ImportBeginParams) (world : World) :
    Imports × World × Except ProtocolError ImportId :=
  match decoded params with
  | .error refusal => (imports, world, .error refusal)
  | .ok p =>
    if p.columns = [] then
      (imports, world, .error (invalidParams "data/import_begin requires explicit columns"))
    else
      match client.newUuid world with
      | (world, uuid) =>
        (imports.insert (importName uuid)
          { table := p.table, schema := p.schema, database := p.database, columns := p.columns,
            options := p.options }, world, .ok (importName uuid))

/-- The loop over the rows of a chunk, with what it has inserted and the failed rows it has
listed. The import is looked up for every row, and for an empty chunk not at all. -/
def insertRows (importId : ImportId) :
    List (List Cell) → Imports → World → Nat → List FailedRow → ChunkRun Cell World
  | [], imports, world, inserted, failed => { imports, world, answer := .ok ⟨inserted, failed⟩ }
  | row :: rest, imports, world, inserted, failed =>
    match imports.lookup importId with
    | none => { imports, world, left := row :: rest, answer := .error (unknownImport importId) }
    | some imp =>
      match buildInsertSql imp row with
      | .error refusal => { imports, world, left := row :: rest, answer := .error refusal }
      | .ok (sql, params) =>
        match client.execute sql params world with
        | (world, .ok _) =>
          (insertRows importId rest (imports.insert importId imp.recordInserted) world
            (saturatingSucc inserted) failed).after .done
        | (world, .error err) =>
          let recorded := imp.recordFailed err 0
          let imports := imports.insert importId recorded.1
          let failed := failed ++ recorded.2.toList
          if aborts imp.options failed.length then
            { imports, world, executed := [.failed], left := rest,
              answer := .ok ⟨inserted, failed⟩ }
          else (insertRows importId rest imports world inserted failed).after .failed

def handleDataImportChunk (imports : Imports) (params : Params (ChunkParams Cell))
    (world : World) : ChunkRun Cell World :=
  match decoded params with
  | .error refusal => { imports, world, answer := .error refusal }
  | .ok p => insertRows client p.importId p.rows imports world 0 []

end Handlers

end Onetcli.OpenGauss
