import Onetcli.Lib.Jdbc
import Onetcli.Lib.Runs
import Onetcli.Lib.Tables

/-!
Connections, transactions and imports of OscarIpcServer.java and of
GBase8sIpcServer.java. The GBase 8s server asks once for each connection whether its
database has logging and leaves the JDBC calls of a transaction out if not; in all else
the two are the same code. How the JDBC calls of a request end is part of the input, and
a call that throws leaves the connection as it was.
-/

namespace Onetcli.JavaIpc

open Jdbc Runs Tables

inductive Driver where
  | oscar
  | gbase8s
  deriving DecidableEq

def Driver.id : Driver → String
  | .oscar => "oscar"
  | .gbase8s => "gbase8s"

/-- A statement and the transaction that was active when it ran. -/
structure Work where
  sql : String
  tx : Option String
  deriving DecidableEq

/-- `closeCommits` tells what closing does with open work, `catalog` what `is_logging`
of the database of a connection is, where it can be read. -/
structure Outside where
  driver : Driver
  closeCommits : Bool
  catalog : Nat → Option String

/-- The JDBC calls that may throw. `restore` is `setAutoCommit` with the flag that the
connection had before, `disable` is `setAutoCommit(false)`. -/
inductive Call where
  | getAutoCommit
  | disable
  | commit
  | rollback
  | rollbackTo
  | setSavepoint
  | releaseSavepoint
  | restore
  | close

/-- `opened` is the auto-commit flag of a connection that can be opened, `throws` says
which calls on which connection throw and `rejects` which statements of the request. -/
structure Outcomes where
  opened : Option Bool
  throws : Call → Nat → Bool
  rejects : Nat → Bool

structure ConnectionState where
  connection : Connection Work
  originalAutoCommit : Bool := true
  activeTxId : Option String := none
  logging : Bool := true
  loggingChecked : Bool := false

/-- A savepoint is `null` where the database has no logging. -/
structure TxState where
  connId : Nat
  savepoints : Table String (Option Nat) := ∅

structure ImportState where
  connId : Nat
  schema : String
  table : String
  columns : List String

structure Server where
  initialized : Bool := false
  connections : Table Nat ConnectionState := ∅
  transactions : Table String TxState := ∅
  imports : Table String ImportState := ∅
  nextConnId : Nat := 1
  nextTxId : Nat := 1
  nextImportId : Nat := 1

inductive Result where
  | null
  | connId (connId : Nat)
  | txId (txId : String)
  | importId (importId : String)
  | executed

/-- `thrown` stands for the error that an exception of a JDBC call becomes. -/
inductive Reply where
  | ok (result : Result)
  | error (code : Int) (message : String)
  | thrown

abbrev Answer := Server × List (Event Work) × Reply

def Server.put (s : Server) (connId : Nat) (state : ConnectionState) : Server :=
  { s with connections := s.connections.insert connId state }

def unknownConn (connId : Nat) : Reply :=
  .error (-32007) ("unknown conn_id " ++ toString connId)

def invalidParams (message : String) : Reply := .error (-32602) message

section Handlers

variable (o : Outside) (s : Server) (out : Outcomes)

def requireTransaction (txId : String) : Except Reply TxState :=
  match s.transactions.lookup txId with
  | none => .error (invalidParams ("unknown tx_id `" ++ txId ++ "`"))
  | some tx => .ok tx

def requireConnection (connId : Nat) (txId : Option String) : Except Reply ConnectionState :=
  match s.connections.lookup connId with
  | none => .error (unknownConn connId)
  | some state =>
    match txId with
    | none => .ok state
    | some txId => do
      let tx ← requireTransaction s txId
      if tx.connId = connId then pure state
      else throw (invalidParams ("tx_id `" ++ txId ++ "` does not belong to conn_id " ++
        toString connId))

/-! ## Connections -/

def handleConnOpen : Answer :=
  match out.opened with
  | none => (s, [], .thrown)
  | some flag =>
    ({ s.put s.nextConnId { connection := { initial := flag, autoCommit := flag } } with
        nextConnId := s.nextConnId + 1 },
      [], .ok (.connId s.nextConnId))

def closeTransactions (connId : Nat) : List String → Server → Server × List (Event Work) × Bool
  | [], s => (s, [], false)
  | txId :: rest, s =>
    match s.connections.lookup connId with
    | none => closeTransactions connId rest { s with transactions := s.transactions.erase txId }
    | some state =>
      if out.throws .rollback connId then (s, [], true)
      else
        let state := { state with connection := state.connection.rollback }
        if out.throws .restore connId then (s.put connId state, [], true)
        else
          let restored := state.connection.setAutoCommit state.originalAutoCommit
          let closed := s.put connId
            { state with connection := restored.1, activeTxId := none }
          let others := closeTransactions connId rest
            { closed with transactions := closed.transactions.erase txId }
          (others.1, restored.2 ++ others.2.1, others.2.2)

def closeTransactionsForConn (connId : Nat) : Server × List (Event Work) × Bool :=
  closeTransactions out connId
    ((s.transactions.entries.filter fun entry => entry.2.connId = connId).map Sigma.fst) s

def eraseAll {Value : Type} (table : Table String Value) (keys : List String) :
    Table String Value := keys.foldl (fun table key => table.erase key) table

def closeImportsForConn (connId : Nat) : Server :=
  let ids := (s.imports.entries.filter fun entry => entry.2.connId = connId).map Sigma.fst
  { s with imports := eraseAll s.imports ids }

def handleConnClose (connId : Nat) : Answer :=
  match s.connections.lookup connId with
  | none => (s, [], unknownConn connId)
  | some state =>
    let ended := closeTransactionsForConn { s with connections := s.connections.erase connId }
      out connId
    if ended.2.2 then (ended.1, ended.2.1, .thrown)
    else
      let s := closeImportsForConn ended.1 connId
      if out.throws .close connId then (s, ended.2.1, .thrown)
      else (s, ended.2.1 ++ state.connection.close o.closeCommits, .ok .null)

/-- Exceptions are kept until everything is closed. -/
def rollbackAll : List TxState → Server → Server × List (Event Work) × Bool
  | [], s => (s, [], false)
  | tx :: rest, s =>
    match s.connections.lookup tx.connId with
    | none => rollbackAll rest s
    | some state =>
      if out.throws .rollback tx.connId then
        let others := rollbackAll rest s
        (others.1, others.2.1, true)
      else
        let state := { state with connection := state.connection.rollback }
        if out.throws .restore tx.connId then
          let others := rollbackAll rest (s.put tx.connId state)
          (others.1, others.2.1, true)
        else
          let restored := state.connection.setAutoCommit state.originalAutoCommit
          let others := rollbackAll rest
            (s.put tx.connId { state with connection := restored.1 })
          (others.1, restored.2 ++ others.2.1, others.2.2)

def closeConnections : List (Nat × ConnectionState) → List (Event Work) × Bool
  | [] => ([], false)
  | (connId, state) :: rest =>
    let others := closeConnections rest
    if out.throws .close connId then (others.1, true)
    else (state.connection.close o.closeCommits ++ others.1, others.2)

def closeAll : Answer :=
  let ended := rollbackAll out (s.transactions.entries.map (·.2)) s
  let closed := closeConnections o out
    (ended.1.connections.entries.map fun entry => (entry.1, entry.2))
  ({ ended.1 with transactions := ∅, imports := ∅, connections := ∅ },
    ended.2.1 ++ closed.1, if ended.2.2 || closed.2 then .thrown else .ok .null)

/-! ## Statements -/

/-- Statements in turn; whether one was rejected. -/
def executeEach (stopOnError : Bool) (tx : Option String) :
    Nat → List String → Connection Work → Connection Work × List (Event Work) × Bool
  | _, [], connection => (connection, [], false)
  | index, sql :: rest, connection =>
    if out.rejects index then
      if stopOnError then (connection, [], true)
      else
        let others := executeEach stopOnError tx (index + 1) rest connection
        (others.1, others.2.1, true)
    else
      let ran := connection.execute ⟨sql, tx⟩
      let others := executeEach stopOnError tx (index + 1) rest ran.1
      (others.1, ran.2 ++ others.2.1, others.2.2)

def runStatements (connId : Nat) (state : ConnectionState) (statements : List String) : Answer :=
  let ran := executeEach out true state.activeTxId 0 statements state.connection
  (s.put connId { state with connection := ran.1 }, ran.2.1,
    if ran.2.2 then .thrown else .ok .executed)

/-- `exec/run` and `query/start` have one statement; the schema requests and
`data/export` have those of their queries and name no transaction. -/
def handleStatements (connId : Nat) (txId : Option String) (statements : List String) : Answer :=
  match requireConnection s connId txId with
  | .error reply => (s, [], reply)
  | .ok state => runStatements s out connId state statements

/-- The answer is cached; a catalog that cannot be read counts as logging. -/
def isLogging (connId : Nat) (state : ConnectionState) : Bool × ConnectionState :=
  match o.driver with
  | .oscar => (true, state)
  | .gbase8s =>
    if state.loggingChecked then (state.logging, state)
    else
      let logging := o.catalog connId != some "0"
      (logging, { state with logging := logging, loggingChecked := true })

def endBatch (connId : Nat) (failed : Bool) (connection : Connection Work) :
    Connection Work × List (Event Work) × Bool :=
  if failed then
    if out.throws .rollback connId then (connection, [], true)
    else (connection.rollback, [], false)
  else if out.throws .commit connId then (connection, [], true)
  else (connection.commit.1, connection.commit.2, false)

def handleExecBatch (connId : Nat) (statements : List String)
    (stopOnError inTransaction : Bool) : Answer :=
  match s.connections.lookup connId with
  | none => (s, [], unknownConn connId)
  | some state =>
    let asked := isLogging o connId state
    let state := asked.2
    if out.throws .getAutoCommit connId then (s.put connId state, [], .thrown)
    else if inTransaction && asked.1 then
      let originalAutoCommit := state.connection.autoCommit
      if out.throws .disable connId then (s.put connId state, [], .thrown)
      else
        let started := state.connection.setAutoCommit false
        let ran := executeEach out stopOnError state.activeTxId 0 statements started.1
        let ended := endBatch out connId ran.2.2 ran.1
        let events := started.2 ++ ran.2.1 ++ ended.2.1
        if out.throws .restore connId then
          (s.put connId { state with connection := ended.1 }, events, .thrown)
        else
          let restored := ended.1.setAutoCommit originalAutoCommit
          (s.put connId { state with connection := restored.1 }, events ++ restored.2,
            if ended.2.2 then .thrown else .ok .executed)
    else
      let ran := executeEach out stopOnError state.activeTxId 0 statements state.connection
      (s.put connId { state with connection := ran.1 }, ran.2.1, .ok .executed)

/-! ## Transactions -/

def beginTransaction (connId : Nat) (state : ConnectionState) : Answer :=
  let txId := o.driver.id ++ "-tx-" ++ toString s.nextTxId
  ({ s.put connId { state with activeTxId := some txId } with
      transactions := s.transactions.insert txId { connId := connId }
      nextTxId := s.nextTxId + 1 },
    [], .ok (.txId txId))

def handleTxBegin (connId : Nat) : Answer :=
  match s.connections.lookup connId with
  | none => (s, [], unknownConn connId)
  | some state =>
    if state.activeTxId.isSome then
      (s, [], invalidParams "connection already has an active transaction")
    else
      let asked := isLogging o connId state
      let state := asked.2
      if asked.1 then
        if out.throws .getAutoCommit connId then (s.put connId state, [], .thrown)
        else
          let state := { state with originalAutoCommit := state.connection.autoCommit }
          if out.throws .disable connId then (s.put connId state, [], .thrown)
          else
            let started := state.connection.setAutoCommit false
            let begun := beginTransaction o s connId { state with connection := started.1 }
            (begun.1, started.2 ++ begun.2.1, begun.2.2)
      else beginTransaction o s connId state

def finishTransaction (txId : String) (connId : Nat) (state : ConnectionState) : Answer :=
  let s := { s with transactions := s.transactions.erase txId }
  if state.logging then
    if out.throws .restore connId then (s.put connId state, [], .thrown)
    else
      let restored := state.connection.setAutoCommit state.originalAutoCommit
      (s.put connId { state with connection := restored.1, activeTxId := none }, restored.2,
        .ok .null)
  else (s.put connId { state with activeTxId := none }, [], .ok .null)

def withTransaction (txId : String) (next : TxState → ConnectionState → Answer) : Answer :=
  match requireTransaction s txId with
  | .error reply => (s, [], reply)
  | .ok tx =>
    match s.connections.lookup tx.connId with
    | none => (s, [], .thrown)
    | some state => next tx state

def handleTxCommit (txId : String) : Answer :=
  withTransaction s txId fun tx state =>
    if state.logging then
      if out.throws .commit tx.connId then (s, [], .thrown)
      else
        let committed := state.connection.commit
        let finished := finishTransaction s out txId tx.connId
          { state with connection := committed.1 }
        (finished.1, committed.2 ++ finished.2.1, finished.2.2)
    else finishTransaction s out txId tx.connId state

def handleTxRollback (txId : String) (toSavepoint : Option String) : Answer :=
  withTransaction s txId fun tx state =>
    match toSavepoint with
    | some name =>
      match (tx.savepoints.lookup name).join with
      | none => (s, [], invalidParams ("unknown savepoint `" ++ name ++ "`"))
      | some mark =>
        if state.logging then
          if out.throws .rollbackTo tx.connId then (s, [], .thrown)
          else (s.put tx.connId { state with connection := state.connection.rollbackTo mark },
            [], .ok .null)
        else (s, [], .ok .null)
    | none =>
      if state.logging then
        if out.throws .rollback tx.connId then (s, [], .thrown)
        else finishTransaction s out txId tx.connId
          { state with connection := state.connection.rollback }
      else finishTransaction s out txId tx.connId state

def putTransaction (txId : String) (tx : TxState) : Server :=
  { s with transactions := s.transactions.insert txId tx }

def handleTxSavepoint (txId name : String) : Answer :=
  withTransaction s txId fun tx state =>
    if state.logging then
      if out.throws .setSavepoint tx.connId then (s, [], .thrown)
      else
        let mark := state.connection.uncommitted.length
        (putTransaction s txId { tx with savepoints := tx.savepoints.insert name (some mark) },
          [], .ok .null)
    else (putTransaction s txId { tx with savepoints := tx.savepoints.insert name none },
      [], .ok .null)

def handleTxRelease (txId name : String) : Answer :=
  withTransaction s txId fun tx state =>
    let released := putTransaction s txId { tx with savepoints := tx.savepoints.erase name }
    match (tx.savepoints.lookup name).join with
    | none => (released, [], invalidParams ("unknown savepoint `" ++ name ++ "`"))
    | some _ =>
      if state.logging && out.throws .releaseSavepoint tx.connId then (released, [], .thrown)
      else (released, [], .ok .null)

/-! ## Imports -/

def importFormats : List String := ["json", "ndjson", "csv"]

/-- The number of an import is used up also if its table is missing. -/
def handleDataImportBegin (connId : Nat) (format schema : String) (table : Option String)
    (columns : List String) : Answer :=
  if s.connections.lookup connId = none then (s, [], unknownConn connId)
  else if format ∉ importFormats then
    (s, [], invalidParams ("import format `" ++ format ++ "` is not supported"))
  else
    let importId := o.driver.id ++ "-import-" ++ toString s.nextImportId
    let numbered := { s with nextImportId := s.nextImportId + 1 }
    match table with
    | none => (numbered, [], invalidParams "missing required parameter `table`")
    | some table =>
      ({ numbered with imports := s.imports.insert importId { connId, schema, table, columns } },
        [], .ok (.importId importId))

def qualifiedIdentifier (schema name : String) : String :=
  if schema = "" then name else schema ++ "." ++ name

def insertSql (state : ImportState) : Except Reply String :=
  if state.columns = [] then .error (invalidParams "data import requires explicit columns")
  else .ok ("INSERT INTO " ++ qualifiedIdentifier state.schema state.table ++ " (" ++
    ", ".intercalate state.columns ++ ") VALUES (" ++
    ", ".intercalate (state.columns.map fun _ => "?") ++ ")")

def unknownImport (importId : String) : Reply :=
  invalidParams ("unknown import_id `" ++ importId ++ "`")

def handleDataImportChunk (importId : String) (rows : Nat) : Answer :=
  match s.imports.lookup importId with
  | none => (s, [], unknownImport importId)
  | some state =>
    match insertSql state, s.connections.lookup state.connId with
    | .error reply, _ => (s, [], reply)
    | .ok _, none => (s, [], .thrown)
    | .ok sql, some conn => runStatements s out state.connId conn (List.replicate rows sql)

def forgetImport (importId : String) : Server := { s with imports := s.imports.erase importId }

def handleDataImportCommit (importId : String) : Answer :=
  match s.imports.lookup importId with
  | none => (s, [], unknownImport importId)
  | some _ => (forgetImport s importId, [], .ok .executed)

def handleDataImportAbort (importId : String) : Answer := (forgetImport s importId, [], .ok .null)

end Handlers

/-! ## Dispatch -/

/-- The requests that reach a connection or a table of the server, with their texts
trimmed; an empty text is one that is missing. -/
inductive Request where
  | init (compatible : Bool)
  | shutdown
  | connOpen
  | connClose (connId : Nat)
  | statements (connId : Nat) (txId : Option String) (statements : List String)
  | execBatch (connId : Nat) (statements : List String) (stopOnError inTransaction : Bool)
  | txBegin (connId : Nat)
  | txCommit (txId : String)
  | txRollback (txId : String) (toSavepoint : Option String)
  | txSavepoint (txId name : String)
  | txRelease (txId name : String)
  | importBegin (connId : Nat) (format schema : String) (table : Option String)
      (columns : List String)
  | importChunk (importId : String) (rows : Nat)
  | importCommit (importId : String)
  | importAbort (importId : String)

def Request.requiresInit : Request → Bool
  | .init _ | .shutdown => false
  | _ => true

def dispatch (o : Outside) (s : Server) (out : Outcomes) : Request → Answer
  | .init compatible =>
    if compatible then ({ s with initialized := true }, [], .ok .executed)
    else (s, [], .error (-33031) "incompatible host version")
  | .shutdown => closeAll o s out
  | .connOpen => handleConnOpen s out
  | .connClose connId => handleConnClose o s out connId
  | .statements connId txId statements => handleStatements s out connId txId statements
  | .execBatch connId statements stopOnError inTransaction =>
    handleExecBatch o s out connId statements stopOnError inTransaction
  | .txBegin connId => handleTxBegin o s out connId
  | .txCommit txId => handleTxCommit s out txId
  | .txRollback txId toSavepoint => handleTxRollback s out txId toSavepoint
  | .txSavepoint txId name => handleTxSavepoint s out txId name
  | .txRelease txId name => handleTxRelease s out txId name
  | .importBegin connId format schema table columns =>
    handleDataImportBegin o s connId format schema table columns
  | .importChunk importId rows => handleDataImportChunk s out importId rows
  | .importCommit importId => handleDataImportCommit s importId
  | .importAbort importId => handleDataImportAbort s importId

def handle (o : Outside) (s : Server) (out : Outcomes) (request : Request) : Answer :=
  if request.requiresInit && !s.initialized then
    (s, [], .error (-32001) "init must be called first")
  else dispatch o s out request

end Onetcli.JavaIpc
