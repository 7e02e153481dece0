import Onetcli.DbIpc.Data

/-!
Requests and answers of the server. A call carries its parameters as
`decodeParams` leaves them: the decoded structure, or the error of the decoder.
Where a handler converts a decoded field further (a wire configuration, bound
parameters, rows of cells), the field holds the outcome of that conversion.
-/

namespace Onetcli.DbIpc

variable {World : Type}

/-! ## Errors -/

def errInvalidRequest : Int := -32600
def errMethodNotFound : Int := -32601
def errInvalidParams : Int := -32602
def errInternalError : Int := -32603
def errNotInitialized : Int := -32001
def errUnknownConnID : Int := -32007
def errUnknownCursorID : Int := -32008
def errConnectionFailed : Int := -33001
def errServerIncompatible : Int := -33031
def errSQLSyntax : Int := -34001
def errNotSupported : Int := -35001

structure ProtocolError where
  code : Int
  message : String
  deriving DecidableEq

/-- `errors.Join(existing, fmt.Errorf("%s: %w", operation, err))`. -/
def joinCleanupError (existing : Option String) (operation : String) (err : Option String) :
    Option String :=
  match err with
  | none => existing
  | some err =>
    let wrapped := operation ++ ": " ++ err
    match existing with
    | none => some wrapped
    | some existing => some (existing ++ "\n" ++ wrapped)

def rowsAffected (result : ExecResult) : Except String Nat :=
  match result.rowsAffected with
  | .error err => .error ("read affected row count: " ++ err)
  | .ok affected =>
    if affected < 0 then .error ("driver returned negative affected row count " ++
      toString affected)
    else .ok affected.toNat

/-! ## Parameters -/

abbrev Params (Decoded : Type) := Except String Decoded

structure ConfigParams where
  driverID : String
  config : Except String Config

structure ConnUseParams where
  connID : Nat
  database : String := ""

structure QueryStartParams where
  connID : Nat
  sql : String
  args : Except String (List SqlValue)
  maxRows : Option Nat := none
  txID : String := ""

structure CursorFetchParams where
  cursorID : String
  n : Option Nat := none

structure ExecRunParams where
  connID : Nat
  sql : String
  args : Except String (List SqlValue)
  txID : String := ""

structure ExecBatchParams where
  connID : Nat
  statements : List String
  stopOnError : Bool
  inTransaction : Bool

structure TxBeginParams where
  connID : Nat
  isolation : String := ""
  readOnly : Bool := false

structure TxRollbackParams where
  txID : String
  toSavepoint : String := ""

structure SavepointParams where
  txID : String
  name : String

structure DropParams where
  kind : String
  name : String
  schema : String := ""
  database : String := ""
  ifExists : Bool := false
  cascade : Bool := false

structure DatabasePayload where
  databaseName : String
  name : String

structure CreateTablePayload where
  spec : TableSpec
  options : CreateTableOptions

/-- The operation of `ddl/build` with its payload, decoded or not. -/
inductive DdlOp where
  | createDatabase (payload : Params DatabasePayload)
  | dropDatabase (payload : Params DatabasePayload)
  | createTable (payload : Params CreateTablePayload)
  | dropTable (payload : Params DropParams)
  | dropView (payload : Params DropParams)
  | other (op : String)

structure AlterTableParams where
  fromSpec : TableSpec
  toSpec : TableSpec
  columnRenames : List ColumnRenameDDL
  options : AlterTableOptions

structure DataExportParams where
  connID : Nat
  table : String := ""
  schema : String := ""
  database : String := ""
  sql : String := ""
  format : String
  whereClause : String := ""
  includeColumns : List String := []
  excludeColumns : List String := []
  args : Except String (List SqlValue)
  options : List (String × String) := []
  streamID : String

structure ImportBeginParams where
  connID : Nat
  table : String
  schema : String := ""
  database : String := ""
  format : String
  columns : List String := []

structure ImportChunkParams where
  importID : String
  rows : List (Except String (List SqlValue))

structure StreamReadParams where
  streamID : String
  maxBytes : Option Nat := none

/-- The parameters that the `schema/` requests share; each reads some of them. -/
structure SchemaParams where
  connID : Nat
  database : String := ""
  schema : String := ""
  table : String := ""
  view : String := ""
  kinds : List String := []

structure DumpObject where
  kind : String
  name : String
  database : String := ""
  schema : String := ""

structure DumpParams where
  connID : Nat
  objects : List DumpObject

inductive SchemaCall where
  | objectView
  | databases
  | schemas
  | objects
  | columns
  | indexes
  | foreignKeys
  | checks
  | views
  | functions
  | procedures
  | triggers
  | sequences
  | types
  | viewDefinition
  deriving DecidableEq

inductive Call where
  | init (params : InitParams)
  | ping
  | shutdown
  | connTest (params : Params ConfigParams)
  | connOpen (params : Params ConfigParams)
  | connClose (params : Params Nat)
  | connPing (params : Params Nat)
  | connUse (params : Params ConnUseParams)
  | queryStart (params : Params QueryStartParams)
  | cursorFetch (params : Params CursorFetchParams)
  | cursorClose (params : Params String)
  | cursorCancel (params : Params String)
  | execRun (params : Params ExecRunParams)
  | execBatch (params : Params ExecBatchParams)
  | txBegin (params : Params TxBeginParams)
  | txCommit (params : Params String)
  | txRollback (params : Params TxRollbackParams)
  | txSavepoint (params : Params SavepointParams)
  | txRelease (params : Params SavepointParams)
  | ddlBuild (params : Params (Nat × DdlOp))
  | ddlBuildCreateTable (params : Params (Nat × CreateTablePayload))
  | ddlBuildAlterTable (params : Params (Nat × AlterTableParams))
  | ddlBuildDrop (params : Params (Nat × DropParams))
  | dataExport (params : Params DataExportParams)
  | dataImportBegin (params : Params ImportBeginParams)
  | dataImportChunk (params : Params ImportChunkParams)
  | dataImportCommit (params : Params String)
  | dataImportAbort (params : Params String)
  | streamRead (params : Params StreamReadParams)
  | streamClose (params : Params String)
  | schema (call : SchemaCall) (params : Params SchemaParams)
  | schemaDumpDDL (params : Params DumpParams)
  | other (method : String)

/-- A request; `id` is its raw JSON text, empty when it has none. -/
structure Message where
  jsonrpc : String := "2.0"
  id : String := ""
  call : Call

/-! ## Results -/

structure ColumnSpec where
  name : String
  type : String
  typeKind : String
  nullable : Option Bool
  deriving DecidableEq

structure BatchError where
  index : Nat
  code : Int
  message : String
  deriving DecidableEq

/-- A field of a metadata object. -/
inductive Field where
  | text (value : String)
  | texts (values : List String)
  | flag (value : Bool)
  | number (value : Int)
  | missing

abbrev SchemaObject := List (String × Field)

/-- The results that hand out no new id. -/
inductive Info where
  | null
  | ready (driversReady : List String) (name : String)
  | pong
  | tested (latencyMs : Nat) (serverVersion : String)
  | latency (latencyMs : Nat)
  | page (rows : List (List (SqlValue × String))) (done : Bool)
  | affected (affectedRows : Nat)
  | batch (results : List Nat) (errors : List BatchError)
  | statements (sql : Option String) (statements rollbackStatements warnings : List String)
  | exported (estimatedBytes estimatedRows : Nat) (columns : List String) (format : String)
  | chunkDone (inserted : Nat) (failed : List FailedRow)
  | importDone (inserted : Nat) (failed : List FailedRow) (elapsedMs : Nat)
  | streamChunk (data : List UInt8) (done : Bool)
  | objects (objects : List SchemaObject)
  | objectView (title : String) (columns : List (String × String)) (rows : List (List String))
  | viewDefinition (sql : String) (isMaterialized : Bool)

inductive Result where
  | info (info : Info)
  | connOpened (connID : Nat) (version : String)
  | cursorOpened (cursorID : String) (columns : List ColumnSpec)
  | txBegun (txID : String)
  | importBegun (importID : String)

/-- The answer of a handler that hands out no id. -/
abbrev Answer := Except ProtocolError Info

abbrev Reply := Except ProtocolError Result

structure Response where
  id : String
  body : Reply

def Answer.reply (answer : Answer) : Reply := answer.map Result.info

/-- `s.err` and `s.errFromError`. -/
def refuse (code : Int) (message : String) : ProtocolError := ⟨code, message⟩

/-- `decodeParams` and the answer to its failure. -/
def decoded {Decoded : Type} (params : Params Decoded) : Except ProtocolError Decoded :=
  params.mapError (refuse errInvalidParams)

end Onetcli.DbIpc
