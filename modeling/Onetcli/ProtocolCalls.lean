import Mathlib

/-!
The calls of the extension protocol that the Rust drivers answer, with the fields
they read, and the errors they answer with. The protocol crate gives every error
code a number; here a code is its name.
-/

namespace Onetcli.Protocol

abbrev ConnId := Nat
abbrev TxId := String
abbrev ImportId := String

inductive ErrorCode where
  | invalidParams
  | notInitialized
  | unknownConnId
  | unknownTxId
  | unknownImportId
  | txNestedNotSupported
  | txIsolationNotSupported
  | txRollbackRequired
  | sqlUnknownTable
  | sqlUnknownColumn
  | sqlUnknownFunction
  | sqlUniqueViolation
  | sqlNotNullViolation
  | sqlCheckViolation
  | sqlConstraintViolation
  | sqlObjectAlreadyExists
  | sqlSyntaxError
  | dataTypeMismatch
  deriving DecidableEq

structure ProtocolError where
  code : ErrorCode
  message : String
  deriving DecidableEq

/-- The parameters as `serde_json::from_value` leaves them. -/
abbrev Params (Decoded : Type) := Except String Decoded

/-- `params_deserialize_error` on a failure. -/
def decoded {Decoded : Type} (params : Params Decoded) : Except ProtocolError Decoded :=
  params.mapError fun err => ⟨.invalidParams, "failed to deserialize params: " ++ err⟩

def invalidParams (message : String) : ProtocolError := ⟨.invalidParams, message⟩

def missingParam (name : String) : ProtocolError :=
  invalidParams ("missing required parameter `" ++ name ++ "`")

def unknownConn (id : ConnId) : ProtocolError := ⟨.unknownConnId, "unknown conn_id " ++ toString id⟩

def unknownTx (id : TxId) : ProtocolError := ⟨.unknownTxId, "unknown tx_id `" ++ id ++ "`"⟩

def unknownImport (id : ImportId) : ProtocolError :=
  ⟨.unknownImportId, "unknown import_id `" ++ id ++ "`"⟩

/-! ## Transactions -/

inductive IsolationLevel where
  | default
  | readUncommitted
  | readCommitted
  | repeatableRead
  | serializable
  deriving DecidableEq

structure TxBeginParams where
  connId : ConnId
  isolation : Option IsolationLevel := none
  readOnly : Bool := false
  deferrable : Option Bool := none

structure TxRollbackParams where
  txId : TxId
  toSavepoint : Option String := none

structure TxSavepointParams where
  txId : TxId
  name : String

/-! ## Batches -/

structure ExecBatchParams where
  connId : ConnId
  statements : List String
  stopOnError : Bool
  inTransaction : Bool

structure BatchError where
  index : Nat
  code : ErrorCode
  message : String
  deriving DecidableEq

/-- The affected rows of each statement, and the statements that failed. -/
structure ExecBatchResult where
  results : List Nat := []
  errors : List BatchError := []
  deriving DecidableEq

/-! ## Imports -/

inductive DataFormat where
  | csv
  | json
  | ndjson
  | other (name : String)
  deriving DecidableEq

structure ImportOptions where
  upsert : Bool
  onConflictColumns : List String
  disableTriggers : Bool
  abortOnFailures : Option Nat
  trackFailedRows : Bool

structure ImportBeginParams where
  connId : ConnId
  table : String
  schema : Option String := none
  database : Option String := none
  format : DataFormat
  columns : List String
  options : ImportOptions

/-- A cell is its conversion to a value of the database. -/
structure ImportChunkParams (Value : Type) where
  importId : ImportId
  rows : List (List (Except String Value))

structure FailedRow where
  rowIndex : Nat
  message : String
  code : ErrorCode
  deriving DecidableEq

structure ImportChunkResult where
  inserted : Nat := 0
  failed : List FailedRow := []
  deriving DecidableEq

structure ImportCommitResult where
  inserted : Nat
  updated : Nat
  deleted : Nat
  failed : List FailedRow
  elapsedMs : Option Nat
  deriving DecidableEq

/-- What the modelled calls answer with. -/
inductive Reply where
  | null
  | txBegun (txId : TxId)
  | importBegun (importId : ImportId)
  | chunk (result : ImportChunkResult)
  | importDone (result : ImportCommitResult)
  | batch (result : ExecBatchResult)
  deriving DecidableEq

abbrev Answer := Except ProtocolError Reply

/-- `saturating_add(1)` on a `u64`. -/
def saturatingSucc (n : Nat) : Nat := min (n + 1) (2 ^ 64 - 1)

end Onetcli.Protocol
