import Onetcli.Lib.Chars
import Onetcli.Lib.Checks
import Onetcli.Lib.Tables

/-!
Commands of extensions/ipc/redis/src/main.rs: the bytes of an argument on the wire and as they
are sent, the errors that are answered, and which commands may be sent again. The decoder of
base64 is a parameter, the same for the decision and for what is sent.
-/

namespace Onetcli.Redis

open Chars Checks

inductive ErrorCode where
  | invalidParams
  | dataInvalidEncoding
  | ioTimeout
  | ioConnectionRefused
  | extensionCustomStart
  deriving DecidableEq

/-- What the driver asks an error of the client library. -/
structure RedisError where
  message : String
  kind : String
  category : String
  code : Option String := none
  detail : Option String := none
  isTimeout : Bool := false
  isConnectionRefusal : Bool := false
  isConnectionDropped : Bool := false
  isClusterError : Bool := false
  deriving DecidableEq

/-- `ErrorData` with the extra object. -/
structure ErrorData where
  retryable : Bool
  kind : String
  category : String
  code : Option String
  detail : Option String
  source : String
  deriving DecidableEq

structure ProtocolError where
  code : ErrorCode
  message : String
  data : Option ErrorData := none
  deriving DecidableEq

def redisProtocolErrorWithRetryability (code : ErrorCode) (error : RedisError) (replaySafe : Bool) :
    ProtocolError :=
  { code, message := error.message
    data := some {
      retryable := replaySafe && (error.isTimeout || error.isConnectionRefusal ||
        error.isConnectionDropped || error.isClusterError)
      kind := error.kind, category := error.category, code := error.code, detail := error.detail
      source := error.message } }

def redisProtocolError (code : ErrorCode) (error : RedisError) : ProtocolError :=
  redisProtocolErrorWithRetryability code error true

def connectionError (error : RedisError) : ProtocolError :=
  redisProtocolError (if error.isTimeout then .ioTimeout else .ioConnectionRefused) error

def commandError (error : RedisError) (replaySafe : Bool) : ProtocolError :=
  redisProtocolErrorWithRetryability .extensionCustomStart error replaySafe

/-- The answer tells the caller that it may try again. -/
def ProtocolError.retryable (error : ProtocolError) : Bool :=
  error.data.any ErrorData.retryable

@[simp] theorem commandError_unsafe (error : RedisError) :
    (commandError error false).retryable = false := rfl

/-! ## Arguments -/

inductive WireBytes where
  | utf8 (value : Chars)
  | base64 (value : Chars)

abbrev Bytes := List UInt8

/-- What `cmd.arg` was called with. -/
abbrev Cmd := List Bytes

abbrev Pipeline := List Cmd

section Wire

variable (decode : Chars → Except String Bytes)

def decodeWireBytes : WireBytes → Except ProtocolError Bytes
  | .utf8 value => .ok (toUtf8 value)
  | .base64 value => (decode value).mapError fun error => ⟨.dataInvalidEncoding, error, none⟩

def buildCommand : List WireBytes → Except ProtocolError Cmd
  | [] => .error ⟨.invalidParams, "Redis command cannot be empty", none⟩
  | command :: args => (command :: args).mapM (decodeWireBytes decode)

def buildPipeline (commands : List (List WireBytes)) : Except ProtocolError Pipeline :=
  commands.mapM (buildCommand decode)

/-! ## Commands that may be sent again -/

def lowerByte (byte : UInt8) : UInt8 := if 65 ≤ byte ∧ byte ≤ 90 then byte + 32 else byte

/-- `eq_ignore_ascii_case` on bytes. -/
def sameIgnoringCase (first second : Bytes) : Bool := first.map lowerByte == second.map lowerByte

def readOnlyNames : List Bytes :=
  (["PING", "GET", "MGET", "EXISTS", "TYPE", "TTL", "PTTL", "SCAN", "SSCAN", "HSCAN", "ZSCAN",
    "KEYS", "STRLEN", "HLEN", "HGET", "HMGET", "HGETALL", "HKEYS", "HVALS", "LLEN", "LRANGE",
    "SCARD", "SMEMBERS", "ZCARD", "ZRANGE", "XRANGE", "XLEN", "INFO", "DBSIZE"].map
    fun name => toUtf8 name.toList)

def wireBytesForRetryCheck : WireBytes → Option Bytes
  | .utf8 value => some (toUtf8 value)
  | .base64 value => (decode value).toOption

def canRetryCommand (args : List WireBytes) : Bool :=
  match args.head?.bind (wireBytesForRetryCheck decode) with
  | none => false
  | some command =>
    if sameIgnoringCase command (toUtf8 "MEMORY".toList) then
      (args[1]?.bind (wireBytesForRetryCheck decode)).any fun subcommand =>
        sameIgnoringCase subcommand (toUtf8 "USAGE".toList)
    else readOnlyNames.any fun readOnly => sameIgnoringCase command readOnly

def canRetryPipeline (commands : List (List WireBytes)) : Bool :=
  !commands.isEmpty && commands.all (canRetryCommand decode)

/-- A command as it is sent only reads: its name is listed, or it is `MEMORY USAGE`. -/
def ReadOnly (cmd : Cmd) : Prop :=
  ∃ name args, cmd = name :: args ∧
    (if sameIgnoringCase name (toUtf8 "MEMORY".toList) then
      ∃ subcommand rest, args = subcommand :: rest ∧
        sameIgnoringCase subcommand (toUtf8 "USAGE".toList) = true
    else ∃ listed ∈ readOnlyNames, sameIgnoringCase name listed = true)

variable {decode}

theorem wireBytesForRetryCheck_decodes {value : WireBytes} {bytes : Bytes}
    (decoded : decodeWireBytes decode value = .ok bytes) :
    wireBytesForRetryCheck decode value = some bytes := by
  cases value with
  | utf8 text =>
    simp only [decodeWireBytes, Except.ok.injEq] at decoded
    rw [wireBytesForRetryCheck, decoded]
  | base64 text =>
    simp only [decodeWireBytes] at decoded
    rw [wireBytesForRetryCheck]
    cases answer : decode text with
    | error error => simp [answer, Except.mapError] at decoded
    | ok found =>
      simp only [answer, Except.mapError, Except.ok.injEq] at decoded
      rw [decoded]
      rfl

theorem readOnly_of_canRetryCommand {args : List WireBytes} {cmd : Cmd}
    (built : buildCommand decode args = .ok cmd) (safe : canRetryCommand decode args = true) :
    ReadOnly cmd := by
  cases args with
  | nil => cases built
  | cons command args =>
    obtain ⟨name, sent, decoded, others, rfl⟩ := List.forall₂_cons_left_iff.mp (mapM_eq_ok.mp built)
    simp only [canRetryCommand, List.head?_cons, Option.bind_some,
      wireBytesForRetryCheck_decodes decoded] at safe
    refine ⟨name, sent, rfl, ?_⟩
    split at safe
    · rename_i memory
      rw [if_pos memory]
      cases others with
      | nil => simp at safe
      | cons decodedNext _ =>
        simp only [List.getElem?_cons_succ, List.getElem?_cons_zero, Option.bind_some,
          wireBytesForRetryCheck_decodes decodedNext, Option.any_some] at safe
        exact ⟨_, _, rfl, safe⟩
    · rename_i other
      rw [if_neg other]
      exact List.any_eq_true.mp safe

theorem readOnly_of_canRetryPipeline {commands : List (List WireBytes)} {pipeline : Pipeline}
    (built : buildPipeline decode commands = .ok pipeline)
    (safe : canRetryPipeline decode commands = true) : ∀ cmd ∈ pipeline, ReadOnly cmd := by
  have each : ∀ args ∈ commands, canRetryCommand decode args = true :=
    List.all_eq_true.mp ((Bool.and_eq_true _ _).mp safe).2
  have decoded := mapM_eq_ok.mp built
  clear safe built
  induction decoded with
  | nil =>
    intro cmd among
    cases among
  | cons head _ ih =>
    intro cmd among
    rcases List.mem_cons.mp among with rfl | later
    · exact readOnly_of_canRetryCommand head (each _ List.mem_cons_self)
    · exact ih (fun args among => each args (List.mem_cons_of_mem _ among)) cmd later

end Wire

end Onetcli.Redis
