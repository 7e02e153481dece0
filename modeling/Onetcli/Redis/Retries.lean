import Onetcli.Redis.Commands
import Onetcli.Lib.Runs

/-!
`execute` and `execute_pipeline` of extensions/ipc/redis/src/main.rs. What connecting and sending
bring is given from outside, by the number of the attempt; a `query_async` sends at most once.
-/

namespace Onetcli.Redis

open Chars Tables Runs

/-! ## Replies -/

/-- The values of the client library; `Number` stands for its floating point numbers. -/
inductive Value (Number : Type) where
  | nil
  | int (value : Int)
  | bulkString (value : Bytes)
  | array (values : List (Value Number))
  | simpleString (value : Chars)
  | okay
  | map (values : List (Value Number × Value Number))
  | attribute (data : Value Number)
  | set (values : List (Value Number))
  | double (value : Number)
  | boolean (value : Bool)
  | verbatimString (text : Chars)
  | bigNumber (value : Int)
  | push (data : List (Value Number))
  | serverError (debug : Chars)

inductive RedisRespValue (Number : Type) where
  | nil
  | integer (value : Int)
  | bytes (value : WireBytes)
  | array (values : List (RedisRespValue Number))
  | simpleString (value : Chars)
  | map (values : List (RedisRespValue Number × RedisRespValue Number))
  | set (values : List (RedisRespValue Number))
  | double (value : Number)
  | boolean (value : Bool)
  | error (message : Chars)

section Replies

variable {Number : Type} (encode : Bytes → Chars)

def encodeBytes (bytes : Bytes) : WireBytes :=
  match fromUtf8 bytes with
  | some value => .utf8 value
  | none => .base64 (encode bytes)

mutual

def redisValue : Value Number → RedisRespValue Number
  | .nil => .nil
  | .int value => .integer value
  | .bulkString value => .bytes (encodeBytes encode value)
  | .array values => .array (redisValues values)
  | .simpleString value => .simpleString value
  | .okay => .simpleString "OK".toList
  | .map values => .map (redisPairs values)
  | .attribute data => redisValue data
  | .set values => .set (redisValues values)
  | .double value => .double value
  | .boolean value => .boolean value
  | .verbatimString text => .simpleString text
  | .bigNumber value => .simpleString (toString value).toList
  | .push data => .array (redisValues data)
  | .serverError debug => .error debug

def redisValues : List (Value Number) → List (RedisRespValue Number)
  | [] => []
  | value :: rest => redisValue value :: redisValues rest

def redisPairs : List (Value Number × Value Number) →
    List (RedisRespValue Number × RedisRespValue Number)
  | [] => []
  | (key, value) :: rest => (redisValue key, redisValue value) :: redisPairs rest

end

end Replies

/-! ## Connections -/

inductive Message where
  | command (cmd : Cmd)
  | pipeline (cmds : Pipeline)

def Message.commands : Message → List Cmd
  | .command cmd => [cmd]
  | .pipeline cmds => cmds

/-- The connection of a client, with the attempts to connect and what it has sent so far. The
managers are opaque, one for each database. -/
structure RedisConnection where
  database : UInt8
  connections : Table UInt8 Unit := ∅
  connects : Nat := 0
  sent : List Message := []

structure Outcomes (Number : Type) where
  connect : Nat → Except RedisError Unit
  command : Nat → Except RedisError (Value Number)
  pipeline : Nat → Except RedisError (List (Value Number))

section Sessions

variable {Number Reply : Type} (outcomes : Outcomes Number) (self : RedisConnection)

def openConnectionManager : RedisConnection × Except ProtocolError Unit :=
  ({ self with connects := self.connects + 1 },
    (outcomes.connect self.connects).mapError connectionError)

/-- `open_connection_manager` and the entry for the database. -/
def connectDatabase (database : UInt8) : RedisConnection × Except ProtocolError Unit :=
  match openConnectionManager outcomes self with
  | (self, .error error) => (self, .error error)
  | (self, .ok ()) => ({ self with connections := self.connections.insert database () }, .ok ())

def manager (database : UInt8) : RedisConnection × Except ProtocolError Unit :=
  if database ∈ self.connections then (self, .ok ()) else connectDatabase outcomes self database

def reconnectManager (database : UInt8) : RedisConnection × Except ProtocolError Unit :=
  connectDatabase outcomes { self with connections := self.connections.erase database } database

def queryAsync (answers : Nat → Except RedisError Reply) (message : Message) :
    RedisConnection × Except RedisError Reply :=
  ({ self with sent := self.sent ++ [message] }, answers self.sent.length)

/-- What both functions do with what they have built. -/
def send (answers : Nat → Except RedisError Reply) (database : UInt8) (replaySafe : Bool)
    (message : Message) : RedisConnection × Except ProtocolError Reply :=
  match manager outcomes self database with
  | (self, .error error) => (self, .error error)
  | (self, .ok ()) =>
    match queryAsync self answers message with
    | (self, .ok value) => (self, .ok value)
    | (self, .error error) =>
      if error.isConnectionDropped then
        let (self, reconnect) := reconnectManager outcomes self database
        if !replaySafe then (self, .error (commandError error false)) else
          match reconnect with
          | .error error => (self, .error error)
          | .ok () =>
            match manager outcomes self database with
            | (self, .error error) => (self, .error error)
            | (self, .ok ()) =>
              match queryAsync self answers message with
              | (self, .ok value) => (self, .ok value)
              | (self, .error error) => (self, .error (commandError error true))
      else (self, .error (commandError error replaySafe))

variable (decode : Chars → Except String Bytes) (encode : Bytes → Chars)

def execute (database : Option UInt8) (args : List WireBytes) :
    RedisConnection × Except ProtocolError (RedisRespValue Number) :=
  match buildCommand decode args with
  | .error error => (self, .error error)
  | .ok cmd =>
    let (self, answer) := send outcomes self outcomes.command (database.getD self.database)
      (canRetryCommand decode args) (.command cmd)
    (self, answer.map (redisValue encode))

def executePipeline (database : Option UInt8) (commands : List (List WireBytes)) :
    RedisConnection × Except ProtocolError (List (RedisRespValue Number)) :=
  match buildPipeline decode commands with
  | .error error => (self, .error error)
  | .ok pipeline =>
    let (self, answer) := send outcomes self outcomes.pipeline (database.getD self.database)
      (canRetryPipeline decode commands) (.pipeline pipeline)
    (self, answer.map (redisValues encode))

end Sessions

/-! ## How often a message is sent -/

def Message.ReadOnly (message : Message) : Prop := ∀ cmd ∈ message.commands, Redis.ReadOnly cmd

theorem Message.readOnly_command {cmd : Cmd} :
    (Message.command cmd).ReadOnly ↔ Redis.ReadOnly cmd := by
  simp [Message.ReadOnly, Message.commands]

/-- A request that sends the message so many times: never more than twice, twice only what may be
repeated, and after something else was sent no error invites a second try. -/
structure Sends {Reply : Type} (before after : RedisConnection)
    (answer : Except ProtocolError Reply) (message : Message) (times : Nat) : Prop where
  sent : after.sent = before.sent ++ List.replicate times message
  twice : times ≤ 2
  again : times = 2 → message.ReadOnly
  final : 0 < times → ¬message.ReadOnly → ∀ error, answer = .error error → error.retryable = false

section Sessions

variable {Number Reply : Type} (outcomes : Outcomes Number) (self : RedisConnection)

theorem connectDatabase_sent (database : UInt8) :
    (connectDatabase outcomes self database).1.sent = self.sent := by
  unfold connectDatabase openConnectionManager
  cases outcomes.connect self.connects <;> rfl

theorem manager_sent (database : UInt8) : (manager outcomes self database).1.sent = self.sent := by
  unfold manager
  split
  · rfl
  · exact connectDatabase_sent outcomes self database

theorem reconnectManager_sent (database : UInt8) :
    (reconnectManager outcomes self database).1.sent = self.sent :=
  connectDatabase_sent outcomes _ database

variable {self} {answers : Nat → Except RedisError Reply} {database : UInt8} {replaySafe : Bool}
  {message : Message}

theorem sends_none {after : RedisConnection} {answer : Except ProtocolError Reply}
    (same : after.sent = self.sent) : Sends self after answer message 0 where
  sent := by rw [List.replicate_zero, List.append_nil, same]
  twice := Nat.zero_le _
  again none := by cases none
  final positive := absurd positive (Nat.lt_irrefl 0)

-- The message was sent once, and what went wrong is not retryable unless it may be repeated.
theorem sends_once {after : RedisConnection} {answer : Except ProtocolError Reply}
    (sent : after.sent = self.sent ++ [message])
    (final : ¬message.ReadOnly → ∀ error, answer = .error error → error.retryable = false) :
    Sends self after answer message 1 where
  sent := sent
  twice := by decide
  again one := by cases one
  final _ := final

theorem sends_twice {after : RedisConnection} {answer : Except ProtocolError Reply}
    (sent : after.sent = self.sent ++ [message] ++ [message]) (allowed : message.ReadOnly) :
    Sends self after answer message 2 where
  sent := by rw [sent, List.append_assoc]; rfl
  twice := Nat.le_refl _
  again _ := allowed
  final _ other := absurd allowed other

theorem send_sends (safe : replaySafe = true → message.ReadOnly) :
    ∃ times, Sends self (send outcomes self answers database replaySafe message).1
      (send outcomes self answers database replaySafe message).2 message times := by
  unfold send
  have opened := manager_sent outcomes self database
  cases first : manager outcomes self database with
  | mk ready answer =>
    rw [first] at opened
    dsimp only at opened
    cases answer with
    | error error => exact ⟨0, sends_none opened⟩
    | ok _ =>
      simp only [queryAsync]
      cases answers ready.sent.length with
      | ok value =>
        refine ⟨1, sends_once (by rw [← opened]) fun _ error same => ?_⟩
        cases same
      | error failure =>
        dsimp only
        by_cases dropped : failure.isConnectionDropped = true
        · rw [if_pos dropped]
          have kept := reconnectManager_sent outcomes
            { ready with sent := ready.sent ++ [message] } database
          cases again : reconnectManager outcomes
              { ready with sent := ready.sent ++ [message] } database with
          | mk back reconnect =>
            rw [again] at kept
            dsimp only at kept ⊢
            rw [opened] at kept
            cases replaySafe with
            | false =>
              -- the outcome of the reconnect is not looked at
              refine ⟨1, sends_once kept fun _ error same => ?_⟩
              cases same
              exact commandError_unsafe failure
            | true =>
              have allowed := safe rfl
              cases reconnect with
              | error error =>
                exact ⟨1, sends_once kept fun other => absurd allowed other⟩
              | ok _ =>
                have still := manager_sent outcomes back database
                simp only [Bool.not_true, Bool.false_eq_true, if_false]
                cases second : manager outcomes back database with
                | mk next answer =>
                  rw [second] at still
                  dsimp only at still ⊢
                  rw [kept] at still
                  cases answer with
                  | error error =>
                    exact ⟨1, sends_once still fun other => absurd allowed other⟩
                  | ok _ =>
                    dsimp only
                    cases answers next.sent.length with
                    | ok value | error error => exact ⟨2, sends_twice (by rw [still]) allowed⟩
        · rw [if_neg dropped]
          refine ⟨1, sends_once (by rw [← opened]) fun other error same => ?_⟩
          cases same
          cases replaySafe with
          | false => exact commandError_unsafe failure
          | true => exact absurd (safe rfl) other

end Sessions

-- Answering with a converted value sends nothing and marks no other error.
theorem Sends.map {Reply Converted : Type} {before after : RedisConnection}
    {answer : Except ProtocolError Reply} {message : Message} {times : Nat}
    (sends : Sends before after answer message times) (convert : Reply → Converted) :
    Sends before after (answer.map convert) message times where
  sent := sends.sent
  twice := sends.twice
  again := sends.again
  final positive other error same := by
    cases answer with
    | ok value => cases same
    | error failure =>
      cases same
      exact sends.final positive other error rfl

/-- A request either builds nothing and sends nothing, or sends what it has built as `Sends`
allows, for everything that connecting and sending may bring. -/
theorem request_sends {Number : Type} (outcomes : Outcomes Number) (self : RedisConnection)
    (decode : Chars → Except String Bytes) (encode : Bytes → Chars) (database : Option UInt8) :
    (∀ args,
      let next := execute outcomes self decode encode database args
      (∃ error, buildCommand decode args = .error error ∧ next = (self, .error error)) ∨
        ∃ cmd times, buildCommand decode args = .ok cmd ∧
          Sends self next.1 next.2 (.command cmd) times) ∧
    (∀ commands,
      let next := executePipeline outcomes self decode encode database commands
      (∃ error, buildPipeline decode commands = .error error ∧ next = (self, .error error)) ∨
        ∃ pipeline times, buildPipeline decode commands = .ok pipeline ∧
          Sends self next.1 next.2 (.pipeline pipeline) times) := by
  constructor
  · intro args
    dsimp only [execute]
    cases built : buildCommand decode args with
    | error error => exact Or.inl ⟨error, rfl, rfl⟩
    | ok cmd =>
      obtain ⟨times, sends⟩ := @send_sends Number (Value Number) outcomes self outcomes.command
        (database.getD self.database) (canRetryCommand decode args) (.command cmd)
        fun safe => Message.readOnly_command.mpr (readOnly_of_canRetryCommand built safe)
      exact Or.inr ⟨cmd, times, rfl, sends.map _⟩
  · intro commands
    dsimp only [executePipeline]
    cases built : buildPipeline decode commands with
    | error error => exact Or.inl ⟨error, rfl, rfl⟩
    | ok pipeline =>
      obtain ⟨times, sends⟩ := @send_sends Number (List (Value Number)) outcomes self
        outcomes.pipeline (database.getD self.database) (canRetryPipeline decode commands)
        (.pipeline pipeline) (readOnly_of_canRetryPipeline built)
      exact Or.inr ⟨pipeline, times, rfl, sends.map _⟩

end Onetcli.Redis
