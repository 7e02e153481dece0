import Onetcli.DbIpc.Ownership
import Onetcli.DuckDb.TxOwners
import Onetcli.OpenGauss.LiveTx
import Onetcli.Lib.ValueStore

/-!
`exec/batch` with `in_transaction` in the three runtimes, on a database that is one
value. The Go runtime and the DuckDB driver run the statements in a transaction
and end it by what they met; the openGauss driver runs them one by one.
-/

namespace Onetcli.BatchAtomicity

open ValueStore Tables DbIpc

variable {Value Cell : Type}

/-! ## The Go runtime -/

/-- The driver behind the Go runtime: the transaction calls succeed, and each
statement is answered by its position. -/
def storeRuntime (base : DbIpc.Runtime (Scripted Value)) (effect : String → Value → Value)
    (answers : Nat → Except String DbIpc.ExecResult) : DbIpc.Runtime (Scripted Value) :=
  { base with
    beginTx := fun _ _ world => (world.begin, .ok 0)
    commitTx := fun _ world => (world.commit, none)
    rollbackTx := fun _ world => (world.rollback, none)
    execTx := fun _ sql _ world =>
      (world.attempt (answers world.position).isOk (effect sql), answers world.position) }

/-- The statement ran and its number of affected rows could be read. -/
def goSucceeds (answer : Except String DbIpc.ExecResult) : Bool :=
  (answer.bind DbIpc.rowsAffected).isOk

section Go

variable (base : DbIpc.Runtime (Scripted Value)) (effect : String → Value → Value)
  (answers : Nat → Except String DbIpc.ExecResult)

-- A failed statement may have taken effect, when only its row count is unreadable.
theorem batchStatement_cases (index : Nat) (sql : String) (world : Scripted Value) :
    (goSucceeds (answers world.position) = true ∧
      ∃ affected, batchStatement (storeRuntime base effect answers) (.tx ⟨0, false⟩) index
        sql world = (world.attempt true (effect sql), .ok affected)) ∨
    (goSucceeds (answers world.position) = false ∧
      ∃ after failure, batchStatement (storeRuntime base effect answers) (.tx ⟨0, false⟩)
        index sql world = (after, .error failure) ∧ after.store.saved = world.store.saved) := by
  simp only [batchStatement, DbIpc.Executor.exec, storeRuntime, Bool.false_eq_true,
    ↓reduceIte, goSucceeds]
  cases answers world.position with
  | error err => exact Or.inr ⟨rfl, _, _, rfl, by simp⟩
  | ok result =>
    simp only [Except.bind]
    cases rowsAffected result with
    | error err => exact Or.inr ⟨rfl, _, _, rfl, by simp⟩
    | ok affected => exact Or.inl ⟨rfl, affected, rfl⟩

theorem runBatch_followed (stopOnError : Bool) (statements : List String) (index : Nat)
    (world : Scripted Value) :
    Followed effect (fun position => goSucceeds (answers position)) statements world
      (runBatch (storeRuntime base effect answers) (.tx ⟨0, false⟩) stopOnError statements
        index world).1
      ((runBatch (storeRuntime base effect answers) (.tx ⟨0, false⟩) stopOnError statements
        index world).2.2.1 = []) := by
  induction statements generalizing index world with
  | nil =>
    simp only [runBatch]
    exact followed_nil
  | cons sql rest ih =>
    simp only [runBatch]
    rcases batchStatement_cases base effect answers index sql world with
      ⟨success, affected, answer⟩ | ⟨failure, after, failed, answer, saved⟩
    · rw [answer]
      exact (ih (index + 1) _).succeeded success
    · rw [answer]
      simp only
      split
      · simp only [reduceCtorEq]
        exact .failed failure saved
      · simp only [reduceCtorEq]
        exact .failed failure ((ih (index + 1) after).saved.trans saved)

theorem go_allOrNothing (s : DbIpc.Server (Scripted Value)) (p : DbIpc.ExecBatchParams)
    {conn : DbIpc.ConnectionState (Scripted Value)} (value : Value)
    (known : s.conns.lookup p.connID = some conn) (inTransaction : p.inTransaction = true) :
    AllOrNothing effect (fun position => goSucceeds (answers position)) p.statements value
      (handleExecBatch (storeRuntime base effect answers) s (.ok p) (Scripted.start value)).1 := by
  have loop := runBatch_followed base effect answers p.stopOnError p.statements 0
    (Scripted.start value).begin
  have ended := loop.allOrNothing
  have began : ∀ db options, (storeRuntime base effect answers).beginTx db options
      (Scripted.start value) = ((Scripted.start value).begin, .ok 0) := fun _ _ => rfl
  simp only [handleExecBatch, decoded, Except.mapError, knownConn, known, bind,
    Except.bind, pure, Except.pure, inTransaction, ↓reduceIte, began]
  rcases ran : runBatch (storeRuntime base effect answers) (.tx ⟨0, false⟩) p.stopOnError
    p.statements 0 (Scripted.start value).begin with ⟨after, results, errors, batchErr⟩
  rw [ran] at ended
  simp only [endBatch, DbIpc.Tx.commit, DbIpc.Tx.rollback, storeRuntime,
    Bool.false_eq_true, ↓reduceIte]
  by_cases clean : errors = []
  · simpa [clean] using ended
  · simpa [clean] using ended

end Go

/-! ## The DuckDB driver -/

/-- The engine behind the DuckDB driver: transaction control succeeds, and each
statement is answered by its position. -/
def storeEngine (base : DuckDb.Engine (Scripted Value) Cell) (effect : String → Value → Value)
    (answers : Nat → Except String Nat) : DuckDb.Engine (Scripted Value) Cell :=
  { base with
    execute := fun _ sql world =>
      if sql = "BEGIN" then (world.begin, .ok 0)
      else if sql = "COMMIT" then (world.commit, .ok 0)
      else if sql = "ROLLBACK" then (world.rollback, .ok 0)
      else (world.attempt (answers world.position).isOk (effect sql), answers world.position) }

section DuckDb

variable (base : DuckDb.Engine (Scripted Value) Cell) (effect : String → Value → Value)
  (answers : Nat → Except String Nat)

theorem runExecBatch_followed (connId : Protocol.ConnId) (stopOnError : Bool)
    (statements : List String) (index : Nat) (world : Scripted Value)
    (plain : ∀ sql ∈ statements, sql ∉ ["BEGIN", "COMMIT", "ROLLBACK"]) :
    Followed effect (fun position => (answers position).isOk) statements world
      (DuckDb.runExecBatch (storeEngine base effect answers) connId stopOnError statements index
        world).1
      ((DuckDb.runExecBatch (storeEngine base effect answers) connId stopOnError statements index
        world).2.errors = []) := by
  induction statements generalizing index world with
  | nil =>
    simp only [DuckDb.runExecBatch]
    exact followed_nil
  | cons sql rest ih =>
    have here := plain sql List.mem_cons_self
    have later : ∀ sql ∈ rest, sql ∉ ["BEGIN", "COMMIT", "ROLLBACK"] :=
      fun sql member => plain sql (List.mem_cons_of_mem _ member)
    simp only [List.mem_cons, List.not_mem_nil, or_false, not_or] at here
    have answered : (storeEngine base effect answers).execute connId sql world =
        (world.attempt (answers world.position).isOk (effect sql), answers world.position) := by
      simp [storeEngine, here]
    simp only [DuckDb.runExecBatch, answered]
    cases outcome : answers world.position with
    | ok affected =>
      exact (ih (index + 1) _ later).succeeded (by simp [outcome, Except.isOk, Except.toBool])
    | error err =>
      have failure : (answers world.position).isOk = false := by
        simp [outcome, Except.isOk, Except.toBool]
      simp only
      split
      · simp only [reduceCtorEq]
        exact .failed failure (by simp)
      · simp only [reduceCtorEq]
        exact .failed failure ((ih (index + 1) _ later).saved.trans (by simp))

theorem duckDb_allOrNothing (state : DuckDb.ConnectionState) (p : Protocol.ExecBatchParams)
    (value : Value) (connected : state.connection p.connId = .ok ())
    (inTransaction : p.inTransaction = true)
    (plain : ∀ sql ∈ p.statements, sql ∉ ["BEGIN", "COMMIT", "ROLLBACK"]) :
    AllOrNothing effect (fun position => (answers position).isOk) p.statements value
      (DuckDb.handleExecBatch (storeEngine base effect answers) state (.ok p)
        (Scripted.start value)).1 := by
  have loop := runExecBatch_followed base effect answers p.connId p.stopOnError p.statements 0
    (Scripted.start value).begin plain
  have ended := loop.allOrNothing
  have began : DuckDb.execTxControl (storeEngine base effect answers) p.connId "BEGIN"
      (Scripted.start value) = ((Scripted.start value).begin, .ok ()) := rfl
  simp only [DuckDb.handleExecBatch, Protocol.decoded, Except.mapError, connected, bind,
    Except.bind, pure, Except.pure, inTransaction, ↓reduceIte, began]
  rcases ran : DuckDb.runExecBatch (storeEngine base effect answers) p.connId p.stopOnError
    p.statements 0 (Scripted.start value).begin with ⟨after, results, errors⟩
  rw [ran] at ended
  simp only [DuckDb.batchEnd, DuckDb.execTxControl, storeEngine]
  by_cases clean : errors = []
  · simpa [clean] using ended
  · simpa [clean] using ended

end DuckDb

/-! ## The openGauss driver -/

def storeClient (base : OpenGauss.Client (Scripted Value)) (effect : String → Value → Value)
    (answers : Nat → Except String Nat) : OpenGauss.Client (Scripted Value) :=
  { base with
    execute := fun sql world =>
      (world.attempt (answers world.position).isOk (effect sql), answers world.position) }

section OpenGauss

variable (answers : Nat → Except String Nat)

-- The statements before the first failure take effect.
theorem executeBatch_store (base : OpenGauss.Client (Scripted Value))
    (effect : String → Value → Value) (statements : List String) (world : Scripted Value) :
    (OpenGauss.executeBatch (storeClient base effect answers) statements world).1.store =
      { world.store with
        current := applied effect
          (succeeding (fun position => (answers position).isOk) world.position statements)
          world.store.current } := by
  induction statements generalizing world with
  | nil => rfl
  | cons sql rest ih =>
    have answered : (storeClient base effect answers).execute sql world =
        (world.attempt (answers world.position).isOk (effect sql), answers world.position) := rfl
    cases outcome : answers world.position with
    | error err =>
      have none : succeeding (fun position => (answers position).isOk) world.position
          (sql :: rest) = [] := by
        simp [succeeding, outcome, Except.isOk, Except.toBool]
      rw [outcome] at answered
      simp only [OpenGauss.executeBatch, answered, none]
      rfl
    | ok affected =>
      have more : succeeding (fun position => (answers position).isOk) world.position
          (sql :: rest) = sql :: succeeding (fun position => (answers position).isOk)
            (world.position + 1) rest := by
        simp [succeeding, outcome, Except.isOk, Except.toBool]
      have tail := ih (world.attempt true (effect sql))
      have succeeded : (storeClient base effect answers).execute sql world =
          (world.attempt true (effect sql), .ok affected) := by
        rw [answered, outcome]
        rfl
      simp only [OpenGauss.executeBatch, succeeded, more]
      rcases ran : OpenGauss.executeBatch (storeClient base effect answers) rest
        (world.attempt true (effect sql)) with ⟨after, result⟩
      rw [ran] at tail
      cases result with
      | error err => exact tail
      | ok results => exact tail

theorem openGauss_store (base : OpenGauss.Client (Scripted Value))
    (effect : String → Value → Value) (p : Protocol.ExecBatchParams) (value : Value) :
    (OpenGauss.handleExecBatch (storeClient base effect answers) (.ok p)
      (Scripted.start value)).1.store =
      { current := applied effect
          (succeeding (fun position => (answers position).isOk) 0 p.statements) value } := by
  have ran := executeBatch_store answers base effect p.statements (Scripted.start value)
  simp only [OpenGauss.handleExecBatch, Protocol.decoded, Except.mapError]
  split <;> rename_i answer <;> rw [answer] at ran <;> exact ran

def idleClient (World : Type) : OpenGauss.Client World where
  batchExecute := fun _ world => (world, none)
  execute := fun _ world => (world, .ok 0)
  newUuid := fun world => (world, "")

-- The flag `in_transaction` is not read: a batch is all or nothing, whatever its statements
-- do, only if none of them fails or already the first.
theorem openGauss_allOrNothing_iff (p : Protocol.ExecBatchParams) :
    (∀ (Value : Type) (base : OpenGauss.Client (Scripted Value)) (effect : String → Value → Value)
      (value : Value), AllOrNothing effect (fun position => (answers position).isOk) p.statements
        value (OpenGauss.handleExecBatch (storeClient base effect answers) (.ok p)
          (Scripted.start value)).1) ↔
      AllSucceed (fun position => (answers position).isOk) 0 p.statements ∨
        (answers 0).isOk = false := by
  simp only [AllOrNothing, openGauss_store]
  constructor
  · intro atomic
    by_cases all : AllSucceed (fun position => (answers position).isOk) 0 p.statements
    · exact Or.inl all
    · -- A database that counts its statements shows that none ran.
      have counted := atomic Nat (idleClient _) (fun _ count => count + 1) 0
      have applied_count : ∀ (statements : List String) (count : Nat),
          applied (fun _ count => count + 1) statements count = count + statements.length := by
        intro statements
        induction statements with
        | nil => simp [applied]
        | cons sql rest ih =>
          intro count
          have tail := ih (count + 1)
          simp only [applied, List.foldl_cons, List.length_cons] at tail ⊢
          omega
      rw [if_neg all, applied_count] at counted
      simp only [Store.mk.injEq, and_true, Nat.zero_add, List.length_eq_zero_iff,
        succeeding_eq_nil] at counted
      rcases counted with none | first
      · rw [none] at all
        exact absurd allSucceed_nil all
      · exact Or.inr first
  · rintro (all | first) Value base effect value
    · rw [if_pos all, succeeding_of_allSucceed all]
    · have nothing : succeeding (fun position => (answers position).isOk) 0 p.statements = [] :=
        succeeding_eq_nil.mpr (Or.inr first)
      rw [nothing]
      split
      · rename_i all
        have none := succeeding_of_allSucceed all
        rw [nothing] at none
        rw [← none]
      · rfl

end OpenGauss

/-- `exec/batch` in a transaction is all or nothing in the Go runtime and in the
DuckDB driver. In the openGauss driver it is so, for every database, exactly when
no statement fails or the first one does. -/
theorem batch_all_or_nothing_iff {Value Cell : Type} (effect : String → Value → Value)
    (value : Value) (runtime : DbIpc.Runtime (Scripted Value))
    (goAnswers : Nat → Except String DbIpc.ExecResult) (s : DbIpc.Server (Scripted Value))
    (conn : DbIpc.ConnectionState (Scripted Value)) (goParams : DbIpc.ExecBatchParams)
    (engine : DuckDb.Engine (Scripted Value) Cell) (answers : Nat → Except String Nat)
    (state : DuckDb.ConnectionState) (p : Protocol.ExecBatchParams) :
    (s.conns.lookup goParams.connID = some conn → goParams.inTransaction = true →
      AllOrNothing effect (fun position => goSucceeds (goAnswers position)) goParams.statements
        value (DbIpc.handleExecBatch (storeRuntime runtime effect goAnswers) s (.ok goParams)
          (Scripted.start value)).1) ∧
    (state.connection p.connId = .ok () → p.inTransaction = true →
      (∀ sql ∈ p.statements, sql ∉ ["BEGIN", "COMMIT", "ROLLBACK"]) →
      AllOrNothing effect (fun position => (answers position).isOk) p.statements value
        (DuckDb.handleExecBatch (storeEngine engine effect answers) state (.ok p)
          (Scripted.start value)).1) ∧
    (p.inTransaction = true →
      ((∀ (Value : Type) (client : OpenGauss.Client (Scripted Value))
        (effect : String → Value → Value) (value : Value),
        AllOrNothing effect (fun position => (answers position).isOk) p.statements value
          (OpenGauss.handleExecBatch (storeClient client effect answers) (.ok p)
            (Scripted.start value)).1) ↔
        AllSucceed (fun position => (answers position).isOk) 0 p.statements ∨
          (answers 0).isOk = false)) := by
  refine ⟨?_, ?_, ?_⟩
  · intro known inTransaction
    exact go_allOrNothing runtime effect goAnswers s goParams value known inTransaction
  · intro connected inTransaction plain
    exact duckDb_allOrNothing engine effect answers state p value connected inTransaction plain
  · intro _
    exact openGauss_allOrNothing_iff answers p

/-- A database that lists the statements that took effect, and one failing answer. -/
def logged (sql : String) (log : List String) : List String := log ++ [sql]

def failsAt (failing : Nat) (position : Nat) : Except String Nat :=
  if position = failing then .error "syntax error" else .ok 1

def twoStatements (connId : Nat) : Protocol.ExecBatchParams where
  connId := connId
  statements := ["INSERT", "UPDATE"]
  stopOnError := true
  inTransaction := true

/-- A driver, a connection and a server on that database. -/
def logEngine : DuckDb.Engine (Scripted (List String)) Unit where
  execute := fun _ _ world => (world, .ok 0)
  query := fun _ _ _ world => (world, .ok [])
  prepare := fun _ _ world => (world, none)
  executePrepared := fun _ _ _ world => (world, .ok 1)
  milliseconds := fun _ => 0

def logSpec : DbIpc.DriverSpec (Scripted (List String)) where
  id := "plain"
  name := "Plain"
  sqlDriverName := "plain"
  identifierQuoteLeft := "\""
  identifierQuoteRight := "\""
  supportsComments := false
  buildDSN := fun config => .ok config.database

def logConn : DbIpc.ConnectionState (Scripted (List String)) where
  config := DbIpc.plainConfig
  db := 0
  ddlSpec := logSpec
  schemaSQL := {}

def logServer : DbIpc.Server (Scripted (List String)) :=
  { DbIpc.newServer (DbIpc.plainRuntime _ none) logSpec none with conns := AList.singleton 1 logConn }

theorem failing_batches_undone :
    AllOrNothing logged (fun position => goSucceeds ((failsAt 1 position).map fun _ => ⟨.ok 1⟩))
        ["INSERT", "UPDATE"] []
        (DbIpc.handleExecBatch (storeRuntime (DbIpc.plainRuntime _ none) logged
          (fun position => (failsAt 1 position).map fun _ => ⟨.ok 1⟩)) logServer
          (.ok ⟨1, ["INSERT", "UPDATE"], true, true⟩) (Scripted.start [])).1 ∧
      AllOrNothing logged (fun position => (failsAt 1 position).isOk) ["INSERT", "UPDATE"] []
        (DuckDb.handleExecBatch (storeEngine logEngine logged (failsAt 1))
          { conns := DuckDb.oneSession } (.ok (twoStatements 1)) (Scripted.start [])).1 ∧
      AllOrNothing logged (fun position => (failsAt 0 position).isOk) ["INSERT", "UPDATE"] []
        (OpenGauss.handleExecBatch (storeClient (idleClient _) logged (failsAt 0))
          (.ok (twoStatements 1)) (Scripted.start [])).1 := by
  have claims := fun failing => batch_all_or_nothing_iff logged []
    (DbIpc.plainRuntime _ none) (fun position => (failsAt 1 position).map fun _ => ⟨.ok 1⟩)
    logServer logConn ⟨1, ["INSERT", "UPDATE"], true, true⟩ logEngine (failsAt failing)
    { conns := DuckDb.oneSession } (twoStatements 1)
  refine ⟨?_, ?_, ?_⟩
  · exact (claims 1).1 rfl rfl
  · exact (claims 1).2.1 rfl rfl (by decide)
  · exact ((claims 0).2.2 rfl).mpr (Or.inr rfl) _ _ _ _

-- The second statement fails and the first stays in effect.
theorem failing_batch_half_done :
    let after := (OpenGauss.handleExecBatch (storeClient (idleClient _) logged (failsAt 1))
      (.ok (twoStatements 1)) (Scripted.start [])).1
    after.store.current = ["INSERT"] ∧
      ¬ AllOrNothing logged (fun position => (failsAt 1 position).isOk) ["INSERT", "UPDATE"] []
        after := by
  refine ⟨rfl, ?_⟩
  intro atomic
  have restored := congrArg Store.current atomic
  rw [if_neg (by decide)] at restored
  cases restored

end Onetcli.BatchAtomicity
