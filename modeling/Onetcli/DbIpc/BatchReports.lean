import Onetcli.DbIpc.Ownership
import Onetcli.Lib.Batches

/-!
What `exec/batch` reports. The statements are executed one after the other up to the first
failure or to the end; the results have a place for every statement, executed or not, and
the errors carry the places of those that failed.
-/

namespace Onetcli.DbIpc

open Attempts

variable {World : Type} (rt : Runtime World)

/-- Statements executed in turn, with the row count of each or the error of the execution
or of the count. -/
def executeAll (execer : Executor) : List String → World → World × List (Except String Nat)
  | [], world => (world, [])
  | statement :: rest, world =>
    let first := execer.exec rt statement [] world
    let others := executeAll execer rest first.1
    (others.1, first.2.bind rowsAffected :: others.2)

theorem executeAll_length (execer : Executor) (statements : List String) (world : World) :
    (executeAll rt execer statements world).2.length = statements.length := by
  induction statements generalizing world with
  | nil => rfl
  | cons statement rest ih => exact congrArg (· + 1) (ih _)

def affectedRows : Except String Nat → Nat
  | .ok affected => affected
  | .error _ => 0

theorem batchStatement_outcome (execer : Executor) (index : Nat) (statement : String)
    (world : World) : (batchStatement rt execer index statement world).1 =
        (execer.exec rt statement [] world).1 ∧
      (batchStatement rt execer index statement world).2.mapError Prod.snd =
        (execer.exec rt statement [] world).2.bind rowsAffected := by
  unfold batchStatement
  rcases execer.exec rt statement [] world with ⟨after, error | result⟩
  · exact ⟨rfl, rfl⟩
  · refine ⟨rfl, ?_⟩
    simp only [Except.bind]
    cases rowsAffected result <;> rfl

-- The loop executes the statements that are met and reports each at its place.
theorem runBatch_reports (execer : Executor) (stopOnError : Bool) (statements : List String)
    (index : Nat) (world : World) : ∃ count ≤ statements.length,
      met stopOnError (executeAll rt execer statements world).2 =
          (executeAll rt execer (statements.take count) world).2 ∧
        (runBatch rt execer stopOnError statements index world).1 =
          (executeAll rt execer (statements.take count) world).1 ∧
        (runBatch rt execer stopOnError statements index world).2.1 =
          (executeAll rt execer (statements.take count) world).2.map affectedRows ++
            List.replicate (statements.length - count) 0 ∧
        (runBatch rt execer stopOnError statements index world).2.2.1.map BatchError.index =
          (executeAll rt execer (statements.take count) world).2.findIdxs failed index := by
  induction statements generalizing index world with
  | nil => exact ⟨0, Nat.le_refl _, rfl, rfl, rfl, rfl⟩
  | cons statement rest ih =>
    obtain ⟨world', outcome⟩ := batchStatement_outcome rt execer index statement world
    obtain ⟨count, within, isMet, isWorld, isResults, isErrors⟩ :=
      ih (index + 1) (execer.exec rt statement [] world).1
    rw [runBatch]
    rcases answer : batchStatement rt execer index statement world with
      ⟨after, ⟨operation, error⟩ | affected⟩
    · rw [answer] at world' outcome
      subst world'
      have failure : (execer.exec rt statement [] world).2.bind rowsAffected = .error error :=
        outcome.symm
      cases stopOnError with
      | true =>
        refine ⟨1, Nat.le_add_left 1 _, ?_⟩
        simp [executeAll, failure, met, failed, affectedRows, List.map_const']
      | false =>
        refine ⟨count + 1, Nat.succ_le_succ within, ?_⟩
        simp [executeAll, failure, met, failed, affectedRows, isMet, isWorld, isResults,
          isErrors]
    · rw [answer] at world' outcome
      subst world'
      have success : (execer.exec rt statement [] world).2.bind rowsAffected = .ok affected :=
        outcome.symm
      refine ⟨count + 1, Nat.succ_le_succ within, ?_⟩
      simp [executeAll, success, met, failed, affectedRows, isMet, isWorld, isResults, isErrors]

/-- What a batch answers about the outcomes of the `count` statements it has executed. -/
structure Reported (p : ExecBatchParams) (count : Nat) (outcomes : List (Except String Nat))
    (results : List Nat) (errors : List BatchError) : Prop where
  executed : count ≤ p.statements.length
  ran : outcomes.length = count
  whole : count = p.statements.length ∨
    p.stopOnError = true ∧ ∃ error, outcomes.getLast? = some (.error error)
  stops : p.stopOnError = true → ∀ index error, outcomes[index]? = some (.error error) →
    index + 1 = count
  complete : results.length = p.statements.length
  counts : ∀ index < p.statements.length,
    results[index]? = some ((outcomes[index]?.map affectedRows).getD 0)
  increasing : (errors.map BatchError.index).Pairwise (· < ·)
  failures : ∀ index, index ∈ errors.map BatchError.index ↔
    ∃ error, outcomes[index]? = some (.error error)

theorem padded_getElem? {values : List Nat} {length index : Nat} (within : values.length ≤ length)
    (inside : index < length) : (values ++ List.replicate (length - values.length) 0)[index]? =
      some (values[index]?.getD 0) := by
  by_cases early : index < values.length
  · rw [List.getElem?_append_left early, List.getElem?_eq_getElem early]
    rfl
  · have late : values.length ≤ index := Nat.le_of_not_lt early
    rw [List.getElem?_append_right late, List.getElem?_eq_none late, List.getElem?_replicate,
      if_pos (by omega)]
    rfl

theorem mem_failures {outcomes : List (Except String Nat)} {index : Nat} :
    index ∈ outcomes.findIdxs failed ↔ ∃ error, outcomes[index]? = some (.error error) := by
  rw [List.mem_findIdxs_iff_exists_getElem_pos]
  constructor
  · rintro ⟨inside, failure⟩
    rw [List.getElem?_eq_getElem inside]
    cases outcome : outcomes[index] with
    | error error => exact ⟨error, rfl⟩
    | ok affected =>
      rw [outcome] at failure
      cases failure
  · rintro ⟨error, here⟩
    obtain ⟨inside, outcome⟩ := List.getElem?_eq_some_iff.mp here
    exact ⟨inside, by rw [outcome]; rfl⟩

theorem runBatch_reported (execer : Executor) (p : ExecBatchParams) (world : World) : ∃ count,
      met p.stopOnError (executeAll rt execer p.statements world).2 =
          (executeAll rt execer (p.statements.take count) world).2 ∧
        (runBatch rt execer p.stopOnError p.statements 0 world).1 =
          (executeAll rt execer (p.statements.take count) world).1 ∧
        Reported p count (executeAll rt execer (p.statements.take count) world).2
          (runBatch rt execer p.stopOnError p.statements 0 world).2.1
          (runBatch rt execer p.stopOnError p.statements 0 world).2.2.1 := by
  obtain ⟨count, within, isMet, isWorld, isResults, isErrors⟩ :=
    runBatch_reports rt execer p.stopOnError p.statements 0 world
  have ran : (executeAll rt execer (p.statements.take count) world).2.length = count := by
    rw [executeAll_length, List.length_take, Nat.min_eq_left within]
  have padded : ((executeAll rt execer (p.statements.take count) world).2.map
      affectedRows).length = count := by rw [List.length_map, ran]
  refine ⟨count, isMet, isWorld, ?_⟩
  constructor
  · exact within
  · exact ran
  · rcases met_whole p.stopOnError (executeAll rt execer p.statements world).2 with
      whole | ended
    · rw [isMet] at whole
      have lengths := congrArg List.length whole
      rw [ran, executeAll_length] at lengths
      exact Or.inl lengths
    · rw [isMet] at ended
      exact Or.inr ended
  · intro stops index error here
    rw [stops] at isMet
    rw [← isMet] at here
    have last := met_stops here
    rw [isMet, ran] at last
    exact last
  · rw [isResults, List.length_append, padded, List.length_replicate]
    omega
  · intro index inside
    have here := padded_getElem? (Nat.le_trans (Nat.le_of_eq padded) within) inside
    rw [padded, List.getElem?_map] at here
    rw [isResults]
    exact here
  · rw [isErrors]
    exact List.pairwise_findIdxs
  · intro index
    rw [isErrors]
    exact mem_failures

/-- Where the statements of a batch are executed: in a transaction of their own, or on the
pool of the connection. -/
def beginBatch (conn : ConnectionState World) (inTransaction : Bool) (world : World) :
    World × Except String Executor :=
  if inTransaction then
    let begun := rt.beginTx conn.db {} world
    (begun.1, begun.2.map fun handle => .tx ⟨handle, false⟩)
  else (world, .ok (.db conn.db))

def BatchEnded (p : ExecBatchParams) (execer : Executor) (errors : List BatchError)
    (ran after : World) : Prop :=
  if p.inTransaction then
    ∃ tx batchErr, execer = .tx tx ∧ endBatch rt tx errors batchErr ran = (after, none)
  else after = ran

/-- A batch that is answered has executed a prefix of its statements and reports them. -/
theorem execBatch_reports (s : Server World) (p : ExecBatchParams) (world after : World)
    (results : List Nat) (errors : List BatchError)
    (answered : handleExecBatch rt s (.ok p) world = (after, .ok (.batch results errors))) :
    ∃ conn execer start count,
      s.conns.lookup p.connID = some conn ∧
        beginBatch rt conn p.inTransaction world = (start, .ok execer) ∧
        Reported p count (executeAll rt execer (p.statements.take count) start).2 results errors ∧
        BatchEnded rt p execer errors
          (executeAll rt execer (p.statements.take count) start).1 after := by
  unfold handleExecBatch at answered
  split at answered
  · cases (Prod.mk.inj answered).2
  · rename_i request conn checks
    simp only [Checks.bind_eq_ok, decoded_eq_ok, knownConn_eq_ok, Checks.pure_eq_ok] at checks
    obtain ⟨_, same, _, found, both⟩ := checks
    cases same
    cases both
    split at answered
    · rename_i inTransaction
      split at answered
      · cases (Prod.mk.inj answered).2
      · rename_i start handle begun
        obtain ⟨count, _, isWorld, reported⟩ :=
          runBatch_reported rt (.tx ⟨handle, false⟩) p start
        simp only at answered
        split at answered
        · cases (Prod.mk.inj answered).2
        · rename_i ended
          cases answered
          refine ⟨conn, .tx ⟨handle, false⟩, start, count, found, ?_, reported, ?_⟩
          · simp [beginBatch, inTransaction, begun, Except.map]
          · rw [BatchEnded, if_pos inTransaction, ← isWorld]
            exact ⟨_, _, rfl, ended⟩
    · rename_i plain
      obtain ⟨count, _, isWorld, reported⟩ := runBatch_reported rt (.db conn.db) p world
      cases answered
      refine ⟨conn, .db conn.db, world, count, found, ?_, reported, ?_⟩
      · rw [beginBatch, if_neg plain]
      · rw [BatchEnded, if_neg plain]
        exact isWorld

/-- A driver that executes every statement but one. -/
def choosyRuntime : Runtime Unit :=
  { plainRuntime Unit none with
    execDb := fun _ sql _ world =>
      (world, if sql = "DROP" then .error "refused" else .ok ⟨.ok 2⟩) }

def connected : Server Unit :=
  { newServer choosyRuntime (plainSpec false) none with
    conns := (∅ : Tables.Table Nat (ConnectionState Unit)).insert 1
      { config := plainConfig, db := 0, ddlSpec := plainSpec false, schemaSQL := {} } }

def stoppedBatch : ExecBatchParams := ⟨1, ["INSERT", "DROP", "DELETE"], true, false⟩

theorem stopped_batch_reports : ∃ conn execer start count,
    connected.conns.lookup 1 = some conn ∧
      beginBatch choosyRuntime conn false () = (start, .ok execer) ∧
      Reported stoppedBatch count
        (executeAll choosyRuntime execer (stoppedBatch.statements.take count) start).2
        [2, 0, 0] [⟨1, errSQLSyntax, "refused"⟩] ∧
      BatchEnded choosyRuntime stoppedBatch execer [⟨1, errSQLSyntax, "refused"⟩]
        (executeAll choosyRuntime execer (stoppedBatch.statements.take count) start).1 () :=
  execBatch_reports choosyRuntime connected stoppedBatch () () _ _ rfl

end Onetcli.DbIpc
