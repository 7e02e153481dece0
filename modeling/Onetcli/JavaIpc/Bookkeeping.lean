import Onetcli.JavaIpc.Books

/-!
Runs of a server whose JDBC calls may fail. The books are right in every state exactly
if the calls that give a connection its flag back do not throw: at the end of a
transaction the books are changed before and after that call, and a batch changes the
flag for itself.
-/

namespace Onetcli.JavaIpc

open Jdbc Runs Tables

variable {o : Outside} {s : Server} {out : Outcomes} {connId : Nat} {txId : String}

/-! ## Runs -/

def serve (o : Outside) : Machine Server (Request × Outcomes) (List (Event Work) × Reply) where
  step s input := handle o s input.2 input.1

/-- A call that gives a connection its flag back does not throw, unless the flag stays as
it was: the one after a commit or rollback that ends a transaction, and the one after a
transactional batch on a connection that is in auto-commit. -/
def Restores (o : Outside) (s : Server) : Request × Outcomes → Prop
  | (.txCommit txId, out) => s.initialized = true → FinishRestores o s out .commit txId
  | (.txRollback txId none, out) => s.initialized = true → FinishRestores o s out .rollback txId
  | (.execBatch connId _ _ true, out) => s.initialized = true → BatchRestores o s out connId
  | _ => True

theorem init_sound (sound : Sound o s) (compatible : Bool) :
    Sound o (dispatch o s out (.init compatible)).1 := by
  rw [dispatch]
  split
  · exact ⟨sound.owned, sound.imports, sound.steady, sound.named, sound.fresh⟩
  · exact sound

theorem dispatch_sound (sound : Sound o s) (initialized : s.initialized = true)
    {request : Request} (restores : Restores o s (request, out)) :
    Sound o (dispatch o s out request).1 := by
  cases request with
  | init compatible => exact init_sound sound compatible
  | shutdown => exact closeAll_sound
  | connOpen => exact handleConnOpen_sound sound
  | connClose connId => exact handleConnClose_sound sound
  | statements connId txId statements => exact handleStatements_sound sound txId statements
  | execBatch connId statements stopOnError inTransaction =>
    refine handleExecBatch_sound sound statements stopOnError inTransaction ?_
    rintro rfl
    exact restores initialized
  | txBegin connId => exact handleTxBegin_sound sound
  | txCommit txId => exact handleTxCommit_sound sound (restores initialized)
  | txRollback txId toSavepoint =>
    refine handleTxRollback_sound sound toSavepoint ?_
    rintro rfl
    exact restores initialized
  | txSavepoint txId name => exact handleTxSavepoint_sound sound name
  | txRelease txId name => exact handleTxRelease_sound sound name
  | importBegin connId format schema table columns =>
    exact handleDataImportBegin_sound sound format schema table columns
  | importChunk importId rows => exact handleDataImportChunk_sound sound importId rows
  | importCommit importId =>
    rw [dispatch, handleDataImportCommit]
    split
    · exact sound
    · exact forgetImport_sound sound importId
  | importAbort importId => exact forgetImport_sound sound importId

theorem handle_sound (sound : Sound o s) {request : Request}
    (restores : Restores o s (request, out)) : Sound o (handle o s out request).1 := by
  unfold handle
  by_cases initialized : s.initialized = true
  · rw [initialized, Bool.not_true, Bool.and_false]
    exact dispatch_sound sound initialized restores
  · split
    · exact sound
    · rename_i allowed
      cases request with
      | init compatible => exact init_sound sound compatible
      | shutdown => exact closeAll_sound
      | _ => simp [Request.requiresInit, initialized] at allowed

/-! ## Calls that must not throw -/

theorem lost_not_consistent {state : ConnectionState} (owned : state.activeTxId = some txId) :
    ¬Consistent o
      (Server.put { s with transactions := s.transactions.erase txId } connId state) := by
  intro consistent
  have active : (Server.put { s with transactions := s.transactions.erase txId } connId
      state).active connId = some txId := by
    rw [active_put, if_pos rfl, owned]
  have owner := (consistent.owned txId connId).mpr active
  rw [owner_put, Server.owner, AList.lookup_erase] at owner
  cases owner

theorem finishTransaction_lost {state : ConnectionState} (logging : state.logging = true)
    (throws : out.throws .restore connId = true) (owned : state.activeTxId = some txId) :
    ¬Consistent o (finishTransaction s out txId connId state).1 := by
  rw [finishTransaction, if_pos logging, if_pos throws]
  exact lost_not_consistent owned

theorem handleTxCommit_needs (sound : Sound o s)
    (consistent : Consistent o (handleTxCommit s out txId).1) :
    FinishRestores o s out .commit txId := by
  intro connId owned logs
  obtain ⟨tx, state, found, rfl, here, active, asked⟩ := owned_state sound owned
  by_contra neither
  rw [not_or, Bool.not_eq_false] at neither
  have logging : state.logging = true := asked.trans logs
  have lost : ¬Consistent o (finishTransaction s out txId tx.connId
      { state with connection := state.connection.commit.1 }).1 :=
    finishTransaction_lost logging neither.2 active
  rw [handleTxCommit, withTransaction_eq found here, if_pos logging, if_neg neither.1] at consistent
  exact lost consistent

theorem handleTxRollback_needs (sound : Sound o s)
    (consistent : Consistent o (handleTxRollback s out txId none).1) :
    FinishRestores o s out .rollback txId := by
  intro connId owned logs
  obtain ⟨tx, state, found, rfl, here, active, asked⟩ := owned_state sound owned
  by_contra neither
  rw [not_or, Bool.not_eq_false] at neither
  have logging : state.logging = true := asked.trans logs
  have lost : ¬Consistent o (finishTransaction s out txId tx.connId
      { state with connection := state.connection.rollback }).1 :=
    finishTransaction_lost logging neither.2 active
  rw [handleTxRollback, withTransaction_eq found here] at consistent
  dsimp only at consistent
  rw [if_pos logging, if_neg neither.1] at consistent
  exact lost consistent

theorem handleExecBatch_needs (sound : Sound o s) {statements : List String} {stopOnError : Bool}
    (consistent : Consistent o (handleExecBatch o s out connId statements stopOnError true).1) :
    BatchRestores o s out connId := by
  intro state found logs isInitial idle
  have asked := isLogging_asked (sound.steady connId state found)
  have kept := batchConnection_keeps out connId stopOnError statements (isLogging o connId state).2
  by_contra none
  rw [not_or, not_or, Bool.not_eq_false] at none
  obtain ⟨read, disabled, restored⟩ := none
  have logging : (true && (isLogging o connId state).1) = true := asked.logs.trans logs
  rw [handleExecBatch, found] at consistent
  simp only [if_neg read, if_pos logging, if_neg disabled, if_pos restored] at consistent
  have flags := consistent.flags connId
    { (isLogging o connId state).2 with
      connection := batchConnection out connId stopOnError statements (isLogging o connId state).2 }
    (AList.lookup_insert _) logs ?_
  · have active := flags.mp kept.autoCommit
    rw [show (isLogging o connId state).2.activeTxId = none from asked.activeTxId.trans idle]
      at active
    cases active
  · rw [kept.initial, Connection.setAutoCommit_initial, asked.connection]
    exact isInitial

theorem restores_needed (sound : Sound o s) {request : Request}
    (consistent : Consistent o (handle o s out request).1) : Restores o s (request, out) := by
  cases request with
  | txCommit txId =>
    intro initialized
    rw [handle, initialized] at consistent
    exact handleTxCommit_needs sound consistent
  | txRollback txId toSavepoint =>
    cases toSavepoint with
    | none =>
      intro initialized
      rw [handle, initialized] at consistent
      exact handleTxRollback_needs sound consistent
    | some name => trivial
  | execBatch connId statements stopOnError inTransaction =>
    cases inTransaction with
    | true =>
      intro initialized
      rw [handle, initialized] at consistent
      exact handleExecBatch_needs sound consistent
    | false => trivial
  | _ => trivial

/-- The books are right in each state of a run exactly if the calls that give a
connection its flag back do not throw. -/
theorem consistent_iff_restores (o : Outside) (inputs : List (Request × Outcomes)) :
    (∀ reached ∈ (serve o).visited {} inputs, Consistent o reached) ↔
      (serve o).Respects (Restores o) {} inputs := by
  refine visited_property_iff (serve o) (Restores o) (Sound o) (Consistent o)
    (fun s sound => sound.consistent) {} inputs ?_ ?_ (sound_empty rfl rfl rfl)
  · rintro s ⟨request, out⟩ _ sound restores
    exact handle_sound sound restores
  · rintro s ⟨request, out⟩ _ sound consistent
    exact restores_needed sound consistent

/-! ## A commit whose connection does not take its flag back -/

def allWell : Outcomes where
  opened := some true
  throws _ _ := false
  rejects _ := false

def restoreThrows : Outcomes where
  opened := none
  throws call _ := match call with
    | .restore => true
    | _ => false
  rejects _ := false

/-- The connection is left with a transaction that nobody can end. -/
theorem commit_forgets_transaction :
    ¬∀ reached ∈ (serve ⟨.oscar, false, fun _ => none⟩).visited {}
        [(.init true, allWell), (.connOpen, allWell), (.txBegin 1, allWell),
          (.txCommit "oscar-tx-1", restoreThrows)],
      Consistent ⟨.oscar, false, fun _ => none⟩ reached := by
  intro each
  have last := each _ (run_mem_visited _ _ _)
  have forgotten := (last.owned "oscar-tx-1" 1).mpr (by decide)
  exact absurd forgotten (by decide)

end Onetcli.JavaIpc
