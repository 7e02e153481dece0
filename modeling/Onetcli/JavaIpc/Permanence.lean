import Onetcli.JavaIpc.Bookkeeping

/-!
What makes the work of a transaction permanent, when all JDBC calls succeed and the
databases have logging. Two requests go past the transaction of a connection: a batch in
a transaction of its own commits the work that is there, and the connection that is
closed has left the table before its transaction would be rolled back.
-/

namespace Onetcli.JavaIpc

open Jdbc Runs Tables

variable {o : Outside} {s : Server} {out : Outcomes} {connId : Nat} {txId : String}

/-- No JDBC call throws; statements may be rejected. -/
def Succeeds (out : Outcomes) : Prop := ∀ call connId, out.throws call connId = false

/-- Work of a transaction is made permanent by its commit only, and no connection is
closed with such work. -/
def Allowed (request : Request) : Event Work → Prop
  | .persisted work => ∀ txId, work.tx = some txId → request = .txCommit txId
  | .closed left => ∀ work ∈ left, work.tx = none

def NoTx (works : List Work) : Prop := ∀ work ∈ works, work.tx = none

/-! ## Events of statements -/

theorem executeEach_events (out : Outcomes) (stopOnError : Bool) (tx : Option String)
    (index : Nat) (statements : List String) (connection : Connection Work) :
    ∀ event ∈ (executeEach out stopOnError tx index statements connection).2.1,
      connection.autoCommit = true ∧ ∃ work, event = .persisted work ∧ work.tx = tx := by
  induction statements generalizing index connection with
  | nil =>
    intro event member
    cases member
  | cons sql rest ih =>
    unfold executeEach
    split
    · split
      · intro event member
        cases member
      · exact ih (index + 1) connection
    · intro event member
      rcases List.mem_append.mp member with here | later
      · unfold Connection.execute at here
        split at here
        · rename_i on
          rw [List.mem_singleton.mp here]
          exact ⟨on, _, rfl, rfl⟩
        · cases here
      · have found := ih (index + 1) (connection.execute ⟨sql, tx⟩).1 event later
        rw [connection.execute_autoCommit] at found
        exact found

theorem executeEach_silent {connection : Connection Work} (off : connection.autoCommit = false)
    (out : Outcomes) (stopOnError : Bool) (tx : Option String) (index : Nat)
    (statements : List String) :
    (executeEach out stopOnError tx index statements connection).2.1 = [] := by
  refine List.eq_nil_iff_forall_not_mem.mpr fun event member => ?_
  have on := (executeEach_events out stopOnError tx index statements connection event member).1
  rw [off] at on
  cases on

theorem executeEach_failed (out : Outcomes) (stopOnError : Bool) (tx : Option String)
    (index : Nat) (statements : List String) (connection : Connection Work) :
    (executeEach out stopOnError tx index statements connection).2.2 = true ↔
      ∃ place < statements.length, out.rejects (index + place) = true := by
  induction statements generalizing index connection with
  | nil => simp [executeEach]
  | cons sql rest ih =>
    have shifted (connection : Connection Work) :
        (executeEach out stopOnError tx (index + 1) rest connection).2.2 = true ↔
          ∃ place < rest.length, out.rejects (index + (place + 1)) = true := by
      rw [ih]
      simp only [Nat.add_assoc, Nat.add_comm 1]
    unfold executeEach
    by_cases rejected : out.rejects index = true
    · have first : ∃ place < (sql :: rest).length, out.rejects (index + place) = true :=
        ⟨0, Nat.succ_pos _, rejected⟩
      rw [if_pos rejected]
      split <;> exact iff_of_true rfl first
    · rw [if_neg rejected]
      dsimp only
      rw [shifted]
      constructor
      · rintro ⟨place, inside, isRejected⟩
        exact ⟨place + 1, Nat.succ_lt_succ inside, isRejected⟩
      · rintro ⟨place, inside, isRejected⟩
        cases place with
        | zero => exact absurd isRejected rejected
        | succ place => exact ⟨place, Nat.lt_of_succ_lt_succ inside, isRejected⟩

theorem executeEach_work {connection : Connection Work} (off : connection.autoCommit = false)
    {stopOnError : Bool} {tx : Option String} {index : Nat} {statements : List String}
    (accepted : (executeEach out stopOnError tx index statements connection).2.2 = false) :
    (executeEach out stopOnError tx index statements connection).1.uncommitted =
      connection.uncommitted ++ statements.map fun sql => ⟨sql, tx⟩ := by
  induction statements generalizing index connection with
  | nil => simp [executeEach]
  | cons sql rest ih =>
    unfold executeEach at accepted ⊢
    by_cases rejected : out.rejects index = true
    · rw [if_pos rejected] at accepted
      split at accepted <;> cases accepted
    · rw [if_neg rejected] at accepted ⊢
      have ran : connection.execute ⟨sql, tx⟩ =
          ({ connection with uncommitted := connection.uncommitted ++ [⟨sql, tx⟩] }, []) := by
        simp [Connection.execute, off]
      dsimp only at accepted ⊢
      rw [ih ((connection.execute_autoCommit _).trans off) accepted, ran]
      simp

/-! ## Events of a request -/

def AllowedAll (request : Request) (events : List (Event Work)) : Prop :=
  ∀ event ∈ events, Allowed request event

theorem allowedAll_nil (request : Request) : AllowedAll request [] := by
  intro event member
  cases member

variable {request : Request}

theorem allowedAll_append {first second : List (Event Work)} :
    AllowedAll request (first ++ second) ↔
      AllowedAll request first ∧ AllowedAll request second := List.forall_mem_append

theorem allowedAll_persisted {works : List Work} (free : NoTx works) :
    AllowedAll request (works.map .persisted) := by
  intro event member
  obtain ⟨work, inside, rfl⟩ := List.mem_map.mp member
  intro txId isTx
  rw [free work inside] at isTx
  cases isTx

theorem noTx_of_persisted (other : ∀ txId, request ≠ .txCommit txId)
    {works : List Work} (allowed : AllowedAll request (works.map .persisted)) : NoTx works := by
  intro work inside
  have here : ∀ txId, work.tx = some txId → request = .txCommit txId :=
    allowed _ (List.mem_map_of_mem inside)
  cases isTx : work.tx with
  | none => rfl
  | some txId => exact absurd (here txId isTx) (other txId)

theorem Steady.noTx {state : ConnectionState} (steady : Steady o connId state)
    (logs : o.logs connId = true) (idle : state.activeTxId = none) :
    NoTx state.connection.uncommitted := by
  intro work member
  cases isTx : work.tx with
  | none => rfl
  | some txId =>
    have owned := steady.tagged logs work member txId isTx
    rw [idle] at owned
    cases owned

-- In a transaction statements are kept back, and outside they belong to none.
theorem Steady.statementsAllowed {state : ConnectionState} (steady : Steady o connId state)
    (logs : o.logs connId = true) (request : Request) (stopOnError : Bool)
    (statements : List String) : AllowedAll request
      (executeEach out stopOnError state.activeTxId 0 statements state.connection).2.1 := by
  intro event member
  obtain ⟨on, work, rfl, isTx⟩ := executeEach_events _ _ _ _ _ _ event member
  cases active : state.activeTxId with
  | none =>
    intro txId owned
    rw [isTx, active] at owned
    cases owned
  | some txId =>
    have off := steady.off logs (by rw [active]; rfl)
    rw [on] at off
    cases off

theorem handleTxBegin_allowed (request : Request) :
    AllowedAll request (handleTxBegin o s out connId).2.1 := by
  unfold handleTxBegin
  cases s.connections.lookup connId with
  | none => exact allowedAll_nil request
  | some state =>
    dsimp only
    split
    · exact allowedAll_nil request
    · split
      · split
        · exact allowedAll_nil request
        · split <;> exact allowedAll_nil request
      · exact allowedAll_nil request

theorem finishTransaction_silent (well : Succeeds out) {state : ConnectionState}
    (nothing : state.connection.uncommitted = []) :
    (finishTransaction s out txId connId state).2.1 = [] := by
  unfold finishTransaction
  dsimp only
  split
  · rw [well .restore connId]
    exact Connection.setAutoCommit_silent _ _ nothing
  · rfl

section Requests

variable (sound : Sound o s) (logs : ∀ connId, o.logs connId = true)

include sound logs

theorem handleStatements_allowed (request : Request) (wanted : Option String)
    (statements : List String) :
    AllowedAll request (handleStatements s out connId wanted statements).2.1 := by
  unfold handleStatements
  split
  · exact allowedAll_nil request
  · rename_i state accepted
    have steady := sound.steady connId state (requireConnection_ok accepted)
    exact steady.statementsAllowed (logs connId) request true statements

theorem handleDataImportChunk_allowed (request : Request) (importId : String) (rows : Nat) :
    AllowedAll request (handleDataImportChunk s out importId rows).2.1 := by
  unfold handleDataImportChunk
  split
  · exact allowedAll_nil request
  · split
    · exact allowedAll_nil request
    · exact allowedAll_nil request
    · rename_i found
      exact (sound.steady _ _ found).statementsAllowed (logs _) request true _

theorem withTransaction_allowed {next : TxState → ConnectionState → Answer}
    (each : ∀ tx state, Steady o tx.connId state → state.activeTxId = some txId →
      state.logging = true → AllowedAll request (next tx state).2.1) :
    AllowedAll request (withTransaction s txId next).2.1 := by
  cases found : s.transactions.lookup txId with
  | none =>
    rw [withTransaction, requireTransaction, found]
    exact allowedAll_nil request
  | some tx =>
    obtain ⟨other, state, same, _, here, active, asked⟩ := owned_state sound (owner_eq found)
    rw [withTransaction_eq found here]
    exact each tx state (sound.steady tx.connId state here) active (asked.trans (logs tx.connId))

variable (well : Succeeds out)

include well

theorem handleTxCommit_allowed : AllowedAll (.txCommit txId) (handleTxCommit s out txId).2.1 := by
  refine withTransaction_allowed sound logs fun tx state steady active logging => ?_
  rw [if_pos logging, well .commit tx.connId]
  refine allowedAll_append.mpr ⟨?_, ?_⟩
  · intro event member
    obtain ⟨work, inside, rfl⟩ := List.mem_map.mp member
    intro wanted isTx
    have owned := steady.tagged (logs tx.connId) work inside wanted isTx
    rw [active, Option.some.injEq] at owned
    rw [owned]
  · have silent : (finishTransaction s out txId tx.connId
        { state with connection := state.connection.commit.1 }).2.1 = [] :=
      finishTransaction_silent well rfl
    rw [silent]
    exact allowedAll_nil _

theorem handleTxRollback_allowed (request : Request) (toSavepoint : Option String) :
    AllowedAll request (handleTxRollback s out txId toSavepoint).2.1 := by
  refine withTransaction_allowed sound logs fun tx state steady active logging => ?_
  cases toSavepoint with
  | some name =>
    dsimp only
    split
    · exact allowedAll_nil request
    · rw [if_pos logging, well .rollbackTo tx.connId]
      exact allowedAll_nil request
  | none =>
    dsimp only
    rw [if_pos logging, well .rollback tx.connId]
    have silent : (finishTransaction s out txId tx.connId
        { state with connection := state.connection.rollback }).2.1 = [] :=
      finishTransaction_silent well rfl
    rw [if_neg Bool.false_ne_true, silent]
    exact allowedAll_nil request

omit well in
theorem handleTxSavepoint_allowed (request : Request) (name : String) :
    AllowedAll request (handleTxSavepoint s out txId name).2.1 := by
  refine withTransaction_allowed sound logs fun tx state _ _ logging => ?_
  rw [if_pos logging]
  split <;> exact allowedAll_nil request

omit well in
theorem handleTxRelease_allowed (request : Request) (name : String) :
    AllowedAll request (handleTxRelease s out txId name).2.1 := by
  refine withTransaction_allowed sound logs fun tx state _ _ _ => ?_
  dsimp only
  split
  · exact allowedAll_nil request
  · split <;> exact allowedAll_nil request

/-! ### Batches -/

def BatchTidy (s : Server) (out : Outcomes) (connId : Nat) (statements : List String) : Prop :=
  ∀ state, s.connections.lookup connId = some state → state.activeTxId.isSome = true →
    (∃ place < statements.length, out.rejects place = true) ∨
      statements = [] ∧ NoTx state.connection.uncommitted

omit sound logs in
theorem endBatch_settles (connId : Nat) (failed : Bool) (connection : Connection Work) :
    (endBatch out connId failed connection).1.uncommitted = [] ∧
      (endBatch out connId failed connection).2.1 =
        if failed then [] else connection.uncommitted.map .persisted := by
  unfold endBatch
  cases failed with
  | true =>
    rw [if_pos rfl, well .rollback connId]
    exact ⟨rfl, rfl⟩
  | false =>
    rw [if_neg Bool.false_ne_true, well .commit connId]
    exact ⟨rfl, rfl⟩

theorem transactional_batch_events {state : ConnectionState}
    (found : s.connections.lookup connId = some state) (statements : List String)
    (stopOnError : Bool) : (handleExecBatch o s out connId statements stopOnError true).2.1 =
      if (executeEach out stopOnError state.activeTxId 0 statements
          (state.connection.setAutoCommit false).1).2.2 then []
      else (state.connection.uncommitted ++
        statements.map fun sql => (⟨sql, state.activeTxId⟩ : Work)).map .persisted := by
  have asked := isLogging_asked (sound.steady connId state found)
  have logging : (true && (isLogging o connId state).1) = true := asked.logs.trans (logs connId)
  have off : (state.connection.setAutoCommit false).1.autoCommit = false := rfl
  have silent := executeEach_silent off out stopOnError state.activeTxId 0 statements
  obtain ⟨settled, ended⟩ := endBatch_settles well connId
    (executeEach out stopOnError state.activeTxId 0 statements
      (state.connection.setAutoCommit false).1).2.2
    (executeEach out stopOnError state.activeTxId 0 statements
      (state.connection.setAutoCommit false).1).1
  unfold handleExecBatch
  rw [found]
  simp only [well .getAutoCommit connId, well .disable connId, well .restore connId, if_pos logging,
    Bool.false_eq_true, if_false, asked.activeTxId, asked.connection]
  rw [Connection.setAutoCommit_silent _ _ settled, silent, ended, List.append_nil]
  cases failed : (executeEach out stopOnError state.activeTxId 0 statements
      (state.connection.setAutoCommit false).1).2.2 with
  | true => rfl
  | false =>
    rw [executeEach_work off failed]
    rfl

theorem transactional_batch_allowed_iff (statements : List String) (stopOnError : Bool) :
    AllowedAll (.execBatch connId statements stopOnError true)
        (handleExecBatch o s out connId statements stopOnError true).2.1 ↔
      BatchTidy s out connId statements := by
  cases found : s.connections.lookup connId with
  | none =>
    rw [handleExecBatch, found]
    refine iff_of_true (allowedAll_nil _) ?_
    intro state here
    rw [found] at here
    cases here
  | some state =>
    have steady := sound.steady connId state found
    have failed := executeEach_failed out stopOnError state.activeTxId 0 statements
      (state.connection.setAutoCommit false).1
    simp only [Nat.zero_add] at failed
    rw [transactional_batch_events sound logs well found]
    constructor
    · intro allowed other here active
      rw [found, Option.some.injEq] at here
      subst here
      by_cases rejected : ∃ place < statements.length, out.rejects place = true
      · exact Or.inl rejected
      · rw [if_neg (fun isFailed => rejected (failed.mp isFailed))] at allowed
        have free := noTx_of_persisted (fun txId => Request.noConfusion) allowed
        refine Or.inr ⟨?_, fun work member => free work (List.mem_append_left _ member)⟩
        cases statements with
        | nil => rfl
        | cons sql rest =>
          have idle : state.activeTxId = none :=
            free ⟨sql, state.activeTxId⟩ (List.mem_append_right _ List.mem_cons_self)
          rw [idle] at active
          cases active
    · intro tidy
      split
      · exact allowedAll_nil _
      · rename_i accepted
        refine allowedAll_persisted ?_
        cases active : state.activeTxId with
        | none =>
          intro work member
          rcases List.mem_append.mp member with old | isNew
          · exact steady.noTx (logs connId) active work old
          · obtain ⟨sql, _, rfl⟩ := List.mem_map.mp isNew
            rfl
        | some txId =>
          rcases tidy state found (by rw [active]; rfl) with rejected | ⟨empty, free⟩
          · exact absurd (failed.mpr rejected) accepted
          · rw [empty, List.map_nil, List.append_nil]
            exact free

theorem plain_batch_allowed (request : Request) (statements : List String) (stopOnError : Bool) :
    AllowedAll request (handleExecBatch o s out connId statements stopOnError false).2.1 := by
  unfold handleExecBatch
  cases found : s.connections.lookup connId with
  | none => exact allowedAll_nil request
  | some state =>
    have asked := isLogging_asked (sound.steady connId state found)
    simp only [well .getAutoCommit connId, Bool.false_and, Bool.false_eq_true, if_false]
    exact asked.steady.statementsAllowed (logs connId) request stopOnError statements

/-! ### Closing -/

omit sound logs in
theorem handleConnClose_allowed_iff :
    AllowedAll (.connClose connId) (handleConnClose o s out connId).2.1 ↔
      ∀ state, s.connections.lookup connId = some state → NoTx state.connection.uncommitted := by
  cases found : s.connections.lookup connId with
  | none =>
    rw [handleConnClose, found]
    exact iff_of_true (allowedAll_nil _) fun state here => by cases here
  | some state =>
    rw [handleConnClose_server found, well .close connId]
    constructor
    · intro allowed other here
      rw [Option.some.injEq] at here
      rw [← here]
      exact allowed _ List.mem_cons_self
    · intro free event member
      rcases List.mem_cons.mp member with rfl | later
      · exact free state rfl
      · split at later
        · exact allowedAll_persisted (free state rfl) event later
        · cases later

omit sound logs in
-- The connections of the transactions are rolled back silently, and the others are as they
-- were.
theorem rollbackAll_settles (txs : List TxState) (s : Server) : (rollbackAll out txs s).2.1 = [] ∧
      ∀ connId after, (rollbackAll out txs s).1.connections.lookup connId = some after →
        ∃ before, s.connections.lookup connId = some before ∧
          ∀ work ∈ after.connection.uncommitted, work ∈ before.connection.uncommitted ∧
            ∀ tx ∈ txs, tx.connId ≠ connId := by
  induction txs generalizing s with
  | nil => exact ⟨rfl, fun connId after found => ⟨after, found, fun work member => by simp [member]⟩⟩
  | cons tx rest ih =>
    unfold rollbackAll
    cases found : s.connections.lookup tx.connId with
    | none =>
      obtain ⟨silent, each⟩ := ih s
      refine ⟨silent, fun connId after here => ?_⟩
      obtain ⟨before, present, kept⟩ := each connId after here
      refine ⟨before, present, fun work member => ⟨(kept work member).1, ?_⟩⟩
      intro other among
      rcases List.mem_cons.mp among with rfl | later
      · rintro rfl
        rw [found] at present
        cases present
      · exact (kept work member).2 other later
    | some state =>
      dsimp only
      rw [well .rollback tx.connId, well .restore tx.connId]
      simp only [Bool.false_eq_true, if_false]
      obtain ⟨silent, each⟩ := ih (s.put tx.connId
        { state with connection :=
            (state.connection.rollback.setAutoCommit state.originalAutoCommit).1 })
      refine ⟨?_, fun connId after here => ?_⟩
      · rw [Connection.setAutoCommit_silent _ _ rfl]
        exact silent
      · obtain ⟨before, present, kept⟩ := each connId after here
        rw [Server.put, lookup_insert_if] at present
        by_cases same : connId = tx.connId
        · rw [if_pos same, Option.some.injEq] at present
          refine ⟨state, same ▸ found, fun work member => ?_⟩
          have settled := (kept work member).1
          rw [← present] at settled
          cases Connection.mem_setAutoCommit _ settled
        · rw [if_neg same] at present
          refine ⟨before, present, fun work member => ⟨(kept work member).1, ?_⟩⟩
          intro other among
          rcases List.mem_cons.mp among with rfl | later
          · exact Ne.symm same
          · exact (kept work member).2 other later

omit sound logs in
theorem closeConnections_allowed {entries : List (Nat × ConnectionState)}
    (free : ∀ entry ∈ entries, NoTx entry.2.connection.uncommitted) :
    AllowedAll request (closeConnections o out entries).1 := by
  induction entries with
  | nil => exact allowedAll_nil request
  | cons entry rest ih =>
    rw [List.forall_mem_cons] at free
    unfold closeConnections
    dsimp only
    rw [well .close entry.1, if_neg Bool.false_ne_true]
    refine allowedAll_append.mpr ⟨?_, ih free.2⟩
    intro event member
    rcases List.mem_cons.mp member with rfl | later
    · exact free.1
    · split at later
      · exact allowedAll_persisted free.1 event later
      · cases later

theorem closeAll_allowed (request : Request) : AllowedAll request (closeAll o s out).2.1 := by
  obtain ⟨silent, each⟩ := rollbackAll_settles well (s.transactions.entries.map (·.2)) s
  unfold closeAll
  dsimp only
  rw [silent, List.nil_append]
  refine closeConnections_allowed well fun entry member => ?_
  obtain ⟨⟨connId, after⟩, inside, rfl⟩ := List.mem_map.mp member
  obtain ⟨before, present, kept⟩ := each connId after (AList.mem_lookup_iff.mpr inside)
  have steady := sound.steady connId before present
  cases active : before.activeTxId with
  | none =>
    intro work left
    exact steady.noTx (logs connId) active work (kept work left).1
  | some txId =>
    -- The transaction of the connection is among those that were rolled back.
    intro work left
    have owner := (sound.owned txId connId).mpr ((active_eq present).trans active)
    obtain ⟨tx, found, same⟩ := Option.map_eq_some_iff.mp owner
    have among : tx ∈ s.transactions.entries.map (·.2) :=
      List.mem_map.mpr ⟨_, AList.mem_lookup_iff.mp found, rfl⟩
    exact absurd same ((kept work left).2 tx among)

/-- What goes past the transaction of a connection: a batch in a transaction of its own
that ends with a commit while there is work of the connection's transaction, its own
included, and closing a connection with such work. -/
def Tidy (s : Server) : Request × Outcomes → Prop
  | (.execBatch connId statements _ true, out) =>
    s.initialized = true → BatchTidy s out connId statements
  | (.connClose connId, _) => s.initialized = true →
      ∀ state, s.connections.lookup connId = some state → NoTx state.connection.uncommitted
  | _ => True

theorem dispatch_allowed_iff (request : Request)
    (ready : request.requiresInit = true → s.initialized = true) :
    AllowedAll request (dispatch o s out request).2.1 ↔ Tidy s (request, out) := by
  cases request with
  | execBatch connId statements stopOnError inTransaction =>
    cases inTransaction with
    | true =>
      rw [dispatch, transactional_batch_allowed_iff sound logs well]
      exact ⟨fun tidy _ => tidy, fun tidy => tidy (ready rfl)⟩
    | false =>
      exact iff_of_true (plain_batch_allowed sound logs well _ statements stopOnError) trivial
  | connClose connId =>
    rw [dispatch, handleConnClose_allowed_iff well]
    exact ⟨fun tidy _ => tidy, fun tidy => tidy (ready rfl)⟩
  | init compatible =>
    refine iff_of_true ?_ trivial
    rw [dispatch]
    split <;> exact allowedAll_nil _
  | shutdown => exact iff_of_true (closeAll_allowed sound logs well _) trivial
  | connOpen =>
    refine iff_of_true ?_ trivial
    rw [dispatch, handleConnOpen]
    split <;> exact allowedAll_nil _
  | statements connId txId statements =>
    exact iff_of_true (handleStatements_allowed sound logs _ txId statements) trivial
  | txBegin connId => exact iff_of_true (handleTxBegin_allowed _) trivial
  | txCommit txId => exact iff_of_true (handleTxCommit_allowed sound logs well) trivial
  | txRollback txId toSavepoint =>
    refine iff_of_true (handleTxRollback_allowed sound logs well _ toSavepoint) ?_
    cases toSavepoint <;> trivial
  | txSavepoint txId name =>
    exact iff_of_true (handleTxSavepoint_allowed sound logs _ name) trivial
  | txRelease txId name => exact iff_of_true (handleTxRelease_allowed sound logs _ name) trivial
  | importBegin connId format schema table columns =>
    refine iff_of_true ?_ trivial
    rw [dispatch, handleDataImportBegin]
    split
    · exact allowedAll_nil _
    · split
      · exact allowedAll_nil _
      · cases table <;> exact allowedAll_nil _
  | importChunk importId rows =>
    exact iff_of_true (handleDataImportChunk_allowed sound logs _ importId rows) trivial
  | importCommit importId =>
    refine iff_of_true ?_ trivial
    rw [dispatch, handleDataImportCommit]
    split <;> exact allowedAll_nil _
  | importAbort importId => exact iff_of_true (allowedAll_nil _) trivial

omit sound logs well in
theorem tidy_refused (refused : s.initialized = false) (request : Request) :
    Tidy s (request, out) := by
  have notReady : s.initialized ≠ true := by simp [refused]
  cases request with
  | execBatch connId statements stopOnError inTransaction =>
    cases inTransaction with
    | true => exact fun ready => absurd ready notReady
    | false => trivial
  | connClose connId => exact fun ready => absurd ready notReady
  | _ => trivial

theorem handle_allowed_iff (request : Request) :
    AllowedAll request (handle o s out request).2.1 ↔ Tidy s (request, out) := by
  unfold handle
  split
  · rename_i refused
    rw [Bool.and_eq_true, Bool.not_eq_true'] at refused
    exact iff_of_true (allowedAll_nil _) (tidy_refused refused.2 request)
  · rename_i accepted
    refine dispatch_allowed_iff sound logs well request fun requires => ?_
    simpa [requires] using accepted

end Requests

/-! ## Runs -/

structure Logged where
  server : Server := {}
  log : List (Request × Event Work) := []

def record (o : Outside) : Machine Logged (Request × Outcomes) Reply where
  step s input :=
    let answer := handle o s.server input.2 input.1
    ({ server := answer.1, log := s.log ++ answer.2.1.map fun event => (input.1, event) },
      answer.2.2)

def Kept (s : Logged) : Prop := ∀ entry ∈ s.log, Allowed entry.1 entry.2

theorem restores_of_succeeds (well : Succeeds out) (request : Request) :
    Restores o s (request, out) := by
  have finishes (ends : Call) (txId : String) : FinishRestores o s out ends txId :=
    fun connId _ _ => Or.inr (well .restore connId)
  cases request with
  | txCommit txId => exact fun _ => finishes .commit txId
  | txRollback txId toSavepoint =>
    cases toSavepoint with
    | none => exact fun _ => finishes .rollback txId
    | some name => trivial
  | execBatch connId statements stopOnError inTransaction =>
    cases inTransaction with
    | true => exact fun _ _ _ _ _ _ => Or.inr (Or.inr (well .restore connId))
    | false => trivial
  | _ => trivial

theorem kept_step {s : Logged} : Kept ((record o).step s (request, out)).1 ↔
      Kept s ∧ AllowedAll request (handle o s.server out request).2.1 := by
  rw [Kept, record, List.forall_mem_append, List.forall_mem_map]
  rfl

/-- With databases that have logging and JDBC calls that succeed, the work of a
transaction is made permanent by its commit only and rolled back before its connection is
closed, exactly if no request goes past the transaction of a connection. -/
theorem kept_iff_tidy (o : Outside) (logs : ∀ connId, o.logs connId = true)
    (inputs : List (Request × Outcomes)) (well : ∀ input ∈ inputs, Succeeds input.2) :
    (∀ reached ∈ (record o).visited {} inputs, Kept reached) ↔
      (record o).Respects (fun s input => Tidy s.server input) {} inputs := by
  refine visited_property_iff (record o) (fun s input => Tidy s.server input)
    (fun s => Sound o s.server ∧ Kept s) Kept (fun s both => both.2) {} inputs ?_ ?_ ?_
  · rintro s ⟨request, out⟩ member ⟨sound, kept⟩ tidy
    have succeeds := well _ member
    have allowed := (handle_allowed_iff sound logs succeeds request).mpr tidy
    exact ⟨handle_sound sound (restores_of_succeeds succeeds request), kept_step.mpr ⟨kept, allowed⟩⟩
  · rintro s ⟨request, out⟩ member ⟨sound, _⟩ keptNext
    exact (handle_allowed_iff sound logs (well _ member) request).mp (kept_step.mp keptNext).2
  · refine ⟨sound_empty rfl rfl rfl, ?_⟩
    intro entry member
    cases member

theorem allWell_succeeds : Succeeds allWell := fun _ _ => rfl

/-- A transaction with a plain batch, its commit and the shutdown of the server. -/
theorem committed_run_kept :
    Kept ((record ⟨.oscar, true, fun _ => none⟩).run {}
        [(.init true, allWell), (.connOpen, allWell), (.txBegin 1, allWell),
          (.execBatch 1 ["INSERT INTO t VALUES (1)"] true false, allWell),
          (.txCommit "oscar-tx-1", allWell), (.shutdown, allWell)]).1 := by
  have succeeds : ∀ input ∈ [(Request.init true, allWell), (.connOpen, allWell),
      (.txBegin 1, allWell), (.execBatch 1 ["INSERT INTO t VALUES (1)"] true false, allWell),
      (.txCommit "oscar-tx-1", allWell), (.shutdown, allWell)], Succeeds input.2 := by
    intro input member
    simp only [List.mem_cons, List.not_mem_nil, or_false] at member
    rcases member with rfl | rfl | rfl | rfl | rfl | rfl <;> exact allWell_succeeds
  exact (kept_iff_tidy ⟨.oscar, true, fun _ => none⟩ (fun _ => rfl) _ succeeds).mpr
    ⟨trivial, trivial, trivial, trivial, trivial, trivial, trivial⟩ _ (run_mem_visited _ _ _)

/-- A batch of its own commits the work of the transaction that is active, and a closed
connection still has such work. -/
theorem transaction_bypassed :
    (¬∀ reached ∈ (record ⟨.oscar, false, fun _ => none⟩).visited {}
        [(.init true, allWell), (.connOpen, allWell), (.txBegin 1, allWell),
          (.statements 1 none ["DELETE FROM t"], allWell), (.execBatch 1 [] true true, allWell)],
      Kept reached) ∧
    ¬∀ reached ∈ (record ⟨.oscar, true, fun _ => none⟩).visited {}
        [(.init true, allWell), (.connOpen, allWell), (.txBegin 1, allWell),
          (.statements 1 none ["DELETE FROM t"], allWell), (.connClose 1, allWell)],
      Kept reached := by
  constructor
  · intro each
    have last := each _ (run_mem_visited _ _ _)
    have committed := last (.execBatch 1 [] true true,
      .persisted ⟨"DELETE FROM t", some "oscar-tx-1"⟩) List.mem_cons_self
    have same : Request.execBatch 1 [] true true = .txCommit "oscar-tx-1" :=
      committed "oscar-tx-1" rfl
    cases same
  · intro each
    have last := each _ (run_mem_visited _ _ _)
    have committed := last (.connClose 1, .closed [⟨"DELETE FROM t", some "oscar-tx-1"⟩])
      List.mem_cons_self
    have untagged : (⟨"DELETE FROM t", some "oscar-tx-1"⟩ : Work).tx = none :=
      committed _ List.mem_cons_self
    cases untagged

end Onetcli.JavaIpc
