import Onetcli.DuckDb.Handlers
import Onetcli.Lib.Custody
import Onetcli.Lib.Checks

/-!
Who may end the transaction that the engine has open on a connection. Wire
transactions, imports and batches all use the one transaction of the engine. The
driver forgets a wire transaction after its COMMIT or ROLLBACK succeeded, an import
before it runs, and a batch that cannot end its transaction leaves it to nobody.
-/

namespace Onetcli.DuckDb

open Tables Runs Protocol Custody Checks

variable {World Value : Type}

/-! ## The transaction of the engine -/

/-- The engine keeps one flag for each connection. BEGIN succeeds only when it is
down, COMMIT and ROLLBACK take it down or fail, and a text without transaction
control leaves it alone. -/
structure KeepsFlag (engine : Engine World Value) (control : String → Prop)
    (inTx : World → ConnId → Bool) : Prop where
  begins : ∀ command, command = "BEGIN" ∨ command = "BEGIN TRANSACTION" →
    ∀ connId world, match engine.execute connId command world with
      | (after, .ok _) => inTx world connId = false ∧
          inTx after = Function.update (inTx world) connId true
      | (after, .error _) => inTx after = inTx world
  ends : ∀ command, command = "COMMIT" ∨ command = "ROLLBACK" →
    ∀ connId world, match engine.execute connId command world with
      | (after, .ok _) => inTx after = Function.update (inTx world) connId false
      | (after, .error _) => inTx after = inTx world
  executes : ∀ sql, ¬ control sql → ∀ connId world,
    inTx (engine.execute connId sql world).1 = inTx world
  queries : ∀ connId sql values world,
    inTx (engine.query connId sql values world).1 = inTx world
  prepares : ∀ connId sql world, inTx (engine.prepare connId sql world).1 = inTx world
  inserts : ∀ connId sql values world,
    inTx (engine.executePrepared connId sql values world).1 = inTx world

def commandError (engine : Engine World Value) (connId : ConnId) (command : String)
    (world : World) : Option String :=
  match (engine.execute connId command world).2 with
  | .ok _ => none
  | .error err => some err

section Flag

variable {engine : Engine World Value} {control : String → Prop} {inTx : World → ConnId → Bool}
  (laws : KeepsFlag engine control inTx)

include laws

theorem begin_cases {command : String} (begins : command = "BEGIN" ∨ command = "BEGIN TRANSACTION")
    (connId : ConnId) (world : World) :
    (∃ after, execTxControl engine connId command world = (after, .ok ()) ∧
      inTx world connId = false ∧ inTx after = Function.update (inTx world) connId true) ∨
    ∃ after err, execTxControl engine connId command world = (after, .error err) ∧
      inTx after = inTx world := by
  have law := laws.begins command begins connId world
  unfold execTxControl
  rcases answer : engine.execute connId command world with ⟨after, outcome⟩
  rw [answer] at law
  cases outcome with
  | ok affected => exact Or.inl ⟨after, rfl, law⟩
  | error err => exact Or.inr ⟨after, _, rfl, law⟩

theorem end_cases {command : String} (ends : command = "COMMIT" ∨ command = "ROLLBACK")
    (connId : ConnId) (world : World) :
    (∃ after, execTxControl engine connId command world = (after, .ok ()) ∧
      commandError engine connId command world = none ∧
      inTx after = Function.update (inTx world) connId false) ∨
    ∃ after err cause, execTxControl engine connId command world = (after, .error err) ∧
      commandError engine connId command world = some cause ∧ inTx after = inTx world := by
  have law := laws.ends command ends connId world
  unfold execTxControl commandError
  rcases answer : engine.execute connId command world with ⟨after, outcome⟩
  rw [answer] at law
  cases outcome with
  | ok affected => exact Or.inl ⟨after, rfl, rfl, law⟩
  | error err => exact Or.inr ⟨after, _, err, rfl, rfl, law⟩

theorem runExecBatch_flag (connId : ConnId) (stopOnError : Bool) (statements : List String)
    (index : Nat) (world : World) (plain : ∀ sql ∈ statements, ¬ control sql) :
    inTx (runExecBatch engine connId stopOnError statements index world).1 = inTx world := by
  induction statements generalizing index world with
  | nil => rfl
  | cons sql rest ih =>
    have here := laws.executes sql (plain sql (by simp)) connId world
    have later : ∀ sql ∈ rest, ¬ control sql :=
      fun sql member => plain sql (List.mem_cons_of_mem _ member)
    unfold runExecBatch
    rcases answer : engine.execute connId sql world with ⟨after, outcome⟩
    rw [answer] at here
    cases outcome with
    | ok affected => exact (ih (index + 1) after later).trans here
    | error err =>
      simp only
      split
      · exact here
      · exact (ih (index + 1) after later).trans here

theorem insertRow_flag (sql : String) (imp : ImportState) (row : List (Except String Value))
    (world : World) : inTx (insertRow engine sql imp row world).1 = inTx world ∧
      (insertRow engine sql imp row world).2.1.connId = imp.connId := by
  have recorded : ∀ message code, (imp.recordFailed message code).1.connId = imp.connId := by
    intro message code
    simp only [ImportState.recordFailed]
    split <;> rfl
  unfold insertRow
  split
  · exact ⟨rfl, recorded _ _⟩
  · split
    · exact ⟨rfl, recorded _ _⟩
    · rename_i values _
      have law := laws.inserts imp.connId sql values world
      split
      · rename_i answer
        rw [answer] at law
        exact ⟨law, rfl⟩
      · rename_i answer
        rw [answer] at law
        exact ⟨law, recorded _ _⟩

theorem insertRows_flag (sql : String) (rows : List (List (Except String Value)))
    (imp : ImportState) (result : ImportChunkResult) (world : World) :
    inTx (insertRows engine sql rows imp result world).1 = inTx world ∧
      (insertRows engine sql rows imp result world).2.1.connId = imp.connId := by
  induction rows generalizing imp result world with
  | nil => exact ⟨rfl, rfl⟩
  | cons row rest ih =>
    obtain ⟨flag, owner⟩ := insertRow_flag laws sql imp row world
    unfold insertRows
    rcases answer : insertRow engine sql imp row world with ⟨after, changed, outcome⟩
    rw [answer] at flag owner
    simp only
    split
    · exact ⟨flag, owner⟩
    · obtain ⟨laterFlag, laterOwner⟩ := ih changed _ after
      exact ⟨laterFlag.trans flag, laterOwner.trans owner⟩

theorem runImportChunk_flag (state : ConnectionState) (imp : ImportState)
    (rows : List (List (Except String Value))) (world : World) :
    inTx (runImportChunk engine state imp rows world).1 = inTx world ∧
      (runImportChunk engine state imp rows world).2.1.connId = imp.connId := by
  unfold runImportChunk
  split
  · exact ⟨rfl, rfl⟩
  · split
    · exact ⟨rfl, rfl⟩
    · have law := laws.prepares imp.connId (insertSql imp) world
      split
      · rename_i answer
        rw [answer] at law
        exact ⟨law, rfl⟩
      · rename_i after answer
        rw [answer] at law
        obtain ⟨flag, owner⟩ := insertRows_flag laws (insertSql imp) rows imp {} after
        exact ⟨flag.trans law, owner⟩

theorem loadTableColumns_flag (connId : ConnId) (schema : Option String) (table : String)
    (world : World) : inTx (loadTableColumns engine connId schema table world).1 = inTx world := by
  unfold loadTableColumns
  simp only
  split
  · rename_i answer
    exact (congrArg (fun reply => inTx reply.1) answer).symm.trans (laws.queries connId _ _ world)
  · rename_i answer
    exact (congrArg (fun reply => inTx reply.1) answer).symm.trans (laws.queries connId _ _ world)

end Flag

/-! ## What a call does -/

def closingError (engine : Engine World Value) (state : ConnectionState) (world : World) :
    Call Value → Option String
  | .dataImportCommit (.ok importId) =>
    (state.imports.lookup importId).bind fun imp => commandError engine imp.connId "COMMIT" world
  | .dataImportAbort (.ok importId) =>
    (state.imports.lookup importId).bind fun imp =>
      commandError engine imp.connId "ROLLBACK" world
  | .execBatch (.ok p) =>
    if p.inTransaction then
      match state.connection p.connId, execTxControl engine p.connId "BEGIN" world with
      | .ok _, (world, .ok _) =>
        let ran := runExecBatch engine p.connId p.stopOnError p.statements 0 world
        commandError engine p.connId (batchEnd ran.2) ran.1
      | _, _ => none
    else none
  | _ => none

def NoControl (control : String → Prop) : Call Value → Prop
  | .execBatch (.ok p) => ∀ sql ∈ p.statements, ¬ control sql
  | _ => True

/-- The tables and the flags after a call, by its closing error. -/
inductive Effect (state : ConnectionState) (flags : ConnId → Bool) :
    Option String → ConnectionState → (ConnId → Bool) → Prop where
  | idle : Effect state flags none state flags
  | openTx (connId : ConnId) (after : ConnectionState) (txId : TxId)
      (connected : state.connection connId = .ok ()) (isFree : flags connId = false)
      (begun : state.beginTx connId = some (after, txId)) :
      Effect state flags none after (Function.update flags connId true)
  | closeTx (txId : TxId) (connId : ConnId) (found : state.txs.lookup txId = some connId) :
      Effect state flags none (state.closeTx txId) (Function.update flags connId false)
  | openImport (imp : ImportState) (connected : state.connection imp.connId = .ok ())
      (isFree : flags imp.connId = false) :
      Effect state flags none (state.openImport imp).1 (Function.update flags imp.connId true)
  | setImport (importId : ImportId) (imp changed : ImportState)
      (found : state.imports.lookup importId = some imp) (owner : changed.connId = imp.connId) :
      Effect state flags none
        { state with imports := (state.imports.erase importId).insert importId changed } flags
  | closeImport (importId : ImportId) (imp : ImportState)
      (found : state.imports.lookup importId = some imp) :
      Effect state flags none { state with imports := state.imports.erase importId }
        (Function.update flags imp.connId false)
  | loseImport (importId : ImportId) (imp : ImportState) (err : String)
      (found : state.imports.lookup importId = some imp) :
      Effect state flags (some err) { state with imports := state.imports.erase importId } flags
  | strand (connId : ConnId) (err : String) (isFree : flags connId = false) :
      Effect state flags (some err) state (Function.update flags connId true)

section Calls

variable {engine : Engine World Value} {control : String → Prop} {inTx : World → ConnId → Bool}
  (laws : KeepsFlag engine control inTx) (state : ConnectionState) (world : World)

include laws

theorem handleTxBegin_effect (params : Params TxBeginParams) :
    Effect state (inTx world) none (handleTxBegin engine state params world).1
      (inTx (handleTxBegin engine state params world).2.1) := by
  unfold handleTxBegin
  split
  · exact .idle
  · rename_i p checks
    simp only [bind_eq_ok] at checks
    obtain ⟨_, _, _, _, rest⟩ := checks
    split at rest
    · cases rest
    · simp only [bind_eq_ok, pure_eq_ok] at rest
      obtain ⟨_, connected, rfl⟩ := rest
      rcases begin_cases laws (Or.inr rfl) _ world with
        ⟨after, answer, isFree, flag⟩ | ⟨after, err, answer, flag⟩
      · rw [answer]
        simp only
        split
        · simp_all [ConnectionState.beginTx]
        · rename_i begun
          rw [flag]
          exact .openTx _ _ _ connected isFree begun
      · rw [answer]
        simp only [flag]
        exact .idle

-- A wire transaction is closed only by a command that succeeded.
theorem endTx_effect {txId : TxId} {connId : ConnId} {command : String}
    (ends : command = "COMMIT" ∨ command = "ROLLBACK")
    (found : state.txs.lookup txId = some connId) :
    Effect state (inTx world) none (endTx engine state txId connId command world).1
      (inTx (endTx engine state txId connId command world).2.1) := by
  unfold endTx
  rcases end_cases laws ends connId world with
    ⟨after, answer, _, flag⟩ | ⟨after, err, cause, answer, _, flag⟩
  · rw [answer]
    simp only [flag]
    exact .closeTx txId connId found
  · rw [answer]
    simp only [flag]
    exact .idle

omit laws in
theorem knownTx_eq_ok {txId : TxId} {connId : ConnId} :
    knownTx state txId = .ok connId ↔ state.txs.lookup txId = some connId := by
  unfold knownTx ConnectionState.txConn
  cases state.txs.lookup txId <;> simp

theorem handleTxCommit_effect (params : Params TxId) :
    Effect state (inTx world) none (handleTxCommit engine state params world).1
      (inTx (handleTxCommit engine state params world).2.1) := by
  unfold handleTxCommit
  split
  · exact .idle
  · rename_i txId connId checks
    simp only [bind_eq_ok, pure_eq_ok, knownTx_eq_ok] at checks
    obtain ⟨_, _, _, found, _, _, same⟩ := checks
    cases same
    exact endTx_effect laws state world (Or.inl rfl) found

theorem handleTxRollback_effect (params : Params TxRollbackParams) :
    Effect state (inTx world) none (handleTxRollback engine state params world).1
      (inTx (handleTxRollback engine state params world).2.1) := by
  unfold handleTxRollback
  split
  · exact .idle
  · rename_i txId connId checks
    simp only [bind_eq_ok, knownTx_eq_ok] at checks
    obtain ⟨_, _, _, found, rest⟩ := checks
    split at rest
    · cases rest
    · simp only [bind_eq_ok, pure_eq_ok] at rest
      obtain ⟨_, _, same⟩ := rest
      cases same
      exact endTx_effect laws state world (Or.inr rfl) found

-- A started import has taken the free transaction of its connection.
theorem startImportTx_cases (params : ImportBeginParams) :
    (∃ after started, startImportTx engine state params world = (after, .ok started) ∧
      state.connection params.connId = .ok () ∧ inTx world params.connId = false ∧
      inTx after = Function.update (inTx world) params.connId true) ∨
    ∃ after err, startImportTx engine state params world = (after, .error err) ∧
      inTx after = inTx world := by
  unfold startImportTx
  cases connected : state.connection params.connId with
  | error refusal => exact Or.inr ⟨world, refusal, rfl, rfl⟩
  | ok _ =>
    have loadFlag := loadTableColumns_flag laws params.connId params.schema params.table world
    rcases loaded : loadTableColumns engine params.connId params.schema params.table world with
      ⟨middle, outcome⟩
    rw [loaded] at loadFlag
    cases outcome with
    | error err => exact Or.inr ⟨middle, err, rfl, loadFlag⟩
    | ok tableColumns =>
      simp only
      cases selectedImportColumns tableColumns params.columns with
      | error err => exact Or.inr ⟨middle, err, rfl, loadFlag⟩
      | ok columns =>
        simp only
        rcases begin_cases laws (Or.inr rfl) params.connId middle with
          ⟨after, answer, isFree, flag⟩ | ⟨after, err, answer, flag⟩
        · rw [answer, ← loadFlag]
          exact Or.inl ⟨after, _, rfl, trivial, isFree, flag⟩
        · rw [answer]
          exact Or.inr ⟨after, err, rfl, flag.trans loadFlag⟩

theorem handleDataImportBegin_effect (params : Params ImportBeginParams) :
    Effect state (inTx world) none (handleDataImportBegin engine state params world).1
      (inTx (handleDataImportBegin engine state params world).2.1) := by
  unfold handleDataImportBegin
  split
  · exact .idle
  · rename_i p _
    rcases startImportTx_cases laws state world p with
      ⟨after, started, answer, connected, isFree, flag⟩ | ⟨after, err, answer, flag⟩
    · rw [answer]
      simp only [flag]
      exact .openImport _ connected isFree
    · rw [answer]
      simp only [flag]
      exact .idle

omit laws in
theorem removeImport_eq_some {importId : ImportId} {removed : ConnectionState}
    {imp : ImportState} :
    state.removeImport importId = some (removed, imp) ↔
      state.imports.lookup importId = some imp ∧
        removed = { state with imports := state.imports.erase importId } := by
  unfold ConnectionState.removeImport
  cases state.imports.lookup importId with
  | none => simp
  | some found =>
    simp only [Option.map_some, Option.some.injEq, Prod.mk.injEq]
    tauto

theorem handleDataImportChunk_effect (params : Params (ImportChunkParams Value)) :
    Effect state (inTx world) none (handleDataImportChunk engine state params world).1
      (inTx (handleDataImportChunk engine state params world).2.1) := by
  unfold handleDataImportChunk
  split
  · exact .idle
  · rename_i p _
    split
    · exact .idle
    · rename_i removed imp taken
      obtain ⟨found, rfl⟩ := (removeImport_eq_some state).mp taken
      obtain ⟨flag, owner⟩ := runImportChunk_flag laws
        { state with imports := state.imports.erase p.importId } imp p.rows world
      simp only [flag]
      exact .setImport p.importId imp _ found owner

-- An import is gone whether or not its command succeeds.
theorem endImport_effect {command : String} (ends : command = "COMMIT" ∨ command = "ROLLBACK")
    (reply : ImportState → World → Reply) (importId : ImportId)
    (connected : ∀ imp, state.imports.lookup importId = some imp →
      state.connection imp.connId = .ok ()) : Effect state (inTx world)
      ((state.imports.lookup importId).bind fun imp => commandError engine imp.connId command world)
      (endImport engine state command (.ok importId) reply world).1
      (inTx (endImport engine state command (.ok importId) reply world).2.1) := by
  simp only [endImport, decoded, Except.mapError]
  cases found : state.imports.lookup importId with
  | none =>
    simp only [ConnectionState.removeImport, found, Option.map_none]
    exact .idle
  | some imp =>
    -- The sessions are those of the state before the entry was taken out.
    have answers : ConnectionState.connection
        { state with imports := state.imports.erase importId } imp.connId = .ok () :=
      connected imp found
    simp only [ConnectionState.removeImport, found, Option.map_some, execImportTx, answers,
      Option.bind_some]
    rcases end_cases laws ends imp.connId world with
      ⟨after, answer, noError, flag⟩ | ⟨after, err, cause, answer, failed, flag⟩
    · rw [answer, noError]
      simp only [flag]
      exact .closeImport importId imp found
    · rw [answer, failed]
      simp only [flag]
      exact .loseImport importId imp cause found

omit laws in
theorem batchEnd_ends (result : ExecBatchResult) :
    batchEnd result = "COMMIT" ∨ batchEnd result = "ROLLBACK" := by
  unfold batchEnd
  split
  · exact Or.inl rfl
  · exact Or.inr rfl

theorem handleExecBatch_effect (params : Params ExecBatchParams)
    (plain : NoControl control (.execBatch params : Call Value)) :
    Effect state (inTx world) (closingError engine state world (.execBatch params)) state
      (inTx (handleExecBatch engine state params world).1) := by
  cases params with
  | error err => exact .idle
  | ok p =>
    simp only [handleExecBatch, closingError, decoded, Except.mapError, bind, Except.bind,
      pure, Except.pure]
    cases connected : state.connection p.connId with
    | error refusal =>
      simp only
      split <;> exact .idle
    | ok _ =>
      simp only
      split
      · rcases begin_cases laws (Or.inl rfl) p.connId world with
          ⟨began, answer, isFree, flag⟩ | ⟨began, err, answer, flag⟩
        · have ran := runExecBatch_flag laws p.connId p.stopOnError p.statements 0 began plain
          rw [answer]
          simp only
          rcases outcome : runExecBatch engine p.connId p.stopOnError p.statements 0 began with
            ⟨middle, result⟩
          rw [outcome] at ran
          simp only
          rcases end_cases laws (batchEnd_ends result) p.connId middle with
            ⟨after, ended, noError, down⟩ | ⟨after, err, cause, ended, failed, stays⟩
          · -- BEGIN raised the flag and the end takes it down again.
            have restored : inTx after = inTx world := by
              rw [down, ran, flag, Function.update_idem]
              exact Function.update_eq_self_iff.mpr isFree.symm
            rw [ended, noError]
            simp only [restored]
            exact .idle
          · rw [ended, failed]
            simp only [stays, ran, flag]
            exact .strand p.connId cause isFree
        · rw [answer]
          simp only [flag]
          exact .idle
      · have ran := runExecBatch_flag laws p.connId p.stopOnError p.statements 0 world plain
        simp only [ran]
        exact .idle

theorem call_effect (request : Call Value) (plain : NoControl control request)
    (connected : ∀ importId imp, state.imports.lookup importId = some imp →
      state.connection imp.connId = .ok ()) :
    Effect state (inTx world) (closingError engine state world request)
      (call engine state world request).1 (inTx (call engine state world request).2.1) := by
  cases request with
  | txBegin params => exact handleTxBegin_effect laws state world params
  | txCommit params => exact handleTxCommit_effect laws state world params
  | txRollback params => exact handleTxRollback_effect laws state world params
  | dataImportBegin params => exact handleDataImportBegin_effect laws state world params
  | dataImportChunk params => exact handleDataImportChunk_effect laws state world params
  | dataImportCommit params =>
    cases params with
    | error err => exact .idle
    | ok importId =>
      exact endImport_effect laws state world (Or.inl rfl) _ importId (connected importId)
  | dataImportAbort params =>
    cases params with
    | error err => exact .idle
    | ok importId =>
      exact endImport_effect laws state world (Or.inr rfl) _ importId (connected importId)
  | execBatch params => exact handleExecBatch_effect laws state world params plain

end Calls

/-! ## Owners -/

inductive Owner where
  | tx (txId : TxId)
  | dataImport (importId : ImportId)

/-- What the tables record for a connection. -/
def Owns (state : ConnectionState) (connId : ConnId) : Owner → Prop
  | .tx txId => state.activeTxByConn.lookup connId = some txId
  | .dataImport importId => ∃ imp, state.imports.lookup importId = some imp ∧ imp.connId = connId

structure Sound (state : ConnectionState) (flags : ConnId → Bool) : Prop where
  owners : Exclusive flags (Owns state)
  connected : ∀ connId, flags connId = true → state.connection connId = .ok ()
  active : ∀ txId connId, state.txs.lookup txId = some connId ↔
    state.activeTxByConn.lookup connId = some txId
  txNames : Named "tx-" state.nextTxId state.txs
  importNames : Named "i-" state.nextImportId state.imports

section Sound

variable {state after : ConnectionState} {flags : ConnId → Bool}

theorem Sound.import_connected (sound : Sound state flags) {importId : ImportId}
    {imp : ImportState} (found : state.imports.lookup importId = some imp) :
    state.connection imp.connId = .ok () :=
  sound.connected _ (sound.owners.taken_of_holds _ (.dataImport importId) ⟨imp, found, rfl⟩)

theorem sound_openTx (sound : Sound state flags) {connId : ConnId} {txId : TxId}
    (connected : state.connection connId = .ok ()) (isFree : flags connId = false)
    (begun : state.beginTx connId = some (after, txId)) :
    Sound after (Function.update flags connId true) := by
  have unowned : ∀ txId, state.activeTxByConn.lookup connId ≠ some txId :=
    fun txId => sound.owners.free isFree (.tx txId)
  have fresh := sound.txNames.fresh
  unfold ConnectionState.beginTx at begun
  split at begun
  · cases begun
  · cases begun
    constructor
    · apply sound.owners.acquire isFree (.tx (ConnectionState.txName state.nextTxId))
      intro other holder
      cases holder with
      | tx txId =>
        simp only [Owns, lookup_insert_if, Owner.tx.injEq]
        by_cases same : other = connId
        · subst other
          simp [unowned, eq_comm]
        · simp [same]
      | dataImport importId => simp [Owns]
    · intro other isTaken
      rcases taken_of_acquired isTaken with rfl | wasTaken
      · exact connected
      · exact sound.connected other wasTaken
    · intro txId other
      simp only [lookup_insert_if]
      by_cases sameTx : txId = ConnectionState.txName state.nextTxId
      · by_cases same : other = connId
        · simp [sameTx, same]
        · simp only [sameTx, same, ↓reduceIte, Option.some.injEq]
          apply iff_of_false (fun equal => same equal.symm)
          intro active
          exact fresh (mem_of_lookup ((sound.active _ _).mpr active))
      · by_cases same : other = connId
        · simp only [sameTx, same, ↓reduceIte, Option.some.injEq, sound.active]
          exact iff_of_false (unowned txId) fun equal => sameTx equal.symm
        · simp only [sameTx, same, ↓reduceIte]
          exact sound.active txId other
    · exact sound.txNames.insert_next
    · exact sound.importNames

theorem sound_closeTx (sound : Sound state flags) {connId : ConnId} {txId : TxId}
    (found : state.txs.lookup txId = some connId) :
    Sound (state.closeTx txId) (Function.update flags connId false) := by
  have active : state.activeTxByConn.lookup connId = some txId := (sound.active txId connId).mp found
  have holder : Owns state connId (.tx txId) := active
  simp only [ConnectionState.closeTx, found, active, ↓reduceIte]
  constructor
  · apply sound.owners.release
    intro other owner
    cases owner with
    | tx otherTx =>
      simp only [Owns, lookup_erase_if]
      grind
    | dataImport importId =>
      constructor
      · intro held
        refine ⟨held, ?_⟩
        rintro rfl
        have same := sound.owners.unique _ _ (.dataImport importId) holder held
        cases same
      · exact And.left
  · intro other isTaken
    exact sound.connected other (taken_of_released isTaken).2
  · intro otherTx other
    have before := sound.active otherTx other
    simp only [lookup_erase_if]
    grind
  · exact sound.txNames.erase
  · exact sound.importNames

theorem sound_openImport (sound : Sound state flags) {imp : ImportState}
    (connected : state.connection imp.connId = .ok ()) (isFree : flags imp.connId = false) :
    Sound (state.openImport imp).1 (Function.update flags imp.connId true) := by
  have fresh : state.imports.lookup (ConnectionState.importName state.nextImportId) = none :=
    AList.lookup_eq_none.mpr sound.importNames.fresh
  constructor
  · apply sound.owners.acquire isFree
      (.dataImport (ConnectionState.importName state.nextImportId))
    intro other holder
    cases holder with
    | tx txId => simp [Owns, ConnectionState.openImport]
    | dataImport importId =>
      simp only [Owns, ConnectionState.openImport, lookup_insert_if, Owner.dataImport.injEq]
      by_cases same : importId = ConnectionState.importName state.nextImportId
      · subst importId
        simp [fresh, eq_comm]
      · simp [same]
  · intro other isTaken
    rcases taken_of_acquired isTaken with rfl | wasTaken
    · exact connected
    · exact sound.connected other wasTaken
  · exact sound.active
  · exact sound.txNames
  · exact sound.importNames.insert_next

theorem sound_setImport (sound : Sound state flags) {importId : ImportId}
    {imp changed : ImportState} (found : state.imports.lookup importId = some imp)
    (owner : changed.connId = imp.connId) :
    Sound { state with imports := (state.imports.erase importId).insert importId changed }
      flags := by
  constructor
  · apply sound.owners.keep
    intro connId holder
    cases holder with
    | tx txId => rfl
    | dataImport other =>
      simp only [Owns, lookup_insert_if, lookup_erase_if]
      by_cases same : other = importId
      · subst other
        simp [found, owner]
      · simp [same]
  · exact sound.connected
  · exact sound.active
  · exact sound.txNames
  · exact sound.importNames.replace (mem_of_lookup found)

theorem owns_erase_import (sound : Sound state flags) {importId : ImportId} {imp : ImportState}
    (found : state.imports.lookup importId = some imp) (connId : ConnId) (holder : Owner) :
    Owns { state with imports := state.imports.erase importId } connId holder ↔
      Owns state connId holder ∧ connId ≠ imp.connId := by
  have owner : Owns state imp.connId (.dataImport importId) := ⟨imp, found, rfl⟩
  cases holder with
  | tx txId =>
    constructor
    · intro held
      refine ⟨held, ?_⟩
      rintro rfl
      have same := sound.owners.unique _ _ (.tx txId) owner held
      cases same
    · exact And.left
  | dataImport other =>
    simp only [Owns, lookup_erase_if]
    constructor
    · rintro ⟨kept, present, rfl⟩
      split at present
      · cases present
      · rename_i different
        refine ⟨⟨kept, present, rfl⟩, ?_⟩
        intro sameConn
        have same := sound.owners.unique _ _ (.dataImport other) owner ⟨kept, present, sameConn⟩
        cases same
        exact different rfl
    · rintro ⟨⟨kept, present, rfl⟩, different⟩
      refine ⟨kept, ?_, rfl⟩
      split
      · rename_i same
        rw [same, found] at present
        cases present
        exact absurd rfl different
      · exact present

theorem sound_closeImport (sound : Sound state flags) {importId : ImportId} {imp : ImportState}
    (found : state.imports.lookup importId = some imp) :
    Sound { state with imports := state.imports.erase importId }
      (Function.update flags imp.connId false) := by
  constructor
  · exact sound.owners.release (owns_erase_import sound found)
  · intro other isTaken
    exact sound.connected other (taken_of_released isTaken).2
  · exact sound.active
  · exact sound.txNames
  · exact sound.importNames.erase

theorem effect_sound {flagsAfter : ConnId → Bool} (sound : Sound state flags)
    (effect : Effect state flags none after flagsAfter) : Sound after flagsAfter := by
  cases effect with
  | idle => exact sound
  | openTx connId after txId connected isFree begun =>
    exact sound_openTx sound connected isFree begun
  | closeTx txId connId found => exact sound_closeTx sound found
  | openImport imp connected isFree => exact sound_openImport sound connected isFree
  | setImport importId imp changed found owner => exact sound_setImport sound found owner
  | closeImport importId imp found => exact sound_closeImport sound found

theorem effect_unsound {flagsAfter : ConnId → Bool} {err : String} (sound : Sound state flags)
    (effect : Effect state flags (some err) after flagsAfter) :
    ¬ Agrees flagsAfter (Owns after) := by
  cases effect with
  | loseImport importId imp err found =>
    -- The import was the only owner.
    have owner : Owns state imp.connId (.dataImport importId) := ⟨imp, found, rfl⟩
    exact sound.owners.leak owner (owns_erase_import sound found)
  -- A batch took a free transaction and could not give it back.
  | strand connId err isFree => exact sound.owners.strand isFree

end Sound

/-! ## Runs -/

/-- An id in the tables with which the client can end the transaction of the engine. -/
def Endable (state : ConnectionState) (connId : ConnId) : Prop :=
  state.connection connId = .ok () ∧
    ((∃ txId, state.txConn txId = some connId) ∨
      ∃ importId removed imp, state.removeImport importId = some (removed, imp) ∧
        imp.connId = connId)

theorem Sound.endable {state : ConnectionState} {flags : ConnId → Bool}
    (sound : Sound state flags) (connId : ConnId) (isTaken : flags connId = true) :
    Endable state connId := by
  refine ⟨sound.connected connId isTaken, ?_⟩
  obtain ⟨owner, held⟩ := sound.owners.held connId isTaken
  cases owner with
  | tx txId => exact Or.inl ⟨txId, (sound.active txId connId).mpr held⟩
  | dataImport importId =>
    obtain ⟨imp, found, same⟩ := held
    exact Or.inr ⟨importId, _, imp, (removeImport_eq_some state).mpr ⟨found, rfl⟩, same⟩

/-- The engine's transaction of each connection is open exactly when the tables
record one owner for it, who can end it. -/
def OwnersAgree (inTx : World → ConnId → Bool) (reached : ConnectionState × World) : Prop :=
  Agrees (inTx reached.2) (Owns reached.1) ∧
    ∀ connId, inTx reached.2 connId = true → Endable reached.1 connId

theorem fresh_sound (conns : Table ConnId Session) (flags : ConnId → Bool)
    (noTx : ∀ connId, flags connId = false) : Sound { conns } flags := by
  constructor
  · constructor
    · intro connId owner held
      cases owner <;> simp [Owns] at held
    · intro connId first second held
      cases first <;> simp [Owns] at held
    · intro connId isTaken
      simp [noTx] at isTaken
  · intro connId isTaken
    simp [noTx] at isTaken
  · intro txId connId
    simp
  · exact named_empty
  · exact named_empty

/-- In every run over any sessions, the record of owners is right in all states
exactly when every COMMIT or ROLLBACK that ends an import or the transaction of a
batch succeeds. -/
theorem owners_agree_iff_ends_succeed (engine : Engine World Value) (control : String → Prop)
    (inTx : World → ConnId → Bool) (laws : KeepsFlag engine control inTx)
    (conns : Table ConnId Session) (world : World) (noTx : ∀ connId, inTx world connId = false)
    (requests : List (Call Value)) (plain : ∀ request ∈ requests, NoControl control request) :
    (∀ reached ∈ (machine engine).visited ({ conns }, world) requests,
      OwnersAgree inTx reached) ↔
    (machine engine).Respects
      (fun state request => closingError engine state.1 state.2 request = none)
      ({ conns }, world) requests := by
  apply visited_property_iff (machine engine) _
    (fun state => Sound state.1 (inTx state.2)) (OwnersAgree inTx)
  · intro state sound
    exact ⟨sound.owners.agrees, sound.endable⟩
  · intro state request member sound succeeds
    have effect := call_effect laws state.1 state.2 request (plain request member)
      fun importId imp found => sound.import_connected found
    rw [succeeds] at effect
    -- Without a closing error the effect is one of those that keep the record.
    exact effect_sound sound effect
  · intro state request member sound agree
    have effect := call_effect laws state.1 state.2 request (plain request member)
      fun importId imp found => sound.import_connected found
    cases failed : closingError engine state.1 state.2 request with
    | none => rfl
    | some err =>
      rw [failed] at effect
      exact absurd agree.1 (effect_unsound sound effect)
  · exact fresh_sound conns (inTx world) noTx

/-- An engine that only keeps the flags, with the given error of COMMIT and ROLLBACK
inside a transaction. -/
def plainEngine (endErr : Option String) : Engine (ConnId → Bool) Unit where
  execute connId sql flags :=
    if sql = "BEGIN" ∨ sql = "BEGIN TRANSACTION" then
      if flags connId then (flags, .error "cannot start a transaction within a transaction")
      else (Function.update flags connId true, .ok 0)
    else if sql = "COMMIT" ∨ sql = "ROLLBACK" then
      if flags connId then
        match endErr with
        | some err => (flags, .error err)
        | none => (Function.update flags connId false, .ok 0)
      else (flags, .error "no transaction is active")
    else (flags, .ok 0)
  query := fun _ _ _ flags => (flags, .ok ["id"])
  prepare := fun _ _ flags => (flags, none)
  executePrepared := fun _ _ _ flags => (flags, .ok 1)
  milliseconds := fun _ => 0

theorem plainEngine_keepsFlag (endErr : Option String) : KeepsFlag (plainEngine endErr)
      (· ∈ ["BEGIN", "BEGIN TRANSACTION", "COMMIT", "ROLLBACK"]) id := by
  constructor
  · rintro command begins connId flags
    simp only [plainEngine, begins, ↓reduceIte]
    cases raised : flags connId <;> simp [raised]
  · rintro command ends connId flags
    have notBegin : ¬ (command = "BEGIN" ∨ command = "BEGIN TRANSACTION") := by
      rcases ends with rfl | rfl <;> decide
    simp only [plainEngine, notBegin, ends, ↓reduceIte]
    cases flags connId <;> cases endErr <;> simp
  · intro sql plain connId flags
    simp only [List.mem_cons, List.not_mem_nil, or_false, not_or] at plain
    simp [plainEngine, plain]
  · intro connId sql values flags
    rfl
  · intro connId sql flags
    rfl
  · intro connId sql values flags
    rfl

/-- One open session, and an import of one row that is committed. -/
def oneSession : Table ConnId Session := AList.singleton 1 ⟨true⟩

def importRow : List (Call Unit) :=
  [.dataImportBegin (.ok
    { connId := 1, table := "users", format := .csv, columns := [],
      options := ⟨false, [], false, none, true⟩ }),
    .dataImportChunk (.ok ⟨"i-1", [[.ok ()]]⟩),
    .dataImportCommit (.ok "i-1")]

theorem committed_import_owners_agree :
    OwnersAgree id ((machine (plainEngine none)).run ({ conns := oneSession }, fun _ => false)
      importRow).1 := by
  apply (owners_agree_iff_ends_succeed (plainEngine none) _ id (plainEngine_keepsFlag none)
    oneSession (fun _ => false) (fun _ => rfl) importRow ?_).mpr _ _ (run_mem_visited _ _ _)
  · intro request member
    simp only [importRow, List.mem_cons, List.not_mem_nil, or_false] at member
    rcases member with rfl | rfl | rfl <;> trivial
  · exact ⟨rfl, rfl, rfl, trivial⟩

-- COMMIT fails and the import is gone: the transaction stays open without an owner.
theorem failed_import_commit_orphans :
    let reached := ((machine (plainEngine (some "disk full"))).run
      ({ conns := oneSession }, fun _ => false) importRow).1
    reached.2 1 = true ∧ ¬ OwnersAgree id reached := by
  refine ⟨rfl, ?_⟩
  rintro ⟨agrees, _⟩
  obtain ⟨owner, held, _⟩ := (agrees 1).mp rfl
  cases owner with
  | tx txId => cases held
  | dataImport importId =>
    obtain ⟨imp, found, _⟩ := held
    cases found

end Onetcli.DuckDb
