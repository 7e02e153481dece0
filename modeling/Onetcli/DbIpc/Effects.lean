import Onetcli.DbIpc.Server
import Onetcli.Lib.Checks

/-!
What one request can do to the tables of the server. Every handler comes down to
one of the effects below; the invariants of the server are proved from them and
never look at a handler again.
-/

namespace Onetcli.DbIpc

open Tables Checks

variable {World : Type}

/-! ## What the checks establish -/

theorem decoded_eq_ok {Decoded : Type} {params : Params Decoded} {p : Decoded} :
    decoded params = .ok p ↔ params = .ok p :=
  mapError_eq_ok

section Found

variable {s : Server World}

theorem knownConn_eq_ok {connID : Nat} {conn : ConnectionState World} :
    knownConn s connID = .ok conn ↔ s.conns.lookup connID = some conn := by
  unfold knownConn
  cases s.conns.lookup connID <;> simp

theorem knownCursor_eq_ok {cursorID : String} {cursor : CursorState} :
    knownCursor s cursorID = .ok cursor ↔ s.cursors.lookup cursorID = some cursor := by
  unfold knownCursor
  cases s.cursors.lookup cursorID <;> simp

theorem knownTx_eq_ok {txID : String} {tx : TxState} :
    knownTx s txID = .ok tx ↔ s.txs.lookup txID = some tx := by
  unfold knownTx
  cases s.txs.lookup txID <;> simp

theorem knownImport_eq_ok {importID : String} {imp : ImportState} :
    knownImport s importID = .ok imp ↔ s.imports.lookup importID = some imp := by
  unfold knownImport
  cases s.imports.lookup importID <;> simp

end Found

/-! ## Effects -/

/-- The error with which `tx/commit` or a full `tx/rollback` of a transaction of
the table ends that transaction, if it does. -/
def txEndError (rt : Runtime World) (s : Server World) (world : World) : Call → Option String
  | .txCommit (.ok txID) =>
    (s.txs.lookup txID).bind fun tx => (tx.tx.commit rt world).2.2
  | .txRollback (.ok p) =>
    if p.toSavepoint ≠ "" then none
    else (s.txs.lookup p.txID).bind fun tx => (tx.tx.rollback rt world).2.2
  | _ => none

inductive Effect (rt : Runtime World) (s : Server World) (world : World) (call : Call) :
    Reply → Server World → Prop where
  | idle (answer : Answer) (initialized : Bool) (streams : Table String StreamState)
      (kept : s.initialized = true → initialized = true) :
      Effect rt s world call answer.reply { s with initialized, streams }
  | openConn (conn : ConnectionState World) (version : String) :
      Effect rt s world call (.ok (.connOpened s.nextConnID version))
        { s with
          nextConnID := s.nextConnID + 1
          conns := s.conns.insert s.nextConnID conn }
  | useConn (answer : Answer) (connID : Nat) (conn used : ConnectionState World)
      (found : s.conns.lookup connID = some conn) :
      Effect rt s world call answer.reply { s with conns := s.conns.insert connID used }
  | openCursor (connID : Nat) (conn : ConnectionState World)
      (found : s.conns.lookup connID = some conn) (cursor : CursorState)
      (owner : cursor.connID = connID) (columns : List ColumnSpec) :
      Effect rt s world call (.ok (.cursorOpened (cursorName s s.nextCursor) columns))
        { s with
          nextCursor := s.nextCursor + 1
          cursors := s.cursors.insert (cursorName s s.nextCursor) cursor }
  | setCursor (answer : Answer) (cursorID : String) (cursor changed : CursorState)
      (found : s.cursors.lookup cursorID = some cursor) (owner : changed.connID = cursor.connID) :
      Effect rt s world call answer.reply
        { s with cursors := s.cursors.insert cursorID changed }
  | dropCursor (answer : Answer) (cursorID : String) :
      Effect rt s world call answer.reply { s with cursors := s.cursors.erase cursorID }
  | openTx (connID : Nat) (conn : ConnectionState World)
      (found : s.conns.lookup connID = some conn) (handle : Nat) :
      Effect rt s world call (.ok (.txBegun (txName s s.nextTx)))
        { s with
          nextTx := s.nextTx + 1
          txs := s.txs.insert (txName s s.nextTx) ⟨connID, ⟨handle, false⟩⟩ }
  | spoilTx (answer : Answer) (txID : String) (tx : TxState) (finished : Tx) (err : String)
      (found : s.txs.lookup txID = some tx) (failed : txEndError rt s world call = some err) :
      Effect rt s world call answer.reply
        { s with txs := s.txs.insert txID { tx with tx := finished } }
  | dropTx (answer : Answer) (txID : String) :
      Effect rt s world call answer.reply { s with txs := s.txs.erase txID }
  | openImport (connID : Nat) (conn : ConnectionState World)
      (found : s.conns.lookup connID = some conn) (imp : ImportState)
      (owner : imp.connID = connID) :
      Effect rt s world call (.ok (.importBegun (importName s s.nextImport)))
        { s with
          nextImport := s.nextImport + 1
          imports := s.imports.insert (importName s s.nextImport) imp }
  | setImport (answer : Answer) (importID : String) (imp changed : ImportState)
      (found : s.imports.lookup importID = some imp) (owner : changed.connID = imp.connID) :
      Effect rt s world call answer.reply
        { s with imports := s.imports.insert importID changed }
  | dropImport (answer : Answer) (importID : String) :
      Effect rt s world call answer.reply { s with imports := s.imports.erase importID }
  | closeConn (answer : Answer) (connID : Nat) (conn : ConnectionState World)
      (found : s.conns.lookup connID = some conn) :
      Effect rt s world call answer.reply (closeConnection rt s connID conn world).1
  | closeAll (answer : Answer) :
      Effect rt s world call answer.reply (closeAll rt s world).1

section Handlers

variable (rt : Runtime World) (s : Server World) (world : World) {call : Call}

theorem effect_answered (answer : Answer) : Effect rt s world call answer.reply s :=
  .idle answer s.initialized s.streams id

theorem effect_refused (refusal : ProtocolError) : Effect rt s world call (.error refusal) s :=
  effect_answered rt s world (.error refusal)

theorem handleConnOpen_effect (params : Params ConfigParams) :
    Effect rt s world call (handleConnOpen rt s params world).2.2
      (handleConnOpen rt s params world).1 := by
  unfold handleConnOpen
  split
  · exact effect_refused rt s world _
  · split
    · exact effect_refused rt s world _
    · exact .openConn _ _

theorem handleConnClose_effect (params : Params Nat) :
    Effect rt s world call (handleConnClose rt s params world).2.2.reply
      (handleConnClose rt s params world).1 := by
  unfold handleConnClose
  split
  · exact effect_answered rt s world _
  · rename_i connID conn checks
    simp only [bind_eq_ok, knownConn_eq_ok, pure_eq_ok] at checks
    obtain ⟨_, _, _, found, same⟩ := checks
    cases same
    have effect : ∀ answer : Answer, Effect rt s world call answer.reply
        (closeConnection rt s connID conn world).1 := fun answer => .closeConn answer _ _ found
    split <;> rename_i closed <;> simp only [closed] at effect <;> exact effect _

theorem handleShutdown_effect :
    Effect rt s world call (handleShutdown rt s world).2.2.reply (handleShutdown rt s world).1 := by
  unfold handleShutdown
  have effect : ∀ answer : Answer, Effect rt s world call answer.reply
      (closeAll rt s world).1 := fun answer => .closeAll answer
  split <;> rename_i closed <;> simp only [closed] at effect <;> exact effect _

theorem handleInit_effect (params : InitParams) :
    Effect rt s world call (handleInit s params).2.reply (handleInit s params).1 := by
  unfold handleInit
  split
  · exact effect_answered rt s world _
  · exact .idle _ true s.streams fun _ => rfl

theorem handleConnUse_effect (params : Params ConnUseParams) :
    Effect rt s world call (handleConnUse s params).2.reply (handleConnUse s params).1 := by
  unfold handleConnUse
  split
  · exact effect_answered rt s world _
  · rename_i p conn checks
    simp only [bind_eq_ok, knownConn_eq_ok, pure_eq_ok] at checks
    obtain ⟨_, _, _, found, same⟩ := checks
    cases same
    split
    · exact effect_answered rt s world _
    · exact .useConn _ _ _ _ found

theorem handleQueryStart_effect (params : Params QueryStartParams) :
    Effect rt s world call (handleQueryStart rt s params world).2.2
      (handleQueryStart rt s params world).1 := by
  unfold handleQueryStart
  split
  · exact effect_refused rt s world _
  · rename_i p args queryer checks
    simp only [bind_eq_ok, knownConn_eq_ok, pure_eq_ok] at checks
    obtain ⟨_, _, _, found, _, _, _, _, same⟩ := checks
    cases same
    split
    · exact effect_refused rt s world _
    · exact .openCursor _ _ found _ rfl _

theorem fetchPage_connID (cursor : CursorState) (rows : Rows) (n : Nat) :
    (fetchPage rt cursor rows n).1.connID = cursor.connID := by
  unfold fetchPage
  split
  · rfl
  · rfl
  · split <;> rfl

theorem handleCursorFetch_effect (params : Params CursorFetchParams) :
    Effect rt s world call (handleCursorFetch rt s params).2.reply
      (handleCursorFetch rt s params).1 := by
  unfold handleCursorFetch
  split
  · exact effect_answered rt s world _
  · rename_i p cursor checks
    simp only [bind_eq_ok, knownCursor_eq_ok, pure_eq_ok] at checks
    obtain ⟨_, _, _, found, same⟩ := checks
    cases same
    split
    · exact .setCursor _ _ _ _ found (fetchPage_connID rt _ _ _)
    · exact effect_answered rt s world _

theorem closeCursor_connID (cursor : CursorState) :
    (closeCursor cursor).1.connID = cursor.connID := by
  unfold closeCursor
  split <;> rfl

theorem handleCursorClose_effect (params : Params String) :
    Effect rt s world call (handleCursorClose s params).2.reply (handleCursorClose s params).1 := by
  unfold handleCursorClose
  split
  · exact effect_answered rt s world _
  · rename_i cursorID cursor checks
    simp only [bind_eq_ok, knownCursor_eq_ok, pure_eq_ok] at checks
    obtain ⟨_, _, _, found, same⟩ := checks
    cases same
    have owner := closeCursor_connID cursor
    split
    · rename_i closed err closing
      rw [closing] at owner
      exact .setCursor _ _ _ _ found owner
    · exact .dropCursor _ _

theorem handleCursorCancel_effect (params : Params String) :
    Effect rt s world call (handleCursorCancel s params).2.reply
      (handleCursorCancel s params).1 := by
  unfold handleCursorCancel
  split
  · exact effect_answered rt s world _
  · rename_i cursorID cursor checks
    simp only [bind_eq_ok, knownCursor_eq_ok, pure_eq_ok] at checks
    obtain ⟨_, _, _, found, same⟩ := checks
    cases same
    exact .setCursor _ _ _ _ found (closeCursor_connID cursor)

theorem handleTxBegin_effect (params : Params TxBeginParams) :
    Effect rt s world call (handleTxBegin rt s params world).2.2
      (handleTxBegin rt s params world).1 := by
  unfold handleTxBegin
  split
  · exact effect_refused rt s world _
  · rename_i p conn checks
    simp only [bind_eq_ok, knownConn_eq_ok, pure_eq_ok] at checks
    obtain ⟨_, _, _, found, same⟩ := checks
    cases same
    split
    · exact effect_refused rt s world _
    · exact .openTx _ _ found _

theorem settleTx_effect {txID : String} {tx : TxState} (ended : Tx × World × Option String)
    (found : s.txs.lookup txID = some tx) (cause : txEndError rt s world call = ended.2.2) :
    Effect rt s world call (settleTx s txID tx ended).2.2.reply (settleTx s txID tx ended).1 := by
  unfold settleTx
  split
  · exact .spoilTx _ _ _ _ _ found cause
  · exact .dropTx _ _

theorem handleTxCommit_effect (params : Params String) :
    Effect rt s world (.txCommit params) (handleTxCommit rt s params world).2.2.reply
      (handleTxCommit rt s params world).1 := by
  unfold handleTxCommit
  split
  · exact effect_answered rt s world _
  · rename_i txID tx checks
    simp only [bind_eq_ok, decoded_eq_ok, knownTx_eq_ok, pure_eq_ok] at checks
    obtain ⟨_, rfl, _, found, same⟩ := checks
    cases same
    exact settleTx_effect rt s world _ found (by simp [txEndError, found])

theorem handleTxRollback_effect (params : Params TxRollbackParams) :
    Effect rt s world (.txRollback params) (handleTxRollback rt s params world).2.2.reply
      (handleTxRollback rt s params world).1 := by
  unfold handleTxRollback
  split
  · exact effect_answered rt s world _
  · rename_i p tx checks
    simp only [bind_eq_ok, decoded_eq_ok, knownTx_eq_ok, pure_eq_ok] at checks
    obtain ⟨_, rfl, _, found, same⟩ := checks
    cases same
    split
    · exact effect_answered rt s world _
    · rename_i whole
      exact settleTx_effect rt s world _ found (by simp [txEndError, found, whole])

theorem handleDataExport_effect (params : Params DataExportParams) :
    Effect rt s world call (handleDataExport rt s params world).2.2.reply
      (handleDataExport rt s params world).1 := by
  unfold handleDataExport
  split
  · exact effect_answered rt s world _
  · split
    · exact effect_answered rt s world _
    · exact .idle _ s.initialized _ id

theorem handleDataImportBegin_effect (params : Params ImportBeginParams) :
    Effect rt s world call (handleDataImportBegin rt s params world).2
      (handleDataImportBegin rt s params world).1 := by
  unfold handleDataImportBegin
  split
  · exact effect_refused rt s world _
  · rename_i p checks
    simp only [bind_eq_ok, knownConn_eq_ok] at checks
    obtain ⟨_, _, _, found, rest⟩ := checks
    split at rest
    · cases rest
    · cases rest
      exact .openImport _ _ found _ rfl

theorem handleDataImportChunk_effect (params : Params ImportChunkParams) :
    Effect rt s world call (handleDataImportChunk rt s params world).2.2.reply
      (handleDataImportChunk rt s params world).1 := by
  unfold handleDataImportChunk
  split
  · exact effect_answered rt s world _
  · rename_i p imp conn sqlText checks
    simp only [bind_eq_ok, knownImport_eq_ok, pure_eq_ok] at checks
    obtain ⟨_, _, _, found, _, _, _, _, same⟩ := checks
    cases same
    exact .setImport _ _ _ _ found rfl

theorem handleDataImportCommit_effect (params : Params String) :
    Effect rt s world call (handleDataImportCommit rt s params world).2.reply
      (handleDataImportCommit rt s params world).1 := by
  unfold handleDataImportCommit
  split
  · exact effect_answered rt s world _
  · exact .dropImport _ _

theorem handleDataImportAbort_effect (params : Params String) :
    Effect rt s world call (handleDataImportAbort s params).2.reply
      (handleDataImportAbort s params).1 := by
  unfold handleDataImportAbort
  split
  · exact effect_answered rt s world _
  · exact .dropImport _ _

theorem handleStreamRead_effect (params : Params StreamReadParams) :
    Effect rt s world call (handleStreamRead s params).2.reply (handleStreamRead s params).1 := by
  unfold handleStreamRead
  split
  · exact effect_answered rt s world _
  · split
    · exact effect_answered rt s world _
    · exact .idle _ s.initialized _ id

theorem handleStreamClose_effect (params : Params String) :
    Effect rt s world call (handleStreamClose s params).2.reply (handleStreamClose s params).1 := by
  unfold handleStreamClose
  split
  · exact effect_answered rt s world _
  · exact .idle _ s.initialized _ id

theorem dispatch_effect (call : Call) :
    Effect rt s world call (dispatch rt s world call).2.2 (dispatch rt s world call).1 := by
  cases call with
  | init params => exact handleInit_effect rt s world params
  | ping => exact effect_answered rt s world (.ok .pong)
  | shutdown => exact handleShutdown_effect rt s world
  | connOpen params => exact handleConnOpen_effect rt s world params
  | connClose params => exact handleConnClose_effect rt s world params
  | connUse params => exact handleConnUse_effect rt s world params
  | queryStart params => exact handleQueryStart_effect rt s world params
  | cursorFetch params => exact handleCursorFetch_effect rt s world params
  | cursorClose params => exact handleCursorClose_effect rt s world params
  | cursorCancel params => exact handleCursorCancel_effect rt s world params
  | txBegin params => exact handleTxBegin_effect rt s world params
  | txCommit params => exact handleTxCommit_effect rt s world params
  | txRollback params => exact handleTxRollback_effect rt s world params
  | dataExport params => exact handleDataExport_effect rt s world params
  | dataImportBegin params => exact handleDataImportBegin_effect rt s world params
  | dataImportChunk params => exact handleDataImportChunk_effect rt s world params
  | dataImportCommit params => exact handleDataImportCommit_effect rt s world params
  | dataImportAbort params => exact handleDataImportAbort_effect rt s world params
  | streamRead params => exact handleStreamRead_effect rt s world params
  | streamClose params => exact handleStreamClose_effect rt s world params
  | other method => exact effect_answered rt s world (.error _)
  | _ => exact effect_answered rt s world _

theorem handle_effect (req : Message) :
    Effect rt s world req.call (handle rt s world req).2.2.body (handle rt s world req).1 := by
  unfold handle
  split
  · exact effect_refused rt s world _
  · simp only
    split
    · exact effect_refused rt s world _
    · exact dispatch_effect rt s world req.call

end Handlers

end Onetcli.DbIpc
