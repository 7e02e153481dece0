import Onetcli.DbIpc.Ownership

/-!
The table of wire transactions. `Commit` and `Rollback` finish a transaction also
when they report an error, and then `tx/commit` and `tx/rollback` keep its entry:
the runs without such an error are exactly those in which every entry is open.
-/

namespace Onetcli.DbIpc

open Tables Runs

variable {World : Type}

/-- Neither `Commit` nor `Rollback` was called on a transaction of the table. -/
def AllOpen (s : Server World) : Prop :=
  ∀ txID tx, s.txs.lookup txID = some tx → tx.tx.done = false

/-- The checks of `handle` before the dispatch. -/
def Admitted (s : Server World) (req : Message) : Prop :=
  (req.jsonrpc = "" ∨ req.jsonrpc = "2.0") ∧ (req.call.beforeInit = true ∨ s.initialized = true)

section Ends

variable (rt : Runtime World) (s : Server World) (world : World)

/-- What the driver answers when a request ends a transaction of the table. -/
def driverEndError : Call → Option String
  | .txCommit (.ok txID) =>
    (s.txs.lookup txID).bind fun tx => (rt.commitTx tx.tx.handle world).2
  | .txRollback (.ok p) =>
    if p.toSavepoint ≠ "" then none
    else (s.txs.lookup p.txID).bind fun tx => (rt.rollbackTx tx.tx.handle world).2
  | _ => none

theorem txEndError_of_open (isOpen : AllOpen s) (call : Call) :
    txEndError rt s world call = driverEndError rt s world call := by
  cases call with
  | txCommit params =>
    cases params with
    | error err => rfl
    | ok txID =>
      simp only [txEndError, driverEndError]
      cases found : s.txs.lookup txID with
      | none => rfl
      | some tx => simp [Tx.commit, isOpen txID tx found]
  | txRollback params =>
    cases params with
    | error err => rfl
    | ok p =>
      simp only [txEndError, driverEndError]
      cases found : s.txs.lookup p.txID with
      | none => rfl
      | some tx => simp [Tx.rollback, isOpen p.txID tx found]
  | _ => rfl

end Ends

section Steps

variable {rt : Runtime World} {s after : Server World} {world : World} {call : Call}
  {reply : Reply}

theorem effect_allOpen (effect : Effect rt s world call reply after) (isOpen : AllOpen s)
    (clean : txEndError rt s world call = none) : AllOpen after := by
  cases effect with
  | openTx connID conn found handle =>
    intro txID tx present
    rw [lookup_insert_if] at present
    split at present
    · rw [← Option.some.inj present]
    · exact isOpen txID tx present
  | spoilTx answer txID tx finished err found failed =>
    -- Excluded: this effect comes with an error of `Commit` or `Rollback`.
    rw [clean] at failed
    cases failed
  | dropTx answer txID =>
    intro other tx present
    rw [lookup_erase_if] at present
    split at present
    · cases present
    · exact isOpen other tx present
  | closeConn answer connID conn found =>
    intro txID tx present
    simp only [closeConnection, rollbackTxs_lookup] at present
    exact isOpen txID tx (Option.filter_eq_some_iff.mp present).1
  | closeAll answer =>
    intro txID tx present
    simp only [closeAll, rollbackTxs_lookup] at present
    exact isOpen txID tx (Option.filter_eq_some_iff.mp present).1
  | _ => exact isOpen

end Steps

section Spoiled

variable (rt : Runtime World) (s : Server World) (world : World)

theorem settleTx_spoils {txID err : String} {tx : TxState} {ended : Tx × World × Option String}
    (finished : ended.1.done = true) (failed : ended.2.2 = some err) :
    ¬ AllOpen (settleTx s txID tx ended).1 := by
  obtain ⟨after, answered, answer⟩ := ended
  intro isOpen
  subst failed
  have stillOpen := isOpen txID { tx with tx := after } (by simp [settleTx])
  rw [finished] at stillOpen
  cases stillOpen

theorem dispatch_spoils {call : Call} {err : String}
    (failed : txEndError rt s world call = some err) : ¬ AllOpen (dispatch rt s world call).1 := by
  unfold txEndError at failed
  split at failed
  · rename_i txID
    cases found : s.txs.lookup txID with
    | none => simp [found] at failed
    | some tx =>
      simp only [found, Option.bind_some] at failed
      have state : (dispatch rt s world (.txCommit (.ok txID))).1 =
          (settleTx s txID tx (tx.tx.commit rt world)).1 := by
        simp [dispatch, changed, handleTxCommit, decoded, Except.mapError, knownTx, found,
          bind, Except.bind, pure, Except.pure]
      rw [state]
      exact settleTx_spoils s (Tx.commit_done rt tx.tx world) failed
  · rename_i p
    split at failed
    · cases failed
    · rename_i whole
      cases found : s.txs.lookup p.txID with
      | none => simp [found] at failed
      | some tx =>
        simp only [found, Option.bind_some] at failed
        have state : (dispatch rt s world (.txRollback (.ok p))).1 =
            (settleTx s p.txID tx (tx.tx.rollback rt world)).1 := by
          simp [dispatch, changed, handleTxRollback, decoded, Except.mapError, knownTx, found,
            bind, Except.bind, pure, Except.pure, whole]
        rw [state]
        exact settleTx_spoils s (Tx.rollback_done rt tx.tx world) failed
  · cases failed

theorem handle_admitted {req : Message} (admitted : Admitted s req) :
    (handle rt s world req).1 = (dispatch rt s world req.call).1 ∧
      (handle rt s world req).2.2.body = (dispatch rt s world req.call).2.2 := by
  obtain ⟨version, ready⟩ := admitted
  have accepted : ¬ (req.jsonrpc ≠ "" ∧ req.jsonrpc ≠ "2.0") := by
    rintro ⟨notEmpty, notTwo⟩
    exact version.elim notEmpty notTwo
  have early : (!req.call.beforeInit && !s.initialized) = false := by
    rcases ready with before | after
    · simp [before]
    · simp [after]
  simp [handle, accepted, early]

theorem handle_refused {req : Message} (refused : ¬ Admitted s req) :
    (handle rt s world req).1 = s := by
  unfold handle
  split
  · rfl
  · rename_i accepted
    simp only
    split
    · rfl
    · rename_i ready
      apply absurd _ refused
      constructor
      · tauto
      · cases before : req.call.beforeInit <;> simp_all

theorem handle_allOpen_iff (req : Message) (isOpen : AllOpen s) :
    AllOpen (handle rt s world req).1 ↔
      (Admitted s req → driverEndError rt s world req.call = none) := by
  by_cases admitted : Admitted s req
  · rw [(handle_admitted rt s world admitted).1, ← txEndError_of_open rt s world isOpen]
    cases ended : txEndError rt s world req.call with
    | none =>
      have kept := effect_allOpen (dispatch_effect rt s world req.call) isOpen ended
      exact iff_of_true kept fun _ => rfl
    | some err =>
      -- The entry stays behind, finished.
      apply iff_of_false (dispatch_spoils rt s world ended)
      intro clean
      cases clean admitted
  · rw [handle_refused rt s world admitted]
    exact iff_of_true isOpen fun present => absurd present admitted

end Spoiled

/-! ## Cleaning up -/

section Cleanup

variable (rt : Runtime World) (s : Server World) (world : World)

/-- The driver answers every call of the cleanup without an error. -/
structure CleanupAnswered : Prop where
  rollbacks : ∀ txID tx world, s.txs.lookup txID = some tx →
    (rt.rollbackTx tx.tx.handle world).2 = none
  closes : ∀ connID conn world, s.conns.lookup connID = some conn →
    (rt.closeDb conn.db world).2 = none
  cursors : ∀ cursorID cursor, s.cursors.lookup cursorID = some cursor →
    (closeCursor cursor).2 = none

variable {rt s}

theorem closeCursors_answered (answered : CleanupAnswered rt s) (doomed : CursorState → Bool) :
    (closeCursors rt s doomed none world).2 = none := by
  apply sweep_acc doomed _ (· = none)
  · intro cursorID cursor closeErr found _ clean
    simp [joinCleanupError, answered.cursors cursorID cursor found, clean]
  · rfl

theorem rollbackTxs_answered (answered : CleanupAnswered rt s) (isOpen : AllOpen s)
    (doomed : TxState → Bool) : (rollbackTxs rt s doomed none world).2.2 = none := by
  apply sweep_acc doomed _ (fun acc : World × Option String => acc.2 = none)
  · intro txID tx acc found _ clean
    simp [Tx.rollback, isOpen txID tx found, joinCleanupError,
      answered.rollbacks txID tx acc.1 found, clean]
  · rfl

theorem closeConns_answered (answered : CleanupAnswered rt s) :
    (closeConns rt s none world).2.2 = none := by
  apply sweep_acc (fun _ => true) _ (fun acc : World × Option String => acc.2 = none)
  · intro connID conn acc found _ clean
    simp [joinCleanupError, answered.closes connID conn acc.1 found, clean]
  · rfl

theorem dispatch_connClose_answered {connID : Nat} (answered : CleanupAnswered rt s)
    (isOpen : AllOpen s) (known : connID ∈ s.conns) :
    (dispatch rt s world (.connClose (.ok connID))).2.2 = .ok (.info .null) := by
  obtain ⟨conn, found⟩ := lookup_of_mem known
  have closed : (closeConnection rt s connID conn world).2.2 = none := by
    simp [closeConnection, joinCleanupError, closeCursors_answered world answered,
      rollbackTxs_answered world answered isOpen, answered.closes connID conn _ found]
  simp only [dispatch, changed, handleConnClose, decoded, Except.mapError, knownConn, bind,
    Except.bind, pure, Except.pure, found]
  split
  · rename_i failed
    rw [failed] at closed
    cases closed
  · rfl

theorem dispatch_shutdown_answered (answered : CleanupAnswered rt s) (isOpen : AllOpen s) :
    (dispatch rt s world .shutdown).2.2 = .ok (.info .null) := by
  have closed : (closeAll rt s world).2.2 = none := by
    simp only [closeAll, closeCursors_answered world answered]
    rw [rollbackTxs_answered world answered isOpen]
    exact closeConns_answered _ answered
  simp only [dispatch, changed, handleShutdown]
  split
  · rename_i failed
    rw [failed] at closed
    cases closed
  · rfl

end Cleanup

/-! ## Runs -/

/-- The driver reports no error to an admitted request that ends a transaction of
the table. -/
def EndsCleanly (rt : Runtime World) (state : Server World × World) (req : Message) : Prop :=
  Admitted state.1 req → driverEndError rt state.1 state.2 req.call = none

/-- In a run from a new server all entries of the transaction table stay open
exactly when every end of a transaction succeeds. Then `conn/close` and `shutdown`
succeed in every state in which the driver reports no error to them. -/
theorem transactions_open_iff_ends_cleanly (rt : Runtime World) (spec : DriverSpec World)
    (opener : Option (Opener World)) (world : World) (reqs : List Message) :
    ((∀ reached ∈ (machine rt).visited (newServer rt spec opener, world) reqs,
        AllOpen reached.1) ↔
      (machine rt).Respects (EndsCleanly rt) (newServer rt spec opener, world) reqs) ∧
    ((machine rt).Respects (EndsCleanly rt) (newServer rt spec opener, world) reqs →
      ∀ reached ∈ (machine rt).visited (newServer rt spec opener, world) reqs,
        CleanupAnswered rt reached.1 → ∀ req, Admitted reached.1 req →
          (req.call = .shutdown ∨
            ∃ connID ∈ reached.1.conns, req.call = .connClose (.ok connID)) →
          (handle rt reached.1 reached.2 req).2.2.body = .ok (.info .null)) := by
  have precise : (∀ reached ∈ (machine rt).visited (newServer rt spec opener, world) reqs,
      AllOpen reached.1) ↔
      (machine rt).Respects (EndsCleanly rt) (newServer rt spec opener, world) reqs := by
    apply visited_property_iff (machine rt) (EndsCleanly rt) (fun state => AllOpen state.1)
      (fun state => AllOpen state.1) (fun _ isOpen => isOpen)
    · intro state req _ isOpen
      exact (handle_allOpen_iff rt state.1 state.2 req isOpen).mpr
    · intro state req _ isOpen
      exact (handle_allOpen_iff rt state.1 state.2 req isOpen).mp
    · intro txID tx found
      simp [newServer] at found
  refine ⟨precise, ?_⟩
  intro respects reached member answered req admitted closes
  have isOpen := precise.mpr respects reached member
  rw [(handle_admitted rt reached.1 reached.2 admitted).2]
  rcases closes with shutdown | ⟨connID, known, close⟩
  · rw [shutdown]
    exact dispatch_shutdown_answered reached.2 answered isOpen
  · rw [close]
    exact dispatch_connClose_answered reached.2 answered isOpen known

def commitTransaction : List Message :=
  openTransaction ++ [{ call := .txCommit (.ok "plain-tx-1") }]

theorem committed_connection_closes :
    let rt := plainRuntime Unit none
    let reached := ((machine rt).run (newServer rt (plainSpec false) none, ())
      commitTransaction).1
    AllOpen reached.1 ∧
      (handle rt reached.1 reached.2 { call := .connClose (.ok 1) }).2.2.body =
        .ok (.info .null) := by
  intro rt reached
  have clean := transactions_open_iff_ends_cleanly rt (plainSpec false) none () commitTransaction
  have respects : (machine rt).Respects (EndsCleanly rt)
      (newServer rt (plainSpec false) none, ()) commitTransaction := by
    refine ⟨?_, ?_, ?_, ?_, trivial⟩
    all_goals exact fun _ => by decide +kernel
  have member := run_mem_visited (machine rt) (newServer rt (plainSpec false) none, ())
    commitTransaction
  refine ⟨clean.1.mpr respects _ member, ?_⟩
  apply clean.2 respects _ member
  · constructor
    · intro _ _ _ _
      rfl
    · intro _ _ _ _
      rfl
    · have noCursor : reached.1.cursors.keys = [] := by decide +kernel
      intro cursorID cursor found
      have member := AList.mem_keys.mp (mem_of_lookup found)
      rw [noCursor] at member
      cases member
  · exact ⟨Or.inr rfl, Or.inr (by decide +kernel)⟩
  · exact Or.inr ⟨1, by decide +kernel, rfl⟩

-- The driver reports an error to COMMIT: the entry stays, finished, and closing the
-- connection fails although the driver answers its ROLLBACK and the closing.
theorem failed_commit_spoils_close :
    let rt := plainRuntime Unit (some "disk full")
    let reached := ((machine rt).run (newServer rt (plainSpec false) none, ())
      commitTransaction).1
    ¬ AllOpen reached.1 ∧
      (handle rt reached.1 reached.2 { call := .connClose (.ok 1) }).2.2.body =
        .error ⟨errConnectionFailed, "rollback transactions: rollback transaction plain-tx-1: " ++
          errTxDone⟩ := by
  constructor
  · intro isOpen
    have finished := isOpen "plain-tx-1" ⟨1, ⟨0, true⟩⟩ rfl
    cases finished
  · rfl

end Onetcli.DbIpc
