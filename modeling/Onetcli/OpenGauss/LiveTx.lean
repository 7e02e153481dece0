import Onetcli.OpenGauss.Handlers

/-!
Live transaction ids and the transaction of the session. A run also keeps the id
whose `tx/begin` opened the transaction that the session is in; the driver has
nothing like it. `tx/begin` asks nobody whether the session is in a transaction,
and an id is forgotten before its COMMIT or ROLLBACK runs.
-/

namespace Onetcli.OpenGauss

open Tables Runs Protocol

variable {World : Type}

/-- The session is in a transaction or not, as PostgreSQL has it: BEGIN, COMMIT and
ROLLBACK succeed anywhere or fail without effect, and savepoints do not matter. A
UUID is new when it is made. -/
structure KeepsSession (client : Client World) (inTx : World → Bool)
    (used : World → String → Prop) : Prop where
  begins : ∀ p world, inTx (client.batchExecute (beginSql p) world).1 =
    if (client.batchExecute (beginSql p) world).2 = none then true else inTx world
  ends : ∀ command, command = "COMMIT" ∨ command = "ROLLBACK" → ∀ world,
    inTx (client.batchExecute command world).1 =
      if (client.batchExecute command world).2 = none then false else inTx world
  savepoints : ∀ words ∈ ["ROLLBACK TO SAVEPOINT ", "SAVEPOINT ", "RELEASE SAVEPOINT "],
    ∀ name world, inTx (client.batchExecute (savepointSql words name) world).1 = inTx world
  uuids : ∀ world, inTx (client.newUuid world).1 = inTx world
  fresh : ∀ world, ¬ used world (client.newUuid world).2
  made : ∀ world uuid, used (client.newUuid world).1 uuid ↔
    used world uuid ∨ uuid = (client.newUuid world).2
  statements : ∀ sql world uuid, used (client.batchExecute sql world).1 uuid ↔ used world uuid

/-! ## What a call does -/

section Effects

variable (client : Client World) (inTx : World → Bool) (state : ConnectionState) (world : World)

/-- `tx/begin` succeeds inside a transaction, or the end of a live id fails. -/
def misstep : Call → Bool
  | .txBegin (.ok p) => inTx world && (client.batchExecute (beginSql p) world).2.isNone
  | .txCommit (.ok txId) => state.hasTx txId && (client.batchExecute "COMMIT" world).2.isSome
  | .txRollback (.ok p) =>
    p.toSavepoint.isNone && state.hasTx p.txId &&
      (client.batchExecute "ROLLBACK" world).2.isSome
  | _ => false

end Effects

def begunTx : Answer → Option TxId
  | .ok (.txBegun txId) => some txId
  | _ => none

/-- The tables, the session and the new id after a call. -/
inductive Effect (state : ConnectionState) (inside : Bool) :
    Bool → ConnectionState → Bool → Option TxId → Prop where
  | idle (begun : Option TxId) : Effect state inside false state inside begun
  | openTx (txId : TxId) (outside : inside = false) :
      Effect state inside false (state.insertTx txId) true (some txId)
  | openAgain (txId : TxId) (within : inside = true) (unused : txId ∉ state.txConn)
      (begun : Option TxId) : Effect state inside true (state.insertTx txId) true begun
  | closeTx (txId : TxId) (live : txId ∈ state.txConn) (begun : Option TxId) :
      Effect state inside false (state.removeTx txId) false begun
  | loseTx (txId : TxId) (live : txId ∈ state.txConn) (begun : Option TxId) :
      Effect state inside true (state.removeTx txId) inside begun

section Calls

variable {client : Client World} {inTx : World → Bool} {used : World → String → Prop}
  (laws : KeepsSession client inTx used) (state : ConnectionState) (world : World)

theorem hasTx_iff {txId : TxId} : state.hasTx txId = true ↔ txId ∈ state.txConn :=
  AList.lookup_isSome

theorem simpleExecute_world (sql : String) :
    (simpleExecute client sql world).1 = (client.batchExecute sql world).1 := by
  unfold simpleExecute
  split <;> simp_all

theorem nullAnswer_world (executed : World × Option ProtocolError) :
    (nullAnswer executed).1 = executed.1 := by
  unfold nullAnswer
  split <;> rfl

def Made (used : World → String → Prop) (state : ConnectionState) (world : World) : Prop :=
  ∀ txId ∈ state.txConn, ∃ uuid, used world uuid ∧ txId = txName uuid

include laws

theorem txName_fresh {after : World} (made : Made used state after) :
    txName (client.newUuid after).2 ∉ state.txConn := by
  intro present
  obtain ⟨uuid, old, same⟩ := made _ present
  have equal : (client.newUuid after).2 = uuid := (String.append_right_inj _).mp same
  exact laws.fresh after (equal ▸ old)

theorem handleTxBegin_effect (params : Params TxBeginParams) (made : Made used state world) :
    Effect state (inTx world) (misstep client inTx state world (.txBegin params))
      (handleTxBegin client state params world).1
      (inTx (handleTxBegin client state params world).2.1)
      (begunTx (handleTxBegin client state params world).2.2) := by
  cases params with
  | error err => exact .idle _
  | ok p =>
    have law := laws.begins p world
    have keeps := laws.statements (beginSql p) world
    simp only [handleTxBegin, decoded, Except.mapError, simpleExecute, misstep]
    rcases answer : client.batchExecute (beginSql p) world with ⟨after, outcome⟩
    rw [answer] at law keeps
    cases outcome with
    | some err =>
      simp only [reduceCtorEq, ↓reduceIte] at law
      simp only [law, Option.isNone_some, Bool.and_false]
      exact .idle _
    | none =>
      simp only [↓reduceIte] at law
      have unused := txName_fresh laws state
        (fun txId live => by
          obtain ⟨uuid, old, same⟩ := made txId live
          exact ⟨uuid, (keeps uuid).mpr old, same⟩)
      simp only [laws.uuids, law, Option.isNone_none, Bool.and_true]
      cases inside : inTx world with
      | false => exact .openTx _ rfl
      | true => exact .openAgain _ rfl unused _

theorem endTx_effect {command : String} (ends : command = "COMMIT" ∨ command = "ROLLBACK")
    {txId : TxId} (live : txId ∈ state.txConn) (begun : Option TxId) :
    Effect state (inTx world) (client.batchExecute command world).2.isSome
      (state.removeTx txId) (inTx (nullAnswer (simpleExecute client command world)).1) begun := by
  rw [nullAnswer_world, simpleExecute_world, laws.ends command ends world]
  cases (client.batchExecute command world).2 with
  | none => exact .closeTx txId live begun
  | some err => exact .loseTx txId live begun

theorem handleTxCommit_effect (params : Params TxId) :
    Effect state (inTx world) (misstep client inTx state world (.txCommit params))
      (handleTxCommit client state params world).1
      (inTx (handleTxCommit client state params world).2.1)
      (begunTx (handleTxCommit client state params world).2.2) := by
  cases params with
  | error err => exact .idle _
  | ok txId =>
    simp only [handleTxCommit, decoded, Except.mapError, misstep]
    cases found : state.hasTx txId with
    | false => exact .idle _
    | true => exact endTx_effect laws state world (Or.inl rfl) ((hasTx_iff state).mp found) _

theorem handleTxRollback_effect (params : Params TxRollbackParams) :
    Effect state (inTx world) (misstep client inTx state world (.txRollback params))
      (handleTxRollback client state params world).1
      (inTx (handleTxRollback client state params world).2.1)
      (begunTx (handleTxRollback client state params world).2.2) := by
  cases params with
  | error err => exact .idle _
  | ok p =>
    simp only [handleTxRollback, decoded, Except.mapError, misstep]
    cases found : state.hasTx p.txId with
    | false =>
      simp only [Bool.and_false, Bool.false_and]
      exact .idle _
    | true =>
      cases p.toSavepoint with
      | some savepoint =>
        have law := laws.savepoints "ROLLBACK TO SAVEPOINT " (by simp) savepoint world
        simp only [Option.isNone_some, Bool.false_and, ↓reduceIte, nullAnswer_world,
          simpleExecute_world, law]
        exact .idle _
      | none =>
        exact endTx_effect laws state world (Or.inr rfl) ((hasTx_iff state).mp found) _

theorem handleSavepoint_inTx (words : String)
    (known : words ∈ ["ROLLBACK TO SAVEPOINT ", "SAVEPOINT ", "RELEASE SAVEPOINT "])
    (params : Params TxSavepointParams) :
    inTx (handleSavepoint client state words params world).1 = inTx world := by
  unfold handleSavepoint
  split
  · rfl
  · rename_i p _
    split
    · rw [nullAnswer_world, simpleExecute_world]
      exact laws.savepoints words known p.name world
    · rfl

theorem call_effect (request : Call) (made : Made used state world) :
    Effect state (inTx world) (misstep client inTx state world request)
      (call client state world request).1 (inTx (call client state world request).2.1)
      (begunTx (call client state world request).2.2) := by
  cases request with
  | txBegin params => exact handleTxBegin_effect laws state world params made
  | txCommit params => exact handleTxCommit_effect laws state world params
  | txRollback params => exact handleTxRollback_effect laws state world params
  | txSavepoint params =>
    simp only [call, handleTxSavepoint, misstep,
      handleSavepoint_inTx laws state world "SAVEPOINT " (by simp)]
    exact .idle _
  | txRelease params =>
    simp only [call, handleTxRelease, misstep,
      handleSavepoint_inTx laws state world "RELEASE SAVEPOINT " (by simp)]
    exact .idle _

theorem made_after {after : ConnectionState} {sql : String} (made : Made used state world)
    (subset : ∀ txId ∈ after.txConn, txId ∈ state.txConn) :
    Made used after (nullAnswer (simpleExecute client sql world)).1 := by
  intro txId live
  obtain ⟨uuid, old, same⟩ := made txId (subset txId live)
  rw [nullAnswer_world, simpleExecute_world]
  exact ⟨uuid, (laws.statements sql world uuid).mpr old, same⟩

theorem handleSavepoint_made (words : String) (params : Params TxSavepointParams)
    (made : Made used state world) :
    Made used state (handleSavepoint client state words params world).1 := by
  unfold handleSavepoint
  split
  · exact made
  · split
    · exact made_after laws state world made fun _ live => live
    · exact made

theorem handleTxBegin_made (params : Params TxBeginParams) (made : Made used state world) :
    Made used (handleTxBegin client state params world).1
      (handleTxBegin client state params world).2.1 := by
  unfold handleTxBegin
  split
  · exact made
  · rename_i p _
    have kept : Made used state (nullAnswer (simpleExecute client (beginSql p) world)).1 :=
      made_after laws state world made fun _ live => live
    rw [nullAnswer_world] at kept
    split
    · rename_i answer
      rwa [answer] at kept
    · rename_i middle answer
      rw [answer] at kept
      intro txId live
      rcases (AList.mem_insert _).mp live with rfl | old
      · exact ⟨_, (laws.made middle _).mpr (Or.inr rfl), rfl⟩
      · obtain ⟨uuid, known, same⟩ := kept txId old
        exact ⟨uuid, (laws.made middle uuid).mpr (Or.inl known), same⟩

theorem call_made (request : Call) (made : Made used state world) :
    Made used (call client state world request).1 (call client state world request).2.1 := by
  have removed : ∀ gone txId, txId ∈ (state.removeTx gone).txConn → txId ∈ state.txConn :=
    fun _ _ live => (AList.mem_erase.mp live).2
  cases request with
  | txBegin params => exact handleTxBegin_made laws state world params made
  | txCommit params =>
    simp only [call, handleTxCommit]
    split
    · exact made
    · split
      · exact made_after laws state world made (removed _)
      · exact made
  | txRollback params =>
    simp only [call, handleTxRollback]
    split
    · exact made
    · split
      · split
        · exact made_after laws state world made fun _ live => live
        · exact made_after laws state world made (removed _)
      · exact made
  | txSavepoint params | txRelease params =>
    exact handleSavepoint_made laws state world _ params made

end Calls

/-! ## Runs -/

/-- The opener after a call: the new id when the session has just entered a
transaction, and nobody outside of one. -/
def nextOpener (opener : Option TxId) (before after : Bool) (begun : Option TxId) : Option TxId :=
  if after then if before then opener else begun else none

abbrev Tracked (World : Type) := ConnectionState × World × Option TxId

/-- The driver, with the id that opened the transaction of the session. -/
def tracked (client : Client World) (inTx : World → Bool) : Machine (Tracked World) Call Answer where
  step current request :=
    let answer := call client current.1 current.2.1 request
    ((answer.1, answer.2.1,
      nextOpener current.2.2 (inTx current.2.1) (inTx answer.2.1) (begunTx answer.2.2)),
      answer.2.2)

/-- At most one id is live, and it is live while the session is in the transaction
that its `tx/begin` opened. -/
def IdsAgree (inTx : World → Bool) (current : Tracked World) : Prop :=
  (∀ first ∈ current.1.txConn, ∀ second ∈ current.1.txConn, first = second) ∧
    ∀ txId, txId ∈ current.1.txConn ↔ inTx current.2.1 = true ∧ current.2.2 = some txId

structure Sound (inside : Bool) (state : ConnectionState) (opener : Option TxId) : Prop where
  live : ∀ txId, txId ∈ state.txConn ↔ opener = some txId
  entered : inside = opener.isSome

section Sound

variable {state after : ConnectionState} {opener begun : Option TxId} {inside insideAfter : Bool}

theorem effect_sound (sound : Sound inside state opener)
    (effect : Effect state inside false after insideAfter begun) :
    Sound insideAfter after (nextOpener opener inside insideAfter begun) := by
  have entered := sound.entered
  cases effect with
  | idle begun =>
    have same : nextOpener opener inside inside begun = opener := by
      cases opener <;> simp_all [nextOpener]
    rw [same]
    exact sound
  | openTx txId outside =>
    subst outside
    have nobody : opener = none := by simpa using entered.symm
    constructor
    · intro other
      have old := sound.live other
      simp only [nobody, reduceCtorEq, iff_false] at old
      simp [ConnectionState.insertTx, nextOpener, old, eq_comm]
    · rfl
  | closeTx txId isLive begun =>
    have owner := (sound.live txId).mp isLive
    constructor
    · intro other
      have old := sound.live other
      simp only [owner, Option.some.injEq] at old
      simp [ConnectionState.removeTx, nextOpener, old, eq_comm]
    · rfl

theorem effect_unsound (sound : Sound inside state opener)
    (effect : Effect state inside true after insideAfter begun) (inTx : World → Bool)
    (world : World) (observed : inTx world = insideAfter) :
    ¬ IdsAgree inTx (after, world, nextOpener opener inside insideAfter begun) := by
  rintro ⟨single, live⟩
  have entered := sound.entered
  cases effect with
  | openAgain txId within unused begun =>
    -- The id of the transaction the session is in stays live beside the new one.
    rw [within] at entered
    obtain ⟨old, owner⟩ := Option.isSome_iff_exists.mp entered.symm
    have oldLive := (sound.live old).mpr owner
    have same := single txId ((AList.mem_insert _).mpr (Or.inl rfl)) old
      ((AList.mem_insert _).mpr (Or.inr oldLive))
    exact unused (same ▸ oldLive)
  | loseTx txId isLive begun =>
    -- The session is still in the transaction of the id that is gone.
    have owner := (sound.live txId).mp isLive
    rw [owner, Option.isSome_some] at entered
    have still := (live txId).mpr ⟨by rw [observed, entered], by simp [nextOpener, entered, owner]⟩
    exact (AList.mem_erase.mp still).1 rfl

end Sound

/-- In every run from a session outside of a transaction, ids and session agree in
all states exactly when no `tx/begin` succeeds inside a transaction and every end
of a live id succeeds. -/
theorem ids_agree_iff_no_misstep (client : Client World) (inTx : World → Bool)
    (used : World → String → Prop) (laws : KeepsSession client inTx used) (world : World)
    (outside : inTx world = false) (requests : List Call) :
    (∀ reached ∈ (tracked client inTx).visited ({}, world, none) requests,
      IdsAgree inTx reached) ↔
    (tracked client inTx).Respects
      (fun current request => misstep client inTx current.1 current.2.1 request = false)
      ({}, world, none) requests := by
  apply visited_property_iff (tracked client inTx) _
    (fun current => Sound (inTx current.2.1) current.1 current.2.2 ∧
      Made used current.1 current.2.1) (IdsAgree inTx)
  · rintro current ⟨sound, _⟩
    constructor
    · intro first live second also
      have owner := (sound.live first).mp live
      have sameOwner := (sound.live second).mp also
      exact Option.some.inj (owner.symm.trans sameOwner)
    · intro txId
      rw [sound.live, sound.entered]
      constructor
      · intro owner
        simp [owner]
      · exact And.right
  · rintro current request _ ⟨sound, made⟩ allowed
    have effect := call_effect laws current.1 current.2.1 request made
    rw [allowed] at effect
    exact ⟨effect_sound sound effect, call_made laws current.1 current.2.1 request made⟩
  · rintro current request _ ⟨sound, made⟩ agree
    have effect := call_effect laws current.1 current.2.1 request made
    cases wrong : misstep client inTx current.1 current.2.1 request with
    | false => rfl
    | true =>
      rw [wrong] at effect
      exact absurd agree (effect_unsound sound effect inTx _ rfl)
  · refine ⟨⟨fun txId => ?_, outside⟩, fun txId live => ?_⟩
    · exact iff_of_false (AList.notMem_empty txId) (by simp)
    · exact absurd live (AList.notMem_empty txId)

/-- A session that answers every statement, with the number of UUIDs made. -/
def plainClient : Client (Bool × Nat) where
  batchExecute := fun sql world =>
    if "BEGIN".toList <+: sql.toList then ((true, world.2), none)
    else if sql = "COMMIT" ∨ sql = "ROLLBACK" then ((false, world.2), none)
    else (world, none)
  execute := fun _ world => (world, .ok 0)
  newUuid := fun world => ((world.1, world.2 + 1), toString world.2)

theorem plainClient_keepsSession :
    KeepsSession plainClient Prod.fst fun world uuid => ∃ n < world.2, uuid = toString n := by
  have begins : ∀ p, "BEGIN".toList <+: (beginSql p).toList := by
    intro p
    simp only [beginSql, String.append_assoc, String.toList_append]
    exact List.prefix_append _ _
  constructor
  · intro p world
    simp only [plainClient, begins p, ↓reduceIte]
  · rintro command ends world
    have notBegin : ¬ "BEGIN".toList <+: command.toList := by
      rcases ends with rfl | rfl <;> decide
    simp only [plainClient, notBegin, ends, ↓reduceIte]
  · intro words known name world
    have other : ¬ "BEGIN".toList <+: (savepointSql words name).toList ∧
        ¬ (savepointSql words name = "COMMIT" ∨ savepointSql words name = "ROLLBACK") := by
      simp only [List.mem_cons, List.not_mem_nil, or_false] at known
      rcases known with rfl | rfl | rfl <;>
        simp [savepointSql, String.ext_iff]
    simp only [plainClient, other, ↓reduceIte]
  · intro world
    rfl
  · rintro world ⟨n, smaller, same⟩
    have equal : world.2 = n := Text.digits_injective same
    omega
  · intro world uuid
    constructor
    · rintro ⟨n, smaller, rfl⟩
      rcases Nat.lt_succ_iff_lt_or_eq.mp smaller with old | new
      · exact Or.inl ⟨n, old, rfl⟩
      · exact Or.inr (by rw [new]; rfl)
    · rintro (⟨n, smaller, rfl⟩ | rfl)
      · exact ⟨n, Nat.lt_succ_of_lt smaller, rfl⟩
      · exact ⟨world.2, Nat.lt_succ_self _, rfl⟩
  · intro sql world uuid
    simp only [plainClient]
    split
    · rfl
    · split <;> rfl

def twoTransactions : List Call :=
  [.txBegin (.ok { connId := 1 }), .txCommit (.ok "opengauss-tx-0"),
    .txBegin (.ok { connId := 1 }), .txRollback (.ok { txId := "opengauss-tx-1" })]

theorem sequential_transactions_agree :
    IdsAgree Prod.fst
      ((tracked plainClient Prod.fst).run ({}, (false, 0), none) twoTransactions).1 := by
  apply (ids_agree_iff_no_misstep plainClient Prod.fst _ plainClient_keepsSession (false, 0) rfl
    twoTransactions).mpr _ _ (run_mem_visited _ _ _)
  exact ⟨by decide +kernel, by decide +kernel, by decide +kernel, by decide +kernel, trivial⟩

-- The second BEGIN succeeds with a warning and its id is live beside the first.
theorem nested_begin_two_live_ids :
    let reached := ((tracked plainClient Prod.fst).run ({}, (false, 0), none)
      [.txBegin (.ok { connId := 1 }), .txBegin (.ok { connId := 1 })]).1
    "opengauss-tx-0" ∈ reached.1.txConn ∧ "opengauss-tx-1" ∈ reached.1.txConn ∧
      reached.2.2 = some "opengauss-tx-0" ∧ ¬ IdsAgree Prod.fst reached := by
  refine ⟨by decide +kernel, by decide +kernel, by decide +kernel, ?_⟩
  rintro ⟨single, _⟩
  have same := single "opengauss-tx-0" (by decide +kernel) "opengauss-tx-1" (by decide +kernel)
  exact absurd same (by decide)

end Onetcli.OpenGauss
