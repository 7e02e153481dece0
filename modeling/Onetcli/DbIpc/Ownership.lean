import Onetcli.DbIpc.Effects
import Onetcli.DbIpc.AlterTarget
import Onetcli.Lib.Ownership

/-!
Who owns what in the server: connections are the parents, and cursors, wire
transactions and imports their children. Each effect of a request is one step of
the ledger, so a whole run is a path of it.
-/

namespace Onetcli.DbIpc

open Tables Runs Ownership

variable {World : Type}

inductive Kind where
  | cursor
  | tx
  | dataImport
  deriving DecidableEq

/-- The names of `cursorName`, `txName` and `importName` for a driver id. -/
def mint (id : String) : Kind → Nat → String
  | .cursor, n => id ++ "-cursor-" ++ toString n
  | .tx, n => id ++ "-tx-" ++ toString n
  | .dataImport, n => id ++ "-import-" ++ toString n

def ledger (s : Server World) : Ledger Kind String where
  parents connID := connID ∈ s.conns
  nextParent := s.nextConnID
  owner
    | .cursor, name => (s.cursors.lookup name).map (·.connID)
    | .tx, name => (s.txs.lookup name).map (·.connID)
    | .dataImport, name => (s.imports.lookup name).map (·.connID)
  next
    | .cursor => s.nextCursor
    | .tx => s.nextTx
    | .dataImport => s.nextImport

def issued (response : Response) : Option (Issue Kind String) :=
  match response.body with
  | .ok (.connOpened connID _) => some (.parent connID)
  | .ok (.cursorOpened cursorID _) => some (.child .cursor cursorID)
  | .ok (.txBegun txID) => some (.child .tx txID)
  | .ok (.importBegun importID) => some (.child .dataImport importID)
  | _ => none

theorem issued_reply (id : String) (answer : Answer) : issued ⟨id, answer.reply⟩ = none := by
  cases answer <;> rfl

theorem mint_injective (id : String) (kind : Kind) : Function.Injective (mint id kind) := by
  intro first second same
  have digits : toString first = toString second := by
    cases kind <;> exact String.append_right_inj _ |>.mp same
  exact Text.digits_injective digits

/-! ## What leaves the tables -/

section Sweeps

variable (rt : Runtime World) (s : Server World) (world : World)

theorem closeCursors_lookup (doomed : CursorState → Bool) (closeErr : Option String)
    (cursorID : String) : (closeCursors rt s doomed closeErr world).1.lookup cursorID =
      (s.cursors.lookup cursorID).filter fun cursor => !doomed cursor :=
  sweep_lookup_covered _ _ _ _ _ (rt.rangeIds world s.cursors.keys).2 cursorID

theorem rollbackTxs_lookup (doomed : TxState → Bool) (closeErr : Option String) (txID : String) :
    (rollbackTxs rt s doomed closeErr world).1.lookup txID =
      (s.txs.lookup txID).filter fun tx => !doomed tx :=
  sweep_lookup_covered _ _ _ _ _ (rt.rangeIds world s.txs.keys).2 txID

theorem dropImports_lookup (doomed : ImportState → Bool) (importID : String) :
    (dropImports rt s doomed world).lookup importID =
      (s.imports.lookup importID).filter fun imp => !doomed imp :=
  sweep_lookup_covered _ _ _ _ _ (rt.rangeIds world s.imports.keys).2 importID

theorem closeConns_lookup (closeErr : Option String) (connID : Nat) :
    (closeConns rt s closeErr world).1.lookup connID = none := by
  unfold closeConns
  rw [sweep_lookup_covered _ _ _ _ _ (rt.rangeNumbers world s.conns.keys).2]
  cases s.conns.lookup connID <;> rfl

theorem closeConnection_owner {connID owner : Nat} {conn : ConnectionState World} {kind : Kind}
    {name : String}
    (child : (ledger (closeConnection rt s connID conn world).1).owner kind name = some owner) :
    (ledger s).owner kind name = some owner ∧ owner ≠ connID := by
  cases kind <;>
    simp only [ledger, closeConnection, closeCursors_lookup, rollbackTxs_lookup,
      dropImports_lookup, Option.map_eq_some_iff, Option.filter_eq_some_iff, Bool.not_eq_true',
      beq_eq_false_iff_ne] at child ⊢
  all_goals
    rcases child with ⟨entry, ⟨found, foreign⟩, rfl⟩
    exact ⟨⟨entry, found, rfl⟩, foreign⟩

theorem closeAll_owner (kind : Kind) (name : String) :
    (ledger (closeAll rt s world).1).owner kind name = none := by
  cases kind <;>
    simp [ledger, closeAll, closeCursors_lookup, rollbackTxs_lookup, dropImports_lookup]

end Sweeps

/-! ## Every effect is a step of the ledger -/

section Steps

variable {rt : Runtime World} {s after : Server World} {world : World} {call : Call}
  {reply : Reply}

theorem effect_spec (effect : Effect rt s world call reply after) : after.spec = s.spec := by
  cases effect <;> rfl

/-- No child appears in a table and none changes its owner. -/
def Keeps {Entry : Type} (owner : Entry → Nat) (before after : Table String Entry) : Prop :=
  ∀ name parent, (after.lookup name).map owner = some parent →
    (before.lookup name).map owner = some parent

section Tables

variable {Entry : Type} {owner : Entry → Nat} {table : Table String Entry} {key : String}

theorem Keeps.refl (table : Table String Entry) : Keeps owner table table :=
  fun _ _ child => child

theorem Keeps.replace {entry changed : Entry} (found : table.lookup key = some entry)
    (same : owner changed = owner entry) : Keeps owner table (table.insert key changed) := by
  intro name parent child
  rw [lookup_insert_if] at child
  split at child
  · subst name
    rw [found, ← child]
    exact congrArg some same.symm
  · exact child

theorem Keeps.erase : Keeps owner table (table.erase key) := by
  intro name parent child
  rw [lookup_erase_if] at child
  split at child
  · cases child
  · exact child

theorem owner_insert {name : String} {added : Entry} {parent : Nat}
    (child : ((table.insert key added).lookup name).map owner = some parent) :
    (table.lookup name).map owner = some parent ∨ name = key ∧ parent = owner added := by
  rw [lookup_insert_if] at child
  split at child
  · rename_i same
    exact Or.inr ⟨same, (Option.some.inj child).symm⟩
  · exact Or.inl child

end Tables

-- A step that closes no connection and adds no child.
theorem quiet_step {id : String} (conns : ∀ connID, connID ∈ after.conns ↔ connID ∈ s.conns)
    (cursors : Keeps CursorState.connID s.cursors after.cursors)
    (txs : Keeps TxState.connID s.txs after.txs)
    (imports : Keeps ImportState.connID s.imports after.imports)
    (nextConnID : after.nextConnID = s.nextConnID) (next : (ledger after).next = (ledger s).next) :
    Step (mint id) (ledger s) none (ledger after) := by
  apply Step.release (fun _ => False)
  · intro connID
    simpa [ledger] using conns connID
  · intro kind name owner child
    cases kind with
    | cursor => exact ⟨cursors name owner child, not_false⟩
    | tx => exact ⟨txs name owner child, not_false⟩
    | dataImport => exact ⟨imports name owner child, not_false⟩
  · exact nextConnID
  · exact next

theorem child_step (kind : Kind) (connID : Nat) (present : connID ∈ s.conns)
    (conns : after.conns = s.conns) (nextConnID : after.nextConnID = s.nextConnID)
    (added : ∀ name owner, (ledger after).owner kind name = some owner →
      (ledger s).owner kind name = some owner ∨
        name = mint s.spec.id kind ((ledger s).next kind) ∧ owner = connID)
    (advanced : (ledger after).next kind = (ledger s).next kind + 1)
    (others : ∀ other, other ≠ kind → (ledger after).owner other = (ledger s).owner other ∧
      (ledger after).next other = (ledger s).next other) : Step (mint s.spec.id) (ledger s)
      (some (.child kind (mint s.spec.id kind ((ledger s).next kind)))) (ledger after) := by
  apply Step.openChild kind connID present
  · exact congrArg (fun (conns : Table Nat _) connID => connID ∈ conns) conns
  · exact nextConnID
  · intro other name owner child
    by_cases same : other = kind
    · subst other
      rcases added name owner child with old | ⟨named, owned⟩
      · exact Or.inl old
      · exact Or.inr ⟨rfl, named, owned⟩
    · rw [(others other same).1] at child
      exact Or.inl child
  · exact advanced
  · intro other different
    exact (others other different).2

theorem effect_step (id : String) (effect : Effect rt s world call reply after) :
    Step (mint s.spec.id) (ledger s) (issued ⟨id, reply⟩) (ledger after) := by
  cases effect with
  | idle answer initialized streams kept =>
    rw [issued_reply]
    exact quiet_step (fun _ => Iff.rfl) (.refl _) (.refl _) (.refl _) rfl rfl
  | openConn conn version =>
    -- The new connection is the value of the counter and owns nothing yet.
    apply Step.openParent
    · intro connID
      simp [ledger, or_comm]
    · rfl
    · rfl
    · rfl
  | useConn answer connID conn used found =>
    rw [issued_reply]
    refine quiet_step (fun other => ?_) (.refl _) (.refl _) (.refl _) rfl rfl
    simp only [AList.mem_insert, or_iff_right_iff_imp]
    rintro rfl
    exact mem_of_lookup found
  | openCursor connID conn found cursor owner columns =>
    refine child_step .cursor connID (mem_of_lookup found) rfl rfl ?_ rfl ?_
    · intro name parent child
      rcases owner_insert child with old | ⟨named, owned⟩
      · exact Or.inl old
      · exact Or.inr ⟨named, owned.trans owner⟩
    · intro other different
      cases other with
      | cursor => exact absurd rfl different
      | tx => exact ⟨rfl, rfl⟩
      | dataImport => exact ⟨rfl, rfl⟩
  | setCursor answer cursorID cursor changed found owner =>
    rw [issued_reply]
    exact quiet_step (fun _ => Iff.rfl) (.replace found owner) (.refl _) (.refl _) rfl rfl
  | dropCursor answer cursorID =>
    rw [issued_reply]
    exact quiet_step (fun _ => Iff.rfl) .erase (.refl _) (.refl _) rfl rfl
  | openTx connID conn found handle =>
    refine child_step .tx connID (mem_of_lookup found) rfl rfl ?_ rfl ?_
    · intro name parent child
      exact owner_insert child
    · intro other different
      cases other with
      | cursor => exact ⟨rfl, rfl⟩
      | tx => exact absurd rfl different
      | dataImport => exact ⟨rfl, rfl⟩
  | spoilTx answer txID tx finished err found failed =>
    rw [issued_reply]
    exact quiet_step (fun _ => Iff.rfl) (.refl _) (.replace found rfl) (.refl _) rfl rfl
  | dropTx answer txID =>
    rw [issued_reply]
    exact quiet_step (fun _ => Iff.rfl) (.refl _) .erase (.refl _) rfl rfl
  | openImport connID conn found imp owner =>
    refine child_step .dataImport connID (mem_of_lookup found) rfl rfl ?_ rfl ?_
    · intro name parent child
      rcases owner_insert child with old | ⟨named, owned⟩
      · exact Or.inl old
      · exact Or.inr ⟨named, owned.trans owner⟩
    · intro other different
      cases other with
      | cursor => exact ⟨rfl, rfl⟩
      | tx => exact ⟨rfl, rfl⟩
      | dataImport => exact absurd rfl different
  | setImport answer importID imp changed found owner =>
    rw [issued_reply]
    exact quiet_step (fun _ => Iff.rfl) (.refl _) (.refl _) (.replace found owner) rfl rfl
  | dropImport answer importID =>
    rw [issued_reply]
    exact quiet_step (fun _ => Iff.rfl) (.refl _) (.refl _) .erase rfl rfl
  | closeConn answer connID conn found =>
    rw [issued_reply]
    apply Step.release (· = connID)
    · intro other
      simp [ledger, closeConnection, and_comm]
    · intro kind name owner child
      exact closeConnection_owner rt s world child
    · rfl
    · rfl
  | closeAll answer =>
    -- Every connection closes; the counters go on from where they were.
    rw [issued_reply]
    apply Step.release (fun _ => True)
    · intro other
      simp [ledger, closeAll, ← AList.lookup_eq_none, closeConns_lookup]
    · intro kind name owner child
      rw [closeAll_owner] at child
      cases child
    · rfl
    · rfl

end Steps

/-! ## Runs of the server -/

section Run

variable (rt : Runtime World) (spec : DriverSpec World)

theorem handle_spec (s : Server World) (world : World) (req : Message) :
    (handle rt s world req).1.spec = s.spec :=
  effect_spec (handle_effect rt s world req)

-- A run of the server is a path of the ledger that issues the ids of its responses.
theorem run_path (state : Server World × World) (reqs : List Message)
    (ofSpec : state.1.spec = spec) : Path (Step (mint spec.id)) (ledger state.1)
      (((machine rt).run state reqs).2.filterMap issued)
      (ledger ((machine rt).run state reqs).1.1) := by
  apply run_simulates (machine rt) (Step (mint spec.id)) (fun state => ledger state.1) issued
    (fun state => state.1.spec = spec)
  · intro state req same
    exact (handle_spec rt state.1 state.2 req).trans same
  · rintro state req rfl
    exact effect_step _ (handle_effect rt state.1 state.2 req)
  · exact ofSpec

theorem newServer_valid (opener : Option (Opener World)) :
    Valid (mint spec.id) (ledger (newServer rt spec opener)) := by
  constructor
  · intro kind name owner child
    cases kind <;> simp [ledger, newServer] at child
  · intro connID present
    simp [ledger, newServer] at present
  · intro kind name owner child
    cases kind <;> simp [ledger, newServer] at child

/-- Before `init` there is no connection. -/
def ClosedBeforeInit (s : Server World) : Prop :=
  s.initialized = false → ∀ connID, connID ∉ s.conns

theorem effect_initialized {s after : Server World} {world : World} {call : Call} {reply : Reply}
    (effect : Effect rt s world call reply after) (before : s.initialized = true) :
    after.initialized = true := by
  cases effect with
  | idle answer initialized streams kept => exact kept before
  | _ => exact before

theorem dispatch_beforeInit_conns (s : Server World) (world : World) (call : Call)
    (early : call.beforeInit = true) (empty : ∀ connID, connID ∉ s.conns) (connID : Nat) :
    connID ∉ (dispatch rt s world call).1.conns := by
  cases call with
  | init params =>
    simp only [dispatch, inProcess, handleInit]
    split <;> exact empty connID
  | ping => exact empty connID
  | shutdown =>
    have closed : connID ∉ (closeAll rt s world).1.conns :=
      AList.lookup_eq_none.mp (closeConns_lookup rt s _ _ connID)
    simp only [dispatch, changed, handleShutdown]
    split
    · rename_i same
      rwa [same] at closed
    · rename_i same
      rwa [same] at closed
  | _ => cases early

theorem handle_closedBeforeInit (s : Server World) (world : World) (req : Message)
    (closed : ClosedBeforeInit s) : ClosedBeforeInit (handle rt s world req).1 := by
  intro off
  cases before : s.initialized with
  | true =>
    have still := effect_initialized rt (handle_effect rt s world req) before
    rw [still] at off
    cases off
  | false =>
    -- Only the calls that `handle` admits before `init` can run.
    intro connID
    unfold handle
    split
    · exact closed before connID
    · simp only
      split
      · exact closed before connID
      · rename_i early
        apply dispatch_beforeInit_conns rt s world req.call _ (closed before) connID
        simpa [before] using early

theorem handleConnClose_server (s : Server World) (world : World) (connID : Nat) :
    (handleConnClose rt s (.ok connID) world).1 =
      match s.conns.lookup connID with
      | none => s
      | some conn => (closeConnection rt s connID conn world).1 := by
  unfold handleConnClose
  simp only [decoded, Except.mapError, knownConn, bind, Except.bind, pure, Except.pure]
  cases s.conns.lookup connID with
  | none => rfl
  | some conn =>
    simp only
    split <;> rename_i same <;> rw [same]

-- Whatever `conn/close` answers, no child of the connection is left.
theorem connClose_owner {id : String} (s : Server World) (world : World) (req : Message)
    (connID : Nat) (valid : Valid (mint id) (ledger s)) (closed : ClosedBeforeInit s)
    (accepted : req.jsonrpc = "" ∨ req.jsonrpc = "2.0")
    (closes : req.call = .connClose (.ok connID)) (kind : Kind) (name : String) :
    (ledger (handle rt s world req).1).owner kind name ≠ some connID := by
  have version : ¬ (req.jsonrpc ≠ "" ∧ req.jsonrpc ≠ "2.0") := by
    rintro ⟨notEmpty, notTwo⟩
    exact accepted.elim notEmpty notTwo
  have absent : connID ∉ s.conns → (ledger s).owner kind name ≠ some connID :=
    fun missing child => missing (valid.owned kind name connID child)
  unfold handle
  rw [if_neg version, closes]
  simp only [Call.beforeInit, Bool.not_false, Bool.true_and, Bool.not_eq_eq_eq_not, Bool.not_true]
  split
  · rename_i off
    exact absent (closed off connID)
  · -- Either the connection was unknown and owned nothing, or the sweeps took all.
    simp only [dispatch, changed, handleConnClose_server]
    split
    · rename_i unknown
      exact absent (AList.lookup_eq_none.mp unknown)
    · intro child
      exact (closeConnection_owner rt s world child).2 rfl

end Run

/-! ## The ownership invariant -/

structure Owned (s : Server World) : Prop where
  cursors : ∀ cursorID cursor, s.cursors.lookup cursorID = some cursor →
    cursor.connID ∈ s.conns ∧ ∃ n < s.nextCursor, cursorID = cursorName s n
  txs : ∀ txID tx, s.txs.lookup txID = some tx →
    tx.connID ∈ s.conns ∧ ∃ n < s.nextTx, txID = txName s n
  imports : ∀ importID imp, s.imports.lookup importID = some imp →
    imp.connID ∈ s.conns ∧ ∃ n < s.nextImport, importID = importName s n
  conns : ∀ connID ∈ s.conns, connID < s.nextConnID

/-- Nothing in the tables belongs to the connection. -/
structure Forgotten (s : Server World) (connID : Nat) : Prop where
  cursors : ∀ cursorID cursor, s.cursors.lookup cursorID = some cursor → cursor.connID ≠ connID
  txs : ∀ txID tx, s.txs.lookup txID = some tx → tx.connID ≠ connID
  imports : ∀ importID imp, s.imports.lookup importID = some imp → imp.connID ≠ connID

theorem owned_of_valid {s : Server World} (valid : Valid (mint s.spec.id) (ledger s)) :
    Owned s := by
  constructor
  · intro cursorID cursor found
    have child : (ledger s).owner .cursor cursorID = some cursor.connID := by
      simp [ledger, found]
    exact ⟨valid.owned _ _ _ child, valid.minted _ _ _ child⟩
  · intro txID tx found
    have child : (ledger s).owner .tx txID = some tx.connID := by simp [ledger, found]
    exact ⟨valid.owned _ _ _ child, valid.minted _ _ _ child⟩
  · intro importID imp found
    have child : (ledger s).owner .dataImport importID = some imp.connID := by
      simp [ledger, found]
    exact ⟨valid.owned _ _ _ child, valid.minted _ _ _ child⟩
  · exact valid.bounded

theorem forgotten_of_owner {s : Server World} {connID : Nat}
    (nobody : ∀ kind name, (ledger s).owner kind name ≠ some connID) : Forgotten s connID := by
  constructor
  · intro cursorID cursor found same
    exact nobody .cursor cursorID (by simp [ledger, found, same])
  · intro txID tx found same
    exact nobody .tx txID (by simp [ledger, found, same])
  · intro importID imp found same
    exact nobody .dataImport importID (by simp [ledger, found, same])

theorem run_closedBeforeInit (rt : Runtime World) (spec : DriverSpec World)
    (opener : Option (Opener World)) (world : World) (reqs : List Message) :
    ClosedBeforeInit ((machine rt).run (newServer rt spec opener, world) reqs).1.1 := by
  apply visited_invariant (machine rt) (fun state => ClosedBeforeInit state.1) _ _ reqs _ _
    (run_mem_visited (machine rt) _ reqs)
  · intro state req closed
    exact handle_closedBeforeInit rt state.1 state.2 req closed
  · intro _ connID
    exact AList.notMem_empty connID

theorem run_spec (rt : Runtime World) (state : Server World × World) (reqs : List Message) :
    ((machine rt).run state reqs).1.1.spec = state.1.spec := by
  apply visited_invariant (machine rt) (fun reached => reached.1.spec = state.1.spec) _ _ reqs rfl
    _ (run_mem_visited (machine rt) _ reqs)
  intro reached req same
  exact (handle_spec rt reached.1 reached.2 req).trans same

/-- From a new server, whatever is requested and whatever the drivers answer:
every cursor, transaction and import belongs to an open connection and carries a
name of its counter, no id is handed out twice, and `conn/close` leaves nothing of
the connection, whether it succeeds or not. -/
theorem ids_owned_and_issued_once (rt : Runtime World) (spec : DriverSpec World)
    (opener : Option (Opener World)) (world : World) (reqs : List Message) :
    let reached := (machine rt).run (newServer rt spec opener, world) reqs
    Owned reached.1.1 ∧ (reached.2.filterMap issued).Nodup ∧
      ∀ req connID, req.jsonrpc = "" ∨ req.jsonrpc = "2.0" →
        req.call = .connClose (.ok connID) →
        Forgotten (handle rt reached.1.1 reached.1.2 req).1 connID := by
  intro reached
  have path := run_path rt spec (newServer rt spec opener, world) reqs rfl
  have valid := path_valid path (newServer_valid rt spec opener)
  refine ⟨owned_of_valid ?_, path_issues_nodup (mint_injective spec.id) path, ?_⟩
  · rw [run_spec]
    exact valid
  · intro req connID accepted closes
    apply forgotten_of_owner
    exact connClose_owner rt _ _ req connID valid
      (run_closedBeforeInit rt spec opener world reqs) accepted closes

/-- A driver that answers everything, with the given error of `Commit`. -/
def plainRuntime (World : Type) (commitErr : Option String) : Runtime World where
  sqlOpen := fun _ _ world => (world, .ok 0)
  ping := fun _ world => (world, none)
  closeDb := fun _ world => (world, none)
  beginTx := fun _ _ world => (world, .ok 0)
  commitTx := fun _ world => (world, commitErr)
  rollbackTx := fun _ world => (world, none)
  execDb := fun _ _ _ world => (world, .ok ⟨.ok 0⟩)
  execTx := fun _ _ _ world => (world, .ok ⟨.ok 0⟩)
  queryDb := fun _ _ _ world => (world, .error "no result")
  queryTx := fun _ _ _ world => (world, .error "no result")
  rangeNumbers := fun _ keys => ⟨keys, .refl _⟩
  rangeIds := fun _ keys => ⟨keys, .refl _⟩
  milliseconds := fun _ => 0
  encodeRows := fun _ _ _ _ => .ok []
  marshalCells := fun _ => none

def plainConfig : Config :=
  { host := "", port := 0, username := "", password := "", database := "db", service := "",
    sid := "", protocol := "", extra := [] }

def openTransaction : List Message :=
  [{ call := .init (.decoded "0.10.0") },
    { call := .connOpen (.ok ⟨"plain", .ok plainConfig⟩) },
    { call := .txBegin (.ok { connID := 1 }) }]

theorem closed_connection_forgotten :
    let reached := (machine (plainRuntime Unit none)).run
      (newServer (plainRuntime Unit none) (plainSpec false) none, ()) openTransaction
    reached.1.1.txs.keys = ["plain-tx-1"] ∧
      Forgotten (handle (plainRuntime Unit none) reached.1.1 ()
        { call := .connClose (.ok 1) }).1 1 := by
  refine ⟨by decide +kernel, ?_⟩
  exact (ids_owned_and_issued_once (plainRuntime Unit none) (plainSpec false) none ()
    openTransaction).2.2 _ 1 (Or.inr rfl) rfl

end Onetcli.DbIpc
