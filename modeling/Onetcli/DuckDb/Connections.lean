import Onetcli.DuckDb.Cursors
import Onetcli.DuckDb.ExportStreams
import Onetcli.Lib.Ownership

/-!
All tables of `ConnectionState` in extensions/ipc/duckdb/src/state.rs under all its operations.
`close_conn` takes the streams, the imports and the transaction of a connection along, but not its
cursors.
-/

namespace Onetcli.DuckDb

open Tables Runs Owners Protocol

/-- `ConnectionState` with all its tables. -/
structure Connections (Value : Type) extends ConnectionState where
  cursors : Table CursorId (CursorState Value) := ∅
  streams : Table StreamId ExportStreamState := ∅
  nextConnId : Nat := 1
  nextCursorId : Nat := 1

namespace Connections

variable {Value : Type}

def new : Connections Value := { conns := ∅ }

/-- The next id saturates like a `u64`. -/
def withConn (connId : ConnId) (session : Session) : Connections Value :=
  { conns := AList.insert connId session ∅, nextConnId := saturatingSucc connId }

variable (state : Connections Value)

def openConn (session : Session) : Connections Value × ConnId :=
  ({ state with
    nextConnId := state.nextConnId + 1
    conns := state.conns.insert state.nextConnId session }, state.nextConnId)

def closeConn (id : ConnId) : Connections Value × Bool :=
  match state.conns.lookup id with
  | none => (state, false)
  | some _ =>
    ({ state with
      conns := state.conns.erase id
      streams := retain (fun stream => stream.connId != id) state.streams
      imports := retain (fun imp => imp.connId != id) state.imports
      txs := match state.activeTxByConn.lookup id with
        | some txId => state.txs.erase txId
        | none => state.txs
      activeTxByConn := state.activeTxByConn.erase id }, true)

def cursorName (n : Nat) : CursorId := "c-" ++ toString n

def openCursor (cursor : CursorState Value) : Connections Value × CursorId :=
  ({ state with
    nextCursorId := state.nextCursorId + 1
    cursors := state.cursors.insert (cursorName state.nextCursorId) cursor },
    cursorName state.nextCursorId)

def removeCursor (id : CursorId) : Connections Value × Option (CursorState Value) :=
  ({ state with cursors := state.cursors.erase id }, state.cursors.lookup id)

def insertCursor (id : CursorId) (cursor : CursorState Value) : Connections Value :=
  { state with cursors := state.cursors.insert id cursor }

def closeCursor (id : CursorId) : Connections Value × Bool :=
  ({ state with cursors := state.cursors.erase id }, (state.cursors.lookup id).isSome)

def openStream (id : StreamId) (stream : ExportStreamState) : Connections Value :=
  { state with streams := state.streams.insert id stream }

def closeStream (id : StreamId) : Connections Value × Bool :=
  ({ state with streams := state.streams.erase id }, (state.streams.lookup id).isSome)

/-- The operations of the imports and the transactions leave the other tables alone. -/
def withTables (tables : ConnectionState) : Connections Value :=
  { state with toConnectionState := tables }

end Connections

/-! ## The operations, as the handlers call them -/

inductive Operation (Value : Type) where
  | openConn (session : Session)
  | closeConn (id : ConnId)
  | openCursor (cursor : CursorState Value)
  | removeCursor (id : CursorId)
  | insertCursor (id : CursorId) (cursor : CursorState Value)
  | closeCursor (id : CursorId)
  | openStream (id : StreamId) (stream : ExportStreamState)
  | closeStream (id : StreamId)
  | openImport (imp : ImportState)
  | removeImport (id : ImportId)
  | insertImport (id : ImportId) (imp : ImportState)
  | beginTx (connId : ConnId)
  | closeTx (txId : TxId)

namespace Operation

variable {Value : Type}

def next (state : Connections Value) : Operation Value → Connections Value
  | .openConn session => (state.openConn session).1
  | .closeConn id => (state.closeConn id).1
  | .openCursor cursor => (state.openCursor cursor).1
  | .removeCursor id => (state.removeCursor id).1
  | .insertCursor id cursor => state.insertCursor id cursor
  | .closeCursor id => (state.closeCursor id).1
  | .openStream id stream => state.openStream id stream
  | .closeStream id => (state.closeStream id).1
  | .openImport imp => state.withTables (state.toConnectionState.openImport imp).1
  | .removeImport id =>
    match state.toConnectionState.removeImport id with
    | some (tables, _) => state.withTables tables
    | none => state
  | .insertImport id imp => state.withTables (state.toConnectionState.insertImport id imp)
  | .beginTx connId =>
    match state.toConnectionState.beginTx connId with
    | some (tables, _) => state.withTables tables
    | none => state
  | .closeTx txId => state.withTables (state.toConnectionState.closeTx txId)

def cursorOut (state : Connections Value) : Operation Value → Option (CursorId × ConnId)
  | .removeCursor id => (state.cursors.lookup id).map fun cursor => (id, cursor.connId)
  | _ => none

def importOut (state : Connections Value) : Operation Value → Option (ImportId × ConnId)
  | .removeImport id => (state.imports.lookup id).map fun imp => (id, imp.connId)
  | _ => none

end Operation

/-- The state between two operations, with the entry that the last one has taken out. -/
structure Use (Value : Type) where
  state : Connections Value
  cursorOut : Option (CursorId × ConnId) := none
  importOut : Option (ImportId × ConnId) := none

def connectionMachine (Value : Type) : Machine (Use Value) (Operation Value) Unit where
  step use operation :=
    ({ state := operation.next use.state
       cursorOut := operation.cursorOut use.state
       importOut := operation.importOut use.state }, ())

variable {Value : Type}

/-- What the handlers pass: they look a connection up before they open something on it, and put
back under its own id what they have just taken out. -/
def Passed (use : Use Value) : Operation Value → Prop
  | .openCursor cursor => cursor.connId ∈ use.state.conns
  | .insertCursor id cursor => use.cursorOut = some (id, cursor.connId)
  | .openStream _ stream => stream.connId ∈ use.state.conns
  | .openImport imp => imp.connId ∈ use.state.conns
  | .insertImport id imp => use.importOut = some (id, imp.connId)
  | .beginTx connId => connId ∈ use.state.conns
  | _ => True

/-- A connection is closed when it has no cursors. -/
def Clean (use : Use Value) : Operation Value → Prop
  | .closeConn id =>
    ∀ cursorId cursor, use.state.cursors.lookup cursorId = some cursor → cursor.connId ≠ id
  | _ => True

/-- The tables agree: the two tables of transactions are inverse, a connection has one transaction
at most, and everything belongs to a connection. -/
structure Consistent (state : Connections Value) : Prop where
  inverse : Inverse state.txs state.activeTxByConn
  single : ∀ first second connId, state.txs.lookup first = some connId →
    state.txs.lookup second = some connId → first = second
  cursors : Owned CursorState.connId state.conns state.cursors
  streams : Owned ExportStreamState.connId state.conns state.streams
  imports : Owned ImportState.connId state.conns state.imports
  txs : Owned id state.conns state.txs

/-- What holds between the operations of a run. -/
structure Settled (use : Use Value) : Prop where
  consistent : Consistent use.state
  names : Named "tx-" use.state.nextTxId use.state.txs
  cursorOut : ∀ id connId, use.cursorOut = some (id, connId) → connId ∈ use.state.conns
  importOut : ∀ id connId, use.importOut = some (id, connId) → connId ∈ use.state.conns

section Steps

variable {state : Connections Value}

theorem Consistent.withCursors (consistent : Consistent state)
    {cursors : Table CursorId (CursorState Value)} (next : Nat)
    (owned : Owned CursorState.connId state.conns cursors) :
    Consistent { state with cursors, nextCursorId := next } :=
  { consistent with cursors := owned }

theorem Consistent.withStreams (consistent : Consistent state)
    {streams : Table StreamId ExportStreamState}
    (owned : Owned ExportStreamState.connId state.conns streams) :
    Consistent { state with streams } :=
  { consistent with streams := owned }

theorem Consistent.withImports (consistent : Consistent state) {imports : Table ImportId ImportState}
    (next : Nat) (owned : Owned ImportState.connId state.conns imports) :
    Consistent (state.withTables { state.toConnectionState with imports, nextImportId := next }) :=
  { consistent with imports := owned }

theorem Consistent.openConn (consistent : Consistent state) (session : Session) :
    Consistent (state.openConn session).1 := by
  have grown : ∀ id ∈ state.conns, id ∈ state.conns.insert state.nextConnId session :=
    fun id present => (AList.mem_insert _).2 (Or.inr present)
  exact
    { inverse := consistent.inverse
      single := consistent.single
      cursors := consistent.cursors.mono grown
      streams := consistent.streams.mono grown
      imports := consistent.imports.mono grown
      txs := consistent.txs.mono grown }

theorem Consistent.closeConn (consistent : Consistent state) {id : ConnId}
    (none : ∀ cursorId cursor, state.cursors.lookup cursorId = some cursor → cursor.connId ≠ id) :
    Consistent (state.closeConn id).1 := by
  unfold Connections.closeConn
  cases known : state.conns.lookup id with
  | none => exact consistent
  | some session =>
    cases active : state.activeTxByConn.lookup id with
    | none =>
      have unowned : ∀ txId connId, state.txs.lookup txId = some connId → connId ≠ id := by
        rintro txId connId found rfl
        rw [(consistent.inverse _ _).1 found] at active
        cases active
      exact
        { inverse := consistent.inverse.erase_absent active
          single := consistent.single
          cursors := consistent.cursors.close none
          streams := consistent.streams.retain id
          imports := consistent.imports.retain id
          txs := consistent.txs.close unowned }
    | some txId =>
      have owner := (consistent.inverse _ _).2 active
      have inverse := consistent.inverse.erase owner
      have unowned : ∀ other connId, (state.txs.erase txId).lookup other = some connId →
          connId ≠ id := by
        rintro other connId found rfl
        have back := (inverse _ _).1 found
        simp at back
      exact
        { inverse := inverse
          single := fun first second connId one two => inverse.injective one two
          cursors := consistent.cursors.close none
          streams := consistent.streams.retain id
          imports := consistent.imports.retain id
          txs := (consistent.txs.erase txId).close unowned }

theorem Consistent.beginTx (consistent : Consistent state)
    (names : Named "tx-" state.nextTxId state.txs) {connId : ConnId}
    (present : connId ∈ state.conns) {tables : ConnectionState} {txId : TxId}
    (begun : state.toConnectionState.beginTx connId = some (tables, txId)) :
    Consistent (state.withTables tables) ∧ Named "tx-" tables.nextTxId tables.txs := by
  unfold ConnectionState.beginTx at begun
  split at begun
  · cases begun
  · next free =>
      cases begun
      have absent : connId ∉ state.activeTxByConn := by
        rw [← AList.lookup_eq_none]
        simpa [ConnectionState.hasActiveTx] using free
      have inverse := consistent.inverse.insert names.fresh absent
      have txs := @Owned.insert _ _ _ _ _ _ _ _ consistent.txs connId present
        (ConnectionState.txName state.nextTxId)
      refine ⟨?_, names.insert_next⟩
      exact
        { inverse := inverse
          single := fun first second connId one two => inverse.injective one two
          cursors := consistent.cursors
          streams := consistent.streams
          imports := consistent.imports
          txs := txs }

theorem Consistent.closeTx (consistent : Consistent state)
    (names : Named "tx-" state.nextTxId state.txs) (txId : TxId) :
    Consistent (state.withTables (state.toConnectionState.closeTx txId)) ∧
      Named "tx-" (state.toConnectionState.closeTx txId).nextTxId
        (state.toConnectionState.closeTx txId).txs := by
  unfold ConnectionState.closeTx
  cases found : state.txs.lookup txId with
  | none => exact ⟨consistent, names⟩
  | some connId =>
    have active := (consistent.inverse _ _).1 found
    have inverse := consistent.inverse.erase found
    simp only [active, if_true]
    refine ⟨?_, names.erase⟩
    exact
      { inverse := inverse
        single := fun first second connId one two => inverse.injective one two
        cursors := consistent.cursors
        streams := consistent.streams
        imports := consistent.imports
        txs := consistent.txs.erase txId }

end Steps

/-! ## All runs -/

section Run

variable {use : Use Value}

theorem next_consistent (settled : Settled use) (operation : Operation Value)
    (passed : Passed use operation) (clean : Clean use operation) :
    Consistent (operation.next use.state) ∧
      Named "tx-" (operation.next use.state).nextTxId (operation.next use.state).txs := by
  have consistent := settled.consistent
  cases operation with
  | openConn session => exact ⟨consistent.openConn session, settled.names⟩
  | closeConn id =>
    refine ⟨consistent.closeConn clean, ?_⟩
    simp only [Operation.next, Connections.closeConn]
    split
    · exact settled.names
    · dsimp only
      split
      · exact settled.names.erase
      · exact settled.names
  | openCursor cursor =>
    exact ⟨consistent.withCursors _ (consistent.cursors.insert passed _), settled.names⟩
  | removeCursor id | closeCursor id =>
    exact ⟨consistent.withCursors _ (consistent.cursors.erase id), settled.names⟩
  | insertCursor id cursor =>
    have present := settled.cursorOut _ _ passed
    exact ⟨consistent.withCursors _ (consistent.cursors.insert present id), settled.names⟩
  | openStream id stream =>
    exact ⟨consistent.withStreams (consistent.streams.insert passed id), settled.names⟩
  | closeStream id =>
    exact ⟨consistent.withStreams (consistent.streams.erase id), settled.names⟩
  | openImport imp =>
    exact ⟨consistent.withImports _ (consistent.imports.insert passed _), settled.names⟩
  | removeImport id =>
    cases found : use.state.imports.lookup id with
    | none =>
      simp only [Operation.next, ConnectionState.removeImport, found, Option.map_none]
      exact ⟨consistent, settled.names⟩
    | some imp =>
      simp only [Operation.next, ConnectionState.removeImport, found, Option.map_some]
      exact ⟨consistent.withImports _ (consistent.imports.erase id), settled.names⟩
  | insertImport id imp =>
    have present := settled.importOut _ _ passed
    exact ⟨consistent.withImports _ (consistent.imports.insert present id), settled.names⟩
  | beginTx connId =>
    cases begun : use.state.toConnectionState.beginTx connId with
    | none =>
      simp only [Operation.next, begun]
      exact ⟨consistent, settled.names⟩
    | some tables =>
      simp only [Operation.next, begun]
      exact consistent.beginTx settled.names passed begun
  | closeTx txId => exact consistent.closeTx settled.names txId

theorem settled_step (settled : Settled use) (operation : Operation Value)
    (passed : Passed use operation) (clean : Clean use operation) :
    Settled ((connectionMachine Value).step use operation).1 := by
  have both := next_consistent settled operation passed clean
  refine ⟨both.1, both.2, ?_, ?_⟩
  · intro id connId out
    cases operation with
    | removeCursor cursorId =>
      obtain ⟨cursor, found, same⟩ := Option.map_eq_some_iff.1 out
      cases same
      exact settled.consistent.cursors _ _ found
    | _ => cases out
  · intro id connId out
    cases operation with
    | removeImport importId =>
      obtain ⟨imp, found, same⟩ := Option.map_eq_some_iff.1 out
      cases same
      simp only [connectionMachine, Operation.next, ConnectionState.removeImport, found,
        Option.map_some]
      exact settled.consistent.imports _ _ found
    | _ => cases out

theorem clean_of_consistent (settled : Settled use) (operation : Operation Value)
    (after : Consistent ((connectionMachine Value).step use operation).1.state) :
    Clean use operation := by
  cases operation with
  | closeConn id =>
    intro cursorId cursor found same
    have known : cursor.connId ∈ use.state.conns := settled.consistent.cursors _ _ found
    obtain ⟨session, conn⟩ := lookup_of_mem known
    rw [same] at conn
    simp only [connectionMachine, Operation.next, Connections.closeConn, conn] at after
    have kept := after.cursors cursorId cursor found
    exact (AList.mem_erase.1 kept).1 same
  | _ => trivial

/-- The states that a run begins with. -/
def Started (state : Connections Value) : Prop :=
  state = .new ∨ ∃ connId session, state = .withConn connId session

theorem started_settled {state : Connections Value} (started : Started state) :
    Settled ({ state } : Use Value) := by
  have single (first second : TxId) (connId : ConnId) :
      (∅ : Table TxId ConnId).lookup first = some connId →
        (∅ : Table TxId ConnId).lookup second = some connId → first = second := by
    intro one
    simp at one
  have nothing {Id : Type} (table : Table ConnId Session) (id : Id) (connId : ConnId) :
      (none : Option (Id × ConnId)) = some (id, connId) → connId ∈ table := by
    intro out
    cases out
  rcases started with rfl | ⟨connId, session, rfl⟩
  · exact ⟨⟨inverse_empty, single, owned_empty, owned_empty, owned_empty, owned_empty⟩,
      named_empty, nothing _, nothing _⟩
  · exact ⟨⟨inverse_empty, single, owned_empty, owned_empty, owned_empty, owned_empty⟩,
      named_empty, nothing _, nothing _⟩

end Run

/-- In every run of the operations as the handlers call them, the tables agree after each
operation exactly when no connection is closed that has cursors. -/
theorem tables_agree_iff (start : Connections Value) (started : Started start)
    (operations : List (Operation Value))
    (passed : (connectionMachine Value).Respects Passed { state := start } operations) :
    (∀ reached ∈ (connectionMachine Value).visited { state := start } operations,
      Consistent reached.state) ↔
    (connectionMachine Value).Respects Clean { state := start } operations :=
  visited_property_iff_within _ Passed Clean Settled (fun use => Consistent use.state)
    (fun _ settled => settled.consistent) _ _
    (fun _ operation _ settled passed clean => settled_step settled operation passed clean)
    (fun _ operation _ settled _ after => clean_of_consistent settled operation after)
    passed (started_settled started)

def firstCursor : Operation Nat := .openCursor (.new 1 "SELECT 1" [] none none)

/-- A cursor that is closed before its connection. -/
theorem cursor_closed_first :
    (connectionMachine Nat).Respects Passed { state := .new }
        [.openConn ⟨true⟩, firstCursor, .closeCursor "c-1", .closeConn 1] ∧
      ∀ reached ∈ (connectionMachine Nat).visited { state := .new }
          [.openConn ⟨true⟩, firstCursor, .closeCursor "c-1", .closeConn 1],
        Consistent reached.state := by
  have passed : (connectionMachine Nat).Respects Passed { state := .new }
      [.openConn ⟨true⟩, firstCursor, .closeCursor "c-1", .closeConn 1] :=
    ⟨trivial, (AList.mem_insert _).2 (Or.inl rfl), trivial, trivial, trivial⟩
  apply And.intro passed
  refine (tables_agree_iff .new (Or.inl rfl) _ passed).2 ⟨trivial, trivial, trivial, ?_, trivial⟩
  intro cursorId cursor found
  change ((AList.insert "c-1" (CursorState.new 1 "SELECT 1" [] none none)
    (∅ : Table CursorId (CursorState Nat))).erase "c-1").lookup cursorId = some cursor at found
  rw [lookup_erase_if, lookup_insert_if] at found
  split at found
  · cases found
  · simp at found

/-- A connection that is closed before its cursor. -/
theorem cursor_outlives_connection :
    (connectionMachine Nat).Respects Passed { state := .new }
        [.openConn ⟨true⟩, firstCursor, .closeConn 1] ∧
      ¬∀ reached ∈ (connectionMachine Nat).visited { state := .new }
          [.openConn ⟨true⟩, firstCursor, .closeConn 1],
        Consistent reached.state := by
  constructor
  · exact ⟨trivial, (AList.mem_insert _).2 (Or.inl rfl), trivial, trivial⟩
  · intro all
    have last := all _ (run_mem_visited _ _ _)
    have kept := last.cursors "c-1" (.new 1 "SELECT 1" [] none none) rfl
    exact absurd kept (AList.notMem_empty _)

end Onetcli.DuckDb
