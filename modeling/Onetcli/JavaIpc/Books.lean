import Onetcli.JavaIpc.Server

/-!
The books of a server: which transaction is active on which connection, which imports
belong to which, and the auto-commit flags. Each request leaves them right, whatever
JDBC calls fail, if no call that gives a connection its flag back does.
-/

namespace Onetcli.JavaIpc

open Jdbc Runs Tables Connection

/-- Whether the database of a connection has transactions. -/
def Outside.logs (o : Outside) (connId : Nat) : Bool :=
  match o.driver with
  | .oscar => true
  | .gbase8s => o.catalog connId != some "0"

def Server.owner (s : Server) (txId : String) : Option Nat :=
  (s.transactions.lookup txId).map (·.connId)

def Server.active (s : Server) (connId : Nat) : Option String :=
  (s.connections.lookup connId).bind (·.activeTxId)

/-- What each request has to leave behind. -/
structure Consistent (o : Outside) (s : Server) : Prop where
  owned : ∀ txId connId, s.owner txId = some connId ↔ s.active connId = some txId
  single : ∀ connId first second, s.owner first = some connId → s.owner second = some connId →
    first = second
  endable : ∀ connId txId, s.active connId = some txId →
    ∃ tx, requireTransaction s txId = .ok tx ∧ tx.connId = connId
  imports : ∀ importId imp, s.imports.lookup importId = some imp → imp.connId ∈ s.connections
  flags : ∀ connId state, s.connections.lookup connId = some state → o.logs connId = true →
    state.connection.initial = true →
      (state.connection.autoCommit = false ↔ state.activeTxId.isSome = true)

/-- A connection by itself: its cached answer, its flag, and the flag it had before. -/
structure Steady (o : Outside) (connId : Nat) (state : ConnectionState) : Prop where
  logging : state.logging = false → o.logs connId = false
  asked : state.loggingChecked = true ∨ state.activeTxId.isSome = true →
    state.logging = o.logs connId
  off : o.logs connId = true → state.activeTxId.isSome = true →
    state.connection.autoCommit = false
  on : o.logs connId = true → state.connection.initial = true → state.activeTxId = none →
    state.connection.autoCommit = true
  original : o.logs connId = true → state.connection.initial = true →
    state.activeTxId.isSome = true → state.originalAutoCommit = true
  tagged : o.logs connId = true → ∀ work ∈ state.connection.uncommitted, ∀ txId,
    work.tx = some txId → state.activeTxId = some txId

structure Sound (o : Outside) (s : Server) : Prop where
  owned : ∀ txId connId, s.owner txId = some connId ↔ s.active connId = some txId
  imports : ∀ importId imp, s.imports.lookup importId = some imp → imp.connId ∈ s.connections
  steady : ∀ connId state, s.connections.lookup connId = some state → Steady o connId state
  named : Named (o.driver.id ++ "-tx-") s.nextTxId s.transactions
  fresh : ∀ connId ∈ s.connections, connId < s.nextConnId

variable {o : Outside} {s : Server} {out : Outcomes} {connId : Nat} {txId : String}

theorem owner_eq {tx : TxState} (found : s.transactions.lookup txId = some tx) :
    s.owner txId = some tx.connId := by
  rw [Server.owner, found]
  rfl

variable {state : ConnectionState}

theorem active_eq (found : s.connections.lookup connId = some state) :
    s.active connId = state.activeTxId := by
  rw [Server.active, found]
  rfl

theorem Sound.consistent (sound : Sound o s) : Consistent o s where
  owned := sound.owned
  single connId first second ownsFirst ownsSecond := by
    have one := (sound.owned first connId).mp ownsFirst
    have two := (sound.owned second connId).mp ownsSecond
    exact Option.some.inj (one.symm.trans two)
  endable connId txId active := by
    have owned := (sound.owned txId connId).mpr active
    obtain ⟨tx, found, same⟩ := Option.map_eq_some_iff.mp owned
    refine ⟨tx, ?_, same⟩
    rw [requireTransaction, found]
  imports := sound.imports
  flags connId state found logs initial := by
    have steady := sound.steady connId state found
    constructor
    · intro off
      by_contra idle
      have on := steady.on logs initial (Option.not_isSome_iff_eq_none.mp idle)
      rw [on] at off
      cases off
    · exact steady.off logs

theorem sound_empty {closed : Server} (connections : closed.connections = ∅)
    (transactions : closed.transactions = ∅) (imports : closed.imports = ∅) : Sound o closed where
  owned txId connId := by simp [Server.owner, Server.active, connections, transactions]
  imports importId imp found := by simp [imports] at found
  steady connId state found := by simp [connections] at found
  named := transactions ▸ named_empty
  fresh connId member := absurd (connections ▸ member) (AList.notMem_empty connId)

/-! ## Updates -/

theorem owner_put (s : Server) (connId : Nat) (state : ConnectionState) (txId : String) :
    (s.put connId state).owner txId = s.owner txId := rfl

theorem active_put (s : Server) (connId wanted : Nat) (state : ConnectionState) :
    (s.put connId state).active wanted =
      if wanted = connId then state.activeTxId else s.active wanted := by
  rw [Server.active, Server.put, lookup_insert_if]
  by_cases same : wanted = connId
  · rw [if_pos same, if_pos same]
    rfl
  · rw [if_neg same, if_neg same]
    rfl

theorem mem_put {wanted : Nat} (member : wanted ∈ s.connections) :
    wanted ∈ (s.put connId state).connections :=
  (AList.mem_insert _).mpr (Or.inr member)

theorem steady_insert {table : Table Nat ConnectionState}
    (each : ∀ connId state, table.lookup connId = some state → Steady o connId state)
    (steady : Steady o connId state) :
    ∀ wanted other, (table.insert connId state).lookup wanted = some other →
      Steady o wanted other := by
  intro wanted other present
  rw [lookup_insert_if] at present
  by_cases here : wanted = connId
  · rw [if_pos here, Option.some.injEq] at present
    rw [here, ← present]
    exact steady
  · rw [if_neg here] at present
    exact each wanted other present

theorem fresh_insert {table : Table Nat ConnectionState} {next : Nat}
    (fresh : ∀ connId ∈ table, connId < next) (member : connId ∈ table) :
    ∀ wanted ∈ table.insert connId state, wanted < next := by
  intro wanted present
  rcases (AList.mem_insert _).mp present with here | old
  · exact here ▸ fresh connId member
  · exact fresh wanted old

theorem Sound.put (sound : Sound o s) {old state : ConnectionState}
    (found : s.connections.lookup connId = some old) (steady : Steady o connId state)
    (same : state.activeTxId = old.activeTxId) : Sound o (s.put connId state) where
  owned txId wanted := by
    rw [owner_put, sound.owned, active_put]
    by_cases here : wanted = connId
    · rw [if_pos here, here, active_eq found, same]
    · rw [if_neg here]
  imports importId imp present := mem_put (sound.imports importId imp present)
  steady := steady_insert sound.steady steady
  named := sound.named
  fresh := fresh_insert sound.fresh (mem_of_lookup found)

theorem Sound.putTransaction (sound : Sound o s) {tx other : TxState}
    (found : s.transactions.lookup txId = some tx) (same : other.connId = tx.connId) :
    Sound o (putTransaction s txId other) where
  owned wanted connId := by
    rw [← show s.active connId = (JavaIpc.putTransaction s txId other).active connId from rfl,
      ← sound.owned, Server.owner, JavaIpc.putTransaction, lookup_insert_if]
    by_cases here : wanted = txId
    · rw [if_pos here, here, owner_eq found, Option.map_some, same]
    · rw [if_neg here]
      rfl
  imports := sound.imports
  steady := sound.steady
  named wanted member := by
    rcases (AList.mem_insert _).mp member with here | old
    · exact sound.named wanted (here ▸ mem_of_lookup found)
    · exact sound.named wanted old
  fresh := sound.fresh

theorem Sound.begin (sound : Sound o s) {old state : ConnectionState}
    (found : s.connections.lookup connId = some old) (idle : old.activeTxId = none)
    (steady : ∀ txId, Steady o connId { state with activeTxId := some txId }) :
    Sound o (beginTransaction o s connId state).1 where
  owned wanted other := by
    have absent := sound.named.fresh
    have notOwned : s.owner (o.driver.id ++ "-tx-" ++ toString s.nextTxId) = none := by
      rw [Server.owner, AList.lookup_eq_none.mpr absent]
      rfl
    have idleHere : s.active connId = none := (active_eq found).trans idle
    have ownerAfter : (beginTransaction o s connId state).1.owner wanted =
        if wanted = o.driver.id ++ "-tx-" ++ toString s.nextTxId then some connId
        else s.owner wanted := by
      rw [Server.owner, beginTransaction, lookup_insert_if]
      split <;> rfl
    have activeAfter : (beginTransaction o s connId state).1.active other =
        if other = connId then some (o.driver.id ++ "-tx-" ++ toString s.nextTxId)
        else s.active other := active_put s connId other _
    rw [ownerAfter, activeAfter]
    by_cases isNew : wanted = o.driver.id ++ "-tx-" ++ toString s.nextTxId
    · by_cases here : other = connId
      · simp [isNew, here]
      · rw [if_pos isNew, if_neg here]
        constructor
        · intro same
          exact absurd (Option.some.inj same).symm here
        · intro active
          have owned := (sound.owned wanted other).mpr active
          rw [isNew, notOwned] at owned
          cases owned
    · by_cases here : other = connId
      · rw [if_neg isNew, if_pos here]
        constructor
        · intro owned
          have active := (sound.owned wanted other).mp owned
          rw [here, idleHere] at active
          cases active
        · intro same
          exact absurd (Option.some.inj same).symm isNew
      · rw [if_neg isNew, if_neg here]
        exact sound.owned wanted other
  imports importId imp present := mem_put (sound.imports importId imp present)
  steady := steady_insert sound.steady (steady _)
  named := sound.named.insert_next
  fresh := fresh_insert sound.fresh (mem_of_lookup found)

theorem Sound.finish (sound : Sound o s) {old state : ConnectionState}
    (found : s.connections.lookup connId = some old) (owned : old.activeTxId = some txId)
    (idle : state.activeTxId = none) (steady : Steady o connId state) :
    Sound o (Server.put { s with transactions := s.transactions.erase txId } connId state) where
  owned wanted other := by
    have ownerAfter : (Server.put { s with transactions := s.transactions.erase txId } connId
        state).owner wanted = if wanted = txId then none else s.owner wanted := by
      rw [owner_put, Server.owner, lookup_erase_if]
      split <;> rfl
    have activeHere : s.active connId = some txId := (active_eq found).trans owned
    rw [ownerAfter, active_put]
    by_cases isEnded : wanted = txId
    · by_cases here : other = connId
      · simp [isEnded, here, idle]
      · rw [if_pos isEnded, if_neg here]
        constructor
        · intro none
          cases none
        · intro active
          have one := (sound.owned wanted other).mpr active
          have two := (sound.owned txId connId).mpr activeHere
          rw [isEnded, two] at one
          exact absurd (Option.some.inj one).symm here
    · by_cases here : other = connId
      · rw [if_neg isEnded, if_pos here, idle]
        constructor
        · intro ownedHere
          have active := (sound.owned wanted other).mp ownedHere
          rw [here, activeHere] at active
          exact absurd (Option.some.inj active).symm isEnded
        · intro none
          cases none
      · rw [if_neg isEnded, if_neg here]
        exact sound.owned wanted other
  imports importId imp present := mem_put (sound.imports importId imp present)
  steady := steady_insert sound.steady steady
  named := sound.named.erase
  fresh := fresh_insert sound.fresh (mem_of_lookup found)

theorem Sound.open (sound : Sound o s) (flag : Bool) :
    Sound o { s.put s.nextConnId { connection := { initial := flag, autoCommit := flag } } with
      nextConnId := s.nextConnId + 1 } where
  owned wanted other := by
    have absent : s.connections.lookup s.nextConnId = none := by
      refine AList.lookup_eq_none.mpr fun present => ?_
      exact absurd (sound.fresh _ present) (Nat.lt_irrefl _)
    have idle : s.active s.nextConnId = none := by
      rw [Server.active, absent]
      rfl
    have activeAfter : (s.put s.nextConnId
        { connection := { initial := flag, autoCommit := flag } }).active other =
          s.active other := by
      rw [active_put]
      by_cases here : other = s.nextConnId
      · rw [if_pos here, here, idle]
      · rw [if_neg here]
    exact (sound.owned wanted other).trans (iff_of_eq (congrArg (· = some wanted) activeAfter.symm))
  imports importId imp present := mem_put (sound.imports importId imp present)
  steady := steady_insert sound.steady
    { logging := by simp
      asked := by simp
      off := by simp
      on := fun _ isInitial _ => isInitial
      original := by simp
      tagged := by simp }
  named := sound.named
  fresh wanted present := by
    rcases (AList.mem_insert _).mp present with here | old
    · exact here ▸ Nat.lt_succ_self _
    · exact Nat.lt_succ_of_lt (sound.fresh wanted old)

/-! ## What runs on a connection -/

/-- Statements leave the flag alone and do work for one transaction or none. -/
structure Ran (tx : Option String) (before after : Connection Work) : Prop where
  initial : after.initial = before.initial
  autoCommit : after.autoCommit = before.autoCommit
  work : ∀ work ∈ after.uncommitted, work ∈ before.uncommitted ∨ work.tx = tx

theorem executeEach_ran (out : Outcomes) (stopOnError : Bool) (tx : Option String) (index : Nat)
    (statements : List String) (connection : Connection Work) :
    Ran tx connection (executeEach out stopOnError tx index statements connection).1 := by
  induction statements generalizing index connection with
  | nil => exact ⟨rfl, rfl, fun work member => Or.inl member⟩
  | cons sql rest ih =>
    unfold executeEach
    split
    · split
      · exact ⟨rfl, rfl, fun work member => Or.inl member⟩
      · exact ih (index + 1) connection
    · have later := ih (index + 1) (connection.execute ⟨sql, tx⟩).1
      refine ⟨?_, ?_, ?_⟩
      · rw [later.initial, connection.execute_initial]
      · rw [later.autoCommit, connection.execute_autoCommit]
      · intro work member
        rcases later.work work member with here | sameTx
        · rcases connection.mem_execute here with old | isNew
          · exact Or.inl old
          · exact Or.inr (congrArg Work.tx isNew)
        · exact Or.inr sameTx

-- The flag has to be right afterwards, and the work one's own.
theorem Steady.change (steady : Steady o connId state)
    {after : Connection Work} (initial : after.initial = state.connection.initial)
    (off : o.logs connId = true → state.activeTxId.isSome = true → after.autoCommit = false)
    (on : o.logs connId = true → state.connection.initial = true → state.activeTxId = none →
      after.autoCommit = true)
    (own : ∀ work ∈ after.uncommitted,
      work ∈ state.connection.uncommitted ∨ work.tx = state.activeTxId) :
    Steady o connId { state with connection := after } where
  logging := steady.logging
  asked := steady.asked
  off := off
  on logs isInitial := on logs (initial ▸ isInitial)
  original logs isInitial := steady.original logs (initial ▸ isInitial)
  tagged logs work member txId isTx := by
    rcases own work member with old | sameTx
    · exact steady.tagged logs work old txId isTx
    · exact sameTx.symm.trans isTx

theorem Steady.ran (steady : Steady o connId state)
    {after : Connection Work} (ran : Ran state.activeTxId state.connection after) :
    Steady o connId { state with connection := after } := by
  refine steady.change ran.initial ?_ ?_ ran.work
  · intro logs active
    exact ran.autoCommit.trans (steady.off logs active)
  · intro logs isInitial idle
    exact ran.autoCommit.trans (steady.on logs isInitial idle)

structure Asked (o : Outside) (connId : Nat) (before : ConnectionState)
    (answer : Bool × ConnectionState) : Prop where
  logs : answer.1 = o.logs connId
  logging : answer.2.logging = o.logs connId
  activeTxId : answer.2.activeTxId = before.activeTxId
  connection : answer.2.connection = before.connection
  steady : Steady o connId answer.2

theorem isLogging_asked (steady : Steady o connId state) :
    Asked o connId state (isLogging o connId state) := by
  cases isDriver : o.driver with
  | oscar =>
    have logs : o.logs connId = true := by rw [Outside.logs, isDriver]
    have logging : state.logging = true := by
      by_contra off
      rw [steady.logging (Bool.not_eq_true _ ▸ off)] at logs
      cases logs
    rw [isLogging, isDriver]
    exact ⟨logs.symm, logging.trans logs.symm, rfl, rfl, steady⟩
  | gbase8s =>
    have logs : o.logs connId = (o.catalog connId != some "0") := by
      rw [Outside.logs, isDriver]
    rw [isLogging, isDriver]
    by_cases checked : state.loggingChecked = true
    · have known := steady.asked (Or.inl checked)
      simp only [checked, if_true]
      exact ⟨known, known, rfl, rfl, steady⟩
    · simp only [checked, ← logs]
      exact ⟨rfl, rfl, rfl, rfl,
        { logging := id
          asked := fun _ => rfl
          off := steady.off
          on := steady.on
          original := steady.original
          tagged := steady.tagged }⟩

/-! ## What each request leaves -/

theorem runStatements_sound (sound : Sound o s)
    (found : s.connections.lookup connId = some state) (statements : List String) :
    Sound o (runStatements s out connId state statements).1 :=
  sound.put found ((sound.steady connId state found).ran (executeEach_ran _ _ _ _ _ _)) rfl

theorem requireConnection_ok {wanted : Option String}
    (accepted : requireConnection s connId wanted = .ok state) :
    s.connections.lookup connId = some state := by
  unfold requireConnection at accepted
  split at accepted
  · cases accepted
  · rename_i found
    split at accepted
    · rw [found]
      exact congrArg some (Except.ok.inj accepted)
    · simp only [bind, Except.bind] at accepted
      split at accepted
      · cases accepted
      · split at accepted
        · rw [found]
          exact congrArg some (Except.ok.inj accepted)
        · cases accepted

theorem handleStatements_sound (sound : Sound o s) (wanted : Option String)
    (statements : List String) : Sound o (handleStatements s out connId wanted statements).1 := by
  unfold handleStatements
  split
  · exact sound
  · rename_i accepted
    exact runStatements_sound sound (requireConnection_ok accepted) statements

theorem handleConnOpen_sound (sound : Sound o s) : Sound o (handleConnOpen s out).1 := by
  unfold handleConnOpen
  split
  · exact sound
  · exact sound.open _

/-! ### Closing -/

theorem eraseAll_lookup {Value : Type} (table : Table String Value) (keys : List String)
    (wanted : String) :
    (eraseAll table keys).lookup wanted = if wanted ∈ keys then none else table.lookup wanted := by
  induction keys generalizing table with
  | nil => rfl
  | cons key rest ih =>
    rw [eraseAll, List.foldl_cons, ← eraseAll, ih, lookup_erase_if]
    by_cases inRest : wanted ∈ rest
    · simp [inRest]
    · by_cases here : wanted = key
      · simp [here]
      · simp [inRest, here]

theorem mem_chosen {Value : Type} (table : Table String Value) (chosen : Value → Bool)
    (wanted : String) : wanted ∈ (table.entries.filter fun entry => chosen entry.2).map Sigma.fst ↔
      (table.lookup wanted).any chosen = true := by
  rw [List.mem_map]
  constructor
  · rintro ⟨⟨key, value⟩, member, rfl⟩
    obtain ⟨inside, isChosen⟩ := List.mem_filter.mp member
    rw [AList.mem_lookup_iff.mpr inside]
    exact isChosen
  · intro isChosen
    obtain ⟨value, found, chosenValue⟩ := (Option.any_eq_true _ _).mp isChosen
    exact ⟨⟨wanted, value⟩, List.mem_filter.mpr ⟨AList.mem_lookup_iff.mp found, chosenValue⟩, rfl⟩

theorem closeTransactions_gone (txIds : List String)
    (gone : s.connections.lookup connId = none) :
    closeTransactions out connId txIds s =
      ({ s with transactions := eraseAll s.transactions txIds }, [], false) := by
  induction txIds generalizing s with
  | nil => rfl
  | cons txId rest ih =>
    rw [closeTransactions, gone]
    exact ih gone

def idsOf (s : Server) (connId : Nat) : List String :=
  (s.transactions.entries.filter fun entry => entry.2.connId = connId).map Sigma.fst

def importsOf (s : Server) (connId : Nat) : List String :=
  (s.imports.entries.filter fun entry => entry.2.connId = connId).map Sigma.fst

def withoutConn (s : Server) (connId : Nat) : Server :=
  { s with
    connections := s.connections.erase connId
    transactions := eraseAll s.transactions (idsOf s connId)
    imports := eraseAll s.imports (importsOf s connId) }

theorem mem_idsOf : txId ∈ idsOf s connId ↔ s.owner txId = some connId := by
  rw [idsOf, mem_chosen s.transactions (fun tx => decide (tx.connId = connId)), Server.owner]
  cases s.transactions.lookup txId <;> simp

theorem named_eraseAll {Value : Type} {words : String} {next : Nat} {table : Table String Value}
    (named : Named words next table) (keys : List String) :
    Named words next (eraseAll table keys) := by
  induction keys generalizing table with
  | nil => exact named
  | cons key rest ih => exact ih named.erase

theorem Sound.withoutConn (sound : Sound o s) : Sound o (withoutConn s connId) where
  owned wanted other := by
    have ownerAfter : (JavaIpc.withoutConn s connId).owner wanted =
        if s.owner wanted = some connId then none else s.owner wanted := by
      rw [Server.owner, JavaIpc.withoutConn, eraseAll_lookup]
      by_cases here : s.owner wanted = some connId
      · rw [if_pos (mem_idsOf.mpr here), if_pos here]
        rfl
      · rw [if_neg (fun member => here (mem_idsOf.mp member)), if_neg here]
        rfl
    have activeAfter : (JavaIpc.withoutConn s connId).active other =
        if other = connId then none else s.active other := by
      rw [Server.active, JavaIpc.withoutConn, lookup_erase_if]
      split <;> rfl
    rw [ownerAfter, activeAfter]
    by_cases here : other = connId
    · rw [if_pos here, here]
      by_cases owned : s.owner wanted = some connId
      · simp [owned]
      · simp [owned]
    · rw [if_neg here, ← sound.owned]
      by_cases owned : s.owner wanted = some connId
      · rw [if_pos owned, owned]
        simp [Ne.symm here]
      · rw [if_neg owned]
  imports importId imp present := by
    rw [JavaIpc.withoutConn, eraseAll_lookup] at present
    split at present
    · cases present
    · rename_i kept
      refine AList.mem_erase.mpr ⟨?_, sound.imports importId imp present⟩
      intro isHere
      refine kept ((mem_chosen s.imports (fun imp => decide (imp.connId = connId)) importId).mpr ?_)
      rw [present]
      simpa using isHere
  steady other state present := by
    rw [JavaIpc.withoutConn, lookup_erase_if] at present
    split at present
    · cases present
    · exact sound.steady other state present
  named := named_eraseAll sound.named _
  fresh other member := sound.fresh other (AList.mem_erase.mp member).2

-- The connection is out of the table before its transactions are ended.
theorem handleConnClose_server (found : s.connections.lookup connId = some state) :
    handleConnClose o s out connId = (withoutConn s connId,
        if out.throws .close connId then ([], .thrown)
        else (state.connection.close o.closeCommits, .ok .null)) := by
  have gone : (s.connections.erase connId).lookup connId = none := by
    rw [lookup_erase_if, if_pos rfl]
  have ended : closeTransactionsForConn { s with connections := s.connections.erase connId } out
      connId = ({ s with
        connections := s.connections.erase connId
        transactions := eraseAll s.transactions (idsOf s connId) }, [], false) :=
    closeTransactions_gone _ gone
  unfold handleConnClose
  rw [found]
  simp only [ended, Bool.false_eq_true, if_false, List.nil_append]
  split <;> rfl

theorem handleConnClose_sound (sound : Sound o s) : Sound o (handleConnClose o s out connId).1 := by
  cases found : s.connections.lookup connId with
  | none =>
    rw [handleConnClose, found]
    exact sound
  | some state =>
    rw [handleConnClose_server found]
    exact sound.withoutConn

theorem closeAll_sound : Sound o (closeAll o s out).1 := sound_empty rfl rfl rfl

/-! ### Batches -/

theorem endBatch_keeps (out : Outcomes) (connId : Nat) (failed : Bool)
    (connection : Connection Work) :
    let ended := endBatch out connId failed connection
    ended.1.initial = connection.initial ∧ ended.1.autoCommit = connection.autoCommit ∧
      ∀ work ∈ ended.1.uncommitted, work ∈ connection.uncommitted := by
  unfold endBatch
  split
  · split
    · exact ⟨rfl, rfl, fun work member => member⟩
    · exact ⟨rfl, rfl, fun work member => absurd member List.not_mem_nil⟩
  · split
    · exact ⟨rfl, rfl, fun work member => member⟩
    · exact ⟨rfl, rfl, fun work member => absurd member List.not_mem_nil⟩

def batchConnection (out : Outcomes) (connId : Nat) (stopOnError : Bool)
    (statements : List String) (state : ConnectionState) : Connection Work :=
  let ran := executeEach out stopOnError state.activeTxId 0 statements
    (state.connection.setAutoCommit false).1
  (endBatch out connId ran.2.2 ran.1).1

theorem batchConnection_keeps (out : Outcomes) (connId : Nat) (stopOnError : Bool)
    (statements : List String) (state : ConnectionState) :
    Ran state.activeTxId (state.connection.setAutoCommit false).1
      (batchConnection out connId stopOnError statements state) := by
  have ran := executeEach_ran out stopOnError state.activeTxId 0 statements
    (state.connection.setAutoCommit false).1
  obtain ⟨initial, autoCommit, fewer⟩ := endBatch_keeps out connId
    (executeEach out stopOnError state.activeTxId 0 statements
      (state.connection.setAutoCommit false).1).2.2
    (executeEach out stopOnError state.activeTxId 0 statements
      (state.connection.setAutoCommit false).1).1
  exact ⟨initial.trans ran.initial, autoCommit.trans ran.autoCommit,
    fun work member => ran.work work (fewer work member)⟩

def BatchRestores (o : Outside) (s : Server) (out : Outcomes) (connId : Nat) : Prop :=
  ∀ state, s.connections.lookup connId = some state → o.logs connId = true →
    state.connection.initial = true → state.activeTxId = none →
      out.throws .getAutoCommit connId = true ∨ out.throws .disable connId = true ∨
        out.throws .restore connId = false

theorem handleExecBatch_sound (sound : Sound o s) (statements : List String)
    (stopOnError inTransaction : Bool)
    (restores : inTransaction = true → BatchRestores o s out connId) :
    Sound o (handleExecBatch o s out connId statements stopOnError inTransaction).1 := by
  unfold handleExecBatch
  cases found : s.connections.lookup connId with
  | none => exact sound
  | some state =>
    have asked := isLogging_asked (sound.steady connId state found)
    have same : (isLogging o connId state).2.activeTxId = state.activeTxId := asked.activeTxId
    have kept := batchConnection_keeps out connId stopOnError statements
      (isLogging o connId state).2
    have notRead := (isLogging o connId state).2.connection.setAutoCommit_initial false
    simp only
    by_cases read : out.throws .getAutoCommit connId = true
    · rw [if_pos read]
      exact sound.put found asked.steady same
    · rw [if_neg read]
      split
      · rename_i transactional
        rw [Bool.and_eq_true] at transactional
        by_cases disabled : out.throws .disable connId = true
        · rw [if_pos disabled]
          exact sound.put found asked.steady same
        · rw [if_neg disabled]
          by_cases restored : out.throws .restore connId = true
          · -- The flag stays off, which is right only if a transaction is active.
            rw [if_pos restored]
            refine sound.put found ?_ same
            refine asked.steady.change (kept.initial.trans notRead) ?_ ?_ kept.work
            · intro _ _
              exact kept.autoCommit
            · intro logs isInitial idle
              rw [asked.connection] at isInitial
              rcases restores transactional.1 state found logs isInitial (same ▸ idle) with
                reads | disables | back
              · exact absurd reads read
              · exact absurd disables disabled
              · rw [restored] at back
                cases back
          · rw [if_neg restored]
            refine sound.put found ?_ same
            refine asked.steady.change ?_ ?_ ?_ ?_
            · exact (setAutoCommit_initial _ _).trans (kept.initial.trans notRead)
            · intro logs active
              exact (setAutoCommit_autoCommit _ _).trans
                (asked.steady.off logs active)
            · intro logs isInitial idle
              exact (setAutoCommit_autoCommit _ _).trans
                (asked.steady.on logs isInitial idle)
            · intro work member
              exact kept.work work (mem_setAutoCommit _ member)
      · exact sound.put found (asked.steady.ran (executeEach_ran _ _ _ _ _ _)) same

/-! ### Transactions -/

-- An idle connection gets a transaction: its flag is off by then, and the flag it had before
-- is kept.
theorem Steady.activated {before state : ConnectionState} (steady : Steady o connId before)
    (idle : before.activeTxId = none) (logging : state.logging = o.logs connId)
    (work : state.connection.uncommitted = before.connection.uncommitted)
    (off : o.logs connId = true → state.connection.autoCommit = false)
    (original : o.logs connId = true → state.connection.initial = true →
      state.originalAutoCommit = true) (txId : String) :
    Steady o connId { state with activeTxId := some txId } where
  logging none := logging.symm.trans none
  asked _ := logging
  off logs _ := off logs
  on _ _ none := absurd none (Option.some_ne_none txId)
  original logs isInitial _ := original logs isInitial
  tagged logs piece member wanted isTx := by
    have nobody := steady.tagged logs piece (work ▸ member) wanted isTx
    rw [idle] at nobody
    cases nobody

theorem handleTxBegin_sound (sound : Sound o s) : Sound o (handleTxBegin o s out connId).1 := by
  unfold handleTxBegin
  cases found : s.connections.lookup connId with
  | none => exact sound
  | some state =>
    have asked := isLogging_asked (sound.steady connId state found)
    have steady := asked.steady
    have same : (isLogging o connId state).2.activeTxId = state.activeTxId := asked.activeTxId
    simp only
    by_cases active : state.activeTxId.isSome = true
    · rw [if_pos active]
      exact sound
    · rw [if_neg active]
      have idle : state.activeTxId = none := Option.not_isSome_iff_eq_none.mp active
      have idleStill := same.trans idle
      split
      · rename_i logging
        have logs : o.logs connId = true := asked.logs.symm.trans logging
        by_cases read : out.throws .getAutoCommit connId = true
        · rw [if_pos read]
          exact sound.put found steady same
        · rw [if_neg read]
          by_cases disabled : out.throws .disable connId = true
          · rw [if_pos disabled]
            refine sound.put found ?_ same
            exact
              { logging := steady.logging
                asked := steady.asked
                off := steady.off
                on := steady.on
                original := fun logs isInitial _ => steady.on logs isInitial idleStill
                tagged := steady.tagged }
          · rw [if_neg disabled]
            refine sound.begin found idle ?_
            refine steady.activated idleStill asked.logging rfl (fun _ => rfl) ?_
            intro logs isInitial
            exact steady.on logs isInitial idleStill
      · rename_i logging
        have noLogs : o.logs connId = false := by
          rw [← asked.logs]
          exact Bool.eq_false_iff.mpr logging
        refine sound.begin found idle ?_
        refine steady.activated idleStill asked.logging rfl ?_ ?_
        · intro logs
          rw [noLogs] at logs
          cases logs
        · intro logs
          rw [noLogs] at logs
          cases logs

-- A connection whose work is settled becomes idle.
theorem Steady.idled (steady : Steady o connId state)
    {after : Connection Work} (initial : after.initial = state.connection.initial)
    (on : o.logs connId = true → state.connection.initial = true → after.autoCommit = true)
    (nothing : o.logs connId = true → after.uncommitted = []) :
    Steady o connId { state with connection := after, activeTxId := none } where
  logging := steady.logging
  asked checked := by
    rcases checked with known | active
    · exact steady.asked (Or.inl known)
    · cases active
  off _ active := by cases active
  on logs isInitial _ := on logs (initial ▸ isInitial)
  original _ _ active := by cases active
  tagged logs work member := by
    rw [nothing logs] at member
    cases member

theorem withTransaction_eq {tx : TxState} (found : s.transactions.lookup txId = some tx)
    (here : s.connections.lookup tx.connId = some state)
    (next : TxState → ConnectionState → Answer) : withTransaction s txId next = next tx state := by
  rw [withTransaction, requireTransaction, found]
  simp only [here]

theorem owned_state (sound : Sound o s) (owned : s.owner txId = some connId) :
    ∃ tx state, s.transactions.lookup txId = some tx ∧ tx.connId = connId ∧
      s.connections.lookup connId = some state ∧ state.activeTxId = some txId ∧
        state.logging = o.logs connId := by
  obtain ⟨tx, found, same⟩ := Option.map_eq_some_iff.mp owned
  obtain ⟨state, here, active⟩ := Option.bind_eq_some_iff.mp ((sound.owned txId connId).mp owned)
  have asked := (sound.steady connId state here).asked (Or.inr (by rw [active]; rfl))
  exact ⟨tx, state, found, same, here, active, asked⟩

theorem withTransaction_sound (sound : Sound o s) {next : TxState → ConnectionState → Answer}
    (each : ∀ tx state, s.transactions.lookup txId = some tx →
      s.connections.lookup tx.connId = some state → state.activeTxId = some txId →
        Sound o (next tx state).1) : Sound o (withTransaction s txId next).1 := by
  unfold withTransaction requireTransaction
  cases found : s.transactions.lookup txId with
  | none => exact sound
  | some tx =>
    have active := (sound.owned txId tx.connId).mp (owner_eq found)
    cases here : s.connections.lookup tx.connId with
    | none =>
      rw [Server.active, here] at active
      cases active
    | some state =>
      simp only [here]
      exact each tx state found here ((active_eq here).symm.trans active)

theorem finishTransaction_sound (sound : Sound o s) {old : ConnectionState}
    (found : s.connections.lookup connId = some old) (owned : old.activeTxId = some txId)
    {after : Connection Work} (initial : after.initial = old.connection.initial)
    (nothing : o.logs connId = true → after.uncommitted = [])
    (restores : o.logs connId = true → out.throws .restore connId = false) :
    Sound o (finishTransaction s out txId connId { old with connection := after }).1 := by
  have steady := sound.steady connId old found
  have active : old.activeTxId.isSome = true := by rw [owned]; rfl
  have asked := steady.asked (Or.inr active)
  unfold finishTransaction
  dsimp only
  split
  · rename_i logging
    have logs : o.logs connId = true := asked.symm.trans logging
    rw [restores logs]
    refine sound.finish found owned rfl ?_
    refine steady.idled ((setAutoCommit_initial _ _).trans initial) ?_ ?_
    · intro _ isInitial
      exact (setAutoCommit_autoCommit _ _).trans
        (steady.original logs isInitial active)
    · intro _
      refine List.eq_nil_iff_forall_not_mem.mpr fun work member => ?_
      have inside := mem_setAutoCommit _ member
      rw [nothing logs] at inside
      cases inside
  · rename_i logging
    have noLogs : o.logs connId ≠ true := fun logs => logging (asked.trans logs)
    exact sound.finish found owned rfl
      (steady.idled initial (fun logs => absurd logs noLogs) (fun logs => absurd logs noLogs))

def FinishRestores (o : Outside) (s : Server) (out : Outcomes) (ends : Call) (txId : String) :
    Prop :=
  ∀ connId, s.owner txId = some connId → o.logs connId = true →
    out.throws ends connId = true ∨ out.throws .restore connId = false

theorem handleTxCommit_sound (sound : Sound o s) (restores : FinishRestores o s out .commit txId) :
    Sound o (handleTxCommit s out txId).1 := by
  refine withTransaction_sound sound fun tx state found here owned => ?_
  have steady := sound.steady tx.connId state here
  have asked := steady.asked (Or.inr (by rw [owned]; rfl))
  have allowed := restores tx.connId (owner_eq found)
  split
  · rename_i logging
    by_cases thrown : out.throws .commit tx.connId = true
    · rw [if_pos thrown]
      exact sound
    · rw [if_neg thrown]
      exact finishTransaction_sound sound here owned rfl (fun _ => rfl) fun logs =>
        (allowed logs).resolve_left thrown
  · rename_i logging
    have noLogs : o.logs tx.connId ≠ true := fun logs => logging (asked.trans logs)
    exact finishTransaction_sound sound here owned rfl (fun logs => absurd logs noLogs)
      fun logs => absurd logs noLogs

theorem handleTxRollback_sound (sound : Sound o s) (toSavepoint : Option String)
    (restores : toSavepoint = none → FinishRestores o s out .rollback txId) :
    Sound o (handleTxRollback s out txId toSavepoint).1 := by
  refine withTransaction_sound sound fun tx state found here owned => ?_
  have steady := sound.steady tx.connId state here
  have asked := steady.asked (Or.inr (by rw [owned]; rfl))
  cases toSavepoint with
  | some name =>
    dsimp only
    split
    · exact sound
    · split
      · split
        · exact sound
        · refine sound.put here ?_ rfl
          refine steady.change rfl (steady.off · ·) (steady.on · · ·) fun work member => ?_
          exact Or.inl (List.mem_of_mem_take member)
      · exact sound
  | none =>
    have allowed := restores rfl tx.connId (owner_eq found)
    dsimp only
    split
    · rename_i logging
      by_cases thrown : out.throws .rollback tx.connId = true
      · rw [if_pos thrown]
        exact sound
      · rw [if_neg thrown]
        exact finishTransaction_sound sound here owned rfl (fun _ => rfl) fun logs =>
          (allowed logs).resolve_left thrown
    · rename_i logging
      have noLogs : o.logs tx.connId ≠ true := fun logs => logging (asked.trans logs)
      exact finishTransaction_sound sound here owned rfl (fun logs => absurd logs noLogs)
        fun logs => absurd logs noLogs

theorem handleTxSavepoint_sound (sound : Sound o s) (name : String) :
    Sound o (handleTxSavepoint s out txId name).1 := by
  refine withTransaction_sound sound fun tx state found _ _ => ?_
  split
  · split
    · exact sound
    · exact sound.putTransaction found rfl
  · exact sound.putTransaction found rfl

theorem handleTxRelease_sound (sound : Sound o s) (name : String) :
    Sound o (handleTxRelease s out txId name).1 := by
  refine withTransaction_sound sound fun tx state found _ _ => ?_
  have released : Sound o (putTransaction s txId
      { tx with savepoints := tx.savepoints.erase name }) := sound.putTransaction found rfl
  dsimp only
  split
  · exact released
  · split <;> exact released

/-! ### Imports -/

theorem handleDataImportBegin_sound (sound : Sound o s) (format schema : String)
    (table : Option String) (columns : List String) :
    Sound o (handleDataImportBegin o s connId format schema table columns).1 := by
  unfold handleDataImportBegin
  split
  · exact sound
  · rename_i known
    split
    · exact sound
    · have numbered : Sound o { s with nextImportId := s.nextImportId + 1 } :=
        ⟨sound.owned, sound.imports, sound.steady, sound.named, sound.fresh⟩
      dsimp only
      split
      · exact numbered
      · refine ⟨sound.owned, ?_, sound.steady, sound.named, sound.fresh⟩
        intro importId imp present
        rw [lookup_insert_if] at present
        split at present
        · cases present
          exact AList.lookup_isSome.mp (Option.isSome_iff_ne_none.mpr known)
        · exact sound.imports importId imp present

theorem forgetImport_sound (sound : Sound o s) (importId : String) :
    Sound o (forgetImport s importId) where
  owned := sound.owned
  imports wanted imp present := by
    rw [forgetImport, lookup_erase_if] at present
    split at present
    · cases present
    · exact sound.imports wanted imp present
  steady := sound.steady
  named := sound.named
  fresh := sound.fresh

theorem handleDataImportChunk_sound (sound : Sound o s) (importId : String) (rows : Nat) :
    Sound o (handleDataImportChunk s out importId rows).1 := by
  unfold handleDataImportChunk
  split
  · exact sound
  · split
    · exact sound
    · exact sound
    · rename_i found
      exact runStatements_sound sound found _

end Onetcli.JavaIpc
