import Onetcli.JavaIpc.Server
import Onetcli.Lib.Savepoints

/-!
The savepoints of one transaction, `tx/savepoint`, `tx/rollback` with `to_savepoint` and
`tx/release` of OscarIpcServer.java and of GBase8sIpcServer.java. The server finds the
handle of a savepoint by its name, while the database keeps a stack. A call with a handle
that is on the stack succeeds, and one with another throws.
-/

namespace Onetcli.JavaIpc

open Runs Savepoints Tables

inductive SavepointRequest where
  | savepoint (name : String)
  | rollback (toSavepoint : String)
  | release (name : String)

/-- A transaction: what the server has of it, the stack, and the handles that were taken out
of the table by their names. Without logging the database has no savepoints, and the stack is
that of the names only. -/
structure TxSession where
  logging : Bool
  tx : TxState
  stack : Stack String := Stack.empty
  released : List Nat := []

structure SavepointAnswer where
  reply : Reply
  passed : Option Nat := none

def Reply.isOk : Reply → Bool
  | .ok _ => true
  | _ => false

def unknownSavepoint (name : String) : Reply :=
  invalidParams ("unknown savepoint `" ++ name ++ "`")

namespace TxSession

variable (session : TxSession)

/-- The handle in the table. A name without logging has none. -/
def handleOf (name : String) : Option Nat := (session.tx.savepoints.lookup name).join

def handleTxSavepoint (name : String) : TxSession × SavepointAnswer :=
  let handle := if session.logging then some session.stack.next else none
  ({ session with
      tx := { session.tx with savepoints := session.tx.savepoints.insert name handle }
      stack := session.stack.set name },
    { reply := .ok .null })

def handleTxRollback (toSavepoint : String) : TxSession × SavepointAnswer :=
  match session.handleOf toSavepoint with
  | none => (session, { reply := unknownSavepoint toSavepoint })
  | some handle =>
    if session.logging then
      if session.stack.isLive handle then
        ({ session with stack := session.stack.rollbackTo handle },
          { reply := .ok .null, passed := some handle })
      else (session, { reply := .thrown, passed := some handle })
    else (session, { reply := .ok .null })

/-- The name is taken out of the table in any case. -/
def handleTxRelease (name : String) : TxSession × SavepointAnswer :=
  let removed := { session with
    tx := { session.tx with savepoints := session.tx.savepoints.erase name }
    released := (session.handleOf name).toList ++ session.released }
  match session.handleOf name with
  | none => (removed, { reply := unknownSavepoint name })
  | some handle =>
    if session.logging then
      if session.stack.isLive handle then
        ({ removed with stack := session.stack.release handle },
          { reply := .ok .null, passed := some handle })
      else (removed, { reply := .thrown, passed := some handle })
    else (removed, { reply := .ok .null })

end TxSession

def savepointMachine : Machine TxSession SavepointRequest SavepointAnswer where
  step session request :=
    match request with
    | .savepoint name => session.handleTxSavepoint name
    | .rollback toSavepoint => session.handleTxRollback toSavepoint
    | .release name => session.handleTxRelease name

/-- A transaction that has just begun. -/
def TxSession.begun (logging : Bool) (connId : Nat) : TxSession where
  logging := logging
  tx := { connId := connId }

/-! ## What the stack says -/

def SavepointRequest.onStack (stack : Stack String) : SavepointRequest → Prop
  | .savepoint _ => True
  | .rollback name | .release name => ∃ point ∈ stack.live, point.name = name

def SavepointRequest.moved (stack : Stack String) :
    SavepointRequest → List (Savepoint String)
  | .savepoint name => ⟨name, stack.next⟩ :: stack.live
  | .rollback name =>
    if (named name stack.live).isSome then fromName name stack.live else stack.live
  | .release name =>
    if (named name stack.live).isSome then (fromName name stack.live).tail else stack.live

/-- A request is accepted as the stack says, moves the stack so, and gives JDBC a savepoint that
is on it. -/
structure Follows (session : TxSession) (request : SavepointRequest) : Prop where
  accepted : (savepointMachine.step session request).2.reply.isOk = true ↔
    request.onStack session.stack
  moves : (savepointMachine.step session request).1.stack.live = request.moved session.stack
  live : ∀ handle ∈ (savepointMachine.step session request).2.passed,
    session.stack.isLive handle = true

/-- The innermost savepoint of the name is the newest one of it, in a database with logging. If
none is on the stack, the newest was released by its name or there is no logging. -/
def Unshadowed (session : TxSession) (name : String) : Prop :=
  match named name session.stack.live with
  | some point => session.logging = true ∧ named name session.stack.taken = some point
  | none => session.logging = true →
      ∀ point, named name session.stack.taken = some point → point.handle ∈ session.released

def TxSession.newest (session : TxSession) (name : String) : Option Nat :=
  ((named name session.stack.taken).map (·.handle)).filter (· ∉ session.released)

structure Recorded (session : TxSession) : Prop where
  found : ∀ name, session.handleOf name = if session.logging then session.newest name else none
  apart : ∀ point ∈ session.stack.live, point.handle ∉ session.released
  known : ∀ handle ∈ session.released, handle < session.stack.next

variable {session : TxSession} {name : String} {handle : Nat}

theorem newest_eq {point : Savepoint String}
    (newest : named name session.stack.taken = some point) :
    session.newest name = if point.handle ∈ session.released then none else some point.handle := by
  rw [TxSession.newest, newest, Option.map_some, Option.filter_some]
  by_cases known : point.handle ∈ session.released <;> simp [known]

theorem handleOf_some (recorded : Recorded session) (found : session.handleOf name = some handle) :
    session.logging = true ∧ handle ∉ session.released ∧
      ∃ point, named name session.stack.taken = some point ∧ point.handle = handle := by
  rw [recorded.found name] at found
  split at found
  · rename_i logging
    rw [TxSession.newest, Option.filter_eq_some_iff, Option.map_eq_some_iff] at found
    exact ⟨logging, of_decide_eq_true found.2, found.1⟩
  · cases found

/-- What is in the table under a name: nothing, the innermost savepoint of the name, or one that
is not on the stack any more. -/
inductive InTable (session : TxSession) (name : String) : Prop where
  | absent (found : session.handleOf name = none)
      (current : Unshadowed session name ↔ named name session.stack.live = none)
  | innermost (point : Savepoint String) (found : session.handleOf name = some point.handle)
      (logging : session.logging = true) (live : session.stack.isLive point.handle = true)
      (top : named name session.stack.live = some point) (current : Unshadowed session name)
  | dead (handle : Nat) (found : session.handleOf name = some handle)
      (logging : session.logging = true) (gone : session.stack.isLive handle = false)
      (shadowed : ¬Unshadowed session name)

theorem Recorded.inTable (recorded : Recorded session) (name : String) : InTable session name := by
  cases found : session.handleOf name with
  | none =>
    refine .absent found ?_
    have table := recorded.found name
    rw [found] at table
    rw [Unshadowed]
    cases top : named name session.stack.live with
    | none =>
      refine iff_of_true (fun logging point newest => ?_) rfl
      rw [if_pos logging, newest_eq newest] at table
      by_contra kept
      rw [if_neg kept] at table
      cases table
    | some point =>
      refine iff_of_false ?_ (by simp)
      rintro ⟨logging, newest⟩
      have kept := recorded.apart point (named_mem top).1
      rw [if_pos logging, newest_eq newest, if_neg kept] at table
      cases table
  | some handle =>
    obtain ⟨logging, kept, point, newest, rfl⟩ := handleOf_some recorded found
    cases live : session.stack.isLive point.handle with
    | true =>
      obtain ⟨other, among, same⟩ := session.stack.isLive_iff.mp live
      obtain rfl := session.stack.handle_injective (session.stack.within.subset among)
        (named_mem newest).1 same
      have top := session.stack.named_live newest among
      refine .innermost other found logging live top ?_
      rw [Unshadowed, top]
      exact ⟨logging, newest⟩
    | false =>
      refine .dead point.handle found logging live ?_
      rw [Unshadowed]
      cases top : named name session.stack.live with
      | none => exact fun current => kept (current logging point newest)
      | some other =>
        rintro ⟨_, same⟩
        obtain rfl := Option.some.inj (newest.symm.trans same)
        have still := session.stack.isLive_iff.mpr ⟨point, (named_mem top).1, rfl⟩
        rw [live] at still
        cases still

/-! ## Requests -/

end Onetcli.JavaIpc
