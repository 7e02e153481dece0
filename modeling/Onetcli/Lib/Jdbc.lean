import Mathlib.Data.List.Basic

/-!
A connection as JDBC has it: the auto-commit flag and the work that is not committed.
What becomes permanent, and what is left when a connection is closed, are events.
-/

namespace Onetcli.Jdbc

/-- `initial` is the flag with which the connection was opened. -/
structure Connection (Work : Type) where
  initial : Bool
  autoCommit : Bool
  uncommitted : List Work := []

inductive Event (Work : Type) where
  | persisted (work : Work)
  | closed (left : List Work)

namespace Connection

variable {Work : Type} (connection : Connection Work)

def execute (work : Work) : Connection Work × List (Event Work) :=
  if connection.autoCommit then (connection, [.persisted work])
  else ({ connection with uncommitted := connection.uncommitted ++ [work] }, [])

def commit : Connection Work × List (Event Work) :=
  ({ connection with uncommitted := [] }, connection.uncommitted.map .persisted)

def rollback : Connection Work := { connection with uncommitted := [] }

/-- Back to a savepoint, where so many pieces of work had been done. -/
def rollbackTo (mark : Nat) : Connection Work :=
  { connection with uncommitted := connection.uncommitted.take mark }

def setAutoCommit (flag : Bool) : Connection Work × List (Event Work) :=
  if flag then
    ({ connection with autoCommit := true, uncommitted := [] },
      connection.uncommitted.map .persisted)
  else ({ connection with autoCommit := false }, [])

/-- Whether closing commits is up to the driver. -/
def close (commits : Bool) : List (Event Work) :=
  .closed connection.uncommitted ::
    if commits then connection.uncommitted.map .persisted else []

/-! ## What the calls change -/

@[simp] theorem execute_initial (work : Work) :
    (connection.execute work).1.initial = connection.initial := by
  unfold execute
  split <;> rfl

@[simp] theorem execute_autoCommit (work : Work) :
    (connection.execute work).1.autoCommit = connection.autoCommit := by
  unfold execute
  split <;> rfl

@[simp] theorem setAutoCommit_initial (flag : Bool) :
    (connection.setAutoCommit flag).1.initial = connection.initial := by
  cases flag <;> rfl

@[simp] theorem setAutoCommit_autoCommit (flag : Bool) :
    (connection.setAutoCommit flag).1.autoCommit = flag := by
  cases flag <;> rfl

theorem mem_setAutoCommit {flag : Bool} {work : Work}
    (member : work ∈ (connection.setAutoCommit flag).1.uncommitted) :
    work ∈ connection.uncommitted := by
  cases flag with
  | true => cases member
  | false => exact member

theorem setAutoCommit_silent (flag : Bool) (nothing : connection.uncommitted = []) :
    (connection.setAutoCommit flag).2 = [] := by
  cases flag with
  | true => simp [setAutoCommit, nothing]
  | false => rfl

theorem mem_execute {work other : Work} (member : other ∈ (connection.execute work).1.uncommitted) :
    other ∈ connection.uncommitted ∨ other = work := by
  unfold execute at member
  split at member
  · exact Or.inl member
  · simpa using member

end Connection

end Onetcli.Jdbc
