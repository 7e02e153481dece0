import Mathlib.Data.List.Basic

/-!
A database as one value that statements transform, with at most one transaction:
BEGIN keeps the value that ROLLBACK brings back. A scripted store also counts the
statements it has been given; which of them succeed is decided by their position
in a script.
-/

namespace Onetcli.ValueStore

variable {Value Statement : Type}

structure Store (Value : Type) where
  current : Value
  saved : Option Value := none

structure Scripted (Value : Type) where
  store : Store Value
  position : Nat := 0

namespace Scripted

variable (world : Scripted Value)

/-- A store outside of a transaction, before the first statement. -/
def start (value : Value) : Scripted Value where
  store := { current := value }

def begin : Scripted Value :=
  { world with store := ⟨world.store.current, some world.store.current⟩ }

def commit : Scripted Value := { world with store := ⟨world.store.current, none⟩ }

def rollback : Scripted Value :=
  { world with store := ⟨world.store.saved.getD world.store.current, none⟩ }

/-- The next statement of the script. -/
def attempt (succeeds : Bool) (change : Value → Value) : Scripted Value where
  store := if succeeds then { world.store with current := change world.store.current }
    else world.store
  position := world.position + 1

@[simp] theorem attempt_saved (succeeds : Bool) (change : Value → Value) :
    (world.attempt succeeds change).store.saved = world.store.saved := by
  cases succeeds <;> rfl

end Scripted

def applied (effect : Statement → Value → Value) (statements : List Statement) (value : Value) :
    Value :=
  statements.foldl (fun value statement => effect statement value) value

def AllSucceed (succeeds : Nat → Bool) (position : Nat) (statements : List Statement) : Prop :=
  ∀ index < statements.length, succeeds (position + index) = true

instance (succeeds : Nat → Bool) (position : Nat) (statements : List Statement) :
    Decidable (AllSucceed succeeds position statements) :=
  inferInstanceAs (Decidable (∀ index < statements.length, succeeds (position + index) = true))

variable {succeeds : Nat → Bool} {position : Nat} {statement : Statement} {rest : List Statement}

theorem allSucceed_nil : AllSucceed succeeds position ([] : List Statement) := by
  intro index bound
  cases bound

theorem allSucceed_cons : AllSucceed succeeds position (statement :: rest) ↔
      succeeds position = true ∧ AllSucceed succeeds (position + 1) rest := by
  constructor
  · intro all
    refine ⟨all 0 (Nat.succ_pos _), ?_⟩
    intro index bound
    have shifted := all (index + 1) (Nat.succ_lt_succ bound)
    rwa [Nat.add_assoc, Nat.add_comm 1 index]
  · rintro ⟨first, later⟩ index bound
    cases index with
    | zero => exact first
    | succ index =>
      have shifted := later index (Nat.lt_of_succ_lt_succ bound)
      rwa [Nat.add_assoc, Nat.add_comm 1 index] at shifted

/-- The statements before the first failure. -/
def succeeding (succeeds : Nat → Bool) : Nat → List Statement → List Statement
  | _, [] => []
  | position, statement :: rest =>
    if succeeds position then statement :: succeeding succeeds (position + 1) rest else []

theorem succeeding_of_allSucceed {statements : List Statement}
    (all : AllSucceed succeeds position statements) :
    succeeding succeeds position statements = statements := by
  induction statements generalizing position with
  | nil => rfl
  | cons statement rest ih =>
    obtain ⟨first, later⟩ := allSucceed_cons.mp all
    simp [succeeding, first, ih later]

theorem succeeding_eq_nil {statements : List Statement} :
    succeeding succeeds position statements = [] ↔ statements = [] ∨ succeeds position = false := by
  cases statements with
  | nil => simp [succeeding]
  | cons statement rest =>
    cases first : succeeds position <;> simp [succeeding, first]

/-- A batch is all or nothing: every statement took effect when none failed, and
nothing happened otherwise. No transaction is left open. -/
def AllOrNothing (effect : Statement → Value → Value) (succeeds : Nat → Bool)
    (statements : List Statement) (value : Value) (after : Scripted Value) : Prop :=
  after.store =
    { current := if AllSucceed succeeds 0 statements then applied effect statements value
        else value }

/-- What a loop over the statements of a transaction has to keep: the saved value,
whether it met a failure, and, without one, the effect of every statement. -/
structure Followed (effect : Statement → Value → Value) (succeeds : Nat → Bool)
    (statements : List Statement) (before after : Scripted Value) (clean : Prop) : Prop where
  saved : after.store.saved = before.store.saved
  reported : clean ↔ AllSucceed succeeds before.position statements
  effects : clean → after.store.current = applied effect statements before.store.current

section Loop

variable {effect : Statement → Value → Value} {before after : Scripted Value} {clean : Prop}

theorem followed_nil : Followed effect succeeds [] before before True where
  saved := rfl
  reported := iff_of_true trivial allSucceed_nil
  effects := fun _ => rfl

theorem Followed.succeeded (success : succeeds before.position = true)
    (tail : Followed effect succeeds rest (before.attempt true (effect statement)) after clean) :
    Followed effect succeeds (statement :: rest) before after clean where
  saved := tail.saved
  reported := by
    rw [tail.reported, allSucceed_cons]
    exact ⟨fun later => ⟨success, later⟩, And.right⟩
  effects := tail.effects

theorem Followed.failed (failure : succeeds before.position = false)
    (saved : after.store.saved = before.store.saved) :
    Followed effect succeeds (statement :: rest) before after False where
  saved := saved
  reported := by
    rw [allSucceed_cons, failure]
    exact ⟨False.elim, fun all => by cases all.1⟩
  effects := False.elim

theorem Followed.allOrNothing {statements : List Statement} {value : Value} [Decidable clean]
    (loop : Followed effect succeeds statements (Scripted.start value).begin after clean) :
    AllOrNothing effect succeeds statements value
      (if clean then after.commit else after.rollback) := by
  have reported : clean ↔ AllSucceed succeeds 0 statements := loop.reported
  unfold AllOrNothing
  by_cases noFailure : clean
  · rw [if_pos noFailure, if_pos (reported.mp noFailure)]
    simp only [Scripted.commit, loop.effects noFailure]
    rfl
  · rw [if_neg noFailure, if_neg fun all => noFailure (reported.mpr all)]
    simp only [Scripted.rollback, loop.saved]
    rfl

end Loop

end Onetcli.ValueStore
