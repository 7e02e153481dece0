import Mathlib.Data.List.Nodup

/-!
Savepoints as a database has them: a stack, from which rolling back to a savepoint takes
those above it and releasing one takes it as well. A name that is used again shadows the
older savepoint. Each savepoint has a handle, so one that was given up can be told from
another of its name.
-/

namespace Onetcli.Savepoints

structure Savepoint (Name : Type) where
  name : Name
  handle : Nat

/-- The savepoints that were set and those of them that are on the stack, the newest first. -/
structure Stack (Name : Type) where
  taken : List (Savepoint Name)
  live : List (Savepoint Name)
  within : live.Sublist taken
  ordered : taken.Pairwise fun newer older => older.handle < newer.handle
  numbered : ∀ point ∈ taken, point.handle < taken.length

variable {Name : Type}

namespace Stack

def empty : Stack Name :=
  ⟨[], [], List.Sublist.refl _, List.Pairwise.nil, fun _ member => absurd member List.not_mem_nil⟩

variable (stack : Stack Name) (handle : Nat)

def next : Nat := stack.taken.length

def isLive : Bool := stack.live.any fun point => point.handle = handle

def set (name : Name) : Stack Name where
  taken := ⟨name, stack.next⟩ :: stack.taken
  live := ⟨name, stack.next⟩ :: stack.live
  within := stack.within.cons_cons _
  ordered := List.pairwise_cons.mpr ⟨stack.numbered, stack.ordered⟩
  numbered := List.forall_mem_cons.mpr
    ⟨Nat.lt_succ_self _, fun point member => Nat.lt_succ_of_lt (stack.numbered point member)⟩

def rollbackTo : Stack Name :=
  { stack with
    live := stack.live.dropWhile fun point => point.handle ≠ handle
    within := (List.dropWhile_sublist _).trans stack.within }

def release : Stack Name :=
  { stack with
    live := (stack.live.dropWhile fun point => point.handle ≠ handle).tail
    within := (List.tail_sublist _).trans ((List.dropWhile_sublist _).trans stack.within) }

end Stack

/-! ## Names -/

section Names

variable [DecidableEq Name] (name : Name)

def named (points : List (Savepoint Name)) : Option (Savepoint Name) :=
  points.find? fun point => point.name = name

def fromName (points : List (Savepoint Name)) : List (Savepoint Name) :=
  points.dropWhile fun point => point.name ≠ name

variable {name} {point : Savepoint Name} {points others : List (Savepoint Name)}

theorem named_mem (found : named name points = some point) :
    point ∈ points ∧ point.name = name := by
  refine ⟨List.mem_of_find?_eq_some found, ?_⟩
  simpa using List.find?_some found

theorem named_sublist (fewer : points.Sublist others) (nodup : others.Nodup)
    (found : named name others = some point) (among : point ∈ points) :
    named name points = some point := by
  induction fewer with
  | slnil => exact found
  | @cons fewer more first rest ih =>
    rw [named, List.find?_cons] at found
    split at found
    · obtain rfl := Option.some.inj found
      exact absurd (rest.subset among) (List.nodup_cons.mp nodup).1
    · exact ih (List.nodup_cons.mp nodup).2 found among
  | @cons_cons fewer more first rest ih =>
    rw [named, List.find?_cons] at found ⊢
    split at found
    · exact found
    · rename_i other
      refine ih (List.nodup_cons.mp nodup).2 found ((List.mem_cons.mp among).resolve_left ?_)
      rintro rfl
      exact absurd (List.find?_some found) (other ▸ Bool.false_ne_true)

end Names

/-! ## Handles -/

namespace Stack

variable (stack : Stack Name) {first second point : Savepoint Name} {handle : Nat}

theorem handles_nodup : (stack.taken.map (·.handle)).Nodup :=
  List.pairwise_map.mpr (stack.ordered.imp fun newer => (Nat.ne_of_lt newer).symm)

theorem handle_injective (one : first ∈ stack.taken) (other : second ∈ stack.taken)
    (same : first.handle = second.handle) : first = second :=
  List.inj_on_of_nodup_map stack.handles_nodup one other same

theorem isLive_iff : stack.isLive handle = true ↔ ∃ point ∈ stack.live, point.handle = handle := by
  rw [isLive, List.any_eq_true]
  simp only [decide_eq_true_eq]

theorem named_live [DecidableEq Name] {name : Name} (newest : named name stack.taken = some point)
    (live : point ∈ stack.live) : named name stack.live = some point :=
  named_sublist stack.within (List.Nodup.of_map _ stack.handles_nodup) newest live

end Stack

end Onetcli.Savepoints
