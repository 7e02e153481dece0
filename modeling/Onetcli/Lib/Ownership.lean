import Mathlib.Order.Nat
import Onetcli.Lib.Runs
import Onetcli.Lib.Tables

/-!
A ledger of parents and the children they own. Parents are numbered by one
counter; a child of some kind gets the name that `mint` makes from the counter
of its kind. Releasing parents must take all their children along, and nothing
is ever owned by a parent that is not there. Names come from counters that only
grow, so no name is issued twice in any run.
-/

namespace Onetcli.Ownership

open Runs

variable {Kind Name : Type}

structure Ledger (Kind Name : Type) where
  parents : Nat → Prop
  nextParent : Nat
  owner : Kind → Name → Option Nat
  next : Kind → Nat

/-- What a step hands to the client. -/
inductive Issue (Kind Name : Type) where
  | parent (number : Nat)
  | child (kind : Kind) (name : Name)

/-- A release drops the parents in `closing`, all of their children and perhaps
more children; opening takes the next counter value. -/
inductive Step (mint : Kind → Nat → Name) :
    Ledger Kind Name → Option (Issue Kind Name) → Ledger Kind Name → Prop where
  | release {before after} (closing : Nat → Prop)
      (parents : ∀ parent, after.parents parent ↔ before.parents parent ∧ ¬ closing parent)
      (kept : ∀ kind name parent, after.owner kind name = some parent →
        before.owner kind name = some parent ∧ ¬ closing parent)
      (nextParent : after.nextParent = before.nextParent)
      (next : after.next = before.next) : Step mint before none after
  | openParent {before after}
      (parents : ∀ parent, after.parents parent ↔
        before.parents parent ∨ parent = before.nextParent)
      (nextParent : after.nextParent = before.nextParent + 1)
      (owner : after.owner = before.owner)
      (next : after.next = before.next) :
      Step mint before (some (.parent before.nextParent)) after
  | openChild {before after} (kind : Kind) (parent : Nat) (present : before.parents parent)
      (parents : after.parents = before.parents)
      (nextParent : after.nextParent = before.nextParent)
      (added : ∀ other name owner, after.owner other name = some owner →
        before.owner other name = some owner ∨
          other = kind ∧ name = mint kind (before.next kind) ∧ owner = parent)
      (advanced : after.next kind = before.next kind + 1)
      (others : ∀ other, other ≠ kind → after.next other = before.next other) :
      Step mint before (some (.child kind (mint kind (before.next kind)))) after

structure Valid (mint : Kind → Nat → Name) (ledger : Ledger Kind Name) : Prop where
  owned : ∀ kind name parent, ledger.owner kind name = some parent → ledger.parents parent
  bounded : ∀ parent, ledger.parents parent → parent < ledger.nextParent
  minted : ∀ kind name parent, ledger.owner kind name = some parent →
    ∃ number < ledger.next kind, name = mint kind number

variable {mint : Kind → Nat → Name}

variable {before after : Ledger Kind Name}

theorem step_next_le {issue : Option (Issue Kind Name)} (step : Step mint before issue after) :
    before.nextParent ≤ after.nextParent ∧ ∀ kind, before.next kind ≤ after.next kind := by
  cases step with
  | release closing parents kept nextParent next => simp [nextParent, next]
  | openParent parents nextParent owner next => simp [nextParent, next]
  | openChild kind parent present parents nextParent added advanced others =>
    refine ⟨by omega, fun other => ?_⟩
    by_cases same : other = kind
    · subst other
      omega
    · exact (others other same).ge

theorem step_valid {issue : Option (Issue Kind Name)}
    (step : Step mint before issue after) (valid : Valid mint before) : Valid mint after := by
  have grows := (step_next_le step).2
  cases step with
  | release closing parents kept nextParent next =>
    constructor
    · intro kind name parent child
      obtain ⟨old, stays⟩ := kept kind name parent child
      exact (parents parent).mpr ⟨valid.owned kind name parent old, stays⟩
    · intro parent present
      rw [nextParent]
      exact valid.bounded parent ((parents parent).mp present).1
    · intro kind name parent child
      rw [next]
      exact valid.minted kind name parent (kept kind name parent child).1
  | openParent parents nextParent owner next =>
    constructor
    · intro kind name parent child
      rw [owner] at child
      exact (parents parent).mpr (Or.inl (valid.owned kind name parent child))
    · intro parent present
      rw [nextParent]
      rcases (parents parent).mp present with old | new
      · exact Nat.lt_succ_of_lt (valid.bounded parent old)
      · omega
    · intro kind name parent child
      rw [owner] at child
      rw [next]
      exact valid.minted kind name parent child
  | openChild kind parent present parents nextParent added advanced others =>
    constructor
    · intro other name owner child
      rw [parents]
      rcases added other name owner child with old | ⟨_, _, rfl⟩
      · exact valid.owned other name owner old
      · exact present
    · intro owner member
      rw [parents] at member
      rw [nextParent]
      exact valid.bounded owner member
    · intro other name owner child
      rcases added other name owner child with old | ⟨rfl, rfl, _⟩
      · obtain ⟨number, bound, named⟩ := valid.minted other name owner old
        exact ⟨number, bound.trans_le (grows other), named⟩
      · exact ⟨before.next other, by omega, rfl⟩

/-- The counter range from which an issue was taken. -/
def Issue.Between (mint : Kind → Nat → Name) (before after : Ledger Kind Name) :
    Issue Kind Name → Prop
  | .parent number => before.nextParent ≤ number ∧ number < after.nextParent
  | .child kind name => ∃ number, before.next kind ≤ number ∧ number < after.next kind ∧
      name = mint kind number

theorem step_issue_between {issue : Issue Kind Name}
    (step : Step mint before (some issue) after) : issue.Between mint before after := by
  cases step with
  | openParent parents nextParent owner next => exact ⟨Nat.le_refl _, by omega⟩
  | openChild kind parent present parents nextParent added advanced others =>
    exact ⟨before.next kind, Nat.le_refl _, by omega, rfl⟩

variable {issues : List (Issue Kind Name)}

theorem path_next_le (path : Path (Step mint) before issues after) :
    before.nextParent ≤ after.nextParent ∧ ∀ kind, before.next kind ≤ after.next kind := by
  induction path with
  | refl state => simp
  | silent head _ ih | event _ head _ ih =>
    have here := step_next_le head
    exact ⟨here.1.trans ih.1, fun kind => (here.2 kind).trans (ih.2 kind)⟩

theorem path_valid (path : Path (Step mint) before issues after) (valid : Valid mint before) :
    Valid mint after := by
  induction path with
  | refl state => exact valid
  | silent head _ ih | event _ head _ ih => exact ih (step_valid head valid)

theorem path_issues_between (path : Path (Step mint) before issues after) :
    ∀ issue ∈ issues, issue.Between mint before after := by
  induction path with
  | refl state => simp
  | silent head tail ih =>
    intro issue member
    have here := step_next_le head
    cases issue with
    | parent number =>
      have later := ih _ member
      exact ⟨here.1.trans later.1, later.2⟩
    | child kind name =>
      obtain ⟨number, lower, upper, named⟩ := ih _ member
      exact ⟨number, (here.2 kind).trans lower, upper, named⟩
  | event label head tail ih =>
    intro issue member
    have here := step_next_le head
    have rest := path_next_le tail
    rcases List.mem_cons.mp member with rfl | later
    · have first := step_issue_between head
      cases issue with
      | parent number => exact ⟨first.1, first.2.trans_le rest.1⟩
      | child kind name =>
        obtain ⟨number, lower, upper, named⟩ := first
        exact ⟨number, lower, upper.trans_le (rest.2 kind), named⟩
    · have found := ih _ later
      cases issue with
      | parent number => exact ⟨here.1.trans found.1, found.2⟩
      | child kind name =>
        obtain ⟨number, lower, upper, named⟩ := found
        exact ⟨number, (here.2 kind).trans lower, upper, named⟩

theorem path_issues_nodup (injective : ∀ kind, Function.Injective (mint kind))
    (path : Path (Step mint) before issues after) : issues.Nodup := by
  induction path with
  | refl state => exact List.nodup_nil
  | silent head tail ih => exact ih
  | event label head tail ih =>
    refine List.nodup_cons.mpr ⟨fun again => ?_, ih⟩
    have first := step_issue_between head
    have later := path_issues_between tail label again
    -- The first range ends where the second begins.
    cases label with
    | parent number => exact absurd (first.2.trans_le later.1) (Nat.lt_irrefl _)
    | child kind name =>
      obtain ⟨number, _, upper, named⟩ := first
      obtain ⟨second, lower, _, renamed⟩ := later
      have same : number = second := injective kind (named.symm.trans renamed)
      omega

end Onetcli.Ownership

/-!
Tables that refer to each other. The entries of an owned table belong to keys of another one, and
two tables are inverse when each leads back to where the other came from. The rules say which
updates keep this.
-/

namespace Onetcli.Owners

open Tables

variable {Key Value Owner Data : Type} [DecidableEq Key]

/-- The entries that are kept, as `retain` leaves them. -/
def retain (keep : Value → Bool) (table : Table Key Value) : Table Key Value :=
  (sweep (fun value => !keep value) (fun _ _ acc => acc) table.keys table ()).1

theorem lookup_retain (keep : Value → Bool) (table : Table Key Value) (wanted : Key) :
    (retain keep table).lookup wanted = (table.lookup wanted).filter keep := by
  rw [retain, sweep_lookup_covered _ _ _ _ _ (List.Perm.refl _)]
  congr 1
  funext value
  exact Bool.not_not _

/-! ## Owners -/

def Owned (owner : Value → Owner) (owners : Table Owner Data) (table : Table Key Value) : Prop :=
  ∀ key value, table.lookup key = some value → owner value ∈ owners

section Owned

variable {owner : Value → Owner} {owners more : Table Owner Data} {table : Table Key Value}

theorem owned_empty : Owned owner owners (∅ : Table Key Value) := by
  intro key value found
  simp at found

theorem Owned.insert (owned : Owned owner owners table) {value : Value}
    (present : owner value ∈ owners) (key : Key) : Owned owner owners (table.insert key value) := by
  intro other entry found
  rw [lookup_insert_if] at found
  split at found
  · cases found
    exact present
  · exact owned other entry found

theorem Owned.erase (owned : Owned owner owners table) (key : Key) :
    Owned owner owners (table.erase key) := by
  intro other entry found
  rw [lookup_erase_if] at found
  split at found
  · cases found
  · exact owned other entry found

theorem Owned.mono (owned : Owned owner owners table) (grown : ∀ id ∈ owners, id ∈ more) :
    Owned owner more table :=
  fun key value found => grown _ (owned key value found)

variable [DecidableEq Owner]

theorem Owned.close (owned : Owned owner owners table) {id : Owner}
    (none : ∀ key value, table.lookup key = some value → owner value ≠ id) :
    Owned owner (owners.erase id) table :=
  fun key value found => AList.mem_erase.2 ⟨none key value found, owned key value found⟩

theorem Owned.retain (owned : Owned owner owners table) (id : Owner) :
    Owned owner (owners.erase id) (retain (fun value => owner value != id) table) := by
  intro key value found
  rw [lookup_retain, Option.filter_eq_some_iff] at found
  refine AList.mem_erase.2 ⟨?_, owned key value found.1⟩
  simpa using found.2

end Owned

/-! ## Inverse tables -/

def Inverse [DecidableEq Owner] (forward : Table Key Owner) (backward : Table Owner Key) : Prop :=
  ∀ key value, forward.lookup key = some value ↔ backward.lookup value = some key

section Inverse

variable [DecidableEq Owner] {forward : Table Key Owner} {backward : Table Owner Key}

theorem inverse_empty : Inverse (∅ : Table Key Owner) (∅ : Table Owner Key) := by
  intro key value
  simp

theorem Inverse.injective (inverse : Inverse forward backward) {first second : Key} {value : Owner}
    (one : forward.lookup first = some value) (two : forward.lookup second = some value) :
    first = second :=
  Option.some.inj (((inverse _ _).1 one).symm.trans ((inverse _ _).1 two))

theorem Inverse.insert (inverse : Inverse forward backward) {key : Key} {value : Owner}
    (fresh : key ∉ forward) (free : value ∉ backward) :
    Inverse (forward.insert key value) (backward.insert value key) := by
  intro other entry
  rw [lookup_insert_if, lookup_insert_if]
  by_cases sameKey : other = key
  · subst sameKey
    by_cases sameValue : entry = value
    · simp [sameValue]
    · have elsewhere : backward.lookup entry ≠ some other :=
        fun found => fresh (mem_of_lookup ((inverse _ _).2 found))
      simp [sameValue, Ne.symm sameValue, elsewhere]
  · by_cases sameValue : entry = value
    · subst sameValue
      have elsewhere : forward.lookup other ≠ some entry :=
        fun found => free (mem_of_lookup ((inverse _ _).1 found))
      simp [sameKey, Ne.symm sameKey, elsewhere]
    · simp only [sameKey, sameValue, if_false]
      exact inverse other entry

theorem Inverse.erase (inverse : Inverse forward backward) {key : Key} {value : Owner}
    (found : forward.lookup key = some value) :
    Inverse (forward.erase key) (backward.erase value) := by
  intro other entry
  rw [lookup_erase_if, lookup_erase_if]
  by_cases sameKey : other = key
  · subst sameKey
    by_cases sameValue : entry = value
    · simp [sameValue]
    · have elsewhere : backward.lookup entry ≠ some other :=
        fun back => sameValue (Option.some.inj (((inverse _ _).2 back).symm.trans found))
      simp [sameValue, elsewhere]
  · by_cases sameValue : entry = value
    · subst sameValue
      have elsewhere : forward.lookup other ≠ some entry :=
        fun forth => sameKey (inverse.injective forth found)
      simp [sameKey, elsewhere]
    · simp only [sameKey, sameValue, if_false]
      exact inverse other entry

theorem Inverse.erase_absent (inverse : Inverse forward backward) {value : Owner}
    (absent : backward.lookup value = none) : Inverse forward (backward.erase value) := by
  intro other entry
  rw [lookup_erase_if, inverse]
  by_cases same : entry = value
  · subst same
    simp [absent]
  · simp [same]

end Inverse

end Onetcli.Owners
