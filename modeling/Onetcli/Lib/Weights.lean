import Mathlib
import Onetcli.Lib.Tables

/-!
The total size of the entries of a finite map, for tables under a budget. With every entry of
size one it is the number of entries.
-/

namespace Onetcli.Tables

variable {Key Value Acc : Type}

def weight (size : Value → Nat) (table : Table Key Value) : Nat :=
  (table.entries.map fun entry => size entry.2).sum

variable (size : Value → Nat) (table : Table Key Value) {key : Key} {value : Value}

theorem length_eq_weight : table.entries.length = weight (fun _ => 1) table := by
  simp [weight]

def mapValues (change : Value → Value) (table : Table Key Value) : Table Key Value where
  entries := table.entries.map fun entry => ⟨entry.1, change entry.2⟩
  nodupKeys := by
    have same : (table.entries.map fun entry : (_ : Key) × Value =>
        (⟨entry.1, change entry.2⟩ : (_ : Key) × Value)).keys = table.entries.keys := by
      simp [List.keys, Function.comp_def]
    rw [List.NodupKeys, same]
    exact table.nodupKeys

theorem length_mapValues (change : Value → Value) :
    (mapValues change table).entries.length = table.entries.length :=
  List.length_map _

section Lookup

variable [DecidableEq Key]

theorem lookup_mapValues (change : Value → Value) (key : Key) :
    (mapValues change table).lookup key = (table.lookup key).map change := by
  rcases table with ⟨entries, nodup⟩
  simp only [mapValues, AList.lookup]
  induction entries with
  | nil => rfl
  | cons entry rest ih =>
    rcases entry with ⟨here, stored⟩
    rw [List.map_cons]
    by_cases same : key = here
    · subst same
      rw [List.dlookup_cons_eq, List.dlookup_cons_eq]
      rfl
    · rw [List.dlookup_cons_ne _ _ same, List.dlookup_cons_ne _ _ same]
      exact ih (List.nodupKeys_cons.mp nodup).2

theorem weight_insert (key : Key) (value : Value) :
    weight size (table.insert key value) = size value + weight size (table.erase key) := by
  rw [weight, AList.entries_insert, List.map_cons, List.sum_cons]
  rfl

theorem weight_of_lookup (found : table.lookup key = some value) :
    weight size table = size value + weight size (table.erase key) := by
  rcases table with ⟨entries, nodup⟩
  simp only [weight, AList.lookup, AList.erase] at found ⊢
  induction entries with
  | nil => cases found
  | cons entry rest ih =>
    rcases entry with ⟨here, stored⟩
    by_cases same : key = here
    · subst same
      rw [List.dlookup_cons_eq] at found
      obtain rfl := Option.some.inj found
      have gone : List.kerase key (⟨key, stored⟩ :: rest) = rest := List.kerase_cons_eq rfl
      rw [gone, List.map_cons, List.sum_cons]
    · rw [List.dlookup_cons_ne _ _ same] at found
      have tail := ih (List.nodupKeys_cons.mp nodup).2 found
      rw [List.kerase_cons_ne same, List.map_cons, List.map_cons, List.sum_cons, List.sum_cons]
      omega

theorem weight_erase_le (key : Key) : weight size (table.erase key) ≤ weight size table := by
  cases found : table.lookup key with
  | none =>
    have absent : key ∉ table := fun present => by
      obtain ⟨value, there⟩ := lookup_of_mem present
      rw [found] at there
      cases there
    have same : table.erase key = table := by
      apply AList.ext
      exact List.kerase_of_notMem_keys absent
    rw [same]
  | some value =>
    rw [weight_of_lookup size table found]
    exact Nat.le_add_left _ _

theorem weight_replace_le (found : table.lookup key = some value) {other : Value}
    (smaller : size other ≤ size value) :
    weight size (table.insert key other) ≤ weight size table := by
  rw [weight_insert, weight_of_lookup size table found]
  exact Nat.add_le_add_right smaller _

theorem weight_insert_le (key : Key) (value : Value) :
    weight size (table.insert key value) ≤ size value + weight size table := by
  rw [weight_insert]
  exact Nat.add_le_add_left (weight_erase_le size table key) _

theorem weight_sweep_le (doomed : Value → Bool) (visit : Key → Value → Acc → Acc)
    (order : List Key) (acc : Acc) :
    weight size (sweep doomed visit order table acc).1 ≤ weight size table := by
  induction order generalizing table acc with
  | nil => exact Nat.le_refl _
  | cons key rest ih =>
    unfold sweep
    cases table.lookup key with
    | none => exact ih table acc
    | some value =>
      dsimp only
      split
      · exact Nat.le_trans (ih _ _) (weight_erase_le size table key)
      · exact ih table acc

end Lookup

end Onetcli.Tables
