import Mathlib.Data.List.AList
import Onetcli.Lib.Text
import Mathlib.Data.List.Perm.Basic

/-!
Finite maps with unique keys, as the association lists of Mathlib. Lookup after
an update is stated with one conditional, the form in which proofs about a
program's tables use it. `sweep` is the loop that visits the keys in some order
and removes the entries it finds doomed, running an action on each of them.
`Named` tables have keys that were made from a counter.
-/

namespace Onetcli.Tables

variable {Key Value Acc : Type} [DecidableEq Key]

abbrev Table (Key Value : Type) := AList (fun _ : Key => Value)

theorem lookup_insert_if (table : Table Key Value) (key wanted : Key) (value : Value) :
    (table.insert key value).lookup wanted =
      if wanted = key then some value else table.lookup wanted := by
  by_cases same : wanted = key
  · subst wanted
    simp
  · simp [AList.lookup_insert_ne same, same]

theorem lookup_erase_if (table : Table Key Value) (key wanted : Key) :
    (table.erase key).lookup wanted =
      if wanted = key then none else table.lookup wanted := by
  by_cases same : wanted = key
  · subst wanted
    simp
  · simp [AList.lookup_erase_ne same, same]

theorem lookup_insert_cases {table : Table Key Value} {key wanted : Key} {value other : Value}
    (found : (table.insert key value).lookup wanted = some other) :
    wanted = key ∧ other = value ∨ wanted ≠ key ∧ table.lookup wanted = some other := by
  rw [lookup_insert_if] at found
  split at found
  · rename_i same
    exact Or.inl ⟨same, (Option.some.inj found).symm⟩
  · rename_i different
    exact Or.inr ⟨different, found⟩

theorem lookup_erase_cases {table : Table Key Value} {key wanted : Key} {other : Value}
    (found : (table.erase key).lookup wanted = some other) :
    wanted ≠ key ∧ table.lookup wanted = some other := by
  rw [lookup_erase_if] at found
  split at found
  · cases found
  · rename_i different
    exact ⟨different, found⟩

theorem mem_of_lookup {table : Table Key Value} {key : Key} {value : Value}
    (found : table.lookup key = some value) : key ∈ table :=
  AList.lookup_isSome.mp (by simp [found])

theorem lookup_of_mem {table : Table Key Value} {key : Key} (member : key ∈ table) :
    ∃ value, table.lookup key = some value :=
  Option.isSome_iff_exists.mp (AList.lookup_isSome.mpr member)

/-- Visit `order`; an entry that is doomed is handed to `visit` and erased. -/
def sweep (doomed : Value → Bool) (visit : Key → Value → Acc → Acc) :
    List Key → Table Key Value → Acc → Table Key Value × Acc
  | [], table, acc => (table, acc)
  | key :: rest, table, acc =>
    match table.lookup key with
    | some value =>
      if doomed value then sweep doomed visit rest (table.erase key) (visit key value acc)
      else sweep doomed visit rest table acc
    | none => sweep doomed visit rest table acc

theorem sweep_lookup (doomed : Value → Bool) (visit : Key → Value → Acc → Acc)
    (order : List Key) (table : Table Key Value) (acc : Acc) (wanted : Key) :
    (sweep doomed visit order table acc).1.lookup wanted =
      (table.lookup wanted).filter fun value => !(decide (wanted ∈ order) && doomed value) := by
  induction order generalizing table acc with
  | nil => cases found : table.lookup wanted <;> simp [sweep, found, Option.filter_some]
  | cons key rest ih =>
    unfold sweep
    cases found : table.lookup key with
    | none =>
      simp only [ih]
      by_cases same : wanted = key
      · subst wanted
        simp [found]
      · simp [same]
    | some value =>
      by_cases marked : doomed value = true
      · simp only [marked, ↓reduceIte, ih, lookup_erase_if]
        by_cases same : wanted = key
        · subst wanted
          simp [found, marked, Option.filter_some]
        · simp [same]
      · simp only [marked, Bool.false_eq_true, ↓reduceIte, ih]
        by_cases same : wanted = key
        · subst wanted
          simp [found, marked, Option.filter_some]
        · simp [same]

-- When the visited order covers the table, exactly the spared entries stay.
theorem sweep_lookup_covered (doomed : Value → Bool) (visit : Key → Value → Acc → Acc)
    (order : List Key) (table : Table Key Value) (acc : Acc)
    (covered : order.Perm table.keys) (wanted : Key) :
    (sweep doomed visit order table acc).1.lookup wanted =
      (table.lookup wanted).filter fun value => !doomed value := by
  rw [sweep_lookup]
  cases found : table.lookup wanted with
  | none => rfl
  | some value =>
    have visited : wanted ∈ order :=
      covered.mem_iff.mpr (AList.mem_keys.mp (mem_of_lookup found))
    simp [visited]

-- A property of the accumulator survives a sweep when every doomed entry of the table keeps
-- it.
theorem sweep_acc (doomed : Value → Bool) (visit : Key → Value → Acc → Acc)
    (property : Acc → Prop) (order : List Key) (table : Table Key Value) (acc : Acc)
    (kept : ∀ key value acc, table.lookup key = some value → doomed value = true →
      property acc → property (visit key value acc))
    (start : property acc) : property (sweep doomed visit order table acc).2 := by
  induction order generalizing table acc with
  | nil => exact start
  | cons key rest ih =>
    unfold sweep
    cases found : table.lookup key with
    | none => exact ih table acc kept start
    | some value =>
      by_cases marked : doomed value = true
      · simp only [marked, ↓reduceIte]
        apply ih _ _ _ (kept key value acc found marked start)
        intro other entry acc present
        apply kept
        rw [lookup_erase_if] at present
        split at present
        · cases present
        · exact present
      · simp only [marked, Bool.false_eq_true, ↓reduceIte]
        exact ih table acc kept start

def Named (words : String) (next : Nat) (table : Table String Value) : Prop :=
  ∀ key ∈ table, ∃ number < next, key = words ++ toString number

section Named

variable {words key : String} {next : Nat} {table : Table String Value} {value : Value}

theorem named_empty : Named words next (∅ : Table String Value) := by
  intro key present
  exact absurd present (AList.notMem_empty key)

theorem Named.fresh (named : Named words next table) : words ++ toString next ∉ table := by
  intro present
  obtain ⟨number, smaller, same⟩ := named _ present
  have equal : next = number := Text.digits_injective ((String.append_right_inj _).mp same)
  omega

theorem Named.insert_next (named : Named words next table) :
    Named words (next + 1) (table.insert (words ++ toString next) value) := by
  intro key present
  rcases (AList.mem_insert _).mp present with rfl | old
  · exact ⟨next, Nat.lt_succ_self _, rfl⟩
  · obtain ⟨number, smaller, same⟩ := named key old
    exact ⟨number, Nat.lt_succ_of_lt smaller, same⟩

theorem Named.erase (named : Named words next table) : Named words next (table.erase key) := by
  intro other present
  exact named other (AList.mem_erase.mp present).2

theorem Named.replace (named : Named words next table) (present : key ∈ table) :
    Named words next ((table.erase key).insert key value) := by
  intro other changed
  rcases (AList.mem_insert _).mp changed with rfl | old
  · exact named other present
  · exact named.erase other old

end Named

end Onetcli.Tables

/-!
Loops over the entries of a map, which come in some order. What such a loop leaves
in one place depends on the order exactly if two entries put different values there.
-/

namespace Onetcli.MapOrder

/-- The order in which a loop visits the entries of a map: any permutation of them. -/
structure Order (Key Value : Type) where
  visit : List (Key × Value) → List (Key × Value)
  perm : ∀ entries, (visit entries).Perm entries

variable {Key Value Entry Result : Type}

def Order.stored : Order Key Value where
  visit entries := entries
  perm entries := .refl entries

/-- One map in a given order, and any other as it is stored. -/
def Order.only [DecidableEq Key] [DecidableEq Value] (entries order : List (Key × Value))
    (same : order.Perm entries) : Order Key Value where
  visit others := if others = entries then order else others
  perm others := by
    by_cases asked : others = entries
    · simpa [asked] using same
    · simp [asked]

@[simp] theorem Order.visit_only [DecidableEq Key] [DecidableEq Value]
    {entries order : List (Key × Value)} (same : order.Perm entries) :
    (Order.only entries order same).visit entries = order := if_pos rfl

section Agree

variable (read : Entry → Option Result)

/-- The entries that `read` takes a value from all carry the same one. -/
def Agree (entries : List Entry) : Prop :=
  ∀ first ∈ entries, ∀ second ∈ entries, ∀ value other,
    read first = some value → read second = some other → value = other

variable {read} {entries order : List Entry}

theorem Agree.perm (agree : Agree read entries) (same : order.Perm entries) :
    Agree read order := fun first firstIn second secondIn =>
  agree first (same.subset firstIn) second (same.subset secondIn)

theorem Agree.replicate (agree : Agree read entries) {entry : Entry} {value : Result}
    (member : entry ∈ entries) (taken : read entry = some value) :
    entries.filterMap read = List.replicate (entries.filterMap read).length value := by
  refine List.eq_replicate_of_mem fun other present => ?_
  obtain ⟨source, sourceIn, given⟩ := List.mem_filterMap.mp present
  exact agree source sourceIn entry member other value given taken

theorem Agree.filterMap_eq (agree : Agree read entries) (same : order.Perm entries) :
    order.filterMap read = entries.filterMap read := by
  by_cases none : entries.filterMap read = []
  · rw [none, List.filterMap_eq_nil_iff]
    intro entry present
    exact List.filterMap_eq_nil_iff.mp none entry (same.subset present)
  · obtain ⟨value, given⟩ := List.exists_mem_of_ne_nil _ none
    obtain ⟨entry, member, taken⟩ := List.mem_filterMap.mp given
    rw [agree.replicate member taken,
      (agree.perm same).replicate (same.symm.subset member) taken,
      (same.filterMap read).length_eq]

theorem exists_first [DecidableEq Entry] {entry : Entry} {value : Result}
    (member : entry ∈ entries) (taken : read entry = some value) :
    ∃ order : List Entry, order.Perm entries ∧ (order.filterMap read).head? = some value :=
  ⟨entry :: entries.erase entry, (List.perm_cons_erase member).symm, by simp [taken]⟩

theorem exists_last [DecidableEq Entry] {entry : Entry} {value : Result}
    (member : entry ∈ entries) (taken : read entry = some value) :
    ∃ order : List Entry, order.Perm entries ∧ (order.filterMap read).getLast? = some value :=
  ⟨entries.erase entry ++ [entry],
    (List.perm_append_singleton _ _).trans (List.perm_cons_erase member).symm, by simp [taken]⟩

theorem agree_of_first [DecidableEq Entry] (absent : Result) {found : Result}
    (steady : ∀ order : List Entry, order.Perm entries →
      (order.filterMap read).head?.getD absent = found) : Agree read entries := by
  intro first firstIn second secondIn value other taken given
  obtain ⟨orderFirst, permFirst, headFirst⟩ := exists_first firstIn taken
  obtain ⟨orderSecond, permSecond, headSecond⟩ := exists_first secondIn given
  have left := steady _ permFirst
  have right := steady _ permSecond
  rw [headFirst] at left
  rw [headSecond] at right
  exact left.trans right.symm

theorem agree_of_last [DecidableEq Entry] (absent : Result) {found : Result}
    (steady : ∀ order : List Entry, order.Perm entries →
      (order.filterMap read).getLast?.getD absent = found) : Agree read entries := by
  intro first firstIn second secondIn value other taken given
  obtain ⟨orderFirst, permFirst, lastFirst⟩ := exists_last firstIn taken
  obtain ⟨orderSecond, permSecond, lastSecond⟩ := exists_last secondIn given
  have left := steady _ permFirst
  have right := steady _ permSecond
  rw [lastFirst] at left
  rw [lastSecond] at right
  exact left.trans right.symm

end Agree

section Store

open Tables

variable [DecidableEq Key] (write : Entry → Option (Key × Value))

def written (key : Key) (entry : Entry) : Option Value :=
  match write entry with
  | some (place, value) => if place = key then some value else none
  | none => none

/-- One iteration of a loop that writes into a table. -/
def store (table : Table Key Value) (entry : Entry) : Table Key Value :=
  match write entry with
  | some (key, value) => table.insert key value
  | none => table

theorem lookup_store (table : Table Key Value) (entry : Entry) (key : Key) :
    (store write table entry).lookup key = (written write key entry).or (table.lookup key) := by
  unfold store written
  cases write entry with
  | none => rfl
  | some placed =>
    simp only [lookup_insert_if]
    by_cases same : key = placed.1
    · simp [same]
    · simp [same, Ne.symm same]

theorem lookup_stored (entries : List Entry) (table : Table Key Value) (key : Key) :
    (entries.foldl (store write) table).lookup key =
      (entries.filterMap (written write key)).getLast?.or (table.lookup key) := by
  induction entries generalizing table with
  | nil => rfl
  | cons entry rest ih =>
    rw [List.foldl_cons, ih, lookup_store]
    cases taken : written write key entry with
    | none => simp [taken]
    | some value => simp [taken, List.getLast?_cons, Option.or_some]

end Store

end Onetcli.MapOrder
