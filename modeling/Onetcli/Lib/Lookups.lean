import Mathlib.Data.List.Basic

/-!
Values found by their keys in lists, also where the keys tell the numbers of items apart.
-/

namespace Onetcli.Lookups

variable {Item Key Value Result : Type}

section Lookup

variable [BEq Key] [LawfulBEq Key] {key : Item × Nat → Key} {value : Item × Nat → Value}

theorem lookup_same (wanted : Key) (found : Value) (rest : List (Key × Value)) :
    List.lookup wanted ((wanted, found) :: rest) = some found := by
  rw [List.lookup_cons, beq_self_eq_true]

theorem lookup_other {wanted other : Key} (differ : wanted ≠ other) (passed : Value)
    (rest : List (Key × Value)) :
    List.lookup wanted ((other, passed) :: rest) = rest.lookup wanted := by
  rw [List.lookup_cons, beq_false_of_ne differ]

theorem lookup_perm {first second : List (Key × Value)} (same : first.Perm second)
    (distinct : (first.map Prod.fst).Nodup) (wanted : Key) :
    first.lookup wanted = second.lookup wanted := by
  induction same with
  | nil => rfl
  | cons entry _ ih =>
    rw [List.map_cons, List.nodup_cons] at distinct
    rw [List.lookup_cons, List.lookup_cons, ih distinct.2]
  | swap entry other rest =>
    have differ : other.1 ≠ entry.1 := by
      intro same
      simp [same] at distinct
    by_cases wantsOther : wanted = other.1
    · subst wantsOther
      rw [lookup_same, lookup_other differ, lookup_same]
    · by_cases wantsEntry : wanted = entry.1
      · subst wantsEntry
        rw [lookup_other wantsOther, lookup_same, lookup_same]
      · rw [lookup_other wantsOther, lookup_other wantsEntry, lookup_other wantsEntry,
          lookup_other wantsOther]
  | trans one _ ihFirst ihSecond =>
    rw [ihFirst distinct, ihSecond ((one.map Prod.fst).nodup_iff.mp distinct)]

theorem lookup_zipIdx (distinct : ∀ entry other, key entry = key other → entry.2 = other.2)
    {items : List Item} {start number : Nat} {item : Item} (here : items[number]? = some item) :
    ((items.zipIdx start).map fun entry => (key entry, value entry)).lookup
        (key (item, start + number)) = some (value (item, start + number)) := by
  induction items generalizing start number with
  | nil => cases here
  | cons first rest ih =>
    rw [List.zipIdx_cons, List.map_cons]
    cases number with
    | zero =>
      rw [List.getElem?_cons_zero, Option.some.injEq] at here
      rw [here, Nat.add_zero, lookup_same]
    | succ number =>
      have apart : key (item, start + (number + 1)) ≠ key (first, start) := by
        intro same
        have equal := distinct _ _ same
        simp only at equal
        omega
      have shifted : start + (number + 1) = start + 1 + number := by omega
      rw [lookup_other apart, shifted]
      exact ih here

theorem lookup_zipIdx_none {items : List Item} {start : Nat} {wanted : Key}
    (absent : ∀ item number, items[number]? = some item → key (item, start + number) ≠ wanted) :
    ((items.zipIdx start).map fun entry => (key entry, value entry)).lookup wanted = none := by
  induction items generalizing start with
  | nil => rfl
  | cons first rest ih =>
    have apart : wanted ≠ key (first, start) := Ne.symm (absent first 0 rfl)
    rw [List.zipIdx_cons, List.map_cons, lookup_other apart]
    apply ih
    intro item number here
    have shifted : start + 1 + number = start + (number + 1) := by omega
    rw [shifted]
    exact absent item (number + 1) here

end Lookup

section Puts

variable [BEq Key] [LawfulBEq Key]

def put (key : Key) (value : Value) : List (Key × Value) → List (Key × Value)
  | [] => [(key, value)]
  | entry :: rest => if entry.1 == key then (key, value) :: rest else entry :: put key value rest

def puts (entries map : List (Key × Value)) : List (Key × Value) :=
  entries.foldl (fun map entry => put entry.1 entry.2 map) map

theorem lookup_put (wanted key : Key) (value : Value) (map : List (Key × Value)) :
    (put key value map).lookup wanted = if wanted == key then some value else map.lookup wanted := by
  induction map with
  | nil =>
    rw [put, List.lookup_cons]
    cases wanted == key <;> rfl
  | cons entry rest ih =>
    rw [put]
    by_cases here : entry.1 = key
    · rw [here, beq_self_eq_true, if_pos rfl, List.lookup_cons, List.lookup_cons, here]
      cases wanted == key <;> rfl
    · rw [beq_false_of_ne here, if_neg Bool.false_ne_true, List.lookup_cons, List.lookup_cons, ih]
      cases same : wanted == entry.1 with
      | true =>
        have other : (wanted == key) = false := by
          rw [eq_of_beq same]
          exact beq_false_of_ne here
        rw [other]
        rfl
      | false => rfl

theorem mem_keys_put {key wanted : Key} {value : Value} {entries : List (Key × Value)} :
    wanted ∈ (put key value entries).map Prod.fst ↔
      wanted = key ∨ wanted ∈ entries.map Prod.fst := by
  induction entries with
  | nil => simp [put]
  | cons first rest ih =>
    rw [put]
    split
    · rename_i here
      simp [beq_iff_eq.mp here]
    · rw [List.map_cons, List.mem_cons, ih, List.map_cons, List.mem_cons]
      exact or_left_comm

theorem nodup_put {key : Key} {value : Value} {entries : List (Key × Value)}
    (distinct : (entries.map Prod.fst).Nodup) : ((put key value entries).map Prod.fst).Nodup := by
  induction entries with
  | nil => simp [put]
  | cons first rest ih =>
    rw [List.map_cons, List.nodup_cons] at distinct
    rw [put]
    split
    · rename_i here
      rw [List.map_cons, List.nodup_cons]
      exact ⟨beq_iff_eq.mp here ▸ distinct.1, distinct.2⟩
    · rename_i apart
      rw [List.map_cons, List.nodup_cons, mem_keys_put, not_or]
      exact ⟨⟨fun same => apart (beq_iff_eq.mpr same), distinct.1⟩, ih distinct.2⟩

theorem lookup_mem {entries : List (Key × Value)} (distinct : (entries.map Prod.fst).Nodup)
    {entry : Key × Value} (among : entry ∈ entries) : entries.lookup entry.1 = some entry.2 := by
  induction entries with
  | nil => cases among
  | cons first rest ih =>
    rw [List.map_cons, List.nodup_cons] at distinct
    rcases List.mem_cons.mp among with rfl | later
    · exact lookup_same _ _ _
    · have differ : entry.1 ≠ first.1 := fun same =>
        distinct.1 (same ▸ List.mem_map_of_mem later)
      exact (lookup_other differ _ _).trans (ih distinct.2 later)

theorem lookup_puts (wanted : Key) (entries map : List (Key × Value)) :
    (puts entries map).lookup wanted = (entries.reverse.lookup wanted).or (map.lookup wanted) := by
  induction entries generalizing map with
  | nil => rfl
  | cons entry rest ih =>
    have first : puts (entry :: rest) map = puts rest (put entry.1 entry.2 map) := rfl
    rw [first, ih, lookup_put, List.reverse_cons, List.lookup_append, List.lookup_cons,
      Option.or_assoc]
    cases wanted == entry.1 <;> rfl

theorem mem_keys_puts {wanted : Key} {entries map : List (Key × Value)} :
    wanted ∈ (puts entries map).map Prod.fst ↔
      wanted ∈ entries.map Prod.fst ∨ wanted ∈ map.map Prod.fst := by
  induction entries generalizing map with
  | nil => simp [puts]
  | cons entry rest ih =>
    have first : puts (entry :: rest) map = puts rest (put entry.1 entry.2 map) := rfl
    rw [first, ih, mem_keys_put, List.map_cons, List.mem_cons]
    exact or_left_comm.trans or_assoc.symm

theorem nodup_puts {entries map : List (Key × Value)} (distinct : (map.map Prod.fst).Nodup) :
    ((puts entries map).map Prod.fst).Nodup := by
  induction entries generalizing map with
  | nil => exact distinct
  | cons entry rest ih => exact ih (nodup_put distinct)

theorem map_lookup_zip {keys : List Key} (distinct : keys.Nodup) {values : List Value}
    (aligned : values.length = keys.length) :
    keys.map (fun key => (keys.zip values).lookup key) = values.map some := by
  induction keys generalizing values with
  | nil =>
    rw [List.length_nil, List.length_eq_zero_iff] at aligned
    rw [aligned]
    rfl
  | cons key keys ih =>
    cases values with
    | nil => cases aligned
    | cons value values =>
      rw [List.nodup_cons] at distinct
      have others := ih distinct.2 (Nat.succ.inj aligned)
      rw [List.zip_cons_cons, List.map_cons, List.map_cons, lookup_same, ← others]
      congr 1
      apply List.map_congr_left
      intro other among
      exact lookup_other (fun same => distinct.1 (by rw [← same]; exact among)) _ _

theorem map_lookup_puts {keys : List Key} (distinct : keys.Nodup) {values : List Value}
    (aligned : values.length = keys.length) :
    keys.map (fun key => (puts (keys.zip values) []).lookup key) = values.map some := by
  rw [← map_lookup_zip distinct aligned]
  apply List.map_congr_left
  intro key _
  have zipped : ((keys.zip values).map Prod.fst).Nodup := by
    rw [List.map_fst_zip (by omega)]
    exact distinct
  rw [lookup_puts, List.lookup_nil, Option.or_none]
  exact (lookup_perm (List.reverse_perm _).symm zipped key).symm

end Puts
theorem zipIdx_flatMap (items : List Item) (result : Item → List Result) :
    (items.zipIdx.flatMap fun entry => result entry.1) = items.flatMap result := by
  rw [← List.flatMap_map Prod.fst result, List.zipIdx_map_fst]

theorem range_flatMap {items : List Item} {count : Nat} (room : items.length ≤ count)
    (result : Option Item → List Result) (nothing : result none = []) :
    ((List.range count).flatMap fun number => result items[number]?) =
      items.flatMap fun item => result (some item) := by
  induction items generalizing count with
  | nil =>
    rw [List.flatMap_nil, List.flatMap_eq_nil_iff]
    intro number _
    exact nothing
  | cons first rest ih =>
    cases count with
    | zero => cases room
    | succ count =>
      have tail := ih (Nat.le_of_succ_le_succ room)
      rw [List.range_succ_eq_map, List.flatMap_cons, List.flatMap_cons, List.flatMap_map]
      exact congrArg (result (some first) ++ ·) tail

end Onetcli.Lookups
