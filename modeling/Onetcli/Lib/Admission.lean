import Mathlib.Data.List.Pairwise
import Mathlib.Data.List.Nodup

/-!
A list that every host enters, and a guest only while no item with its key is inside. The
items come from sources, each of which brings hosts only or guests only; the result is the
same in every order of the sources exactly if no two of them dispute a key.
-/

namespace Onetcli.Admission

variable {Source Item Key Record : Type}

section Admitted

variable [DecidableEq Key] (key : Item → Key) (guest : Item → Bool)

/-- The items that enter, where items with the keys `seen` are inside. -/
@[grind =]
def admitted (seen : List Key) : List Item → List Item
  | [] => []
  | item :: rest =>
    if guest item = true ∧ key item ∈ seen then admitted seen rest
    else item :: admitted (key item :: seen) rest

variable {key guest}

theorem admitted_subset {seen : List Key} {items : List Item} {item : Item}
    (member : item ∈ admitted key guest seen items) : item ∈ items := by
  induction items generalizing seen with
  | nil => cases member
  | cons first rest ih =>
    rw [admitted] at member
    split at member
    · exact List.mem_cons_of_mem _ (ih member)
    · rcases List.mem_cons.mp member with rfl | later
      · exact List.mem_cons_self
      · exact List.mem_cons_of_mem _ (ih later)

theorem mem_admitted_host {item : Item} (host : guest item = false) (seen : List Key)
    (items : List Item) : item ∈ admitted key guest seen items ↔ item ∈ items := by
  constructor
  · exact admitted_subset
  · intro member
    induction items generalizing seen with
    | nil => cases member
    | cons first rest ih =>
      rw [admitted]
      rcases List.mem_cons.mp member with rfl | later
      · rw [host, if_neg (by simp)]
        exact List.mem_cons_self
      · split
        · exact ih _ later
        · exact List.mem_cons_of_mem _ (ih _ later)

theorem mem_admitted_guest {item : Item} (isGuest : guest item = true) (seen : List Key)
    (items : List Item) : item ∈ admitted key guest seen items ↔
      key item ∉ seen ∧ items.find? (fun other => key other = key item) = some item := by
  induction items generalizing seen with
  | nil => simp [admitted]
  | cons first rest ih =>
    rw [admitted, List.find?_cons]
    by_cases same : key first = key item
    · simp only [same, decide_true]
      by_cases inside : key item ∈ seen
      · have out : item ∉ admitted key guest (key item :: seen) rest := by
          rw [ih]
          simp
        have skipped : item ∉ admitted key guest seen rest := by
          rw [ih]
          simp [inside]
        split
        · simp [skipped, inside]
        · rename_i entered
          have other : item ≠ first := by
            rintro rfl
            exact entered ⟨isGuest, inside⟩
          simp [out, other, inside]
      · have out : item ∉ admitted key guest (key item :: seen) rest := by
          rw [ih]
          simp
        rw [if_neg (by simp [inside])]
        simp [out, inside, eq_comm]
    · have other : item ≠ first := by
        rintro rfl
        exact same rfl
      have apart : key item ≠ key first := Ne.symm same
      simp only [same, decide_false]
      split
      · exact ih seen
      · rw [List.mem_cons, ih]
        simp [other, apart]

theorem admitted_pairwise (seen : List Key) (items : List Item) :
    (admitted key guest seen items).Pairwise fun before after =>
      guest after = true → key before ≠ key after := by
  induction items generalizing seen with
  | nil => exact .nil
  | cons first rest ih =>
    rw [admitted]
    split
    · exact ih seen
    · refine .cons ?_ (ih _)
      intro after member isGuest same
      have unseen := ((mem_admitted_guest isGuest _ _).mp member).1
      rw [same] at unseen
      exact unseen List.mem_cons_self

variable (key guest) in
theorem admitted_sublist (seen : List Key) (items : List Item) :
    (admitted key guest seen items).Sublist items := by
  induction items generalizing seen with
  | nil => exact .slnil
  | cons first rest ih =>
    rw [admitted]
    split
    · exact (ih seen).cons first
    · exact (ih _).cons_cons first

theorem admitted_filter {picked : Item → Bool} {seen : List Key} {items : List Item}
    (fresh : ∀ item ∈ items, picked item = true → key item ∉ seen)
    (apart : items.Pairwise fun before after => picked after = true → key before ≠ key after) :
    (admitted key guest seen items).filter picked = items.filter picked := by
  induction items generalizing seen with
  | nil => rfl
  | cons first rest ih =>
    obtain ⟨others, apartThen⟩ := List.pairwise_cons.mp apart
    have freshThen : ∀ item ∈ rest, picked item = true → key item ∉ seen :=
      fun item member => fresh item (List.mem_cons_of_mem _ member)
    rw [admitted]
    split
    · -- What is refused is not among the items in question.
      rename_i refused
      have unpicked : ¬picked first = true := fun chosen =>
        fresh first List.mem_cons_self chosen refused.2
      rw [List.filter_cons_of_neg unpicked, ih freshThen apartThen]
    · have later := @ih (key first :: seen) (by
        intro item member chosen inside
        rcases List.mem_cons.mp inside with same | before
        · exact others item member chosen same.symm
        · exact freshThen item member chosen before) apartThen
      rw [List.filter_cons, List.filter_cons, later]

theorem admitted_keys {seen : List Key} {items : List Item} {item : Item} (member : item ∈ items) :
    key item ∈ seen ∨ ∃ other ∈ admitted key guest seen items, key other = key item := by
  induction items generalizing seen with
  | nil => cases member
  | cons first rest ih =>
    rw [admitted]
    rcases List.mem_cons.mp member with rfl | later
    · split
      · rename_i refused
        exact Or.inl refused.2
      · exact Or.inr ⟨item, List.mem_cons_self, rfl⟩
    · split
      · exact ih later
      · rcases @ih (key first :: seen) later with inside | ⟨other, among, same⟩
        · rcases List.mem_cons.mp inside with same | before
          · exact Or.inr ⟨first, List.mem_cons_self, same.symm⟩
          · exact Or.inl before
        · exact Or.inr ⟨other, List.mem_cons_of_mem _ among, same⟩

-- Keys that tell the same items apart let the same items in.
theorem admitted_congr {Other : Type} [DecidableEq Other] {other : Item → Other}
    (done items : List Item) (same : ∀ item ∈ items, ∀ before ∈ done ++ items,
      key before = key item ↔ other before = other item) :
    admitted key guest (done.map key) items = admitted other guest (done.map other) items := by
  induction items generalizing done with
  | nil => rfl
  | cons first rest ih =>
    have here : key first ∈ done.map key ↔ other first ∈ done.map other := by
      rw [List.mem_map, List.mem_map]
      apply exists_congr
      intro before
      apply and_congr_right
      intro among
      exact same first List.mem_cons_self before (List.mem_append_left _ among)
    have passed := ih done fun item among before inside =>
      same item (List.mem_cons_of_mem _ among) before (by
        rcases List.mem_append.mp inside with old | new
        · exact List.mem_append_left _ old
        · exact List.mem_append_right _ (List.mem_cons_of_mem _ new))
    have entered := ih (first :: done) fun item among before inside =>
      same item (List.mem_cons_of_mem _ among) before (by
        rw [List.cons_append, List.mem_cons, List.mem_append] at inside
        rw [List.mem_append, List.mem_cons]
        tauto)
    rw [List.map_cons, List.map_cons] at entered
    simp only [admitted, here, passed, entered]

end Admitted

/-! ## Orders of sources -/

section Orders

variable [DecidableEq Key] (key : Item → Key) (guest : Item → Bool)
  (record : Item → Record) (offers : Source → List Item)

def firstOf (source : Source) (wanted : Key) : Option Item :=
  (offers source).find? fun item => key item = wanted

/-- No host has the key of a guest, and guests of different sources with one key are the
same. -/
structure Undisputed (sources : List Source) : Prop where
  apart : ∀ source ∈ sources, ∀ other ∈ sources, ∀ host ∈ offers source,
    ∀ item ∈ offers other, guest host = false → guest item = true → key host ≠ key item
  agreed : ∀ source ∈ sources, ∀ other ∈ sources, ∀ wanted first second,
    firstOf key offers source wanted = some first →
    firstOf key offers other wanted = some second →
    guest first = true → guest second = true → record first = record second

def enter (sources : List Source) : List Item :=
  admitted key guest [] (sources.flatMap offers)

structure OrderFree (sources : List Source) : Prop where
  records : ∀ order, order.Perm sources → ∀ made,
    made ∈ (enter key guest offers order).map record ↔
      made ∈ (enter key guest offers sources).map record
  distinct : ∀ order, order.Perm sources →
    (enter key guest offers order).Pairwise fun first second =>
      guest first = true ∨ guest second = true → key first ≠ key second

/-- A source brings hosts or guests, not both. -/
def Uniform : Prop :=
  ∀ source, ∀ item ∈ offers source, ∀ other ∈ offers source, guest item = guest other

variable {key guest record offers}

theorem firstOf_key {source : Source} {wanted : Key} {item : Item}
    (first : firstOf key offers source wanted = some item) : key item = wanted := by
  have found := List.find?_some first
  simpa using found

theorem firstOf_mem {source : Source} {wanted : Key} {item : Item}
    (first : firstOf key offers source wanted = some item) : item ∈ offers source :=
  List.mem_of_find?_eq_some first

theorem firstOf_exists {source : Source} {item : Item} (member : item ∈ offers source) :
    ∃ first, firstOf key offers source (key item) = some first := by
  rw [← Option.isSome_iff_exists, firstOf, List.find?_isSome]
  exact ⟨item, member, by simp⟩

theorem enter_guest {item : Item} (isGuest : guest item = true) (sources : List Source) :
    item ∈ enter key guest offers sources ↔
      sources.findSome? (fun source => firstOf key offers source (key item)) = some item := by
  rw [enter, mem_admitted_guest isGuest, List.find?_flatMap]
  simp [firstOf]

theorem enter_host {item : Item} (host : guest item = false) (sources : List Source) :
    item ∈ enter key guest offers sources ↔ ∃ source ∈ sources, item ∈ offers source := by
  rw [enter, mem_admitted_host host, List.mem_flatMap]

theorem enter_keys (sources : List Source) (wanted : Key) :
    wanted ∈ (enter key guest offers sources).map key ↔
      ∃ source ∈ sources, ∃ item ∈ offers source, key item = wanted := by
  rw [List.mem_map]
  constructor
  · rintro ⟨item, member, same⟩
    rcases List.mem_flatMap.mp (admitted_subset member) with ⟨source, among, inside⟩
    exact ⟨source, among, item, inside, same⟩
  · rintro ⟨source, among, item, inside, rfl⟩
    have member : item ∈ sources.flatMap offers := List.mem_flatMap.mpr ⟨source, among, inside⟩
    have entered : key item ∈ [] ∨
        ∃ other ∈ admitted key guest [] (sources.flatMap offers), key other = key item :=
      admitted_keys member
    rcases entered with none | ⟨other, inside, same⟩
    · cases none
    · exact ⟨other, inside, same⟩

theorem enter_first {source : Source} {wanted : Key} {item : Item}
    (first : firstOf key offers source wanted = some item) (isGuest : guest item = true)
    (rest : List Source) : item ∈ enter key guest offers (source :: rest) := by
  have same := firstOf_key first
  rw [enter_guest isGuest, List.findSome?_cons, same, first]

theorem Undisputed.mem_records {sources : List Source}
    (undisputed : Undisputed key guest record offers sources) (made : Record) :
    made ∈ (enter key guest offers sources).map record ↔
      ∃ source ∈ sources, ∃ item ∈ offers source, record item = made ∧
        (guest item = true → firstOf key offers source (key item) = some item) := by
  rw [List.mem_map]
  constructor
  · rintro ⟨item, member, rfl⟩
    cases kind : guest item with
    | false =>
      rcases (enter_host kind sources).mp member with ⟨source, among, inside⟩
      exact ⟨source, among, item, inside, rfl, by simp [kind]⟩
    | true =>
      have found := (enter_guest kind sources).mp member
      rcases List.exists_of_findSome?_eq_some found with ⟨source, among, first⟩
      exact ⟨source, among, item, firstOf_mem first, rfl, fun _ => first⟩
  · rintro ⟨source, among, item, inside, rfl, first⟩
    cases kind : guest item with
    | false => exact ⟨item, (enter_host kind sources).mpr ⟨source, among, inside⟩, rfl⟩
    | true =>
      have some : (sources.findSome? fun source =>
          firstOf key offers source (key item)).isSome := by
        rw [List.findSome?_isSome_iff]
        exact ⟨source, among, by rw [first kind]; rfl⟩
      rcases Option.isSome_iff_exists.mp some with ⟨winner, found⟩
      rcases List.exists_of_findSome?_eq_some found with ⟨other, otherAmong, winnerFirst⟩
      have same := firstOf_key winnerFirst
      -- The winner is no host, and so it agrees with the guest.
      have winnerGuest : guest winner = true := by
        cases winnerKind : guest winner with
        | true => rfl
        | false =>
          exact absurd same (undisputed.apart other otherAmong source among winner
            (firstOf_mem winnerFirst) item inside winnerKind kind)
      refine ⟨winner, ?_, ?_⟩
      · rw [enter_guest winnerGuest, same]
        exact found
      · exact undisputed.agreed other otherAmong source among (key item) winner item winnerFirst
          (first kind) winnerGuest kind

theorem Undisputed.perm {sources order : List Source} (same : order.Perm sources)
    (undisputed : Undisputed key guest record offers sources) :
    Undisputed key guest record offers order where
  apart := fun source among other otherAmong =>
    undisputed.apart source (same.subset among) other (same.subset otherAmong)
  agreed := fun source among other otherAmong =>
    undisputed.agreed source (same.subset among) other (same.subset otherAmong)

theorem Undisputed.orderFree {sources : List Source}
    (undisputed : Undisputed key guest record offers sources) :
    OrderFree key guest record offers sources where
  records := by
    intro order same made
    rw [(undisputed.perm same).mem_records, undisputed.mem_records]
    constructor
    · rintro ⟨source, among, rest⟩
      exact ⟨source, same.mem_iff.mp among, rest⟩
    · rintro ⟨source, among, rest⟩
      exact ⟨source, same.mem_iff.mpr among, rest⟩
  distinct := by
    intro order same
    refine List.Pairwise.imp_of_mem ?_ (admitted_pairwise [] (order.flatMap offers))
    intro first second firstIn secondIn later either
    cases kind : guest second with
    | true => exact later kind
    | false =>
      have isGuest : guest first = true := either.resolve_right (by simp [kind])
      rcases List.mem_flatMap.mp (admitted_subset firstIn) with ⟨source, among, inside⟩
      rcases List.mem_flatMap.mp (admitted_subset secondIn) with ⟨other, otherAmong, otherInside⟩
      exact Ne.symm ((undisputed.perm same).apart other otherAmong source among second
        otherInside first inside kind isGuest)

-- Of two items of one key inside, one of them a guest, there is but one.
theorem OrderFree.unique {sources order : List Source}
    (free : OrderFree key guest record offers sources) (same : order.Perm sources)
    {first second : Item} (firstIn : first ∈ enter key guest offers order)
    (secondIn : second ∈ enter key guest offers order) (isGuest : guest first = true)
    (keys : key first = key second) : first = second := by
  by_contra differ
  have symmetric : Std.Symm fun first second : Item =>
      guest first = true ∨ guest second = true → key first ≠ key second :=
    ⟨fun _ _ apart either => Ne.symm (apart either.symm)⟩
  exact (free.distinct order same).forall firstIn secondIn differ (Or.inl isGuest) keys

theorem OrderFree.undisputed [DecidableEq Source] (uniform : Uniform guest offers) {endpoint : Record → Key}
    (keyed : ∀ item, key item = endpoint (record item)) {sources : List Source}
    (free : OrderFree key guest record offers sources) :
    Undisputed key guest record offers sources where
  apart := by
    intro source among other otherAmong host hostIn item itemIn isHost isGuest keys
    have exists_first : ∃ first, firstOf key offers other (key item) = some first :=
      firstOf_exists itemIn
    rcases exists_first with ⟨winner, first⟩
    have winnerGuest : guest winner = true :=
      (uniform other winner (firstOf_mem first) item itemIn).trans isGuest
    -- The guest's source comes first, and the host enters behind it.
    have order := List.perm_cons_erase otherAmong
    have winnerIn := enter_first first winnerGuest (sources.erase other)
    have hostEnters : host ∈ enter key guest offers (other :: sources.erase other) :=
      (enter_host isHost _).mpr ⟨source, order.mem_iff.mp among, hostIn⟩
    have one := free.unique order.symm winnerIn hostEnters winnerGuest
      ((firstOf_key first).trans keys.symm)
    rw [one, isHost] at winnerGuest
    cases winnerGuest
  agreed := by
    intro source among other otherAmong wanted first second firstIs secondIs firstGuest secondGuest
    have order := List.perm_cons_erase among
    have otherOrder := List.perm_cons_erase otherAmong
    have firstIn := enter_first firstIs firstGuest (sources.erase source)
    have secondIn := enter_first secondIs secondGuest (sources.erase other)
    have made := (free.records _ otherOrder.symm _).mp (List.mem_map_of_mem (f := record) secondIn)
    rcases List.mem_map.mp ((free.records _ order.symm _).mpr made) with ⟨item, inside, same⟩
    have keys : key first = key item := by
      rw [keyed item, same, ← keyed second, firstOf_key firstIs, firstOf_key secondIs]
    rw [free.unique order.symm firstIn inside firstGuest keys, same]

theorem orderFree_iff [DecidableEq Source] (uniform : Uniform guest offers) {endpoint : Record → Key}
    (keyed : ∀ item, key item = endpoint (record item)) (sources : List Source) :
    OrderFree key guest record offers sources ↔ Undisputed key guest record offers sources :=
  ⟨OrderFree.undisputed uniform keyed, Undisputed.orderFree⟩

end Orders

end Onetcli.Admission
