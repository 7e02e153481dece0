import Mathlib.Data.List.Nodup
import Mathlib.Data.Option.Basic
import Mathlib.Data.List.DropRight
import Mathlib.Data.List.Perm.Subperm
import Onetcli.Lib.Lookups

/-!
Texts that are stored in pieces and put together again: the rows with the pieces are grouped by a
key, and each piece is trimmed before it is appended. White space at the ends of a piece is lost,
and a piece that comes again is appended again.
-/

namespace Onetcli.Pieces

open Lookups

/-! ## Trimmed pieces -/

section Texts

variable {Symbol : Type} (white padding : Symbol → Bool)

def trim (text : List Symbol) : List Symbol := (text.dropWhile white).rdropWhile white

def unpadded (text : List Symbol) : List Symbol := text.rdropWhile padding

def reassemble (repeats : Nat) (pieces : List (List Symbol)) : List Symbol :=
  pieces.flatMap fun piece => (List.replicate repeats (trim white piece)).flatten

/-- Trimming takes nothing from a piece but the padding behind the text. -/
def Kept : List (List Symbol) → Prop
  | [] => True
  | piece :: rest =>
    if ∀ symbol ∈ rest.flatten, padding symbol = true then
      trim white piece = unpadded padding piece
    else trim white piece = piece ∧ Kept rest

end Texts

section Trim

variable {Symbol : Type} {white padding : Symbol → Bool}

theorem trim_sublist (text : List Symbol) : (trim white text).Sublist text :=
  (List.rdropWhile_prefix white (text.dropWhile white)).sublist.trans
    (List.dropWhile_suffix white).sublist

theorem trim_white {text : List Symbol} (blank : ∀ symbol ∈ text, white symbol = true) :
    trim white text = [] := by
  rw [trim, List.dropWhile_eq_nil_iff.mpr blank, List.rdropWhile_nil]

theorem trim_trim (text : List Symbol) : trim white (trim white text) = trim white text := by
  have front : (trim white text).dropWhile white = trim white text := by
    refine List.dropWhile_eq_self_iff.mpr fun filled => ?_
    have within := List.rdropWhile_prefix white (text.dropWhile white)
    have some : 0 < (text.dropWhile white).length := Nat.lt_of_lt_of_le filled within.length_le
    have first : (trim white text)[0] = (text.dropWhile white)[0] := within.getElem filled
    rw [first]
    exact List.dropWhile_get_zero_not white text some
  rw [trim, front, trim, List.rdropWhile_idempotent]

theorem countP_trim (text : List Symbol) : (trim white text).countP (fun symbol => !white symbol) =
      text.countP fun symbol => !white symbol := by
  have front := List.takeWhile_append_dropWhile (p := white) (l := text)
  have back := List.rdropWhile_append_rtakeWhile (p := white) (l := text.dropWhile white)
  have noneFront : (text.takeWhile white).countP (fun symbol => !white symbol) = 0 :=
    List.countP_eq_zero.mpr fun symbol among => by simp [List.mem_takeWhile_imp among]
  have noneBack : ((text.dropWhile white).rtakeWhile white).countP (fun symbol => !white symbol) =
      0 := List.countP_eq_zero.mpr fun symbol among => by simp [List.mem_rtakeWhile_imp among]
  conv_rhs => rw [← front, List.countP_append, noneFront, ← back, List.countP_append, noneBack]
  rw [trim, Nat.zero_add, Nat.add_zero]

theorem unpadded_append {front back : List Symbol}
    (padded : ∀ symbol ∈ back, padding symbol = true) :
    unpadded padding (front ++ back) = unpadded padding front := by
  induction back using List.reverseRecOn with
  | nil => rw [List.append_nil]
  | append_singleton rest last ih =>
    have here : padding last = true := padded last (by simp)
    rw [unpadded, ← List.append_assoc, List.rdropWhile_concat_pos _ _ _ here]
    exact ih fun symbol among => padded symbol (List.mem_append_left _ among)

theorem unpadded_append_filled {front back : List Symbol}
    (filled : ¬∀ symbol ∈ back, padding symbol = true) :
    unpadded padding (front ++ back) = front ++ unpadded padding back := by
  induction back using List.reverseRecOn with
  | nil => exact absurd (fun symbol among => absurd among List.not_mem_nil) filled
  | append_singleton rest last ih =>
    rw [unpadded, unpadded, ← List.append_assoc]
    by_cases here : padding last = true
    · rw [List.rdropWhile_concat_pos _ _ _ here, List.rdropWhile_concat_pos _ _ _ here]
      refine ih fun padded => filled fun symbol among => ?_
      rcases List.mem_append.mp among with inside | atEnd
      · exact padded symbol inside
      · rwa [List.mem_singleton.mp atEnd]
    · rw [List.rdropWhile_concat_neg _ _ _ here, List.rdropWhile_concat_neg _ _ _ here,
        List.append_assoc]

theorem sublist_unpadded {part text : List Symbol} (inside : part.Sublist text)
    (closed : unpadded padding part = part) : part.Sublist (unpadded padding text) := by
  have whole : unpadded padding text ++ text.rtakeWhile padding = text :=
    List.rdropWhile_append_rtakeWhile
  rw [← whole] at inside
  obtain ⟨front, back, rfl, inFront, inBack⟩ := List.sublist_append_iff.mp inside
  have padded : ∀ symbol ∈ back, padding symbol = true :=
    fun symbol among => List.mem_rtakeWhile_imp (inBack.subset among)
  rw [unpadded_append padded] at closed
  have shorter := (List.rdropWhile_prefix padding front).length_le
  have lengths := congrArg List.length closed
  rw [List.length_append] at lengths
  have none : back = [] := List.length_eq_zero_iff.mp (by unfold unpadded at lengths; omega)
  rwa [none, List.append_nil]

end Trim

/-! ## Pieces put together -/

section Reassemble

variable {Symbol : Type} {white padding : Symbol → Bool}
  (isWhite : ∀ symbol, padding symbol = true → white symbol = true)

theorem reassemble_cons (repeats : Nat) (piece : List Symbol) (rest : List (List Symbol)) :
    reassemble white repeats (piece :: rest) =
      (List.replicate repeats (trim white piece)).flatten ++ reassemble white repeats rest :=
  List.flatMap_cons

theorem reassemble_once (piece : List Symbol) (rest : List (List Symbol)) :
    reassemble white 1 (piece :: rest) = trim white piece ++ reassemble white 1 rest := by
  rw [reassemble_cons, List.replicate_one, List.flatten_singleton]

theorem reassemble_white (repeats : Nat) {pieces : List (List Symbol)}
    (blank : ∀ symbol ∈ pieces.flatten, white symbol = true) :
    reassemble white repeats pieces = [] := by
  induction pieces with
  | nil => rfl
  | cons piece rest ih =>
    rw [List.flatten_cons, List.forall_mem_append] at blank
    rw [reassemble_cons, trim_white blank.1, ih blank.2, List.append_nil]
    simp

theorem reassemble_sublist (pieces : List (List Symbol)) :
    (reassemble white 1 pieces).Sublist pieces.flatten := by
  induction pieces with
  | nil => exact List.Sublist.refl _
  | cons piece rest ih =>
    rw [reassemble_once, List.flatten_cons]
    exact (trim_sublist piece).append ih

theorem countP_copies (repeats : Nat) (text : List Symbol) (counted : Symbol → Bool) :
    (List.replicate repeats text).flatten.countP counted = repeats * text.countP counted := by
  induction repeats with
  | zero => simp
  | succ repeats ih =>
    rw [List.replicate_succ, List.flatten_cons, List.countP_append, ih, Nat.succ_mul,
      Nat.add_comm]

theorem countP_reassemble (repeats : Nat) (pieces : List (List Symbol)) :
    (reassemble white repeats pieces).countP (fun symbol => !white symbol) =
      repeats * pieces.flatten.countP fun symbol => !white symbol := by
  induction pieces with
  | nil => rfl
  | cons piece rest ih =>
    rw [reassemble_cons, List.countP_append, ih, List.flatten_cons, List.countP_append,
      Nat.mul_add, countP_copies, countP_trim]

include isWhite

theorem unpadded_trim (text : List Symbol) :
    unpadded padding (trim white text) = trim white text := by
  refine List.rdropWhile_eq_self_iff.mpr fun filled padded => ?_
  exact List.rdropWhile_last_not white _ filled (isWhite _ padded)

omit isWhite in
theorem unpadded_joined {front back : List Symbol} (first : unpadded padding front = front)
    (second : unpadded padding back = back) : unpadded padding (front ++ back) = front ++ back := by
  by_cases padded : ∀ symbol ∈ back, padding symbol = true
  · have none : back = [] := second.symm.trans (List.rdropWhile_eq_nil_iff.mpr padded)
    rw [none, List.append_nil, first]
  · rw [unpadded_append_filled padded, second]

theorem unpadded_copies (repeats : Nat) (piece : List Symbol) :
    unpadded padding (List.replicate repeats (trim white piece)).flatten =
      (List.replicate repeats (trim white piece)).flatten := by
  induction repeats with
  | zero => rfl
  | succ repeats ih =>
    rw [List.replicate_succ, List.flatten_cons]
    exact unpadded_joined (unpadded_trim isWhite piece) ih

theorem unpadded_reassemble (repeats : Nat) (pieces : List (List Symbol)) :
    unpadded padding (reassemble white repeats pieces) = reassemble white repeats pieces := by
  induction pieces with
  | nil => rfl
  | cons piece rest ih =>
    rw [reassemble_cons]
    exact unpadded_joined (unpadded_copies isWhite repeats piece) ih

theorem reassemble_once_iff (pieces : List (List Symbol)) :
    unpadded padding (reassemble white 1 pieces) = unpadded padding pieces.flatten ↔
      Kept white padding pieces := by
  induction pieces with
  | nil => exact iff_of_true rfl trivial
  | cons piece rest ih =>
    rw [unpadded_reassemble isWhite] at ih ⊢
    rw [reassemble_once, List.flatten_cons, Kept]
    by_cases padded : ∀ symbol ∈ rest.flatten, padding symbol = true
    · have none : reassemble white 1 rest = [] :=
        reassemble_white 1 fun symbol among => isWhite symbol (padded symbol among)
      rw [if_pos padded, none, List.append_nil, unpadded_append padded]
    · rw [if_neg padded, unpadded_append_filled padded, ← ih]
      constructor
      · intro same
        -- neither part is longer than what it stands for, so neither is shorter
        have front : (trim white piece).length ≤ piece.length := (trim_sublist piece).length_le
        have back := (sublist_unpadded (reassemble_sublist rest)
          (unpadded_reassemble isWhite 1 rest)).length_le
        have lengths := congrArg List.length same
        rw [List.length_append, List.length_append] at lengths
        exact List.append_inj same (by omega)
      · rintro ⟨front, back⟩
        rw [front, back]

theorem reassemble_more_iff {repeats : Nat} (more : 2 ≤ repeats) (pieces : List (List Symbol)) :
    unpadded padding (reassemble white repeats pieces) = unpadded padding pieces.flatten ↔
      ∀ symbol ∈ pieces.flatten, padding symbol = true := by
  constructor
  · intro same
    rw [unpadded_reassemble isWhite] at same
    have whole : unpadded padding pieces.flatten ++ pieces.flatten.rtakeWhile padding =
        pieces.flatten := List.rdropWhile_append_rtakeWhile
    have behind : (pieces.flatten.rtakeWhile padding).countP (fun symbol => !white symbol) = 0 :=
      List.countP_eq_zero.mpr fun symbol among => by
        simp [isWhite symbol (List.mem_rtakeWhile_imp among)]
    have counts := @countP_reassemble _ white repeats pieces
    have split := congrArg (List.countP fun symbol => !white symbol) whole
    rw [List.countP_append, behind, ← same, counts] at split
    have none : pieces.flatten.countP (fun symbol => !white symbol) = 0 := by
      by_contra some
      have larger := Nat.mul_le_mul_right
        (pieces.flatten.countP fun symbol => !white symbol) more
      omega
    have blank : ∀ symbol ∈ pieces.flatten, white symbol = true := fun symbol among => by
      simpa using List.countP_eq_zero.mp none symbol among
    rw [reassemble_white repeats blank] at same
    exact List.rdropWhile_eq_nil_iff.mp same.symm
  · intro padded
    rw [reassemble_white repeats fun symbol among => isWhite symbol (padded symbol among)]
    exact (List.rdropWhile_eq_nil_iff.mpr padded).symm

end Reassemble

/-! ## Rows grouped by a key -/

structure Grouping (Row Key Entry : Type) where
  key : Row → Option Key
  start : Row → Entry
  add : Entry → Row → Entry

section Groups

variable {Row Key Entry : Type} [DecidableEq Key]

namespace Grouping

variable (grouping : Grouping Row Key Entry)

def step (entries : List (Key × Entry)) (row : Row) : List (Key × Entry) :=
  match grouping.key row with
  | none => entries
  | some key =>
    put key (grouping.add ((entries.lookup key).getD (grouping.start row)) row) entries

def groups (rows : List Row) : List (Key × Entry) := rows.foldl grouping.step []

def rowsOf (key : Key) (rows : List Row) : List Row :=
  rows.filter fun row => grouping.key row = some key

def entryOf : List Row → Option Entry
  | [] => none
  | first :: rest => some ((first :: rest).foldl grouping.add (grouping.start first))

theorem groups_snoc (rows : List Row) (row : Row) :
    grouping.groups (rows ++ [row]) = grouping.step (grouping.groups rows) row :=
  List.foldl_concat ..

theorem rowsOf_snoc (key : Key) (rows : List Row) (row : Row) :
    grouping.rowsOf key (rows ++ [row]) =
      if grouping.key row = some key then grouping.rowsOf key rows ++ [row]
      else grouping.rowsOf key rows := by
  rw [rowsOf, List.filter_append]
  by_cases here : grouping.key row = some key <;> simp [here, rowsOf]

omit [DecidableEq Key] in
theorem entryOf_snoc (rows : List Row) (row : Row) : grouping.entryOf (rows ++ [row]) =
      some (grouping.add ((grouping.entryOf rows).getD (grouping.start row)) row) := by
  cases rows with
  | nil => rfl
  | cons first rest => simp [entryOf, List.foldl_append]

theorem groups_nodup (rows : List Row) : ((grouping.groups rows).map Prod.fst).Nodup := by
  induction rows using List.reverseRecOn with
  | nil => exact List.nodup_nil
  | append_singleton rows row ih =>
    rw [groups_snoc, step]
    split
    · exact ih
    · exact nodup_put ih

theorem lookup_groups (rows : List Row) (key : Key) :
    (grouping.groups rows).lookup key = grouping.entryOf (grouping.rowsOf key rows) := by
  induction rows using List.reverseRecOn with
  | nil => rfl
  | append_singleton rows row ih =>
    rw [groups_snoc, step, rowsOf_snoc]
    cases here : grouping.key row with
    | none => exact ih
    | some other =>
      by_cases same : key = other
      · subst same
        rw [if_pos rfl, entryOf_snoc, lookup_put, if_pos (beq_self_eq_true key), ih]
      · have differ : ¬some other = some key := fun equal => same (Option.some.inj equal).symm
        rw [if_neg differ, lookup_put, beq_false_of_ne same, if_neg Bool.false_ne_true, ih]

theorem entry_groups {rows : List Row} {entry : Key × Entry}
    (among : entry ∈ grouping.groups rows) :
    grouping.entryOf (grouping.rowsOf entry.1 rows) = some entry.2 := by
  rw [← lookup_groups]
  exact lookup_mem (grouping.groups_nodup rows) among

theorem mem_keys_groups {rows : List Row} {key : Key} :
    key ∈ (grouping.groups rows).map Prod.fst ↔ ∃ row ∈ rows, grouping.key row = some key := by
  induction rows using List.reverseRecOn with
  | nil => simp [groups]
  | append_singleton rows row ih =>
    rw [groups_snoc, step]
    cases here : grouping.key row with
    | none => simp [ih, here]
    | some other =>
      rw [mem_keys_put, ih]
      constructor
      · rintro (rfl | ⟨found, among, same⟩)
        · exact ⟨row, by simp, here⟩
        · exact ⟨found, List.mem_append_left _ among, same⟩
      · rintro ⟨found, among, same⟩
        rcases List.mem_append.mp among with before | last
        · exact Or.inr ⟨found, before, same⟩
        · rw [List.mem_singleton.mp last, here] at same
          exact Or.inl (Option.some.inj same).symm

def on {Source : Type} (read : Source → Row) : Grouping Source Key Entry where
  key row := grouping.key (read row)
  start row := grouping.start (read row)
  add entry row := grouping.add entry (read row)

theorem groups_map {Source : Type} (read : Source → Row) (rows : List Source) :
    grouping.groups (rows.map read) = (grouping.on read).groups rows :=
  List.foldl_map

end Grouping

end Groups

theorem map_eq_of_places {Row Text : Type} {place : Row → Nat} {text : Row → Text}
    {found rows : List Row} (perm : found.Perm rows)
    (foundOrdered : found.Pairwise fun first later => place first ≤ place later)
    (ordered : rows.Pairwise fun first later => place first ≤ place later)
    (one : ∀ first ∈ rows, ∀ other ∈ rows, place first = place other → text first = text other) :
    found.map text = rows.map text := by
  let paired (rows : List Row) : List (Nat × Text) := rows.map fun row => (place row, text row)
  have inOrder {rows : List Row}
      (ordered : rows.Pairwise fun first later => place first ≤ place later) :
      (paired rows).Pairwise fun first later => first.1 ≤ later.1 := List.pairwise_map.mpr ordered
  have pairs : paired found = paired rows := by
    refine List.Perm.eq_of_pairwise ?_ (inOrder foundOrdered) (inOrder ordered) (perm.map _)
    intro first other inFound inRows before after
    obtain ⟨row, among, rfl⟩ := List.mem_map.mp inFound
    obtain ⟨second, there, rfl⟩ := List.mem_map.mp inRows
    have same := Nat.le_antisymm before after
    exact Prod.ext same (one row (perm.mem_iff.mp among) second there same)
  have texts := congrArg (List.map Prod.snd) pairs
  simp only [paired, List.map_map] at texts
  exact texts

/-! ## Items reported once -/

theorem forall₂_partner {Left Right : Type} {Relates : Left → Right → Prop} {lefts : List Left}
    {rights : List Right} (related : List.Forall₂ Relates lefts rights) {wanted : Right}
    (inside : wanted ∈ rights) : ∃ found ∈ lefts, Relates found wanted := by
  induction related with
  | nil => cases inside
  | cons here _ ih =>
    rcases List.mem_cons.mp inside with rfl | later
    · exact ⟨_, List.mem_cons_self, here⟩
    · obtain ⟨found, among, relates⟩ := ih later
      exact ⟨found, List.mem_cons_of_mem _ among, relates⟩

section Items

variable {Item Row Key Entry : Type} [DecidableEq Key] {grouping : Grouping Row Key Entry}
  {itemKey : Item → Option Key} {itemRows : Item → List Row} {items : List Item} {rows : List Row}
  (keyed : ∀ item ∈ items, ∀ row ∈ itemRows item, grouping.key row = itemKey item)
  (joined : rows.Perm (items.flatMap itemRows))
include keyed joined

theorem mem_keys_items {key : Key} : key ∈ (grouping.groups rows).map Prod.fst ↔
    ∃ item ∈ items, itemKey item = some key ∧ itemRows item ≠ [] := by
  rw [Grouping.mem_keys_groups]
  constructor
  · rintro ⟨row, among, same⟩
    obtain ⟨item, inside, here⟩ := List.mem_flatMap.mp (joined.mem_iff.mp among)
    exact ⟨item, inside, keyed item inside row here ▸ same, List.ne_nil_of_mem here⟩
  · rintro ⟨item, inside, same, filled⟩
    obtain ⟨row, here⟩ := List.exists_mem_of_ne_nil _ filled
    exact ⟨row, joined.mem_iff.mpr (List.mem_flatMap.mpr ⟨item, inside, here⟩),
      (keyed item inside row here).trans same⟩

theorem rowsOf_item (distinct : (items.map itemKey).Nodup) {item : Item} (inside : item ∈ items)
    {key : Key} (same : itemKey item = some key) :
    (grouping.rowsOf key rows).Perm (itemRows item) := by
  refine (joined.filter _).trans (List.Perm.of_eq ?_)
  clear joined
  have none (others : List Item) (kept : ∀ other ∈ others, other ∈ items)
      (absent : some key ∉ others.map itemKey) :
      (others.flatMap itemRows).filter (fun row => decide (grouping.key row = some key)) = [] := by
    refine List.filter_eq_nil_iff.mpr fun row among => ?_
    obtain ⟨other, there, here⟩ := List.mem_flatMap.mp among
    rw [decide_eq_true_eq, keyed other (kept other there) row here]
    exact fun equal => absent (equal ▸ List.mem_map_of_mem there)
  obtain ⟨before, after, rfl⟩ := List.append_of_mem inside
  rw [List.map_append, List.map_cons, List.perm_middle.nodup_iff, List.nodup_cons,
    List.mem_append, not_or, same] at distinct
  have all : (itemRows item).filter (fun row => decide (grouping.key row = some key)) =
      itemRows item := by
    refine List.filter_eq_self.mpr fun row here => ?_
    rw [decide_eq_true_eq, keyed item inside row here, same]
  rw [List.flatMap_append, List.flatMap_cons, List.filter_append, List.filter_append, all,
    none before (fun other there => List.mem_append_left _ there) distinct.1.1,
    none after (fun other there => List.mem_append_right _ (List.mem_cons_of_mem _ there))
      distinct.1.2, List.nil_append, List.append_nil]

-- Where an entry tells whose it is, the entries report every item once exactly if every item
-- has rows and a key of its own and its entry is right.
theorem reported_iff {Reports : Entry → Item → Prop} {Right : Item → Prop}
    (own : ∀ entry ∈ grouping.groups rows, ∀ item, Reports entry.2 item →
      itemKey item = some entry.1)
    (right : (items.map itemKey).Nodup → ∀ entry ∈ grouping.groups rows, ∀ item ∈ items,
      itemKey item = some entry.1 → (Reports entry.2 item ↔ Right item)) :
    (∃ order : List Item, order.Perm items ∧
        List.Forall₂ Reports ((grouping.groups rows).map Prod.snd) order) ↔
      (∀ item ∈ items, itemRows item ≠ [] ∧ (itemKey item).isSome = true) ∧
        (items.map itemKey).Nodup ∧ ∀ item ∈ items, Right item := by
  have keysNodup := (grouping.groups_nodup rows).map (Option.some_injective Key)
  constructor
  · rintro ⟨order, perm, reports⟩
    have paired := List.forall₂_map_left_iff.mp reports
    have sameKeys : ((grouping.groups rows).map Prod.fst).map some = order.map itemKey := by
      rw [← List.forall₂_eq_eq_eq, List.forall₂_map_left_iff, List.forall₂_map_left_iff,
        List.forall₂_map_right_iff]
      refine ((List.forall₂_and_left _ _).mpr ⟨fun _ among => among, paired⟩).imp ?_
      exact fun entry item here => (own entry here.1 item here.2).symm
    have distinct : (items.map itemKey).Nodup :=
      (perm.map itemKey).nodup_iff.mp (sameKeys ▸ keysNodup)
    have reported (item) (inside : item ∈ items) :
        ∃ entry ∈ grouping.groups rows, Reports entry.2 item :=
      forall₂_partner paired (perm.mem_iff.mpr inside)
    refine ⟨fun item inside => ?_, distinct, fun item inside => ?_⟩
    · obtain ⟨entry, among, here⟩ := reported item inside
      have same := own entry among item here
      obtain ⟨other, there, equal, filled⟩ :=
        (mem_keys_items keyed joined).mp (List.mem_map_of_mem among)
      -- the rows of the key are those of the item, which alone has the key
      have one := List.inj_on_of_nodup_map distinct there inside (equal.trans same.symm)
      exact ⟨one ▸ filled, by rw [same]; rfl⟩
    · obtain ⟨entry, among, here⟩ := reported item inside
      exact (right distinct entry among item inside (own entry among item here)).mp here
  · rintro ⟨shown, distinct, all⟩
    have sameKeys : (((grouping.groups rows).map Prod.fst).map some).Perm (items.map itemKey) := by
      rw [List.perm_ext_iff_of_nodup keysNodup distinct]
      intro found
      simp only [List.mem_map (f := some), List.mem_map (f := itemKey),
        mem_keys_items keyed joined]
      constructor
      · rintro ⟨key, ⟨item, inside, same, _⟩, rfl⟩
        exact ⟨item, inside, same⟩
      · rintro ⟨item, inside, rfl⟩
        obtain ⟨key, same⟩ := Option.isSome_iff_exists.mp (shown item inside).2
        exact ⟨key, ⟨item, inside, same, (shown item inside).1⟩, same.symm⟩
    have listed : List.Forall₂ (fun found item => item ∈ items ∧ found = itemKey item)
        (items.map itemKey) items :=
      List.forall₂_map_left_iff.mpr (List.forall₂_same.mpr fun item inside => ⟨inside, rfl⟩)
    obtain ⟨order, related, perm⟩ := List.perm_comp_forall₂ sameKeys listed
    rw [List.forall₂_map_left_iff, List.forall₂_map_left_iff] at related
    refine ⟨order, perm, List.forall₂_map_left_iff.mpr ?_⟩
    refine ((List.forall₂_and_left _ _).mpr ⟨fun _ among => among, related⟩).imp ?_
    rintro entry item ⟨among, inside, same⟩
    exact (right distinct entry among item inside same.symm).mpr (all item inside)

end Items

end Onetcli.Pieces
