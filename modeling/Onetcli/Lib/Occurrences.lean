import Onetcli.Lib.Chars

/-!
Names that come again are told apart by a number behind them: each item of a list has the
number of its occurrence among the items of its key, and every occurrence but the first is
marked with it. A marked name can be the name of another item; otherwise they differ.
-/

namespace Onetcli.Occurrences

open Chars

/-! ## Numbers -/

section Numbers

variable {Item Key : Type} [BEq Key] (key : Item → Key)

/-- The items with their numbers, where items with the keys `seen` came before. -/
def numbered (seen : List Key) : List Item → List (Item × Nat)
  | [] => []
  | item :: rest => (item, seen.count (key item) + 1) :: numbered (key item :: seen) rest

variable {key}

theorem numbered_bounds {seen : List Key} {items : List Item} {entry : Item × Nat}
    (member : entry ∈ numbered key seen items) : seen.count (key entry.1) < entry.2 := by
  induction items generalizing seen with
  | nil => cases member
  | cons item rest ih =>
    rw [numbered] at member
    rcases List.mem_cons.mp member with rfl | later
    · exact Nat.lt_succ_self _
    · have above := ih later
      have fewer := List.count_le_count_cons (a := key entry.1) (b := key item) (l := seen)
      omega

theorem numbered_pairwise [LawfulBEq Key] (seen : List Key) (items : List Item) :
    (numbered key seen items).Pairwise fun first second =>
      key first.1 = key second.1 → first.2 < second.2 := by
  induction items generalizing seen with
  | nil => exact .nil
  | cons item rest ih =>
    rw [numbered]
    refine .cons ?_ (ih _)
    intro later member same
    have above := numbered_bounds member
    dsimp only at same
    rw [← same, List.count_cons_self] at above
    exact above

-- Items whose keys are left out leave the numbers of the others alone.
theorem numbered_filter [LawfulBEq Key] (keep : Key → Bool) {seen : List Key} (before : List Key)
    (agree : ∀ name, keep name = true → seen.count name = before.count name) (items : List Item) :
    numbered key seen (items.filter fun item => keep (key item)) =
      (numbered key before items).filter fun entry => keep (key entry.1) := by
  induction items generalizing seen before with
  | nil => rfl
  | cons item rest ih =>
    rw [numbered, List.filter_cons, List.filter_cons]
    by_cases kept : keep (key item) = true
    · have later : ∀ name, keep name = true →
          (key item :: seen).count name = (key item :: before).count name := by
        intro name keeps
        rw [List.count_cons, List.count_cons, agree name keeps]
      rw [if_pos kept, if_pos kept, numbered, agree _ kept, ih _ later]
    · -- An item that is left out counts for its own key only, which is not kept.
      have later : ∀ name, keep name = true →
          seen.count name = (key item :: before).count name := by
        intro name keeps
        have differ : key item ≠ name := fun same => kept (same ▸ keeps)
        rw [List.count_cons_of_ne differ, agree name keeps]
      rw [if_neg kept, if_neg kept, ih _ later]

end Numbers

/-! ## Marks -/

def digits (number : Nat) : Chars := (toString number).toList

theorem digits_inj {first second : Nat} (same : digits first = digits second) : first = second :=
  Text.digits_injective (String.toList_injective same)

theorem digits_plain {char : Char} (other : char.isDigit = false) (number : Nat) :
    char ∉ digits number := by
  intro member
  have spelled : digits number = Nat.toDigits 10 number := Nat.toList_repr
  rw [spelled] at member
  have digit := Nat.isDigit_of_mem_toDigits (by decide) (by decide) member
  rw [other] at digit
  cases digit

def marked (separator : Char) (name : Chars) (number : Nat) : Chars :=
  if number = 1 then name else name ++ separator :: digits number

section Marks

variable {separator : Char} (notDigit : separator.isDigit = false)

include notDigit

theorem mark_inj {first second : Chars} {number other : Nat}
    (same : first ++ separator :: digits number = second ++ separator :: digits other) :
    first = second ∧ number = other := by
  have cut (name : Chars) (count : Nat) :
      rsplitOnce (· == separator) (name ++ separator :: digits count) =
        some (name, digits count) := by
    have absent : rsplitOnce (· == separator) (digits count) = none := by
      rw [rsplitOnce, splitOnce_absent]
      · rfl
      · rw [List.mem_reverse]
        exact digits_plain notDigit count
    have split := @rsplitOnce_append_cons (· == separator) separator (beq_self_eq_true separator)
      name (digits count)
    rw [absent] at split
    exact split
  have both := congrArg (rsplitOnce (· == separator)) same
  rw [cut, cut] at both
  simp only [Option.some.injEq, Prod.mk.injEq] at both
  exact ⟨both.1, digits_inj both.2⟩

theorem marked_eq_iff {first second : Chars} {number other : Nat} :
    marked separator first number = marked separator second other ↔
      (first = second ∧ number = other) ∨
        (number = 1 ∧ other ≠ 1 ∧ first = second ++ separator :: digits other) ∨
        (number ≠ 1 ∧ other = 1 ∧ second = first ++ separator :: digits number) := by
  rw [marked, marked]
  by_cases single : number = 1
  · by_cases alone : other = 1
    · simp [single, alone]
    · have apart : (1 : Nat) ≠ other := Ne.symm alone
      simp [single, alone, apart]
  · by_cases alone : other = 1
    · simp [single, alone, eq_comm]
    · rw [if_neg single, if_neg alone]
      constructor
      · intro same
        exact Or.inl (mark_inj notDigit same)
      · rintro (⟨rfl, rfl⟩ | ⟨first, _⟩ | ⟨_, second, _⟩)
        · rfl
        · exact absurd first single
        · exact absurd second alone

end Marks

end Onetcli.Occurrences
