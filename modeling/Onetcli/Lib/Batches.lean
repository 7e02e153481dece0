import Mathlib

/-!
Items that arrive in batches and are numbered. A number counted within a batch is
the number counted over all of them only if no item came before the batch;
`numbers_agree_iff` says that for the items of a marked kind.
-/

/-!
Attempts made one after the other, each of which gives a count or fails. A failure may end
them, so the outcomes that are met are those of a prefix of the attempts.
-/

namespace Onetcli.Attempts

variable {Error Count : Type}

def failed : Except Error Count → Bool
  | .ok _ => false
  | .error _ => true

/-- The outcomes up to the first failure, if that one ends the attempts. -/
@[grind =]
def met (stop : Bool) : List (Except Error Count) → List (Except Error Count)
  | [] => []
  | outcome :: rest => outcome :: if stop && failed outcome then [] else met stop rest

variable (stop : Bool)

theorem met_prefix (outcomes : List (Except Error Count)) : met stop outcomes <+: outcomes := by
  induction outcomes with
  | nil => exact List.nil_prefix
  | cons outcome rest ih =>
    rw [met]
    apply List.prefix_cons_inj outcome |>.mpr
    split
    · exact List.nil_prefix
    · exact ih

theorem met_stops {outcomes : List (Except Error Count)} {index : Nat} {error : Error}
    (here : (met true outcomes)[index]? = some (.error error)) :
    index + 1 = (met true outcomes).length := by
  induction outcomes generalizing index with
  | nil => simp [met] at here
  | cons outcome rest ih =>
    rw [met, Bool.true_and] at here ⊢
    cases outcome with
    | error error =>
      cases index with
      | zero => rfl
      | succ index => simp [failed] at here
    | ok count =>
      cases index with
      | zero => simp at here
      | succ index =>
        simp only [failed, Bool.false_eq_true, if_false, List.getElem?_cons_succ,
          List.length_cons] at here ⊢
        rw [ih here]

theorem met_whole (outcomes : List (Except Error Count)) : met stop outcomes = outcomes ∨
      stop = true ∧ ∃ error, (met stop outcomes).getLast? = some (.error error) := by
  induction outcomes with
  | nil => exact Or.inl rfl
  | cons outcome rest ih =>
    rw [met]
    by_cases ended : (stop && failed outcome) = true
    · rw [if_pos ended]
      rw [Bool.and_eq_true] at ended
      cases outcome with
      | error error => exact Or.inr ⟨ended.1, error, rfl⟩
      | ok count => cases ended.2
    · rw [if_neg ended]
      rcases ih with whole | ⟨stops, error, last⟩
      · exact Or.inl (congrArg _ whole)
      · refine Or.inr ⟨stops, error, ?_⟩
        rw [List.getLast?_cons, last]
        rfl

theorem met_succeeded {outcomes : List (Except Error Count)}
    (succeeded : ∀ outcome ∈ outcomes, failed outcome = false) : met stop outcomes = outcomes := by
  induction outcomes with
  | nil => rfl
  | cons outcome rest ih =>
    rw [met, succeeded outcome List.mem_cons_self, Bool.and_false,
      ih fun other among => succeeded other (List.mem_cons_of_mem _ among)]
    rfl

end Onetcli.Attempts

namespace Onetcli.Batches

variable {Item : Type} (marked : Item → Bool)

def localNumbers (batches : List (List Item)) : List Nat :=
  batches.flatMap fun batch => batch.findIdxs marked

/-- The numbers of the marked items, counted from `before` on over all batches. -/
def globalNumbers (before : Nat) (batches : List (List Item)) : List Nat :=
  batches.flatten.findIdxs marked before

def Aligned : Nat → List (List Item) → Prop
  | _, [] => True
  | before, batch :: rest =>
    (before = 0 ∨ ∀ item ∈ batch, marked item = false) ∧ Aligned (before + batch.length) rest

variable {marked}

theorem globalNumbers_cons (before : Nat) (batch : List Item) (rest : List (List Item)) :
    globalNumbers marked before (batch :: rest) =
      batch.findIdxs marked before ++ globalNumbers marked (before + batch.length) rest := by
  rw [globalNumbers, List.flatten_cons, List.findIdxs_append, globalNumbers]

theorem sum_findIdxs (before : Nat) (batch : List Item) : (batch.findIdxs marked before).sum =
      (batch.findIdxs marked).sum + before * batch.countP marked := by
  rw [List.findIdxs_start, ← List.length_findIdxs (p := marked) (s := 0)]
  induction batch.findIdxs marked with
  | nil => simp
  | cons number rest ih =>
    rw [List.map_cons, List.sum_cons, ih, List.sum_cons, List.length_cons, Nat.mul_succ]
    omega

theorem length_localNumbers (before : Nat) (batches : List (List Item)) :
    (localNumbers marked batches).length = (globalNumbers marked before batches).length := by
  induction batches generalizing before with
  | nil => rfl
  | cons batch rest ih =>
    rw [globalNumbers_cons, List.length_append, ← ih, localNumbers, List.flatMap_cons,
      List.length_append, List.length_findIdxs, List.length_findIdxs]
    rfl

theorem sum_localNumbers_le (before : Nat) (batches : List (List Item)) :
    (localNumbers marked batches).sum ≤ (globalNumbers marked before batches).sum := by
  induction batches generalizing before with
  | nil => exact Nat.le_refl _
  | cons batch rest ih =>
    have later := ih (before + batch.length)
    rw [globalNumbers_cons, List.sum_append, sum_findIdxs, localNumbers, List.flatMap_cons,
      List.sum_append]
    exact Nat.add_le_add (Nat.le_add_right _ _) later

theorem aligned_of_sum_eq (before : Nat) (batches : List (List Item))
    (same : (localNumbers marked batches).sum = (globalNumbers marked before batches).sum) :
    Aligned marked before batches := by
  induction batches generalizing before with
  | nil => trivial
  | cons batch rest ih =>
    have later : (localNumbers marked rest).sum ≤
        (globalNumbers marked (before + batch.length) rest).sum := sum_localNumbers_le _ rest
    rw [globalNumbers_cons, List.sum_append, sum_findIdxs, localNumbers, List.flatMap_cons,
      List.sum_append] at same
    change _ + (localNumbers marked rest).sum = _ at same
    -- What the batch adds beyond its own numbers is `before` for every marked item.
    have noExcess : before * batch.countP marked = 0 := by omega
    refine ⟨?_, ih _ (by omega)⟩
    rcases Nat.mul_eq_zero.mp noExcess with first | unmarked
    · exact Or.inl first
    · refine Or.inr fun item member => ?_
      simpa using List.countP_eq_zero.mp unmarked item member

theorem localNumbers_of_aligned (before : Nat) (batches : List (List Item))
    (aligned : Aligned marked before batches) :
    localNumbers marked batches = globalNumbers marked before batches := by
  induction batches generalizing before with
  | nil => rfl
  | cons batch rest ih =>
    rw [globalNumbers_cons, ← ih _ aligned.2, localNumbers, List.flatMap_cons]
    rcases aligned.1 with rfl | unmarked
    · rfl
    · rw [List.findIdxs_eq_nil_iff.mpr unmarked, List.findIdxs_eq_nil_iff.mpr unmarked]
      rfl

-- The numbers counted within batches are different numbers of marked items, counted over all
-- batches, exactly when no marked item follows an earlier batch.
theorem numbers_agree_iff (batches : List (List Item)) : ((localNumbers marked batches).Nodup ∧
        ∀ number ∈ localNumbers marked batches, number ∈ globalNumbers marked 0 batches) ↔
      Aligned marked 0 batches := by
  constructor
  · rintro ⟨different, positions⟩
    have permuted : (localNumbers marked batches).Perm (globalNumbers marked 0 batches) :=
      (different.subperm positions).perm_of_length_le
        (Nat.le_of_eq (length_localNumbers 0 batches).symm)
    exact aligned_of_sum_eq 0 batches permuted.sum_eq
  · intro aligned
    rw [localNumbers_of_aligned 0 batches aligned]
    exact ⟨List.nodup_findIdxs, fun number member => member⟩

end Onetcli.Batches
