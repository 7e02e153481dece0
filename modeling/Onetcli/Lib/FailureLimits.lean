import Mathlib.Data.List.Basic

/-!
Loops over rows that may fail, with a limit on the failures. A loop runs its rows in order until
one is refused or until it stops at a failure; the rows it should run are those with fewer
failures than the limit before them, counted from the first loop on.
-/

namespace Onetcli.FailureLimits

inductive Outcome where
  | done
  | failed
  | refused
  deriving DecidableEq

def failures (outcomes : List Outcome) : Nat := outcomes.count .failed

/-- The failures after a row. -/
def counted (failed : Nat) (outcome : Outcome) : Nat :=
  if outcome = .failed then failed + 1 else failed

@[simp] theorem counted_done (failed : Nat) : counted failed .done = failed := rfl

@[simp] theorem counted_failed (failed : Nat) : counted failed .failed = failed + 1 := rfl

theorem failures_cons (failed : Nat) (outcome : Outcome) (rest : List Outcome) :
    failed + failures (outcome :: rest) = counted failed outcome + failures rest := by
  cases outcome with
  | failed =>
    simp only [failures, counted_failed, List.count_cons_self]
    omega
  | _ => simp [counted, failures]

theorem failures_append (first second : List Outcome) :
    failures (first ++ second) = failures first + failures second := List.count_append

/-- The rows that a loop runs. It counts its own failures and may stop at each of them. -/
def ran (stops : Nat → Bool) : Nat → List Outcome → List Outcome
  | _, [] => []
  | _, .refused :: _ => []
  | count, .done :: rest => .done :: ran stops count rest
  | count, .failed :: rest =>
    .failed :: if stops (count + 1) then [] else ran stops (count + 1) rest

/-- The rows to run after so many failures: those before the limit is reached. -/
def due (limit : Nat) : Nat → List Outcome → List Outcome
  | _, [] => []
  | failed, outcome :: rest =>
    if limit ≤ failed then [] else outcome :: due limit (counted failed outcome) rest

/-- Each of the rows ran before the limit was reached. -/
def WithinLimit (limit : Nat) : Nat → List Outcome → Prop
  | _, [] => True
  | failed, outcome :: rest => failed < limit ∧ WithinLimit limit (counted failed outcome) rest

instance (limit failed : Nat) (outcomes : List Outcome) :
    Decidable (WithinLimit limit failed outcomes) :=
  match outcomes with
  | [] => inferInstanceAs (Decidable True)
  | outcome :: rest =>
    have : Decidable (WithinLimit limit (counted failed outcome) rest) :=
      instDecidableWithinLimit limit (counted failed outcome) rest
    inferInstanceAs (Decidable (failed < limit ∧ _))

theorem within_append (limit failed : Nat) (first second : List Outcome) :
    WithinLimit limit failed (first ++ second) ↔
      WithinLimit limit failed first ∧ WithinLimit limit (failed + failures first) second := by
  induction first generalizing failed with
  | nil => simp [WithinLimit, failures]
  | cons outcome rest ih =>
    simp only [List.cons_append, WithinLimit, ih, failures_cons, and_assoc]

theorem refused_notMem_ran (stops : Nat → Bool) (count : Nat) (outcomes : List Outcome) :
    .refused ∉ ran stops count outcomes := by
  fun_induction ran stops count outcomes with
  | case1 => simp
  | case2 => simp
  | case3 count rest ih => simpa using ih
  | case4 count rest ih =>
    by_cases stopped : stops (count + 1) = true
    · simp [stopped]
    · simpa [stopped] using ih

/-- A loop that watches its failures stops at the one that reaches the limit by itself. -/
structure Watches (limit : Nat) (watching : Prop) (stops : Nat → Bool) : Prop where
  stopsAt : watching → ∀ count, 0 < count → count ≤ limit → (stops count = true ↔ count = limit)
  never : ¬watching → ∀ count, stops count = false

/-- The rows to run include none that is refused, and after them nothing is left, or a refused
row, or the loop stops there because all failures are its own and it watches them. -/
structure Fits (limit : Nat) (watching : Prop) (before failed : Nat) (outcomes : List Outcome) :
    Prop where
  accepted : .refused ∉ due limit failed outcomes
  ends : (outcomes.drop (due limit failed outcomes).length).head? = none ∨
    (outcomes.drop (due limit failed outcomes).length).head? = some .refused ∨
    before = 0 ∧ watching

structure Kept (limit failed : Nat) (run left : List Outcome) : Prop where
  within : WithinLimit limit failed run
  reached : left ≠ [] → limit ≤ failed + failures run

section Loop

variable {limit before : Nat} {watching : Prop} {stops : Nat → Bool}

theorem fits_cons {failed : Nat} {outcome : Outcome} {rest : List Outcome}
    (below : failed < limit) (accepted : outcome ≠ .refused) :
    Fits limit watching before failed (outcome :: rest) ↔
      Fits limit watching before (counted failed outcome) rest := by
  have next : due limit failed (outcome :: rest) =
      outcome :: due limit (counted failed outcome) rest := by
    rw [due, if_neg (by omega)]
  constructor
  · rintro ⟨none, ends⟩
    rw [next] at none ends
    exact ⟨fun among => none (List.mem_cons_of_mem _ among), ends⟩
  · rintro ⟨none, ends⟩
    constructor
    · rw [next]
      simpa [Ne.symm accepted] using none
    · rw [next]
      exact ends

theorem kept_cons {failed : Nat} {outcome : Outcome} {run left : List Outcome}
    (below : failed < limit) :
    Kept limit failed (outcome :: run) left ↔ Kept limit (counted failed outcome) run left := by
  have total := failures_cons failed outcome run
  constructor
  · rintro ⟨within, reached⟩
    exact ⟨within.2, fun some => total ▸ reached some⟩
  · rintro ⟨within, reached⟩
    exact ⟨⟨below, within⟩, fun some => total ▸ reached some⟩

theorem fits_past {failed : Nat} {outcome : Outcome} {rest : List Outcome} (past : limit ≤ failed)
    (others : ¬(before = 0 ∧ watching)) :
    Fits limit watching before failed (outcome :: rest) ↔ outcome = .refused := by
  have none : due limit failed (outcome :: rest) = [] := by rw [due, if_pos past]
  constructor
  · rintro ⟨_, ends⟩
    rw [none] at ends
    rcases ends with done | refused | own
    · cases done
    · exact Option.some.inj refused
    · exact absurd own others
  · rintro rfl
    constructor
    · rw [none]
      exact List.not_mem_nil
    · rw [none]
      exact Or.inr (Or.inl rfl)

-- What a loop that has met `count` failures of its own keeps, by induction on its rows.
theorem kept_iff (watches : Watches limit watching stops) (outcomes : List Outcome) (count : Nat)
    (going : watching → count < limit) : Kept limit (before + count) (ran stops count outcomes)
        (outcomes.drop (ran stops count outcomes).length) ↔
      Fits limit watching before (before + count) outcomes := by
  have others (past : limit ≤ before + count) : ¬(before = 0 ∧ watching) := by
    rintro ⟨rfl, watched⟩
    have := going watched
    omega
  induction outcomes generalizing count with
  | nil => exact ⟨fun _ => ⟨List.not_mem_nil, Or.inl rfl⟩, fun _ => ⟨trivial, absurd rfl⟩⟩
  | cons outcome rest ih =>
    by_cases past : limit ≤ before + count
    · rw [fits_past past (others past)]
      cases outcome with
      | refused => exact ⟨fun _ => rfl, fun _ => ⟨trivial, fun _ => past⟩⟩
      | done | failed =>
        exact ⟨fun kept => absurd kept.within.1 (by omega), fun same => by cases same⟩
    · have below : before + count < limit := by omega
      cases outcome with
      | refused =>
        constructor
        · intro kept
          exact absurd (kept.reached (List.cons_ne_nil _ _)) past
        · intro fits
          have meets := fits.accepted
          rw [due, if_neg past] at meets
          exact absurd List.mem_cons_self meets
      | done =>
        rw [fits_cons below (by decide), ran, List.length_cons, List.drop_succ_cons,
          kept_cons below]
        exact ih count going others
      | failed =>
        rw [fits_cons below (by decide), ran]
        by_cases stopped : stops (count + 1) = true
        · -- the loop watches, and this failure reaches the limit
          have watched : watching := by
            by_contra unwatched
            rw [watches.never unwatched] at stopped
            cases stopped
          have own := going watched
          have last := (watches.stopsAt watched (count + 1) (by omega) (by omega)).1 stopped
          rw [if_pos stopped]
          constructor
          · intro _
            have none : due limit (counted (before + count) .failed) rest = [] := by
              cases rest with
              | nil => rfl
              | cons next rest => rw [due, if_pos (by rw [counted_failed]; omega)]
            constructor
            · rw [none]
              exact List.not_mem_nil
            · exact Or.inr (Or.inr ⟨by omega, watched⟩)
          · intro _
            constructor
            · exact ⟨below, trivial⟩
            · intro _
              have one : failures [.failed] = 1 := rfl
              omega
        · have further (watched : watching) : count + 1 < limit := by
            have own := going watched
            have other := mt (watches.stopsAt watched (count + 1) (by omega) (by omega)).2 stopped
            omega
          rw [if_neg stopped, List.length_cons, List.drop_succ_cons, kept_cons below]
          exact ih (count + 1) further
            fun later own => absurd (further own.2) (by have := own.1; omega)

end Loop

theorem due_of_kept {limit failed : Nat} {run left : List Outcome}
    (kept : Kept limit failed run left) : due limit failed (run ++ left) = run := by
  induction run generalizing failed with
  | nil =>
    cases left with
    | nil => rfl
    | cons next left => exact if_pos (kept.reached (List.cons_ne_nil _ _))
  | cons outcome run ih =>
    have below : failed < limit := kept.within.1
    rw [List.cons_append, due, if_neg (by omega), ih ((kept_cons below).1 kept)]

theorem Kept.congr {limit failed : Nat} {run : List Outcome} {Row : Type} {left : List Outcome}
    {rows : List Row} (same : left = [] ↔ rows = []) : Kept limit failed run left ↔
      WithinLimit limit failed run ∧ (rows ≠ [] → limit ≤ failed + failures run) :=
  ⟨fun kept => ⟨kept.within, fun some => kept.reached (mt same.1 some)⟩,
    fun both => ⟨both.1, fun some => both.2 (mt same.2 some)⟩⟩

theorem done_add_failures {outcomes : List Outcome} (accepted : .refused ∉ outcomes) :
    outcomes.count .done + failures outcomes = outcomes.length := by
  induction outcomes with
  | nil => rfl
  | cons outcome rest ih =>
    have others := ih fun among => accepted (List.mem_cons_of_mem _ among)
    cases outcome with
    | refused => exact absurd List.mem_cons_self accepted
    | done | failed =>
      simp only [failures, List.count_cons, List.length_cons] at others ⊢
      simp
      omega

theorem ran_begins (stops : Nat → Bool) (count : Nat) (outcomes : List Outcome) :
    ran stops count outcomes <+: outcomes := by
  fun_induction ran stops count outcomes with
  | case1 => exact List.prefix_refl _
  | case2 => exact List.nil_prefix
  | case3 count rest ih => exact (List.cons_prefix_cons).2 ⟨rfl, ih⟩
  | case4 count rest ih =>
    refine (List.cons_prefix_cons).2 ⟨rfl, ?_⟩
    by_cases stopped : stops (count + 1) = true
    · rw [if_pos stopped]
      exact List.nil_prefix
    · rw [if_neg stopped]
      exact ih

theorem ran_append_drop (stops : Nat → Bool) (count : Nat) (outcomes : List Outcome) :
    ran stops count outcomes ++ outcomes.drop (ran stops count outcomes).length = outcomes :=
  (List.prefix_iff_eq_append.1 (ran_begins stops count outcomes))

end Onetcli.FailureLimits
