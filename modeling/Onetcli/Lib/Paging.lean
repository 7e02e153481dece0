import Onetcli.Lib.Runs

/-!
Machines that hand out a sequence of items page by page. What is left in a state is the
page of the next step and what is left after it, so the pages of a run are a prefix of what
was left at its start, and all of it once a page is the last.
-/

namespace Onetcli.Paging

open Runs

variable {State Input Output Item : Type}

/-- How a machine hands out what is left, as long as its steps are allowed. A closed state is
one in which a last page was given. -/
structure Pager (machine : Machine State Input Output) (left : State → List Item)
    (page : Output → List Item) (last : Output → Bool) (closed : State → Prop)
    (invariant : State → Prop) (allowed : State → Input → Prop) : Prop where
  kept : ∀ state input, invariant state → allowed state input → invariant (machine.step state input).1
  split : ∀ state input, invariant state → allowed state input →
    left state = page (machine.step state input).2 ++ left (machine.step state input).1
  closes : ∀ state input, invariant state → allowed state input →
    last (machine.step state input).2 = true → closed (machine.step state input).1
  stays : ∀ state input, invariant state → allowed state input → closed state →
    last (machine.step state input).2 = true
  quiet : ∀ state input, invariant state → allowed state input → closed state →
    page (machine.step state input).2 = []

variable {machine : Machine State Input Output} {left : State → List Item}
  {page : Output → List Item} {last : Output → Bool} {closed invariant : State → Prop}
  {allowed : State → Input → Prop}

variable (pager : Pager machine left page last closed invariant allowed) {state : State}
  {inputs : List Input}

include pager

theorem Pager.run_invariant (start : invariant state)
    (each : machine.Respects allowed state inputs) : invariant (machine.run state inputs).1 := by
  induction inputs generalizing state with
  | nil => exact start
  | cons input rest ih =>
    exact ih (pager.kept state input start each.1) each.2

theorem Pager.run_split (start : invariant state)
    (each : machine.Respects allowed state inputs) : left state =
      (machine.run state inputs).2.flatMap page ++ left (machine.run state inputs).1 := by
  induction inputs generalizing state with
  | nil => rfl
  | cons input rest ih =>
    rw [pager.split state input start each.1, ih (pager.kept state input start each.1) each.2]
    exact (List.append_assoc _ _ _).symm

theorem Pager.run_each {fits : Input → Output → Prop}
    (each : ∀ state input, invariant state → allowed state input →
      fits input (machine.step state input).2)
    (start : invariant state) (respects : machine.Respects allowed state inputs) :
    List.Forall₂ fits inputs (machine.run state inputs).2 := by
  induction inputs generalizing state with
  | nil => exact .nil
  | cons input rest ih =>
    exact .cons (each state input start respects.1)
      (ih (pager.kept state input start respects.1) respects.2)

theorem Pager.run_all {good : Output → Prop}
    (each : ∀ state input, invariant state → allowed state input → good (machine.step state input).2)
    (start : invariant state) (respects : machine.Respects allowed state inputs) :
    ∀ output ∈ (machine.run state inputs).2, good output := by
  induction inputs generalizing state with
  | nil => exact fun _ member => absurd member List.not_mem_nil
  | cons input rest ih =>
    intro output member
    rcases List.mem_cons.mp member with rfl | later
    · exact each state input start respects.1
    · exact ih (pager.kept state input start respects.1) respects.2 output later

theorem Pager.pages_prefix (start : invariant state)
    (each : machine.Respects allowed state inputs) :
    (machine.run state inputs).2.flatMap page <+: left state := by
  rw [pager.run_split start each]
  exact List.prefix_append _ _

theorem Pager.closed_run (start : invariant state)
    (each : machine.Respects allowed state inputs) (ended : closed state) :
    ∀ output ∈ (machine.run state inputs).2, page output = [] ∧ last output = true := by
  induction inputs generalizing state with
  | nil => exact fun _ member => absurd member List.not_mem_nil
  | cons input rest ih =>
    have ending := pager.stays state input start each.1 ended
    have next := pager.kept state input start each.1
    intro output member
    rcases List.mem_cons.mp member with rfl | later
    · exact ⟨pager.quiet state input start each.1 ended, ending⟩
    · exact ih next each.2 (pager.closes state input start each.1 ending) output later

-- Only empty last pages follow a last page.
theorem Pager.after_last (start : invariant state)
    (each : machine.Respects allowed state inputs) {front back : List Output} {output : Output}
    (ran : (machine.run state inputs).2 = front ++ output :: back) (ends : last output = true) :
    ∀ later ∈ back, page later = [] ∧ last later = true := by
  induction inputs generalizing state front with
  | nil => simp [Machine.run] at ran
  | cons input rest ih =>
    have next := pager.kept state input start each.1
    cases front with
    | nil =>
      obtain ⟨rfl, rfl⟩ := List.cons.inj ran
      exact pager.closed_run next each.2 (pager.closes state input start each.1 ends)
    | cons head front =>
      obtain ⟨rfl, ranRest⟩ := List.cons.inj ran
      exact ih next each.2 ranRest

-- Once a page is the last, everything was handed out, if nothing is left in closed states.
theorem Pager.last_complete (empty : ∀ state, invariant state → closed state → left state = [])
    (start : invariant state)
    (each : machine.Respects allowed state inputs) {front back : List Output} {output : Output}
    (ran : (machine.run state inputs).2 = front ++ output :: back) (ends : last output = true) :
    (front ++ [output]).flatMap page = left state := by
  induction inputs generalizing state front with
  | nil => simp [Machine.run] at ran
  | cons input rest ih =>
    have next := pager.kept state input start each.1
    cases front with
    | nil =>
      obtain ⟨rfl, rfl⟩ := List.cons.inj ran
      rw [pager.split state input start each.1,
        empty _ next (pager.closes state input start each.1 ends)]
      simp
    | cons head front =>
      obtain ⟨rfl, ranRest⟩ := List.cons.inj ran
      rw [pager.split state input start each.1, ← ih next each.2 ranRest]
      rfl

-- A page is the last exactly when an input stopped the machine or everything was handed out.
theorem Pager.last_iff (stops : Input → Prop)
    (stopping : ∀ state input, invariant state → allowed state input → stops input →
      last (machine.step state input).2 = true)
    (completes : ∀ state input, invariant state → allowed state input → ¬stops input →
      (closed state → left state = []) → closed (machine.step state input).1 →
      left (machine.step state input).1 = [])
    (announces : ∀ state input, invariant state → allowed state input → ¬stops input →
      left (machine.step state input).1 = [] → last (machine.step state input).2 = true)
    (start : invariant state)
    (each : machine.Respects allowed state inputs) (fresh : closed state → left state = [])
    {front back : List Output} {output : Output}
    (ran : (machine.run state inputs).2 = front ++ output :: back) :
    last output = true ↔ (∃ input ∈ inputs.take (front.length + 1), stops input) ∨
      (front ++ [output]).flatMap page = left state := by
  induction inputs generalizing state front with
  | nil => simp [Machine.run] at ran
  | cons input rest ih =>
    have next := pager.kept state input start each.1
    have whole := pager.split state input start each.1
    by_cases stopped : stops input
    · -- The machine is closed from here on.
      have ending := stopping state input start each.1 stopped
      have after := pager.closed_run next each.2 (pager.closes state input start each.1 ending)
      have isLast : last output = true := by
        cases front with
        | nil =>
          obtain ⟨rfl, _⟩ := List.cons.inj ran
          exact ending
        | cons head front =>
          obtain ⟨_, ranRest⟩ := List.cons.inj ran
          exact (after output (by simp [ranRest])).2
      simp [isLast, stopped]
    · have complete := completes state input start each.1 stopped fresh
      cases front with
      | nil =>
        obtain ⟨rfl, _⟩ := List.cons.inj ran
        constructor
        · intro ending
          right
          rw [whole, complete (pager.closes state input start each.1 ending)]
          simp
        · rintro (⟨other, among, stops⟩ | given)
          · obtain rfl : other = input := by simpa using among
            exact absurd stops stopped
          · apply announces state input start each.1 stopped
            rw [whole] at given
            simpa using given
      | cons head front =>
        obtain ⟨rfl, ranRest⟩ := List.cons.inj ran
        rw [ih next each.2 complete ranRest, whole]
        simp [stopped]

omit pager in
theorem length_le_pages {outputs : List Output} (gives : ∀ output ∈ outputs, page output ≠ []) :
    outputs.length ≤ (outputs.flatMap page).length := by
  induction outputs with
  | nil => exact Nat.zero_le _
  | cons output rest ih =>
    have first := List.length_pos_of_ne_nil (gives output List.mem_cons_self)
    have others := ih fun other among => gives other (List.mem_cons_of_mem _ among)
    simp only [List.length_cons, List.flatMap_cons, List.length_append]
    omega

-- If every useful step but the last gives an item, the last page comes in time.
theorem Pager.last_comes (useful : Input → Output → Bool)
    (moves : ∀ state input, invariant state → allowed state input →
      useful input (machine.step state input).2 = true →
      last (machine.step state input).2 = false → page (machine.step state input).2 ≠ [])
    (start : invariant state)
    (each : machine.Respects allowed state inputs) (enough : (left state).length <
      (inputs.zip (machine.run state inputs).2).countP fun step => useful step.1 step.2) :
    ∃ output ∈ (machine.run state inputs).2, last output = true := by
  induction inputs generalizing state with
  | nil => exact absurd enough (Nat.not_lt_zero _)
  | cons input rest ih =>
    cases ending : last (machine.step state input).2 with
    | true => exact ⟨_, List.mem_cons_self, ending⟩
    | false =>
      have whole := congrArg List.length (pager.split state input start each.1)
      rw [List.length_append] at whole
      simp only [Machine.run, List.zip_cons_cons, List.countP_cons] at enough
      have later : (left (machine.step state input).1).length <
          (rest.zip (machine.run (machine.step state input).1 rest).2).countP
            fun step => useful step.1 step.2 := by
        cases counts : useful input (machine.step state input).2 with
        | false =>
          rw [counts] at enough
          simp only [Bool.false_eq_true, if_false] at enough
          omega
        | true =>
          have some := List.length_pos_of_ne_nil
            (moves state input start each.1 counts ending)
          rw [counts, if_pos rfl] at enough
          omega
      obtain ⟨output, member, isLast⟩ :=
        ih (pager.kept state input start each.1) each.2 later
      exact ⟨output, List.mem_cons_of_mem _ member, isLast⟩

theorem Pager.restrict {stronger : State → Prop} {fewer : State → Input → Prop}
    (implies : ∀ state, stronger state → invariant state)
    (allows : ∀ state input, fewer state input → allowed state input)
    (kept : ∀ state input, stronger state → fewer state input →
      stronger (machine.step state input).1) :
    Pager machine left page last closed stronger fewer where
  kept := kept
  split state input holds step := pager.split state input (implies state holds) (allows _ _ step)
  closes state input holds step :=
    pager.closes state input (implies state holds) (allows _ _ step)
  stays state input holds step := pager.stays state input (implies state holds) (allows _ _ step)
  quiet state input holds step := pager.quiet state input (implies state holds) (allows _ _ step)

end Onetcli.Paging
