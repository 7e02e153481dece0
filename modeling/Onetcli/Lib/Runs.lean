import Mathlib.Data.List.Basic

/-!
Deterministic machines fed with a list of inputs. A run collects every output
and `visited` lists every state from the first to the last, so a safety result
speaks about each state reached and not only about the final one. `Respects`
restricts a run to steps that meet a guard in the state in which they are taken.
-/

namespace Onetcli.Runs

variable {State Input Output Event : Type}

structure Machine (State Input Output : Type) where
  step : State → Input → State × Output

def Machine.run (machine : Machine State Input Output) :
    State → List Input → State × List Output
  | state, [] => (state, [])
  | state, input :: rest =>
    let first := machine.step state input
    let tail := machine.run first.1 rest
    (tail.1, first.2 :: tail.2)

def Machine.visited (machine : Machine State Input Output) :
    State → List Input → List State
  | state, [] => [state]
  | state, input :: rest => state :: machine.visited (machine.step state input).1 rest

def Machine.Respects (machine : Machine State Input Output)
    (guard : State → Input → Prop) : State → List Input → Prop
  | _, [] => True
  | state, input :: rest =>
    guard state input ∧ machine.Respects guard (machine.step state input).1 rest

variable (machine : Machine State Input Output)

-- The invariant rule for runs whose steps all meet the guard.
theorem visited_invariant_guarded (guard : State → Input → Prop) (invariant : State → Prop)
    (state : State) (inputs : List Input)
    (kept : ∀ state, ∀ input ∈ inputs, invariant state → guard state input →
      invariant (machine.step state input).1)
    (respects : machine.Respects guard state inputs) (start : invariant state) :
    ∀ reached ∈ machine.visited state inputs, invariant reached := by
  induction inputs generalizing state with
  | nil =>
    intro reached member
    rw [List.mem_singleton.mp member]
    exact start
  | cons input rest ih =>
    intro reached member
    rcases List.mem_cons.mp member with here | later
    · rw [here]
      exact start
    · apply ih _ _ respects.2 _ reached later
      · intro state other among
        exact kept state other (List.mem_cons_of_mem _ among)
      · exact kept state input List.mem_cons_self start respects.1

theorem respects_always (state : State) (inputs : List Input) :
    machine.Respects (fun _ _ => True) state inputs := by
  induction inputs generalizing state with
  | nil => trivial
  | cons input rest ih => exact ⟨trivial, ih _⟩

theorem visited_invariant (invariant : State → Prop)
    (kept : ∀ state input, invariant state → invariant (machine.step state input).1)
    (state : State) (inputs : List Input) (start : invariant state) :
    ∀ reached ∈ machine.visited state inputs, invariant reached :=
  visited_invariant_guarded machine (fun _ _ => True) invariant state inputs
    (fun state input _ holds _ => kept state input holds)
    (respects_always machine state inputs) start

theorem start_mem_visited (state : State) (inputs : List Input) :
    state ∈ machine.visited state inputs := by
  cases inputs <;> simp [Machine.visited]

-- Among the runs whose steps are all allowed, the guard says exactly which keep a property,
-- when an invariant holds as long as the guard does and a step outside the guard breaks the
-- property.
theorem visited_property_iff_within (allowed guard : State → Input → Prop)
    (invariant property : State → Prop) (implies : ∀ state, invariant state → property state)
    (state : State) (inputs : List Input)
    (kept : ∀ state, ∀ input ∈ inputs, invariant state → allowed state input →
      guard state input → invariant (machine.step state input).1)
    (needed : ∀ state, ∀ input ∈ inputs, invariant state → allowed state input →
      property (machine.step state input).1 → guard state input)
    (respects : machine.Respects allowed state inputs) (start : invariant state) :
    (∀ reached ∈ machine.visited state inputs, property reached) ↔
      machine.Respects guard state inputs := by
  induction inputs generalizing state with
  | nil =>
    refine ⟨fun _ => trivial, fun _ reached member => ?_⟩
    rw [List.mem_singleton.mp member]
    exact implies state start
  | cons input rest ih =>
    have step (guarded : guard state input) :=
      kept state input List.mem_cons_self start respects.1 guarded
    have further (guarded : guard state input) :=
      ih _ (fun state other among => kept state other (List.mem_cons_of_mem _ among))
        (fun state other among => needed state other (List.mem_cons_of_mem _ among))
        respects.2 (step guarded)
    constructor
    · intro holds
      have next : property (machine.step state input).1 :=
        holds _ (List.mem_cons_of_mem _ (start_mem_visited machine _ rest))
      have guarded := needed state input List.mem_cons_self start respects.1 next
      exact ⟨guarded, (further guarded).1
        fun reached member => holds reached (List.mem_cons_of_mem _ member)⟩
    · rintro ⟨guarded, others⟩ reached member
      rcases List.mem_cons.mp member with here | later
      · rw [here]
        exact implies state start
      · exact (further guarded).2 others reached later

-- The same for all runs.
theorem visited_property_iff (guard : State → Input → Prop) (invariant property : State → Prop)
    (implies : ∀ state, invariant state → property state) (state : State) (inputs : List Input)
    (kept : ∀ state, ∀ input ∈ inputs, invariant state → guard state input →
      invariant (machine.step state input).1) (needed : ∀ state, ∀ input ∈ inputs, invariant state →
      property (machine.step state input).1 → guard state input) (start : invariant state) :
    (∀ reached ∈ machine.visited state inputs, property reached) ↔
      machine.Respects guard state inputs :=
  visited_property_iff_within machine (fun _ _ => True) guard invariant property implies state
    inputs (fun state input among holds _ => kept state input among holds)
    (fun state input among holds _ => needed state input among holds)
    (respects_always machine state inputs) start

theorem run_mem_visited (state : State) (inputs : List Input) :
    (machine.run state inputs).1 ∈ machine.visited state inputs := by
  induction inputs generalizing state with
  | nil => exact List.mem_singleton.mpr rfl
  | cons input rest ih => exact List.mem_cons_of_mem _ (ih _)

theorem run_length (state : State) (inputs : List Input) :
    (machine.run state inputs).2.length = inputs.length := by
  induction inputs generalizing state with
  | nil => rfl
  | cons input rest ih => exact congrArg (· + 1) (ih _)

theorem mem_run_output {state : State} {inputs : List Input} {output : Output}
    (member : output ∈ (machine.run state inputs).2) :
    ∃ reached ∈ machine.visited state inputs, ∃ input ∈ inputs,
      (machine.step reached input).2 = output := by
  induction inputs generalizing state with
  | nil => cases member
  | cons input rest ih =>
    rcases List.mem_cons.mp member with rfl | later
    · exact ⟨state, List.mem_cons_self, input, List.mem_cons_self, rfl⟩
    · obtain ⟨reached, visited, other, among, same⟩ := ih later
      exact ⟨reached, List.mem_cons_of_mem _ visited, other, List.mem_cons_of_mem _ among, same⟩

-- A run with a given output splits at the step that gave it.
theorem run_split {state : State} {inputs : List Input} {front back : List Output}
    {output : Output} (ran : (machine.run state inputs).2 = front ++ output :: back) :
    ∃ before input after, inputs = before ++ input :: after ∧ before.length = front.length ∧
      (machine.run state before).2 = front ∧
      (machine.step (machine.run state before).1 input).2 = output := by
  induction inputs generalizing state front with
  | nil => simp [Machine.run] at ran
  | cons input rest ih =>
    cases front with
    | nil =>
      obtain ⟨rfl, _⟩ := List.cons.inj ran
      exact ⟨[], input, rest, rfl, rfl, rfl, rfl⟩
    | cons head front =>
      obtain ⟨rfl, ranRest⟩ := List.cons.inj ran
      obtain ⟨before, last, after, rfl, length, outputs, same⟩ := ih ranRest
      refine ⟨input :: before, last, after, rfl, congrArg (· + 1) length, ?_, same⟩
      exact congrArg (_ :: ·) outputs

theorem run_append (state : State) (first second : List Input) :
    machine.run state (first ++ second) = ((machine.run (machine.run state first).1 second).1,
        (machine.run state first).2 ++ (machine.run (machine.run state first).1 second).2) := by
  induction first generalizing state with
  | nil => rfl
  | cons input rest ih =>
    simp only [List.cons_append, Machine.run]
    rw [ih]

theorem respects_append {guard : State → Input → Prop} (state : State) (first second : List Input) :
    machine.Respects guard state (first ++ second) ↔ machine.Respects guard state first ∧
        machine.Respects guard (machine.run state first).1 second := by
  induction first generalizing state with
  | nil => simp [Machine.Respects, Machine.run]
  | cons input rest ih =>
    simp only [List.cons_append, Machine.Respects, Machine.run]
    rw [ih, and_assoc]

section Views

variable {Other Seen : Type} (other : Machine Other Input Seen) (view : State → Other)

theorem respects_view {guard : Other → Input → Prop} (same : ∀ state input,
      view (machine.step state input).1 = (other.step (view state) input).1)
    (state : State) (inputs : List Input) : other.Respects guard (view state) inputs ↔
      machine.Respects (fun state input => guard (view state) input) state inputs := by
  induction inputs generalizing state with
  | nil => exact Iff.rfl
  | cons input rest ih =>
    simp only [Machine.Respects]
    rw [← same, ih]

end Views

inductive Path (step : State → Option Event → State → Prop) :
    State → List Event → State → Prop where
  | refl (state) : Path step state [] state
  | silent {before middle after events} (head : step before none middle)
      (tail : Path step middle events after) : Path step before events after
  | event {before middle after events} (label : Event)
      (head : step before (some label) middle)
      (tail : Path step middle events after) : Path step before (label :: events) after

-- A machine whose every step is matched by one abstract step performs, over a whole run, an
-- abstract path with the events read off its outputs.
theorem run_simulates {Abstract : Type} (step : Abstract → Option Event → Abstract → Prop)
    (view : State → Abstract) (label : Output → Option Event) (invariant : State → Prop)
    (kept : ∀ state input, invariant state → invariant (machine.step state input).1)
    (matched : ∀ state input, invariant state →
      step (view state) (label (machine.step state input).2) (view (machine.step state input).1))
    (state : State) (inputs : List Input) (start : invariant state) :
    Path step (view state) ((machine.run state inputs).2.filterMap label)
      (view (machine.run state inputs).1) := by
  induction inputs generalizing state with
  | nil => exact .refl _
  | cons input rest ih =>
    have tail := ih _ (kept state input start)
    have head := matched state input start
    simp only [Machine.run, List.filterMap_cons]
    cases event : label (machine.step state input).2 with
    | none =>
      rw [event] at head
      exact .silent head tail
    | some found =>
      rw [event] at head
      exact .event found head tail

end Onetcli.Runs
