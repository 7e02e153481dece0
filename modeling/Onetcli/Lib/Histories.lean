import Onetcli.Lib.Runs

/-!
Histories of events, each judged by those before it. A machine whose steps give events keeps a
law when its state tracks the history: what the state says of the past is enough to see that
the next event is allowed.
-/

namespace Onetcli.Histories

open Runs

variable {Event State Input Output : Type}

theorem snoc_eq_split {history front back : List Event} {last event : Event} :
    history ++ [last] = front ++ event :: back ↔ (back = [] ∧ history = front ∧ last = event) ∨
        ∃ inner, back = inner ++ [last] ∧ history = front ++ event :: inner := by
  constructor
  · intro same
    rcases List.eq_nil_or_concat back with rfl | ⟨inner, final, rfl⟩
    · obtain ⟨rfl, single⟩ := List.append_inj' same rfl
      exact Or.inl ⟨rfl, rfl, (List.cons.inj single).1⟩
    · rw [List.concat_eq_append, ← List.cons_append, ← List.append_assoc] at same
      obtain ⟨before, single⟩ := List.append_inj' same rfl
      obtain rfl := (List.cons.inj single).1
      exact Or.inr ⟨inner, List.concat_eq_append, before⟩
  · rintro (⟨rfl, rfl, rfl⟩ | ⟨inner, rfl, rfl⟩)
    · rfl
    · simp

variable (allowed : List Event → Event → Prop) (tracks : List Event → State → Prop)

def Lawful (history : List Event) : Prop :=
  ∀ front event back, history = front ++ event :: back → allowed front event

theorem lawful_nil : Lawful allowed [] := by
  intro front event back empty
  simp at empty

variable {allowed} in
theorem Lawful.snoc {history : List Event} {event : Event} (lawful : Lawful allowed history)
    (next : allowed history event) : Lawful allowed (history ++ [event]) := by
  intro front other back same
  rcases snoc_eq_split.mp same with ⟨_, rfl, rfl⟩ | ⟨inner, _, before⟩
  · exact next
  · exact lawful front other inner before

structure Extends (history events : List Event) (after : State) : Prop where
  lawful : ∀ front event back, events = front ++ event :: back → allowed (history ++ front) event
  tracks : tracks (history ++ events) after

variable {allowed tracks} {history : List Event} {state after : State}

theorem extends_nil (tracked : tracks history state) : Extends allowed tracks history [] state where
  lawful front event back same := by simp at same
  tracks := by simpa using tracked

theorem extends_one {event : Event} (lawful : allowed history event)
    (tracked : tracks (history ++ [event]) state) :
    Extends allowed tracks history [event] state where
  lawful front other back same := by
    rcases snoc_eq_split.mp (show [] ++ [event] = front ++ other :: back from same) with
      ⟨_, rfl, rfl⟩ | ⟨inner, _, empty⟩
    · simpa using lawful
    · simp at empty
  tracks := tracked

theorem Extends.trans {between : State} {first second : List Event}
    (here : Extends allowed tracks history first between)
    (later : Extends allowed tracks (history ++ first) second after) :
    Extends allowed tracks history (first ++ second) after where
  lawful front event back same := by
    rcases List.append_eq_append_iff.mp same with ⟨inner, rfl, split⟩ | ⟨inner, split, rest⟩
    · rw [← List.append_assoc]
      exact later.lawful inner event back split
    · cases inner with
      | nil =>
        have first := later.lawful [] event back rest.symm
        rw [List.append_nil] at first split
        rwa [← split]
      | cons other inner =>
        obtain ⟨rfl, _⟩ := List.cons.inj rest
        exact here.lawful front event inner split
  tracks := by
    rw [← List.append_assoc]
    exact later.tracks

theorem run_extends {machine : Machine State Input Output} {events : Output → List Event}
    {admitted : List Event → Prop}
    (shorter : ∀ first second, admitted (first ++ second) → admitted first)
    (step : ∀ history state input, tracks history state →
      admitted (history ++ events (machine.step state input).2) →
        Extends allowed tracks history (events (machine.step state input).2)
          (machine.step state input).1) {inputs : List Input} (tracked : tracks history state)
    (admits : admitted (history ++ (machine.run state inputs).2.flatMap events)) :
    Extends allowed tracks history ((machine.run state inputs).2.flatMap events)
      (machine.run state inputs).1 := by
  induction inputs generalizing history state with
  | nil => exact extends_nil tracked
  | cons input rest ih =>
    simp only [Machine.run, List.flatMap_cons] at admits ⊢
    rw [← List.append_assoc] at admits
    have first := step history state input tracked (shorter _ _ admits)
    exact first.trans (ih first.tracks admits)

theorem Extends.whole {events : List Event} (extended : Extends allowed tracks [] events after) :
    Lawful allowed events := by
  intro front event back same
  exact extended.lawful front event back same

end Onetcli.Histories
