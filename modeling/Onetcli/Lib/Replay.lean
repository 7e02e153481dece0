import Mathlib.Data.List.Basic

/-!
Updates that are applied to a state one after the other, and a condition that each
must meet in the state in which it is applied. A list of updates replaces another if
it meets the condition wherever the other does and leads to the same state; updates
that change nothing and may stand anywhere are idle.
-/

namespace Onetcli.Replay

variable {State Update : Type} (apply : State → Update → State)
  (fits : State → Update → Prop)

def replay (state : State) (updates : List Update) : State :=
  updates.foldl apply state

def Along : State → List Update → Prop
  | _, [] => True
  | state, update :: rest => fits state update ∧ Along (apply state update) rest

structure Idle (update : Update) : Prop where
  keeps : ∀ state, apply state update = state
  fitting : ∀ state, fits state update

def Replaces (old new : List Update) : Prop :=
  ∀ state, Along apply fits state old →
    Along apply fits state new ∧ replay apply state new = replay apply state old

variable {apply fits}

@[simp]
theorem replay_nil (state : State) : replay apply state [] = state := rfl

@[simp]
theorem replay_cons (state : State) (update : Update) (rest : List Update) :
    replay apply state (update :: rest) = replay apply (apply state update) rest := rfl

theorem replay_append (state : State) (first second : List Update) :
    replay apply state (first ++ second) = replay apply (replay apply state first) second :=
  List.foldl_append

theorem along_append (state : State) (first second : List Update) :
    Along apply fits state (first ++ second) ↔
      Along apply fits state first ∧ Along apply fits (replay apply state first) second := by
  induction first generalizing state with
  | nil => simp [Along]
  | cons update rest ih =>
    rw [List.cons_append, Along, Along, ih, and_assoc]
    rfl

theorem Along.at {state : State} {before after : List Update} {update : Update}
    (along : Along apply fits state (before ++ update :: after)) :
    fits (replay apply state before) update :=
  ((along_append state before _).mp along).2.1

theorem replay_idle {updates : List Update} (idle : ∀ update ∈ updates, Idle apply fits update)
    (state : State) : replay apply state updates = state := by
  induction updates with
  | nil => rfl
  | cons update rest ih =>
    rw [replay_cons, (idle update List.mem_cons_self).keeps]
    apply ih
    intro other member
    exact idle other (List.mem_cons_of_mem _ member)

theorem along_idle {updates : List Update} (idle : ∀ update ∈ updates, Idle apply fits update)
    (state : State) : Along apply fits state updates := by
  induction updates with
  | nil => trivial
  | cons update rest ih =>
    refine ⟨(idle update List.mem_cons_self).fitting state, ?_⟩
    rw [(idle update List.mem_cons_self).keeps]
    apply ih
    intro other member
    exact idle other (List.mem_cons_of_mem _ member)

theorem Replaces.refl (updates : List Update) : Replaces apply fits updates updates :=
  fun _ along => ⟨along, rfl⟩

theorem Replaces.trans {first second third : List Update} (one : Replaces apply fits first second)
    (two : Replaces apply fits second third) : Replaces apply fits first third := by
  intro state along
  obtain ⟨middle, same⟩ := one state along
  obtain ⟨last, equal⟩ := two state middle
  exact ⟨last, equal.trans same⟩

theorem Replaces.idle {old new idleOld idleNew : List Update}
    (oldIdle : ∀ update ∈ idleOld, Idle apply fits update)
    (newIdle : ∀ update ∈ idleNew, Idle apply fits update) (inner : Replaces apply fits old new) :
    Replaces apply fits (idleOld ++ old) (idleNew ++ new) := by
  intro state along
  have rest := ((along_append state idleOld old).mp along).2
  rw [replay_idle oldIdle] at rest
  obtain ⟨fitting, same⟩ := inner state rest
  rw [along_append, replay_append, replay_append, replay_idle oldIdle, replay_idle newIdle]
  exact ⟨⟨along_idle newIdle state, fitting⟩, same⟩

theorem Replaces.dropIdle (updates : List Update) {last : List Update}
    (idle : ∀ update ∈ last, Idle apply fits update) :
    Replaces apply fits (updates ++ last) updates := by
  intro state along
  rw [replay_append, replay_idle idle]
  exact ⟨((along_append state updates last).mp along).1, rfl⟩

theorem Replaces.append {old new : List Update} (inner : Replaces apply fits old new)
    (before after : List Update) :
    Replaces apply fits (before ++ old ++ after) (before ++ new ++ after) := by
  intro state along
  obtain ⟨front, back⟩ := (along_append state (before ++ old) after).mp along
  obtain ⟨start, middle⟩ := (along_append state before old).mp front
  obtain ⟨fitting, same⟩ := inner _ middle
  have front_same : replay apply state (before ++ new) = replay apply state (before ++ old) := by
    rw [replay_append, replay_append, same]
  constructor
  · rw [along_append, along_append, front_same]
    exact ⟨⟨start, fitting⟩, back⟩
  · rw [replay_append _ (before ++ new), replay_append _ (before ++ old), front_same]

end Onetcli.Replay
