import Onetcli.Lib.Runs

/-!
Mailboxes with a queue and two slots that keep only the latest. A trace records every
send and every receive; an item carries the places in the trace of the sends whose
content is in it, so that a result can say which sends a receive comes from. What a send
does to the mailbox is one of a few actions; the mailbox that is modelled chooses among
them.
-/

namespace Onetcli.Mailboxes

structure Slots (Item : Type) where
  control : List Item := []
  frame : Option Item := none
  delta : Option Item := none

structure Stamped (Event : Type) where
  stamps : List Nat
  event : Event

inductive Action (Event : Type) where
  | ignore
  /-- Events that are not kept leave the queue before the new one stands in it. -/
  | queue (keep : Event → Bool) (clears : Bool)
  | replaceLast
  | frame
  | delta
  | merge (merged : Event)

inductive Observation (Event : Type) where
  | sent (event : Event)
  | begun
  | received (stamps : List Nat) (event : Event)

def Observation.isReceived {Event : Type} : Observation Event → Bool
  | .received _ _ => true
  | _ => false

/-- What is seen of it without the places of the sends. -/
def Observation.plain {Event : Type} : Observation Event → Observation Event
  | .received _ event => .received [] event
  | seen => seen

variable {Item Other Event : Type}

namespace Slots

def items (slots : Slots Item) : List Item :=
  slots.control ++ slots.frame.toList ++ slots.delta.toList

/-- The queue comes first, then the slots. -/
def recv (slots : Slots Item) : Option (Item × Slots Item) :=
  match slots.control with
  | item :: rest => some (item, { slots with control := rest })
  | [] =>
    match slots.frame with
    | some item => some (item, { slots with frame := none })
    | none =>
      match slots.delta with
      | some item => some (item, { slots with delta := none })
      | none => none

theorem recv_items {slots rest : Slots Item} {item : Item}
    (taken : slots.recv = some (item, rest)) : slots.items = item :: rest.items := by
  rcases slots with ⟨control, frame, delta⟩
  cases control with
  | cons first others =>
    cases taken
    rfl
  | nil =>
    cases frame with
    | some first =>
      cases taken
      rfl
    | none =>
      cases delta with
      | some first =>
        cases taken
        rfl
      | none => cases taken

end Slots

/-! ## Sends -/

/-- The queue and the slots are emptied of what is not kept. -/
def close (slots : Slots (Stamped Event)) (keep : Event → Bool) : Slots (Stamped Event) :=
  { control := slots.control.filter fun item => keep item.event }

def perform (slots : Slots (Stamped Event)) (now : Nat) (event : Event) :
    Action Event → Slots (Stamped Event)
  | .ignore => slots
  | .queue keep clears =>
    { control := slots.control.filter (fun item => keep item.event) ++ [⟨[now], event⟩]
      frame := if clears then none else slots.frame
      delta := if clears then none else slots.delta }
  | .replaceLast => { slots with control := slots.control.dropLast ++ [⟨[now], event⟩] }
  | .frame => { slots with frame := some ⟨[now], event⟩, delta := none }
  | .delta => { slots with delta := some ⟨[now], event⟩ }
  | .merge merged =>
    { slots with
      delta := slots.delta.map fun previous => ⟨previous.stamps ++ [now], merged⟩ }

theorem perform_items {slots : Slots (Stamped Event)} {now : Nat} {event : Event}
    {action : Action Event} {item : Stamped Event}
    (member : item ∈ (perform slots now event action).items) :
    item ∈ slots.items ∨ (action ≠ .ignore ∧ item = ⟨[now], event⟩) ∨
      ∃ previous merged, previous ∈ slots.items ∧ slots.delta = some previous ∧
        action = .merge merged ∧ item = ⟨previous.stamps ++ [now], merged⟩ := by
  cases action with
  | ignore => exact Or.inl member
  | queue keep clears =>
    cases clears <;>
      simp only [perform, Slots.items, List.mem_append, List.mem_filter, List.mem_singleton,
        if_true, Bool.false_eq_true, if_false, Option.toList_none, List.append_nil] at member ⊢ <;>
      tauto
  | replaceLast =>
    simp only [perform, Slots.items, List.mem_append, List.mem_singleton] at member ⊢
    have kept : item ∈ slots.control.dropLast → item ∈ slots.control :=
      (List.dropLast_sublist slots.control).mem
    tauto
  | frame =>
    simp only [perform, Slots.items, List.mem_append, Option.toList_some, List.mem_singleton,
      Option.toList_none, List.append_nil] at member ⊢
    tauto
  | delta =>
    simp only [perform, Slots.items, List.mem_append, Option.toList_some, List.mem_singleton]
      at member ⊢
    tauto
  | merge merged =>
    cases held : slots.delta with
    | none =>
      simp only [perform, Slots.items, held, Option.map_none, List.mem_append] at member ⊢
      tauto
    | some previous =>
      simp only [perform, Slots.items, held, Option.map_some, List.mem_append,
        Option.toList_some, List.mem_singleton] at member ⊢
      rcases member with old | new
      · exact Or.inl (Or.inl old)
      · exact Or.inr (Or.inr ⟨previous, merged, Or.inr rfl, rfl, rfl, new⟩)

theorem filter_dropLast {list : List Item} {keep : Item → Bool}
    (last : ∀ item, list.getLast? = some item → keep item = false) :
    list.dropLast.filter keep = list.filter keep := by
  rcases list.eq_nil_or_concat with rfl | ⟨front, item, rfl⟩
  · rfl
  · rw [List.concat_eq_append, List.dropLast_concat, List.filter_append, List.filter_cons_of_neg,
      List.filter_nil, List.append_nil]
    rw [last item (by rw [List.concat_eq_append, List.getLast?_concat])]
    exact Bool.false_ne_true

theorem close_items {slots : Slots (Stamped Event)} {keep : Event → Bool} {item : Stamped Event}
    (member : item ∈ (close slots keep).items) : item ∈ slots.control ∧ keep item.event = true := by
  simp only [close, Slots.items, Option.toList_none, List.append_nil, List.mem_filter] at member
  exact member

/-! ## Histories -/

structure Tracked (Event : Type) where
  slots : Slots (Stamped Event) := {}
  trace : List (Observation Event) := []

namespace Tracked

variable (tracked : Tracked Event)

def send (event : Event) (action : Action Event) : Tracked Event :=
  ⟨perform tracked.slots tracked.trace.length event action, tracked.trace ++ [.sent event]⟩

def begin (keep : Event → Bool) : Tracked Event :=
  ⟨close tracked.slots keep, tracked.trace ++ [.begun]⟩

def recv : Tracked Event :=
  match tracked.slots.recv with
  | some (item, rest) => ⟨rest, tracked.trace ++ [.received item.stamps item.event]⟩
  | none => tracked

end Tracked

variable (session : Event → Bool) (barrier : Observation Event → Bool)
  (admits : List (Observation Event) → Prop)

def Sound (trace : List (Observation Event)) (item : Stamped Event) : Prop :=
  ∀ stamp ∈ item.stamps, ∃ before source between,
    trace = before ++ .sent source :: between ∧ before.length = stamp ∧
      session source = session item.event ∧
      (session source = true → admits before ∧ ∀ seen ∈ between, barrier seen = false)

structure Isolated (tracked : Tracked Event) : Prop where
  waiting : ∀ item ∈ tracked.slots.items, Sound session barrier admits tracked.trace item
  received : ∀ before stamps event after,
    tracked.trace = before ++ .received stamps event :: after →
      Sound session barrier admits before ⟨stamps, event⟩

variable {session barrier admits} {tracked : Tracked Event} {event : Event}
  {action : Action Event}

theorem Sound.extend {trace : List (Observation Event)} {item : Stamped Event}
    (sound : Sound session barrier admits trace item) {seen : Observation Event}
    (calm : barrier seen = true → session item.event = false) :
    Sound session barrier admits (trace ++ [seen]) item := by
  intro stamp member
  rcases sound stamp member with ⟨before, source, between, split, place, same, lawful⟩
  refine ⟨before, source, between ++ [seen], ?_, place, same, ?_⟩
  · rw [split, List.append_assoc, List.cons_append]
  · intro within
    refine ⟨(lawful within).1, ?_⟩
    intro other among
    rcases List.mem_append.mp among with old | new
    · exact (lawful within).2 other old
    · rw [List.mem_singleton.mp new]
      rw [← Bool.not_eq_true]
      intro stops
      rw [same, calm stops] at within
      cases within

theorem sound_sent {trace : List (Observation Event)}
    (admitted : session event = true → admits trace) :
    Sound session barrier admits (trace ++ [.sent event]) ⟨[trace.length], event⟩ := by
  intro stamp member
  rw [List.mem_singleton.mp member]
  refine ⟨trace, event, [], rfl, rfl, rfl, ?_⟩
  intro within
  refine ⟨admitted within, ?_⟩
  intro seen among
  cases among

theorem Sound.merged {trace : List (Observation Event)} {previous next : Stamped Event}
    {merged : Event} (one : Sound session barrier admits trace previous)
    (two : Sound session barrier admits trace next)
    (sameOne : session previous.event = session merged)
    (sameTwo : session next.event = session merged) :
    Sound session barrier admits trace ⟨previous.stamps ++ next.stamps, merged⟩ := by
  intro stamp member
  rcases List.mem_append.mp member with old | new
  · rw [← sameOne]
    exact one stamp old
  · rw [← sameTwo]
    exact two stamp new

-- A trace that ends in no receive has the receives it had.
theorem received_append {trace before after : List (Observation Event)}
    {seen : Observation Event} {stamps : List Nat} (silent : seen.isReceived = false)
    (split : trace ++ [seen] = before ++ .received stamps event :: after) :
    ∃ front, trace = before ++ .received stamps event :: front := by
  rcases after.eq_nil_or_concat with rfl | ⟨front, last, rfl⟩
  · have ends := (List.append_inj' split rfl).2
    rw [List.singleton_inj.mp ends] at silent
    cases silent
  · refine ⟨front, ?_⟩
    rw [List.concat_eq_append, ← List.cons_append, ← List.append_assoc] at split
    exact (List.append_inj' split rfl).1

theorem Isolated.send (isolated : Isolated session barrier admits tracked)
    (merges : ∀ merged previous, action = .merge merged → tracked.slots.delta = some previous →
      session previous.event = session merged ∧ session event = session merged)
    (admitted : action ≠ .ignore → session event = true → admits tracked.trace)
    (cleared : barrier (.sent event) = true →
      ∀ item ∈ (tracked.send event action).slots.items, session item.event = false) :
    Isolated session barrier admits (tracked.send event action) where
  waiting := by
    intro item member
    have calm := fun stops => cleared stops item member
    rcases perform_items member with old | ⟨acts, rfl⟩ | ⟨previous, merged, among, held, act, rfl⟩
    · exact (isolated.waiting item old).extend calm
    · exact sound_sent (admitted acts)
    · have same := merges merged previous act held
      have acts : action ≠ .ignore := by
        rw [act]
        rintro ⟨⟩
      have new : Sound session barrier admits (tracked.trace ++ [.sent event])
          ⟨[tracked.trace.length], event⟩ := sound_sent (admitted acts)
      refine Sound.merged ?_ new same.1 same.2
      apply (isolated.waiting previous among).extend
      intro stops
      rw [same.1]
      exact calm stops
  received := by
    intro before stamps received after split
    rcases received_append rfl split with ⟨front, earlier⟩
    exact isolated.received before stamps received front earlier

theorem Isolated.begin (isolated : Isolated session barrier admits tracked) {keep : Event → Bool}
    (plain : ∀ item ∈ tracked.slots.control, keep item.event = true → session item.event = false) :
    Isolated session barrier admits (tracked.begin keep) where
  waiting := by
    intro item member
    have kept := close_items member
    have among : item ∈ tracked.slots.items :=
      List.mem_append_left _ (List.mem_append_left _ kept.1)
    exact (isolated.waiting item among).extend fun _ => plain item kept.1 kept.2
  received := by
    intro before stamps received after split
    rcases received_append rfl split with ⟨front, earlier⟩
    exact isolated.received before stamps received front earlier

theorem Isolated.recv (isolated : Isolated session barrier admits tracked)
    (calm : ∀ stamps event, barrier (.received stamps event) = false) :
    Isolated session barrier admits tracked.recv := by
  rw [Tracked.recv]
  cases taken : tracked.slots.recv with
  | none => exact isolated
  | some pair =>
    rcases pair with ⟨item, rest⟩
    have items := Slots.recv_items taken
    constructor
    · intro other member
      have among : other ∈ tracked.slots.items := by
        rw [items]
        exact List.mem_cons_of_mem _ member
      apply (isolated.waiting other among).extend
      intro stops
      rw [calm] at stops
      cases stops
    · intro before stamps received after split
      rcases after.eq_nil_or_concat with rfl | ⟨front, last, rfl⟩
      · have ends := List.append_inj' split rfl
        rcases Observation.received.inj (List.singleton_inj.mp ends.2) with ⟨rfl, rfl⟩
        rw [← ends.1]
        apply isolated.waiting item
        rw [items]
        exact List.mem_cons_self
      · rw [List.concat_eq_append, ← List.cons_append, ← List.append_assoc] at split
        exact isolated.received before stamps received front (List.append_inj' split rfl).1

/-! ## Barriers and what opens again after them -/

section Reopened

variable (barrier opens : Observation Event → Bool)

def Reopened (trace : List (Observation Event)) : Prop :=
  ∀ before seen after, trace = before ++ seen :: after → barrier seen = true →
    ∃ opened ∈ after, opens opened = true

variable {barrier opens} {trace before after : List (Observation Event)}
  {last seen : Observation Event}

theorem barrier_front (calm : barrier last = false) (stops : barrier seen = true)
    (split : trace ++ [last] = before ++ seen :: after) :
    ∃ front, after = front ++ [last] ∧ trace = before ++ seen :: front := by
  rcases after.eq_nil_or_concat with rfl | ⟨front, other, rfl⟩
  · have ends := (List.append_inj' split rfl).2
    rw [List.singleton_inj.mp ends, stops] at calm
    cases calm
  · rw [List.concat_eq_append, ← List.cons_append, ← List.append_assoc] at split
    have parts := List.append_inj' split rfl
    refine ⟨front, ?_, parts.1⟩
    rw [List.concat_eq_append, List.singleton_inj.mp parts.2]

theorem Reopened.append (reopened : Reopened barrier opens trace)
    (calm : barrier last = false) : Reopened barrier opens (trace ++ [last]) := by
  intro before seen after split stops
  rcases barrier_front calm stops split with ⟨front, rfl, earlier⟩
  rcases reopened before seen front earlier stops with ⟨opened, among, opening⟩
  exact ⟨opened, List.mem_append_left _ among, opening⟩

theorem reopened_opens (calm : barrier last = false) (opening : opens last = true) :
    Reopened barrier opens (trace ++ [last]) := by
  intro before seen after split stops
  rcases barrier_front calm stops split with ⟨front, rfl, _⟩
  exact ⟨last, List.mem_append_right _ List.mem_cons_self, opening⟩

end Reopened

/-! ## Events that pass in order -/

def sentIn (seen : List (Observation Event)) : List Event :=
  seen.filterMap fun
    | .sent event => some event
    | _ => none

def receivedIn (seen : List (Observation Event)) : List Event :=
  seen.filterMap fun
    | .received _ event => some event
    | _ => none

theorem reduceOption_cons_toList (first : Option Item) (rest : List (Option Item)) :
    (first :: rest).reduceOption = first.toList ++ rest.reduceOption := by
  cases first <;> rfl

section Passing

variable {State Call : Type} (machine : Runs.Machine State Call (Option (Observation Event)))
  (keep : Event → Bool) (waiting : State → List Event)

/-- What is received and what waits then is what waited before and what is sent. -/
def Passes (state after : State) (seen : List (Observation Event)) : Prop :=
  (receivedIn seen).filter keep ++ waiting after = waiting state ++ (sentIn seen).filter keep

theorem run_passes (invariant : State → Prop)
    (kept : ∀ state call, invariant state → invariant (machine.step state call).1)
    (step : ∀ state call, invariant state →
      Passes keep waiting state (machine.step state call).1 (machine.step state call).2.toList)
    {state : State} (start : invariant state) (calls : List Call) :
    Passes keep waiting state (machine.run state calls).1
      (machine.run state calls).2.reduceOption := by
  induction calls generalizing state with
  | nil => exact (List.append_nil _).symm
  | cons call rest ih =>
    have first := step state call start
    have later := ih (kept state call start)
    unfold Passes receivedIn sentIn at *
    simp only [Runs.Machine.run]
    rw [reduceOption_cons_toList, List.filterMap_append, List.filterMap_append,
      List.filter_append, List.filter_append, List.append_assoc, later, ← List.append_assoc,
      first, List.append_assoc]

end Passing

end Onetcli.Mailboxes
