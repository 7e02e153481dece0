import Onetcli.Lib.Mailboxes
import Onetcli.Rdp.Display.Pictures

/-!
Output of a session across the events that end it. The failure and the end of a session
empty the mailbox of pictures and pointers; a reconnect takes away the pointers only, so
a picture that waits is received after it. The mailbox is followed with the places of
the sends, and without these it is the mailbox of the helper.
-/

namespace Onetcli.Rdp.Display

open Mailboxes Runs OutputMailbox

namespace HelperEvent

def isReconnecting : HelperEvent → Bool
  | reconnecting _ _ => true
  | _ => false

def isSessionOutput (event : HelperEvent) : Bool :=
  event.isPicture || event.isCursor

def isBarrier (event : HelperEvent) : Bool :=
  event.isReconnecting || event.isTerminal

end HelperEvent

inductive MailboxCall where
  | send (event : HelperEvent)
  | recv

def mailboxMachine :
    Machine OutputMailbox MailboxCall (Option (Observation HelperEvent)) where
  step mailbox call :=
    match call with
    | .send event => (mailbox.send event, some (.sent event))
    | .recv =>
      match mailbox.recv with
      | some (event, rest) => (rest, some (.received [] event))
      | none => (mailbox, none)

/-! ## The places of the sends -/

/-- Two pointer events of one kind of which the second takes the place of the first. -/
def coalesces : Option HelperEvent → HelperEvent → Bool
  | some (.cursorPosition _ _), .cursorPosition _ _ => true
  | some (.cursorRgbaBytes _ _ _ _ _), .cursorRgbaBytes _ _ _ _ _ => true
  | _, _ => false

theorem coalesces_cases {last : Option HelperEvent} {event : HelperEvent}
    (same : coalesces last event = true) : (∃ x y nextX nextY, last = some (.cursorPosition x y) ∧
      event = .cursorPosition nextX nextY) ∨
    ∃ width height hotspotX hotspotY rgba nextWidth nextHeight nextX nextY nextRgba,
      last = some (.cursorRgbaBytes width height hotspotX hotspotY rgba) ∧
        event = .cursorRgbaBytes nextWidth nextHeight nextX nextY nextRgba := by
  unfold coalesces at same
  split at same
  · exact Or.inl ⟨_, _, _, _, rfl, rfl⟩
  · exact Or.inr ⟨_, _, _, _, _, _, _, _, _, _, rfl, rfl⟩
  · cases same

theorem enqueueControl_eq (control : List HelperEvent) (event : HelperEvent) :
    enqueueControl control event =
      if coalesces control.getLast? event then control.dropLast ++ [event]
      else control ++ [event] := by
  by_cases same : coalesces control.getLast? event = true
  · rw [if_pos same]
    rcases coalesces_cases same with ⟨_, _, _, _, last, rfl⟩ |
      ⟨_, _, _, _, _, _, _, _, _, _, last, rfl⟩
    · simp only [enqueueControl, last]
    · simp only [enqueueControl, last]
  · rw [if_neg same]
    unfold enqueueControl
    split
    · simp_all [coalesces]
    · simp_all [coalesces]
    · rfl

def sendAction (mailbox : OutputMailbox) (event : HelperEvent) : Action HelperEvent :=
  match event with
  | .frameBgraBytes _ _ _ => .frame
  | .frameBgraRects _ _ _ _ =>
    match mailbox.latestDelta with
    | some previous => .merge (mergeDeltas previous event)
    | none => .delta
  | .connectionFailure _ => .queue (fun other => !other.isCursor) true
  | .terminated _ => .queue (fun other => !other.isCursor) true
  | .reconnecting _ _ => .queue (fun other => !other.isCursor) false
  | event =>
    if coalesces mailbox.control.getLast? event then .replaceLast
    else .queue (fun _ => true) false

def forget (slots : Slots (Stamped HelperEvent)) : OutputMailbox :=
  ⟨slots.control.map (·.event), slots.frame.map (·.event), slots.delta.map (·.event)⟩

def trackedMachine : Machine (Tracked HelperEvent) MailboxCall Unit where
  step tracked call :=
    match call with
    | .send event => (tracked.send event (sendAction (forget tracked.slots) event), ())
    | .recv => (tracked.recv, ())

variable {tracked : Tracked HelperEvent} {event : HelperEvent}

theorem enqueue_forgets (slots : Slots (Stamped HelperEvent)) (now : Nat) :
    forget (perform slots now event
        (if coalesces (forget slots).control.getLast? event then .replaceLast
        else .queue (fun _ => true) false)) =
      { forget slots with control := enqueueControl (forget slots).control event } := by
  rw [enqueueControl_eq]
  split
  · simp [perform, forget, List.map_dropLast]
  · simp [perform, forget]

theorem sendAction_forgets (slots : Slots (Stamped HelperEvent)) (now : Nat) (event : HelperEvent) :
    forget (perform slots now event (sendAction (forget slots) event)) =
      (forget slots).send event := by
  cases event with
  | frameBgraBytes => rfl
  | frameBgraRects =>
    cases held : slots.delta with
    | none | some previous => simp [sendAction, send, forget, perform, held]
  | connectionFailure | terminated | reconnecting =>
    simp [sendAction, send, forget, perform, discardPendingCursorEvents, List.filter_map,
      Function.comp_def]
  | _ => exact enqueue_forgets slots now

theorem forget_recv (slots : Slots (Stamped HelperEvent)) :
    (forget slots).recv = slots.recv.map fun taken => (taken.1.event, forget taken.2) := by
  rcases slots with ⟨control, frame, delta⟩
  cases control with
  | cons item rest => rfl
  | nil =>
    cases frame with
    | some item => rfl
    | none => cases delta <;> rfl

theorem drained_forget (slots : Slots (Stamped HelperEvent)) :
    drained (forget slots) = slots.items.map (·.event) := by
  simp only [drained, pictures, forget, Slots.items, List.map_append, Option.toList_map,
    List.append_assoc]

theorem step_forgets (tracked : Tracked HelperEvent) (call : MailboxCall) :
    forget (trackedMachine.step tracked call).1.slots =
      (mailboxMachine.step (forget tracked.slots) call).1 := by
  cases call with
  | send event => exact sendAction_forgets tracked.slots _ event
  | recv =>
    simp only [trackedMachine, mailboxMachine, forget_recv, Tracked.recv]
    cases tracked.slots.recv <;> rfl

theorem step_trace (tracked : Tracked HelperEvent) (call : MailboxCall) :
    (trackedMachine.step tracked call).1.trace.map Observation.plain =
      tracked.trace.map Observation.plain ++
        (mailboxMachine.step (forget tracked.slots) call).2.toList := by
  cases call with
  | send event => exact List.map_append
  | recv =>
    simp only [trackedMachine, mailboxMachine, forget_recv, Tracked.recv]
    cases tracked.slots.recv with
    | none => exact (List.append_nil _).symm
    | some taken => exact List.map_append

theorem run_trace (tracked : Tracked HelperEvent) (calls : List MailboxCall) :
    (trackedMachine.run tracked calls).1.trace.map Observation.plain =
      tracked.trace.map Observation.plain ++
        (mailboxMachine.run (forget tracked.slots) calls).2.reduceOption := by
  induction calls generalizing tracked with
  | nil => exact (List.append_nil _).symm
  | cons call rest ih =>
    simp only [Machine.run]
    rw [ih, step_trace, step_forgets, List.append_assoc]
    cases (mailboxMachine.step (forget tracked.slots) call).2 <;> rfl

/-! ## Barriers -/

def isBarrierSeen : Observation HelperEvent → Bool
  | .sent event => event.isBarrier
  | _ => false

/-- A reconnect is sent while no picture waits. -/
def ReconnectsAlone (mailbox : OutputMailbox) : MailboxCall → Prop
  | .send event => event.isReconnecting = true → pictures mailbox = []
  | .recv => True

theorem send_barrier {mailbox : OutputMailbox} (sorted : Sorted mailbox)
    (barrier : event.isBarrier = true)
    (alone : event.isReconnecting = true → pictures mailbox = []) :
    ∀ other ∈ drained (mailbox.send event), other.isSessionOutput = false := by
  have queue : drained (mailbox.send event) =
      discardPendingCursorEvents mailbox.control ++ [event] := by
    cases event with
    | connectionFailure => exact List.append_nil _
    | terminated => exact List.append_nil _
    | reconnecting reason delaySecs =>
      have empty : pictures (mailbox.send (.reconnecting reason delaySecs)) = [] := alone rfl
      rw [drained, empty]
      exact List.append_nil _
    | _ => cases barrier
  intro other member
  rw [queue] at member
  rcases List.mem_append.mp member with old | new
  · have kept := List.mem_filter.mp old
    rw [HelperEvent.isSessionOutput, sorted.control other kept.1]
    exact Bool.not_eq_true' _ ▸ kept.2
  · rw [List.mem_singleton.mp new]
    cases event with
    | connectionFailure => rfl
    | terminated => rfl
    | reconnecting => rfl
    | _ => cases barrier

theorem sendAction_merges {mailbox : OutputMailbox} (sorted : Sorted mailbox)
    {merged previous : HelperEvent} (merges : sendAction mailbox event = .merge merged)
    (held : mailbox.latestDelta = some previous) :
    previous.isSessionOutput = merged.isSessionOutput ∧
      event.isSessionOutput = merged.isSessionOutput := by
  rcases sorted.delta previous held with ⟨width, height, rects, bgra, rfl⟩
  cases event with
  | frameBgraRects nextWidth nextHeight nextRects nextBgra =>
    simp only [sendAction, held, Action.merge.injEq, mergeDeltas] at merges
    split at merges
    · rw [← merges]
      exact ⟨rfl, rfl⟩
    · rw [← merges]
      exact ⟨rfl, rfl⟩
  | frameBgraBytes => cases merges
  | connectionFailure => cases merges
  | terminated => cases merges
  | reconnecting => cases merges
  | _ =>
    simp only [sendAction] at merges
    split at merges <;> cases merges

structure Barred (tracked : Tracked HelperEvent) : Prop where
  sorted : Sorted (forget tracked.slots)
  isolated : Isolated HelperEvent.isSessionOutput isBarrierSeen (fun _ => True) tracked

theorem step_sorted {mailbox : OutputMailbox} (sorted : Sorted mailbox) (call : MailboxCall) :
    Sorted (mailboxMachine.step mailbox call).1 := by
  cases call with
  | send event => exact send_sorted sorted event
  | recv =>
    simp only [mailboxMachine]
    cases received : mailbox.recv with
    | none => exact sorted
    | some taken => exact recv_sorted sorted received

theorem step_barred (barred : Barred tracked) (call : MailboxCall)
    (alone : ReconnectsAlone (forget tracked.slots) call) :
    Barred (trackedMachine.step tracked call).1 := by
  cases call with
  | send event =>
    have forgets := sendAction_forgets tracked.slots tracked.trace.length event
    constructor
    · simp only [trackedMachine, Tracked.send, forgets]
      exact send_sorted barred.sorted event
    · apply barred.isolated.send
      · intro merged previous merges held
        have heldEvent : (forget tracked.slots).latestDelta = some previous.event := by
          rw [forget, held]
          rfl
        exact sendAction_merges barred.sorted merges heldEvent
      · intro _ _
        trivial
      · intro barrier item member
        apply send_barrier barred.sorted barrier alone
        rw [← forgets, drained_forget]
        exact List.mem_map_of_mem member
  | recv =>
    constructor
    · rw [step_forgets]
      exact step_sorted barred.sorted .recv
    · exact barred.isolated.recv fun _ _ => rfl

theorem start_barred : Barred {} := by
  refine ⟨⟨?_, ?_, ?_⟩, ⟨?_, ?_⟩⟩
  · rintro _ ⟨⟩
  · rintro _ ⟨⟩
  · rintro _ ⟨⟩
  · rintro _ ⟨⟩
  · rintro (_ | _) _ _ _ ⟨⟩

def NoStaleOutput (trace : List (Observation HelperEvent)) : Prop :=
  ∀ before stamps received after, trace = before ++ .received stamps received :: after →
    ∀ stamp ∈ stamps, ∃ earlier source between,
      before = earlier ++ .sent source :: between ∧ earlier.length = stamp ∧
        (source.isSessionOutput = true →
          ∀ barrier, .sent barrier ∈ between → barrier.isBarrier = false)

/-- As long as every reconnect is sent while no picture waits. -/
theorem run_noStaleOutput (calls : List MailboxCall)
    (alone : mailboxMachine.Respects ReconnectsAlone {} calls) :
    (trackedMachine.run {} calls).1.trace.map Observation.plain =
        (mailboxMachine.run {} calls).2.reduceOption ∧
      NoStaleOutput (trackedMachine.run {} calls).1.trace := by
  constructor
  · exact run_trace {} calls
  · have guarded := (respects_view trackedMachine mailboxMachine
      (fun tracked => forget tracked.slots) step_forgets {} calls).mp alone
    have barred := visited_invariant_guarded trackedMachine _ Barred {} calls
      (fun _ call _ held guard => step_barred held call guard) guarded start_barred _
      (run_mem_visited trackedMachine {} calls)
    intro before stamps received after split stamp member
    rcases barred.isolated.received before stamps received after split stamp member with
      ⟨earlier, source, between, place, here, _, fresh⟩
    refine ⟨earlier, source, between, place, here, ?_⟩
    intro within barrier seen
    exact (fresh within).2 _ seen

/-- A pointer that waits when the session reconnects. -/
theorem run_noStaleOutput_pointer :
    mailboxMachine.Respects ReconnectsAlone {}
        [.send (.frameBgraBytes 1 1 [1, 2, 3, 4]), .recv, .send .cursorHidden,
          .send (.reconnecting .manual none), .recv] ∧
      NoStaleOutput (trackedMachine.run {}
        [.send (.frameBgraBytes 1 1 [1, 2, 3, 4]), .recv, .send .cursorHidden,
          .send (.reconnecting .manual none), .recv]).1.trace := by
  have alone : mailboxMachine.Respects ReconnectsAlone {}
      [.send (.frameBgraBytes 1 1 [1, 2, 3, 4]), .recv, .send .cursorHidden,
        .send (.reconnecting .manual none), .recv] := by
    refine ⟨?_, trivial, ?_, ?_, trivial, trivial⟩
    · rintro ⟨⟩
    · rintro ⟨⟩
    · intro _
      rfl
  exact ⟨alone, (run_noStaleOutput _ alone).2⟩

/-- A frame that waits is received after a reconnect that was sent after it. -/
theorem reconnect_staleFrame :
    (mailboxMachine.run {} [.send (.frameBgraBytes 1 1 [1, 2, 3, 4]),
        .send (.reconnecting .connectionLost none), .recv, .recv]).2.reduceOption =
      [.sent (.frameBgraBytes 1 1 [1, 2, 3, 4]), .sent (.reconnecting .connectionLost none),
        .received [] (.reconnecting .connectionLost none),
        .received [] (.frameBgraBytes 1 1 [1, 2, 3, 4])] ∧
    ¬ ∀ calls, NoStaleOutput (trackedMachine.run {} calls).1.trace := by
  refine ⟨rfl, ?_⟩
  intro always
  have fresh := always [.send (.frameBgraBytes 1 1 [1, 2, 3, 4]),
    .send (.reconnecting .connectionLost none), .recv, .recv]
    [.sent (.frameBgraBytes 1 1 [1, 2, 3, 4]), .sent (.reconnecting .connectionLost none),
      .received [1] (.reconnecting .connectionLost none)]
    [0] (.frameBgraBytes 1 1 [1, 2, 3, 4]) [] rfl 0 List.mem_cons_self
  rcases fresh with ⟨earlier, source, between, place, here, none⟩
  rw [List.length_eq_zero_iff.mp here] at place
  cases place
  have barrier := none rfl (.reconnecting .connectionLost Option.none) List.mem_cons_self
  cases barrier

/-! ## Controls -/

/-- An event that is neither a picture nor a pointer. -/
def isControl (event : HelperEvent) : Bool := !event.isSessionOutput

def controls (events : List HelperEvent) : List HelperEvent := events.filter isControl

theorem controls_append (first second : List HelperEvent) :
    controls (first ++ second) = controls first ++ controls second := List.filter_append _ _

variable {mailbox : OutputMailbox}

theorem controls_drained (sorted : Sorted mailbox) :
    controls (drained mailbox) = controls mailbox.control := by
  have none : controls (pictures mailbox) = [] := by
    simp only [controls, List.filter_eq_nil_iff, pictures, List.mem_append, Option.mem_toList]
    rintro other (frame | delta)
    · obtain ⟨_, _, _, rfl⟩ := sorted.frame other frame
      exact Bool.false_ne_true
    · obtain ⟨_, _, _, _, rfl⟩ := sorted.delta other delta
      exact Bool.false_ne_true
  rw [drained, controls_append, none, List.append_nil]

theorem discard_controls (control : List HelperEvent) :
    controls (discardPendingCursorEvents control) = controls control := by
  rw [controls, discardPendingCursorEvents, List.filter_filter]
  refine List.filter_congr fun event _ => ?_
  cases event <;> rfl

theorem enqueue_controls (control : List HelperEvent) (event : HelperEvent) :
    controls (enqueueControl control event) = controls control ++ controls [event] := by
  rw [enqueueControl_eq]
  split
  · rename_i same
    rw [controls_append, controls, filter_dropLast]
    · rfl
    · intro last held
      rcases coalesces_cases same with ⟨_, _, _, _, found, _⟩ |
        ⟨_, _, _, _, _, _, _, _, _, _, found, _⟩
      all_goals
        rw [Option.some.inj (held.symm.trans found)]
        rfl
  · exact controls_append _ _

theorem send_controls (mailbox : OutputMailbox) (event : HelperEvent) :
    controls (mailbox.send event).control = controls mailbox.control ++ controls [event] := by
  cases event with
  | frameBgraBytes | frameBgraRects => exact (List.append_nil _).symm
  | connectionFailure | terminated | reconnecting =>
    simp only [send, controls_append, discard_controls]
  | _ => exact enqueue_controls _ _

theorem step_controls (sorted : Sorted mailbox) (call : MailboxCall) :
    Passes isControl (fun mailbox => controls mailbox.control) mailbox
      (mailboxMachine.step mailbox call).1 (mailboxMachine.step mailbox call).2.toList := by
  unfold Passes
  cases call with
  | send event => exact send_controls mailbox event
  | recv =>
    simp only [mailboxMachine]
    cases received : mailbox.recv with
    | none => exact (List.append_nil _).symm
    | some taken =>
      have after := recv_sorted sorted received
      rw [← controls_drained sorted, recv_drained received, ← controls_drained after]
      exact ((controls_append [taken.1] _).symm).trans (List.append_nil _).symm

/-- Whatever is sent in between, the controls are received once each, in the order in which they
were sent; those that were not received yet are waiting. -/
theorem controls_pass_in_order (calls : List MailboxCall) :
    let seen := (mailboxMachine.run {} calls).2.reduceOption
    controls (receivedIn seen) ++ controls (mailboxMachine.run {} calls).1.control =
      controls (sentIn seen) :=
  run_passes mailboxMachine isControl (fun mailbox => controls mailbox.control) Sorted
    (fun _ call sorted => step_sorted sorted call) (fun _ call sorted => step_controls sorted call)
    start_barred.sorted calls

end Onetcli.Rdp.Display
