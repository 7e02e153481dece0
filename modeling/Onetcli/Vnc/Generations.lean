import Mathlib.Data.List.ReduceOption
import Onetcli.Vnc.Sends

/-!
Sessions that follow each other over one mailbox. A generation that begins and the
events that end a session empty the mailbox of what belongs to the session, and nothing
of a session is taken in until the next one is connected. The mailbox is followed with
the places of the sends, and without these it is the mailbox of the helper.
-/

namespace Onetcli.Vnc

open Mailboxes Runs

variable {mailbox : OutputMailbox} {output : RemoteDesktopOutput}

/-! ## The places of the sends -/

structure TrackedMailbox where
  tracked : Tracked RemoteDesktopOutput := {}
  accepting : Bool := true

def forget (slots : Slots (Stamped RemoteDesktopOutput)) (accepting : Bool) : OutputMailbox :=
  ⟨slots.control.map (·.event), slots.frame.map (·.event), slots.delta.map (·.event), accepting⟩

def TrackedMailbox.erased (run : TrackedMailbox) : OutputMailbox :=
  forget run.tracked.slots run.accepting

def enqueueAction (control : List RemoteDesktopOutput) (output : RemoteDesktopOutput) :
    Action RemoteDesktopOutput :=
  if coalesces control.getLast? output then .replaceLast else .queue (fun _ => true) false

def sendAction (mailbox : OutputMailbox) (output : RemoteDesktopOutput) :
    Action RemoteDesktopOutput :=
  match output with
  | .reconnecting _ => .queue (fun other => !isSessionScopedControl other) true
  | .connectionFailure _ => .queue (fun other => !isSessionScopedControl other) true
  | .terminated _ => .queue (fun other => !isSessionScopedControl other) true
  | .connected _ _ _ => .queue (fun _ => true) false
  | .frame _ _ _ => if mailbox.acceptingSessionOutputs then .frame else .ignore
  | .frameBgraRects _ _ _ _ =>
    if mailbox.acceptingSessionOutputs then
      match mailbox.latestDelta with
      | some previous => .merge (mergeDeltas previous output)
      | none => .delta
    else .ignore
  | control =>
    if isSessionScopedControl control && !mailbox.acceptingSessionOutputs then .ignore
    else enqueueAction mailbox.control control

def trackedMachine : Machine TrackedMailbox MailboxCall Unit where
  step run call :=
    match call with
    | .send output =>
      (⟨run.tracked.send output (sendAction run.erased output),
        (run.erased.send output).acceptingSessionOutputs⟩, ())
    | .beginGeneration =>
      (⟨run.tracked.begin fun output => !isSessionScopedControl output,
        run.erased.beginGeneration.acceptingSessionOutputs⟩, ())
    | .recv => (⟨run.tracked.recv, run.accepting⟩, ())

variable {run : TrackedMailbox} {slots : Slots (Stamped RemoteDesktopOutput)} {accepting : Bool}

theorem enqueue_forgets (now : Nat) : forget (perform slots now output
        (enqueueAction (forget slots accepting).control output)) accepting =
      { forget slots accepting with
        control := enqueueControl (forget slots accepting).control output } := by
  rw [enqueueControl_eq, enqueueAction]
  split
  · simp [perform, forget, List.map_dropLast]
  · simp [perform, forget]

theorem sendAction_forgets (now : Nat) (output : RemoteDesktopOutput) :
    forget (perform slots now output (sendAction (forget slots accepting) output))
        ((forget slots accepting).send output).acceptingSessionOutputs =
      (forget slots accepting).send output := by
  cases output with
  | connected => simp [sendAction, OutputMailbox.send, forget, perform]
  | frame =>
    cases accepting with
    | false => rfl
    | true => rfl
  | frameBgraRects =>
    cases accepting with
    | false => rfl
    | true =>
      cases held : slots.delta with
      | none | some previous => simp [sendAction, OutputMailbox.send, forget, perform, held]
  | reconnecting | connectionFailure | terminated =>
    simp [sendAction, OutputMailbox.send, OutputMailbox.closeSessionOutputs, forget, perform,
      discardPendingSessionControls, List.filter_map, Function.comp_def]
  | status => exact enqueue_forgets now
  | _ =>
    cases accepting with
    | false => rfl
    | true => exact enqueue_forgets now

theorem forget_recv : (forget slots accepting).recv =
      slots.recv.map fun taken => (taken.1.event, forget taken.2 accepting) := by
  rcases slots with ⟨control, frame, delta⟩
  cases control with
  | cons item rest => rfl
  | nil =>
    cases frame with
    | some item => rfl
    | none => cases delta <;> rfl

theorem step_forgets (run : TrackedMailbox) (call : MailboxCall) :
    (trackedMachine.step run call).1.erased = (mailboxMachine.step run.erased call).1 := by
  cases call with
  | send output => exact sendAction_forgets _ output
  | beginGeneration =>
    simp [trackedMachine, mailboxMachine, TrackedMailbox.erased, Tracked.begin, close, forget,
      OutputMailbox.beginGeneration, OutputMailbox.closeSessionOutputs,
      discardPendingSessionControls, List.filter_map, Function.comp_def]
  | recv =>
    simp only [trackedMachine, mailboxMachine, TrackedMailbox.erased, forget_recv, Tracked.recv]
    cases run.tracked.slots.recv <;> rfl

theorem step_trace (run : TrackedMailbox) (call : MailboxCall) :
    (trackedMachine.step run call).1.tracked.trace.map Mailboxes.Observation.plain =
      run.tracked.trace.map Mailboxes.Observation.plain ++
        (mailboxMachine.step run.erased call).2.toList := by
  cases call with
  | send output => exact List.map_append
  | beginGeneration => exact List.map_append
  | recv =>
    simp only [trackedMachine, mailboxMachine, TrackedMailbox.erased, forget_recv, Tracked.recv]
    cases run.tracked.slots.recv with
    | none => exact (List.append_nil _).symm
    | some taken => exact List.map_append

theorem run_trace (run : TrackedMailbox) (calls : List MailboxCall) :
    (trackedMachine.run run calls).1.tracked.trace.map Mailboxes.Observation.plain =
      run.tracked.trace.map Mailboxes.Observation.plain ++
        (mailboxMachine.run run.erased calls).2.reduceOption := by
  induction calls generalizing run with
  | nil => exact (List.append_nil _).symm
  | cons call rest ih =>
    simp only [Machine.run]
    rw [ih, step_trace, step_forgets, List.append_assoc, reduceOption_cons_toList]

/-! ## Generations -/

def isBarrierSeen : Mailboxes.Observation RemoteDesktopOutput → Bool
  | .sent output => output.endsSession
  | .begun => true
  | .received _ _ => false

def isConnectedSeen : Mailboxes.Observation RemoteDesktopOutput → Bool
  | .sent output => output.isConnected
  | _ => false

theorem sendAction_merges (sorted : Sorted mailbox) {merged previous : RemoteDesktopOutput}
    (merges : sendAction mailbox output = .merge merged)
    (held : mailbox.latestDelta = some previous) :
    previous.isSessionOutput = merged.isSessionOutput ∧
      output.isSessionOutput = merged.isSessionOutput := by
  rcases sorted.delta previous held with ⟨_, _, _, _, rfl⟩
  cases output with
  | frameBgraRects width height rects bgra =>
    simp only [sendAction, held] at merges
    split at merges
    · rcases merge_rects (.frameBgraRects _ _ _ _) width height rects bgra with ⟨_, _, same⟩
      rw [same] at merges
      rw [← Action.merge.inj merges]
      exact ⟨rfl, rfl⟩
    · cases merges
  | frame =>
    simp only [sendAction] at merges
    split at merges <;> cases merges
  | reconnecting => cases merges
  | connectionFailure => cases merges
  | terminated => cases merges
  | connected => cases merges
  | _ =>
    simp only [sendAction, enqueueAction] at merges
    split at merges
    · cases merges
    · split at merges <;> cases merges

theorem sendAction_accepts (scope : output.isSessionOutput = true)
    (acts : sendAction mailbox output ≠ .ignore) : mailbox.acceptingSessionOutputs = true := by
  rw [← Bool.not_eq_false]
  intro closed
  apply acts
  cases output with
  | frame => simp [sendAction, closed]
  | frameBgraRects => simp [sendAction, closed]
  | status => cases scope
  | connected => cases scope
  | reconnecting => cases scope
  | connectionFailure => cases scope
  | terminated => cases scope
  | _ => simp [sendAction, closed, isSessionScopedControl]

theorem send_ends (closes : output.endsSession = true) :
    mailbox.send output = { mailbox.closeSessionOutputs with
        control := mailbox.closeSessionOutputs.control ++ [output] } ∧
      output.isSessionOutput = false := by
  cases output with
  | reconnecting => exact ⟨rfl, rfl⟩
  | connectionFailure => exact ⟨rfl, rfl⟩
  | terminated => exact ⟨rfl, rfl⟩
  | _ => cases closes

theorem items_erased (run : TrackedMailbox) :
    run.tracked.slots.items.map (·.event) = run.erased.control ++ pictures run.erased := by
  simp only [TrackedMailbox.erased, pictures, forget, Slots.items, List.map_append,
    Option.toList_map, List.append_assoc]

theorem send_ends_items (sorted : Sorted run.erased) (closes : output.endsSession = true) :
    ∀ item ∈ (run.tracked.send output (sendAction run.erased output)).slots.items,
      item.event.isSessionOutput = false := by
  intro item member
  have seen : item.event ∈
      (trackedMachine.step run (.send output)).1.tracked.slots.items.map (·.event) :=
    List.mem_map_of_mem member
  rcases @send_ends run.erased output closes with ⟨sent, plain⟩
  have left : (mailboxMachine.step run.erased (.send output)).1 = _ := sent
  rw [items_erased, step_forgets, left] at seen
  rcases List.mem_append.mp seen with control | slot
  · rcases List.mem_append.mp control with old | new
    · exact close_control sorted item.event old
    · rw [List.mem_singleton.mp new]
      exact plain
  · cases slot

structure Generations (run : TrackedMailbox) : Prop where
  sorted : Sorted run.erased
  opened : run.accepting = true →
    Reopened isBarrierSeen isConnectedSeen run.tracked.trace
  isolated : Isolated RemoteDesktopOutput.isSessionOutput isBarrierSeen
    (Reopened isBarrierSeen isConnectedSeen) run.tracked

theorem send_accepting (mailbox : OutputMailbox) (output : RemoteDesktopOutput) :
    output.endsSession = false ∧ output.isConnected = false ∧
        (mailbox.send output).acceptingSessionOutputs = mailbox.acceptingSessionOutputs ∨
      output.endsSession = false ∧ output.isConnected = true ∨
      output.endsSession = true ∧ (mailbox.send output).acceptingSessionOutputs = false := by
  cases output with
  | connected => exact Or.inr (Or.inl ⟨rfl, rfl⟩)
  | reconnecting => exact Or.inr (Or.inr ⟨rfl, rfl⟩)
  | connectionFailure => exact Or.inr (Or.inr ⟨rfl, rfl⟩)
  | terminated => exact Or.inr (Or.inr ⟨rfl, rfl⟩)
  | frame | frameBgraRects => exact Or.inl ⟨rfl, rfl, (send_picture mailbox rfl).2.1⟩
  | _ =>
    refine Or.inl ⟨rfl, rfl, ?_⟩
    simp only [OutputMailbox.send]
    split <;> rfl

theorem send_generations (generations : Generations run) (output : RemoteDesktopOutput) :
    Generations (trackedMachine.step run (.send output)).1 := by
  constructor
  · rw [step_forgets]
    exact send_sorted generations.sorted output
  · intro accepts
    rcases send_accepting run.erased output with ⟨goesOn, _, same⟩ | ⟨goesOn, connects⟩ |
      ⟨_, closed⟩
    · exact (generations.opened (same.symm.trans accepts)).append goesOn
    · exact reopened_opens goesOn connects
    · cases closed.symm.trans accepts
  · apply generations.isolated.send
    · intro merged previous merges held
      have heldEvent : run.erased.latestDelta = some previous.event := by
        rw [TrackedMailbox.erased, forget, held]
        rfl
      exact sendAction_merges generations.sorted merges heldEvent
    · intro acts within
      exact generations.opened (sendAction_accepts within acts)
    · intro closes
      exact send_ends_items generations.sorted closes

theorem begin_generations (generations : Generations run) :
    Generations (trackedMachine.step run .beginGeneration).1 := by
  constructor
  · rw [step_forgets]
    exact begin_sorted generations.sorted
  · rintro ⟨⟩
  · apply generations.isolated.begin
    intro item member kept
    have control : item.event ∈ run.erased.control := List.mem_map_of_mem member
    rw [RemoteDesktopOutput.isSessionOutput, generations.sorted.control item.event control]
    exact (Bool.not_eq_true' _).mp kept

theorem recv_generations (generations : Generations run) :
    Generations (trackedMachine.step run .recv).1 := by
  constructor
  · rw [step_forgets]
    exact step_sorted generations.sorted .recv
  · intro accepts
    have opened := generations.opened accepts
    simp only [trackedMachine, Tracked.recv]
    cases run.tracked.slots.recv with
    | none => exact opened
    | some taken => exact opened.append rfl
  · exact generations.isolated.recv fun _ _ => rfl

theorem step_generations (run : TrackedMailbox) (call : MailboxCall)
    (generations : Generations run) : Generations (trackedMachine.step run call).1 := by
  cases call with
  | send output => exact send_generations generations output
  | beginGeneration => exact begin_generations generations
  | recv => exact recv_generations generations

theorem start_generations : Generations {} := by
  refine ⟨start_sorted, ?_, ?_, ?_⟩
  · rintro _ (_ | _) _ _ ⟨⟩
  · rintro _ ⟨⟩
  · rintro (_ | _) _ _ _ ⟨⟩

/-- Outputs of a session stay within their generation, and all others pass in order. -/
theorem run_isolatesGenerations (calls : List MailboxCall) :
    (trackedMachine.run {} calls).1.tracked.trace.map Mailboxes.Observation.plain =
        (mailboxMachine.run {} calls).2.reduceOption ∧
    (∀ before stamps received after,
      (trackedMachine.run {} calls).1.tracked.trace =
          before ++ .received stamps received :: after →
        ∀ stamp ∈ stamps, ∃ earlier source between,
          before = earlier ++ .sent source :: between ∧ earlier.length = stamp ∧
            (source.isSessionOutput = true →
              (∀ seen ∈ between, isBarrierSeen seen = false) ∧
                Reopened isBarrierSeen isConnectedSeen earlier)) ∧
    controlsReceived (mailboxMachine.run {} calls).2.reduceOption ++
        controlsWaiting (mailboxMachine.run {} calls).1 =
      controlsSent (mailboxMachine.run {} calls).2.reduceOption ∧
    ∀ receives, (mailboxMachine.run {} calls).1.control.length ≤ receives →
      controlsReceived (mailboxMachine.run {}
          (calls ++ List.replicate receives .recv)).2.reduceOption =
        controlsSent (mailboxMachine.run {} calls).2.reduceOption := by
  have generations := visited_invariant trackedMachine Generations step_generations {} calls
    start_generations _ (run_mem_visited trackedMachine {} calls)
  refine ⟨run_trace {} calls, ?_, run_controls start_sorted calls, ?_⟩
  · intro before stamps received after split stamp member
    rcases generations.isolated.received before stamps received after split stamp member with
      ⟨earlier, source, between, place, here, _, fresh⟩
    exact ⟨earlier, source, between, place, here, fun within => (fresh within).symm⟩
  · intro receives enough
    have whole := run_controls start_sorted (calls ++ List.replicate receives .recv)
    rcases run_recvs (mailboxMachine.run {} calls).1 receives enough with ⟨empty, silent⟩
    rw [run_append] at whole ⊢
    rw [controlsWaiting, empty, List.filter_nil, List.append_nil] at whole
    rw [whole, List.reduceOption_append, controlsSent_append, silent, List.append_nil]
    rfl

end Onetcli.Vnc
