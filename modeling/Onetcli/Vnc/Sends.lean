import Onetcli.Lib.Mailboxes
import Onetcli.Vnc.Mailbox

/-!
What the calls of the mailbox do. An output that is no picture ends a session, opens one,
is dropped or stands in the queue; pictures change the slots only. The outputs that
belong to no session pass in the order in which they were sent.
-/

namespace Onetcli.Vnc

open Mailboxes Runs OutputMailbox RemoteDesktopOutput

namespace RemoteDesktopOutput

def isPicture : RemoteDesktopOutput → Bool
  | frame _ _ _ => true
  | frameBgraRects _ _ _ _ => true
  | _ => false

def isSessionOutput (output : RemoteDesktopOutput) : Bool :=
  output.isPicture || isSessionScopedControl output

def isConnected : RemoteDesktopOutput → Bool
  | connected _ _ _ => true
  | _ => false

def endsSession : RemoteDesktopOutput → Bool
  | reconnecting _ => true
  | connectionFailure _ => true
  | terminated _ => true
  | _ => false

end RemoteDesktopOutput

inductive MailboxCall where
  | send (output : RemoteDesktopOutput)
  | beginGeneration
  | recv

/-- The mailbox under any order of calls, with what is seen of each. -/
def mailboxMachine :
    Machine OutputMailbox MailboxCall (Option (Mailboxes.Observation RemoteDesktopOutput)) where
  step mailbox call :=
    match call with
    | .send output => (mailbox.send output, some (.sent output))
    | .beginGeneration => (mailbox.beginGeneration, some .begun)
    | .recv =>
      match mailbox.recv with
      | some (output, rest) => (rest, some (.received [] output))
      | none => (mailbox, none)

/-! ## What a send does -/

/-- Two pointer outputs of one kind of which the second takes the place of the first. -/
def coalesces : Option RemoteDesktopOutput → RemoteDesktopOutput → Bool
  | some (.cursorPosition _ _), .cursorPosition _ _ => true
  | some (.cursorBitmap _), .cursorBitmap _ => true
  | _, _ => false

variable {mailbox : OutputMailbox} {output : RemoteDesktopOutput}

theorem coalesces_cases {last : Option RemoteDesktopOutput} (same : coalesces last output = true) :
    (∃ x y nextX nextY, last = some (.cursorPosition x y) ∧ output = .cursorPosition nextX nextY) ∨
    ∃ cursor next, last = some (.cursorBitmap cursor) ∧ output = .cursorBitmap next := by
  unfold coalesces at same
  split at same
  · exact Or.inl ⟨_, _, _, _, rfl, rfl⟩
  · exact Or.inr ⟨_, _, rfl, rfl⟩
  · cases same

theorem enqueueControl_eq (control : List RemoteDesktopOutput) (output : RemoteDesktopOutput) :
    enqueueControl control output =
      if coalesces control.getLast? output then control.dropLast ++ [output]
      else control ++ [output] := by
  by_cases same : coalesces control.getLast? output = true
  · rw [if_pos same]
    rcases coalesces_cases same with ⟨_, _, _, _, last, rfl⟩ | ⟨_, _, last, rfl⟩
    · simp only [enqueueControl, last]
    · simp only [enqueueControl, last]
  · rw [if_neg same]
    unfold enqueueControl
    split
    · simp_all [coalesces]
    · simp_all [coalesces]
    · rfl

/-- Each part of the mailbox holds outputs of its kind. -/
structure Sorted (mailbox : OutputMailbox) : Prop where
  control : ∀ output ∈ mailbox.control, output.isPicture = false
  frame : ∀ output, mailbox.latestFrame = some output →
    ∃ width height rgba, output = .frame width height rgba
  delta : ∀ output, mailbox.latestDelta = some output →
    ∃ width height rects bgra, output = .frameBgraRects width height rects bgra

def pictures (mailbox : OutputMailbox) : List RemoteDesktopOutput :=
  mailbox.latestFrame.toList ++ mailbox.latestDelta.toList

theorem Sorted.picture (sorted : Sorted mailbox) :
    ∀ output ∈ pictures mailbox, output.isPicture = true := by
  intro output member
  rcases List.mem_append.mp member with frame | delta
  · rcases sorted.frame output (Option.mem_toList.mp frame) with ⟨_, _, _, rfl⟩
    rfl
  · rcases sorted.delta output (Option.mem_toList.mp delta) with ⟨_, _, _, _, rfl⟩
    rfl

theorem close_control (sorted : Sorted mailbox) :
    ∀ output ∈ mailbox.closeSessionOutputs.control, output.isSessionOutput = false := by
  intro output member
  have kept := List.mem_filter.mp member
  rw [isSessionOutput, sorted.control output kept.1]
  exact (Bool.not_eq_true' _).mp kept.2

inductive ControlSend (mailbox : OutputMailbox) (output : RemoteDesktopOutput) :
    OutputMailbox → Prop where
  | ends (closes : output.endsSession = true) (plain : output.isSessionOutput = false) :
      ControlSend mailbox output
        { mailbox.closeSessionOutputs with
          control := mailbox.closeSessionOutputs.control ++ [output] }
  | opens (connects : output.isConnected = true) (plain : output.isSessionOutput = false) :
      ControlSend mailbox output
        { mailbox with acceptingSessionOutputs := true, control := mailbox.control ++ [output] }
  | drops (scope : output.isSessionOutput = true)
      (closed : mailbox.acceptingSessionOutputs = false) :
      ControlSend mailbox output mailbox
  | queues (accepts : output.isSessionOutput = true → mailbox.acceptingSessionOutputs = true)
      (closes : output.endsSession = false) (connects : output.isConnected = false) :
      ControlSend mailbox output
        { mailbox with control := enqueueControl mailbox.control output }

theorem send_scoped (scope : isSessionScopedControl output = true)
    (sent : mailbox.send output =
      if isSessionScopedControl output && !mailbox.acceptingSessionOutputs then mailbox
      else { mailbox with control := enqueueControl mailbox.control output })
    (closes : output.endsSession = false) (connects : output.isConnected = false) :
    ControlSend mailbox output (mailbox.send output) := by
  rw [sent, scope, Bool.true_and]
  split
  · rename_i closed
    refine .drops ?_ ((Bool.not_eq_true' _).mp closed)
    rw [isSessionOutput, scope, Bool.or_true]
  · rename_i accepts
    refine .queues (fun _ => ?_) closes connects
    rw [Bool.not_eq_true', Bool.not_eq_false] at accepts
    exact accepts

theorem send_control (mailbox : OutputMailbox) (control : output.isPicture = false) :
    ControlSend mailbox output (mailbox.send output) := by
  cases output with
  | frame => cases control
  | frameBgraRects => cases control
  | connected => exact .opens rfl rfl
  | reconnecting => exact .ends rfl rfl
  | connectionFailure => exact .ends rfl rfl
  | terminated => exact .ends rfl rfl
  | status => exact .queues (by rintro ⟨⟩) rfl rfl
  | _ => exact send_scoped rfl rfl rfl rfl

theorem send_picture (mailbox : OutputMailbox) (picture : output.isPicture = true) :
    (mailbox.send output).control = mailbox.control ∧
      (mailbox.send output).acceptingSessionOutputs = mailbox.acceptingSessionOutputs ∧
      (mailbox.acceptingSessionOutputs = false → mailbox.send output = mailbox) := by
  cases accepts : mailbox.acceptingSessionOutputs with
  | false =>
    have same : mailbox.send output = mailbox := by
      cases output with
      | frame => simp [send, accepts]
      | frameBgraRects => simp [send, accepts]
      | _ => cases picture
    rw [same]
    exact ⟨rfl, accepts, fun _ => rfl⟩
  | true =>
    cases output with
    | frame => simp [send, accepts]
    | frameBgraRects => simp [send, accepts]
    | _ => cases picture

theorem enqueue_members (control : List RemoteDesktopOutput) :
    ∀ other ∈ enqueueControl control output, other ∈ control ∨ other = output := by
  intro other member
  rw [enqueueControl_eq] at member
  split at member
  · rcases List.mem_append.mp member with old | new
    · exact Or.inl ((List.dropLast_sublist control).mem old)
    · exact Or.inr (List.mem_singleton.mp new)
  · rcases List.mem_append.mp member with old | new
    · exact Or.inl old
    · exact Or.inr (List.mem_singleton.mp new)

theorem merge_rects (previous : RemoteDesktopOutput) (width height : UInt16)
    (rects : List RemoteDesktopFrameRect) (bgra : List UInt8) :
    ∃ mergedRects mergedBgra, mergeDeltas previous (.frameBgraRects width height rects bgra) =
      .frameBgraRects width height mergedRects mergedBgra := by
  cases previous with
  | frameBgraRects oldWidth oldHeight oldRects oldBgra =>
    rw [mergeDeltas]
    split
    · rename_i same
      rw [same.1, same.2]
      exact ⟨_, _, rfl⟩
    · exact ⟨_, _, rfl⟩
  | _ => exact ⟨_, _, rfl⟩

theorem send_sorted (sorted : Sorted mailbox) (output : RemoteDesktopOutput) :
    Sorted (mailbox.send output) := by
  cases picture : output.isPicture with
  | false =>
    have old := sorted.control
    have sent := send_control mailbox picture
    generalize mailbox.send output = after at sent ⊢
    cases sent with
    | ends closes plain =>
      refine ⟨?_, by rintro _ ⟨⟩, by rintro _ ⟨⟩⟩
      intro other member
      rcases List.mem_append.mp member with kept | new
      · exact old other (List.mem_of_mem_filter kept)
      · rw [List.mem_singleton.mp new]
        exact picture
    | opens connects plain =>
      refine ⟨?_, sorted.frame, sorted.delta⟩
      intro other member
      rcases List.mem_append.mp member with kept | new
      · exact old other kept
      · rw [List.mem_singleton.mp new]
        exact picture
    | drops scope closed => exact sorted
    | queues accepts closes connects =>
      refine ⟨?_, sorted.frame, sorted.delta⟩
      intro other member
      rcases enqueue_members mailbox.control other member with kept | new
      · exact old other kept
      · rw [new]
        exact picture
  | true =>
    cases accepts : mailbox.acceptingSessionOutputs with
    | false =>
      rw [(send_picture mailbox picture).2.2 accepts]
      exact sorted
    | true =>
      cases output with
      | frame width height rgba =>
        simp only [send, accepts, if_true]
        refine ⟨sorted.control, ?_, by rintro _ ⟨⟩⟩
        rintro _ ⟨⟩
        exact ⟨width, height, rgba, rfl⟩
      | frameBgraRects width height rects bgra =>
        simp only [send, accepts, if_true]
        refine ⟨sorted.control, sorted.frame, ?_⟩
        intro output same
        cases held : mailbox.latestDelta with
        | none =>
          simp only [held, Option.some.injEq] at same
          exact ⟨width, height, rects, bgra, same.symm⟩
        | some previous =>
          simp only [held, Option.some.injEq] at same
          rcases merge_rects previous width height rects bgra with
            ⟨mergedRects, mergedBgra, merged⟩
          exact ⟨width, height, mergedRects, mergedBgra, same.symm.trans merged⟩
      | _ => cases picture

theorem begin_sorted (sorted : Sorted mailbox) : Sorted mailbox.beginGeneration := by
  refine ⟨?_, by rintro _ ⟨⟩, by rintro _ ⟨⟩⟩
  intro other member
  exact sorted.control other (List.mem_of_mem_filter member)

theorem recv_sorted (sorted : Sorted mailbox) {rest : OutputMailbox}
    (received : mailbox.recv = some (output, rest)) : Sorted rest := by
  rw [recv] at received
  split at received
  · rename_i control
    cases received
    refine ⟨?_, sorted.frame, sorted.delta⟩
    intro other member
    apply sorted.control
    rw [control]
    exact List.mem_cons_of_mem _ member
  · split at received
    · cases received
      exact ⟨sorted.control, by rintro _ ⟨⟩, sorted.delta⟩
    · split at received
      · cases received
        exact ⟨sorted.control, sorted.frame, by rintro _ ⟨⟩⟩
      · cases received

theorem step_sorted (sorted : Sorted mailbox) (call : MailboxCall) :
    Sorted (mailboxMachine.step mailbox call).1 := by
  cases call with
  | send output => exact send_sorted sorted output
  | beginGeneration => exact begin_sorted sorted
  | recv =>
    simp only [mailboxMachine]
    cases received : mailbox.recv with
    | none => exact sorted
    | some taken => exact recv_sorted sorted received

theorem start_sorted : Sorted {} := by
  refine ⟨?_, ?_, ?_⟩
  · rintro _ ⟨⟩
  · rintro _ ⟨⟩
  · rintro _ ⟨⟩

/-! ## The order of the other outputs -/

def isControl (output : RemoteDesktopOutput) : Bool :=
  !output.isSessionOutput

def controlsSent (seen : List (Mailboxes.Observation RemoteDesktopOutput)) :
    List RemoteDesktopOutput :=
  (seen.filterMap fun
    | .sent output => some output
    | _ => none).filter isControl

def controlsReceived (seen : List (Mailboxes.Observation RemoteDesktopOutput)) :
    List RemoteDesktopOutput :=
  (seen.filterMap fun
    | .received _ output => some output
    | _ => none).filter isControl

def controlsWaiting (mailbox : OutputMailbox) : List RemoteDesktopOutput :=
  mailbox.control.filter isControl

theorem discard_controls (control : List RemoteDesktopOutput) :
    (discardPendingSessionControls control).filter isControl = control.filter isControl := by
  rw [discardPendingSessionControls, List.filter_filter]
  apply List.filter_congr
  intro output _
  cases output <;> rfl

theorem enqueue_controls (control : List RemoteDesktopOutput) (output : RemoteDesktopOutput) :
    (enqueueControl control output).filter isControl =
      control.filter isControl ++ [output].filter isControl := by
  rw [enqueueControl_eq]
  split
  · rename_i same
    rw [List.filter_append, filter_dropLast]
    intro last held
    rcases coalesces_cases same with ⟨_, _, _, _, found, _⟩ | ⟨_, _, found, _⟩
    · rw [Option.some.inj (held.symm.trans found)]
      rfl
    · rw [Option.some.inj (held.symm.trans found)]
      rfl
  · exact List.filter_append _ _

theorem send_controls (mailbox : OutputMailbox) (output : RemoteDesktopOutput) :
    controlsWaiting (mailbox.send output) =
      controlsWaiting mailbox ++ [output].filter isControl := by
  cases picture : output.isPicture with
  | true =>
    have dropped : [output].filter isControl = [] := by
      simp [isControl, isSessionOutput, picture]
    rw [dropped, List.append_nil, controlsWaiting, (send_picture mailbox picture).1]
    rfl
  | false =>
    have sent := send_control mailbox picture
    generalize mailbox.send output = after at sent ⊢
    cases sent with
    | ends closes plain =>
      rw [controlsWaiting, List.filter_append, closeSessionOutputs,
        discard_controls]
      rfl
    | opens connects plain => exact List.filter_append _ _
    | drops scope closed =>
      rw [List.filter_cons_of_neg, List.filter_nil, List.append_nil]
      rw [isControl, scope]
      exact Bool.false_ne_true
    | queues accepts closes connects => exact enqueue_controls mailbox.control output

theorem recv_controls (sorted : Sorted mailbox) {rest : OutputMailbox}
    (received : mailbox.recv = some (output, rest)) :
    controlsWaiting mailbox = [output].filter isControl ++ controlsWaiting rest := by
  have slot : ∀ other ∈ pictures mailbox, [other].filter isControl = [] := by
    intro other member
    simp [isControl, isSessionOutput, sorted.picture other member]
  rw [recv] at received
  split at received
  · rename_i control
    cases received
    rw [controlsWaiting, control, List.filter_cons]
    split
    · rename_i plain
      rw [List.filter_cons_of_pos plain]
      rfl
    · rename_i plain
      rw [List.filter_cons_of_neg plain]
      rfl
  · split at received
    · rename_i frame
      cases received
      rw [slot output (List.mem_append_left _ (Option.mem_toList.mpr frame))]
      rfl
    · split at received
      · rename_i delta
        cases received
        rw [slot output (List.mem_append_right _ (Option.mem_toList.mpr delta))]
        rfl
      · cases received

theorem step_controls (sorted : Sorted mailbox) (call : MailboxCall) :
    controlsReceived (mailboxMachine.step mailbox call).2.toList ++
        controlsWaiting (mailboxMachine.step mailbox call).1 =
      controlsWaiting mailbox ++ controlsSent (mailboxMachine.step mailbox call).2.toList := by
  cases call with
  | send output => exact send_controls mailbox output
  | beginGeneration =>
    rw [controlsSent, List.filterMap_eq_nil_iff.mpr (by simp [mailboxMachine])]
    exact (discard_controls mailbox.control).trans (List.append_nil _).symm
  | recv =>
    simp only [mailboxMachine]
    cases received : mailbox.recv with
    | none => exact (List.append_nil _).symm
    | some taken =>
      rw [recv_controls sorted received]
      exact (List.append_nil _).symm

theorem controlsSent_append (first second : List (Mailboxes.Observation RemoteDesktopOutput)) :
    controlsSent (first ++ second) = controlsSent first ++ controlsSent second := by
  rw [controlsSent, List.filterMap_append, List.filter_append]
  rfl

theorem controls_eq (seen : List (Mailboxes.Observation RemoteDesktopOutput)) :
    controlsSent seen = (sentIn seen).filter isControl ∧
      controlsReceived seen = (receivedIn seen).filter isControl := by
  constructor
  all_goals
    refine congrArg (List.filter isControl) (List.filterMap_congr fun seen _ => ?_)
    cases seen <;> rfl

theorem run_controls (sorted : Sorted mailbox) (calls : List MailboxCall) :
    controlsReceived (mailboxMachine.run mailbox calls).2.reduceOption ++
        controlsWaiting (mailboxMachine.run mailbox calls).1 = controlsWaiting mailbox ++
        controlsSent (mailboxMachine.run mailbox calls).2.reduceOption := by
  rw [(controls_eq _).1, (controls_eq _).2]
  refine run_passes mailboxMachine isControl controlsWaiting Sorted
    (fun _ call sorted => step_sorted sorted call) (fun _ call sorted => ?_) sorted calls
  rw [Passes, ← (controls_eq _).1, ← (controls_eq _).2]
  exact step_controls sorted call

-- As many receives as the queue is long empty it, and they send nothing.
theorem run_recvs (mailbox : OutputMailbox) (count : Nat)
    (enough : mailbox.control.length ≤ count) :
    (mailboxMachine.run mailbox (List.replicate count .recv)).1.control = [] ∧
      controlsSent (mailboxMachine.run mailbox (List.replicate count .recv)).2.reduceOption =
        [] := by
  induction count generalizing mailbox with
  | zero => exact ⟨List.length_eq_zero_iff.mp (Nat.le_zero.mp enough), rfl⟩
  | succ count ih =>
    have shorter : (mailboxMachine.step mailbox .recv).1.control.length ≤ count := by
      simp only [mailboxMachine, recv]
      cases control : mailbox.control with
      | cons first rest =>
        rw [control, List.length_cons] at enough
        exact Nat.le_of_succ_le_succ enough
      | nil =>
        cases mailbox.latestFrame with
        | some frame => simp
        | none => cases mailbox.latestDelta <;> simp [control]
    have silent : controlsSent (mailboxMachine.step mailbox .recv).2.toList = [] := by
      simp only [mailboxMachine]
      cases mailbox.recv <;> rfl
    simp only [List.replicate_succ, Machine.run]
    rw [reduceOption_cons_toList, controlsSent_append, silent]
    exact ih _ shorter

end Onetcli.Vnc
