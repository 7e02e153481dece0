import Mathlib
import Onetcli.Lib.Replay
import Onetcli.Rdp.Display.Output

/-!
What a viewer shows of the helper's events. The images themselves are a parameter: how
a frame is shown and how a rectangle is painted. A complete frame takes the place of
all that was shown before, rectangles need a frame of their size, and every other event
is idle; so the mailbox may keep one frame and one merged delta.
-/

namespace Onetcli.Rdp.Display

open Replay OutputMailbox

/-! ## Pictures -/

structure Viewer (Canvas : Type) where
  present : UInt16 → UInt16 → List UInt8 → Canvas
  paint : Canvas → HelperFrameRect → List UInt8 → Canvas

structure Screen (Canvas : Type) where
  size : UInt16 × UInt16
  image : Canvas

variable {Canvas : Type} (viewer : Viewer Canvas)

/-- Each rectangle takes its bytes from the front of the payload. -/
def paintAll : Canvas → List HelperFrameRect → List UInt8 → Canvas
  | canvas, [], _ => canvas
  | canvas, rect :: rest, bgra =>
    paintAll (viewer.paint canvas rect (bgra.take rect.byteLen)) rest (bgra.drop rect.byteLen)

def view (screen : Option (Screen Canvas)) : HelperEvent → Option (Screen Canvas)
  | .frameBgraBytes width height bgra => some ⟨(width, height), viewer.present width height bgra⟩
  | .frameBgraRects _ _ rects bgra =>
    screen.map fun shown => { shown with image := paintAll viewer shown.image rects bgra }
  | _ => screen

structure RectsFit (width height : UInt16) (rects : List HelperFrameRect) (bgra : List UInt8) :
    Prop where
  inside : ∀ rect ∈ rects, rect.x.toNat + rect.width.toNat ≤ width.toNat ∧
    rect.y.toNat + rect.height.toNat ≤ height.toNat
  bytes : ∀ rect ∈ rects, rect.byteLen = rect.width.toNat * rect.height.toNat * 4
  total : (rects.map (·.byteLen)).sum = bgra.length

def Fits (screen : Option (Screen Canvas)) : HelperEvent → Prop
  | .frameBgraRects width height rects bgra =>
    screen.map (·.size) = some (width, height) ∧ RectsFit width height rects bgra
  | _ => True

variable {event : HelperEvent}

theorem idle_of_control (control : event.isPicture = false) : Idle (view viewer) Fits event := by
  cases event with
  | frameBgraBytes => cases control
  | frameBgraRects => cases control
  | _ => exact ⟨fun _ => rfl, fun _ => trivial⟩

theorem paintAll_append (canvas : Canvas) (first second : List HelperFrameRect)
    (bgra more : List UInt8) (total : (first.map (·.byteLen)).sum = bgra.length) :
    paintAll viewer canvas (first ++ second) (bgra ++ more) =
      paintAll viewer (paintAll viewer canvas first bgra) second more := by
  induction first generalizing canvas bgra with
  | nil =>
    have empty : bgra = [] := List.length_eq_zero_iff.mp total.symm
    rw [empty]
    rfl
  | cons rect rest ih =>
    rw [List.map_cons, List.sum_cons] at total
    have enough : rect.byteLen ≤ bgra.length := by omega
    rw [List.cons_append, paintAll, List.take_append_of_le_length enough,
      List.drop_append_of_le_length enough]
    apply ih
    rw [List.length_drop]
    omega

theorem RectsFit.append {width height : UInt16} {first second : List HelperFrameRect}
    {bgra more : List UInt8} (one : RectsFit width height first bgra)
    (two : RectsFit width height second more) :
    RectsFit width height (first ++ second) (bgra ++ more) where
  inside rect member := (List.mem_append.mp member).elim (one.inside rect) (two.inside rect)
  bytes rect member := (List.mem_append.mp member).elim (one.bytes rect) (two.bytes rect)
  total := by rw [List.map_append, List.sum_append, List.length_append, one.total, two.total]

-- Two deltas for one screen may be merged.
theorem merge_replaces (width height nextWidth nextHeight : UInt16)
    (rects nextRects : List HelperFrameRect) (bgra nextBgra : List UInt8) :
    Replaces (view viewer) Fits [.frameBgraRects width height rects bgra,
        .frameBgraRects nextWidth nextHeight nextRects nextBgra]
      [mergeDeltas (.frameBgraRects width height rects bgra)
        (.frameBgraRects nextWidth nextHeight nextRects nextBgra)] := by
  rintro screen ⟨⟨size, fit⟩, ⟨nextSize, nextFit⟩, -⟩
  cases screen with
  | none => cases size
  | some shown =>
    have same : (width, height) = (nextWidth, nextHeight) :=
      Option.some.inj (size.symm.trans nextSize)
    cases same
    rw [mergeDeltas, if_pos ⟨rfl, rfl⟩]
    refine ⟨⟨⟨size, fit.append nextFit⟩, trivial⟩, ?_⟩
    simp only [replay_cons, replay_nil, view, Option.map_some,
      paintAll_append viewer shown.image rects nextRects bgra nextBgra fit.total]

/-! ## The mailbox -/

/-- Each part of the mailbox holds events of its kind. -/
structure Sorted (mailbox : OutputMailbox) : Prop where
  control : ∀ event ∈ mailbox.control, event.isPicture = false
  frame : ∀ event, mailbox.latestFrame = some event →
    ∃ width height bgra, event = .frameBgraBytes width height bgra
  delta : ∀ event, mailbox.latestDelta = some event →
    ∃ width height rects bgra, event = .frameBgraRects width height rects bgra

def pictures (mailbox : OutputMailbox) : List HelperEvent :=
  mailbox.latestFrame.toList ++ mailbox.latestDelta.toList

/-- What the mailbox would give if nothing else were sent. -/
def drained (mailbox : OutputMailbox) : List HelperEvent :=
  mailbox.control ++ pictures mailbox

/-- A queue after an event that is no picture: cursor events may be gone from it. -/
structure Queued (before : List HelperEvent) (event : HelperEvent) (after : List HelperEvent) :
    Prop where
  members : ∀ other ∈ after, other ∈ before ∨ other = event
  sessions : after.countP (·.isConnected) = before.countP (·.isConnected) +
    if event.isConnected then 1 else 0

theorem countP_append_one (control : List HelperEvent) (event : HelperEvent) :
    (control ++ [event]).countP (·.isConnected) =
      control.countP (·.isConnected) + if event.isConnected then 1 else 0 := by
  rw [List.countP_append, List.countP_singleton]

theorem queued_append (control : List HelperEvent) (event : HelperEvent) :
    Queued control event (control ++ [event]) where
  members other member := by
    rcases List.mem_append.mp member with old | new
    · exact Or.inl old
    · exact Or.inr (List.mem_singleton.mp new)
  sessions := countP_append_one control event

theorem discard_sessions (control : List HelperEvent) :
    (discardPendingCursorEvents control).countP (·.isConnected) =
      control.countP (·.isConnected) := by
  rw [discardPendingCursorEvents, List.countP_filter]
  congr 1
  funext event
  cases event <;> rfl

theorem queued_discard (control : List HelperEvent) (event : HelperEvent) :
    Queued control event (discardPendingCursorEvents control ++ [event]) where
  members other member := by
    rcases List.mem_append.mp member with old | new
    · exact Or.inl (List.mem_of_mem_filter old)
    · exact Or.inr (List.mem_singleton.mp new)
  sessions := by rw [countP_append_one, discard_sessions]

theorem queued_replace {control : List HelperEvent} {last event : HelperEvent}
    (found : control.getLast? = some last) (lastOther : last.isConnected = false)
    (other : event.isConnected = false) : Queued control event (control.dropLast ++ [event]) where
  members kept member := by
    rcases List.mem_append.mp member with old | new
    · exact Or.inl ((List.dropLast_sublist control).mem old)
    · exact Or.inr (List.mem_singleton.mp new)
  sessions := by
    have whole := List.dropLast_append_getLast? last found
    rw [countP_append_one, other]
    conv_rhs => rw [← whole, countP_append_one, lastOther]
    rfl

theorem queued_enqueue (control : List HelperEvent) (event : HelperEvent) :
    Queued control event (enqueueControl control event) := by
  fun_cases enqueueControl control event
  · exact queued_replace ‹_› rfl rfl
  · exact queued_replace ‹_› rfl rfl
  · exact queued_append control event

theorem send_control (mailbox : OutputMailbox)
    (control : event.isPicture = false) :
    ∃ queue, Queued mailbox.control event queue ∧
      mailbox.send event =
        if event.isTerminal then { control := queue } else { mailbox with control := queue } := by
  cases event with
  | frameBgraBytes => cases control
  | frameBgraRects => cases control
  | connectionFailure message | terminated message | reconnecting reason delaySecs =>
    exact ⟨_, queued_discard mailbox.control _, rfl⟩
  | _ => exact ⟨_, queued_enqueue mailbox.control _, rfl⟩

theorem Queued.controls {before after : List HelperEvent}
    (queued : Queued before event after) (old : ∀ other ∈ before, other.isPicture = false)
    (control : event.isPicture = false) : ∀ other ∈ after, other.isPicture = false := by
  intro other member
  rcases queued.members other member with kept | same
  · exact old other kept
  · rw [same]
    exact control

variable {mailbox : OutputMailbox}

theorem send_sorted (sorted : Sorted mailbox) (event : HelperEvent) :
    Sorted (mailbox.send event) := by
  cases picture : event.isPicture with
  | false =>
    obtain ⟨queue, queued, sent⟩ := send_control mailbox picture
    have controls := queued.controls sorted.control picture
    rw [sent]
    split
    · exact ⟨controls, by rintro _ ⟨⟩, by rintro _ ⟨⟩⟩
    · exact ⟨controls, sorted.frame, sorted.delta⟩
  | true =>
    cases event with
    | frameBgraBytes width height bgra =>
      refine ⟨sorted.control, ?_, by rintro _ ⟨⟩⟩
      rintro _ ⟨⟩
      exact ⟨width, height, bgra, rfl⟩
    | frameBgraRects width height rects bgra =>
      refine ⟨sorted.control, sorted.frame, ?_⟩
      intro event same
      cases held : mailbox.latestDelta with
      | none =>
        simp only [send, held, Option.some.injEq] at same
        exact ⟨width, height, rects, bgra, same.symm⟩
      | some previous =>
        obtain ⟨oldWidth, oldHeight, oldRects, oldBgra, rfl⟩ := sorted.delta previous held
        simp only [send, held, Option.some.injEq, mergeDeltas] at same
        split at same
        · exact ⟨_, _, _, _, same.symm⟩
        · exact ⟨_, _, _, _, same.symm⟩
    | _ => cases picture

theorem send_replaces (sorted : Sorted mailbox) (goesOn : event.isTerminal = false) :
    Replaces (view viewer) Fits (drained mailbox ++ [event]) (drained (mailbox.send event)) := by
  have controls : ∀ other ∈ mailbox.control, Idle (view viewer) Fits other :=
    fun other member => idle_of_control viewer (sorted.control other member)
  cases picture : event.isPicture with
  | false =>
    obtain ⟨queue, queued, sent⟩ := send_control mailbox picture
    rw [sent, goesOn]
    apply Replaces.trans (Replaces.dropIdle (drained mailbox) _)
    · apply Replaces.idle controls _ (Replaces.refl (pictures mailbox))
      intro other member
      exact idle_of_control viewer (queued.controls sorted.control picture other member)
    · intro other member
      rw [List.mem_singleton.mp member]
      exact idle_of_control viewer picture
  | true =>
    cases event with
    | frameBgraBytes width height bgra =>
      rw [drained, List.append_assoc]
      apply Replaces.idle controls controls
      intro screen _
      refine ⟨⟨trivial, trivial⟩, ?_⟩
      rw [replay_append]
      rfl
    | frameBgraRects width height rects bgra =>
      rw [drained, List.append_assoc]
      apply Replaces.idle controls controls
      cases held : mailbox.latestDelta with
      | none =>
        simp only [pictures, send, held, Option.toList_none, Option.toList_some,
          List.append_nil]
        exact Replaces.refl _
      | some previous =>
        obtain ⟨oldWidth, oldHeight, oldRects, oldBgra, rfl⟩ := sorted.delta previous held
        have merged := (merge_replaces viewer oldWidth oldHeight width height oldRects rects
          oldBgra bgra).append mailbox.latestFrame.toList []
        simpa [pictures, send, held] using merged
    | _ => cases picture

theorem send_terminal (sorted : Sorted mailbox) (terminal : event.isTerminal = true) :
    ∀ other ∈ drained (mailbox.send event), other.isPicture = false := by
  have picture : event.isPicture = false := by
    cases event with
    | connectionFailure => rfl
    | terminated => rfl
    | _ => cases terminal
  obtain ⟨queue, queued, sent⟩ := send_control mailbox picture
  have onlyQueue : drained (mailbox.send event) = queue := by
    rw [sent, terminal]
    exact List.append_nil queue
  rw [onlyQueue]
  exact queued.controls sorted.control picture

theorem recv_drained {rest : OutputMailbox} (received : mailbox.recv = some (event, rest)) :
    drained mailbox = event :: drained rest := by
  rw [recv] at received
  split at received
  · rename_i control
    cases received
    rw [drained, control]
    rfl
  · rename_i control
    split at received
    · rename_i frame
      cases received
      simp [drained, pictures, control, frame]
    · rename_i frame
      split at received
      · rename_i delta
        cases received
        simp [drained, pictures, control, frame, delta]
      · cases received

theorem recv_sorted (sorted : Sorted mailbox) {rest : OutputMailbox}
    (received : mailbox.recv = some (event, rest)) : Sorted rest := by
  rw [recv] at received
  split at received
  · rename_i control
    cases received
    refine ⟨?_, sorted.frame, sorted.delta⟩
    intro other member
    apply sorted.control
    rw [control]
    exact List.mem_cons_of_mem _ member
  · split at received
    · cases received
      exact ⟨sorted.control, by rintro _ ⟨⟩, sorted.delta⟩
    · split at received
      · cases received
        exact ⟨sorted.control, sorted.frame, by rintro _ ⟨⟩⟩
      · cases received

end Onetcli.Rdp.Display
