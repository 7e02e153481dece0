import Onetcli.Lib.Runs

/-!
From the events of the RDP client to the events of the helper, rdp/output.rs and the
loop of rdp.rs: a complete image waits in a slot until it is flushed, the mapper turns
an event into helper events, and these are sent one by one. When the slot is flushed
for its age is up to the clock, so a flush is a step that may come at any time; the
clock itself comes last. The texts of errors are given; what is only logged or counted
is left out.
-/

/-!
The mailbox between the threads that write the helper's events and the one that
sends them, output_mailbox.rs of the helper. Events of the session stand in a queue;
of the complete frames only the latest is kept, with the dirty rectangles since then
as one event. A receive is a step of its own, so any number of sends may lie between
two of them. A receiver that goes away is left out.
-/

namespace Onetcli.Rdp.Display

structure HelperFrameRect where
  x : UInt16
  y : UInt16
  width : UInt16
  height : UInt16
  byteLen : Nat
  deriving DecidableEq

inductive HelperReconnectReason where
  | displayUpdate
  | sessionError
  | connectionLost
  | manual
  deriving DecidableEq

inductive HelperEvent where
  | status (message : String)
  | connected (width height : UInt16)
  | frameBgraBytes (width height : UInt16) (bgra : List UInt8)
  | frameBgraRects (width height : UInt16) (rects : List HelperFrameRect) (bgra : List UInt8)
  | cursorDefault
  | cursorHidden
  | cursorPosition (x y : UInt16)
  | cursorRgbaBytes (width height hotspotX hotspotY : UInt16) (rgba : List UInt8)
  | clipboardText (text : String)
  | clipboardFilesReady (transferId : UInt64) (paths : List String)
  | clipboardTransferFailed (transferId : UInt64) (message : String)
  | reconnecting (reason : HelperReconnectReason) (delaySecs : Option UInt64)
  | connectionFailure (message : String)
  | terminated (message : String)
  deriving DecidableEq

namespace HelperEvent

def isCursor : HelperEvent → Bool
  | cursorDefault => true
  | cursorHidden => true
  | cursorPosition _ _ => true
  | cursorRgbaBytes _ _ _ _ _ => true
  | _ => false

/-- A failure or the end of the session. -/
def isTerminal : HelperEvent → Bool
  | connectionFailure _ => true
  | terminated _ => true
  | _ => false

/-- An event that shows something. -/
def isPicture : HelperEvent → Bool
  | frameBgraBytes _ _ _ => true
  | frameBgraRects _ _ _ _ => true
  | _ => false

/-- An event that other threads write to the mailbox. -/
def isClipboard : HelperEvent → Bool
  | clipboardText _ => true
  | clipboardFilesReady _ _ => true
  | clipboardTransferFailed _ _ => true
  | _ => false

def isConnected : HelperEvent → Bool
  | connected _ _ => true
  | _ => false

end HelperEvent

structure OutputMailbox where
  control : List HelperEvent := []
  latestFrame : Option HelperEvent := none
  latestDelta : Option HelperEvent := none

def mergeDeltas : HelperEvent → HelperEvent → HelperEvent
  | .frameBgraRects width height rects bgra, .frameBgraRects nextWidth nextHeight nextRects nextBgra =>
    if width = nextWidth ∧ height = nextHeight then
      .frameBgraRects width height (rects ++ nextRects) (bgra ++ nextBgra)
    else .frameBgraRects nextWidth nextHeight nextRects nextBgra
  | _, next => next

def enqueueControl (control : List HelperEvent) (event : HelperEvent) : List HelperEvent :=
  match control.getLast?, event with
  | some (.cursorPosition _ _), .cursorPosition x y => control.dropLast ++ [.cursorPosition x y]
  | some (.cursorRgbaBytes _ _ _ _ _), .cursorRgbaBytes width height hotspotX hotspotY rgba =>
    control.dropLast ++ [.cursorRgbaBytes width height hotspotX hotspotY rgba]
  | _, event => control ++ [event]

def discardPendingCursorEvents (control : List HelperEvent) : List HelperEvent :=
  control.filter fun event => !event.isCursor

namespace OutputMailbox

variable (mailbox : OutputMailbox)

def send (event : HelperEvent) : OutputMailbox :=
  match event with
  | .frameBgraBytes width height bgra =>
    { mailbox with
      latestFrame := some (.frameBgraBytes width height bgra), latestDelta := none }
  | .frameBgraRects width height rects bgra =>
    let delta := .frameBgraRects width height rects bgra
    { mailbox with
      latestDelta := match mailbox.latestDelta with
        | some previous => some (mergeDeltas previous delta)
        | none => some delta }
  | .connectionFailure message =>
    { control := discardPendingCursorEvents mailbox.control ++ [.connectionFailure message] }
  | .terminated message =>
    { control := discardPendingCursorEvents mailbox.control ++ [.terminated message] }
  | .reconnecting reason delaySecs =>
    { mailbox with
      control := discardPendingCursorEvents mailbox.control ++
        [.reconnecting reason delaySecs] }
  | control => { mailbox with control := enqueueControl mailbox.control control }

/-- What a receive takes; it waits while the mailbox is empty. -/
def recv : Option (HelperEvent × OutputMailbox) :=
  match mailbox.control with
  | event :: rest => some (event, { mailbox with control := rest })
  | [] =>
    match mailbox.latestFrame with
    | some frame => some (frame, { mailbox with latestFrame := none })
    | none =>
      match mailbox.latestDelta with
      | some delta => some (delta, { mailbox with latestDelta := none })
      | none => none

end OutputMailbox

end Onetcli.Rdp.Display

namespace Onetcli.Rdp.Display

open Runs

structure RdpImageRegion where
  x : UInt16
  y : UInt16
  width : UInt16
  height : UInt16

structure DecodedPointer where
  width : UInt16
  height : UInt16
  hotspotX : UInt16
  hotspotY : UInt16
  bitmapData : List UInt8

structure RdpImage where
  buffer : List UInt32
  width : UInt16
  height : UInt16

inductive RdpOutputEvent where
  | connected
  | loginComplete
  | postLogonDisplayRedraw
  | malformedBitmapDisplayRedraw
  | displayResizeFallback
  | image (image : RdpImage)
  | imageRegion (bgra : List UInt8) (width height : UInt16) (region : RdpImageRegion)
  | connectionFailure (message : String)
  | terminated (message : String)
  | pointerDefault
  | pointerHidden
  | pointerPosition (x y : UInt16)
  | pointerBitmap (pointer : DecodedPointer)

/-! ## The mapper -/

def rdpU32PixelsToBgra (buffer : List UInt32) : List UInt8 :=
  buffer.flatMap fun (pixel : UInt32) =>
    [pixel.toUInt8, (pixel >>> 8).toUInt8, (pixel >>> 16).toUInt8, 0xff]

structure PendingCursor where
  appearance : Option HelperEvent := none
  position : Option (UInt16 × UInt16) := none

def PendingCursor.record (cursor : PendingCursor) : HelperEvent → PendingCursor
  | .cursorPosition x y => { cursor with position := some (x, y) }
  | .cursorDefault => { cursor with appearance := some .cursorDefault }
  | .cursorHidden => { cursor with appearance := some .cursorHidden }
  | .cursorRgbaBytes width height hotspotX hotspotY rgba =>
    { cursor with appearance := some (.cursorRgbaBytes width height hotspotX hotspotY rgba) }
  | _ => cursor

/-- The events that `append_to` takes out. -/
def PendingCursor.events (cursor : PendingCursor) : List HelperEvent :=
  cursor.appearance.toList ++ cursor.position.toList.map fun (x, y) => .cursorPosition x y

structure RdpOutputMapper where
  isConnected : Bool := false
  baseSize : Option (UInt16 × UInt16) := none
  pendingCursor : PendingCursor := {}

/-- The checks of a dirty region against the size that it comes with. -/
def wellFormed (bgra : List UInt8) (width height : UInt16) (region : RdpImageRegion) : Bool :=
  region.width ≠ 0 && region.height ≠ 0 &&
    region.x.toNat + region.width.toNat ≤ width.toNat &&
    region.y.toNat + region.height.toNat ≤ height.toNat &&
    region.width.toNat * region.height.toNat * 4 = bgra.length

/-- The rectangle of a dirty region, with the length of its bytes. -/
def regionRect (region : RdpImageRegion) (bgra : List UInt8) : HelperFrameRect :=
  { x := region.x, y := region.y, width := region.width, height := region.height
    byteLen := bgra.length }

namespace RdpOutputMapper

variable (mapper : RdpOutputMapper)

def resetSession : RdpOutputMapper := {}

def mapCursor (event : HelperEvent) : RdpOutputMapper × List HelperEvent :=
  if mapper.isConnected then (mapper, [event])
  else ({ mapper with pendingCursor := mapper.pendingCursor.record event }, [])

def mapImage (image : RdpImage) : RdpOutputMapper × List HelperEvent :=
  let frame := .frameBgraBytes image.width image.height (rdpU32PixelsToBgra image.buffer)
  let size := some (image.width, image.height)
  if mapper.isConnected then ({ mapper with baseSize := size }, [frame])
  else
    ({ isConnected := true, baseSize := size, pendingCursor := {} },
      .connected image.width image.height :: mapper.pendingCursor.events ++ [frame])

def map : RdpOutputEvent → RdpOutputMapper × List HelperEvent
  | .connected => (mapper, [])
  | .loginComplete => (mapper, [])
  | .postLogonDisplayRedraw => (mapper, [])
  | .malformedBitmapDisplayRedraw => (mapper, [])
  | .displayResizeFallback => (resetSession, [.reconnecting .displayUpdate none])
  | .image image => mapper.mapImage image
  | .imageRegion bgra width height region =>
    if !mapper.isConnected then (mapper, [])
    else if mapper.baseSize ≠ some (width, height) then (mapper, [])
    else if !wellFormed bgra width height region then (mapper, [])
    else (mapper, [.frameBgraRects width height [regionRect region bgra] bgra])
  | .connectionFailure message => (resetSession, [.connectionFailure message])
  | .terminated message => (resetSession, [.terminated message])
  | .pointerDefault => mapper.mapCursor .cursorDefault
  | .pointerHidden => mapper.mapCursor .cursorHidden
  | .pointerPosition x y => mapper.mapCursor (.cursorPosition x y)
  | .pointerBitmap pointer =>
    if pointer.width = 0 ∨ pointer.height = 0 then mapper.mapCursor .cursorHidden
    else mapper.mapCursor (.cursorRgbaBytes pointer.width pointer.height pointer.hotspotX
      pointer.hotspotY pointer.bitmapData)

end RdpOutputMapper

/-! ## The loop -/

/-- The loop with its slot, the helper events that it has still to send, the mailbox and
what was received. `fed` are the events it took; the numbers say to which session a
frame or a delta in the mailbox belongs, and `received` carries the number along. -/
structure OutputRun where
  mapper : RdpOutputMapper := {}
  pendingImage : Option RdpImage := none
  outbox : List HelperEvent := []
  mailbox : OutputMailbox := {}
  received : List (Nat × HelperEvent) := []
  fed : List RdpOutputEvent := []
  sessions : Nat := 0
  frameSession : Nat := 0
  deltaSession : Nat := 0

namespace OutputRun

variable (run : OutputRun)

/-- `publish_output_event` up to the first send. -/
def publish (event : RdpOutputEvent) : OutputRun :=
  let (mapper, events) := run.mapper.map event
  { run with mapper, outbox := run.outbox ++ events }

def flushPendingImage : OutputRun :=
  match run.pendingImage with
  | none => run
  | some image => { run with pendingImage := none }.publish (.image image)

/-- The branches of the loop for an event that it took. -/
def handle : RdpOutputEvent → OutputRun
  | .image image => { run with pendingImage := some image }
  | .pointerDefault => run.publish .pointerDefault
  | .pointerHidden => run.publish .pointerHidden
  | .pointerPosition x y => run.publish (.pointerPosition x y)
  | .pointerBitmap pointer => run.publish (.pointerBitmap pointer)
  | event => run.flushPendingImage.publish event

def sendNext : OutputRun :=
  match run.outbox with
  | [] => run
  | event :: rest =>
    let sessions := run.sessions + if event.isConnected then 1 else 0
    { run with
      outbox := rest
      mailbox := run.mailbox.send event
      sessions
      frameSession := match event with
        | .frameBgraBytes _ _ _ => sessions
        | _ => run.frameSession
      deltaSession := match event with
        | .frameBgraRects _ _ _ _ => sessions
        | _ => run.deltaSession }

def sessionOf : HelperEvent → Nat
  | .frameBgraBytes _ _ _ => run.frameSession
  | .frameBgraRects _ _ _ _ => run.deltaSession
  | _ => run.sessions

def recv : OutputRun :=
  match run.mailbox.recv with
  | none => run
  | some (event, mailbox) =>
    { run with mailbox, received := run.received ++ [(run.sessionOf event, event)] }

end OutputRun

inductive OutputStep where
  | feed (event : RdpOutputEvent)
  | flush
  | send
  | post (event : HelperEvent)
  | recv

/-- The loop takes an event, or flushes, when it has sent all it had to send; other threads
post clipboard events and receive at any time. -/
def outputStep (run : OutputRun) : OutputStep → OutputRun
  | .feed event =>
    if run.outbox = [] then { run.handle event with fed := run.fed ++ [event] } else run
  | .flush => if run.outbox = [] then run.flushPendingImage else run
  | .send => run.sendNext
  | .post event =>
    if event.isClipboard then { run with mailbox := run.mailbox.send event } else run
  | .recv => run.recv

def outputMachine : Machine OutputRun OutputStep Unit where
  step run input := (outputStep run input, ())

/-! ## The pace of the loop -/

/-- Milliseconds, as all times. -/
def frameSettleInterval : Nat := 4

def maxFramePresentationLatency : Nat := 16

structure FramePresentationSchedule where
  settleDeadline : Option Nat := none
  maxLatencyDeadline : Option Nat := none

namespace FramePresentationSchedule

variable (schedule : FramePresentationSchedule)

def recordImage (now : Nat) : FramePresentationSchedule where
  settleDeadline := some (now + frameSettleInterval)
  maxLatencyDeadline :=
    some (schedule.maxLatencyDeadline.getD (now + maxFramePresentationLatency))

def deadline : Option Nat :=
  match schedule.settleDeadline, schedule.maxLatencyDeadline with
  | some settle, some maxLatency => some (min settle maxLatency)
  | some settle, none => some settle
  | none, some maxLatency => some maxLatency
  | none, none => none

def isDue (now : Nat) : Bool := schedule.deadline.any (· ≤ now)

end FramePresentationSchedule

/-- The loop with its clock. `checked` is when it last looked for a due image, if no branch of
the `select!` was taken since; `waiting` is when the first and the last image came for the
slot. -/
structure PacedRun where
  run : OutputRun := {}
  schedule : FramePresentationSchedule := {}
  checked : Option Nat := some 0
  waiting : Option (Nat × Nat) := none

inductive PacedStep where
  | event (event : RdpOutputEvent) (now : Nat)
  | wake (now : Nat)
  | check (now : Nat)
  | send
  | post (event : HelperEvent)
  | recv

namespace PacedRun

variable (paced : PacedRun)

def flush : PacedRun :=
  { paced with run := outputStep paced.run .flush, schedule := {}, waiting := none }

def event (event : RdpOutputEvent) (now : Nat) : PacedRun :=
  let run := outputStep paced.run (.feed event)
  match event with
  | .image _ =>
    { run
      schedule := paced.schedule.recordImage now
      checked := none
      waiting := some ((paced.waiting.map Prod.fst).getD now, now) }
  | .pointerDefault | .pointerHidden | .pointerPosition _ _ | .pointerBitmap _ =>
    { paced with run, checked := none }
  | _ => { run, checked := none }

end PacedRun

/-- A branch of the `select!` and a look for a due image take turns, each when everything was
sent. -/
def pacedStep (paced : PacedRun) : PacedStep → PacedRun
  | .event event now =>
    if paced.run.outbox = [] ∧ paced.checked.isSome then paced.event event now else paced
  | .wake now =>
    if paced.run.outbox = [] ∧ paced.checked.isSome ∧ paced.schedule.isDue now then
      { paced.flush with checked := none }
    else paced
  | .check now =>
    if paced.run.outbox = [] ∧ paced.checked = none then
      { if paced.schedule.isDue now then paced.flush else paced with checked := some now }
    else paced
  | .send => { paced with run := outputStep paced.run .send }
  | .post event => { paced with run := outputStep paced.run (.post event) }
  | .recv => { paced with run := outputStep paced.run .recv }

def pacedMachine : Machine PacedRun PacedStep Unit where
  step paced input := (pacedStep paced input, ())

/-- The timer is set for the image in the slot, and after a look at the clock the last image
for the slot is younger than the quiet window and the first than the longest delay. -/
structure InTime (paced : PacedRun) : Prop where
  slot : paced.run.pendingImage.isSome = paced.waiting.isSome
  armed : paced.schedule = ⟨paced.waiting.map (·.2 + 4), paced.waiting.map (·.1 + 16)⟩
  young : ∀ now first last, paced.checked = some now → paced.waiting = some (first, last) →
    now < last + 4 ∧ now < first + 16

variable {paced : PacedRun}

theorem flush_slot (run : OutputRun) : run.flushPendingImage.pendingImage = none := by
  unfold OutputRun.flushPendingImage
  split
  · assumption
  · rfl

theorem flush_inTime (sent : paced.run.outbox = []) (checked : Option Nat) :
    InTime { paced.flush with checked } := by
  refine ⟨?_, rfl, fun _ _ _ _ waits => by cases waits⟩
  simp [PacedRun.flush, outputStep, sent, flush_slot]

theorem event_inTime (inTime : InTime paced) (sent : paced.run.outbox = [])
    (event : RdpOutputEvent) (now : Nat) : InTime (paced.event event now) := by
  have unchecked {after : PacedRun} (same : after.checked = none)
      (slot : after.run.pendingImage.isSome = after.waiting.isSome)
      (armed : after.schedule = ⟨after.waiting.map (·.2 + 4), after.waiting.map (·.1 + 16)⟩) :
      InTime after :=
    ⟨slot, armed, fun _ _ _ checked _ => by cases same.symm.trans checked⟩
  cases event with
  | image image =>
    refine unchecked rfl ?_ ?_
    · simp [PacedRun.event, outputStep, sent, OutputRun.handle]
    · simp only [PacedRun.event, FramePresentationSchedule.recordImage, inTime.armed]
      cases paced.waiting <;> rfl
  | pointerDefault | pointerHidden | pointerPosition | pointerBitmap =>
    refine unchecked rfl (Eq.trans ?_ inTime.slot) inTime.armed
    rw [PacedRun.event, outputStep, if_pos sent]
    rfl
  | _ =>
    refine unchecked rfl ?_ rfl
    simp [PacedRun.event, outputStep, sent, OutputRun.handle, OutputRun.publish, flush_slot]

theorem check_inTime (inTime : InTime paced) {now : Nat} (early : ¬paced.schedule.isDue now) :
    InTime { paced with checked := some now } := by
  refine ⟨inTime.slot, inTime.armed, ?_⟩
  rintro _ first last ⟨⟩ waits
  rw [FramePresentationSchedule.isDue, inTime.armed, show paced.waiting = _ from waits] at early
  simp only [Option.map_some, FramePresentationSchedule.deadline, Option.any_some,
    decide_eq_true_eq] at early
  omega

theorem pacedStep_kept (inTime : InTime paced) (input : PacedStep) :
    InTime (pacedStep paced input) ∧ ((pacedStep paced input).run = paced.run ∨
      ∃ plain, (pacedStep paced input).run = outputStep paced.run plain) := by
  have aside {run : OutputRun} (same : run.pendingImage = paced.run.pendingImage) :
      InTime { paced with run } :=
    ⟨(congrArg Option.isSome same).trans inTime.slot, inTime.armed, inTime.young⟩
  cases input with
  | event event now =>
    rw [pacedStep]
    split
    · rename_i ready
      refine ⟨event_inTime inTime ready.1 event now, Or.inr ⟨.feed event, ?_⟩⟩
      cases event <;> rfl
    · exact ⟨inTime, Or.inl rfl⟩
  | wake now =>
    rw [pacedStep]
    split
    · rename_i ready
      exact ⟨flush_inTime ready.1 none, Or.inr ⟨.flush, rfl⟩⟩
    · exact ⟨inTime, Or.inl rfl⟩
  | check now =>
    rw [pacedStep]
    split
    · rename_i ready
      split
      · exact ⟨flush_inTime ready.1 _, Or.inr ⟨.flush, rfl⟩⟩
      · rename_i early
        exact ⟨check_inTime inTime early, Or.inl rfl⟩
    · exact ⟨inTime, Or.inl rfl⟩
  | send =>
    refine ⟨aside ?_, Or.inr ⟨.send, rfl⟩⟩
    simp only [outputStep, OutputRun.sendNext]
    split <;> rfl
  | post event =>
    refine ⟨aside ?_, Or.inr ⟨.post event, rfl⟩⟩
    simp only [outputStep]
    split <;> rfl
  | recv =>
    refine ⟨aside ?_, Or.inr ⟨.recv, rfl⟩⟩
    simp only [outputStep, OutputRun.recv]
    split <;> rfl

/-- The loop keeps the deadlines of its images, and does nothing that a loop without a clock
could not do. -/
theorem images_flushed_in_time (steps : List PacedStep) :
    InTime (pacedMachine.run {} steps).1 ∧
      ∃ plain, (pacedMachine.run {} steps).1.run = (outputMachine.run {} plain).1 := by
  refine visited_invariant pacedMachine (fun paced => InTime paced ∧
    ∃ plain, paced.run = (outputMachine.run {} plain).1) ?_ {} steps ?_ _
      (run_mem_visited pacedMachine {} steps)
  · rintro paced input ⟨inTime, plain, same⟩
    obtain ⟨kept, stays | ⟨next, moves⟩⟩ := pacedStep_kept inTime input
    · exact ⟨kept, plain, stays.trans same⟩
    · refine ⟨kept, plain ++ [next], ?_⟩
      rw [run_append, ← same]
      exact moves
  · exact ⟨⟨rfl, rfl, fun _ _ _ _ waits => by cases waits⟩, [], rfl⟩

end Onetcli.Rdp.Display
