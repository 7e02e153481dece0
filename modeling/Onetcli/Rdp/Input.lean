import Onetcli.Lib.Histories

/-!
Input for the remote desktop, rdp/input.rs and rdp/input_sender.rs of the helper. The input
queue answers each attempt to reserve a place in it; the answers to come are part of the state,
and the helper waits where they end. The input database of ironrdp is a parameter that takes
one operation after the other.
-/

namespace Onetcli.Rdp.Input

open Histories

structure MousePosition where
  x : UInt16
  y : UInt16
  deriving DecidableEq

inductive HelperMouseButton where
  | left
  | middle
  | right
  | x1
  | x2
  deriving DecidableEq

inductive MouseButton where
  | left
  | middle
  | right
  | x1
  | x2
  deriving DecidableEq

structure WheelRotations where
  isVertical : Bool
  rotationUnits : Int16
  deriving DecidableEq

structure Scancode where
  extended : Bool
  code : UInt8
  deriving DecidableEq

inductive Operation where
  | mouseButtonPressed (button : MouseButton)
  | mouseButtonReleased (button : MouseButton)
  | mouseMove (position : MousePosition)
  | wheelRotations (rotations : WheelRotations)
  | keyPressed (scancode : Scancode)
  | keyReleased (scancode : Scancode)
  | unicodeKeyPressed (character : Char)
  | unicodeKeyReleased (character : Char)
  deriving DecidableEq

/-- The requests, with what `apply_input_request` reads of them. -/
inductive HelperRequest where
  | connect
  | resize (width height : UInt16) (scaleFactor : UInt32)
  | mouseMove (x y : UInt16)
  | mouseButton (button : HelperMouseButton) (pressed : Bool)
  | wheel (vertical : Bool) (units : Int16)
  | key (code : UInt16) (extended pressed : Bool)
  | text (text : String)
  | clipboardText (text : String)
  | clipboardFiles (transferId : UInt64) (paths : List String)
  | cancelClipboardTransfer (transferId : UInt64)
  | close
  deriving DecidableEq

inductive RdpInputEvent (Event : Type) where
  | resize (width height : UInt16) (scaleFactor : UInt32)
  | fastPath (events : List Event)

/-- What an attempt to reserve a place in the input queue finds. -/
inductive Reservation where
  | permit
  | full
  | closed
  deriving DecidableEq

inductive InputQueueStatus where
  | sent
  | full
  deriving DecidableEq

inductive RdpInputAction where
  | continue
  | close
  deriving DecidableEq

/-- How far a call came with the answers there are. -/
inductive Progress (Value : Type) where
  | done (value : Value)
  | failed (message : String)
  | waiting
  deriving DecidableEq

/-- What a place in the queue is taken for. -/
inductive Item where
  | resize (width height : UInt16) (scaleFactor : UInt32)
  | operation (operation : Operation)
  deriving DecidableEq

inductive Observed where
  | requested (request : HelperRequest)
  | enqueued (item : Item)
  deriving DecidableEq

/-- The input context, with the queue. `history` is kept for the proofs. -/
structure RdpInputContext (Database Event : Type) where
  answers : List Reservation
  sent : List (RdpInputEvent Event) := []
  database : Database
  pendingMousePosition : Option MousePosition := none
  history : List Observed := []

section Requests

variable {Database Event : Type} (apply : Database → Operation → Database × List Event)

/-- `Database::apply` of a transaction. -/
def applyAll : Database → List Operation → Database × List Event
  | database, [] => (database, [])
  | database, operation :: rest =>
    let first := apply database operation
    let others := applyAll first.1 rest
    (others.1, first.2 ++ others.2)

def fastPathEvent (events : List Event) : Option (RdpInputEvent Event) :=
  if events.isEmpty then none else some (.fastPath events)

variable (context : RdpInputContext Database Event)

/-- The place is taken: only now the event is built. -/
def RdpInputContext.take (items : List Item)
    (buildEvent : Database → Database × Option (RdpInputEvent Event)) :
    RdpInputContext Database Event :=
  let built := buildEvent context.database
  { context with
    database := built.1
    sent := context.sent ++ built.2.toList
    history := context.history ++ items.map .enqueued }

def trySendWith (items : List Item)
    (buildEvent : Database → Database × Option (RdpInputEvent Event)) :
    Progress InputQueueStatus × RdpInputContext Database Event :=
  match context.answers with
  | [] => (.waiting, context)
  | .full :: answers => (.done .full, { context with answers })
  | .closed :: answers => (.failed "RDP input channel closed", { context with answers })
  | .permit :: answers => (.done .sent, { context with answers }.take items buildEvent)

/-- `send_reliably` of one attempt, for the answers it gets. -/
def sendReliably (items : List Item)
    (buildEvent : Database → Database × Option (RdpInputEvent Event)) :
    List Reservation → RdpInputContext Database Event →
      Progress Unit × RdpInputContext Database Event
  | [], context => (.waiting, { context with answers := [] })
  | answer :: answers, context =>
    match trySendWith { context with answers := answer :: answers } items buildEvent with
    | (.done .sent, context) => (.done (), context)
    | (.done .full, context) => sendReliably items buildEvent answers context
    | (.failed message, context) => (.failed message, context)
    | (.waiting, context) => (.waiting, context)

def operationsEvent (operations : List Operation) (database : Database) :
    Database × Option (RdpInputEvent Event) :=
  let applied := applyAll apply database operations
  (applied.1, fastPathEvent applied.2)

def trySendOperations (operations : List Operation) :
    Progress InputQueueStatus × RdpInputContext Database Event :=
  trySendWith context (operations.map .operation) (operationsEvent apply operations)

def sendOperations (operations : List Operation) :
    Progress Unit × RdpInputContext Database Event :=
  sendReliably (operations.map .operation) (operationsEvent apply operations) context.answers
    context

def sendResize (width height : UInt16) (scaleFactor : UInt32) :
    Progress Unit × RdpInputContext Database Event :=
  sendReliably [.resize width height scaleFactor]
    (fun database => (database, some (.resize width height scaleFactor))) context.answers context

/-- One attempt; a position that is not taken stays to go before the next pointer operation. -/
def sendMouseMove (position : MousePosition) : Progress Unit × RdpInputContext Database Event :=
  match trySendOperations apply { context with pendingMousePosition := some position }
      [.mouseMove position] with
  | (.done .sent, context) => (.done (), { context with pendingMousePosition := none })
  | (.done .full, context) => (.done (), context)
  | (.failed message, context) => (.failed message, context)
  | (.waiting, context) => (.waiting, context)

def sendPointerOperation (operation : Operation) :
    Progress Unit × RdpInputContext Database Event :=
  match context.pendingMousePosition with
  | some position =>
    match sendOperations apply context [.mouseMove position, operation] with
    | (.done (), context) => (.done (), { context with pendingMousePosition := none })
    | stopped => stopped
  | none => sendOperations apply context [operation]

def sendText : List Char → RdpInputContext Database Event →
    Progress Unit × RdpInputContext Database Event
  | [], context => (.done (), context)
  | character :: rest, context =>
    match sendOperations apply context
        [.unicodeKeyPressed character, .unicodeKeyReleased character] with
    | (.done (), context) => sendText rest context
    | stopped => stopped

def HelperMouseButton.mouseButton : HelperMouseButton → MouseButton
  | .left => .left
  | .middle => .middle
  | .right => .right
  | .x1 => .x1
  | .x2 => .x2

def mouseButtonOperation (button : HelperMouseButton) (pressed : Bool) : Operation :=
  if pressed then .mouseButtonPressed button.mouseButton
  else .mouseButtonReleased button.mouseButton

def keyOperation (code : UInt16) (extended pressed : Bool) : Except String Operation :=
  if code.toNat < 256 then
    let scancode : Scancode := ⟨extended, code.toUInt8⟩
    .ok (if pressed then .keyPressed scancode else .keyReleased scancode)
  else .error "RDP scancode must fit in u8"

/-- A call that lets the loop go on when it is done. -/
def continues (called : Progress Unit × RdpInputContext Database Event) :
    Progress RdpInputAction × RdpInputContext Database Event :=
  match called with
  | (.done (), context) => (.done .continue, context)
  | (.failed message, context) => (.failed message, context)
  | (.waiting, context) => (.waiting, context)

variable (setLocalText : String → Except String Unit)

def applyInputRequest (request : HelperRequest) :
    Progress RdpInputAction × RdpInputContext Database Event :=
  let context := { context with history := context.history ++ [.requested request] }
  match request with
  | .resize width height scaleFactor =>
    continues (sendResize { context with pendingMousePosition := none } width height scaleFactor)
  | .mouseMove x y => continues (sendMouseMove apply context ⟨x, y⟩)
  | .mouseButton button pressed =>
    continues (sendPointerOperation apply context (mouseButtonOperation button pressed))
  | .wheel vertical units =>
    continues (sendPointerOperation apply context (.wheelRotations ⟨vertical, units⟩))
  | .key code extended pressed =>
    match keyOperation code extended pressed with
    | .ok operation => continues (sendOperations apply context [operation])
    | .error message => (.failed message, context)
  | .text text => continues (sendText apply text.toList context)
  | .clipboardText text =>
    match setLocalText text with
    | .ok () => (.done .continue, context)
    | .error message => (.failed message, context)
  | .clipboardFiles _ _ => (.done .continue, context)
  | .cancelClipboardTransfer _ => (.done .continue, context)
  | .close => (.done .close, context)
  | .connect => (.failed "Connect request is only valid as the first message", context)

/-- The loop of main.rs. A line that cannot be read or decoded ends it. -/
def processInputRequests : List (Except String HelperRequest) →
    RdpInputContext Database Event → Progress Unit × RdpInputContext Database Event
  | [], context => (.done (), context)
  | .error message :: _, context => (.failed message, context)
  | .ok request :: rest, context =>
    match applyInputRequest apply context setLocalText request with
    | (.done .continue, context) => processInputRequests rest context
    | (.done .close, context) => (.done (), context)
    | (.failed message, context) => (.failed message, context)
    | (.waiting, context) => (.waiting, context)

end Requests

end Onetcli.Rdp.Input
