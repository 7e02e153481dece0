import Mathlib.Data.List.Basic

/-!
The mailbox between the session of the viewer and the thread that writes to the client,
output_mailbox.rs of the helper. Control outputs stand in a queue; of the frames only
the latest is kept, with the dirty rectangles since then as one output. A mailbox that
does not accept the outputs of a session drops them until the next session is connected.
A receive is a step of its own. A receiver that goes away is left out.
-/

namespace Onetcli.Vnc

inductive ResizeSupport where
  | localScaleOnly
  deriving DecidableEq

structure RemoteDesktopCapabilities where
  resize : ResizeSupport
  clipboardText : Bool
  cursorShape : Bool
  audio : Bool
  fileTransfer : Bool
  deriving DecidableEq

def RemoteDesktopCapabilities.vncMvp : RemoteDesktopCapabilities where
  resize := .localScaleOnly
  clipboardText := true
  cursorShape := false
  audio := false
  fileTransfer := false

structure RemoteDesktopFrameRect where
  x : UInt16
  y : UInt16
  width : UInt16
  height : UInt16
  byteLen : Nat
  deriving DecidableEq

structure RemoteDesktopCursor where
  width : UInt16
  height : UInt16
  hotspotX : UInt16
  hotspotY : UInt16
  rgba : List UInt8
  deriving DecidableEq

inductive RemoteDesktopReconnectReason where
  | displayUpdate
  | sessionError
  | connectionLost
  | manual
  deriving DecidableEq

structure RemoteDesktopReconnect where
  reason : RemoteDesktopReconnectReason
  delaySecs : Option UInt64
  deriving DecidableEq

inductive RemoteDesktopOutput where
  | connected (width height : UInt16) (capabilities : RemoteDesktopCapabilities)
  | frame (width height : UInt16) (rgba : List UInt8)
  | frameBgraRects (width height : UInt16) (rects : List RemoteDesktopFrameRect)
      (bgra : List UInt8)
  | cursorDefault
  | cursorHidden
  | cursorPosition (x y : UInt16)
  | cursorBitmap (cursor : RemoteDesktopCursor)
  | clipboardText (text : String)
  | reconnecting (reconnect : RemoteDesktopReconnect)
  | status (message : String)
  | connectionFailure (message : String)
  | terminated (message : String)
  deriving DecidableEq

structure OutputMailbox where
  control : List RemoteDesktopOutput := []
  latestFrame : Option RemoteDesktopOutput := none
  latestDelta : Option RemoteDesktopOutput := none
  acceptingSessionOutputs : Bool := true

def isSessionScopedControl : RemoteDesktopOutput → Bool
  | .clipboardText _ => true
  | .cursorDefault => true
  | .cursorHidden => true
  | .cursorPosition _ _ => true
  | .cursorBitmap _ => true
  | _ => false

def mergeDeltas : RemoteDesktopOutput → RemoteDesktopOutput → RemoteDesktopOutput
  | .frameBgraRects width height rects bgra, .frameBgraRects nextWidth nextHeight nextRects nextBgra =>
    if width = nextWidth ∧ height = nextHeight then
      .frameBgraRects width height (rects ++ nextRects) (bgra ++ nextBgra)
    else .frameBgraRects nextWidth nextHeight nextRects nextBgra
  | _, next => next

def enqueueControl (control : List RemoteDesktopOutput) (output : RemoteDesktopOutput) :
    List RemoteDesktopOutput :=
  match control.getLast?, output with
  | some (.cursorPosition _ _), .cursorPosition x y => control.dropLast ++ [.cursorPosition x y]
  | some (.cursorBitmap _), .cursorBitmap cursor => control.dropLast ++ [.cursorBitmap cursor]
  | _, output => control ++ [output]

def discardPendingSessionControls (control : List RemoteDesktopOutput) :
    List RemoteDesktopOutput :=
  control.filter fun output => !isSessionScopedControl output

namespace OutputMailbox

variable (mailbox : OutputMailbox)

def closeSessionOutputs : OutputMailbox where
  control := discardPendingSessionControls mailbox.control
  latestFrame := none
  latestDelta := none
  acceptingSessionOutputs := false

def beginGeneration : OutputMailbox :=
  mailbox.closeSessionOutputs

def send (output : RemoteDesktopOutput) : OutputMailbox :=
  match output with
  | .reconnecting reconnect =>
    let closed := mailbox.closeSessionOutputs
    { closed with control := closed.control ++ [.reconnecting reconnect] }
  | .connected width height capabilities =>
    { mailbox with
      acceptingSessionOutputs := true
      control := mailbox.control ++ [.connected width height capabilities] }
  | .frame width height rgba =>
    if mailbox.acceptingSessionOutputs then
      { mailbox with latestFrame := some (.frame width height rgba), latestDelta := none }
    else mailbox
  | .frameBgraRects width height rects bgra =>
    if mailbox.acceptingSessionOutputs then
      let delta := .frameBgraRects width height rects bgra
      { mailbox with
        latestDelta := match mailbox.latestDelta with
          | some previous => some (mergeDeltas previous delta)
          | none => some delta }
    else mailbox
  | .connectionFailure message =>
    let closed := mailbox.closeSessionOutputs
    { closed with control := closed.control ++ [.connectionFailure message] }
  | .terminated message =>
    let closed := mailbox.closeSessionOutputs
    { closed with control := closed.control ++ [.terminated message] }
  | control =>
    if isSessionScopedControl control && !mailbox.acceptingSessionOutputs then mailbox
    else { mailbox with control := enqueueControl mailbox.control control }

/-- What a receive takes; it waits while the mailbox is empty. -/
def recv : Option (RemoteDesktopOutput × OutputMailbox) :=
  match mailbox.control with
  | output :: rest => some (output, { mailbox with control := rest })
  | [] =>
    match mailbox.latestFrame with
    | some frame => some (frame, { mailbox with latestFrame := none })
    | none =>
      match mailbox.latestDelta with
      | some delta => some (delta, { mailbox with latestDelta := none })
      | none => none

end OutputMailbox

end Onetcli.Vnc
