import Onetcli.Lib.Checks
import Onetcli.Lib.Runs
import Onetcli.Vnc.Mailbox

/-!
The framebuffer of a session, framebuffer.rs, and what vnc_encoding.rs sends of it: the
first flush after a resolution is set sends a complete frame, every later one the dirty
rectangles with the contents of that moment. A call fails with an error it returns, or
by a slice out of range, which ends the thread.
-/

namespace Onetcli.Vnc

inductive Fault where
  | error (message : String)
  | panic
  deriving DecidableEq

def ensure (condition : Prop) [Decidable condition] (message : String) : Except Fault Unit :=
  Checks.ensure condition (.error message)

def saturatingAdd (first second : UInt16) : UInt16 :=
  if first.toNat + second.toNat < UInt16.size then first + second else 65535

/-- Reading a range of bytes. -/
def slice (bytes : List UInt8) (start stop : Nat) : Except Fault (List UInt8) :=
  if stop ≤ bytes.length then .ok ((bytes.drop start).take (stop - start)) else .error .panic

/-- Writing a range of bytes. -/
def copyFromSlice (bytes : List UInt8) (start stop : Nat) (data : List UInt8) :
    Except Fault (List UInt8) :=
  if stop ≤ bytes.length ∧ data.length = stop - start then
    .ok (bytes.take start ++ data ++ bytes.drop stop)
  else .error .panic

def swapPixels : List UInt8 → List UInt8
  | red :: green :: blue :: alpha :: rest => blue :: green :: red :: alpha :: swapPixels rest
  | rest => rest

structure RgbaFramebuffer where
  width : UInt16
  height : UInt16
  rgba : List UInt8
  deriving DecidableEq

namespace RgbaFramebuffer

def new (width height : UInt16) : RgbaFramebuffer :=
  ⟨width, height, List.replicate (width.toNat * height.toNat * 4) 0⟩

variable (framebuffer : RgbaFramebuffer)

def rowStart (x y : UInt16) (row : Nat) : Nat :=
  ((y.toNat + row) * framebuffer.width.toNat + x.toNat) * 4

def cloneBgra : List UInt8 :=
  swapPixels framebuffer.rgba

def cloneBgraRect (x y width height : UInt16) : Except Fault (List UInt8) :=
  (List.range height.toNat).foldlM (fun bgra row => do
    let start := framebuffer.rowStart x y row
    let pixels ← slice framebuffer.rgba start (start + width.toNat * 4)
    pure (bgra ++ swapPixels pixels)) []

def patchRgbaRect (x y width height : UInt16) (rectRgba : List UInt8) :
    Except Fault RgbaFramebuffer := do
  ensure (rectRgba.length = width.toNat * height.toNat * 4) "invalid rectangle buffer length"
  ensure (x ≤ framebuffer.width) "rectangle x is outside framebuffer"
  ensure (y ≤ framebuffer.height) "rectangle y is outside framebuffer"
  ensure (saturatingAdd x width ≤ framebuffer.width) "rectangle width exceeds framebuffer"
  ensure (saturatingAdd y height ≤ framebuffer.height) "rectangle height exceeds framebuffer"
  let rgba ← (List.range height.toNat).foldlM (fun rgba row => do
    let srcStart := row * width.toNat * 4
    let pixels ← slice rectRgba srcStart (srcStart + width.toNat * 4)
    let dstStart := framebuffer.rowStart x y row
    copyFromSlice rgba dstStart (dstStart + width.toNat * 4) pixels) framebuffer.rgba
  pure { framebuffer with rgba := rgba }

def copyRect (srcX srcY dstX dstY width height : UInt16) : Except Fault RgbaFramebuffer := do
  ensure (srcX ≤ framebuffer.width) "source x is outside framebuffer"
  ensure (srcY ≤ framebuffer.height) "source y is outside framebuffer"
  ensure (dstX ≤ framebuffer.width) "destination x is outside framebuffer"
  ensure (dstY ≤ framebuffer.height) "destination y is outside framebuffer"
  ensure (saturatingAdd srcX width ≤ framebuffer.width) "source width exceeds framebuffer"
  ensure (saturatingAdd srcY height ≤ framebuffer.height) "source height exceeds framebuffer"
  ensure (saturatingAdd dstX width ≤ framebuffer.width) "destination width exceeds framebuffer"
  ensure (saturatingAdd dstY height ≤ framebuffer.height)
    "destination height exceeds framebuffer"
  let pixels ← (List.range height.toNat).foldlM (fun pixels row => do
    let start := framebuffer.rowStart srcX srcY row
    let bytes ← slice framebuffer.rgba start (start + width.toNat * 4)
    pure (pixels ++ bytes)) []
  framebuffer.patchRgbaRect dstX dstY width height pixels

end RgbaFramebuffer

structure Screen where
  width : UInt16
  height : UInt16

structure Rect where
  x : UInt16
  y : UInt16
  width : UInt16
  height : UInt16
  deriving DecidableEq

structure VncFramebufferState where
  framebuffer : Option RgbaFramebuffer := none
  keyframe : Bool := false
  dirtyRects : List Rect := []

def vncCapabilities : RemoteDesktopCapabilities :=
  { RemoteDesktopCapabilities.vncMvp with
    resize := .localScaleOnly, clipboardText := true, cursorShape := false }

def frameRect (rect : Rect) : RemoteDesktopFrameRect :=
  ⟨rect.x, rect.y, rect.width, rect.height, rect.width.toNat * rect.height.toNat * 4⟩

namespace VncFramebufferState

/-- All of the state before is given up. -/
def setResolution (_state : VncFramebufferState) (screen : Screen) (mailbox : OutputMailbox) :
    VncFramebufferState × OutputMailbox :=
  ({ framebuffer := some (RgbaFramebuffer.new screen.width screen.height)
     keyframe := true
     dirtyRects := [] },
    mailbox.send (.connected screen.width screen.height vncCapabilities))

variable (state : VncFramebufferState)

def patchRect (rect : Rect) (data : List UInt8) : Except Fault VncFramebufferState :=
  match state.framebuffer with
  | none => .ok state
  | some framebuffer => do
    let patched ← framebuffer.patchRgbaRect rect.x rect.y rect.width rect.height data
    pure { state with framebuffer := some patched, dirtyRects := state.dirtyRects ++ [rect] }

def copyRect (dst src : Rect) : Except Fault VncFramebufferState :=
  match state.framebuffer with
  | none => .ok state
  | some framebuffer => do
    let copied ← framebuffer.copyRect src.x src.y dst.x dst.y dst.width dst.height
    pure { state with framebuffer := some copied, dirtyRects := state.dirtyRects ++ [dst] }

def flushFrame (mailbox : OutputMailbox) : Except Fault (VncFramebufferState × OutputMailbox) :=
  match state.framebuffer with
  | none => .ok (state, mailbox)
  | some framebuffer =>
    if state.dirtyRects.isEmpty then .ok (state, mailbox)
    else if state.keyframe then
      .ok ({ state with keyframe := false, dirtyRects := [] },
        mailbox.send (.frame framebuffer.width framebuffer.height framebuffer.cloneBgra))
    else do
      let rects := state.dirtyRects.map frameRect
      let bgra ← rects.foldlM (fun bgra rect => do
        let pixels ← framebuffer.cloneBgraRect rect.x rect.y rect.width rect.height
        pure (bgra ++ pixels)) []
      pure ({ state with dirtyRects := [] },
        mailbox.send (.frameBgraRects framebuffer.width framebuffer.height rects bgra))

end VncFramebufferState

/-! ## The calls of a session -/

inductive DisplayCall where
  | setResolution (screen : Screen)
  | patchRect (rect : Rect) (data : List UInt8)
  | copyRect (dst src : Rect)
  | flushFrame
  /-- Other threads write to the mailbox too. -/
  | send (output : RemoteDesktopOutput)
  | recv

structure DisplayRun where
  state : VncFramebufferState := {}
  mailbox : OutputMailbox := {}
  received : List RemoteDesktopOutput := []

def DisplayRun.step (run : DisplayRun) : DisplayCall → Except Fault DisplayRun
  | .setResolution screen =>
    let (state, mailbox) := run.state.setResolution screen run.mailbox
    .ok { run with state := state, mailbox := mailbox }
  | .patchRect rect data => do
    let state ← run.state.patchRect rect data
    pure { run with state := state }
  | .copyRect dst src => do
    let state ← run.state.copyRect dst src
    pure { run with state := state }
  | .flushFrame => do
    let (state, mailbox) ← run.state.flushFrame run.mailbox
    pure { run with state := state, mailbox := mailbox }
  | .send output => .ok { run with mailbox := run.mailbox.send output }
  | .recv =>
    match run.mailbox.recv with
    | some (output, mailbox) =>
      .ok { run with mailbox := mailbox, received := run.received ++ [output] }
    | none => .ok run

def displayMachine : Runs.Machine DisplayRun DisplayCall (Option Fault) where
  step run call :=
    match run.step call with
    | .ok next => (next, none)
    | .error fault => (run, some fault)

end Onetcli.Vnc
