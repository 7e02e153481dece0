import Mathlib.Data.List.Sort
import Onetcli.Lib.Runs

/-!
Inputs of the user on their way to the server, vnc_input.rs and vnc_keyboard.rs. The keys and
buttons that are down are recorded so that the end of a session can release them. A send is
delivered, and the server then has what it says, or it fails and nothing happens.
-/

namespace Onetcli.Vnc

open Runs

inductive RemoteMouseButton where
  | left
  | middle
  | right
  | x1
  | x2
  deriving DecidableEq

inductive RemoteKey where
  | scancode (value : UInt16)
  | keySym (value : UInt32)
  deriving DecidableEq

inductive RemoteDesktopInput where
  | resize (width height : UInt16)
  | mouseMove (x y : UInt16)
  | mouseButton (button : RemoteMouseButton) (pressed : Bool)
  | wheel (vertical : Bool) (units : Int16)
  | key (key : RemoteKey) (pressed : Bool)
  | text (text : String)
  | clipboardText (text : String)
  | clipboardFiles (paths : List String)
  | reconnect
  | close
  deriving DecidableEq

inductive VncInputAction where
  | continue_
  | closed
  | inputClosed
  | reconnect
  | failed (message : String)
  deriving DecidableEq

/-! ## Keys, buttons and texts -/

def scancodeTable : List (UInt16 × UInt32) :=
  [(0x01, 0xff1b), (0x02, 0x31), (0x03, 0x32), (0x04, 0x33), (0x05, 0x34), (0x06, 0x35),
    (0x07, 0x36), (0x08, 0x37), (0x09, 0x38), (0x0a, 0x39), (0x0b, 0x30), (0x0e, 0xff08),
    (0x0f, 0xff09), (0x10, 0x71), (0x11, 0x77), (0x12, 0x65), (0x13, 0x72), (0x14, 0x74),
    (0x15, 0x79), (0x16, 0x75), (0x17, 0x69), (0x18, 0x6f), (0x19, 0x70), (0x1c, 0xff0d),
    (0x1d, 0xffe3), (0x1e, 0x61), (0x1f, 0x73), (0x20, 0x64), (0x21, 0x66), (0x22, 0x67),
    (0x23, 0x68), (0x24, 0x6a), (0x25, 0x6b), (0x26, 0x6c), (0x2a, 0xffe1), (0x2c, 0x7a),
    (0x2d, 0x78), (0x2e, 0x63), (0x2f, 0x76), (0x30, 0x62), (0x31, 0x6e), (0x32, 0x6d),
    (0x38, 0xffe9), (0x39, 0x20), (0x3a, 0xffe5), (0x57, 0xffc8), (0x58, 0xffc9),
    (0xe01c, 0xff0d), (0xe01d, 0xffe4), (0xe038, 0xffea), (0xe047, 0xff50), (0xe048, 0xff52),
    (0xe049, 0xff55), (0xe04b, 0xff51), (0xe04d, 0xff53), (0xe04f, 0xff57), (0xe050, 0xff54),
    (0xe051, 0xff56), (0xe052, 0xff63), (0xe053, 0xffff)]

def scancodeToKeysym (scancode : UInt16) : Option UInt32 :=
  if 0x3b ≤ scancode ∧ scancode ≤ 0x44 then some (0xffbe + (scancode.toUInt32 - 0x3b))
  else scancodeTable.lookup scancode

def remoteKeyToKeysym : RemoteKey → Option UInt32
  | .keySym value => some value
  | .scancode value => scancodeToKeysym value

def vncButtonBit : RemoteMouseButton → Option UInt8
  | .left => some 1
  | .middle => some 2
  | .right => some 4
  | .x1 => some 128
  | .x2 => none

def vncWheelBit (vertical : Bool) (units : Int16) : Option UInt8 :=
  match vertical, units.toInt.sign with
  | true, -1 => some 8
  | true, 1 => some 16
  | false, -1 => some 32
  | false, 1 => some 64
  | _, _ => none

def maxCutTextBytes : Nat := 20 * 1024 * 1024

/-- `VncClipboardSnapshot::encode`: Latin-1, with `?` for what it does not have. -/
def encodeClipboard (text : String) : Option (List UInt8) :=
  if maxCutTextBytes < text.length then none
  else some (text.toList.map fun char =>
    if char.toNat < 0x100 then UInt8.ofNat char.toNat else '?'.toUInt8)

/-! ## The client and what the server holds -/

inductive X11Event where
  | keyEvent (keysym : UInt32) (down : Bool)
  | pointerEvent (x y : UInt16) (mask : UInt8)
  | copyTextBytes (bytes : List UInt8)
  deriving DecidableEq

/-- The client by what its server holds, and how often it was used. -/
structure VncClient where
  heldKeys : List UInt32 := []
  buttons : UInt8 := 0
  sent : Nat := 0
  deriving DecidableEq

/-- The error of each send, if it fails. -/
abbrev Sends := Nat → Option String

def VncClient.deliver (client : VncClient) : X11Event → VncClient
  | .keyEvent keysym true => { client with heldKeys := client.heldKeys.insert keysym }
  | .keyEvent keysym false => { client with heldKeys := client.heldKeys.filter (· ≠ keysym) }
  | .pointerEvent _ _ mask => { client with buttons := mask }
  | .copyTextBytes _ => client

def VncClient.input (sends : Sends) (client : VncClient) (event : X11Event) :
    VncClient × Except String Unit :=
  let counted := { client with sent := client.sent + 1 }
  match sends client.sent with
  | some message => (counted, .error message)
  | none => (counted.deliver event, .ok ())

/-- A `BTreeSet` as its keys in order. -/
structure VncKeyboardState where
  pressed : List UInt32 := []
  deriving DecidableEq

structure VncPointerState where
  x : UInt16 := 0
  y : UInt16 := 0
  buttons : UInt8 := 0
  deriving DecidableEq

structure VncInputSession where
  client : VncClient := {}
  keyboard : VncKeyboardState := {}
  pointer : VncPointerState := {}
  latestClipboard : Option (List UInt8) := none
  deriving DecidableEq

def insertKey (keysym : UInt32) (pressed : List UInt32) : List UInt32 :=
  if keysym ∈ pressed then pressed else pressed.orderedInsert (· ≤ ·) keysym

def VncKeyboardState.record (keyboard : VncKeyboardState) (keysym : UInt32) (pressed : Bool) :
    VncKeyboardState :=
  if pressed then ⟨insertKey keysym keyboard.pressed⟩
  else ⟨keyboard.pressed.filter (· ≠ keysym)⟩

namespace VncPointerState

variable (pointer : VncPointerState)

def moveTo (x y : UInt16) : VncPointerState := { pointer with x, y }

def setButton (button : RemoteMouseButton) (pressed : Bool) : VncPointerState :=
  match vncButtonBit button with
  | none => pointer
  | some bit =>
    if pressed then { pointer with buttons := pointer.buttons ||| bit }
    else { pointer with buttons := pointer.buttons &&& ~~~bit }

def wheelMasks (vertical : Bool) (units : Int16) : List UInt8 :=
  match vncWheelBit vertical units with
  | none => []
  | some bit => [pointer.buttons ||| bit, pointer.buttons]

end VncPointerState

/-! ## Sending -/

variable (sends : Sends)

/-- `VncKeyboardState::send`: recorded after it was delivered. -/
def sendKey (client : VncClient) (keyboard : VncKeyboardState) (keysym : UInt32) (pressed : Bool) :
    VncClient × VncKeyboardState × Except String Unit :=
  match client.input sends (.keyEvent keysym pressed) with
  | (client, .error _) => (client, keyboard, .error "VNC keyboard event failed")
  | (client, .ok _) => (client, keyboard.record keysym pressed, .ok ())

/-- `move_pointer` and `update_button`: the next state is kept after it was delivered. -/
def sendPointer (session : VncInputSession) (next : VncPointerState) :
    VncInputSession × Except String VncInputAction :=
  match session.client.input sends (.pointerEvent next.x next.y next.buttons) with
  | (client, .error message) => ({ session with client }, .error message)
  | (client, .ok _) => ({ session with client, pointer := next }, .ok .continue_)

def sendMasks (x y : UInt16) : VncClient → List UInt8 → VncClient × Except String Unit
  | client, [] => (client, .ok ())
  | client, mask :: rest =>
    match client.input sends (.pointerEvent x y mask) with
    | (client, .error message) => (client, .error message)
    | (client, .ok _) => sendMasks x y client rest

def sendWheelEvents (session : VncInputSession) (vertical : Bool) (units : Int16) :
    VncInputSession × Except String VncInputAction :=
  match sendMasks sends session.pointer.x session.pointer.y session.client
      (session.pointer.wheelMasks vertical units) with
  | (client, .error message) => ({ session with client }, .error message)
  | (client, .ok _) => ({ session with client }, .ok .continue_)

def sendClipboardText (session : VncInputSession) (text : String) :
    VncInputSession × Except String VncInputAction :=
  match encodeClipboard text with
  | none => (session, .ok .continue_)
  | some wireBytes =>
    match session.client.input sends (.copyTextBytes wireBytes) with
    | (client, .error message) =>
      ({ session with client, latestClipboard := some wireBytes }, .error message)
    | (client, .ok _) =>
      ({ session with client, latestClipboard := some wireBytes }, .ok .continue_)

def sendVncInput (session : VncInputSession) :
    RemoteDesktopInput → VncInputSession × Except String VncInputAction
  | .close => (session, .ok .closed)
  | .reconnect => (session, .ok .reconnect)
  | .mouseMove x y => sendPointer sends session (session.pointer.moveTo x y)
  | .mouseButton button pressed =>
    sendPointer sends session (session.pointer.setButton button pressed)
  | .wheel vertical units => sendWheelEvents sends session vertical units
  | .key key pressed =>
    match remoteKeyToKeysym key with
    | none => (session, .ok .continue_)
    | some keysym =>
      match sendKey sends session.client session.keyboard keysym pressed with
      | (client, keyboard, .error message) => ({ session with client, keyboard }, .error message)
      | (client, keyboard, .ok _) => ({ session with client, keyboard }, .ok .continue_)
  | .clipboardText text => sendClipboardText sends session text
  | .text text => sendClipboardText sends session text
  | .clipboardFiles _ => (session, .ok .continue_)
  | .resize _ _ => (session, .ok .continue_)

def handleVncInput (session : VncInputSession) (input : RemoteDesktopInput) :
    VncInputSession × VncInputAction :=
  match sendVncInput sends session input with
  | (session, .ok action) => (session, action)
  | (session, .error message) => (session, .failed message)

/-! ## The end of a session -/

/-- The loop of `release_all` over the keys that were down. -/
def releaseKeys : VncClient → VncKeyboardState → Option String → List UInt32 →
    VncClient × VncKeyboardState × Option String
  | client, keyboard, firstError, [] => (client, keyboard, firstError)
  | client, keyboard, firstError, keysym :: rest =>
    match sendKey sends client keyboard keysym false with
    | (client, keyboard, .error message) =>
      releaseKeys client keyboard (firstError.or (some message)) rest
    | (client, keyboard, .ok _) => releaseKeys client keyboard firstError rest

def releaseAll (session : VncInputSession) : VncInputSession × Option String :=
  match releaseKeys sends session.client session.keyboard none session.keyboard.pressed with
  | (client, _, firstError) => ({ session with client, keyboard := {} }, firstError)

def releaseButtons (session : VncInputSession) : VncInputSession × Option String :=
  if session.pointer.buttons = 0 then (session, none)
  else
    match session.client.input sends (.pointerEvent session.pointer.x session.pointer.y 0) with
    | (client, result) =>
      ({ session with client, pointer := { session.pointer with buttons := 0 } },
        match result with
        | .error message => some ("VNC mouse release failed: " ++ message)
        | .ok _ => none)

def shutdownInputs (session : VncInputSession) : VncInputSession × Option String :=
  let keys := releaseAll sends session
  let buttons := releaseButtons sends keys.1
  (buttons.1, keys.2.or buttons.2)

def inputMachine : Machine VncInputSession RemoteDesktopInput VncInputAction where
  step session input := handleVncInput sends session input

end Onetcli.Vnc
