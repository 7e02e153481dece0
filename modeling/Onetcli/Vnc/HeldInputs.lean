import Mathlib.Data.BitVec
import Onetcli.Vnc.Inputs

/-!
No key and no button stays down at the server when a session ends. Everything that is down is
recorded after every input, whatever sends fail, except for the turn of a wheel that is
pressed and not released.
-/

namespace Onetcli.Vnc

open Runs

def wheelBits : UInt8 := 8 ||| 16 ||| 32 ||| 64

/-! ## Bits -/

theorem uint8_forall {property : UInt8 → Prop} (each : ∀ bits : BitVec 8, property ⟨bits⟩)
    (value : UInt8) : property value :=
  each value.toBitVec

theorem and_not_self (mask : UInt8) : mask &&& ~~~mask = 0 := by
  revert mask
  exact uint8_forall (by decide)

theorem vncWheelBit_mem {vertical : Bool} {units : Int16} {bit : UInt8}
    (turned : vncWheelBit vertical units = some bit) : bit = 8 ∨ bit = 16 ∨ bit = 32 ∨ bit = 64 := by
  unfold vncWheelBit at turned
  split at turned <;> simp_all

theorem vncButtonBit_mem {button : RemoteMouseButton} {bit : UInt8}
    (known : vncButtonBit button = some bit) : bit = 1 ∨ bit = 2 ∨ bit = 4 ∨ bit = 128 := by
  cases button <;> simp_all [vncButtonBit]

theorem wheel_unrecorded (mask : UInt8) {bit : UInt8} (noWheel : mask &&& wheelBits = 0)
    (wheel : bit = 8 ∨ bit = 16 ∨ bit = 32 ∨ bit = 64) : (mask ||| bit) &&& ~~~mask ≠ 0 := by
  revert mask
  rcases wheel with rfl | rfl | rfl | rfl <;> exact uint8_forall (by decide)

theorem button_noWheel (mask : UInt8) {bit : UInt8} (noWheel : mask &&& wheelBits = 0)
    (button : bit = 1 ∨ bit = 2 ∨ bit = 4 ∨ bit = 128) :
    (mask ||| bit) &&& wheelBits = 0 ∧ (mask &&& ~~~bit) &&& wheelBits = 0 := by
  revert mask
  rcases button with rfl | rfl | rfl | rfl <;> exact uint8_forall (by decide)

theorem setButton_noWheel (pointer : VncPointerState) (button : RemoteMouseButton) (pressed : Bool)
    (noWheel : pointer.buttons &&& wheelBits = 0) :
    (pointer.setButton button pressed).buttons &&& wheelBits = 0 := by
  unfold VncPointerState.setButton
  cases known : vncButtonBit button with
  | none => exact noWheel
  | some bit =>
    obtain ⟨down, up⟩ := button_noWheel pointer.buttons noWheel (vncButtonBit_mem known)
    cases pressed with
    | true => exact down
    | false => exact up

/-! ## What is recorded -/

/-- What the server holds is recorded. -/
structure Recorded (session : VncInputSession) : Prop where
  keys : ∀ key ∈ session.client.heldKeys, key ∈ session.keyboard.pressed
  buttons : session.client.buttons &&& ~~~session.pointer.buttons = 0

/-- The end of the session, when all of its sends are delivered, leaves nothing down. -/
def ReleasesAll (session : VncInputSession) : Prop :=
  (shutdownInputs (fun _ => none) session).1.client.heldKeys = [] ∧
    (shutdownInputs (fun _ => none) session).1.client.buttons = 0

structure InStep (session : VncInputSession) : Prop where
  keys : ∀ key ∈ session.client.heldKeys, key ∈ session.keyboard.pressed
  buttons : session.client.buttons = session.pointer.buttons
  noWheel : session.pointer.buttons &&& wheelBits = 0

def WheelReleased (sends : Sends) (session : VncInputSession) (input : RemoteDesktopInput) : Prop :=
  ∀ vertical units bit, input = .wheel vertical units → vncWheelBit vertical units = some bit →
    sends session.client.sent = none → sends (session.client.sent + 1) = none

theorem InStep.recorded {session : VncInputSession} (inStep : InStep session) : Recorded session where
  keys := inStep.keys
  buttons := by
    rw [inStep.buttons]
    exact and_not_self _

theorem mem_insertKey {key keysym : UInt32} {pressed : List UInt32} :
    key ∈ insertKey keysym pressed ↔ key = keysym ∨ key ∈ pressed := by
  unfold insertKey
  split
  · rename_i already
    constructor
    · exact Or.inr
    · rintro (rfl | member)
      · exact already
      · exact member
  · exact List.mem_orderedInsert _

section Steps

variable (sends : Sends) {session : VncInputSession}

theorem sendPointer_inStep (inStep : InStep session) {next : VncPointerState}
    (noWheel : next.buttons &&& wheelBits = 0) : InStep (sendPointer sends session next).1 := by
  unfold sendPointer VncClient.input
  cases sends session.client.sent with
  | some message => exact ⟨inStep.keys, inStep.buttons, inStep.noWheel⟩
  | none => exact ⟨inStep.keys, rfl, noWheel⟩

theorem sendClipboardText_inStep (inStep : InStep session) (text : String) :
    InStep (sendClipboardText sends session text).1 := by
  unfold sendClipboardText VncClient.input
  cases encodeClipboard text with
  | none => exact inStep
  | some wireBytes =>
    cases sends session.client.sent with
    | some message | none => exact ⟨inStep.keys, inStep.buttons, inStep.noWheel⟩

-- A key is recorded when it goes down and until its release is delivered.
theorem sendKey_recorded {client : VncClient} {keyboard : VncKeyboardState}
    (recorded : ∀ key ∈ client.heldKeys, key ∈ keyboard.pressed) (keysym : UInt32) (down : Bool) :
    (∀ key ∈ (sendKey sends client keyboard keysym down).1.heldKeys,
      key ∈ (sendKey sends client keyboard keysym down).2.1.pressed) ∧
      (sendKey sends client keyboard keysym down).1.buttons = client.buttons := by
  unfold sendKey VncClient.input
  cases sends client.sent with
  | some message => exact ⟨recorded, rfl⟩
  | none =>
    refine ⟨?_, by cases down <;> rfl⟩
    intro key held
    cases down with
    | true =>
      rcases List.mem_insert_iff.mp held with rfl | before
      · exact mem_insertKey.mpr (Or.inl rfl)
      · exact mem_insertKey.mpr (Or.inr (recorded key before))
    | false =>
      obtain ⟨before, other⟩ := List.mem_filter.mp held
      exact List.mem_filter.mpr ⟨recorded key before, other⟩

theorem sendWheelEvents_inStep (inStep : InStep session) {vertical : Bool} {units : Int16}
    (released : WheelReleased sends session (.wheel vertical units)) :
    InStep (sendWheelEvents sends session vertical units).1 := by
  unfold sendWheelEvents VncPointerState.wheelMasks
  cases turned : vncWheelBit vertical units with
  | none => exact inStep
  | some bit =>
    simp only [sendMasks, VncClient.input]
    cases press : sends session.client.sent with
    | some message => exact ⟨inStep.keys, inStep.buttons, inStep.noWheel⟩
    | none =>
      have release := released vertical units bit rfl turned press
      simp only [VncClient.deliver, release]
      exact ⟨inStep.keys, rfl, inStep.noWheel⟩

theorem sendVncInput_inStep (inStep : InStep session) {input : RemoteDesktopInput}
    (released : WheelReleased sends session input) :
    InStep (sendVncInput sends session input).1 := by
  cases input with
  | close => exact inStep
  | reconnect => exact inStep
  | clipboardFiles paths => exact inStep
  | resize width height => exact inStep
  | text text | clipboardText text => exact sendClipboardText_inStep sends inStep text
  | mouseMove x y => exact sendPointer_inStep sends inStep inStep.noWheel
  | mouseButton button pressed =>
    exact sendPointer_inStep sends inStep (setButton_noWheel _ button pressed inStep.noWheel)
  | wheel vertical units => exact sendWheelEvents_inStep sends inStep released
  | key key pressed =>
    cases known : remoteKeyToKeysym key with
    | none =>
      simp only [sendVncInput, known]
      exact inStep
    | some keysym =>
      simp only [sendVncInput, known]
      obtain ⟨keys, buttons⟩ := sendKey_recorded sends inStep.keys keysym pressed
      generalize sendKey sends session.client session.keyboard keysym pressed = after
        at keys buttons
      obtain ⟨client, keyboard, result⟩ := after
      cases result <;> exact ⟨keys, buttons.trans inStep.buttons, inStep.noWheel⟩

theorem handleVncInput_session (session : VncInputSession) (input : RemoteDesktopInput) :
    (handleVncInput sends session input).1 = (sendVncInput sends session input).1 := by
  unfold handleVncInput
  generalize sendVncInput sends session input = after
  obtain ⟨next, result⟩ := after
  cases result <;> rfl

theorem wheelReleased_of_recorded (inStep : InStep session) {input : RemoteDesktopInput}
    (recorded : Recorded (sendVncInput sends session input).1) :
    WheelReleased sends session input := by
  intro vertical units bit same turned press
  subst same
  cases release : sends (session.client.sent + 1) with
  | none => rfl
  | some message =>
    exfalso
    have buttons := recorded.buttons
    simp only [sendVncInput, sendWheelEvents, VncPointerState.wheelMasks, turned, sendMasks,
      VncClient.input, press, VncClient.deliver, release] at buttons
    exact wheel_unrecorded _ inStep.noWheel (vncWheelBit_mem turned) buttons

end Steps

/-! ## The end of a session -/

theorem releaseKeys_heldKeys (client : VncClient) (keyboard : VncKeyboardState)
    (firstError : Option String) (keys : List UInt32) :
    (releaseKeys (fun _ => none) client keyboard firstError keys).1.heldKeys =
        client.heldKeys.filter (· ∉ keys) ∧
      (releaseKeys (fun _ => none) client keyboard firstError keys).1.buttons = client.buttons := by
  induction keys generalizing client keyboard with
  | nil => simp [releaseKeys]
  | cons keysym rest ih =>
    obtain ⟨held, buttons⟩ := ih ({ client with sent := client.sent + 1 }.deliver
      (.keyEvent keysym false)) (keyboard.record keysym false)
    refine ⟨?_, buttons⟩
    refine held.trans ?_
    simp only [VncClient.deliver, List.filter_filter]
    apply List.filter_congr
    intro key _
    simp only [List.mem_cons, not_or]
    by_cases same : key = keysym <;> simp [same]

theorem Recorded.releasesAll {session : VncInputSession} (recorded : Recorded session) :
    ReleasesAll session := by
  obtain ⟨held, buttons⟩ := releaseKeys_heldKeys session.client session.keyboard none
    session.keyboard.pressed
  have none_held : session.client.heldKeys.filter (· ∉ session.keyboard.pressed) = [] := by
    rw [List.filter_eq_nil_iff]
    intro key member
    simpa using recorded.keys key member
  unfold ReleasesAll shutdownInputs releaseAll
  generalize releaseKeys (fun _ => none) session.client session.keyboard none
    session.keyboard.pressed = after at held buttons
  obtain ⟨client, keyboard, firstError⟩ := after
  simp only [releaseButtons]
  by_cases up : session.pointer.buttons = 0
  · rw [if_pos up]
    refine ⟨held.trans none_held, buttons.trans ?_⟩
    have down := recorded.buttons
    rw [up] at down
    generalize session.client.buttons = mask at down
    revert mask
    exact uint8_forall (by decide)
  · rw [if_neg up]
    exact ⟨held.trans none_held, rfl⟩

theorem handle_kept (sends : Sends) (session : VncInputSession) (input : RemoteDesktopInput)
    (inStep : InStep session) (released : WheelReleased sends session input) :
    InStep ((inputMachine sends).step session input).1 := by
  change InStep (handleVncInput sends session input).1
  rw [handleVncInput_session]
  exact sendVncInput_inStep sends inStep released

theorem handle_needed (sends : Sends) (session : VncInputSession) (input : RemoteDesktopInput)
    (inStep : InStep session) (property : Recorded ((inputMachine sends).step session input).1 ∧
      ReleasesAll ((inputMachine sends).step session input).1) :
    WheelReleased sends session input := by
  obtain ⟨recorded, _⟩ := property
  change Recorded (handleVncInput sends session input).1 at recorded
  rw [handleVncInput_session] at recorded
  exact wheelReleased_of_recorded sends inStep recorded

/-- After every input of a run what the server holds is recorded, and the end of the session
releases it, exactly when no wheel is pressed without being released. -/
theorem held_inputs_recorded_iff (sends : Sends) (inputs : List RemoteDesktopInput) :
    (∀ reached ∈ (inputMachine sends).visited {} inputs, Recorded reached ∧ ReleasesAll reached) ↔
      (inputMachine sends).Respects (WheelReleased sends) {} inputs := by
  apply visited_property_iff (inputMachine sends) (WheelReleased sends) InStep
    (fun session => Recorded session ∧ ReleasesAll session)
  · exact fun session inStep => ⟨inStep.recorded, inStep.recorded.releasesAll⟩
  · exact fun session input _ inStep released => handle_kept sends session input inStep released
  · exact fun session input _ inStep property => handle_needed sends session input inStep property
  · exact ⟨fun key held => absurd held List.not_mem_nil, rfl, rfl⟩

def brokenAt (broken : Nat) : Sends := fun sent => if sent = broken then some "broken pipe" else none

/-- The release of a turned wheel fails: its bit is held and not recorded, and the end of the
session does not release it. -/
theorem wheel_stays_held :
    ¬Recorded ((inputMachine (brokenAt 1)).run {} [.wheel true 120]).1 ∧
      ¬ReleasesAll ((inputMachine (brokenAt 1)).run {} [.wheel true 120]).1 :=
  ⟨fun recorded => absurd recorded.buttons (by decide), fun released => absurd released.2 (by decide)⟩

end Onetcli.Vnc
