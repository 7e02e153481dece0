import Onetcli.Vnc.Inputs

/-!
Inputs in batches, `handle_pending_inputs` of vnc_input.rs. A batch is drained from the channel,
and in it only the last of several moves in a row is kept. A channel that was closed says so
after its last input; what a drain has taken until then is dropped.
-/

namespace Onetcli.Vnc

open Runs

def maxInputsPerPoll : Nat := 256

/-- Up to so many inputs from the queue, or nothing at the end of a closed channel. -/
def drainInputs (closed : Bool) :
    Nat → List RemoteDesktopInput → List RemoteDesktopInput × Option (List RemoteDesktopInput)
  | 0, queue => (queue, some [])
  | _ + 1, [] => ([], if closed then none else some [])
  | remaining + 1, input :: rest =>
    let drained := drainInputs closed remaining rest
    (drained.1, drained.2.map (input :: ·))

/-- The last of several moves in a row stands for all of them. -/
def coalesceFrom : Option (UInt16 × UInt16) → List RemoteDesktopInput → List RemoteDesktopInput
  | pending, [] => (pending.map fun place => .mouseMove place.1 place.2).toList
  | _, .mouseMove x y :: rest => coalesceFrom (some (x, y)) rest
  | pending, input :: rest =>
    (pending.map fun place => .mouseMove place.1 place.2).toList ++ input :: coalesceFrom none rest

def coalesceRemoteInputs (inputs : List RemoteDesktopInput) : List RemoteDesktopInput :=
  coalesceFrom none inputs

/-- The inputs of a batch until one ends the session, with those that were handed over. -/
def handleInputs (sends : Sends) : VncInputSession → List RemoteDesktopInput →
    VncInputSession × List RemoteDesktopInput × VncInputAction
  | session, [] => (session, [], .continue_)
  | session, input :: rest =>
    match handleVncInput sends session input with
    | (session, .continue_) =>
      let others := handleInputs sends session rest
      (others.1, input :: others.2.1, others.2.2)
    | (session, action) => (session, [input], action)

structure InputFeed where
  session : VncInputSession := {}
  queue : List RemoteDesktopInput := []
  closed : Bool := false
  ended : Bool := false
  queued : List RemoteDesktopInput := []
  handed : List RemoteDesktopInput := []

def handlePendingInputs (sends : Sends) (feed : InputFeed) : InputFeed × VncInputAction :=
  match drainInputs feed.closed maxInputsPerPoll feed.queue with
  | (queue, none) => ({ feed with queue, ended := true }, .inputClosed)
  | (queue, some inputs) =>
    match handleInputs sends feed.session (coalesceRemoteInputs inputs) with
    | (session, handed, action) =>
      ({ feed with session, queue, ended := action ≠ .continue_, handed := feed.handed ++ handed },
        action)

inductive FeedStep where
  | send (input : RemoteDesktopInput)
  | close
  | poll

def feedMachine (sends : Sends) : Machine InputFeed FeedStep (Option VncInputAction) where
  step feed step :=
    match step with
    | .send input =>
      if feed.closed then (feed, none)
      else ({ feed with queue := feed.queue ++ [input], queued := feed.queued ++ [input] }, none)
    | .close => ({ feed with closed := true }, none)
    | .poll =>
      if feed.ended then (feed, none)
      else
        let polled := handlePendingInputs sends feed
        (polled.1, some polled.2)

/-! ## What inputs mean -/

def positionAfter : Option (UInt16 × UInt16) → List RemoteDesktopInput → Option (UInt16 × UInt16)
  | position, [] => position
  | _, .mouseMove x y :: rest => positionAfter (some (x, y)) rest
  | position, _ :: rest => positionAfter position rest

def inForce : Option (UInt16 × UInt16) → List RemoteDesktopInput →
    List (RemoteDesktopInput × Option (UInt16 × UInt16))
  | _, [] => []
  | _, .mouseMove x y :: rest => inForce (some (x, y)) rest
  | position, input :: rest => (input, position) :: inForce position rest

/-- Other inputs once and in order, at the same positions, and the same position at the end. -/
def SameMeaning (position : Option (UInt16 × UInt16)) (first second : List RemoteDesktopInput) :
    Prop :=
  inForce position first = inForce position second ∧
    positionAfter position first = positionAfter position second

def isMove : RemoteDesktopInput → Bool
  | .mouseMove _ _ => true
  | _ => false

/-- Inputs that are moves back to where the pointer is. -/
def Immaterial (position : Option (UInt16 × UInt16)) (inputs : List RemoteDesktopInput) : Prop :=
  (∀ input ∈ inputs, isMove input = true) ∧ positionAfter position inputs = position

theorem positionAfter_append (position : Option (UInt16 × UInt16))
    (first second : List RemoteDesktopInput) : positionAfter position (first ++ second) =
      positionAfter (positionAfter position first) second := by
  induction first generalizing position with
  | nil => rfl
  | cons input rest ih => cases input <;> exact ih _

theorem inForce_append (position : Option (UInt16 × UInt16))
    (first second : List RemoteDesktopInput) : inForce position (first ++ second) =
      inForce position first ++ inForce (positionAfter position first) second := by
  induction first generalizing position with
  | nil => rfl
  | cons input rest ih =>
    cases input <;> simp only [List.cons_append, inForce, positionAfter, ih]

theorem inForce_eq_nil {position : Option (UInt16 × UInt16)} {inputs : List RemoteDesktopInput} :
    inForce position inputs = [] ↔ ∀ input ∈ inputs, isMove input = true := by
  induction inputs generalizing position with
  | nil => simp [inForce]
  | cons input rest ih => cases input <;> simp [inForce, isMove, ih]

theorem SameMeaning.append {position : Option (UInt16 × UInt16)}
    {first second others more : List RemoteDesktopInput} (here : SameMeaning position first second)
    (later : SameMeaning (positionAfter position first) others more) :
    SameMeaning position (first ++ others) (second ++ more) := by
  unfold SameMeaning
  rw [inForce_append, inForce_append, positionAfter_append, positionAfter_append, here.1, later.1,
    later.2, here.2]
  exact ⟨rfl, rfl⟩

theorem sameMeaning_append_iff {position : Option (UInt16 × UInt16)}
    {whole first rest : List RemoteDesktopInput} (same : SameMeaning position first whole) :
    SameMeaning position (first ++ rest) whole ↔
      Immaterial (positionAfter position first) rest := by
  unfold SameMeaning Immaterial
  rw [inForce_append, positionAfter_append, ← same.1, ← same.2, List.append_right_eq_self,
    inForce_eq_nil]

theorem coalesceFrom_meaning (position pending : Option (UInt16 × UInt16))
    (inputs : List RemoteDesktopInput) :
    inForce position (coalesceFrom pending inputs) = inForce (pending.or position) inputs ∧
      positionAfter position (coalesceFrom pending inputs) =
        positionAfter (pending.or position) inputs := by
  induction inputs generalizing position pending with
  | nil => cases pending <;> exact ⟨rfl, rfl⟩
  | cons input rest ih =>
    cases input with
    | mouseMove x y => exact ih position (some (x, y))
    | _ =>
      cases pending <;>
        simp [coalesceFrom, inForce, positionAfter, ih]

theorem coalesce_meaning (position : Option (UInt16 × UInt16)) (inputs : List RemoteDesktopInput) :
    SameMeaning position (coalesceRemoteInputs inputs) inputs :=
  coalesceFrom_meaning position none inputs

/-! ## Drains -/

theorem drainInputs_some {closed : Bool} {remaining : Nat} {queue inputs : List RemoteDesktopInput}
    (drained : (drainInputs closed remaining queue).2 = some inputs) :
    queue = inputs ++ (drainInputs closed remaining queue).1 := by
  induction remaining generalizing queue inputs with
  | zero =>
    obtain rfl := Option.some.inj drained
    rfl
  | succ remaining ih =>
    cases queue with
    | nil =>
      cases closed with
      | true => cases drained
      | false =>
        obtain rfl := Option.some.inj drained
        rfl
    | cons input rest =>
      obtain ⟨taken, others, rfl⟩ := Option.map_eq_some_iff.mp drained
      exact congrArg (input :: ·) (ih others)

theorem handleInputs_continue {sends : Sends} {session : VncInputSession}
    {inputs : List RemoteDesktopInput}
    (goes : (handleInputs sends session inputs).2.2 = .continue_) :
    (handleInputs sends session inputs).2.1 = inputs := by
  induction inputs generalizing session with
  | nil => rfl
  | cons input rest ih =>
    rw [handleInputs] at goes ⊢
    generalize handleVncInput sends session input = handled at goes ⊢
    obtain ⟨next, action⟩ := handled
    cases action with
    | continue_ => exact congrArg (input :: ·) (ih goes)
    | closed => cases goes
    | inputClosed => cases goes
    | reconnect => cases goes
    | failed message => cases goes

theorem sendPointer_open (sends : Sends) (session : VncInputSession) (next : VncPointerState) :
    (sendPointer sends session next).2 ≠ .ok .inputClosed := by
  unfold sendPointer
  generalize session.client.input sends _ = result
  obtain ⟨client, _ | _⟩ := result <;> exact nofun

theorem sendClipboardText_open (sends : Sends) (session : VncInputSession) (text : String) :
    (sendClipboardText sends session text).2 ≠ .ok .inputClosed := by
  unfold sendClipboardText
  cases encodeClipboard text with
  | none => exact nofun
  | some wireBytes =>
    dsimp only
    generalize session.client.input sends (.copyTextBytes wireBytes) = result
    obtain ⟨client, _ | _⟩ := result <;> exact nofun

theorem sendVncInput_open (sends : Sends) (session : VncInputSession) (input : RemoteDesktopInput) :
    (sendVncInput sends session input).2 ≠ .ok .inputClosed := by
  cases input with
  | close => exact nofun
  | reconnect => exact nofun
  | clipboardFiles paths => exact nofun
  | resize width height => exact nofun
  | text text | clipboardText text => exact sendClipboardText_open sends session text
  | mouseMove x y | mouseButton button pressed => exact sendPointer_open sends session _
  | wheel vertical units =>
    simp only [sendVncInput, sendWheelEvents]
    generalize sendMasks sends _ _ session.client _ = result
    obtain ⟨client, _ | _⟩ := result <;> exact nofun
  | key key pressed =>
    simp only [sendVncInput]
    cases remoteKeyToKeysym key with
    | none => exact nofun
    | some keysym =>
      dsimp only
      generalize sendKey sends session.client session.keyboard keysym pressed = result
      obtain ⟨client, keyboard, _ | _⟩ := result <;> exact nofun

theorem handleInputs_open {sends : Sends} {session : VncInputSession}
    {inputs : List RemoteDesktopInput} :
    (handleInputs sends session inputs).2.2 ≠ .inputClosed := by
  induction inputs generalizing session with
  | nil => exact nofun
  | cons input rest ih =>
    rw [handleInputs]
    have own : (handleVncInput sends session input).2 ≠ .inputClosed := by
      unfold handleVncInput
      have sent := sendVncInput_open sends session input
      generalize sendVncInput sends session input = result at sent ⊢
      obtain ⟨next, action | action⟩ := result
      · exact nofun
      · exact fun same => sent (congrArg Except.ok same)
    generalize handleVncInput sends session input = handled at own ⊢
    obtain ⟨next, action⟩ := handled
    cases action with
    | continue_ => exact ih
    | closed => exact nofun
    | inputClosed => exact absurd rfl own
    | reconnect => exact nofun
    | failed message => exact nofun

/-- What was handed over means what has left the queue, as long as the session goes on. -/
def FeedKept (feed : InputFeed) : Prop :=
  feed.ended = false →
    ∃ drained, feed.queued = drained ++ feed.queue ∧ SameMeaning none drained feed.handed

theorem feed_kept (sends : Sends) (feed : InputFeed) (step : FeedStep) (kept : FeedKept feed) :
    FeedKept ((feedMachine sends).step feed step).1 := by
  cases step with
  | send input =>
    cases closed : feed.closed with
    | true => simpa [feedMachine, closed] using kept
    | false =>
      simp only [feedMachine, closed, Bool.false_eq_true, if_false]
      intro goes
      obtain ⟨drained, queued, same⟩ := kept goes
      exact ⟨drained, by simp [queued], same⟩
  | close => exact kept
  | poll =>
    cases ended : feed.ended with
    | true =>
      simp only [feedMachine, ended, if_true]
      exact kept
    | false =>
      obtain ⟨drained, queued, same⟩ := kept ended
      simp only [feedMachine, ended, Bool.false_eq_true, if_false]
      unfold handlePendingInputs
      have taken := @drainInputs_some feed.closed maxInputsPerPoll feed.queue
      generalize drainInputs feed.closed maxInputsPerPoll feed.queue = result at taken ⊢
      obtain ⟨queue, batch⟩ := result
      cases batch with
      | none => exact fun goes => nomatch goes
      | some inputs =>
        have split : feed.queue = inputs ++ queue := taken rfl
        dsimp only
        have whole := @handleInputs_continue sends feed.session (coalesceRemoteInputs inputs)
        generalize handleInputs sends feed.session (coalesceRemoteInputs inputs) = result
          at whole ⊢
        obtain ⟨session, handed, action⟩ := result
        intro goes
        have goesOn : action = .continue_ := by simpa using goes
        obtain rfl : handed = coalesceRemoteInputs inputs := whole goesOn
        refine ⟨drained ++ inputs, by simp [queued, split], same.append ?_⟩
        have means := coalesce_meaning (positionAfter none drained) inputs
        exact ⟨means.1.symm, means.2.symm⟩

/-- When the end of the channel is reported, what was handed over means what was queued exactly
when nothing is left in the queue but moves to where the pointer is. -/
theorem batches_keep_meaning_iff (sends : Sends) (steps : List FeedStep) (before after : InputFeed)
    (ran : ((feedMachine sends).run {} steps).1 = before)
    (reported : (feedMachine sends).step before .poll = (after, some .inputClosed)) :
    SameMeaning none after.queued after.handed ↔
      Immaterial (positionAfter none before.handed) before.queue := by
  have kept : FeedKept before := by
    rw [← ran]
    exact visited_invariant (feedMachine sends) FeedKept (feed_kept sends) {} steps
      (fun _ => ⟨[], rfl, rfl, rfl⟩) _ (run_mem_visited (feedMachine sends) {} steps)
  cases ended : before.ended with
  | true => simp [feedMachine, ended] at reported
  | false =>
    obtain ⟨drained, queued, same⟩ := kept ended
    simp only [feedMachine, ended, Bool.false_eq_true, if_false] at reported
    unfold handlePendingInputs at reported
    generalize drainInputs before.closed maxInputsPerPoll before.queue = result at reported
    obtain ⟨queue, batch⟩ := result
    cases batch with
    | none =>
      obtain rfl := (Prod.mk.inj reported).1
      dsimp only
      rw [queued, sameMeaning_append_iff same, same.2]
    | some inputs =>
      have opens := @handleInputs_open sends before.session (coalesceRemoteInputs inputs)
      dsimp only at reported
      generalize handleInputs sends before.session (coalesceRemoteInputs inputs) = result
        at opens reported
      obtain ⟨session, handed, action⟩ := result
      exact absurd (Option.some.inj (Prod.mk.inj reported).2) opens

def noSendFails : Sends := fun _ => none

def typedThenClosed : List FeedStep :=
  [.send (.mouseMove 3 4), .send (.key (.keySym 0x61) true), .poll, .close]

theorem typed_then_closed_keeps_meaning :
    SameMeaning none
        ((feedMachine noSendFails).step ((feedMachine noSendFails).run {} typedThenClosed).1
          .poll).1.queued
        ((feedMachine noSendFails).step ((feedMachine noSendFails).run {} typedThenClosed).1
          .poll).1.handed ∧
      ((feedMachine noSendFails).step ((feedMachine noSendFails).run {} typedThenClosed).1
          .poll).1.handed = [.mouseMove 3 4, .key (.keySym 0x61) true] :=
  ⟨(batches_keep_meaning_iff noSendFails typedThenClosed _ _ rfl rfl).mpr
    ⟨fun _ among => absurd among List.not_mem_nil, rfl⟩, rfl⟩

/-- A key that is queued and not polled before the channel is closed is never handed over. -/
theorem key_dropped_at_close :
    let feed := ((feedMachine noSendFails).run {} [.send (.key (.keySym 0x61) true), .close]).1
    ((feedMachine noSendFails).step feed .poll).2 = some .inputClosed ∧
      ((feedMachine noSendFails).step feed .poll).1.handed = [] ∧
      ¬SameMeaning none ((feedMachine noSendFails).step feed .poll).1.queued
        ((feedMachine noSendFails).step feed .poll).1.handed :=
  ⟨rfl, rfl, fun same => nomatch same.1⟩

end Onetcli.Vnc
