import Onetcli.Rdp.Display.LastImage

/-!
The stream of events that a receiver gets: pictures come after the announcement of
their session, rectangles fit the last frame, and once nothing is under way the last
image of the client is seen with all that was painted on it since.
-/

namespace Onetcli.Rdp.Display

open Replay Runs

variable {Canvas : Type} {viewer : Viewer Canvas} {run : OutputRun}
  {published : Option (Screen Canvas)}

/-! ## Sessions -/

def countReceived (sessions : Nat) (entry : Nat × HelperEvent) : Nat :=
  countSession sessions entry.2

/-- The session of a received picture has been announced. -/
def Announced (sessions : Nat) (entry : Nat × HelperEvent) : Prop :=
  entry.2.isPicture = true → 1 ≤ entry.1 ∧ entry.1 ≤ sessions

theorem replay_countReceived (sessions : Nat) (received : List (Nat × HelperEvent)) :
    replay countReceived sessions received =
      sessions + received.countP (fun entry => entry.2.isConnected) := by
  induction received generalizing sessions with
  | nil => rfl
  | cons entry rest ih =>
    rw [replay_cons, ih, List.countP_cons, countReceived, countSession]
    omega

structure Numbered (run : OutputRun) : Prop where
  counted : replay countReceived 0 run.received +
    run.mailbox.control.countP (·.isConnected) = run.sessions
  frame : run.mailbox.latestFrame ≠ none →
    1 ≤ run.frameSession ∧ run.frameSession ≤ run.sessions
  delta : run.mailbox.latestDelta ≠ none →
    1 ≤ run.deltaSession ∧ run.deltaSession ≤ run.sessions
  announced : Along countReceived Announced 0 run.received

theorem flush_numbered (numbered : Numbered run) : Numbered run.flushPendingImage := by
  rw [OutputRun.flushPendingImage]
  split
  · exact numbered
  · exact { numbered with }

theorem handle_numbered (numbered : Numbered run) (event : RdpOutputEvent) :
    Numbered (run.handle event) := by
  have flushed := flush_numbered numbered
  cases event with
  | image => exact { numbered with }
  | pointerDefault => exact { numbered with }
  | pointerHidden => exact { numbered with }
  | pointerPosition => exact { numbered with }
  | pointerBitmap => exact { numbered with }
  | _ => exact { flushed with }

theorem send_numbered_control (numbered : Numbered run) {event : HelperEvent}
    (control : event.isPicture = false) (rest : List HelperEvent) : Numbered { run with
      outbox := rest
      mailbox := run.mailbox.send event
      sessions := countSession run.sessions event } := by
  obtain ⟨queue, queued, sent⟩ := send_control run.mailbox control
  have more : run.sessions ≤ countSession run.sessions event := Nat.le_add_right _ _
  have frame : run.mailbox.latestFrame ≠ none →
      1 ≤ run.frameSession ∧ run.frameSession ≤ countSession run.sessions event := by
    intro held
    have old := numbered.frame held
    exact ⟨old.1, Nat.le_trans old.2 more⟩
  have delta : run.mailbox.latestDelta ≠ none →
      1 ≤ run.deltaSession ∧ run.deltaSession ≤ countSession run.sessions event := by
    intro held
    have old := numbered.delta held
    exact ⟨old.1, Nat.le_trans old.2 more⟩
  have counted : replay countReceived 0 run.received + queue.countP (·.isConnected) =
      countSession run.sessions event := by
    rw [queued.sessions, countSession, ← numbered.counted]
    omega
  rw [sent]
  split
  · exact ⟨counted, by simp, by simp, numbered.announced⟩
  · exact ⟨counted, frame, delta, numbered.announced⟩

theorem sendNext_numbered (numbered : Numbered run) (synced : Synced viewer run published) :
    Numbered run.sendNext := by
  cases waiting : run.outbox with
  | nil =>
    rw [OutputRun.sendNext, waiting]
    exact numbered
  | cons event rest =>
    have heralded := synced.heralded
    rw [waiting] at heralded
    simp only [OutputRun.sendNext, waiting]
    cases event with
    | frameBgraBytes width height bgra =>
      have open_ : 1 ≤ run.sessions := heralded.1 rfl
      exact ⟨numbered.counted, fun _ => ⟨open_, Nat.le_refl _⟩, by simp [OutputMailbox.send],
        numbered.announced⟩
    | frameBgraRects width height rects bgra =>
      have open_ : 1 ≤ run.sessions := heralded.1 rfl
      exact ⟨numbered.counted, numbered.frame, fun _ => ⟨open_, Nat.le_refl _⟩,
        numbered.announced⟩
    | _ => exact send_numbered_control numbered rfl rest

theorem post_numbered (numbered : Numbered run) {event : HelperEvent}
    (clipboard : event.isClipboard = true) :
    Numbered { run with mailbox := run.mailbox.send event } := by
  have plain := clipboard_plain clipboard
  have posted := send_numbered_control numbered plain.1 run.outbox
  rwa [(idle_of_plain plain.1 plain.2.1).keeps] at posted

theorem received_announced (numbered : Numbered run) {entry : Nat × HelperEvent}
    (announced : Announced (replay countReceived 0 run.received) entry) :
    Along countReceived Announced 0 (run.received ++ [entry]) :=
  (along_append _ _ _).mpr ⟨numbered.announced, announced, trivial⟩

theorem counted_append (received : List (Nat × HelperEvent)) (entry : Nat × HelperEvent) :
    replay countReceived 0 (received ++ [entry]) =
      replay countReceived 0 received + if entry.2.isConnected then 1 else 0 := by
  rw [replay_append]
  rfl

-- A picture is received when the queue is empty, so every session was announced.
theorem picture_numbered (numbered : Numbered run) (empty : run.mailbox.control = [])
    (event : HelperEvent) (picture : event.isPicture = true) {session : Nat}
    (known : 1 ≤ session ∧ session ≤ run.sessions) :
    replay countReceived 0 (run.received ++ [(session, event)]) = run.sessions ∧
      Along countReceived Announced 0 (run.received ++ [(session, event)]) := by
  have counted := numbered.counted
  rw [empty, List.countP_nil, Nat.add_zero] at counted
  have plain : event.isConnected = false := by
    cases event with
    | connected => cases picture
    | _ => rfl
  constructor
  · rw [counted_append, plain, counted]
    rfl
  · apply received_announced numbered
    intro _
    rw [counted]
    exact known

theorem recv_numbered (numbered : Numbered run) (sorted : Sorted run.mailbox) :
    Numbered run.recv := by
  rw [OutputRun.recv]
  split
  · exact numbered
  · rename_i event mailbox taken
    rw [OutputMailbox.recv] at taken
    split at taken
    · rename_i rest queue
      cases taken
      have control : event.isPicture = false := by
        apply sorted.control
        rw [queue]
        exact List.mem_cons_self
      have counted := numbered.counted
      rw [queue, List.countP_cons] at counted
      refine ⟨?_, numbered.frame, numbered.delta, ?_⟩
      · simp only [counted_append]
        omega
      · apply received_announced numbered
        intro picture
        rw [control] at picture
        cases picture
    · rename_i empty
      split at taken
      · rename_i frame held
        cases taken
        obtain ⟨width, height, bgra, rfl⟩ := sorted.frame event held
        obtain ⟨counted, announced⟩ := picture_numbered numbered empty
          (.frameBgraBytes width height bgra) rfl (numbered.frame (by rw [held]; simp))
        exact ⟨by rw [empty]; exact counted, by simp, numbered.delta, announced⟩
      · split at taken
        · rename_i delta held
          cases taken
          obtain ⟨width, height, rects, bgra, rfl⟩ := sorted.delta event held
          obtain ⟨counted, announced⟩ := picture_numbered numbered empty
            (.frameBgraRects width height rects bgra) rfl
            (numbered.delta (by rw [held]; simp))
          exact ⟨by rw [empty]; exact counted, numbered.frame, by simp, announced⟩
        · cases taken

/-! ## Runs -/

structure Sound (viewer : Viewer Canvas) (run : OutputRun) : Prop where
  inStep : InStep viewer run
  numbered : Numbered run

theorem sound_step (sound : Sound viewer run) (input : OutputStep) :
    Sound viewer (outputStep run input) := by
  refine ⟨step_inStep sound.inStep input, ?_⟩
  obtain ⟨published, synced, _⟩ := sound.inStep
  have numbered := sound.numbered
  cases input with
  | feed event =>
    rw [outputStep]
    split
    · exact { handle_numbered numbered event with }
    · exact numbered
  | flush =>
    rw [outputStep]
    split
    · exact flush_numbered numbered
    · exact numbered
  | send => exact sendNext_numbered numbered synced
  | post event =>
    rw [outputStep]
    split
    · rename_i clipboard
      exact post_numbered numbered clipboard
    · exact numbered
  | recv => exact recv_numbered numbered synced.sorted

theorem sound_start (viewer : Viewer Canvas) : Sound viewer {} where
  inStep := by
    refine ⟨none, ?_, rfl⟩
    exact {
      sorted := ⟨by simp, by simp, by simp⟩
      along := trivial
      cursors := by simp [PendingCursor.events]
      live := by rintro ⟨⟩
      ended := fun _ => rfl
      goesOn := by rintro ⟨⟩
      lastOnly := by simp
      heralded := trivial
      mapped := by rintro ⟨⟩ }
  numbered := ⟨rfl, by simp, by simp, trivial⟩

def frameSize : HelperEvent → Option (UInt16 × UInt16)
  | .frameBgraBytes width height _ => some (width, height)
  | _ => none

def lastFrameSize (events : List HelperEvent) : Option (UInt16 × UInt16) :=
  (events.filterMap frameSize).getLast?

theorem replay_size (viewer : Viewer Canvas) (events : List HelperEvent) :
    (replay (view viewer) none events).map (·.size) = lastFrameSize events := by
  induction events using List.reverseRecOn with
  | nil => rfl
  | append_singleton events event ih =>
    rw [replay_append, lastFrameSize, List.filterMap_append, List.getLast?_append]
    cases event with
    | frameBgraBytes => rfl
    | frameBgraRects =>
      rw [lastFrameSize] at ih
      simp only [replay_cons, replay_nil, view, Option.map_map, Function.comp_def, ih]
      rfl
    | _ =>
      rw [lastFrameSize] at ih
      exact ih

def displayed (viewer : Viewer Canvas) (events : List HelperEvent) : Option Canvas :=
  (replay (view viewer) none events).map (·.image)

structure Faithful (viewer : Viewer Canvas) (run : OutputRun) : Prop where
  announced : ∀ before session event after,
    run.received = before ++ (session, event) :: after → event.isPicture = true →
      1 ≤ session ∧ session ≤ before.countP fun entry => entry.2.isConnected
  rects : ∀ before session width height rects bgra after,
    run.received = before ++ (session, .frameBgraRects width height rects bgra) :: after →
      lastFrameSize (before.map (·.2)) = some (width, height) ∧
        RectsFit width height rects bgra
  image : run.pendingImage = none → run.outbox = [] → drained run.mailbox = [] →
    ∀ screen, expected viewer run.fed = some screen →
      displayed viewer (run.received.map (·.2)) = some screen.image

theorem Sound.faithful (sound : Sound viewer run) : Faithful viewer run := by
  obtain ⟨published, synced, pending⟩ := sound.inStep
  constructor
  · intro before session event after split picture
    have announced := sound.numbered.announced
    rw [split] at announced
    have known := announced.at picture
    rwa [replay_countReceived, Nat.zero_add] at known
  · intro before session width height rects bgra after split
    have along := synced.along
    rw [stream, split, List.map_append, List.map_cons, List.append_assoc, List.append_assoc,
      List.cons_append] at along
    obtain ⟨size, fit⟩ := along.at
    rw [replay_size] at size
    exact ⟨size, fit⟩
  · intro slot outbox empty screen shows
    have whole : stream run = run.received.map (·.2) := by
      rw [stream, outbox, empty, List.append_nil, List.append_nil]
    rw [Pending, slot] at pending
    cases connected : run.mapper.isConnected with
    | false =>
      rw [pending, synced.ended connected] at shows
      cases shows
    | true =>
      obtain ⟨last, replayed, _, same⟩ := synced.live connected
      rw [pending, same] at shows
      cases shows
      rw [displayed, ← whole, replayed]
      rfl

/-- For every order of events, flushes, sends and receives. -/
theorem display_shows_last_image (viewer : Viewer Canvas) (inputs : List OutputStep) :
    ∀ reached ∈ outputMachine.visited {} inputs, Faithful viewer reached := by
  intro reached member
  apply Sound.faithful
  apply visited_invariant outputMachine (Sound viewer) _ {} inputs (sound_start viewer) _ member
  intro run input sound
  exact sound_step sound input

def listViewer : Viewer (List (List UInt8)) where
  present _ _ bgra := [bgra]
  paint canvas _ bgra := canvas ++ [bgra]

/-- Two images of which the first is never sent, and a region that is received with them. -/
def twoImages : List OutputStep :=
  [.feed (.image ⟨[0x112233], 1, 1⟩), .feed (.image ⟨[0xabcdef], 1, 1⟩),
    .feed (.imageRegion [1, 2, 3, 255] 1 1 ⟨0, 0, 1, 1⟩), .send, .send, .send, .recv, .recv, .recv]

theorem two_images_displayed :
    Faithful listViewer (outputMachine.run {} twoImages).1 ∧
      (outputMachine.run {} twoImages).1.received =
        [(1, .connected 1 1), (1, .frameBgraBytes 1 1 [0xef, 0xcd, 0xab, 255]),
          (1, .frameBgraRects 1 1 [⟨0, 0, 1, 1, 4⟩] [1, 2, 3, 255])] :=
  ⟨display_shows_last_image listViewer twoImages _ (run_mem_visited _ _ _), by decide⟩

end Onetcli.Rdp.Display
