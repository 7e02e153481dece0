import Onetcli.Rdp.Display.Pictures

/-!
What a receiver sees of the display, for every order of events, flushes, sends and
receives. `stream` lists what was received, what the mailbox would give and what the
loop has still to send: a receive does not change it, and a send exchanges its middle
part for one that shows the same.
-/

namespace Onetcli.Rdp.Display

open Replay Runs RdpOutputMapper OutputRun

variable {Canvas : Type} (viewer : Viewer Canvas)

/-! ## What is to be seen -/

def imageScreen (image : RdpImage) : Screen Canvas :=
  ⟨(image.width, image.height),
    viewer.present image.width image.height (rdpU32PixelsToBgra image.buffer)⟩

/-- The screen after an event of the client: a region is accepted if it is well formed and
for the size of the last image. -/
def shown (screen : Option (Screen Canvas)) : RdpOutputEvent → Option (Screen Canvas)
  | .image image => some (imageScreen viewer image)
  | .imageRegion bgra width height region =>
    if screen.map (·.size) = some (width, height) ∧ wellFormed bgra width height region then
      screen.map fun last =>
        { last with image := viewer.paint last.image (regionRect region bgra) bgra }
    else screen
  | .displayResizeFallback => none
  | .connectionFailure _ => none
  | .terminated _ => none
  | _ => screen

def expected (fed : List RdpOutputEvent) : Option (Screen Canvas) :=
  replay (shown viewer) none fed

/-! ## Published events -/

def stream (run : OutputRun) : List HelperEvent :=
  run.received.map (·.2) ++ drained run.mailbox ++ run.outbox

def countSession (sessions : Nat) (event : HelperEvent) : Nat :=
  sessions + if event.isConnected then 1 else 0

/-- A picture needs a session. -/
def Heralded (sessions : Nat) (event : HelperEvent) : Prop :=
  event.isPicture = true → 1 ≤ sessions

structure Synced (run : OutputRun) (published : Option (Screen Canvas)) : Prop where
  sorted : Sorted run.mailbox
  along : Along (view viewer) Fits none (stream run)
  cursors : ∀ event ∈ run.mapper.pendingCursor.events, event.isCursor = true
  live : run.mapper.isConnected = true → ∃ screen,
    replay (view viewer) none (stream run) = some screen ∧
      run.mapper.baseSize = some screen.size ∧ published = some screen
  ended : run.mapper.isConnected = false → published = none
  goesOn : run.mapper.isConnected = true → ∀ event ∈ run.outbox, event.isTerminal = false
  lastOnly : ∀ event ∈ run.outbox.dropLast, event.isTerminal = false
  heralded : Along countSession Heralded run.sessions run.outbox
  mapped : run.mapper.isConnected = true → 1 ≤ replay countSession run.sessions run.outbox

variable {viewer} {run : OutputRun} {published : Option (Screen Canvas)}

theorem stream_publish (run : OutputRun) (mapper : RdpOutputMapper) (events : List HelperEvent) :
    stream { run with mapper, outbox := run.outbox ++ events } = stream run ++ events := by
  rw [stream, stream, List.append_assoc _ run.outbox]

variable {event : HelperEvent}

section Published

variable (synced : Synced viewer run published)
  (calm : ∀ event ∈ run.outbox, event.isTerminal = false)

include synced calm

theorem synced_publish {mapper : RdpOutputMapper}
    {events : List HelperEvent} {published' : Option (Screen Canvas)}
    (along : Along (view viewer) Fits (replay (view viewer) none (stream run)) events)
    (cursors : ∀ event ∈ mapper.pendingCursor.events, event.isCursor = true)
    (live : mapper.isConnected = true → ∃ screen,
      replay (view viewer) (replay (view viewer) none (stream run)) events = some screen ∧
        mapper.baseSize = some screen.size ∧ published' = some screen)
    (ended : mapper.isConnected = false → published' = none)
    (goesOn : mapper.isConnected = true → ∀ event ∈ events, event.isTerminal = false)
    (lastOnly : ∀ event ∈ events.dropLast, event.isTerminal = false)
    (heralded : Along countSession Heralded (replay countSession run.sessions run.outbox) events)
    (mapped : mapper.isConnected = true →
      1 ≤ replay countSession (replay countSession run.sessions run.outbox) events) :
    Synced viewer { run with mapper, outbox := run.outbox ++ events } published' where
  sorted := synced.sorted
  along := by
    rw [stream_publish, along_append]
    exact ⟨synced.along, along⟩
  cursors := cursors
  live := by
    intro connected
    rw [stream_publish, replay_append]
    exact live connected
  ended := ended
  goesOn := by
    intro connected event member
    rcases List.mem_append.mp member with old | new
    · exact calm event old
    · exact goesOn connected event new
  lastOnly := by
    intro event member
    by_cases none : events = []
    · rw [none, List.append_nil] at member
      exact calm event ((List.dropLast_sublist run.outbox).mem member)
    · rw [List.dropLast_append_of_ne_nil none] at member
      rcases List.mem_append.mp member with old | new
      · exact calm event old
      · exact lastOnly event new
  heralded := (along_append _ _ _).mpr ⟨synced.heralded, heralded⟩
  mapped := by
    intro connected
    rw [replay_append]
    exact mapped connected

theorem synced_nothing {cursor : PendingCursor}
    (cursors : ∀ event ∈ cursor.events, event.isCursor = true) :
    Synced viewer
      { run with mapper := { run.mapper with pendingCursor := cursor }, outbox := run.outbox ++ [] }
      published := by
  apply synced_publish synced calm
  · trivial
  · exact cursors
  · exact synced.live
  · exact synced.ended
  · intro _ event member
    cases member
  · intro event member
    cases member
  · trivial
  · exact synced.mapped

-- One event that goes on with the session.
theorem synced_publish_one (connected : run.mapper.isConnected = true) {mapper : RdpOutputMapper}
    (still : mapper.isConnected = true)
    (cursors : ∀ event ∈ mapper.pendingCursor.events, event.isCursor = true)
 {screen : Screen Canvas}
    (fits : Fits (replay (view viewer) none (stream run)) event)
    (seen : view viewer (replay (view viewer) none (stream run)) event = some screen)
    (size : mapper.baseSize = some screen.size) (goesOn : event.isTerminal = false) :
    Synced viewer { run with mapper, outbox := run.outbox ++ [event] } (some screen) := by
  have sessions := synced.mapped connected
  apply synced_publish synced calm
  · exact ⟨fits, trivial⟩
  · exact cursors
  · exact fun _ => ⟨screen, seen, size, rfl⟩
  · intro other
    rw [still] at other
    cases other
  · intro _ other member
    rw [List.mem_singleton.mp member]
    exact goesOn
  · intro other member
    cases member
  · exact ⟨fun _ => sessions, trivial⟩
  · exact fun _ => Nat.le_trans sessions (Nat.le_add_right _ _)

omit synced calm in
theorem cursor_plain (cursor : event.isCursor = true) :
    event.isPicture = false ∧ event.isConnected = false ∧ event.isTerminal = false := by
  cases event with
  | cursorDefault => exact ⟨rfl, rfl, rfl⟩
  | cursorHidden => exact ⟨rfl, rfl, rfl⟩
  | cursorPosition => exact ⟨rfl, rfl, rfl⟩
  | cursorRgbaBytes => exact ⟨rfl, rfl, rfl⟩
  | _ => cases cursor

omit synced calm in
theorem idle_of_plain (control : event.isPicture = false)
    (plain : event.isConnected = false) : Idle countSession Heralded event where
  keeps sessions := by rw [countSession, plain]; rfl
  fitting sessions picture := by rw [control] at picture; cases picture

omit synced calm in
theorem mapImage_calm {mapper : RdpOutputMapper}
    (cursors : ∀ event ∈ mapper.pendingCursor.events, event.isCursor = true) (image : RdpImage) :
    ∀ event ∈ (mapper.mapImage image).2, event.isTerminal = false := by
  intro event member
  rw [mapImage] at member
  split at member
  · rw [List.mem_singleton.mp member]
    rfl
  · rw [List.mem_append, List.mem_cons, List.mem_singleton] at member
    rcases member with (rfl | cursor) | rfl
    · rfl
    · exact (cursor_plain (cursors event cursor)).2.2
    · rfl

theorem publish_first_image (unannounced : run.mapper.isConnected = false) (image : RdpImage) :
    Synced viewer (run.publish (.image image)) (some (imageScreen viewer image)) := by
  have cursorsIdle : ∀ event ∈ run.mapper.pendingCursor.events,
      Idle (view viewer) Fits event := fun event member =>
    idle_of_control viewer (cursor_plain (synced.cursors event member)).1
  have cursorsPlain : ∀ event ∈ run.mapper.pendingCursor.events,
      Idle countSession Heralded event := fun event member =>
    have plain := cursor_plain (synced.cursors event member)
    idle_of_plain plain.1 plain.2.1
  have quiet := mapImage_calm synced.cursors image
  simp only [mapImage, unannounced, Bool.false_eq_true, if_false,
    List.cons_append] at quiet
  simp only [publish, map, mapImage, unannounced,
    Bool.false_eq_true, if_false, List.cons_append]
  apply synced_publish synced calm
  · refine ⟨trivial, ?_⟩
    rw [along_append]
    exact ⟨along_idle cursorsIdle _, trivial, trivial⟩
  · intro event member
    cases member
  · intro _
    refine ⟨imageScreen viewer image, ?_, rfl, rfl⟩
    rw [replay_cons, replay_append]
    rfl
  · intro other
    cases other
  · exact fun _ => quiet
  · intro event member
    exact quiet event ((List.dropLast_sublist _).mem member)
  · refine ⟨by rintro ⟨⟩, ?_⟩
    rw [along_append, replay_idle cursorsPlain]
    exact ⟨along_idle cursorsPlain _, fun _ => Nat.le_add_left 1 _, trivial⟩
  · intro _
    rw [replay_cons, replay_append, replay_idle cursorsPlain]
    exact Nat.le_add_left 1 _

theorem publish_image (image : RdpImage) :
    Synced viewer (run.publish (.image image)) (some (imageScreen viewer image)) ∧
      ∀ event ∈ (run.publish (.image image)).outbox, event.isTerminal = false := by
  constructor
  · cases connected : run.mapper.isConnected with
    | true =>
      simp only [publish, map, mapImage, connected,
        if_true]
      apply synced_publish_one synced calm connected
      · rfl
      · exact synced.cursors
      · trivial
      · rfl
      · rfl
      · rfl
    | false => exact publish_first_image synced calm connected image
  · intro event member
    rcases List.mem_append.mp member with old | new
    · exact calm event old
    · exact mapImage_calm synced.cursors image event new

theorem publish_end (control : event.isPicture = false) (plain : event.isConnected = false) :
    Synced viewer { run with mapper := {}, outbox := run.outbox ++ [event] } none := by
  apply synced_publish synced calm
  · exact ⟨(idle_of_control viewer control).fitting _, trivial⟩
  · intro other member
    cases member
  · intro connected
    cases connected
  · exact fun _ => rfl
  · intro connected
    cases connected
  · intro other member
    cases member
  · exact ⟨(idle_of_plain control plain).fitting _, trivial⟩
  · intro connected
    cases connected

omit synced calm in
theorem wellFormed_fits {bgra : List UInt8} {width height : UInt16} {region : RdpImageRegion}
    (formed : wellFormed bgra width height region = true) :
    RectsFit width height [regionRect region bgra] bgra := by
  simp only [wellFormed, Bool.and_eq_true, decide_eq_true_eq] at formed
  obtain ⟨⟨⟨_, right⟩, bottom⟩, length⟩ := formed
  constructor
  · intro rect member
    rw [List.mem_singleton.mp member]
    exact ⟨right, bottom⟩
  · intro rect member
    rw [List.mem_singleton.mp member]
    exact length.symm
  · simp [regionRect]

omit synced calm in
-- A region is accepted for the size of the last frame, or it is ignored.
theorem map_region (mapper : RdpOutputMapper) (bgra : List UInt8) (width height : UInt16)
    (region : RdpImageRegion) : mapper.map (.imageRegion bgra width height region) =
      if mapper.isConnected = true ∧ mapper.baseSize = some (width, height) ∧
          wellFormed bgra width height region = true then
        (mapper, [.frameBgraRects width height [regionRect region bgra] bgra])
      else (mapper, []) := by
  simp only [map]
  cases mapper.isConnected with
  | false => rfl
  | true =>
    by_cases size : mapper.baseSize = some (width, height)
    · cases wellFormed bgra width height region with
      | false => simp [size]
      | true => simp [size]
    · simp [size]

theorem publish_region (bgra : List UInt8)
    (width height : UInt16) (region : RdpImageRegion) :
    Synced viewer (run.publish (.imageRegion bgra width height region))
      (shown viewer published (.imageRegion bgra width height region)) := by
  simp only [publish, map_region, shown]
  cases connected : run.mapper.isConnected with
  | false =>
    rw [synced.ended connected, if_neg (by simp), if_neg (by simp), ← synced.ended connected]
    exact synced_nothing synced calm synced.cursors
  | true =>
    obtain ⟨screen, replayed, size, same⟩ := synced.live connected
    have agree : run.mapper.baseSize = some (width, height) ↔
        published.map (·.size) = some (width, height) := by
      rw [size, same]
      rfl
    by_cases accepted : published.map (·.size) = some (width, height) ∧
        wellFormed bgra width height region = true
    · rw [if_pos accepted, if_pos ⟨rfl, agree.mpr accepted.1, accepted.2⟩]
      have fit := wellFormed_fits accepted.2
      have sizes : screen.size = (width, height) :=
        Option.some.inj (size.symm.trans (agree.mpr accepted.1))
      rw [same]
      apply synced_publish_one synced calm connected connected synced.cursors
      · rw [replayed]
        exact ⟨congrArg some sizes, fit⟩
      · rw [replayed]
        simp [view, paintAll, regionRect]
      · exact size
      · rfl
    · have refused : ¬ (true = true ∧ run.mapper.baseSize = some (width, height) ∧
          wellFormed bgra width height region = true) := by
        rintro ⟨_, size, formed⟩
        exact accepted ⟨agree.mp size, formed⟩
      rw [if_neg accepted, if_neg refused]
      exact synced_nothing synced calm synced.cursors

omit synced calm in
theorem record_cursors {cursor : PendingCursor}
    (cursors : ∀ event ∈ cursor.events, event.isCursor = true) (event : HelperEvent) :
    ∀ other ∈ (cursor.record event).events, other.isCursor = true := by
  simp only [PendingCursor.events, List.mem_append, List.mem_map, Option.mem_toList] at cursors ⊢
  intro other member
  cases event with
  | cursorDefault | cursorHidden | cursorRgbaBytes =>
    rcases member with appearance | position
    · cases appearance
      rfl
    · exact cursors other (Or.inr position)
  | cursorPosition =>
    rcases member with appearance | ⟨_, _, same⟩
    · exact cursors other (Or.inl appearance)
    · rw [← same]
      rfl
  | _ => exact cursors other member

-- A cursor event is passed on, or kept until the session is announced.
theorem publish_cursor (cursor : event.isCursor = true) :
    Synced viewer { run with
        mapper := (run.mapper.mapCursor event).1
        outbox := run.outbox ++ (run.mapper.mapCursor event).2 } published := by
  have plain := cursor_plain cursor
  cases connected : run.mapper.isConnected with
  | false =>
    have kept : run.mapper.mapCursor event =
        ({ run.mapper with pendingCursor := run.mapper.pendingCursor.record event }, []) := by
      rw [mapCursor, if_neg (by simp [connected])]
    rw [kept]
    exact synced_nothing synced calm (record_cursors synced.cursors event)
  | true =>
    have passed : run.mapper.mapCursor event = (run.mapper, [event]) := by
      rw [mapCursor, if_pos connected]
    obtain ⟨screen, replayed, size, same⟩ := synced.live connected
    have idle := idle_of_control viewer plain.1
    rw [passed, same]
    apply synced_publish_one synced calm connected connected synced.cursors
    · exact idle.fitting _
    · rw [idle.keeps]
      exact replayed
    · exact size
    · exact plain.2.2

theorem publish_synced (event : RdpOutputEvent) :
    Synced viewer (run.publish event) (shown viewer published event) := by
  have nothing := synced_nothing synced calm synced.cursors
  cases event with
  | connected => exact nothing
  | loginComplete => exact nothing
  | postLogonDisplayRedraw => exact nothing
  | malformedBitmapDisplayRedraw => exact nothing
  | displayResizeFallback => exact publish_end synced calm rfl rfl
  | image image => exact (publish_image synced calm image).1
  | imageRegion bgra width height region => exact publish_region synced calm bgra width height region
  | connectionFailure message => exact publish_end synced calm rfl rfl
  | terminated message => exact publish_end synced calm rfl rfl
  | pointerDefault => exact publish_cursor synced calm rfl
  | pointerHidden => exact publish_cursor synced calm rfl
  | pointerPosition x y => exact publish_cursor synced calm rfl
  | pointerBitmap pointer =>
    simp only [publish, map, shown]
    split
    · exact publish_cursor synced calm rfl
    · exact publish_cursor synced calm rfl

end Published

/-! ## The loop -/

/-- The image in the slot is the one to be seen; without one it is what was published. -/
def Pending (viewer : Viewer Canvas) (run : OutputRun) (published : Option (Screen Canvas)) :
    Prop :=
  expected viewer run.fed =
    match run.pendingImage with
    | none => published
    | some image => some (imageScreen viewer image)

def InStep (viewer : Viewer Canvas) (run : OutputRun) : Prop :=
  ∃ published, Synced viewer run published ∧ Pending viewer run published

theorem expected_append (fed : List RdpOutputEvent) (event : RdpOutputEvent) :
    expected viewer (fed ++ [event]) = shown viewer (expected viewer fed) event := by
  rw [expected, replay_append]
  rfl

theorem flush_published (step : InStep viewer run) (empty : run.outbox = []) :
    Synced viewer run.flushPendingImage (expected viewer run.fed) ∧
      run.flushPendingImage.pendingImage = none ∧ run.flushPendingImage.fed = run.fed ∧
      ∀ event ∈ run.flushPendingImage.outbox, event.isTerminal = false := by
  obtain ⟨published, synced, pending⟩ := step
  have calm : ∀ event ∈ run.outbox, event.isTerminal = false := by simp [empty]
  rw [Pending] at pending
  rw [flushPendingImage]
  cases slot : run.pendingImage with
  | none =>
    rw [slot] at pending
    rw [pending]
    exact ⟨synced, slot, rfl, calm⟩
  | some image =>
    rw [slot] at pending
    rw [pending]
    have cleared : Synced viewer { run with pendingImage := none } published := { synced with }
    obtain ⟨after, quiet⟩ := publish_image cleared calm image
    exact ⟨after, rfl, rfl, quiet⟩

theorem flush_inStep (step : InStep viewer run) (empty : run.outbox = []) :
    InStep viewer run.flushPendingImage := by
  obtain ⟨synced, slot, fed, _⟩ := flush_published step empty
  refine ⟨_, synced, ?_⟩
  rw [Pending, slot, fed]

theorem flush_publish_inStep (step : InStep viewer run) (empty : run.outbox = [])
    (event : RdpOutputEvent) :
    InStep viewer
      { run.flushPendingImage.publish event with fed := run.fed ++ [event] } := by
  obtain ⟨synced, slot, _, calm⟩ := flush_published step empty
  have after := publish_synced synced calm event
  rw [← expected_append] at after
  refine ⟨_, { after with }, ?_⟩
  rw [Pending]
  simp only [publish, slot]

theorem publish_inStep (step : InStep viewer run) (empty : run.outbox = [])
    {event : RdpOutputEvent} (keeps : ∀ screen, shown viewer screen event = screen) :
    InStep viewer { run.publish event with fed := run.fed ++ [event] } := by
  obtain ⟨published, synced, pending⟩ := step
  have after := publish_synced synced (by simp [empty]) event
  rw [keeps] at after
  refine ⟨published, { after with }, ?_⟩
  rw [Pending] at pending ⊢
  rw [expected_append, keeps, pending]
  rfl

theorem feed_inStep (step : InStep viewer run) (empty : run.outbox = [])
    (event : RdpOutputEvent) :
    InStep viewer { run.handle event with fed := run.fed ++ [event] } := by
  cases event with
  | image image =>
    obtain ⟨published, synced, _⟩ := step
    exact ⟨published, { synced with }, expected_append run.fed (.image image)⟩
  | pointerDefault | pointerHidden | pointerPosition x y | pointerBitmap pointer =>
    exact publish_inStep step empty fun _ => rfl
  | _ => exact flush_publish_inStep step empty _

/-! ## Sends and receives -/

theorem synced_sent (synced : Synced viewer run published)
    {rest : List HelperEvent} (waiting : run.outbox = event :: rest)
    (along : Along (view viewer) Fits none
      (run.received.map (·.2) ++ drained (run.mailbox.send event) ++ rest))
    (live : run.mapper.isConnected = true → replay (view viewer) none
          (run.received.map (·.2) ++ drained (run.mailbox.send event) ++ rest) =
        replay (view viewer) none (stream run)) : Synced viewer run.sendNext published := by
  have heralded := synced.heralded
  have mapped := synced.mapped
  rw [waiting] at heralded mapped
  simp only [sendNext, waiting]
  exact {
    sorted := send_sorted synced.sorted event
    along := along
    cursors := synced.cursors
    live := by
      intro connected
      obtain ⟨screen, replayed, agrees⟩ := synced.live connected
      exact ⟨screen, (live connected).trans replayed, agrees⟩
    ended := synced.ended
    goesOn := by
      intro connected other member
      apply synced.goesOn connected
      rw [waiting]
      exact List.mem_cons_of_mem _ member
    lastOnly := by
      intro other member
      apply synced.lastOnly
      rw [waiting]
      cases rest with
      | nil => cases member
      | cons next others => exact List.mem_cons_of_mem _ member
    heralded := heralded.2
    mapped := mapped }

theorem sendNext_synced (synced : Synced viewer run published) :
    Synced viewer run.sendNext published := by
  cases waiting : run.outbox with
  | nil =>
    rw [sendNext, waiting]
    exact synced
  | cons event rest =>
    have whole : stream run =
        run.received.map (·.2) ++ (drained run.mailbox ++ [event]) ++ rest := by
      rw [stream, waiting]
      simp
    have along := synced.along
    rw [whole] at along
    cases terminal : event.isTerminal with
    | false =>
      have exchanged := (send_replaces viewer synced.sorted terminal).append
        (run.received.map (·.2)) rest
      obtain ⟨fitting, same⟩ := exchanged none along
      apply synced_sent synced waiting fitting
      intro _
      rw [whole]
      exact same
    | true =>
      -- The session is over: nothing follows the event, and the mapper starts anew.
      have first : event ∈ run.outbox := by
        rw [waiting]
        exact List.mem_cons_self
      have alone : rest = [] := by
        cases rest with
        | nil => rfl
        | cons next others =>
          have early := synced.lastOnly event (by rw [waiting]; exact List.mem_cons_self)
          rw [terminal] at early
          cases early
      apply synced_sent synced waiting
      · have received := ((along_append _ _ _).mp ((along_append _ _ _).mp along).1).1
        rw [alone, List.append_nil, along_append]
        refine ⟨received, along_idle ?_ _⟩
        intro other member
        exact idle_of_control viewer (send_terminal synced.sorted terminal other member)
      · intro connected
        have early := synced.goesOn connected event first
        rw [terminal] at early
        cases early

-- Another stream that shows the same, with another mailbox.
theorem synced_mailbox (synced : Synced viewer run published) {mailbox : OutputMailbox}
    {received : List (Nat × HelperEvent)} (sorted : Sorted mailbox)
    (replaces : Replaces (view viewer) Fits (stream run)
      (stream { run with mailbox, received })) :
    Synced viewer { run with mailbox, received } published := by
  obtain ⟨fitting, same⟩ := replaces none synced.along
  exact { synced with
    sorted := sorted
    along := fitting
    live := by
      intro connected
      obtain ⟨screen, replayed, agrees⟩ := synced.live connected
      exact ⟨screen, same.trans replayed, agrees⟩ }

theorem recv_synced (synced : Synced viewer run published) : Synced viewer run.recv published := by
  rw [recv]
  split
  · exact synced
  · rename_i event mailbox taken
    apply synced_mailbox synced (recv_sorted synced.sorted taken)
    have same : stream run = stream { run with
        mailbox, received := run.received ++ [(run.sessionOf event, event)] } := by
      rw [stream, stream, recv_drained taken]
      simp
    rw [same]
    exact Replaces.refl _

theorem clipboard_plain (clipboard : event.isClipboard = true) :
    event.isPicture = false ∧ event.isConnected = false ∧ event.isTerminal = false := by
  cases event with
  | clipboardText => exact ⟨rfl, rfl, rfl⟩
  | clipboardFilesReady => exact ⟨rfl, rfl, rfl⟩
  | clipboardTransferFailed => exact ⟨rfl, rfl, rfl⟩
  | _ => cases clipboard

theorem post_synced (synced : Synced viewer run published)
    (clipboard : event.isClipboard = true) :
    Synced viewer { run with mailbox := run.mailbox.send event } published := by
  have plain := clipboard_plain clipboard
  obtain ⟨queue, queued, sent⟩ := send_control run.mailbox plain.1
  apply synced_mailbox synced (send_sorted synced.sorted event)
  have exchanged : Replaces (view viewer) Fits (drained run.mailbox)
      (drained (run.mailbox.send event)) := by
    rw [sent, plain.2.2]
    apply Replaces.idle _ _ (Replaces.refl (pictures run.mailbox))
    · intro other member
      exact idle_of_control viewer (synced.sorted.control other member)
    · intro other member
      exact idle_of_control viewer (queued.controls synced.sorted.control plain.1 other member)
  exact exchanged.append (run.received.map (·.2)) run.outbox

theorem step_inStep (step : InStep viewer run) (input : OutputStep) :
    InStep viewer (outputStep run input) := by
  cases input with
  | feed event =>
    rw [outputStep]
    split
    · rename_i empty
      exact feed_inStep step empty event
    · exact step
  | flush =>
    rw [outputStep]
    split
    · rename_i empty
      exact flush_inStep step empty
    · exact step
  | send =>
    obtain ⟨published, synced, pending⟩ := step
    refine ⟨published, sendNext_synced synced, ?_⟩
    rw [Pending] at pending ⊢
    simp only [outputStep, sendNext]
    split <;> exact pending
  | post event =>
    rw [outputStep]
    split
    · rename_i clipboard
      obtain ⟨published, synced, pending⟩ := step
      exact ⟨published, post_synced synced clipboard, pending⟩
    · exact step
  | recv =>
    obtain ⟨published, synced, pending⟩ := step
    refine ⟨published, recv_synced synced, ?_⟩
    rw [Pending] at pending ⊢
    simp only [outputStep, recv]
    split <;> exact pending

end Onetcli.Rdp.Display
