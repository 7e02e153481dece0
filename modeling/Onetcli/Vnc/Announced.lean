import Onetcli.Vnc.Framebuffer
import Onetcli.Vnc.Sends

/-!
The size of a picture and the size that was announced before it. An announcement stands
in the queue and overtakes a picture that waits, so a picture of the old size is received
after the announcement of a new one; as long as none waits when the resolution changes,
every picture has the size announced last.
-/

namespace Onetcli.Vnc

open Checks Runs

abbrev Size := UInt16 × UInt16

def pictureSize : RemoteDesktopOutput → Option Size
  | .frame width height _ => some (width, height)
  | .frameBgraRects width height _ _ => some (width, height)
  | _ => none

def announce (size : Option Size) : RemoteDesktopOutput → Option Size
  | .connected width height _ => some (width, height)
  | _ => size

def MatchesAnnounced (received : List RemoteDesktopOutput) : Prop :=
  ∀ before output after, received = before ++ output :: after →
    ∀ size announced, pictureSize output = some size →
      before.foldl announce none = some announced → size = announced

/-- What waits when the resolution is set has the new size already, and other threads
write neither pictures nor announcements. -/
def SizesAgree (run : DisplayRun) : DisplayCall → Prop
  | .setResolution screen =>
    ∀ output ∈ pictures run.mailbox, pictureSize output = some (screen.width, screen.height)
  | .send output => output.isPicture = false ∧ output.isConnected = false
  | _ => True

def RgbaFramebuffer.size (framebuffer : RgbaFramebuffer) : Size :=
  (framebuffer.width, framebuffer.height)

def VncFramebufferState.size (state : VncFramebufferState) : Option Size :=
  state.framebuffer.map RgbaFramebuffer.size

/-! ## The announcements in the queue -/

variable {mailbox : OutputMailbox} {output : RemoteDesktopOutput} {run : DisplayRun}

theorem announce_filter (size : Option Size) (outputs : List RemoteDesktopOutput) :
    outputs.foldl announce size = (outputs.filter isControl).foldl announce size := by
  induction outputs generalizing size with
  | nil => rfl
  | cons output rest ih =>
    rw [List.foldl_cons, ih, List.filter_cons]
    split
    · rw [List.foldl_cons]
    · congr 1
      cases output with
      | connected => contradiction
      | _ => rfl

theorem announce_send (size : Option Size) (mailbox : OutputMailbox)
    (output : RemoteDesktopOutput) : (mailbox.send output).control.foldl announce size =
      announce (mailbox.control.foldl announce size) output := by
  have sent := send_controls mailbox output
  simp only [controlsWaiting] at sent
  rw [announce_filter, sent, List.foldl_append, ← announce_filter, ← announce_filter]
  rfl

theorem send_pictures (mailbox : OutputMailbox) (output : RemoteDesktopOutput) :
    ∀ other ∈ pictures (mailbox.send output),
      other ∈ pictures mailbox ∨ (output.isPicture = true ∧ pictureSize other = pictureSize output) := by
  cases picture : output.isPicture with
  | false =>
    have sent := send_control mailbox picture
    generalize mailbox.send output = after at sent ⊢
    intro other member
    cases sent with
    | ends closes plain => cases member
    | opens connects plain => exact Or.inl member
    | drops within closed => exact Or.inl member
    | queues accepts closes connects => exact Or.inl member
  | true =>
    intro other member
    cases accepts : mailbox.acceptingSessionOutputs with
    | false =>
      rw [(send_picture mailbox picture).2.2 accepts] at member
      exact Or.inl member
    | true =>
      cases output with
      | frame width height rgba =>
        simp only [pictures, OutputMailbox.send, accepts, if_true, Option.toList_some,
          Option.toList_none, List.append_nil, List.mem_singleton] at member
        exact Or.inr ⟨rfl, by rw [member]⟩
      | frameBgraRects width height rects bgra =>
        simp only [pictures, OutputMailbox.send, accepts, if_true, List.mem_append] at member
        rcases member with frame | delta
        · exact Or.inl (List.mem_append_left _ frame)
        · refine Or.inr ⟨rfl, ?_⟩
          cases held : mailbox.latestDelta with
          | none =>
            simp only [held, Option.toList_some, List.mem_singleton] at delta
            rw [delta]
          | some previous =>
            simp only [held, Option.toList_some, List.mem_singleton] at delta
            rcases merge_rects previous width height rects bgra with ⟨_, _, merged⟩
            rw [delta, merged]
            rfl
      | _ => cases picture

/-! ## What the calls keep -/

structure Announced (run : DisplayRun) : Prop where
  sorted : Sorted run.mailbox
  waiting : ∀ output ∈ pictures run.mailbox, pictureSize output = run.state.size
  last : (run.received ++ run.mailbox.control).foldl announce none = run.state.size
  matched : MatchesAnnounced run.received

theorem Announced.send (announced : Announced run)
    (size : output.isPicture = true → pictureSize output = run.state.size)
    (silent : output.isConnected = false) :
    Announced { run with mailbox := run.mailbox.send output } := by
  refine ⟨send_sorted announced.sorted output, ?_, ?_, announced.matched⟩
  · intro other member
    rcases send_pictures run.mailbox output other member with old | ⟨picture, same⟩
    · exact announced.waiting other old
    · exact same.trans (size picture)
  · have last := announced.last
    rw [List.foldl_append] at last ⊢
    rw [announce_send, last]
    cases output with
    | connected => cases silent
    | _ => rfl

theorem Announced.setResolution (announced : Announced run) (screen : Screen)
    (agrees : SizesAgree run (.setResolution screen)) : Announced { run with
      state := (run.state.setResolution screen run.mailbox).1
      mailbox := (run.state.setResolution screen run.mailbox).2 } := by
  have sorted := send_sorted announced.sorted
    (.connected screen.width screen.height vncCapabilities)
  refine ⟨sorted, ?_, ?_, announced.matched⟩
  · intro other member
    rcases send_pictures run.mailbox _ other member with old | ⟨picture, _⟩
    · exact agrees other old
    · cases picture
  · rw [List.foldl_append]
    simp only [VncFramebufferState.setResolution]
    rw [announce_send]
    rfl

theorem matchesAnnounced_append {received : List RemoteDesktopOutput}
    (matched : MatchesAnnounced received) (new : ∀ size announced, pictureSize output = some size →
      received.foldl announce none = some announced → size = announced) :
    MatchesAnnounced (received ++ [output]) := by
  intro before other after split
  rcases after.eq_nil_or_concat with rfl | ⟨front, last, rfl⟩
  · have parts := List.append_inj' split rfl
    rw [← parts.1, ← List.singleton_inj.mp parts.2]
    exact new
  · rw [List.concat_eq_append, ← List.cons_append, ← List.append_assoc] at split
    exact matched before other front (List.append_inj' split rfl).1

theorem Announced.recv (announced : Announced run) {rest : OutputMailbox}
    (received : run.mailbox.recv = some (output, rest)) :
    Announced { run with mailbox := rest, received := run.received ++ [output] } := by
  have sorted := recv_sorted announced.sorted received
  have last := announced.last
  rw [OutputMailbox.recv] at received
  split at received
  · rename_i control
    cases received
    refine ⟨sorted, announced.waiting, ?_, ?_⟩
    · rw [control] at last
      rw [List.append_assoc]
      exact last
    · apply matchesAnnounced_append announced.matched
      have plain := announced.sorted.control output (control ▸ List.mem_cons_self)
      intro size _ picture
      cases output with
      | frame => cases plain
      | frameBgraRects => cases plain
      | _ => cases picture
  · rename_i control
    -- the queue is empty, so the last announcement was received
    rw [control, List.append_nil] at last
    have fresh : ∀ other ∈ pictures run.mailbox, ∀ size announced,
        pictureSize other = some size → run.received.foldl announce none = some announced →
          size = announced := by
      intro other member size sizeAnnounced picture seen
      rw [announced.waiting other member, ← last, seen] at picture
      exact (Option.some.inj picture).symm
    have quiet : ∀ other ∈ pictures run.mailbox, other.isConnected = false := by
      intro other member
      have picture := announced.sorted.picture other member
      cases other with
      | connected => cases picture
      | _ => rfl
    have goesOn : ∀ other ∈ pictures run.mailbox,
        (run.received ++ [other]).foldl announce none = run.state.size := by
      intro other member
      have silent := quiet other member
      rw [List.foldl_append, last]
      cases other with
      | connected => cases silent
      | _ => rfl
    split at received
    · rename_i frame
      cases received
      have member : output ∈ pictures run.mailbox :=
        List.mem_append_left _ (Option.mem_toList.mpr frame)
      refine ⟨sorted, ?_, ?_, matchesAnnounced_append announced.matched (fresh output member)⟩
      · intro other among
        exact announced.waiting other (List.mem_append_right _ among)
      · rw [control, List.append_nil]
        exact goesOn output member
    · rename_i frame
      split at received
      · rename_i delta
        cases received
        have member : output ∈ pictures run.mailbox :=
          List.mem_append_right _ (Option.mem_toList.mpr delta)
        refine ⟨sorted, ?_, ?_, matchesAnnounced_append announced.matched (fresh output member)⟩
        · intro other among
          rw [pictures, frame] at among
          cases among
        · rw [control, List.append_nil]
          exact goesOn output member
      · cases received

theorem patchRgbaRect_size {framebuffer patched : RgbaFramebuffer} {x y width height : UInt16}
    {data : List UInt8} (done : framebuffer.patchRgbaRect x y width height data = .ok patched) :
    patched.size = framebuffer.size := by
  rw [RgbaFramebuffer.patchRgbaRect] at done
  iterate 6
    obtain ⟨_, _, done⟩ := bind_eq_ok.mp done
  cases done
  rfl

theorem copyRect_size {framebuffer copied : RgbaFramebuffer}
    {srcX srcY dstX dstY width height : UInt16}
    (done : framebuffer.copyRect srcX srcY dstX dstY width height = .ok copied) :
    copied.size = framebuffer.size := by
  rw [RgbaFramebuffer.copyRect] at done
  iterate 9
    obtain ⟨_, _, done⟩ := bind_eq_ok.mp done
  exact patchRgbaRect_size done

theorem patchRect_size {state patched : VncFramebufferState} {rect : Rect} {data : List UInt8}
    (done : state.patchRect rect data = .ok patched) : patched.size = state.size := by
  rw [VncFramebufferState.patchRect] at done
  split at done
  · cases done
    rfl
  · rename_i framebuffer held
    rcases bind_eq_ok.mp done with ⟨next, inner, rest⟩
    cases rest
    rw [VncFramebufferState.size, VncFramebufferState.size, held]
    exact congrArg some (patchRgbaRect_size inner)

theorem copyState_size {state copied : VncFramebufferState} {dst src : Rect}
    (done : state.copyRect dst src = .ok copied) : copied.size = state.size := by
  rw [VncFramebufferState.copyRect] at done
  split at done
  · cases done
    rfl
  · rename_i framebuffer held
    rcases bind_eq_ok.mp done with ⟨next, inner, rest⟩
    cases rest
    rw [VncFramebufferState.size, VncFramebufferState.size, held]
    exact congrArg some (copyRect_size inner)

theorem flushFrame_sends {state next : VncFramebufferState} {mailbox sent : OutputMailbox}
    (done : state.flushFrame mailbox = .ok (next, sent)) : next.framebuffer = state.framebuffer ∧
      (sent = mailbox ∨ ∃ output, output.isPicture = true ∧ pictureSize output = state.size ∧
        sent = mailbox.send output) := by
  rw [VncFramebufferState.flushFrame] at done
  split at done
  · cases done
    exact ⟨rfl, Or.inl rfl⟩
  · rename_i framebuffer held
    have size : some framebuffer.size = state.size := by
      rw [VncFramebufferState.size, held]
      rfl
    split at done
    · cases done
      exact ⟨rfl, Or.inl rfl⟩
    · split at done
      · cases done
        refine ⟨rfl, Or.inr ⟨.frame framebuffer.width framebuffer.height framebuffer.cloneBgra, ?_⟩⟩
        exact ⟨rfl, size, rfl⟩
      · rcases bind_eq_ok.mp done with ⟨bgra, _, rest⟩
        cases rest
        refine ⟨rfl, Or.inr ⟨.frameBgraRects framebuffer.width framebuffer.height
          (state.dirtyRects.map frameRect) bgra, ?_⟩⟩
        exact ⟨rfl, size, rfl⟩

theorem Announced.changed (announced : Announced run) {state : VncFramebufferState}
    (size : state.size = run.state.size) : Announced { run with state := state } :=
  ⟨announced.sorted, fun other member => (announced.waiting other member).trans size.symm,
    announced.last.trans size.symm, announced.matched⟩

theorem step_announced (announced : Announced run) (call : DisplayCall)
    (agrees : SizesAgree run call) : Announced (displayMachine.step run call).1 := by
  simp only [displayMachine]
  cases done : run.step call with
  | error fault => exact announced
  | ok next =>
    cases call with
    | setResolution screen =>
      cases done
      exact announced.setResolution screen agrees
    | patchRect rect data =>
      rcases bind_eq_ok.mp done with ⟨state, patched, rest⟩
      cases rest
      exact announced.changed (patchRect_size patched)
    | copyRect dst src =>
      rcases bind_eq_ok.mp done with ⟨state, copied, rest⟩
      cases rest
      exact announced.changed (copyState_size copied)
    | flushFrame =>
      rcases bind_eq_ok.mp done with ⟨⟨state, mailbox⟩, flushed, rest⟩
      cases rest
      rcases flushFrame_sends flushed with ⟨same, unsent | ⟨output, picture, size, sent⟩⟩
      · rw [unsent]
        exact announced.changed (congrArg (Option.map RgbaFramebuffer.size) same)
      · have silent : output.isConnected = false := by
          cases output with
          | connected => cases picture
          | _ => rfl
        rw [sent]
        exact (announced.send (fun _ => size) silent).changed
          (congrArg (Option.map RgbaFramebuffer.size) same)
    | send output =>
      cases done
      apply announced.send _ agrees.2
      intro picture
      rw [agrees.1] at picture
      cases picture
    | recv =>
      rw [DisplayRun.step] at done
      split at done
      · rename_i received
        cases done
        exact announced.recv received
      · cases done
        exact announced

theorem start_announced : Announced {} := by
  refine ⟨start_sorted, ?_, rfl, ?_⟩
  · rintro _ ⟨⟩
  · rintro (_ | _) _ _ ⟨⟩

/-- As long as no picture of another size waits when the resolution is set. -/
theorem run_matchesAnnounced (calls : List DisplayCall)
    (agrees : displayMachine.Respects SizesAgree {} calls) :
    ∀ reached ∈ displayMachine.visited {} calls, MatchesAnnounced reached.received := by
  intro reached member
  exact (visited_invariant_guarded displayMachine SizesAgree Announced {} calls
    (fun _ call _ announced guard => step_announced announced call guard) agrees start_announced
    reached member).matched

/-- A picture that was received before the resolution changes. -/
theorem run_matchesAnnounced_resized :
    displayMachine.Respects SizesAgree {}
        [.setResolution ⟨1, 1⟩, .patchRect ⟨0, 0, 1, 1⟩ [1, 2, 3, 4], .flushFrame, .recv, .recv,
          .setResolution ⟨2, 1⟩] ∧
      ∀ reached ∈ displayMachine.visited {}
        [.setResolution ⟨1, 1⟩, .patchRect ⟨0, 0, 1, 1⟩ [1, 2, 3, 4], .flushFrame, .recv, .recv,
          .setResolution ⟨2, 1⟩], MatchesAnnounced reached.received := by
  have agrees : displayMachine.Respects SizesAgree {}
      [.setResolution ⟨1, 1⟩, .patchRect ⟨0, 0, 1, 1⟩ [1, 2, 3, 4], .flushFrame, .recv, .recv,
        .setResolution ⟨2, 1⟩] := by
    refine ⟨?_, trivial, trivial, trivial, trivial, ?_, trivial⟩
    · rintro _ ⟨⟩
    · rintro _ ⟨⟩
  exact ⟨agrees, run_matchesAnnounced _ agrees⟩

/-- A frame of the old size is received after the announcement of the new one. -/
theorem resize_staleFrame :
    ∃ calls : List DisplayCall,
      (displayMachine.run {} calls).1.received =
        [.connected 1 1 vncCapabilities, .connected 2 1 vncCapabilities, .frame 1 1 [3, 2, 1, 4]] ∧
      ¬ MatchesAnnounced (displayMachine.run {} calls).1.received := by
  refine ⟨[.setResolution ⟨1, 1⟩, .patchRect ⟨0, 0, 1, 1⟩ [1, 2, 3, 4], .flushFrame,
    .setResolution ⟨2, 1⟩, .recv, .recv, .recv], rfl, ?_⟩
  intro matched
  have same := matched [.connected 1 1 vncCapabilities, .connected 2 1 vncCapabilities]
    (.frame 1 1 [3, 2, 1, 4]) [] rfl (1, 1) (2, 1) rfl rfl
  exact absurd same (by decide)

end Onetcli.Vnc
