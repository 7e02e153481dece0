import Onetcli.Vnc.Announced
import Onetcli.Vnc.Rows

/-!
The image that the client has of the framebuffer. It is the framebuffer outside of the
dirty rectangles, whatever the mailbox has merged or replaced, so after every flush it is
the framebuffer itself. A rectangle is applied as the framebuffer applies its patches, row
by row at the bytes where the row starts.
-/

namespace Onetcli.Vnc

open Checks Runs Segments

/-! ## The image of the client -/

/-- Each rectangle takes its bytes from the front of the payload. -/
def paintRects (stride : Nat) : List UInt8 → List RemoteDesktopFrameRect → List UInt8 → List UInt8
  | image, [], _ => image
  | image, rect :: rest, bgra =>
    paintRects stride
      (patch image (rows stride rect.x rect.y rect.width rect.height) (bgra.take rect.byteLen))
      rest (bgra.drop rect.byteLen)

/-- The image after an output: a session starts with a blank one of its size. -/
def applyOutput (image : List UInt8) : RemoteDesktopOutput → List UInt8
  | .connected width height _ => List.replicate (width.toNat * height.toNat * 4) 0
  | .frame _ _ rgba => rgba
  | .frameBgraRects width _ rects bgra => paintRects width.toNat image rects bgra
  | _ => image

def imageOf (outputs : List RemoteDesktopOutput) : List UInt8 :=
  outputs.foldl applyOutput []

/-- The image once what waits is received too. -/
def shown (run : DisplayRun) : List UInt8 :=
  imageOf (run.received ++ (run.mailbox.control ++ pictures run.mailbox))

/-- The payload is that of the rectangles. -/
def Whole : RemoteDesktopOutput → Prop
  | .frameBgraRects _ _ rects bgra => (rects.map (·.byteLen)).sum = bgra.length
  | _ => True

variable {run : DisplayRun} {mailbox : OutputMailbox} {output : RemoteDesktopOutput}
  {image : List UInt8}

theorem paintRects_append (stride : Nat) (image : List UInt8)
    (first second : List RemoteDesktopFrameRect) (bgra more : List UInt8)
    (total : (first.map (·.byteLen)).sum = bgra.length) :
    paintRects stride image (first ++ second) (bgra ++ more) =
      paintRects stride (paintRects stride image first bgra) second more := by
  induction first generalizing image bgra with
  | nil =>
    have empty : bgra = [] := List.length_eq_zero_iff.mp total.symm
    rw [empty]
    rfl
  | cons rect rest ih =>
    rw [List.map_cons, List.sum_cons] at total
    have enough : rect.byteLen ≤ bgra.length := by omega
    rw [List.cons_append, paintRects, List.take_append_of_le_length enough,
      List.drop_append_of_le_length enough]
    apply ih
    rw [List.length_drop]
    omega

/-! ## What the mailbox keeps of the image -/

theorem image_control (image : List UInt8) {outputs : List RemoteDesktopOutput}
    (controls : ∀ output ∈ outputs, output.isPicture = false) :
    outputs.foldl applyOutput image = (outputs.filter isControl).foldl applyOutput image := by
  induction outputs generalizing image with
  | nil => rfl
  | cons output rest ih =>
    have control := controls output List.mem_cons_self
    rw [List.foldl_cons, ih _ fun other member => controls other (List.mem_cons_of_mem _ member),
      List.filter_cons]
    split
    · rfl
    · congr 1
      cases output with
      | frame => cases control
      | frameBgraRects => cases control
      | connected => contradiction
      | _ => rfl

theorem send_keeps_image (sorted : Sorted run.mailbox) (control : output.isPicture = false)
    (silent : output.isConnected = false) (goesOn : output.endsSession = false) :
    shown { run with mailbox := run.mailbox.send output } = shown run := by
  have slots : pictures (run.mailbox.send output) = pictures run.mailbox := by
    have sent := send_control run.mailbox control
    generalize run.mailbox.send output = after at sent ⊢
    cases sent with
    | ends closes plain => cases closes.symm.trans goesOn
    | opens connects plain => cases connects.symm.trans silent
    | drops within closed => rfl
    | queues accepts closes connects => rfl
  have idle : ∀ image, applyOutput image output = image := by
    intro image
    cases output with
    | frame => cases control
    | frameBgraRects => cases control
    | connected => cases silent
    | _ => rfl
  have queue : ∀ image, (run.mailbox.send output).control.foldl applyOutput image =
      run.mailbox.control.foldl applyOutput image := by
    intro image
    have sent := send_controls run.mailbox output
    simp only [controlsWaiting] at sent
    rw [image_control image (send_sorted sorted output).control, sent, List.foldl_append,
      ← image_control image sorted.control]
    by_cases kept : isControl output = true
    · rw [List.filter_cons_of_pos kept]
      exact idle _
    · rw [List.filter_cons_of_neg kept]
      rfl
  simp only [shown, imageOf, slots, List.foldl_append]
  rw [queue]

theorem merge_same {width height : UInt16} {rects nextRects : List RemoteDesktopFrameRect}
    {bgra nextBgra : List UInt8} : mergeDeltas (.frameBgraRects width height rects bgra)
        (.frameBgraRects width height nextRects nextBgra) =
      .frameBgraRects width height (rects ++ nextRects) (bgra ++ nextBgra) := by
  rw [mergeDeltas, if_pos ⟨rfl, rfl⟩]

-- A picture is applied to the image that was there, merged or not.
theorem send_picture_image (announced : Announced run)
    (accepting : run.mailbox.acceptingSessionOutputs = true)
    (whole : ∀ output ∈ pictures run.mailbox, Whole output)
    (picture : output.isPicture = true) (size : pictureSize output = run.state.size) :
    shown { run with mailbox := run.mailbox.send output } = applyOutput (shown run) output := by
  cases output with
  | frame width height rgba =>
    simp only [shown, imageOf, OutputMailbox.send, accepting, if_true, pictures,
      Option.toList_some, Option.toList_none, List.append_nil, List.foldl_append]
    rfl
  | frameBgraRects width height rects bgra =>
    cases held : run.mailbox.latestDelta with
    | none =>
      simp only [shown, imageOf, OutputMailbox.send, accepting, if_true, pictures, held,
        Option.toList_some, Option.toList_none, List.append_nil, List.foldl_append]
      rfl
    | some previous =>
      have member : previous ∈ pictures run.mailbox :=
        List.mem_append_right _ (Option.mem_toList.mpr held)
      rcases announced.sorted.delta previous held with
        ⟨oldWidth, oldHeight, oldRects, oldBgra, rfl⟩
      have same : (oldWidth, oldHeight) = (width, height) :=
        Option.some.inj ((announced.waiting _ member).trans size.symm)
      cases same
      simp only [shown, imageOf, OutputMailbox.send, accepting, if_true, pictures, held,
        merge_same, Option.toList_some, List.foldl_append, List.foldl_cons, List.foldl_nil,
        applyOutput, paintRects_append _ _ _ _ _ _ (whole _ member)]
  | _ => cases picture

theorem send_whole (sorted : Sorted mailbox) (whole : ∀ output ∈ pictures mailbox, Whole output)
    (fits : Whole output) : ∀ other ∈ pictures (mailbox.send output), Whole other := by
  intro other member
  cases picture : output.isPicture with
  | false =>
    rcases send_pictures mailbox output other member with old | ⟨absurd, _⟩
    · exact whole other old
    · cases absurd.symm.trans picture
  | true =>
    cases accepts : mailbox.acceptingSessionOutputs with
    | false =>
      rw [(send_picture mailbox picture).2.2 accepts] at member
      exact whole other member
    | true =>
      cases output with
      | frame width height rgba =>
        simp only [pictures, OutputMailbox.send, accepts, if_true, Option.toList_some,
          Option.toList_none, List.append_nil, List.mem_singleton] at member
        rw [member]
        exact fits
      | frameBgraRects width height rects bgra =>
        simp only [pictures, OutputMailbox.send, accepts, if_true, List.mem_append] at member
        rcases member with frame | delta
        · exact whole other (List.mem_append_left _ frame)
        · cases held : mailbox.latestDelta with
          | none =>
            simp only [held, Option.toList_some, List.mem_singleton] at delta
            rw [delta]
            exact fits
          | some previous =>
            simp only [held, Option.toList_some, List.mem_singleton] at delta
            rcases sorted.delta previous held with
              ⟨oldWidth, oldHeight, oldRects, oldBgra, rfl⟩
            have old := whole _ (List.mem_append_right _ (Option.mem_toList.mpr held))
            rw [mergeDeltas] at delta
            split at delta
            · rw [delta]
              simp only [Whole, List.map_append, List.sum_append, List.length_append] at *
              omega
            · rw [delta]
              exact fits
      | _ => cases picture

theorem recv_waiting {rest : OutputMailbox} (received : mailbox.recv = some (output, rest)) :
    mailbox.control ++ pictures mailbox = output :: (rest.control ++ pictures rest) := by
  rw [OutputMailbox.recv] at received
  split at received
  · rename_i control
    cases received
    rw [control]
    rfl
  · rename_i control
    split at received
    · rename_i frame
      cases received
      simp [pictures, control, frame]
    · rename_i frame
      split at received
      · rename_i delta
        cases received
        simp [pictures, control, frame, delta]
      · cases received

/-! ## The dirty rectangles -/

def rectRows (framebuffer : RgbaFramebuffer) (rect : Rect) : List Segment :=
  rows framebuffer.width.toNat rect.x rect.y rect.width rect.height

structure Painted (framebuffer : RgbaFramebuffer) (dirty : List Rect) (image : List UInt8) :
    Prop where
  length : image.length = framebuffer.rgba.length
  within : ∀ rect ∈ dirty, Within framebuffer.rgba.length (rectRows framebuffer rect)
  agrees : ∀ place, (∀ rect ∈ dirty, ∀ segment ∈ rectRows framebuffer rect,
    ¬ segment.Covers place) → image[place]? = framebuffer.cloneBgra[place]?

variable {framebuffer patched : RgbaFramebuffer} {dirty : List Rect}

theorem Painted.clean (painted : Painted framebuffer [] image) : image = framebuffer.cloneBgra :=
  List.ext_getElem? fun place => painted.agrees place nofun

theorem painted_clone (framebuffer : RgbaFramebuffer) :
    Painted framebuffer [] framebuffer.cloneBgra :=
  ⟨swapPixels_length _, nofun, fun _ _ => rfl⟩

theorem Painted.patch (painted : Painted framebuffer dirty image) {rect : Rect} {data : List UInt8}
    (done : framebuffer.patchRgbaRect rect.x rect.y rect.width rect.height data = .ok patched) :
    Painted patched (dirty ++ [rect]) image := by
  rcases patchRgbaRect_writes done with ⟨width, _, within, bytes, wrote⟩
  have length : patched.rgba.length = framebuffer.rgba.length := by
    rw [wrote, patch_length within (Nat.le_of_eq bytes.symm)]
  have sameRows : ∀ other, rectRows patched other = rectRows framebuffer other := by
    intro other
    rw [rectRows, rectRows, width]
  refine ⟨painted.length.trans length.symm, ?_, ?_⟩
  · intro other member
    rw [sameRows, length]
    rcases List.mem_append.mp member with old | new
    · exact painted.within other old
    · rw [List.mem_singleton.mp new]
      exact within
  · intro place outside
    simp only [sameRows] at outside
    rw [painted.agrees place fun other member =>
      outside other (List.mem_append_left _ member)]
    have aligned := rows_aligned framebuffer.width.toNat rect.x rect.y rect.width rect.height
    rw [RgbaFramebuffer.cloneBgra, RgbaFramebuffer.cloneBgra, wrote,
      swapPixels_patch aligned within (Nat.le_of_eq bytes.symm), patch_outside]
    · rw [swapPixels_length]
      exact within
    · rw [swapPixels_length]
      exact Nat.le_of_eq bytes.symm
    · exact outside rect (List.mem_append_right _ List.mem_cons_self)

theorem Painted.copy (painted : Painted framebuffer dirty image) {dst src : Rect}
    (done : framebuffer.copyRect src.x src.y dst.x dst.y dst.width dst.height = .ok patched) :
    Painted patched (dirty ++ [dst]) image := by
  rw [RgbaFramebuffer.copyRect] at done
  iterate 9
    obtain ⟨_, _, done⟩ := bind_eq_ok.mp done
  exact painted.patch done

theorem rectRows_total (framebuffer : RgbaFramebuffer) (rect : Rect) :
    total (rectRows framebuffer rect) = (frameRect rect).byteLen :=
  rows_total _ _ _ _ _

theorem paintRects_gather (image : List UInt8)
    (within : ∀ rect ∈ dirty, Within framebuffer.rgba.length (rectRows framebuffer rect)) :
    paintRects framebuffer.width.toNat image (dirty.map frameRect)
        (dirty.flatMap fun rect => gather framebuffer.cloneBgra (rectRows framebuffer rect)) =
      patch image (dirty.flatMap (rectRows framebuffer))
        (gather framebuffer.cloneBgra (dirty.flatMap (rectRows framebuffer))) := by
  induction dirty generalizing image with
  | nil => rfl
  | cons rect rest ih =>
    have here := within rect List.mem_cons_self
    have bytes : (gather framebuffer.cloneBgra (rectRows framebuffer rect)).length =
        total (rectRows framebuffer rect) := by
      apply gather_length
      rw [RgbaFramebuffer.cloneBgra, swapPixels_length]
      exact here
    have gathered : gather framebuffer.cloneBgra
          (rectRows framebuffer rect ++ rest.flatMap (rectRows framebuffer)) =
        gather framebuffer.cloneBgra (rectRows framebuffer rect) ++
          gather framebuffer.cloneBgra (rest.flatMap (rectRows framebuffer)) :=
      List.flatMap_append
    have front := bytes.trans (rectRows_total framebuffer rect)
    rw [List.map_cons, List.flatMap_cons, List.flatMap_cons, gathered, patch_append _ _ bytes,
      paintRects, List.take_left' front, List.drop_left' front]
    exact ih _ fun other member => within other (List.mem_cons_of_mem _ member)

theorem Painted.delta (painted : Painted framebuffer dirty image) :
    paintRects framebuffer.width.toNat image (dirty.map frameRect)
        (dirty.flatMap fun rect => gather framebuffer.cloneBgra (rectRows framebuffer rect)) =
      framebuffer.cloneBgra := by
  rw [paintRects_gather image painted.within]
  apply List.ext_getElem?
  intro place
  apply patch_gather
  · rw [RgbaFramebuffer.cloneBgra, swapPixels_length, painted.length]
  · intro segment member
    rcases List.mem_flatMap.mp member with ⟨rect, among, inside⟩
    rw [painted.length]
    exact painted.within rect among segment inside
  · intro outside
    apply painted.agrees
    intro rect among segment inside
    exact outside segment (List.mem_flatMap.mpr ⟨rect, among, inside⟩)

/-! ## Flushes -/

theorem cloneRects_gathers (bgra : List UInt8)
    (within : ∀ rect ∈ dirty, Within framebuffer.rgba.length (rectRows framebuffer rect)) :
    (dirty.map frameRect).foldlM (fun bgra rect => do
        let pixels ← framebuffer.cloneBgraRect rect.x rect.y rect.width rect.height
        pure (bgra ++ pixels)) bgra = (.ok (bgra ++ dirty.flatMap fun rect =>
        gather framebuffer.cloneBgra (rectRows framebuffer rect)) : Except Fault (List UInt8)) := by
  induction dirty generalizing bgra with
  | nil => exact congrArg Except.ok (List.append_nil bgra).symm
  | cons rect rest ih =>
    have read : framebuffer.cloneBgraRect (frameRect rect).x (frameRect rect).y
        (frameRect rect).width (frameRect rect).height =
          .ok (gather framebuffer.cloneBgra (rectRows framebuffer rect)) :=
      cloneBgraRect_gathers (within rect List.mem_cons_self)
    rw [List.map_cons, List.foldlM_cons, read, List.flatMap_cons, ← List.append_assoc]
    exact ih _ fun other member => within other (List.mem_cons_of_mem _ member)

theorem delta_whole
    (within : ∀ rect ∈ dirty, Within framebuffer.rgba.length (rectRows framebuffer rect)) :
    ((dirty.map frameRect).map (·.byteLen)).sum = (dirty.flatMap fun rect =>
        gather framebuffer.cloneBgra (rectRows framebuffer rect)).length := by
  induction dirty with
  | nil => rfl
  | cons rect rest ih =>
    have bytes : (gather framebuffer.cloneBgra (rectRows framebuffer rect)).length =
        total (rectRows framebuffer rect) := by
      apply gather_length
      rw [RgbaFramebuffer.cloneBgra, swapPixels_length]
      exact within rect List.mem_cons_self
    rw [List.map_cons, List.map_cons, List.sum_cons, List.flatMap_cons, List.length_append, bytes,
      rectRows_total]
    congr 1
    exact ih fun other member => within other (List.mem_cons_of_mem _ member)

-- A flush never fails, and what it sends makes the image the framebuffer.
theorem flushFrame_paints {state : VncFramebufferState}
    (held : state.framebuffer = some framebuffer)
    (painted : Painted framebuffer state.dirtyRects image) (mailbox : OutputMailbox) :
    ∃ next sent, state.flushFrame mailbox = .ok (next, sent) ∧
      next.framebuffer = some framebuffer ∧ next.dirtyRects = [] ∧
      (sent = mailbox ∧ state.dirtyRects = [] ∨
        ∃ output, output.isPicture = true ∧ pictureSize output = some framebuffer.size ∧
          Whole output ∧ sent = mailbox.send output ∧
          applyOutput image output = framebuffer.cloneBgra) := by
  simp only [VncFramebufferState.flushFrame, held]
  split
  · rename_i empty
    have clean := List.isEmpty_iff.mp empty
    exact ⟨state, mailbox, rfl, held, clean, Or.inl ⟨rfl, clean⟩⟩
  · split
    · refine ⟨_, _, rfl, rfl, rfl, Or.inr ⟨_, ?_, ?_, ?_, rfl, ?_⟩⟩
      · rfl
      · rfl
      · trivial
      · rfl
    · rw [cloneRects_gathers [] painted.within]
      refine ⟨_, _, rfl, rfl, rfl, Or.inr ⟨_, ?_, ?_, ?_, rfl, ?_⟩⟩
      · rfl
      · rfl
      · exact delta_whole painted.within
      · exact painted.delta

/-! ## Runs of one session -/

/-- The resolution stays, no patch goes out of range, and other threads write what opens
and ends no session. -/
def Accepted (run : DisplayRun) : DisplayCall → Prop
  | .setResolution _ => False
  | .patchRect rect data => (displayMachine.step run (.patchRect rect data)).2 ≠ some .panic
  | .copyRect dst src => (displayMachine.step run (.copyRect dst src)).2 ≠ some .panic
  | .send output =>
    output.isPicture = false ∧ output.isConnected = false ∧ output.endsSession = false
  | .flushFrame => True
  | .recv => True

structure Displayed (run : DisplayRun) (framebuffer : RgbaFramebuffer) : Prop where
  announced : Announced run
  accepting : run.mailbox.acceptingSessionOutputs = true
  whole : ∀ output ∈ pictures run.mailbox, Whole output
  held : run.state.framebuffer = some framebuffer
  painted : Painted framebuffer run.state.dirtyRects (shown run)

theorem Displayed.size (displayed : Displayed run framebuffer) :
    run.state.size = some framebuffer.size := by
  rw [VncFramebufferState.size, displayed.held]
  rfl

theorem Displayed.changed (displayed : Displayed run framebuffer) {state : VncFramebufferState}
    (same : state.size = run.state.size) (held : state.framebuffer = some patched)
    (painted : Painted patched state.dirtyRects (shown run)) :
    Displayed { run with state := state } patched :=
  ⟨displayed.announced.changed same, displayed.accepting, displayed.whole, held, painted⟩

theorem Displayed.recv (displayed : Displayed run framebuffer) :
    Displayed (displayMachine.step run .recv).1 framebuffer ∧
      shown (displayMachine.step run .recv).1 = shown run := by
  simp only [displayMachine, DisplayRun.step]
  cases received : run.mailbox.recv with
  | none => exact ⟨displayed, rfl⟩
  | some taken =>
    rcases taken with ⟨output, rest⟩
    have waiting := recv_waiting received
    have same : shown { run with mailbox := rest, received := run.received ++ [output] } =
        shown run := by
      simp only [shown]
      rw [waiting, List.append_assoc]
      rfl
    have accepts : rest.acceptingSessionOutputs = run.mailbox.acceptingSessionOutputs := by
      rw [OutputMailbox.recv] at received
      split at received
      · cases received
        rfl
      · split at received
        · cases received
          rfl
        · split at received <;> cases received
          rfl
    have fewer : ∀ other ∈ pictures rest, Whole other := by
      intro other member
      have among : other ∈ run.mailbox.control ++ pictures run.mailbox := by
        rw [waiting]
        exact List.mem_cons_of_mem _ (List.mem_append_right _ member)
      rcases List.mem_append.mp among with control | slot
      · have plain := displayed.announced.sorted.control other control
        have picture := (recv_sorted displayed.announced.sorted received).picture other member
        cases picture.symm.trans plain
      · exact displayed.whole other slot
    refine ⟨⟨displayed.announced.recv received, accepts.trans displayed.accepting, fewer,
      displayed.held, ?_⟩, same⟩
    simp only [same]
    exact displayed.painted

theorem Displayed.flush (displayed : Displayed run framebuffer) :
    Displayed (displayMachine.step run .flushFrame).1 framebuffer ∧
      shown (displayMachine.step run .flushFrame).1 = framebuffer.cloneBgra := by
  have sorted := displayed.announced.sorted
  rcases flushFrame_paints displayed.held displayed.painted run.mailbox with
    ⟨next, sent, flushed, held, clean, unsent | ⟨output, picture, size, whole, sends, paints⟩⟩
  · have step : (displayMachine.step run .flushFrame).1 = { run with state := next } := by
      simp only [displayMachine, DisplayRun.step, flushed, unsent.1]
      rfl
    have all : shown run = framebuffer.cloneBgra := by
      have painted := displayed.painted
      rw [unsent.2] at painted
      exact painted.clean
    have same : next.size = run.state.size := by
      rw [VncFramebufferState.size, held, displayed.size]
      rfl
    rw [step]
    refine ⟨displayed.changed same held ?_, all⟩
    rw [clean, all]
    exact painted_clone framebuffer
  · have step : (displayMachine.step run .flushFrame).1 =
        { run with state := next, mailbox := run.mailbox.send output } := by
      simp only [displayMachine, DisplayRun.step, flushed, sends]
      rfl
    have silent : output.isConnected = false := by
      cases output with
      | connected => cases picture
      | _ => rfl
    have same : next.size = run.state.size := by
      rw [VncFramebufferState.size, held, displayed.size]
      rfl
    have fits := size.trans displayed.size.symm
    have all : shown { run with state := next, mailbox := run.mailbox.send output } =
        framebuffer.cloneBgra :=
      (send_picture_image displayed.announced displayed.accepting displayed.whole picture
        fits).trans paints
    rw [step]
    refine ⟨⟨(displayed.announced.send (fun _ => fits) silent).changed same, ?_, ?_, held, ?_⟩, all⟩
    · exact (send_picture run.mailbox picture).2.1.trans displayed.accepting
    · exact send_whole sorted displayed.whole whole
    · rw [clean, all]
      exact painted_clone framebuffer

theorem Displayed.step (displayed : Displayed run framebuffer) (call : DisplayCall)
    (accepted : Accepted run call) (other : call ≠ .flushFrame) :
    (∃ after, Displayed (displayMachine.step run call).1 after) ∧
      shown (displayMachine.step run call).1 = shown run := by
  cases call with
  | setResolution screen => cases accepted
  | flushFrame => exact absurd rfl other
  | recv => exact ⟨⟨framebuffer, displayed.recv.1⟩, displayed.recv.2⟩
  | send output =>
    rcases accepted with ⟨control, silent, goesOn⟩
    have same := @send_keeps_image run output displayed.announced.sorted control silent goesOn
    refine ⟨⟨framebuffer, ?_, ?_, ?_, displayed.held, ?_⟩, same⟩
    · apply displayed.announced.send _ silent
      intro picture
      cases picture.symm.trans control
    · have sent := send_control run.mailbox control
      simp only [displayMachine, DisplayRun.step]
      generalize run.mailbox.send output = after at sent ⊢
      cases sent with
      | ends closes plain => cases closes.symm.trans goesOn
      | opens connects plain => rfl
      | drops within closed => exact displayed.accepting
      | queues accepts closes connects => exact displayed.accepting
    · apply send_whole displayed.announced.sorted displayed.whole
      cases output with
      | frameBgraRects => cases control
      | _ => trivial
    · have painted := displayed.painted
      rw [← same] at painted
      exact painted
  | patchRect rect data =>
    simp only [displayMachine]
    cases done : run.step (.patchRect rect data) with
    | error fault => exact ⟨⟨framebuffer, displayed⟩, rfl⟩
    | ok next =>
      rcases bind_eq_ok.mp done with ⟨state, patch, rest⟩
      cases rest
      have size := patchRect_size patch
      simp only [VncFramebufferState.patchRect, displayed.held] at patch
      rcases bind_eq_ok.mp patch with ⟨patched, inner, rest⟩
      cases rest
      exact ⟨⟨patched, displayed.changed size rfl (displayed.painted.patch inner)⟩, rfl⟩
  | copyRect dst src =>
    simp only [displayMachine]
    cases done : run.step (.copyRect dst src) with
    | error fault => exact ⟨⟨framebuffer, displayed⟩, rfl⟩
    | ok next =>
      rcases bind_eq_ok.mp done with ⟨state, copy, rest⟩
      cases rest
      have size := copyState_size copy
      simp only [VncFramebufferState.copyRect, displayed.held] at copy
      rcases bind_eq_ok.mp copy with ⟨copied, inner, rest⟩
      cases rest
      exact ⟨⟨copied, displayed.changed size rfl (displayed.painted.copy inner)⟩, rfl⟩

theorem run_displayed (calls : List DisplayCall)
    (accepted : displayMachine.Respects Accepted run calls) (displayed : Displayed run framebuffer) :
    ∃ after, Displayed (displayMachine.run run calls).1 after := by
  induction calls generalizing run framebuffer with
  | nil => exact ⟨framebuffer, displayed⟩
  | cons call rest ih =>
    by_cases flush : call = .flushFrame
    · subst flush
      exact ih accepted.2 displayed.flush.1
    · rcases (displayed.step call accepted.1 flush).1 with ⟨after, kept⟩
      exact ih accepted.2 kept

theorem run_keeps_image (calls : List DisplayCall)
    (accepted : displayMachine.Respects Accepted run calls) (displayed : Displayed run framebuffer)
    (quiet : ∀ call ∈ calls, call ≠ .flushFrame) :
    shown (displayMachine.run run calls).1 = shown run := by
  induction calls generalizing run framebuffer with
  | nil => rfl
  | cons call rest ih =>
    rcases displayed.step call accepted.1 (quiet call List.mem_cons_self) with
      ⟨⟨after, kept⟩, same⟩
    rw [Machine.run]
    rw [ih accepted.2 kept fun other member => quiet other (List.mem_cons_of_mem _ member)]
    exact same

theorem run_receives (run : DisplayRun) (receives : Nat)
    (enough : (run.mailbox.control ++ pictures run.mailbox).length ≤ receives) :
    imageOf (displayMachine.run run (List.replicate receives .recv)).1.received = shown run := by
  induction receives generalizing run with
  | zero =>
    have empty := List.length_eq_zero_iff.mp (Nat.le_zero.mp enough)
    rw [shown, empty, List.append_nil]
    rfl
  | succ receives ih =>
    rw [List.replicate_succ, Machine.run]
    cases received : run.mailbox.recv with
    | none =>
      have step : (displayMachine.step run .recv).1 = run := by
        simp only [displayMachine, DisplayRun.step, received]
      have empty : run.mailbox.control ++ pictures run.mailbox = [] := by
        rw [OutputMailbox.recv] at received
        split at received
        · cases received
        · rename_i control
          split at received
          · cases received
          · rename_i frame
            split at received
            · cases received
            · rename_i delta
              rw [pictures, control, frame, delta]
              rfl
      simp only [step]
      apply ih
      rw [empty]
      exact Nat.zero_le _
    | some taken =>
      rcases taken with ⟨output, rest⟩
      have waiting := recv_waiting received
      have step : (displayMachine.step run .recv).1 =
          { run with mailbox := rest, received := run.received ++ [output] } := by
        simp only [displayMachine, DisplayRun.step, received]
      simp only [step]
      rw [ih]
      · rw [shown, shown, waiting, List.append_assoc]
        rfl
      · rw [waiting, List.length_cons] at enough
        exact Nat.le_of_succ_le_succ enough

def sessionStart (mailbox : OutputMailbox) (screen : Screen) : DisplayRun :=
  (displayMachine.step { mailbox := mailbox } (.setResolution screen)).1

theorem swapPixels_zeros (count : Nat) :
    swapPixels (List.replicate (count * 4) 0) = List.replicate (count * 4) 0 := by
  induction count with
  | zero => rfl
  | succ count ih =>
    rw [Nat.succ_mul, List.replicate_add, swapPixels_append, ih]
    · rfl
    · rw [List.length_replicate]
      exact Nat.dvd_mul_left 4 count

theorem start_displayed (sorted : Sorted mailbox) (idle : pictures mailbox = []) (screen : Screen) :
    Displayed (sessionStart mailbox screen) (RgbaFramebuffer.new screen.width screen.height) := by
  have none : pictures (sessionStart mailbox screen).mailbox = [] := idle
  have all : shown (sessionStart mailbox screen) =
      (RgbaFramebuffer.new screen.width screen.height).cloneBgra := by
    have control : (sessionStart mailbox screen).mailbox.control =
        mailbox.control ++ [.connected screen.width screen.height vncCapabilities] := rfl
    rw [shown, none, List.append_nil, control, imageOf, List.foldl_append, List.foldl_append,
      RgbaFramebuffer.cloneBgra, RgbaFramebuffer.new, swapPixels_zeros]
    rfl
  have kept : Sorted (sessionStart mailbox screen).mailbox :=
    send_sorted sorted (.connected screen.width screen.height vncCapabilities)
  have size : (sessionStart mailbox screen).mailbox.control.foldl announce Option.none =
      (sessionStart mailbox screen).state.size :=
    announce_send Option.none mailbox (.connected screen.width screen.height vncCapabilities)
  refine ⟨⟨kept, ?_, size, ?_⟩, rfl, ?_, rfl, ?_⟩
  · rw [none]
    exact nofun
  · rintro (_ | _) _ _ ⟨⟩
  · rw [none]
    exact nofun
  · rw [all]
    exact painted_clone _

/-- Once all is received, the image is the framebuffer as it was at the last flush. -/
theorem run_showsLastFlush (earlier : List MailboxCall)
    (idle : pictures (mailboxMachine.run {} earlier).1 = []) (screen : Screen)
    (before after : List DisplayCall)
    (accepted : displayMachine.Respects Accepted
      (sessionStart (mailboxMachine.run {} earlier).1 screen) (before ++ .flushFrame :: after))
    (last : ∀ call ∈ after, call ≠ .flushFrame) (receives : Nat)
    (enough : ((displayMachine.run (sessionStart (mailboxMachine.run {} earlier).1 screen)
        (before ++ .flushFrame :: after)).1.mailbox.control ++
      pictures (displayMachine.run (sessionStart (mailboxMachine.run {} earlier).1 screen)
        (before ++ .flushFrame :: after)).1.mailbox).length ≤ receives) :
    ∃ framebuffer,
      (displayMachine.run (sessionStart (mailboxMachine.run {} earlier).1 screen)
        before).1.state.framebuffer = some framebuffer ∧
      imageOf (displayMachine.run (sessionStart (mailboxMachine.run {} earlier).1 screen)
        (before ++ .flushFrame :: after ++ List.replicate receives .recv)).1.received =
          framebuffer.cloneBgra := by
  have sorted : Sorted (mailboxMachine.run {} earlier).1 :=
    visited_invariant mailboxMachine Sorted (fun _ call kept => step_sorted kept call) {} earlier
      start_sorted _ (run_mem_visited mailboxMachine {} earlier)
  have start := start_displayed sorted idle screen
  rw [respects_append] at accepted
  rcases run_displayed before accepted.1 start with ⟨framebuffer, displayed⟩
  refine ⟨framebuffer, displayed.held, ?_⟩
  rw [run_append, run_receives _ receives enough, run_append]
  have kept := run_keeps_image after accepted.2.2 displayed.flush.1 last
  exact kept.trans displayed.flush.2

/-- A keyframe is received, then two flushes are merged, and a patch after them is not
shown yet. -/
theorem run_showsLastFlush_merged :
    ∃ framebuffer,
      (displayMachine.run (sessionStart (mailboxMachine.run {} [.beginGeneration]).1 ⟨2, 1⟩)
        [.patchRect ⟨0, 0, 2, 1⟩ [1, 2, 3, 4, 5, 6, 7, 8], .flushFrame, .recv, .recv,
          .patchRect ⟨0, 0, 1, 1⟩ [9, 10, 11, 12], .flushFrame,
          .copyRect ⟨1, 0, 1, 1⟩ ⟨0, 0, 1, 1⟩]).1.state.framebuffer = some framebuffer ∧
      imageOf (displayMachine.run
        (sessionStart (mailboxMachine.run {} [.beginGeneration]).1 ⟨2, 1⟩)
        ([.patchRect ⟨0, 0, 2, 1⟩ [1, 2, 3, 4, 5, 6, 7, 8], .flushFrame, .recv, .recv,
          .patchRect ⟨0, 0, 1, 1⟩ [9, 10, 11, 12], .flushFrame,
          .copyRect ⟨1, 0, 1, 1⟩ ⟨0, 0, 1, 1⟩] ++
          .flushFrame :: [.patchRect ⟨0, 0, 1, 1⟩ [0, 0, 0, 0]] ++
            List.replicate 1 .recv)).1.received = framebuffer.cloneBgra := by
  apply run_showsLastFlush [.beginGeneration] rfl ⟨2, 1⟩
  · refine ⟨?_, trivial, trivial, trivial, ?_, trivial, ?_, trivial, ?_, trivial⟩
    · unfold Accepted
      decide
    · unfold Accepted
      decide
    · unfold Accepted
      decide
    · unfold Accepted
      decide
  · intro call member
    rw [List.mem_singleton.mp member]
    rintro ⟨⟩
  · decide

end Onetcli.Vnc
