import Onetcli.Lib.Segments
import Onetcli.Vnc.Framebuffer

/-!
The rows of a rectangle as segments of the framebuffer's bytes. A patch that is accepted
writes these segments and nothing else, and the rectangle of a delta is gathered from
them. Red and blue change places within a pixel, so both can be said of the bytes as the
client has them.
-/

namespace Onetcli.Vnc

open Checks Segments

/-! ## Pixels -/

theorem swapPixels_length (bytes : List UInt8) : (swapPixels bytes).length = bytes.length := by
  fun_induction swapPixels bytes with
  | case1 red green blue alpha rest ih => simp [ih]
  | case2 => rfl

theorem swapPixels_append (first second : List UInt8) (whole : 4 ∣ first.length) :
    swapPixels (first ++ second) = swapPixels first ++ swapPixels second := by
  fun_induction swapPixels first with
  | case1 red green blue alpha rest ih =>
    have fewer : 4 ∣ rest.length := by
      simp only [List.length_cons] at whole
      omega
    simp only [List.cons_append, swapPixels, ih fewer]
  | case2 rest short =>
    rcases rest with _ | ⟨red, _ | ⟨green, _ | ⟨blue, _ | ⟨alpha, more⟩⟩⟩⟩
    · rfl
    · simp at whole
    · simp at whole
    · simp at whole
    · exact absurd rfl (short red green blue alpha more)

theorem swapPixels_split (bytes : List UInt8) {count : Nat} (whole : 4 ∣ count)
    (within : count ≤ bytes.length) : (swapPixels (bytes.take count)).length = count ∧
      swapPixels bytes = swapPixels (bytes.take count) ++ swapPixels (bytes.drop count) := by
  have length : (bytes.take count).length = count := List.length_take_of_le within
  have split := swapPixels_append (bytes.take count) (bytes.drop count) (length.symm ▸ whole)
  rw [List.take_append_drop] at split
  exact ⟨by rw [swapPixels_length, length], split⟩

theorem swapPixels_take (bytes : List UInt8) {count : Nat} (whole : 4 ∣ count)
    (within : count ≤ bytes.length) : swapPixels (bytes.take count) = (swapPixels bytes).take count := by
  obtain ⟨length, split⟩ := swapPixels_split bytes whole within
  rw [split, List.take_left' length]

theorem swapPixels_drop (bytes : List UInt8) {count : Nat} (whole : 4 ∣ count)
    (within : count ≤ bytes.length) : swapPixels (bytes.drop count) = (swapPixels bytes).drop count := by
  obtain ⟨length, split⟩ := swapPixels_split bytes whole within
  rw [split, List.drop_left' length]

/-- Segments of whole pixels. -/
def Aligned (segments : List Segment) : Prop :=
  ∀ segment ∈ segments, 4 ∣ segment.start ∧ 4 ∣ segment.length

theorem swapPixels_cut {bytes : List UInt8} {segment : Segment}
    (aligned : 4 ∣ segment.start ∧ 4 ∣ segment.length)
    (within : segment.start + segment.length ≤ bytes.length) :
    swapPixels (cut bytes segment) = cut (swapPixels bytes) segment := by
  rw [cut, cut, ← swapPixels_drop bytes aligned.1 (by omega)]
  apply swapPixels_take _ aligned.2
  rw [List.length_drop]
  omega

theorem swapPixels_splice {bytes data : List UInt8} {start : Nat} (whole : 4 ∣ start)
    (pixels : 4 ∣ data.length) (within : start + data.length ≤ bytes.length) :
    swapPixels (splice bytes start data) = splice (swapPixels bytes) start (swapPixels data) := by
  have front : 4 ∣ (bytes.take start).length := by
    rw [List.length_take_of_le (by omega)]
    exact whole
  have both : 4 ∣ (bytes.take start ++ data).length := by
    rw [List.length_append]
    exact Nat.dvd_add front pixels
  rw [splice, swapPixels_append _ _ both, swapPixels_append _ _ front,
    swapPixels_take bytes whole (by omega), swapPixels_drop bytes (Nat.dvd_add whole pixels) within,
    splice, swapPixels_length]

theorem swapPixels_patch {bytes payload : List UInt8} {segments : List Segment}
    (aligned : Aligned segments) (within : Within bytes.length segments)
    (enough : total segments ≤ payload.length) : swapPixels (patch bytes segments payload) =
      patch (swapPixels bytes) segments (swapPixels payload) := by
  induction segments generalizing bytes payload with
  | nil => rfl
  | cons segment rest ih =>
    rcases within_cons within with ⟨fits, others⟩
    rw [total, List.map_cons, List.sum_cons] at enough
    have here := aligned segment List.mem_cons_self
    have taken : (payload.take segment.length).length = segment.length :=
      List.length_take_of_le (by omega)
    have bound : segment.start + (payload.take segment.length).length ≤ bytes.length := by
      rw [taken]
      exact fits
    rw [patch, patch, ih, swapPixels_splice here.1 (taken.symm ▸ here.2) bound,
      swapPixels_take payload here.2 (by omega), swapPixels_drop payload here.2 (by omega)]
    · exact fun other member => aligned other (List.mem_cons_of_mem _ member)
    · rw [splice_length bound]
      exact others
    · rw [List.length_drop, total]
      omega

/-! ## Rows -/

def rowSegment (stride : Nat) (x y width : UInt16) (row : Nat) : Segment :=
  ⟨((y.toNat + row) * stride + x.toNat) * 4, width.toNat * 4⟩

def rows (stride : Nat) (x y width height : UInt16) : List Segment :=
  (List.range height.toNat).map (rowSegment stride x y width)

theorem rows_aligned (stride : Nat) (x y width height : UInt16) :
    Aligned (rows stride x y width height) := by
  intro segment member
  rcases List.mem_map.mp member with ⟨row, _, rfl⟩
  exact ⟨Nat.dvd_mul_left 4 _, Nat.dvd_mul_left 4 _⟩

theorem rows_total (stride : Nat) (x y width height : UInt16) :
    total (rows stride x y width height) = width.toNat * height.toNat * 4 := by
  have constant : (rows stride x y width height).map (·.length) =
      List.replicate height.toNat (width.toNat * 4) := by
    simp [rows, rowSegment, Function.comp_def]
  rw [total, constant, List.sum_replicate_nat, Nat.mul_comm width.toNat height.toNat,
    Nat.mul_assoc]

variable {framebuffer patched : RgbaFramebuffer} {x y width height : UInt16}

theorem patchRows (stride : Nat) (data : List UInt8) (first count : Nat) {rgba after : List UInt8}
    (done : (List.range' first count).foldlM (fun rgba row => do
        let srcStart := row * width.toNat * 4
        let pixels ← slice data srcStart (srcStart + width.toNat * 4)
        let dstStart := ((y.toNat + row) * stride + x.toNat) * 4
        copyFromSlice rgba dstStart (dstStart + width.toNat * 4) pixels) rgba = .ok after) :
    Within rgba.length ((List.range' first count).map (rowSegment stride x y width)) ∧
      after = patch rgba ((List.range' first count).map (rowSegment stride x y width))
        (data.drop (first * width.toNat * 4)) := by
  induction count generalizing first rgba with
  | zero =>
    cases done
    exact ⟨nofun, rfl⟩
  | succ count ih =>
    rw [List.range'_succ, List.foldlM_cons] at done
    rcases bind_eq_ok.mp done with ⟨next, wrote, rest⟩
    rcases bind_eq_ok.mp wrote with ⟨pixels, read, written⟩
    rw [slice] at read
    rw [copyFromSlice] at written
    split at read
    · rename_i enough
      cases read
      split at written
      · rename_i fits
        cases written
        rcases ih (first + 1) rest with ⟨within, patched⟩
        have length : ((data.drop (first * width.toNat * 4)).take (width.toNat * 4)).length =
            width.toNat * 4 := by
          rw [List.length_take, List.length_drop]
          omega
        have bound := fits.1
        rw [Nat.add_sub_cancel_left] at patched within fits
        have spliced : ∀ start, splice rgba start
            ((data.drop (first * width.toNat * 4)).take (width.toNat * 4)) =
              rgba.take start ++ (data.drop (first * width.toNat * 4)).take (width.toNat * 4) ++
                rgba.drop (start + width.toNat * 4) := by
          intro start
          rw [splice, length]
        rw [← spliced] at patched within
        rw [splice_length (by rw [length]; exact bound)] at within
        rw [List.range'_succ, List.map_cons]
        constructor
        · intro segment member
          rcases List.mem_cons.mp member with rfl | later
          · exact bound
          · exact within segment later
        · rw [patched, patch, List.drop_drop]
          congr 2
          rw [Nat.add_mul, Nat.one_mul, Nat.add_mul]
          rfl
      · cases written
    · cases read

theorem patchRgbaRect_writes {data : List UInt8}
    (done : framebuffer.patchRgbaRect x y width height data = .ok patched) :
    patched.width = framebuffer.width ∧ patched.height = framebuffer.height ∧
      Within framebuffer.rgba.length (rows framebuffer.width.toNat x y width height) ∧
      data.length = total (rows framebuffer.width.toNat x y width height) ∧
      patched.rgba = patch framebuffer.rgba (rows framebuffer.width.toNat x y width height) data := by
  rw [RgbaFramebuffer.patchRgbaRect] at done
  rcases bind_eq_ok.mp done with ⟨_, length, done⟩
  iterate 4
    rcases bind_eq_ok.mp done with ⟨_, _, done⟩
  rcases bind_eq_ok.mp done with ⟨rgba, loop, done⟩
  cases done
  rw [List.range_eq_range'] at loop
  rcases patchRows framebuffer.width.toNat data 0 height.toNat loop with ⟨within, wrote⟩
  rw [← List.range_eq_range'] at within wrote
  rw [Nat.zero_mul, Nat.zero_mul, List.drop_zero] at wrote
  rw [rows_total]
  exact ⟨rfl, rfl, within, ensure_eq_ok.mp length, wrote⟩

-- The loop over the rows of a rectangle that is read, from one row on.
theorem cloneRows (first count : Nat) (bgra : List UInt8) (within : Within framebuffer.rgba.length
      ((List.range' first count).map (rowSegment framebuffer.width.toNat x y width))) :
    (List.range' first count).foldlM (fun bgra row => do
        let start := framebuffer.rowStart x y row
        let pixels ← slice framebuffer.rgba start (start + width.toNat * 4)
        pure (bgra ++ swapPixels pixels)) bgra =
      (.ok (bgra ++ gather framebuffer.cloneBgra
        ((List.range' first count).map (rowSegment framebuffer.width.toNat x y width))) :
          Except Fault (List UInt8)) := by
  induction count generalizing first bgra with
  | zero => exact congrArg Except.ok (List.append_nil bgra).symm
  | succ count ih =>
    rw [List.range'_succ, List.map_cons] at within
    rcases within_cons within with ⟨fits, others⟩
    have read : slice framebuffer.rgba (framebuffer.rowStart x y first)
        (framebuffer.rowStart x y first + width.toNat * 4) =
          .ok (cut framebuffer.rgba (rowSegment framebuffer.width.toNat x y width first)) := by
      rw [slice, if_pos (by exact fits), Nat.add_sub_cancel_left]
      rfl
    have aligned : 4 ∣ (rowSegment framebuffer.width.toNat x y width first).start ∧
        4 ∣ (rowSegment framebuffer.width.toNat x y width first).length :=
      ⟨Nat.dvd_mul_left 4 _, Nat.dvd_mul_left 4 _⟩
    rw [List.range'_succ, List.foldlM_cons]
    change ((slice framebuffer.rgba (framebuffer.rowStart x y first)
      (framebuffer.rowStart x y first + width.toNat * 4)) >>= fun pixels =>
        pure (bgra ++ swapPixels pixels)) >>= _ = _
    rw [read]
    refine (ih (first + 1) _ others).trans ?_
    rw [swapPixels_cut aligned fits, List.map_cons, gather, gather, List.flatMap_cons,
      List.append_assoc]
    rfl

theorem cloneBgraRect_gathers
    (within : Within framebuffer.rgba.length (rows framebuffer.width.toNat x y width height)) :
    framebuffer.cloneBgraRect x y width height =
      .ok (gather framebuffer.cloneBgra (rows framebuffer.width.toNat x y width height)) := by
  rw [rows, List.range_eq_range'] at within ⊢
  rw [RgbaFramebuffer.cloneBgraRect, List.range_eq_range']
  exact cloneRows 0 height.toNat [] within

end Onetcli.Vnc
