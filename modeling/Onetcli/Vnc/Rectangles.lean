import Onetcli.Vnc.Rows

/-!
Rectangles of the framebuffer pixel by pixel. `patch_rgba_rect` and `copy_rect` change the
buffer row by row, so what they leave behind after a fault is part of what they do: here
both give the buffer as it is when they end, next to what they return.
-/

namespace Onetcli.Vnc

open Checks Segments RgbaFramebuffer

def pixelAt (bytes : List UInt8) (index : Nat) : List UInt8 :=
  (bytes.drop (index * 4)).take 4

namespace RgbaFramebuffer

variable (framebuffer : RgbaFramebuffer)

def pixel (column row : Nat) : Option (List UInt8) :=
  if column < framebuffer.width.toNat ∧ row < framebuffer.height.toNat then
    some (pixelAt framebuffer.rgba (row * framebuffer.width.toNat + column))
  else none

def patchChecks (x y width height : UInt16) (rectRgba : List UInt8) : Except Fault Unit := do
  ensure (rectRgba.length = width.toNat * height.toNat * 4) "invalid rectangle buffer length"
  ensure (x ≤ framebuffer.width) "rectangle x is outside framebuffer"
  ensure (y ≤ framebuffer.height) "rectangle y is outside framebuffer"
  ensure (saturatingAdd x width ≤ framebuffer.width) "rectangle width exceeds framebuffer"
  ensure (saturatingAdd y height ≤ framebuffer.height) "rectangle height exceeds framebuffer"

/-- One row of a rectangle written to the bytes of the buffer. -/
def writeRow (x y width : UInt16) (rectRgba rgba : List UInt8) (row : Nat) :
    Except Fault (List UInt8) := do
  let srcStart := row * width.toNat * 4
  let pixels ← slice rectRgba srcStart (srcStart + width.toNat * 4)
  let dstStart := framebuffer.rowStart x y row
  copyFromSlice rgba dstStart (dstStart + width.toNat * 4) pixels

def writeRows (x y width : UInt16) (rectRgba rgba : List UInt8) :
    List Nat → List UInt8 × Except Fault Unit
  | [] => (rgba, .ok ())
  | row :: rest =>
    match framebuffer.writeRow x y width rectRgba rgba row with
    | .error fault => (rgba, .error fault)
    | .ok rgba => writeRows x y width rectRgba rgba rest

def patchRgbaRectInPlace (x y width height : UInt16) (rectRgba : List UInt8) :
    RgbaFramebuffer × Except Fault Unit :=
  match framebuffer.patchChecks x y width height rectRgba with
  | .error fault => (framebuffer, .error fault)
  | .ok _ =>
    let wrote := framebuffer.writeRows x y width rectRgba framebuffer.rgba
      (List.range height.toNat)
    ({ framebuffer with rgba := wrote.1 }, wrote.2)

def copyChecks (srcX srcY dstX dstY width height : UInt16) : Except Fault Unit := do
  ensure (srcX ≤ framebuffer.width) "source x is outside framebuffer"
  ensure (srcY ≤ framebuffer.height) "source y is outside framebuffer"
  ensure (dstX ≤ framebuffer.width) "destination x is outside framebuffer"
  ensure (dstY ≤ framebuffer.height) "destination y is outside framebuffer"
  ensure (saturatingAdd srcX width ≤ framebuffer.width) "source width exceeds framebuffer"
  ensure (saturatingAdd srcY height ≤ framebuffer.height) "source height exceeds framebuffer"
  ensure (saturatingAdd dstX width ≤ framebuffer.width) "destination width exceeds framebuffer"
  ensure (saturatingAdd dstY height ≤ framebuffer.height)
    "destination height exceeds framebuffer"

/-- The snapshot of the source rectangle. -/
def readRows (x y width : UInt16) (count : Nat) : Except Fault (List UInt8) :=
  (List.range count).foldlM (fun pixels row => do
    let start := framebuffer.rowStart x y row
    let bytes ← slice framebuffer.rgba start (start + width.toNat * 4)
    pure (pixels ++ bytes)) []

def copyRectInPlace (srcX srcY dstX dstY width height : UInt16) :
    RgbaFramebuffer × Except Fault Unit :=
  match framebuffer.copyChecks srcX srcY dstX dstY width height with
  | .error fault => (framebuffer, .error fault)
  | .ok _ =>
    match framebuffer.readRows srcX srcY width height.toNat with
    | .error fault => (framebuffer, .error fault)
    | .ok pixels => framebuffer.patchRgbaRectInPlace dstX dstY width height pixels

end RgbaFramebuffer

/-- The new framebuffer of a call that succeeds. -/
def settled (outcome : RgbaFramebuffer × Except Fault Unit) : Except Fault RgbaFramebuffer :=
  outcome.2.map fun _ => outcome.1

/-! ## The calls and their outcomes -/

section Outcomes

variable (framebuffer : RgbaFramebuffer) (x y width height : UInt16)

theorem writeRows_settled (data : List UInt8) (rgba : List UInt8) (rows : List Nat) :
    rows.foldlM (framebuffer.writeRow x y width data) rgba =
      (framebuffer.writeRows x y width data rgba rows).2.map fun _ =>
        (framebuffer.writeRows x y width data rgba rows).1 := by
  induction rows generalizing rgba with
  | nil => rfl
  | cons row rest ih =>
    rw [List.foldlM_cons]
    cases wrote : framebuffer.writeRow x y width data rgba row with
    | error fault => simp [writeRows, wrote, bind, Except.bind, Except.map]
    | ok next =>
      simp only [writeRows, wrote]
      exact ih next

theorem patchInPlace_settled (data : List UInt8) : framebuffer.patchRgbaRect x y width height data =
      settled (framebuffer.patchRgbaRectInPlace x y width height data) := by
  have split : framebuffer.patchRgbaRect x y width height data =
      framebuffer.patchChecks x y width height data >>= fun _ =>
        (List.range height.toNat).foldlM (framebuffer.writeRow x y width data) framebuffer.rgba >>=
          fun rgba => pure { framebuffer with rgba := rgba } := by
    simp only [patchRgbaRect, patchChecks, bind_assoc]
    rfl
  rw [split, writeRows_settled]
  unfold patchRgbaRectInPlace settled
  cases framebuffer.patchChecks x y width height data with
  | error fault => rfl
  | ok _ =>
    dsimp only
    cases (framebuffer.writeRows x y width data framebuffer.rgba (List.range height.toNat)).2 <;>
      rfl

theorem copyInPlace_settled (srcX srcY : UInt16) : framebuffer.copyRect srcX srcY x y width height =
      settled (framebuffer.copyRectInPlace srcX srcY x y width height) := by
  have split : framebuffer.copyRect srcX srcY x y width height =
      framebuffer.copyChecks srcX srcY x y width height >>= fun _ =>
        framebuffer.readRows srcX srcY width height.toNat >>=
          framebuffer.patchRgbaRect x y width height := by
    simp only [copyRect, copyChecks, bind_assoc]
    rfl
  rw [split]
  unfold copyRectInPlace
  cases framebuffer.copyChecks srcX srcY x y width height with
  | error fault => rfl
  | ok _ =>
    cases framebuffer.readRows srcX srcY width height.toNat with
    | error fault => rfl
    | ok pixels => exact patchInPlace_settled framebuffer x y width height pixels

end Outcomes

/-! ## The checks -/

/-- A call that fails here has returned an error of its own. -/
def Refuses (checks : Except Fault Unit) : Prop :=
  ∀ fault, checks = .error fault → ∃ message, fault = .error message

theorem ensure_refuses (condition : Prop) [Decidable condition] (message : String) :
    Refuses (ensure condition message) := by
  intro fault failed
  unfold ensure Checks.ensure at failed
  split at failed
  · cases failed
  · exact ⟨message, (Except.error.inj failed).symm⟩

theorem refuses_bind {first : Except Fault Unit} {rest : Unit → Except Fault Unit}
    (here : Refuses first) (later : Refuses (rest ())) : Refuses (first >>= rest) := by
  intro fault failed
  cases first with
  | error err =>
    obtain rfl : err = fault := Except.error.inj failed
    exact here err rfl
  | ok _ => exact later fault failed

theorem saturatingAdd_le {start length limit : UInt16}
    (shown : limit.toNat < 65535 ∨ start.toNat + length.toNat ≤ 65535) :
    saturatingAdd start length ≤ limit ↔ start.toNat + length.toNat ≤ limit.toNat := by
  have bounded := limit.toNat_lt
  unfold saturatingAdd
  rw [UInt16.le_iff_toNat_le]
  split
  · rename_i small
    rw [UInt16.toNat_add, Nat.mod_eq_of_lt (by exact small)]
  · rename_i large
    have size : UInt16.size = 65536 := rfl
    have top : (65535 : UInt16).toNat = 65535 := rfl
    rw [top]
    omega

section Checked

variable (framebuffer : RgbaFramebuffer) (x y width height : UInt16)

/-- No sum of the rectangle's place and size is cut off where the check would need it. -/
def Unsaturated : Prop :=
  (framebuffer.width.toNat < 65535 ∨ x.toNat + width.toNat ≤ 65535) ∧
    (framebuffer.height.toNat < 65535 ∨ y.toNat + height.toNat ≤ 65535)

def Inside : Prop :=
  x.toNat + width.toNat ≤ framebuffer.width.toNat ∧
    y.toNat + height.toNat ≤ framebuffer.height.toNat

theorem patchChecks_refuses (data : List UInt8) :
    Refuses (framebuffer.patchChecks x y width height data) := by
  repeat' apply refuses_bind
  all_goals exact ensure_refuses _ _

theorem copyChecks_refuses (srcX srcY : UInt16) :
    Refuses (framebuffer.copyChecks srcX srcY x y width height) := by
  repeat' apply refuses_bind
  all_goals exact ensure_refuses _ _

variable {framebuffer x y width height}

theorem patchChecks_inside {data : List UInt8} (shown : Unsaturated framebuffer x y width height)
    (passed : framebuffer.patchChecks x y width height data = .ok ()) :
    data.length = width.toNat * height.toNat * 4 ∧ Inside framebuffer x y width height := by
  simp only [patchChecks, then_eq_ok, ensure, ensure_eq_ok] at passed
  obtain ⟨length, _, _, across, down⟩ := passed
  exact ⟨length, (saturatingAdd_le shown.1).mp across, (saturatingAdd_le shown.2).mp down⟩

theorem patchChecks_of_inside {data : List UInt8} (length : data.length = width.toNat * height.toNat * 4)
    (inside : Inside framebuffer x y width height) :
    framebuffer.patchChecks x y width height data = .ok () := by
  have across := framebuffer.width.toNat_lt
  have down := framebuffer.height.toNat_lt
  unfold Inside at inside
  simp only [patchChecks, then_eq_ok, ensure, ensure_eq_ok, UInt16.le_iff_toNat_le]
  refine ⟨length, by omega, by omega, ?_, ?_⟩
  · exact UInt16.le_iff_toNat_le.mp ((saturatingAdd_le (Or.inr (by omega))).mpr inside.1)
  · exact UInt16.le_iff_toNat_le.mp ((saturatingAdd_le (Or.inr (by omega))).mpr inside.2)

theorem copyChecks_inside {srcX srcY : UInt16}
    (src : Unsaturated framebuffer srcX srcY width height)
    (dst : Unsaturated framebuffer x y width height)
    (passed : framebuffer.copyChecks srcX srcY x y width height = .ok ()) :
    Inside framebuffer srcX srcY width height ∧ Inside framebuffer x y width height := by
  simp only [copyChecks, then_eq_ok, ensure, ensure_eq_ok] at passed
  obtain ⟨_, _, _, _, srcAcross, srcDown, dstAcross, dstDown⟩ := passed
  exact ⟨⟨(saturatingAdd_le src.1).mp srcAcross, (saturatingAdd_le src.2).mp srcDown⟩,
    (saturatingAdd_le dst.1).mp dstAcross, (saturatingAdd_le dst.2).mp dstDown⟩

end Checked

/-! ## Pixels of spliced bytes -/

theorem pixelAt_getElem? (bytes : List UInt8) (index place : Nat) :
    (pixelAt bytes index)[place]? = if place < 4 then bytes[index * 4 + place]? else none := by
  unfold pixelAt
  rw [List.getElem?_take, List.getElem?_drop]

theorem pixelAt_splice {bytes data : List UInt8} {first count index : Nat}
    (length : data.length = count * 4) (fits : first * 4 + count * 4 ≤ bytes.length) :
    pixelAt (splice bytes (first * 4) data) index =
      if first ≤ index ∧ index < first + count then pixelAt data (index - first)
      else pixelAt bytes index := by
  apply List.ext_getElem?
  intro place
  by_cases within : first ≤ index ∧ index < first + count
  · rw [if_pos within, pixelAt_getElem?, pixelAt_getElem?]
    by_cases small : place < 4
    · rw [if_pos small, if_pos small, splice_inside (by omega) (by omega) (by omega)]
      congr 1
      omega
    · rw [if_neg small, if_neg small]
  · rw [if_neg within, pixelAt_getElem?, pixelAt_getElem?]
    by_cases small : place < 4
    · rw [if_pos small, if_pos small, splice_outside (by omega) (by omega)]
    · rw [if_neg small, if_neg small]

theorem pixelAt_cut {bytes : List UInt8} {first count index : Nat} (small : index < count) :
    pixelAt ((bytes.drop (first * 4)).take (count * 4)) index = pixelAt bytes (first + index) := by
  apply List.ext_getElem?
  intro place
  rw [pixelAt_getElem?, pixelAt_getElem?]
  by_cases within : place < 4
  · rw [if_pos within, if_pos within, List.getElem?_take, if_pos (by omega), List.getElem?_drop]
    congr 1
    omega
  · rw [if_neg within, if_neg within]

theorem pixelAt_append_left {first second : List UInt8} {count index : Nat}
    (length : first.length = count * 4) (before : index < count) :
    pixelAt (first ++ second) index = pixelAt first index := by
  unfold pixelAt
  rw [List.drop_append_of_le_length (by omega), List.take_append_of_le_length]
  rw [List.length_drop]
  omega

theorem pixelAt_append_right {first second : List UInt8} {count index : Nat}
    (length : first.length = count * 4) (after : count ≤ index) :
    pixelAt (first ++ second) index = pixelAt second (index - count) := by
  unfold pixelAt
  rw [List.drop_append, List.drop_eq_nil_of_le (by omega), List.nil_append, length, Nat.sub_mul]

-- Where a pixel of a picture lies in a range within one row.
theorem index_in_row {stride column row target x width : Nat} (inside : column < stride)
    (fits : x + width ≤ stride) : (target * stride + x ≤ row * stride + column ∧
        row * stride + column < target * stride + x + width) ↔
      row = target ∧ x ≤ column ∧ column < x + width := by
  rcases Nat.lt_trichotomy row target with before | rfl | after
  · have rows := Nat.mul_le_mul_right stride (Nat.succ_le_of_lt before)
    rw [Nat.succ_mul] at rows
    omega
  · omega
  · have rows := Nat.mul_le_mul_right stride (Nat.succ_le_of_lt after)
    rw [Nat.succ_mul] at rows
    omega

/-! ## Rows -/

/-- A framebuffer with all of its pixels, as `new` makes it and every call leaves it. -/
structure Canvas where
  framebuffer : RgbaFramebuffer
  whole : framebuffer.rgba.length = framebuffer.width.toNat * framebuffer.height.toNat * 4

def newCanvas (width height : UInt16) : Canvas where
  framebuffer := RgbaFramebuffer.new width height
  whole := List.length_replicate

/-- The pixels of a rectangle are new, and every other one is as it was. -/
structure Replaces (before after : RgbaFramebuffer) (x y width height : Nat)
    (content : Nat → Nat → Option (List UInt8)) : Prop where
  sameWidth : after.width = before.width
  sameHeight : after.height = before.height
  sameLength : after.rgba.length = before.rgba.length
  pixels : ∀ column row, after.pixel column row =
    if x ≤ column ∧ column < x + width ∧ y ≤ row ∧ row < y + height then content column row
    else before.pixel column row

section Rows

variable {framebuffer : RgbaFramebuffer} {x y width height : UInt16}

theorem replaces_nothing (framebuffer : RgbaFramebuffer) (left top across : Nat)
    (content : Nat → Nat → Option (List UInt8)) :
    Replaces framebuffer framebuffer left top across 0 content where
  sameWidth := rfl
  sameHeight := rfl
  sameLength := rfl
  pixels column row := by
    rw [if_neg (by omega)]

theorem Replaces.below {before between after : RgbaFramebuffer} {left top across down : Nat}
    {content : Nat → Nat → Option (List UInt8)}
    (first : Replaces before between left top across 1 content)
    (rest : Replaces between after left (top + 1) across down content) :
    Replaces before after left top across (down + 1) content where
  sameWidth := rest.sameWidth.trans first.sameWidth
  sameHeight := rest.sameHeight.trans first.sameHeight
  sameLength := rest.sameLength.trans first.sameLength
  pixels column row := by
    rw [rest.pixels, first.pixels]
    by_cases here : left ≤ column ∧ column < left + across ∧ top ≤ row ∧ row < top + (down + 1)
    · rw [if_pos here]
      by_cases under : top + 1 ≤ row
      · rw [if_pos (by omega)]
      · rw [if_neg (by omega), if_pos (by omega)]
    · rw [if_neg here, if_neg (by omega), if_neg (by omega)]

def dataPixel (x y width : UInt16) (data : List UInt8) (column row : Nat) : Option (List UInt8) :=
  some (pixelAt data ((row - y.toNat) * width.toNat + (column - x.toNat)))

theorem rows_fit {stride start across row rows : Nat} (fits : start + across ≤ stride)
    (inside : row < rows) : row * stride + start + across ≤ stride * rows := by
  have below := Nat.mul_le_mul_right stride (Nat.succ_le_of_lt inside)
  rw [Nat.succ_mul] at below
  rw [Nat.mul_comm stride rows]
  omega

-- A row of a rectangle inside the framebuffer is written, and nothing else.
theorem writeRow_replaces {data rgba : List UInt8} {row : Nat}
    (whole : rgba.length = framebuffer.width.toNat * framebuffer.height.toNat * 4)
    (length : data.length = width.toNat * height.toNat * 4)
    (inside : Inside framebuffer x y width height) (below : row < height.toNat) :
    ∃ next, framebuffer.writeRow x y width data rgba row = .ok next ∧
      Replaces { framebuffer with rgba := rgba } { framebuffer with rgba := next } x.toNat
        (y.toNat + row) width.toNat 1 (dataPixel x y width data) := by
  obtain ⟨across, down⟩ := inside
  have lower : y.toNat + row < framebuffer.height.toNat := by omega
  have fits := rows_fit across lower
  have enough := rows_fit (Nat.le_of_eq (Nat.zero_add width.toNat)) below
  rw [Nat.add_zero] at enough
  have read : slice data (row * width.toNat * 4) (row * width.toNat * 4 + width.toNat * 4) =
      .ok ((data.drop (row * width.toNat * 4)).take (width.toNat * 4)) := by
    rw [slice, if_pos (by omega), Nat.add_sub_cancel_left]
  have taken : ((data.drop (row * width.toNat * 4)).take (width.toNat * 4)).length =
      width.toNat * 4 := by
    rw [List.length_take, List.length_drop]
    omega
  have wrote : framebuffer.writeRow x y width data rgba row =
      .ok (splice rgba (((y.toNat + row) * framebuffer.width.toNat + x.toNat) * 4)
        ((data.drop (row * width.toNat * 4)).take (width.toNat * 4))) := by
    unfold writeRow rowStart
    dsimp only
    rw [read]
    change copyFromSlice _ _ _ _ = _
    rw [copyFromSlice, if_pos ⟨by omega, by omega⟩, splice, taken]
  refine ⟨_, wrote, rfl, rfl, splice_length (by omega), fun column line => ?_⟩
  unfold pixel
  dsimp only
  by_cases seen : column < framebuffer.width.toNat ∧ line < framebuffer.height.toNat
  · have place := @index_in_row _ _ line (y.toNat + row) _ _ seen.1 across
    rw [if_pos seen, if_pos seen, pixelAt_splice taken (by omega)]
    by_cases here : x.toNat ≤ column ∧ column < x.toNat + width.toNat ∧ y.toNat + row ≤ line ∧
        line < y.toNat + row + 1
    · obtain rfl : line = y.toNat + row := by omega
      rw [if_pos here, if_pos (place.mpr ⟨rfl, here.1, here.2.1⟩), dataPixel,
        pixelAt_cut (by omega)]
      congr 2
      rw [Nat.add_sub_cancel_left y.toNat row]
      omega
    · rw [if_neg here, if_neg fun range => here (by have := place.mp range; omega)]
  · rw [if_neg seen, if_neg seen, if_neg (by omega)]

theorem writeRows_replaces {data : List UInt8}
    (length : data.length = width.toNat * height.toNat * 4)
    (inside : Inside framebuffer x y width height) (first count : Nat)
    (fits : first + count ≤ height.toNat) {rgba : List UInt8}
    (whole : rgba.length = framebuffer.width.toNat * framebuffer.height.toNat * 4) :
    ∃ after, framebuffer.writeRows x y width data rgba (List.range' first count) = (after, .ok ()) ∧
      Replaces { framebuffer with rgba := rgba } { framebuffer with rgba := after } x.toNat
        (y.toNat + first) width.toNat count (dataPixel x y width data) := by
  induction count generalizing first rgba with
  | zero => exact ⟨rgba, rfl, replaces_nothing _ _ _ _ _⟩
  | succ count ih =>
    obtain ⟨next, wrote, row⟩ := writeRow_replaces whole length inside (by omega : first < height.toNat)
    obtain ⟨after, rest, below⟩ := ih (first + 1) (by omega) (row.sameLength.trans whole)
    refine ⟨after, ?_, row.below below⟩
    rw [List.range'_succ, writeRows, wrote]
    exact rest

theorem readRows_pixels
    (whole : framebuffer.rgba.length = framebuffer.width.toNat * framebuffer.height.toNat * 4)
    (inside : Inside framebuffer x y width height) (count : Nat) (fits : count ≤ height.toNat) :
    ∃ pixels, framebuffer.readRows x y width count = .ok pixels ∧
      pixels.length = count * width.toNat * 4 ∧ ∀ row column, row < count → column < width.toNat →
        pixelAt pixels (row * width.toNat + column) = pixelAt framebuffer.rgba
            ((y.toNat + row) * framebuffer.width.toNat + x.toNat + column) := by
  obtain ⟨across, down⟩ := inside
  induction count with
  | zero => exact ⟨[], rfl, (by simp), fun row column none => absurd none (Nat.not_lt_zero _)⟩
  | succ count ih =>
    obtain ⟨pixels, read, length, same⟩ := ih (by omega)
    have room : y.toNat + count < framebuffer.height.toNat := by omega
    have bound := rows_fit across room
    have bytes : slice framebuffer.rgba (framebuffer.rowStart x y count)
        (framebuffer.rowStart x y count + width.toNat * 4) =
          .ok ((framebuffer.rgba.drop (framebuffer.rowStart x y count)).take (width.toNat * 4)) := by
      unfold rowStart
      rw [slice, if_pos (by omega), Nat.add_sub_cancel_left]
    refine ⟨pixels ++
      (framebuffer.rgba.drop (framebuffer.rowStart x y count)).take (width.toNat * 4), ?_, ?_, ?_⟩
    · unfold readRows at read ⊢
      rw [List.range_succ, List.foldlM_append, read]
      simp [bytes, bind, Except.bind, pure, Except.pure]
    · unfold rowStart
      rw [List.length_append, length, List.length_take, List.length_drop, Nat.succ_mul]
      omega
    · intro row column above left
      rcases Nat.lt_or_eq_of_le (Nat.le_of_lt_succ above) with earlier | rfl
      · have before := Nat.mul_le_mul_right width.toNat (Nat.succ_le_of_lt earlier)
        rw [Nat.succ_mul] at before
        rw [pixelAt_append_left length (by omega), same row column earlier left]
      · rw [pixelAt_append_right length (by omega), Nat.add_sub_cancel_left,
          rowStart, pixelAt_cut left]

end Rows

/-! ## The calls -/

/-- A call on a buffer does all or nothing: it returns an error and the buffer is as it was, or
it succeeds and a rectangle has its new content. -/
def Exact (before : RgbaFramebuffer) (outcome : RgbaFramebuffer × Except Fault Unit)
    (x y width height : UInt16) (content : Nat → Nat → Option (List UInt8)) : Prop :=
  (∃ message, outcome = (before, .error (.error message))) ∨
    outcome.2 = .ok () ∧
      Replaces before outcome.1 x.toNat y.toNat width.toNat height.toNat content

/-- The pixel of a source rectangle that stands where one of the destination does. -/
def sourcePixel (framebuffer : RgbaFramebuffer) (srcX srcY dstX dstY : UInt16)
    (column row : Nat) : Option (List UInt8) :=
  framebuffer.pixel (srcX.toNat + (column - dstX.toNat)) (srcY.toNat + (row - dstY.toNat))

section Calls

variable (canvas : Canvas) {x y width height srcX srcY : UInt16}

theorem patchInPlace_inside {data : List UInt8}
    (length : data.length = width.toNat * height.toNat * 4)
    (inside : Inside canvas.framebuffer x y width height) :
    (canvas.framebuffer.patchRgbaRectInPlace x y width height data).2 = .ok () ∧
      Replaces canvas.framebuffer (canvas.framebuffer.patchRgbaRectInPlace x y width height data).1
        x.toNat y.toNat width.toNat height.toNat (dataPixel x y width data) := by
  obtain ⟨after, wrote, replaces⟩ := writeRows_replaces length inside 0 height.toNat
    (Nat.le_of_eq (Nat.zero_add _)) canvas.whole
  rw [← List.range_eq_range'] at wrote
  unfold patchRgbaRectInPlace
  rw [patchChecks_of_inside length inside]
  dsimp only
  rw [wrote]
  exact ⟨rfl, replaces⟩

theorem patch_exact (data : List UInt8) (shown : Unsaturated canvas.framebuffer x y width height) :
    Exact canvas.framebuffer (canvas.framebuffer.patchRgbaRectInPlace x y width height data)
      x y width height (dataPixel x y width data) := by
  cases checks : canvas.framebuffer.patchChecks x y width height data with
  | error fault =>
    obtain ⟨message, rfl⟩ := patchChecks_refuses _ _ _ _ _ data fault checks
    left
    refine ⟨message, ?_⟩
    unfold patchRgbaRectInPlace
    rw [checks]
  | ok _ =>
    obtain ⟨length, inside⟩ := patchChecks_inside shown checks
    exact Or.inr (patchInPlace_inside canvas length inside)

theorem copy_exact (src : Unsaturated canvas.framebuffer srcX srcY width height)
    (dst : Unsaturated canvas.framebuffer x y width height) :
    Exact canvas.framebuffer (canvas.framebuffer.copyRectInPlace srcX srcY x y width height)
      x y width height (sourcePixel canvas.framebuffer srcX srcY x y) := by
  cases checks : canvas.framebuffer.copyChecks srcX srcY x y width height with
  | error fault =>
    obtain ⟨message, rfl⟩ := copyChecks_refuses _ _ _ _ _ srcX srcY fault checks
    left
    refine ⟨message, ?_⟩
    unfold copyRectInPlace
    rw [checks]
  | ok _ =>
    obtain ⟨source, onto⟩ := copyChecks_inside src dst checks
    obtain ⟨pixels, read, length, same⟩ :=
      readRows_pixels canvas.whole source height.toNat (Nat.le_refl _)
    rw [Nat.mul_comm height.toNat] at length
    obtain ⟨done, replaces⟩ := patchInPlace_inside canvas length onto
    have patched : canvas.framebuffer.copyRectInPlace srcX srcY x y width height =
        canvas.framebuffer.patchRgbaRectInPlace x y width height pixels := by
      unfold copyRectInPlace
      rw [checks]
      dsimp only
      rw [read]
    rw [patched]
    refine Or.inr ⟨done, replaces.sameWidth, replaces.sameHeight, replaces.sameLength, ?_⟩
    intro column row
    rw [replaces.pixels]
    by_cases within : x.toNat ≤ column ∧ column < x.toNat + width.toNat ∧ y.toNat ≤ row ∧
        row < y.toNat + height.toNat
    · obtain ⟨across, down⟩ := source
      rw [if_pos within, if_pos within, dataPixel, sourcePixel, pixel,
        if_pos ⟨by omega, by omega⟩, same _ _ (by omega) (by omega), Nat.add_assoc]
    · rw [if_neg within, if_neg within]

end Calls

/-- Patches and copies whose sums are not cut off are exact on every framebuffer. -/
theorem rectangles_exact (canvas : Canvas) (x y width height srcX srcY : UInt16)
    (data : List UInt8) (dst : Unsaturated canvas.framebuffer x y width height) :
    Exact canvas.framebuffer (canvas.framebuffer.patchRgbaRectInPlace x y width height data)
        x y width height (dataPixel x y width data) ∧
      (Unsaturated canvas.framebuffer srcX srcY width height →
        Exact canvas.framebuffer (canvas.framebuffer.copyRectInPlace srcX srcY x y width height)
          x y width height (sourcePixel canvas.framebuffer srcX srcY x y)) :=
  ⟨patch_exact canvas data dst, fun src => copy_exact canvas src dst⟩

theorem small_rectangles_exact :
    Exact (RgbaFramebuffer.new 2 1)
        ((RgbaFramebuffer.new 2 1).patchRgbaRectInPlace 1 0 1 1 [1, 2, 3, 4])
        1 0 1 1 (dataPixel 1 0 1 [1, 2, 3, 4]) ∧
      Exact (RgbaFramebuffer.new 2 1) ((RgbaFramebuffer.new 2 1).copyRectInPlace 0 0 1 0 1 1)
        1 0 1 1 (sourcePixel (RgbaFramebuffer.new 2 1) 0 0 1 0) := by
  have shown (x : UInt16) : Unsaturated (newCanvas 2 1).framebuffer x 0 1 1 :=
    ⟨Or.inl (by decide), Or.inl (by decide)⟩
  obtain ⟨patched, copied⟩ := rectangles_exact (newCanvas 2 1) 1 0 1 1 0 0 [1, 2, 3, 4] (shown 1)
  exact ⟨patched, copied (shown 0)⟩

theorem patch_first_row_fails (framebuffer : RgbaFramebuffer) {x y width : UInt16}
    {data : List UInt8} {fault : Fault} (passed : framebuffer.patchChecks x y width 1 data = .ok ())
    (fails : framebuffer.writeRow x y width data framebuffer.rgba 0 = .error fault) :
    (framebuffer.patchRgbaRectInPlace x y width 1 data).2 = .error fault := by
  have single : List.range (1 : UInt16).toNat = [0] := rfl
  unfold patchRgbaRectInPlace
  rw [passed, single]
  dsimp only
  rw [writeRows, fails]

theorem patch_right_of_last_row (framebuffer : RgbaFramebuffer) (width : framebuffer.width = 65535)
    (height : framebuffer.height = 1) (length : framebuffer.rgba.length = 65535 * 1 * 4) :
    (framebuffer.patchRgbaRectInPlace 65535 0 1 1 [1, 2, 3, 4]).2 = .error .panic := by
  have passed : framebuffer.patchChecks 65535 0 1 1 [1, 2, 3, 4] = .ok () := by
    unfold patchChecks
    rw [width, height]
    rfl
  have panics : framebuffer.writeRow 65535 0 1 [1, 2, 3, 4] framebuffer.rgba 0 =
      .error .panic := by
    unfold writeRow rowStart copyFromSlice
    rw [length, width]
    rfl
  exact patch_first_row_fails framebuffer passed panics

/-- A patch stores its data as it is, and a sum that is cut off at the largest `u16` hides that
the rectangle is wider than the framebuffer. -/
theorem patch_not_swapped_and_saturated :
    ¬Exact (RgbaFramebuffer.new 1 1)
        ((RgbaFramebuffer.new 1 1).patchRgbaRectInPlace 0 0 1 1 [1, 2, 3, 0])
        0 0 1 1 (fun _ _ => some [3, 2, 1, 255]) ∧
      ((RgbaFramebuffer.new 65535 1).patchRgbaRectInPlace 65535 0 1 1 [1, 2, 3, 4]).2 =
        .error .panic := by
  constructor
  · have patched : (RgbaFramebuffer.new 1 1).patchRgbaRectInPlace 0 0 1 1 [1, 2, 3, 0] =
        (⟨1, 1, [1, 2, 3, 0]⟩, .ok ()) := by
      decide +kernel
    rw [patched]
    rintro (⟨message, refused⟩ | ⟨_, replaces⟩)
    · cases congrArg Prod.snd refused
    · exact absurd (replaces.pixels 0 0) (by decide)
  · exact patch_right_of_last_row _ rfl rfl (List.length_replicate)

end Onetcli.Vnc
