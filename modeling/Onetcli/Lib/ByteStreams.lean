import Mathlib.Data.List.Basic

/-!
Streams that deliver their bytes in segments of any size, as a socket does. A read
of a given size goes on until it has that many bytes; it depends on the bytes and
not on where they were cut.
-/

namespace Onetcli.ByteStreams

variable {Byte : Type}

inductive Ending where
  | eof
  | failed (err : String)
  deriving DecidableEq

inductive ReadError where
  | eof
  | unexpectedEof
  | failed (err : String)
  deriving DecidableEq

structure Stream (Byte : Type) where
  segments : List (List Byte)
  ending : Ending

def Stream.bytes (stream : Stream Byte) : List Byte := stream.segments.flatten

/-- The error of a read that had `got` when the stream ended. -/
def shortRead (ending : Ending) (got : List Byte) : ReadError :=
  match ending with
  | .failed err => .failed err
  | .eof => if got.isEmpty then .eof else .unexpectedEof

/-- Read until `need` more bytes have come; the answer and the segments that are left. -/
def fill (ending : Ending) : List Byte → Nat → List (List Byte) →
    Except ReadError (List Byte) × List (List Byte)
  | got, 0, segments => (.ok got, segments)
  | got, _ + 1, [] => (.error (shortRead ending got), [])
  | got, need + 1, segment :: rest =>
    if segment.length ≤ need + 1 then
      fill ending (got ++ segment) (need + 1 - segment.length) rest
    else (.ok (got ++ segment.take (need + 1)), segment.drop (need + 1) :: rest)

def readFull (size : Nat) (stream : Stream Byte) :
    Except ReadError (List Byte) × Stream Byte :=
  let answer := fill stream.ending [] size stream.segments
  (answer.1, { stream with segments := answer.2 })

theorem fill_enough (ending : Ending) (segments : List (List Byte)) (got : List Byte) (need : Nat)
    (enough : need ≤ segments.flatten.length) :
    (fill ending got need segments).1 = .ok (got ++ segments.flatten.take need) ∧
      (fill ending got need segments).2.flatten = segments.flatten.drop need := by
  induction segments generalizing got need with
  | nil =>
    have none : need = 0 := by simpa using enough
    subst none
    simp [fill]
  | cons segment rest ih =>
    cases need with
    | zero => simp [fill]
    | succ need =>
      rw [List.flatten_cons, List.length_append] at enough
      rw [fill, List.flatten_cons]
      split
      · rename_i fits
        have tail := ih (got ++ segment) (need + 1 - segment.length) (by omega)
        rw [List.take_append, List.take_of_length_le fits, List.drop_append,
          List.drop_eq_nil_of_le fits, List.nil_append, ← List.append_assoc]
        exact tail
      · rename_i exceeds
        have inside : need + 1 ≤ segment.length := by omega
        rw [List.take_append_of_le_length inside, List.drop_append_of_le_length inside,
          List.flatten_cons]
        exact ⟨rfl, rfl⟩

theorem fill_short (ending : Ending) (segments : List (List Byte)) (got : List Byte) (need : Nat)
    (short : segments.flatten.length < need) :
    (fill ending got need segments).1 = .error (shortRead ending (got ++ segments.flatten)) := by
  induction segments generalizing got need with
  | nil =>
    cases need with
    | zero => omega
    | succ need => simp [fill]
  | cons segment rest ih =>
    rw [List.flatten_cons, List.length_append] at short
    cases need with
    | zero => omega
    | succ need =>
      rw [fill, if_pos (by omega), ih _ _ (by omega), List.append_assoc, List.flatten_cons]

theorem fill_consumes (ending : Ending) (segments : List (List Byte)) (got : List Byte)
    (need : Nat) : (fill ending got need segments).2.flatten.length ≤ segments.flatten.length ∧
      segments.flatten.length ≤ (fill ending got need segments).2.flatten.length + need := by
  by_cases enough : need ≤ segments.flatten.length
  · rw [(fill_enough ending segments got need enough).2, List.length_drop]
    omega
  · induction segments generalizing got need with
    | nil =>
      cases need with
      | zero => simp [fill]
      | succ need => simp [fill]
    | cons segment rest ih =>
      rw [List.flatten_cons, List.length_append] at enough ⊢
      cases need with
      | zero => omega
      | succ need =>
        rw [fill, if_pos (by omega)]
        have tail := ih (got ++ segment) (need + 1 - segment.length) (by omega)
        omega

variable {stream : Stream Byte}

theorem readFull_enough {size : Nat} (enough : size ≤ stream.bytes.length) :
    (readFull size stream).1 = .ok (stream.bytes.take size) ∧
      (readFull size stream).2.bytes = stream.bytes.drop size :=
  fill_enough stream.ending stream.segments [] size enough

theorem readFull_short {size : Nat} (short : stream.bytes.length < size) :
    (readFull size stream).1 = .error (shortRead stream.ending stream.bytes) :=
  fill_short stream.ending stream.segments [] size short

theorem readFull_consumes (size : Nat) (stream : Stream Byte) :
    (readFull size stream).2.bytes.length ≤ stream.bytes.length ∧
      stream.bytes.length ≤ (readFull size stream).2.bytes.length + size :=
  fill_consumes stream.ending stream.segments [] size

theorem readFull_append {first rest : List Byte} (given : stream.bytes = first ++ rest) :
    (readFull first.length stream).1 = .ok first ∧
      (readFull first.length stream).2.bytes = rest := by
  have enough : first.length ≤ stream.bytes.length := by
    rw [given, List.length_append]
    exact Nat.le_add_right _ _
  have read := readFull_enough enough
  rw [given, List.take_left, List.drop_left] at read
  exact read

theorem readFull_ok {size : Nat} {bytes : List Byte} (read : (readFull size stream).1 = .ok bytes) :
    bytes.length = size ∧ stream.bytes = bytes ++ (readFull size stream).2.bytes := by
  by_cases enough : size ≤ stream.bytes.length
  · have full := readFull_enough enough
    rw [full.1] at read
    cases read
    rw [full.2, List.take_append_drop]
    exact ⟨List.length_take_of_le enough, rfl⟩
  · rw [readFull_short (by omega)] at read
    cases read

end Onetcli.ByteStreams
