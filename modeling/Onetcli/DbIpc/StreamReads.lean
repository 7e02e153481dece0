import Onetcli.DbIpc.Data
import Onetcli.Lib.ByteCodes
import Onetcli.Lib.Paging

/-!
`stream/read` with the words of the machine: `streamReadChunk` adds a converted `max_bytes` to
the offset before it looks at the length, in an `int` of 32 or 64 bits. A panic is not recovered,
so it ends the process.
-/

namespace Onetcli.DbIpc

open Runs Paging

/-- The architectures of scripts/build-go-driver.sh by the size of an `int`. -/
inductive Arch where
  | word32
  | word64
  deriving DecidableEq

def Arch.maxInt : Arch → Nat
  | .word32 => 0x7FFFFFFF
  | .word64 => 0x7FFFFFFFFFFFFFFF

/-- The `int` that a result of arithmetic or of a conversion wraps around to. -/
def Arch.wrap (arch : Arch) (value : Int) : Int := Int.bmod value (2 * (arch.maxInt + 1))

/-- The length of a slice is an `int`. -/
structure StoredBytes (arch : Arch) where
  data : List UInt8
  fits : data.length ≤ arch.maxInt

def readLimit (maxBytes : Option UInt32) : Nat :=
  let maxBytes := (maxBytes.getD 0).toNat
  if maxBytes = 0 then 64 * 1024 else maxBytes

/-- `streamReadChunk`; the slice expression panics outside `0 ≤ offset ≤ end ≤ len`. -/
def readChunk (arch : Arch) (stream : StreamState) (maxBytes : Option UInt32) :
    Option (List UInt8 × Bool × StreamState) :=
  let stop := arch.wrap (stream.offset + arch.wrap (readLimit maxBytes))
  let stop := if stop > stream.data.length then (stream.data.length : Int) else stop
  if stream.offset ≤ stop then
    some ((stream.data.take stop.toNat).drop stream.offset,
      decide (stream.data.length ≤ stop.toNat), { stream with offset := stop.toNat })
  else none

/-- One stream of the server: its entry, until the read that is done deletes it. -/
structure Reader where
  stream : Option StreamState
  crashed : Bool := false

inductive ReadReply where
  | chunk (data : List Char) (done : Bool)
  | unknownStream
  | panic
  /-- The process has ended. -/
  | unanswered
  deriving DecidableEq

def reader (arch : Arch) : Machine Reader (Option UInt32) ReadReply where
  step state maxBytes :=
    if state.crashed then (state, .unanswered) else
      match state.stream with
      | none => (state, .unknownStream)
      | some stream =>
        match readChunk arch stream maxBytes with
        | none => ({ state with crashed := true }, .panic)
        | some (chunk, done, stream) =>
          ({ state with stream := if done then none else some stream },
            .chunk (Base64.encode chunk) done)

def ReadReply.bytes : ReadReply → List UInt8
  | .chunk data _ => (Base64.decode data).getD []
  | _ => []

def ReadReply.done : ReadReply → Bool
  | .chunk _ done => done
  | .unknownStream => true
  | _ => false

structure ReadsWhole (data : List UInt8) (requests : List (Option UInt32))
    (replies : List ReadReply) : Prop where
  safe : .panic ∉ replies
  order : replies.flatMap ReadReply.bytes <+: data
  whole : ∀ front text back, replies = front ++ .chunk text true :: back →
    (front ++ [.chunk text true]).flatMap ReadReply.bytes = data
  sized : List.Forall₂ (fun request reply => reply.bytes.length ≤ readLimit request) requests replies
  moves : ∀ reply ∈ replies, reply.done = false → reply.bytes ≠ []

/-- The sum that the code forms is an `int`. -/
def SumFits (arch : Arch) (state : Reader) (maxBytes : Option UInt32) : Prop :=
  ∀ stream, state.stream = some stream → stream.offset + readLimit maxBytes ≤ arch.maxInt

/-! ## One read -/

theorem readLimit_bounds (maxBytes : Option UInt32) :
    0 < readLimit maxBytes ∧ readLimit maxBytes < 0x100000000 := by
  have bounded := (maxBytes.getD 0).toNat_lt
  unfold readLimit
  dsimp only
  split <;> omega

theorem wrap_add_wrap (arch : Arch) (first second : Int) :
    arch.wrap (first + arch.wrap second) = arch.wrap (first + second) :=
  Int.add_bmod_bmod

theorem wrap_of_le (arch : Arch) {value : Nat} (fits : value ≤ arch.maxInt) :
    arch.wrap value = value := by
  cases arch <;> simp only [Arch.wrap, Arch.maxInt, Int.bmod_def] at fits ⊢ <;>
    split <;> omega

theorem wrap_of_gt (arch : Arch) {offset limit : Nat} (inside : offset ≤ arch.maxInt)
    (small : limit < 0x100000000) (past : arch.maxInt < offset + limit) :
    arch.wrap (offset + limit : Nat) < offset := by
  cases arch <;> simp only [Arch.wrap, Arch.maxInt, Int.bmod_def] at inside past ⊢ <;>
    split <;> omega

section Chunk

variable {arch : Arch} {stream : StreamState} {maxBytes : Option UInt32}

theorem readChunk_of_fits (fits : stream.offset + readLimit maxBytes ≤ arch.maxInt)
    (inside : stream.offset ≤ stream.data.length) : readChunk arch stream maxBytes =
      some (streamReadChunk stream (maxBytes.getD 0).toNat) := by
  have sum : arch.wrap ((stream.offset : Int) + (readLimit maxBytes : Int)) =
      ((stream.offset + readLimit maxBytes : Nat) : Int) := by
    rw [← wrap_of_le arch fits, Int.natCast_add]
  unfold readChunk
  rw [wrap_add_wrap, sum]
  have stop : (if ((stream.offset + readLimit maxBytes : Nat) : Int) > stream.data.length then
      (stream.data.length : Int) else ((stream.offset + readLimit maxBytes : Nat) : Int)) =
        ((min (stream.offset + readLimit maxBytes) stream.data.length : Nat) : Int) := by
    split <;> omega
  dsimp only
  rw [stop, if_pos (by omega)]
  rfl

theorem readChunk_of_overflow (inside : stream.offset ≤ stream.data.length)
    (held : stream.data.length ≤ arch.maxInt)
    (past : arch.maxInt < stream.offset + readLimit maxBytes) :
    readChunk arch stream maxBytes = none := by
  have below := wrap_of_gt arch (Nat.le_trans inside held) (readLimit_bounds maxBytes).2 past
  unfold readChunk
  rw [wrap_add_wrap, ← Int.natCast_add]
  generalize arch.wrap ((stream.offset + readLimit maxBytes : Nat) : Int) = stop at below
  dsimp only
  rw [if_neg]
  split <;> omega

end Chunk

/-! ## Runs of reads -/

/-- What the stream still holds. -/
def Reader.left (state : Reader) : List UInt8 :=
  match state.stream with
  | none => []
  | some stream => stream.data.drop stream.offset

structure StreamReading (arch : Arch) (state : Reader) : Prop where
  runs : state.crashed = false
  inside : ∀ stream, state.stream = some stream → stream.offset ≤ stream.data.length
  held : ∀ stream, state.stream = some stream → stream.data.length ≤ arch.maxInt

def Reader.opened {arch : Arch} (stored : StoredBytes arch) : Reader :=
  { stream := some { data := stored.data } }

theorem reading_opened {arch : Arch} (stored : StoredBytes arch) :
    StreamReading arch (Reader.opened stored) where
  runs := rfl
  inside stream same := by
    obtain rfl := Option.some.inj same
    exact Nat.zero_le _
  held stream same := by
    obtain rfl := Option.some.inj same
    exact stored.fits

section Steps

variable {arch : Arch} {state : Reader} {maxBytes : Option UInt32}

theorem step_gone (reading : StreamReading arch state) (gone : state.stream = none) :
    (reader arch).step state maxBytes = (state, .unknownStream) := by
  simp [reader, reading.runs, gone]

-- A read whose sum is an `int`: how far it gets, and what it replies.
theorem step_reads {stream : StreamState} (reading : StreamReading arch state)
    (here : state.stream = some stream) (fits : SumFits arch state maxBytes) :
    (reader arch).step state maxBytes = ({ state with
        stream := if stream.data.length ≤ stream.offset + readLimit maxBytes then none
          else some { stream with offset := stream.offset + readLimit maxBytes } },
        .chunk (Base64.encode ((stream.data.drop stream.offset).take (readLimit maxBytes)))
          (decide (stream.data.length ≤ stream.offset + readLimit maxBytes))) := by
  have inside := reading.inside stream here
  have chunk := readChunk_of_fits (fits stream here) inside
  simp only [reader, reading.runs, here, chunk, streamReadChunk]
  change (_, _) = _
  have limit : (if (maxBytes.getD 0).toNat = 0 then 64 * 1024 else (maxBytes.getD 0).toNat) =
      readLimit maxBytes := rfl
  have taken (stop : Nat) : (stream.data.take stop).drop stream.offset =
      (stream.data.drop stream.offset).take (stop - stream.offset) := List.drop_take
  by_cases ends : stream.data.length ≤ stream.offset + readLimit maxBytes
  · have rest : (stream.data.drop stream.offset).take (stream.data.length - stream.offset) =
        (stream.data.drop stream.offset).take (readLimit maxBytes) := by
      rw [List.take_of_length_le (by simp), List.take_of_length_le (by simp; omega)]
    simp only [limit, taken, Nat.min_eq_right ends, rest]
    simp [ends]
  · have short : stream.offset + readLimit maxBytes ≤ stream.data.length := by omega
    simp only [limit, taken, Nat.min_eq_left short, Nat.add_sub_cancel_left]
    simp [ends]

theorem step_panics (reading : StreamReading arch state) (past : ¬SumFits arch state maxBytes) :
    ((reader arch).step state maxBytes).2 = .panic := by
  unfold SumFits at past
  push Not at past
  obtain ⟨stream, here, past⟩ := past
  have none := readChunk_of_overflow (reading.inside stream here) (reading.held stream here) past
  simp [reader, reading.runs, here, none]

end Steps

theorem reader_pager (arch : Arch) : Pager (reader arch) Reader.left ReadReply.bytes ReadReply.done
      (fun state => state.stream = none) (StreamReading arch) (SumFits arch) where
  kept state maxBytes reading fits := by
    cases here : state.stream with
    | none =>
      rw [step_gone reading here]
      exact reading
    | some stream =>
      rw [step_reads reading here fits]
      have inside := reading.inside stream here
      have held := reading.held stream here
      refine ⟨reading.runs, ?_, ?_⟩
      · intro next same
        dsimp only at same
        split at same
        · cases same
        · obtain rfl := Option.some.inj same
          dsimp only
          omega
      · intro next same
        dsimp only at same
        split at same
        · cases same
        · obtain rfl := Option.some.inj same
          exact held
  split state maxBytes reading fits := by
    cases here : state.stream with
    | none =>
      rw [step_gone reading here]
      rfl
    | some stream =>
      rw [step_reads reading here fits]
      simp only [Reader.left, here, ReadReply.bytes, Base64.decode_encode, Option.getD_some]
      by_cases ends : stream.data.length ≤ stream.offset + readLimit maxBytes
      · simp only [if_pos ends]
        rw [List.take_of_length_le (by simp; omega), List.append_nil]
      · simp only [if_neg ends]
        rw [← List.drop_drop, List.take_append_drop]
  closes state maxBytes reading fits ends := by
    cases here : state.stream with
    | none =>
      rw [step_gone reading here]
      exact here
    | some stream =>
      rw [step_reads reading here fits] at ends ⊢
      simp only [ReadReply.done, decide_eq_true_eq] at ends
      exact if_pos ends
  stays state maxBytes reading _ gone := by
    rw [step_gone reading gone]
    rfl
  quiet state maxBytes reading _ gone := by
    rw [step_gone reading gone]
    rfl

section Replies

variable {arch : Arch} {state : Reader} {maxBytes : Option UInt32}

theorem step_safe (reading : StreamReading arch state) (fits : SumFits arch state maxBytes) :
    ((reader arch).step state maxBytes).2 ≠ .panic := by
  cases here : state.stream with
  | none =>
    rw [step_gone reading here]
    exact ReadReply.noConfusion
  | some stream =>
    rw [step_reads reading here fits]
    exact ReadReply.noConfusion

theorem step_sized (reading : StreamReading arch state) (fits : SumFits arch state maxBytes) :
    ((reader arch).step state maxBytes).2.bytes.length ≤ readLimit maxBytes := by
  cases here : state.stream with
  | none =>
    rw [step_gone reading here]
    exact Nat.zero_le _
  | some stream =>
    rw [step_reads reading here fits]
    simp only [ReadReply.bytes, Base64.decode_encode, Option.getD_some]
    exact List.length_take_le _ _

theorem step_moves (reading : StreamReading arch state) (fits : SumFits arch state maxBytes)
    (more : ((reader arch).step state maxBytes).2.done = false) :
    ((reader arch).step state maxBytes).2.bytes ≠ [] := by
  cases here : state.stream with
  | none =>
    rw [step_gone reading here] at more
    cases more
  | some stream =>
    have positive := (readLimit_bounds maxBytes).1
    rw [step_reads reading here fits] at more ⊢
    simp only [ReadReply.done, decide_eq_false_iff_not] at more
    simp only [ReadReply.bytes, Base64.decode_encode, Option.getD_some]
    apply List.ne_nil_of_length_pos
    rw [List.length_take, List.length_drop]
    omega

end Replies

theorem respects_of_safe {arch : Arch} {state : Reader} {requests : List (Option UInt32)}
    (reading : StreamReading arch state) (safe : .panic ∉ ((reader arch).run state requests).2) :
    (reader arch).Respects (SumFits arch) state requests := by
  induction requests generalizing state with
  | nil => trivial
  | cons request rest ih =>
    rw [Machine.run] at safe
    obtain ⟨here, later⟩ := not_or.mp (mt List.mem_cons.mpr safe)
    have fits : SumFits arch state request := by
      by_contra past
      exact here (step_panics reading past).symm
    exact ⟨fits, ih ((reader_pager arch).kept state request reading fits) later⟩

/-- The reads of a stream are safe and give what was stored exactly when the offset and the
limit of every read add up to an `int`. -/
theorem reads_whole_iff (arch : Arch) (stored : StoredBytes arch)
    (requests : List (Option UInt32)) :
    ReadsWhole stored.data requests ((reader arch).run (Reader.opened stored) requests).2 ↔
      (reader arch).Respects (SumFits arch) (Reader.opened stored) requests := by
  have start := reading_opened stored
  have pager := reader_pager arch
  constructor
  · intro reads
    exact respects_of_safe start reads.safe
  · intro each
    exact {
      safe := fun panics =>
        @Pager.run_all _ _ _ _ _ _ _ _ _ _ _ pager _ _ (· ≠ .panic) (fun _ _ => step_safe)
          start each _ panics rfl
      order := pager.pages_prefix start each
      whole := fun front text back ran =>
        pager.last_complete (fun state _ gone => by rw [Reader.left, gone]) start each ran rfl
      sized := pager.run_each (fun _ _ => step_sized) start each
      moves := pager.run_all (fun _ _ => step_moves) start each }

def storedByte : StoredBytes .word32 := { data := [1], fits := by decide }

/-- The largest `max_bytes` is converted to -1, which is no end of a slice. -/
theorem largest_limit_panics :
    ((reader .word32).run (Reader.opened storedByte) [some 0xFFFFFFFF]).2 = [.panic] ∧
      ¬ReadsWhole storedByte.data [some 0xFFFFFFFF]
        ((reader .word32).run (Reader.opened storedByte) [some 0xFFFFFFFF]).2 := by
  have panics : ((reader .word32).run (Reader.opened storedByte) [some 0xFFFFFFFF]).2 =
      [.panic] := by decide +kernel
  refine ⟨panics, fun reads => ?_⟩
  rw [panics] at reads
  exact reads.safe List.mem_cons_self

end Onetcli.DbIpc
