import Mathlib.Algebra.Group.Int.Defs
import Mathlib.Algebra.Group.Nat.Defs
import Onetcli.Lib.Paging

/-!
Results that are handed out from memory, `cursor/fetch` and `stream/read` of
OscarIpcServer.java and of GBase8sIpcServer.java. An `int` has 32 bits and wraps, and a
list or an array has at most 2^31 - 1 elements. The bytes of a stream are sent in Base64,
which is left out.
-/

namespace Onetcli.JavaIpc

open Runs Paging

/-- A number as an `int`. -/
def toInt (value : Int) : Int := value.bmod (2 ^ 32)

/-- `asInt` cuts a number that is too large down to 32 bits. -/
def optionalInt (value : Option UInt32) : Option Int := value.map fun value => toInt value.toNat

/-- How many elements a request asks for, as the server reads it. -/
def limitOf (default : Nat) (n : Option UInt32) : Int :=
  match optionalInt n with
  | none => default
  | some n => max 0 n

/-- A list or an array, `offset` elements of which were handed out. -/
structure Buffered (Item : Type) where
  data : List Item
  offset : Nat
  small : data.length < 2 ^ 31
  within : offset ≤ data.length

inductive BufferReply (Item : Type) where
  | page (items : List Item) (done : Bool)
  | unknown
  | thrown

variable {Item : Type}

def BufferReply.items : BufferReply Item → List Item
  | .page items _ => items
  | .unknown | .thrown => []

/-- What is unknown has been read to its end. -/
def BufferReply.done : BufferReply Item → Bool
  | .page _ done => done
  | .unknown => true
  | .thrown => false

def BufferReply.isThrown : BufferReply Item → Bool
  | .thrown => true
  | _ => false

namespace Buffered

variable (buffer : Buffered Item)

def left : List Item := buffer.data.drop buffer.offset

def isDone : Bool := buffer.data.length ≤ buffer.offset

/-- The sum is taken before it is cut to the length. Where the end lies before the offset,
`subList` and the array of a negative size throw. -/
def take (n : Int) : Option (List Item × Buffered Item) :=
  let stop := min (buffer.data.length : Int) (toInt (buffer.offset + n))
  if (buffer.offset : Int) ≤ stop then
    some ((buffer.data.take stop.toNat).drop buffer.offset,
      { buffer with offset := stop.toNat, within := by omega })
  else none

end Buffered

/-- A buffer that is read to its end is forgotten if it is a stream. -/
def readBuffer (default : Nat) (forgets : Bool) (buffer : Option (Buffered Item))
    (n : Option UInt32) : Option (Buffered Item) × BufferReply Item :=
  match buffer with
  | none => (none, .unknown)
  | some buffer =>
    match buffer.take (limitOf default n) with
    | none => (some buffer, .thrown)
    | some (items, next) =>
      (if next.isDone && forgets then none else some next, .page items next.isDone)

def handleCursorFetch (cursor : Option (Buffered Item)) (n : Option UInt32) :
    Option (Buffered Item) × BufferReply Item :=
  readBuffer 500 false cursor n

def handleStreamRead (stream : Option (Buffered UInt8)) (maxBytes : Option UInt32) :
    Option (Buffered UInt8) × BufferReply UInt8 :=
  readBuffer 65536 true stream maxBytes

def reader (Item : Type) (default : Nat) (forgets : Bool) :
    Machine (Option (Buffered Item)) (Option UInt32) (BufferReply Item) where
  step := readBuffer default forgets

def cursorFetches (Row : Type) :
    Machine (Option (Buffered Row)) (Option UInt32) (BufferReply Row) where
  step := handleCursorFetch

def streamReads : Machine (Option (Buffered UInt8)) (Option UInt32) (BufferReply UInt8) where
  step := handleStreamRead

/-- What was not handed out yet. -/
def remaining (state : Option (Buffered Item)) : List Item := (state.map (·.left)).getD []

/-- How many elements a request asks for, as the client means it. -/
def asked (default : Nat) (n : Option UInt32) : Nat := (n.map (·.toNat)).getD default

/-- A request for elements gets some, or learns that there are no more. -/
def Moves (default : Nat) (n : Option UInt32) (reply : BufferReply Item) : Prop :=
  1 ≤ asked default n → reply.items ≠ [] ∨ reply.done = true

/-- A run hands the data out in pages. -/
structure Delivers (machine : Machine (Option (Buffered Item)) (Option UInt32) (BufferReply Item))
    (default : Nat) (state : Option (Buffered Item)) (requests : List (Option UInt32)) : Prop where
  calm : ∀ reply ∈ (machine.run state requests).2, reply.isThrown = false
  ordered : (machine.run state requests).2.flatMap BufferReply.items <+: remaining state
  bounded : List.Forall₂ (fun n reply => reply.items.length ≤ asked default n) requests
    (machine.run state requests).2
  moving : List.Forall₂ (Moves default) requests (machine.run state requests).2
  finished : ∀ front reply back, (machine.run state requests).2 = front ++ reply :: back →
    (reply.done = true ↔ (front ++ [reply]).flatMap BufferReply.items = remaining state)

/-- The sum of the offset and of what is asked for is an `int`. From 2^31 on the number itself
is none, which does no harm at the end only. -/
def Room (default : Nat) (state : Option (Buffered Item)) (n : Option UInt32) : Prop :=
  ∀ buffer ∈ state, buffer.offset + asked default n < 2 ^ 31 ∨
    (∃ value ∈ n, 2 ^ 31 ≤ value.toNat) ∧ buffer.offset = buffer.data.length

/-! ## Numbers -/

theorem toInt_small {value : Int} (low : 0 ≤ value) (high : value < 2 ^ 31) :
    toInt value = value := by
  rw [toInt]
  exact Int.bmod_eq_of_le (by omega) (by omega)

theorem toInt_large {value : Int} (low : 2 ^ 31 ≤ value) (high : value < 2 ^ 32) :
    toInt value = value - 2 ^ 32 := by
  have shifted : toInt value = (value - 2 ^ 32).bmod (2 ^ 32) := by
    have added := Int.add_bmod_right (value - (2 ^ 32 : Nat)) (2 ^ 32)
    rw [Int.sub_add_cancel] at added
    exact added
  rw [shifted]
  exact Int.bmod_eq_of_le (by omega) (by omega)

theorem limitOf_some (default : Nat) (n : UInt32) :
    limitOf default (some n) = ((if n.toNat < 2 ^ 31 then n.toNat else 0 : Nat) : Int) := by
  have bound := n.toNat_lt
  rw [limitOf, optionalInt]
  dsimp only [Option.map_some]
  split
  · rw [toInt_small (by omega) (by omega)]
    omega
  · rw [toInt_large (by omega) (by omega)]
    omega

/-! ## Taking -/

namespace Buffered

variable (buffer : Buffered Item)

theorem left_nil_iff : buffer.left = [] ↔ buffer.offset = buffer.data.length := by
  have within := buffer.within
  rw [left, List.drop_eq_nil_iff]
  omega

theorem isDone_iff : buffer.isDone = true ↔ buffer.left = [] := by
  rw [isDone, decide_eq_true_eq, left, List.drop_eq_nil_iff]

theorem take_forward {n : Int} {stop : Nat}
    (stops : min (buffer.data.length : Int) (toInt (buffer.offset + n)) = stop)
    (forward : buffer.offset ≤ stop) :
    ∃ next, buffer.take n = some ((buffer.data.take stop).drop buffer.offset, next) ∧
      next.left = buffer.data.drop stop := by
  have stopNat : (min (buffer.data.length : Int) (toInt (buffer.offset + n))).toNat = stop := by
    rw [stops]
    rfl
  rw [take]
  split
  · exact ⟨_, congrArg some (Prod.ext
      (congrArg (fun stop => (buffer.data.take stop).drop buffer.offset) stopNat) rfl),
      congrArg (fun stop => buffer.data.drop stop) stopNat⟩
  · rename_i behind
    rw [stops] at behind
    omega

theorem take_fits {n : Nat} (fits : buffer.offset + n < 2 ^ 31) :
    ∃ next, buffer.take n = some (buffer.left.take n, next) ∧ next.left = buffer.left.drop n := by
  have within := buffer.within
  have sum : toInt (buffer.offset + n) = buffer.offset + n :=
    toInt_small (by omega) (by omega)
  obtain ⟨next, taken, after⟩ := @Buffered.take_forward _ buffer n
    (min buffer.data.length (buffer.offset + n)) (by rw [sum]; omega) (by omega)
  refine ⟨next, ?_, ?_⟩
  · have same : (buffer.data.drop buffer.offset).take
        (min buffer.data.length (buffer.offset + n) - buffer.offset) =
          (buffer.data.drop buffer.offset).take n := by
      rw [List.take_eq_take_iff, List.length_drop]
      omega
    rw [taken, left, List.drop_take, same]
  · rw [after, left, List.drop_drop, List.drop_eq_drop_iff]
    omega

theorem take_wraps {n : Nat} (int : n < 2 ^ 31) (wraps : 2 ^ 31 ≤ buffer.offset + n) :
    buffer.take n = none := by
  have within := buffer.within
  have small := buffer.small
  have sum : toInt (buffer.offset + n) = buffer.offset + n - 2 ^ 32 :=
    toInt_large (by omega) (by omega)
  rw [take]
  split
  · rename_i forward
    rw [sum] at forward
    omega
  · rfl

end Buffered

/-! ## Pages -/

section Reader

variable {default : Nat} (forgets : Bool)

-- With room a request gives the elements that the client asks for.
theorem readBuffer_room {buffer : Buffered Item} {n : Option UInt32}
    (room : Room default (some buffer) n) : ∃ next, readBuffer default forgets (some buffer) n =
        (if next.isDone && forgets then none else some next,
          .page (buffer.left.take (asked default n)) next.isDone) ∧
      next.left = buffer.left.drop (asked default n) := by
  have small := buffer.small
  have within := buffer.within
  suffices taken : ∃ next, buffer.take (limitOf default n) =
      some (buffer.left.take (asked default n), next) ∧
        next.left = buffer.left.drop (asked default n) by
    obtain ⟨next, taken, after⟩ := taken
    refine ⟨next, ?_, after⟩
    rw [readBuffer, taken]
  rcases room buffer rfl with fits | ⟨⟨value, rfl, large⟩, ended⟩
  · cases n with
    | none => exact buffer.take_fits fits
    | some value =>
      have small : value.toNat < 2 ^ 31 := Nat.lt_of_le_of_lt (Nat.le_add_left _ _) fits
      rw [limitOf_some, if_pos small]
      exact buffer.take_fits fits
  · -- Nothing is left, so that it does not matter how much is asked for.
    obtain ⟨next, taken, after⟩ := buffer.take_fits (n := 0) (by omega)
    have none : buffer.left = [] := buffer.left_nil_iff.mpr ended
    rw [none] at taken after ⊢
    rw [limitOf_some, if_neg (Nat.not_lt.mpr large), List.take_nil, List.drop_nil]
    exact ⟨next, taken, after⟩

/-- What a request with room does, also one for an unknown buffer. -/
structure Hands (default : Nat) (state next : Option (Buffered Item)) (n : Option UInt32)
    (reply : BufferReply Item) : Prop where
  calm : reply.isThrown = false
  items : reply.items = (remaining state).take (asked default n)
  rest : remaining next = (remaining state).drop (asked default n)
  done : reply.done = true ↔ remaining next = []

variable {state : Option (Buffered Item)}

theorem readBuffer_hands {n : Option UInt32} (room : Room default state n) :
    Hands default state (readBuffer default forgets state n).1 n
      (readBuffer default forgets state n).2 := by
  cases state with
  | none => exact ⟨rfl, List.take_nil.symm, List.drop_nil.symm, iff_of_true rfl rfl⟩
  | some buffer =>
    obtain ⟨next, read, after⟩ := readBuffer_room forgets room
    rw [read]
    have kept : remaining (if next.isDone && forgets then none else some next) = next.left := by
      split
      · rename_i ended
        rw [Bool.and_eq_true] at ended
        exact (next.isDone_iff.mp ended.1).symm
      · rfl
    refine ⟨rfl, rfl, kept.trans after, ?_⟩
    rw [kept]
    exact next.isDone_iff

theorem reader_pager (default : Nat) :
    Pager (reader Item default forgets) remaining BufferReply.items BufferReply.done
      (fun state => remaining state = []) (fun _ => True) (Room default) where
  kept _ _ _ _ := trivial
  split state n _ room := by
    have hands := readBuffer_hands forgets room
    exact (List.take_append_drop _ _).symm.trans
      (congrArg₂ (· ++ ·) hands.items.symm hands.rest.symm)
  closes state n _ room ends := (readBuffer_hands forgets room).done.mp ends
  stays state n _ room ended := by
    have hands := readBuffer_hands forgets room
    apply hands.done.mpr
    rw [hands.rest, ended, List.drop_nil]
  quiet state n _ room ended := by
    refine (readBuffer_hands forgets room).items.trans ?_
    rw [ended, List.take_nil]

theorem reader_delivers {requests : List (Option UInt32)}
    (room : (reader Item default forgets).Respects (Room default) state requests) :
    Delivers (reader Item default forgets) default state requests := by
  have pager := @reader_pager Item forgets default
  constructor
  · exact pager.run_all (fun _ _ _ room => (readBuffer_hands forgets room).calm) trivial room
  · exact pager.pages_prefix trivial room
  · refine pager.run_each (fun state n _ room => ?_) trivial room
    have items := congrArg List.length (readBuffer_hands forgets room).items
    rw [List.length_take] at items
    exact Nat.le_trans (Nat.le_of_eq items) (Nat.min_le_left _ _)
  · refine pager.run_each (fun state n _ room positive => ?_) trivial room
    have hands := readBuffer_hands forgets room
    by_cases ended : remaining state = []
    · right
      apply hands.done.mpr
      rw [hands.rest, ended, List.drop_nil]
    · left
      intro nothing
      have taken := hands.items.symm.trans nothing
      rw [List.take_eq_nil_iff] at taken
      rcases taken with zero | ended'
      · omega
      · exact ended ended'
  · intro front reply back ran
    have last := pager.last_iff (fun _ => False) (fun _ _ _ _ stops => stops.elim)
      (fun _ _ _ _ _ _ closed => closed)
      (fun state n _ room _ nothing => (readBuffer_hands forgets room).done.mpr nothing)
      trivial room id ran
    rw [last]
    simp only [and_false, exists_false, false_or]

theorem readBuffer_needs (int : default < 2 ^ 31)
    {n : Option UInt32} (calm : (readBuffer default forgets state n).2.isThrown = false)
    (moves : Moves default n (readBuffer default forgets state n).2) : Room default state n := by
  rintro buffer ⟨⟩
  by_contra outside
  rw [not_or, Nat.not_lt] at outside
  obtain ⟨wraps, more⟩ := outside
  have throws {count : Nat} (small : count < 2 ^ 31) (wraps : 2 ^ 31 ≤ buffer.offset + count)
      (limit : limitOf default n = count) : False := by
    rw [readBuffer, limit, buffer.take_wraps small wraps] at calm
    cases calm
  cases n with
  | none => exact throws int wraps rfl
  | some value =>
    by_cases large : 2 ^ 31 ≤ value.toNat
    · have small := buffer.small
      have within := buffer.within
      obtain ⟨next, taken, after⟩ := buffer.take_fits (n := 0) (by omega)
      have limit : limitOf default (some value) = (0 : Nat) := by
        rw [limitOf_some, if_neg (Nat.not_lt.mpr large)]
      rw [readBuffer, limit, taken, List.take_zero] at moves
      rcases moves (Nat.le_trans (by decide) large) with some | ended
      · exact some rfl
      · have nothing := next.isDone_iff.mp ended
        rw [after, List.drop_zero, buffer.left_nil_iff] at nothing
        exact more ⟨⟨value, rfl, large⟩, nothing⟩
    · apply throws (Nat.not_le.mp large) wraps
      rw [limitOf_some, if_pos (Nat.not_le.mp large)]

theorem reader_needs (int : default < 2 ^ 31) {requests : List (Option UInt32)}
    (calm : ∀ reply ∈ ((reader Item default forgets).run state requests).2, reply.isThrown = false)
    (moving : List.Forall₂ (Moves default) requests
      ((reader Item default forgets).run state requests).2) :
    (reader Item default forgets).Respects (Room default) state requests := by
  induction requests generalizing state with
  | nil => trivial
  | cons n rest ih =>
    obtain ⟨moves, others⟩ := List.forall₂_cons.mp moving
    obtain ⟨first, later⟩ := List.forall_mem_cons.mp calm
    exact ⟨readBuffer_needs forgets int first moves, ih later others⟩

theorem reader_delivers_iff (int : default < 2 ^ 31) (state : Option (Buffered Item))
    (requests : List (Option UInt32)) :
    Delivers (reader Item default forgets) default state requests ↔
      (reader Item default forgets).Respects (Room default) state requests :=
  ⟨fun delivers => reader_needs forgets int delivers.calm delivers.moving,
    reader_delivers forgets⟩

end Reader

/-- Cursors and streams are handed out in pages exactly if each request has room. -/
theorem buffers_delivered_iff {Row : Type} :
    (∀ (cursor : Option (Buffered Row)) requests,
      Delivers (cursorFetches Row) 500 cursor requests ↔
        (cursorFetches Row).Respects (Room 500) cursor requests) ∧
    ∀ (stream : Option (Buffered UInt8)) requests,
      Delivers streamReads 65536 stream requests ↔
        streamReads.Respects (Room 65536) stream requests :=
  ⟨reader_delivers_iff false (by decide), reader_delivers_iff true (by decide)⟩

def threeRows : Buffered Nat := ⟨[1, 2, 3], 0, by decide, by decide⟩

/-- Who asks for one row and then for all that an `int` counts gets an exception, and who asks
for all that 32 bits count gets none. -/
theorem large_requests_fail :
    ((cursorFetches Nat).run (some threeRows) [some 1, some 2147483647]).2.getLast? =
        some .thrown ∧
      ((cursorFetches Nat).run (some threeRows) [some 4294967295]).2 = [.page [] false] ∧
      ¬Delivers (cursorFetches Nat) 500 (some threeRows) [some 1, some 2147483647] ∧
      ¬Delivers (cursorFetches Nat) 500 (some threeRows) [some 4294967295] := by
  refine ⟨rfl, rfl, fun delivers => ?_, fun delivers => ?_⟩
  · exact absurd (delivers.calm .thrown (List.mem_cons_of_mem _ List.mem_cons_self)) (by decide)
  · rcases (List.forall₂_cons.mp delivers.moving).1 (by decide) with some | done
    · exact some rfl
    · cases done

end Onetcli.JavaIpc
