import Onetcli.Lib.Paging
import Onetcli.Lib.Words

/-!
Cursors and export streams of the openGauss driver, extensions/ipc/opengauss/src/state.rs.
Both hold all of their rows or bytes and hand out a slice of them for each call. The row limit
of a cursor is a `u64`, and what is left of it is converted to a word of the machine.
-/

namespace Onetcli.OpenGauss

open Runs Paging Words

structure CursorState (word : Word) (Row : Type) where
  rows : Vec word Row
  nextRow : Nat
  maxRows : Option UInt64
  done : Bool

structure StreamState (word : Word) where
  data : Vec word UInt8
  offset : Nat

variable {word : Word} {Row Item : Type}

namespace CursorState

def new (rows : Vec word Row) (maxRows : Option UInt64) : CursorState word Row :=
  ⟨rows, 0, maxRows, decide (maxRows = some 0)⟩

variable (cursor : CursorState word Row)

def remainingByMax : Nat :=
  match cursor.maxRows with
  | some max => word.cast (max.toNat - cursor.nextRow)
  | none => word.max

def fetchEnd (n : Option UInt32) : Nat :=
  let requested := clamp (n.getD 1000).toNat 1 10000
  let take := min requested cursor.remainingByMax
  min (word.saturatingAdd cursor.nextRow take) cursor.rows.items.length

/-- `none` where an index is out of range. -/
def fetch (n : Option UInt32) : Option (List Row × Bool × CursorState word Row) :=
  if cursor.done then some ([], true, cursor) else do
    let stop := cursor.fetchEnd n
    let rows ← slice cursor.rows.items cursor.nextRow stop
    let done := decide (cursor.rows.items.length ≤ stop) ||
      cursor.maxRows.any fun max => decide (max.toNat ≤ stop)
    some (rows, done, { cursor with nextRow := stop, done := done })

def cancel : CursorState word Row := { cursor with done := true }

end CursorState

namespace StreamState

def new (data : Vec word UInt8) : StreamState word := ⟨data, 0⟩

variable (stream : StreamState word)

def readEnd (maxBytes : Option UInt32) : Nat :=
  let max := clamp (maxBytes.getD (64 * 1024)).toNat 1 (1024 * 1024)
  min (word.saturatingAdd stream.offset max) stream.data.items.length

def read (maxBytes : Option UInt32) : Option (List UInt8 × Bool × StreamState word) := do
  let stop := stream.readEnd maxBytes
  let chunk ← slice stream.data.items stream.offset stop
  some (chunk, decide (stream.data.items.length ≤ stop), { stream with offset := stop })

end StreamState

inductive CursorCall where
  | fetch (n : Option UInt32)
  | cancel
  deriving DecidableEq

inductive Reply (Item : Type) where
  | page (items : List Item) (done : Bool)
  | null
  | panic
  deriving DecidableEq

namespace Reply

def items : Reply Item → List Item
  | .page items _ => items
  | .null => []
  | .panic => []

/-- Nothing comes after it: a page that is done, or a cancellation. -/
def last : Reply Item → Bool
  | .page _ done => done
  | .null => true
  | .panic => false

end Reply

def cursorMachine (word : Word) (Row : Type) : Machine (CursorState word Row) CursorCall (Reply Row)
    where
  step cursor call :=
    match call with
    | .fetch n =>
      match cursor.fetch n with
      | none => (cursor, .panic)
      | some (rows, done, cursor) => (cursor, .page rows done)
    | .cancel => (cursor.cancel, .null)

def streamMachine (word : Word) : Machine (StreamState word) (Option UInt32) (Reply UInt8) where
  step stream maxBytes :=
    match stream.read maxBytes with
    | none => (stream, .panic)
    | some (chunk, done, stream) => (stream, .page chunk done)

/-- The number of rows that a cursor with a limit gives. -/
def rowLimit (count : Nat) (maxRows : Option UInt64) : Nat :=
  match maxRows with
  | some max => min count max.toNat
  | none => count

/-- What a client may expect of the replies to its calls: what is due comes once and in order,
each page is the last or gives something, and a page is the last exactly when a call stopped it
all or everything was given. -/
structure Delivers {Call : Type} (due : List Item) (stops : Call → Prop) (calls : List Call)
    (replies : List (Reply Item)) : Prop where
  safe : .panic ∉ replies
  order : replies.flatMap Reply.items <+: due
  moves : ∀ items, .page items false ∈ replies → items ≠ []
  ends : ∀ front items done back, replies = front ++ .page items done :: back →
    (done = true ↔ (∃ call ∈ calls.take (front.length + 1), stops call) ∨
      (front ++ [.page items done]).flatMap Reply.items = due)

/-! ## A fetch -/

section Fetch

variable {cursor : CursorState word Row} {n : Option UInt32}

/-- No more was given than is due. -/
def CursorState.Within (cursor : CursorState word Row) : Prop :=
  cursor.nextRow ≤ rowLimit cursor.rows.items.length cursor.maxRows

def CursorState.due (cursor : CursorState word Row) : List Row :=
  (cursor.rows.items.take (rowLimit cursor.rows.items.length cursor.maxRows)).drop cursor.nextRow

theorem rowLimit_le (count : Nat) (maxRows : Option UInt64) : rowLimit count maxRows ≤ count := by
  cases maxRows with
  | none => exact Nat.le_refl _
  | some max => exact Nat.min_le_left _ _

theorem fetchEnd_order (within : cursor.Within) : cursor.nextRow ≤ cursor.fetchEnd n := by
  have inside := Nat.le_trans within (rowLimit_le _ _)
  exact Nat.le_min.mpr ⟨word.le_saturatingAdd (Nat.le_trans inside cursor.rows.fits) _, inside⟩

theorem fetchEnd_within (within : cursor.Within) :
    cursor.fetchEnd n ≤ rowLimit cursor.rows.items.length cursor.maxRows := by
  have inside : cursor.fetchEnd n ≤ cursor.rows.items.length := Nat.min_le_right _ _
  cases limit : cursor.maxRows with
  | none => exact inside
  | some max =>
    have below : cursor.nextRow ≤ max.toNat := by
      have := within
      unfold CursorState.Within rowLimit at this
      simp only [limit] at this
      omega
    have remaining : cursor.remainingByMax ≤ max.toNat - cursor.nextRow := by
      unfold CursorState.remainingByMax
      rw [limit]
      exact word.cast_le _
    have sum := word.saturatingAdd_le_add cursor.nextRow
      (min (clamp (n.getD 1000).toNat 1 10000) cursor.remainingByMax)
    refine Nat.le_min.mpr ⟨inside, ?_⟩
    unfold CursorState.fetchEnd
    dsimp only
    omega

theorem fetch_eq (within : cursor.Within) (more : cursor.done = false) : cursor.fetch n =
      some ((cursor.rows.items.drop cursor.nextRow).take (cursor.fetchEnd n - cursor.nextRow),
        decide (rowLimit cursor.rows.items.length cursor.maxRows ≤ cursor.fetchEnd n), { cursor with
          nextRow := cursor.fetchEnd n
          done := decide (rowLimit cursor.rows.items.length cursor.maxRows ≤ cursor.fetchEnd n) }) := by
  have inside : cursor.fetchEnd n ≤ cursor.rows.items.length := Nat.min_le_right _ _
  have reached : (decide (cursor.rows.items.length ≤ cursor.fetchEnd n) ||
      cursor.maxRows.any fun max => decide (max.toNat ≤ cursor.fetchEnd n)) =
        decide (rowLimit cursor.rows.items.length cursor.maxRows ≤ cursor.fetchEnd n) := by
    cases limit : cursor.maxRows with
    | none =>
      simp only [rowLimit, Option.any_none, Bool.or_false]
      exact decide_eq_decide.mpr Iff.rfl
    | some max =>
      simp only [rowLimit, Option.any_some, ← Bool.decide_or]
      exact decide_eq_decide.mpr (by omega)
  unfold CursorState.fetch
  dsimp only
  rw [more, slice_inside (fetchEnd_order within) inside, reached]
  rfl

theorem fetch_done (ended : cursor.done = true) : cursor.fetch n = some ([], true, cursor) :=
  if_pos ended

end Fetch

/-! ## Runs of fetches and cancellations -/

section Steps

variable {cursor : CursorState word Row} {n : Option UInt32}

theorem step_done (ended : cursor.done = true) :
    (cursorMachine word Row).step cursor (.fetch n) = (cursor, .page [] true) := by
  simp [cursorMachine, fetch_done ended]

theorem step_fetch (within : cursor.Within) (more : cursor.done = false) :
    (cursorMachine word Row).step cursor (.fetch n) = ({ cursor with
          nextRow := cursor.fetchEnd n
          done := decide (rowLimit cursor.rows.items.length cursor.maxRows ≤ cursor.fetchEnd n) },
        .page ((cursor.rows.items.drop cursor.nextRow).take (cursor.fetchEnd n - cursor.nextRow))
          (decide (rowLimit cursor.rows.items.length cursor.maxRows ≤ cursor.fetchEnd n))) := by
  simp [cursorMachine, fetch_eq within more]

theorem due_eq_nil : cursor.due = [] ↔
    rowLimit cursor.rows.items.length cursor.maxRows ≤ cursor.nextRow := by
  have bounded := rowLimit_le cursor.rows.items.length cursor.maxRows
  simp only [CursorState.due, List.drop_eq_nil_iff, List.length_take]
  omega

theorem due_split {stop : Nat} (order : cursor.nextRow ≤ stop)
    (within : stop ≤ rowLimit cursor.rows.items.length cursor.maxRows) (done : Bool) :
    cursor.due = (cursor.rows.items.drop cursor.nextRow).take (stop - cursor.nextRow) ++
      CursorState.due { cursor with nextRow := stop, done := done } := by
  generalize limit : rowLimit cursor.rows.items.length cursor.maxRows = bound at within
  simp only [CursorState.due, limit, List.drop_take]
  have parts : bound - cursor.nextRow = (stop - cursor.nextRow) + (bound - stop) := by omega
  rw [parts, List.take_add, List.drop_drop, Nat.add_sub_cancel' order]

end Steps

theorem cursor_pager (word : Word) (Row : Type) :
    Pager (cursorMachine word Row) CursorState.due Reply.items Reply.last
      (fun cursor => cursor.done = true) CursorState.Within (fun _ _ => True) where
  kept cursor call within _ := by
    cases call with
    | cancel => exact within
    | fetch n =>
      cases ended : cursor.done with
      | true =>
        rw [step_done ended]
        exact within
      | false =>
        rw [step_fetch within ended]
        exact fetchEnd_within within
  split cursor call within _ := by
    cases call with
    | cancel => rfl
    | fetch n =>
      cases ended : cursor.done with
      | true =>
        rw [step_done ended]
        rfl
      | false =>
        rw [step_fetch within ended]
        exact due_split (fetchEnd_order within) (fetchEnd_within within) _
  closes cursor call within _ last := by
    cases call with
    | cancel => rfl
    | fetch n =>
      cases ended : cursor.done with
      | true =>
        rw [step_done ended]
        exact ended
      | false =>
        rw [step_fetch within ended] at last ⊢
        exact last
  stays cursor call _ _ ended := by
    cases call with
    | cancel => rfl
    | fetch n =>
      rw [step_done ended]
      rfl
  quiet cursor call _ _ ended := by
    cases call with
    | cancel => rfl
    | fetch n =>
      rw [step_done ended]
      rfl

theorem step_safe (cursor : CursorState word Row) (call : CursorCall) (within : cursor.Within) :
    ((cursorMachine word Row).step cursor call).2 ≠ .panic := by
  cases call with
  | cancel => exact (nomatch ·)
  | fetch n =>
    cases ended : cursor.done with
    | true =>
      rw [step_done ended]
      exact (nomatch ·)
    | false =>
      rw [step_fetch within ended]
      exact (nomatch ·)

theorem step_completes (cursor : CursorState word Row) (call : CursorCall) (within : cursor.Within)
    (fetches : call ≠ .cancel) (complete : cursor.done = true → cursor.due = [])
    (closed : ((cursorMachine word Row).step cursor call).1.done = true) :
    ((cursorMachine word Row).step cursor call).1.due = [] := by
  cases call with
  | cancel => exact absurd rfl fetches
  | fetch n =>
    cases ended : cursor.done with
    | true =>
      rw [step_done ended]
      exact complete ended
    | false =>
      rw [step_fetch within ended] at closed ⊢
      exact due_eq_nil.mpr (of_decide_eq_true closed)

theorem step_announces (cursor : CursorState word Row) (call : CursorCall) (within : cursor.Within)
    (given : ((cursorMachine word Row).step cursor call).1.due = []) :
    ((cursorMachine word Row).step cursor call).2.last = true := by
  cases call with
  | cancel => rfl
  | fetch n =>
    cases ended : cursor.done with
    | true =>
      rw [step_done ended]
      rfl
    | false =>
      rw [step_fetch within ended] at given ⊢
      exact decide_eq_true (due_eq_nil.mp given)

/-! ## The row limit as a word -/

def LimitFits (rows : Vec word Row) (maxRows : Option UInt64) : Prop :=
  ∀ max, maxRows = some max → max.toNat ≤ word.max ∨ rows.items.length ≤ word.cast max.toNat

instance (rows : Vec word Row) (maxRows : Option UInt64) : Decidable (LimitFits rows maxRows) :=
  match maxRows with
  | none => isTrue fun _ same => nomatch same
  | some max =>
    decidable_of_iff (max.toNat ≤ word.max ∨ rows.items.length ≤ word.cast max.toNat)
      ⟨fun fits _ same => Option.some.inj same ▸ fits, fun fits => fits max rfl⟩

section Limits

variable {cursor : CursorState word Row} {n : Option UInt32}

theorem remaining_pos (fits : LimitFits cursor.rows cursor.maxRows)
    (below : cursor.nextRow < rowLimit cursor.rows.items.length cursor.maxRows) :
    0 < cursor.remainingByMax := by
  unfold CursorState.remainingByMax
  cases limit : cursor.maxRows with
  | none => exact word.max_pos
  | some max =>
    simp only [limit, rowLimit, Nat.lt_min] at below
    rcases fits max limit with whole | room
    · have same := word.cast_of_le (Nat.le_trans (Nat.sub_le max.toNat cursor.nextRow) whole)
      dsimp only
      omega
    · have difference := word.cast_sub (Nat.le_of_lt (Nat.lt_of_lt_of_le below.1 room))
      dsimp only
      omega

theorem step_moves (call : CursorCall) (within : cursor.Within)
    (fits : LimitFits cursor.rows cursor.maxRows)
    (more : ((cursorMachine word Row).step cursor call).2.last = false) :
    ((cursorMachine word Row).step cursor call).2.items ≠ [] := by
  cases call with
  | cancel => cases more
  | fetch n =>
    cases ended : cursor.done with
    | true =>
      rw [step_done ended] at more
      cases more
    | false =>
      rw [step_fetch within ended] at more ⊢
      have short : cursor.fetchEnd n < rowLimit cursor.rows.items.length cursor.maxRows :=
        Nat.lt_of_not_le (of_decide_eq_false more)
      have order := fetchEnd_order (n := n) within
      have remaining := remaining_pos fits (Nat.lt_of_le_of_lt order short)
      have requested := clamp_pos (n.getD 1000).toNat 1 10000 (by decide) (by decide)
      have bounded := rowLimit_le cursor.rows.items.length cursor.maxRows
      have held := cursor.rows.fits
      -- The end is neither the length nor the largest word, so it is the sum.
      have stop : cursor.fetchEnd n = cursor.nextRow +
          min (clamp (n.getD 1000).toNat 1 10000) cursor.remainingByMax := by
        unfold CursorState.fetchEnd Word.saturatingAdd at short ⊢
        dsimp only at short ⊢
        omega
      apply List.ne_nil_of_length_pos
      simp only [Reply.items, List.length_take, List.length_drop]
      omega

end Limits

/-- A cursor on these rows, with this limit, that has not given too many. -/
structure CursorOn (rows : Vec word Row) (maxRows : Option UInt64)
    (cursor : CursorState word Row) : Prop where
  rows : cursor.rows = rows
  maxRows : cursor.maxRows = maxRows
  within : cursor.Within

theorem cursorOn_new (rows : Vec word Row) (maxRows : Option UInt64) :
    CursorOn rows maxRows (CursorState.new rows maxRows) :=
  ⟨rfl, rfl, Nat.zero_le _⟩

theorem step_cursorOn {rows : Vec word Row} {maxRows : Option UInt64}
    (cursor : CursorState word Row) (call : CursorCall) (held : CursorOn rows maxRows cursor) :
    CursorOn rows maxRows ((cursorMachine word Row).step cursor call).1 := by
  have within := (cursor_pager word Row).kept cursor call held.within trivial
  cases call with
  | cancel => exact ⟨held.rows, held.maxRows, within⟩
  | fetch n =>
    cases ended : cursor.done with
    | true =>
      rw [step_done ended]
      exact held
    | false =>
      rw [step_fetch held.within ended] at within ⊢
      exact ⟨held.rows, held.maxRows, within⟩

theorem cursorOn_pager (rows : Vec word Row) (maxRows : Option UInt64) :
    Pager (cursorMachine word Row) CursorState.due Reply.items Reply.last
      (fun cursor => cursor.done = true) (CursorOn rows maxRows) (fun _ _ => True) :=
  (cursor_pager word Row).restrict (fun _ held => held.within) (fun _ _ _ => trivial)
    fun cursor call held _ => step_cursorOn cursor call held

theorem new_due (rows : Vec word Row) (maxRows : Option UInt64) :
    (CursorState.new rows maxRows).due = rows.items.take (rowLimit rows.items.length maxRows) :=
  rfl

theorem new_complete (rows : Vec word Row) (maxRows : Option UInt64)
    (ended : (CursorState.new rows maxRows).done = true) :
    (CursorState.new rows maxRows).due = [] := by
  obtain rfl : maxRows = some 0 := of_decide_eq_true ended
  exact due_eq_nil.mpr (Nat.min_le_right _ _)

theorem cursor_delivers {rows : Vec word Row} {maxRows : Option UInt64}
    (fits : LimitFits rows maxRows) (calls : List CursorCall) :
    Delivers (rows.items.take (rowLimit rows.items.length maxRows)) (fun call => call = .cancel)
      calls ((cursorMachine word Row).run (CursorState.new rows maxRows) calls).2 := by
  have pager := cursorOn_pager rows maxRows
  have start := cursorOn_new rows maxRows
  have always := respects_always (cursorMachine word Row) (CursorState.new rows maxRows) calls
  rw [← new_due]
  refine ⟨?_, pager.pages_prefix start always, ?_, ?_⟩
  · have safe : ∀ reply ∈ ((cursorMachine word Row).run (CursorState.new rows maxRows) calls).2,
        reply ≠ .panic :=
      pager.run_all (fun cursor call held _ => step_safe cursor call held.within) start always
    exact fun panics => safe _ panics rfl
  · have moves : ∀ reply ∈ ((cursorMachine word Row).run (CursorState.new rows maxRows) calls).2,
        reply.last = false → reply.items ≠ [] := by
      refine pager.run_all ?_ start always
      intro cursor call held _
      apply step_moves call held.within
      rw [held.rows, held.maxRows]
      exact fits
    exact fun items among => moves _ among rfl
  · intro front items done back ran
    exact pager.last_iff (fun call => call = .cancel)
      (fun cursor call _ _ stops => by rw [stops]; rfl)
      (fun cursor call held _ fetches => step_completes cursor call held.within fetches)
      (fun cursor call held _ _ => step_announces cursor call held.within)
      start always (new_complete rows maxRows) ran

/-! ## A limit that does not fit -/

structure Stalled (cursor : CursorState word Row) (max : UInt64) : Prop where
  limit : cursor.maxRows = some max
  below : cursor.nextRow ≤ word.cast max.toNat
  more : word.cast max.toNat < cursor.rows.items.length
  large : word.max < max.toNat
  undone : cursor.done = false

variable {max : UInt64}

variable {cursor : CursorState word Row}

theorem Stalled.within (stalled : Stalled cursor max) : cursor.Within := by
  have below := stalled.below
  have more := stalled.more
  have small := word.cast_le max.toNat
  unfold CursorState.Within rowLimit
  rw [stalled.limit]
  dsimp only
  omega

theorem step_stalled (stalled : Stalled cursor max) (n : Option UInt32) :
    Stalled ((cursorMachine word Row).step cursor (.fetch n)).1 max ∧
      ((cursorMachine word Row).step cursor (.fetch n)).2.last = false := by
  have remaining : cursor.remainingByMax = word.cast max.toNat - cursor.nextRow := by
    unfold CursorState.remainingByMax
    rw [stalled.limit]
    exact word.cast_sub stalled.below
  have stop : cursor.fetchEnd n ≤ word.cast max.toNat := by
    have sum := word.saturatingAdd_le_add cursor.nextRow
      (min (clamp (n.getD 1000).toNat 1 10000) cursor.remainingByMax)
    have below := stalled.below
    unfold CursorState.fetchEnd
    dsimp only
    omega
  have short : ¬rowLimit cursor.rows.items.length cursor.maxRows ≤ cursor.fetchEnd n := by
    have more := stalled.more
    have large := stalled.large
    have held := cursor.rows.fits
    unfold rowLimit
    rw [stalled.limit]
    dsimp only
    omega
  rw [step_fetch stalled.within stalled.undone]
  exact ⟨⟨stalled.limit, stop, stalled.more, stalled.large, decide_eq_false short⟩,
    decide_eq_false short⟩

theorem run_stalled (stalled : Stalled cursor max) (requests : List (Option UInt32)) :
    ∀ reply ∈ ((cursorMachine word Row).run cursor (requests.map .fetch)).2,
      reply.last = false := by
  induction requests generalizing cursor with
  | nil => exact fun _ among => absurd among List.not_mem_nil
  | cons n rest ih =>
    obtain ⟨next, more⟩ := step_stalled stalled n
    intro reply among
    rcases List.mem_cons.mp among with rfl | later
    · exact more
    · exact ih next reply later

-- More fetches than rows do not all give one.
theorem stalled_not_delivers (stalled : Stalled cursor max)
    {due : List Row} {stops : CursorCall → Prop} (requests : List (Option UInt32))
    (many : due.length < requests.length) : ¬Delivers due stops (requests.map .fetch)
      ((cursorMachine word Row).run cursor (requests.map .fetch)).2 := by
  intro delivers
  have undone := run_stalled stalled requests
  have gives : ∀ reply ∈ ((cursorMachine word Row).run cursor (requests.map .fetch)).2,
      reply.items ≠ [] := by
    intro reply among
    have more := undone reply among
    cases reply with
    | page items done =>
      obtain rfl : done = false := more
      exact delivers.moves items among
    | null => cases more
    | panic => exact absurd among delivers.safe
  have fewer := delivers.order.length_le
  have count := length_le_pages gives
  rw [run_length, List.length_map] at count
  omega

theorem new_stalled {rows : Vec word Row} (large : word.max < max.toNat)
    (more : word.cast max.toNat < rows.items.length) :
    Stalled (CursorState.new rows (some max)) max where
  limit := rfl
  below := Nat.zero_le _
  more := more
  large := large
  undone := by
    apply decide_eq_false
    intro zero
    rw [Option.some.inj zero] at large
    exact absurd large (Nat.not_lt_zero _)

/-! ## Streams -/

section Streams

variable {stream : StreamState word} {maxBytes : Option UInt32}

theorem readEnd_order (inside : stream.offset ≤ stream.data.items.length) :
    stream.offset ≤ stream.readEnd maxBytes :=
  Nat.le_min.mpr ⟨word.le_saturatingAdd (Nat.le_trans inside stream.data.fits) _, inside⟩

theorem readEnd_inside : stream.readEnd maxBytes ≤ stream.data.items.length :=
  Nat.min_le_right _ _

theorem step_read (inside : stream.offset ≤ stream.data.items.length) :
    (streamMachine word).step stream maxBytes =
      ({ stream with offset := stream.readEnd maxBytes },
        .page ((stream.data.items.drop stream.offset).take (stream.readEnd maxBytes - stream.offset))
          (decide (stream.data.items.length ≤ stream.readEnd maxBytes))) := by
  simp [streamMachine, StreamState.read, slice_inside (readEnd_order inside) readEnd_inside]

theorem readEnd_moves (more : stream.readEnd maxBytes < stream.data.items.length) :
    stream.offset < stream.readEnd maxBytes := by
  have positive := clamp_pos (maxBytes.getD (64 * 1024)).toNat 1 (1024 * 1024)
    (by decide) (by decide)
  have held := stream.data.fits
  unfold StreamState.readEnd Word.saturatingAdd at more ⊢
  dsimp only at more ⊢
  omega

end Streams

theorem stream_pager (word : Word) :
    Pager (streamMachine word) (fun stream => stream.data.items.drop stream.offset) Reply.items
      Reply.last (fun stream => stream.data.items.drop stream.offset = [])
      (fun stream => stream.offset ≤ stream.data.items.length) (fun _ _ => True) where
  kept stream maxBytes inside _ := by
    rw [step_read inside]
    exact readEnd_inside
  split stream maxBytes inside _ := by
    have order := @readEnd_order _ _ maxBytes inside
    rw [step_read inside]
    dsimp only [Reply.items]
    rw [← Nat.add_sub_cancel' order, ← List.drop_drop, Nat.add_sub_cancel_left,
      List.take_append_drop]
  closes stream maxBytes inside _ last := by
    rw [step_read inside] at last ⊢
    exact List.drop_eq_nil_of_le (of_decide_eq_true last)
  stays stream maxBytes inside _ empty := by
    have order := @readEnd_order _ _ maxBytes inside
    rw [step_read inside]
    exact decide_eq_true (Nat.le_trans (List.drop_eq_nil_iff.mp empty) order)
  quiet stream maxBytes inside _ empty := by
    rw [step_read inside]
    simp [Reply.items, empty]

theorem stream_delivers (data : Vec word UInt8) (reads : List (Option UInt32)) :
    Delivers data.items (fun _ => False) reads
      ((streamMachine word).run (StreamState.new data) reads).2 := by
  have pager := stream_pager word
  have start : (StreamState.new data).offset ≤ (StreamState.new data).data.items.length :=
    Nat.zero_le _
  have always := respects_always (streamMachine word) (StreamState.new data) reads
  refine ⟨?_, pager.pages_prefix start always, ?_, ?_⟩
  · have safe : ∀ reply ∈ ((streamMachine word).run (StreamState.new data) reads).2,
        reply ≠ .panic := by
      refine pager.run_all ?_ start always
      intro stream maxBytes inside _
      rw [step_read inside]
      exact (nomatch ·)
    exact fun panics => safe _ panics rfl
  · have moves : ∀ reply ∈ ((streamMachine word).run (StreamState.new data) reads).2,
        reply.last = false → reply.items ≠ [] := by
      refine pager.run_all ?_ start always
      intro stream maxBytes inside _ more
      rw [step_read inside] at more ⊢
      have short := Nat.lt_of_not_le (of_decide_eq_false more)
      have moved := readEnd_moves short
      apply List.ne_nil_of_length_pos
      simp only [Reply.items, List.length_take, List.length_drop]
      omega
    exact fun items among => moves _ among rfl
  · intro front items done back ran
    exact pager.last_iff (fun _ => False) (fun _ _ _ _ => False.elim)
      (fun _ _ _ _ _ _ closed => closed)
      (fun stream maxBytes inside _ _ given => by
        rw [step_read inside] at given ⊢
        exact decide_eq_true (List.drop_eq_nil_iff.mp given))
      start always id ran

/-- Cursors and streams deliver what is due in every run exactly when the row limit of the cursor
fits into a word. -/
theorem paging_delivers_iff (rows : Vec word Row) (maxRows : Option UInt64)
    (data : Vec word UInt8) :
    ((∀ calls, Delivers (rows.items.take (rowLimit rows.items.length maxRows))
        (fun call => call = .cancel) calls
        ((cursorMachine word Row).run (CursorState.new rows maxRows) calls).2) ∧
      ∀ reads, Delivers data.items (fun _ => False) reads
        ((streamMachine word).run (StreamState.new data) reads).2) ↔
      LimitFits rows maxRows := by
  constructor
  · rintro ⟨delivers, _⟩ max rfl
    by_contra unfit
    obtain ⟨large, more⟩ := not_or.mp unfit
    have stalled := new_stalled (Nat.lt_of_not_le large) (Nat.lt_of_not_le more)
    have many : (rows.items.take (rowLimit rows.items.length (some max))).length <
        (List.replicate (rows.items.length + 1) (none : Option UInt32)).length := by
      rw [List.length_replicate, List.length_take]
      omega
    exact stalled_not_delivers stalled _ many (delivers _)
  · exact fun fits => ⟨cursor_delivers fits, stream_delivers data⟩

def oneRow : Vec .bits32 Nat := { items := [7], fits := Nat.succ_le_of_lt Word.bits32.max_pos }

/-- A limit of 2^32 rows is no limit of a word of 32 bits: the fetch gives nothing and is not the
last. -/
theorem oneRow_stalls :
    ((cursorMachine .bits32 Nat).run (CursorState.new oneRow (some 0x100000000)) [.fetch none]).2 =
        [.page [] false] ∧
      ¬Delivers [7] (fun call : CursorCall => call = .cancel) [.fetch none]
        ((cursorMachine .bits32 Nat).run (CursorState.new oneRow (some 0x100000000))
          [.fetch none]).2 := by
  have ran : ((cursorMachine .bits32 Nat).run (CursorState.new oneRow (some 0x100000000))
      [.fetch none]).2 = [.page [] false] := by
    decide +kernel
  refine ⟨ran, fun delivers => ?_⟩
  rw [ran] at delivers
  exact delivers.moves [] List.mem_cons_self rfl

end Onetcli.OpenGauss
