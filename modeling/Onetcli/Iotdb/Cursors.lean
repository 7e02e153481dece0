import Onetcli.Iotdb.Sql
import Onetcli.Lib.Runs

/-!
The pages of a cursor of the IoTDB driver, server.go. A data set is what the calls of `Next`
and the call of `Close` give; a call that fails takes no row. The counter of rows is a `uint64`
that never passes `max_rows`.
-/

namespace Onetcli.Iotdb

open Chars Runs

inductive NextCall (Row : Type) where
  | row (row : Row)
  | failed (text : Chars)

/-- `Next` answers false behind the last call. -/
structure DataSet (Row : Type) where
  calls : List (NextCall Row)
  closing : Option Chars := none

/-- The data set of a cursor is `nil` once it was closed. -/
structure Cursor (Row : Type) where
  dataSet : DataSet Row
  isNil : Bool := false
  maxRows : Option Nat
  fetched : Nat := 0
  done : Bool := false

inductive FetchReply (Row : Type) where
  | page (rows : List Row) (done : Bool)
  | failed (text : Chars)

variable {Row : Type}

def FetchReply.rows : FetchReply Row → List Row
  | .page rows _ => rows
  | .failed _ => []

def isStatementIDNotSet (text : Chars) : Bool :=
  (splitOnceText "statement id not set by client".toList (toLower text)).isSome

/-- How the loop over the rows of a page ends. -/
inductive PageEnd where
  | full
  | done
  | failed (text : Chars)

structure TakenRows (Row : Type) where
  rows : List Row
  rest : List (NextCall Row)
  stop : PageEnd

/-- The loop, with room for so many rows on the page. -/
def takeRows (maxRows : Option Nat) : Nat → Nat → List (NextCall Row) → TakenRows Row
  | 0, _, calls => ⟨[], calls, .full⟩
  | room + 1, fetched, calls =>
    if maxRows.any (· ≤ fetched) then ⟨[], calls, .done⟩
    else
      match calls with
      | [] => ⟨[], [], .done⟩
      | .failed text :: rest =>
        ⟨[], rest, if isStatementIDNotSet text then .done else .failed text⟩
      | .row row :: rest =>
        let others := takeRows maxRows room (fetched + 1) rest
        { others with rows := row :: others.rows }

def pageSize (n : Option UInt32) : Nat :=
  match n with
  | some n => if 0 < n.toNat then n.toNat else 500
  | none => 500

def handleCursorFetch (cursor : Cursor Row) (n : Option UInt32) : Cursor Row × FetchReply Row :=
  if cursor.done || cursor.isNil then (cursor, .page [] true)
  else
    let taken := takeRows cursor.maxRows (pageSize n) cursor.fetched cursor.dataSet.calls
    let moved := { cursor with
      dataSet := { cursor.dataSet with calls := taken.rest }
      fetched := cursor.fetched + taken.rows.length }
    match taken.stop with
    | .failed text => (moved, .failed text)
    | .full => (moved, .page taken.rows false)
    | .done =>
      match cursor.dataSet.closing with
      | some text =>
        if isStatementIDNotSet text then
          ({ moved with done := true, isNil := true }, .page taken.rows true)
        else ({ moved with done := true }, .failed text)
      | none => ({ moved with done := true, isNil := true }, .page taken.rows true)

/-- The cursor of a query that was started. -/
def openCursor (dataSet : DataSet Row) (maxRows : Option Nat) : Cursor Row where
  dataSet := dataSet
  maxRows := maxRows

/-! ## What is delivered -/

def rowOf : NextCall Row → Option Row
  | .row row => some row
  | .failed _ => none

def rowsOf (calls : List (NextCall Row)) : List Row := calls.filterMap rowOf

structure Delivery (Row : Type) where
  cursor : Cursor Row
  given : List Row := []

def fetches (Row : Type) : Machine (Delivery Row) (Option UInt32) (FetchReply Row) where
  step delivery n :=
    let answer := handleCursorFetch delivery.cursor n
    ({ cursor := answer.1, given := delivery.given ++ answer.2.rows }, answer.2)

def Kept (rows : List Row) (delivery : Delivery Row) : Prop :=
  delivery.given ++ rowsOf delivery.cursor.dataSet.calls = rows

/-- The rows within `max_rows`. -/
def dueRows (maxRows : Option Nat) (rows : List Row) : List Row :=
  match maxRows with
  | none => rows
  | some most => rows.take most

/-- In every state all rows that were taken are given, the pages are the first rows, and no page
is longer than asked for. -/
structure LosesNothing (dataSet : DataSet Row) (maxRows : Option Nat)
    (requests : List (Option UInt32)) : Prop where
  kept : ∀ reached ∈ (fetches Row).visited { cursor := openCursor dataSet maxRows } requests,
    Kept (rowsOf dataSet.calls) reached
  ordered : ((fetches Row).run { cursor := openCursor dataSet maxRows } requests).2.flatMap
    FetchReply.rows <+: dueRows maxRows (rowsOf dataSet.calls)
  bounded : List.Forall₂ (fun n reply => reply.rows.length ≤ pageSize n) requests
    ((fetches Row).run { cursor := openCursor dataSet maxRows } requests).2

/-- How many rows come before a call that gives none. -/
def readyRows : List (NextCall Row) → Nat
  | .row _ :: rest => readyRows rest + 1
  | _ => 0

def nextFails : List (NextCall Row) → Bool
  | [] => false
  | .row _ :: rest => nextFails rest
  | .failed text :: _ => !isStatementIDNotSet text

def closeFails (dataSet : DataSet Row) : Bool :=
  dataSet.closing.any fun text => !isStatementIDNotSet text

/-- How many rows the loop takes at most. -/
def limited (maxRows : Option Nat) (room fetched : Nat) : Nat :=
  match maxRows with
  | none => room
  | some most => min room (most - fetched)

/-- How many rows a page has room for within `max_rows`. -/
def roomFor (cursor : Cursor Row) (n : Option UInt32) : Nat :=
  limited cursor.maxRows (pageSize n) cursor.fetched

/-- A request that takes a row meets no call that fails: neither a `Next` before its page is full,
nor the `Close` if the page is not filled. -/
def Unbroken (delivery : Delivery Row) (n : Option UInt32) : Prop :=
  let cursor := delivery.cursor
  let ready := readyRows cursor.dataSet.calls
  cursor.done = true ∨ cursor.isNil = true ∨ roomFor cursor n = 0 ∨ ready = 0 ∨
    (ready < roomFor cursor n → nextFails cursor.dataSet.calls = false) ∧
      (min ready (roomFor cursor n) < pageSize n → closeFails cursor.dataSet = false)

/-! ## One page -/

section Page

variable {maxRows : Option Nat} {room fetched : Nat} {rest calls : List (NextCall Row)}

theorem takeRows_limit (reached : maxRows.any (· ≤ fetched) = true) :
    takeRows maxRows (room + 1) fetched calls = ⟨[], calls, .done⟩ :=
  if_pos reached

theorem takeRows_nil (short : ¬maxRows.any (· ≤ fetched) = true) :
    takeRows maxRows (room + 1) fetched ([] : List (NextCall Row)) = ⟨[], [], .done⟩ :=
  if_neg short

theorem takeRows_failed (short : ¬maxRows.any (· ≤ fetched) = true) (text : Chars) :
    takeRows maxRows (room + 1) fetched (.failed text :: rest) =
      ⟨[], rest, if isStatementIDNotSet text then .done else .failed text⟩ :=
  if_neg short

theorem takeRows_row (short : ¬maxRows.any (· ≤ fetched) = true) (row : Row) :
    takeRows maxRows (room + 1) fetched (.row row :: rest) =
      { takeRows maxRows room (fetched + 1) rest with
        rows := row :: (takeRows maxRows room (fetched + 1) rest).rows } :=
  if_neg short

theorem limited_le (maxRows : Option Nat) (room fetched : Nat) :
    limited maxRows room fetched ≤ room := by
  cases maxRows with
  | none => exact Nat.le_refl _
  | some most => exact Nat.min_le_left _ _

theorem limited_limit (reached : maxRows.any (· ≤ fetched) = true) : limited maxRows room fetched = 0 := by
  cases maxRows with
  | none => cases reached
  | some most =>
    have most_le : most ≤ fetched := by simpa using reached
    rw [limited]
    omega

theorem limited_short (short : ¬maxRows.any (· ≤ fetched) = true) :
    limited maxRows (room + 1) fetched = limited maxRows room (fetched + 1) + 1 := by
  cases maxRows with
  | none => rfl
  | some most =>
    have fetched_lt : fetched < most := by simpa using short
    rw [limited, limited]
    omega

/-- What the loop leaves, by how many rows are ready. -/
structure Takes (maxRows : Option Nat) (room fetched : Nat) (calls : List (NextCall Row))
    (taken : TakenRows Row) : Prop where
  split : taken.rows ++ rowsOf taken.rest = rowsOf calls
  length : taken.rows.length = min (readyRows calls) (limited maxRows room fetched)
  full : taken.stop = .full ↔ taken.rows.length = room
  failed : (∃ text, taken.stop = .failed text) ↔
    readyRows calls < limited maxRows room fetched ∧ nextFails calls = true

theorem takeRows_takes (maxRows : Option Nat) (room fetched : Nat) (calls : List (NextCall Row)) :
    Takes maxRows room fetched calls (takeRows maxRows room fetched calls) := by
  induction room generalizing fetched calls with
  | zero =>
    have none : limited maxRows 0 fetched = 0 := by
      cases maxRows with
      | none => rfl
      | some most => exact Nat.zero_min _
    refine ⟨rfl, ?_, iff_of_true rfl rfl, iff_of_false (fun ⟨_, other⟩ => nomatch other) ?_⟩
    · rw [none, Nat.min_zero]
      rfl
    · rw [none]
      exact fun below => absurd below.1 (Nat.not_lt_zero _)
  | succ room ih =>
    by_cases reached : maxRows.any (· ≤ fetched) = true
    · rw [takeRows_limit reached]
      refine ⟨rfl, ?_, iff_of_false (fun other => nomatch other) (fun other => nomatch other),
        iff_of_false (fun ⟨_, other⟩ => nomatch other) ?_⟩
      · rw [limited_limit reached, Nat.min_zero]
        rfl
      · rw [limited_limit reached]
        exact fun below => absurd below.1 (Nat.not_lt_zero _)
    · cases calls with
      | nil =>
        rw [takeRows_nil reached]
        exact ⟨rfl, (Nat.zero_min _).symm,
          iff_of_false (fun other => nomatch other) (fun other => nomatch other),
          iff_of_false (fun ⟨_, other⟩ => nomatch other) fun ⟨_, fails⟩ => nomatch fails⟩
      | cons call rest =>
        cases call with
        | failed text =>
          rw [takeRows_failed reached]
          refine ⟨rfl, (Nat.zero_min _).symm, ?_, ?_⟩
          · refine iff_of_false (fun other => ?_) (fun other => nomatch other)
            dsimp only at other
            split at other <;> cases other
          · rw [limited_short reached]
            by_cases gone : isStatementIDNotSet text = true
            · simp [nextFails, gone]
            · simp [nextFails, gone, readyRows]
        | row row =>
          have others := ih (fetched + 1) rest
          rw [takeRows_row reached]
          refine ⟨congrArg (row :: ·) others.split, ?_, ?_, ?_⟩
          · rw [limited_short reached, readyRows, List.length_cons, others.length]
            omega
          · rw [List.length_cons, Nat.add_right_cancel_iff]
            exact others.full
          · rw [limited_short reached, readyRows, Nat.add_lt_add_iff_right]
            exact others.failed

end Page

/-! ## One request -/

section Request

variable {cursor : Cursor Row} {n : Option UInt32}

def takenRows (cursor : Cursor Row) (n : Option UInt32) : TakenRows Row :=
  takeRows cursor.maxRows (pageSize n) cursor.fetched cursor.dataSet.calls

theorem takenRows_takes (cursor : Cursor Row) (n : Option UInt32) :
    Takes cursor.maxRows (pageSize n) cursor.fetched cursor.dataSet.calls (takenRows cursor n) :=
  takeRows_takes _ _ _ _

theorem handleCursorFetch_ended (ended : (cursor.done || cursor.isNil) = true) :
    handleCursorFetch cursor n = (cursor, .page [] true) :=
  if_pos ended

/-- The page is lost where a call fails. -/
def Breaks (cursor : Cursor Row) (n : Option UInt32) : Prop :=
  (∃ text, (takenRows cursor n).stop = .failed text) ∨
    (takenRows cursor n).stop = .done ∧ closeFails cursor.dataSet = true

def advanced (cursor : Cursor Row) (n : Option UInt32) : Cursor Row :=
  { cursor with
    dataSet := { cursor.dataSet with calls := (takenRows cursor n).rest }
    fetched := cursor.fetched + (takenRows cursor n).rows.length }

section Open

variable (isOpen : ¬(cursor.done || cursor.isNil) = true)
include isOpen

theorem fetch_full (stop : (takenRows cursor n).stop = .full) :
    handleCursorFetch cursor n = (advanced cursor n, .page (takenRows cursor n).rows false) := by
  rw [handleCursorFetch, if_neg isOpen]
  change (match (takenRows cursor n).stop with | .failed _ => _ | .full => _ | .done => _) = _
  rw [stop]
  rfl

theorem fetch_failed {text : Chars} (stop : (takenRows cursor n).stop = .failed text) :
    handleCursorFetch cursor n = (advanced cursor n, .failed text) := by
  rw [handleCursorFetch, if_neg isOpen]
  change (match (takenRows cursor n).stop with | .failed _ => _ | .full => _ | .done => _) = _
  rw [stop]
  rfl

theorem fetch_done (stop : (takenRows cursor n).stop = .done) :
    handleCursorFetch cursor n =
      match cursor.dataSet.closing with
      | some text =>
        if isStatementIDNotSet text then
          ({ advanced cursor n with done := true, isNil := true },
            .page (takenRows cursor n).rows true)
        else ({ advanced cursor n with done := true }, .failed text)
      | none =>
        ({ advanced cursor n with done := true, isNil := true },
          .page (takenRows cursor n).rows true) := by
  rw [handleCursorFetch, if_neg isOpen]
  change (match (takenRows cursor n).stop with | .failed _ => _ | .full => _ | .done => _) = _
  rw [stop]
  rfl

theorem fetch_page : (handleCursorFetch cursor n).2.rows = (takenRows cursor n).rows ∧
      ¬Breaks cursor n ∨ (handleCursorFetch cursor n).2.rows = [] ∧ Breaks cursor n := by
  unfold Breaks
  cases stop : (takenRows cursor n).stop with
  | full =>
    rw [fetch_full isOpen stop]
    exact Or.inl ⟨rfl, by simp⟩
  | failed text =>
    rw [fetch_failed isOpen stop]
    exact Or.inr ⟨rfl, Or.inl ⟨text, rfl⟩⟩
  | done =>
    rw [fetch_done isOpen stop, closeFails]
    cases cursor.dataSet.closing with
    | none => exact Or.inl ⟨rfl, by simp⟩
    | some text =>
      by_cases gone : isStatementIDNotSet text = true
      · exact Or.inl (by simp [gone, FetchReply.rows])
      · exact Or.inr (by simp [gone, FetchReply.rows])

theorem fetch_advanced :
    (handleCursorFetch cursor n).1.dataSet.calls = (advanced cursor n).dataSet.calls ∧
      (handleCursorFetch cursor n).1.maxRows = cursor.maxRows ∧
      (handleCursorFetch cursor n).1.fetched = (advanced cursor n).fetched := by
  cases stop : (takenRows cursor n).stop with
  | full =>
    rw [fetch_full isOpen stop]
    exact ⟨rfl, rfl, rfl⟩
  | failed text =>
    rw [fetch_failed isOpen stop]
    exact ⟨rfl, rfl, rfl⟩
  | done =>
    rw [fetch_done isOpen stop]
    cases cursor.dataSet.closing with
    | none => exact ⟨rfl, rfl, rfl⟩
    | some text =>
      dsimp only
      split <;> exact ⟨rfl, rfl, rfl⟩

end Open

theorem unbroken_iff {delivery : Delivery Row}
    (isOpen : ¬(delivery.cursor.done || delivery.cursor.isNil) = true) :
    Unbroken delivery n ↔ (Breaks delivery.cursor n → (takenRows delivery.cursor n).rows = []) := by
  have takes := takenRows_takes delivery.cursor n
  have isDone : (takenRows delivery.cursor n).stop = .done ↔
      (takenRows delivery.cursor n).stop ≠ .full ∧
        ¬∃ text, (takenRows delivery.cursor n).stop = .failed text := by
    cases (takenRows delivery.cursor n).stop <;> simp
  have ended := Bool.or_eq_false_iff.mp (Bool.eq_false_iff.mpr isOpen)
  have small : roomFor delivery.cursor n ≤ pageSize n := limited_le _ _ _
  have lengths : (takenRows delivery.cursor n).rows.length =
    min (readyRows delivery.cursor.dataSet.calls) (roomFor delivery.cursor n) := takes.length
  have fails := takes.failed
  change _ ↔ _ < roomFor delivery.cursor n ∧ _ at fails
  rw [Unbroken, Breaks, isDone, ne_eq, takes.full, fails, ← List.length_eq_zero_iff, lengths,
    ended.1, ended.2]
  -- What is left is about numbers and two flags.
  cases nextFails delivery.cursor.dataSet.calls <;> cases closeFails delivery.cursor.dataSet <;>
    grind

theorem fetch_bounded : (handleCursorFetch cursor n).2.rows.length ≤ pageSize n := by
  by_cases ended : (cursor.done || cursor.isNil) = true
  · rw [handleCursorFetch_ended ended]
    exact Nat.zero_le _
  · rcases fetch_page ended (n := n) with ⟨page, _⟩ | ⟨page, _⟩
    · rw [page, (takenRows_takes cursor n).length]
      exact Nat.le_trans (Nat.min_le_right _ _) (limited_le _ _ _)
    · rw [page]
      exact Nat.zero_le _

theorem step_kept_iff {rows : List Row} {delivery : Delivery Row} (kept : Kept rows delivery) :
    Kept rows ((fetches Row).step delivery n).1 ↔ Unbroken delivery n := by
  have step : ((fetches Row).step delivery n).1 =
    { cursor := (handleCursorFetch delivery.cursor n).1,
      given := delivery.given ++ (handleCursorFetch delivery.cursor n).2.rows } := rfl
  rw [step, Kept]
  by_cases ended : (delivery.cursor.done || delivery.cursor.isNil) = true
  · rw [handleCursorFetch_ended ended]
    refine iff_of_true ?_ ?_
    · rw [FetchReply.rows, List.append_nil]
      exact kept
    · rw [Bool.or_eq_true] at ended
      rcases ended with done | isNil
      · exact Or.inl done
      · exact Or.inr (Or.inl isNil)
  · have split := (takenRows_takes delivery.cursor n).split
    rw [(fetch_advanced ended).1, unbroken_iff ended, ← kept, ← split]
    change delivery.given ++ _ ++ rowsOf (takenRows delivery.cursor n).rest = _ ↔ _
    rw [List.append_assoc, List.append_right_inj, List.append_left_inj]
    rcases fetch_page ended (n := n) with ⟨page, whole⟩ | ⟨page, broken⟩
    · rw [page]
      exact iff_of_true rfl fun broken => absurd broken whole
    · rw [page]
      exact ⟨fun none _ => none.symm, fun none => (none broken).symm⟩

end Request

/-! ## Runs -/

/-- No more rows are given than counted, and no more counted than `max_rows`. -/
structure Counted (maxRows : Option Nat) (delivery : Delivery Row) : Prop where
  limit : delivery.cursor.maxRows = maxRows
  given : delivery.given.length ≤ delivery.cursor.fetched
  within : ∀ most ∈ maxRows, delivery.cursor.fetched ≤ most

variable {maxRows : Option Nat} {delivery : Delivery Row}

theorem step_counted (counted : Counted maxRows delivery) (n : Option UInt32) :
    Counted maxRows ((fetches Row).step delivery n).1 := by
  have step : ((fetches Row).step delivery n).1 =
    { cursor := (handleCursorFetch delivery.cursor n).1,
      given := delivery.given ++ (handleCursorFetch delivery.cursor n).2.rows } := rfl
  rw [step]
  by_cases ended : (delivery.cursor.done || delivery.cursor.isNil) = true
  · rw [handleCursorFetch_ended ended, FetchReply.rows, List.append_nil]
    exact ⟨counted.limit, counted.given, counted.within⟩
  · obtain ⟨_, limit, fetched⟩ := fetch_advanced ended (n := n)
    have taken := (takenRows_takes delivery.cursor n).length
    have more : (advanced delivery.cursor n).fetched =
      delivery.cursor.fetched + (takenRows delivery.cursor n).rows.length := rfl
    refine ⟨limit.trans counted.limit, ?_, fun most among => ?_⟩
    · have page : (handleCursorFetch delivery.cursor n).2.rows.length ≤
          (takenRows delivery.cursor n).rows.length := by
        rcases fetch_page ended (n := n) with ⟨page, _⟩ | ⟨page, _⟩ <;> simp [page]
      have given := counted.given
      rw [fetched, more, List.length_append]
      omega
    · have within := counted.within most among
      rw [counted.limit, Option.mem_def.mp among, limited] at taken
      rw [fetched, more]
      omega

theorem run_given (delivery : Delivery Row) (requests : List (Option UInt32)) :
    ((fetches Row).run delivery requests).1.given =
      delivery.given ++ ((fetches Row).run delivery requests).2.flatMap FetchReply.rows := by
  induction requests generalizing delivery with
  | nil => exact (List.append_nil _).symm
  | cons n rest ih =>
    rw [Machine.run, List.flatMap_cons, ← List.append_assoc]
    exact ih _

theorem run_bounded (delivery : Delivery Row) (requests : List (Option UInt32)) :
    List.Forall₂ (fun n reply => reply.rows.length ≤ pageSize n) requests
      ((fetches Row).run delivery requests).2 := by
  induction requests generalizing delivery with
  | nil => exact .nil
  | cons n rest ih => exact .cons fetch_bounded (ih _)

theorem given_due {rows : List Row} (counted : Counted maxRows delivery)
    (kept : Kept rows delivery) : delivery.given <+: dueRows maxRows rows := by
  have first : delivery.given <+: rows := ⟨_, kept⟩
  cases maxRows with
  | none => exact first
  | some most =>
    have short := Nat.le_trans counted.given (counted.within most rfl)
    rw [dueRows, List.prefix_iff_eq_take.mp first]
    exact List.take_prefix_take_left short

theorem opened_counted (dataSet : DataSet Row) (maxRows : Option Nat) :
    Counted maxRows { cursor := openCursor dataSet maxRows } :=
  ⟨rfl, Nat.le_refl _, fun _ _ => Nat.zero_le _⟩

/-- Nothing is lost in a run exactly if each request that takes rows meets no call that fails. -/
theorem fetches_lose_nothing_iff (dataSet : DataSet Row) (maxRows : Option Nat)
    (requests : List (Option UInt32)) :
    LosesNothing dataSet maxRows requests ↔
      (fetches Row).Respects Unbroken { cursor := openCursor dataSet maxRows } requests := by
  have kept_iff := visited_property_iff (fetches Row) Unbroken (Kept (rowsOf dataSet.calls))
    (Kept (rowsOf dataSet.calls)) (fun _ kept => kept)
    { cursor := openCursor dataSet maxRows } requests
    (fun _ _ _ kept unbroken => (step_kept_iff kept).mpr unbroken)
    (fun _ _ _ kept after => (step_kept_iff kept).mp after) (List.nil_append _)
  constructor
  · intro right
    exact kept_iff.mp right.kept
  · intro respects
    have kept := kept_iff.mpr respects
    refine ⟨kept, ?_, run_bounded _ _⟩
    have counted := visited_invariant (fetches Row) (Counted maxRows)
      (fun _ n counted => step_counted counted n) _ requests (opened_counted dataSet maxRows)
    have last := run_mem_visited (fetches Row) { cursor := openCursor dataSet maxRows } requests
    have due := given_due (counted _ last) (kept _ last)
    rw [run_given] at due
    exact due

/-- Two rows, the second call of `Next` fails between them. -/
def brokenSet : DataSet Nat where
  calls := [.row 1, .failed "timeout".toList, .row 2]

def unclosedSet : DataSet Nat where
  calls := [.row 1, .row 2]
  closing := some "timeout".toList

/-- The row before a failing call is in no page, though the cursor goes on or is done. -/
theorem taken_rows_lost :
    ((fetches Nat).run { cursor := openCursor brokenSet none } [some 2, some 2]).2 =
        [.failed "timeout".toList, .page [2] true] ∧
      ((fetches Nat).run { cursor := openCursor unclosedSet none } [none, none]).2 =
        [.failed "timeout".toList, .page [] true] ∧
      ¬LosesNothing brokenSet none [some 2, some 2] ∧
      ¬LosesNothing unclosedSet none [none, none] := by
  refine ⟨rfl, rfl, fun right => ?_, fun right => ?_⟩
  · have kept : [2] = [1, 2] := right.kept _ (run_mem_visited _ _ _)
    exact absurd kept (by decide)
  · have kept : [] = [1, 2] := right.kept _ (run_mem_visited _ _ _)
    exact absurd kept (by decide)

end Onetcli.Iotdb
