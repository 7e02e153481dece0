import Onetcli.DuckDb.Handlers
import Onetcli.ExportColumns
import Onetcli.Lib.Chars

/-!
Pages of a query: `run_query_page` of extensions/ipc/duckdb/src/handlers.rs wraps the query
and lets the engine cut the page, and the states of cursors and export streams in state.rs keep
the number of rows they have seen. `Progress` is what the two have in common.
-/

namespace Onetcli.DuckDb

open Chars Tables Protocol

abbrev CursorId := String
abbrev StreamId := String

/-- The errors of calls on cursors and streams: the codes UNKNOWN_CURSOR_ID and RESOURCE_CLOSED,
and those of the other calls. -/
inductive QueryError where
  | unknownCursor (message : String)
  | resourceClosed (message : String)
  | other (err : ProtocolError)
  deriving DecidableEq

/-- What a `duckdb::Connection` answers to a query with bound values. -/
structure QueryEngine (World Value Row : Type) where
  queryRows : ConnId → String → List Value → World → World × Except QueryError (List Row)

def pageQuerySql (sql : String) (limit offset : Nat) : String :=
  "SELECT * FROM (" ++ trimmedQuerySql sql ++ ") AS __navop_cursor_page LIMIT " ++
    toString limit ++ " OFFSET " ++ toString offset

theorem digits_space (number : Nat) : ∀ char ∈ (toString number).toList, (char == ' ') = false := by
  intro char member
  rw [Nat.toString_eq_repr, Nat.toList_repr] at member
  have digit := Nat.isDigit_of_mem_toDigits (by decide) (by decide) member
  apply beq_eq_false_iff_ne.mpr
  rintro rfl
  cases digit

theorem pageQuerySql_inj {sql : String} {limit offset limit' offset' : Nat}
    (same : pageQuerySql sql limit offset = pageQuerySql sql limit' offset') :
    limit = limit' ∧ offset = offset' := by
  unfold pageQuerySql at same
  generalize "SELECT * FROM (" ++ trimmedQuerySql sql ++ ") AS __navop_cursor_page LIMIT " = start
    at same
  rw [String.append_assoc, String.append_assoc, String.append_assoc, String.append_assoc,
    String.append_right_inj] at same
  have chars := congrArg String.toList same
  rw [String.toList_append, String.toList_append, String.toList_append, String.toList_append]
    at chars
  -- The first blank after the common start ends the limit.
  have cut (limit offset : Nat) : splitOnce (· == ' ')
      ((toString limit).toList ++ (" OFFSET ".toList ++ (toString offset).toList)) =
        some ((toString limit).toList, "OFFSET ".toList ++ (toString offset).toList) :=
    splitOnce_append (digits_space limit) (beq_self_eq_true ' ') _
  have parts := congrArg (splitOnce (· == ' ')) chars
  rw [cut, cut] at parts
  obtain ⟨first, second⟩ := Prod.mk.inj (Option.some.inj parts)
  exact ⟨Text.digits_injective (String.toList_injective first),
    Text.digits_injective (String.toList_injective (List.append_cancel_left second))⟩

section Pages

variable {World Value Row : Type} (engine : QueryEngine World Value Row)

def runQueryPage (connId : ConnId) (sql : String) (params : List Value) (limit offset : Nat)
    (world : World) : World × Except QueryError (List Row) :=
  engine.queryRows connId (pageQuerySql sql limit offset) params world

/-- The rows of a result; the engine counts them in 64 bits. -/
abbrev ResultList (Row : Type) := { rows : List Row // rows.length < 2 ^ 64 }

def PagesOf (connId : ConnId) (sql : String) (params : List Value) (table : ResultList Row) : Prop :=
  ∀ limit offset world rows,
    (runQueryPage engine connId sql params limit offset world).2 = .ok rows →
      rows = (table.val.drop offset).take limit

def pagesEngine (World Value : Type) (sql : String) (table : List Row) (known : List (Nat × Nat)) :
    QueryEngine World Value Row where
  queryRows _ text _ world := (world,
    match known.find? fun page => text == pageQuerySql sql page.1 page.2 with
    | some (limit, offset) => .ok ((table.drop offset).take limit)
    | none => .error (.other ⟨.sqlSyntaxError, text⟩))

theorem pagesEngine_pages {sql : String} (table : ResultList Row) (known : List (Nat × Nat))
    (connId : ConnId) (params : List Value) :
    PagesOf (pagesEngine World Value sql table.val known) connId sql params table := by
  intro limit offset world rows answered
  simp only [runQueryPage, pagesEngine] at answered
  cases found : known.find? fun page =>
      pageQuerySql sql limit offset == pageQuerySql sql page.1 page.2 with
  | none =>
    rw [found] at answered
    cases answered
  | some page =>
    rw [found] at answered
    have named := List.find?_some found
    obtain ⟨sameLimit, sameOffset⟩ := pageQuerySql_inj (beq_iff_eq.mp named)
    rw [sameLimit, sameOffset]
    exact (Except.ok.inj answered).symm

end Pages

/-- `saturating_add` on a `u64`. -/
def saturatingAdd (a b : Nat) : Nat := min (a + b) (2 ^ 64 - 1)

structure Progress where
  nextRow : Nat := 0
  maxRows : Option Nat
  done : Bool

/-- A cursor or a stream is done at once when it may give no row. -/
def Progress.start (maxRows : Option Nat) : Progress :=
  { maxRows, done := maxRows = some 0 }

def Progress.remainingMaxRows (progress : Progress) : Option Nat :=
  progress.maxRows.map (· - progress.nextRow)

def Progress.advance (progress : Progress) (fetched requested : Nat) : Progress :=
  let next := { progress with
    nextRow := saturatingAdd progress.nextRow fetched
    done := progress.done || decide (fetched < requested) }
  { next with done := next.done || decide (next.remainingMaxRows = some 0) }

/-! ## The rows still to come -/

section Due

variable {Row : Type} {table : ResultList Row} {progress : Progress}

def wantedRows (maxRows : Option Nat) (table : ResultList Row) : List Row :=
  match maxRows with
  | none => table.val
  | some most => table.val.take most

def Progress.due (table : ResultList Row) (progress : Progress) : List Row :=
  (wantedRows progress.maxRows table).drop progress.nextRow

/-- Until it is done there may be rows to come, and not more were seen than there are. -/
structure Progress.Sound (table : ResultList Row) (progress : Progress) : Prop where
  within : progress.nextRow ≤ table.val.length
  room : progress.done = false → progress.remainingMaxRows ≠ some 0

theorem Progress.start_sound (maxRows : Option Nat) : (start maxRows).Sound table := by
  refine ⟨Nat.zero_le _, fun undone none => ?_⟩
  have notZero : maxRows ≠ some 0 := of_decide_eq_false undone
  cases maxRows with
  | none => cases none
  | some most =>
    simp only [remainingMaxRows, start, Option.map_some, Nat.sub_zero] at none
    exact notZero none

theorem Progress.page_due {limit : Nat}
    (fits : ∀ remaining, progress.remainingMaxRows = some remaining → limit ≤ remaining) :
    (table.val.drop progress.nextRow).take limit = (progress.due table).take limit := by
  rcases progress with ⟨nextRow, maxRows, done⟩
  cases maxRows with
  | none => rfl
  | some most =>
    have below : limit ≤ most - nextRow := fits _ rfl
    simp only [due, wantedRows, List.drop_take, List.take_take, Nat.min_eq_left below]

theorem Progress.advance_nextRow {fetched : Nat} (requested : Nat)
    (within : progress.nextRow + fetched ≤ table.val.length) :
    (progress.advance fetched requested).nextRow = progress.nextRow + fetched := by
  have bound := table.property
  exact Nat.min_eq_left (by omega)

-- After a page of at most `limit` rows: what is due is split at its end, and the progress is
-- done only when nothing is left.
theorem Progress.advance_page {limit : Nat} (sound : progress.Sound table)
    (undone : progress.done = false)
    (fits : ∀ remaining, progress.remainingMaxRows = some remaining → limit ≤ remaining) :
    let page := (progress.due table).take limit
    let next := progress.advance page.length limit
    next.Sound table ∧ progress.due table = page ++ next.due table ∧
      (next.done = true → next.due table = []) ∧ (next.done = false → 0 < limit → page ≠ []) := by
  intro page next
  have isPage : page = (table.val.drop progress.nextRow).take limit := (page_due fits).symm
  have length : page.length = min limit (table.val.length - progress.nextRow) := by
    rw [isPage, List.length_take, List.length_drop]
  have inside : progress.nextRow + page.length ≤ table.val.length := by
    have := sound.within
    omega
  have moved : next.nextRow = progress.nextRow + page.length :=
    advance_nextRow limit inside
  have dueNext : next.due table = (progress.due table).drop page.length := by
    rw [due, due, moved, List.drop_drop]
    rfl
  have split : progress.due table = page ++ next.due table := by
    have whole : page.length = limit ∨ (progress.due table).length ≤ limit := by
      have size : page.length = min limit (progress.due table).length := List.length_take
      omega
    rw [dueNext]
    rcases whole with full | short
    · rw [full]
      exact (List.take_append_drop _ _).symm
    · have all : page = progress.due table := List.take_of_length_le short
      rw [all, List.drop_length, List.append_nil]
  have isDone : next.done = (decide (page.length < limit) ||
      decide (next.remainingMaxRows = some 0)) := by
    simp only [next, advance, undone, Bool.false_or]
    rfl
  refine ⟨⟨by omega, fun undoneNext none => ?_⟩, split, fun ended => ?_, fun undoneNext some => ?_⟩
  · rw [isDone, decide_eq_true none, Bool.or_true] at undoneNext
    cases undoneNext
  · rw [isDone, Bool.or_eq_true, decide_eq_true_eq, decide_eq_true_eq] at ended
    apply List.drop_eq_nil_of_le
    rw [moved]
    have most : (wantedRows next.maxRows table).length ≤ table.val.length := by
      unfold wantedRows
      split
      · exact Nat.le_refl _
      · exact List.length_take_le' _ _
    rcases ended with short | limited
    · omega
    · rcases bound : next.maxRows with none | most
      · rw [remainingMaxRows, bound] at limited
        cases limited
      · rw [remainingMaxRows, bound, moved] at limited
        have zero : most - (progress.nextRow + page.length) = 0 := Option.some.inj limited
        have shorter : (table.val.take most).length ≤ most := List.length_take_le _ _
        exact Nat.le_trans shorter (by omega)
  · intro empty
    rw [isDone, empty, List.length_nil, decide_eq_true some, Bool.true_or] at undoneNext
    cases undoneNext

end Due

end Onetcli.DuckDb
