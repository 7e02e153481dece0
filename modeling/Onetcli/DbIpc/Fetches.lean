import Onetcli.DbIpc.Effects

/-!
What `cursor/fetch` does to a result set. The loop takes rows until the page is full, the
row limit is reached, the rows end, or one of them cannot be scanned; of the last two only
an end without an error keeps the rows that were taken.
-/

namespace Onetcli.DbIpc

variable {World : Type}

/-- The rows to come, scanned or failing to scan. -/
def Rows.left (rows : Rows) : List (Except String (List SqlValue)) :=
  if rows.closed then [] else rows.pending

theorem Rows.next_left_nil {rows : Rows} (ended : rows.left = []) :
    rows.next.2 = none ∧ rows.next.1.left = [] ∧ rows.next.1.err = rows.err ∧
      rows.next.1.closed = true ∧ rows.next.1.closeErr = rows.closeErr := by
  rcases rows with ⟨columns, pending, err, closeErr, closed⟩
  cases closed with
  | true => exact ⟨rfl, rfl, rfl, rfl, rfl⟩
  | false =>
    cases pending with
    | nil => exact ⟨rfl, rfl, rfl, rfl, rfl⟩
    | cons row rest => cases ended

theorem Rows.next_left_cons {rows : Rows} {row : Except String (List SqlValue)}
    {rest : List (Except String (List SqlValue))} (here : rows.left = row :: rest) :
    rows.next = ({ rows with pending := rest }, some row) ∧
      ({ rows with pending := rest } : Rows).left = rest := by
  rcases rows with ⟨columns, pending, err, closeErr, closed⟩
  cases closed with
  | true => cases here
  | false =>
    cases pending with
    | nil => cases here
    | cons first others =>
      cases here
      exact ⟨rfl, rfl⟩

/-- The rows that a page may still take. -/
def roomFor (maxRows : Option Nat) (fetched n : Nat) : Nat :=
  match maxRows with
  | none => n
  | some limit => min n (limit - fetched)

theorem roomFor_zero {maxRows : Option Nat} {fetched n : Nat} (full : roomFor maxRows fetched n = 0) :
    n = 0 ∨ atLimit maxRows fetched = true := by
  cases maxRows with
  | none => exact Or.inl full
  | some limit =>
    simp only [roomFor, atLimit, decide_eq_true_eq] at full ⊢
    omega

theorem roomFor_sub (maxRows : Option Nat) (fetched n taken : Nat) :
    roomFor maxRows (fetched + taken) (n - taken) = roomFor maxRows fetched n - taken := by
  cases maxRows with
  | none => rfl
  | some limit =>
    simp only [roomFor]
    omega

theorem roomFor_pos {maxRows : Option Nat} {fetched n taken : Nat}
    (short : taken < roomFor maxRows fetched n) :
    (∃ more, n - taken = more + 1) ∧ atLimit maxRows (fetched + taken) = false := by
  cases maxRows with
  | none => exact ⟨Nat.exists_eq_add_one.mpr (Nat.sub_pos_of_lt short), rfl⟩
  | some limit =>
    simp only [roomFor, atLimit, decide_eq_false_iff_not] at short ⊢
    exact ⟨Nat.exists_eq_add_one.mpr (by omega), by omega⟩

section Pages

variable (kinds : List String) (maxRows : Option Nat)

def pageOf (front : List (List SqlValue)) : List (List (SqlValue × String)) :=
  front.map fun values => values.zip kinds

-- Rows that there is room for are taken.
theorem fetchRows_front {n fetched : Nat} {rows : Rows} (out : List (List (SqlValue × String)))
    {front : List (List SqlValue)} {rest : List (Except String (List SqlValue))}
    (here : rows.left = front.map .ok ++ rest) (room : front.length ≤ roomFor maxRows fetched n) :
    ∃ after : Rows, fetchRows kinds maxRows n rows fetched out =
        fetchRows kinds maxRows (n - front.length) after (fetched + front.length)
          (out ++ pageOf kinds front) ∧
      after.left = rest ∧ after.err = rows.err ∧ after.closeErr = rows.closeErr ∧
        after.closed = rows.closed := by
  induction front generalizing n fetched rows out with
  | nil =>
    refine ⟨rows, ?_, here, rfl, rfl, rfl⟩
    simp [pageOf]
  | cons values front ih =>
    rw [List.length_cons] at room
    obtain ⟨⟨more, rfl⟩, below⟩ := roomFor_pos (Nat.zero_lt_of_lt room)
    obtain ⟨next, left⟩ := Rows.next_left_cons here
    have later : front.length ≤ roomFor maxRows (fetched + 1) more := by
      have less := roomFor_sub maxRows fetched (more + 1) 1
      rw [Nat.add_sub_cancel] at less
      omega
    obtain ⟨after, ran, kept⟩ := ih (out ++ [values.zip kinds]) left later
    refine ⟨after, ?_, kept⟩
    rw [fetchRows, show atLimit maxRows fetched = false from below, next]
    simp only [Bool.false_eq_true, if_false, ran, pageOf, List.map_cons, List.length_cons,
      List.append_assoc, List.singleton_append, Nat.add_assoc, Nat.add_comm 1,
      Nat.add_sub_add_right]

theorem fetchRows_full {n fetched : Nat} {rows : Rows} (out : List (List (SqlValue × String)))
    {front : List (List SqlValue)} {rest : List (Except String (List SqlValue))}
    (here : rows.left = front.map .ok ++ rest) (fills : front.length = roomFor maxRows fetched n) :
    ∃ after : Rows, fetchRows kinds maxRows n rows fetched out =
        (after, .ok (out ++ pageOf kinds front, atLimit maxRows (fetched + front.length),
          fetched + front.length)) ∧
      after.left = rest ∧ after.err = rows.err ∧ after.closeErr = rows.closeErr ∧
        after.closed = rows.closed := by
  obtain ⟨after, ran, kept⟩ := fetchRows_front kinds maxRows out here fills.le
  refine ⟨after, ran.trans ?_, kept⟩
  have full := roomFor_sub maxRows fetched n front.length
  rw [fills.symm, Nat.sub_self] at full
  rcases roomFor_zero full with none | limit
  · rw [none, fetchRows]
  · unfold fetchRows
    split <;> simp [limit]

theorem fetchRows_end {n fetched : Nat} {rows : Rows} (out : List (List (SqlValue × String)))
    {front : List (List SqlValue)} (here : rows.left = front.map .ok)
    (short : front.length < roomFor maxRows fetched n) :
    ∃ after : Rows, fetchRows kinds maxRows n rows fetched out = (after, match rows.err with
          | some err => .error err
          | none => .ok (out ++ pageOf kinds front, true, fetched + front.length)) ∧
      after.left = [] ∧ after.err = rows.err ∧ after.closed = true := by
  obtain ⟨middle, ran, left, sameErr, _⟩ :=
    fetchRows_front kinds maxRows out (here.trans (List.append_nil _).symm) short.le
  obtain ⟨⟨more, room⟩, below⟩ := roomFor_pos short
  obtain ⟨next, left, same, isClosed, _⟩ := Rows.next_left_nil left
  rcases moved : middle.next with ⟨after, row⟩
  rw [moved] at next left same isClosed
  subst next
  replace same : after.err = rows.err := same.trans sameErr
  refine ⟨after, ?_, left, same, isClosed⟩
  rw [ran, room, fetchRows, below, moved]
  cases reported : rows.err <;> simp [same, reported]

-- A row before the end of the page cannot be scanned.
theorem fetchRows_fails {n fetched : Nat} {rows : Rows} (out : List (List (SqlValue × String)))
    {front : List (List SqlValue)} {err : String} {rest : List (Except String (List SqlValue))}
    (here : rows.left = front.map .ok ++ .error err :: rest)
    (short : front.length < roomFor maxRows fetched n) :
    ∃ after : Rows, fetchRows kinds maxRows n rows fetched out = (after, .error err) ∧
      after.left = rest ∧ after.err = rows.err ∧ after.closeErr = rows.closeErr ∧
        after.closed = rows.closed := by
  obtain ⟨middle, ran, left, kept⟩ := fetchRows_front kinds maxRows out here short.le
  obtain ⟨⟨more, room⟩, below⟩ := roomFor_pos short
  obtain ⟨next, left⟩ := Rows.next_left_cons left
  refine ⟨{ middle with pending := rest }, ?_, left, kept⟩
  rw [ran, room, fetchRows, below, next]
  rfl

end Pages

theorem rows_cases (left : List (Except String (List SqlValue))) (room : Nat) :
    (∃ front rest, left = List.map .ok front ++ rest ∧ front.length = room) ∨
      (∃ front, left = List.map .ok front ∧ front.length < room) ∨
      ∃ front err rest, left = List.map .ok front ++ .error err :: rest ∧ front.length < room := by
  induction room generalizing left with
  | zero => exact Or.inl ⟨[], left, rfl, rfl⟩
  | succ room ih =>
    cases left with
    | nil => exact Or.inr (Or.inl ⟨[], rfl, Nat.succ_pos room⟩)
    | cons row left =>
      cases row with
      | error err => exact Or.inr (Or.inr ⟨[], err, left, rfl, Nat.succ_pos room⟩)
      | ok values =>
        rcases ih left with ⟨front, rest, same, full⟩ | ⟨front, same, short⟩ |
          ⟨front, err, rest, same, short⟩
        · exact Or.inl ⟨values :: front, rest, by rw [same]; rfl, congrArg (· + 1) full⟩
        · exact Or.inr (Or.inl ⟨values :: front, by rw [same]; rfl, Nat.succ_lt_succ short⟩)
        · exact Or.inr (Or.inr ⟨values :: front, err, rest, by rw [same]; rfl,
            Nat.succ_lt_succ short⟩)

/-- What a fetch of at most `n` rows makes of an open cursor: a row fails, or the rows end with
an error, or a page is full; or it is the last page, at the end of the rows or at the row
limit, and then closing the rows may fail. -/
inductive Fetched (rt : Runtime World) (cursor : CursorState) (rows : Rows) (n : Nat) :
    CursorState × Answer → Prop
  | failed (front : List (List SqlValue)) (err : String)
      (rest : List (Except String (List SqlValue))) (after : Rows)
      (here : rows.left = front.map .ok ++ .error err :: rest)
      (short : front.length < roomFor cursor.maxRows cursor.fetched n) (left : after.left = rest) :
      Fetched rt cursor rows n
        ({ cursor with rows := some after }, .error (refuse errSQLSyntax err))
  | broken (front : List (List SqlValue)) (err : String) (after : Rows)
      (here : rows.left = front.map .ok)
      (short : front.length < roomFor cursor.maxRows cursor.fetched n)
      (reported : rows.err = some err) (left : after.left = []) :
      Fetched rt cursor rows n
        ({ cursor with rows := some after }, .error (refuse errSQLSyntax err))
  | page (front : List (List SqlValue)) (rest : List (Except String (List SqlValue)))
      (after : Rows) (here : rows.left = front.map .ok ++ rest)
      (full : front.length = roomFor cursor.maxRows cursor.fetched n)
      (below : atLimit cursor.maxRows (cursor.fetched + front.length) = false)
      (left : after.left = rest) (sameErr : after.err = rows.err) :
      Fetched rt cursor rows n
        ({ cursor with rows := some after, fetched := cursor.fetched + front.length },
          pageReply rt (pageOf cursor.kinds front) false)
  | ended (front : List (List SqlValue)) (here : rows.left = front.map .ok)
      (short : front.length < roomFor cursor.maxRows cursor.fetched n) (quiet : rows.err = none) :
      Fetched rt cursor rows n
        ({ cursor with rows := none, fetched := cursor.fetched + front.length, done := true },
          pageReply rt (pageOf cursor.kinds front) true)
  | limited (front : List (List SqlValue)) (rest : List (Except String (List SqlValue)))
      (here : rows.left = front.map .ok ++ rest)
      (full : front.length = roomFor cursor.maxRows cursor.fetched n)
      (limit : atLimit cursor.maxRows (cursor.fetched + front.length) = true)
      (closes : rows.close.2 = none) :
      Fetched rt cursor rows n
        ({ cursor with rows := none, fetched := cursor.fetched + front.length, done := true },
          pageReply rt (pageOf cursor.kinds front) true)
  | unclosed (front : List (List SqlValue)) (rest : List (Except String (List SqlValue)))
      (err : String) (after : Rows) (here : rows.left = front.map .ok ++ rest)
      (full : front.length = roomFor cursor.maxRows cursor.fetched n)
      (limit : atLimit cursor.maxRows (cursor.fetched + front.length) = true)
      (fails : rows.close.2 = some err) :
      Fetched rt cursor rows n
        ({ cursor with
            rows := some after, fetched := cursor.fetched + front.length, done := true },
          .error (refuse errSQLSyntax err))

theorem Rows.close_answer {rows after : Rows} (sameErr : after.closeErr = rows.closeErr)
    (sameClosed : after.closed = rows.closed) : after.close.2 = rows.close.2 := by
  simp only [Rows.close, sameClosed, sameErr]
  cases rows.closed <;> rfl

theorem fetchPage_fetched (rt : Runtime World) (cursor : CursorState) (rows : Rows) (n : Nat) :
    Fetched rt cursor rows n (fetchPage rt cursor rows n) := by
  rcases rows_cases rows.left (roomFor cursor.maxRows cursor.fetched n) with
    ⟨front, rest, here, full⟩ | ⟨front, here, short⟩ | ⟨front, err, rest, here, short⟩
  · obtain ⟨after, ran, left, sameErr, sameClose, sameClosed⟩ :=
      fetchRows_full cursor.kinds cursor.maxRows [] here full
    rw [fetchPage, ran]
    cases limit : atLimit cursor.maxRows (cursor.fetched + front.length) with
    | false => exact .page front rest after here full limit left sameErr
    | true =>
      have answer := Rows.close_answer sameClose sameClosed
      rcases closing : after.close with ⟨closed, reported⟩
      rw [closing] at answer
      cases reported with
      | none =>
        simp only [closing]
        exact .limited front rest here full limit answer.symm
      | some err =>
        simp only [closing]
        exact .unclosed front rest err closed here full limit answer.symm
  · obtain ⟨after, ran, left, _, closed⟩ :=
      fetchRows_end cursor.kinds cursor.maxRows [] here short
    rw [fetchPage, ran]
    cases reported : rows.err with
    | some err => exact .broken front err after here short reported left
    | none =>
      have closes : after.close = (after, none) := by simp only [Rows.close, closed, if_true]
      simp only [closes]
      exact .ended front here short reported
  · obtain ⟨after, ran, left, _⟩ := fetchRows_fails cursor.kinds cursor.maxRows [] here short
    rw [fetchPage, ran]
    exact .failed front err rest after here short left

end Onetcli.DbIpc
