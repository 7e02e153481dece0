import Onetcli.DbIpc.CursorPages

/-!
Which fetches lose rows. The record of a run keeps, beside the server, the rows that the client
got and the rows that were taken from the result set; a fetch loses nothing exactly when the
rows that it scanned before it stopped are none, or when it gives them all.
-/

namespace Onetcli.DbIpc

open Runs Tables

variable {World : Type}

/-- The rows before the first that fails. -/
def leading : List (Except String (List SqlValue)) → List (List SqlValue)
  | .ok values :: rest => values :: leading rest
  | _ => []

theorem leading_append (front : List (List SqlValue))
    (rest : List (Except String (List SqlValue))) :
    leading (List.map .ok front ++ rest) = front ++ leading rest := by
  induction front with
  | nil => rfl
  | cons values front ih => exact congrArg (values :: ·) ih

theorem leading_ok (front : List (List SqlValue)) : leading (List.map .ok front) = front := by
  induction front with
  | nil => rfl
  | cons values front ih => exact congrArg (values :: ·) ih

/-- What the loop of `fetchRows` took from the result set. -/
def Rows.taken (rows after : Rows) : List (Except String (List SqlValue)) :=
  rows.left.take (rows.left.length - after.left.length)

theorem Rows.taken_eq {rows after : Rows} {taken : List (Except String (List SqlValue))}
    (split : rows.left = taken ++ after.left) : rows.taken after = taken := by
  rw [Rows.taken, split, List.length_append, Nat.add_sub_cancel]
  exact List.take_left' rfl

section Page

variable (rt : Runtime World) {cursor : CursorState} {rows : Rows} {n : Nat}

def scannedPage (cursor : CursorState) (rows : Rows) (n : Nat) : List (List SqlValue) :=
  leading (rows.left.take (roomFor cursor.maxRows cursor.fetched n))

theorem scannedPage_full {front : List (List SqlValue)}
    {rest : List (Except String (List SqlValue))} (here : rows.left = front.map .ok ++ rest)
    (full : front.length = roomFor cursor.maxRows cursor.fetched n) :
    scannedPage cursor rows n = front ∧
      (rows.left.take (roomFor cursor.maxRows cursor.fetched n)).length = front.length := by
  have all : (front.map (Except.ok (ε := String))).length =
      roomFor cursor.maxRows cursor.fetched n := by rw [List.length_map, full]
  rw [scannedPage, here, List.take_left' all]
  exact ⟨leading_ok front, List.length_map _⟩

theorem scannedPage_end {front : List (List SqlValue)} (here : rows.left = front.map .ok)
    (short : front.length < roomFor cursor.maxRows cursor.fetched n) :
    scannedPage cursor rows n = front ∧
      (rows.left.take (roomFor cursor.maxRows cursor.fetched n)).length = front.length := by
  have fits : (front.map (Except.ok (ε := String))).length ≤
      roomFor cursor.maxRows cursor.fetched n := by
    rw [List.length_map]
    exact Nat.le_of_lt short
  rw [scannedPage, here, List.take_of_length_le fits]
  exact ⟨leading_ok front, List.length_map _⟩

theorem scannedPage_fails {front : List (List SqlValue)} {err : String}
    {rest : List (Except String (List SqlValue))}
    (here : rows.left = front.map .ok ++ .error err :: rest)
    (short : front.length < roomFor cursor.maxRows cursor.fetched n) :
    scannedPage cursor rows n = front ∧
      (rows.left.take (roomFor cursor.maxRows cursor.fetched n)).length ≠ front.length := by
  obtain ⟨more, room⟩ := Nat.exists_eq_add_of_lt short
  have split : rows.left.take (roomFor cursor.maxRows cursor.fetched n) =
      front.map .ok ++ .error err :: rest.take more := by
    rw [here, room, List.take_append, List.length_map, List.take_of_length_le (by simp; omega)]
    have left : front.length + more + 1 - front.length = more + 1 := by omega
    rw [left, List.take_succ_cons]
  constructor
  · rw [scannedPage, split, leading_append]
    exact List.append_nil front
  · rw [split]
    simp

-- What one fetch takes from the result set: the scanned page, and the row at which it stops if
-- that row fails.
theorem taken_scanned (cursor : CursorState) (rows : Rows) (n : Nat) : ∃ taken, rows.left = taken ++
        (fetchRows cursor.kinds cursor.maxRows n rows cursor.fetched []).1.left ∧
      taken.filterMap Except.toOption = scannedPage cursor rows n := by
  rcases rows_cases rows.left (roomFor cursor.maxRows cursor.fetched n) with
    ⟨front, rest, here, full⟩ | ⟨front, here, short⟩ | ⟨front, err, rest, here, short⟩
  · obtain ⟨after, ran, left, _⟩ := fetchRows_full cursor.kinds cursor.maxRows [] here full
    refine ⟨front.map .ok, ?_, ?_⟩
    · rw [ran, left, here]
    · rw [filterMap_ok, (scannedPage_full here full).1]
  · obtain ⟨after, ran, left, _⟩ := fetchRows_end cursor.kinds cursor.maxRows [] here short
    refine ⟨front.map .ok, ?_, ?_⟩
    · rw [ran, left, here, List.append_nil]
    · rw [filterMap_ok, (scannedPage_end here short).1]
  · obtain ⟨after, ran, left, _⟩ := fetchRows_fails cursor.kinds cursor.maxRows [] here short
    refine ⟨front.map .ok ++ [.error err], ?_, ?_⟩
    · rw [ran, left, here, List.append_assoc, List.singleton_append]
    · rw [List.filterMap_append, filterMap_ok, (scannedPage_fails here short).1]
      exact List.append_nil front

/-- A fetch gives the rows that it scanned: there are none, or no row of the page fails, the
rows do not end with an error, they can be closed at the row limit, and the page can be
encoded. -/
def Keeping (cursor : CursorState) (n : Nat) : Prop :=
  ∀ rows, cursor.done = false → cursor.rows = some rows →
    scannedPage cursor rows n = [] ∨
      (rows.left.take (roomFor cursor.maxRows cursor.fetched n)).length =
          (scannedPage cursor rows n).length ∧
        ((scannedPage cursor rows n).length < roomFor cursor.maxRows cursor.fetched n →
          rows.err = none) ∧
        (atLimit cursor.maxRows (cursor.fetched + (scannedPage cursor rows n).length) = true →
          rows.close.2 = none) ∧
        rt.marshalCells (pageOf cursor.kinds (scannedPage cursor rows n)) = none

theorem pageOf_eq_nil {kinds : List String} {front : List (List SqlValue)} :
    pageOf kinds front = [] ↔ front = [] :=
  List.map_eq_nil_iff

theorem pageReply_gives {kinds : List String} {front : List (List SqlValue)} {done : Bool} :
    (pageReply rt (pageOf kinds front) done).pageRows = pageOf kinds front ↔
      front = [] ∨ rt.marshalCells (pageOf kinds front) = none := by
  unfold pageReply
  cases encoded : rt.marshalCells (pageOf kinds front) with
  | none => simp [Answer.pageRows]
  | some err => simp [Answer.pageRows, eq_comm (a := []), pageOf_eq_nil]

theorem below_of_short {maxRows : Option Nat} {fetched taken n : Nat}
    (short : taken < roomFor maxRows fetched n) : atLimit maxRows (fetched + taken) = false := by
  cases maxRows with
  | none => rfl
  | some limit =>
    have less : taken < limit - fetched := Nat.lt_of_lt_of_le short (Nat.min_le_right _ _)
    exact decide_eq_false (by omega)

theorem fetchPage_keeps (undone : cursor.done = false) (here : cursor.rows = some rows) :
    (fetchPage rt cursor rows n).2.pageRows = pageOf cursor.kinds (scannedPage cursor rows n) ↔
      Keeping rt cursor n := by
  have only : Keeping rt cursor n ↔ _ :=
    ⟨fun keeps => keeps rows undone here, fun keeps other _ same => by
      obtain rfl := Option.some.inj (here.symm.trans same)
      exact keeps⟩
  rw [only]
  have fetched := fetchPage_fetched rt cursor rows n
  generalize fetchPage rt cursor rows n = outcome at fetched
  cases fetched with
  | failed front err rest after split short left =>
    obtain ⟨page, longer⟩ := scannedPage_fails split short
    rw [page]
    simp only [longer, false_and, or_false, Answer.pageRows]
    exact eq_comm.trans pageOf_eq_nil
  | broken front err after split short reported =>
    rw [(scannedPage_end split short).1, reported]
    simp [short, Answer.pageRows, eq_comm (a := []), pageOf_eq_nil]
  | page front rest after split full below =>
    obtain ⟨page, whole⟩ := scannedPage_full split full
    rw [page, whole, ← full]
    simp [below, pageReply_gives]
  | ended front split short quiet =>
    obtain ⟨page, whole⟩ := scannedPage_end split short
    rw [page, whole]
    simp [quiet, below_of_short short, pageReply_gives]
  | limited front rest split full limit closes =>
    obtain ⟨page, whole⟩ := scannedPage_full split full
    rw [page, whole, ← full]
    simp [closes, pageReply_gives]
  | unclosed front rest err after split full limit fails =>
    rw [(scannedPage_full split full).1]
    simp [limit, fails, Answer.pageRows, eq_comm (a := []), pageOf_eq_nil]

theorem fetchPage_kinds : (fetchPage rt cursor rows n).1.kinds = cursor.kinds := by
  have fetched := fetchPage_fetched rt cursor rows n
  generalize fetchPage rt cursor rows n = outcome at fetched
  cases fetched <;> rfl

theorem fetchPage_rows (undone : (fetchPage rt cursor rows n).1.done = false) :
    (fetchPage rt cursor rows n).1.rows =
      some (fetchRows cursor.kinds cursor.maxRows n rows cursor.fetched []).1 := by
  rcases ran : fetchRows cursor.kinds cursor.maxRows n rows cursor.fetched [] with ⟨after, result⟩
  unfold fetchPage at undone ⊢
  rw [ran] at undone ⊢
  rcases result with err | ⟨page, done, fetched⟩
  · rfl
  · cases done with
    | false => rfl
    | true =>
      rcases closing : after.close with ⟨closed, reported⟩
      simp only [closing] at undone
      cases reported <;> cases undone

end Page

/-! ## Runs -/

/-- A run of fetches: the server, the rows that the replies gave, and the rows that the fetches
took from the result set. -/
structure FetchRecord (World : Type) where
  server : Server World
  delivered : List (List (SqlValue × String)) := []
  consumed : List (Except String (List SqlValue)) := []

def Server.taken (s : Server World) (cursorID : String) (n : Option Nat) :
    List (Except String (List SqlValue)) :=
  match s.cursors.lookup cursorID with
  | some cursor =>
    match cursor.done, cursor.rows with
    | false, some rows =>
      rows.taken (fetchRows cursor.kinds cursor.maxRows (fetchSize n) rows cursor.fetched []).1
    | _, _ => []
  | none => []

def recordedFetches (rt : Runtime World) (cursorID : String) :
    Machine (FetchRecord World) (Option Nat) Answer where
  step record n :=
    let fetched := handleCursorFetch rt record.server (.ok { cursorID, n })
    ({ server := fetched.1
       delivered := record.delivered ++ fetched.2.pageRows
       consumed := record.consumed ++ record.server.taken cursorID n }, fetched.2)

/-- The client has every row that was taken from the result set and could be scanned, so at
least every row before the first that failed. -/
def Kept (kinds : List String) (table : List (Except String (List SqlValue)))
    (record : FetchRecord World) : Prop :=
  record.consumed <+: table ∧
    record.delivered = pageOf kinds (record.consumed.filterMap Except.toOption)

def Reading (cursorID : String) (kinds : List String)
    (table : List (Except String (List SqlValue))) (record : FetchRecord World) : Prop :=
  ∃ cursor, record.server.cursors.lookup cursorID = some cursor ∧ cursor.kinds = kinds ∧
    record.consumed <+: table ∧ (cursor.done = false →
      ∃ rows, cursor.rows = some rows ∧ table = record.consumed ++ rows.left)

def KeepingAt (rt : Runtime World) (cursorID : String) (record : FetchRecord World)
    (n : Option Nat) : Prop :=
  ∀ cursor, record.server.cursors.lookup cursorID = some cursor →
    Keeping rt cursor (fetchSize n)

section Runs

variable (rt : Runtime World) (cursorID : String) {kinds : List String}
  {table : List (Except String (List SqlValue))}

theorem recordedFetches_step {record : FetchRecord World} {n : Option Nat}
    (reading : Reading cursorID kinds table record) :
    let next := (recordedFetches rt cursorID).step record n
    Reading cursorID kinds table next.1 ∧ ∃ scanned,
      next.1.consumed.filterMap Except.toOption =
        record.consumed.filterMap Except.toOption ++ scanned ∧
      next.1.delivered = record.delivered ++ next.2.pageRows ∧
      (next.2.pageRows = pageOf kinds scanned ↔ KeepingAt rt cursorID record n) := by
  obtain ⟨cursor, found, rfl, isPrefix, open'⟩ := reading
  have known : knownCursor record.server cursorID = .ok cursor := knownCursor_eq_ok.mpr found
  have only : KeepingAt rt cursorID record n ↔ Keeping rt cursor (fetchSize n) :=
    ⟨fun keeps => keeps cursor found, fun keeps other same => by
      obtain rfl := Option.some.inj (found.symm.trans same)
      exact keeps⟩
  intro next
  rw [only]
  cases finished : cursor.done with
  | true =>
    have same : next = ({ record with delivered := record.delivered ++ []
                                      consumed := record.consumed ++ [] },
        .ok (.page [] true)) := by
      simp [next, recordedFetches, handleCursorFetch, decoded, Except.mapError, known, finished,
        bind, Except.bind, pure, Except.pure, Answer.pageRows, Server.taken, found]
    simp only [same, List.append_nil]
    refine ⟨⟨cursor, found, rfl, isPrefix, open'⟩, [], (List.append_nil _).symm, ?_, ?_⟩
    · simp [Answer.pageRows]
    · simp [Answer.pageRows, pageOf, Keeping, finished]
  | false =>
    obtain ⟨rows, here, whole⟩ := open' finished
    obtain ⟨taken, split, scanned⟩ := taken_scanned cursor rows (fetchSize n)
    have isTaken := Rows.taken_eq split
    have same : next =
        ({ server := { record.server with
             cursors := record.server.cursors.insert cursorID
               (fetchPage rt cursor rows (fetchSize n)).1 }
           delivered :=
             record.delivered ++ (fetchPage rt cursor rows (fetchSize n)).2.pageRows
           consumed := record.consumed ++ taken },
          (fetchPage rt cursor rows (fetchSize n)).2) := by
      simp [next, recordedFetches, handleCursorFetch, decoded, Except.mapError, known, finished,
        here, bind, Except.bind, pure, Except.pure, Server.taken, found, isTaken]
    rw [same]
    refine ⟨⟨_, AList.lookup_insert _, fetchPage_kinds rt, ?_, fun undone => ?_⟩,
      scannedPage cursor rows (fetchSize n), ?_, rfl, fetchPage_keeps rt finished here⟩
    · rw [whole, split, ← List.append_assoc]
      exact List.prefix_append _ _
    · refine ⟨_, fetchPage_rows rt undone, ?_⟩
      rw [whole, List.append_assoc, ← split]
    · rw [← scanned]
      exact List.filterMap_append

/-- From a cursor that was just opened: the client has all the rows that were scanned, in every
state of a run, exactly when each of its fetches is keeping. -/
theorem fetches_keep_iff (s : Server World) (connID : Nat) (rows : Rows) (kinds : List String)
    (maxRows : Option Nat) (ns : List (Option Nat))
    (opened : s.cursors.lookup cursorID = some (openedCursor connID rows kinds maxRows)) :
    (∀ reached ∈ (recordedFetches rt cursorID).visited { server := s } ns,
        Kept kinds rows.left reached) ↔
      (recordedFetches rt cursorID).Respects (KeepingAt rt cursorID) { server := s } ns := by
  apply visited_property_iff (recordedFetches rt cursorID) (KeepingAt rt cursorID)
    (fun record => Reading cursorID kinds rows.left record ∧ Kept kinds rows.left record)
    (Kept kinds rows.left) (fun _ both => both.2)
  · rintro record n _ ⟨reading, isPrefix, kept⟩ keeping
    obtain ⟨next, scanned, taken, delivered, gives⟩ :=
      recordedFetches_step rt cursorID (n := n) reading
    have ⟨_, _, _, nextPrefix, _⟩ := next
    refine ⟨next, nextPrefix, ?_⟩
    rw [taken, delivered, gives.mpr keeping, kept]
    exact List.map_append.symm
  · rintro record n _ ⟨reading, isPrefix, kept⟩ ⟨_, keptNext⟩
    obtain ⟨next, scanned, taken, delivered, gives⟩ :=
      recordedFetches_step rt cursorID (n := n) reading
    rw [taken, delivered, kept, pageOf, pageOf, List.map_append] at keptNext
    exact gives.mp (List.append_cancel_left keptNext)
  · exact ⟨⟨_, opened, rfl, List.nil_prefix, fun _ => ⟨rows, rfl, rfl⟩⟩, List.nil_prefix, rfl⟩

end Runs

def failingRows : Rows :=
  { columns := .ok []
    pending := [.ok [.text "a"], .error "bad row", .ok [.text "b"]]
    err := none
    closeErr := none }

def failingServer : Server Unit :=
  { newServer (plainRuntime Unit none) (plainSpec false) none with
    cursors := (∅ : Table String CursorState).insert "plain-cursor-1"
      (openedCursor 1 failingRows ["text"] none) }

/-- The row before the one that fails was scanned in the same page, and never comes. -/
theorem scanned_row_lost :
    let ran := (recordedFetches (plainRuntime Unit none) "plain-cursor-1").run
      { server := failingServer } [some 2, some 2]
    failingServer.cursors.lookup "plain-cursor-1" =
        some (openedCursor 1 failingRows ["text"] none) ∧
      ran.2 = [.error (refuse errSQLSyntax "bad row"),
        .ok (.page [[(.text "b", "text")]] true)] ∧
      ¬ Kept ["text"] failingRows.left ran.1 := by
  refine ⟨rfl, rfl, fun kept => ?_⟩
  have delivered : [[(SqlValue.text "b", "text")]] = [[(.text "a", "text")], [(.text "b", "text")]] :=
    kept.2
  cases congrArg List.length delivered

theorem single_rows_kept :
    failingServer.cursors.lookup "plain-cursor-1" =
        some (openedCursor 1 failingRows ["text"] none) ∧
      ∀ reached ∈ (recordedFetches (plainRuntime Unit none) "plain-cursor-1").visited
        { server := failingServer } [some 1, some 1], Kept ["text"] failingRows.left reached := by
  refine ⟨rfl, (fetches_keep_iff (plainRuntime Unit none) "plain-cursor-1" failingServer 1
    failingRows ["text"] none [some 1, some 1] rfl).mpr ?_⟩
  refine ⟨?_, ?_, trivial⟩
  · intro cursor found rows undone here
    cases found
    cases here
    exact Or.inr ⟨rfl, fun _ => rfl, fun _ => rfl, rfl⟩
  · intro cursor found rows undone here
    cases found
    cases here
    exact Or.inl rfl

end Onetcli.DbIpc
