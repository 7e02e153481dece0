import Onetcli.DbIpc.Fetches
import Onetcli.DbIpc.Ownership
import Onetcli.Lib.Paging

/-!
A cursor hands out its rows page by page. `due` is what a cursor has still to give within its
row limit; a fetch whose page encoding/json can encode, and after whose last page the rows can
be closed, moves exactly the page from the front of `due` to the reply.
-/

namespace Onetcli.DbIpc

open Paging Runs Tables

variable {World : Type}

def Answer.pageRows : Answer → List (List (SqlValue × String))
  | .ok (.page rows _) => rows
  | _ => []

def Answer.pageDone : Answer → Bool
  | .ok (.page _ done) => done
  | _ => false

theorem Answer.eq_last_page {answer : Answer} (rows : answer.pageRows = [])
    (done : answer.pageDone = true) : answer = .ok (.page [] true) := by
  unfold Answer.pageDone at done
  split at done
  · subst done
    exact congrArg (fun rows => Except.ok (Info.page rows true)) rows
  · cases done

def dueRows (maxRows : Option Nat) (fetched : Nat) (table : List (List SqlValue)) :
    List (List SqlValue) :=
  match maxRows with
  | none => table
  | some limit => table.take (limit - fetched)

def CursorState.due (cursor : CursorState) : List (List SqlValue) :=
  match cursor.done, cursor.rows with
  | false, some rows =>
    dueRows cursor.maxRows cursor.fetched (rows.left.filterMap Except.toOption)
  | _, _ => []

section Due

variable {maxRows : Option Nat} {fetched n : Nat} {front rest : List (List SqlValue)}

theorem dueRows_full (full : front.length = roomFor maxRows fetched n) :
    dueRows maxRows fetched (front ++ rest) =
      front ++ dueRows maxRows (fetched + front.length) rest := by
  cases maxRows with
  | none => rfl
  | some limit =>
    have fits : front.length ≤ limit - fetched := by
      rw [full]
      exact Nat.min_le_right _ _
    rw [dueRows, List.take_append, List.take_of_length_le fits, Nat.sub_sub]
    rfl

theorem dueRows_short (short : front.length < roomFor maxRows fetched n) :
    dueRows maxRows fetched front = front := by
  cases maxRows with
  | none => rfl
  | some limit =>
    apply List.take_of_length_le
    exact Nat.le_of_lt (Nat.lt_of_lt_of_le short (Nat.min_le_right _ _))

theorem dueRows_limit (limit : atLimit maxRows fetched = true) :
    dueRows maxRows fetched rest = [] := by
  cases maxRows with
  | none => cases limit
  | some most =>
    have reached : most ≤ fetched := of_decide_eq_true limit
    rw [dueRows, Nat.sub_eq_zero_of_le reached, List.take_zero]

theorem roomFor_le (maxRows : Option Nat) (fetched n : Nat) : roomFor maxRows fetched n ≤ n := by
  cases maxRows with
  | none => exact Nat.le_refl n
  | some limit => exact Nat.min_le_left _ _

theorem take_dueRows_full (full : front.length = roomFor maxRows fetched n) :
    (front ++ dueRows maxRows (fetched + front.length) rest).take n = front := by
  cases maxRows with
  | none => exact List.take_left' full
  | some limit =>
    have room : front.length = min n (limit - fetched) := full
    rcases Nat.le_total n (limit - fetched) with less | more
    · rw [Nat.min_eq_left less] at room
      exact List.take_left' room
    · rw [Nat.min_eq_right more] at room
      have none : limit - (fetched + front.length) = 0 := by omega
      rw [dueRows, none, List.take_zero, List.append_nil]
      exact List.take_of_length_le (by omega)

theorem filterMap_ok (table : List (List SqlValue)) :
    (table.map (Except.ok (ε := String))).filterMap Except.toOption = table := by
  rw [List.filterMap_map]
  exact List.filterMap_some

theorem scanned_split {table : List (List SqlValue)} {others : List (Except String (List SqlValue))}
    (same : List.map .ok table = List.map .ok front ++ others) :
    ∃ tail, table = front ++ tail ∧ others = List.map .ok tail := by
  obtain ⟨first, tail, whole, isFront, isRest⟩ := List.map_eq_append_iff.mp same
  have injective : Function.Injective (Except.ok : List SqlValue → Except String _) :=
    fun _ _ equal => Except.ok.inj equal
  rw [List.map_injective_iff.mpr injective isFront] at whole
  exact ⟨tail, whole, isRest.symm⟩

end Due

/-- An open cursor to whose rows, if it still reads them, neither a scan nor the end will
report an error. -/
def Clean (cursor : CursorState) : Prop :=
  cursor.done = false → ∃ rows table, cursor.rows = some rows ∧
    rows.left = List.map .ok table ∧ rows.err = none

section Fetch

variable (rt : Runtime World) {s : Server World} {cursorID : String} {cursor : CursorState}

theorem due_of_done (done : cursor.done = true) : cursor.due = [] := by
  simp only [CursorState.due, done]

theorem clean_of_done (done : cursor.done = true) : Clean cursor := by
  intro undone
  rw [done] at undone
  cases undone

theorem due_of_rows {rows : Rows} {table : List (List SqlValue)} (undone : cursor.done = false)
    (here : cursor.rows = some rows) (left : rows.left = List.map .ok table) :
    cursor.due = dueRows cursor.maxRows cursor.fetched table := by
  simp only [CursorState.due, undone, here, left, filterMap_ok]

theorem pageReply_encodes {rows : List (List (SqlValue × String))} {done : Bool}
    (encodes : rt.marshalCells rows = none) : pageReply rt rows done = .ok (.page rows done) := by
  simp only [pageReply, encodes]

/-- The page that a fetch has to give can be encoded, and if the row limit ends it there, the
rows can be closed. -/
def Answerable (cursor : CursorState) (n : Nat) : Prop :=
  ∀ rows, cursor.done = false → cursor.rows = some rows →
    rt.marshalCells (pageOf cursor.kinds (cursor.due.take n)) = none ∧
      (atLimit cursor.maxRows (cursor.fetched + (cursor.due.take n).length) = true →
        rows.close.2 = none)

-- A fetch on a cursor that reads clean rows gives the next of them.
theorem fetchPage_clean {rows : Rows} {n : Nat} (room : 0 < n) (clean : Clean cursor)
    (undone : cursor.done = false) (here : cursor.rows = some rows)
    (answerable : Answerable rt cursor n) : ∃ after : CursorState, fetchPage rt cursor rows n =
        (after, .ok (.page (pageOf cursor.kinds (cursor.due.take n)) after.done)) ∧
      after.kinds = cursor.kinds ∧ Clean after ∧ cursor.due = cursor.due.take n ++ after.due ∧
        (after.done = false → cursor.due.take n ≠ []) := by
  obtain ⟨_, table, same, left, quiet⟩ := clean undone
  obtain rfl := Option.some.inj (here.symm.trans same)
  have due := due_of_rows undone here left
  obtain ⟨encodes, closes⟩ := answerable rows undone here
  -- The page in `due`, for each way in which a fetch can end.
  have fetched := fetchPage_fetched rt cursor rows n
  generalize fetchPage rt cursor rows n = outcome at fetched
  cases fetched with
  | failed front err rest after split short =>
    rw [left] at split
    have bad : Except.error err ∈ List.map Except.ok table := by
      rw [split]
      simp
    obtain ⟨_, _, impossible⟩ := List.mem_map.mp bad
    cases impossible
  | broken front err after split short reported =>
    rw [quiet] at reported
    cases reported
  | page front rest after split full below leftAfter sameErr =>
    rw [left] at split
    obtain ⟨tail, rfl, rfl⟩ := scanned_split split
    rw [dueRows_full full] at due
    have page : cursor.due.take n = front := by
      rw [due]
      exact take_dueRows_full full
    rw [page] at encodes ⊢
    have dueAfter : CursorState.due
        { cursor with rows := some after, fetched := cursor.fetched + front.length } = _ :=
      due_of_rows undone rfl leftAfter
    refine ⟨_, congrArg _ ((pageReply_encodes rt encodes).trans (by rw [undone])), rfl,
      fun _ => ⟨after, tail, rfl, leftAfter, sameErr.trans quiet⟩, ?_, fun _ empty => ?_⟩
    · rw [due, dueAfter]
    · subst empty
      rcases roomFor_zero full.symm with none | limit
      · omega
      · rw [List.length_nil, Nat.add_zero, limit] at below
        cases below
  | ended front split short =>
    rw [left] at split
    obtain ⟨tail, rfl, isTail⟩ := scanned_split (split.trans (List.append_nil _).symm)
    obtain rfl := List.map_eq_nil_iff.mp isTail.symm
    rw [List.append_nil] at due
    rw [dueRows_short short] at due
    have page : cursor.due.take n = front := by
      rw [due]
      exact List.take_of_length_le
        (Nat.le_of_lt (Nat.lt_of_lt_of_le short (roomFor_le _ _ _)))
    rw [page] at encodes ⊢
    refine ⟨_, congrArg _ (pageReply_encodes rt encodes), rfl, clean_of_done rfl, ?_,
      fun undone => Bool.noConfusion undone⟩
    rw [due, due_of_done rfl, List.append_nil]
  | limited front rest split full limit =>
    rw [left] at split
    obtain ⟨tail, rfl, rfl⟩ := scanned_split split
    rw [dueRows_full full] at due
    have page : cursor.due.take n = front := by
      rw [due]
      exact take_dueRows_full full
    rw [page] at encodes ⊢
    refine ⟨_, congrArg _ (pageReply_encodes rt encodes), rfl, clean_of_done rfl, ?_,
      fun undone => Bool.noConfusion undone⟩
    rw [due, due_of_done rfl, dueRows_limit limit]
  | unclosed front rest err after split full limit fails =>
    rw [left] at split
    obtain ⟨tail, rfl, rfl⟩ := scanned_split split
    have page : cursor.due.take n = front := by
      rw [due, dueRows_full full]
      exact take_dueRows_full full
    rw [page] at closes
    rw [closes limit] at fails
    cases fails

end Fetch

/-! ## Fetches in a row -/

/-- The requests `cursor/fetch` on one cursor, each with its `n`. -/
def fetches (rt : Runtime World) (cursorID : String) :
    Machine (Server World) (Option Nat) Answer where
  step s n := handleCursorFetch rt s (.ok { cursorID, n })

theorem fetchSize_pos (n : Option Nat) : 0 < fetchSize n := by
  unfold fetchSize
  split
  · decide
  · split
    · assumption
    · decide

/-- The state that `query/start` leaves behind a new cursor. -/
def openedCursor (connID : Nat) (rows : Rows) (kinds : List String) (maxRows : Option Nat) :
    CursorState :=
  { connID, rows := some rows, kinds, maxRows }

/-- What a client can rely on while it fetches: the pages are the first of the wanted rows, none
is longer than asked for, the last page completes them and is followed by empty ones only, and
it comes before the client has fetched more often than there are rows. -/
structure Paged (wanted : List (List (SqlValue × String))) (ns : List (Option Nat))
    (answers : List Answer) : Prop where
  inOrder : answers.flatMap Answer.pageRows <+: wanted
  sized : List.Forall₂ (fun n answer => answer.pageRows.length ≤ fetchSize n ∧
    ∀ done, answer = .ok (.page [] done) → done = true) ns answers
  complete : ∀ front answer back, answers = front ++ answer :: back → answer.pageDone = true →
    (front ++ [answer]).flatMap Answer.pageRows = wanted ∧
      ∀ later ∈ back, later = .ok (.page [] true)
  ends : wanted.length < answers.length → ∃ answer ∈ answers, answer.pageDone = true

section Runs

variable (rt : Runtime World) (cursorID : String)

def Server.due (s : Server World) : List (List (SqlValue × String)) :=
  match s.cursors.lookup cursorID with
  | some cursor => pageOf cursor.kinds cursor.due
  | none => []

theorem Server.due_eq {s : Server World} {cursor : CursorState}
    (found : s.cursors.lookup cursorID = some cursor) :
    s.due cursorID = pageOf cursor.kinds cursor.due := by
  simp only [Server.due, found]

def CleanAt (s : Server World) : Prop :=
  ∃ cursor, s.cursors.lookup cursorID = some cursor ∧ Clean cursor

def DoneAt (s : Server World) : Prop :=
  ∃ cursor, s.cursors.lookup cursorID = some cursor ∧ cursor.done = true

def AnswerableAt (s : Server World) (n : Option Nat) : Prop :=
  ∀ cursor, s.cursors.lookup cursorID = some cursor → Answerable rt cursor (fetchSize n)

-- One fetch: the cursor afterwards, and the page that it takes from the due rows.
theorem fetch_step {s : Server World} {n : Option Nat} (clean : CleanAt cursorID s)
    (answerable : AnswerableAt rt cursorID s n) :
    ∃ page done, ((fetches rt cursorID).step s n).2 = .ok (.page page done) ∧
      CleanAt cursorID ((fetches rt cursorID).step s n).1 ∧
      s.due cursorID = page ++ ((fetches rt cursorID).step s n).1.due cursorID ∧
      page.length ≤ fetchSize n ∧ (done = false → page ≠ []) ∧
      (done = true → DoneAt cursorID ((fetches rt cursorID).step s n).1) ∧
      (DoneAt cursorID s → done = true) := by
  obtain ⟨cursor, found, isClean⟩ := clean
  have known : knownCursor s cursorID = .ok cursor := knownCursor_eq_ok.mpr found
  cases finished : cursor.done with
  | true =>
    have same : (fetches rt cursorID).step s n = (s, .ok (.page [] true)) := by
      simp [fetches, handleCursorFetch, decoded, Except.mapError, known, finished, bind,
        Except.bind, pure, Except.pure]
    rw [same]
    exact ⟨[], true, rfl, ⟨cursor, found, isClean⟩, rfl, Nat.zero_le _,
      fun undone => Bool.noConfusion undone, fun _ => ⟨cursor, found, finished⟩, fun _ => rfl⟩
  | false =>
    obtain ⟨rows, table, here, left, quiet⟩ := isClean finished
    obtain ⟨after, fetched, sameKinds, cleanAfter, split, nonempty⟩ :=
      fetchPage_clean rt (fetchSize_pos n) isClean finished here (answerable cursor found)
    have same : (fetches rt cursorID).step s n =
        ({ s with cursors := s.cursors.insert cursorID after },
          .ok (.page (pageOf cursor.kinds (cursor.due.take (fetchSize n))) after.done)) := by
      simp [fetches, handleCursorFetch, decoded, Except.mapError, known, finished, here, bind,
        Except.bind, pure, Except.pure, fetched]
    have foundAfter : (s.cursors.insert cursorID after).lookup cursorID = some after :=
      AList.lookup_insert _
    rw [same]
    refine ⟨_, _, rfl, ⟨after, foundAfter, cleanAfter⟩, ?_, ?_, ?_,
      fun done => ⟨after, foundAfter, done⟩, ?_⟩
    · have dueAfter : ({ s with cursors := s.cursors.insert cursorID after } : Server World).due
          cursorID = pageOf after.kinds after.due := Server.due_eq cursorID foundAfter
      rw [Server.due_eq cursorID found, dueAfter, sameKinds]
      simp only [pageOf]
      rw [← List.map_append, ← split]
    · rw [pageOf, List.length_map]
      exact List.length_take_le _ _
    · intro undone empty
      exact nonempty undone (List.map_eq_nil_iff.mp empty)
    · rintro ⟨other, foundOther, done⟩
      rw [found] at foundOther
      cases foundOther
      rw [finished] at done
      cases done

theorem due_of_doneAt {s : Server World} (isDone : DoneAt cursorID s) : s.due cursorID = [] := by
  obtain ⟨cursor, found, done⟩ := isDone
  rw [Server.due_eq cursorID found, due_of_done done]
  rfl

theorem pager : Pager (fetches rt cursorID) (Server.due cursorID) Answer.pageRows Answer.pageDone
    (DoneAt cursorID) (CleanAt cursorID) (AnswerableAt rt cursorID) where
  kept s n clean answerable := by
    obtain ⟨page, done, _, after, _⟩ := fetch_step rt cursorID clean answerable
    exact after
  split s n clean answerable := by
    obtain ⟨page, done, answer, _, split, _⟩ := fetch_step rt cursorID clean answerable
    rw [answer]
    exact split
  closes s n clean answerable last := by
    obtain ⟨page, done, answer, _, _, _, _, closes, _⟩ := fetch_step rt cursorID clean answerable
    rw [answer] at last
    exact closes last
  stays s n clean answerable isDone := by
    obtain ⟨page, done, answer, _, _, _, _, _, remains⟩ := fetch_step rt cursorID clean answerable
    rw [answer]
    exact remains isDone
  quiet s n clean answerable isDone := by
    obtain ⟨page, done, answer, _, split, _⟩ := fetch_step rt cursorID clean answerable
    rw [due_of_doneAt cursorID isDone] at split
    rw [answer]
    exact (List.append_eq_nil_iff.mp split.symm).1

/-- From a cursor that was just opened on rows that all scan: as long as each page can be encoded
and the rows can be closed at the row limit, the fetches page through the rows within it. -/
theorem fetches_paged (s : Server World) (connID : Nat) (rows : Rows) (kinds : List String)
    (maxRows : Option Nat) (table : List (List SqlValue)) (ns : List (Option Nat))
    (opened : s.cursors.lookup cursorID = some (openedCursor connID rows kinds maxRows))
    (scanned : rows.left = table.map .ok) (quiet : rows.err = none)
    (answerable : (fetches rt cursorID).Respects (AnswerableAt rt cursorID) s ns) :
    Paged (pageOf kinds (dueRows maxRows 0 table)) ns ((fetches rt cursorID).run s ns).2 := by
  have clean : CleanAt cursorID s := ⟨_, opened, fun _ => ⟨rows, table, rfl, scanned, quiet⟩⟩
  have due : s.due cursorID = pageOf kinds (dueRows maxRows 0 table) := by
    have start : (openedCursor connID rows kinds maxRows).due = dueRows maxRows 0 table :=
      due_of_rows rfl rfl scanned
    rw [Server.due_eq cursorID opened, start]
    rfl
  have pages := pager rt cursorID
  constructor
  · rw [← due]
    exact pages.pages_prefix clean answerable
  · apply pages.run_each _ clean answerable
    intro state n clean answerable
    obtain ⟨page, done, answer, _, _, short, nonempty, _⟩ := fetch_step rt cursorID clean answerable
    rw [answer]
    refine ⟨short, fun isDone same => ?_⟩
    cases same
    cases done with
    | true => rfl
    | false => exact absurd rfl (nonempty rfl)
  · intro front answer back ran last
    rw [← due]
    refine ⟨pages.last_complete (fun _ _ isDone => due_of_doneAt cursorID isDone) clean answerable
      ran last, fun later among => ?_⟩
    obtain ⟨none, isLast⟩ := pages.after_last clean answerable ran last later among
    exact Answer.eq_last_page none isLast
  · intro enough
    apply pages.last_comes (fun _ _ => true) _ clean answerable
    · rw [due, List.countP_true, List.length_zip, run_length, Nat.min_self]
      rwa [run_length] at enough
    intro state n clean answerable _ last
    obtain ⟨page, done, answer, _, _, _, nonempty, _⟩ := fetch_step rt cursorID clean answerable
    rw [answer] at last ⊢
    exact nonempty last

end Runs

/-- A driver with one result set; encoding/json encodes no float that is not finite. -/
def nanRuntime : Runtime Unit :=
  { plainRuntime Unit none with
    marshalCells := fun page =>
      if page.any (·.any fun cell => match cell.1 with | .float _ finite => !finite | _ => false)
      then some "json: unsupported value: NaN" else none }

def nanTable : List (List SqlValue) := [[.text "a"], [.float "NaN" false], [.text "b"]]

def nanRows : Rows :=
  { columns := .ok [], pending := nanTable.map .ok, err := none, closeErr := none }

def nanServer : Server Unit :=
  { newServer nanRuntime (plainSpec false) none with
    cursors := (∅ : Table String CursorState).insert "plain-cursor-1"
      (openedCursor 1 nanRows ["text"] none) }

/-- The row that cannot be encoded is gone, and the next page goes on after it. -/
theorem unencodable_page_lost :
    nanServer.cursors.lookup "plain-cursor-1" = some (openedCursor 1 nanRows ["text"] none) ∧
      nanRows.left = nanTable.map .ok ∧ nanRows.err = none ∧
      ¬ Paged (pageOf ["text"] (dueRows none 0 nanTable)) [some 1, some 1, some 1]
        ((fetches nanRuntime "plain-cursor-1").run nanServer [some 1, some 1, some 1]).2 := by
  refine ⟨rfl, rfl, rfl, fun paged => ?_⟩
  have pages : ((fetches nanRuntime "plain-cursor-1").run nanServer
      [some 1, some 1, some 1]).2.flatMap Answer.pageRows =
        [[(.text "a", "text")], [(.text "b", "text")]] := rfl
  have inOrder := paged.inOrder
  rw [pages] at inOrder
  simp [pageOf, dueRows, nanTable] at inOrder

theorem clean_rows_paged :
    Paged (pageOf ["text"] (dueRows (some 1) 0 nanTable)) [some 0, none, some 4]
      ((fetches nanRuntime "plain-cursor-1").run
        { nanServer with
          cursors := (∅ : Table String CursorState).insert "plain-cursor-1"
            (openedCursor 1 nanRows ["text"] (some 1)) } [some 0, none, some 4]).2 := by
  apply fetches_paged nanRuntime "plain-cursor-1" _ 1 nanRows ["text"] (some 1) nanTable
  · rfl
  · rfl
  · rfl
  · refine ⟨?_, ?_, ?_, trivial⟩
    · intro cursor found rows undone here
      cases found
      cases here
      exact ⟨rfl, fun _ => rfl⟩
    · intro cursor found rows undone here
      cases found
      cases undone
    · intro cursor found rows undone here
      cases found
      cases undone

end Onetcli.DbIpc
