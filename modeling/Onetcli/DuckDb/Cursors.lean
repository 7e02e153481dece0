import Onetcli.DuckDb.Pages
import Onetcli.Lib.Paging

/-!
Cursors of the DuckDB driver. Every fetch runs the query again for its page, so a fetch that
fails has changed nothing; the cursor is done after a page shorter than was asked for, at the
row limit, or when it is cancelled.
-/

namespace Onetcli.DuckDb

open Paging Runs Tables Protocol

structure CursorState (Value : Type) extends Progress where
  connId : ConnId
  sql : String
  params : List Value
  fetchSize : Option Nat

def CursorState.new {Value : Type} (connId : ConnId) (sql : String) (params : List Value)
    (fetchSize maxRows : Option Nat) : CursorState Value :=
  { Progress.start maxRows with connId, sql, params, fetchSize }

def CursorState.cancel {Value : Type} (cursor : CursorState Value) : CursorState Value :=
  { cursor with done := true }

/-- `ConnectionState` with its table of cursors. -/
structure CursorTables (Value : Type) extends ConnectionState where
  cursors : Table CursorId (CursorState Value) := ∅

def unknownCursor (id : CursorId) : QueryError :=
  .unknownCursor ("unknown cursor_id `" ++ id ++ "`")

def defaultCursorFetchSize : Nat := 1000

def maxCursorFetchSize : Nat := 10000

section Fetch

variable {World Value Row : Type} (engine : QueryEngine World Value Row)

def cursorFetchLimit (cursor : CursorState Value) (requested : Option Nat) : Nat :=
  if cursor.remainingMaxRows = some 0 then 0 else
    let requested := min
      (requested.getD ((cursor.fetchSize.filter (0 < ·)).getD defaultCursorFetchSize))
      maxCursorFetchSize
    match cursor.remainingMaxRows with
    | some remaining => min requested (min remaining (2 ^ 32 - 1))
    | none => requested

def fetchCursorPage (state : CursorTables Value) (cursor : CursorState Value)
    (requested : Option Nat) (world : World) :
    World × CursorState Value × Except QueryError (List Row × Bool) :=
  if cursor.done then (world, cursor, .ok ([], true)) else
    let limit := cursorFetchLimit cursor requested
    if limit = 0 then (world, cursor, .ok ([], cursor.done)) else
      match state.connection cursor.connId with
      | .error err => (world, cursor, .error (.other err))
      | .ok () =>
        match runQueryPage engine cursor.connId cursor.sql cursor.params limit cursor.nextRow
          world with
        | (world, .error err) => (world, cursor, .error err)
        | (world, .ok rows) =>
          let next : CursorState Value :=
            { cursor with toProgress := cursor.advance rows.length limit }
          (world, next, .ok (rows, next.done))

/-- The cursor is taken out of the table and put back, also when the fetch fails. -/
def handleCursorFetch (state : CursorTables Value) (cursorId : CursorId) (n : Option Nat)
    (world : World) : CursorTables Value × World × Except QueryError (List Row × Bool) :=
  match state.cursors.lookup cursorId with
  | none => (state, world, .error (unknownCursor cursorId))
  | some cursor =>
    let state := { state with cursors := state.cursors.erase cursorId }
    let (world, cursor, result) := fetchCursorPage engine state cursor n world
    ({ state with cursors := state.cursors.insert cursorId cursor }, world, result)

def handleCursorCancel (state : CursorTables Value) (cursorId : CursorId) :
    CursorTables Value × Except QueryError Unit :=
  match state.cursors.lookup cursorId with
  | none => (state, .error (unknownCursor cursorId))
  | some cursor => ({ state with cursors := state.cursors.insert cursorId cursor.cancel }, .ok ())

/-! ## Requests on one cursor -/

inductive CursorCall where
  | fetch (n : Option Nat)
  | cancel

/-- Whether a call is a fetch of at least one row. -/
def CursorCall.asks : CursorCall → Bool
  | .fetch n => n ≠ some 0
  | .cancel => false

inductive CursorReply (Row : Type) where
  | page (rows : List Row) (done : Bool)
  | null
  | failed (err : QueryError)

def CursorReply.rows : CursorReply Row → List Row
  | .page rows _ => rows
  | _ => []

def CursorReply.done : CursorReply Row → Bool
  | .page _ done => done
  | _ => false

def CursorReply.last : CursorReply Row → Bool
  | .page _ done => done
  | .null => true
  | .failed _ => false

def CursorReply.answered : CursorReply Row → Bool
  | .page _ _ => true
  | _ => false

def CursorReply.ofFetch : Except QueryError (List Row × Bool) → CursorReply Row
  | .ok (rows, done) => .page rows done
  | .error err => .failed err

def cursorMachine (cursorId : CursorId) :
    Machine (CursorTables Value × World) CursorCall (CursorReply Row) where
  step state call :=
    match call with
    | .fetch n =>
      let (tables, world, result) := handleCursorFetch engine state.1 cursorId n state.2
      ((tables, world), .ofFetch result)
    | .cancel =>
      match handleCursorCancel state.1 cursorId with
      | (tables, .ok ()) => ((tables, state.2), .null)
      | (tables, .error err) => ((tables, state.2), .failed err)

/-- The most rows that a fetch of `n` may give. -/
def pageBound (fetchSize n : Option Nat) : Nat :=
  min (n.getD ((fetchSize.filter (0 < ·)).getD defaultCursorFetchSize)) maxCursorFetchSize

end Fetch

/-! ## One fetch -/

section Steps

variable {World Value Row : Type} {engine : QueryEngine World Value Row}
  {cursor : CursorState Value} {table : ResultList Row} {n : Option Nat}

theorem cursorFetchLimit_fits {remaining : Nat}
    (bounded : cursor.remainingMaxRows = some remaining) : cursorFetchLimit cursor n ≤ remaining := by
  simp only [cursorFetchLimit, bounded]
  split
  · exact Nat.zero_le _
  · exact Nat.le_trans (Nat.min_le_right _ _) (Nat.min_le_left _ _)

theorem cursorFetchLimit_le : cursorFetchLimit cursor n ≤ pageBound cursor.fetchSize n := by
  unfold cursorFetchLimit
  split
  · exact Nat.zero_le _
  · cases cursor.remainingMaxRows with
    | none => exact Nat.le_refl _
    | some remaining => exact Nat.min_le_left _ _

theorem cursorFetchLimit_pos (asks : n ≠ some 0) (room : cursor.remainingMaxRows ≠ some 0) :
    0 < cursorFetchLimit cursor n := by
  have requested : 0 < pageBound cursor.fetchSize n := by
    apply Nat.lt_min.mpr ⟨_, by decide⟩
    cases n with
    | some n => exact Nat.pos_of_ne_zero fun none => asks (congrArg some none)
    | none =>
      cases chosen : cursor.fetchSize.filter (0 < ·) with
      | none => decide
      | some size => simpa using (Option.filter_eq_some_iff.mp chosen).2
  simp only [cursorFetchLimit, room, if_false]
  cases bounded : cursor.remainingMaxRows with
  | none => exact requested
  | some remaining =>
    have positive : 0 < remaining := Nat.pos_of_ne_zero fun none =>
      room (bounded.trans (congrArg some none))
    exact Nat.lt_min.mpr ⟨requested, Nat.lt_min.mpr ⟨positive, by decide⟩⟩

/-- What a fetch makes of its cursor: it fails and changes nothing, or its page is the next of
the due rows. -/
inductive Fetched (table : ResultList Row) (cursor : CursorState Value) (n : Option Nat) :
    CursorState Value → Except QueryError (List Row × Bool) → Prop
  | failed (err : QueryError) : Fetched table cursor n cursor (.error err)
  | page (page : List Row) (progress : Progress) (sameMax : progress.maxRows = cursor.maxRows)
      (sound : progress.Sound table)
      (split : cursor.due table = page ++ progress.due table)
      (short : page.length ≤ pageBound cursor.fetchSize n)
      (ended : cursor.done = true → page = [] ∧ progress.done = true)
      (complete : cursor.done = false → progress.done = true → progress.due table = [])
      (moves : n ≠ some 0 → progress.done = false → page ≠ []) :
      Fetched table cursor n { cursor with toProgress := progress } (.ok (page, progress.done))

theorem fetchCursorPage_fetched (pages : PagesOf engine cursor.connId cursor.sql cursor.params table)
    (sound : cursor.Sound table) (state : CursorTables Value) (world : World) :
    Fetched table cursor n (fetchCursorPage engine state cursor n world).2.1
      (fetchCursorPage engine state cursor n world).2.2 := by
  unfold fetchCursorPage
  cases isDone : cursor.done with
  | true =>
    rw [if_pos rfl]
    have same : Fetched table cursor n _ _ := .page [] cursor.toProgress rfl sound rfl
      (Nat.zero_le _) (fun _ => ⟨rfl, isDone⟩) (fun undone => by rw [isDone] at undone; cases undone)
      (fun _ undone => by rw [isDone] at undone; cases undone)
    rwa [isDone] at same
  | false =>
    simp only [Bool.false_eq_true, if_false]
    by_cases none : cursorFetchLimit cursor n = 0
    · rw [if_pos none]
      have zero : n = some 0 := by
        by_contra asks
        exact absurd none (Nat.ne_of_gt (cursorFetchLimit_pos asks (sound.room isDone)))
      have same : Fetched table cursor n _ _ := .page [] cursor.toProgress rfl sound rfl
        (Nat.zero_le _) (fun ended => by rw [isDone] at ended; cases ended)
        (fun _ ended => by rw [isDone] at ended; cases ended) (fun asks => absurd zero asks)
      rwa [isDone] at same
    · rw [if_neg none]
      cases state.connection cursor.connId with
      | error err => exact .failed _
      | ok _ =>
        rcases answered : runQueryPage engine cursor.connId cursor.sql cursor.params
          (cursorFetchLimit cursor n) cursor.nextRow world with ⟨later, err | rows⟩
        · exact .failed _
        · have cut := pages _ _ world rows (congrArg Prod.snd answered)
          rw [Progress.page_due fun remaining bounded => cursorFetchLimit_fits bounded] at cut
          obtain ⟨soundNext, split, complete, moves⟩ := Progress.advance_page sound isDone
            fun remaining bounded => cursorFetchLimit_fits (n := n) bounded
          rw [← cut] at soundNext split complete moves
          refine .page rows _ rfl soundNext split ?_ (fun ended => ?_) (fun _ => complete)
            (fun asks undone => moves undone (Nat.pos_of_ne_zero none))
          · rw [cut]
            exact Nat.le_trans (List.length_take_le _ _) cursorFetchLimit_le
          · rw [isDone] at ended
            cases ended

end Steps

/-! ## Requests in a row -/

def CursorTables.due {Value Row : Type} (cursorId : CursorId) (table : ResultList Row)
    (tables : CursorTables Value) : List Row :=
  match tables.cursors.lookup cursorId with
  | some cursor => cursor.due table
  | none => []

/-- What a client can rely on while it fetches and perhaps cancels: the pages are the first of
the wanted rows, none is longer than its fetch allows, `done` is only said when all were given or
the cursor was cancelled, after it and after a cancellation every fetch says it, and it comes
before more fetches for at least one row have been answered than there are rows. -/
structure CursorPaged {Row : Type} (wanted : List Row) (fetchSize : Option Nat)
    (calls : List CursorCall) (replies : List (CursorReply Row)) : Prop where
  inOrder : replies.flatMap CursorReply.rows <+: wanted
  sized : List.Forall₂ (fun call reply => ∀ n, call = .fetch n →
    reply.rows.length ≤ pageBound fetchSize n) calls replies
  complete : ∀ front reply back, replies = front ++ reply :: back → reply.done = true →
    .cancel ∈ calls.take front.length ∨ (front ++ [reply]).flatMap CursorReply.rows = wanted
  kept : ∀ front reply back, replies = front ++ reply :: back → reply.last = true →
    ∀ later ∈ back, later = .page [] true ∨ later = .null
  ends : wanted.length < ((calls.zip replies).countP fun step =>
      step.1.asks && step.2.answered) → .cancel ∉ calls →
    ∃ reply ∈ replies, reply.done = true

section Runs

variable {World Value Row : Type} (engine : QueryEngine World Value Row) (cursorId : CursorId)
  (original : CursorState Value) (table : ResultList Row)

def Held (state : CursorTables Value × World) : Prop :=
  ∃ progress : Progress,
    state.1.cursors.lookup cursorId = some { original with toProgress := progress } ∧
      progress.maxRows = original.maxRows ∧ progress.Sound table

def DoneAt (state : CursorTables Value × World) : Prop :=
  ∃ cursor, state.1.cursors.lookup cursorId = some cursor ∧ cursor.done = true

theorem CursorTables.due_eq {tables : CursorTables Value} {cursor : CursorState Value}
    (found : tables.cursors.lookup cursorId = some cursor) :
    tables.due cursorId table = cursor.due table := by
  simp only [CursorTables.due, found]

variable {state : CursorTables Value × World}

theorem fetch_step {cursor : CursorState Value}
    (found : state.1.cursors.lookup cursorId = some cursor)
    (pages : PagesOf engine cursor.connId cursor.sql cursor.params table)
    (sound : cursor.Sound table) (n : Option Nat) :
    ∃ after result, Fetched table cursor n after result ∧
      ((cursorMachine engine cursorId).step state (.fetch n)).1.1.cursors.lookup cursorId =
        some after ∧
      ((cursorMachine engine cursorId).step state (.fetch n)).2 = .ofFetch result := by
  have fetched := fetchCursorPage_fetched (n := n) pages sound
    { state.1 with cursors := state.1.cursors.erase cursorId } state.2
  simp only [cursorMachine, handleCursorFetch, found]
  exact ⟨_, _, fetched, AList.lookup_insert _, rfl⟩

theorem fetch_done {cursor : CursorState Value}
    (found : state.1.cursors.lookup cursorId = some cursor) (done : cursor.done = true)
    (n : Option Nat) :
    ((cursorMachine engine cursorId).step state (.fetch n)).1.1.cursors.lookup cursorId =
        some cursor ∧
      ((cursorMachine engine cursorId).step state (.fetch n)).2 = .page [] true := by
  simp only [cursorMachine, handleCursorFetch, found, fetchCursorPage, done, if_true]
  exact ⟨AList.lookup_insert _, rfl⟩

theorem cancel_step {cursor : CursorState Value}
    (found : state.1.cursors.lookup cursorId = some cursor) :
    ((cursorMachine engine cursorId).step state .cancel).1.1.cursors.lookup cursorId =
        some cursor.cancel ∧
      ((cursorMachine engine cursorId).step state .cancel).2 = (.null : CursorReply Row) := by
  simp only [cursorMachine, handleCursorCancel, found]
  exact ⟨AList.lookup_insert _, trivial⟩

variable {engine cursorId original table}

theorem pager (pages : PagesOf engine original.connId original.sql original.params table) :
    Pager (cursorMachine engine cursorId) (fun state => state.1.due cursorId table)
      CursorReply.rows CursorReply.last (DoneAt cursorId)
      (Held cursorId original table) (fun _ _ => True) where
  kept state call held _ := by
    obtain ⟨progress, found, sameMax, sound⟩ := held
    cases call with
    | fetch n =>
      obtain ⟨after, result, fetched, next, _⟩ :=
        fetch_step engine cursorId table found pages sound n
      cases fetched with
      | failed err => exact ⟨progress, next, sameMax, sound⟩
      | page page moved max soundNext => exact ⟨moved, next, max.trans sameMax, soundNext⟩
    | cancel =>
      refine ⟨{ progress with done := true }, (cancel_step engine cursorId found).1, sameMax,
        sound.within, fun undone => ?_⟩
      cases undone
  split state call held _ := by
    obtain ⟨progress, found, sameMax, sound⟩ := held
    cases call with
    | fetch n =>
      obtain ⟨after, result, fetched, next, reply⟩ :=
        fetch_step engine cursorId table found pages sound n
      rw [CursorTables.due_eq cursorId table found, CursorTables.due_eq cursorId table next, reply]
      cases fetched with
      | failed err => rfl
      | page page moved max soundNext split => exact split
    | cancel =>
      obtain ⟨next, reply⟩ := cancel_step engine cursorId found
      rw [CursorTables.due_eq cursorId table found, CursorTables.due_eq cursorId table next, reply]
      rfl
  closes state call held _ last := by
    obtain ⟨progress, found, sameMax, sound⟩ := held
    cases call with
    | fetch n =>
      obtain ⟨after, result, fetched, next, reply⟩ :=
        fetch_step engine cursorId table found pages sound n
      rw [reply] at last
      cases fetched with
      | failed err => cases last
      | page page moved max soundNext => exact ⟨_, next, last⟩
    | cancel => exact ⟨_, (cancel_step engine cursorId found).1, rfl⟩
  stays state call held _ isDone := by
    obtain ⟨progress, found, sameMax, sound⟩ := held
    obtain ⟨cursor, same, done⟩ := isDone
    obtain rfl := Option.some.inj (found.symm.trans same)
    cases call with
    | fetch n =>
      obtain ⟨_, reply⟩ := fetch_done engine cursorId found done n
      rw [reply]
      rfl
    | cancel =>
      rw [(cancel_step engine cursorId found).2]
      rfl
  quiet state call held _ isDone := by
    obtain ⟨progress, found, sameMax, sound⟩ := held
    obtain ⟨cursor, same, done⟩ := isDone
    obtain rfl := Option.some.inj (found.symm.trans same)
    cases call with
    | fetch n =>
      obtain ⟨_, reply⟩ := fetch_done engine cursorId found done n
      rw [reply]
      rfl
    | cancel =>
      rw [(cancel_step engine cursorId found).2]
      rfl

-- Without a cancellation a cursor is done only when no row is due.
theorem fetching_pager (pages : PagesOf engine original.connId original.sql original.params table) :
    Pager (cursorMachine engine cursorId) (fun state => state.1.due cursorId table)
      CursorReply.rows CursorReply.last (DoneAt cursorId)
      (fun state => Held cursorId original table state ∧
        (DoneAt cursorId state → state.1.due cursorId table = []))
      (fun _ call => call ≠ .cancel) := by
  refine (pager pages).restrict (fun _ both => both.1) (fun _ _ _ => trivial) ?_
  rintro state call ⟨held, complete⟩ isFetch
  refine ⟨(pager pages).kept state call held trivial, ?_⟩
  obtain ⟨progress, found, sameMax, sound⟩ := held
  rw [CursorTables.due_eq cursorId table found] at complete
  cases call with
  | cancel => exact absurd rfl isFetch
  | fetch n =>
    obtain ⟨after, result, fetched, next, _⟩ :=
      fetch_step engine cursorId table found pages sound n
    rintro ⟨cursor, same, done⟩
    obtain rfl := Option.some.inj (next.symm.trans same)
    rw [CursorTables.due_eq cursorId table next]
    cases fetched with
    | failed err => exact complete ⟨_, found, done⟩
    | page page moved max soundNext split short ended completes =>
      cases before : progress.done with
      | false => exact completes before done
      | true =>
        rw [complete ⟨_, found, before⟩] at split
        exact (List.append_eq_nil_iff.mp split.symm).2

theorem reply_of_last_page {reply : CursorReply Row} (none : reply.rows = [])
    (last : reply.last = true) : reply = .page [] true ∨ reply = .null := by
  cases reply with
  | page rows done => exact Or.inl (congr (congrArg CursorReply.page none) last)
  | null => exact Or.inr rfl
  | failed err => cases last

theorem respects_fetches (state : CursorTables Value × World) (calls : List CursorCall)
    (fetches : .cancel ∉ calls) :
    (cursorMachine engine cursorId).Respects (fun _ call => call ≠ .cancel) state calls := by
  induction calls generalizing state with
  | nil => trivial
  | cons call rest ih =>
    obtain ⟨first, others⟩ := List.ne_and_not_mem_of_not_mem_cons fetches
    exact ⟨first.symm, ih _ others⟩

/-! ### What each step gives -/

theorem step_sized (pages : PagesOf engine original.connId original.sql original.params table)
    (state : CursorTables Value × World) (call : CursorCall)
    (held : Held cursorId original table state) :
    ∀ n, call = .fetch n → ((cursorMachine engine cursorId).step state call).2.rows.length ≤
      pageBound original.fetchSize n := by
  obtain ⟨progress, found, sameMax, sound⟩ := held
  rintro n rfl
  obtain ⟨after, result, fetched, _, reply⟩ := fetch_step engine cursorId table found pages sound n
  rw [reply]
  cases fetched with
  | failed err => exact Nat.zero_le _
  | page page moved max soundNext split short => exact short

theorem step_moves (pages : PagesOf engine original.connId original.sql original.params table)
    (state : CursorTables Value × World) (call : CursorCall)
    (held : Held cursorId original table state)
    (useful : (call.asks && ((cursorMachine engine cursorId).step state call).2.answered) = true)
    (undone : ((cursorMachine engine cursorId).step state call).2.last = false) :
    ((cursorMachine engine cursorId).step state call).2.rows ≠ [] := by
  obtain ⟨progress, found, _, sound⟩ := held
  cases call with
  | cancel => cases useful
  | fetch n =>
    obtain ⟨after, result, fetched, _, reply⟩ :=
      fetch_step engine cursorId table found pages sound n
    rw [reply] at useful undone ⊢
    have asks : n ≠ some 0 := of_decide_eq_true (Bool.and_eq_true _ _ ▸ useful).1
    cases fetched with
    | failed err =>
      rw [Bool.and_eq_true] at useful
      cases useful.2
    | page page moved max soundNext split short ended completes moves =>
      exact moves asks undone

theorem step_failed (pages : PagesOf engine original.connId original.sql original.params table)
    (state : CursorTables Value × World) (held : Held cursorId original table state)
    (n : Option Nat) (err : QueryError)
    (failed : ((cursorMachine engine cursorId).step state (.fetch n)).2 = .failed err) :
    ((cursorMachine engine cursorId).step state (.fetch n)).1.1.cursors.lookup cursorId =
      state.1.cursors.lookup cursorId := by
  obtain ⟨progress, found, _, sound⟩ := held
  obtain ⟨after, result, fetched, next, reply⟩ :=
    fetch_step engine cursorId table found pages sound n
  rw [reply] at failed
  rw [next]
  cases fetched with
  | failed err => exact found.symm
  | page page moved => cases failed

theorem step_null {call : CursorCall}
    (null : ((cursorMachine engine cursorId).step state call).2 = .null) : call = .cancel := by
  cases call with
  | cancel => rfl
  | fetch n =>
    simp only [cursorMachine] at null
    cases result : (handleCursorFetch engine state.1 cursorId n state.2).2.2 with
    | ok page =>
      rw [result] at null
      cases null
    | error err =>
      rw [result] at null
      cases null

theorem CursorReply.last_of_done {reply : CursorReply Row} (done : reply.done = true) :
    reply.last = true := by
  cases reply with
  | page rows ends => exact done
  | null => cases done
  | failed err => cases done

/-! ### What a run gives -/

-- At the last page of fetches without a cancellation everything was given.
theorem run_complete (pages : PagesOf engine original.connId original.sql original.params table)
 {calls : List CursorCall}
    (held : Held cursorId original table state)
    (start : DoneAt cursorId state → state.1.due cursorId table = [])
    {front back : List (CursorReply Row)} {reply : CursorReply Row}
    (ran : ((cursorMachine engine cursorId).run state calls).2 = front ++ reply :: back)
    (done : reply.done = true) :
    .cancel ∈ calls.take front.length ∨
      (front ++ [reply]).flatMap CursorReply.rows = state.1.due cursorId table := by
  obtain ⟨before, call, after, rfl, length, outputs, last⟩ := run_split _ ran
  rw [List.take_left' length]
  by_cases cancelled : .cancel ∈ before
  · exact Or.inl cancelled
  · right
    obtain ⟨progress, found, _, sound⟩ := (pager pages).run_invariant held
      (respects_always (cursorMachine engine cursorId) state before)
    have isFetch : call ≠ .cancel := by
      rintro rfl
      rw [(cancel_step engine cursorId found).2] at last
      rw [← last] at done
      cases done
    have fetches : .cancel ∉ before ++ [call] := by simp [cancelled, isFetch.symm]
    have shorter : ((cursorMachine engine cursorId).run state (before ++ [call])).2 =
        front ++ reply :: [] := by
      rw [run_append, outputs]
      exact congrArg (fun output => front ++ [output]) last
    exact (fetching_pager pages).last_complete (fun _ both => both.2) ⟨held, start⟩
      (respects_fetches state _ fetches) shorter (CursorReply.last_of_done done)

theorem run_ends (pages : PagesOf engine original.connId original.sql original.params table)
 {calls : List CursorCall}
    (held : Held cursorId original table state)
    (enough : (state.1.due cursorId table).length <
      (calls.zip ((cursorMachine engine cursorId).run state calls).2).countP fun step =>
        step.1.asks && step.2.answered)
    (fetches : .cancel ∉ calls) :
    ∃ reply ∈ ((cursorMachine engine cursorId).run state calls).2, reply.done = true := by
  obtain ⟨reply, member, last⟩ := (pager pages).last_comes
    (fun call reply => call.asks && reply.answered)
    (fun reached call held _ => step_moves pages reached call held) held
    (respects_always (cursorMachine engine cursorId) state calls) enough
  refine ⟨reply, member, ?_⟩
  cases reply with
  | page rows done => exact last
  | failed err => cases last
  | null =>
    obtain ⟨reached, _, call, among, same⟩ := mem_run_output _ member
    rw [step_null same] at among
    exact absurd among fetches

/-- From a new cursor on a query whose pages are cut from one result: fetches and cancellations
page through its rows, and a fetch that fails has changed nothing. -/
theorem cursor_calls_paged (state : CursorTables Value × World) (calls : List CursorCall)
    (fetchSize maxRows : Option Nat) (connId : ConnId) (sql : String) (params : List Value)
    (pages : PagesOf engine connId sql params table)
    (opened : state.1.cursors.lookup cursorId =
      some (CursorState.new connId sql params fetchSize maxRows)) :
    CursorPaged (wantedRows maxRows table) fetchSize calls
        ((cursorMachine engine cursorId).run state calls).2 ∧
      ∀ reached ∈ (cursorMachine engine cursorId).visited state calls, ∀ n err,
        ((cursorMachine engine cursorId).step reached (.fetch n)).2 = .failed err →
          ((cursorMachine engine cursorId).step reached (.fetch n)).1.1.cursors.lookup cursorId =
            reached.1.cursors.lookup cursorId := by
  have held : Held cursorId (CursorState.new connId sql params fetchSize maxRows) table state :=
    ⟨Progress.start maxRows, opened, rfl, Progress.start_sound maxRows⟩
  have due : state.1.due cursorId table = wantedRows maxRows table :=
    CursorTables.due_eq cursorId table opened
  have start : DoneAt cursorId state → state.1.due cursorId table = [] := by
    rintro ⟨cursor, same, done⟩
    obtain rfl := Option.some.inj (opened.symm.trans same)
    have none : maxRows = some 0 := of_decide_eq_true done
    rw [due, none]
    rfl
  have paging := @pager World Value Row engine cursorId
    (CursorState.new connId sql params fetchSize maxRows) table pages
  have always := respects_always (cursorMachine engine cursorId) state calls
  rw [← due]
  refine ⟨⟨paging.pages_prefix held always, ?_, ?_, ?_, run_ends pages held⟩, ?_⟩
  · exact paging.run_each (fun reached call held _ => step_sized pages reached call held) held always
  · exact fun front reply back ran done => run_complete pages held start ran done
  · intro front reply back ran last later among
    obtain ⟨none, isLast⟩ := paging.after_last held always ran last later among
    exact reply_of_last_page none isLast
  · intro reached visited n err failed
    have holds := visited_invariant (cursorMachine engine cursorId) _
      (fun state call held => paging.kept state call held trivial) state calls held reached visited
    exact @step_failed World Value Row engine cursorId
      (CursorState.new connId sql params fetchSize maxRows) table pages reached holds n err failed

end Runs

def threeRows : ResultList Nat := ⟨[10, 20, 30], by decide⟩

def openCursor : CursorTables Nat where
  conns := (∅ : Table ConnId Session).insert 1 ⟨true⟩
  cursors := (∅ : Table CursorId (CursorState Nat)).insert "c-1"
    (.new 1 "SELECT id FROM t" [] (some 2) none)

theorem three_rows_paged :
    let engine := pagesEngine Unit Nat "SELECT id FROM t" threeRows.val [(2, 0), (10000, 2)]
    CursorPaged [10, 20, 30] (some 2) [.fetch none, .fetch (some 1), .fetch (some 20000)]
        ((cursorMachine engine "c-1").run (openCursor, ())
          [.fetch none, .fetch (some 1), .fetch (some 20000)]).2 ∧
      ((cursorMachine engine "c-1").run (openCursor, ())
          [.fetch none, .fetch (some 1), .fetch (some 20000)]).2.map CursorReply.rows =
        [[10, 20], [], [30]] := by
  intro engine
  refine ⟨(cursor_calls_paged (openCursor, ()) _ (some 2) none 1 "SELECT id FROM t" []
    (pagesEngine_pages threeRows _ 1 []) ?_).1, ?_⟩
  · rfl
  · decide +kernel

end Onetcli.DuckDb
