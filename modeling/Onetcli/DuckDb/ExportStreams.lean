import Onetcli.DuckDb.Pages
import Onetcli.Lib.Paging

/-!
Export streams of the DuckDB driver. A read that finds nothing pending fetches a block of rows,
renders it and drains what was asked for. `unread` is what a stream has still to give: the bytes
that are pending and, unless it is done, the rendering of what was not fetched yet.
-/

namespace Onetcli.DuckDb

open Paging Runs Tables Protocol

/-! ## Rendering -/

/-- A `serde_json::Value`: what is neither null nor a string is known by its compact text. -/
inductive Json where
  | null
  | string (value : String)
  | other (printed : String)

/-- A cell of the protocol. A float has a text when it is finite. -/
inductive CellValue where
  | null
  | bool (value : Bool)
  | i64 (value : Int)
  | u64 (value : Nat)
  | f64 (printed : Option String)
  | json (value : Json)
  | map (printed : String)
  | array (printed : String)
  | decimal (value : String)
  | text (value : String)
  | uuid (value : String)
  | date (value : String)
  | time (value : String)
  | datetime (value : String)
  | duration (value : String)
  | bytes (value : String)
  | geo (value : String)
  | custom (subtype raw : String)

abbrev Row := List CellValue

def cellToJsonValue : CellValue → Json
  | .null => .null
  | .bool value => .other (if value then "true" else "false")
  | .i64 value => .other (toString value)
  | .u64 value => .other (toString value)
  | .f64 (some printed) => .other printed
  | .f64 none => .null
  | .json value => value
  | .map printed => .other printed
  | .array printed => .other printed
  | .decimal value | .text value | .uuid value | .date value | .time value | .datetime value
  | .duration value | .bytes value | .geo value => .string value
  | .custom subtype raw => .string ("custom:" ++ subtype ++ "(" ++ raw ++ ")")

/-- The options that `parse_csv_options` lets through. -/
structure CsvOptions where
  delimiter : String
  quote : String
  header : Bool
  nullString : Option String
  delimited : delimiter ≠ ""
  quoted : quote ≠ ""

theorem comma_ne_empty : "," ≠ "" := by decide

theorem doubleQuote_ne_empty : "\"" ≠ "" := by decide

def CsvOptions.null (options : CsvOptions) : String := options.nullString.getD "\\N"

def containsText (value part : String) : Bool := decide (part.toList <:+: value.toList)

def csvEscape (value : String) (options : CsvOptions) (forceQuote : Bool) : String :=
  if forceQuote || containsText value options.delimiter || containsText value "\n" ||
      containsText value "\r" || containsText value options.quote then
    Text.enclose options.quote value
  else value

def csvLine (values : List (String × Bool)) (options : CsvOptions) : String :=
  options.delimiter.intercalate (values.map fun value => csvEscape value.1 options value.2) ++ "\n"

def cellToCsvString (cell : CellValue) (options : CsvOptions) : String :=
  match cellToJsonValue cell with
  | .null => options.null
  | .string value => value
  | .other printed => printed

def cellToCsvField (cell : CellValue) (options : CsvOptions) : String × Bool :=
  let isNull := match cell with
    | .null => true
    | _ => false
  let value := cellToCsvString cell options
  (value, !isNull && (value == "" || value == options.null))

inductive ExportStreamFormat where
  | csv (options : CsvOptions) (headerWritten : Bool)
  | ndjson

def csvHeader (options : CsvOptions) (columns : List String) : String :=
  csvLine (columns.map fun column => (column, false)) options

def csvRow (options : CsvOptions) (row : Row) : String :=
  csvLine (row.map fun cell => cellToCsvField cell options) options

def utf8 (text : String) : List UInt8 := text.toList.flatMap String.utf8EncodeChar

def renderCsvRows (options : CsvOptions) (headerWritten : Bool) (columns : List String)
    (rows : List Row) : List UInt8 × Bool :=
  let out := if options.header && !headerWritten then csvHeader options columns else ""
  (utf8 (rows.foldl (fun out row => out ++ csvRow options row) out),
    headerWritten || options.header)

section Streams

-- The text of a JSON object after the inserts, in their order.
variable (objectText : List (String × Json) → String)

def ndjsonRow (columns : List String) (row : Row) : List UInt8 :=
  utf8 (objectText (columns.zip (row.map cellToJsonValue))) ++ utf8 "\n"

def renderNdjsonRows (columns : List String) (rows : List Row) : List UInt8 :=
  rows.foldl (fun out row => out ++ ndjsonRow objectText columns row) []

def renderExportRows (format : ExportStreamFormat) (columns : List String) (rows : List Row) :
    List UInt8 × ExportStreamFormat :=
  match format with
  | .csv options headerWritten =>
    let rendered := renderCsvRows options headerWritten columns rows
    (rendered.1, .csv options rendered.2)
  | .ndjson => (renderNdjsonRows objectText columns rows, .ndjson)

/-! ## State and handlers -/

structure ExportStreamState extends Progress where
  connId : ConnId
  sql : String
  columns : List String
  format : ExportStreamFormat
  pending : List UInt8 := []

def ExportStreamState.new (connId : ConnId) (sql : String) (columns : List String)
    (format : ExportStreamFormat) (maxRows : Option Nat) : ExportStreamState :=
  { Progress.start maxRows with connId, sql, columns, format }

structure StreamTables extends ConnectionState where
  streams : Table StreamId ExportStreamState := ∅

def unknownStream (id : StreamId) : QueryError :=
  .resourceClosed ("unknown stream_id `" ++ id ++ "`")

def exportFetchRows : Nat := 1000

def defaultStreamReadBytes : Nat := 64 * 1024

def maxStreamReadBytes : Nat := 1024 * 1024

def streamReadLimit (maxBytes : Option Nat) : Nat :=
  min ((maxBytes.map fun value => max value 1).getD defaultStreamReadBytes) maxStreamReadBytes

/-- The limit of `stream_fetch_plan`. -/
def streamFetchLimit (stream : ExportStreamState) : Nat :=
  match stream.remainingMaxRows with
  | some 0 => 0
  | some remaining => min exportFetchRows (min remaining (2 ^ 32 - 1))
  | none => exportFetchRows

variable {World : Type} (engine : QueryEngine World CellValue Row)

def fillStreamBuffer (state : StreamTables) (stream : ExportStreamState) (world : World) :
    World × Except QueryError ExportStreamState :=
  let limit := streamFetchLimit stream
  match state.connection stream.connId with
  | .error err => (world, .error (.other err))
  | .ok () =>
    match runQueryPage engine stream.connId stream.sql [] limit stream.nextRow world with
    | (world, .error err) => (world, .error err)
    | (world, .ok rows) =>
      let rendered := renderExportRows objectText stream.format stream.columns rows
      (world, .ok { stream with
        toProgress := stream.advance rows.length limit
        format := rendered.2
        pending := stream.pending ++ rendered.1 })

def ensureStreamBuffered (state : StreamTables) (stream : ExportStreamState) (world : World) :
    World × Except QueryError ExportStreamState :=
  if stream.pending ≠ [] ∨ stream.done then (world, .ok stream)
  else fillStreamBuffer objectText engine state stream world

/-- The bytes are those that the client decodes from the Base64 text of the reply. -/
def handleStreamRead (state : StreamTables) (streamId : StreamId) (maxBytes : Option Nat)
    (world : World) : StreamTables × World × Except QueryError (List UInt8 × Bool) :=
  match state.streams.lookup streamId with
  | none => (state, world, .error (unknownStream streamId))
  | some stream =>
    match ensureStreamBuffered objectText engine state stream world with
    | (world, .error err) => (state, world, .error err)
    | (world, .ok stream) =>
      let bytes := stream.pending.take (streamReadLimit maxBytes)
      let stream := { stream with pending := stream.pending.drop (streamReadLimit maxBytes) }
      ({ state with streams := state.streams.insert streamId stream }, world,
        .ok (bytes, stream.done && stream.pending.isEmpty))

def streamMachine (streamId : StreamId) :
    Machine (StreamTables × World) (Option Nat) (Except QueryError (List UInt8 × Bool)) where
  step state maxBytes :=
    let (tables, world, reply) :=
      handleStreamRead objectText engine state.1 streamId maxBytes state.2
    ((tables, world), reply)

/-! ## What is still to be read -/

def headerLeft (columns : List String) : ExportStreamFormat → List UInt8
  | .csv options headerWritten =>
    if options.header && !headerWritten then utf8 (csvHeader options columns) else []
  | .ndjson => []

def rowBytes (columns : List String) (row : Row) : ExportStreamFormat → List UInt8
  | .csv options _ => utf8 (csvRow options row)
  | .ndjson => ndjsonRow objectText columns row

/-- The whole export at once. -/
def oneShot (columns : List String) (format : ExportStreamFormat) (rows : List Row) : List UInt8 :=
  headerLeft columns format ++ rows.flatMap fun row => rowBytes objectText columns row format

def ExportStreamState.unread (table : ResultList Row) (stream : ExportStreamState) : List UInt8 :=
  stream.pending ++
    if stream.done then [] else oneShot objectText stream.columns stream.format (stream.due table)

theorem utf8_append (first second : String) : utf8 (first ++ second) = utf8 first ++ utf8 second := by
  simp only [utf8, String.toList_append, List.flatMap_append]

theorem foldl_append_bytes (texts : Row → String) (rows : List Row) (out : String) :
    utf8 (rows.foldl (fun out row => out ++ texts row) out) =
      utf8 out ++ rows.flatMap fun row => utf8 (texts row) := by
  induction rows generalizing out with
  | nil => simp
  | cons row rest ih =>
    rw [List.foldl_cons, ih, utf8_append, List.flatMap_cons, List.append_assoc]

theorem foldl_ndjson (columns : List String) (rows : List Row) (out : List UInt8) :
    rows.foldl (fun out row => out ++ ndjsonRow objectText columns row) out =
      out ++ rows.flatMap (ndjsonRow objectText columns) := by
  induction rows generalizing out with
  | nil => simp
  | cons row rest ih => rw [List.foldl_cons, ih, List.flatMap_cons, List.append_assoc]

theorem renderExportRows_spec (format : ExportStreamFormat) (columns : List String)
    (rows : List Row) :
    let rendered := renderExportRows objectText format columns rows
    rendered.1 = oneShot objectText columns format rows ∧ headerLeft columns rendered.2 = [] ∧
      ∀ row, rowBytes objectText columns row rendered.2 = rowBytes objectText columns row format := by
  cases format with
  | csv options headerWritten =>
    refine ⟨?_, ?_, fun row => rfl⟩
    · simp only [renderExportRows, renderCsvRows, foldl_append_bytes, oneShot, headerLeft]
      split <;> rfl
    · simp only [renderExportRows, renderCsvRows, headerLeft]
      cases options.header <;> cases headerWritten <;> rfl
  | ndjson =>
    refine ⟨?_, rfl, fun row => rfl⟩
    simp only [renderExportRows, renderNdjsonRows, foldl_ndjson, oneShot, headerLeft,
      List.nil_append]
    rfl

theorem csvLine_ne_nil (values : List (String × Bool)) (options : CsvOptions) :
    utf8 (csvLine values options) ≠ [] := by
  rw [csvLine, utf8_append]
  intro empty
  cases (List.append_eq_nil_iff.mp empty).2

theorem rowBytes_ne_nil (columns : List String) (row : Row) (format : ExportStreamFormat) :
    rowBytes objectText columns row format ≠ [] := by
  cases format with
  | csv options headerWritten => exact csvLine_ne_nil _ _
  | ndjson =>
    intro empty
    cases (List.append_eq_nil_iff.mp empty).2

theorem streamReadLimit_pos (maxBytes : Option Nat) : 0 < streamReadLimit maxBytes := by
  apply Nat.lt_min.mpr ⟨_, by decide⟩
  cases maxBytes with
  | none => decide
  | some value => exact Nat.lt_of_lt_of_le Nat.zero_lt_one (Nat.le_max_right _ _)

/-! ## One read -/

variable {objectText} {engine}

theorem streamFetchLimit_fits {stream : ExportStreamState} {remaining : Nat}
    (bounded : stream.remainingMaxRows = some remaining) : streamFetchLimit stream ≤ remaining := by
  unfold streamFetchLimit
  rw [bounded]
  cases remaining with
  | zero => exact Nat.le_refl 0
  | succ most => exact Nat.le_trans (Nat.min_le_right _ _) (Nat.min_le_left _ _)

theorem streamFetchLimit_pos {stream : ExportStreamState}
    (room : stream.remainingMaxRows ≠ some 0) : 0 < streamFetchLimit stream := by
  unfold streamFetchLimit
  cases bounded : stream.remainingMaxRows with
  | none => decide
  | some remaining =>
    cases remaining with
    | zero => exact absurd bounded room
    | succ most => exact Nat.lt_min.mpr ⟨by decide, Nat.lt_min.mpr ⟨Nat.succ_pos _, by decide⟩⟩

theorem oneShot_ne_nil {columns : List String} {format : ExportStreamFormat} {rows : List Row}
    (some : rows ≠ []) : oneShot objectText columns format rows ≠ [] := by
  cases rows with
  | nil => exact absurd rfl some
  | cons row rest =>
    intro empty
    have none := (List.append_eq_nil_iff.mp empty).2
    rw [List.flatMap_cons] at none
    exact rowBytes_ne_nil objectText columns row format (List.append_eq_nil_iff.mp none).1

-- A block and what follows it, rendered one after the other.
theorem oneShot_append (columns : List String) (format : ExportStreamFormat)
    (page rest : List Row) : oneShot objectText columns format (page ++ rest) =
      (renderExportRows objectText format columns page).1 ++
        oneShot objectText columns (renderExportRows objectText format columns page).2 rest := by
  obtain ⟨first, noHeader, sameRows⟩ := renderExportRows_spec objectText format columns page
  rw [first]
  simp only [oneShot, noHeader, sameRows, List.flatMap_append, List.append_assoc, List.nil_append]

-- Buffering fails, or leaves what is unread; with nothing pending the stream is done.
theorem ensureStreamBuffered_spec {table : ResultList Row} {stream : ExportStreamState}
    (pages : PagesOf engine stream.connId stream.sql [] table) (sound : stream.Sound table)
    (state : StreamTables) (world : World) {buffered : ExportStreamState}
    (answered : (ensureStreamBuffered objectText engine state stream world).2 = .ok buffered) :
    buffered.connId = stream.connId ∧ buffered.sql = stream.sql ∧ buffered.Sound table ∧
      buffered.unread objectText table = stream.unread objectText table ∧
      (buffered.pending = [] → buffered.done = true) := by
  unfold ensureStreamBuffered at answered
  by_cases ready : stream.pending ≠ [] ∨ stream.done
  · rw [if_pos ready] at answered
    cases answered
    exact ⟨rfl, rfl, sound, rfl, fun none => ready.resolve_left (not_not.mpr none)⟩
  · obtain ⟨nothing, undone⟩ := not_or.mp ready
    rw [not_not] at nothing
    rw [Bool.not_eq_true] at undone
    rw [if_neg ready, fillStreamBuffer] at answered
    cases connected : state.connection stream.connId with
    | error err =>
      rw [connected] at answered
      cases answered
    | ok _ =>
      rw [connected] at answered
      rcases ran : runQueryPage engine stream.connId stream.sql [] (streamFetchLimit stream)
        stream.nextRow world with ⟨later, err | rows⟩
      · rw [ran] at answered
        cases answered
      · rw [ran] at answered
        have cut := pages _ _ world rows (congrArg Prod.snd ran)
        rw [Progress.page_due fun remaining => streamFetchLimit_fits] at cut
        obtain ⟨soundNext, split, complete, moves⟩ :=
          Progress.advance_page sound undone fun remaining => streamFetchLimit_fits
        rw [← cut] at soundNext split complete moves
        cases answered
        refine ⟨rfl, rfl, soundNext, ?_, fun none => ?_⟩
        · simp only [ExportStreamState.unread, nothing, undone, List.nil_append,
            Bool.false_eq_true, if_false]
          rw [split, oneShot_append]
          cases ends : (stream.advance rows.length (streamFetchLimit stream)).done with
          | false => simp only [Bool.false_eq_true, if_false]
          | true =>
            have noHeader := (renderExportRows_spec objectText stream.format stream.columns
              rows).2.1
            rw [complete ends]
            simp [oneShot, noHeader]
        · by_contra ends
          rw [Bool.not_eq_true] at ends
          have some := moves ends (streamFetchLimit_pos (sound.room undone))
          have rendered := (List.append_eq_nil_iff.mp none).2
          rw [(renderExportRows_spec objectText stream.format stream.columns rows).1] at rendered
          exact oneShot_ne_nil some rendered

/-! ## Reads in a row -/

variable (objectText) (streamId : StreamId) (table : ResultList Row)

def StreamTables.unread (tables : StreamTables) : List UInt8 :=
  match tables.streams.lookup streamId with
  | some stream => stream.unread objectText table
  | none => []

theorem StreamTables.unread_eq {tables : StreamTables} {stream : ExportStreamState}
    (found : tables.streams.lookup streamId = some stream) :
    tables.unread objectText streamId table = stream.unread objectText table := by
  simp only [StreamTables.unread, found]

/-- The table has the stream of the query, somewhere on its way. -/
def StreamHeld (connId : ConnId) (sql : String) (state : StreamTables × World) : Prop :=
  ∃ stream, state.1.streams.lookup streamId = some stream ∧ stream.connId = connId ∧
    stream.sql = sql ∧ stream.Sound table

def StreamDone (state : StreamTables × World) : Prop :=
  ∃ stream, state.1.streams.lookup streamId = some stream ∧ stream.done = true ∧
    stream.pending = []

def chunkBytes : Except QueryError (List UInt8 × Bool) → List UInt8
  | .ok (bytes, _) => bytes
  | .error _ => []

def chunkDone : Except QueryError (List UInt8 × Bool) → Bool
  | .ok (_, done) => done
  | .error _ => false

def chunkAnswered : Except QueryError (List UInt8 × Bool) → Bool
  | .ok _ => true
  | .error _ => false

variable {objectText} {streamId} {table} {connId : ConnId} {sql : String}

theorem read_step (pages : PagesOf engine connId sql [] table) {state : StreamTables × World}
    (held : StreamHeld streamId table connId sql state) (maxBytes : Option Nat) :
    let next := (streamMachine objectText engine streamId).step state maxBytes
    StreamHeld streamId table connId sql next.1 ∧
      state.1.unread objectText streamId table =
        chunkBytes next.2 ++ next.1.1.unread objectText streamId table ∧
      (chunkDone next.2 = true → StreamDone streamId next.1) ∧
      (StreamDone streamId state → chunkBytes next.2 = [] ∧ chunkDone next.2 = true) ∧
      (chunkAnswered next.2 = true → chunkDone next.2 = false → chunkBytes next.2 ≠ []) := by
  obtain ⟨stream, found, rfl, rfl, sound⟩ := held
  intro next
  rcases ensured : ensureStreamBuffered objectText engine state.1 stream state.2 with
    ⟨later, err | buffered⟩
  · have same : next = ((state.1, later), .error err) := by
      simp only [next, streamMachine, handleStreamRead, found, ensured]
    rw [same]
    refine ⟨⟨stream, found, rfl, rfl, sound⟩, rfl, fun done => Bool.noConfusion done, ?_,
      fun answered => Bool.noConfusion answered⟩
    rintro ⟨other, foundOther, done, empty⟩
    obtain rfl := Option.some.inj (found.symm.trans foundOther)
    rw [ensureStreamBuffered, if_pos (Or.inr done)] at ensured
    cases ensured
  · obtain ⟨sameConn, sameSql, soundNext, unread, ready⟩ :=
      ensureStreamBuffered_spec pages sound state.1 state.2 (congrArg Prod.snd ensured)
    let drained : ExportStreamState :=
      { buffered with pending := buffered.pending.drop (streamReadLimit maxBytes) }
    have same : next = (({ state.1 with streams := state.1.streams.insert streamId drained }, later),
        .ok (buffered.pending.take (streamReadLimit maxBytes),
          drained.done && drained.pending.isEmpty)) := by
      simp only [next, streamMachine, handleStreamRead, found, ensured]
      rfl
    have foundNext : (state.1.streams.insert streamId drained).lookup streamId = some drained :=
      AList.lookup_insert _
    rw [same]
    refine ⟨⟨drained, foundNext, sameConn, sameSql, soundNext⟩, ?_, fun done => ?_, ?_,
      fun _ undone empty => ?_⟩
    · have after : StreamTables.unread objectText streamId table
          { state.1 with streams := state.1.streams.insert streamId drained } =
            drained.unread objectText table := StreamTables.unread_eq _ _ _ foundNext
      rw [after, StreamTables.unread_eq _ _ _ found, ← unread]
      simp only [ExportStreamState.unread, chunkBytes, drained]
      rw [← List.append_assoc, List.take_append_drop]
    · obtain ⟨isDone, empty⟩ := Bool.and_eq_true _ _ ▸ done
      exact ⟨drained, foundNext, isDone, List.isEmpty_iff.mp empty⟩
    · rintro ⟨other, foundOther, done, empty⟩
      obtain rfl := Option.some.inj (found.symm.trans foundOther)
      rw [ensureStreamBuffered, if_pos (Or.inr done)] at ensured
      cases ensured
      simp [chunkBytes, chunkDone, drained, done, empty]
    · have some : buffered.pending ≠ [] := by
        intro none
        simp [chunkDone, drained, none, ready none] at undone
      rcases List.take_eq_nil_iff.mp empty with zero | none
      · exact absurd zero (Nat.ne_of_gt (streamReadLimit_pos maxBytes))
      · exact some none

theorem stream_pager (pages : PagesOf engine connId sql [] table) :
    Pager (streamMachine objectText engine streamId)
      (fun state => state.1.unread objectText streamId table) chunkBytes chunkDone
      (StreamDone streamId) (StreamHeld streamId table connId sql) (fun _ _ => True) where
  kept _ maxBytes held _ := (read_step pages held maxBytes).1
  split _ maxBytes held _ := (read_step pages held maxBytes).2.1
  closes _ maxBytes held _ := (read_step pages held maxBytes).2.2.1
  stays _ maxBytes held _ done := ((read_step pages held maxBytes).2.2.2.1 done).2
  quiet _ maxBytes held _ done := ((read_step pages held maxBytes).2.2.2.1 done).1

theorem unread_of_done {state : StreamTables × World} (done : StreamDone streamId state) :
    state.1.unread objectText streamId table = [] := by
  obtain ⟨stream, found, isDone, empty⟩ := done
  rw [StreamTables.unread_eq _ _ _ found]
  simp only [ExportStreamState.unread, empty, isDone, if_true, List.append_nil]

/-- The chunks up to the first that says `done` are the whole rendering, and it comes before more
reads have been answered than the rendering has bytes. -/
structure Streamed (whole : List UInt8) (chunks : List (Except QueryError (List UInt8 × Bool))) :
    Prop where
  complete : ∀ front chunk back, chunks = front ++ chunk :: back →
    (∀ earlier ∈ front, chunkDone earlier = false) → chunkDone chunk = true →
      (front ++ [chunk]).flatMap chunkBytes = whole
  ends : whole.length < chunks.countP chunkAnswered → ∃ chunk ∈ chunks, chunkDone chunk = true

/-- `export_stream_format` on parsed CSV options, or on the format NDJSON. -/
def exportStreamFormat : Option CsvOptions → ExportStreamFormat
  | some options => .csv options false
  | none => .ndjson

/-- The header is lost on an export that may give no row: its stream starts as done. -/
def HeaderLost (csv : Option CsvOptions) (maxRows : Option Nat) : Prop :=
  maxRows = some 0 ∧ ∃ options, csv = some options ∧ options.header = true

theorem headerLeft_eq_nil {columns : List String} {csv : Option CsvOptions}
    {maxRows : Option Nat} (kept : ¬ HeaderLost csv maxRows) (limit : maxRows = some 0) :
    headerLeft columns (exportStreamFormat csv) = [] := by
  cases csv with
  | none => rfl
  | some options =>
    have plain : options.header = false := by
      by_contra header
      exact kept ⟨limit, options, rfl, Bool.not_eq_false _ ▸ header⟩
    simp [headerLeft, exportStreamFormat, plain]

theorem headerLeft_ne_nil {columns : List String} {csv : Option CsvOptions}
    {maxRows : Option Nat} (lost : HeaderLost csv maxRows) :
    headerLeft columns (exportStreamFormat csv) ≠ [] := by
  obtain ⟨_, options, rfl, header⟩ := lost
  simp only [headerLeft, exportStreamFormat, header, Bool.not_false, Bool.and_self, if_true]
  exact csvLine_ne_nil _ _

section Export

variable (columns : List String) (csv : Option CsvOptions) (maxRows : Option Nat)

theorem new_unread (kept : ¬ HeaderLost csv maxRows) :
    (ExportStreamState.new connId sql columns (exportStreamFormat csv) maxRows).unread objectText
        table = oneShot objectText columns (exportStreamFormat csv) (wantedRows maxRows table) := by
  by_cases limit : maxRows = some 0
  · have none : wantedRows maxRows table = [] := by
      rw [limit]
      rfl
    rw [none, oneShot, headerLeft_eq_nil kept limit]
    simp [ExportStreamState.unread, ExportStreamState.new, Progress.start, limit]
  · have undone : decide (maxRows = some 0) = false := decide_eq_false limit
    simp only [ExportStreamState.unread, ExportStreamState.new, Progress.start, undone,
      Bool.false_eq_true, if_false, List.nil_append]
    rfl

/-- From a new stream on a query whose pages are cut from one result: every sequence of reads
gives the whole rendering, exactly when no header is lost. -/
theorem stream_reads_iff (pages : PagesOf engine connId sql [] table)
    (state : StreamTables × World)
    (opened : state.1.streams.lookup streamId =
      some (.new connId sql columns (exportStreamFormat csv) maxRows)) :
    (∀ reads, Streamed
        (oneShot objectText columns (exportStreamFormat csv) (wantedRows maxRows table))
        ((streamMachine objectText engine streamId).run state reads).2) ↔
      ¬ HeaderLost csv maxRows := by
  have held : StreamHeld streamId table connId sql state :=
    ⟨_, opened, rfl, rfl, Progress.start_sound maxRows⟩
  have paging := @stream_pager objectText World engine streamId table connId sql pages
  constructor
  · intro streamed lost
    have done : StreamDone streamId state := ⟨_, opened, decide_eq_true lost.1, rfl⟩
    obtain ⟨nothing, last⟩ := (read_step pages held none).2.2.2.1 done
    have whole := (streamed [none]).complete [] _ [] rfl
      (fun _ among => absurd among List.not_mem_nil) last
    rw [List.nil_append, List.flatMap_singleton, nothing, oneShot] at whole
    exact headerLeft_ne_nil lost (List.append_eq_nil_iff.mp whole.symm).1
  · intro kept reads
    have unread : state.1.unread objectText streamId table =
        oneShot objectText columns (exportStreamFormat csv) (wantedRows maxRows table) := by
      rw [StreamTables.unread_eq _ _ _ opened]
      exact new_unread columns csv maxRows kept
    have always := respects_always (streamMachine objectText engine streamId) state reads
    rw [← unread]
    constructor
    · intro front chunk back ran _ done
      exact paging.last_complete (fun _ _ isDone => unread_of_done isDone) held always ran done
    · intro enough
      apply paging.last_comes (fun _ chunk => chunkAnswered chunk) _ held always
      · have lengths := run_length (streamMachine objectText engine streamId) state reads
        rw [← List.map_snd_zip (Nat.le_of_eq lengths), List.countP_map] at enough
        exact enough
      · intro reached maxBytes holds _ answered undone
        exact (read_step pages holds maxBytes).2.2.2.2 answered undone

end Export

end Streams

def plainCsv : CsvOptions where
  delimiter := ","
  quote := "\""
  header := true
  nullString := none
  delimited := by decide
  quoted := by decide

def twoCells : ResultList Row := ⟨[[.i64 7], [.null]], by decide⟩

def cellsEngine : QueryEngine Unit CellValue Row :=
  pagesEngine Unit CellValue "SELECT id FROM t" twoCells.val [(1000, 0)]

def openStream (maxRows : Option Nat) : StreamTables where
  conns := (∅ : Table ConnId Session).insert 1 ⟨true⟩
  streams := (∅ : Table StreamId ExportStreamState).insert "s-1"
    (.new 1 "SELECT id FROM t" ["id"] (exportStreamFormat (some plainCsv)) maxRows)

/-- An export limited to no rows is done before its header was rendered. -/
theorem header_without_rows_lost :
    let ran := (streamMachine (fun _ => "") cellsEngine "s-1").run (openStream (some 0), ()) [none]
    ran.2 = [.ok ([], true)] ∧
      oneShot (fun _ => "") ["id"] (exportStreamFormat (some plainCsv))
        (wantedRows (some 0) twoCells) = utf8 "id\n" ∧
      ¬ Streamed (oneShot (fun _ => "") ["id"] (exportStreamFormat (some plainCsv))
        (wantedRows (some 0) twoCells)) ran.2 := by
  refine ⟨rfl, by decide +kernel, fun streamed => ?_⟩
  have whole := streamed.complete [] (.ok ([], true)) [] rfl
    (fun _ among => absurd among List.not_mem_nil) rfl
  exact absurd whole (by decide +kernel)

theorem two_cells_streamed :
    let ran := (streamMachine (fun _ => "") cellsEngine "s-1").run (openStream none, ())
      [some 4, none]
    ran.2.map chunkBytes = [utf8 "id\n7", utf8 "\n\\N\n"] ∧
      Streamed (oneShot (fun _ => "") ["id"] (exportStreamFormat (some plainCsv))
        (wantedRows none twoCells)) ran.2 := by
  refine ⟨by decide +kernel, ?_⟩
  refine (stream_reads_iff ["id"] (some plainCsv) none
    (pagesEngine_pages twoCells [(1000, 0)] 1 []) (openStream none, ()) ?_).mpr ?_ _
  · rfl
  · rintro ⟨limit, _⟩
    cases limit

end Onetcli.DuckDb
