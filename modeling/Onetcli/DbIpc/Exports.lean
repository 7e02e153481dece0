import Onetcli.DbIpc.Csv
import Onetcli.DbIpc.Ownership
import Onetcli.Lib.Runes

/-!
`data/export` of internal/dbipc/server.go and data.go down to the bytes of the stream, for the
formats json, ndjson and csv. A Go string is a list of bytes. The request is decoded with its
`max_rows`; nothing reads it.
-/

namespace Onetcli.DbIpc.Exports

open Text Tables Runes

/-! ## CSV -/

section Csv

variable (options : CsvExportOptions)

def writeCSVField (value : List UInt8) (forceQuote : Bool) : List UInt8 :=
  let chars := runes value
  let needsQuote := forceQuote || decide (options.delimiter ∈ chars) ||
    decide (options.quote ∈ chars) || decide ('\r' ∈ chars) || decide ('\n' ∈ chars)
  if !needsQuote then value
  else
    utf8 (options.quote :: (chars.flatMap fun char =>
      if char = options.quote then [options.quote, char] else [char]) ++ [options.quote])

/-- The fields with their marks of `forceQuote`. -/
def writeCSVRecord (fields : List (List UInt8 × Bool)) : List UInt8 :=
  List.intercalate (utf8 [options.delimiter])
    (fields.map fun field => writeCSVField options field.1 field.2) ++ utf8 ['\n']

def nullBytes : List UInt8 := utf8 options.nullString.toList

/-- `fmt.Sprint` of a value that is no byte slice. -/
def sprint : SqlValue → String
  | .null => "<nil>"
  | .bool value => if value then "true" else "false"
  | .int value => toString value
  | .float printed _ => printed
  | .bytes _ => ""
  | .text value => value
  | .other printed => printed

def textOf : SqlValue → List UInt8
  | .bytes raw => raw
  | value => utf8 (sprint value).toList

/-- What is written for a value, and whether quotes are forced to tell it from NULL. -/
def csvField (value : SqlValue) : List UInt8 × Bool :=
  match value with
  | .null => (nullBytes options, false)
  | value => (textOf value, textOf value == [] || textOf value == nullBytes options)

def csvHeader (columns : List String) : List UInt8 :=
  if options.header then
    writeCSVRecord options (columns.map fun name => (utf8 name.toList, false))
  else []

def exportRowsCSV (columns : List String) (rows : List (List SqlValue)) : List UInt8 × Nat :=
  rows.foldl (fun out row => (out.1 ++ writeCSVRecord options (row.map (csvField options)),
    out.2 + 1)) (csvHeader options columns, 0)

end Csv

/-! ## JSON -/

inductive RowValue (Json : Type) where
  | scanned (value : SqlValue)
  | decoded (value : Json)
  | text (raw : List UInt8)

/-- `encoding/json`: `json.Valid` with `json.Unmarshal`, and `json.Marshal` of the map of a row. -/
structure JsonLibrary (Json : Type) where
  decode : List UInt8 → Option Json
  marshal : List (String × RowValue Json) → Except String (List UInt8)

section Json

variable {Json : Type} (lib : JsonLibrary Json)

/-- `row[name] = value`. -/
def setEntry (row : List (String × RowValue Json)) (name : String) (value : RowValue Json) :
    List (String × RowValue Json) :=
  row.filter (fun entry => entry.1 ≠ name) ++ [(name, value)]

def rowValue : SqlValue → RowValue Json
  | .bytes raw =>
    match lib.decode raw with
    | some decoded => .decoded decoded
    | none => .text raw
  | value => .scanned value

def rowObject (columns : List String) (values : List SqlValue) : List (String × RowValue Json) :=
  (columns.zip values).foldl (fun row entry => setEntry row entry.1 (rowValue lib entry.2)) []

/-- A slice without rows is nil. -/
def exportRowsJSON (columns : List String) (rows : List (List SqlValue)) (ndjson : Bool) :
    Except String (List UInt8 × Nat) := do
  let lines ← rows.mapM fun values => lib.marshal (rowObject lib columns values)
  if ndjson then pure (lines.flatMap (· ++ utf8 ['\n']), rows.length)
  else if rows.isEmpty then pure (utf8 "null".toList, rows.length)
  else pure (utf8 ['['] ++ List.intercalate (utf8 [',']) lines ++ utf8 [']'], rows.length)

def encodeRows (options : CsvOptionValues) (format : RowFormat) (columns : List String)
    (rows : List (List SqlValue)) : Except String (List UInt8) :=
  match format with
  | .json => (exportRowsJSON lib columns rows false).map Prod.fst
  | .ndjson => (exportRowsJSON lib columns rows true).map Prod.fst
  | .csv => .ok (exportRowsCSV (parseCSVExportOptions options) columns rows).1

/-! ## The request -/

structure ExportCall where
  params : DataExportParams
  options : CsvOptionValues := {}
  maxRows : Option UInt64 := none

variable {World : Type} (rt : Runtime World) (s : Server World) (call : ExportCall)

/-- A runtime that encodes rows as `exportRows` does. -/
def encoding : Runtime World :=
  { rt with encodeRows := fun format _ columns rows =>
      encodeRows lib call.options format columns rows }

def handleDataExport (world : World) : Server World × World × Answer :=
  DbIpc.handleDataExport (encoding lib rt call) s (.ok call.params) world

def ResultSet (world after : World) (columns : List String) (rows : List (List SqlValue)) : Prop :=
  ∃ conn sqlText args result, s.conns.lookup call.params.connID = some conn ∧
    buildExportSQL s.spec call.params.table call.params.schema call.params.database call.params.sql
      call.params.whereClause call.params.includeColumns call.params.excludeColumns = .ok sqlText ∧
    call.params.args = .ok args ∧
    (Executor.db conn.db).query rt sqlText args world = (after, .ok result) ∧
    result.columnNames = .ok columns ∧ result.readAll = .ok rows

/-- The bytes are these rows, in order, in the format. -/
def Rendered (options : CsvOptionValues) (format : RowFormat) (columns : List String)
    (rows : List (List SqlValue)) (data : List UInt8) : Prop :=
  match format with
  | .csv =>
    let options := parseCSVExportOptions options
    data = csvHeader options columns ++
      rows.flatMap fun row => writeCSVRecord options (row.map (csvField options))
  | .ndjson => ∃ lines, List.Forall₂
        (fun row line => lib.marshal (rowObject lib columns row) = .ok line) rows lines ∧
      data = lines.flatMap (· ++ utf8 ['\n'])
  | .json => ∃ lines, List.Forall₂
        (fun row line => lib.marshal (rowObject lib columns row) = .ok line) rows lines ∧
      data = if lines = [] then utf8 "null".toList
        else utf8 ['['] ++ List.intercalate (utf8 [',']) lines ++ utf8 [']']

/-- How many of so many rows were asked for. -/
def ExportCall.due (call : ExportCall) (rows : Nat) : Nat :=
  match call.maxRows with
  | none => rows
  | some m => min m.toNat rows

def Holds (next : Server World) (answer : Info) (columns : List String)
    (rows : List (List SqlValue)) (count : Nat) : Prop :=
  ∃ format data, rowFormat call.params.format = some format ∧
    Rendered lib call.options format columns (rows.take count) data ∧
    next.streams.lookup call.params.streamID = some { data } ∧
    answer = .exported data.length count columns call.params.format

end Json

/-! ## All rows -/

theorem exportRowsCSV_eq (options : CsvExportOptions) (columns : List String)
    (rows : List (List SqlValue)) : exportRowsCSV options columns rows =
      (csvHeader options columns ++
        rows.flatMap fun row => writeCSVRecord options (row.map (csvField options)),
        rows.length) := by
  have loop (out : List UInt8) (count : Nat) :
      rows.foldl (fun out row => (out.1 ++ writeCSVRecord options (row.map (csvField options)),
        out.2 + 1)) (out, count) =
      (out ++ rows.flatMap fun row => writeCSVRecord options (row.map (csvField options)),
        count + rows.length) := by
    induction rows generalizing out count with
    | nil => simp
    | cons row rest ih =>
      rw [List.foldl_cons, ih, List.flatMap_cons, List.append_assoc, List.length_cons]
      congr 1
      omega
  rw [exportRowsCSV, loop, Nat.zero_add]

section Json

variable {Json : Type} (lib : JsonLibrary Json)

theorem encodeRows_rendered {options : CsvOptionValues} {format : RowFormat}
    {columns : List String} {rows : List (List SqlValue)} {data : List UInt8}
    (encoded : encodeRows lib options format columns rows = .ok data) :
    Rendered lib options format columns rows data := by
  cases format with
  | csv =>
    simp only [encodeRows, exportRowsCSV_eq, Except.ok.injEq] at encoded
    exact encoded.symm
  | json =>
    simp only [encodeRows, exportRowsJSON] at encoded
    cases written : rows.mapM fun values => lib.marshal (rowObject lib columns values) with
    | error err => simp [written, bind, Except.bind, Except.map] at encoded
    | ok lines =>
      have each := Checks.mapM_eq_ok.1 written
      refine ⟨lines, each, ?_⟩
      cases each with
      | nil =>
        simp [written, bind, Except.bind, Except.map, pure, Except.pure] at encoded
        exact encoded.symm
      | cons head tail =>
        simp [written, bind, Except.bind, Except.map, pure, Except.pure] at encoded
        rw [if_neg (List.cons_ne_nil _ _)]
        simp [← encoded]
  | ndjson =>
    simp only [encodeRows, exportRowsJSON] at encoded
    cases written : rows.mapM fun values => lib.marshal (rowObject lib columns values) with
    | error err => simp [written, bind, Except.bind, Except.map] at encoded
    | ok lines =>
      simp [written, bind, Except.bind, Except.map, pure, Except.pure] at encoded
      exact ⟨lines, Checks.mapM_eq_ok.1 written, encoded.symm⟩

variable {World : Type} {rt : Runtime World} {s next : Server World} {call : ExportCall}
  {world after later : World} {answer : Info} {columns : List String}
  {rows : List (List SqlValue)}

theorem export_holds_all (results : ResultSet rt s call world after columns rows)
    (answered : handleDataExport lib rt s call world = (next, later, .ok answer)) :
    Holds lib call next answer columns rows rows.length := by
  obtain ⟨conn, sqlText, args, result, found, built, given, queried, named, read⟩ := results
  unfold handleDataExport DbIpc.handleDataExport at answered
  cases missing : decide (call.params.streamID = "") with
  | true =>
    simp [decoded, Except.mapError, knownConn, found, of_decide_eq_true missing, bind,
      Except.bind, throw, throwThe, MonadExceptOf.throw] at answered
  | false =>
    have present := of_decide_eq_false missing
    have ran : (Executor.db conn.db).query (encoding lib rt call) sqlText args world =
      (after, .ok result) := queried
    simp only [decoded, Except.mapError, knownConn, found, present, built, given, bind,
      Except.bind, pure, Except.pure, if_false, exportRows, ran, named, read] at answered
    cases known : rowFormat call.params.format with
    | none => simp [known, throw, throwThe, MonadExceptOf.throw] at answered
    | some format =>
      simp only [known] at answered
      cases encoded : encodeRows lib call.options format columns rows with
      | error err => simp [encoding, encoded] at answered
      | ok data =>
        simp only [encoding, encoded] at answered
        cases answered
        refine ⟨format, data, known, ?_, AList.lookup_insert _, rfl⟩
        rw [List.take_of_length_le (Nat.le_refl _)]
        exact encodeRows_rendered lib encoded

/-- The stream and the count are right exactly when there are no more rows than asked for. -/
theorem export_max_rows_iff (results : ResultSet rt s call world after columns rows)
    (answered : handleDataExport lib rt s call world = (next, later, .ok answer)) :
    Holds lib call next answer columns rows (call.due rows.length) ↔
      ∀ m, call.maxRows = some m → rows.length ≤ m.toNat := by
  have all := export_holds_all lib results answered
  unfold ExportCall.due
  cases call.maxRows with
  | none =>
    refine ⟨fun _ m given => ?_, fun _ => all⟩
    cases given
  | some m =>
    simp only [Option.some.injEq, forall_eq']
    constructor
    · intro ⟨_, _, _, _, _, counted⟩
      obtain ⟨_, _, _, _, _, whole⟩ := all
      rw [counted] at whole
      -- the answer counts all rows, whatever was asked for
      have same := (Info.exported.inj whole).2.1
      omega
    · intro few
      rw [Nat.min_eq_right few]
      exact all

/-! ## A run -/

/-- A library for rows without byte slices, whose objects are written without their values. -/
def namesOnly : JsonLibrary Unit where
  decode _ := none
  marshal row := .ok (utf8 (String.join (row.map Prod.fst)).toList)

def twoRows : Runtime Unit :=
  { plainRuntime Unit none with
    queryDb := fun _ _ _ world => (world, .ok
      { columns := .ok [⟨"id", "INT", none⟩], pending := [.ok [.int 1], .ok [.int 2]],
        err := none, closeErr := none }) }

def exporting : Server Unit :=
  { newServer twoRows (plainSpec false) none with
    conns := (∅ : Table Nat (ConnectionState Unit)).insert 1
      { config := plainConfig, db := 0, ddlSpec := plainSpec false, schemaSQL := {} } }

def exportCall (maxRows : UInt64) : ExportCall where
  params := { connID := 1, sql := "SELECT id FROM t", format := "ndjson", args := .ok [],
              streamID := "s" }
  maxRows := some maxRows

theorem exporting_sql : buildExportSQL exporting.spec "" "" "" "SELECT id FROM t" "" [] [] =
    .ok "SELECT id FROM t" := by
  decide +kernel

theorem exporting_results (maxRows : UInt64) :
    ResultSet twoRows exporting (exportCall maxRows) () () ["id"] [[.int 1], [.int 2]] :=
  ⟨_, "SELECT id FROM t", _, _, rfl, exporting_sql, rfl, rfl, rfl, rfl⟩

theorem two_rows_of_five : ∃ next later answer,
    handleDataExport namesOnly twoRows exporting (exportCall 5) () = (next, later, .ok answer) ∧
      Holds namesOnly (exportCall 5) next answer ["id"] [[.int 1], [.int 2]]
        ((exportCall 5).due 2) :=
  ⟨_, _, _, rfl, (export_max_rows_iff namesOnly (exporting_results 5) rfl).mpr
    fun m given => by
      cases given
      decide⟩

theorem one_row_of_two_exceeded : ∃ next later answer,
    handleDataExport namesOnly twoRows exporting (exportCall 1) () = (next, later, .ok answer) ∧
      answer = .exported 6 2 ["id"] "ndjson" ∧
      ¬Holds namesOnly (exportCall 1) next answer ["id"] [[.int 1], [.int 2]]
        ((exportCall 1).due 2) := by
  refine ⟨_, _, _, rfl, rfl, ?_⟩
  rintro ⟨_, _, _, _, _, counted⟩
  exact absurd (Info.exported.inj counted).2.1 (by decide)

end Json

end Onetcli.DbIpc.Exports
