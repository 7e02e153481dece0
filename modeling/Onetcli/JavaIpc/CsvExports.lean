import Onetcli.JavaIpc.Ddl
import Onetcli.Lib.Checks
import Onetcli.Lib.Lookups
import Onetcli.Lib.QuotedFields
import Onetcli.Lib.SqlTokens

/-!
The CSV export of OscarIpcServer.java, which is also that of GBase8sIpcServer.java. Rows go through
maps by column name, the options are trimmed before they are used, and a null is written as its
mark whatever is in the mark.
-/

/-!
The cells that JdbcQueryRunner.java makes of the values of a row: a type and, unless it is `null`, a
value.
-/

namespace Onetcli.JavaIpc

inductive CellObject where
  | boolean (value : Bool)
  | long (value : Int64)
  | double (printed : String)
  | string (text : String)
  deriving DecidableEq

/-- `String.valueOf`. -/
def CellObject.text : CellObject → String
  | .boolean value => if value then "true" else "false"
  | .long value => toString value.toInt
  | .double printed => printed
  | .string text => text

structure Cell where
  type : String
  value : Option CellObject

end Onetcli.JavaIpc

namespace Onetcli.JavaIpc

open Checks Lookups QuotedFields

/-! ## The export -/

structure QueryResult where
  columns : List String
  rows : List (List Cell)
  wide : ∀ row ∈ rows, row.length = columns.length

/-- The `options` of a request. -/
structure ExportOptions where
  delimiter : Option String := none
  quote : Option String := none
  nullString : Option String := none
  header : Option Bool := none

structure ExportParams where
  streamId : String
  sql : String := ""
  schema : String := ""
  table : String := ""
  format : String
  options : ExportOptions := {}
  includeColumns : List String := []
  excludeColumns : List String := []

/-- A missing text is empty. -/
def optionalText (value : Option String) (default : String) : String :=
  if trim (value.getD "") = "" then default else trim (value.getD "")

def rowValue (row : List Cell) (index : Nat) : Option CellObject :=
  match row[index]? with
  | none => none
  | some cell => if cell.type = "null" then none else cell.value

abbrev RowObject := List (String × Option CellObject)

def rowsAsObjects (query : QueryResult) : List RowObject :=
  query.rows.map fun row =>
    puts (query.columns.zipIdx.map fun name => (name.1, rowValue row name.2)) []

def csvCell (value : Option CellObject) (nullString : String) (delimiter quote : Char) : String :=
  match value with
  | none => nullString
  | some object =>
    let text := object.text
    let quoteField := decide (text = "") || decide (text = nullString) ||
      decide (delimiter ∈ text.toList) || decide (quote ∈ text.toList) ||
      decide ('\n' ∈ text.toList) || decide ('\r' ∈ text.toList)
    if !quoteField then text else Text.enclose (String.singleton quote) text

/-- The first `char` of an option; one above U+FFFF would be two of them. -/
def firstChar (value : String) (default : Char) : Char := value.toList.head?.getD default

structure CsvSettings where
  delimiter : Char
  quote : Char
  nullString : String

def csvSettings (options : ExportOptions) : CsvSettings where
  delimiter := firstChar (optionalText options.delimiter ",") ','
  quote := firstChar (optionalText options.quote "\"") '"'
  nullString := optionalText options.nullString "\\N"

def csvLine (settings : CsvSettings) (values : List (Option CellObject)) : String :=
  (String.singleton settings.delimiter).intercalate
    (values.map fun value =>
      csvCell value settings.nullString settings.delimiter settings.quote) ++ "\n"

def exportCsv (query : QueryResult) (options : ExportOptions) : String :=
  let settings := csvSettings options
  let header := if options.header.getD true then
    csvLine settings (query.columns.map fun name => some (.string name)) else ""
  (rowsAsObjects query).foldl (fun out row =>
    out ++ csvLine settings (query.columns.map fun name => (row.lookup name).getD none)) header

/-- The JSON texts that the mapper writes. -/
structure ObjectMapper where
  array : List RowObject → String
  object : RowObject → String

def exportBytes (mapper : ObjectMapper) (format : String) (query : QueryResult)
    (options : ExportOptions) : Except String ByteArray :=
  if format = "json" then .ok (mapper.array (rowsAsObjects query)).toByteArray
  else if format = "ndjson" then
    .ok ((rowsAsObjects query).foldl (fun out row => out ++ mapper.object row ++ "\n")
      "").toByteArray
  else if format = "csv" then .ok (exportCsv query options).toByteArray
  else .error ("export format `" ++ format ++ "` is not supported")

def exportSql (params : ExportParams) : Except String String :=
  if trim params.sql = "" then do
    let table ← requiredText "table" params.table
    pure ("SELECT * FROM " ++ qualifiedName (trim params.schema) table)
  else .ok (trim params.sql)

/-- The bytes of the stream that is opened; `query` answers a statement. -/
def handleDataExport (mapper : ObjectMapper) (query : String → QueryResult)
    (params : ExportParams) : Except String ByteArray := do
  let _ ← requiredText "stream_id" params.streamId
  let sql ← exportSql params
  let format ← requiredText "format" params.format
  exportBytes mapper format (query sql) params.options

/-! ## Reading back -/

def Cell.content (cell : Cell) : Option CellObject :=
  if cell.type = "null" then none else cell.value

/-- A delimiter and a quote of one `char`, different and no line breaks. -/
structure Symbols where
  delimiter : Char
  quote : Char
  delimiterUnit : delimiter.toNat < 0x10000
  quoteUnit : quote.toNat < 0x10000
  distinct : delimiter ≠ quote
  delimiterLine : delimiter ≠ '\n' ∧ delimiter ≠ '\r'
  quoteLine : quote ≠ '\n' ∧ quote ≠ '\r'

def Symbols.dialect (symbols : Symbols) : Dialect Char where
  delimiter := symbols.delimiter
  quote := symbols.quote
  terminator := '\n'
  keptOut := fun char => char == '\r'
  delimiter_ne_quote := symbols.distinct
  delimiter_ne_terminator := symbols.delimiterLine.1
  quote_ne_terminator := symbols.quoteLine.1

/-- An unquoted mark means that there is no value. -/
def fieldValue (nullString : String) (field : QuotedFields.Field Char) : Option String :=
  if field.quoted = false ∧ field.text = nullString.toList then none
  else some (String.ofList field.text)

def readBack (symbols : Symbols) (nullString : String) (header : Bool) (bytes : ByteArray) :
    Option (List (List (Option String))) :=
  (String.fromUTF8? bytes).bind fun text =>
    (readRecords symbols.dialect text.toList).map fun records =>
      (records.drop (if header then 1 else 0)).map fun record =>
        record.map (fieldValue nullString)

/-- What a request asks for, its defaults included. -/
structure Requests (options : ExportOptions) (symbols : Symbols) (nullString : String) : Prop where
  delimiter : options.delimiter.getD "," = String.singleton symbols.delimiter
  quote : options.quote.getD "\"" = String.singleton symbols.quote
  nullString : options.nullString.getD "\\N" = nullString

/-- A request for CSV that is not refused. -/
structure Answered (params : ExportParams) : Prop where
  stream : trim params.streamId ≠ ""
  format : trim params.format = "csv"
  source : trim params.sql ≠ "" ∨ trim params.table ≠ ""

def selected (params : ExportParams) (name : String) : Bool :=
  decide (trim params.sql ≠ "") ||
    (decide (params.includeColumns = [] ∨ name ∈ params.includeColumns) &&
      decide (name ∉ params.excludeColumns))

def exportedCells (params : ExportParams) (names : List String) (row : List Cell) :
    List (Option String) :=
  ((names.zip row).filter fun cell => selected params cell.1).map fun cell =>
    cell.2.content.map CellObject.text

def KeepsCells (mapper : ObjectMapper) (params : ExportParams) (symbols : Symbols)
    (nullString : String) (names : List String) : Prop :=
  ∀ query : QueryResult, query.columns = names →
    ∃ bytes, handleDataExport mapper (fun _ => query) params = .ok bytes ∧
      readBack symbols nullString (params.options.header.getD true) bytes =
        some (query.rows.map (exportedCells params names))

/-- What that takes: nothing to trim, a mark that needs no quotes, all columns to be exported and
none twice. -/
structure Exportable (params : ExportParams) (symbols : Symbols) (nullString : String)
    (names : List String) : Prop where
  delimiter : 0x20 < symbols.delimiter.toNat
  quote : 0x20 < symbols.quote.toNat
  trimmed : trim nullString = nullString
  marked : nullString ≠ ""
  plain : Plain symbols.dialect nullString.toList
  some : names ≠ []
  distinct : names.Nodup
  selected : ∀ name ∈ names, selected params name = true

/-! ## The bytes of an answer -/

theorem handleDataExport_csv {params : ExportParams} (answered : Answered params)
    (mapper : ObjectMapper) (query : QueryResult) :
    handleDataExport mapper (fun _ => query) params =
      .ok (exportCsv query params.options).toByteArray := by
  have streamed : requiredText "stream_id" params.streamId = .ok (trim params.streamId) :=
    if_neg answered.stream
  have formatted : requiredText "format" params.format = .ok "csv" := by
    rw [requiredText, answered.format]
    rfl
  obtain ⟨sql, found⟩ : ∃ sql, exportSql params = .ok sql := by
    unfold exportSql
    split
    · rename_i blank
      rcases answered.source with given | given
      · exact absurd blank given
      · have named : requiredText "table" params.table = .ok (trim params.table) := if_neg given
        rw [named]
        exact ⟨_, rfl⟩
    · exact ⟨_, rfl⟩
  rw [handleDataExport, streamed, found, formatted]
  rfl

theorem readBack_csv (symbols : Symbols) (nullString : String) (header : Bool) (text : String) :
    readBack symbols nullString header text.toByteArray =
      (readRecords symbols.dialect text.toList).map fun records =>
        (records.drop (if header then 1 else 0)).map fun record =>
          record.map (fieldValue nullString) := by
  rw [readBack, Text.fromUTF8_toByteArray]
  rfl

/-! ## The settings -/

theorem trim_singleton (char : Char) :
    trim (String.singleton char) = if char.toNat ≤ 0x20 then "" else String.singleton char := by
  rw [trim, String.toList_singleton, Chars.trimMatches]
  by_cases blank : char.toNat ≤ 0x20
  · simp [blank]
  · simp [blank]

theorem firstChar_optionalText {value : Option String} {char standard : Char}
    (asked : value.getD (String.singleton standard) = String.singleton char) :
    firstChar (optionalText value (String.singleton standard)) standard =
      if char.toNat ≤ 0x20 then standard else char := by
  have first (char : Char) : firstChar (String.singleton char) standard = char := by
    rw [firstChar, String.toList_singleton]
    rfl
  cases value with
  | none =>
    have same : standard = char := by
      simpa using congrArg String.toList asked
    have blank : trim "" = "" := by decide
    rw [optionalText, Option.getD_none, if_pos blank, first, same, ite_self]
  | some text =>
    rw [Option.getD_some] at asked
    rw [optionalText, Option.getD_some, asked, trim_singleton]
    by_cases blank : char.toNat ≤ 0x20
    · rw [if_pos blank, if_pos blank, if_pos rfl, first]
    · have given : String.singleton char ≠ "" := by
        intro none
        simpa using congrArg String.toList none
      rw [if_neg blank, if_neg blank, if_neg given, first]

theorem optionalText_mark {value : Option String} {nullString : String}
    (asked : value.getD "\\N" = nullString) :
    optionalText value "\\N" = if trim nullString = "" then "\\N" else trim nullString := by
  cases value with
  | none =>
    rw [Option.getD_none] at asked
    rw [← asked]
    decide
  | some text =>
    rw [Option.getD_some] at asked
    rw [optionalText, Option.getD_some, asked]

theorem csvSettings_of_requests {options : ExportOptions} {symbols : Symbols} {nullString : String}
    (requests : Requests options symbols nullString) :
    csvSettings options =
      { delimiter := if symbols.delimiter.toNat ≤ 0x20 then ',' else symbols.delimiter
        quote := if symbols.quote.toNat ≤ 0x20 then '"' else symbols.quote
        nullString := if trim nullString = "" then "\\N" else trim nullString } := by
  have comma : ("," : String) = String.singleton ',' := rfl
  have mark : ("\"" : String) = String.singleton '"' := rfl
  have delimiter := requests.delimiter
  have quote := requests.quote
  rw [comma] at delimiter
  rw [mark] at quote
  rw [csvSettings, comma, mark, firstChar_optionalText delimiter, firstChar_optionalText quote,
    optionalText_mark requests.nullString]

/-! ## What is written -/

def rowCells (names : List String) (row : List Cell) : List (Option CellObject) :=
  names.map fun name =>
    ((puts (names.zipIdx.map fun name => (name.1, rowValue row name.2)) []).lookup name).getD none

theorem exportCsv_toList (query : QueryResult) (options : ExportOptions) :
    (exportCsv query options).toList = (if options.header.getD true then
        csvLine (csvSettings options) (query.columns.map fun name => some (.string name))
        else "").toList ++ (query.rows.map fun row =>
        (csvLine (csvSettings options) (rowCells query.columns row)).toList).flatten := by
  rw [exportCsv, Text.toList_foldl_append, rowsAsObjects, List.map_map]
  rfl

section Written

variable {symbols : Symbols} {nullString : String}

theorem escape_doubled (text : List Char) :
    escape symbols.dialect text = SqlTokens.doubled symbols.quote text := by
  induction text with
  | nil => rfl
  | cons char rest ih =>
    rw [SqlTokens.doubled, ← ih]
    by_cases isQuote : char = symbols.quote
    · rw [if_pos isQuote, isQuote]
      simp [escape, Symbols.dialect]
    · rw [if_neg isQuote]
      simp [escape, Symbols.dialect, isQuote]

theorem enclose_quoted (text : String) :
    (Text.enclose (String.singleton symbols.quote) text).toList =
      quoted symbols.dialect text.toList := by
  rw [Text.enclose, Text.replaceAll, String.toList_append, String.toList_append,
    String.toList_append, String.toList_singleton, String.toList_ofList]
  exact congrArg (fun inside => symbols.quote :: inside ++ [symbols.quote])
    ((SqlTokens.replaceFrom_doubled symbols.quote text.toList).trans (escape_doubled _).symm)

-- With the settings that were asked for and a plain mark, a cell is written as a field of its
-- value.
theorem csvCell_written (plain : Plain symbols.dialect nullString.toList)
    (value : Option CellObject) : ∃ field, Written symbols.dialect field
        (csvCell value nullString symbols.delimiter symbols.quote).toList ∧
      fieldValue nullString field = value.map CellObject.text := by
  cases value with
  | none => exact ⟨⟨false, nullString.toList⟩, .plain plain, by simp [fieldValue]⟩
  | some object =>
    simp only [csvCell]
    split
    · rename_i bare
      simp only [Bool.not_eq_true', Bool.or_eq_false_iff, decide_eq_false_iff_not] at bare
      obtain ⟨⟨⟨⟨⟨_, notMark⟩, noDelimiter⟩, noQuote⟩, noLine⟩, noReturn⟩ := bare
      refine ⟨_, .plain ⟨noDelimiter, noQuote, noLine, ?_⟩, ?_⟩
      · intro char among
        exact beq_false_of_ne fun same => noReturn (same ▸ among)
      · have other : object.text.toList ≠ nullString.toList :=
          fun same => notMark (String.toList_inj.1 same)
        rw [fieldValue, if_neg fun both => other both.2, String.ofList_toList]
        rfl
    · refine ⟨⟨true, object.text.toList⟩, ?_, ?_⟩
      · rw [enclose_quoted]
        exact .quoted _
      · rw [fieldValue, if_neg fun both => Bool.noConfusion both.1, String.ofList_toList]
        rfl

theorem csvLine_written (plain : Plain symbols.dialect nullString.toList)
    {values : List (Option CellObject)} (some : values ≠ []) :
    ∃ fields, WrittenRecord symbols.dialect fields
        (csvLine ⟨symbols.delimiter, symbols.quote, nullString⟩ values).toList ∧
      fields.map (fieldValue nullString) = values.map fun value => value.map CellObject.text := by
  induction values with
  | nil => exact absurd rfl some
  | cons value values ih =>
    obtain ⟨field, written, same⟩ := @csvCell_written _ _ plain value
    cases values with
    | nil =>
      refine ⟨[field], ?_, ?_⟩
      · rw [csvLine, List.map_singleton, String.intercalate_singleton, String.toList_append]
        exact .last written
      · rw [List.map_singleton, List.map_singleton, same]
    | cons next values =>
      obtain ⟨fields, others, alike⟩ := ih (List.cons_ne_nil next values)
      refine ⟨field :: fields, ?_, ?_⟩
      · have line : (csvLine ⟨symbols.delimiter, symbols.quote, nullString⟩
            (value :: next :: values)).toList =
            (csvCell value nullString symbols.delimiter symbols.quote).toList ++
              symbols.delimiter ::
                (csvLine ⟨symbols.delimiter, symbols.quote, nullString⟩
                  (next :: values)).toList := by
          simp only [csvLine, List.map_cons, String.intercalate_cons_cons,
            String.toList_append, String.toList_singleton, List.append_assoc,
            List.cons_append, List.nil_append]
        rw [line]
        exact .more written others
      · rw [List.map_cons, List.map_cons, same, alike]

end Written

theorem exportCsv_read {symbols : Symbols} {nullString : String}
    (plain : Plain symbols.dialect nullString.toList) {query : QueryResult}
    (some : query.columns ≠ []) {options : ExportOptions}
    (honoured : csvSettings options = ⟨symbols.delimiter, symbols.quote, nullString⟩) :
    readBack symbols nullString (options.header.getD true) (exportCsv query options).toByteArray =
      .some (query.rows.map fun row =>
        (rowCells query.columns row).map fun value => value.map CellObject.text) := by
  have rows : ∀ rows : List (List Cell), ∃ records,
      List.Forall₂ (WrittenRecord symbols.dialect) records (rows.map fun row =>
        (csvLine (csvSettings options) (rowCells query.columns row)).toList) ∧
      (records.map fun record => record.map (fieldValue nullString)) = rows.map fun row =>
        (rowCells query.columns row).map fun value => value.map CellObject.text := by
    intro rows
    induction rows with
    | nil => exact ⟨[], .nil, rfl⟩
    | cons row rows ih =>
      obtain ⟨records, written, same⟩ := ih
      have cells : rowCells query.columns row ≠ [] := by simpa [rowCells] using some
      obtain ⟨fields, line, alike⟩ := csvLine_written plain cells
      rw [← honoured] at line
      exact ⟨fields :: records, .cons line written, by rw [List.map_cons, List.map_cons, alike, same]⟩
  obtain ⟨records, written, same⟩ := rows query.rows
  rw [readBack_csv, exportCsv_toList]
  cases options.header.getD true with
  | false =>
    rw [if_neg Bool.false_ne_true, if_neg Bool.false_ne_true, String.toList_empty,
      List.nil_append, readRecords_written written, ← same]
    rfl
  | true =>
    have names : (query.columns.map fun name => Option.some (CellObject.string name)) ≠ [] := by
      simpa using some
    obtain ⟨fields, line, _⟩ := csvLine_written plain names
    rw [← honoured] at line
    have whole := readRecords_written (.cons line written)
    rw [List.flatten_cons] at whole
    rw [if_pos rfl, if_pos rfl, whole, ← same]
    rfl

theorem zipIdx_rowValue {names : List String} {row : List Cell} (wide : row.length = names.length) :
    (names.zipIdx.map fun name => (name.1, rowValue row name.2)) =
      names.zip (row.map Cell.content) := by
  apply List.ext_getElem
  · simp [wide]
  · intro index inside _
    have within : index < row.length := by
      rw [List.length_map, List.length_zipIdx] at inside
      omega
    simp [rowValue, Cell.content, within]

theorem rowCells_distinct {names : List String} (distinct : names.Nodup) {row : List Cell}
    (wide : row.length = names.length) : rowCells names row = row.map Cell.content := by
  have aligned : (row.map Cell.content).length = names.length := by
    rw [List.length_map, wide]
  have found := congrArg (List.map fun value => value.getD none)
    (map_lookup_puts distinct aligned)
  rw [List.map_map, List.map_map] at found
  rw [rowCells, zipIdx_rowValue wide]
  exact found.trans (by simp)

end Onetcli.JavaIpc
