import Onetcli.DuckDb.ExportStreams
import Onetcli.DbIpc.Exports
import Onetcli.Lib.NullMarks

/-!
NULL in the CSV exports of the Go runtime and of the DuckDB and openGauss drivers, with the
default delimiter and quote. All three leave the mark of NULL bare when it can stand bare and
force quotes on every text that equals it; a mark that needs quotes itself is lost.
-/

/-!
The CSV export of extensions/ipc/opengauss/src/handlers.rs. Cells and options are those of the
protocol; the driver does not check the options.
-/

namespace Onetcli.OpenGauss

open DuckDb (CellValue Json containsText)

structure CsvOptions where
  delimiter : String := ","
  quote : String := "\""
  header : Bool := true
  nullString : Option String := none

def CsvOptions.null (options : CsvOptions) : String := options.nullString.getD "\\N"

def cellToJson : CellValue → Json
  | .custom _ raw => .string raw
  | cell => DuckDb.cellToJsonValue cell

def csvEscape (value : String) (options : CsvOptions) (forceQuote : Bool) : String :=
  if forceQuote || containsText value options.delimiter || containsText value options.quote ||
      containsText value "\n" || containsText value "\r" then
    Text.enclose options.quote value
  else value

def cellToCsvString (cell : CellValue) (options : CsvOptions) : String :=
  match cellToJson cell with
  | .null => options.null
  | .string value => value
  | .other printed => printed

def CellValue.isNull : CellValue → Bool
  | .null => true
  | _ => false

def cellToCsvField (cell : CellValue) (options : CsvOptions) : String × Bool :=
  let value := cellToCsvString cell options
  (value, !CellValue.isNull cell && (value == "" || value == options.null))

def csvCell (options : CsvOptions) (cell : CellValue) : String :=
  let field := cellToCsvField cell options
  csvEscape field.1 options field.2

/-- The lines are joined: the last one has no line break. -/
def rowsToCsv (columns : List String) (rows : List (List CellValue)) (options : CsvOptions) :
    String :=
  let header := if options.header then
    [options.delimiter.intercalate (columns.map fun name => csvEscape name options false)] else []
  "\n".intercalate
    (header ++ rows.map fun row => options.delimiter.intercalate (row.map (csvCell options)))

end Onetcli.OpenGauss

namespace Onetcli.CsvNulls

open NullMarks Runes

/-- None of the characters for which all three writers put a field between quotes. -/
def Bare (text : String) : Prop := ∀ char ∈ text.toList, char ∉ [',', '"', '\r', '\n']

theorem bare_iff (text : String) :
    Bare text ↔ ',' ∉ text.toList ∧ '"' ∉ text.toList ∧ '\r' ∉ text.toList ∧
      '\n' ∉ text.toList := by
  simp only [Bare, List.mem_cons, List.not_mem_nil, or_false, not_or]
  constructor
  · intro bare
    refine ⟨?_, ?_, ?_, ?_⟩ <;> intro among <;> have told := bare _ among <;> simp at told
  · rintro ⟨comma, quote, feed, line⟩ char among
    refine ⟨?_, ?_, ?_, ?_⟩ <;> rintro rfl <;> contradiction

/-! ## Go -/

section Go

open DbIpc DbIpc.Exports

variable (options : CsvExportOptions)

def goQuoting : Quoting (List UInt8) where
  bare value := !(decide (options.delimiter ∈ runes value) || decide (options.quote ∈ runes value) ||
    decide ('\r' ∈ runes value) || decide ('\n' ∈ runes value))
  enclose value :=
    utf8 (options.quote :: ((runes value).flatMap fun char =>
      if char = options.quote then [options.quote, char] else [char]) ++ [options.quote])
  enclosed value := by simp [runes_utf8]

theorem writeCSVField_eq (value : List UInt8) (forced : Bool) :
    Exports.writeCSVField options value forced = (goQuoting options).write value forced := by
  cases forced with
  | true => simp [Exports.writeCSVField, Quoting.write, goQuoting]
  | false =>
    simp only [Exports.writeCSVField, Quoting.write, goQuoting, Bool.false_or, Bool.not_not]
    generalize (decide (options.delimiter ∈ runes value) ||
      decide (options.quote ∈ runes value) || decide ('\r' ∈ runes value) ||
      decide ('\n' ∈ runes value)) = special
    cases special <;> rfl

def isNull : SqlValue → Bool
  | .null => true
  | _ => false

/-- What `exportRowsCSV` writes for a value. -/
def goWritten (value : SqlValue) : List UInt8 :=
  Exports.writeCSVField options (csvField options value).1 (csvField options value).2

def goForced (text : List UInt8) : Bool := text == [] || text == nullBytes options

theorem go_cells : Written (goQuoting options) isNull textOf (goWritten options) (nullBytes options)
      (goForced options) where
  null cell missing := by
    cases cell with
    | null => exact writeCSVField_eq options _ _
    | _ => cases missing
  value cell present := by
    cases cell with
    | null => cases present
    | _ => exact writeCSVField_eq options _ _
  someNull := ⟨.null, rfl⟩
  someMark := ⟨.bytes (nullBytes options), rfl, rfl⟩

theorem go_marked : Marked (nullBytes options) (goForced options) where
  told text same := by simp [goForced, same]

def goOptions (header : Option Bool) (nullString : String) : CsvExportOptions :=
  parseCSVExportOptions { header, nullString := some nullString }

theorem go_tellsNull_iff (header : Option Bool) (nullString : String) :
    TellsNull isNull (goWritten (goOptions header nullString)) (utf8 nullString.toList) ↔
      Bare nullString := by
  have mark : nullBytes (goOptions header nullString) = utf8 nullString.toList := rfl
  have told := tellsNull_iff (goQuoting (goOptions header nullString))
    (go_marked (goOptions header nullString)) (go_cells _)
  rw [mark] at told
  rw [told, bare_iff]
  simp [goQuoting, runes_utf8, goOptions, parseCSVExportOptions, firstRune, and_assoc]

end Go

/-! ## DuckDB and openGauss -/

section Rust

open DuckDb (CellValue containsText)

theorem containsText_char (text : String) (char : Char) :
    containsText text (String.ofList [char]) = decide (char ∈ text.toList) := by
  rw [containsText, String.toList_ofList]
  congr 1
  exact propext (List.singleton_infix_iff char text.toList)

theorem enclose_contains_quote (quote text : String) :
    containsText (Text.enclose quote text) quote = true := by
  rw [containsText, decide_eq_true_eq, Text.enclose, String.toList_append, String.toList_append,
    List.append_assoc]
  exact (List.prefix_append _ _).isInfix

def duckdbQuoting (options : DuckDb.CsvOptions) : Quoting String where
  bare value := !(containsText value options.delimiter || containsText value "\n" ||
    containsText value "\r" || containsText value options.quote)
  enclose := Text.enclose options.quote
  enclosed text := by simp [enclose_contains_quote]

def openGaussQuoting (options : OpenGauss.CsvOptions) : Quoting String where
  bare value := !(containsText value options.delimiter || containsText value options.quote ||
    containsText value "\n" || containsText value "\r")
  enclose := Text.enclose options.quote
  enclosed text := by simp [enclose_contains_quote]

theorem bare_of_defaults (text : String) :
    (!(containsText text "," || containsText text "\n" || containsText text "\r" ||
      containsText text "\"")) = true ↔ Bare text := by
  have comma := containsText_char text ','
  have line := containsText_char text '\n'
  have feed := containsText_char text '\r'
  have quote := containsText_char text '"'
  rw [bare_iff]
  change containsText text "," = _ at comma
  change containsText text "\n" = _ at line
  change containsText text "\r" = _ at feed
  change containsText text "\"" = _ at quote
  rw [comma, line, feed, quote]
  simp only [Bool.not_eq_true', Bool.or_eq_false_iff, decide_eq_false_iff_not]
  tauto

def duckdbWritten (options : DuckDb.CsvOptions) (cell : CellValue) : String :=
  DuckDb.csvEscape (DuckDb.cellToCsvField cell options).1 options
    (DuckDb.cellToCsvField cell options).2

theorem duckdb_cells (options : DuckDb.CsvOptions) :
    Written (duckdbQuoting options) OpenGauss.CellValue.isNull
      (fun cell => DuckDb.cellToCsvString cell options) (duckdbWritten options) options.null
      (fun text => text == "" || text == options.null) where
  null cell missing := by
    cases cell with
    | null => simp [duckdbWritten, DuckDb.csvEscape, DuckDb.cellToCsvField, Quoting.write,
        duckdbQuoting, DuckDb.cellToCsvString, DuckDb.cellToJsonValue]
    | _ => cases missing
  value cell present := by
    cases cell with
    | null => cases present
    | _ => simp [duckdbWritten, DuckDb.csvEscape, DuckDb.cellToCsvField, Quoting.write,
        duckdbQuoting, or_assoc]
  someNull := ⟨.null, rfl⟩
  someMark := ⟨.text options.null, rfl, rfl⟩

theorem openGauss_cells (options : OpenGauss.CsvOptions) :
    Written (openGaussQuoting options) OpenGauss.CellValue.isNull
      (fun cell => OpenGauss.cellToCsvString cell options) (OpenGauss.csvCell options) options.null
      (fun text => text == "" || text == options.null) where
  null cell missing := by
    cases cell with
    | null => simp [OpenGauss.csvCell, OpenGauss.csvEscape, OpenGauss.cellToCsvField,
        Quoting.write, openGaussQuoting, OpenGauss.cellToCsvString, OpenGauss.cellToJson,
        OpenGauss.CellValue.isNull, DuckDb.cellToJsonValue]
    | _ => cases missing
  value cell present := by
    cases cell with
    | null => cases present
    | _ => simp [OpenGauss.csvCell, OpenGauss.csvEscape, OpenGauss.cellToCsvField,
        Quoting.write, openGaussQuoting, OpenGauss.CellValue.isNull, or_assoc]
  someNull := ⟨.null, rfl⟩
  someMark := ⟨.text options.null, rfl, rfl⟩

theorem force_told (null : String) : Marked null (fun text => text == "" || text == null) where
  told text same := by simp [same]

def duckdbOptions (header : Bool) (nullString : String) : DuckDb.CsvOptions where
  delimiter := ","
  quote := "\""
  header := header
  nullString := some nullString
  delimited := DuckDb.comma_ne_empty
  quoted := DuckDb.doubleQuote_ne_empty

theorem duckdb_tellsNull_iff (header : Bool) (nullString : String) :
    TellsNull OpenGauss.CellValue.isNull (duckdbWritten (duckdbOptions header nullString))
      nullString ↔ Bare nullString := by
  rw [← bare_of_defaults]
  exact tellsNull_iff (duckdbQuoting (duckdbOptions header nullString)) (force_told nullString)
    (duckdb_cells (duckdbOptions header nullString))

def openGaussOptions (header : Bool) (nullString : String) : OpenGauss.CsvOptions :=
  { header, nullString := some nullString }

theorem openGauss_tellsNull_iff (header : Bool) (nullString : String) :
    TellsNull OpenGauss.CellValue.isNull (OpenGauss.csvCell (openGaussOptions header nullString))
      nullString ↔ Bare nullString := by
  have told := tellsNull_iff (openGaussQuoting (openGaussOptions header nullString))
    (force_told nullString) (openGauss_cells (openGaussOptions header nullString))
  rw [← bare_of_defaults]
  have order (comma quote line feed : Bool) :
      (comma || quote || line || feed) = (comma || line || feed || quote) := by
    cases comma <;> cases quote <;> cases line <;> cases feed <;> rfl
  rw [← order]
  exact told

end Rust

/-! ## All three -/

/-- Which NULLs a reader can tell from text, in each of the exporters. -/
theorem nulls_told_iff (nullString : String) :
    (∀ header, TellsNull isNull (goWritten (goOptions header nullString)) (utf8 nullString.toList) ↔
      Bare nullString) ∧
    (∀ header, TellsNull OpenGauss.CellValue.isNull
        (duckdbWritten (duckdbOptions header nullString)) nullString ↔ Bare nullString) ∧
    (∀ header, TellsNull OpenGauss.CellValue.isNull
        (OpenGauss.csvCell (openGaussOptions header nullString)) nullString ↔ Bare nullString) :=
  ⟨fun header => go_tellsNull_iff header nullString,
    fun header => duckdb_tellsNull_iff header nullString,
    fun header => openGauss_tellsNull_iff header nullString⟩

/-- The mark `a,b` is written as the text `a,b` is. -/
theorem comma_mark_confused :
    duckdbWritten (duckdbOptions true "a,b") .null = "\"a,b\"" ∧
      duckdbWritten (duckdbOptions true "a,b") (.text "a,b") = "\"a,b\"" ∧
      OpenGauss.csvCell (openGaussOptions true "a,b") .null = "\"a,b\"" ∧
      OpenGauss.csvCell (openGaussOptions true "a,b") (.text "a,b") = "\"a,b\"" ∧
      ¬TellsNull isNull (goWritten (goOptions none "a,b")) (utf8 "a,b".toList) := by
  refine ⟨by decide +kernel, by decide +kernel, by decide +kernel, by decide +kernel, ?_⟩
  rw [go_tellsNull_iff, bare_iff]
  exact fun bare => bare.1 (by decide +kernel)

end Onetcli.CsvNulls
