import Onetcli.DuckDb.ExportStreams
import Onetcli.Lib.Markers

/-!
The CSV of the DuckDB driver read back. Its delimiter and its quote can be texts of several
characters, and a field is quoted when one of them is inside it: what a field makes together with
the text after it is not looked at.
-/

namespace Onetcli.DuckDb

open Markers

/-- The rows are appended to the output one after the other. -/
def csvLines (options : CsvOptions) (rows : List (List (String × Bool))) : String :=
  rows.foldl (fun out row => out ++ csvLine row options) ""

structure Separable (options : CsvOptions) : Prop where
  quoteOutside : containsText options.delimiter options.quote = false
  delimiterOutside : containsText options.quote options.delimiter = false
  delimiterLine : '\n' ∉ options.delimiter.toList ∧ '\r' ∉ options.delimiter.toList
  quoteLine : '\n' ∉ options.quote.toList ∧ '\r' ∉ options.quote.toList

def csvDialect (options : CsvOptions) : Dialect Char where
  delimiter := options.delimiter.toList
  quote := options.quote.toList
  terminator := '\n'

def readCsv (options : CsvOptions) (text : String) : Option (List (List String)) :=
  (readRecords (csvDialect options) text.toList).map fun records =>
    records.map fun record => record.map String.ofList

theorem Separable.apart {options : CsvOptions} (separable : Separable options) :
    Apart (csvDialect options) where
  delimiter := fun none => options.delimited (String.toList_eq_nil_iff.1 none)
  quote := fun none => options.quoted (String.toList_eq_nil_iff.1 none)
  quoteOutside := of_decide_eq_false separable.quoteOutside
  delimiterOutside := of_decide_eq_false separable.delimiterOutside
  delimiterLine := separable.delimiterLine.1
  quoteLine := separable.quoteLine.1

/-! ## What is written -/

section Written

variable (options : CsvOptions)

theorem replaceFrom_escape (skip : Nat) (value : List Char) :
    Text.replaceFrom options.quote.toList (options.quote ++ options.quote).toList skip value =
      escape (csvDialect options) skip value := by
  induction value generalizing skip with
  | nil => cases skip <;> rfl
  | cons char rest ih =>
    cases skip with
    | succ skip => exact ih skip
    | zero =>
      have same : options.quote.toList.isPrefixOf (char :: rest) = true ↔
          (csvDialect options).quote <+: char :: rest := List.isPrefixOf_iff_prefix
      by_cases found : (csvDialect options).quote <+: char :: rest
      · rw [Text.replaceFrom, escape, if_pos found, if_pos (same.2 found), ih,
          String.toList_append]
        rfl
      · rw [Text.replaceFrom, escape, if_neg found, if_neg (fun is => found (same.1 is)), ih]

theorem enclose_quoted (value : String) :
    (Text.enclose options.quote value).toList = quoted (csvDialect options) value.toList := by
  rw [Text.enclose, Text.replaceAll, String.toList_append, String.toList_append,
    String.toList_ofList, replaceFrom_escape]
  rfl

/-- Nothing in the value makes quotes necessary. -/
structure Bare (value : String) : Prop where
  delimiter : containsText value options.delimiter = false
  newline : containsText value "\n" = false
  carriage : containsText value "\r" = false
  quote : containsText value options.quote = false

theorem containsText_char (value : String) (char : Char) :
    containsText value (String.singleton char) = false ↔ char ∉ value.toList := by
  rw [containsText, decide_eq_false_iff_not, String.toList_singleton, List.singleton_infix_iff]

variable {options}

theorem Bare.plain {value : String} (bare : Bare options value) :
    Plain (csvDialect options) value.toList where
  delimiter := of_decide_eq_false bare.delimiter
  quote := of_decide_eq_false bare.quote
  terminator := (containsText_char value '\n').1 bare.newline

theorem csvEscape_bare {value : String} (bare : Bare options value) :
    csvEscape value options false = value := by
  rw [csvEscape, bare.delimiter, bare.newline, bare.carriage, bare.quote]
  rfl

theorem csvEscape_newline {value : String} (newline : '\n' ∈ value.toList) (forceQuote : Bool) :
    csvEscape value options forceQuote = Text.enclose options.quote value := by
  have contained : containsText value "\n" = true := by
    rw [← Bool.not_eq_false]
    exact fun absent => (containsText_char value '\n').1 absent newline
  simp [csvEscape, contained]

theorem csvEscape_written (value : String) (forceQuote : Bool) :
    Written (csvDialect options) value.toList (csvEscape value options forceQuote).toList := by
  rw [csvEscape]
  split
  · rw [enclose_quoted]
    exact .quoted
  · rename_i bare
    simp only [Bool.or_eq_true, not_or, Bool.not_eq_true] at bare
    exact .plain (Bare.plain ⟨bare.1.1.1.2, bare.1.1.2, bare.1.2, bare.2⟩)

theorem csvLine_written {row : List (String × Bool)} (fields : row ≠ []) :
    WrittenRecord (csvDialect options) (row.map fun value => value.1.toList)
      (csvLine row options).toList := by
  induction row with
  | nil => exact absurd rfl fields
  | cons value row ih =>
    have written := @csvEscape_written options value.1 value.2
    cases row with
    | nil =>
      rw [csvLine, List.map_singleton, List.map_singleton, String.intercalate_singleton,
        String.toList_append]
      exact .last written
    | cons next row =>
      have others := ih (List.cons_ne_nil next row)
      have line : (csvLine (value :: next :: row) options).toList =
          (csvEscape value.1 options value.2).toList ++
            (options.delimiter.toList ++ (csvLine (next :: row) options).toList) := by
        simp only [csvLine, List.map_cons, String.intercalate_cons_cons, String.toList_append,
          List.append_assoc]
      rw [line]
      exact .more written others

theorem csvLines_toList (rows : List (List (String × Bool))) :
    (csvLines options rows).toList = (rows.map fun row => (csvLine row options).toList).flatten :=
  Text.toList_foldl_append (fun row => csvLine row options) rows ""

end Written

/-! ## What is read -/

section Recovered

variable {options : CsvOptions} (separable : Separable options)

include separable

theorem readCsv_lines (steady : Steady (csvDialect options)) {rows : List (List (String × Bool))}
    (fields : ∀ row ∈ rows, row ≠ []) :
    readCsv options (csvLines options rows) = some (rows.map fun row => row.map Prod.fst) := by
  have written : List.Forall₂ (WrittenRecord (csvDialect options))
      (rows.map fun row => row.map fun value => value.1.toList)
      (rows.map fun row => (csvLine row options).toList) := by
    rw [List.forall₂_map_left_iff, List.forall₂_map_right_iff, List.forall₂_same]
    exact fun row among => csvLine_written (fields row among)
  rw [readCsv, csvLines_toList, readRecords_written separable.apart steady written, Option.map_some,
    List.map_map]
  congr 2
  funext row
  simp

theorem bare_part {front back : List Char} (more : back ≠ [])
    (whole : options.delimiter.toList = front ++ back ∨ options.quote.toList = front ++ back) :
    Bare options (String.ofList front) := by
  have backSome := List.length_pos_iff.2 more
  have frontIn : front <:+: front ++ back := (List.prefix_append front back).isInfix
  have notWhole : ¬front ++ back <:+: front := by
    intro found
    have shorter := found.length_le
    rw [List.length_append] at shorter
    omega
  have quoteOutside := of_decide_eq_false separable.quoteOutside
  have delimiterOutside := of_decide_eq_false separable.delimiterOutside
  constructor
  · rw [containsText, String.toList_ofList, decide_eq_false_iff_not]
    rcases whole with same | same
    · rwa [same]
    · exact fun found => delimiterOutside (by rw [same]; exact found.trans frontIn)
  · apply (containsText_char _ '\n').2
    rw [String.toList_ofList]
    intro among
    rcases whole with same | same
    · exact separable.delimiterLine.1 (by rw [same]; exact frontIn.subset among)
    · exact separable.quoteLine.1 (by rw [same]; exact frontIn.subset among)
  · apply (containsText_char _ '\r').2
    rw [String.toList_ofList]
    intro among
    rcases whole with same | same
    · exact separable.delimiterLine.2 (by rw [same]; exact frontIn.subset among)
    · exact separable.quoteLine.2 (by rw [same]; exact frontIn.subset among)
  · rw [containsText, String.toList_ofList, decide_eq_false_iff_not]
    rcases whole with same | same
    · exact fun found => quoteOutside (by rw [same]; exact found.trans frontIn)
    · rwa [same]

omit separable in
theorem readCsv_eq_some {text : String} {records : List (List String)}
    (result : readCsv options text = some records) : readRecords (csvDialect options) text.toList =
      some (records.map fun record => record.map String.toList) := by
  obtain ⟨fields, done, same⟩ := Option.map_eq_some_iff.1 result
  rw [done, ← same, List.map_map]
  simp [Function.comp_def]

theorem partRow_toList {front back : List Char} (more : back ≠ [])
    (whole : options.delimiter.toList = front ++ back ∨ options.quote.toList = front ++ back) :
    (csvLines options [[(String.ofList front, false), ("", false)]]).toList =
      front ++ ((csvDialect options).delimiter ++ [(csvDialect options).terminator]) := by
  have part := csvEscape_bare (bare_part separable more whole)
  have none : csvEscape "" options false = "" :=
    csvEscape_bare (@bare_part _ separable [] _ separable.apart.delimiter (Or.inl rfl))
  rw [csvLines_toList, List.map_singleton, List.flatten_singleton, csvLine, List.map_cons,
    List.map_singleton, part, none, String.intercalate_cons_cons, String.intercalate_singleton,
    String.append_empty, String.toList_append, String.toList_append, String.toList_ofList,
    List.append_assoc]
  rfl

theorem steady_of_recovered
    (recovered : ∀ rows : List (List (String × Bool)), (∀ row ∈ rows, row ≠ []) →
      readCsv options (csvLines options rows) = some (rows.map fun row => row.map Prod.fst)) :
    Steady (csvDialect options) := by
  have row (values : List (String × Bool)) (fields : values ≠ []) :=
    readCsv_eq_some (recovered [values] (by simpa using fields))
  constructor
  · intro front back inside more whole border
    have read := row [(String.ofList front, false), ("", false)] (List.cons_ne_nil _ _)
    rw [partRow_toList separable more (Or.inl whole)] at read
    apply bordered_delimiter_lost separable.apart inside whole border
    simpa using read
  · intro front back inside more whole border
    have read := row [("\n" ++ String.ofList front, false)] (List.cons_ne_nil _ _)
    have text : (csvLines options [[("\n" ++ String.ofList front, false)]]).toList =
        quoted (csvDialect options) ((csvDialect options).terminator :: front) ++
          [(csvDialect options).terminator] := by
      have enclosed := @csvEscape_newline options ("\n" ++ String.ofList front) (by simp) false
      rw [csvLines_toList, List.map_singleton, List.flatten_singleton, csvLine, List.map_singleton,
        enclosed, String.intercalate_singleton, String.toList_append, enclose_quoted,
        String.toList_append, String.toList_ofList, String.toList_ofList]
      rfl
    rw [text, bordered_quote_lost separable.apart inside more whole border] at read
    exact absurd read (by simp)
  · intro front back inside more whole begins
    have read := row [(String.ofList front, false), ("", false)] (List.cons_ne_nil _ _)
    rw [partRow_toList separable more (Or.inr whole),
      overlap_lost separable.apart whole begins] at read
    exact absurd read (by simp)

end Recovered

/-- A row of no field leaves an empty line, as one of an empty field does. -/
def lineRow (row : List (String × Bool)) : List (String × Bool) :=
  if row = [] then [("", false)] else row

theorem lineRow_ne_nil (row : List (String × Bool)) : lineRow row ≠ [] := by
  rw [lineRow]
  split
  · exact List.cons_ne_nil _ _
  · assumption

theorem lineRow_fields (row : List (String × Bool)) :
    (lineRow row).map Prod.fst = row.map Prod.fst ↔ row ≠ [] := by
  cases row with
  | nil => simp [lineRow]
  | cons value row => simp [lineRow]

theorem csvLines_lineRow {options : CsvOptions} (separable : Separable options)
    (rows : List (List (String × Bool))) :
    csvLines options (rows.map lineRow) = csvLines options rows := by
  have none : csvEscape "" options false = "" :=
    csvEscape_bare (@bare_part _ separable [] _ separable.apart.delimiter (Or.inl rfl))
  have line (row : List (String × Bool)) : csvLine (lineRow row) options = csvLine row options := by
    cases row with
    | nil =>
      rw [lineRow, if_pos rfl, csvLine, csvLine, List.map_singleton, none,
        String.intercalate_singleton, List.map_nil, String.intercalate_nil]
    | cons value row => rw [lineRow, if_neg (List.cons_ne_nil _ _)]
  rw [csvLines, List.foldl_map]
  simp only [line]
  rfl

/-- Rows are read back, the rows of no field apart, when neither text has a border and none begins
in the quote and goes on in the delimiter, and only then. -/
theorem csvLines_recovered_iff (options : CsvOptions) (separable : Separable options) :
    (∀ rows : List (List (String × Bool)),
      readCsv options (csvLines options rows) = some (rows.map fun row => row.map Prod.fst) ↔
        ∀ row ∈ rows, row ≠ []) ↔
    Steady (csvDialect options) := by
  constructor
  · exact fun recovered => steady_of_recovered separable fun rows => (recovered rows).2
  · intro steady rows
    have read := @readCsv_lines _ separable steady (rows.map lineRow) (by simp [lineRow_ne_nil])
    rw [csvLines_lineRow separable, List.map_map] at read
    rw [read, Option.some.injEq, List.map_inj_left]
    exact forall₂_congr fun row _ => lineRow_fields row

def commaCsvOptions : CsvOptions where
  delimiter := ","
  quote := "\""
  header := true
  nullString := none
  delimited := comma_ne_empty
  quoted := doubleQuote_ne_empty

theorem commaCsvOptions_separable : Separable commaCsvOptions where
  quoteOutside := by decide
  delimiterOutside := by decide
  delimiterLine := by decide
  quoteLine := by decide

theorem csvLines_recovered_comma :
    Separable commaCsvOptions ∧ ∀ rows : List (List (String × Bool)),
      readCsv commaCsvOptions (csvLines commaCsvOptions rows) =
        some (rows.map fun row => row.map Prod.fst) ↔ ∀ row ∈ rows, row ≠ [] :=
  ⟨commaCsvOptions_separable, (csvLines_recovered_iff commaCsvOptions commaCsvOptions_separable).2
    (steady_of_single rfl rfl)⟩

theorem pipes_ne_empty : "||" ≠ "" := by decide

def pipeCsvOptions : CsvOptions where
  delimiter := "||"
  quote := "\""
  header := true
  nullString := none
  delimited := pipes_ne_empty
  quoted := doubleQuote_ne_empty

/-- The bar at the end of a field and the first of the delimiter are taken for the delimiter. -/
theorem csvLines_cut :
    Separable pipeCsvOptions ∧
    readCsv pipeCsvOptions (csvLines pipeCsvOptions [[("a|", false), ("b", false)]]) =
      some [["a", "|b"]] := by
  constructor
  · constructor <;> decide
  · decide +kernel

end Onetcli.DuckDb
