import Mathlib.Data.List.Forall2
import Onetcli.Lib.Delimited
import Onetcli.Lib.Text

/-!
The CSV export of internal/dbipc/data.go. The buffer is the list of its runes;
`csvBytes` are the bytes that leave it. Every byte is one of a written rune, so a
reader of runes sees what was written.
-/

namespace Onetcli.DbIpc

open Delimited

structure CsvExportOptions where
  delimiter : Char := ','
  quote : Char := '"'
  header : Bool := true
  nullString : String := "\\N"

/-- The entries of the `options` object that have the type the parser looks for. -/
structure CsvOptionValues where
  delimiter : Option String := none
  quote : Option String := none
  header : Option Bool := none
  nullString : Option String := none

def firstRune (value : Option String) (default : Char) : Char :=
  match value with
  | none => default
  | some text => text.toList.head?.getD default

def parseCSVExportOptions (values : CsvOptionValues) : CsvExportOptions where
  delimiter := firstRune values.delimiter ','
  quote := firstRune values.quote '"'
  header := values.header.getD true
  nullString := values.nullString.getD "\\N"

section Write

variable (options : CsvExportOptions)

def writeCSVField (value : String) (forceQuote : Bool) : List Char :=
  let needsQuote := forceQuote || decide (options.delimiter ∈ value.toList) ||
    decide (options.quote ∈ value.toList) || decide ('\r' ∈ value.toList) ||
    decide ('\n' ∈ value.toList)
  if !needsQuote then value.toList
  else
    options.quote :: (value.toList.flatMap fun char =>
      if char = options.quote then [options.quote, char] else [char]) ++ [options.quote]

/-- `forceQuote != nil && forceQuote[i]`; an index past the mask panics. -/
def forcedAt (forceQuote : Option (List Bool)) (i : Nat) : Option Bool :=
  match forceQuote with
  | none => some false
  | some mask => mask[i]?

/-- The loop over the fields from index `i` on. -/
def writeCSVFields (forceQuote : Option (List Bool)) : Nat → List String → Option (List Char)
  | _, [] => some []
  | i, value :: rest => do
    let forced ← forcedAt forceQuote i
    let written := writeCSVField options value forced
    let tail ← writeCSVFields forceQuote (i + 1) rest
    pure ((if 0 < i then [options.delimiter] else []) ++ written ++ tail)

def writeCSVRecord (record : List String) (forceQuote : Option (List Bool)) :
    Option (List Char) :=
  (writeCSVFields options forceQuote 0 record).map (· ++ ['\n'])

/-- Records written one after the other to one buffer. -/
def writeCSVRecords : List (List String × Option (List Bool)) → Option (List Char)
  | [] => some []
  | row :: rest => do
    let text ← writeCSVRecord options row.1 row.2
    let tail ← writeCSVRecords rest
    pure (text ++ tail)

def csvBytes (buffer : List Char) : ByteArray := (String.ofList buffer).toByteArray

end Write

/-! ## Reading back -/

/-- The symbols of an export can be told apart. -/
structure Readable (options : CsvExportOptions) : Prop where
  distinct : options.delimiter ≠ options.quote
  delimiterInLine : options.delimiter ≠ '\n'
  quoteInLine : options.quote ≠ '\n'

def csvDialect (options : CsvExportOptions) (readable : Readable options) : Dialect Char where
  delimiter := options.delimiter
  quote := options.quote
  terminator := '\n'
  delimiter_ne_quote := readable.distinct
  delimiter_ne_terminator := readable.delimiterInLine
  quote_ne_terminator := readable.quoteInLine

def readCSV (dialect : Dialect Char) (bytes : ByteArray) : Option (List (List String)) :=
  (String.fromUTF8? bytes).bind fun text =>
    (readRecords dialect text.toList).map fun records =>
      records.map fun record => record.map String.ofList

/-- The mask has an entry for every field, or is nil. -/
def MaskFits (record : List String) (forceQuote : Option (List Bool)) : Prop :=
  ∀ mask, forceQuote = some mask → record.length ≤ mask.length

section Read

variable {options : CsvExportOptions} (readable : Readable options)

theorem writeCSVField_written (value : String) (forceQuote : Bool) :
    Written (csvDialect options readable) value.toList
      (writeCSVField options value forceQuote) := by
  simp only [writeCSVField]
  split
  · rename_i bare
    simp only [Bool.not_eq_true', Bool.or_eq_false_iff, decide_eq_false_iff_not] at bare
    exact .plain ⟨bare.1.1.1.2, bare.1.1.2, bare.2⟩
  · exact .quoted

theorem forcedAt_some {forceQuote : Option (List Bool)} {i : Nat}
    (inside : ∀ mask, forceQuote = some mask → i < mask.length) :
    ∃ forced, forcedAt forceQuote i = some forced := by
  cases forceQuote with
  | none => exact ⟨false, rfl⟩
  | some mask => exact ⟨_, List.getElem?_eq_getElem (inside mask rfl)⟩

-- The fields from index `i` on, after the delimiter that separates them from the ones before.
theorem writeCSVFields_written (forceQuote : Option (List Bool)) (values : List String) (i : Nat)
    (proper : values ≠ [])
    (fits : ∀ mask, forceQuote = some mask → i + values.length ≤ mask.length) :
    ∃ text, writeCSVFields options forceQuote i values =
        some ((if 0 < i then [options.delimiter] else []) ++ text) ∧
      WrittenRecord (csvDialect options readable) (values.map String.toList) (text ++ ['\n']) := by
  induction values generalizing i with
  | nil => exact absurd rfl proper
  | cons value rest ih =>
    simp only [List.length_cons] at fits
    obtain ⟨forced, found⟩ := forcedAt_some fun mask given => by
      have inside := fits mask given
      show i < mask.length
      omega
    have written := writeCSVField_written readable value forced
    cases rest with
    | nil =>
      refine ⟨writeCSVField options value forced, ?_, .last written⟩
      simp [writeCSVFields, found]
    | cons next rest =>
      obtain ⟨tail, others, record⟩ := ih (i + 1) (by simp) (by
        intro mask given
        have inside := fits mask given
        omega)
      refine ⟨writeCSVField options value forced ++ options.delimiter :: tail, ?_, ?_⟩
      · rw [writeCSVFields, found, others]
        simp
      · rw [List.append_assoc, List.cons_append, List.map_cons]
        exact .more written record

theorem writeCSVRecords_written {rows : List (List String × Option (List Bool))}
    (proper : ∀ row ∈ rows, row.1 ≠ []) (fits : ∀ row ∈ rows, MaskFits row.1 row.2) :
    ∃ texts, writeCSVRecords options rows = some texts.flatten ∧
      List.Forall₂ (WrittenRecord (csvDialect options readable))
        (rows.map fun row => row.1.map String.toList) texts := by
  induction rows with
  | nil => exact ⟨[], rfl, .nil⟩
  | cons row rest ih =>
    obtain ⟨texts, written, records⟩ := ih
      (fun other member => proper other (List.mem_cons_of_mem _ member))
      (fun other member => fits other (List.mem_cons_of_mem _ member))
    obtain ⟨text, fields, record⟩ := writeCSVFields_written readable row.2 row.1 0
      (proper row List.mem_cons_self) (by
        intro mask given
        rw [Nat.zero_add]
        exact fits row List.mem_cons_self mask given)
    refine ⟨(text ++ ['\n']) :: texts, ?_, .cons record records⟩
    simp [writeCSVRecords, writeCSVRecord, fields, written]

theorem fromUTF8_csvBytes (buffer : List Char) :
    String.fromUTF8? (csvBytes buffer) = some (String.ofList buffer) :=
  Text.fromUTF8_toByteArray (String.ofList buffer)

theorem writeCSVRecords_read {rows : List (List String × Option (List Bool))}
    (proper : ∀ row ∈ rows, row.1 ≠ []) (fits : ∀ row ∈ rows, MaskFits row.1 row.2) :
    ∃ buffer, writeCSVRecords options rows = some buffer ∧
      readCSV (csvDialect options readable) (csvBytes buffer) = some (rows.map Prod.fst) := by
  obtain ⟨texts, written, records⟩ := writeCSVRecords_written readable proper fits
  refine ⟨texts.flatten, written, ?_⟩
  rw [readCSV, fromUTF8_csvBytes, Option.bind_some, String.toList_ofList,
    readRecords_written records]
  simp [Function.comp_def]

end Read

/-- Records with at least one field each are read back as they were written: no mask
that fits makes the writer panic, and the reader splits at the written places. -/
theorem written_records_read_back (values : CsvOptionValues)
    (readable : Readable (parseCSVExportOptions values))
    (rows : List (List String × Option (List Bool))) (proper : ∀ row ∈ rows, row.1 ≠ [])
    (fits : ∀ row ∈ rows, MaskFits row.1 row.2) :
    ∃ buffer, writeCSVRecords (parseCSVExportOptions values) rows = some buffer ∧
      readCSV (csvDialect (parseCSVExportOptions values) readable) (csvBytes buffer) =
        some (rows.map Prod.fst) :=
  writeCSVRecords_read readable proper fits

theorem readable_default : Readable (parseCSVExportOptions {}) := by
  constructor <;> decide

theorem quoted_and_empty_fields_read_back :
    ∃ buffer, writeCSVRecords (parseCSVExportOptions {})
        [(["a,b", "\"", ""], some [false, false, true]), ([""], none)] = some buffer ∧
      readCSV (csvDialect _ readable_default) (csvBytes buffer) =
        some [["a,b", "\"", ""], [""]] := by
  refine written_records_read_back {} readable_default
    [(["a,b", "\"", ""], some [false, false, true]), ([""], none)] (by decide) ?_
  intro row member
  simp only [List.mem_cons, List.not_mem_nil, or_false] at member
  rcases member with rfl | rfl <;> rintro mask ⟨⟩
  decide

-- A record without fields is an empty line, which is the record of one empty field;
-- a mask that is too short is indexed past its end.
theorem record_without_fields_reads_as_empty_field :
    writeCSVRecords (parseCSVExportOptions {}) [([], none)] = some ['\n'] ∧
      readCSV (csvDialect _ readable_default) (csvBytes ['\n']) = some [[""]] ∧
      readCSV (csvDialect _ readable_default) (csvBytes ['\n']) ≠ some [[]] ∧
      writeCSVRecords (parseCSVExportOptions {}) [(["a"], some [])] = none := by
  have read : readCSV (csvDialect _ readable_default) (csvBytes ['\n']) = some [[""]] := by
    rw [readCSV, fromUTF8_csvBytes, Option.bind_some, String.toList_ofList]
    rfl
  refine ⟨rfl, read, ?_, rfl⟩
  rw [read]
  decide

end Onetcli.DbIpc
