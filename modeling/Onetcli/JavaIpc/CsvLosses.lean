import Onetcli.JavaIpc.CsvExports

/-!
When the CSV export of the Java drivers keeps every cell. Whatever it does with the options shows in
a row of equal cells: a blank delimiter or quote in one of texts, a mark that was changed or needs
quotes in one of nulls. A column that was left out or has another's name shows in a row of different
cells.
-/

namespace Onetcli.JavaIpc

open Lookups QuotedFields

def textCell (text : String) : Cell := ⟨"text", some (.string text)⟩

theorem textCell_content (text : String) : (textCell text).content = some (.string text) :=
  if_neg (show ¬"text" = "null" by decide)

theorem ne_of_blank {char blank : Char} (above : 0x20 < char.toNat) (below : blank.toNat ≤ 0x20) :
    char ≠ blank := by
  rintro rfl
  omega

/-! ## One row -/

section Row

variable {mapper : ObjectMapper} {params : ExportParams} {symbols : Symbols} {nullString : String}
  {names : List String} (answered : Answered params)
  (keeps : KeepsCells mapper params symbols nullString names)

include answered keeps

theorem keeps_lines (rows : List (List Cell)) (wide : ∀ row ∈ rows, row.length = names.length) :
    ((readRecords symbols.dialect ((if params.options.header.getD true then
        csvLine (csvSettings params.options) (names.map fun name => some (.string name))
        else "").toList ++
      (rows.map fun row => (csvLine (csvSettings params.options) (rowCells names row)).toList
        ).flatten)).map fun records =>
      (records.drop (if params.options.header.getD true then 1 else 0)).map fun record =>
        record.map (fieldValue nullString)) = some (rows.map (exportedCells params names)) := by
  obtain ⟨bytes, answer, read⟩ := keeps ⟨names, rows, wide⟩ rfl
  rw [handleDataExport_csv answered, Except.ok.injEq] at answer
  rw [← answer, readBack_csv, exportCsv_toList] at read
  exact read

theorem keeps_row {row : List Cell} (wide : row.length = names.length) :
    ∃ record, readRecords symbols.dialect
        (csvLine (csvSettings params.options) (rowCells names row)).toList = some [record] ∧
      record.map (fieldValue nullString) = exportedCells params names row := by
  have one := keeps_lines answered keeps [row] (by simpa using wide)
  have none := keeps_lines answered keeps [] (by simp)
  rw [List.map_singleton, List.flatten_singleton, List.map_singleton] at one
  have single {records : List (List (QuotedFields.Field Char))}
      (same : (records.map fun record => record.map (fieldValue nullString)) =
        [exportedCells params names row]) :
      ∃ record, records = [record] ∧
        record.map (fieldValue nullString) = exportedCells params names row :=
    List.map_eq_singleton_iff.1 same
  cases header : params.options.header.getD true with
  | false =>
    rw [header, if_neg Bool.false_ne_true, if_neg Bool.false_ne_true, String.toList_empty,
      List.nil_append] at one
    obtain ⟨records, read, same⟩ := Option.map_eq_some_iff.1 one
    obtain ⟨record, rfl, kept⟩ := single same
    exact ⟨record, read, kept⟩
  | true =>
    rw [header, if_pos rfl, if_pos rfl] at one none
    obtain ⟨heads, readHead, nothing⟩ := Option.map_eq_some_iff.1 none
    rw [csvLine, String.toList_append, List.map_nil, List.flatten_nil, List.append_nil]
      at readHead
    -- The header is read as one record, so what follows it is read as it is.
    obtain ⟨field, fields, others, begun, _⟩ := read_keeps (fun _ => Or.inr (by simp)) readHead
    have alone : others = [] := by
      rw [begun] at nothing
      exact List.map_eq_nil_iff.1 nothing
    rw [csvLine, String.toList_append, List.append_assoc] at one
    have after := read_append readHead
      (csvLine (csvSettings params.options) (rowCells names row)).toList
    obtain ⟨records, read, same⟩ := Option.map_eq_some_iff.1 one
    have whole := after.symm.trans read
    obtain ⟨lines, readLine, rfl⟩ := Option.map_eq_some_iff.1 whole
    rw [begun, alone] at same
    obtain ⟨record, rfl, kept⟩ := single same
    exact ⟨record, readLine, kept⟩

omit answered keeps in
theorem lookup_uniform {Value : Type} {entries : List (String × Value)} {value : Value}
    (uniform : ∀ entry ∈ entries, entry.2 = value) {name : String}
    (present : name ∈ entries.map Prod.fst) : entries.lookup name = some value := by
  induction entries with
  | nil => cases present
  | cons entry rest ih =>
    rcases entry with ⟨key, here⟩
    rw [List.forall_mem_cons] at uniform
    have same : here = value := uniform.1
    by_cases found : name = key
    · rw [found, lookup_same, same]
    · rw [lookup_other found]
      exact ih uniform.2 (List.mem_of_ne_of_mem found present)

omit answered keeps in
theorem rowCells_uniform (names : List String) (cell : Cell) :
    rowCells names (List.replicate names.length cell) =
      List.replicate names.length cell.content := by
  rw [rowCells, zipIdx_rowValue (List.length_replicate), List.map_replicate]
  conv_rhs => rw [← List.map_const']
  apply List.map_congr_left
  intro name among
  have uniform : ∀ entry ∈ (names.zip (List.replicate names.length cell.content)).reverse,
      entry.2 = cell.content := by
    intro entry member
    exact List.eq_of_mem_replicate (List.of_mem_zip (List.mem_reverse.1 member)).2
  have present : name ∈ ((names.zip (List.replicate names.length cell.content)).reverse.map
      Prod.fst) := by
    rw [List.map_reverse, List.mem_reverse, List.map_fst_zip (by simp)]
    exact among
  rw [lookup_puts, lookup_uniform uniform present]
  rfl

-- In the line of a row of equal cells every field has the value of the cell.
theorem keeps_uniform (some : names ≠ []) (cell : Cell) :
    ∃ field fields rest, readRecords symbols.dialect
        ((csvCell cell.content (csvSettings params.options).nullString
          (csvSettings params.options).delimiter (csvSettings params.options).quote).toList ++
          rest) = .some [field :: fields] ∧
      (rest.head? = .some (csvSettings params.options).delimiter ∨ rest.head? = .some '\n') ∧
      ∀ other ∈ field :: fields,
        fieldValue nullString other = cell.content.map CellObject.text := by
  obtain ⟨record, read, kept⟩ := keeps_row answered keeps
    (@List.length_replicate _ names.length cell)
  rw [rowCells_uniform] at read
  obtain ⟨field, fields, others, same, _⟩ := read_keeps (fun _ => Or.inr (by simp [csvLine])) read
  obtain rfl : record = field :: fields := (List.cons.inj same).1
  obtain ⟨first, names, rfl⟩ := List.exists_cons_of_ne_nil some
  have values : ∀ other ∈ field :: fields,
      fieldValue nullString other = cell.content.map CellObject.text := by
    intro other member
    have among := List.mem_map_of_mem (f := fieldValue nullString) member
    rw [kept, exportedCells] at among
    obtain ⟨entry, inside, same⟩ := List.mem_map.1 among
    have isCell := List.eq_of_mem_replicate
      (List.of_mem_zip (List.mem_filter.1 inside).1).2
    rw [← same, isCell]
  refine ⟨field, fields, ?_⟩
  rw [List.length_cons, List.replicate_succ, csvLine, List.map_cons] at read
  cases names with
  | nil =>
    refine ⟨['\n'], ?_, Or.inr rfl, values⟩
    rw [List.length_nil, List.replicate_zero, List.map_nil, String.intercalate_singleton,
      String.toList_append] at read
    exact read
  | cons next names =>
    rw [List.length_cons, List.replicate_succ, List.map_cons, String.intercalate_cons_cons,
      String.append_assoc, String.append_assoc, String.toList_append, String.toList_append,
      String.toList_singleton] at read
    exact ⟨_, read, Or.inl rfl, values⟩

/-! ## The options -/

omit answered keeps in
theorem fieldValue_eq_none {field : QuotedFields.Field Char} :
    fieldValue nullString field = none ↔ field.quoted = false ∧ field.text = nullString.toList := by
  rw [fieldValue]
  split
  · simp [*]
  · simp [*]

omit answered keeps in
theorem text_of_fieldValue {field : QuotedFields.Field Char} {text : String}
    (same : fieldValue nullString field = some text) : field.text = text.toList := by
  rw [fieldValue] at same
  split at same
  · cases same
  · rw [← Option.some.inj same, String.toList_ofList]

omit answered keeps in
-- A text of one character many times over is written as it is when that has no meaning.
theorem csvCell_repeated {settings : CsvSettings} {char : Char} {length : Nat}
    (longer : settings.nullString.toList.length < length) (delimiter : settings.delimiter ≠ char)
    (quote : settings.quote ≠ char) (newline : '\n' ≠ char) (carriage : '\r' ≠ char) :
    csvCell (some (.string (String.ofList (List.replicate length char)))) settings.nullString
      settings.delimiter settings.quote = String.ofList (List.replicate length char) := by
  have notEmpty : String.ofList (List.replicate length char) ≠ "" := by
    intro same
    have lengths := congrArg (fun text => text.toList.length) same
    simp at lengths
    omega
  have notMark : String.ofList (List.replicate length char) ≠ settings.nullString := by
    intro same
    have lengths := congrArg (fun text => text.toList.length) same
    simp only [String.toList_ofList, List.length_replicate] at lengths
    omega
  simp [csvCell, CellObject.text, notEmpty, notMark, delimiter, quote, newline, carriage]

variable (requests : Requests params.options symbols nullString)

include requests

theorem delimiter_above (some : names ≠ []) : 0x20 < symbols.delimiter.toNat := by
  by_contra below
  have blank : symbols.delimiter.toNat ≤ 0x20 := Nat.le_of_not_lt below
  have settings := csvSettings_of_requests requests
  rw [if_pos blank] at settings
  have comma : (csvSettings params.options).delimiter ≠ symbols.delimiter := by
    rw [settings]
    exact @ne_of_blank ',' _ (by decide) blank
  have quote : (csvSettings params.options).quote ≠ symbols.delimiter := by
    rw [settings]
    dsimp only
    split
    · exact ne_of_blank (by decide) blank
    · exact symbols.distinct.symm
  have text := csvCell_repeated (Nat.lt_succ_self _) comma quote symbols.delimiterLine.1.symm
    symbols.delimiterLine.2.symm
  obtain ⟨field, fields, rest, read, _, values⟩ := keeps_uniform answered keeps some
    (textCell (String.ofList (List.replicate
      ((csvSettings params.options).nullString.toList.length + 1) symbols.delimiter)))
  rw [textCell_content] at read values
  rw [text, String.toList_ofList, List.replicate_succ, List.cons_append] at read
  -- The first field ends at once.
  have first : field = ⟨false, []⟩ := read_ends (by decide) (Or.inl rfl) read
  have value := text_of_fieldValue (values field List.mem_cons_self)
  rw [first, CellObject.text, String.toList_ofList, List.replicate_succ] at value
  cases value

omit answered keeps requests in
theorem csvCell_newline (nullString : String) (delimiter : Char) :
    (csvCell (textCell "\n").content nullString delimiter '"').toList = ['"', '\n', '"'] := by
  have enclosed : csvCell (textCell "\n").content nullString delimiter '"' =
      Text.enclose (String.singleton '"') "\n" := by
    rw [textCell_content]
    simp [csvCell, CellObject.text]
  rw [enclosed]
  decide

theorem quote_above (some : names ≠ []) : 0x20 < symbols.quote.toNat := by
  by_contra below
  have blank : symbols.quote.toNat ≤ 0x20 := Nat.le_of_not_lt below
  have above := delimiter_above answered keeps requests some
  have settings := csvSettings_of_requests requests
  rw [if_pos blank, if_neg (Nat.not_le_of_lt above)] at settings
  obtain ⟨field, fields, rest, done, _, values⟩ := keeps_uniform answered keeps some
    (textCell "\n")
  have value := text_of_fieldValue ((values field List.mem_cons_self).trans
    (congrArg (Option.map CellObject.text) (textCell_content "\n")))
  rw [settings, csvCell_newline] at done
  -- The reader takes the first of the quotes for a delimiter or for a text.
  by_cases isDelimiter : '"' = symbols.delimiter
  · have first : field = ⟨false, []⟩ := read_ends (by decide) (Or.inl isDelimiter) done
    rw [first] at value
    cases value
  · have opened : readRecords symbols.dialect ('"' :: '\n' :: '"' :: rest) =
        read symbols.dialect .unquoted ['"'] [] ('\n' :: '"' :: rest) := by
      exact read_other (Or.inl rfl) isDelimiter (@ne_of_blank '"' _ (by decide) blank)
        (show '"' ≠ '\n' by decide) (show ('"' == '\r') = false by decide) _ _ _
    have first : field = ⟨false, ['"']⟩ :=
      read_ends (by decide) (Or.inr rfl) (opened.symm.trans done)
    rw [first] at value
    exact absurd value (by decide)

omit answered keeps requests in
theorem trim_length (text : String) : (trim text).toList.length ≤ text.toList.length := by
  rw [trim, String.toList_ofList, Chars.trimMatches, List.length_reverse]
  exact Nat.le_trans (List.length_dropWhile_le _ _)
    (by rw [List.length_reverse]; exact List.length_dropWhile_le _ _)

omit answered keeps requests in
-- The mark is cut at the first symbol with a meaning, so it is no longer than the one that was
-- asked for only where it stands for a blank one.
theorem mark_whole {mark : String} {front back rest : List Char} {symbol : Char}
    (same : mark.toList = front ++ symbol :: back) (plain : Plain symbols.dialect front)
    (which : symbol = symbols.dialect.delimiter ∨ symbol = symbols.dialect.quote ∨
      symbol = symbols.dialect.terminator ∨ symbols.dialect.keptOut symbol = true)
    {field : QuotedFields.Field Char} {fields : List (QuotedFields.Field Char)}
    (done : readRecords symbols.dialect (front ++ (symbol :: back ++ rest)) =
      some [field :: fields])
    (nulls : ∀ other ∈ field :: fields, other.quoted = false ∧ other.text = nullString.toList) :
    (if trim nullString = "" then "\\N" else trim nullString) ≠ mark := by
  intro written
  have first := nulls field List.mem_cons_self
  obtain ⟨position, outside, fieldHere, reads⟩ :=
    read_written (.plain plain) [] (symbol :: back ++ rest)
  rw [readRecords, reads] at done
  -- What ends at the symbol is all of the mark that was asked for.
  have ends (ending : symbol = symbols.dialect.delimiter ∨ symbol = symbols.dialect.terminator) :
      front = nullString.toList ∧ mark = "\\N" := by
    have here := read_ends outside ending done
    rw [fieldHere] at here
    rw [here] at first
    refine ⟨first.2, ?_⟩
    split at written
    · exact written.symm
    · have longer := congrArg List.length same
      have shorter := trim_length nullString
      have front_length := congrArg List.length first.2
      rw [written] at shorter
      rw [List.length_append, List.length_cons] at longer
      dsimp only at front_length
      omega
  have notClosing : position ≠ .closing := by
    rintro rfl
    cases fieldHere
  rcases which with isDelimiter | isQuote | isTerminator | keptOut
  · obtain ⟨isFront, rfl⟩ := ends (Or.inl isDelimiter)
    have spelled : ['\\', 'N'] = front ++ symbol :: back := same
    cases front with
    | nil =>
      obtain ⟨rfl, rfl⟩ : '\\' = symbol ∧ ['N'] = back := List.cons.inj spelled
      rw [isDelimiter, List.cons_append, read_delimiter outside, List.nil_append,
        List.cons_append] at done
      -- The letter that is left is no null.
      by_cases isQuote : 'N' = symbols.dialect.quote
      · rw [isQuote, read_opening] at done
        obtain ⟨other, _, _, kept, _, flagged⟩ := read_keeps (by simp) done
        have member : other ∈ field :: fields := by
          rw [(List.cons.inj kept).1]
          exact List.mem_append_right _ List.mem_cons_self
        exact absurd (nulls other member).1 (by simp [flagged])
      · have notDelimiter : 'N' ≠ symbols.dialect.delimiter := by
          rw [← isDelimiter]
          decide
        rw [read_other (Or.inl rfl) notDelimiter isQuote (show 'N' ≠ '\n' by decide)
          (show ('N' == '\r') = false by decide)] at done
        obtain ⟨other, _, _, kept, ⟨more, begins⟩, _⟩ := read_keeps (by simp) done
        have member : other ∈ field :: fields := by
          rw [(List.cons.inj kept).1]
          exact List.mem_append_right _ List.mem_cons_self
        rw [(nulls other member).2, ← isFront] at begins
        cases begins
    | cons char front =>
      obtain ⟨rfl, others⟩ := List.cons.inj spelled
      cases front with
      | nil =>
        have isMark : nullString = "\\" := by
          rw [← String.toList_inj, ← isFront]
          rfl
        rw [isMark] at written
        exact absurd written (by decide)
      | cons char front =>
        have short := congrArg List.length spelled
        rw [List.length_append] at short
        simp at short
        omega
  · rw [isQuote, List.cons_append] at done
    cases position with
    | before =>
      rw [read_opening] at done
      obtain ⟨other, _, _, kept, _, flagged⟩ := read_keeps (by simp) done
      have same : field = other := (List.cons.inj (List.cons.inj kept).1).1
      rw [same, flagged (Or.inl rfl)] at first
      exact Bool.noConfusion first.1
    | unquoted =>
      rw [read_stray] at done
      cases done
    | quoted => exact outside rfl
    | closing => exact notClosing rfl
  · obtain ⟨_, rfl⟩ := ends (Or.inr isTerminator)
    have among : '\n' ∈ "\\N".toList := by
      rw [same, isTerminator]
      exact List.mem_append_right _ List.mem_cons_self
    exact absurd among (by decide)
  · have isReturn : symbol = '\r' := by simpa [Symbols.dialect] using keptOut
    subst isReturn
    rw [List.cons_append, read_keptOut outside symbols.delimiterLine.2.symm
      symbols.quoteLine.2.symm (show '\r' ≠ '\n' by decide) keptOut] at done
    cases done

theorem mark_kept (some : names ≠ []) :
    trim nullString = nullString ∧ nullString ≠ "" ∧ Plain symbols.dialect nullString.toList := by
  have settings := csvSettings_of_requests requests
  rw [if_neg (Nat.not_le_of_lt (delimiter_above answered keeps requests some)),
    if_neg (Nat.not_le_of_lt (quote_above answered keeps requests some))] at settings
  generalize written : (if trim nullString = "" then "\\N" else trim nullString) = mark at settings
  obtain ⟨field, fields, rest, done, follows, values⟩ := keeps_uniform answered keeps some
    ⟨"null", none⟩
  rw [settings] at done follows
  change readRecords symbols.dialect (mark.toList ++ rest) = .some [field :: fields] at done
  have nulls : ∀ other ∈ field :: fields,
      other.quoted = false ∧ other.text = nullString.toList :=
    fun other member => fieldValue_eq_none.1 (values other member)
  have first := nulls field List.mem_cons_self
  rcases plain_or_split symbols.dialect mark.toList with
    plain | ⟨front, symbol, back, same, plain, which⟩
  · obtain ⟨position, outside, fieldHere, reads⟩ := read_written (.plain plain) [] rest
    obtain ⟨symbol, tail, rfl⟩ : ∃ symbol tail, rest = symbol :: tail := by
      cases rest with
      | nil => rcases follows with no | no <;> cases no
      | cons symbol tail => exact ⟨symbol, tail, rfl⟩
    have ends : symbol = symbols.dialect.delimiter ∨ symbol = symbols.dialect.terminator :=
      follows.imp Option.some.inj Option.some.inj
    have here := read_ends outside ends (reads.symm.trans done)
    rw [fieldHere] at here
    rw [here] at first
    have isMark : mark = nullString := String.toList_inj.1 first.2
    split at written
    · rename_i blank
      rw [← isMark, ← written] at blank
      exact absurd blank (by decide)
    · rename_i given
      rw [isMark] at plain written
      exact ⟨written, fun none => given (by rw [none]; decide), plain⟩
  · rw [same, List.append_assoc] at done
    exact absurd written (mark_whole same plain which done nulls)

/-! ## The columns -/

theorem rowCells_kept (some : names ≠ []) {row : List Cell} (wide : row.length = names.length) :
    (rowCells names row).map (fun value => value.map CellObject.text) =
      exportedCells params names row := by
  obtain ⟨trimmed, marked, plain⟩ := mark_kept answered keeps requests some
  have settings := csvSettings_of_requests requests
  rw [if_neg (Nat.not_le_of_lt (delimiter_above answered keeps requests some)),
    if_neg (Nat.not_le_of_lt (quote_above answered keeps requests some)), trimmed,
    if_neg marked] at settings
  obtain ⟨record, done, kept⟩ := keeps_row answered keeps wide
  have cells : rowCells names row ≠ [] := by simpa [rowCells] using some
  obtain ⟨fields, written, same⟩ := csvLine_written plain cells
  have read := read_record written [] []
  rw [List.append_nil, ← settings] at read
  have isRecord : [record] = [fields] :=
    Option.some.inj (done.symm.trans read)
  rw [← same, ← (List.cons.inj isRecord).1, kept]

omit answered keeps requests in
theorem exportedCells_all (all : ∀ name ∈ names, selected params name = true) {row : List Cell}
    (wide : row.length = names.length) :
    exportedCells params names row = row.map fun cell => cell.content.map CellObject.text := by
  have whole : (names.zip row).filter (fun cell => selected params cell.1) = names.zip row :=
    List.filter_eq_self.2 fun cell among => all cell.1 (List.of_mem_zip among).1
  have cells : (names.zip row).map Prod.snd = row := List.map_snd_zip (by omega)
  rw [exportedCells, whole]
  conv_rhs => rw [← cells, List.map_map]
  rfl

omit answered keeps requests in
def longerCells (length : Nat) : List Cell :=
  (List.range length).map fun number => textCell (String.ofList (List.replicate number 'x'))

omit answered keeps requests in
theorem longerCells_length (length : Nat) : (longerCells length).length = length := by
  rw [longerCells, List.length_map, List.length_range]

omit answered keeps requests in
theorem longerCells_texts (length : Nat) :
    ((longerCells length).map fun cell => cell.content.map CellObject.text).Nodup := by
  rw [longerCells, List.map_map]
  apply List.Nodup.map_on _ List.nodup_range
  intro first _ second _ same
  simp only [Function.comp_apply, textCell_content, Option.map_some, CellObject.text,
    Option.some.injEq] at same
  simpa using congrArg (fun text => text.toList.length) same

theorem columns_kept (some : names ≠ []) :
    names.Nodup ∧ ∀ name ∈ names, selected params name = true := by
  have wide := longerCells_length names.length
  have kept := rowCells_kept answered keeps requests some wide
  have all : ∀ name ∈ names, selected params name = true := by
    have lengths := congrArg List.length kept
    rw [exportedCells, List.length_map, List.length_map, rowCells, List.length_map] at lengths
    have whole : ∀ cell ∈ names.zip (longerCells names.length), selected params cell.1 = true := by
      apply List.filter_eq_self.1
      apply List.filter_sublist.eq_of_length
      rw [← lengths, List.length_zip, wide, Nat.min_self]
    intro name among
    have fst : (names.zip (longerCells names.length)).map Prod.fst = names :=
      List.map_fst_zip (by omega)
    rw [← fst] at among
    obtain ⟨cell, member, rfl⟩ := List.mem_map.1 among
    exact whole cell member
  refine ⟨?_, all⟩
  have different := longerCells_texts names.length
  rw [← exportedCells_all all wide, ← kept, rowCells, List.map_map] at different
  exact different.of_map

end Row

/-! ## All rows -/

section Rows

variable {mapper : ObjectMapper} {params : ExportParams} {symbols : Symbols} {nullString : String}
  (answered : Answered params)

include answered

theorem names_given {names : List String}
    (keeps : KeepsCells mapper params symbols nullString names) : names ≠ [] := by
  rintro rfl
  obtain ⟨record, done, kept⟩ := @keeps_row _ _ _ _ _ answered keeps [] rfl
  obtain ⟨field, fields, others, same, _⟩ := read_keeps (fun _ => Or.inr (by simp [csvLine])) done
  rw [(List.cons.inj same).1] at kept
  cases kept

theorem keepsCells_of_exportable (requests : Requests params.options symbols nullString)
    {names : List String} (exportable : Exportable params symbols nullString names) :
    KeepsCells mapper params symbols nullString names := by
  rintro query rfl
  have settings := csvSettings_of_requests requests
  rw [if_neg (Nat.not_le_of_lt exportable.delimiter),
    if_neg (Nat.not_le_of_lt exportable.quote), exportable.trimmed,
    if_neg exportable.marked] at settings
  refine ⟨_, handleDataExport_csv answered mapper query, ?_⟩
  rw [exportCsv_read exportable.plain exportable.some settings]
  congr 1
  apply List.map_congr_left
  intro row among
  rw [rowCells_distinct exportable.distinct (query.wide row among),
    exportedCells_all exportable.selected (query.wide row among), List.map_map]
  rfl

end Rows

/-- Whatever its cells are, a result with some columns is kept exactly when the options need no
trimming, the mark needs no quotes, and the columns are all to be exported, none of them twice. -/
theorem keepsCells_iff (mapper : ObjectMapper) (params : ExportParams) (answered : Answered params)
    (symbols : Symbols) (nullString : String)
    (requests : Requests params.options symbols nullString) (names : List String) :
    KeepsCells mapper params symbols nullString names ↔
      Exportable params symbols nullString names := by
  constructor
  · intro keeps
    have some := names_given answered keeps
    obtain ⟨trimmed, marked, plain⟩ := mark_kept answered keeps requests some
    obtain ⟨distinct, selected⟩ := columns_kept answered keeps requests some
    exact ⟨delimiter_above answered keeps requests some, quote_above answered keeps requests some,
      trimmed, marked, plain, some, distinct, selected⟩
  · exact keepsCells_of_exportable answered requests

def emptyMapper : ObjectMapper where
  array := fun _ => "[]"
  object := fun _ => "{}"

def tableExport (delimiter : Option String) : ExportParams where
  streamId := "stream-1"
  table := "people"
  format := "csv"
  options := { delimiter }

theorem tableExport_answered (delimiter : Option String) : Answered (tableExport delimiter) where
  stream := show trim "stream-1" ≠ "" by decide
  format := show trim "csv" = "csv" by decide
  source := Or.inr (show trim "people" ≠ "" by decide)

theorem doubleQuote_symbol : '"'.toNat < 0x10000 ∧ '"' ≠ '\n' ∧ '"' ≠ '\r' := by decide

theorem comma_symbol : ','.toNat < 0x10000 ∧ ',' ≠ '"' ∧ ',' ≠ '\n' ∧ ',' ≠ '\r' := by decide

def commaSymbols : Symbols where
  delimiter := ','
  quote := '"'
  delimiterUnit := comma_symbol.1
  quoteUnit := doubleQuote_symbol.1
  distinct := comma_symbol.2.1
  delimiterLine := comma_symbol.2.2
  quoteLine := doubleQuote_symbol.2

/-- The defaults keep the cells of two columns. -/
theorem default_keepsCells :
    Answered (tableExport none) ∧
      KeepsCells emptyMapper (tableExport none) commaSymbols "\\N" ["id", "name"] :=
  ⟨tableExport_answered none,
    (keepsCells_iff emptyMapper (tableExport none) (tableExport_answered none) commaSymbols "\\N"
      ⟨rfl, rfl, rfl⟩ ["id", "name"]).2
      { delimiter := by decide
        quote := by decide
        trimmed := by decide
        marked := by decide
        plain := ⟨by decide, by decide, by decide,
          List.forall_mem_cons.mpr ⟨rfl, List.forall_mem_singleton.mpr rfl⟩⟩
        some := by decide
        distinct := by decide
        selected := by decide }⟩

theorem tab_symbol : '\t'.toNat < 0x10000 ∧ '\t' ≠ '"' ∧ '\t' ≠ '\n' ∧ '\t' ≠ '\r' := by decide

def tabSymbols : Symbols where
  delimiter := '\t'
  quote := '"'
  delimiterUnit := tab_symbol.1
  quoteUnit := doubleQuote_symbol.1
  distinct := tab_symbol.2.1
  delimiterLine := tab_symbol.2.2
  quoteLine := doubleQuote_symbol.2

def adaRow : List Cell := [⟨"i64", some (.long 1)⟩, textCell "Ada"]

theorem adaRow_wide : ∀ row ∈ [adaRow], row.length = ["id", "name"].length := by
  simp [adaRow]

def people : QueryResult where
  columns := ["id", "name"]
  rows := [adaRow]
  wide := adaRow_wide

/-- A tab is trimmed away, and commas are written in its place. -/
theorem tab_ignored :
    Answered (tableExport (some "\t")) ∧
      Requests (tableExport (some "\t")).options tabSymbols "\\N" ∧
      handleDataExport emptyMapper (fun _ => people) (tableExport (some "\t")) =
        .ok "id,name\n1,Ada\n".toByteArray ∧
      readBack tabSymbols "\\N" true "id,name\n1,Ada\n".toByteArray = some [[some "1,Ada"]] ∧
      people.rows.map (exportedCells (tableExport (some "\t")) people.columns) =
        [[some "1", some "Ada"]] := by
  have answered := tableExport_answered (some "\t")
  refine ⟨answered, ⟨rfl, rfl, rfl⟩, ?_, ?_, by decide +kernel⟩
  · rw [handleDataExport_csv answered]
    have written : exportCsv people (tableExport (some "\t")).options = "id,name\n1,Ada\n" := by
      decide +kernel
    rw [written]
  · rw [readBack_csv]
    decide +kernel

end Onetcli.JavaIpc
