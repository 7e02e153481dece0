import Onetcli.Lib.Chars
import Onetcli.Lib.Pieces

/-!
Routine and check texts of GBase 8s (java/gbase8s-ipc-driver, server/GBase8sIpcServer.java). The
catalog keeps a text in pieces of one width, a row for each; `schema/functions`,
`schema/procedures` and `schema/checks` group the rows and put the pieces together.
-/

namespace Onetcli.GBase8s

open Chars Lookups Text Pieces Grouping

/-! ## Rows -/

/-- The cells of a row; a cell of the type `null` has no value. -/
abbrev Row := List (Option Chars)

def atMostSpace (c : Char) : Bool := decide (c.toNat ≤ 0x20)

/-- `String.trim` of Java. -/
def javaTrim (text : Chars) : Chars := Pieces.trim atMostSpace text

def rowValue (row : Row) (index : Nat) : Option Chars :=
  match row[index]? with
  | some cell => cell
  | none => none

def rowString (row : Row) (index : Nat) : Chars :=
  match rowValue row index with
  | some value => javaTrim value
  | none => []

def catalogText (value : Chars) : Chars := javaTrim (value.rdropWhile fun c => c.toNat == 0)

/-! ## Types of columns -/

def parseDigits (text : Chars) : Option Int :=
  if text ≠ [] ∧ text.all Char.isDigit = true then
    some (Nat.ofDigitChars 10 text 0)
  else none

def parseInt (text : Chars) : Option Int :=
  let value := match text with
    | '-' :: digits => (parseDigits digits).map fun value => -value
    | '+' :: digits => parseDigits digits
    | digits => parseDigits digits
  value.filter fun value => decide (-2147483648 ≤ value ∧ value ≤ 2147483647)

def columnTypes : List (Int × String) :=
  [(0, "CHAR"), (1, "SMALLINT"), (2, "INTEGER"), (3, "FLOAT"), (4, "SMALLFLOAT"), (5, "DECIMAL"),
    (6, "SERIAL"), (7, "DATE"), (8, "MONEY"), (10, "DATETIME"), (11, "BYTE"), (12, "TEXT"),
    (13, "VARCHAR"), (14, "INTERVAL"), (15, "NCHAR"), (16, "NVARCHAR"), (17, "INT8"),
    (18, "SERIAL8"), (23, "BOOLEAN"), (40, "LVARCHAR"), (41, "BOOLEAN"), (43, "BIGINT"),
    (52, "BIGINT"), (44, "BIGSERIAL"), (53, "BIGSERIAL")]

def gbase8sColumnType (value : Chars) : Chars :=
  match parseInt (javaTrim value) with
  | none => value
  | some code => match columnTypes.lookup (code % 256) with
    | some name => name.toList
    | none => value

/-! ## Routines and checks -/

structure RoutineEntry where
  database : Chars
  schema : Chars
  name : Chars
  returnType : Option Chars
  returns : Chars
  language : Chars
  comment : Chars
  definition : Chars

def routines (database : Chars) (function : Bool) : Grouping Row Chars RoutineEntry where
  key row :=
    if rowString row 0 = [] then none else some (rowString row 1 ++ '.' :: rowString row 0)
  start row :=
    let returnType := if function then gbase8sColumnType (rowString row 2) else []
    { database
      schema := rowString row 1
      name := rowString row 0
      returnType := if returnType = [] then none else some returnType
      returns := returnType
      language := rowString row 3
      comment := rowString row 4
      definition := [] }
  add routine row :=
    { routine with definition := routine.definition ++ catalogText (rowString row 5) }

def readRoutines (database : Chars) (function : Bool) (rows : List Row) : List RoutineEntry :=
  ((routines database function).groups rows).map Prod.snd

structure CheckEntry where
  database : Chars
  schema : Chars
  name : Chars
  table : Chars
  definition : Chars
  comment : Chars

def checks (database schema : Chars) : Grouping Row Chars CheckEntry where
  key row := if rowString row 0 = [] then none else some (rowString row 0)
  start row :=
    { database, schema, name := rowString row 0, table := rowString row 1, definition := [],
      comment := [] }
  add check row := { check with definition := check.definition ++ rowString row 2 }

def handleSchemaChecks (database schema : Chars) (rows : List Row) : List CheckEntry :=
  ((checks database schema).groups rows).map Prod.snd

/-! ## The catalog -/

def isPadding (c : Char) : Bool := c == ' ' || c.toNat == 0

structure Stored (text : Chars) (pieces : List Chars) : Prop where
  width : ∃ width, ∀ piece ∈ pieces, piece.length = width
  padded : ∃ padding : Chars, (∀ c ∈ padding, isPadding c = true) ∧
    pieces.flatten = text ++ padding

def SameText (found text : Chars) : Prop := unpadded isPadding found = unpadded isPadding text

structure Routine where
  name : Chars
  owner : Chars
  returns : List Chars
  text : Chars
  pieces : List Chars
  stored : Stored text pieces

structure RoutineRow where
  procname : Chars
  owner : Chars
  paramtype : Option Chars
  data : Option Chars
  seqno : Option Nat

def RoutineRow.cells (row : RoutineRow) : Row :=
  [some row.procname, some row.owner, row.paramtype, some "SPL".toList, some [], row.data,
    row.seqno.map (Nat.toDigits 10)]

/-- The types of the return columns as `LEFT JOIN` gives them. -/
def Routine.columns (routine : Routine) : List (Option Chars) :=
  if routine.returns = [] then [none] else routine.returns.map some

/-- The pieces and their numbers as `LEFT JOIN` gives them. -/
def Routine.body (routine : Routine) : List (Option Chars × Option Nat) :=
  if routine.pieces = [] then [(none, none)]
  else routine.pieces.zipIdx.map fun (piece, number) => (some piece, some number)

def Routine.rows (routine : Routine) : List RoutineRow :=
  routine.body.flatMap fun (data, seqno) => routine.columns.map fun paramtype =>
    { procname := routine.name, owner := routine.owner, paramtype, data, seqno }

/-- Rows as `routinesSql` asks for them, ordered by name and then piece. -/
structure RoutineRows (catalog : List Routine) (rows : List RoutineRow) : Prop where
  joined : rows.Perm (catalog.flatMap Routine.rows)
  ordered : rows.Pairwise fun first later =>
    first.procname = later.procname → first.seqno.getD 0 ≤ later.seqno.getD 0

structure Check where
  name : Chars
  table : Chars
  text : Chars
  pieces : List Chars
  stored : Stored text pieces

structure CheckRow where
  constrname : Chars
  tabname : Chars
  checktext : Chars
  seqno : Nat

def CheckRow.cells (row : CheckRow) : Row :=
  [some row.constrname, some row.tabname, some row.checktext, some (Nat.toDigits 10 row.seqno)]

def Check.rows (check : Check) : List CheckRow :=
  check.pieces.zipIdx.map fun (checktext, seqno) =>
    { constrname := check.name, tabname := check.table, checktext, seqno }

/-- Rows as `checksSql` asks for them. -/
structure CheckRows (catalog : List Check) (rows : List CheckRow) : Prop where
  joined : rows.Perm (catalog.flatMap Check.rows)
  ordered : rows.Pairwise fun first later =>
    first.constrname = later.constrname → first.seqno ≤ later.seqno

/-! ## Every text reported once -/

structure RoutineEntry.Reports (entry : RoutineEntry) (routine : Routine) : Prop where
  schema : entry.schema = javaTrim routine.owner
  name : entry.name = javaTrim routine.name
  definition : SameText entry.definition routine.text

structure CheckEntry.Reports (entry : CheckEntry) (check : Check) : Prop where
  name : entry.name = javaTrim check.name
  table : entry.table = javaTrim check.table
  definition : SameText entry.definition check.text

def ReportedOnce {Entry Item : Type} (Reports : Entry → Item → Prop) (entries : List Entry)
    (items : List Item) : Prop :=
  ∃ order : List Item, order.Perm items ∧ List.Forall₂ Reports entries order

def Routine.key (routine : Routine) : Option Chars :=
  if javaTrim routine.name = [] then none
  else some (javaTrim routine.owner ++ '.' :: javaTrim routine.name)

def Check.key (check : Check) : Option Chars :=
  if javaTrim check.name = [] then none else some (javaTrim check.name)

/-- Trimming takes nothing from the pieces but the padding of the text. -/
def KeptPieces (pieces : List Chars) : Prop := Kept atMostSpace isPadding pieces

/-- With two return columns every piece comes twice. -/
def Routine.Whole (routine : Routine) : Prop :=
  if routine.returns.length ≤ 1 then KeptPieces routine.pieces
  else ∀ c ∈ routine.text, isPadding c = true

structure RoutinesTold (catalog : List Routine) : Prop where
  named : ∀ routine ∈ catalog, javaTrim routine.name ≠ []
  distinct : (catalog.map Routine.key).Nodup
  whole : ∀ routine ∈ catalog, routine.Whole

structure ChecksTold (catalog : List Check) : Prop where
  named : ∀ check ∈ catalog, javaTrim check.name ≠ []
  stored : ∀ check ∈ catalog, check.pieces ≠ []
  distinct : (catalog.map Check.key).Nodup
  whole : ∀ check ∈ catalog, KeptPieces check.pieces

/-! ## The pieces of an entry -/

theorem padding_atMostSpace (c : Char) (padding : isPadding c = true) : atMostSpace c = true := by
  rw [isPadding, Bool.or_eq_true, beq_iff_eq, beq_iff_eq] at padding
  rw [atMostSpace, decide_eq_true_eq]
  rcases padding with rfl | zero
  · decide
  · omega

theorem catalogText_trimmed (value : Chars) : catalogText (javaTrim value) = javaTrim value := by
  have kept : (javaTrim value).rdropWhile (fun c => c.toNat == 0) = javaTrim value := by
    refine unpadded_trim (fun c zero => padding_atMostSpace c ?_) value
    rw [isPadding, zero, Bool.or_true]
  rw [catalogText, kept, javaTrim, javaTrim, Pieces.trim_trim]

theorem sameText_stored {text : Chars} {pieces : List Chars} (stored : Stored text pieces)
    (found : Chars) :
    SameText found text ↔ unpadded isPadding found = unpadded isPadding pieces.flatten := by
  obtain ⟨padding, padded, whole⟩ := stored.padded
  rw [SameText, whole, unpadded_append padded]

theorem blank_stored {text : Chars} {pieces : List Chars} (stored : Stored text pieces) :
    (∀ c ∈ pieces.flatten, isPadding c = true) ↔ ∀ c ∈ text, isPadding c = true := by
  obtain ⟨padding, padded, whole⟩ := stored.padded
  rw [whole, List.forall_mem_append]
  exact and_iff_left padded

section Routines

variable {database : Chars} {function : Bool}

def RoutineRow.text (row : RoutineRow) : Chars := catalogText (rowString row.cells 5)

theorem RoutineRow.text_eq (row : RoutineRow) : row.text = match row.data with
      | some piece => javaTrim piece
      | none => [] := by
  cases found : row.data with
  | none => simp [RoutineRow.text, RoutineRow.cells, rowString, rowValue, found, catalogText,
      javaTrim, Pieces.trim]
  | some piece =>
    simp [RoutineRow.text, RoutineRow.cells, rowString, rowValue, found, catalogText_trimmed]

theorem Routine.texts (routine : Routine) : routine.rows.flatMap RoutineRow.text =
    reassemble atMostSpace routine.columns.length routine.pieces := by
  have copies (data : Option Chars) (seqno : Option Nat) :
      (routine.columns.map fun paramtype : Option Chars => RoutineRow.mk routine.name routine.owner
        paramtype data seqno).flatMap RoutineRow.text =
      (List.replicate routine.columns.length (javaTrim (data.getD []))).flatten := by
    rw [List.flatMap_map, List.flatMap_def]
    refine congrArg List.flatten (List.eq_replicate_iff.mpr ⟨by simp, fun text among => ?_⟩)
    obtain ⟨paramtype, _, rfl⟩ := List.mem_map.mp among
    rw [RoutineRow.text_eq]
    cases data <;> rfl
  have parts : routine.rows.flatMap RoutineRow.text = routine.body.flatMap fun part =>
      (List.replicate routine.columns.length (javaTrim (part.1.getD []))).flatten := by
    rw [Routine.rows, List.flatMap_assoc]
    exact List.flatMap_congr fun part _ => copies part.1 part.2
  rw [parts, Routine.body]
  by_cases none : routine.pieces = []
  · rw [if_pos none, none]
    simp [reassemble, javaTrim, Pieces.trim]
  · rw [if_neg none, List.flatMap_map]
    exact zipIdx_flatMap routine.pieces fun piece =>
      (List.replicate routine.columns.length (javaTrim piece)).flatten

theorem routine_fold (rows : List RoutineRow) (entry : RoutineEntry) :
    rows.foldl ((routines database function).on RoutineRow.cells).add entry =
      { entry with definition := entry.definition ++ rows.flatMap RoutineRow.text } := by
  induction rows generalizing entry with
  | nil => simp
  | cons row rest ih =>
    rw [List.foldl_cons, ih, List.flatMap_cons, ← List.append_assoc]
    rfl

theorem routine_entry {rows : List RoutineRow} {entry : RoutineEntry}
    (found : ((routines database function).on RoutineRow.cells).entryOf rows = some entry) :
    (∃ row ∈ rows, entry.schema = rowString row.cells 1 ∧ entry.name = rowString row.cells 0) ∧
      entry.definition = rows.flatMap RoutineRow.text := by
  cases rows with
  | nil => cases found
  | cons first rest =>
    rw [entryOf, routine_fold, Option.some.injEq] at found
    subst found
    exact ⟨⟨first, List.mem_cons_self, rfl, rfl⟩, rfl⟩

theorem Routine.mem_rows {routine : Routine} {row : RoutineRow} (among : row ∈ routine.rows) :
    row.procname = routine.name ∧ row.owner = routine.owner ∧
      row.data = routine.pieces[row.seqno.getD 0]? := by
  obtain ⟨⟨data, seqno⟩, inBody, inside⟩ := List.mem_flatMap.mp among
  obtain ⟨paramtype, _, rfl⟩ := List.mem_map.mp inside
  refine ⟨rfl, rfl, ?_⟩
  rw [Routine.body] at inBody
  by_cases none : routine.pieces = []
  · rw [if_pos none, List.mem_singleton] at inBody
    cases inBody
    rw [none]
    rfl
  · rw [if_neg none] at inBody
    obtain ⟨⟨piece, number⟩, here, same⟩ := List.mem_map.mp inBody
    cases same
    exact (List.mem_zipIdx_iff_getElem?.mp here).symm

theorem Routine.rows_ordered (routine : Routine) : routine.rows.Pairwise fun first later =>
    first.seqno.getD 0 ≤ later.seqno.getD 0 := by
  have numbers : routine.body.Pairwise fun first later =>
      first.2.getD 0 ≤ later.2.getD 0 := by
    rw [Routine.body]
    split
    · exact List.pairwise_singleton _ _
    · have indices : (routine.pieces.zipIdx.map Prod.snd).Pairwise (· ≤ ·) := by
        rw [List.zipIdx_map_snd]
        exact List.pairwise_le_range'
      exact List.pairwise_map.mpr (List.pairwise_map.mp indices)
  refine List.pairwise_flatMap.mpr ⟨fun part _ => ?_, numbers.imp fun before first inFirst later
    inLater => ?_⟩
  · exact List.pairwise_map.mpr (List.pairwise_of_forall fun _ _ => Nat.le_refl _)
  · obtain ⟨_, _, rfl⟩ := List.mem_map.mp inFirst
    obtain ⟨_, _, rfl⟩ := List.mem_map.mp inLater
    exact before

theorem Routine.rows_some (routine : Routine) : routine.rows ≠ [] := by
  have columns : routine.columns ≠ [] := by
    rw [Routine.columns]
    split
    · exact List.cons_ne_nil _ _
    · simpa
  have body : routine.body ≠ [] := by
    rw [Routine.body]
    split
    · exact List.cons_ne_nil _ _
    · simpa
  obtain ⟨part, inBody⟩ := List.exists_mem_of_ne_nil _ body
  obtain ⟨paramtype, inColumns⟩ := List.exists_mem_of_ne_nil _ columns
  exact List.ne_nil_of_mem (List.mem_flatMap.mpr ⟨part, inBody, List.mem_map_of_mem inColumns⟩)

theorem Routine.key_isSome {routine : Routine} :
    routine.key.isSome = true ↔ javaTrim routine.name ≠ [] := by
  rw [Routine.key]
  split <;> simp_all

theorem routine_keyed {catalog : List Routine} : ∀ routine ∈ catalog, ∀ row ∈ routine.rows,
    ((routines database function).on RoutineRow.cells).key row = routine.key := by
  intro routine _ row among
  obtain ⟨name, owner, _⟩ := Routine.mem_rows among
  simp only [on, routines, RoutineRow.cells, rowString, rowValue, name, owner,
    List.getElem?_cons_zero, List.getElem?_cons_succ, Routine.key]

theorem Routine.whole_iff (routine : Routine) :
    SameText (reassemble atMostSpace routine.columns.length routine.pieces) routine.text ↔
      routine.Whole := by
  rw [sameText_stored routine.stored, Routine.Whole]
  by_cases one : routine.returns.length ≤ 1
  · have count : routine.columns.length = 1 := by
      rw [Routine.columns]
      split
      · rfl
      · rename_i some
        have := List.length_pos_of_ne_nil some
        rw [List.length_map]
        omega
    rw [if_pos one, count]
    exact reassemble_once_iff padding_atMostSpace _
  · have count : routine.columns.length = routine.returns.length := by
      rw [Routine.columns, if_neg (by rintro none; simp [none] at one), List.length_map]
    rw [if_neg one, count, reassemble_more_iff padding_atMostSpace (by omega),
      blank_stored routine.stored]

-- The rows of one key hold the pieces in their order, whatever stands between them.
theorem routine_texts {catalog : List Routine} {rows : List RoutineRow}
    (found : RoutineRows catalog rows) (distinct : (catalog.map Routine.key).Nodup)
    {routine : Routine} (inside : routine ∈ catalog) {key : Chars} (same : routine.key = some key) :
    let own := ((routines database function).on RoutineRow.cells).rowsOf key rows
    own.Perm routine.rows ∧ own.flatMap RoutineRow.text = routine.rows.flatMap RoutineRow.text := by
  intro own
  have perm : own.Perm routine.rows := rowsOf_item routine_keyed found.joined distinct inside same
  have ordered : own.Pairwise fun first later => first.seqno.getD 0 ≤ later.seqno.getD 0 := by
    refine (found.ordered.sublist List.filter_sublist).imp_of_mem fun inFirst inLater order =>
      order ?_
    exact (Routine.mem_rows (perm.mem_iff.mp inFirst)).1.trans
      (Routine.mem_rows (perm.mem_iff.mp inLater)).1.symm
  refine ⟨perm, ?_⟩
  rw [List.flatMap_def, List.flatMap_def]
  refine congrArg List.flatten (map_eq_of_places perm ordered routine.rows_ordered
    fun first here other there place => ?_)
  rw [RoutineRow.text_eq, RoutineRow.text_eq, (Routine.mem_rows here).2.2,
    (Routine.mem_rows there).2.2, place]

theorem routines_reported_iff {catalog : List Routine} {rows : List RoutineRow}
    (found : RoutineRows catalog rows) : ReportedOnce RoutineEntry.Reports
        (readRoutines database function (rows.map RoutineRow.cells)) catalog ↔
      RoutinesTold catalog := by
  have own : ∀ entry ∈ ((routines database function).on RoutineRow.cells).groups rows,
      ∀ routine, RoutineEntry.Reports entry.2 routine → routine.key = some entry.1 := by
    intro entry among routine reports
    obtain ⟨⟨row, inside, schema, name⟩, _⟩ := routine_entry (entry_groups _ among)
    have keyed := of_decide_eq_true (List.mem_filter.mp inside).2
    rw [← keyed, Routine.key, ← reports.schema, ← reports.name, schema, name]
    rfl
  have right : (catalog.map Routine.key).Nodup →
      ∀ entry ∈ ((routines database function).on RoutineRow.cells).groups rows,
      ∀ routine ∈ catalog, routine.key = some entry.1 →
        (RoutineEntry.Reports entry.2 routine ↔ routine.Whole) := by
    intro distinct entry among routine inside same
    obtain ⟨⟨row, mine, schema, name⟩, definition⟩ :=
      routine_entry (entry_groups _ among)
    obtain ⟨perm, texts⟩ := routine_texts found distinct inside same
    obtain ⟨procname, owner, _⟩ := Routine.mem_rows (perm.mem_iff.mp mine)
    rw [texts, Routine.texts] at definition
    rw [← routine.whole_iff, ← definition]
    refine ⟨fun reports => reports.definition, fun kept => ⟨?_, ?_, kept⟩⟩
    · rw [schema, ← owner]
      rfl
    · rw [name, ← procname]
      rfl
  rw [ReportedOnce, readRoutines, groups_map]
  refine (reported_iff routine_keyed found.joined own right).trans ⟨?_, fun told => ?_⟩
  · rintro ⟨shown, distinct, whole⟩
    exact ⟨fun routine inside => Routine.key_isSome.mp (shown routine inside).2, distinct, whole⟩
  · exact ⟨fun routine inside => ⟨routine.rows_some, Routine.key_isSome.mpr
      (told.named routine inside)⟩, told.distinct, told.whole⟩

end Routines

section Checks

variable {database schema : Chars}

def CheckRow.text (row : CheckRow) : Chars := rowString row.cells 2

theorem check_fold (rows : List CheckRow) (entry : CheckEntry) :
    rows.foldl ((checks database schema).on CheckRow.cells).add entry =
      { entry with definition := entry.definition ++ rows.flatMap CheckRow.text } := by
  induction rows generalizing entry with
  | nil => simp
  | cons row rest ih =>
    rw [List.foldl_cons, ih, List.flatMap_cons, ← List.append_assoc]
    rfl

theorem check_entry {rows : List CheckRow} {entry : CheckEntry}
    (found : ((checks database schema).on CheckRow.cells).entryOf rows = some entry) :
    (∃ row ∈ rows, entry.name = rowString row.cells 0 ∧ entry.table = rowString row.cells 1) ∧
      entry.definition = rows.flatMap CheckRow.text := by
  cases rows with
  | nil => cases found
  | cons first rest =>
    rw [entryOf, check_fold, Option.some.injEq] at found
    subst found
    exact ⟨⟨first, List.mem_cons_self, rfl, rfl⟩, rfl⟩

theorem Check.mem_rows {check : Check} {row : CheckRow} (among : row ∈ check.rows) :
    row.constrname = check.name ∧ row.tabname = check.table ∧
      check.pieces[row.seqno]? = some row.checktext := by
  obtain ⟨⟨piece, number⟩, here, rfl⟩ := List.mem_map.mp among
  exact ⟨rfl, rfl, List.mem_zipIdx_iff_getElem?.mp here⟩

theorem Check.rows_ordered (check : Check) : check.rows.Pairwise fun first later =>
    first.seqno ≤ later.seqno := by
  have indices : (check.pieces.zipIdx.map Prod.snd).Pairwise (· ≤ ·) := by
    rw [List.zipIdx_map_snd]
    exact List.pairwise_le_range'
  exact List.pairwise_map.mpr (List.pairwise_map.mp indices)

theorem Check.texts (check : Check) :
    check.rows.flatMap CheckRow.text = reassemble atMostSpace 1 check.pieces := by
  rw [Check.rows, List.flatMap_map]
  refine (zipIdx_flatMap check.pieces javaTrim).trans ?_
  rw [reassemble]
  simp only [List.replicate_one, List.flatten_singleton]
  rfl

theorem Check.key_isSome {check : Check} : check.key.isSome = true ↔ javaTrim check.name ≠ [] := by
  rw [Check.key]
  split <;> simp_all

theorem check_keyed {catalog : List Check} : ∀ check ∈ catalog, ∀ row ∈ check.rows,
    ((checks database schema).on CheckRow.cells).key row = check.key := by
  intro check _ row among
  obtain ⟨name, _, _⟩ := Check.mem_rows among
  simp only [on, checks, CheckRow.cells, rowString, rowValue, name,
    List.getElem?_cons_zero, Check.key]

theorem check_texts {catalog : List Check} {rows : List CheckRow}
    (found : CheckRows catalog rows) (distinct : (catalog.map Check.key).Nodup)
    {check : Check} (inside : check ∈ catalog) {key : Chars} (same : check.key = some key) :
    let own := ((checks database schema).on CheckRow.cells).rowsOf key rows
    own.Perm check.rows ∧ own.flatMap CheckRow.text = check.rows.flatMap CheckRow.text := by
  intro own
  have perm : own.Perm check.rows := rowsOf_item check_keyed found.joined distinct inside same
  have ordered : own.Pairwise fun first later => first.seqno ≤ later.seqno := by
    refine (found.ordered.sublist List.filter_sublist).imp_of_mem fun inFirst inLater order =>
      order ?_
    exact (Check.mem_rows (perm.mem_iff.mp inFirst)).1.trans
      (Check.mem_rows (perm.mem_iff.mp inLater)).1.symm
  refine ⟨perm, ?_⟩
  rw [List.flatMap_def, List.flatMap_def]
  refine congrArg List.flatten (map_eq_of_places perm ordered check.rows_ordered
    fun first here other there place => ?_)
  have text : some first.checktext = some other.checktext := by
    rw [← (Check.mem_rows here).2.2, ← (Check.mem_rows there).2.2, place]
  exact congrArg javaTrim (Option.some.inj text)

theorem checks_reported_iff {catalog : List Check} {rows : List CheckRow}
    (found : CheckRows catalog rows) : ReportedOnce CheckEntry.Reports
        (handleSchemaChecks database schema (rows.map CheckRow.cells)) catalog ↔
      ChecksTold catalog := by
  have own : ∀ entry ∈ ((checks database schema).on CheckRow.cells).groups rows,
      ∀ check, CheckEntry.Reports entry.2 check → check.key = some entry.1 := by
    intro entry among check reports
    obtain ⟨⟨row, inside, name, _⟩, _⟩ := check_entry (entry_groups _ among)
    have keyed := of_decide_eq_true (List.mem_filter.mp inside).2
    rw [← keyed, Check.key, ← reports.name, name]
    rfl
  have right : (catalog.map Check.key).Nodup →
      ∀ entry ∈ ((checks database schema).on CheckRow.cells).groups rows,
      ∀ check ∈ catalog, check.key = some entry.1 →
        (CheckEntry.Reports entry.2 check ↔ KeptPieces check.pieces) := by
    intro distinct entry among check inside same
    obtain ⟨⟨row, mine, name, table⟩, definition⟩ := check_entry (entry_groups _ among)
    obtain ⟨perm, texts⟩ := check_texts found distinct inside same
    obtain ⟨constrname, tabname, _⟩ := Check.mem_rows (perm.mem_iff.mp mine)
    rw [texts, Check.texts] at definition
    rw [KeptPieces, ← reassemble_once_iff padding_atMostSpace, ← sameText_stored check.stored,
      ← definition]
    refine ⟨fun reports => reports.definition, fun kept => ⟨?_, ?_, kept⟩⟩
    · rw [name, ← constrname]
      rfl
    · rw [table, ← tabname]
      rfl
  have rowsSome (check : Check) : check.rows ≠ [] ↔ check.pieces ≠ [] := by
    simp [Check.rows]
  rw [ReportedOnce, handleSchemaChecks, groups_map]
  refine (reported_iff check_keyed found.joined own right).trans ⟨?_, fun told => ?_⟩
  · rintro ⟨shown, distinct, whole⟩
    exact ⟨fun check inside => Check.key_isSome.mp (shown check inside).2,
      fun check inside => (rowsSome check).mp (shown check inside).1, distinct, whole⟩
  · exact ⟨fun check inside => ⟨(rowsSome check).mpr (told.stored check inside),
      Check.key_isSome.mpr (told.named check inside)⟩, told.distinct, told.whole⟩

end Checks

/-- For routines and checks whose texts lie in pieces in the catalog: each is reported once with
its text if and only if the names tell them apart, no routine with a text has several return
columns, and no piece has white space at its ends but the padding of the text. -/
theorem catalog_texts_iff {catalog : List Routine} {rows : List RoutineRow}
    (found : RoutineRows catalog rows) {constraints : List Check} {checkRows : List CheckRow}
    (foundChecks : CheckRows constraints checkRows) (database schema : Chars) (function : Bool) :
    (ReportedOnce RoutineEntry.Reports
        (readRoutines database function (rows.map RoutineRow.cells)) catalog ∧
      ReportedOnce CheckEntry.Reports
        (handleSchemaChecks database schema (checkRows.map CheckRow.cells)) constraints) ↔
    RoutinesTold catalog ∧ ChecksTold constraints :=
  and_congr (routines_reported_iff found) (checks_reported_iff foundChecks)

/-! ## Two functions -/

theorem rows_of_one (routine : Routine) : RoutineRows [routine] routine.rows where
  joined := by simp
  ordered := by
    refine routine.rows_ordered.imp ?_
    exact fun order _ => order

theorem rows_of_none : CheckRows [] [] := ⟨List.Perm.refl _, List.Pairwise.nil⟩

def addOne : Routine where
  name := "demo_add_one".toList
  owner := "app     ".toList
  returns := ["2".toList]
  text := "RETURN p+1;".toList
  pieces := ["RETURN p".toList, "+1;     ".toList]
  stored := ⟨⟨8, by simp⟩, "     ".toList, List.all_eq_true.mp rfl, rfl⟩

theorem addOne_told : RoutinesTold [addOne] where
  named := by decide
  distinct := List.nodup_singleton _
  whole := by
    intro routine among
    rw [List.mem_singleton.mp among]
    exact (reassemble_once_iff padding_atMostSpace _).mp (by decide)

theorem catalog_texts_addOne :
    ReportedOnce RoutineEntry.Reports
        (readRoutines [] true (addOne.rows.map RoutineRow.cells)) [addOne] ∧
      ReportedOnce CheckEntry.Reports (handleSchemaChecks [] [] []) [] :=
  (catalog_texts_iff (rows_of_one addOne) rows_of_none [] [] true).mpr
    ⟨addOne_told, by simp, by simp, List.nodup_nil, by simp⟩

/-- The same function with a second return column. -/
def pair : Routine := { addOne with returns := ["2".toList, "2".toList] }

theorem pair_doubled :
    RoutineRows [pair] pair.rows ∧
      ¬ReportedOnce RoutineEntry.Reports
        (readRoutines [] true (pair.rows.map RoutineRow.cells)) [pair] := by
  refine ⟨rows_of_one pair, fun reported => ?_⟩
  have whole := ((routines_reported_iff (rows_of_one pair)).mp reported).whole pair (by simp)
  have blank : isPadding 'R' = true := whole 'R' (by decide)
  exact absurd blank (by decide)

end Onetcli.GBase8s
