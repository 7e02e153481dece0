import Onetcli.Lib.SqlTemplates
import Onetcli.DbIpc.Config

/-!
The schema queries of the drivers: those that name an owner, of internal/drivers/oracle/spec.go
and internal/drivers/dm/spec.go, and those of OceanBase and Kingbase.
-/

/-!
What the schema builders of internal/drivers/oracle/spec.go and
internal/drivers/dm/spec.go have in common: the owner and the table that a request
means, and the queries of both. A query is its fixed texts and the names spliced in,
each between its quotes.
-/

namespace Onetcli.Drivers

open Chars SqlTokens Text

abbrev Query := List Piece

def queryText (query : Query) : String := String.ofList (render query)

def escapeSQL (value : String) : String := replaceAll value "'" "''"

def mysql : Dialect where
  kind char :=
    if char = '\'' ∨ char = '"' then some .literal
    else if char = '`' then some .identifier else none
  backslash quote := quote != '`'
  hashComment := true
  dashBlank := true

/-- Oracle, DM and Kingbase: only the doubling of a quote counts. -/
def standard : Dialect where
  kind char :=
    if char = '\'' then some .literal
    else if char = '"' then some .identifier else none
  backslash _ := false
  hashComment := false
  dashBlank := false

namespace Owner

-- `unicode.ToUpper`
variable (upper : Char → Char)

def trimMark (mark : Char) (value : String) : String :=
  String.ofList (trimMatches (· == mark) value.toList)

def stripIdentifierQuotes (value : String) : String := trimMark '"' (trimSpace value)

def upperEscapeSQL (value : String) : String :=
  escapeSQL (String.ofList ((trimSpace value).toList.map upper))

def owner (database schema : String) : String :=
  if isBlank schema then database else schema

def ownerAndTable (database schema table : String) : String × String :=
  let owner := owner database schema
  let name := trimSpace table
  let parts :=
    if owner = "" then
      match splitOnce (· == '.') name.toList with
      | some (first, second) => (String.ofList first, String.ofList second)
      | none => (owner, name)
    else (owner, name)
  (stripIdentifierQuotes parts.1, stripIdentifierQuotes parts.2)

def ownerFilter (condition owner : String) : Query :=
  if owner ≠ "" then [.text condition, .name '\'' (upperEscapeSQL upper owner)] else []

/-- The kinds of a request, as the source's `seen` map has them. -/
def seen (kinds spellings : List String) : Bool :=
  kinds.any fun kind => spellings.contains (toLower (trimSpace kind))

def chosen (kinds : List String) (table : List (List String × List String)) : List String :=
  table.flatMap fun row => if seen kinds row.1 then row.2 else []

def columnsSQL (database schema table : String) : Query :=
  let names := ownerAndTable database schema table
  [.text ("SELECT c.COLUMN_ID, c.COLUMN_NAME, c.DATA_TYPE, c.NULLABLE, c.DATA_DEFAULT, " ++
        "NVL(cc.COMMENTS, '') FROM ALL_TAB_COLUMNS c LEFT JOIN ALL_COL_COMMENTS cc ON " ++
        "cc.OWNER = c.OWNER AND cc.TABLE_NAME = c.TABLE_NAME AND cc.COLUMN_NAME = " ++
        "c.COLUMN_NAME WHERE c.TABLE_NAME = "),
    .name '\'' (upperEscapeSQL upper names.2)] ++
  ownerFilter upper " AND c.OWNER = " names.1 ++
  [.text " ORDER BY c.COLUMN_ID"]

def indexesSQL (database schema table : String) : Query :=
  let names := ownerAndTable database schema table
  [.text ("SELECT i.INDEX_NAME, LISTAGG(c.COLUMN_NAME, ',') WITHIN GROUP (ORDER BY " ++
        "c.COLUMN_POSITION), CASE WHEN i.UNIQUENESS = 'UNIQUE' THEN 'YES' ELSE 'NO' END, " ++
        "CASE WHEN pk.CONSTRAINT_TYPE = 'P' THEN 'YES' ELSE 'NO' END, i.INDEX_TYPE FROM " ++
        "ALL_INDEXES i JOIN ALL_IND_COLUMNS c ON c.INDEX_OWNER = i.OWNER AND c.INDEX_NAME " ++
        "= i.INDEX_NAME LEFT JOIN ALL_CONSTRAINTS pk ON pk.OWNER = i.TABLE_OWNER AND " ++
        "pk.TABLE_NAME = i.TABLE_NAME AND pk.INDEX_NAME = i.INDEX_NAME AND " ++
        "pk.CONSTRAINT_TYPE = 'P' WHERE i.TABLE_NAME = "),
    .name '\'' (upperEscapeSQL upper names.2)] ++
  ownerFilter upper " AND i.TABLE_OWNER = " names.1 ++
  [.text (" GROUP BY i.INDEX_NAME, i.UNIQUENESS, pk.CONSTRAINT_TYPE, i.INDEX_TYPE ORDER BY " ++
        "i.INDEX_NAME")]

def foreignKeysSQL (database schema table : String) : Query :=
  let names := ownerAndTable database schema table
  [.text ("SELECT fk.CONSTRAINT_NAME, LISTAGG(fkc.COLUMN_NAME, ',') WITHIN GROUP (ORDER BY " ++
        "fkc.POSITION), pk.OWNER, pk.TABLE_NAME, LISTAGG(pkc.COLUMN_NAME, ',') WITHIN " ++
        "GROUP (ORDER BY fkc.POSITION), 'NO ACTION', fk.DELETE_RULE FROM ALL_CONSTRAINTS " ++
        "fk JOIN ALL_CONS_COLUMNS fkc ON fkc.OWNER = fk.OWNER AND fkc.CONSTRAINT_NAME = " ++
        "fk.CONSTRAINT_NAME JOIN ALL_CONSTRAINTS pk ON pk.OWNER = fk.R_OWNER AND " ++
        "pk.CONSTRAINT_NAME = fk.R_CONSTRAINT_NAME JOIN ALL_CONS_COLUMNS pkc ON pkc.OWNER " ++
        "= pk.OWNER AND pkc.CONSTRAINT_NAME = pk.CONSTRAINT_NAME AND pkc.POSITION = " ++
        "fkc.POSITION WHERE fk.CONSTRAINT_TYPE = 'R' AND fk.TABLE_NAME = "),
    .name '\'' (upperEscapeSQL upper names.2)] ++
  ownerFilter upper " AND fk.OWNER = " names.1 ++
  [.text (" GROUP BY fk.CONSTRAINT_NAME, pk.OWNER, pk.TABLE_NAME, fk.DELETE_RULE ORDER BY " ++
        "fk.CONSTRAINT_NAME")]

def viewsSQL (database schema : String) : Query :=
  [.text ("SELECT v.VIEW_NAME, v.OWNER, NVL(c.COMMENTS, ''), 'NO', NVL(v.TEXT, '') FROM " ++
        "ALL_VIEWS v LEFT JOIN ALL_TAB_COMMENTS c ON c.OWNER = v.OWNER AND c.TABLE_NAME = " ++
        "v.VIEW_NAME WHERE 1 = 1")] ++
  ownerFilter upper " AND v.OWNER = " (owner database schema) ++
  [.text " ORDER BY v.OWNER, v.VIEW_NAME"]

def viewDefinitionSQL (database schema view : String) : Query :=
  let names := ownerAndTable database schema view
  [.text "SELECT TEXT, 'NO' FROM ALL_VIEWS WHERE VIEW_NAME = ",
    .name '\'' (upperEscapeSQL upper names.2)] ++
  ownerFilter upper " AND OWNER = " names.1

def dumpDDL (database schema table : String) : Query :=
  let names := ownerAndTable database schema table
  if names.1 = "" then
    [.text "SELECT DBMS_METADATA.GET_DDL('TABLE', ",
      .name '\'' (upperEscapeSQL upper names.2),
      .text ") FROM DUAL"]
  else
    [.text "SELECT DBMS_METADATA.GET_DDL('TABLE', ",
      .name '\'' (upperEscapeSQL upper names.2),
      .text ", ",
      .name '\'' (upperEscapeSQL upper names.1),
      .text ") FROM DUAL"]

end Owner

/-! ## The fixed parts and the names -/

theorem escapeSQL_doubled (value : String) :
    (escapeSQL value).toList = doubled '\'' value.toList := by
  rw [escapeSQL, replaceAll, String.toList_ofList]
  exact replaceFrom_doubled '\'' value.toList

theorem ordinary_standard : Ordinary standard where
  literal := rfl
  signs char quotes := by
    by_contra other
    simp [isQuoteSign] at other
    simp [standard, other] at quotes

theorem ordinary_mysql : Ordinary mysql where
  literal := rfl
  signs char quotes := by
    by_contra other
    simp [isQuoteSign] at other
    simp [mysql, other] at quotes

structure LiteralList (text : String) : Prop where
  whole : wholeLiterals text.toList = true
  front : text.toList.head? = some '\''

theorem oddQuotes_append (odd : Bool) (first second : Chars) :
    oddQuotes odd (first ++ second) = oddQuotes (oddQuotes odd first) second := by
  induction first generalizing odd with
  | nil => rfl
  | cons char rest ih => exact ih _

theorem wholeLiterals_append {first second : Chars} (one : wholeLiterals first = true)
    (two : wholeLiterals second = true) : wholeLiterals (first ++ second) = true := by
  simp only [wholeLiterals, Bool.and_eq_true, Bool.not_eq_true'] at one two ⊢
  refine ⟨?_, ?_⟩
  · rw [List.all_append, one.1, two.1]
    rfl
  · rw [oddQuotes_append, one.2, two.2]

theorem literalList_comma {first rest : String} (one : LiteralList first)
    (others : LiteralList rest) : LiteralList (first ++ "," ++ rest) where
  whole := by
    rw [String.toList_append, String.toList_append]
    exact wholeLiterals_append (wholeLiterals_append one.whole (by decide)) others.whole
  front := by
    rw [String.toList_append, String.toList_append, List.append_assoc, List.head?_append, one.front]
    rfl

theorem literalList_joined {values : List String} (filled : values ≠ [])
    (each : ∀ value ∈ values, LiteralList value) : LiteralList (",".intercalate values) := by
  induction values with
  | nil => exact absurd rfl filled
  | cons value rest ih =>
    cases rest with
    | nil => simpa using each value List.mem_cons_self
    | cons next others =>
      have tail := ih (by simp) fun other member => each other (List.mem_cons_of_mem _ member)
      have joined := literalList_comma (each value List.mem_cons_self) tail
      rw [String.intercalate_cons_cons]
      exact joined

theorem literalList_ofList {chars : Chars}
    (check : wholeLiterals chars = true ∧ chars.head? = some '\'') :
    LiteralList (String.ofList chars) where
  whole := by
    rw [String.toList_ofList]
    exact check.1
  front := by
    rw [String.toList_ofList]
    exact check.2

theorem literalList_kinds {kinds : List String} {table : List (List String × List String)}
    (filled : Owner.chosen kinds table ≠ [])
    (each : ∀ row ∈ table, ∀ value ∈ row.2, LiteralList value) :
    LiteralList (",".intercalate (Owner.chosen kinds table)) := by
  refine literalList_joined filled fun value member => ?_
  obtain ⟨row, present, inRow⟩ := List.mem_flatMap.mp member
  split at inRow
  · exact each row present value inRow
  · simp at inRow

-- A list of the kinds seen, or what stands for none.
theorem literalList_chosen {kinds : List String} {table : List (List String × List String)}
    {absent : String} (none : LiteralList absent)
    (each : ∀ row ∈ table, ∀ value ∈ row.2, LiteralList value) :
    LiteralList (if Owner.chosen kinds table = [] then absent
      else ",".intercalate (Owner.chosen kinds table)) := by
  split
  · exact none
  · rename_i filled
    exact literalList_kinds filled each

namespace Owner

variable (upper : Char → Char)

theorem held_escape (value : String) : (Piece.name '\'' (escapeSQL value)).Held standard :=
  ⟨value.toList, escapeSQL_doubled value, Or.inl rfl⟩

theorem held_upper (value : String) :
    (Piece.name '\'' (upperEscapeSQL upper value)).Held standard := held_escape _

theorem erase_filter {value other : String} (same : value = "" ↔ other = "") {given another : Query}
    (erased : given.map Piece.erase = another.map Piece.erase) :
    (if value ≠ "" then given else []).map Piece.erase =
      (if other ≠ "" then another else []).map Piece.erase := by
  by_cases missing : value = ""
  · rw [if_neg (not_not.mpr missing), if_neg (not_not.mpr (same.mp missing))]
  · rw [if_pos missing, if_pos fun empty => missing (same.mpr empty), erased]

theorem erase_ownerFilter (condition : String) {owner other : String}
    (same : owner = "" ↔ other = "") : (ownerFilter upper condition owner).map Piece.erase =
      (ownerFilter upper condition other).map Piece.erase := by
  unfold ownerFilter
  exact erase_filter same (by simp only [List.map_cons, Piece.erase, List.map_nil])

end Owner

end Onetcli.Drivers

/-! The schema queries of internal/drivers/dm/spec.go. -/

namespace Onetcli.Drivers.Dm

open Owner SqlTokens Text

variable (upper : Char → Char)

def dmKindFilter (kinds : List String) : Query :=
  if kinds = [] then []
  else
    let values := chosen kinds [(["table", "base_table"], ["'table'"]), (["view"], ["'view'"])]
    if values = [] then [.text " AND 1 = 0"]
    else [.text " AND KIND IN (", .text (",".intercalate values), .text ")"]

theorem dmKindFilter_cases (kinds : List String) :
    dmKindFilter kinds = [] ∨ dmKindFilter kinds = [.text " AND 1 = 0"] ∨ ∃ list, LiteralList list ∧
        dmKindFilter kinds = [.text " AND KIND IN (", .text list, .text ")"] := by
  unfold dmKindFilter
  split
  · exact Or.inl rfl
  · dsimp only
    split
    · exact Or.inr (Or.inl rfl)
    · rename_i filled
      refine Or.inr (Or.inr ⟨_, literalList_kinds filled ?_, rfl⟩)
      simp only [List.forall_mem_cons, List.not_mem_nil, false_imp_iff, implies_true, and_true]
      and_intros
      all_goals exact literalList_ofList (by decide)

def dmDatabasesSQL : Query :=
  [.text ("SELECT NAME FROM (SELECT USER AS NAME FROM DUAL UNION SELECT USERNAME AS NAME " ++
        "FROM ALL_USERS UNION SELECT OWNER AS NAME FROM ALL_TABLES) WHERE NAME IS NOT " ++
        "NULL ORDER BY NAME")]

def dmSchemasSQL : Query :=
  [.text ("SELECT USERNAME, USERNAME FROM (SELECT USER AS USERNAME FROM DUAL UNION SELECT " ++
        "USERNAME FROM ALL_USERS UNION SELECT OWNER AS USERNAME FROM ALL_TABLES) WHERE " ++
        "USERNAME IS NOT NULL ORDER BY USERNAME")]

def dmObjectsSQL (database schema : String) (kinds : List String) : Query :=
  [.text ("SELECT OBJECT_NAME, KIND, COMMENTS, OWNER FROM (SELECT t.OWNER, t.TABLE_NAME AS " ++
        "OBJECT_NAME, 'table' AS KIND, NVL(c.COMMENTS, '') AS COMMENTS FROM ALL_TABLES t " ++
        "LEFT JOIN ALL_TAB_COMMENTS c ON c.OWNER = t.OWNER AND c.TABLE_NAME = " ++
        "t.TABLE_NAME UNION ALL SELECT v.OWNER, v.VIEW_NAME AS OBJECT_NAME, 'view' AS " ++
        "KIND, NVL(c.COMMENTS, '') AS COMMENTS FROM ALL_VIEWS v LEFT JOIN " ++
        "ALL_TAB_COMMENTS c ON c.OWNER = v.OWNER AND c.TABLE_NAME = v.VIEW_NAME) WHERE 1 " ++
        "= 1")] ++
  ownerFilter upper " AND OWNER = " (owner database schema) ++
  dmKindFilter kinds ++
  [.text " ORDER BY OWNER, OBJECT_NAME"]

def dmColumnsSQL := columnsSQL upper
def dmIndexesSQL := indexesSQL upper
def dmForeignKeysSQL := foreignKeysSQL upper
def dmViewsSQL := viewsSQL upper

def dmFunctionsSQL (database schema : String) : Query :=
  [.text ("SELECT o.OBJECT_NAME, o.OWNER, NVL(p.DATA_TYPE, ''), 'SQL', '' FROM ALL_OBJECTS " ++
        "o LEFT JOIN ALL_PROCEDURES p ON p.OWNER = o.OWNER AND p.OBJECT_NAME = " ++
        "o.OBJECT_NAME WHERE o.OBJECT_TYPE = 'FUNCTION'")] ++
  ownerFilter upper " AND o.OWNER = " (owner database schema) ++
  [.text " ORDER BY o.OWNER, o.OBJECT_NAME"]

def dmViewDefinitionSQL := viewDefinitionSQL upper
def dmDumpDDL := dumpDDL upper

def spec {World : Type} (buildDSN : DbIpc.Config → Except String String) :
    DbIpc.DriverSpec World where
  id := "dm"
  name := "Dameng DM"
  sqlDriverName := "dm"
  identifierQuoteLeft := "\""
  identifierQuoteRight := "\""
  supportsComments := true
  buildDSN := buildDSN
  schemaSQL :=
    { databases := some fun _ => queryText dmDatabasesSQL
      schemas := some fun _ _ => queryText dmSchemasSQL
      objects := some fun _ database schema kinds =>
        queryText (dmObjectsSQL upper database schema kinds)
      columns := some fun _ database schema table =>
        queryText (dmColumnsSQL upper database schema table)
      indexes := some fun _ database schema table =>
        queryText (dmIndexesSQL upper database schema table)
      foreignKeys := some fun _ database schema table =>
        queryText (dmForeignKeysSQL upper database schema table)
      views := some fun _ database schema => queryText (dmViewsSQL upper database schema)
      functions := some fun _ database schema =>
        queryText (dmFunctionsSQL upper database schema)
      viewDefinition := some fun _ database schema view =>
        queryText (dmViewDefinitionSQL upper database schema view)
      dumpDDL := some fun _ database schema table =>
        queryText (dmDumpDDL upper database schema table) }

end Onetcli.Drivers.Dm

/-! The schema queries of internal/drivers/oracle/spec.go. -/

namespace Onetcli.Drivers.Oracle

open Owner SqlTokens Text

variable (upper : Char → Char)

def oracleObjectTypeList (kinds : List String) : String :=
  if kinds = [] then "'TABLE','VIEW','MATERIALIZED VIEW','SEQUENCE'"
  else
    let values := chosen kinds [(["table", "base_table"], ["'TABLE'"]), (["view"], ["'VIEW'"]),
      (["materialized_view"], ["'MATERIALIZED VIEW'"]), (["sequence"], ["'SEQUENCE'"])]
    if values = [] then "''" else ",".intercalate values

def oracleDatabasesSQL : Query :=
  [.text ("SELECT COALESCE(NULLIF(SYS_CONTEXT('USERENV', 'CON_NAME'), ''), " ++
        "SYS_CONTEXT('USERENV', 'DB_NAME')) AS NAME FROM DUAL")]

def oracleSchemasSQL : Query :=
  [.text "SELECT USERNAME AS NAME, USERNAME AS OWNER FROM ALL_USERS ORDER BY 1"]

def oracleObjectsSQL (database schema : String) (kinds : List String) : Query :=
  [.text ("SELECT o.OBJECT_NAME, CASE o.OBJECT_TYPE WHEN 'TABLE' THEN 'table' WHEN 'VIEW' " ++
        "THEN 'view' WHEN 'MATERIALIZED VIEW' THEN 'materialized_view' WHEN 'SEQUENCE' " ++
        "THEN 'sequence' ELSE LOWER(REPLACE(o.OBJECT_TYPE, ' ', '_')) END AS KIND, " ++
        "NVL(c.COMMENTS, '') AS COMMENTS, o.OWNER AS SCHEMA FROM ALL_OBJECTS o LEFT JOIN " ++
        "ALL_TAB_COMMENTS c ON c.OWNER = o.OWNER AND c.TABLE_NAME = o.OBJECT_NAME WHERE " ++
        "o.OBJECT_TYPE IN ("),
    .text (oracleObjectTypeList kinds),
    .text ")"] ++
  ownerFilter upper " AND o.OWNER = " (owner database schema) ++
  [.text " ORDER BY o.OWNER, o.OBJECT_NAME"]

def oracleColumnsSQL := columnsSQL upper
def oracleIndexesSQL := indexesSQL upper
def oracleForeignKeysSQL := foreignKeysSQL upper
def oracleViewsSQL := viewsSQL upper

def oracleFunctionsSQL (database schema : String) : Query :=
  [.text ("SELECT o.OBJECT_NAME, o.OWNER, NVL(p.DATA_TYPE, ''), 'PL/SQL', '', o.STATUS, " ++
        "o.CREATED, o.LAST_DDL_TIME FROM ALL_OBJECTS o LEFT JOIN ALL_PROCEDURES p ON " ++
        "p.OWNER = o.OWNER AND p.OBJECT_NAME = o.OBJECT_NAME WHERE o.OBJECT_TYPE = " ++
        "'FUNCTION'")] ++
  ownerFilter upper " AND o.OWNER = " (owner database schema) ++
  [.text " ORDER BY o.OWNER, o.OBJECT_NAME"]

def oracleProceduresSQL (database schema : String) : Query :=
  [.text ("SELECT o.OBJECT_NAME, o.OWNER, '', 'PL/SQL', '', o.STATUS, o.CREATED, " ++
        "o.LAST_DDL_TIME FROM ALL_OBJECTS o WHERE o.OBJECT_TYPE = 'PROCEDURE'")] ++
  ownerFilter upper " AND o.OWNER = " (owner database schema) ++
  [.text " ORDER BY o.OWNER, o.OBJECT_NAME"]

def tableFilter (table : String) : Query :=
  if table ≠ "" then [.text " AND TABLE_NAME = ", .name '\'' (upperEscapeSQL upper table)]
  else []

def oracleTriggersSQL (database schema table : String) : Query :=
  let names := ownerAndTable database schema table
  [.text ("SELECT TRIGGER_NAME, TABLE_NAME, TRIGGER_TYPE, TRIGGERING_EVENT, TRIGGER_BODY, " ++
        "STATUS FROM ALL_TRIGGERS WHERE 1 = 1")] ++
  ownerFilter upper " AND OWNER = " names.1 ++
  tableFilter upper names.2 ++
  [.text " ORDER BY OWNER, TRIGGER_NAME"]

def oracleSequencesSQL (database schema : String) : Query :=
  [.text ("SELECT SEQUENCE_NAME, MIN_VALUE, MAX_VALUE, INCREMENT_BY, LAST_NUMBER, " ++
        "CACHE_SIZE, CYCLE_FLAG FROM ALL_SEQUENCES WHERE 1 = 1")] ++
  ownerFilter upper " AND SEQUENCE_OWNER = " (owner database schema) ++
  [.text " ORDER BY SEQUENCE_OWNER, SEQUENCE_NAME"]

def oracleViewDefinitionSQL := viewDefinitionSQL upper
def oracleDumpDDL := dumpDDL upper

def spec {World : Type} (buildDSN : DbIpc.Config → Except String String) :
    DbIpc.DriverSpec World where
  id := "oracle-go"
  name := "Oracle Go"
  sqlDriverName := "oracle"
  identifierQuoteLeft := "\""
  identifierQuoteRight := "\""
  supportsComments := true
  buildDSN := buildDSN
  schemaSQL :=
    { databases := some fun _ => queryText oracleDatabasesSQL
      schemas := some fun _ _ => queryText oracleSchemasSQL
      objects := some fun _ database schema kinds =>
        queryText (oracleObjectsSQL upper database schema kinds)
      columns := some fun _ database schema table =>
        queryText (oracleColumnsSQL upper database schema table)
      indexes := some fun _ database schema table =>
        queryText (oracleIndexesSQL upper database schema table)
      foreignKeys := some fun _ database schema table =>
        queryText (oracleForeignKeysSQL upper database schema table)
      views := some fun _ database schema => queryText (oracleViewsSQL upper database schema)
      functions := some fun _ database schema =>
        queryText (oracleFunctionsSQL upper database schema)
      procedures := some fun _ database schema =>
        queryText (oracleProceduresSQL upper database schema)
      triggers := some fun _ database schema table =>
        queryText (oracleTriggersSQL upper database schema table)
      sequences := some fun _ database schema =>
        queryText (oracleSequencesSQL upper database schema)
      viewDefinition := some fun _ database schema view =>
        queryText (oracleViewDefinitionSQL upper database schema view)
      dumpDDL := some fun _ database schema table =>
        queryText (oracleDumpDDL upper database schema table) }

theorem oracleObjectTypeList_literals (kinds : List String) :
    LiteralList (oracleObjectTypeList kinds) := by
  unfold oracleObjectTypeList
  split
  · exact literalList_ofList (by decide)
  · refine literalList_chosen (literalList_ofList (by decide)) ?_
    simp only [List.forall_mem_cons, List.not_mem_nil, false_imp_iff, implies_true, and_true]
    and_intros
    all_goals exact literalList_ofList (by decide)

end Onetcli.Drivers.Oracle

/-!
The schema queries of the MySQL mode in internal/drivers/oceanbase/spec.go. `fallback` is
the database of the connection.
-/

namespace Onetcli.Drivers.OceanBase

open SqlTokens Text

def escapeBacktick (value : String) : String := replaceAll value "`" "``"

def stripIdentifierQuotes (value : String) : String := Owner.trimMark '`' (trimSpace value)

def mysqlCatalog (database schema fallback : String) : String :=
  if !isBlank schema then schema else if !isBlank database then database else fallback

def mysqlKindFilter (kinds : List String) : Query :=
  if kinds = [] then []
  else
    let values :=
      Owner.chosen kinds [(["table", "base_table"], ["'BASE TABLE'"]), (["view"], ["'VIEW'"])]
    if values = [] then [.text " AND 1 = 0"]
    else [.text " AND TABLE_TYPE IN (", .text (",".intercalate values), .text ")"]

theorem mysqlKindFilter_cases (kinds : List String) :
    mysqlKindFilter kinds = [] ∨ mysqlKindFilter kinds = [.text " AND 1 = 0"] ∨
      ∃ list, LiteralList list ∧
        mysqlKindFilter kinds = [.text " AND TABLE_TYPE IN (", .text list, .text ")"] := by
  unfold mysqlKindFilter
  split
  · exact Or.inl rfl
  · dsimp only
    split
    · exact Or.inr (Or.inl rfl)
    · rename_i filled
      refine Or.inr (Or.inr ⟨_, literalList_kinds filled ?_, rfl⟩)
      simp only [List.forall_mem_cons, List.not_mem_nil, false_imp_iff, implies_true, and_true]
      and_intros
      all_goals exact literalList_ofList (by decide)

def oceanbaseMySQLDatabasesSQL : Query :=
  [.text "SELECT SCHEMA_NAME FROM INFORMATION_SCHEMA.SCHEMATA ORDER BY SCHEMA_NAME"]

def oceanbaseMySQLSchemasSQL : Query :=
  [.text ("SELECT SCHEMA_NAME, DEFAULT_CHARACTER_SET_NAME FROM INFORMATION_SCHEMA.SCHEMATA " ++
        "ORDER BY SCHEMA_NAME")]

section Names

variable (fallback database schema : String)

def oceanbaseMySQLObjectsSQL (kinds : List String) : Query :=
  let db := mysqlCatalog database schema fallback
  [.text ("SELECT TABLE_NAME, CASE TABLE_TYPE WHEN 'BASE TABLE' THEN 'table' WHEN 'VIEW' " ++
        "THEN 'view' ELSE LOWER(REPLACE(TABLE_TYPE, ' ', '_')) END, TABLE_COMMENT, " ++
        "TABLE_SCHEMA FROM INFORMATION_SCHEMA.TABLES WHERE TABLE_SCHEMA = "),
    .name '\'' (escapeSQL db)] ++
  mysqlKindFilter kinds ++
  [.text " ORDER BY TABLE_NAME"]

def oceanbaseMySQLColumnsSQL (table : String) : Query :=
  let db := mysqlCatalog database schema fallback
  [.text ("SELECT ORDINAL_POSITION, COLUMN_NAME, COLUMN_TYPE, IS_NULLABLE, COLUMN_DEFAULT, " ++
        "COLUMN_COMMENT FROM INFORMATION_SCHEMA.COLUMNS WHERE TABLE_SCHEMA = "),
    .name '\'' (escapeSQL db),
    .text " AND TABLE_NAME = ",
    .name '\'' (escapeSQL table),
    .text " ORDER BY ORDINAL_POSITION"]

def oceanbaseMySQLIndexesSQL (table : String) : Query :=
  let db := mysqlCatalog database schema fallback
  [.text ("SELECT INDEX_NAME, GROUP_CONCAT(COLUMN_NAME ORDER BY SEQ_IN_INDEX SEPARATOR " ++
        "','), CASE WHEN NON_UNIQUE = 0 THEN 'YES' ELSE 'NO' END, CASE WHEN INDEX_NAME = " ++
        "'PRIMARY' THEN 'YES' ELSE 'NO' END, INDEX_TYPE FROM " ++
        "INFORMATION_SCHEMA.STATISTICS WHERE TABLE_SCHEMA = "),
    .name '\'' (escapeSQL db),
    .text " AND TABLE_NAME = ",
    .name '\'' (escapeSQL table),
    .text " GROUP BY INDEX_NAME, NON_UNIQUE, INDEX_TYPE ORDER BY INDEX_NAME"]

def oceanbaseMySQLForeignKeysSQL (table : String) : Query :=
  let db := mysqlCatalog database schema fallback
  [.text ("SELECT CONSTRAINT_NAME, GROUP_CONCAT(COLUMN_NAME ORDER BY ORDINAL_POSITION " ++
        "SEPARATOR ','), REFERENCED_TABLE_SCHEMA, REFERENCED_TABLE_NAME, " ++
        "GROUP_CONCAT(REFERENCED_COLUMN_NAME ORDER BY ORDINAL_POSITION SEPARATOR ','), " ++
        "'NO ACTION', 'NO ACTION' FROM INFORMATION_SCHEMA.KEY_COLUMN_USAGE WHERE " ++
        "TABLE_SCHEMA = "),
    .name '\'' (escapeSQL db),
    .text " AND TABLE_NAME = ",
    .name '\'' (escapeSQL table),
    .text (" AND REFERENCED_TABLE_NAME IS NOT NULL GROUP BY CONSTRAINT_NAME, " ++
        "REFERENCED_TABLE_SCHEMA, REFERENCED_TABLE_NAME ORDER BY CONSTRAINT_NAME")]

def oceanbaseMySQLViewsSQL : Query :=
  let db := mysqlCatalog database schema fallback
  [.text ("SELECT TABLE_NAME, TABLE_SCHEMA, TABLE_COMMENT, 'NO', '' FROM " ++
        "INFORMATION_SCHEMA.TABLES WHERE TABLE_SCHEMA = "),
    .name '\'' (escapeSQL db),
    .text " AND TABLE_TYPE = 'VIEW' ORDER BY TABLE_NAME"]

def oceanbaseMySQLFunctionsSQL : Query :=
  let db := mysqlCatalog database schema fallback
  [.text ("SELECT ROUTINE_NAME, ROUTINE_SCHEMA, DTD_IDENTIFIER, ROUTINE_TYPE, '' FROM " ++
        "INFORMATION_SCHEMA.ROUTINES WHERE ROUTINE_SCHEMA = "),
    .name '\'' (escapeSQL db),
    .text " AND ROUTINE_TYPE = 'FUNCTION' ORDER BY ROUTINE_NAME"]

def oceanbaseMySQLViewDefinitionSQL (view : String) : Query :=
  let db := mysqlCatalog database schema fallback
  [.text "SELECT VIEW_DEFINITION, 'NO' FROM INFORMATION_SCHEMA.VIEWS WHERE TABLE_SCHEMA = ",
    .name '\'' (escapeSQL db),
    .text " AND TABLE_NAME = ",
    .name '\'' (escapeSQL view)]

def oceanbaseMySQLDumpDDL (table : String) : Query :=
  let db := mysqlCatalog database schema fallback
  [.text "SHOW CREATE TABLE ",
    .name '`' (escapeBacktick db),
    .text ".",
    .name '`' (escapeBacktick (stripIdentifierQuotes table))]

end Names

end Onetcli.Drivers.OceanBase

/-! The schema queries of internal/drivers/kingbase/spec.go, for either catalog prefix. -/

namespace Onetcli.Drivers.Kingbase

open Owner SqlTokens

structure CatalogNames where
  database : String
  «namespace» : String
  «class» : String
  «attribute» : String
  attrdef : String
  index : String
  «constraint» : String
  proc : String
  language : String
  am : String
  views : String
  ddlFunc : String

def sysCatalogNames : CatalogNames where
  database := "sys_database"
  «namespace» := "sys_namespace"
  «class» := "sys_class"
  «attribute» := "sys_attribute"
  attrdef := "sys_attrdef"
  index := "sys_index"
  «constraint» := "sys_constraint"
  proc := "sys_proc"
  language := "sys_language"
  am := "sys_am"
  views := "sys_views"
  ddlFunc := "sys_get_tabledef"

def pgCatalogNames : CatalogNames where
  database := "pg_database"
  «namespace» := "pg_namespace"
  «class» := "pg_class"
  «attribute» := "pg_attribute"
  attrdef := "pg_attrdef"
  index := "pg_index"
  «constraint» := "pg_constraint"
  proc := "pg_proc"
  language := "pg_language"
  am := "pg_am"
  views := "pg_views"
  ddlFunc := "pg_get_tabledef"

def kingbaseRelkindList (kinds : List String) : String :=
  if kinds = [] then "'r','p','v','m','S'"
  else
    let values := chosen kinds [(["table", "base_table"], ["'r'", "'p'"]), (["view"], ["'v'"]),
      (["materialized_view"], ["'m'"]), (["sequence"], ["'S'"])]
    if values = [] then "''" else ",".intercalate values

theorem kingbaseRelkindList_literals (kinds : List String) :
    LiteralList (kingbaseRelkindList kinds) := by
  unfold kingbaseRelkindList
  split
  · exact literalList_ofList (by decide)
  · refine literalList_chosen (literalList_ofList (by decide)) ?_
    simp only [List.forall_mem_cons, List.not_mem_nil, false_imp_iff, implies_true, and_true]
    and_intros
    all_goals exact literalList_ofList (by decide)

def schemaFilter (condition schema : String) : Query :=
  if schema ≠ "" then [.text condition, .name '\'' (escapeSQL schema)] else []

section Names

variable (c : CatalogNames)

def databasesSQL : Query :=
  [.text ("SELECT datname FROM " ++
        c.database ++ " WHERE datallowconn ORDER BY datname")]

def schemasSQL : Query :=
  [.text ("SELECT nspname, pg_get_userbyid(nspowner) FROM " ++
        c.«namespace» ++ " WHERE nspname NOT LIKE 'pg_%' AND nspname <> " ++
        "'information_schema' ORDER BY nspname")]

def objectsSQL (schema : String) (kinds : List String) : Query :=
  [.text ("SELECT c.relname, CASE c.relkind WHEN 'r' THEN 'table' WHEN 'p' THEN 'table' " ++
        "WHEN 'v' THEN 'view' WHEN 'm' THEN 'materialized_view' WHEN 'S' THEN 'sequence' " ++
        "ELSE 'table' END, COALESCE(obj_description(c.oid), ''), n.nspname FROM " ++
        c.«class» ++ " c JOIN " ++
        c.«namespace» ++ " n ON n.oid = c.relnamespace WHERE c.relkind IN ("),
    .text (kingbaseRelkindList kinds),
    .text ")"] ++
  schemaFilter " AND n.nspname = " schema ++
  [.text " ORDER BY n.nspname, c.relname"]

def columnsSQL (schema table : String) : Query :=
  [.text ("SELECT a.attnum, a.attname, format_type(a.atttypid, a.atttypmod), CASE WHEN " ++
        "a.attnotnull THEN 'NO' ELSE 'YES' END, pg_get_expr(d.adbin, d.adrelid), " ++
        "COALESCE(col_description(a.attrelid, a.attnum), '') FROM " ++
        c.«attribute» ++ " a JOIN " ++
        c.«class» ++ " c ON c.oid = a.attrelid JOIN " ++
        c.«namespace» ++ " n ON n.oid = c.relnamespace LEFT JOIN " ++
        c.attrdef ++ " d ON d.adrelid = a.attrelid AND d.adnum = a.attnum WHERE " ++
        "c.relname = "),
    .name '\'' (escapeSQL table)] ++
  schemaFilter " AND n.nspname = " schema ++
  [.text " AND a.attnum > 0 AND NOT a.attisdropped ORDER BY a.attnum"]

def indexesSQL (schema table : String) : Query :=
  [.text ("SELECT ic.relname, string_agg(a.attname, ',' ORDER BY a.attnum), CASE WHEN " ++
        "i.indisunique THEN 'YES' ELSE 'NO' END, CASE WHEN i.indisprimary THEN 'YES' ELSE " ++
        "'NO' END, am.amname FROM " ++
        c.index ++ " i JOIN " ++
        c.«class» ++ " c ON c.oid = i.indrelid JOIN " ++
        c.«namespace» ++ " n ON n.oid = c.relnamespace JOIN " ++
        c.«class» ++ " ic ON ic.oid = i.indexrelid LEFT JOIN " ++
        c.am ++ " am ON am.oid = ic.relam JOIN " ++
        c.«attribute» ++ " a ON a.attrelid = c.oid AND a.attnum = ANY(i.indkey) WHERE " ++
        "c.relname = "),
    .name '\'' (escapeSQL table)] ++
  schemaFilter " AND n.nspname = " schema ++
  [.text " GROUP BY ic.relname, i.indisunique, i.indisprimary, am.amname ORDER BY ic.relname"]

def foreignKeysSQL (schema table : String) : Query :=
  [.text ("SELECT con.conname, string_agg(a.attname, ',' ORDER BY keys.ord), rn.nspname, " ++
        "rc.relname, string_agg(ra.attname, ',' ORDER BY keys.ord), CASE con.confupdtype " ++
        "WHEN 'c' THEN 'CASCADE' WHEN 'r' THEN 'RESTRICT' WHEN 'n' THEN 'SET NULL' WHEN " ++
        "'d' THEN 'SET DEFAULT' ELSE 'NO ACTION' END, CASE con.confdeltype WHEN 'c' THEN " ++
        "'CASCADE' WHEN 'r' THEN 'RESTRICT' WHEN 'n' THEN 'SET NULL' WHEN 'd' THEN 'SET " ++
        "DEFAULT' ELSE 'NO ACTION' END FROM " ++
        c.«constraint» ++ " con JOIN " ++
        c.«class» ++ " c ON c.oid = con.conrelid JOIN " ++
        c.«namespace» ++ " n ON n.oid = c.relnamespace JOIN " ++
        c.«class» ++ " rc ON rc.oid = con.confrelid JOIN " ++
        c.«namespace» ++ " rn ON rn.oid = rc.relnamespace JOIN LATERAL " ++
        "unnest(con.conkey, con.confkey) WITH ORDINALITY AS " ++
        "keys(attnum, ref_attnum, ord) ON true JOIN " ++
        c.«attribute» ++ " a ON a.attrelid = c.oid AND a.attnum = keys.attnum JOIN " ++
        c.«attribute» ++ " ra ON ra.attrelid = rc.oid AND ra.attnum = keys.ref_attnum " ++
        "WHERE con.contype = 'f' AND c.relname = "),
    .name '\'' (escapeSQL table)] ++
  schemaFilter " AND n.nspname = " schema ++
  [.text (" GROUP BY con.conname, rn.nspname, rc.relname, con.confupdtype, con.confdeltype " ++
        "ORDER BY con.conname")]

def viewsSQL (schema : String) : Query :=
  [.text ("SELECT c.relname, n.nspname, COALESCE(obj_description(c.oid), ''), CASE WHEN " ++
        "c.relkind = 'm' THEN 'YES' ELSE 'NO' END, COALESCE(pg_get_viewdef(c.oid), '') " ++
        "FROM " ++
        c.«class» ++ " c JOIN " ++
        c.«namespace» ++ " n ON n.oid = c.relnamespace WHERE c.relkind IN ('v','m')")] ++
  schemaFilter " AND n.nspname = " schema ++
  [.text " ORDER BY n.nspname, c.relname"]

def functionsSQL (schema : String) : Query :=
  [.text ("SELECT p.proname, n.nspname, pg_get_function_result(p.oid), l.lanname, " ++
        "COALESCE(obj_description(p.oid), '') FROM " ++
        c.proc ++ " p JOIN " ++
        c.«namespace» ++ " n ON n.oid = p.pronamespace LEFT JOIN " ++
        c.language ++ " l ON l.oid = p.prolang WHERE p.prokind = 'f'")] ++
  schemaFilter " AND n.nspname = " schema ++
  [.text " ORDER BY n.nspname, p.proname"]

def viewDefinitionSQL (schema view : String) : Query :=
  [.text ("SELECT definition, 'NO' FROM " ++
        c.views ++ " WHERE viewname = "),
    .name '\'' (escapeSQL view)] ++
  schemaFilter " AND schemaname = " schema

def dumpDDL (schema table : String) : Query :=
  [.text ("SELECT " ++
        c.ddlFunc ++ "(c.oid) FROM " ++
        c.«class» ++ " c JOIN " ++
        c.«namespace» ++ " n ON n.oid = c.relnamespace WHERE c.relname = "),
    .name '\'' (escapeSQL table)] ++
  schemaFilter " AND n.nspname = " schema ++
  [.text " AND c.relkind IN ('r','p','f')"]

end Names

end Onetcli.Drivers.Kingbase
