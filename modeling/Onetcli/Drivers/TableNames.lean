import Onetcli.DbIpc.QuotedNames
import Onetcli.Drivers.MetadataNames

/-!
The table that a metadata query of the Oracle and DM drivers asks for and the one that
the DDL builder names. The query asks for the names in upper case, the builder quotes
them as they are, so both mean one table exactly if the names are their own upper case.
-/

namespace Onetcli.Drivers

open Chars Owner SqlTokens Text DbIpc

/-! ## The names in a text -/

def literal : Token → Option Chars
  | .quoted .literal contents => some contents
  | _ => none

def literals (read : List Token) : List Chars := read.filterMap literal

/-- Schema and table of a metadata query: its last two literals, the table in front. -/
def asked (sqlText : String) : Option (String × String) :=
  match (literals (tokens standard sqlText.toList)).reverse with
  | schema :: table :: _ => some (String.ofList schema, String.ofList table)
  | _ => none

def denoted (name : String) : Option (String × String) :=
  match (tokens standard name.toList).reverse with
  | .quoted .identifier table :: .symbol '.' :: .quoted .identifier schema :: _ =>
    some (String.ofList schema, String.ofList table)
  | _ => none

/-- Not blank, without double quotes and surrounding white space. -/
structure TableName (name : String) : Prop where
  given : name ≠ ""
  trimmed : trimSpace name = name
  unquoted : '"' ∉ name.toList

theorem TableName.notBlank {name : String} (isName : TableName name) : isBlank name = false := by
  rw [isBlank, isName.trimmed]
  exact beq_false_of_ne isName.given

def structureQueries (schemaSQL : DbIpc.SchemaSQL) :
    List (Option (DbIpc.Config → String → String → String → String)) :=
  [schemaSQL.columns, schemaSQL.indexes, schemaSQL.foreignKeys, schemaSQL.dumpDDL]

section Spec

variable {World : Type} (spec : DbIpc.DriverSpec World) (database schema table : String)

def Asks (names : Option (String × String)) : Prop :=
  ∀ query ∈ structureQueries spec.schemaSQL, ∃ sql, query = some sql ∧
    ∀ config, asked (sql config database schema table) = names

def SameTable : Prop :=
  Asks spec database schema table
    (denoted (DbIpc.qualifiedTableName spec database schema table))

end Spec

/-! ## What the queries ask for -/

theorem literals_append (first second : List Token) :
    literals (first ++ second) = literals first ++ literals second := List.filterMap_append

theorem literals_quoted (contents : Chars) (read : List Token) :
    literals (.quoted .literal contents :: read) = contents :: literals read := rfl

section Upper

variable (upper : Char → Char)

def upperText (name : String) : String := String.ofList (name.toList.map upper)

theorem upperEscape_doubled {name : String} (isName : TableName name) :
    (upperEscapeSQL upper name).toList = doubled '\'' (name.toList.map upper) := by
  rw [upperEscapeSQL, escapeSQL_doubled, isName.trimmed, String.toList_ofList]

-- Two names with fixed texts around them, the last two without literals.
theorem asked_of_two {schema table : String} (schemaName : TableName schema)
    (tableName : TableName table) {before between behind : String}
    (checked : checkedPieces standard [.text before, .name '\'' (upperEscapeSQL upper table),
      .text between, .name '\'' (upperEscapeSQL upper schema), .text behind] = true)
    (noneBetween : literals (tokens standard between.toList) = [])
    (noneBehind : literals (tokens standard behind.toList) = []) :
    asked (queryText [.text before, .name '\'' (upperEscapeSQL upper table),
      .text between, .name '\'' (upperEscapeSQL upper schema), .text behind]) =
        some (upperText upper schema, upperText upper table) := by
  have read := tokens_spelled ordinary_standard (framed_of_checked checked)
    (.text (.name rfl (upperEscape_doubled upper tableName) (Or.inl rfl)
      (.text (.name rfl (upperEscape_doubled upper schemaName) (Or.inl rfl) (.text .nil)))))
  rw [asked, queryText, String.toList_ofList, read]
  simp only [literals_append, literals_quoted, noneBetween, noneBehind, List.reverse_append,
    List.reverse_cons, List.nil_append, List.append_nil, upperText]
  rfl

theorem trimMatches_none {matching : Char → Bool} {text : Chars}
    (none : ∀ char ∈ text, matching char = false) : trimMatches matching text = text := by
  have kept (chars : Chars) (noneHere : ∀ char ∈ chars, matching char = false) :
      chars.dropWhile matching = chars := by
    cases chars with
    | nil => rfl
    | cons char rest => simp [noneHere char List.mem_cons_self]
  rw [trimMatches, kept text none, kept text.reverse, List.reverse_reverse]
  intro char member
  exact none char (List.mem_reverse.mp member)

theorem stripIdentifierQuotes_name {name : String} (isName : TableName name) :
    stripIdentifierQuotes name = name := by
  rw [stripIdentifierQuotes, trimMark, isName.trimmed, trimMatches_none, String.ofList_toList]
  intro char member
  exact beq_false_of_ne fun isQuote => isName.unquoted (isQuote ▸ member)

theorem ownerAndTable_names {schema table : String} (schemaName : TableName schema)
    (tableName : TableName table) (database : String) :
    ownerAndTable database schema table = (schema, table) := by
  rw [ownerAndTable, owner, schemaName.notBlank, tableName.trimmed]
  simp only [Bool.false_eq_true, if_false, if_neg schemaName.given,
    stripIdentifierQuotes_name schemaName, stripIdentifierQuotes_name tableName]

theorem checked_query (query : Request → Query) (member : query ∈ oracleQueries upper)
    (database schema table : String) :
    checkedPieces standard (query ⟨"", database, schema, table, []⟩) = true :=
  oracle_checked upper _ query member

section Names

variable {schema table : String} (schemaName : TableName schema) (tableName : TableName table)
  (database : String)

include schemaName tableName

theorem asked_columns : asked (queryText (columnsSQL upper database schema table)) =
    some (upperText upper schema, upperText upper table) := by
  have checked := checked_query upper (fun r => columnsSQL upper r.database r.schema r.table)
    (by simp [oracleQueries, Oracle.oracleColumnsSQL]) database schema table
  simp only [columnsSQL, ownerAndTable_names schemaName tableName, ownerFilter, ne_eq,
    schemaName.given, not_false_eq_true, if_true, List.cons_append, List.nil_append] at checked ⊢
  refine asked_of_two upper schemaName tableName checked ?_ ?_
  all_goals
    repeat rw [String.toList_ofList]
    decide +kernel

theorem asked_indexes : asked (queryText (indexesSQL upper database schema table)) =
    some (upperText upper schema, upperText upper table) := by
  have checked := checked_query upper (fun r => indexesSQL upper r.database r.schema r.table)
    (by simp [oracleQueries, Oracle.oracleIndexesSQL]) database schema table
  simp only [indexesSQL, ownerAndTable_names schemaName tableName, ownerFilter, ne_eq,
    schemaName.given, not_false_eq_true, if_true, List.cons_append, List.nil_append] at checked ⊢
  refine asked_of_two upper schemaName tableName checked ?_ ?_
  all_goals
    try rw [String.toList_append]
    repeat rw [String.toList_ofList]
    decide +kernel

theorem asked_foreignKeys : asked (queryText (foreignKeysSQL upper database schema table)) =
    some (upperText upper schema, upperText upper table) := by
  have checked := checked_query upper (fun r => foreignKeysSQL upper r.database r.schema r.table)
    (by simp [oracleQueries, Oracle.oracleForeignKeysSQL]) database schema table
  simp only [foreignKeysSQL, ownerAndTable_names schemaName tableName, ownerFilter, ne_eq,
    schemaName.given, not_false_eq_true, if_true, List.cons_append, List.nil_append] at checked ⊢
  refine asked_of_two upper schemaName tableName checked ?_ ?_
  all_goals
    try rw [String.toList_append]
    repeat rw [String.toList_ofList]
    decide +kernel

theorem asked_dumpDDL : asked (queryText (dumpDDL upper database schema table)) =
    some (upperText upper schema, upperText upper table) := by
  have checked := checked_query upper (fun r => dumpDDL upper r.database r.schema r.table)
    (by simp [oracleQueries, Oracle.oracleDumpDDL]) database schema table
  simp only [dumpDDL, ownerAndTable_names schemaName tableName, if_neg schemaName.given]
    at checked ⊢
  refine asked_of_two upper schemaName tableName checked ?_ ?_
  all_goals
    repeat rw [String.toList_ofList]
    decide +kernel

theorem oracle_asks {World : Type} (buildDSN : DbIpc.Config → Except String String) :
    Asks (Oracle.spec upper buildDSN : DbIpc.DriverSpec World) database schema table
      (some (upperText upper schema, upperText upper table)) := by
  simp only [Asks, structureQueries, List.forall_mem_cons, List.not_mem_nil, false_imp_iff,
    implies_true, and_true]
  exact ⟨⟨_, rfl, fun _ => asked_columns upper schemaName tableName database⟩,
    ⟨_, rfl, fun _ => asked_indexes upper schemaName tableName database⟩,
    ⟨_, rfl, fun _ => asked_foreignKeys upper schemaName tableName database⟩,
    ⟨_, rfl, fun _ => asked_dumpDDL upper schemaName tableName database⟩⟩

theorem dm_asks {World : Type} (buildDSN : DbIpc.Config → Except String String) :
    Asks (Dm.spec upper buildDSN : DbIpc.DriverSpec World) database schema table
      (some (upperText upper schema, upperText upper table)) := by
  simp only [Asks, structureQueries, List.forall_mem_cons, List.not_mem_nil, false_imp_iff,
    implies_true, and_true]
  exact ⟨⟨_, rfl, fun _ => asked_columns upper schemaName tableName database⟩,
    ⟨_, rfl, fun _ => asked_indexes upper schemaName tableName database⟩,
    ⟨_, rfl, fun _ => asked_foreignKeys upper schemaName tableName database⟩,
    ⟨_, rfl, fun _ => asked_dumpDDL upper schemaName tableName database⟩⟩

end Names

end Upper

/-! ## What the qualified name denotes -/

section Spec

variable {World : Type} {spec : DbIpc.DriverSpec World}

structure DoubleQuotes (spec : DbIpc.DriverSpec World) : Prop where
  left : spec.identifierQuoteLeft = "\""
  right : spec.identifierQuoteRight = "\""

theorem DoubleQuotes.toQuotes (quotes : DoubleQuotes spec) : DbIpc.QuotedNames.Quotes spec '"' '"' where
  effective := by
    have given : ("\"" : String) ≠ "" := by decide
    simp only [DbIpc.QuotedNames.effectiveQuotes, quotes.left, quotes.right, given, false_and, if_false]

theorem tokens_quoteIdentifier (quotes : DoubleQuotes spec) (name : String) {rest : Chars}
    (apart : ∀ char ∈ rest.head?, char ≠ '"') :
    tokens standard ((quoteIdentifier spec name).toList ++ rest) =
      .quoted .identifier name.toList :: tokens standard rest := by
  rw [DbIpc.QuotedNames.quoteIdentifier_chars quotes.toQuotes, List.cons_append, List.append_assoc]
  exact tokens_name rfl (by decide) (Or.inl rfl) apart

theorem tokens_dot (rest : Chars) :
    tokens standard ('.' :: rest) = .symbol '.' :: tokens standard rest := rfl

theorem tokens_last (quotes : DoubleQuotes spec) (schema table : String) :
    tokens standard (quoteIdentifier spec schema ++ "." ++ quoteIdentifier spec table).toList =
        [.quoted .identifier schema.toList, .symbol '.', .quoted .identifier table.toList] := by
  have dot : ".".toList = ['.'] := rfl
  have last := tokens_quoteIdentifier quotes table
    (show ∀ char ∈ ([] : Chars).head?, char ≠ '"' by simp)
  rw [List.append_nil] at last
  rw [String.toList_append, String.toList_append, dot, List.append_assoc, List.cons_append,
    List.nil_append, tokens_quoteIdentifier quotes schema (by simp), tokens_dot, last]
  rfl

theorem denoted_qualified (quotes : DoubleQuotes spec) {schema table : String}
    (schemaName : TableName schema) (tableName : TableName table) (database : String) :
    denoted (qualifiedTableName spec database schema table) = some (schema, table) := by
  have last := tokens_last quotes schema table
  by_cases blank : isBlank database = true
  · have name : qualifiedTableName spec database schema table =
        quoteIdentifier spec schema ++ "." ++ quoteIdentifier spec table := by
      simp [qualifiedTableName, blank, schemaName.notBlank, tableName.notBlank]
    rw [denoted, name, last]
    simp
  · have name : qualifiedTableName spec database schema table =
        quoteIdentifier spec database ++ "." ++
          (quoteIdentifier spec schema ++ "." ++ quoteIdentifier spec table) := by
      simp [qualifiedTableName, blank, schemaName.notBlank, tableName.notBlank]
    have dot : ".".toList = ['.'] := rfl
    rw [denoted, name, String.toList_append, String.toList_append, dot, List.append_assoc,
      List.cons_append, List.nil_append, tokens_quoteIdentifier quotes database (by simp),
      tokens_dot, last]
    simp

end Spec

/-! ## One table -/

theorem asks_unique {World : Type} {spec : DbIpc.DriverSpec World}
    {database schema table : String} {names : Option (String × String)}
    (asks : Asks spec database schema table names) (config : DbIpc.Config)
    (others : Option (String × String)) :
    Asks spec database schema table others ↔ names = others := by
  constructor
  · intro asksOthers
    obtain ⟨sql, isSql, first⟩ := asks spec.schemaSQL.columns List.mem_cons_self
    obtain ⟨other, isOther, second⟩ := asksOthers spec.schemaSQL.columns List.mem_cons_self
    have same : sql = other := Option.some.inj (isSql.symm.trans isOther)
    rw [← first config, ← second config, same]
  · rintro rfl
    exact asks

/-- The queries of both drivers ask for the upper case of the names and the DDL builder
names the table as it is, so they mean one table exactly if both names are upper case. -/
theorem same_table_iff_upper {World : Type} (upper : Char → Char)
    (buildOracle buildDm : DbIpc.Config → Except String String) (database : String)
    {schema table : String} (schemaName : TableName schema) (tableName : TableName table)
    (spec : DbIpc.DriverSpec World)
    (driver : spec ∈ [Oracle.spec upper buildOracle, Dm.spec upper buildDm]) :
    Asks spec database schema table
        (some (upperText upper schema, upperText upper table)) ∧
      denoted (DbIpc.qualifiedTableName spec database schema table) = some (schema, table) ∧
      (SameTable spec database schema table ↔
        upperText upper schema = schema ∧ upperText upper table = table) := by
  have config : DbIpc.Config := ⟨"", 0, "", "", "", "", "", "", []⟩
  have both : Asks spec database schema table
      (some (upperText upper schema, upperText upper table)) ∧ DoubleQuotes spec := by
    rcases List.mem_cons.mp driver with rfl | isDm
    · exact ⟨oracle_asks upper schemaName tableName database buildOracle, rfl, rfl⟩
    · rw [List.mem_singleton.mp isDm]
      exact ⟨dm_asks upper schemaName tableName database buildDm, rfl, rfl⟩
  obtain ⟨asks, quotes⟩ := both
  have names := denoted_qualified quotes schemaName tableName database
  refine ⟨asks, names, ?_⟩
  rw [SameTable, names, asks_unique asks config, Option.some.injEq, Prod.mk.injEq]

theorem tableName_letters {name : String} (given : name ≠ "") (trimmed : trimSpace name = name)
    (unquoted : name.toList.all (· != '"') = true) : TableName name where
  given := given
  trimmed := trimmed
  unquoted member := by simpa using List.all_eq_true.mp unquoted _ member

theorem upper_names_same_table :
    SameTable (Oracle.spec Char.toUpper fun _ => .ok "" : DbIpc.DriverSpec Unit) "" "APP"
      "ORDER ITEMS" := by
  have schemaName : TableName "APP" := tableName_letters (by decide) (by decide) (by decide)
  have tableName : TableName "ORDER ITEMS" :=
    tableName_letters (by decide) (by decide) (by decide)
  have settled := same_table_iff_upper Char.toUpper (fun _ => .ok "") (fun _ => .ok "") ""
    schemaName tableName (Oracle.spec Char.toUpper fun _ => .ok "" : DbIpc.DriverSpec Unit)
    List.mem_cons_self
  exact settled.2.2.mpr ⟨by decide, by decide⟩

/-- A table `demo` of the schema `app` is reported under the name of another table. -/
theorem lower_case_lost :
    TableName "app" ∧ TableName "demo" ∧
      ¬SameTable (Oracle.spec Char.toUpper fun _ => .ok "" : DbIpc.DriverSpec Unit) "" "app"
        "demo" ∧
      ¬SameTable (Dm.spec Char.toUpper fun _ => .ok "" : DbIpc.DriverSpec Unit) "" "app"
        "demo" := by
  have schemaName : TableName "app" := tableName_letters (by decide) (by decide) (by decide)
  have tableName : TableName "demo" := tableName_letters (by decide) (by decide) (by decide)
  have config : DbIpc.Config := ⟨"", 0, "", "", "", "", "", "", []⟩
  have folded : upperText Char.toUpper "app" ≠ "app" := by decide
  refine ⟨schemaName, tableName, ?_, ?_⟩
  · rw [SameTable, denoted_qualified ⟨rfl, rfl⟩ schemaName tableName,
      asks_unique (oracle_asks Char.toUpper schemaName tableName "" fun _ => .ok "") config]
    intro same
    exact folded (Prod.mk.inj (Option.some.inj same)).1
  · rw [SameTable, denoted_qualified ⟨rfl, rfl⟩ schemaName tableName,
      asks_unique (dm_asks Char.toUpper schemaName tableName "" fun _ => .ok "") config]
    intro same
    exact folded (Prod.mk.inj (Option.some.inj same)).1

end Onetcli.Drivers
