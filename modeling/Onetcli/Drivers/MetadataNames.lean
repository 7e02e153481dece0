import Onetcli.Drivers.SchemaSql

/-!
Names in the metadata queries of four drivers. Where only the doubling of quotes
matters, no name changes the tokens of a query; in the MySQL mode of OceanBase a
backslash may take along the quote that ends the literal.
-/

namespace Onetcli.Drivers

open Chars Owner SqlTokens Text

/-- `fallback` is the database of the connection, `table` a table or a view. -/
structure Request where
  fallback : String
  database : String
  schema : String
  table : String
  kinds : List String

/-! ## The queries -/

def oceanBaseQueries : List (Request → Query) :=
  [fun _ => OceanBase.oceanbaseMySQLDatabasesSQL,
    fun _ => OceanBase.oceanbaseMySQLSchemasSQL,
    fun r => OceanBase.oceanbaseMySQLObjectsSQL r.fallback r.database r.schema r.kinds,
    fun r => OceanBase.oceanbaseMySQLColumnsSQL r.fallback r.database r.schema r.table,
    fun r => OceanBase.oceanbaseMySQLIndexesSQL r.fallback r.database r.schema r.table,
    fun r => OceanBase.oceanbaseMySQLForeignKeysSQL r.fallback r.database r.schema r.table,
    fun r => OceanBase.oceanbaseMySQLViewsSQL r.fallback r.database r.schema,
    fun r => OceanBase.oceanbaseMySQLFunctionsSQL r.fallback r.database r.schema,
    fun r => OceanBase.oceanbaseMySQLViewDefinitionSQL r.fallback r.database r.schema r.table,
    fun r => OceanBase.oceanbaseMySQLDumpDDL r.fallback r.database r.schema r.table]

def kingbaseQueries (c : Kingbase.CatalogNames) : List (Request → Query) :=
  [fun _ => Kingbase.databasesSQL c,
    fun _ => Kingbase.schemasSQL c,
    fun r => Kingbase.objectsSQL c r.schema r.kinds,
    fun r => Kingbase.columnsSQL c r.schema r.table,
    fun r => Kingbase.indexesSQL c r.schema r.table,
    fun r => Kingbase.foreignKeysSQL c r.schema r.table,
    fun r => Kingbase.viewsSQL c r.schema,
    fun r => Kingbase.functionsSQL c r.schema,
    fun r => Kingbase.viewDefinitionSQL c r.schema r.table,
    fun r => Kingbase.dumpDDL c r.schema r.table]

section Owner

variable (upper : Char → Char)

def oracleQueries : List (Request → Query) :=
  [fun _ => Oracle.oracleDatabasesSQL,
    fun _ => Oracle.oracleSchemasSQL,
    fun r => Oracle.oracleObjectsSQL upper r.database r.schema r.kinds,
    fun r => Oracle.oracleColumnsSQL upper r.database r.schema r.table,
    fun r => Oracle.oracleIndexesSQL upper r.database r.schema r.table,
    fun r => Oracle.oracleForeignKeysSQL upper r.database r.schema r.table,
    fun r => Oracle.oracleViewsSQL upper r.database r.schema,
    fun r => Oracle.oracleFunctionsSQL upper r.database r.schema,
    fun r => Oracle.oracleProceduresSQL upper r.database r.schema,
    fun r => Oracle.oracleTriggersSQL upper r.database r.schema r.table,
    fun r => Oracle.oracleSequencesSQL upper r.database r.schema,
    fun r => Oracle.oracleViewDefinitionSQL upper r.database r.schema r.table,
    fun r => Oracle.oracleDumpDDL upper r.database r.schema r.table]

def dmQueries : List (Request → Query) :=
  [fun _ => Dm.dmDatabasesSQL,
    fun _ => Dm.dmSchemasSQL,
    fun r => Dm.dmObjectsSQL upper r.database r.schema r.kinds,
    fun r => Dm.dmColumnsSQL upper r.database r.schema r.table,
    fun r => Dm.dmIndexesSQL upper r.database r.schema r.table,
    fun r => Dm.dmForeignKeysSQL upper r.database r.schema r.table,
    fun r => Dm.dmViewsSQL upper r.database r.schema,
    fun r => Dm.dmFunctionsSQL upper r.database r.schema,
    fun r => Dm.dmViewDefinitionSQL upper r.database r.schema r.table,
    fun r => Dm.dmDumpDDL upper r.database r.schema r.table]

end Owner

/-! ## Plain names -/

/-- Letters, digits and underscores; an empty name is one that is not given. -/
def plainName (name : String) : Bool :=
  name.toList.all fun char => isAsciiAlphanumeric char || char == '_'

structure Request.Plain (r : Request) : Prop where
  fallback : plainName r.fallback = true
  database : plainName r.database = true
  schema : plainName r.schema = true
  table : plainName r.table = true

/-- For some plain names the query has the tokens of a template, and for the names of
the request it has them too, except for what its name tokens contain. -/
def AsPlain (dialect : Dialect) (query : Request → Query) (r : Request) : Prop :=
  ∃ plain : Request, plain.Plain ∧ plain.kinds = r.kinds ∧
    Fits dialect (slots dialect (query plain)) (render (query plain)) ∧
    Fits dialect (slots dialect (query plain)) (render (query r))

theorem asPlain_of {dialect : Dialect} (ordinary : Ordinary dialect) {query : Request → Query}
    {r plain : Request} (checked : ∀ r, checkedPieces dialect (query r) = true)
    (isPlain : plain.Plain) (kinds : plain.kinds = r.kinds)
    (same : (query r).map Piece.erase = (query plain).map Piece.erase)
    (plainHeld : ∀ piece ∈ query plain, piece.Held dialect)
    (held : ∀ piece ∈ query r, piece.Held dialect) : AsPlain dialect query r := by
  refine ⟨plain, isPlain, kinds, ?_, ?_⟩
  · exact fits_framed ordinary (framed_of_checked (checked plain)) plainHeld
  · rw [← slots_eq same]
    exact fits_framed ordinary (framed_of_checked (checked r)) held

/-- No name breaks out of a query. -/
structure NamesContained (upper : Char → Char) (r : Request) : Prop where
  oceanBase : ∀ query ∈ oceanBaseQueries, AsPlain mysql query r
  kingbaseSys : ∀ query ∈ kingbaseQueries Kingbase.sysCatalogNames, AsPlain standard query r
  kingbasePg : ∀ query ∈ kingbaseQueries Kingbase.pgCatalogNames, AsPlain standard query r
  oracle : ∀ query ∈ oracleQueries upper, AsPlain standard query r
  dm : ∀ query ∈ dmQueries upper, AsPlain standard query r

/-! ## Oracle and DM -/

theorem held_text {dialect : Dialect} (words : String) : (Piece.text words).Held dialect := trivial

/-- Plain names that are given where those of a query are. -/
def namesOf (owner table : String) (kinds : List String) : Request where
  fallback := ""
  database := ""
  schema := if owner = "" then "" else "s"
  table := if table = "" then "" else "t"
  kinds := kinds

theorem namesOf_plain (owner table : String) (kinds : List String) :
    (namesOf owner table kinds).Plain := by
  have absent : plainName "" = true := by decide
  have isSchema : plainName "s" = true := by decide
  have isTable : plainName "t" = true := by decide
  refine ⟨absent, absent, ?_, ?_⟩
  · unfold namesOf
    dsimp only
    split
    · exact absent
    · exact isSchema
  · unfold namesOf
    dsimp only
    split
    · exact absent
    · exact isTable

theorem ownerAndTable_namesOf (owner table : String) (kinds : List String) :
    let plain := namesOf owner table kinds
    let names := ownerAndTable plain.database plain.schema plain.table
    (owner = "" ↔ names.1 = "") ∧ (table = "" ↔ names.2 = "") := by
  unfold namesOf
  split <;> split <;> rename_i first second <;>
    simp only [first, second, true_iff, false_iff] <;> decide

theorem owner_namesOf (given table : String) (kinds : List String) :
    let plain := namesOf given table kinds
    given = "" ↔ owner plain.database plain.schema = "" := by
  unfold namesOf
  split <;> rename_i first <;> simp only [first, true_iff, false_iff] <;> decide

section Owner

open Dm Oracle

variable (upper : Char → Char)

theorem erase_dumpDDL {r plain : Request}
    (same : (ownerAndTable r.database r.schema r.table).1 = "" ↔
      (ownerAndTable plain.database plain.schema plain.table).1 = "") :
    (dumpDDL upper r.database r.schema r.table).map Piece.erase =
      (dumpDDL upper plain.database plain.schema plain.table).map Piece.erase := by
  unfold dumpDDL
  by_cases missing : (ownerAndTable r.database r.schema r.table).1 = ""
  · simp only [if_pos missing, if_pos (same.mp missing), List.map_cons, Piece.erase, List.map_nil]
  · have given : ¬(ownerAndTable plain.database plain.schema plain.table).1 = "" :=
      fun empty => missing (same.mpr empty)
    simp only [if_neg missing, if_neg given, List.map_cons, Piece.erase, List.map_nil]

theorem erase_tableFilter {table other : String} (same : table = "" ↔ other = "") :
    (tableFilter upper table).map Piece.erase = (tableFilter upper other).map Piece.erase := by
  unfold tableFilter
  exact erase_filter same (by simp only [List.map_cons, Piece.erase, List.map_nil])

theorem oracle_checked (r : Request) : ∀ query ∈ oracleQueries upper,
    checkedPieces standard (query r) = true := by
  intro query member
  have kinds := oracleObjectTypeList_literals r.kinds
  simp only [oracleQueries, List.mem_cons, List.not_mem_nil, or_false] at member
  rcases member with rfl | rfl | rfl | rfl | rfl | rfl | rfl | rfl | rfl | rfl | rfl | rfl | rfl
  all_goals
    simp only [oracleDatabasesSQL, oracleSchemasSQL, oracleObjectsSQL, oracleColumnsSQL,
      oracleIndexesSQL, oracleForeignKeysSQL, oracleViewsSQL, oracleFunctionsSQL,
      oracleProceduresSQL, oracleTriggersSQL, oracleSequencesSQL, oracleViewDefinitionSQL,
      oracleDumpDDL, columnsSQL, indexesSQL, foreignKeysSQL, viewsSQL, viewDefinitionSQL, dumpDDL,
      ownerFilter, tableFilter]
    try split_ifs
  -- What is left are the fixed texts, which are checked by running over them.
  all_goals
    simp only [List.cons_append, List.nil_append, checkedPieces, firstChar, Bool.and_eq_true,
      String.toList_append, kinds.whole, kinds.front]
    repeat rw [String.toList_ofList]
    and_intros
  all_goals first | decide +kernel | rfl

theorem oracle_held (r : Request) : ∀ query ∈ oracleQueries upper,
    ∀ piece ∈ query r, piece.Held standard := by
  intro query member
  simp only [oracleQueries, List.mem_cons, List.not_mem_nil, or_false] at member
  rcases member with rfl | rfl | rfl | rfl | rfl | rfl | rfl | rfl | rfl | rfl | rfl | rfl | rfl
  all_goals
    simp only [oracleDatabasesSQL, oracleSchemasSQL, oracleObjectsSQL, oracleColumnsSQL,
      oracleIndexesSQL, oracleForeignKeysSQL, oracleViewsSQL, oracleFunctionsSQL,
      oracleProceduresSQL, oracleTriggersSQL, oracleSequencesSQL, oracleViewDefinitionSQL,
      oracleDumpDDL, columnsSQL, indexesSQL, foreignKeysSQL, viewsSQL, viewDefinitionSQL, dumpDDL,
      ownerFilter, tableFilter]
    try split_ifs
  all_goals
    simp only [List.cons_append, List.nil_append, List.forall_mem_cons, List.not_mem_nil,
      false_imp_iff, implies_true, held_text, held_upper, and_self]

theorem oracle_erased (r : Request) : ∀ query ∈ oracleQueries upper,
    ∃ plain : Request, plain.Plain ∧ plain.kinds = r.kinds ∧
      (query r).map Piece.erase = (query plain).map Piece.erase := by
  intro query member
  let names := ownerAndTable r.database r.schema r.table
  obtain ⟨sameOwner, sameTable⟩ := ownerAndTable_namesOf names.1 names.2 r.kinds
  have sameGiven := owner_namesOf (owner r.database r.schema) "" r.kinds
  have byName := namesOf_plain names.1 names.2 r.kinds
  have byOwner := namesOf_plain (owner r.database r.schema) "" r.kinds
  simp only [oracleQueries, List.mem_cons, List.not_mem_nil, or_false] at member
  rcases member with rfl | rfl | rfl | rfl | rfl | rfl | rfl | rfl | rfl | rfl | rfl | rfl | rfl
  · exact ⟨_, byOwner, rfl, rfl⟩
  · exact ⟨_, byOwner, rfl, rfl⟩
  · refine ⟨_, byOwner, rfl, ?_⟩
    simp only [oracleObjectsSQL, List.map_append, erase_ownerFilter upper _ sameGiven]
    rfl
  · refine ⟨_, byName, rfl, ?_⟩
    simp only [oracleColumnsSQL, columnsSQL, List.map_append, List.map_cons, Piece.erase]
    rw [erase_ownerFilter upper _ sameOwner]
  · refine ⟨_, byName, rfl, ?_⟩
    simp only [oracleIndexesSQL, indexesSQL, List.map_append, List.map_cons, Piece.erase]
    rw [erase_ownerFilter upper _ sameOwner]
  · refine ⟨_, byName, rfl, ?_⟩
    simp only [oracleForeignKeysSQL, foreignKeysSQL, List.map_append, List.map_cons, Piece.erase]
    rw [erase_ownerFilter upper _ sameOwner]
  · refine ⟨_, byOwner, rfl, ?_⟩
    simp only [oracleViewsSQL, viewsSQL, List.map_append]
    rw [erase_ownerFilter upper _ sameGiven]
  · refine ⟨_, byOwner, rfl, ?_⟩
    simp only [oracleFunctionsSQL, List.map_append]
    rw [erase_ownerFilter upper _ sameGiven]
  · refine ⟨_, byOwner, rfl, ?_⟩
    simp only [oracleProceduresSQL, List.map_append]
    rw [erase_ownerFilter upper _ sameGiven]
  · refine ⟨_, byName, rfl, ?_⟩
    simp only [oracleTriggersSQL, List.map_append]
    rw [erase_ownerFilter upper _ sameOwner, erase_tableFilter upper sameTable]
  · refine ⟨_, byOwner, rfl, ?_⟩
    simp only [oracleSequencesSQL, List.map_append]
    rw [erase_ownerFilter upper _ sameGiven]
  · refine ⟨_, byName, rfl, ?_⟩
    simp only [oracleViewDefinitionSQL, viewDefinitionSQL, List.map_append, List.map_cons,
      Piece.erase]
    rw [erase_ownerFilter upper _ sameOwner]
  · exact ⟨_, byName, rfl, erase_dumpDDL upper sameOwner⟩

theorem oracle_asPlain (r : Request) : ∀ query ∈ oracleQueries upper, AsPlain standard query r := by
  intro query member
  obtain ⟨plain, isPlain, kinds, same⟩ := oracle_erased upper r query member
  exact asPlain_of ordinary_standard (fun r => oracle_checked upper r query member) isPlain kinds
    same (oracle_held upper plain query member) (oracle_held upper r query member)

/-- The queries that DM does not share with Oracle. -/
def dmOwnQueries : List (Request → Query) :=
  [fun _ => dmDatabasesSQL, fun _ => dmSchemasSQL,
    fun r => dmObjectsSQL upper r.database r.schema r.kinds,
    fun r => dmFunctionsSQL upper r.database r.schema]

theorem dm_shared {query : Request → Query} (member : query ∈ dmQueries upper) :
    query ∈ oracleQueries upper ∨ query ∈ dmOwnQueries upper := by
  simp only [dmQueries, List.mem_cons, List.not_mem_nil, or_false] at member
  have shared (i : Nat) (found : (oracleQueries upper)[i]? = some query) := List.mem_of_getElem? found
  have own (i : Nat) (found : (dmOwnQueries upper)[i]? = some query) := List.mem_of_getElem? found
  rcases member with rfl | rfl | rfl | rfl | rfl | rfl | rfl | rfl | rfl | rfl
  exacts [.inr (own 0 rfl), .inr (own 1 rfl), .inr (own 2 rfl), .inl (shared 3 rfl),
    .inl (shared 4 rfl), .inl (shared 5 rfl), .inl (shared 6 rfl), .inr (own 3 rfl),
    .inl (shared 11 rfl), .inl (shared 12 rfl)]

theorem dm_checked (r : Request) : ∀ query ∈ dmOwnQueries upper,
    checkedPieces standard (query r) = true := by
  intro query member
  simp only [dmOwnQueries, List.mem_cons, List.not_mem_nil, or_false] at member
  rcases member with rfl | rfl | rfl | rfl
  case inr.inr.inl =>
    rcases dmKindFilter_cases r.kinds with none | never | ⟨list, kinds, some⟩
    all_goals
      simp only [dmObjectsSQL, ownerFilter, *]
      split_ifs
    all_goals
      simp only [List.cons_append, List.nil_append, List.append_nil, checkedPieces, firstChar,
        Bool.and_eq_true, String.toList_append]
      try simp only [kinds.whole, kinds.front]
      repeat rw [String.toList_ofList]
      and_intros
    all_goals first | decide +kernel | rfl
  all_goals
    simp only [dmDatabasesSQL, dmSchemasSQL, dmFunctionsSQL, ownerFilter]
    try split_ifs
  all_goals
    simp only [List.cons_append, List.nil_append, checkedPieces, firstChar, Bool.and_eq_true]
    repeat rw [String.toList_ofList]
    and_intros
  all_goals decide +kernel

theorem dm_held (r : Request) : ∀ query ∈ dmOwnQueries upper,
    ∀ piece ∈ query r, piece.Held standard := by
  intro query member
  simp only [dmOwnQueries, List.mem_cons, List.not_mem_nil, or_false] at member
  rcases member with rfl | rfl | rfl | rfl
  all_goals
    simp only [dmDatabasesSQL, dmSchemasSQL, dmObjectsSQL, dmFunctionsSQL, ownerFilter,
      dmKindFilter]
    try split_ifs
  all_goals
    simp only [List.cons_append, List.nil_append, List.forall_mem_cons, List.not_mem_nil,
      false_imp_iff, implies_true, held_text, held_upper, and_self]

theorem dm_erased (r : Request) : ∀ query ∈ dmOwnQueries upper,
    (query r).map Piece.erase =
      (query (namesOf (owner r.database r.schema) "" r.kinds)).map Piece.erase := by
  intro query member
  have same := owner_namesOf (owner r.database r.schema) "" r.kinds
  simp only [dmOwnQueries, List.mem_cons, List.not_mem_nil, or_false] at member
  rcases member with rfl | rfl | rfl | rfl
  · rfl
  · rfl
  · simp only [dmObjectsSQL, List.map_append, erase_ownerFilter upper _ same]
    rfl
  · simp only [dmFunctionsSQL, List.map_append]
    rw [erase_ownerFilter upper _ same]

theorem dm_asPlain (r : Request) : ∀ query ∈ dmQueries upper, AsPlain standard query r := by
  intro query member
  rcases dm_shared upper member with shared | own
  · exact oracle_asPlain upper r query shared
  · exact asPlain_of ordinary_standard (fun r => dm_checked upper r query own)
      (namesOf_plain _ "" r.kinds) rfl (dm_erased upper r query own) (dm_held upper _ query own)
      (dm_held upper r query own)

end Owner

/-! ## Kingbase -/

section Kingbase

variable {c : Kingbase.CatalogNames}

theorem kingbase_checked (known : c = Kingbase.sysCatalogNames ∨ c = Kingbase.pgCatalogNames)
    (r : Request) : ∀ query ∈ kingbaseQueries c, checkedPieces standard (query r) = true := by
  intro query member
  have kinds := Kingbase.kingbaseRelkindList_literals r.kinds
  simp only [kingbaseQueries, List.mem_cons, List.not_mem_nil, or_false] at member
  rcases known with rfl | rfl
  all_goals
    rcases member with rfl | rfl | rfl | rfl | rfl | rfl | rfl | rfl | rfl | rfl
  all_goals
    simp only [Kingbase.databasesSQL, Kingbase.schemasSQL, Kingbase.objectsSQL, Kingbase.columnsSQL,
      Kingbase.indexesSQL, Kingbase.foreignKeysSQL, Kingbase.viewsSQL, Kingbase.functionsSQL,
      Kingbase.viewDefinitionSQL, Kingbase.dumpDDL, Kingbase.schemaFilter, Kingbase.sysCatalogNames,
      Kingbase.pgCatalogNames]
    try split_ifs
  all_goals
    simp only [List.cons_append, List.nil_append, List.append_nil, checkedPieces, firstChar,
      Bool.and_eq_true, String.toList_append, kinds.whole, kinds.front]
    repeat rw [String.toList_ofList]
    and_intros
  all_goals first | decide +kernel | rfl

theorem kingbase_held (r : Request) : ∀ query ∈ kingbaseQueries c,
    ∀ piece ∈ query r, piece.Held standard := by
  intro query member
  simp only [kingbaseQueries, List.mem_cons, List.not_mem_nil, or_false] at member
  rcases member with rfl | rfl | rfl | rfl | rfl | rfl | rfl | rfl | rfl | rfl
  all_goals
    simp only [Kingbase.databasesSQL, Kingbase.schemasSQL, Kingbase.objectsSQL, Kingbase.columnsSQL,
      Kingbase.indexesSQL, Kingbase.foreignKeysSQL, Kingbase.viewsSQL, Kingbase.functionsSQL,
      Kingbase.viewDefinitionSQL, Kingbase.dumpDDL, Kingbase.schemaFilter]
    try split_ifs
  all_goals
    simp only [List.cons_append, List.nil_append, List.append_nil, List.forall_mem_cons,
      List.not_mem_nil, false_imp_iff, implies_true, held_text, held_escape, and_self]

theorem erase_schemaFilter (condition : String) {schema other : String}
    (same : schema = "" ↔ other = "") : (Kingbase.schemaFilter condition schema).map Piece.erase =
      (Kingbase.schemaFilter condition other).map Piece.erase := by
  unfold Kingbase.schemaFilter
  exact erase_filter same (by simp only [List.map_cons, Piece.erase, List.map_nil])

theorem kingbase_erased (r : Request) : ∀ query ∈ kingbaseQueries c,
    (query r).map Piece.erase = (query (namesOf r.schema "t" r.kinds)).map Piece.erase := by
  intro query member
  have same : r.schema = "" ↔ (namesOf r.schema "t" r.kinds).schema = "" := by
    unfold namesOf
    dsimp only
    split
    · rename_i missing
      simp [missing]
    · rename_i given
      simp [given]
  simp only [kingbaseQueries, List.mem_cons, List.not_mem_nil, or_false] at member
  rcases member with rfl | rfl | rfl | rfl | rfl | rfl | rfl | rfl | rfl | rfl
  · rfl
  · rfl
  all_goals
    simp only [Kingbase.objectsSQL, Kingbase.columnsSQL, Kingbase.indexesSQL,
      Kingbase.foreignKeysSQL, Kingbase.viewsSQL, Kingbase.functionsSQL, Kingbase.viewDefinitionSQL,
      Kingbase.dumpDDL, List.map_append, List.map_cons, Piece.erase]
    rw [erase_schemaFilter _ same]
  rfl

theorem kingbase_asPlain (known : c = Kingbase.sysCatalogNames ∨ c = Kingbase.pgCatalogNames)
    (r : Request) : ∀ query ∈ kingbaseQueries c, AsPlain standard query r := by
  intro query member
  exact asPlain_of ordinary_standard (fun r => kingbase_checked known r query member)
    (namesOf_plain r.schema "t" r.kinds) rfl (kingbase_erased r query member)
    (kingbase_held _ query member) (kingbase_held r query member)

end Kingbase

/-! ## OceanBase -/

open OceanBase

/-- The names of a request as the literals of its queries carry them. -/
structure Request.Keeps (r : Request) : Prop where
  catalog : keepsQuote '\'' (mysqlCatalog r.database r.schema r.fallback).toList = true
  table : keepsQuote '\'' r.table.toList = true

theorem held_mysql {value : String} (keeps : keepsQuote '\'' value.toList = true) :
    (Piece.name '\'' (escapeSQL value)).Held mysql :=
  ⟨value.toList, escapeSQL_doubled value, Or.inr keeps⟩

theorem held_backtick (value : String) : (Piece.name '`' (escapeBacktick value)).Held mysql := by
  refine ⟨value.toList, ?_, Or.inl rfl⟩
  rw [escapeBacktick, replaceAll, String.toList_ofList]
  exact replaceFrom_doubled '`' value.toList

theorem oceanBase_checked (r : Request) : ∀ query ∈ oceanBaseQueries,
    checkedPieces mysql (query r) = true := by
  intro query member
  simp only [oceanBaseQueries, List.mem_cons, List.not_mem_nil, or_false] at member
  rcases member with rfl | rfl | rfl | rfl | rfl | rfl | rfl | rfl | rfl | rfl
  case inr.inr.inl =>
    rcases mysqlKindFilter_cases r.kinds with none | never | ⟨list, kinds, some⟩
    all_goals
      simp only [oceanbaseMySQLObjectsSQL, List.cons_append, List.nil_append, List.append_nil,
        checkedPieces, firstChar, Bool.and_eq_true, String.toList_append, *]
      try simp only [kinds.whole, kinds.front]
      repeat rw [String.toList_ofList]
      and_intros
    all_goals first | decide +kernel | rfl
  all_goals
    simp only [oceanbaseMySQLDatabasesSQL, oceanbaseMySQLSchemasSQL, oceanbaseMySQLColumnsSQL,
      oceanbaseMySQLIndexesSQL, oceanbaseMySQLForeignKeysSQL, oceanbaseMySQLViewsSQL,
      oceanbaseMySQLFunctionsSQL, oceanbaseMySQLViewDefinitionSQL, oceanbaseMySQLDumpDDL,
      checkedPieces, firstChar, Bool.and_eq_true, String.toList_append]
    repeat rw [String.toList_ofList]
    and_intros
  all_goals decide +kernel

theorem held_mysqlKindFilter (kinds : List String) :
    ∀ piece ∈ mysqlKindFilter kinds, piece.Held mysql := by
  rcases mysqlKindFilter_cases kinds with none | never | ⟨list, literals, some⟩
  all_goals
    simp only [*, List.forall_mem_cons, List.not_mem_nil, false_imp_iff, implies_true, held_text,
      and_self]

theorem oceanBase_held {r : Request} (keeps : r.Keeps) : ∀ query ∈ oceanBaseQueries,
    ∀ piece ∈ query r, piece.Held mysql := by
  intro query member
  have catalog := held_mysql keeps.catalog
  have table := held_mysql keeps.table
  simp only [oceanBaseQueries, List.mem_cons, List.not_mem_nil, or_false] at member
  rcases member with rfl | rfl | rfl | rfl | rfl | rfl | rfl | rfl | rfl | rfl
  case inr.inr.inl =>
    simp only [oceanbaseMySQLObjectsSQL, List.forall_mem_append, List.forall_mem_cons,
      List.not_mem_nil, false_imp_iff, implies_true, held_text, catalog, and_self, true_and,
      and_true]
    exact held_mysqlKindFilter r.kinds
  all_goals
    simp only [oceanbaseMySQLDatabasesSQL, oceanbaseMySQLSchemasSQL, oceanbaseMySQLColumnsSQL,
      oceanbaseMySQLIndexesSQL, oceanbaseMySQLForeignKeysSQL, oceanbaseMySQLViewsSQL,
      oceanbaseMySQLFunctionsSQL, oceanbaseMySQLViewDefinitionSQL, oceanbaseMySQLDumpDDL,
      List.forall_mem_cons, List.not_mem_nil, false_imp_iff, implies_true, held_text, held_backtick,
      catalog, table, and_self]

def plainRequest (kinds : List String) : Request := ⟨"", "", "s", "t", kinds⟩

theorem plainRequest_plain (kinds : List String) : (plainRequest kinds).Plain := by
  have absent : plainName "" = true := by decide
  have isSchema : plainName "s" = true := by decide
  have isTable : plainName "t" = true := by decide
  exact ⟨absent, absent, isSchema, isTable⟩

theorem oceanBase_erased (r : Request) : ∀ query ∈ oceanBaseQueries,
    (query r).map Piece.erase = (query (plainRequest r.kinds)).map Piece.erase := by
  intro query member
  simp only [oceanBaseQueries, List.mem_cons, List.not_mem_nil, or_false] at member
  rcases member with rfl | rfl | rfl | rfl | rfl | rfl | rfl | rfl | rfl | rfl
  · rfl
  · rfl
  all_goals
    simp only [oceanbaseMySQLObjectsSQL, oceanbaseMySQLColumnsSQL, oceanbaseMySQLIndexesSQL,
      oceanbaseMySQLForeignKeysSQL, oceanbaseMySQLViewsSQL, oceanbaseMySQLFunctionsSQL,
      oceanbaseMySQLViewDefinitionSQL, oceanbaseMySQLDumpDDL, List.map_append, List.map_cons,
      List.map_nil, Piece.erase, plainRequest]

theorem plainRequest_keeps (kinds : List String) : (plainRequest kinds).Keeps := by
  have catalog : keepsQuote '\'' (mysqlCatalog "" "s" "").toList = true := by decide
  have table : keepsQuote '\'' "t".toList = true := by decide
  exact ⟨catalog, table⟩

theorem oceanBase_asPlain {r : Request} (keeps : r.Keeps) :
    ∀ query ∈ oceanBaseQueries, AsPlain mysql query r := by
  intro query member
  exact asPlain_of ordinary_mysql (fun r => oceanBase_checked r query member)
    (plainRequest_plain r.kinds) rfl (oceanBase_erased r query member)
    (oceanBase_held (plainRequest_keeps r.kinds) query member) (oceanBase_held keeps query member)

theorem keeps_of_columns {r : Request}
    (asPlain : AsPlain mysql (fun r => oceanbaseMySQLColumnsSQL r.fallback r.database
      r.schema r.table) r) : r.Keeps := by
  obtain ⟨plain, _, _, _, fits⟩ := asPlain
  have member : (fun r : Request => oceanbaseMySQLColumnsSQL r.fallback r.database
      r.schema r.table) ∈ oceanBaseQueries := by simp [oceanBaseQueries]
  have framed := framed_of_checked (oceanBase_checked plain _ member)
  have calmName (value : String) : (Piece.name '\'' (escapeSQL value)).Calm :=
    ⟨rfl, value.toList, escapeSQL_doubled value⟩
  have isCalm : ∀ piece ∈ oceanbaseMySQLColumnsSQL r.fallback r.database r.schema
      r.table, piece.Calm := by
    simp only [oceanbaseMySQLColumnsSQL, List.forall_mem_cons, List.not_mem_nil, false_imp_iff,
      implies_true, and_true]
    refine ⟨?_, calmName _, ?_, calmName _, ?_⟩
    all_goals
      simp only [Piece.Calm, String.toList_append]
      repeat rw [String.toList_ofList]
      and_intros
    all_goals decide +kernel
  have none := no_escape_of_fits ordinary_mysql rfl framed isCalm fits
  have keeps {value : String} (present : Piece.name '\'' (escapeSQL value) ∈
      oceanbaseMySQLColumnsSQL r.fallback r.database r.schema r.table) :
      keepsQuote '\'' value.toList = true := by
    by_contra leaves
    exact none _ present ⟨value.toList, escapeSQL_doubled value, by simpa using leaves⟩
  exact ⟨keeps (by simp [oceanbaseMySQLColumnsSQL]),
    keeps (by simp [oceanbaseMySQLColumnsSQL])⟩

/-! ## All four drivers -/

theorem names_contained_iff (upper : Char → Char) (r : Request) :
    NamesContained upper r ↔ r.Keeps := by
  constructor
  · intro contained
    exact keeps_of_columns (contained.oceanBase _ (by simp [oceanBaseQueries]))
  · intro keeps
    exact ⟨oceanBase_asPlain keeps, kingbase_asPlain (Or.inl rfl) r,
      kingbase_asPlain (Or.inr rfl) r, oracle_asPlain upper r, dm_asPlain upper r⟩

/-- A schema name that ends with a backslash takes its closing quote along. -/
theorem backslash_breaks_out : ¬NamesContained Char.toUpper ⟨"", "", "a\\", "t", []⟩ := by
  intro contained
  have keeps := keeps_of_columns (contained.oceanBase _ (by simp [oceanBaseQueries]))
  exact absurd keeps.catalog (by decide)

end Onetcli.Drivers
