import Onetcli.DbIpc.Data
import Onetcli.DbIpc.AlterTarget
import Onetcli.OpenGauss.Ddl
import Onetcli.DuckDb.Ddl

/-!
The columns that `data/export` reads from a table. The DuckDB driver asks the
database for the columns of the table and filters them; the Go runtime and the
openGauss driver fall back to `*` when no column is requested or every requested
one is excluded.
-/

namespace Onetcli.ExportColumns

open Text

/-- The columns an export was asked for. -/
def requested (tableColumns includeColumns excludeColumns : List String) : List String :=
  (if includeColumns = [] then tableColumns else includeColumns).filter (· ∉ excludeColumns)

theorem requested_not_excluded (tableColumns includeColumns excludeColumns : List String) :
    ∀ name ∈ requested tableColumns includeColumns excludeColumns, name ∉ excludeColumns := by
  intro name member
  simpa using (List.mem_filter.mp member).2

/-- The protocol's parameters of `data/export` that decide the statement. -/
structure ExportParams where
  table : Option String := none
  schema : Option String := none
  database : Option String := none
  sql : Option String := none
  whereClause : Option String := none
  includeColumns : List String := []
  excludeColumns : List String := []

def notBlank (value : Option String) : Option String := value.filter (!isBlank ·)

/-- An export query of a Rust driver: a given query, a selection from a table, or a
projection of either. -/
inductive ExportQuery where
  | raw (sql : String)
  | select (projection : DbIpc.Projection) (table : String) (whereClause : Option String)
  | project (columns : List String) (source : ExportQuery)
  deriving DecidableEq

def ExportQuery.text (quoteIdentifier : String → String) : ExportQuery → String
  | .raw sql => sql
  | .select projection table whereClause =>
    let columns := match projection with
      | .star => "*"
      | .columns names => String.intercalate ", " (names.map quoteIdentifier)
    let condition := match notBlank whereClause with
      | some condition => " WHERE " ++ condition
      | none => ""
    "SELECT " ++ columns ++ " FROM " ++ table ++ condition
  | .project columns source =>
    "SELECT " ++ String.intercalate ", " (columns.map quoteIdentifier) ++ " FROM (" ++
      source.text quoteIdentifier ++ ") AS __navop_export_source"

def ExportQuery.selected (tableColumns : List String) : ExportQuery → Option (List String)
  | .raw _ => none
  | .select projection _ _ => some (projection.selected tableColumns)
  | .project columns _ => some columns

end Onetcli.ExportColumns

namespace Onetcli.OpenGauss

open ExportColumns

/-- `export_sql` of extensions/ipc/opengauss/src/handlers.rs. -/
def exportQuery (p : ExportParams) : Except String ExportQuery :=
  match notBlank p.sql with
  | some sql => .ok (.raw sql)
  | none =>
    match notBlank p.table with
    | none => .error "data/export requires `sql` or `table`"
    | some table =>
      let selected := p.includeColumns.filter (· ∉ p.excludeColumns)
      let projection := if p.includeColumns = [] ∨ selected = [] then DbIpc.Projection.star
        else .columns selected
      .ok (.select projection (qualifiedName p.database p.schema table) p.whereClause)

def exportSql (p : ExportParams) : Except String String :=
  (exportQuery p).map (ExportQuery.text quoteIdentifier)

end Onetcli.OpenGauss

namespace Onetcli.DuckDb

open Text ExportColumns

/-- `trimmed_query_sql` on characters: trailing white space and semicolons go. -/
def trimmedQuerySql (sql : String) : String :=
  String.ofList (((sql.toList.dropWhile isWhiteSpace).reverse.dropWhile
    fun c => isWhiteSpace c || c == ';').reverse)

def tableExportQuery (params : ExportParams) (table : String) : ExportQuery :=
  let tableName := match params.schema.filter (· ≠ "") with
    | some schema => quoteIdentifier schema ++ "." ++ quoteIdentifier table
    | none => quoteIdentifier table
  .select .star tableName params.whereClause

def rawExportQuery (params : ExportParams) : Except String ExportQuery :=
  match params.sql, params.table with
  | some _, some _ => .error "data/export accepts either sql or table"
  | some sql, none =>
    if isBlank sql then .error "data/export requires sql or table"
    else .ok (.raw (trimmedQuerySql sql))
  | none, some table =>
    if isBlank table then .error "data/export requires sql or table"
    else .ok (tableExportQuery params table)
  | none, none => .error "data/export requires sql or table"

def selectedExportColumns (rawColumns : List String) (params : ExportParams) :
    Except String (List String) :=
  let columns := (if params.includeColumns = [] then rawColumns else params.includeColumns).filter
    (· ∉ params.excludeColumns)
  if columns = [] then .error "data/export selected no columns"
  else
    match columns.find? (· ∉ rawColumns) with
    | some column => .error ("unknown export column `" ++ column ++ "`")
    | none => .ok columns

/-- The connection of the session as `build_export_sql` uses it: the current
catalog, the names it accepts as that catalog, and the columns of a query. -/
structure ExportSource where
  currentCatalog : Except String String
  isDefaultCatalogReference : String → String → Bool
  prepareQueryColumns : String → Except String (List String)

def validateExportDatabase (source : ExportSource) (database : Option String)
    (currentCatalog : String) : Except String Unit :=
  match database with
  | none => .ok ()
  | some database =>
    if source.isDefaultCatalogReference database currentCatalog then .ok ()
    else .error ("DuckDB data/export only supports database `" ++ currentCatalog ++ "`, got `" ++
      database ++ "`")

def buildExportQuery (source : ExportSource) (params : ExportParams) :
    Except String (ExportQuery × List String) := do
  let currentCatalog ← source.currentCatalog
  validateExportDatabase source params.database currentCatalog
  let raw ← rawExportQuery params
  let rawColumns ← source.prepareQueryColumns (raw.text quoteIdentifier)
  let columns ← selectedExportColumns rawColumns params
  pure (.project columns raw, columns)

def buildExportSql (source : ExportSource) (params : ExportParams) :
    Except String (String × List String) :=
  (buildExportQuery source params).map fun result => (result.1.text quoteIdentifier, result.2)

end Onetcli.DuckDb

namespace Onetcli.ExportColumns

open Text

def Honours (tableColumns includeColumns excludeColumns selected : List String) : Prop :=
  selected = requested tableColumns includeColumns excludeColumns ∧
    ∀ name ∈ selected, name ∉ excludeColumns

theorem honours_iff {tableColumns includeColumns excludeColumns selected : List String} :
    Honours tableColumns includeColumns excludeColumns selected ↔
      selected = requested tableColumns includeColumns excludeColumns := by
  constructor
  · exact And.left
  · rintro rfl
    exact ⟨rfl, requested_not_excluded _ _ _⟩

/-- Selecting `*` does no harm: without requested columns no column of the table
is excluded, and otherwise something of the request is left or the table has no
columns. -/
def StarHarmless (tableColumns includeColumns excludeColumns : List String) : Prop :=
  if includeColumns = [] then ∀ name ∈ tableColumns, name ∉ excludeColumns
  else includeColumns.filter (· ∉ excludeColumns) = [] → tableColumns = []

-- The fallback to `*` around some projection of the columns that are left.
theorem star_fallback_iff (tableColumns includeColumns excludeColumns kept : List String)
    (fallback : DbIpc.Projection) (shape : fallback = if includeColumns = [] ∨
      includeColumns.filter (· ∉ excludeColumns) = [] then .star else .columns kept) :
    fallback.selected tableColumns = requested tableColumns includeColumns excludeColumns ↔
      StarHarmless tableColumns includeColumns excludeColumns ∧
        (includeColumns.filter (· ∉ excludeColumns) ≠ [] →
          kept = includeColumns.filter (· ∉ excludeColumns)) := by
  subst shape
  unfold requested StarHarmless
  by_cases noneRequested : includeColumns = []
  · subst noneRequested
    have whole : tableColumns = tableColumns.filter (· ∉ excludeColumns) ↔
        ∀ name ∈ tableColumns, name ∉ excludeColumns := by
      rw [eq_comm, List.filter_eq_self]
      simp only [decide_eq_true_eq]
    simpa [DbIpc.Projection.selected] using whole
  · simp only [if_neg noneRequested]
    generalize includeColumns.filter (· ∉ excludeColumns) = left
    by_cases noneLeft : left = [] <;>
      simp [noneRequested, noneLeft, DbIpc.Projection.selected]

theorem dbIpc_honours_iff {World : Type} (spec : DbIpc.DriverSpec World)
    (table schema database sqlText whereClause : String)
    (includeColumns excludeColumns tableColumns : List String) (ofTable : isBlank sqlText = true) :
    (∀ projection tableName condition,
      DbIpc.buildExportQuery spec table schema database sqlText whereClause includeColumns
        excludeColumns = .ok (.select projection tableName condition) →
      Honours tableColumns includeColumns excludeColumns (projection.selected tableColumns)) ↔
      isBlank table = true ∨ StarHarmless tableColumns includeColumns excludeColumns ∧
        "" ∉ includeColumns.filter (· ∉ excludeColumns) := by
  unfold DbIpc.buildExportQuery
  cases named : isBlank table with
  | true => simp [ofTable]
  | false =>
    simp only [ofTable, Bool.not_true, Bool.false_eq_true, ↓reduceIte, Except.ok.injEq,
      DbIpc.ExportQuery.select.injEq, false_or, honours_iff]
    have fallback := star_fallback_iff tableColumns includeColumns excludeColumns
      ((includeColumns.filter (· ∉ excludeColumns)).filter (· ≠ ""))
      (if includeColumns ≠ [] ∧ includeColumns.filter (· ∉ excludeColumns) ≠ [] then
        .columns ((includeColumns.filter (· ∉ excludeColumns)).filter (· ≠ "")) else .star)
      (by
        generalize includeColumns.filter (· ∉ excludeColumns) = left
        by_cases noneRequested : includeColumns = [] <;> by_cases noneLeft : left = [] <;>
          simp [noneRequested, noneLeft])
    have nonempty : (includeColumns.filter (· ∉ excludeColumns) ≠ [] →
        (includeColumns.filter (· ∉ excludeColumns)).filter (· ≠ "") =
          includeColumns.filter (· ∉ excludeColumns)) ↔
        "" ∉ includeColumns.filter (· ∉ excludeColumns) := by
      rw [List.filter_eq_self]
      constructor
      · intro same empty
        have different := same (List.ne_nil_of_mem empty) "" empty
        simp at different
      · intro absent _ name member
        exact decide_eq_true fun empty => absent (empty ▸ member)
    rw [← nonempty, ← fallback]
    constructor
    · intro honoured
      exact honoured _ _ _ ⟨rfl, rfl, rfl⟩
    · rintro honoured projection tableName condition ⟨rfl, _, _⟩
      exact honoured

theorem openGauss_honours_iff (p : ExportParams) (tableColumns : List String)
    (ofTable : notBlank p.sql = none) : (∀ query selected, OpenGauss.exportQuery p = .ok query →
      query.selected tableColumns = some selected →
      Honours tableColumns p.includeColumns p.excludeColumns selected) ↔ notBlank p.table = none ∨
        StarHarmless tableColumns p.includeColumns p.excludeColumns := by
  unfold OpenGauss.exportQuery
  cases named : notBlank p.table with
  | none => simp [ofTable]
  | some table =>
    have fallback := star_fallback_iff tableColumns p.includeColumns p.excludeColumns
      (p.includeColumns.filter (· ∉ p.excludeColumns)) _ rfl
    simp only [implies_true, and_true] at fallback
    simp only [ofTable, Except.ok.injEq, reduceCtorEq, false_or, honours_iff, ← fallback]
    constructor
    · intro honoured
      exact honoured _ _ rfl rfl
    · rintro honoured query selected rfl reads
      rw [← Option.some.inj reads]
      exact honoured

theorem selectedExportColumns_ok {rawColumns columns : List String} {params : ExportParams}
    (chosen : DuckDb.selectedExportColumns rawColumns params = .ok columns) :
    columns = requested rawColumns params.includeColumns params.excludeColumns := by
  unfold DuckDb.selectedExportColumns at chosen
  unfold requested
  generalize (if params.includeColumns = [] then rawColumns else params.includeColumns) = wanted
    at chosen ⊢
  simp only at chosen
  split at chosen
  · cases chosen
  · split at chosen
    · cases chosen
    · cases chosen
      rfl

theorem duckDb_honours (source : DuckDb.ExportSource) (params : ExportParams) (table : String)
    (tableColumns columns : List String) (query : ExportQuery) (ofTable : params.table = some table)
    (prepared : source.prepareQueryColumns
      ((DuckDb.tableExportQuery params table).text DuckDb.quoteIdentifier) = .ok tableColumns)
    (built : DuckDb.buildExportQuery source params = .ok (query, columns)) :
    query.selected tableColumns = some columns ∧
      Honours tableColumns params.includeColumns params.excludeColumns columns := by
  unfold DuckDb.buildExportQuery at built
  cases catalog : source.currentCatalog with
  | error err => simp [catalog, bind, Except.bind] at built
  | ok currentCatalog =>
    simp only [catalog, bind, Except.bind] at built
    split at built
    · cases built
    · unfold DuckDb.rawExportQuery at built
      rw [ofTable] at built
      cases given : params.sql with
      | some sql => simp [given] at built
      | none =>
        cases named : isBlank table with
        | true => simp [given, named] at built
        | false =>
          simp only [given, named, Bool.false_eq_true, ↓reduceIte, prepared] at built
          cases chosen : DuckDb.selectedExportColumns tableColumns params with
          | error err => simp [chosen] at built
          | ok selected =>
            simp only [chosen, pure, Except.pure, Except.ok.injEq,
              Prod.mk.injEq] at built
            obtain ⟨rfl, rfl⟩ := built
            exact ⟨rfl, honours_iff.mpr (selectedExportColumns_ok chosen)⟩

/-- A table export of the Go runtime or of openGauss reads the requested columns,
or is rejected, exactly when the fallback to `*` does no harm (and, for the Go
runtime, when no requested column has the empty name, which its list of columns
leaves out). The DuckDB driver always reads the requested columns. -/
theorem exported_columns_iff {World : Type} (spec : DbIpc.DriverSpec World)
    (table schema database sqlText whereClause : String)
    (includeColumns excludeColumns tableColumns : List String) (p : ExportParams)
    (source : DuckDb.ExportSource) (columns : List String) (query : ExportQuery) :
    (isBlank sqlText = true →
      ((∀ projection tableName condition,
        DbIpc.buildExportQuery spec table schema database sqlText whereClause includeColumns
          excludeColumns = .ok (.select projection tableName condition) →
        Honours tableColumns includeColumns excludeColumns
          (projection.selected tableColumns)) ↔
        isBlank table = true ∨ StarHarmless tableColumns includeColumns excludeColumns ∧
          "" ∉ includeColumns.filter (· ∉ excludeColumns))) ∧
    (notBlank p.sql = none →
      ((∀ query selected, OpenGauss.exportQuery p = .ok query →
        query.selected tableColumns = some selected →
        Honours tableColumns p.includeColumns p.excludeColumns selected) ↔
        notBlank p.table = none ∨
          StarHarmless tableColumns p.includeColumns p.excludeColumns)) ∧
    (p.table = some table →
      source.prepareQueryColumns
        ((DuckDb.tableExportQuery p table).text DuckDb.quoteIdentifier) = .ok tableColumns →
      DuckDb.buildExportQuery source p = .ok (query, columns) →
      query.selected tableColumns = some columns ∧
        Honours tableColumns p.includeColumns p.excludeColumns columns) := by
  refine ⟨?_, ?_, ?_⟩
  · intro ofTable
    exact dbIpc_honours_iff spec table schema database sqlText whereClause includeColumns
      excludeColumns tableColumns ofTable
  · intro ofTable
    exact openGauss_honours_iff p tableColumns ofTable
  · intro ofTable prepared built
    exact duckDb_honours source p table tableColumns columns query ofTable prepared built

def oneTableSource (tableColumns : List String) : DuckDb.ExportSource where
  currentCatalog := .ok "memory"
  isDefaultCatalogReference := fun database current => database == current
  prepareQueryColumns := fun _ => .ok tableColumns

theorem remaining_columns_exported :
    (∀ projection tableName condition,
      DbIpc.buildExportQuery (DbIpc.plainSpec false) "users" "" "" "" "" ["a", "b"] ["b"] =
        .ok (.select projection tableName condition) →
      Honours ["a", "b"] ["a", "b"] ["b"] (projection.selected ["a", "b"])) ∧
    (∀ query selected, OpenGauss.exportQuery
        { table := some "users", includeColumns := ["a", "b"], excludeColumns := ["b"] } =
          .ok query →
      query.selected ["a", "b"] = some selected →
      Honours ["a", "b"] ["a", "b"] ["b"] selected) ∧
    ExportQuery.selected ["a", "b"]
        (.project ["a"] (.select .star "\"users\"" none)) = some ["a"] ∧
      Honours ["a", "b"] [] ["b"] ["a"] := by
  have claims := fun p => exported_columns_iff (DbIpc.plainSpec false) "users" "" "" "" ""
    ["a", "b"] ["b"] ["a", "b"] p (oneTableSource ["a", "b"])
  refine ⟨?_, ?_, ?_⟩
  · exact ((claims {} [] (.raw "")).1 (by decide)).mpr
      (Or.inr ⟨by unfold StarHarmless; decide, by decide⟩)
  · exact ((claims
      { table := some "users", includeColumns := ["a", "b"], excludeColumns := ["b"] }
      [] (.raw "")).2.1 rfl).mpr (Or.inr (by unfold StarHarmless; decide))
  · exact (claims { table := some "users", excludeColumns := ["b"] } _ _).2.2 rfl rfl rfl

-- With nothing requested, the excluded column is read all the same.
theorem excluded_column_exported :
    DbIpc.buildExportQuery (DbIpc.plainSpec false) "users" "" "" "" "" [] ["secret"] =
        .ok (.select .star "\"users\"" "") ∧
      "secret" ∈ DbIpc.Projection.star.selected ["id", "secret"] ∧
      ¬ Honours ["id", "secret"] [] ["secret"]
        (DbIpc.Projection.star.selected ["id", "secret"]) := by
  refine ⟨by decide, by decide, ?_⟩
  rintro ⟨same, _⟩
  exact absurd same (by decide)

end Onetcli.ExportColumns
