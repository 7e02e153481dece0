import Onetcli.AlterTable
import Onetcli.DbIpc.Config

/-!
The statement builders of internal/dbipc/ddl.go. The ALTER TABLE builder is kept
as a plan of changes; `buildAlterTableSQL` renders it with the driver's quoting.
-/

namespace Onetcli.DbIpc

open Text AlterTable ColumnTable

variable {World : Type}

structure ColumnDDL where
  name : String
  type : String
  nullable : Option Bool := none
  default : Option String := none
  isPrimary : Bool := false
  isUnique : Bool := false
  autoIncrement : Bool := false
  comment : String := ""
  deriving DecidableEq

structure IndexDDL where
  name : String
  columns : List String
  isUnique : Bool := false
  whereClause : String := ""
  deriving DecidableEq

structure ForeignKeyDDL where
  name : String
  fromCols : List String
  toTable : String
  toCols : List String
  onDelete : String := ""
  onUpdate : String := ""
  deriving DecidableEq

structure TableSpec where
  name : String
  schema : String := ""
  database : String := ""
  columns : List ColumnDDL
  primaryKey : List String := []
  indexes : List IndexDDL := []
  foreignKeys : List ForeignKeyDDL := []
  comment : String := ""
  deriving DecidableEq

structure CreateTableOptions where
  ifNotExists : Bool := false
  withIndexes : Option Bool := none
  withForeignKeys : Option Bool := none
  withComments : Option Bool := none
  temporary : Bool := false

structure AlterTableOptions where
  allowDestructive : Bool := false
  withRollback : Bool := false

structure ColumnRenameDDL where
  oldName : String
  newName : String
  deriving DecidableEq

def optionDefaultTrue (value : Option Bool) : Bool := value.getD true

def escapeSQLLiteral (value : String) : String := replaceAll value "'" "''"

def quoteLiteral (value : String) : String := "'" ++ escapeSQLLiteral value ++ "'"

def quoteIdentifier (spec : DriverSpec World) (name : String) : String :=
  let unset := spec.identifierQuoteLeft = "" ∧ spec.identifierQuoteRight = ""
  let left := if unset then "\"" else spec.identifierQuoteLeft
  let right := if unset then "\"" else spec.identifierQuoteRight
  let right := if right = "" then left else right
  left ++ replaceAll name right (right ++ right) ++ right

def quoteIdentifierList (spec : DriverSpec World) (names : List String) : String :=
  String.intercalate ", " ((names.filter (· ≠ "")).map (quoteIdentifier spec))

def qualifiedTableName (spec : DriverSpec World) (database schema name : String) : String :=
  String.intercalate "."
    (([database, schema, name].filter (!isBlank ·)).map (quoteIdentifier spec))

/-- The SQL of a change of the table `tableName`. -/
def statementText (spec : DriverSpec World) (tableName : String) : Statement → String :=
  changeText (quoteIdentifier spec) quoteLiteral tableName

def commentStatement (spec : DriverSpec World) (tableName column comment : String) : String :=
  statementText spec tableName
    (if column = "" then .annotate comment else .annotateColumn column comment)

def buildColumnDefinition (spec : DriverSpec World) (column : ColumnDDL) :
    Except String String :=
  if column.name = "" then .error "column name is required"
  else if isBlank column.type then .error ("column " ++ column.name ++ " type is required")
  else
    let identity := if column.autoIncrement then ["GENERATED BY DEFAULT AS IDENTITY"] else []
    let notNull := if column.nullable = some false then ["NOT NULL"] else []
    let default := match column.default with
      | some value => if isBlank value then [] else ["DEFAULT", value]
      | none => []
    let unique := if column.isUnique && !column.isPrimary then ["UNIQUE"] else []
    .ok (String.intercalate " "
      ([quoteIdentifier spec column.name, column.type] ++ identity ++ notNull ++ default ++ unique))

def buildForeignKeyDefinition (spec : DriverSpec World) (fk : ForeignKeyDDL) : String :=
  let named := if fk.name ≠ "" then ["CONSTRAINT", quoteIdentifier spec fk.name] else []
  let action (keywords value : String) :=
    if value ≠ "" then [keywords, toUpper (replaceAll value "_" " ")] else []
  String.intercalate " "
    (named ++ ["FOREIGN KEY", "(" ++ quoteIdentifierList spec fk.fromCols ++ ")", "REFERENCES",
        quoteIdentifier spec fk.toTable, "(" ++ quoteIdentifierList spec fk.toCols ++ ")"] ++
      action "ON DELETE" fk.onDelete ++ action "ON UPDATE" fk.onUpdate)

def appendCommentStatements (spec : DriverSpec World) (tableName tableComment : String)
    (columns : List ColumnDDL) : List String :=
  (if tableComment ≠ "" then [commentStatement spec tableName "" tableComment] else []) ++
    (columns.filter fun column => column.name ≠ "" ∧ column.comment ≠ "").map fun column =>
      commentStatement spec tableName column.name column.comment

def createIndexStatement (spec : DriverSpec World) (tableName : String) (index : IndexDDL) :
    String :=
  "CREATE " ++ (if index.isUnique then "UNIQUE " else "") ++ "INDEX " ++
    quoteIdentifier spec index.name ++ " ON " ++ tableName ++ " (" ++
    quoteIdentifierList spec index.columns ++ ")" ++
    (if index.whereClause ≠ "" then " WHERE " ++ index.whereClause else "")

def buildCreateTableSQL (spec : DriverSpec World) (table : TableSpec)
    (options : CreateTableOptions) : Except String (String × List String) :=
  if table.name = "" then .error "missing table name"
  else if table.columns = [] then .error "create table requires at least one column"
  else do
    let columnDefs ← table.columns.mapM (buildColumnDefinition spec)
    let inlinePK := (table.columns.filter (·.isPrimary)).map (·.name)
    let pk := if table.primaryKey = [] then inlinePK else table.primaryKey
    let pkDefs := if pk ≠ [] then ["PRIMARY KEY (" ++ quoteIdentifierList spec pk ++ ")"] else []
    let fkDefs := if optionDefaultTrue options.withForeignKeys then
      table.foreignKeys.map (buildForeignKeyDefinition spec) else []
    let tableName := qualifiedTableName spec table.database table.schema table.name
    let words := ["CREATE"] ++ (if options.temporary then ["TEMPORARY"] else []) ++ ["TABLE"] ++
      (if options.ifNotExists then ["IF NOT EXISTS"] else [])
    let sqlText := String.intercalate " " words ++ " " ++ tableName ++ " (" ++
      String.intercalate ", " (columnDefs ++ pkDefs ++ fkDefs) ++ ")"
    let comments := if spec.supportsComments && optionDefaultTrue options.withComments then
      appendCommentStatements spec tableName table.comment table.columns else []
    let indexes := if optionDefaultTrue options.withIndexes then
      (table.indexes.filter fun index => index.columns ≠ []).map
        (createIndexStatement spec tableName) else []
    pure (sqlText, sqlText :: comments ++ indexes)

def dropKind (kind : String) : Option String :=
  match toUpper (trimSpace kind) with
  | "TABLE" | "BASE_TABLE" => some "TABLE"
  | "VIEW" => some "VIEW"
  | "MATERIALIZED_VIEW" => some "MATERIALIZED VIEW"
  | "INDEX" => some "INDEX"
  | "SCHEMA" => some "SCHEMA"
  | "DATABASE" => some "DATABASE"
  | _ => none

def buildDropSQL (spec : DriverSpec World) (kind database schema name : String)
    (ifExists cascade : Bool) : Except String String :=
  if name = "" then .error "missing object name" else
    match dropKind kind with
    | none => .error ("unsupported drop kind " ++ quoted kind)
    | some kind => .ok ("DROP " ++ kind ++ (if ifExists then " IF EXISTS" else "") ++ " " ++
        qualifiedTableName spec database schema name ++ (if cascade then " CASCADE" else ""))

/-! ## ALTER TABLE -/

def ColumnDDL.named (column : ColumnDDL) : NamedComment := ⟨column.name, column.comment⟩

def TableSpec.named (table : TableSpec) : List NamedComment := table.columns.map ColumnDDL.named

def TableSpec.columnNames (table : TableSpec) : List String := table.columns.map ColumnDDL.name

@[simp] theorem TableSpec.map_name_named (spec : TableSpec) :
    spec.named.map NamedComment.name = spec.columnNames := by
  simp [TableSpec.named, TableSpec.columnNames, ColumnDDL.named]

def renameColumn (options : AlterTableOptions) (plan : Plan) (rename : ColumnRenameDDL) : Plan :=
  if rename.oldName = "" ∨ rename.newName = "" then plan
  else plan.emit options.withRollback (.rename rename.oldName rename.newName)
    (.rename rename.newName rename.oldName)

def addColumns (spec : DriverSpec World) (options : AlterTableOptions)
    (fromColumns : List String) : List ColumnDDL → Plan → Except String Plan
  | [], plan => .ok plan
  | column :: rest, plan =>
    if column.name ∈ fromColumns then addColumns spec options fromColumns rest plan
    else
      match buildColumnDefinition spec column with
      | .error err => .error err
      | .ok definition =>
        addColumns spec options fromColumns rest
          (plan.emit options.withRollback (.add column.name definition) (.drop column.name))

def dropColumn (toColumns : List String) (plan : Plan) (column : ColumnDDL) : Plan :=
  dropNamed toColumns plan column.name

/-- The table that is altered and the changes to it. -/
def buildAlterPlan (spec : DriverSpec World) (fromSpec toSpec : TableSpec)
    (renames : List ColumnRenameDDL) (options : AlterTableOptions) :
    Except String (String × Plan) :=
  let table := if toSpec.name = "" then fromSpec else toSpec
  if table.name = "" then .error "alter table requires a table name"
  else
    let plan := renames.foldl (renameColumn options) {}
    match addColumns spec options fromSpec.columnNames toSpec.columns plan with
    | .error err => .error err
    | .ok plan =>
      let plan := if options.allowDestructive then
        fromSpec.columns.foldl (dropColumn toSpec.columnNames) plan else plan
      let plan := if spec.supportsComments then
        diffComments options.withRollback fromSpec.comment toSpec.comment fromSpec.named
          toSpec.named plan else plan
      .ok (qualifiedTableName spec table.database table.schema table.name, plan)

def buildAlterTableSQL (spec : DriverSpec World) (fromSpec toSpec : TableSpec)
    (renames : List ColumnRenameDDL) (options : AlterTableOptions) :
    Except String (List String × List String × List String) :=
  match buildAlterPlan spec fromSpec toSpec renames options with
  | .error err => .error err
  | .ok (tableName, plan) =>
    .ok (plan.statements.map (statementText spec tableName),
      plan.rollback.map (statementText spec tableName), plan.warnings)

end Onetcli.DbIpc
