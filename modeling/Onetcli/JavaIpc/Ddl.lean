import Onetcli.AlterTable
import Onetcli.Lib.Chars

/-!
The ALTER TABLE builder of OscarIpcServer.java, which is also that of
GBase8sIpcServer.java. Names are compared as they are and put into the statements
without quotes; comments and types lose the blanks around them.
-/

namespace Onetcli.JavaIpc

open AlterTable Chars ColumnTable

/-- `String.trim()`. -/
def trim (text : String) : String :=
  String.ofList (trimMatches (fun char => char.toNat ≤ 0x20) text.toList)

/-- A missing or `null` field is an empty text. -/
structure ColumnSpec where
  name : String
  type : String
  nullable : Bool := true
  default : String := ""
  comment : String := ""

structure TableSpec where
  name : String
  schema : String := ""
  comment : String := ""
  columns : List ColumnSpec

structure ColumnRename where
  oldName : String
  newName : String
  deriving DecidableEq

structure AlterTableParams where
  fromSpec : TableSpec
  toSpec : TableSpec
  columnRenames : List ColumnRename := []
  withRollback : Bool := false
  allowDestructive : Bool := false

def requiredText (field value : String) : Except String String :=
  if trim value = "" then .error ("missing required parameter `" ++ field ++ "`")
  else .ok (trim value)

def qualifiedName (schema name : String) : String :=
  if trim schema = "" then name else schema ++ "." ++ name

def sqlString (value : String) : String := Text.replaceAll value "'" "''"

/-- The SQL of a change; `quote` leaves names as they are. -/
def statementText (table : String) : Statement → String
  | .rename old new => "ALTER TABLE " ++ table ++ " RENAME COLUMN " ++ old ++ " TO " ++ new
  | .add _ definition => "ALTER TABLE " ++ table ++ " ADD " ++ definition
  | .drop name => "ALTER TABLE " ++ table ++ " DROP " ++ name
  | .annotate comment => "COMMENT ON TABLE " ++ table ++ " IS '" ++ sqlString comment ++ "'"
  | .annotateColumn name comment =>
    "COMMENT ON COLUMN " ++ table ++ "." ++ name ++ " IS '" ++ sqlString comment ++ "'"

def columnDefinition (col : ColumnSpec) : Except String String := do
  let name ← requiredText "name" col.name
  let type ← requiredText "type" col.type
  pure (name ++ " " ++ type ++ (if col.nullable then "" else " NOT NULL") ++
    (if col.default = "" then "" else " DEFAULT " ++ col.default))

def TableSpec.columnNames (spec : TableSpec) : List String := spec.columns.map ColumnSpec.name

def TableSpec.trimmed (spec : TableSpec) : List NamedComment :=
  spec.columns.map fun column => ⟨column.name, trim column.comment⟩

def renameColumn (withRollback : Bool) (plan : Plan) (rename : ColumnRename) : Plan :=
  if trim rename.oldName = "" ∨ trim rename.newName = "" ∨ rename.oldName = rename.newName then
    plan
  else plan.emit withRollback (.rename rename.oldName rename.newName)
    (.rename rename.newName rename.oldName)

def addColumns (withRollback : Bool) (fromColumns : List String) :
    List ColumnSpec → Plan → Except String Plan
  | [], plan => .ok plan
  | column :: rest, plan =>
    if column.name ≠ "" ∧ column.name ∉ fromColumns then
      match columnDefinition column with
      | .error err => .error err
      | .ok definition =>
        let plan :=
          plan.emit withRollback (.add (trim column.name) definition) (.drop column.name)
        let plan := if trim column.comment = "" then plan
          else plan.push (.annotateColumn column.name (trim column.comment))
        addColumns withRollback fromColumns rest plan
    else addColumns withRollback fromColumns rest plan

def dropColumn (toColumns : List String) (plan : Plan) (column : ColumnSpec) : Plan :=
  if column.name = "" then plan else dropNamed toColumns plan column.name

/-- The table that is altered and the changes to it. -/
def buildAlterPlan (p : AlterTableParams) : Except String (String × Plan) :=
  match requiredText "name" p.toSpec.name with
  | .error err => .error err
  | .ok table =>
    let fromTableComment := trim p.fromSpec.comment
    let toTableComment := trim p.toSpec.comment
    let plan : Plan := if fromTableComment = toTableComment then {}
      else Plan.emit {} p.withRollback (.annotate toTableComment) (.annotate fromTableComment)
    let plan := p.columnRenames.foldl (renameColumn p.withRollback) plan
    match addColumns p.withRollback p.fromSpec.columnNames p.toSpec.columns plan with
    | .error err => .error err
    | .ok plan =>
      let plan := if p.allowDestructive then
        p.fromSpec.columns.foldl (dropColumn p.toSpec.columnNames) plan else plan
      let plan := p.toSpec.trimmed.foldl (diffColumn p.withRollback p.fromSpec.trimmed) plan
      .ok (qualifiedName (trim p.toSpec.schema) table, plan)

def handleDdlBuildAlterTable (p : AlterTableParams) :
    Except String (List String × List String × List String) :=
  match buildAlterPlan p with
  | .error err => .error err
  | .ok (tableName, plan) =>
    let text := statementText tableName
    .ok (plan.statements.map text, plan.rollback.map text, plan.warnings)

end Onetcli.JavaIpc
