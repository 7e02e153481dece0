import Onetcli.Protocol
import Onetcli.Lib.Text

/-!
The ALTER TABLE builder of extensions/ipc/opengauss/src/ddl.rs. Rename targets
are left out of the additions; the drops look at the column lists only.
-/

namespace Onetcli.OpenGauss

open Text AlterTable ColumnTable Protocol

def quoteIdentifier (value : String) : String := enclose "\"" value

def quoteLiteral (value : String) : String := enclose "'" value

def qualifiedName (database schema : Option String) (name : String) : String :=
  String.intercalate "."
    (([database, schema, some name].filterMap id |>.filter (!isBlank ·)).map quoteIdentifier)

def columnDefinition (column : ColumnSpec) : Except String String :=
  if isBlank column.name then .error "column name is required"
  else if isBlank column.typeStr then
    .error ("column `" ++ column.name ++ "` type is required")
  else
    let identity := if column.autoIncrement then ["GENERATED BY DEFAULT AS IDENTITY"] else []
    let notNull := if !column.nullable then ["NOT NULL"] else []
    let default := match column.default with
      | some value => if isBlank value then [] else ["DEFAULT", value]
      | none => []
    let unique := if column.isUnique && !column.isPrimary then ["UNIQUE"] else []
    .ok (String.intercalate " "
      ([quoteIdentifier column.name, column.typeStr] ++ identity ++ notNull ++ default ++ unique))

def renameColumn (options : AlterTableOptions) (plan : Plan) (rename : ColumnRenameSpec) : Plan :=
  if isBlank rename.oldName || isBlank rename.newName then plan
  else plan.emit options.withRollback (.rename rename.oldName rename.newName)
    (.rename rename.newName rename.oldName)

def addColumn (options : AlterTableOptions) (plan : Plan) (column : ColumnSpec)
    (definition : String) : Plan :=
  let plan := plan.emit options.withRollback (.add column.name definition) (.drop column.name)
  if isBlank column.comment then plan
  else plan.push (.annotateColumn column.name column.comment)

def addColumns (options : AlterTableOptions) (renamedTargets fromColumns : List String) :
    List ColumnSpec → Plan → Except String Plan
  | [], plan => .ok plan
  | column :: rest, plan =>
    if column.name ∉ renamedTargets ∧ column.name ∉ fromColumns then
      match columnDefinition column with
      | .error err => .error err
      | .ok definition =>
        addColumns options renamedTargets fromColumns rest
          (addColumn options plan column definition)
    else addColumns options renamedTargets fromColumns rest plan

def dropColumn (toColumns : List String) (plan : Plan) (column : ColumnSpec) : Plan :=
  dropNamed toColumns plan column.name

/-- The table that is altered and the changes to it. -/
def buildAlterPlan (p : BuildAlterTableParams) : Except String (String × Plan) :=
  let table := if isBlank p.toSpec.name then p.fromSpec else p.toSpec
  if isBlank table.name then .error "alter table requires table name"
  else
    let plan := p.columnRenames.foldl (renameColumn p.options) {}
    let renamedTargets := p.columnRenames.map ColumnRenameSpec.newName
    match addColumns p.options renamedTargets p.fromSpec.columnNames p.toSpec.columns plan with
    | .error err => .error err
    | .ok plan =>
      let plan := if p.options.allowDestructive then
        p.fromSpec.columns.foldl (dropColumn p.toSpec.columnNames) plan else plan
      let plan := diffComments p.options.withRollback p.fromSpec.comment p.toSpec.comment
        p.fromSpec.named p.toSpec.named plan
      .ok (qualifiedName table.database table.schema table.name, plan)

def buildAlterTable (p : BuildAlterTableParams) :
    Except String (List String × List String × List String) :=
  match buildAlterPlan p with
  | .error err => .error err
  | .ok (tableName, plan) =>
    let text := changeText quoteIdentifier quoteLiteral tableName
    .ok (plan.statements.map text, plan.rollback.map text, plan.warnings)

end Onetcli.OpenGauss
