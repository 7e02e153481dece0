import Onetcli.Protocol
import Onetcli.Lib.Text

/-!
The ALTER TABLE builder of extensions/ipc/duckdb/src/ddl.rs. Additions leave out
the new names of renames and drops their old names; only the comment changes get
rollback statements.
-/

namespace Onetcli.DuckDb

open Text AlterTable ColumnTable Protocol

def quoteIdentifier (value : String) : String := enclose "\"" value

def quoteLiteral (value : String) : String := enclose "'" value

def qualifiedName (schema : Option String) (name : String) : String :=
  match schema.filter (!isBlank ·) with
  | some schema => quoteIdentifier schema ++ "." ++ quoteIdentifier name
  | none => quoteIdentifier name

def tableReference (spec : TableSpec) : String := qualifiedName spec.schema spec.name

def sanitizeType (value : String) : String :=
  if isBlank value then "VARCHAR" else trimSpace value

def columnDefinition (column : ColumnSpec) : String :=
  quoteIdentifier column.name ++ " " ++ sanitizeType column.typeStr ++
    (if !column.nullable then " NOT NULL" else "") ++
    (match column.default with
      | some default => " DEFAULT " ++ default
      | none => "") ++
    (if column.isPrimary then " PRIMARY KEY" else if column.isUnique then " UNIQUE" else "")

def renameColumn (plan : Plan) (rename : ColumnRenameSpec) : Plan :=
  if rename.oldName ≠ rename.newName ∧ !isBlank rename.oldName ∧ !isBlank rename.newName then
    plan.push (.rename rename.oldName rename.newName)
  else plan

def addColumn (renamedNew fromColumns : List String) (plan : Plan) (column : ColumnSpec) : Plan :=
  if column.name ∈ renamedNew then plan
  else if column.name ∈ fromColumns then plan
  else
    let plan := plan.push (.add column.name (columnDefinition column))
    if isBlank column.comment then plan
    else plan.push (.annotateColumn column.name column.comment)

def dropColumn (renamedOld toColumns : List String) (plan : Plan) (column : ColumnSpec) : Plan :=
  if column.name ∈ renamedOld then plan
  else if column.name ∈ toColumns then plan
  else plan.push (.drop column.name)

def buildAlterPlan (params : BuildAlterTableParams) : Plan :=
  let renamedOld := params.columnRenames.map ColumnRenameSpec.oldName
  let renamedNew := params.columnRenames.map ColumnRenameSpec.newName
  let plan := params.columnRenames.foldl renameColumn {}
  let plan := params.toSpec.columns.foldl (addColumn renamedNew params.fromSpec.columnNames) plan
  let plan := if params.options.allowDestructive then
    params.fromSpec.columns.foldl (dropColumn renamedOld params.toSpec.columnNames) plan else plan
  diffComments params.options.withRollback params.fromSpec.comment params.toSpec.comment
    params.fromSpec.named params.toSpec.named plan

def buildAlterTable (params : BuildAlterTableParams) : List String × List String × List String :=
  let text := changeText quoteIdentifier quoteLiteral (tableReference params.toSpec)
  let plan := buildAlterPlan params
  (plan.statements.map text, plan.rollback.map text, plan.warnings)

end Onetcli.DuckDb
