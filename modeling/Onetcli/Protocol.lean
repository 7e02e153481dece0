import Onetcli.AlterTable

/-!
The `ddl` types of the extension protocol, with the fields that the Rust drivers
read. An absent database or schema is `none`.
-/

namespace Onetcli.Protocol

open AlterTable ColumnTable

structure ColumnSpec where
  name : String
  typeStr : String
  nullable : Bool := true
  default : Option String := none
  isPrimary : Bool := false
  isUnique : Bool := false
  autoIncrement : Bool := false
  comment : String := ""
  deriving DecidableEq

structure TableSpec where
  name : String
  schema : Option String := none
  database : Option String := none
  columns : List ColumnSpec
  comment : String := ""
  deriving DecidableEq

structure AlterTableOptions where
  allowDestructive : Bool := false
  withRollback : Bool := false

structure ColumnRenameSpec where
  oldName : String
  newName : String
  deriving DecidableEq

structure BuildAlterTableParams where
  fromSpec : TableSpec
  toSpec : TableSpec
  columnRenames : List ColumnRenameSpec := []
  options : AlterTableOptions := {}

def ColumnSpec.named (column : ColumnSpec) : NamedComment := ⟨column.name, column.comment⟩

def TableSpec.named (table : TableSpec) : List NamedComment :=
  table.columns.map ColumnSpec.named

def TableSpec.columnNames (table : TableSpec) : List String :=
  table.columns.map ColumnSpec.name

@[simp] theorem TableSpec.map_name_named (spec : TableSpec) :
    spec.named.map NamedComment.name = spec.columnNames := by
  simp [TableSpec.named, TableSpec.columnNames, ColumnSpec.named]

theorem TableSpec.named_name_mem {spec : TableSpec} {column : NamedComment}
    (member : column ∈ spec.named) : column.name ∈ spec.columnNames := by
  rw [← TableSpec.map_name_named]
  exact List.mem_map_of_mem member

/-- The statements run and leave exactly the columns of the target, each renamed
column with its data. -/
def Realises {Data : Type} (plan : Plan) (p : BuildAlterTableParams) (fresh : Data)
    (table : Relation String String Data) : Prop :=
  ∃ after, run ⟨"", fresh⟩ plan.statements table = some after ∧
    (∀ name, (after.columns name).isSome ↔ name ∈ p.toSpec.columnNames) ∧
    ∀ rename ∈ p.columnRenames, (after.columns rename.newName).map Column.data =
      (table.columns rename.oldName).map Column.data

/-- The table of a specification, without data. -/
def TableSpec.table (spec : TableSpec) : Relation String String Unit :=
  tableOf spec.named spec.comment

def usersTable (names : List String) : TableSpec where
  name := "users"
  columns := names.map fun name => { name, typeStr := "TEXT" }

def alterUsers (before after : List String) (columnRenames : List ColumnRenameSpec) :
    BuildAlterTableParams where
  fromSpec := usersTable before
  toSpec := usersTable after
  columnRenames := columnRenames
  options := { allowDestructive := true }

/-- A change of that table without drops, with rollback. -/
def keepUsers (before after : List String) (columnRenames : List ColumnRenameSpec) :
    BuildAlterTableParams where
  fromSpec := usersTable before
  toSpec := usersTable after
  columnRenames := columnRenames
  options := { withRollback := true }

def ColumnRenameSpec.pair (rename : ColumnRenameSpec) : String × String :=
  (rename.oldName, rename.newName)

@[simp] theorem ColumnRenameSpec.pair_fst (rename : ColumnRenameSpec) :
    rename.pair.1 = rename.oldName := rfl

@[simp] theorem ColumnRenameSpec.pair_snd (rename : ColumnRenameSpec) :
    rename.pair.2 = rename.newName := rfl

end Onetcli.Protocol
