import Onetcli.DbIpc.Ddl

/-!
What the statements of `buildAlterTableSQL` do to a table. The plan falls into
phases: renames, additions, drops and comments. The additions and drops are
decided from the column lists alone, without looking at the renames.
-/

namespace Onetcli.DbIpc

open AlterTable ColumnTable

variable {World : Type}

def effectiveRenames (pairs : List ColumnRenameDDL) : List (String × String) :=
  (pairs.filter fun rename => rename.oldName ≠ "" ∧ rename.newName ≠ "").map fun rename =>
    (rename.oldName, rename.newName)

theorem foldl_renameColumn (options : AlterTableOptions) (pairs : List ColumnRenameDDL)
    (plan : Plan) : pairs.foldl (renameColumn options) plan = { plan with
        statements := plan.statements ++ renames (effectiveRenames pairs)
        rollback := (if options.withRollback then renamesBack (effectiveRenames pairs) else []) ++
          plan.rollback } := by
  rw [foldl_emit options.withRollback
    (fun rename : ColumnRenameDDL => decide (rename.oldName = "" ∨ rename.newName = ""))
    (fun rename => .rename rename.oldName rename.newName)
    (fun rename => .rename rename.newName rename.oldName) (renameColumn options)
    (fun plan rename => by simp [renameColumn])]
  simp [effectiveRenames, renames, renamesBack, Function.comp_def]

theorem addColumns_ok {spec : DriverSpec World} {options : AlterTableOptions}
    {fromColumns : List String} {columns : List ColumnDDL} {plan after : Plan}
    (built : addColumns spec options fromColumns columns plan = .ok after) :
    ∃ added : List (Addition String String String),
      added.map Addition.name = (columns.map ColumnDDL.name).filter (· ∉ fromColumns) ∧
      (∀ addition ∈ added, addition.note = none) ∧ after = { plan with
        statements := plan.statements ++ additions added
        rollback := (if options.withRollback then drops (added.map Addition.name).reverse
          else []) ++ plan.rollback } := by
  induction columns generalizing plan with
  | nil =>
    cases built
    exact ⟨[], by simp [additions, drops]⟩
  | cons column rest ih =>
    unfold addColumns at built
    split at built
    · rename_i known
      obtain ⟨added, names, plain, shape⟩ := ih built
      exact ⟨added, by simpa [known] using names, plain, shape⟩
    · rename_i unknown
      cases defined : buildColumnDefinition spec column with
      | error err => simp [defined] at built
      | ok definition =>
        simp only [defined] at built
        obtain ⟨added, names, plain, shape⟩ := ih built
        refine ⟨⟨column.name, definition, none⟩ :: added, by simp [unknown, names],
          by simpa using plain, ?_⟩
        rw [shape]
        cases options.withRollback <;> simp [Plan.emit, additions, Addition.script, drops]

theorem foldl_dropColumn (toColumns : List String) (columns : List ColumnDDL) (plan : Plan) :
    columns.foldl (dropColumn toColumns) plan =
      (columns.map ColumnDDL.name).foldl (dropNamed toColumns) plan := by
  rw [List.foldl_map]
  rfl

/-- The columns of the target that the source does not have, by name. -/
def addedNames (fromSpec toSpec : TableSpec) : List String :=
  toSpec.columnNames.filter (· ∉ fromSpec.columnNames)

def droppedNames (fromSpec toSpec : TableSpec) : List String :=
  fromSpec.columnNames.filter (· ∉ toSpec.columnNames)

-- The phases of an accepted plan.
theorem buildAlterPlan_ok {spec : DriverSpec World} {fromSpec toSpec : TableSpec}
    {pairs : List ColumnRenameDDL} {options : AlterTableOptions} {tableName : String} {plan : Plan}
    (built : buildAlterPlan spec fromSpec toSpec pairs options = .ok (tableName, plan)) :
    ∃ added : List (Addition String String String),
      added.map Addition.name = addedNames fromSpec toSpec ∧
      (∀ addition ∈ added, addition.note = none) ∧
      plan.statements = renames (effectiveRenames pairs) ++ (additions added ++
        ((if options.allowDestructive then drops (droppedNames fromSpec toSpec) else []) ++
        (if spec.supportsComments then tableNote fromSpec.comment toSpec.comment ++
          notes (newNotes (changedColumns fromSpec.named toSpec.named)) else []))) ∧
      plan.rollback = if options.withRollback then
        (if spec.supportsComments then
          notes (oldNotes (changedColumns fromSpec.named toSpec.named)).reverse ++
            tableNote toSpec.comment fromSpec.comment else []) ++
        (drops (addedNames fromSpec toSpec).reverse ++ renamesBack (effectiveRenames pairs))
        else [] := by
  unfold buildAlterPlan at built
  simp only [foldl_renameColumn, foldl_dropColumn, foldl_dropNamed, diffComments_eq] at built
  generalize (if toSpec.name = "" then fromSpec else toSpec) = table at built
  split at built
  · cases built
  · cases extended : addColumns spec options fromSpec.columnNames toSpec.columns
        { statements := renames (effectiveRenames pairs)
          rollback := if options.withRollback then renamesBack (effectiveRenames pairs) else [] }
      with
    | error err => simp [extended] at built
    | ok middle =>
      obtain ⟨added, names, plain, shape⟩ := addColumns_ok extended
      simp only [List.nil_append, List.append_nil, extended, Except.ok.injEq,
        Prod.mk.injEq] at built
      obtain ⟨_, rfl⟩ := built
      refine ⟨added, names, plain, ?_, ?_⟩
      · rw [shape]
        cases options.allowDestructive <;> cases spec.supportsComments <;>
          simp [droppedNames, TableSpec.columnNames]
      · rw [shape, names]
        cases options.allowDestructive <;> cases spec.supportsComments <;>
          cases options.withRollback <;> simp [addedNames, TableSpec.columnNames]

section Target

variable {Data : Type} {spec : DriverSpec World} {fromSpec toSpec : TableSpec}

theorem mem_addedNames {name : String} : name ∈ addedNames fromSpec toSpec ↔
    name ∈ toSpec.columnNames ∧ name ∉ fromSpec.columnNames := by
  simp [addedNames]

/-- The statements run on the table and leave the one that `toSpec` describes. -/
def Realises (plan : Plan) (toSpec : TableSpec) (fresh : Data)
    (table : Relation String String Data) : Prop :=
  ∃ after, run ⟨"", fresh⟩ plan.statements table = some after ∧
    Describes toSpec.named toSpec.comment after

theorem effectiveRenames_eq_nil {pairs : List ColumnRenameDDL}
    (named : ∀ rename ∈ pairs, rename.oldName ≠ "" ∧ rename.newName ≠ "") :
    effectiveRenames pairs = [] ↔ pairs = [] := by
  have all : (pairs.filter fun rename => rename.oldName ≠ "" ∧ rename.newName ≠ "") = pairs :=
    List.filter_eq_self.mpr fun rename member => by simpa using named rename member
  simp only [effectiveRenames, all, List.map_eq_nil_iff]

-- A rename makes its new name a column, so the addition of that name fails.
theorem no_rename_of_run {pairs : List ColumnRenameDDL}
    {added : List (Addition String String String)}
    (names : added.map Addition.name = addedNames fromSpec toSpec)
    (named : ∀ rename ∈ pairs, rename.oldName ≠ "" ∧ rename.newName ≠ "")
    (newNames : ∀ rename ∈ pairs,
      rename.newName ∈ toSpec.columnNames ∧ rename.newName ∉ fromSpec.columnNames)
    {rest : List Statement} {blank : Column String Data} {table after : Relation String String Data}
    (ran : run blank (renames (effectiveRenames pairs) ++ (additions added ++ rest)) table =
      some after) : pairs = [] := by
  by_contra proper
  obtain ⟨renamed, first, later⟩ := run_append_eq_some _ ran
  obtain ⟨_, second, _⟩ := run_append_eq_some _ later
  obtain ⟨pair, member, occupied⟩ :=
    run_renames_last _ (mt (effectiveRenames_eq_nil named).mp proper) first
  obtain ⟨rename, kept, rfl⟩ := List.mem_map.mp member
  -- The new name is a column by now, and ADD COLUMN names it again.
  have isAdded : rename.newName ∈ added.map Addition.name :=
    names ▸ mem_addedNames.mpr (newNames rename (List.mem_of_mem_filter kept))
  obtain ⟨addition, inAdded, same⟩ := List.mem_map.mp isAdded
  have free := (run_additions_eq_some _ second).1 addition inAdded
  simp [← same, free] at occupied

/-- With renames that go from dropped to added names, the target is reached
exactly when there is no rename, whose new name the builder would add a second
time, and no added column has a comment, which the builder never writes. -/
theorem realises_iff_no_rename_no_added_comment {pairs : List ColumnRenameDDL} {options : AlterTableOptions}
    {tableName : String} {plan : Plan}
    (built : buildAlterPlan spec fromSpec toSpec pairs options = .ok (tableName, plan))
    (destructive : options.allowDestructive = true) (comments : spec.supportsComments = true)
    (fromDistinct : fromSpec.columnNames.Nodup) (toDistinct : toSpec.columnNames.Nodup)
    (fromNamed : "" ∉ fromSpec.columnNames) (toNamed : "" ∉ toSpec.columnNames)
    (oldNames : ∀ rename ∈ pairs,
      rename.oldName ∈ fromSpec.columnNames ∧ rename.oldName ∉ toSpec.columnNames)
    (newNames : ∀ rename ∈ pairs,
      rename.newName ∈ toSpec.columnNames ∧ rename.newName ∉ fromSpec.columnNames)
    {table : Relation String String Data}
    (described : Describes fromSpec.named fromSpec.comment table) (fresh : Data) :
    Realises plan toSpec fresh table ↔
      pairs = [] ∧ ∀ column ∈ toSpec.columns,
        column.name ∉ fromSpec.columnNames → column.comment = "" := by
  obtain ⟨added, names, plain, statements, _⟩ := buildAlterPlan_ok built
  simp only [destructive, comments, ↓reduceIte] at statements
  have named : ∀ rename ∈ pairs, rename.oldName ≠ "" ∧ rename.newName ≠ "" :=
    fun rename member => ⟨fun unnamed => fromNamed (unnamed ▸ (oldNames rename member).1),
      fun unnamed => toNamed (unnamed ▸ (newNames rename member).1)⟩
  obtain ⟨target, ran, note, common, new, others⟩ :=
    run_without_renames ⟨"", fresh⟩ toSpec.named toSpec.comment described
      (by simpa [addedNames] using names) (by simpa using fromDistinct)
      (by simpa using toDistinct) (by simpa using toNamed)
  simp only [TableSpec.map_name_named] at ran common others
  have bare : ∀ column ∈ toSpec.columns, column.name ∉ fromSpec.columnNames →
      (target.columns column.name).map Column.note = some "" := by
    intro column inTo notFrom
    have isAdded : column.name ∈ added.map Addition.name :=
      names ▸ mem_addedNames.mpr ⟨List.mem_map_of_mem inTo, notFrom⟩
    obtain ⟨addition, member, same⟩ := List.mem_map.mp isAdded
    simp [← same, new addition member, Addition.column, plain addition member]
  constructor
  · rintro ⟨after, ranAll, reached⟩
    have noRenames : pairs = [] := no_rename_of_run names named newNames (statements ▸ ranAll)
    refine ⟨noRenames, fun column inTo notFrom => ?_⟩
    subst noRenames
    rw [statements] at ranAll
    have same : after = target := Option.some.inj (ranAll.symm.trans ran)
    have inNamed : column.named ∈ toSpec.named := List.mem_map_of_mem inTo
    have found := lookupColumn_of_mem (by simpa using toDistinct) inNamed
    have wanted := reached.notes column.name
    rw [same, bare column inTo notFrom, show column.name = column.named.name from rfl, found]
      at wanted
    exact (Option.some.inj wanted).symm
  · rintro ⟨rfl, uncommented⟩
    refine ⟨target, by rw [statements]; exact ran, ?_⟩
    apply describes_of_columns (by simpa using toDistinct) _ (by simpa using others) note
    intro column inNamed
    by_cases inFrom : column.name ∈ fromSpec.columnNames
    · exact common column inNamed inFrom
    · obtain ⟨original, inTo, rfl⟩ := List.mem_map.mp inNamed
      have empty := uncommented original inTo inFrom
      simpa [ColumnDDL.named, empty] using bare original inTo inFrom

end Target

/-! ## Concrete requests -/

/-- A driver without hooks that quotes with double quotes. -/
def plainSpec (supportsComments : Bool) : DriverSpec Unit where
  id := "plain"
  name := "Plain"
  sqlDriverName := "plain"
  identifierQuoteLeft := "\""
  identifierQuoteRight := "\""
  supportsComments := supportsComments
  buildDSN := fun config => .ok config.database

def textColumn (name comment : String) : ColumnDDL := { name, type := "TEXT", comment }

def usersTable (columns : List ColumnDDL) : TableSpec := { name := "users", columns }

def TableSpec.table (spec : TableSpec) : Relation String String Unit :=
  tableOf spec.named spec.comment

theorem widened_table_realised :
    ∃ plan, buildAlterPlan (plainSpec true) (usersTable [textColumn "a" "x"])
        (usersTable [textColumn "a" "y", textColumn "b" ""]) []
        { allowDestructive := true } = .ok ("\"users\"", plan) ∧
      Realises plan (usersTable [textColumn "a" "y", textColumn "b" ""]) ()
        (usersTable [textColumn "a" "x"]).table := by
  refine ⟨_, rfl, (realises_iff_no_rename_no_added_comment rfl rfl rfl ?_ ?_ ?_ ?_ ?_
    ?_ (tableOf_describes _ _) ()).mpr ?_⟩
  all_goals decide

-- After RENAME COLUMN "a" TO "b" the statement ADD COLUMN "b" fails.
theorem renamed_column_added_again :
    ∃ plan, buildAlterPlan (plainSpec true) (usersTable [textColumn "a" ""])
        (usersTable [textColumn "b" ""]) [⟨"a", "b"⟩]
        { allowDestructive := true } = .ok ("\"users\"", plan) ∧
      ¬ Realises plan (usersTable [textColumn "b" ""]) ()
        (usersTable [textColumn "a" ""]).table := by
  refine ⟨_, rfl, ?_⟩
  rintro ⟨after, ran, _⟩
  cases ran

end Onetcli.DbIpc
