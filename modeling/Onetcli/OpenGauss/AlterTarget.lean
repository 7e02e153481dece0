import Onetcli.OpenGauss.Ddl

/-!
What the statements of the openGauss ALTER TABLE builder do to a table. A column
that was renamed away is still in the drop list, where its old name no longer
exists.
-/

namespace Onetcli.OpenGauss

open Text AlterTable ColumnTable Protocol

def effectiveRenames (pairs : List ColumnRenameSpec) : List (String × String) :=
  (pairs.filter fun rename => !(isBlank rename.oldName || isBlank rename.newName)).map
    ColumnRenameSpec.pair

theorem foldl_renameColumn (options : AlterTableOptions) (pairs : List ColumnRenameSpec)
    (plan : Plan) : pairs.foldl (renameColumn options) plan = { plan with
        statements := plan.statements ++ renames (effectiveRenames pairs)
        rollback := (if options.withRollback then renamesBack (effectiveRenames pairs) else []) ++
          plan.rollback } := by
  rw [foldl_emit options.withRollback
    (fun rename : ColumnRenameSpec => isBlank rename.oldName || isBlank rename.newName)
    (fun rename => .rename rename.oldName rename.newName)
    (fun rename => .rename rename.newName rename.oldName) (renameColumn options)
    (fun plan rename => rfl)]
  simp [effectiveRenames, renames, renamesBack, Function.comp_def, ColumnRenameSpec.pair]

def addedNote (column : ColumnSpec) : Option String :=
  if isBlank column.comment then none else some column.comment

theorem addColumns_ok {options : AlterTableOptions} {renamedTargets fromColumns : List String}
    {columns : List ColumnSpec} {plan after : Plan}
    (built : addColumns options renamedTargets fromColumns columns plan = .ok after) :
    ∃ added : List (Addition String String String),
      added.map Addition.name = (columns.map ColumnSpec.name).filter
        (fun name => name ∉ renamedTargets ∧ name ∉ fromColumns) ∧ after = { plan with
        statements := plan.statements ++ additions added
        rollback := (if options.withRollback then drops (added.map Addition.name).reverse
          else []) ++ plan.rollback } := by
  induction columns generalizing plan with
  | nil =>
    cases built
    exact ⟨[], by simp [additions, drops]⟩
  | cons column rest ih =>
    unfold addColumns at built
    split at built
    · rename_i unknown
      cases defined : columnDefinition column with
      | error err => simp [defined] at built
      | ok definition =>
        simp only [defined] at built
        obtain ⟨added, names, shape⟩ := ih built
        refine ⟨⟨column.name, definition, addedNote column⟩ :: added,
          by simp [unknown, names], ?_⟩
        rw [shape]
        cases rollback : options.withRollback <;>
          cases empty : isBlank column.comment <;>
          simp [addColumn, addedNote, rollback, empty, Plan.emit, Plan.push, additions,
            Addition.script, drops]
    · rename_i known
      obtain ⟨added, names, shape⟩ := ih built
      exact ⟨added, by simpa [known] using names, shape⟩

variable {p : BuildAlterTableParams}

def addedNames (p : BuildAlterTableParams) : List String :=
  p.toSpec.columnNames.filter fun name =>
    name ∉ p.columnRenames.map ColumnRenameSpec.newName ∧ name ∉ p.fromSpec.columnNames

def droppedNames (p : BuildAlterTableParams) : List String :=
  p.fromSpec.columnNames.filter (· ∉ p.toSpec.columnNames)

-- The phases of an accepted plan.
theorem buildAlterPlan_ok {tableName : String} {plan : Plan}
    (built : buildAlterPlan p = .ok (tableName, plan)) :
    ∃ added : List (Addition String String String), added.map Addition.name = addedNames p ∧
      plan.statements = renames (effectiveRenames p.columnRenames) ++ (additions added ++
        ((if p.options.allowDestructive then drops (droppedNames p) else []) ++
        (tableNote p.fromSpec.comment p.toSpec.comment ++
          notes (newNotes (changedColumns p.fromSpec.named p.toSpec.named))))) ∧
      plan.rollback = if p.options.withRollback then
        (notes (oldNotes (changedColumns p.fromSpec.named p.toSpec.named)).reverse ++
          tableNote p.toSpec.comment p.fromSpec.comment) ++
        (drops (addedNames p).reverse ++ renamesBack (effectiveRenames p.columnRenames))
        else [] := by
  have dropLoop : ∀ plan : Plan, p.fromSpec.columns.foldl (dropColumn p.toSpec.columnNames) plan =
      p.fromSpec.columnNames.foldl (dropNamed p.toSpec.columnNames) plan := by
    intro plan
    simp only [TableSpec.columnNames, List.foldl_map]
    rfl
  unfold buildAlterPlan at built
  simp only [foldl_renameColumn, dropLoop, foldl_dropNamed, diffComments_eq] at built
  generalize (if isBlank p.toSpec.name = true then p.fromSpec else p.toSpec) = table at built
  split at built
  · cases built
  · cases extended : addColumns p.options (p.columnRenames.map ColumnRenameSpec.newName)
        p.fromSpec.columnNames p.toSpec.columns
        { statements := renames (effectiveRenames p.columnRenames)
          rollback := if p.options.withRollback then
            renamesBack (effectiveRenames p.columnRenames) else [] }
      with
    | error err => simp [extended] at built
    | ok middle =>
      obtain ⟨added, names, shape⟩ := addColumns_ok extended
      simp only [List.nil_append, List.append_nil, extended, Except.ok.injEq,
        Prod.mk.injEq] at built
      obtain ⟨_, rfl⟩ := built
      refine ⟨added, names, ?_, ?_⟩
      · rw [shape]
        cases p.options.allowDestructive <;> simp [droppedNames]
      · rw [shape, names]
        cases p.options.allowDestructive <;> cases p.options.withRollback <;>
          simp [addedNames, TableSpec.columnNames]

theorem effectiveRenames_eq {pairs : List ColumnRenameSpec}
    (named : ∀ rename ∈ pairs, isBlank rename.oldName = false ∧ isBlank rename.newName = false) :
    effectiveRenames pairs = pairs.map ColumnRenameSpec.pair := by
  rw [effectiveRenames, List.filter_eq_self.mpr fun rename member => by simp [named rename member]]

section Target

variable {Data : Type}

theorem renamed_old_free (oldDistinct : (p.columnRenames.map ColumnRenameSpec.oldName).Nodup)
    (newDistinct : (p.columnRenames.map ColumnRenameSpec.newName).Nodup)
    (oldNames : ∀ rename ∈ p.columnRenames, rename.oldName ∈ p.fromSpec.columnNames)
    (newNames : ∀ rename ∈ p.columnRenames, rename.newName ∉ p.fromSpec.columnNames)
    {table renamed : Relation String String Data} {blank : Column String Data}
    (described : Describes p.fromSpec.named p.fromSpec.comment table)
    (ran : run blank (renames (p.columnRenames.map ColumnRenameSpec.pair) : List Statement) table =
      some renamed) {rename : ColumnRenameSpec} (member : rename ∈ p.columnRenames) :
    renamed.columns rename.oldName = none := by
  have present : ∀ pair ∈ p.columnRenames.map ColumnRenameSpec.pair,
      (table.columns pair.1).isSome := by
    intro pair inPairs
    obtain ⟨other, inRenames, rfl⟩ := List.mem_map.mp inPairs
    exact (described.isSome_iff _).mpr (by simpa using oldNames other inRenames)
  have notNew : rename.oldName ∉ (p.columnRenames.map ColumnRenameSpec.pair).map Prod.snd := by
    intro again
    simp only [List.map_map, List.mem_map, Function.comp_apply] at again
    obtain ⟨other, inRenames, same⟩ := again
    apply newNames other inRenames
    rw [← ColumnRenameSpec.pair_snd, same]
    exact oldNames rename member
  rw [(run_renames_columns _ (by simpa [Function.comp_def] using oldDistinct)
    (by simpa [Function.comp_def] using newDistinct) present ran).2 rename.oldName notNew]
  simp only [List.map_map, ite_eq_left_iff]
  intro outside
  exact absurd (List.mem_map.mpr ⟨rename, member, rfl⟩) outside

theorem realises_without_rename {plan : Plan} {added : List (Addition String String String)}
    (names : added.map Addition.name = addedNames p)
    (statements : plan.statements = additions added ++ (drops (droppedNames p) ++
      (tableNote p.fromSpec.comment p.toSpec.comment ++
        notes (newNotes (changedColumns p.fromSpec.named p.toSpec.named)))))
    (fromDistinct : p.fromSpec.columnNames.Nodup) (toDistinct : p.toSpec.columnNames.Nodup)
    (toNamed : "" ∉ p.toSpec.columnNames) {table : Relation String String Data}
    (described : Describes p.fromSpec.named p.fromSpec.comment table) (fresh : Data)
    (noneRenamed : p.columnRenames = []) : Realises plan p fresh table := by
  obtain ⟨after, ran, _, common, new, others⟩ :=
    run_without_renames ⟨"", fresh⟩ p.toSpec.named p.toSpec.comment described
      (by simpa [addedNames, noneRenamed] using names) (by simpa using fromDistinct)
      (by simpa using toDistinct) (by simpa using toNamed)
  simp only [TableSpec.map_name_named] at ran common others
  refine ⟨after, by rw [statements]; exact ran, fun name => ⟨?_, ?_⟩, by simp [noneRenamed]⟩
  · intro there
    by_contra outside
    simp [others name outside] at there
  · intro inTo
    by_cases inFrom : name ∈ p.fromSpec.columnNames
    · rw [← TableSpec.map_name_named] at inTo
      obtain ⟨column, member, rfl⟩ := List.mem_map.mp inTo
      have noted := common column member inFrom
      rw [← Option.isSome_map (f := Column.note), noted]
      rfl
    · have isAdded : name ∈ added.map Addition.name := by
        rw [names, addedNames, List.mem_filter]
        simp [noneRenamed, inTo, inFrom]
      obtain ⟨addition, member, rfl⟩ := List.mem_map.mp isAdded
      simp [new addition member]

/-- With renames that go from dropped to added names, the target is reached
exactly when there is no rename: the old name of a rename is dropped once more. -/
theorem realises_iff_no_rename {tableName : String} {plan : Plan}
    (built : buildAlterPlan p = .ok (tableName, plan))
    (destructive : p.options.allowDestructive = true)
    (fromDistinct : p.fromSpec.columnNames.Nodup) (toDistinct : p.toSpec.columnNames.Nodup)
    (fromNamed : ∀ name ∈ p.fromSpec.columnNames, isBlank name = false)
    (toNamed : ∀ name ∈ p.toSpec.columnNames, isBlank name = false)
    (oldDistinct : (p.columnRenames.map ColumnRenameSpec.oldName).Nodup)
    (newDistinct : (p.columnRenames.map ColumnRenameSpec.newName).Nodup)
    (oldNames : ∀ rename ∈ p.columnRenames,
      rename.oldName ∈ p.fromSpec.columnNames ∧ rename.oldName ∉ p.toSpec.columnNames)
    (newNames : ∀ rename ∈ p.columnRenames,
      rename.newName ∈ p.toSpec.columnNames ∧ rename.newName ∉ p.fromSpec.columnNames)
    {table : Relation String String Data}
    (described : Describes p.fromSpec.named p.fromSpec.comment table) (fresh : Data) :
    Realises plan p fresh table ↔ p.columnRenames = [] := by
  obtain ⟨added, names, statements, _⟩ := buildAlterPlan_ok built
  simp only [destructive, ↓reduceIte] at statements
  rw [effectiveRenames_eq fun rename member => ⟨fromNamed _ (oldNames rename member).1,
    toNamed _ (newNames rename member).1⟩] at statements
  constructor
  · rintro ⟨after, ranAll, _⟩
    by_contra proper
    obtain ⟨rename, member⟩ := List.exists_mem_of_ne_nil _ proper
    rw [statements] at ranAll
    obtain ⟨renamed, first, later⟩ := run_append_eq_some _ ranAll
    obtain ⟨widened, second, later⟩ := run_append_eq_some _ later
    obtain ⟨_, third, _⟩ := run_append_eq_some _ later
    -- The old name is gone after the renames and is not added again.
    have moved : renamed.columns rename.oldName = none :=
      renamed_old_free oldDistinct newDistinct (fun other inRenames => (oldNames other inRenames).1)
        (fun other inRenames => (newNames other inRenames).2) described first member
    have gone : widened.columns rename.oldName = none := by
      rw [(run_additions_eq_some _ second).2.1 rename.oldName, moved]
      rw [names, addedNames, List.mem_filter]
      exact fun isAdded => (oldNames rename member).2 isAdded.1
    have dropped : rename.oldName ∈ droppedNames p := by
      rw [droppedNames, List.mem_filter]
      simpa using oldNames rename member
    rw [run_drops_absent _ dropped gone] at third
    cases third
  · intro noneRenamed
    apply realises_without_rename names _ fromDistinct toDistinct _ described fresh noneRenamed
    · simpa [noneRenamed, renames] using statements
    · exact fun unnamed => absurd (toNamed "" unnamed) (by decide)

end Target

theorem reshaped_table_realised :
    ∃ plan, buildAlterPlan (alterUsers ["a", "b"] ["b", "c"] []) = .ok ("\"users\"", plan) ∧
      Realises plan (alterUsers ["a", "b"] ["b", "c"] []) () (usersTable ["a", "b"]).table := by
  obtain ⟨plan, built⟩ : ∃ plan, buildAlterPlan (alterUsers ["a", "b"] ["b", "c"] []) =
      .ok ("\"users\"", plan) := ⟨_, rfl⟩
  refine ⟨plan, built, (realises_iff_no_rename built rfl ?_ ?_ ?_ ?_ ?_ ?_ ?_ ?_
    (tableOf_describes _ _) ()).mpr rfl⟩
  all_goals decide

-- After RENAME COLUMN "a" TO "b" the statement DROP COLUMN "a" fails.
theorem renamed_column_dropped_again :
    ∃ plan, buildAlterPlan (alterUsers ["a"] ["b"] [⟨"a", "b"⟩]) = .ok ("\"users\"", plan) ∧
      ¬ Realises plan (alterUsers ["a"] ["b"] [⟨"a", "b"⟩]) () (usersTable ["a"]).table := by
  refine ⟨_, rfl, ?_⟩
  rintro ⟨after, ran, _⟩
  cases ran

end Onetcli.OpenGauss
