import Onetcli.DuckDb.Ddl

/-!
What the statements of the DuckDB ALTER TABLE builder do to a table. The
additions and drops are chosen as if all renames happened at once, while the
RENAME statements run one after the other.
-/

namespace Onetcli.DuckDb

open Text AlterTable ColumnTable Protocol

/-- The renames for which a statement is written. -/
def effectiveRenames (pairs : List ColumnRenameSpec) : List (String × String) :=
  (pairs.filter fun rename => rename.oldName ≠ rename.newName ∧ !isBlank rename.oldName ∧
    !isBlank rename.newName).map ColumnRenameSpec.pair

theorem foldl_renameColumn (pairs : List ColumnRenameSpec) (plan : Plan) :
    pairs.foldl renameColumn plan =
      { plan with statements := plan.statements ++ renames (effectiveRenames pairs) } := by
  rw [foldl_emit false (fun rename : ColumnRenameSpec => !decide (rename.oldName ≠ rename.newName ∧
      !isBlank rename.oldName ∧ !isBlank rename.newName))
    (fun rename => .rename rename.oldName rename.newName)
    (fun rename => .rename rename.newName rename.oldName) renameColumn (by
      intro plan rename
      by_cases written : rename.oldName ≠ rename.newName ∧ !isBlank rename.oldName ∧
          !isBlank rename.newName
      · simp [renameColumn, written, Plan.emit, Plan.push]
      · rw [renameColumn, if_neg written, if_pos (by rw [decide_eq_false written]; rfl)])]
  simp [effectiveRenames, renames, Function.comp_def]

def addedNote (column : ColumnSpec) : Option String :=
  if isBlank column.comment then none else some column.comment

def addition (column : ColumnSpec) : Addition String String String :=
  ⟨column.name, columnDefinition column, addedNote column⟩

theorem foldl_addColumn (renamedNew fromColumns : List String) (columns : List ColumnSpec)
    (plan : Plan) : columns.foldl (addColumn renamedNew fromColumns) plan = { plan with
        statements := plan.statements ++ additions ((columns.filter fun column =>
          column.name ∉ renamedNew ∧ column.name ∉ fromColumns).map addition) } := by
  induction columns generalizing plan with
  | nil => simp [additions]
  | cons column rest ih =>
    rw [List.foldl_cons, ih]
    by_cases renamed : column.name ∈ renamedNew
    · simp [addColumn, renamed]
    · by_cases known : column.name ∈ fromColumns
      · simp [addColumn, renamed, known]
      · cases empty : isBlank column.comment <;>
          simp [addColumn, renamed, known, empty, Plan.push, additions, addition, addedNote,
            Addition.script]

theorem foldl_dropColumn (renamedOld toColumns : List String) (columns : List ColumnSpec)
    (plan : Plan) : columns.foldl (dropColumn renamedOld toColumns) plan = { plan with
        statements := plan.statements ++ drops ((columns.map ColumnSpec.name).filter fun name =>
          name ∉ renamedOld ∧ name ∉ toColumns) } := by
  induction columns generalizing plan with
  | nil => simp [drops]
  | cons column rest ih =>
    rw [List.foldl_cons, ih]
    by_cases renamed : column.name ∈ renamedOld
    · simp [dropColumn, renamed]
    · by_cases kept : column.name ∈ toColumns <;>
        simp [dropColumn, renamed, kept, Plan.push, drops]

variable (params : BuildAlterTableParams)

def oldNames : List String := params.columnRenames.map ColumnRenameSpec.oldName

def newNames : List String := params.columnRenames.map ColumnRenameSpec.newName

def added : List (Addition String String String) :=
  (params.toSpec.columns.filter fun column =>
    column.name ∉ newNames params ∧ column.name ∉ params.fromSpec.columnNames).map addition

def droppedNames : List String :=
  params.fromSpec.columnNames.filter fun name =>
    name ∉ oldNames params ∧ name ∉ params.toSpec.columnNames

-- The phases of a plan.
theorem buildAlterPlan_eq : (buildAlterPlan params).statements =
      renames (effectiveRenames params.columnRenames) ++ (additions (added params) ++
        ((if params.options.allowDestructive then drops (droppedNames params) else []) ++
        (tableNote params.fromSpec.comment params.toSpec.comment ++
          notes (newNotes (changedColumns params.fromSpec.named params.toSpec.named))))) ∧
    (buildAlterPlan params).rollback = if params.options.withRollback then
      notes (oldNotes (changedColumns params.fromSpec.named params.toSpec.named)).reverse ++
        tableNote params.toSpec.comment params.fromSpec.comment else [] := by
  simp only [buildAlterPlan, foldl_renameColumn, foldl_addColumn, foldl_dropColumn,
    diffComments_eq]
  cases params.options.allowDestructive <;>
    simp [added, droppedNames, newNames, oldNames, TableSpec.columnNames]

theorem added_names : (added params).map Addition.name = params.toSpec.columnNames.filter
    fun name => name ∉ newNames params ∧ name ∉ params.fromSpec.columnNames := by
  simp only [added, TableSpec.columnNames, List.filter_map, List.map_map]
  rfl

variable {params}

variable {name : String}

theorem mem_added : name ∈ (added params).map Addition.name ↔
    name ∈ params.toSpec.columnNames ∧ name ∉ newNames params ∧
      name ∉ params.fromSpec.columnNames := by
  rw [added_names, List.mem_filter, decide_eq_true_eq]

theorem mem_dropped : name ∈ droppedNames params ↔
    name ∈ params.fromSpec.columnNames ∧ name ∉ oldNames params ∧
      name ∉ params.toSpec.columnNames := by
  rw [droppedNames, List.mem_filter, decide_eq_true_eq]

/-- Distinct names that are not blank, and renames that map columns of the
source one to one to columns of the target. -/
structure Proper (params : BuildAlterTableParams) : Prop where
  fromDistinct : params.fromSpec.columnNames.Nodup
  toDistinct : params.toSpec.columnNames.Nodup
  fromNamed : ∀ name ∈ params.fromSpec.columnNames, isBlank name = false
  toNamed : ∀ name ∈ params.toSpec.columnNames, isBlank name = false
  oldDistinct : (oldNames params).Nodup
  newDistinct : (newNames params).Nodup
  oldColumns : ∀ rename ∈ params.columnRenames, rename.oldName ∈ params.fromSpec.columnNames
  newColumns : ∀ rename ∈ params.columnRenames, rename.newName ∈ params.toSpec.columnNames

namespace Proper

variable (proper : Proper params)

include proper

theorem mem_effective {pair : String × String} : pair ∈ effectiveRenames params.columnRenames ↔
      ∃ rename ∈ params.columnRenames, rename.oldName ≠ rename.newName ∧ rename.pair = pair := by
  simp only [effectiveRenames, List.mem_map, List.mem_filter]
  refine exists_congr fun rename => ?_
  constructor
  · rintro ⟨⟨member, written⟩, same⟩
    exact ⟨member, (of_decide_eq_true written).1, same⟩
  · rintro ⟨member, moves, same⟩
    refine ⟨⟨member, decide_eq_true ⟨moves, ?_, ?_⟩⟩, same⟩
    · simp [proper.fromNamed _ (proper.oldColumns rename member)]
    · simp [proper.toNamed _ (proper.newColumns rename member)]

theorem effective_old_distinct : ((effectiveRenames params.columnRenames).map Prod.fst).Nodup := by
  rw [effectiveRenames, List.map_map]
  exact proper.oldDistinct.sublist (List.filter_sublist.map _)

theorem effective_new_distinct : ((effectiveRenames params.columnRenames).map Prod.snd).Nodup := by
  rw [effectiveRenames, List.map_map]
  exact proper.newDistinct.sublist (List.filter_sublist.map _)

theorem not_moved {rename : ColumnRenameSpec} (member : rename ∈ params.columnRenames)
    (stays : rename.oldName = rename.newName) :
    rename.oldName ∉ (effectiveRenames params.columnRenames).map Prod.fst ∧
      rename.oldName ∉ (effectiveRenames params.columnRenames).map Prod.snd := by
  constructor
  · intro moved
    obtain ⟨pair, inPairs, same⟩ := List.mem_map.mp moved
    obtain ⟨other, inRenames, moves, rfl⟩ := proper.mem_effective.mp inPairs
    have equal : other = rename := List.inj_on_of_nodup_map proper.oldDistinct inRenames member same
    exact moves (equal ▸ stays)
  · intro moved
    obtain ⟨pair, inPairs, same⟩ := List.mem_map.mp moved
    obtain ⟨other, inRenames, moves, rfl⟩ := proper.mem_effective.mp inPairs
    have equal : other = rename :=
      List.inj_on_of_nodup_map proper.newDistinct inRenames member (same.trans stays)
    exact moves (equal ▸ stays)

theorem moved_old (isOld : name ∈ (effectiveRenames params.columnRenames).map Prod.fst) :
    name ∈ params.fromSpec.columnNames ∧ name ∈ oldNames params := by
  obtain ⟨pair, member, rfl⟩ := List.mem_map.mp isOld
  obtain ⟨rename, inRenames, _, rfl⟩ := proper.mem_effective.mp member
  exact ⟨proper.oldColumns rename inRenames, List.mem_map_of_mem inRenames⟩

theorem moved_new (isNew : name ∈ (effectiveRenames params.columnRenames).map Prod.snd) :
    name ∈ params.toSpec.columnNames ∧ name ∈ newNames params := by
  obtain ⟨pair, member, rfl⟩ := List.mem_map.mp isNew
  obtain ⟨rename, inRenames, _, rfl⟩ := proper.mem_effective.mp member
  exact ⟨proper.newColumns rename inRenames, List.mem_map_of_mem inRenames⟩

section Renamed

variable {Data : Type} {table renamed : Relation String String Data} {blank : Column String Data}
  (described : Describes params.fromSpec.named params.fromSpec.comment table)
  (ran : run blank (renames (effectiveRenames params.columnRenames) : List Statement) table =
    some renamed)

include described

theorem effective_present : ∀ pair ∈ effectiveRenames params.columnRenames,
    (table.columns pair.1).isSome := by
  intro pair member
  obtain ⟨rename, inRenames, _, rfl⟩ := proper.mem_effective.mp member
  exact (described.isSome_iff _).mpr (by simpa using proper.oldColumns rename inRenames)

include ran

theorem renamed_new {rename : ColumnRenameSpec} (member : rename ∈ params.columnRenames)
    (moves : rename.oldName ≠ rename.newName) :
    renamed.columns rename.newName = table.columns rename.oldName :=
  (run_renames_columns blank proper.effective_old_distinct proper.effective_new_distinct
    (proper.effective_present described) ran).1 rename.pair
      (proper.mem_effective.mpr ⟨rename, member, moves, rfl⟩)

theorem renamed_other (other : name ∉ (effectiveRenames params.columnRenames).map Prod.snd) :
    renamed.columns name = if name ∈ (effectiveRenames params.columnRenames).map Prod.fst then
      none else table.columns name :=
  (run_renames_columns blank proper.effective_old_distinct proper.effective_new_distinct
    (proper.effective_present described) ran).2 name other

-- Where the target keeps an old name only for a renamed column, the common columns are there
-- after the renames.
theorem renamed_common
    (reused : ∀ rename ∈ params.columnRenames, rename.oldName ∈ params.toSpec.columnNames →
      rename.oldName ∈ newNames params)
    (inFrom : name ∈ params.fromSpec.columnNames) (inTo : name ∈ params.toSpec.columnNames) :
    (renamed.columns name).isSome := by
  have present := fun {name} => (described.isSome_iff name).mpr
  simp only [TableSpec.map_name_named] at present
  by_cases isNew : name ∈ (effectiveRenames params.columnRenames).map Prod.snd
  · obtain ⟨pair, member, rfl⟩ := List.mem_map.mp isNew
    obtain ⟨rename, inRenames, moves, rfl⟩ := proper.mem_effective.mp member
    rw [ColumnRenameSpec.pair_snd, proper.renamed_new described ran inRenames moves]
    exact present (proper.oldColumns rename inRenames)
  · rw [proper.renamed_other described ran isNew]
    split
    · rename_i isOld
      obtain ⟨pair, member, rfl⟩ := List.mem_map.mp isOld
      obtain ⟨rename, inRenames, moves, rfl⟩ := proper.mem_effective.mp member
      -- Some rename has this name as its new one; it does not move, so it is the same rename.
      obtain ⟨other, inOther, same⟩ := List.mem_map.mp (reused rename inRenames inTo)
      by_cases stays : other.oldName = other.newName
      · exact absurd isOld (by
          rw [ColumnRenameSpec.pair_fst, ← same, ← stays]
          exact (proper.not_moved inOther stays).1)
      · exact absurd (List.mem_map.mpr
          ⟨other.pair, proper.mem_effective.mpr ⟨other, inOther, stays, rfl⟩, same⟩) isNew
    · exact present inFrom

theorem renamed_added (isAdded : name ∈ (added params).map Addition.name) :
    renamed.columns name = none := by
  obtain ⟨_, notNew, notFrom⟩ := mem_added.mp isAdded
  rw [proper.renamed_other described ran fun isNew => notNew (proper.moved_new isNew).2,
    if_neg fun isOld => notFrom (proper.moved_old isOld).1]
  exact (described.eq_none_iff name).mpr (by simpa using notFrom)

theorem renamed_dropped (isDropped : name ∈ droppedNames params) :
    (renamed.columns name).isSome := by
  obtain ⟨inFrom, notOld, notTo⟩ := mem_dropped.mp isDropped
  rw [proper.renamed_other described ran fun isNew => notTo (proper.moved_new isNew).1,
    if_neg fun isOld => notOld (proper.moved_old isOld).2]
  exact (described.isSome_iff name).mpr (by simpa using inFrom)

theorem renamed_source {rename : ColumnRenameSpec} (member : rename ∈ params.columnRenames) :
    renamed.columns rename.newName = table.columns rename.oldName := by
  by_cases stays : rename.oldName = rename.newName
  · obtain ⟨notOld, notNew⟩ := proper.not_moved member stays
    rw [← stays, proper.renamed_other described ran notNew, if_neg notOld]
  · exact proper.renamed_new described ran member stays

-- Apart from the names still to be added and dropped, the renames leave the columns of the
-- target.
theorem renamed_kept
    (reused : ∀ rename ∈ params.columnRenames, rename.oldName ∈ params.toSpec.columnNames →
      rename.oldName ∈ newNames params) (notAdded : name ∉ (added params).map Addition.name)
    (notDropped : name ∉ droppedNames params) :
    (renamed.columns name).isSome ↔ name ∈ params.toSpec.columnNames := by
  have present := described.isSome_iff name
  simp only [TableSpec.map_name_named] at present
  constructor
  · intro stands
    by_contra notTo
    -- Not in the target, so neither new nor kept: it was moved away or never there.
    rw [proper.renamed_other described ran fun isNew => notTo (proper.moved_new isNew).1] at stands
    split at stands
    · cases stands
    · rename_i notMoved
      by_cases isOld : name ∈ oldNames params
      · obtain ⟨rename, member, rfl⟩ := List.mem_map.mp isOld
        by_cases stays : rename.oldName = rename.newName
        · exact notTo (stays ▸ proper.newColumns rename member)
        · exact notMoved (List.mem_map.mpr ⟨rename.pair,
            proper.mem_effective.mpr ⟨rename, member, stays, rfl⟩, rfl⟩)
      · exact notDropped (mem_dropped.mpr ⟨present.mp stands, isOld, notTo⟩)
  · intro inTo
    by_cases inFrom : name ∈ params.fromSpec.columnNames
    · exact proper.renamed_common described ran reused inFrom inTo
    · have isNew : name ∈ newNames params := by
        by_contra notNew
        exact notAdded (mem_added.mpr ⟨inTo, notNew, inFrom⟩)
      obtain ⟨rename, member, rfl⟩ := List.mem_map.mp isNew
      rw [proper.renamed_source described ran member]
      exact (described.isSome_iff _).mpr (by simpa using proper.oldColumns rename member)

end Renamed

section Target

variable {Data : Type} {table : Relation String String Data}
  (described : Describes params.fromSpec.named params.fromSpec.comment table) (fresh : Data)

include described

-- After renames that ran, the rest of the plan reaches the target.
theorem realises_of_renamed {renamed : Relation String String Data}
    (destructive : params.options.allowDestructive = true)
    (reused : ∀ rename ∈ params.columnRenames, rename.oldName ∈ params.toSpec.columnNames →
      rename.oldName ∈ newNames params)
    (ran : run ⟨"", fresh⟩ (renames (effectiveRenames params.columnRenames) : List Statement)
      table = some renamed) : Realises (buildAlterPlan params) params fresh table := by
  have commented : ∀ pair ∈ newNotes (changedColumns params.fromSpec.named params.toSpec.named),
      pair.1 ∉ droppedNames params ∧ (renamed.columns pair.1).isSome := by
    intro pair member
    obtain ⟨column, inTo, inFrom, rfl⟩ := mem_newNotes member
    rw [TableSpec.map_name_named] at inFrom
    have inNames := TableSpec.named_name_mem inTo
    exact ⟨fun dropped => (mem_dropped.mp dropped).2.2 inNames,
      proper.renamed_common described ran reused inFrom inNames⟩
  obtain ⟨after, ranRest, _, new, gone, kept⟩ :=
    run_reshape (⟨"", fresh⟩ : Column String Data) params.toSpec.comment renamed
      (by rw [added_names]; exact proper.toDistinct.filter _) (proper.fromDistinct.filter _)
      (fun _ member => proper.renamed_added described ran (List.mem_map_of_mem member))
      (fun _ member => proper.renamed_dropped described ran member) commented
      ((run_renames _ ran).2.trans described.note)
  refine ⟨after, ?_, ?_, ?_⟩
  · rw [(buildAlterPlan_eq params).1, destructive, run_append, ran]
    exact ranRest
  · intro name
    by_cases isAdded : name ∈ (added params).map Addition.name
    · obtain ⟨addition, member, rfl⟩ := List.mem_map.mp isAdded
      simp [new addition member, (mem_added.mp isAdded).1]
    · by_cases isDropped : name ∈ droppedNames params
      · simp [gone name isDropped, (mem_dropped.mp isDropped).2.2]
      · rw [kept name isDropped isAdded, Option.isSome_map]
        exact proper.renamed_kept described ran reused isAdded isDropped
  · intro rename member
    have notDropped : rename.newName ∉ droppedNames params := fun dropped =>
      (mem_dropped.mp dropped).2.2 (proper.newColumns rename member)
    have notAdded : rename.newName ∉ (added params).map Addition.name := fun isAdded =>
      (mem_added.mp isAdded).2.1 (List.mem_map_of_mem member)
    rw [kept _ notDropped notAdded, proper.renamed_source described ran member, Option.map_map]
    rfl

-- A kept old name that no rename provides is missing in the end.
theorem not_realises_of_lost {rename : ColumnRenameSpec}
    (destructive : params.options.allowDestructive = true) (member : rename ∈ params.columnRenames)
    (inTo : rename.oldName ∈ params.toSpec.columnNames) (lost : rename.oldName ∉ newNames params) :
    ¬ Realises (buildAlterPlan params) params fresh table := by
  rintro ⟨after, ran, columns, _⟩
  rw [(buildAlterPlan_eq params).1, destructive] at ran
  obtain ⟨renamed, first, later⟩ := run_append_eq_some _ ran
  have moves : rename.oldName ≠ rename.newName := fun stays =>
    lost (stays ▸ List.mem_map_of_mem member)
  have notNew : rename.oldName ∉ (effectiveRenames params.columnRenames).map Prod.snd :=
    fun isNew => lost (proper.moved_new isNew).2
  have moved : renamed.columns rename.oldName = none := by
    rw [proper.renamed_other described first notNew, if_pos]
    exact List.mem_map.mpr
      ⟨rename.pair, proper.mem_effective.mpr ⟨rename, member, moves, rfl⟩, rfl⟩
  have gone : after.columns rename.oldName = none := by
    refine run_absent _ (fun change inRest creates => ?_) moved later
    have isAdded := mem_added_of_creates inRest creates
    exact (mem_added.mp isAdded).2.2 (proper.oldColumns rename member)
  have there := (columns rename.oldName).mpr inTo
  simp [gone] at there

end Target

end Proper

/-- The target is reached exactly when every RENAME finds its new name free (it
is no column, or an earlier RENAME moved that column away) and every old name
that the target keeps is the new name of some rename. -/
theorem realises_iff_renames_in_order (proper : Proper params)
    (destructive : params.options.allowDestructive = true) {Data : Type}
    {table : Relation String String Data}
    (described : Describes params.fromSpec.named params.fromSpec.comment table) (fresh : Data) :
    Realises (buildAlterPlan params) params fresh table ↔
      (∀ earlier pair later, effectiveRenames params.columnRenames = earlier ++ pair :: later →
        pair.2 ∈ params.fromSpec.columnNames → pair.2 ∈ earlier.map Prod.fst) ∧
      ∀ rename ∈ params.columnRenames, rename.oldName ∈ params.toSpec.columnNames →
        rename.oldName ∈ newNames params := by
  have inOrder := @run_renames_isSome_iff _ _ Data String _ ⟨"", fresh⟩ _ table
    proper.effective_old_distinct proper.effective_new_distinct
    (proper.effective_present described)
  simp only [FreeInTurn, described.isSome_iff, TableSpec.map_name_named] at inOrder
  constructor
  · intro realised
    refine ⟨inOrder.mp ?_, fun rename member inTo => ?_⟩
    · obtain ⟨after, ran, _⟩ := realised
      rw [(buildAlterPlan_eq params).1] at ran
      obtain ⟨renamed, first, _⟩ := run_append_eq_some _ ran
      exact Option.isSome_iff_exists.mpr ⟨renamed, first⟩
    · by_contra lost
      exact proper.not_realises_of_lost described fresh destructive member inTo lost realised
  · rintro ⟨free, reused⟩
    obtain ⟨renamed, ran⟩ := Option.isSome_iff_exists.mp (inOrder.mpr free)
    exact proper.realises_of_renamed described fresh destructive reused ran

-- The chain a → b → c, written from its end.
theorem chain_from_end_realised :
    Realises (buildAlterPlan (alterUsers ["a", "b"] ["b", "c"] [⟨"b", "c"⟩, ⟨"a", "b"⟩]))
      (alterUsers ["a", "b"] ["b", "c"] [⟨"b", "c"⟩, ⟨"a", "b"⟩]) ()
      (usersTable ["a", "b"]).table := by
  refine (realises_iff_renames_in_order ?_ rfl (tableOf_describes _ _) ()).mpr ⟨?_, ?_⟩
  · constructor <;> decide
  · intro earlier pair later shape
    have pairs : effectiveRenames (alterUsers ["a", "b"] ["b", "c"]
        [⟨"b", "c"⟩, ⟨"a", "b"⟩]).columnRenames = [("b", "c"), ("a", "b")] := by decide
    rw [pairs] at shape
    rcases earlier with _ | ⟨first, _ | ⟨second, rest⟩⟩
    · cases shape
      decide
    · cases shape
      decide
    · simp at shape
  · decide

-- The swap a → b, b → a stops at its first statement: "b" is still a column.
theorem swap_not_realised :
    Proper (alterUsers ["a", "b"] ["a", "b"] [⟨"a", "b"⟩, ⟨"b", "a"⟩]) ∧
      ¬ Realises (buildAlterPlan (alterUsers ["a", "b"] ["a", "b"] [⟨"a", "b"⟩, ⟨"b", "a"⟩]))
        (alterUsers ["a", "b"] ["a", "b"] [⟨"a", "b"⟩, ⟨"b", "a"⟩]) ()
        (usersTable ["a", "b"]).table := by
  refine ⟨by constructor <;> decide, ?_⟩
  rintro ⟨after, ran, _⟩
  cases ran

end Onetcli.DuckDb
