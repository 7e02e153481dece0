import Onetcli.DbIpc.AlterTarget
import Onetcli.OpenGauss.AlterTarget
import Onetcli.DuckDb.AlterTarget

/-!
Forward statements followed by their rollback, for plans without drops. The
comment statements name columns as they are called after the renames, but the
old comments are looked up under the names of the source table: a rename onto a
name whose comment also changes is rolled back to the comment of the wrong
column.
-/

namespace Onetcli.Rollback

open AlterTable ColumnTable

section General

variable {Data : Type} (blank : Column String Data)
  {fromColumns toColumns : List NamedComment} {fromComment toComment : String}

/-- The comment that the rollback leaves on the column called `name`. -/
def rolledBack (fromColumns toColumns : List NamedComment) (name note : String) : String :=
  lastNote name (oldNotes (changedColumns fromColumns toColumns)).reverse note

theorem rolledBack_changed {change : String × String × String}
    (member : change ∈ changedColumns fromColumns toColumns) (note : String) :
    rolledBack fromColumns toColumns change.1 note = change.2.1 := by
  obtain ⟨column, _, old, found, _, _, rfl⟩ := mem_changedColumns.mp member
  refine lastNote_of_constant _ _ ?_ ?_
  · intro pair inNotes same
    obtain ⟨other, inChanged, rfl⟩ := List.mem_map.mp (List.mem_reverse.mp inNotes)
    obtain ⟨second, _, otherOld, otherFound, _, _, rfl⟩ := mem_changedColumns.mp inChanged
    have sameColumn : some old = some otherOld := found.symm.trans
      ((congrArg (lookupColumn fromColumns) same.symm).trans otherFound)
    rw [Option.some.inj sameColumn]
  · simp only [List.map_reverse, List.mem_reverse, oldNotes, List.map_map, List.mem_map,
      Function.comp_apply]
    exact ⟨_, member, rfl⟩

theorem rolledBack_unchanged {name : String}
    (unchanged : name ∉ (changedColumns fromColumns toColumns).map Prod.fst) (note : String) :
    rolledBack fromColumns toColumns name note = note := by
  refine lastNote_of_not_mem _ ?_
  simpa [oldNotes, Function.comp_def] using unchanged

-- The comment statements and then their rollback: the comments of the changed columns are
-- those of the source, under the names after the renames.
theorem run_comments_back {table after : Relation String String Data}
    (ran : run blank (tableNote fromComment toComment ++
      notes (newNotes (changedColumns fromColumns toColumns))) table = some after)
    (noted : table.note = fromComment) :
    (∀ change ∈ changedColumns fromColumns toColumns, (table.columns change.1).isSome) ∧
    run blank (notes (oldNotes (changedColumns fromColumns toColumns)).reverse ++
      tableNote toComment fromComment) after =
      some ⟨fun name => (table.columns name).map fun column =>
        { column with note := rolledBack fromColumns toColumns name column.note },
        fromComment⟩ := by
  rw [run_append, run_tableNote blank fromComment toComment table noted, Option.bind_some] at ran
  have present := run_notes_present blank ran
  have there : ∀ change ∈ changedColumns fromColumns toColumns,
      (table.columns change.1).isSome := fun change member =>
    present (change.1, change.2.2) (List.mem_map.mpr ⟨change, member, rfl⟩)
  rw [run_notes blank _ present] at ran
  cases ran
  refine ⟨there, ?_⟩
  rw [run_append, run_notes blank _ (by
      intro pair member
      obtain ⟨change, inChanged, rfl⟩ := List.mem_map.mp (List.mem_reverse.mp member)
      simpa using there change inChanged), Option.bind_some,
    run_tableNote blank toComment fromComment _ rfl]
  refine congrArg some (Relation.ext (funext fun name => ?_) rfl)
  simp only [Option.map_map, Function.comp_def]
  congr 1
  funext column
  by_cases changed : name ∈ (changedColumns fromColumns toColumns).map Prod.fst
  · obtain ⟨change, member, rfl⟩ := List.mem_map.mp changed
    rw [rolledBack_changed member]
    exact congrArg (Column.mk · column.data) (rolledBack_changed member _)
  · have unwritten : name ∉ (newNotes (changedColumns fromColumns toColumns)).map Prod.fst := by
      simpa [newNotes, Function.comp_def] using changed
    rw [lastNote_of_not_mem _ unwritten]
    rfl

variable {pairs : List (String × String)} {added : List (Addition String String String)}
  {table after : Relation String String Data}

/-- The rollback runs and leaves the table of the source. -/
def Restores (rollback : List Statement) (fromColumns : List NamedComment) (fromComment : String)
    (after : Relation String String Data) : Prop :=
  ∃ restored, run blank rollback after = some restored ∧
    Describes fromColumns fromComment restored

/-- Every name whose comment changes was, before the renames, the name of a
column with the comment that the source gives to it. -/
def CommentsFollow (pairs : List (String × String)) (fromColumns toColumns : List NamedComment) :
    Prop :=
  ∀ change ∈ changedColumns fromColumns toColumns,
    (lookupColumn fromColumns (origin pairs change.1)).map NamedComment.comment = some change.2.1

theorem changed_mem_from {change : String × String × String}
    (member : change ∈ changedColumns fromColumns toColumns) :
    (lookupColumn fromColumns change.1).map NamedComment.comment = some change.2.1 ∧
      change.1 ∈ fromColumns.map NamedComment.name := by
  obtain ⟨column, _, old, found, _, _, rfl⟩ := mem_changedColumns.mp member
  obtain ⟨inFrom, same⟩ := lookupColumn_name found
  refine ⟨by simp [found], ?_⟩
  rw [← same]
  exact List.mem_map_of_mem inFrom

variable (ran : run blank (renames pairs ++ (additions added ++ (tableNote fromComment toComment ++
  notes (newNotes (changedColumns fromColumns toColumns))))) table = some after)

include ran

-- The forward phases of a plan without drops, one after the other.
theorem run_forward (noted : table.note = fromComment) :
    ∃ renamed widened, run blank (renames pairs : List Statement) table = some renamed ∧
      run blank (additions added) renamed = some widened ∧
      renamed.columns = table.columns ∘ origin pairs ∧
      (∀ change ∈ changedColumns fromColumns toColumns, (widened.columns change.1).isSome) ∧
      run blank (notes (oldNotes (changedColumns fromColumns toColumns)).reverse ++
        tableNote toComment fromComment) after =
        some ⟨fun name => (widened.columns name).map fun column =>
          { column with note := rolledBack fromColumns toColumns name column.note },
          fromComment⟩ := by
  obtain ⟨renamed, first, later⟩ := run_append_eq_some _ ran
  obtain ⟨widened, second, third⟩ := run_append_eq_some _ later
  obtain ⟨columns, note⟩ := run_renames _ first
  have widenedNote := (run_additions_eq_some _ second).2.2.2
  obtain ⟨there, back⟩ :=
    run_comments_back blank third (widenedNote.trans (note.trans noted))
  exact ⟨renamed, widened, first, second, columns, there, back⟩

-- The whole rollback of a plan without drops: names and data are as before, and a changed
-- comment is put back under the name the column has after the renames.
theorem run_back (noted : table.note = fromComment) :
    run blank ((notes (oldNotes (changedColumns fromColumns toColumns)).reverse ++
        tableNote toComment fromComment) ++
      (drops (added.map Addition.name).reverse ++ renamesBack pairs)) after =
      some ⟨fun name => (table.columns name).map fun column => { column with
        note := rolledBack fromColumns toColumns ((origin pairs).symm name) column.note },
        fromComment⟩ := by
  obtain ⟨renamed, widened, first, second, columns, _, back⟩ := run_forward blank ran noted
  obtain ⟨absent, kept, present, _⟩ := run_additions_eq_some _ second
  rw [run_append, back, Option.bind_some, run_append, run_drops blank _
    (List.nodup_reverse.mpr (run_additions_nodup _ second)) (by
      intro name member
      obtain ⟨addition, inAdded, rfl⟩ := List.mem_map.mp (List.mem_reverse.mp member)
      simpa using present addition inAdded), Option.bind_some]
  -- Dropping the added columns leaves the columns as they were before the additions.
  have dropped : (fun name => if name ∈ (added.map Addition.name).reverse then none else
        (widened.columns name).map fun column =>
          { column with note := rolledBack fromColumns toColumns name column.note }) =
      fun name => (renamed.columns name).map fun column =>
        { column with note := rolledBack fromColumns toColumns name column.note } := by
    funext name
    by_cases isAdded : name ∈ added.map Addition.name
    · obtain ⟨addition, inAdded, rfl⟩ := List.mem_map.mp isAdded
      simp [isAdded, absent addition inAdded]
    · simp [isAdded, kept name isAdded]
  rw [dropped, run_renames_back blank first _ (fun name => by simp)]
  refine congrArg some (Relation.ext (funext fun name => ?_) rfl)
  simp [columns]

theorem restores_iff (described : Describes fromColumns fromComment table)
    (new : ∀ addition ∈ added, addition.name ∉ fromColumns.map NamedComment.name) :
    Restores blank ((notes (oldNotes (changedColumns fromColumns toColumns)).reverse ++
        tableNote toComment fromComment) ++
      (drops (added.map Addition.name).reverse ++ renamesBack pairs)) fromColumns fromComment
        after ↔ CommentsFollow pairs fromColumns toColumns := by
  have back := run_back blank ran described.note
  obtain ⟨renamed, widened, _, second, columns, there, _⟩ :=
    run_forward blank ran described.note
  constructor
  · rintro ⟨restored, ranBack, restoredDescribed⟩ change member
    rw [back] at ranBack
    cases ranBack
    have notAdded : change.1 ∉ added.map Addition.name := by
      intro isAdded
      obtain ⟨addition, inAdded, same⟩ := List.mem_map.mp isAdded
      exact new addition inAdded (same ▸ (changed_mem_from member).2)
    have stands := there change member
    rw [(run_additions_eq_some _ second).2.1 _ notAdded, columns] at stands
    obtain ⟨column, found⟩ := Option.isSome_iff_exists.mp stands
    have noted := restoredDescribed.notes (origin pairs change.1)
    simp only [Function.comp_apply] at found
    simp only [found, Equiv.symm_apply_apply, Option.map_some, rolledBack_changed member] at noted
    exact noted.symm
  · intro follow
    refine ⟨_, back, fun name => ?_, rfl⟩
    rw [← described.notes name]
    simp only [Option.map_map, Function.comp_def]
    cases found : table.columns name with
    | none => rfl
    | some column =>
      simp only [Option.map_some, Option.some.injEq]
      by_cases changed : (origin pairs).symm name ∈
          (changedColumns fromColumns toColumns).map Prod.fst
      · obtain ⟨change, member, same⟩ := List.mem_map.mp changed
        have noted := follow change member
        have comment := described.notes name
        rw [same, Equiv.apply_symm_apply] at noted
        rw [found, noted] at comment
        rw [← same, rolledBack_changed member]
        exact (Option.some.inj comment).symm
      · exact rolledBack_unchanged changed _

-- When only the comments are rolled back, the added and renamed columns stay.
theorem restores_comments_iff (described : Describes fromColumns fromComment table)
    (new : ∀ addition ∈ added, addition.name ∉ fromColumns.map NamedComment.name) :
    Restores blank (notes (oldNotes (changedColumns fromColumns toColumns)).reverse ++
        tableNote toComment fromComment) fromColumns fromComment after ↔
      added = [] ∧ ∀ name, name ∉ (changedColumns fromColumns toColumns).map Prod.fst →
        (lookupColumn fromColumns (origin pairs name)).map NamedComment.comment =
          (lookupColumn fromColumns name).map NamedComment.comment := by
  obtain ⟨renamed, widened, _, second, columns, there, back⟩ :=
    run_forward blank ran described.note
  obtain ⟨_, _, present, _⟩ := run_additions_eq_some _ second
  have renamedNotes : ∀ name, (renamed.columns name).map Column.note =
      (lookupColumn fromColumns (origin pairs name)).map NamedComment.comment := by
    intro name
    rw [columns]
    exact described.notes _
  constructor
  · rintro ⟨restored, ranBack, restoredDescribed⟩
    rw [back] at ranBack
    cases ranBack
    have none_added : added = [] := by
      by_contra proper
      obtain ⟨addition, member⟩ := List.exists_mem_of_ne_nil _ proper
      have missing := (restoredDescribed.eq_none_iff addition.name).mpr (new addition member)
      have stands := present addition member
      simp only [Option.map_eq_none_iff] at missing
      simp [missing] at stands
    refine ⟨none_added, fun name unchanged => ?_⟩
    subst none_added
    cases second
    have noted := restoredDescribed.notes name
    simp only [Option.map_map, Function.comp_def, rolledBack_unchanged unchanged] at noted
    rw [← renamedNotes name]
    exact noted
  · rintro ⟨rfl, same⟩
    cases second
    refine ⟨_, back, fun name => ?_, rfl⟩
    simp only [Option.map_map, Function.comp_def]
    by_cases changed : name ∈ (changedColumns fromColumns toColumns).map Prod.fst
    · obtain ⟨change, member, rfl⟩ := List.mem_map.mp changed
      obtain ⟨column, found⟩ := Option.isSome_iff_exists.mp (there change member)
      rw [found, (changed_mem_from member).1]
      simp [rolledBack_changed member]
    · simp only [rolledBack_unchanged changed]
      exact (renamedNotes name).trans (same name changed)

end General

section Drivers

variable {Data : Type} (blank : Column String Data) {table after : Relation String String Data}

theorem dbIpc_restores_iff {World : Type} {spec : DbIpc.DriverSpec World}
    {fromSpec toSpec : DbIpc.TableSpec} {pairs : List DbIpc.ColumnRenameDDL}
    {options : DbIpc.AlterTableOptions} {tableName : String} {plan : Plan}
    (built : DbIpc.buildAlterPlan spec fromSpec toSpec pairs options = .ok (tableName, plan))
    (keeping : options.allowDestructive = false) (rollback : options.withRollback = true)
    (described : Describes fromSpec.named fromSpec.comment table)
    (ran : run blank plan.statements table = some after) :
    Restores blank plan.rollback fromSpec.named fromSpec.comment after ↔
      (spec.supportsComments = true →
        CommentsFollow (DbIpc.effectiveRenames pairs) fromSpec.named toSpec.named) := by
  obtain ⟨added, names, _, statements, back⟩ := DbIpc.buildAlterPlan_ok built
  have new : ∀ addition ∈ added, addition.name ∉ fromSpec.named.map NamedComment.name := by
    intro addition member
    rw [DbIpc.TableSpec.map_name_named]
    exact (DbIpc.mem_addedNames.mp (names ▸ List.mem_map_of_mem member)).2
  simp only [keeping, Bool.false_eq_true, ↓reduceIte, List.nil_append] at statements
  simp only [rollback, ↓reduceIte, ← names] at back
  rw [statements] at ran
  rw [back]
  cases comments : spec.supportsComments with
  | true =>
    simp only [comments, ↓reduceIte] at ran
    simpa [comments] using restores_iff blank ran described new
  | false =>
    -- Without comments the plan is the one for an unchanged comment and no columns.
    have same : ∀ comment : String, tableNote comment comment = [] := by
      intro comment
      simp [tableNote]
    have plain := @restores_iff Data blank fromSpec.named [] fromSpec.comment fromSpec.comment
      (DbIpc.effectiveRenames pairs) added table after (by
        simpa [comments, changedColumns, newNotes, notes, same] using ran) described new
    simpa [CommentsFollow, changedColumns, oldNotes, notes, same] using plain

theorem openGauss_restores_iff {p : Protocol.BuildAlterTableParams} {tableName : String}
    {plan : Plan} (built : OpenGauss.buildAlterPlan p = .ok (tableName, plan))
    (keeping : p.options.allowDestructive = false) (rollback : p.options.withRollback = true)
    (described : Describes p.fromSpec.named p.fromSpec.comment table)
    (ran : run blank plan.statements table = some after) :
    Restores blank plan.rollback p.fromSpec.named p.fromSpec.comment after ↔
      CommentsFollow (OpenGauss.effectiveRenames p.columnRenames) p.fromSpec.named
        p.toSpec.named := by
  obtain ⟨added, names, statements, back⟩ := OpenGauss.buildAlterPlan_ok built
  have new : ∀ addition ∈ added, addition.name ∉ p.fromSpec.named.map NamedComment.name := by
    intro addition member
    rw [Protocol.TableSpec.map_name_named]
    have isAdded : addition.name ∈ OpenGauss.addedNames p := names ▸ List.mem_map_of_mem member
    simpa using (of_decide_eq_true (List.mem_filter.mp isAdded).2).2
  simp only [keeping, Bool.false_eq_true, ↓reduceIte, List.nil_append] at statements
  simp only [rollback, ↓reduceIte, ← names] at back
  rw [statements] at ran
  rw [back]
  exact restores_iff blank ran described new

theorem duckDb_restores_iff {params : Protocol.BuildAlterTableParams}
    (keeping : params.options.allowDestructive = false)
    (rollback : params.options.withRollback = true)
    (described : Describes params.fromSpec.named params.fromSpec.comment table)
    (ran : run blank (DuckDb.buildAlterPlan params).statements table = some after) :
    Restores blank (DuckDb.buildAlterPlan params).rollback params.fromSpec.named
        params.fromSpec.comment after ↔ DuckDb.added params = [] ∧ ∀ name,
        name ∉ (changedColumns params.fromSpec.named params.toSpec.named).map Prod.fst →
        (lookupColumn params.fromSpec.named (origin
            (DuckDb.effectiveRenames params.columnRenames) name)).map NamedComment.comment =
          (lookupColumn params.fromSpec.named name).map NamedComment.comment := by
  obtain ⟨statements, back⟩ := DuckDb.buildAlterPlan_eq params
  simp only [keeping, Bool.false_eq_true, ↓reduceIte, List.nil_append] at statements
  simp only [rollback, ↓reduceIte] at back
  rw [statements] at ran
  rw [back]
  refine restores_comments_iff blank ran described ?_
  intro addition member
  rw [Protocol.TableSpec.map_name_named]
  exact (DuckDb.mem_added.mp (List.mem_map_of_mem member)).2.2

/-- When the statements of a plan without drops run on the table of the source,
the rollback restores that table exactly when: for the Go and openGauss builders,
no comment change names a column that the renames brought under that name with
another comment; for the DuckDB builder, which rolls back comments only, no column
is added and the renames keep the comment of every name without a comment change. -/
theorem rollback_restores_iff :
    (∀ (World : Type) (spec : DbIpc.DriverSpec World) (fromSpec toSpec : DbIpc.TableSpec)
        (pairs : List DbIpc.ColumnRenameDDL) (options : DbIpc.AlterTableOptions)
        (tableName : String) (plan : Plan) (table after : Relation String String Data),
        DbIpc.buildAlterPlan spec fromSpec toSpec pairs options = .ok (tableName, plan) →
        options.allowDestructive = false → options.withRollback = true →
        Describes fromSpec.named fromSpec.comment table →
        run blank plan.statements table = some after →
        (Restores blank plan.rollback fromSpec.named fromSpec.comment after ↔
          (spec.supportsComments = true →
            CommentsFollow (DbIpc.effectiveRenames pairs) fromSpec.named toSpec.named))) ∧
      (∀ (p : Protocol.BuildAlterTableParams) (tableName : String) (plan : Plan)
        (table after : Relation String String Data),
        OpenGauss.buildAlterPlan p = .ok (tableName, plan) →
        p.options.allowDestructive = false → p.options.withRollback = true →
        Describes p.fromSpec.named p.fromSpec.comment table →
        run blank plan.statements table = some after →
        (Restores blank plan.rollback p.fromSpec.named p.fromSpec.comment after ↔
          CommentsFollow (OpenGauss.effectiveRenames p.columnRenames) p.fromSpec.named
            p.toSpec.named)) ∧
      ∀ (params : Protocol.BuildAlterTableParams) (table after : Relation String String Data),
        params.options.allowDestructive = false → params.options.withRollback = true →
        Describes params.fromSpec.named params.fromSpec.comment table →
        run blank (DuckDb.buildAlterPlan params).statements table = some after →
        (Restores blank (DuckDb.buildAlterPlan params).rollback params.fromSpec.named
            params.fromSpec.comment after ↔
          DuckDb.added params = [] ∧ ∀ name,
            name ∉ (changedColumns params.fromSpec.named params.toSpec.named).map Prod.fst →
            (lookupColumn params.fromSpec.named (origin
                (DuckDb.effectiveRenames params.columnRenames) name)).map NamedComment.comment =
              (lookupColumn params.fromSpec.named name).map NamedComment.comment) := by
  refine ⟨?_, ?_, ?_⟩
  · intro World spec fromSpec toSpec pairs options tableName plan table after built keeping
      rollback described ran
    exact dbIpc_restores_iff blank built keeping rollback described ran
  · intro p tableName plan table after built keeping rollback described ran
    exact openGauss_restores_iff blank built keeping rollback described ran
  · intro params table after keeping rollback described ran
    exact duckDb_restores_iff blank keeping rollback described ran

end Drivers

theorem comment_change_restored :
    (∃ plan after, DbIpc.buildAlterPlan (DbIpc.plainSpec true)
        (DbIpc.usersTable [DbIpc.textColumn "a" "x"])
        (DbIpc.usersTable [DbIpc.textColumn "a" "z", DbIpc.textColumn "b" ""]) []
        { withRollback := true } = .ok ("\"users\"", plan) ∧
      run ⟨"", ()⟩ plan.statements (DbIpc.usersTable [DbIpc.textColumn "a" "x"]).table =
        some after ∧
      Restores ⟨"", ()⟩ plan.rollback (DbIpc.usersTable [DbIpc.textColumn "a" "x"]).named ""
        after) ∧
    (∃ plan after, OpenGauss.buildAlterPlan (Protocol.keepUsers ["a"] ["c"] [⟨"a", "c"⟩]) =
        .ok ("\"users\"", plan) ∧
      run ⟨"", ()⟩ plan.statements (Protocol.usersTable ["a"]).table = some after ∧
      Restores ⟨"", ()⟩ plan.rollback (Protocol.usersTable ["a"]).named "" after) ∧
    ∃ after, run ⟨"", ()⟩
        (DuckDb.buildAlterPlan (Protocol.keepUsers ["a"] ["a"] [])).statements
        (Protocol.usersTable ["a"]).table = some after ∧
      Restores ⟨"", ()⟩ (DuckDb.buildAlterPlan (Protocol.keepUsers ["a"] ["a"] [])).rollback
        (Protocol.usersTable ["a"]).named "" after := by
  refine ⟨⟨_, _, rfl, rfl, ?_⟩, ⟨_, _, rfl, rfl, ?_⟩, ⟨_, rfl, ?_⟩⟩
  · exact ((rollback_restores_iff ⟨"", ()⟩).1 Unit (DbIpc.plainSpec true) _
      (DbIpc.usersTable [DbIpc.textColumn "a" "z", DbIpc.textColumn "b" ""]) []
      { withRollback := true } _ _ _ _ rfl rfl rfl (tableOf_describes _ _) rfl).mpr
        fun _ => by unfold CommentsFollow; decide
  · exact ((rollback_restores_iff ⟨"", ()⟩).2.1 (Protocol.keepUsers ["a"] ["c"] [⟨"a", "c"⟩]) _ _
      _ _ rfl rfl rfl (tableOf_describes _ _) rfl).mpr (by unfold CommentsFollow; decide)
  · exact ((rollback_restores_iff ⟨"", ()⟩).2.2 (Protocol.keepUsers ["a"] ["a"] []) _ _ rfl rfl
      (tableOf_describes _ _) rfl).mpr ⟨by decide, fun name _ => rfl⟩

-- "b" takes over the name "a", whose comment changes: the rollback gives "b" the
-- comment "x" of the old "a".
theorem comment_restored_to_wrong_column :
    ∃ plan after, DbIpc.buildAlterPlan (DbIpc.plainSpec true)
        (DbIpc.usersTable [DbIpc.textColumn "a" "x", DbIpc.textColumn "b" "y"])
        (DbIpc.usersTable [DbIpc.textColumn "a" "z"]) [⟨"a", "c"⟩, ⟨"b", "a"⟩]
        { withRollback := true } = .ok ("\"users\"", plan) ∧
      run ⟨"", ()⟩ plan.statements
        (DbIpc.usersTable [DbIpc.textColumn "a" "x", DbIpc.textColumn "b" "y"]).table =
        some after ∧
      ¬ Restores ⟨"", ()⟩ plan.rollback
        (DbIpc.usersTable [DbIpc.textColumn "a" "x", DbIpc.textColumn "b" "y"]).named "" after := by
  refine ⟨_, _, rfl, rfl, ?_⟩
  rintro ⟨restored, ran, described⟩
  have noted := described.notes "b"
  cases ran
  exact absurd noted (by decide)

end Onetcli.Rollback
