import Onetcli.JavaIpc.Ddl

/-!
What the statements of the ALTER TABLE builder of the Java servers do to a table. The new
name of a rename is added once more, and a comment arrives without the blanks around it.
-/

namespace Onetcli.JavaIpc

open AlterTable Chars ColumnTable

variable {Data : Type}

def ColumnRename.pair (rename : ColumnRename) : String × String := (rename.oldName, rename.newName)

def TableSpec.named (spec : TableSpec) : List NamedComment :=
  spec.columns.map fun column => ⟨column.name, column.comment⟩

@[simp] theorem TableSpec.map_name_named (spec : TableSpec) :
    spec.named.map NamedComment.name = spec.columnNames := by
  simp [TableSpec.named, TableSpec.columnNames, Function.comp_def]

@[simp] theorem TableSpec.map_name_trimmed (spec : TableSpec) :
    spec.trimmed.map NamedComment.name = spec.columnNames := by
  simp [TableSpec.trimmed, TableSpec.columnNames, Function.comp_def]

def Realises (plan : Plan) (p : AlterTableParams) (fresh : Data)
    (table : Relation String String Data) : Prop :=
  ∃ after, run ⟨"", fresh⟩ plan.statements table = some after ∧
    Describes p.toSpec.named p.toSpec.comment after ∧
    ∀ rename ∈ p.columnRenames,
      (after.columns rename.newName).map Column.data =
        (table.columns rename.oldName).map Column.data

/-! ## The phases of a plan -/

def effectiveRenames (pairs : List ColumnRename) : List (String × String) :=
  (pairs.filter fun rename => !decide (trim rename.oldName = "" ∨ trim rename.newName = "" ∨
    rename.oldName = rename.newName)).map ColumnRename.pair

theorem foldl_renameColumn (withRollback : Bool) (pairs : List ColumnRename) (plan : Plan) :
    (pairs.foldl (renameColumn withRollback) plan).statements =
      plan.statements ++ renames (effectiveRenames pairs) := by
  rw [foldl_emit withRollback
    (fun rename : ColumnRename => decide (trim rename.oldName = "" ∨ trim rename.newName = "" ∨
      rename.oldName = rename.newName))
    (fun rename => .rename rename.oldName rename.newName)
    (fun rename => .rename rename.newName rename.oldName) (renameColumn withRollback)
    (fun plan rename => by simp only [renameColumn, decide_eq_true_eq])]
  simp [effectiveRenames, renames, Function.comp_def, ColumnRename.pair]

@[simp] theorem ColumnRename.pair_fst (rename : ColumnRename) : rename.pair.1 = rename.oldName := rfl

@[simp] theorem ColumnRename.pair_snd (rename : ColumnRename) : rename.pair.2 = rename.newName := rfl

theorem effectiveRenames_eq {pairs : List ColumnRename}
    (proper : ∀ rename ∈ pairs, trim rename.oldName ≠ "" ∧ trim rename.newName ≠ "" ∧
      rename.oldName ≠ rename.newName) : effectiveRenames pairs = pairs.map ColumnRename.pair := by
  rw [effectiveRenames, List.filter_eq_self.mpr fun rename member => by simp [proper rename member]]

def addedColumns (p : AlterTableParams) : List ColumnSpec :=
  p.toSpec.columns.filter fun column => column.name ≠ "" ∧ column.name ∉ p.fromSpec.columnNames

def droppedNames (p : AlterTableParams) : List String :=
  p.fromSpec.columnNames.filter (· ∉ p.toSpec.columnNames)

def addedNote (column : ColumnSpec) : Option String :=
  if trim column.comment = "" then none else some (trim column.comment)

/-- The additions of columns whose names have no blanks around them. -/
def Adds (columns : List ColumnSpec) (added : List (Addition String String String)) : Prop :=
  List.Forall₂ (fun column addition => addition.name = column.name ∧
    addition.note = addedNote column) columns added

theorem addColumns_ok {withRollback : Bool} {fromColumns : List String}
    {columns : List ColumnSpec} (trimmed : ∀ column ∈ columns, trim column.name = column.name)
    {plan after : Plan} (built : addColumns withRollback fromColumns columns plan = .ok after) :
    ∃ added, Adds (columns.filter fun column => column.name ≠ "" ∧ column.name ∉ fromColumns)
        added ∧ after.statements = plan.statements ++ additions added := by
  induction columns generalizing plan with
  | nil =>
    cases built
    exact ⟨[], .nil, by simp [additions]⟩
  | cons column rest ih =>
    rw [List.forall_mem_cons] at trimmed
    unfold addColumns at built
    split at built
    · rename_i isNew
      cases defined : columnDefinition column with
      | error err => simp [defined] at built
      | ok definition =>
        simp only [defined] at built
        obtain ⟨added, adds, shape⟩ := ih trimmed.2 built
        refine ⟨⟨column.name, definition, addedNote column⟩ :: added, ?_, ?_⟩
        · rw [List.filter_cons, if_pos (by simpa using isNew)]
          constructor
          · constructor <;> dsimp only
          · exact adds
        · rw [shape, trimmed.1]
          by_cases blank : trim column.comment = "" <;>
            simp [addedNote, blank, Plan.emit, Plan.push, additions, Addition.script]
    · rename_i known
      obtain ⟨added, adds, shape⟩ := ih trimmed.2 built
      refine ⟨added, ?_, shape⟩
      rw [List.filter_cons, if_neg (by simpa using known)]
      exact adds

variable {p : AlterTableParams}

theorem foldl_dropColumn (columns : List ColumnSpec) (toColumns : List String) (plan : Plan)
    (named : ∀ column ∈ columns, column.name ≠ "") :
    (columns.foldl (dropColumn toColumns) plan).statements =
      plan.statements ++ drops ((columns.map ColumnSpec.name).filter (· ∉ toColumns)) := by
  have same : columns.foldl (dropColumn toColumns) plan =
      (columns.map ColumnSpec.name).foldl (dropNamed toColumns) plan := by
    rw [List.foldl_map]
    refine List.foldl_ext _ _ _ fun plan column member => ?_
    rw [dropColumn, if_neg (named column member)]
  rw [same, foldl_dropNamed]

-- The phases of an accepted plan that may drop columns.
theorem buildAlterPlan_ok {tableName : String} {plan : Plan}
    (built : buildAlterPlan p = .ok (tableName, plan)) (destructive : p.allowDestructive = true)
    (fromNamed : ∀ column ∈ p.fromSpec.columns, column.name ≠ "")
    (toTrimmed : ∀ column ∈ p.toSpec.columns, trim column.name = column.name) :
    ∃ added, Adds (addedColumns p) added ∧
      plan.statements = tableNote (trim p.fromSpec.comment) (trim p.toSpec.comment) ++
        (renames (effectiveRenames p.columnRenames) ++ (additions added ++
          (drops (droppedNames p) ++
            notes (newNotes (changedColumns p.fromSpec.trimmed p.toSpec.trimmed))))) := by
  unfold buildAlterPlan at built
  cases named : requiredText "name" p.toSpec.name with
  | error err => simp [named] at built
  | ok table =>
    simp only [named, destructive, if_true] at built
    split at built
    · cases built
    · rename_i middle extended
      obtain ⟨added, adds, shape⟩ := addColumns_ok toTrimmed extended
      refine ⟨added, adds, ?_⟩
      rw [Except.ok.injEq, Prod.mk.injEq] at built
      rw [← built.2, foldl_diffColumn]
      dsimp only
      rw [foldl_dropColumn _ _ _ fromNamed, shape, foldl_renameColumn]
      by_cases same : trim p.fromSpec.comment = trim p.toSpec.comment
      · simp [same, tableNote, droppedNames, TableSpec.columnNames]
      · simp [same, tableNote, droppedNames, TableSpec.columnNames, Plan.emit]

/-! ## The comments after a run -/

/-- A comment is not written if only the blanks around it change. -/
def reached (old new : String) : String := if trim old = trim new then old else trim new

def noteAfter (p : AlterTableParams) (column : ColumnSpec) : String :=
  match lookupColumn p.fromSpec.named column.name with
  | none => trim column.comment
  | some old => reached old.comment column.comment

def trimNote (column : NamedComment) : NamedComment := ⟨column.name, trim column.comment⟩

theorem lookupColumn_trimmed (spec : TableSpec) (name : String) :
    lookupColumn spec.trimmed name = (lookupColumn spec.named name).map trimNote := by
  have same : spec.trimmed = spec.named.map trimNote := by
    simp [TableSpec.trimmed, TableSpec.named, trimNote, Function.comp_def]
  rw [same, lookupColumn, lookupColumn, ← List.map_reverse, List.find?_map]
  rfl

theorem lastNote_reached (distinct : p.toSpec.columnNames.Nodup)
    {column : ColumnSpec} (inTo : column ∈ p.toSpec.columns) (given : column.name ≠ "")
    {old : NamedComment} (found : lookupColumn p.fromSpec.named column.name = some old) :
    lastNote column.name (newNotes (changedColumns p.fromSpec.trimmed p.toSpec.trimmed))
      old.comment = reached old.comment column.comment := by
  have distinctNames : (p.toSpec.trimmed.map NamedComment.name).Nodup := by simpa using distinct
  have inTrimmed : (⟨column.name, trim column.comment⟩ : NamedComment) ∈ p.toSpec.trimmed :=
    List.mem_map_of_mem inTo
  have foundTrimmed : lookupColumn p.fromSpec.trimmed column.name = some (trimNote old) := by
    rw [lookupColumn_trimmed, found]
    rfl
  have constant : ∀ pair ∈ newNotes (changedColumns p.fromSpec.trimmed p.toSpec.trimmed),
      pair.1 = column.name → pair.2 = trim column.comment := by
    intro pair member same
    obtain ⟨other, inOther, _, rfl⟩ := mem_newNotes member
    have equal := List.inj_on_of_nodup_map distinctNames inOther inTrimmed same
    rw [equal]
  by_cases changed : trim old.comment = trim column.comment
  · -- The two comments agree without their blanks, so none is written.
    rw [reached, if_pos changed, lastNote_of_not_mem]
    intro written
    obtain ⟨pair, member, same⟩ := List.mem_map.mp written
    obtain ⟨change, inList, rfl⟩ := List.mem_map.mp member
    obtain ⟨other, inOther, before, foundBefore, _, differs, rfl⟩ := mem_changedColumns.mp inList
    have equal := List.inj_on_of_nodup_map distinctNames inOther inTrimmed same
    subst equal
    rw [foundTrimmed, Option.some.injEq] at foundBefore
    exact differs (foundBefore ▸ changed)
  · rw [reached, if_neg changed]
    refine lastNote_of_constant _ _ constant (List.mem_map.mpr ⟨_, List.mem_map.mpr
      ⟨_, mem_changedColumns.mpr ⟨_, inTrimmed, _, foundTrimmed, given, changed, rfl⟩, rfl⟩, rfl⟩)

/-! ## Without renames -/

theorem adds_names {columns : List ColumnSpec} {added : List (Addition String String String)}
    (adds : Adds columns added) : added.map Addition.name = columns.map ColumnSpec.name := by
  induction adds with
  | nil => rfl
  | cons here _ ih => rw [List.map_cons, List.map_cons, ih, here.1]

theorem adds_mem {columns : List ColumnSpec} {added : List (Addition String String String)}
    (adds : Adds columns added) {column : ColumnSpec} (member : column ∈ columns) :
    ∃ addition ∈ added, addition.name = column.name ∧ addition.note = addedNote column := by
  induction adds with
  | nil => cases member
  | cons here _ ih =>
    rcases List.mem_cons.mp member with rfl | later
    · exact ⟨_, List.mem_cons_self, here⟩
    · obtain ⟨addition, inside, same⟩ := ih later
      exact ⟨addition, List.mem_cons_of_mem _ inside, same⟩

theorem addedNote_getD (column : ColumnSpec) : (addedNote column).getD "" = trim column.comment := by
  unfold addedNote
  split
  · rename_i blank
    exact blank.symm
  · rfl

theorem mem_added {added : List (Addition String String String)}
    (adds : Adds (addedColumns p) added) (toNamed : ∀ column ∈ p.toSpec.columns, column.name ≠ "")
    (name : String) : name ∈ added.map Addition.name ↔
      name ∈ p.toSpec.columnNames ∧ name ∉ p.fromSpec.columnNames := by
  have inTarget : name ∈ p.toSpec.columnNames ↔ ∃ column ∈ p.toSpec.columns, column.name = name :=
    List.mem_map
  rw [adds_names adds, List.mem_map, inTarget]
  constructor
  · rintro ⟨column, member, rfl⟩
    obtain ⟨inTo, isNew⟩ := List.mem_filter.mp member
    exact ⟨⟨column, inTo, rfl⟩, (of_decide_eq_true isNew).2⟩
  · rintro ⟨⟨column, inTo, rfl⟩, isNew⟩
    exact ⟨column, List.mem_filter.mpr ⟨inTo, decide_eq_true ⟨toNamed column inTo, isNew⟩⟩, rfl⟩

theorem run_tableNote_reached (blank : Column String Data) (old new : String)
    (table : Relation String String Data) (noted : table.note = old) :
    run blank (tableNote (trim old) (trim new)) table =
      some { table with note := reached old new } := by
  by_cases same : trim old = trim new
  · have kept : table = { table with note := old } := by rw [← noted]
    rw [reached, if_pos same, tableNote, if_neg (not_not.mpr same), run, ← kept]
  · rw [reached, if_neg same, tableNote, if_pos same]
    rfl

section Target

variable {tableName : String} {plan : Plan} (built : buildAlterPlan p = .ok (tableName, plan))
  (destructive : p.allowDestructive = true)
  (fromDistinct : p.fromSpec.columnNames.Nodup) (toDistinct : p.toSpec.columnNames.Nodup)
  (fromNamed : ∀ column ∈ p.fromSpec.columns, column.name ≠ "")
  (toNamed : ∀ column ∈ p.toSpec.columns, column.name ≠ "")
  (toTrimmed : ∀ column ∈ p.toSpec.columns, trim column.name = column.name)
  {table : Relation String String Data}
  (described : Describes p.fromSpec.named p.fromSpec.comment table)

include built destructive fromDistinct toDistinct fromNamed toNamed toTrimmed described

theorem run_noneRenamed (noneRenamed : p.columnRenames = []) (fresh : Data) :
    ∃ after, run ⟨"", fresh⟩ plan.statements table = some after ∧
      after.note = reached p.fromSpec.comment p.toSpec.comment ∧ (∀ column ∈ p.toSpec.columns,
        (after.columns column.name).map Column.note = some (noteAfter p column)) ∧
      ∀ name, name ∉ p.toSpec.columnNames → after.columns name = none := by
  obtain ⟨added, adds, statements⟩ := buildAlterPlan_ok built destructive fromNamed toTrimmed
  have isAdded := mem_added adds toNamed
  have isDropped : ∀ name, name ∈ droppedNames p ↔
      name ∈ p.fromSpec.columnNames ∧ name ∉ p.toSpec.columnNames := by
    intro name
    rw [droppedNames, List.mem_filter, decide_eq_true_eq]
  have addedDistinct : (added.map Addition.name).Nodup := by
    rw [adds_names adds]
    exact toDistinct.sublist (List.filter_sublist.map _)
  have present := described.isSome_iff
  have missing := described.eq_none_iff
  simp only [TableSpec.map_name_named] at present missing
  -- The table after its note was set is named by what it is, so that no step unfolds it.
  obtain ⟨noted, isNoted⟩ : ∃ noted : Relation String String Data,
      noted = { table with note := reached p.fromSpec.comment p.toSpec.comment } := ⟨_, rfl⟩
  have notedColumns : noted.columns = table.columns := by rw [isNoted]
  have notedNote : noted.note = reached p.fromSpec.comment p.toSpec.comment := by rw [isNoted]
  have first := run_tableNote_reached ⟨"", fresh⟩ p.fromSpec.comment p.toSpec.comment table
    described.note
  rw [← isNoted] at first
  have same : tableNote noted.note noted.note = [] := by simp [tableNote]
  have commented : ∀ pair ∈ newNotes (changedColumns p.fromSpec.trimmed p.toSpec.trimmed),
      pair.1 ∉ droppedNames p ∧ (noted.columns pair.1).isSome := by
    intro pair member
    obtain ⟨column, inTo, inFrom, rfl⟩ := mem_newNotes member
    have inTarget : column.name ∈ p.toSpec.columnNames := by
      rw [← TableSpec.map_name_trimmed]
      exact List.mem_map_of_mem inTo
    rw [TableSpec.map_name_trimmed] at inFrom
    rw [notedColumns]
    exact ⟨fun dropped => ((isDropped _).mp dropped).2 inTarget, (present _).mpr inFrom⟩
  rw [← notedColumns] at present missing
  obtain ⟨after, ran, note, new, gone, kept⟩ := run_reshape ⟨"", fresh⟩ noted.note noted
    addedDistinct (fromDistinct.filter (· ∉ p.toSpec.columnNames))
    (fun addition member => (missing _).mpr ((isAdded _).mp (List.mem_map_of_mem member)).2)
    (fun name member => (present name).mpr ((isDropped name).mp member).1) commented rfl
  rw [same, List.nil_append] at ran
  refine ⟨after, ?_, note.trans notedNote, ?_, ?_⟩
  · rw [statements, noneRenamed]
    have whole := run_append ⟨"", fresh⟩ (tableNote (trim p.fromSpec.comment) (trim p.toSpec.comment))
      (additions added ++ (drops (droppedNames p) ++
        notes (newNotes (changedColumns p.fromSpec.trimmed p.toSpec.trimmed)))) table
    rw [first, Option.bind_some] at whole
    exact whole.trans ran
  · intro column inTo
    have inTarget : column.name ∈ p.toSpec.columnNames := List.mem_map_of_mem inTo
    unfold noteAfter
    cases found : lookupColumn p.fromSpec.named column.name with
    | none =>
      have isNew : column.name ∉ p.fromSpec.columnNames := by
        simpa using lookupColumn_eq_none.mp found
      have inAdded : column ∈ addedColumns p :=
        List.mem_filter.mpr ⟨inTo, decide_eq_true ⟨toNamed column inTo, isNew⟩⟩
      obtain ⟨addition, member, sameName, sameNote⟩ := adds_mem adds inAdded
      rw [← sameName, new addition member, Option.map_some, Addition.column, sameNote,
        addedNote_getD]
    | some old =>
      have inFrom : column.name ∈ p.fromSpec.columnNames := by
        obtain ⟨inside, named⟩ := lookupColumn_name found
        rw [← TableSpec.map_name_named, ← named]
        exact List.mem_map_of_mem inside
      obtain ⟨there, here, noteThere⟩ := described.column found
      rw [kept column.name (fun dropped => ((isDropped _).mp dropped).2 inTarget)
        (fun isNew => ((isAdded _).mp isNew).2 inFrom)]
      rw [notedColumns, here, Option.map_some, Option.map_some, noteThere,
        lastNote_reached toDistinct inTo (toNamed column inTo) found]
  · intro name notTo
    by_cases inFrom : name ∈ p.fromSpec.columnNames
    · exact gone name ((isDropped name).mpr ⟨inFrom, notTo⟩)
    · rw [kept name (fun dropped => inFrom ((isDropped name).mp dropped).1)
        (fun isNew => notTo ((isAdded name).mp isNew).1)]
      have absent : noted.columns name = none := (missing name).mpr inFrom
      rw [absent]
      rfl

omit fromDistinct toDistinct in
-- With a rename, its new name is there when it is added.
theorem rename_not_realised {fresh : Data}
    (oldDistinct : (p.columnRenames.map ColumnRename.oldName).Nodup)
    (newDistinct : (p.columnRenames.map ColumnRename.newName).Nodup)
    (oldNames : ∀ rename ∈ p.columnRenames,
      rename.oldName ∈ p.fromSpec.columnNames ∧ rename.oldName ∉ p.toSpec.columnNames)
    (newNames : ∀ rename ∈ p.columnRenames,
      rename.newName ∈ p.toSpec.columnNames ∧ rename.newName ∉ p.fromSpec.columnNames)
    (fromTrimmed : ∀ column ∈ p.fromSpec.columns, trim column.name = column.name)
    {rename : ColumnRename} (member : rename ∈ p.columnRenames) :
    run ⟨"", fresh⟩ plan.statements table = none := by
  obtain ⟨added, adds, statements⟩ := buildAlterPlan_ok built destructive fromNamed toTrimmed
  by_contra runs
  obtain ⟨after, ran⟩ := Option.ne_none_iff_exists'.mp runs
  rw [statements, effectiveRenames_eq] at ran
  · obtain ⟨commented, first, later⟩ := run_append_eq_some _ ran
    obtain ⟨renamed, second, later⟩ := run_append_eq_some _ later
    obtain ⟨widened, third, _⟩ := run_append_eq_some _ later
    have columns : commented.columns = table.columns := by
      rw [run_tableNote_reached _ _ _ table described.note, Option.some.injEq] at first
      rw [← first]
    have present : ∀ pair ∈ p.columnRenames.map ColumnRename.pair,
        (commented.columns pair.1).isSome := by
      intro pair inPairs
      obtain ⟨other, inRenames, rfl⟩ := List.mem_map.mp inPairs
      rw [columns]
      exact (described.isSome_iff _).mpr (by simpa using (oldNames other inRenames).1)
    have moved := (run_renames_columns _ (by simpa [Function.comp_def] using oldDistinct)
      (by simpa [Function.comp_def] using newDistinct) present second).1 rename.pair
      (List.mem_map_of_mem member)
    have there : (renamed.columns rename.newName).isSome := by
      have same : renamed.columns rename.newName = commented.columns rename.oldName := moved
      rw [same]
      exact present rename.pair (List.mem_map_of_mem member)
    -- The new name is not among the old columns, so it is added.
    obtain ⟨addition, inAdded, sameName⟩ :=
      List.mem_map.mp ((mem_added adds toNamed rename.newName).mpr (newNames rename member))
    have absent := (run_additions_eq_some _ third).1 addition inAdded
    rw [sameName] at absent
    rw [absent] at there
    cases there
  · intro other inRenames
    obtain ⟨inFrom, notTo⟩ := oldNames other inRenames
    obtain ⟨inTo, notFrom⟩ := newNames other inRenames
    obtain ⟨old, oldMember, oldName⟩ := List.mem_map.mp inFrom
    obtain ⟨new, newMember, newName⟩ := List.mem_map.mp inTo
    refine ⟨?_, ?_, fun same => notTo (same ▸ inTo)⟩
    · rw [← oldName, fromTrimmed old oldMember]
      exact fromNamed old oldMember
    · rw [← newName, toTrimmed new newMember]
      exact toNamed new newMember

end Target

/-! ## The target -/

/-- A comment arrives if it is the old one, or has no blanks around it and differs from
the old one in more than those. -/
def NoteFits (old new : String) : Prop := old = new ∨ trim new = new ∧ trim old ≠ new

theorem reached_iff (old new : String) : reached old new = new ↔ NoteFits old new := by
  unfold reached NoteFits
  by_cases same : trim old = trim new
  · rw [if_pos same]
    constructor
    · exact Or.inl
    · rintro (equal | ⟨trimmed, differs⟩)
      · exact equal
      · exact absurd (same.trans trimmed) differs
  · rw [if_neg same]
    constructor
    · intro trimmed
      exact Or.inr ⟨trimmed, fun equal => same (equal.trans trimmed.symm)⟩
    · rintro (equal | ⟨trimmed, _⟩)
      · exact absurd (congrArg trim equal) same
      · exact trimmed

def CommentsFit (p : AlterTableParams) : Prop :=
  NoteFits p.fromSpec.comment p.toSpec.comment ∧
    ∀ column ∈ p.toSpec.columns,
      match lookupColumn p.fromSpec.named column.name with
      | none => trim column.comment = column.comment
      | some old => NoteFits old.comment column.comment

theorem noteAfter_iff (p : AlterTableParams) (column : ColumnSpec) :
    noteAfter p column = column.comment ↔
      match lookupColumn p.fromSpec.named column.name with
      | none => trim column.comment = column.comment
      | some old => NoteFits old.comment column.comment := by
  unfold noteAfter
  cases lookupColumn p.fromSpec.named column.name with
  | none => exact Iff.rfl
  | some old => exact reached_iff old.comment column.comment

/-- The target is reached exactly if there is no rename and its comments arrive. -/
theorem realises_iff {tableName : String} {plan : Plan}
    (built : buildAlterPlan p = .ok (tableName, plan)) (destructive : p.allowDestructive = true)
    (fromDistinct : p.fromSpec.columnNames.Nodup) (toDistinct : p.toSpec.columnNames.Nodup)
    (fromNamed : ∀ column ∈ p.fromSpec.columns, column.name ≠ "")
    (fromTrimmed : ∀ column ∈ p.fromSpec.columns, trim column.name = column.name)
    (toNamed : ∀ column ∈ p.toSpec.columns, column.name ≠ "")
    (toTrimmed : ∀ column ∈ p.toSpec.columns, trim column.name = column.name)
    (oldDistinct : (p.columnRenames.map ColumnRename.oldName).Nodup)
    (newDistinct : (p.columnRenames.map ColumnRename.newName).Nodup)
    (oldNames : ∀ rename ∈ p.columnRenames,
      rename.oldName ∈ p.fromSpec.columnNames ∧ rename.oldName ∉ p.toSpec.columnNames)
    (newNames : ∀ rename ∈ p.columnRenames,
      rename.newName ∈ p.toSpec.columnNames ∧ rename.newName ∉ p.fromSpec.columnNames)
    {table : Relation String String Data}
    (described : Describes p.fromSpec.named p.fromSpec.comment table) (fresh : Data) :
    Realises plan p fresh table ↔ p.columnRenames = [] ∧ CommentsFit p := by
  have reaches (noneRenamed : p.columnRenames = []) := run_noneRenamed built destructive
    fromDistinct toDistinct fromNamed toNamed toTrimmed described noneRenamed fresh
  have namedDistinct : (p.toSpec.named.map NamedComment.name).Nodup := by simpa using toDistinct
  constructor
  · rintro ⟨after, ran, describes, _⟩
    have noneRenamed : p.columnRenames = [] := by
      by_contra proper
      obtain ⟨rename, member⟩ := List.exists_mem_of_ne_nil _ proper
      rw [rename_not_realised built destructive fromNamed toNamed toTrimmed described oldDistinct
        newDistinct oldNames newNames fromTrimmed member] at ran
      cases ran
    obtain ⟨reachedTable, ranAgain, note, notes, _⟩ := reaches noneRenamed
    rw [ran, Option.some.injEq] at ranAgain
    subst ranAgain
    refine ⟨noneRenamed, (reached_iff _ _).mp (note.symm.trans describes.note), ?_⟩
    intro column member
    have inNamed : (⟨column.name, column.comment⟩ : NamedComment) ∈ p.toSpec.named :=
      List.mem_map_of_mem member
    have self : lookupColumn p.toSpec.named column.name = some ⟨column.name, column.comment⟩ :=
      lookupColumn_of_mem namedDistinct inNamed
    have listed := describes.notes column.name
    rw [notes column member, self] at listed
    exact (noteAfter_iff p column).mp (Option.some.inj listed)
  · rintro ⟨noneRenamed, noteFits, commentsFit⟩
    obtain ⟨after, ran, note, notes, others⟩ := reaches noneRenamed
    refine ⟨after, ran, ?_, by simp [noneRenamed]⟩
    refine describes_of_columns namedDistinct ?_ (by simpa using others)
      (note.trans ((reached_iff _ _).mpr noteFits))
    intro listed inNamed
    obtain ⟨column, member, rfl⟩ := List.mem_map.mp inNamed
    rw [notes column member, (noteAfter_iff p column).mpr (commentsFit column member)]

/-! ## Two targets -/

def keptAndAdded : AlterTableParams where
  fromSpec := { name := "t", columns := [⟨"a", "INT", true, "", "old"⟩, ⟨"b", "INT", true, "", ""⟩] }
  toSpec := { name := "t", columns := [⟨"a", "INT", true, "", "new"⟩, ⟨"c", "INT", true, "", "c"⟩] }
  allowDestructive := true

def renamedColumn : AlterTableParams where
  fromSpec := { name := "t", columns := [⟨"a", "INT", true, "", ""⟩] }
  toSpec := { name := "t", columns := [⟨"b", "INT", true, "", ""⟩] }
  columnRenames := [⟨"a", "b"⟩]
  allowDestructive := true

theorem keptAndAdded_realised :
    ∃ tableName plan, buildAlterPlan keptAndAdded = .ok (tableName, plan) ∧
      Realises plan keptAndAdded () (tableOf keptAndAdded.fromSpec.named "") := by
  obtain ⟨tableName, plan, built⟩ : ∃ tableName plan,
      buildAlterPlan keptAndAdded = .ok (tableName, plan) := ⟨_, _, rfl⟩
  refine ⟨tableName, plan, built, (realises_iff built rfl ?_ ?_ ?_ ?_ ?_ ?_ ?_ ?_ ?_ ?_
    (tableOf_describes _ _) ()).mpr ⟨rfl, Or.inl rfl, ?_⟩⟩
  rotate_right
  · intro column member
    rcases List.mem_cons.mp member with rfl | later
    · exact Or.inr (by decide)
    · have isNew : column = ⟨"c", "INT", true, "", "c"⟩ := List.mem_singleton.mp later
      subst isNew
      exact (by decide : trim "c" = "c")
  all_goals decide

-- After RENAME COLUMN a TO b the statement ADD b fails.
theorem renamedColumn_added_again :
    ∃ tableName plan, buildAlterPlan renamedColumn = .ok (tableName, plan) ∧
      ¬Realises plan renamedColumn () (tableOf renamedColumn.fromSpec.named "") := by
  refine ⟨_, _, rfl, ?_⟩
  rintro ⟨after, ran, _⟩
  cases ran

end Onetcli.JavaIpc
