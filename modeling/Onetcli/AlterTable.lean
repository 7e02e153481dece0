import Onetcli.Lib.ColumnTable

/-!
What the ALTER TABLE builders of the drivers share. A builder collects forward
statements at the end of one list and, when a rollback is asked for, their
inverses at the front of another. A statement is kept as the change it makes;
`changeText` is its SQL, the same templates in every driver around the driver's
own quoting.
-/

namespace Onetcli.AlterTable

open ColumnTable

/-- The definition of an added column is its SQL text. -/
abbrev Statement := Change String String String

structure Plan where
  statements : List Statement := []
  rollback : List Statement := []
  warnings : List String := []

def changeText (quoteIdentifier quoteLiteral : String → String) (table : String) :
    Statement → String
  | .rename old new =>
    "ALTER TABLE " ++ table ++ " RENAME COLUMN " ++ quoteIdentifier old ++ " TO " ++
      quoteIdentifier new
  | .add _ definition => "ALTER TABLE " ++ table ++ " ADD COLUMN " ++ definition
  | .drop name => "ALTER TABLE " ++ table ++ " DROP COLUMN " ++ quoteIdentifier name
  | .annotate comment => "COMMENT ON TABLE " ++ table ++ " IS " ++ quoteLiteral comment
  | .annotateColumn name comment =>
    "COMMENT ON COLUMN " ++ table ++ "." ++ quoteIdentifier name ++ " IS " ++
      quoteLiteral comment

def Plan.push (plan : Plan) (forward : Statement) : Plan :=
  { plan with statements := plan.statements ++ [forward] }

def Plan.emit (plan : Plan) (withRollback : Bool) (forward undo : Statement) : Plan :=
  { plan with
    statements := plan.statements ++ [forward]
    rollback := if withRollback then undo :: plan.rollback else plan.rollback }

def Plan.warn (plan : Plan) (warning : String) : Plan :=
  { plan with warnings := plan.warnings ++ [warning] }

-- A loop that emits one statement and its inverse for every item it does not skip.
theorem foldl_emit {Item : Type} (withRollback : Bool) (skip : Item → Bool)
    (forward undo : Item → Statement) (step : Plan → Item → Plan)
    (emits : ∀ plan item, step plan item =
      if skip item then plan else plan.emit withRollback (forward item) (undo item))
    (items : List Item) (plan : Plan) : items.foldl step plan = { plan with
        statements := plan.statements ++ (items.filter (!skip ·)).map forward
        rollback := (if withRollback then ((items.filter (!skip ·)).map undo).reverse else []) ++
          plan.rollback } := by
  induction items generalizing plan with
  | nil => simp
  | cons item rest ih =>
    rw [List.foldl_cons, ih, emits]
    cases skipped : skip item <;> cases withRollback <;> simp [Plan.emit, skipped]

/-- The drop loop of the builders that warn about lost data. -/
def dropNamed (toColumns : List String) (plan : Plan) (name : String) : Plan :=
  if name ∈ toColumns then plan
  else (plan.push (.drop name)).warn ("drop column may lose data: " ++ name)

theorem foldl_dropNamed (toColumns names : List String) (plan : Plan) :
    names.foldl (dropNamed toColumns) plan = { plan with
        statements := plan.statements ++ drops (names.filter (· ∉ toColumns))
        warnings := plan.warnings ++
          (names.filter (· ∉ toColumns)).map ("drop column may lose data: " ++ ·) } := by
  induction names generalizing plan with
  | nil => simp [drops]
  | cons name rest ih =>
    rw [List.foldl_cons, ih]
    by_cases kept : name ∈ toColumns <;> simp [dropNamed, kept, Plan.push, Plan.warn, drops]

/-- A column as the comment comparison sees it. -/
structure NamedComment where
  name : String
  comment : String
  deriving DecidableEq

/-- The map built from a column list by assignment: a later column replaces an
earlier one of the same name. -/
def lookupColumn (columns : List NamedComment) (name : String) : Option NamedComment :=
  columns.reverse.find? fun column => column.name == name

def diffColumn (withRollback : Bool) (fromColumns : List NamedComment) (plan : Plan)
    (column : NamedComment) : Plan :=
  match lookupColumn fromColumns column.name with
  | none => plan
  | some old =>
    if column.name = "" then plan
    else if old.comment = column.comment then plan
    else plan.emit withRollback (.annotateColumn column.name column.comment)
      (.annotateColumn column.name old.comment)

/-- `diffComments` of the Go runtime and `diff_comments` of the Rust drivers. -/
def diffComments (withRollback : Bool) (fromComment toComment : String)
    (fromColumns toColumns : List NamedComment) (plan : Plan) : Plan :=
  let plan :=
    if fromComment ≠ toComment then
      plan.emit withRollback (.annotate toComment) (.annotate fromComment)
    else plan
  toColumns.foldl (diffColumn withRollback fromColumns) plan

/-! ## The closed form of the comment difference -/

def tableNote (fromComment toComment : String) : List Statement :=
  if fromComment ≠ toComment then [.annotate toComment] else []

def changedColumn (fromColumns : List NamedComment) (column : NamedComment) :
    Option (String × String × String) :=
  match lookupColumn fromColumns column.name with
  | none => none
  | some old =>
    if column.name = "" then none
    else if old.comment = column.comment then none
    else some (column.name, old.comment, column.comment)

def changedColumns (fromColumns toColumns : List NamedComment) :
    List (String × String × String) :=
  toColumns.filterMap (changedColumn fromColumns)

def newNotes (changed : List (String × String × String)) : List (String × String) :=
  changed.map fun change => (change.1, change.2.2)

def oldNotes (changed : List (String × String × String)) : List (String × String) :=
  changed.map fun change => (change.1, change.2.1)

theorem diffColumn_eq (withRollback : Bool) (fromColumns : List NamedComment) (plan : Plan)
    (column : NamedComment) : diffColumn withRollback fromColumns plan column =
      match changedColumn fromColumns column with
      | none => plan
      | some change => plan.emit withRollback (.annotateColumn change.1 change.2.2)
          (.annotateColumn change.1 change.2.1) := by
  unfold diffColumn changedColumn
  cases lookupColumn fromColumns column.name with
  | none => rfl
  | some old =>
    by_cases unnamed : column.name = ""
    · simp [unnamed]
    · by_cases same : old.comment = column.comment <;> simp [unnamed, same]

theorem foldl_diffColumn (withRollback : Bool) (fromColumns toColumns : List NamedComment)
    (plan : Plan) : toColumns.foldl (diffColumn withRollback fromColumns) plan = { plan with
        statements := plan.statements ++ notes (newNotes (changedColumns fromColumns toColumns))
        rollback := (if withRollback then
          notes (oldNotes (changedColumns fromColumns toColumns)).reverse else []) ++
            plan.rollback } := by
  induction toColumns generalizing plan with
  | nil => cases withRollback <;> simp [changedColumns, newNotes, oldNotes, notes]
  | cons column rest ih =>
    rw [List.foldl_cons, ih, diffColumn_eq]
    cases changed : changedColumn fromColumns column with
    | none => simp [changedColumns, changed]
    | some change =>
      cases withRollback <;>
        simp [changedColumns, changed, newNotes, oldNotes, notes, Plan.emit]

-- The forward comments stand after the plan's statements; their inverses stand before its
-- rollback, last one first.
theorem diffComments_eq (withRollback : Bool) (fromComment toComment : String)
    (fromColumns toColumns : List NamedComment) (plan : Plan) :
    diffComments withRollback fromComment toComment fromColumns toColumns plan = { plan with
        statements := plan.statements ++ (tableNote fromComment toComment ++
          notes (newNotes (changedColumns fromColumns toColumns)))
        rollback := (if withRollback then
          notes (oldNotes (changedColumns fromColumns toColumns)).reverse ++
            tableNote toComment fromComment else []) ++ plan.rollback } := by
  unfold diffComments
  simp only [foldl_diffColumn]
  by_cases same : fromComment = toComment
  · simp [same, tableNote]
  · cases withRollback <;> simp [same, tableNote, Plan.emit, Ne.symm same]

theorem mem_changedColumns {fromColumns toColumns : List NamedComment}
    {change : String × String × String} : change ∈ changedColumns fromColumns toColumns ↔
      ∃ column ∈ toColumns, ∃ old, lookupColumn fromColumns column.name = some old ∧
        column.name ≠ "" ∧ old.comment ≠ column.comment ∧
        change = (column.name, old.comment, column.comment) := by
  simp only [changedColumns, List.mem_filterMap]
  refine exists_congr fun column => and_congr_right fun _ => ?_
  unfold changedColumn
  cases lookupColumn fromColumns column.name with
  | none => simp
  | some old =>
    by_cases unnamed : column.name = ""
    · simp [unnamed]
    · by_cases same : old.comment = column.comment
      · simp [unnamed, same]
      · simp only [unnamed, same, ↓reduceIte, Option.some.injEq, exists_eq_left']
        constructor
        · rintro rfl
          exact ⟨unnamed, same, rfl⟩
        · rintro ⟨_, _, rfl⟩
          rfl

variable {columns : List NamedComment}

theorem lookupColumn_name {name : String} {column : NamedComment}
    (found : lookupColumn columns name = some column) : column ∈ columns ∧ column.name = name := by
  unfold lookupColumn at found
  refine ⟨List.mem_reverse.mp (List.mem_of_find?_eq_some found), ?_⟩
  simpa using List.find?_some found

theorem lookupColumn_eq_none {name : String} :
    lookupColumn columns name = none ↔ name ∉ columns.map NamedComment.name := by
  simp [lookupColumn, List.find?_eq_none]

theorem lookupColumn_of_mem
    (distinct : (columns.map NamedComment.name).Nodup) {column : NamedComment}
    (member : column ∈ columns) : lookupColumn columns column.name = some column := by
  cases found : lookupColumn columns column.name with
  | none =>
    exact absurd (List.mem_map_of_mem member) (lookupColumn_eq_none.mp found)
  | some other =>
    obtain ⟨inList, named⟩ := lookupColumn_name found
    rw [List.inj_on_of_nodup_map distinct inList member named]

/-! ## Tables described by a column list -/

section Tables

variable {Data : Type}

/-- The table has exactly the listed columns, with their comments, and the table
comment. Its data is left open. -/
structure Describes (columns : List NamedComment) (comment : String)
    (table : Relation String String Data) : Prop where
  notes : ∀ name, (table.columns name).map Column.note =
    (lookupColumn columns name).map NamedComment.comment
  note : table.note = comment

variable {table : Relation String String Data}

theorem Describes.isSome_iff {comment : String}
 (described : Describes columns comment table)
    (name : String) : (table.columns name).isSome ↔ name ∈ columns.map NamedComment.name := by
  rw [← Option.isSome_map (f := Column.note), described.notes name, Option.isSome_map]
  by_cases member : name ∈ columns.map NamedComment.name
  · have found : lookupColumn columns name ≠ none := fun missing =>
      lookupColumn_eq_none.mp missing member
    simpa [member] using Option.isSome_iff_ne_none.mpr found
  · simp [member, lookupColumn_eq_none.mpr member]

theorem Describes.eq_none_iff {comment : String}
 (described : Describes columns comment table)
    (name : String) : table.columns name = none ↔ name ∉ columns.map NamedComment.name := by
  rw [← described.isSome_iff name]
  cases table.columns name <;> simp

theorem Describes.column {comment : String}
 (described : Describes columns comment table)
    {name : String} {old : NamedComment} (found : lookupColumn columns name = some old) :
    ∃ column, table.columns name = some column ∧ column.note = old.comment := by
  have noted := described.notes name
  rw [found] at noted
  exact Option.map_eq_some_iff.mp noted

-- To describe a table by distinct names it is enough to know each listed column and that there
-- are no others.
theorem describes_of_columns {comment : String} (distinct : (columns.map NamedComment.name).Nodup)
    (listed : ∀ column ∈ columns, (table.columns column.name).map Column.note = some column.comment)
    (others : ∀ name, name ∉ columns.map NamedComment.name → table.columns name = none)
    (noted : table.note = comment) : Describes columns comment table := by
  refine ⟨fun name => ?_, noted⟩
  by_cases member : name ∈ columns.map NamedComment.name
  · obtain ⟨column, inList, rfl⟩ := List.mem_map.mp member
    rw [lookupColumn_of_mem distinct inList, listed column inList]
    rfl
  · rw [others name member, lookupColumn_eq_none.mpr member]
    rfl

/-- The described table without data. -/
def tableOf (columns : List NamedComment) (comment : String) : Relation String String Unit where
  columns := fun name => (lookupColumn columns name).map fun column => ⟨column.comment, ()⟩
  note := comment

theorem tableOf_describes (columns : List NamedComment) (comment : String) :
    Describes columns comment (tableOf columns comment) := by
  refine ⟨fun name => ?_, rfl⟩
  simp [tableOf, Option.map_map, Function.comp_def]

variable (blank : Column String Data)

theorem run_tableNote (fromComment toComment : String) (table : Relation String String Data)
    (noted : table.note = fromComment) :
    run blank (tableNote fromComment toComment) table = some { table with note := toComment } := by
  by_cases same : fromComment = toComment
  · have kept : table = { table with note := toComment } := by
      rw [← same, ← noted]
    simp only [tableNote, same, ne_eq, not_true_eq_false, ↓reduceIte, run]
    rw [← kept]
  · simp [tableNote, same, run, perform]

-- The additions, drops and comments of a plan, on a table that has the columns to drop and to
-- comment and lacks those to add.
theorem run_reshape (toComment : String) {fromComment : String}
    {added : List (Addition String String String)} {dropped : List String}
    {pairs : List (String × String)} (table : Relation String String Data)
    (addedDistinct : (added.map Addition.name).Nodup) (droppedDistinct : dropped.Nodup)
    (absent : ∀ addition ∈ added, table.columns addition.name = none)
    (present : ∀ name ∈ dropped, (table.columns name).isSome)
    (commented : ∀ pair ∈ pairs, pair.1 ∉ dropped ∧ (table.columns pair.1).isSome)
    (noted : table.note = fromComment) :
    ∃ after, run blank (additions added ++ (drops dropped ++
        (tableNote fromComment toComment ++ notes pairs))) table = some after ∧
      after.note = toComment ∧
      (∀ addition ∈ added, after.columns addition.name = some (addition.column blank)) ∧
      (∀ name ∈ dropped, after.columns name = none) ∧
      ∀ name, name ∉ dropped → name ∉ added.map Addition.name →
        after.columns name = (table.columns name).map fun column =>
          { column with note := lastNote name pairs column.note } := by
  have notAdded : ∀ name, (table.columns name).isSome → name ∉ added.map Addition.name := by
    intro name there member
    obtain ⟨addition, inAdded, rfl⟩ := List.mem_map.mp member
    simp [absent addition inAdded] at there
  obtain ⟨widened, ranAdd, new, kept, note⟩ := run_additions blank table addedDistinct absent
  have ranNote := run_tableNote blank fromComment toComment
    ⟨fun name => if name ∈ dropped then none else widened.columns name, widened.note⟩
    (note.trans noted)
  rw [run_append, ranAdd, Option.bind_some, run_append, run_drops blank widened droppedDistinct
    (fun name member => by
      rw [kept name (notAdded name (present name member))]
      exact present name member), Option.bind_some, run_append,
    ranNote, Option.bind_some,
    run_notes blank _ (fun pair member => by
      obtain ⟨stays, there⟩ := commented pair member
      simpa [stays, kept pair.1 (notAdded pair.1 there)] using there)]
  refine ⟨_, rfl, rfl, ?_, ?_, ?_⟩
  · intro addition member
    have stays : addition.name ∉ dropped := fun isDropped => by
      simpa [absent addition member] using present addition.name isDropped
    have unwritten : addition.name ∉ pairs.map Prod.fst := by
      intro written
      obtain ⟨pair, inPairs, same⟩ := List.mem_map.mp written
      have there := (commented pair inPairs).2
      simp [same, absent addition member] at there
    simp [stays, new addition member, lastNote_of_not_mem _ unwritten]
  · intro name isDropped
    simp [isDropped]
  · intro name stays old
    simp [stays, kept name old]

-- Of these phases only the additions bring names into being.
theorem mem_added_of_creates {fromComment toComment : String}
    {added : List (Addition String String String)} {dropped : List String}
    {pairs : List (String × String)} {change : Statement} {name : String}
    (member : change ∈ additions added ++ (drops dropped ++
      (tableNote fromComment toComment ++ notes pairs)))
    (creates : change.Creates name) : name ∈ added.map Addition.name := by
  simp only [List.mem_append] at member
  rcases member with inAdditions | inDrops | inTable | inNotes
  · obtain ⟨addition, inAdded, inScript⟩ := List.mem_flatMap.mp inAdditions
    rcases List.mem_cons.mp inScript with rfl | inComment
    · exact creates ▸ List.mem_map_of_mem inAdded
    · obtain ⟨note, _, rfl⟩ := Option.map_eq_some_iff.mp (Option.mem_toList.mp inComment)
      exact creates.elim
  · obtain ⟨other, _, rfl⟩ := List.mem_map.mp inDrops
    exact creates.elim
  · unfold tableNote at inTable
    split at inTable
    · rw [List.mem_singleton.mp inTable] at creates
      exact creates.elim
    · cases inTable
  · obtain ⟨pair, _, rfl⟩ := List.mem_map.mp inNotes
    exact creates.elim

end Tables

/-! ## The comment a column ends with -/

section Comments

variable {fromColumns toColumns : List NamedComment}

theorem mem_newNotes {pair : String × String}
    (member : pair ∈ newNotes (changedColumns fromColumns toColumns)) :
    ∃ column ∈ toColumns, column.name ∈ fromColumns.map NamedComment.name ∧
      pair = (column.name, column.comment) := by
  obtain ⟨change, inList, rfl⟩ := List.mem_map.mp member
  obtain ⟨column, inTo, old, found, _, _, rfl⟩ := mem_changedColumns.mp inList
  obtain ⟨inFrom, same⟩ := lookupColumn_name found
  exact ⟨column, inTo, same ▸ List.mem_map_of_mem inFrom, rfl⟩

theorem lastNote_common (distinct : (toColumns.map NamedComment.name).Nodup)
    (named : "" ∉ toColumns.map NamedComment.name) {column old : NamedComment}
    (inTo : column ∈ toColumns) (found : lookupColumn fromColumns column.name = some old) :
    lastNote column.name (newNotes (changedColumns fromColumns toColumns)) old.comment =
      column.comment := by
  have constant : ∀ pair ∈ newNotes (changedColumns fromColumns toColumns),
      pair.1 = column.name → pair.2 = column.comment := by
    intro pair member same
    obtain ⟨other, inOther, _, rfl⟩ := mem_newNotes member
    rw [List.inj_on_of_nodup_map distinct inOther inTo same]
  by_cases written : column.name ∈
      (newNotes (changedColumns fromColumns toColumns)).map Prod.fst
  · exact lastNote_of_constant _ _ constant written
  · rw [lastNote_of_not_mem _ written]
    -- Nothing is written only when the two comments agree.
    by_contra different
    apply written
    refine List.mem_map.mpr ⟨(column.name, column.comment), List.mem_map.mpr
      ⟨(column.name, old.comment, column.comment), mem_changedColumns.mpr
        ⟨column, inTo, old, found, ?_, different, rfl⟩, rfl⟩, rfl⟩
    intro unnamed
    exact named (unnamed ▸ List.mem_map_of_mem inTo)

-- Without renames, adding and dropping by comparing names reaches the target, up to the
-- comments of the added columns.
theorem run_without_renames {Data : Type} (blank : Column String Data)
    (toColumns : List NamedComment) (toComment : String) {fromComment : String}
    {added : List (Addition String String String)}
    {table : Relation String String Data} (described : Describes fromColumns fromComment table)
    (names : added.map Addition.name = (toColumns.map NamedComment.name).filter
      (· ∉ fromColumns.map NamedComment.name))
    (fromDistinct : (fromColumns.map NamedComment.name).Nodup)
    (toDistinct : (toColumns.map NamedComment.name).Nodup)
    (toNamed : "" ∉ toColumns.map NamedComment.name) :
    ∃ after, run blank (additions added ++ (drops ((fromColumns.map NamedComment.name).filter
        (· ∉ toColumns.map NamedComment.name)) ++ (tableNote fromComment toComment ++
          notes (newNotes (changedColumns fromColumns toColumns))))) table = some after ∧
      after.note = toComment ∧
      (∀ column ∈ toColumns, column.name ∈ fromColumns.map NamedComment.name →
        (after.columns column.name).map Column.note = some column.comment) ∧
      (∀ addition ∈ added, after.columns addition.name = some (addition.column blank)) ∧
      ∀ name, name ∉ toColumns.map NamedComment.name → after.columns name = none := by
  have isAdded : ∀ name, name ∈ added.map Addition.name ↔
      name ∈ toColumns.map NamedComment.name ∧ name ∉ fromColumns.map NamedComment.name := by
    intro name
    rw [names, List.mem_filter, decide_eq_true_eq]
  have isDropped : ∀ name, name ∈ (fromColumns.map NamedComment.name).filter
      (· ∉ toColumns.map NamedComment.name) ↔
      name ∈ fromColumns.map NamedComment.name ∧ name ∉ toColumns.map NamedComment.name := by
    intro name
    rw [List.mem_filter, decide_eq_true_eq]
  obtain ⟨after, ran, note, new, gone, kept⟩ := run_reshape blank toComment table
    (by rw [names]; exact toDistinct.filter _) (fromDistinct.filter _)
    (fun addition member => (described.eq_none_iff _).mpr
      ((isAdded _).mp (List.mem_map_of_mem member)).2)
    (fun name member => (described.isSome_iff name).mpr ((isDropped name).mp member).1)
    (by
      intro pair member
      obtain ⟨column, inTo, inFrom, rfl⟩ := mem_newNotes member
      exact ⟨fun dropped => ((isDropped _).mp dropped).2 (List.mem_map_of_mem inTo),
        (described.isSome_iff _).mpr inFrom⟩) described.note
  refine ⟨after, ran, note, ?_, new, ?_⟩
  · intro column inTo inFrom
    obtain ⟨old, found⟩ : ∃ old, lookupColumn fromColumns column.name = some old :=
      Option.ne_none_iff_exists'.mp fun missing => lookupColumn_eq_none.mp missing inFrom
    obtain ⟨there, here, noteThere⟩ := described.column found
    rw [kept column.name
      (fun dropped => ((isDropped _).mp dropped).2 (List.mem_map_of_mem inTo))
      (fun new => ((isAdded _).mp new).2 inFrom), here, Option.map_some, Option.map_some,
      noteThere, lastNote_common toDistinct toNamed inTo found]
  · intro name notTo
    by_cases inFrom : name ∈ fromColumns.map NamedComment.name
    · exact gone name ((isDropped name).mpr ⟨inFrom, notTo⟩)
    · rw [kept name (fun dropped => inFrom ((isDropped name).mp dropped).1)
        (fun new => notTo ((isAdded name).mp new).1), (described.eq_none_iff name).mpr inFrom]
      rfl

end Comments

end Onetcli.AlterTable
