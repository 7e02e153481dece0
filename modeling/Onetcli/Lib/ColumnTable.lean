import Mathlib.Logic.Equiv.Basic
import Mathlib.Data.List.Nodup

/-!
A table as a set of uniquely named columns, each with a note and its data, and a
note of its own. The changes are those of ALTER TABLE and COMMENT ON: a rename
needs the old name present and the new one absent, an addition needs its name
absent, the others need their column present. A script is a list of changes; it
stops at the first one that fails. The phases of a script that only rename, only
add, only drop or only annotate have closed forms.
-/

namespace Onetcli.ColumnTable

variable {Name Note Data Def : Type} [DecidableEq Name]

structure Column (Note Data : Type) where
  note : Note
  data : Data

@[ext]
structure Relation (Name Note Data : Type) where
  columns : Name → Option (Column Note Data)
  note : Note

inductive Change (Name Note Def : Type) where
  | rename (old new : Name)
  | add (name : Name) (definition : Def)
  | drop (name : Name)
  | annotate (note : Note)
  | annotateColumn (name : Name) (note : Note)
  deriving DecidableEq

def Relation.set (relation : Relation Name Note Data) (name : Name)
    (column : Option (Column Note Data)) : Relation Name Note Data :=
  { relation with columns := Function.update relation.columns name column }

/-- One change; `blank` is the column an addition creates. -/
def perform (blank : Column Note Data) (relation : Relation Name Note Data) :
    Change Name Note Def → Option (Relation Name Note Data)
  | .rename old new =>
    match relation.columns old, relation.columns new with
    | some column, none => some ((relation.set old none).set new (some column))
    | _, _ => none
  | .add name _ =>
    match relation.columns name with
    | none => some (relation.set name (some blank))
    | some _ => none
  | .drop name =>
    match relation.columns name with
    | some _ => some (relation.set name none)
    | none => none
  | .annotate note => some { relation with note }
  | .annotateColumn name note =>
    match relation.columns name with
    | some column => some (relation.set name (some { column with note }))
    | none => none

def run (blank : Column Note Data) :
    List (Change Name Note Def) → Relation Name Note Data → Option (Relation Name Note Data)
  | [], relation => some relation
  | change :: rest, relation => (perform blank relation change).bind (run blank rest)

variable (blank : Column Note Data)

theorem run_append (first second : List (Change Name Note Def))
    (relation : Relation Name Note Data) :
    run blank (first ++ second) relation = (run blank first relation).bind (run blank second) := by
  induction first generalizing relation with
  | nil => rfl
  | cons change rest ih =>
    cases performed : perform blank relation change with
    | none => simp [run, performed]
    | some next => simp [run, performed, ih]

variable {relation after : Relation Name Note Data}

theorem run_append_eq_some {first second : List (Change Name Note Def)}
    (ran : run blank (first ++ second) relation = some after) :
    ∃ middle, run blank first relation = some middle ∧ run blank second middle = some after := by
  rw [run_append] at ran
  exact Option.bind_eq_some_iff.mp ran

/-- Does the change bring a column of this name into being? -/
def Change.Creates (name : Name) : Change Name Note Def → Prop
  | .rename _ new => new = name
  | .add added _ => added = name
  | _ => False

/-! ## Renaming -/

theorem perform_rename {old new : Name}
    (ran : perform blank relation (.rename old new : Change Name Note Def) = some after) :
    (∃ column, relation.columns old = some column) ∧ relation.columns new = none ∧
      after.columns = relation.columns ∘ Equiv.swap old new ∧ after.note = relation.note := by
  unfold perform at ran
  cases source : relation.columns old with
  | none => simp [source] at ran
  | some column =>
    cases target : relation.columns new with
    | some occupied => simp [source, target] at ran
    | none =>
      simp only [source, target, Option.some.injEq] at ran
      subst after
      have different : old ≠ new := by
        intro same
        rw [same, target] at source
        cases source
      refine ⟨⟨column, rfl⟩, rfl, funext fun name => ?_, rfl⟩
      simp only [Relation.set, Function.comp_apply]
      by_cases isNew : name = new
      · subst name
        simp [source]
      · by_cases isOld : name = old
        · subst name
          simp [different, target]
        · simp [isNew, isOld, Equiv.swap_apply_of_ne_of_ne isOld isNew]

theorem perform_rename_away {old new name : Name}
    (ran : perform blank relation (.rename old new : Change Name Note Def) = some after)
    (notOld : name ≠ old) (notNew : name ≠ new) : after.columns name = relation.columns name := by
  obtain ⟨_, _, moved, _⟩ := perform_rename blank ran
  rw [moved, Function.comp_apply, Equiv.swap_apply_of_ne_of_ne notOld notNew]

theorem perform_rename_gone {old new : Name}
    (ran : perform blank relation (.rename old new : Change Name Note Def) = some after) :
    after.columns old = none := by
  obtain ⟨_, target, moved, _⟩ := perform_rename blank ran
  rw [moved, Function.comp_apply, Equiv.swap_apply_left, target]

theorem perform_absent {change : Change Name Note Def}
    {name : Name} (other : ¬ change.Creates name) (absent : relation.columns name = none)
    (ran : perform blank relation change = some after) : after.columns name = none := by
  cases change with
  | rename old new =>
    obtain ⟨_, target, moved, _⟩ := perform_rename blank ran
    have notNew : name ≠ new := fun same => other same.symm
    by_cases isOld : name = old
    · simp [moved, isOld, target]
    · simpa [moved, Equiv.swap_apply_of_ne_of_ne isOld notNew] using absent
  | add added definition =>
    have different : name ≠ added := fun same => other same.symm
    simp only [perform] at ran
    split at ran
    · cases ran
      simpa [Relation.set, different] using absent
    · cases ran
  | drop dropped =>
    simp only [perform] at ran
    split at ran
    · cases ran
      by_cases same : name = dropped <;> simp [Relation.set, same, absent]
    · cases ran
  | annotate note =>
    cases ran
    exact absent
  | annotateColumn column note =>
    simp only [perform] at ran
    split at ran
    · rename_i found
      cases ran
      have different : name ≠ column := by
        intro same
        rw [← same, absent] at found
        cases found
      simpa [Relation.set, different] using absent
    · cases ran

theorem run_absent {script : List (Change Name Note Def)}
    {name : Name} (others : ∀ change ∈ script, ¬ change.Creates name)
    (absent : relation.columns name = none) (ran : run blank script relation = some after) :
    after.columns name = none := by
  induction script generalizing relation with
  | nil =>
    cases ran
    exact absent
  | cons change rest ih =>
    obtain ⟨middle, first, later⟩ := Option.bind_eq_some_iff.mp ran
    exact ih (fun other member => others other (List.mem_cons_of_mem _ member))
      (perform_absent blank (others change List.mem_cons_self) absent first) later

theorem perform_rename_undo {old new : Name}
    (ran : perform blank relation (.rename old new : Change Name Note Def) = some after)
    (other : Relation Name Note Data)
    (shape : ∀ name, (other.columns name).isSome = (after.columns name).isSome) :
    perform blank other (.rename new old : Change Name Note Def) =
      some ⟨other.columns ∘ Equiv.swap old new, other.note⟩ := by
  obtain ⟨⟨column, source⟩, target, moved, _⟩ := perform_rename blank ran
  have present := shape new
  have absent := shape old
  simp only [moved, Function.comp_apply, Equiv.swap_apply_left, Equiv.swap_apply_right, source,
    target, Option.isSome_some, Option.isSome_none] at present absent
  obtain ⟨found, here⟩ := Option.isSome_iff_exists.mp present
  have gone : other.columns old = none := by simpa using absent
  simp only [perform, here, gone, Option.some.injEq]
  apply Relation.ext
  · funext name
    simp only [Relation.set, Function.comp_apply]
    by_cases isOld : name = old
    · subst name
      simp [here]
    · by_cases isNew : name = new
      · subst name
        simp [isOld, gone]
      · simp [isOld, isNew, Equiv.swap_apply_of_ne_of_ne isOld isNew]
  · rfl

def renames (pairs : List (Name × Name)) : List (Change Name Note Def) :=
  pairs.map fun pair => .rename pair.1 pair.2

/-- The script that takes the renames back, last one first. -/
def renamesBack (pairs : List (Name × Name)) : List (Change Name Note Def) :=
  (pairs.map fun pair => .rename pair.2 pair.1).reverse

/-- Where the column found under a name after the renames came from. -/
def origin : List (Name × Name) → Equiv.Perm Name
  | [] => Equiv.refl Name
  | (old, new) :: rest => (origin rest).trans (Equiv.swap old new)

variable {pairs : List (Name × Name)}

theorem run_renames
    (ran : run blank (renames pairs : List (Change Name Note Def)) relation = some after) :
    after.columns = relation.columns ∘ origin pairs ∧ after.note = relation.note := by
  induction pairs generalizing relation with
  | nil =>
    cases ran
    exact ⟨rfl, rfl⟩
  | cons pair rest ih =>
    obtain ⟨middle, first, later⟩ := Option.bind_eq_some_iff.mp ran
    obtain ⟨_, _, moved, note⟩ := perform_rename blank first
    obtain ⟨columns, restNote⟩ := ih later
    refine ⟨?_, restNote.trans note⟩
    rw [columns, moved]
    rfl

theorem run_renames_last (proper : pairs ≠ [])
    (ran : run blank (renames pairs : List (Change Name Note Def)) relation = some after) :
    ∃ pair ∈ pairs, (after.columns pair.2).isSome := by
  induction pairs generalizing relation with
  | nil => exact absurd rfl proper
  | cons pair rest ih =>
    obtain ⟨middle, first, later⟩ := Option.bind_eq_some_iff.mp ran
    by_cases last : rest = []
    · subst last
      cases later
      obtain ⟨⟨column, source⟩, _, moved, _⟩ := perform_rename blank first
      exact ⟨pair, List.mem_cons_self, by simp [moved, source]⟩
    · obtain ⟨found, member, present⟩ := ih last later
      exact ⟨found, List.mem_cons_of_mem _ member, present⟩

-- Taking the renames back runs on every table of the resulting shape and reads each column
-- where the renames had put it.
theorem run_renames_back
    (ran : run blank (renames pairs : List (Change Name Note Def)) relation = some after)
    (other : Relation Name Note Data)
    (shape : ∀ name, (other.columns name).isSome = (after.columns name).isSome) :
    run blank (renamesBack pairs : List (Change Name Note Def)) other =
      some ⟨other.columns ∘ (origin pairs).symm, other.note⟩ := by
  induction pairs generalizing relation with
  | nil => rfl
  | cons pair rest ih =>
    obtain ⟨middle, first, later⟩ := Option.bind_eq_some_iff.mp ran
    have tail := ih later
    simp only [renamesBack, List.map_cons, List.reverse_cons] at tail ⊢
    rw [run_append, tail]
    have moved := (run_renames blank later).1
    have undone := perform_rename_undo blank first
      ⟨other.columns ∘ (origin rest).symm, other.note⟩ (by
        intro name
        have same := shape ((origin rest).symm name)
        simpa [moved] using same)
    simp only [Option.bind_some, run, undone]
    rfl

-- A first rename leaves the columns that the later ones move.
theorem perform_rename_sources {head : Name × Name} {rest : List (Name × Name)}
    {relation middle : Relation Name Note Data}
    (ran : perform blank relation (.rename head.1 head.2 : Change Name Note Def) = some middle)
    (oldFresh : head.1 ∉ rest.map Prod.fst)
    (present : ∀ pair ∈ rest, (relation.columns pair.1).isSome) :
    ∀ pair ∈ rest, pair.1 ≠ head.2 ∧ middle.columns pair.1 = relation.columns pair.1 := by
  obtain ⟨_, target, _, _⟩ := perform_rename blank ran
  intro pair member
  have notOld : pair.1 ≠ head.1 := fun same => oldFresh (List.mem_map.mpr ⟨pair, member, same⟩)
  have notNew : pair.1 ≠ head.2 := by
    intro same
    have found := present pair member
    rw [same, target] at found
    cases found
  exact ⟨notNew, perform_rename_away blank ran notOld notNew⟩

/-- Each new name is free by the time its turn comes: it is no column of the
table, or an earlier entry has moved that column away. -/
def FreeInTurn (pairs : List (Name × Name)) (relation : Relation Name Note Data) : Prop :=
  ∀ earlier pair later, pairs = earlier ++ pair :: later →
    (relation.columns pair.2).isSome → pair.2 ∈ earlier.map Prod.fst

theorem freeInTurn_cons {head : Name × Name} {rest : List (Name × Name)}
    {relation middle : Relation Name Note Data}
    (ran : perform blank relation (.rename head.1 head.2 : Change Name Note Def) = some middle)
    (newFresh : head.2 ∉ rest.map Prod.snd) :
    FreeInTurn (head :: rest) relation ↔ FreeInTurn rest middle := by
  obtain ⟨_, target, _, _⟩ := perform_rename blank ran
  have notNew : ∀ {earlier pair later}, rest = earlier ++ pair :: later → pair.2 ≠ head.2 := by
    intro earlier pair later shape same
    apply newFresh
    rw [← same]
    exact List.mem_map_of_mem (by rw [shape]; simp)
  constructor
  · intro free earlier pair later shape occupied
    have notOld : pair.2 ≠ head.1 := by
      intro same
      rw [same, perform_rename_gone blank ran] at occupied
      cases occupied
    rw [perform_rename_away blank ran notOld (notNew shape)] at occupied
    have listed := free (head :: earlier) pair later (by rw [shape]; rfl) occupied
    simp only [List.map_cons, List.mem_cons] at listed
    exact listed.resolve_left notOld
  · intro free earlier pair later shape occupied
    cases earlier with
    | nil =>
      simp only [List.nil_append, List.cons.injEq] at shape
      rw [← shape.1, target] at occupied
      cases occupied
    | cons first earlier =>
      simp only [List.cons_append, List.cons.injEq] at shape
      obtain ⟨rfl, shape⟩ := shape
      by_cases back : pair.2 = head.1
      · simp [back]
      · rw [← perform_rename_away blank ran back (notNew shape)] at occupied
        exact List.mem_cons_of_mem _ (free earlier pair later shape occupied)

-- Renames with distinct present old names and distinct new names run exactly when each new
-- name is free in its turn.
theorem run_renames_isSome_iff {relation : Relation Name Note Data}
    (oldDistinct : (pairs.map Prod.fst).Nodup) (newDistinct : (pairs.map Prod.snd).Nodup)
    (present : ∀ pair ∈ pairs, (relation.columns pair.1).isSome) :
    (run blank (renames pairs : List (Change Name Note Def)) relation).isSome ↔
      FreeInTurn pairs relation := by
  induction pairs generalizing relation with
  | nil => simp [renames, run, FreeInTurn]
  | cons head rest ih =>
    obtain ⟨oldFresh, oldRest⟩ := List.nodup_cons.mp oldDistinct
    obtain ⟨newFresh, newRest⟩ := List.nodup_cons.mp newDistinct
    obtain ⟨column, source⟩ := Option.isSome_iff_exists.mp (present head List.mem_cons_self)
    cases target : relation.columns head.2 with
    | some occupied =>
      have stops : run blank (renames (head :: rest) : List (Change Name Note Def)) relation =
          none := by
        simp [renames, run, perform, source, target]
      rw [stops]
      constructor
      · intro impossible
        cases impossible
      · intro free
        have taken := free [] head rest rfl (by simp [target])
        cases taken
    | none =>
      have first : perform blank relation (.rename head.1 head.2 : Change Name Note Def) =
          some ((relation.set head.1 none).set head.2 (some column)) := by
        simp [perform, source, target]
      have unfolded : run blank (renames (head :: rest) : List (Change Name Note Def)) relation =
          run blank (renames rest : List (Change Name Note Def))
            ((relation.set head.1 none).set head.2 (some column)) := by
        simp only [renames, List.map_cons, run, first, Option.bind_some]
      have presentRest : ∀ pair ∈ rest, (relation.columns pair.1).isSome :=
        fun pair member => present pair (List.mem_cons_of_mem _ member)
      rw [unfolded, freeInTurn_cons blank first newFresh]
      apply ih oldRest newRest
      intro pair member
      rw [(perform_rename_sources blank first oldFresh presentRest pair member).2]
      exact presentRest pair member

-- Where every column is after the renames: under its new name, gone from an old name that
-- nothing took over, and untouched elsewhere.
theorem run_renames_columns
    (oldDistinct : (pairs.map Prod.fst).Nodup) (newDistinct : (pairs.map Prod.snd).Nodup)
    (present : ∀ pair ∈ pairs, (relation.columns pair.1).isSome)
    (ran : run blank (renames pairs : List (Change Name Note Def)) relation = some after) :
    (∀ pair ∈ pairs, after.columns pair.2 = relation.columns pair.1) ∧
      ∀ name, name ∉ pairs.map Prod.snd → after.columns name =
        if name ∈ pairs.map Prod.fst then none else relation.columns name := by
  induction pairs generalizing relation with
  | nil =>
    cases ran
    simp
  | cons head rest ih =>
    obtain ⟨oldFresh, oldRest⟩ := List.nodup_cons.mp oldDistinct
    obtain ⟨newFresh, newRest⟩ := List.nodup_cons.mp newDistinct
    obtain ⟨middle, first, later⟩ := Option.bind_eq_some_iff.mp ran
    obtain ⟨_, _, moved, _⟩ := perform_rename blank first
    have presentRest : ∀ pair ∈ rest, (relation.columns pair.1).isSome :=
      fun pair member => present pair (List.mem_cons_of_mem _ member)
    have sources := perform_rename_sources blank first oldFresh presentRest
    obtain ⟨placed, others⟩ := ih oldRest newRest (by
      intro pair member
      rw [(sources pair member).2]
      exact presentRest pair member) later
    constructor
    · intro pair member
      rcases List.mem_cons.mp member with rfl | inRest
      · have notOld : pair.2 ∉ rest.map Prod.fst := by
          intro again
          obtain ⟨other, inRest, same⟩ := List.mem_map.mp again
          exact (sources other inRest).1 same
        rw [others _ newFresh, if_neg notOld, moved, Function.comp_apply,
          Equiv.swap_apply_right]
      · rw [placed pair inRest, (sources pair inRest).2]
    · intro name outside
      simp only [List.map_cons, List.mem_cons, not_or] at outside
      rw [others name outside.2]
      by_cases isHead : name = head.1
      · have notOld : name ∉ rest.map Prod.fst := by
          rw [isHead]
          exact oldFresh
        rw [if_neg notOld, isHead, perform_rename_gone blank first]
        simp
      · rw [perform_rename_away blank first isHead outside.1]
        have listed : name ∈ (head :: rest).map Prod.fst ↔ name ∈ rest.map Prod.fst := by
          simp only [List.map_cons, List.mem_cons, isHead, false_or]
        simp only [listed]

/-! ## Adding, dropping and annotating -/

/-- An addition and the note written on the new column, if any. -/
structure Addition (Name Note Def : Type) where
  name : Name
  definition : Def
  note : Option Note

def Addition.script (addition : Addition Name Note Def) : List (Change Name Note Def) :=
  .add addition.name addition.definition ::
    (addition.note.map (Change.annotateColumn addition.name)).toList

def Addition.column (addition : Addition Name Note Def) : Column Note Data :=
  { blank with note := addition.note.getD blank.note }

theorem run_addition (addition : Addition Name Note Def) (relation : Relation Name Note Data) :
    run blank addition.script relation =
      if relation.columns addition.name = none then
        some (relation.set addition.name (some (addition.column blank)))
      else none := by
  unfold Addition.script
  cases found : relation.columns addition.name with
  | some column => simp [run, perform, found]
  | none =>
    cases written : addition.note with
    | none => simp [run, perform, found, Addition.column, written]
    | some note =>
      simp [run, perform, found, Addition.column, written, Relation.set]

def additions (added : List (Addition Name Note Def)) : List (Change Name Note Def) :=
  added.flatMap Addition.script

theorem run_additions_cons (addition : Addition Name Note Def)
    (rest : List (Addition Name Note Def)) (relation : Relation Name Note Data) :
    run blank (additions (addition :: rest)) relation =
      if relation.columns addition.name = none then
        run blank (additions rest) (relation.set addition.name (some (addition.column blank)))
      else none := by
  simp only [additions, List.flatMap_cons]
  rw [run_append, run_addition]
  split <;> rfl

theorem run_additions_eq_some {added : List (Addition Name Note Def)}
    (ran : run blank (additions added) relation = some after) :
    (∀ addition ∈ added, relation.columns addition.name = none) ∧
      (∀ name, name ∉ added.map Addition.name → after.columns name = relation.columns name) ∧
      (∀ addition ∈ added, (after.columns addition.name).isSome) ∧ after.note = relation.note := by
  induction added generalizing relation with
  | nil =>
    cases ran
    simp
  | cons addition rest ih =>
    rw [run_additions_cons] at ran
    split at ran
    · rename_i free
      obtain ⟨absent, frame, present, note⟩ := ih ran
      have distinct : ∀ other ∈ rest, other.name ≠ addition.name := by
        intro other member same
        have clash := absent other member
        simp [Relation.set, same] at clash
      refine ⟨?_, ?_, ?_, note⟩
      · intro other member
        rcases List.mem_cons.mp member with rfl | later
        · exact free
        · have gone := absent other later
          simpa [Relation.set, distinct other later] using gone
      · intro name outside
        simp only [List.map_cons, List.mem_cons, not_or] at outside
        rw [frame name outside.2]
        simp [Relation.set, outside.1]
      · intro other member
        rcases List.mem_cons.mp member with rfl | later
        · by_cases again : other.name ∈ rest.map Addition.name
          · obtain ⟨second, inRest, same⟩ := List.mem_map.mp again
            exact absurd same (distinct second inRest)
          · rw [frame _ again]
            simp [Relation.set]
        · exact present other later
    · cases ran

theorem run_additions_nodup {added : List (Addition Name Note Def)}
    (ran : run blank (additions added) relation = some after) :
    (added.map Addition.name).Nodup := by
  induction added generalizing relation with
  | nil => exact List.nodup_nil
  | cons addition rest ih =>
    rw [run_additions_cons] at ran
    split at ran
    · refine List.nodup_cons.mpr ⟨fun again => ?_, ih ran⟩
      obtain ⟨other, member, same⟩ := List.mem_map.mp again
      have clash := (run_additions_eq_some blank ran).1 other member
      simp [Relation.set, same] at clash
    · cases ran

theorem run_additions {added : List (Addition Name Note Def)}
    (relation : Relation Name Note Data) (distinct : (added.map Addition.name).Nodup)
    (absent : ∀ addition ∈ added, relation.columns addition.name = none) :
    ∃ after, run blank (additions added) relation = some after ∧
      (∀ addition ∈ added, after.columns addition.name = some (addition.column blank)) ∧
      (∀ name, name ∉ added.map Addition.name → after.columns name = relation.columns name) ∧
      after.note = relation.note := by
  induction added generalizing relation with
  | nil => exact ⟨relation, rfl, by simp, by simp, rfl⟩
  | cons addition rest ih =>
    obtain ⟨fresh, distinctRest⟩ := List.nodup_cons.mp distinct
    have others : ∀ other ∈ rest, other.name ≠ addition.name := by
      intro other member same
      exact fresh (List.mem_map.mpr ⟨other, member, same⟩)
    obtain ⟨after, ran, new, frame, note⟩ :=
      ih (relation.set addition.name (some (addition.column blank))) distinctRest (by
        intro other member
        simpa [Relation.set, others other member] using
          absent other (List.mem_cons_of_mem _ member))
    refine ⟨after, ?_, ?_, ?_, note⟩
    · rw [run_additions_cons, if_pos (absent addition List.mem_cons_self)]
      exact ran
    · intro other member
      rcases List.mem_cons.mp member with rfl | later
      · rw [frame _ fresh]
        simp [Relation.set]
      · exact new other later
    · intro name outside
      simp only [List.map_cons, List.mem_cons, not_or] at outside
      rw [frame name outside.2]
      simp [Relation.set, outside.1]

def drops (names : List Name) : List (Change Name Note Def) := names.map .drop

theorem run_drops {names : List Name} (relation : Relation Name Note Data)
    (distinct : names.Nodup) (present : ∀ name ∈ names, (relation.columns name).isSome) :
    run blank (drops names : List (Change Name Note Def)) relation =
      some { relation with columns := fun name =>
        if name ∈ names then none else relation.columns name } := by
  induction names generalizing relation with
  | nil => simp [drops, run]
  | cons name rest ih =>
    obtain ⟨fresh, distinctRest⟩ := List.nodup_cons.mp distinct
    obtain ⟨column, found⟩ := Option.isSome_iff_exists.mp (present name List.mem_cons_self)
    have tail := ih (relation.set name none) distinctRest (by
      intro other member
      have different : other ≠ name := fun same => fresh (same ▸ member)
      simpa [Relation.set, different] using present other (List.mem_cons_of_mem _ member))
    simp only [drops, List.map_cons, run, perform, found, Option.bind_some] at tail ⊢
    rw [tail]
    simp only [Option.some.injEq]
    apply Relation.ext
    · funext other
      simp only [Relation.set, List.mem_cons]
      by_cases dropped : other ∈ rest
      · simp [dropped]
      · by_cases same : other = name <;> simp [dropped, same]
    · rfl

theorem run_drops_absent {names : List Name} {relation : Relation Name Note Data} {name : Name}
    (member : name ∈ names) (absent : relation.columns name = none) :
    run blank (drops names : List (Change Name Note Def)) relation = none := by
  induction names generalizing relation with
  | nil => cases member
  | cons head rest ih =>
    simp only [drops, List.map_cons, run, perform]
    cases found : relation.columns head with
    | none => rfl
    | some column =>
      have different : name ≠ head := by
        intro same
        rw [← same, absent] at found
        cases found
      rcases List.mem_cons.mp member with same | later
      · exact absurd same different
      · exact ih later (by simpa [Relation.set, different] using absent)

def notes (pairs : List (Name × Note)) : List (Change Name Note Def) :=
  pairs.map fun pair => .annotateColumn pair.1 pair.2

/-- The note a column ends with: the last one written, else the one it had. -/
def lastNote (name : Name) : List (Name × Note) → Note → Note
  | [], note => note
  | pair :: rest, note => lastNote name rest (if pair.1 = name then pair.2 else note)

theorem run_notes {pairs : List (Name × Note)} (relation : Relation Name Note Data)
    (present : ∀ pair ∈ pairs, (relation.columns pair.1).isSome) :
    run blank (notes pairs : List (Change Name Note Def)) relation =
      some { relation with columns := fun name => (relation.columns name).map fun column =>
        { column with note := lastNote name pairs column.note } } := by
  induction pairs generalizing relation with
  | nil => simp [notes, run, lastNote]
  | cons pair rest ih =>
    obtain ⟨column, found⟩ := Option.isSome_iff_exists.mp (present pair List.mem_cons_self)
    have tail := ih (relation.set pair.1 (some { column with note := pair.2 })) (by
      intro other member
      by_cases same : other.1 = pair.1
      · simp [Relation.set, same]
      · simpa [Relation.set, same] using present other (List.mem_cons_of_mem _ member))
    simp only [notes, List.map_cons, run, perform, found, Option.bind_some] at tail ⊢
    rw [tail]
    simp only [Option.some.injEq]
    apply Relation.ext
    · funext name
      by_cases same : name = pair.1
      · subst name
        simp [Relation.set, found, lastNote]
      · have different : pair.1 ≠ name := fun equal => same equal.symm
        simp [Relation.set, same, lastNote, different]
    · rfl

theorem run_notes_present {pairs : List (Name × Note)}
    (ran : run blank (notes pairs : List (Change Name Note Def)) relation = some after) :
    ∀ pair ∈ pairs, (relation.columns pair.1).isSome := by
  induction pairs generalizing relation with
  | nil => simp
  | cons pair rest ih =>
    obtain ⟨middle, first, later⟩ := Option.bind_eq_some_iff.mp ran
    unfold perform at first
    cases found : relation.columns pair.1 with
    | none => simp [found] at first
    | some column =>
      simp only [found, Option.some.injEq] at first
      subst middle
      intro other member
      rcases List.mem_cons.mp member with rfl | inRest
      · simp [found]
      · have kept := ih later other inRest
        by_cases same : other.1 = pair.1
        · simp [same, found]
        · simpa [Relation.set, same] using kept

theorem lastNote_of_not_mem {name : Name} {pairs : List (Name × Note)} (note : Note)
    (absent : name ∉ pairs.map Prod.fst) : lastNote name pairs note = note := by
  induction pairs generalizing note with
  | nil => rfl
  | cons pair rest ih =>
    simp only [List.map_cons, List.mem_cons, not_or] at absent
    rw [lastNote, ih _ absent.2, if_neg (Ne.symm absent.1)]

theorem lastNote_of_constant {name : Name} {pairs : List (Name × Note)} (value note : Note)
    (constant : ∀ pair ∈ pairs, pair.1 = name → pair.2 = value)
    (member : name ∈ pairs.map Prod.fst) : lastNote name pairs note = value := by
  induction pairs generalizing note with
  | nil => cases member
  | cons pair rest ih =>
    rw [lastNote]
    by_cases later : name ∈ rest.map Prod.fst
    · exact ih _ (fun other inRest => constant other (List.mem_cons_of_mem _ inRest)) later
    · have here : pair.1 = name := by
        simp only [List.map_cons, List.mem_cons] at member
        rcases member with same | inRest
        · exact same.symm
        · exact absurd inRest later
      rw [lastNote_of_not_mem _ later, if_pos here]
      exact constant pair List.mem_cons_self here

end Onetcli.ColumnTable
