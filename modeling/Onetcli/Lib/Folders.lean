import Mathlib.Data.List.Perm.Basic
import Mathlib.Data.List.Nodup
import Mathlib.Data.List.Flatten
import Mathlib.Data.List.Induction
import Onetcli.Lib.Checks

/-!
Directories and files made one after the other below a root that starts empty. A path is the
names that lead to it; making one fails where its parent is no directory yet or where the
path is taken. Lists that are checked under keys for the names, such as their lower case, can
be made under the names themselves when every parent is spelled like its directory.
-/

/-!
Trees whose children carry labels, such as directories. Every node has a path of the
keys of the labels that lead to it; the paths of a tree differ exactly when no node
has two children whose labels have the same key.
-/

namespace Onetcli.Forests

variable {Label Leaf Branch Key : Type}

inductive Tree (Label Leaf Branch : Type) where
  | leaf (value : Leaf)
  | branch (value : Branch) (children : List (Label × Tree Label Leaf Branch))

variable (key : Label → Key)

mutual

def Tree.keyPaths (path : List Key) : Tree Label Leaf Branch → List (List Key)
  | .leaf _ => [path]
  | .branch _ children => path :: keyPathsAll path children

def keyPathsAll (path : List Key) : List (Label × Tree Label Leaf Branch) → List (List Key)
  | [] => []
  | (label, tree) :: rest => tree.keyPaths (path ++ [key label]) ++ keyPathsAll path rest

end

mutual

def Tree.Distinct : Tree Label Leaf Branch → Prop
  | .leaf _ => True
  | .branch _ children => (children.map fun child => key child.1).Nodup ∧ DistinctAll children

def DistinctAll : List (Label × Tree Label Leaf Branch) → Prop
  | [] => True
  | (_, tree) :: rest => tree.Distinct ∧ DistinctAll rest

end

variable {key}

theorem keyPathsAll_eq_flatMap (path : List Key) (children : List (Label × Tree Label Leaf Branch)) :
    keyPathsAll key path children =
      children.flatMap fun child => child.2.keyPaths key (path ++ [key child.1]) := by
  induction children with
  | nil => rfl
  | cons child rest ih => rw [keyPathsAll, ih, List.flatMap_cons]

theorem keyPathsAll_perm {children others : List (Label × Tree Label Leaf Branch)}
    (permuted : children.Perm others) (path : List Key) :
    (keyPathsAll key path children).Perm (keyPathsAll key path others) := by
  rw [keyPathsAll_eq_flatMap, keyPathsAll_eq_flatMap]
  exact permuted.flatMap_right _

mutual

theorem prefix_of_mem_keyPaths {path found : List Key} :
    (tree : Tree Label Leaf Branch) → found ∈ tree.keyPaths key path → path <+: found
  | .leaf _, member => by
    rw [Tree.keyPaths, List.mem_singleton] at member
    subst member
    exact List.prefix_rfl
  | .branch _ children, member => by
    rw [Tree.keyPaths, List.mem_cons] at member
    rcases member with here | below
    · subst here
      exact List.prefix_rfl
    · obtain ⟨label, longer⟩ := prefix_of_mem_keyPathsAll children below
      exact (List.prefix_append path [label]).trans longer

theorem prefix_of_mem_keyPathsAll {path found : List Key} :
    (children : List (Label × Tree Label Leaf Branch)) → found ∈ keyPathsAll key path children →
      ∃ label, path ++ [label] <+: found
  | (label, tree) :: rest, member => by
    rw [keyPathsAll, List.mem_append] at member
    rcases member with here | later
    · exact ⟨key label, prefix_of_mem_keyPaths tree here⟩
    · exact prefix_of_mem_keyPathsAll rest later

end

theorem path_mem_keyPaths (tree : Tree Label Leaf Branch) (path : List Key) :
    path ∈ tree.keyPaths key path := by
  cases tree <;> simp [Tree.keyPaths]

-- Trees below one path list different paths exactly when their own keys differ and each lists
-- different ones.
theorem nodup_roots_iff (key : Label → Key) (path : List Key)
    (roots : List (Key × Tree Label Leaf Branch)) :
    (roots.flatMap fun root => root.2.keyPaths key (path ++ [root.1])).Nodup ↔
      (roots.map Prod.fst).Nodup ∧
        ∀ root ∈ roots, (root.2.keyPaths key (path ++ [root.1])).Nodup := by
  induction roots with
  | nil => simp
  | cons root rest ih =>
    have apart : (root.2.keyPaths key (path ++ [root.1])).Disjoint
        (rest.flatMap fun other => other.2.keyPaths key (path ++ [other.1])) ↔
          root.1 ∉ rest.map Prod.fst := by
      constructor
      · intro disjoint member
        obtain ⟨other, among, same⟩ := List.mem_map.mp member
        apply disjoint (path_mem_keyPaths root.2 (path ++ [root.1]))
        rw [List.mem_flatMap]
        refine ⟨other, among, ?_⟩
        rw [same]
        exact path_mem_keyPaths other.2 _
      · intro fresh found here there
        obtain ⟨other, among, inOther⟩ := List.mem_flatMap.mp there
        have first := prefix_of_mem_keyPaths _ here
        have second := prefix_of_mem_keyPaths _ inOther
        have equal : path ++ [root.1] = path ++ [other.1] :=
          (List.prefix_of_prefix_length_le first second (by simp)).eq_of_length (by simp)
        have same : root.1 = other.1 := by simpa using equal
        exact fresh (List.mem_map.mpr ⟨other, among, same.symm⟩)
    rw [List.flatMap_cons, List.nodup_append', apart, ih, List.map_cons, List.nodup_cons,
      List.forall_mem_cons]
    tauto

theorem nodup_keyPathsAll_iff (path : List Key) (children : List (Label × Tree Label Leaf Branch)) :
    (keyPathsAll key path children).Nodup ↔ (children.map fun child => key child.1).Nodup ∧
        ∀ child ∈ children, (child.2.keyPaths key (path ++ [key child.1])).Nodup := by
  have roots := nodup_roots_iff key path (children.map fun child => (key child.1, child.2))
  rw [List.flatMap_map, List.map_map, List.forall_mem_map] at roots
  rw [keyPathsAll_eq_flatMap]
  exact roots

mutual

theorem nodup_keyPaths_iff (path : List Key) :
    (tree : Tree Label Leaf Branch) → ((tree.keyPaths key path).Nodup ↔ tree.Distinct key)
  | .leaf _ => by simp [Tree.keyPaths, Tree.Distinct]
  | .branch _ children => by
    have outside : path ∉ keyPathsAll key path children := by
      intro member
      obtain ⟨label, longer⟩ := prefix_of_mem_keyPathsAll children member
      have length := longer.length_le
      rw [List.length_append, List.length_singleton] at length
      omega
    rw [Tree.keyPaths, List.nodup_cons, Tree.Distinct, nodup_keyPathsAll_iff,
      nodup_children_iff path children]
    exact and_iff_right outside

theorem nodup_children_iff (path : List Key) : (children : List (Label × Tree Label Leaf Branch)) →
      ((∀ child ∈ children, (child.2.keyPaths key (path ++ [key child.1])).Nodup) ↔
        DistinctAll key children)
  | [] => by simp [DistinctAll]
  | (label, tree) :: rest => by
    rw [List.forall_mem_cons, DistinctAll, nodup_keyPaths_iff (path ++ [key label]) tree,
      nodup_children_iff path rest]

end

end Onetcli.Forests

namespace Onetcli.Folders

open Checks

variable {Name Key : Type}

inductive Kind where
  | directory
  | file
  deriving DecidableEq

inductive Denial where
  | missingParent
  | alreadyExists
  deriving DecidableEq

abbrev Entry (Name : Type) := List Name × Kind

/-- What stands below the root. -/
abbrev Disk (Name : Type) := List (Entry Name)

def ParentStands (disk : Disk Name) (path : List Name) : Prop :=
  path.dropLast = [] ∨ (path.dropLast, .directory) ∈ disk

instance [DecidableEq Name] (disk : Disk Name) (path : List Name) :
    Decidable (ParentStands disk path) :=
  inferInstanceAs (Decidable (_ ∨ _))

def make [DecidableEq Name] (disk : Disk Name) (entry : Entry Name) : Except Denial (Disk Name) := do
  ensure (ParentStands disk entry.1) .missingParent
  ensure (entry.1 ∉ disk.map Prod.fst) .alreadyExists
  pure (disk ++ [entry])

structure Creatable (entries : List (Entry Name)) : Prop where
  distinct : (entries.map Prod.fst).Nodup
  parents : ∀ front entry back, entries = front ++ entry :: back → ParentStands front entry.1

theorem ParentStands.mono {disk larger : Disk Name} {path : List Name}
    (stands : ParentStands disk path) (within : ∀ entry ∈ disk, entry ∈ larger) :
    ParentStands larger path :=
  stands.imp_right (within _)

theorem creatable_nil : Creatable ([] : List (Entry Name)) where
  distinct := List.nodup_nil
  parents front entry back same := by simp at same

theorem creatable_snoc {entries : List (Entry Name)} {entry : Entry Name} :
    Creatable (entries ++ [entry]) ↔
      Creatable entries ∧ ParentStands entries entry.1 ∧ entry.1 ∉ entries.map Prod.fst := by
  constructor
  · rintro ⟨distinct, parents⟩
    rw [List.map_append, List.nodup_append'] at distinct
    refine ⟨⟨distinct.1, ?_⟩, parents entries entry [] rfl, ?_⟩
    · intro front other back same
      apply parents front other (back ++ [entry])
      rw [same]
      simp
    · exact fun taken => distinct.2.2 taken (List.mem_singleton.mpr rfl)
  · rintro ⟨⟨distinct, parents⟩, parent, fresh⟩
    refine ⟨?_, ?_⟩
    · rw [List.map_append, List.nodup_append']
      exact ⟨distinct, List.nodup_singleton _, List.disjoint_singleton.mpr fresh⟩
    · intro front other back same
      rcases List.eq_nil_or_concat back with rfl | ⟨before, last, rfl⟩
      · obtain ⟨rfl, single⟩ := List.append_inj' same rfl
        rw [← (List.cons.inj single).1]
        exact parent
      · rw [List.concat_eq_append, ← List.cons_append, ← List.append_assoc] at same
        exact parents front other before (List.append_inj' same rfl).1

section Making

variable [DecidableEq Name]

theorem makeAll_eq_ok {entries : List (Entry Name)} {disk : Disk Name} :
    entries.foldlM make [] = .ok disk ↔ Creatable entries ∧ disk = entries := by
  induction entries using List.reverseRecOn generalizing disk with
  | nil =>
    rw [List.foldlM_nil, pure_eq_ok]
    exact ⟨fun same => ⟨creatable_nil, same.symm⟩, fun both => both.2.symm⟩
  | append_singleton entries entry ih =>
    simp only [List.foldlM_append, List.foldlM_cons, List.foldlM_nil, bind_pure, bind_eq_ok, ih,
      make, pure_eq_ok, creatable_snoc]
    constructor
    · rintro ⟨_, ⟨creatable, rfl⟩, _, parent, _, fresh, rfl⟩
      exact ⟨⟨creatable, ensure_eq_ok.mp parent, ensure_eq_ok.mp fresh⟩, rfl⟩
    · rintro ⟨⟨creatable, parent, fresh⟩, rfl⟩
      exact ⟨_, ⟨creatable, rfl⟩, (), ensure_eq_ok.mpr parent, (), ensure_eq_ok.mpr fresh, rfl⟩

end Making

/-! ## Directories first -/

def directories (entries : List (Entry Name)) : List (Entry Name) :=
  entries.filter fun entry => entry.2 = .directory

def files (entries : List (Entry Name)) : List (Entry Name) :=
  entries.filter fun entry => !(entry.2 = .directory : Bool)

def keyed (key : Name → Key) (entry : Entry Name) : Entry Key := (entry.1.map key, entry.2)

theorem directories_files_perm (entries : List (Entry Name)) :
    (directories entries ++ files entries).Perm entries :=
  List.filter_append_perm _ _

theorem eq_of_key {key : Name → Key} {entries : List (Entry Name)}
    (distinct : (entries.map fun entry => entry.1.map key).Nodup) {first second : Entry Name}
    (firstIn : first ∈ entries) (secondIn : second ∈ entries)
    (same : first.1.map key = second.1.map key) : first = second :=
  List.inj_on_of_nodup_map distinct firstIn secondIn same

theorem parent_before (key : Name → Key) {entries front back : List (Entry Name)}
    {entry : Entry Name} (checked : Creatable (entries.map (keyed key)))
    (distinct : (entries.map fun entry => entry.1.map key).Nodup)
    (parent : (entry.1.dropLast, Kind.directory) ∈ entries)
    (split : directories entries = front ++ entry :: back) : ParentStands front entry.1 := by
  obtain ⟨before, after, whole, rfl, rest⟩ := List.filter_eq_append_iff.mp split
  obtain ⟨skipped, last, rfl, passed, _, _⟩ := List.filter_eq_cons_iff.mp rest
  have stands := checked.parents ((before ++ skipped).map (keyed key)) (keyed key entry)
    (last.map (keyed key)) (by rw [whole]; simp)
  rcases stands with top | listed
  · left
    simpa [keyed, ← List.map_dropLast] using top
  · right
    obtain ⟨other, among, same⟩ := List.mem_map.mp listed
    have otherIn : other ∈ entries := by
      rw [whole]
      simp only [List.mem_append] at among ⊢
      tauto
    have keys : other.1.map key = entry.1.dropLast.map key := by
      have := congrArg Prod.fst same
      simpa [keyed, ← List.map_dropLast] using this
    obtain rfl : other = (entry.1.dropLast, .directory) := eq_of_key distinct otherIn parent keys
    rcases List.mem_append.mp among with early | skip
    · exact List.mem_filter.mpr ⟨early, by simp⟩
    · exact absurd (by simp) (passed _ skip)

-- Entries that are creatable under keys are creatable, the directories first, exactly when
-- every parent is spelled like a directory of theirs.
theorem creatable_directories_first_iff (key : Name → Key) {entries : List (Entry Name)}
    (checked : Creatable (entries.map (keyed key))) :
    Creatable (directories entries ++ files entries) ↔
      ∀ entry ∈ entries, ParentStands entries entry.1 := by
  have permuted := directories_files_perm entries
  have distinct : (entries.map fun entry => entry.1.map key).Nodup := by
    have := checked.distinct
    rwa [List.map_map] at this
  constructor
  · intro creatable entry among
    obtain ⟨front, back, split⟩ := List.append_of_mem (permuted.mem_iff.mpr among)
    apply (creatable.parents front entry back split).mono
    intro other before
    apply permuted.mem_iff.mp
    rw [split]
    exact List.mem_append_left _ before
  · intro spelled
    have paths : (entries.map Prod.fst).Nodup := by
      apply List.Nodup.of_map (List.map key)
      rwa [List.map_map]
    refine ⟨(permuted.map Prod.fst).nodup_iff.mpr paths, ?_⟩
    intro front entry back split
    have among : entry ∈ entries := by
      apply permuted.mem_iff.mp
      rw [split]
      simp
    rcases spelled entry among with top | parent
    · exact Or.inl top
    · have listed : (entry.1.dropLast, Kind.directory) ∈ directories entries :=
        List.mem_filter.mpr ⟨parent, by simp⟩
      rcases List.append_eq_append_iff.mp split with ⟨inner, rfl, _⟩ | ⟨inner, dirs, rest⟩
      · exact Or.inr (List.mem_append_left _ listed)
      · cases inner with
        | nil =>
          rw [List.append_nil] at dirs
          exact Or.inr (dirs ▸ listed)
        | cons first inner =>
          obtain rfl := (List.cons.inj rest).1
          exact parent_before key checked distinct parent dirs

end Onetcli.Folders
