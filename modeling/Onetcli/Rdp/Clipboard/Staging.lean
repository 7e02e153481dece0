import Onetcli.Rdp.Clipboard.FileLists
import Onetcli.Rdp.Clipboard.RemoteTransfer

/-!
The staging of an accepted file list, clipboard/remote.rs of the helper, on a file system that
tells upper from lower case. The list was checked under lower case: a path may name its
parent in another spelling than the directory has.
-/

namespace Onetcli.Rdp.Clipboard

open Checks Paths Folders

/-! ## The disk -/

def namesBelow (root path : PathBuf) : List String :=
  (path.components.drop root.components.length).filterMap fun component =>
    match component with
    | .normal name => some name
    | _ => none

def Denial.message : Denial → String
  | .missingParent => "No such file or directory"
  | .alreadyExists => "File exists"

def makeAt (root : PathBuf) (kind : Kind) (disk : Disk String) (path : PathBuf) :
    Disk String × Option String :=
  match make disk (namesBelow root path, kind) with
  | .ok disk => (disk, none)
  | .error denial => (disk, some (Denial.message denial))

/-- A file system below the staging directory, which is empty at first. -/
def folderHost (root : PathBuf) : StagingHost (Disk String) where
  createDirectory := makeAt root .directory
  createFile := makeAt root .file
  write disk _ _ := (disk, none)
  flush disk _ := (disk, none)

section Stage

variable {Disk : Type}

/-- `create_output_file` for one file after the other, as the transfer comes to them. -/
def createOutputFiles (host : StagingHost Disk) (root : PathBuf) :
    Disk → List RemoteFile → Disk × Option String
  | disk, [] => (disk, none)
  | disk, file :: rest =>
    let created := host.createFile disk (root.push file.relativePath)
    match created.2 with
    | some _ => (created.1, some "remote clipboard staging file could not be created")
    | none => createOutputFiles host root created.1 rest

def stage (host : StagingHost Disk) (root : PathBuf) (disk : Disk) (layout : RemoteClipboardLayout) :
    Disk × Option String :=
  match createDirectories host root disk layout.directories with
  | (disk, some err) => (disk, some err)
  | (disk, none) => createOutputFiles host root disk layout.files

end Stage

/-! ## What an accepted list is -/

section Accepted

variable {tables : NameTables} (platform : Platform)

def kindOf (directory : Bool) : Kind := if directory then .directory else .file

def entryOf (listed : RelativeClipboardPath tables × Bool) : Entry String :=
  (listed.1.components, kindOf listed.2)

def Describes (descriptor : FileDescriptor) (listed : RelativeClipboardPath tables × Bool) : Prop :=
  descriptorPath tables descriptor = .ok listed.1 ∧ isDirectory descriptor = .ok listed.2

/-- What the state of the loop says of the paths so far. -/
structure Recorded (entries : List (RelativeClipboardPath tables × Bool)) (state : LayoutState) :
    Prop where
  hierarchy : state.hierarchy = (entries.map fun listed => (listed.1.normalizedKey, listed.2)).reverse
  directories : state.layout.directories =
    (entries.filter fun listed => listed.2).map fun listed => listed.1.asPathBuf platform
  files : state.layout.files.map RemoteFile.relativePath =
    (entries.filter fun listed => !listed.2).map fun listed => listed.1.asPathBuf platform
  creatable : Creatable ((entries.map entryOf).map (keyed (toLowercase tables.toCaseTables)))

variable {platform} {entries : List (RelativeClipboardPath tables × Bool)} {state next : LayoutState}

theorem normalizedKey_eq_iff (path : RelativeClipboardPath tables) {components : List String}
    (safe : ∀ component ∈ components, SafeName tables component) (proper : components ≠ []) :
    path.normalizedKey = joinWire (lowered tables components) ↔
      lowered tables path.components = lowered tables components :=
  joinWire_lowered_inj path.confined.names safe path.confined.notEmpty proper

theorem Recorded.parent (recorded : Recorded platform entries state)
    {path : RelativeClipboardPath tables} (passed : validateParent path state.hierarchy = .ok ()) :
    ParentStands ((entries.map entryOf).map (keyed (toLowercase tables.toCaseTables)))
      (lowered tables path.components) := by
  rw [ParentStands, lowered, ← List.map_dropLast]
  unfold validateParent RelativeClipboardPath.parentKey at passed
  by_cases top : path.components.dropLast = []
  · exact Or.inl (by rw [top]; rfl)
  · right
    dsimp only at passed
    rw [if_neg top] at passed
    have found := ensure_eq_ok.mp passed
    rw [recorded.hierarchy] at found
    obtain ⟨before, after, split, _⟩ := List.lookup_eq_some_iff.mp found
    have listed : (joinWire (path.components.dropLast.map (toLowercase tables.toCaseTables)), true) ∈
        (entries.map fun listed => (listed.1.normalizedKey, listed.2)).reverse := by
      rw [split]
      simp
    obtain ⟨other, among, same⟩ := List.mem_map.mp (List.mem_reverse.mp listed)
    obtain ⟨keys, directory⟩ := Prod.mk.inj same
    have safe : ∀ component ∈ path.components.dropLast, SafeName tables component :=
      fun component member => path.confined.names component (List.mem_of_mem_dropLast member)
    have components := (normalizedKey_eq_iff other.1 safe top).mp keys
    refine List.mem_map.mpr ⟨entryOf other, List.mem_map_of_mem among, ?_⟩
    simp only [keyed, entryOf, kindOf, directory, if_true]
    exact congrArg (·, Kind.directory) components

theorem Recorded.fresh (recorded : Recorded platform entries state)
    {path : RelativeClipboardPath tables} (absent : state.hierarchy.lookup path.normalizedKey = none) :
    lowered tables path.components ∉
      ((entries.map entryOf).map (keyed (toLowercase tables.toCaseTables))).map Prod.fst := by
  intro taken
  simp only [List.map_map, List.mem_map, Function.comp_apply] at taken
  obtain ⟨other, among, same⟩ := taken
  have keys := (normalizedKey_eq_iff other.1 path.confined.names path.confined.notEmpty).mpr same
  rw [recorded.hierarchy, List.lookup_eq_none_iff] at absent
  have differs := absent _ (List.mem_reverse.mpr (List.mem_map_of_mem among))
  exact bne_iff_ne.mp differs keys.symm

theorem addToLayout_ok {descriptor : FileDescriptor} {path : RelativeClipboardPath tables}
    {index : Nat} {directory : Bool}
    (added : addToLayout platform state descriptor path index directory = .ok next) :
    next.hierarchy = state.hierarchy ∧ next.layout.directories = state.layout.directories ++
        (if directory then [path.asPathBuf platform] else []) ∧
      next.layout.files.map RemoteFile.relativePath =
        state.layout.files.map RemoteFile.relativePath ++
          (if directory then [] else [path.asPathBuf platform]) := by
  unfold addToLayout at added
  cases directory with
  | true =>
    obtain rfl := Except.ok.inj added
    simp
  | false =>
    simp only [Bool.false_eq_true, if_false, bind_eq_ok, pure_eq_ok] at added
    obtain ⟨total, _, rfl⟩ := added
    simp

theorem Recorded.step (recorded : Recorded platform entries state) {descriptor : FileDescriptor}
    {index : Nat} (passed : validateDescriptor tables platform index state descriptor = .ok next) :
    ∃ listed, Describes descriptor listed ∧ Recorded platform (entries ++ [listed]) next := by
  simp only [validateDescriptor, bind_eq_ok] at passed
  obtain ⟨path, described, directory, isDirectory, _, parent, _, fresh, _, _, added⟩ := passed
  obtain ⟨hierarchy, directories, files⟩ := addToLayout_ok added
  have stands := recorded.parent parent
  have absent := recorded.fresh (ensure_eq_ok.mp fresh)
  refine ⟨(path, directory), ⟨described, isDirectory⟩, ?_, ?_, ?_, ?_⟩
  · rw [hierarchy, recordPath_hierarchy, recorded.hierarchy]
    simp
  · rw [directories, (recordPath_layout _ _ _).1, recorded.directories]
    cases directory <;> simp
  · rw [files, (recordPath_layout _ _ _).2, recorded.files]
    cases directory <;> simp
  · rw [List.map_append, List.map_append]
    exact creatable_snoc.mpr ⟨recorded.creatable, stands, absent⟩

structure Covers (descriptors : List FileDescriptor)
    (entries : List (RelativeClipboardPath tables × Bool)) : Prop where
  recorded : ∀ descriptor ∈ descriptors, ∃ listed ∈ entries, Describes descriptor listed
  described : ∀ listed ∈ entries, ∃ descriptor ∈ descriptors, Describes descriptor listed

theorem Recorded.run (recorded : Recorded platform entries state) {index : Nat}
    {descriptors : List FileDescriptor}
    (passed : validateDescriptors tables platform index state descriptors = .ok next) :
    ∃ more : List (RelativeClipboardPath tables × Bool), Covers descriptors more ∧
      Recorded platform (entries ++ more) next := by
  induction descriptors generalizing index state entries with
  | nil =>
    obtain rfl := Except.ok.inj passed
    exact ⟨[], ⟨by simp, by simp⟩, by simpa using recorded⟩
  | cons descriptor rest ih =>
    rw [validateDescriptors, bind_eq_ok] at passed
    obtain ⟨between, first, others⟩ := passed
    obtain ⟨listed, describes, after⟩ := recorded.step first
    obtain ⟨more, covers, final⟩ := ih after others
    refine ⟨listed :: more, ⟨?_, ?_⟩, by simpa using final⟩
    · rintro other (_ | among)
      · exact ⟨listed, List.mem_cons_self, describes⟩
      · obtain ⟨found, member, same⟩ := covers.recorded other ‹_›
        exact ⟨found, List.mem_cons_of_mem _ member, same⟩
    · rintro other (_ | among)
      · exact ⟨descriptor, List.mem_cons_self, describes⟩
      · obtain ⟨found, member, same⟩ := covers.described other ‹_›
        exact ⟨found, List.mem_cons_of_mem _ member, same⟩

theorem validate_recorded {descriptors : List FileDescriptor} {layout : RemoteClipboardLayout}
    (accepted : RemoteClipboardLayout.validate tables platform descriptors = .ok layout) :
    ∃ (entries : List (RelativeClipboardPath tables × Bool)) (state : LayoutState),
      Covers descriptors entries ∧ Recorded platform entries state ∧ state.layout = layout := by
  simp only [RemoteClipboardLayout.validate, bind_eq_ok, pure_eq_ok] at accepted
  obtain ⟨_, _, _, _, state, passed, same⟩ := accepted
  have start : Recorded platform ([] : List (RelativeClipboardPath tables × Bool)) {} :=
    ⟨rfl, rfl, rfl, creatable_nil⟩
  obtain ⟨entries, covers, recorded⟩ := start.run passed
  exact ⟨entries, state, covers, recorded, same⟩

end Accepted

/-! ## Staging -/

section Staging

variable (root : PathBuf)

def pathOf (names : List String) : PathBuf := { components := names.map .normal }

theorem asPathBuf_known {tables : NameTables} {platform : Platform}
    (known : platform ∈ [unix, windows]) (path : RelativeClipboardPath tables) :
    path.asPathBuf platform = pathOf path.components := by
  apply collect_plain
  intro component member
  apply (path.confined.names component member).plain
  intro char isSeparator
  simp only [List.mem_cons, List.not_mem_nil, or_false] at known
  rcases known with rfl | rfl
  · exact Or.inl (by simpa [unix] using isSeparator)
  · simpa [windows] using isSeparator

theorem namesBelow_push (names : List String) : namesBelow root (root.push (pathOf names)) = names := by
  unfold namesBelow pathOf
  rw [push_normals]
  simp [List.filterMap_map]

theorem createDirectories_folder (disk after : Disk String) (paths : List (List String)) :
    createDirectories (folderHost root) root disk (paths.map pathOf) = (after, none) ↔
      (paths.map fun names => (names, Kind.directory)).foldlM make disk = .ok after := by
  induction paths generalizing disk with
  | nil => simp [createDirectories, pure, Except.pure]
  | cons names rest ih =>
    rw [List.map_cons, createDirectories, List.map_cons, List.foldlM_cons]
    cases made : make disk (names, Kind.directory) with
    | error denial => simp [folderHost, makeAt, namesBelow_push, made, bind, Except.bind]
    | ok next =>
      simp only [folderHost, makeAt, namesBelow_push, made]
      exact ih next

theorem createOutputFiles_folder (disk after : Disk String) (remotes : List RemoteFile)
    (paths : List (List String)) (same : remotes.map RemoteFile.relativePath = paths.map pathOf) :
    createOutputFiles (folderHost root) root disk remotes = (after, none) ↔
      (paths.map fun names => (names, Kind.file)).foldlM make disk = .ok after := by
  induction paths generalizing disk remotes with
  | nil =>
    obtain rfl := List.map_eq_nil_iff.mp same
    simp [createOutputFiles, pure, Except.pure]
  | cons names rest ih =>
    obtain ⟨remote, others, rfl, path, later⟩ := List.map_eq_cons_iff.mp same
    rw [createOutputFiles, path, List.map_cons, List.foldlM_cons]
    cases made : make disk (names, Kind.file) with
    | error denial => simp [folderHost, makeAt, namesBelow_push, made, bind, Except.bind]
    | ok next =>
      simp only [folderHost, makeAt, namesBelow_push, made]
      exact ih next others later

variable {tables : NameTables} {platform : Platform}
  {entries : List (RelativeClipboardPath tables × Bool)} {state : LayoutState}

theorem directories_entries (entries : List (RelativeClipboardPath tables × Bool)) :
    directories (entries.map entryOf) =
      ((entries.filter fun listed => listed.2).map fun listed => listed.1.components).map
        fun names => (names, Kind.directory) := by
  induction entries with
  | nil => rfl
  | cons listed rest ih =>
    unfold directories at ih ⊢
    cases kind : listed.2 <;> simp [entryOf, kindOf, kind, ih]

theorem files_entries (entries : List (RelativeClipboardPath tables × Bool)) :
    files (entries.map entryOf) =
      ((entries.filter fun listed => !listed.2).map fun listed => listed.1.components).map
        fun names => (names, Kind.file) := by
  induction entries with
  | nil => rfl
  | cons listed rest ih =>
    unfold files at ih ⊢
    cases kind : listed.2 <;> simp [entryOf, kindOf, kind, ih]

-- Staging makes the directories and then the files of the list.
theorem stage_folder (known : platform ∈ [unix, windows])
    (recorded : Recorded platform entries state) (after : Disk String) :
    stage (folderHost root) root [] state.layout = (after, none) ↔
      (directories (entries.map entryOf) ++ files (entries.map entryOf)).foldlM make [] =
        .ok after := by
  have dirs : state.layout.directories =
      ((entries.filter fun listed => listed.2).map fun listed => listed.1.components).map pathOf := by
    rw [recorded.directories, List.map_map]
    exact List.map_congr_left fun listed _ => asPathBuf_known known listed.1
  have remotes : state.layout.files.map RemoteFile.relativePath =
      ((entries.filter fun listed => !listed.2).map fun listed => listed.1.components).map
        pathOf := by
    rw [recorded.files, List.map_map]
    exact List.map_congr_left fun listed _ => asPathBuf_known known listed.1
  rw [List.foldlM_append, bind_eq_ok, directories_entries, files_entries]
  simp only [← createDirectories_folder root, ← createOutputFiles_folder root _ _ _ _ remotes]
  unfold stage
  rw [dirs]
  generalize createDirectories (folderHost root) root [] _ = made
  obtain ⟨disk, failure⟩ := made
  cases failure with
  | none =>
    constructor
    · exact fun done => ⟨disk, rfl, done⟩
    · rintro ⟨_, same, done⟩
      obtain rfl := (Prod.mk.inj same).1
      exact done
  | some err =>
    constructor
    · exact fun done => nomatch (Prod.mk.inj done).2
    · rintro ⟨_, same, _⟩
      exact nomatch (Prod.mk.inj same).2

def Spelled (tables : NameTables) (descriptors : List FileDescriptor) : Prop :=
  ∀ descriptor ∈ descriptors, ∀ path : RelativeClipboardPath tables,
    descriptorPath tables descriptor = .ok path →
      path.components.dropLast = [] ∨
        ∃ other ∈ descriptors, ∃ parent : RelativeClipboardPath tables,
          Describes other (parent, true) ∧ parent.components = path.components.dropLast

theorem spelled_iff {descriptors : List FileDescriptor} (covers : Covers descriptors entries) :
    Spelled tables descriptors ↔
      ∀ entry ∈ entries.map entryOf, ParentStands (entries.map entryOf) entry.1 := by
  constructor
  · intro spelled entry among
    obtain ⟨listed, member, rfl⟩ := List.mem_map.mp among
    obtain ⟨descriptor, described, path, _⟩ := covers.described listed member
    rcases spelled descriptor described listed.1 path with top | ⟨other, otherIn, parent, tells, same⟩
    · exact Or.inl top
    · obtain ⟨found, foundIn, foundSays⟩ := covers.recorded other otherIn
      have paths : found.1 = parent := Except.ok.inj (foundSays.1.symm.trans tells.1)
      have kinds : found.2 = true := Except.ok.inj (foundSays.2.symm.trans tells.2)
      refine Or.inr (List.mem_map.mpr ⟨found, foundIn, ?_⟩)
      rw [entryOf, paths, kinds, same]
      rfl
  · intro stands descriptor among path described
    obtain ⟨listed, member, same⟩ := covers.recorded descriptor among
    obtain rfl : listed.1 = path := Except.ok.inj (same.1.symm.trans described)
    rcases stands (entryOf listed) (List.mem_map_of_mem member) with top | parent
    · exact Or.inl top
    · obtain ⟨found, foundIn, entry⟩ := List.mem_map.mp parent
      obtain ⟨other, otherIn, foundSays⟩ := covers.described found foundIn
      obtain ⟨components, kind⟩ := Prod.mk.inj entry
      have directory : found.2 = true := by
        cases isDirectory : found.2 with
        | true => rfl
        | false =>
          rw [isDirectory] at kind
          cases kind
      rw [← Prod.mk.eta (p := found), directory] at foundSays
      exact Or.inr ⟨other, otherIn, found.1, foundSays, components⟩

end Staging

/-- An accepted list can be staged on an empty file system that tells upper from lower case
exactly when every parent is spelled like its directory. -/
theorem staging_succeeds_iff (tables : NameTables) (platform : Platform) (root : PathBuf)
    (descriptors : List FileDescriptor) (layout : RemoteClipboardLayout)
    (known : platform ∈ [unix, windows])
    (accepted : RemoteClipboardLayout.validate tables platform descriptors = .ok layout) :
    (stage (folderHost root) root [] layout).2 = none ↔ Spelled tables descriptors := by
  obtain ⟨entries, state, covers, recorded, rfl⟩ := validate_recorded accepted
  rw [spelled_iff covers, ← creatable_directories_first_iff _ recorded.creatable]
  constructor
  · intro done
    exact (makeAll_eq_ok.mp ((stage_folder root known recorded _).mp (Prod.ext rfl done))).1
  · intro creatable
    rw [(stage_folder root known recorded _).mpr (makeAll_eq_ok.mpr ⟨creatable, rfl⟩)]

def folderRoot : PathBuf := { rooted := true, components := [.normal "tmp", .normal "onetcli"] }

def folderDescriptor (name : String) : FileDescriptor :=
  { name, attributes := some fileAttributeDirectory }

def fileDescriptor (name parent : String) : FileDescriptor :=
  { name, relativePath := some parent, attributes := some fileAttributeArchive }

theorem spelled_list_staged :
    ∃ layout, RemoteClipboardLayout.validate asciiTables unix
        [folderDescriptor "Dir", fileDescriptor "x" "Dir"] = .ok layout ∧
      ((stage (folderHost folderRoot) folderRoot [] layout).2 = none ↔
        Spelled asciiTables [folderDescriptor "Dir", fileDescriptor "x" "Dir"]) ∧
      (stage (folderHost folderRoot) folderRoot [] layout).2 = none :=
  ⟨_, rfl, staging_succeeds_iff asciiTables unix folderRoot _ _ (by simp) rfl, by decide +kernel⟩

/-- The parent of a file in another case than its directory: the list is accepted, and the file
cannot be created. -/
theorem other_case_not_staged :
    ∃ layout, RemoteClipboardLayout.validate asciiTables unix
        [folderDescriptor "Dir", fileDescriptor "x" "dir"] = .ok layout ∧
      stage (folderHost folderRoot) folderRoot [] layout =
        ([(["Dir"], .directory)], some "remote clipboard staging file could not be created") :=
  ⟨_, rfl, by decide +kernel⟩

end Onetcli.Rdp.Clipboard
