import Onetcli.Rdp.Clipboard.LocalFiles

/-!
What one side collects, the other side validates. The collector looks for names that
agree in lower case only at the top level, the validator at every level, so the two
agree exactly on forests whose directories keep their names apart in lower case.
-/

namespace Onetcli.Rdp.Clipboard

open Checks Paths Forests LocalClipboardEntry RelativeClipboardPath

variable {tables : NameTables}

/-! ## Entries of a run -/

/-- A name as the validator compares it; none when it is no text. -/
def lowerName (tables : NameTables) (name : OsName) : Option String :=
  name.text.map (toLowercase tables.toCaseTables)

def pathKey (path : RelativeClipboardPath tables) : List (Option String) :=
  (lowered tables path.components).map some

def entryKey (entry : LocalClipboardEntry tables) : List (Option String) :=
  pathKey entry.relativePath

/-- The paths below an entry of the stack. -/
def pendingKeys (item : Pending tables) : List (List (Option String)) :=
  item.tree.keyPaths (lowerName tables) (pathKey item.relative)

def fileBytes (entries : List (LocalClipboardEntry tables)) : Nat :=
  (entries.map fun entry => if entry.kind = .file then entry.size.toNat else 0).sum

def HasParent (entries : List (LocalClipboardEntry tables)) (path : RelativeClipboardPath tables) :
    Prop :=
  path.components.dropLast = [] ∨
    ∃ entry ∈ entries, entry.kind = .directory ∧
      entry.relativePath.components = path.components.dropLast

variable {entries : List (LocalClipboardEntry tables)}

theorem HasParent.append {path : RelativeClipboardPath tables} (parent : HasParent entries path)
    (more : List (LocalClipboardEntry tables)) : HasParent (entries ++ more) path := by
  rcases parent with top | ⟨entry, member, found⟩
  · exact Or.inl top
  · exact Or.inr ⟨entry, List.mem_append_left _ member, found⟩

/-- Parents come before what they contain. -/
inductive Ordered : List (LocalClipboardEntry tables) → Prop where
  | nil : Ordered []
  | snoc {entries : List (LocalClipboardEntry tables)} {entry : LocalClipboardEntry tables}
      (ordered : Ordered entries) (parent : HasParent entries entry.relativePath) :
      Ordered (entries ++ [entry])

/-- What holds of everything collected so far. -/
structure Sound (collected : Collected tables) : Prop where
  ordered : Ordered collected.entries
  sizes : ∀ entry ∈ collected.entries, entry.kind = .file → entry.size.toNat ≤ maxSingleFileBytes
  total : collected.totalBytes = fileBytes collected.entries
  bounded : collected.totalBytes ≤ maxTotalTransferBytes

theorem fileBytes_snoc (entries : List (LocalClipboardEntry tables))
    (entry : LocalClipboardEntry tables) : fileBytes (entries ++ [entry]) =
      fileBytes entries + if entry.kind = .file then entry.size.toNat else 0 := by
  simp [fileBytes]

variable {entry : LocalClipboardEntry tables}

theorem buildEntry_eq_ok {item : Pending tables} (built : buildEntry item = .ok entry) :
    entry.relativePath = item.relative ∧
      (entry.kind = .directory ∨ entryChildren item.tree = []) := by
  rw [buildEntry, bind_eq_ok] at built
  obtain ⟨_, _, built⟩ := built
  split at built
  · cases built
    rename_i leaf
    rw [leaf]
    exact ⟨rfl, Or.inr rfl⟩
  · cases built
    exact ⟨rfl, Or.inl rfl⟩
  · cases built

theorem accountFile_eq_ok {before after : Nat} (accounted : accountFile entry before = .ok after) :
    (entry.kind = .file → entry.size.toNat ≤ maxSingleFileBytes) ∧
      after = before + (if entry.kind = .file then entry.size.toNat else 0) ∧
      (before ≤ maxTotalTransferBytes → after ≤ maxTotalTransferBytes) := by
  cases kind : entry.kind with
  | directory =>
    simp only [accountFile, kind] at accounted
    cases accounted
    simp
  | file =>
    simp only [accountFile, kind, bind_eq_ok, pure_eq_ok] at accounted
    obtain ⟨_, single, _, _, _, bounded, rfl⟩ := accounted
    rw [ensure_eq_ok] at single bounded
    exact ⟨fun _ => single, by simp, fun _ => bounded⟩

theorem pushChild_eq_ok {canonicalRoot : List OsName} {parent item : Pending tables} {name : OsName}
    {tree : FileTree} (pushed : pushChild canonicalRoot parent name tree = .ok item) :
    item.tree = tree ∧ pathKey item.relative = pathKey parent.relative ++ [lowerName tables name] ∧
      item.relative.components.dropLast = parent.relative.components := by
  rw [pushChild] at pushed
  simp only [bind_eq_ok, pure_eq_ok] at pushed
  obtain ⟨_, _, text, decoded, relative, named, _, _, rfl⟩ := pushed
  have components := fromLocalComponents_eq_ok.mp named
  rw [OsName.intoString] at decoded
  split at decoded
  · rename_i found valid
    cases decoded
    refine ⟨rfl, ?_, ?_⟩
    · simp [pathKey, lowered, components, lowerName, valid]
    · rw [components, List.dropLast_concat]
  · cases decoded

theorem pushChildren_eq_ok {canonicalRoot : List OsName} {parent : Pending tables}
    {children : List (OsName × FileTree)} {items : List (Pending tables)}
    (pushed : pushChildren canonicalRoot parent children = .ok items) :
    items.flatMap pendingKeys = keyPathsAll (lowerName tables) (pathKey parent.relative) children ∧
      ∀ item ∈ items, item.relative.components.dropLast = parent.relative.components := by
  induction children generalizing items with
  | nil =>
    cases pushed
    exact ⟨rfl, by simp⟩
  | cons child rest ih =>
    rw [pushChildren] at pushed
    simp only [bind_eq_ok, pure_eq_ok] at pushed
    obtain ⟨later, pushedLater, first, pushedFirst, rfl⟩ := pushed
    obtain ⟨tree, key, parentPath⟩ := pushChild_eq_ok pushedFirst
    obtain ⟨keys, parents⟩ := ih pushedLater
    constructor
    · rw [List.flatMap_cons, keys, keyPathsAll, pendingKeys, tree, key]
    · intro item member
      rcases List.mem_cons.mp member with rfl | among
      · exact parentPath
      · exact parents item among

theorem pendingKeys_perm (item : Pending tables) :
    (pathKey item.relative :: keyPathsAll (lowerName tables) (pathKey item.relative)
      (sortedChildren (entryChildren item.tree))).Perm (pendingKeys item) := by
  cases tree : item.tree with
  | leaf kind => simp [pendingKeys, tree, entryChildren, sortedChildren, Tree.keyPaths, keyPathsAll]
  | branch size children =>
    rw [pendingKeys, tree, Tree.keyPaths, entryChildren]
    exact (keyPathsAll_perm (List.perm_insertionSort _ children) _).cons _

-- One turn of the loop keeps what holds of the entries.
theorem sound_snoc {collected : Collected tables} (sound : Sound collected)
 {totalBytes : Nat}
    (parent : HasParent collected.entries entry.relativePath)
    (accounted : accountFile entry collected.totalBytes = .ok totalBytes) :
    Sound (⟨collected.entries ++ [entry], totalBytes⟩ : Collected tables) := by
  obtain ⟨single, total, bounded⟩ := accountFile_eq_ok accounted
  refine ⟨sound.ordered.snoc parent, ?_, ?_, bounded sound.bounded⟩
  · intro other member isFile
    rcases List.mem_append.mp member with before | last
    · exact sound.sizes other before isFile
    · rw [List.mem_singleton.mp last] at isFile ⊢
      exact single isFile
  · rw [total, fileBytes_snoc, sound.total]

-- A run of the loop collects exactly the paths of its stack.
theorem collectPending_eq_ok {canonicalRoot : List OsName} {remaining : Nat}
    {stack : List (Pending tables)} {collected result : Collected tables}
    (run : collectPending canonicalRoot remaining stack collected = .ok result)
    (sound : Sound collected) (parents : ∀ item ∈ stack, HasParent collected.entries item.relative) :
    Sound result ∧ result.entries.length ≤ collected.entries.length + remaining ∧
      (result.entries.map entryKey).Perm
        (collected.entries.map entryKey ++ stack.flatMap pendingKeys) := by
  induction remaining generalizing stack collected with
  | zero =>
    cases stack with
    | nil =>
      cases run
      exact ⟨sound, Nat.le_refl _, by simp⟩
    | cons item stack => cases run
  | succ remaining ih =>
    cases stack with
    | nil =>
      cases run
      exact ⟨sound, Nat.le_add_right _ _, by simp⟩
    | cons item stack =>
      rw [collectPending] at run
      simp only [bind_eq_ok] at run
      obtain ⟨entry, built, totalBytes, accounted, children, pushed, run⟩ := run
      obtain ⟨relative, kind⟩ := buildEntry_eq_ok built
      obtain ⟨keys, below⟩ := pushChildren_eq_ok pushed
      have parent : HasParent collected.entries entry.relativePath := by
        rw [relative]
        exact parents item List.mem_cons_self
      have next : ∀ other ∈ children ++ stack,
          HasParent (collected.entries ++ [entry]) other.relative := by
        intro other member
        rcases List.mem_append.mp member with child | waiting
        · refine Or.inr ⟨entry, by simp, ?_, ?_⟩
          · rcases kind with directory | childless
            · exact directory
            · rw [childless] at pushed
              cases pushed
              cases child
          · rw [below other child, relative]
        · exact (parents other (List.mem_cons_of_mem _ waiting)).append _
      obtain ⟨kept, count, permuted⟩ := ih run (sound_snoc sound parent accounted) next
      refine ⟨kept, ?_, permuted.trans ?_⟩
      · simp only [List.length_append, List.length_singleton] at count
        omega
      · have here := (pendingKeys_perm item).append_right (stack.flatMap pendingKeys)
        simp only [List.map_append, List.map_singleton, List.flatMap_append, keys,
          List.flatMap_cons, List.append_assoc, List.singleton_append]
        apply List.Perm.append_left
        rw [entryKey, relative]
        exact here

theorem utf8FileName_eq_ok {path : LocalPath} {name : String}
    (named : utf8FileName path = .ok name) : path.fileName = some name := by
  rw [utf8FileName] at named
  split at named
  · rename_i found
    cases named
    exact found
  · cases named

def topLevelKeys (tables : NameTables) (paths : List LocalPath) :
    List (Option String × FileTree) :=
  paths.map fun path => (path.fileName.map (toLowercase tables.toCaseTables), path.tree)

theorem collectEntries_eq_ok {paths : List LocalPath} {collected result : Collected tables}
    (run : collectEntries paths collected = .ok result) (sound : Sound collected)
    (count : collected.entries.length ≤ maxClipboardEntryCount) :
    Sound result ∧ result.entries.length ≤ maxClipboardEntryCount ∧
      (result.entries.map entryKey).Perm (collected.entries.map entryKey ++
        (topLevelKeys tables paths).flatMap fun root =>
          root.2.keyPaths (lowerName tables) [root.1]) := by
  induction paths generalizing collected with
  | nil =>
    cases run
    exact ⟨sound, count, by simp [topLevelKeys]⟩
  | cons path rest ih =>
    rw [collectEntries] at run
    simp only [bind_eq_ok] at run
    obtain ⟨name, named, relative, built, middle, tree, run⟩ := run
    have components := fromLocalComponents_eq_ok.mp built
    have fileName := utf8FileName_eq_ok named
    rw [collectTree, bind_eq_ok] at tree
    obtain ⟨_, _, tree⟩ := tree
    have top : ∀ item ∈ [(⟨path.canonical, path.tree, relative⟩ : Pending tables)],
        HasParent collected.entries item.relative := by
      intro item member
      rw [List.mem_singleton.mp member]
      exact Or.inl (by simp [components])
    obtain ⟨kept, length, permuted⟩ := collectPending_eq_ok tree sound top
    obtain ⟨sound, count, whole⟩ := ih run kept (by omega)
    refine ⟨sound, count, whole.trans ?_⟩
    have key : pathKey relative = [some (toLowercase tables.toCaseTables name)] := by
      simp [pathKey, lowered, components]
    have first : pendingKeys (⟨path.canonical, path.tree, relative⟩ : Pending tables) =
        path.tree.keyPaths (lowerName tables)
          [path.fileName.map (toLowercase tables.toCaseTables)] := by
      rw [pendingKeys, key, fileName]
      rfl
    rw [List.flatMap_singleton, first] at permuted
    have tops : topLevelKeys tables (path :: rest) =
        (path.fileName.map (toLowercase tables.toCaseTables), path.tree) ::
          topLevelKeys tables rest := rfl
    rw [tops, List.flatMap_cons, ← List.append_assoc]
    exact permuted.append_right _

theorem validateTopLevelPaths_eq_ok {names : List String} {paths : List LocalPath}
    (valid : validateTopLevelPaths tables names paths = .ok ()) :
    ((topLevelKeys tables paths).map Prod.fst).Nodup ∧
      ∀ key ∈ (topLevelKeys tables paths).map Prod.fst, ∀ name ∈ names, key ≠ some name := by
  induction paths generalizing names with
  | nil => simp [topLevelKeys]
  | cons path rest ih =>
    rw [validateTopLevelPaths] at valid
    simp only [bind_eq_ok] at valid
    obtain ⟨_, _, name, named, _, _, _, fresh, valid⟩ := valid
    rw [ensure_eq_ok] at fresh
    have fileName := utf8FileName_eq_ok named
    obtain ⟨different, others⟩ := ih valid
    have tops : (topLevelKeys tables (path :: rest)).map Prod.fst =
        some (toLowercase tables.toCaseTables name) ::
          (topLevelKeys tables rest).map Prod.fst := by
      simp [topLevelKeys, fileName]
    rw [tops]
    refine ⟨List.nodup_cons.mpr ⟨?_, different⟩, ?_⟩
    · intro member
      exact others _ member _ List.mem_cons_self rfl
    · intro key member other before same
      rcases List.mem_cons.mp member with rfl | later
      · cases same
        exact fresh before
      · exact others key later other (List.mem_cons_of_mem _ before) same

/-! ## Validation of the entries -/

variable (platform : Platform)

def addEntry (state : LayoutState) (numbered : LocalClipboardEntry tables × Nat) : LayoutState :=
  let entry := numbered.1
  let state := recordPath state entry.relativePath (entry.kind = .directory)
  match entry.kind with
  | .directory => { state with layout := { state.layout with
      directories := state.layout.directories ++ [entry.relativePath.asPathBuf platform] } }
  | .file => { state with
      advertisedTotal := state.advertisedTotal + entry.size.toNat
      layout := { state.layout with
        files := state.layout.files ++
          [⟨numbered.2, entry.relativePath.asPathBuf platform, some entry.size⟩] } }

def stateAfter (entries : List (LocalClipboardEntry tables)) : LayoutState :=
  entries.zipIdx.foldl (addEntry platform) {}

theorem stateAfter_snoc (entries : List (LocalClipboardEntry tables))
    (entry : LocalClipboardEntry tables) : stateAfter platform (entries ++ [entry]) =
      addEntry platform (stateAfter platform entries) (entry, entries.length) := by
  simp [stateAfter, List.zipIdx_append]

@[simp]
theorem recordPath_hierarchy (state : LayoutState) (path : RelativeClipboardPath tables)
    (directory : Bool) : (recordPath state path directory).hierarchy =
      (path.normalizedKey, directory) :: state.hierarchy := by
  rw [recordPath]
  split <;> rfl

@[simp]
theorem recordPath_total (state : LayoutState) (path : RelativeClipboardPath tables)
    (directory : Bool) :
    (recordPath state path directory).advertisedTotal = state.advertisedTotal := by
  rw [recordPath]
  split <;> rfl

@[simp]
theorem recordPath_layout (state : LayoutState) (path : RelativeClipboardPath tables)
    (directory : Bool) :
    (recordPath state path directory).layout.directories = state.layout.directories ∧
      (recordPath state path directory).layout.files = state.layout.files := by
  rw [recordPath]
  split <;> exact ⟨rfl, rfl⟩

theorem stateAfter_hierarchy (entries : List (LocalClipboardEntry tables)) :
    (stateAfter platform entries).hierarchy = (entries.map fun entry =>
        (entry.relativePath.normalizedKey, decide (entry.kind = .directory))).reverse := by
  induction entries using List.reverseRecOn with
  | nil => rfl
  | append_singleton entries entry ih =>
    rw [stateAfter_snoc, addEntry]
    cases kind : entry.kind <;> simp [ih, kind]

theorem stateAfter_total (entries : List (LocalClipboardEntry tables)) :
    (stateAfter platform entries).advertisedTotal = fileBytes entries := by
  induction entries using List.reverseRecOn with
  | nil => rfl
  | append_singleton entries entry ih =>
    rw [stateAfter_snoc, addEntry, fileBytes_snoc]
    cases kind : entry.kind <;> simp [ih]

structure Agrees (entries : List (LocalClipboardEntry tables)) (layout : RemoteClipboardLayout) :
    Prop where
  directories : layout.directories =
    (entries.filter fun entry => entry.kind = .directory).map fun entry =>
      entry.relativePath.asPathBuf platform
  files : layout.files =
    (entries.zipIdx.filter fun numbered => numbered.1.kind = .file).map fun numbered =>
      ⟨numbered.2, numbered.1.relativePath.asPathBuf platform, some numbered.1.size⟩

theorem stateAfter_agrees (entries : List (LocalClipboardEntry tables)) :
    Agrees platform entries (stateAfter platform entries).layout := by
  induction entries using List.reverseRecOn with
  | nil => exact ⟨rfl, rfl⟩
  | append_singleton entries entry ih =>
    obtain ⟨directories, files⟩ := ih
    rw [stateAfter_snoc, addEntry]
    cases kind : entry.kind with
    | directory | file => constructor <;> simp [directories, files, kind, List.zipIdx_append]

def normalizedKeys (entries : List (LocalClipboardEntry tables)) : List String :=
  entries.map fun entry => entry.relativePath.normalizedKey

theorem normalizedKeys_nodup_iff (entries : List (LocalClipboardEntry tables)) :
    (normalizedKeys entries).Nodup ↔ (entries.map entryKey).Nodup := by
  have same : ∀ first second : LocalClipboardEntry tables,
      first.relativePath.normalizedKey = second.relativePath.normalizedKey ↔
        entryKey first = entryKey second := by
    intro first second
    have firstConfined := first.relativePath.confined
    have secondConfined := second.relativePath.confined
    rw [entryKey, entryKey, pathKey, pathKey,
      (List.map_injective_iff.mpr (Option.some_injective String)).eq_iff]
    exact joinWire_lowered_inj firstConfined.names secondConfined.names firstConfined.notEmpty
      secondConfined.notEmpty
  simp only [normalizedKeys, List.Nodup, List.pairwise_map, ne_eq, same]

theorem lookup_of_mem {pairs : List (String × Bool)} (different : (pairs.map Prod.fst).Nodup)
    {key : String} {value : Bool} (member : (key, value) ∈ pairs) :
    pairs.lookup key = some value := by
  induction pairs with
  | nil => cases member
  | cons pair rest ih =>
    rw [List.map_cons, List.nodup_cons] at different
    rcases List.mem_cons.mp member with rfl | later
    · simp
    · have other : key ≠ pair.1 := by
        rintro rfl
        exact different.1 (List.mem_map.mpr ⟨_, later, rfl⟩)
      rw [List.lookup_cons, beq_false_of_ne other]
      exact ih different.2 later

theorem isDirectory_descriptor (entry : LocalClipboardEntry tables) :
    isDirectory entry.descriptor = .ok (decide (entry.kind = .directory)) := by
  cases kind : entry.kind <;> simp only [isDirectory, descriptor, kind] <;> rfl

theorem validateParent_stateAfter
    {path : RelativeClipboardPath tables} (parent : HasParent entries path)
    (different : (normalizedKeys entries).Nodup) :
    validateParent path (stateAfter platform entries).hierarchy = .ok () := by
  rw [validateParent, parentKey]
  by_cases top : path.components.dropLast = []
  · rw [if_pos top]
  · rcases parent with isTop | ⟨entry, member, directory, components⟩
    · exact absurd isTop top
    · have key : entry.relativePath.normalizedKey =
          joinWire (path.components.dropLast.map (toLowercase tables.toCaseTables)) := by
        rw [normalizedKey, components]
      rw [if_neg top, ← key, stateAfter_hierarchy]
      apply ensure_eq_ok.mpr
      apply lookup_of_mem
      · rw [List.map_reverse, List.nodup_reverse, List.map_map]
        exact different
      · rw [List.mem_reverse, List.mem_map]
        exact ⟨entry, member, by simp [directory]⟩

theorem lookup_stateAfter (entries : List (LocalClipboardEntry tables)) (key : String) :
    (stateAfter platform entries).hierarchy.lookup key = none ↔ key ∉ normalizedKeys entries := by
  rw [stateAfter_hierarchy, List.lookup_eq_none_iff, normalizedKeys]
  constructor
  · intro absent member
    obtain ⟨entry, among, same⟩ := List.mem_map.mp member
    have differs := absent _ (List.mem_reverse.mpr (List.mem_map_of_mem among))
    exact bne_iff_ne.mp differs same.symm
  · intro absent pair member
    obtain ⟨entry, among, rfl⟩ := List.mem_map.mp (List.mem_reverse.mp member)
    exact bne_iff_ne.mpr fun same => absent (List.mem_map.mpr ⟨entry, among, same.symm⟩)

theorem addToLayout_entry (state : LayoutState) (entry : LocalClipboardEntry tables) (index : Nat)
    (single : entry.kind = .file → entry.size.toNat ≤ maxSingleFileBytes)
    (bounded : state.advertisedTotal + (if entry.kind = .file then entry.size.toNat else 0) ≤
      maxTotalTransferBytes) :
    addToLayout platform (recordPath state entry.relativePath (entry.kind = .directory))
        entry.descriptor entry.relativePath index (entry.kind = .directory) =
      .ok (addEntry platform state (entry, index)) := by
  cases kind : entry.kind with
  | directory => simp [addToLayout, addEntry, kind]
  | file =>
    rw [kind, if_pos rfl] at bounded
    have accounted := accountAdvertisedSize_some (single kind) bounded
    simp [addToLayout, addEntry, kind, descriptor, accounted, bind,
      Except.bind, pure, Except.pure]

-- The next entry is valid unless its key was seen.
theorem validateDescriptor_entry
 (parent : HasParent entries entry.relativePath)
    (different : (normalizedKeys entries).Nodup)
    (single : entry.kind = .file → entry.size.toNat ≤ maxSingleFileBytes)
    (bounded : fileBytes (entries ++ [entry]) ≤ maxTotalTransferBytes)
    (count : entries.length < maxClipboardEntryCount) :
    validateDescriptor tables platform entries.length (stateAfter platform entries)
        entry.descriptor =
      if entry.relativePath.normalizedKey ∈ normalizedKeys entries then
        .error "remote clipboard contains duplicate paths"
      else .ok (stateAfter platform (entries ++ [entry])) := by
  have path : descriptorPath tables entry.descriptor = .ok entry.relativePath :=
    entry.relativePath.fromWire_name_parent
  have small : entries.length < 2 ^ 31 := Nat.lt_trans count (by decide)
  have added := addToLayout_entry platform (stateAfter platform entries) entry entries.length single
    (by rw [stateAfter_total, ← fileBytes_snoc]; exact bounded)
  by_cases seen : entry.relativePath.normalizedKey ∈ normalizedKeys entries
  · have found : ¬ (stateAfter platform entries).hierarchy.lookup
        entry.relativePath.normalizedKey = none := by
      rw [lookup_stateAfter]
      exact not_not.mpr seen
    simp only [validateDescriptor, path, isDirectory_descriptor,
      validateParent_stateAfter platform parent different, bind, Except.bind, ensure, if_neg found,
      if_pos seen]
  · have fresh := (lookup_stateAfter platform entries entry.relativePath.normalizedKey).mpr seen
    simp only [validateDescriptor, path, isDirectory_descriptor,
      validateParent_stateAfter platform parent different, bind, Except.bind, ensure, if_pos fresh,
      if_pos small, if_neg seen, stateAfter_snoc]
    exact added

theorem validateDescriptors_append (index : Nat) (state : LayoutState)
    (first second : List FileDescriptor) :
    validateDescriptors tables platform index state (first ++ second) =
      validateDescriptors tables platform index state first >>= fun state =>
        validateDescriptors tables platform (index + first.length) state second := by
  induction first generalizing index state with
  | nil => rfl
  | cons descriptor rest ih =>
    rw [List.cons_append, validateDescriptors, validateDescriptors, List.length_cons]
    cases validateDescriptor tables platform index state descriptor with
    | error err => rfl
    | ok next =>
      have tail := ih (index + 1) next
      rw [Nat.add_assoc, Nat.add_comm 1] at tail
      exact tail

-- Entries in order are valid exactly when their keys differ.
theorem validateDescriptors_entries (ordered : Ordered entries)
    (sizes : ∀ entry ∈ entries, entry.kind = .file → entry.size.toNat ≤ maxSingleFileBytes)
    (bounded : fileBytes entries ≤ maxTotalTransferBytes)
    (count : entries.length ≤ maxClipboardEntryCount) : ((normalizedKeys entries).Nodup →
        validateDescriptors tables platform 0 {} (entries.map descriptor) =
          .ok (stateAfter platform entries)) ∧ (¬ (normalizedKeys entries).Nodup →
        ∃ err, validateDescriptors tables platform 0 {} (entries.map descriptor) = .error err) := by
  induction ordered with
  | nil => exact ⟨fun _ => rfl, fun repeated => absurd List.nodup_nil repeated⟩
  | @snoc entries entry ordered parent ih =>
    rw [List.length_append, List.length_singleton] at count
    have before := ih (fun other member => sizes other (List.mem_append_left _ member))
      (by rw [fileBytes_snoc] at bounded; omega) (by omega)
    have keys : (normalizedKeys (entries ++ [entry])).Nodup ↔
        (normalizedKeys entries).Nodup ∧
          entry.relativePath.normalizedKey ∉ normalizedKeys entries := by
      simp [normalizedKeys, List.nodup_append']
    rw [keys, List.map_append, List.map_singleton, validateDescriptors_append, List.length_map,
      Nat.zero_add]
    by_cases different : (normalizedKeys entries).Nodup
    · have last := validateDescriptor_entry platform parent different
        (sizes entry (by simp)) bounded (by omega)
      rw [before.1 different]
      simp only [bind, Except.bind, validateDescriptors, last]
      by_cases seen : entry.relativePath.normalizedKey ∈ normalizedKeys entries
      · rw [if_pos seen]
        exact ⟨fun both => absurd seen both.2, fun _ => ⟨_, rfl⟩⟩
      · rw [if_neg seen]
        exact ⟨fun _ => rfl, fun repeated => absurd ⟨different, seen⟩ repeated⟩
    · obtain ⟨err, failed⟩ := before.2 different
      rw [failed]
      exact ⟨fun both => absurd both.1 different, fun _ => ⟨err, rfl⟩⟩

theorem validate_entries (ordered : Ordered entries)
    (sizes : ∀ entry ∈ entries, entry.kind = .file → entry.size.toNat ≤ maxSingleFileBytes)
    (bounded : fileBytes entries ≤ maxTotalTransferBytes)
    (count : entries.length ≤ maxClipboardEntryCount) (proper : entries ≠ []) :
    (∃ layout, RemoteClipboardLayout.validate tables platform
        (entries.map descriptor) = .ok layout ∧ Agrees platform entries layout) ↔
      (entries.map entryKey).Nodup := by
  have descriptors : entries.map descriptor ≠ [] := by simpa using proper
  have short : (entries.map descriptor).length ≤ maxClipboardEntryCount := by
    rw [List.length_map]
    exact count
  obtain ⟨valid, invalid⟩ := validateDescriptors_entries platform ordered sizes bounded count
  rw [← normalizedKeys_nodup_iff]
  simp only [RemoteClipboardLayout.validate, ensure, if_pos descriptors, if_pos short, bind,
    Except.bind]
  constructor
  · rintro ⟨layout, validated, _⟩
    by_contra repeated
    obtain ⟨err, failed⟩ := invalid repeated
    rw [failed] at validated
    cases validated
  · intro different
    rw [valid different]
    exact ⟨_, rfl, stateAfter_agrees platform entries⟩

-- The paths of the forest differ exactly when no directory repeats a name, given that the top
-- level does not.
theorem topLevel_nodup_iff (paths : List LocalPath)
    (tops : ((topLevelKeys tables paths).map Prod.fst).Nodup) :
    ((topLevelKeys tables paths).flatMap fun root =>
        root.2.keyPaths (lowerName tables) [root.1]).Nodup ↔
      ∀ path ∈ paths, path.tree.Distinct (lowerName tables) := by
  have roots := nodup_roots_iff (lowerName tables) [] (topLevelKeys tables paths)
  simp only [List.nil_append, nodup_keyPaths_iff] at roots
  rw [roots, topLevelKeys, List.forall_mem_map]
  exact and_iff_right tops

theorem collect_eq_ok {transferId : UInt64} {paths : List LocalPath}
    {transfer : LocalClipboardTransfer tables}
    (accepted : LocalClipboardTransfer.collect tables transferId paths = .ok transfer) :
    ∃ collected : Collected tables, paths ≠ [] ∧ validateTopLevelPaths tables [] paths = .ok () ∧
      collectEntries paths {} = .ok collected ∧ transfer.entries = collected.entries ∧
      transfer.descriptors = collected.entries.map descriptor := by
  rw [LocalClipboardTransfer.collect] at accepted
  simp only [bind_eq_ok, pure_eq_ok] at accepted
  obtain ⟨_, _, _, proper, ⟨⟩, valid, collected, run, rfl⟩ := accepted
  exact ⟨collected, ensure_eq_ok.mp proper, valid, run, rfl, rfl⟩

/-- A forest that one side accepts is accepted by the other, with the same paths, kinds
and sizes, exactly when every directory keeps its names apart in lower case. -/
theorem file_lists_agree_iff (platform : Platform) (transferId : UInt64) (paths : List LocalPath)
    (transfer : LocalClipboardTransfer tables)
    (accepted : LocalClipboardTransfer.collect tables transferId paths = .ok transfer) :
    (∃ layout, RemoteClipboardLayout.validate tables platform transfer.descriptors = .ok layout ∧
        Agrees platform transfer.entries layout) ↔
      ∀ path ∈ paths, path.tree.Distinct (lowerName tables) := by
  obtain ⟨collected, proper, valid, run, entries, descriptors⟩ := collect_eq_ok accepted
  have empty : Sound ({} : Collected tables) := ⟨.nil, by simp, rfl, Nat.zero_le _⟩
  obtain ⟨sound, count, permuted⟩ := collectEntries_eq_ok run empty (Nat.zero_le _)
  rw [List.map_nil, List.nil_append] at permuted
  have found : collected.entries ≠ [] := by
    intro none
    obtain ⟨path, rest, rfl⟩ := List.exists_cons_of_ne_nil proper
    rw [none, List.map_nil] at permuted
    have nothing := permuted.symm.eq_nil
    rw [List.flatMap_eq_nil_iff] at nothing
    have first := nothing _ List.mem_cons_self
    have own : [path.fileName.map (toLowercase tables.toCaseTables)] ∈
        path.tree.keyPaths (lowerName tables)
          [path.fileName.map (toLowercase tables.toCaseTables)] := path_mem_keyPaths _ _
    rw [first] at own
    cases own
  rw [entries, descriptors, validate_entries platform sound.ordered sound.sizes
    (by rw [← sound.total]; exact sound.bounded) count found, permuted.nodup_iff]
  exact topLevel_nodup_iff paths (validateTopLevelPaths_eq_ok valid).1

def homeDirectory (children : List (OsName × FileTree)) : LocalPath where
  isAbsolute := true
  fileName := some "d"
  canonical := [[104], [100]]
  tree := .branch 4096 children

def namedFile (letter : UInt8) : OsName × FileTree := ([letter], .leaf (.file 1))

theorem distinct_names_agree :
    ∃ transfer layout,
      LocalClipboardTransfer.collect asciiTables 1 [homeDirectory [namedFile 98, namedFile 97]] =
          .ok transfer ∧
        RemoteClipboardLayout.validate asciiTables unix transfer.descriptors = .ok layout ∧
        Agrees unix transfer.entries layout := by
  have collected : ∃ transfer, LocalClipboardTransfer.collect asciiTables 1
      [homeDirectory [namedFile 98, namedFile 97]] = .ok transfer := ⟨_, rfl⟩
  obtain ⟨transfer, accepted⟩ := collected
  obtain ⟨layout, valid, agrees⟩ := (file_lists_agree_iff unix 1 _ transfer accepted).mpr (by
    intro path member
    rw [List.mem_singleton.mp member]
    exact ⟨by decide, trivial, trivial, trivial⟩)
  exact ⟨transfer, layout, accepted, valid, agrees⟩

-- The names `A` and `a` in one directory are collected but not validated.
theorem case_pair_is_rejected :
    ∃ transfer,
      LocalClipboardTransfer.collect asciiTables 1 [homeDirectory [namedFile 65, namedFile 97]] =
          .ok transfer ∧
        RemoteClipboardLayout.validate asciiTables unix transfer.descriptors =
          .error "remote clipboard contains duplicate paths" :=
  ⟨_, rfl, rfl⟩

end Onetcli.Rdp.Clipboard
