import Onetcli.Rdp.Clipboard.Path

/-!
The list of files that a remote clipboard advertises, clipboard/remote_layout.rs of
the helper: each descriptor is a confined path whose parent came before it as a
directory, no two paths agree in lower case, and the advertised sizes keep the
limits. Layouts hold system paths, so the platform is a parameter.
-/

namespace Onetcli.Rdp.Clipboard

open Checks Paths

def fileAttributeReparsePoint : UInt32 := 0x400
def fileAttributeDirectory : UInt32 := 0x10
def fileAttributeArchive : UInt32 := 0x20

structure FileDescriptor where
  name : String
  relativePath : Option String := none
  attributes : Option UInt32 := none
  fileSize : Option UInt64 := none
  deriving DecidableEq

structure RemoteFile where
  descriptorIndex : Nat
  relativePath : PathBuf
  advertisedSize : Option UInt64
  deriving DecidableEq

structure RemoteClipboardLayout where
  directories : List PathBuf := []
  files : List RemoteFile := []
  topLevelNames : List String := []
  deriving DecidableEq

variable (tables : NameTables) (platform : Platform)

/-- What the loop over the descriptors carries. -/
structure LayoutState where
  hierarchy : List (String × Bool) := []
  topLevels : List String := []
  advertisedTotal : Nat := 0
  layout : RemoteClipboardLayout := {}

def descriptorPath (descriptor : FileDescriptor) : Except String (RelativeClipboardPath tables) :=
  RelativeClipboardPath.fromWire descriptor.name descriptor.relativePath

def isDirectory (descriptor : FileDescriptor) : Except String Bool := do
  let attributes := descriptor.attributes.getD 0
  ensure (attributes &&& fileAttributeReparsePoint = 0)
    "remote clipboard contains a reparse point"
  pure (attributes &&& fileAttributeDirectory == fileAttributeDirectory)

variable {tables}

def validateParent (path : RelativeClipboardPath tables) (hierarchy : List (String × Bool)) :
    Except String Unit :=
  match path.parentKey with
  | none => .ok ()
  | some parent =>
    ensure (hierarchy.lookup parent = some true)
      "remote clipboard hierarchy has a missing parent directory"

def accountAdvertisedSize (size : Option UInt64) (total : Nat) : Except String Nat :=
  match size with
  | none => .ok total
  | some size => do
    ensure (size.toNat ≤ maxSingleFileBytes) "remote clipboard file exceeds the single-file limit"
    ensure (total + size.toNat < 2 ^ 64) "remote clipboard transfer size overflow"
    ensure (total + size.toNat ≤ maxTotalTransferBytes)
      "remote clipboard transfer exceeds the total size limit"
    pure (total + size.toNat)

def addToLayout (state : LayoutState) (descriptor : FileDescriptor)
    (path : RelativeClipboardPath tables) (descriptorIndex : Nat) (directory : Bool) :
    Except String LayoutState :=
  if directory then
    .ok { state with layout := { state.layout with
      directories := state.layout.directories ++ [path.asPathBuf platform] } }
  else do
    let total ← accountAdvertisedSize descriptor.fileSize state.advertisedTotal
    pure { state with
      advertisedTotal := total
      layout := { state.layout with
        files := state.layout.files ++
          [⟨descriptorIndex, path.asPathBuf platform, descriptor.fileSize⟩] } }

def recordPath (state : LayoutState) (path : RelativeClipboardPath tables) (directory : Bool) :
    LayoutState :=
  let state := { state with hierarchy := (path.normalizedKey, directory) :: state.hierarchy }
  if path.topLevelKey ∈ state.topLevels then state
  else { state with
    topLevels := path.topLevelKey :: state.topLevels
    layout := { state.layout with
      topLevelNames := state.layout.topLevelNames ++ [path.topLevelName] } }

variable (tables)

/-- One turn of the loop. -/
def validateDescriptor (index : Nat) (state : LayoutState) (descriptor : FileDescriptor) :
    Except String LayoutState := do
  let path ← descriptorPath tables descriptor
  let directory ← isDirectory descriptor
  validateParent path state.hierarchy
  ensure (state.hierarchy.lookup path.normalizedKey = none)
    "remote clipboard contains duplicate paths"
  ensure (index < 2 ^ 31) "out of range integral type conversion attempted"
  addToLayout platform (recordPath state path directory) descriptor path index directory

def validateDescriptors : Nat → LayoutState → List FileDescriptor → Except String LayoutState
  | _, state, [] => .ok state
  | index, state, descriptor :: rest => do
    let state ← validateDescriptor tables platform index state descriptor
    validateDescriptors (index + 1) state rest

def RemoteClipboardLayout.validate (descriptors : List FileDescriptor) :
    Except String RemoteClipboardLayout := do
  ensure (descriptors ≠ []) "remote clipboard file list is empty"
  ensure (descriptors.length ≤ maxClipboardEntryCount)
    "remote clipboard entry count exceeds the limit"
  let state ← validateDescriptors tables platform 0 {} descriptors
  pure state.layout

theorem accountAdvertisedSize_some {size : UInt64} {total : Nat}
    (single : size.toNat ≤ maxSingleFileBytes)
    (bounded : total + size.toNat ≤ maxTotalTransferBytes) :
    accountAdvertisedSize (some size) total = .ok (total + size.toNat) := by
  have noOverflow : total + size.toNat < 2 ^ 64 := Nat.lt_of_le_of_lt bounded (by decide)
  simp only [accountAdvertisedSize, ensure, if_pos single, if_pos noOverflow, if_pos bounded, bind,
    Except.bind, pure, Except.pure]

/-! ## Keys -/

variable {tables}

theorem mem_lowercaseFrom {tables : CaseTables} {before chars : List Char}
    (member : '\\' ∈ lowercaseFrom tables before chars) : '\\' ∈ chars := by
  induction chars generalizing before with
  | nil => cases member
  | cons char rest ih =>
    rw [lowercaseFrom, List.mem_append] at member
    rcases member with here | later
    · split at here
      · split at here
        · exact absurd here (by decide)
        · exact absurd here (by decide)
      · rw [tables.lower_backslash char here]
        exact List.mem_cons_self
    · exact List.mem_cons_of_mem _ (ih later)

def lowered (tables : NameTables) (components : List String) : List String :=
  components.map (toLowercase tables.toCaseTables)

theorem lowered_noBackslash {components : List String}
    (safe : ∀ component ∈ components, SafeName tables component) :
    ∀ component ∈ lowered tables components, '\\' ∉ component.toList := by
  intro component member
  obtain ⟨original, among, rfl⟩ := List.mem_map.mp member
  rw [toLowercase, String.toList_ofList]
  intro inside
  exact (safe original among).noBackslash (mem_lowercaseFrom inside)

-- Keys agree exactly when the components do, in lower case.
theorem joinWire_lowered_inj {first second : List String}
    (firstSafe : ∀ component ∈ first, SafeName tables component)
    (secondSafe : ∀ component ∈ second, SafeName tables component) (firstProper : first ≠ [])
    (secondProper : second ≠ []) :
    joinWire (lowered tables first) = joinWire (lowered tables second) ↔
      lowered tables first = lowered tables second := by
  constructor
  · intro same
    have split := congrArg splitWire same
    rwa [splitWire_joinWire (by simpa [lowered] using firstProper) (lowered_noBackslash firstSafe),
      splitWire_joinWire (by simpa [lowered] using secondProper)
        (lowered_noBackslash secondSafe)] at split
  · intro same
    rw [same]

end Onetcli.Rdp.Clipboard
