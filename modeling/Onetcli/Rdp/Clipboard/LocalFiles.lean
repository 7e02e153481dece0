import Onetcli.Lib.Folders
import Onetcli.Rdp.Clipboard.RemoteLayout

/-!
Local files for the clipboard, clipboard/local.rs of the helper. The file system is a
forest: names are byte strings, and each entry is a file, a directory or something the
collector refuses. A directory is visited before its children, which are taken from a
stack in the order of their names.
-/

namespace Onetcli.Rdp.Clipboard

open Checks Paths Forests

abbrev OsName := List UInt8

def OsName.text (name : OsName) : Option String := String.fromUTF8? ⟨name.toArray⟩

def OsName.intoString (name : OsName) : Except String String :=
  match name.text with
  | some text => .ok text
  | none => .error "clipboard path has a non-UTF-8 component"

/-- An entry that is not a directory. -/
inductive LeafKind where
  | file (size : UInt64)
  | link
  | special
  | unavailable
  deriving DecidableEq

/-- A directory carries the length of its metadata and its entries. -/
abbrev FileTree := Tree OsName LeafKind UInt64

/-- A path given to the collector: what the system knows about it. -/
structure LocalPath where
  isAbsolute : Bool
  fileName : Option String
  canonical : List OsName
  tree : FileTree

inductive LocalClipboardEntryKind where
  | file
  | directory
  deriving DecidableEq

structure LocalClipboardEntry (tables : NameTables) where
  canonicalPath : List OsName
  relativePath : RelativeClipboardPath tables
  kind : LocalClipboardEntryKind
  size : UInt64

variable {tables : NameTables}

def LocalClipboardEntry.descriptor (entry : LocalClipboardEntry tables) : FileDescriptor where
  name := entry.relativePath.name
  relativePath := entry.relativePath.parentWirePath
  attributes := match entry.kind with
    | .file => some fileAttributeArchive
    | .directory => some fileAttributeDirectory
  fileSize := match entry.kind with
    | .file => some entry.size
    | .directory => none

/-! ## Collecting -/

def ensureNotLinkOrReparse : FileTree → Except String Unit
  | .leaf .unavailable => .error "clipboard path metadata is unavailable"
  | .leaf .link => .error "clipboard path cannot be a link or reparse point"
  | _ => .ok ()

/-- An entry of the stack. -/
structure Pending (tables : NameTables) where
  canonical : List OsName
  tree : FileTree
  relative : RelativeClipboardPath tables

def buildEntry (item : Pending tables) : Except String (LocalClipboardEntry tables) := do
  ensureNotLinkOrReparse item.tree
  match item.tree with
  | .leaf (.file size) => .ok ⟨item.canonical, item.relative, .file, size⟩
  | .branch size _ => .ok ⟨item.canonical, item.relative, .directory, size⟩
  | _ => .error "clipboard source has an unsupported file type"

def accountFile (entry : LocalClipboardEntry tables) (totalBytes : Nat) : Except String Nat :=
  match entry.kind with
  | .directory => .ok totalBytes
  | .file => do
    ensure (entry.size.toNat ≤ maxSingleFileBytes) "clipboard file exceeds the single-file limit"
    ensure (totalBytes + entry.size.toNat < 2 ^ 64) "clipboard transfer size overflow"
    ensure (totalBytes + entry.size.toNat ≤ maxTotalTransferBytes)
      "clipboard transfer exceeds the total size limit"
    pure (totalBytes + entry.size.toNat)

def pushChild (canonicalRoot : List OsName) (parent : Pending tables) (name : OsName)
    (tree : FileTree) : Except String (Pending tables) := do
  ensureNotLinkOrReparse tree
  let text ← name.intoString
  let relative ← parent.relative.child text
  let canonical := parent.canonical ++ [name]
  ensure (canonicalRoot.isPrefixOf canonical) "clipboard source escapes its root"
  pure ⟨canonical, tree, relative⟩

def pushChildren (canonicalRoot : List OsName) (parent : Pending tables) :
    List (OsName × FileTree) → Except String (List (Pending tables))
  | [] => .ok []
  | (name, tree) :: rest => do
    let later ← pushChildren canonicalRoot parent rest
    let first ← pushChild canonicalRoot parent name tree
    pure (first :: later)

def sortedChildren (children : List (OsName × FileTree)) : List (OsName × FileTree) :=
  children.insertionSort fun first second => first.1 ≤ second.1

def entryChildren : FileTree → List (OsName × FileTree)
  | .leaf _ => []
  | .branch _ children => children

/-- The entries found so far and the bytes of their files. -/
structure Collected (tables : NameTables) where
  entries : List (LocalClipboardEntry tables) := []
  totalBytes : Nat := 0

/-- The loop that pops the stack; `remaining` entries are left of the limit. -/
def collectPending (canonicalRoot : List OsName) :
    Nat → List (Pending tables) → Collected tables → Except String (Collected tables)
  | _, [], collected => .ok collected
  | 0, _ :: _, _ => .error "clipboard entry count exceeds the limit"
  | remaining + 1, item :: stack, collected => do
    let entry ← buildEntry item
    let totalBytes ← accountFile entry collected.totalBytes
    let children ← pushChildren canonicalRoot item (sortedChildren (entryChildren item.tree))
    collectPending canonicalRoot remaining (children ++ stack)
      ⟨collected.entries ++ [entry], totalBytes⟩

def collectTree (item : Pending tables) (collected : Collected tables) :
    Except String (Collected tables) := do
  ensureNotLinkOrReparse item.tree
  collectPending item.canonical (maxClipboardEntryCount - collected.entries.length) [item] collected

def utf8FileName (path : LocalPath) : Except String String :=
  match path.fileName with
  | some name => .ok name
  | none => .error "clipboard path has no UTF-8 file name"

def validateTopLevelPaths (tables : NameTables) : List String → List LocalPath → Except String Unit
  | _, [] => .ok ()
  | names, path :: rest => do
    ensure (path.isAbsolute = true) "clipboard paths must be absolute"
    let name ← utf8FileName path
    validateComponent tables name
    ensure (toLowercase tables.toCaseTables name ∉ names)
      "clipboard paths contain duplicate top-level names"
    validateTopLevelPaths tables (toLowercase tables.toCaseTables name :: names) rest

def collectEntries : List LocalPath → Collected tables → Except String (Collected tables)
  | [], collected => .ok collected
  | path :: rest, collected => do
    let name ← utf8FileName path
    let relative ← RelativeClipboardPath.fromLocalComponents [name]
    let collected ← collectTree ⟨path.canonical, path.tree, relative⟩ collected
    collectEntries rest collected

structure LocalClipboardTransfer (tables : NameTables) where
  transferId : UInt64
  entries : List (LocalClipboardEntry tables)
  descriptors : List FileDescriptor

def LocalClipboardTransfer.collect (tables : NameTables) (transferId : UInt64)
    (paths : List LocalPath) : Except String (LocalClipboardTransfer tables) := do
  ensure (transferId ≠ 0) "clipboard transfer ID must not be zero"
  ensure (paths ≠ []) "clipboard file list is empty"
  validateTopLevelPaths tables [] paths
  let collected ← collectEntries paths {}
  pure ⟨transferId, collected.entries, collected.entries.map LocalClipboardEntry.descriptor⟩

end Onetcli.Rdp.Clipboard
