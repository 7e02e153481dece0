import Onetcli.Rdp.Clipboard.RemoteLayout

/-!
The transfer of remote files into a staging directory, clipboard/remote.rs of the
helper. One request is outstanding at a time; a size is asked for before the ranges
of a file. The disk answers every operation as it likes; a file holds what was
written to it until a write fails. Where the code would panic the model says so.
-/

namespace Onetcli.Rdp.Clipboard

open Paths

def remoteFileChunkBytes : Nat := 1024 * 1024
def sizeRequestBytes : Nat := 8

/-! ## Messages -/

inductive FileContentsFlags where
  | size
  | range
  deriving DecidableEq

structure FileContentsRequest where
  streamId : UInt32
  index : Nat
  flags : FileContentsFlags
  position : Nat
  requestedSize : Nat
  dataId : Option UInt32
  deriving DecidableEq

/-- A response; `dataAsSize` is what its data means as a size. -/
structure FileContentsResponse where
  streamId : UInt32
  isError : Bool := false
  data : List UInt8 := []
  dataAsSize : Option UInt64 := none

inductive PendingRemoteRequestKind where
  | size
  | range (requested : Nat)
  deriving DecidableEq

structure PendingRemoteRequest where
  streamId : UInt32
  kind : PendingRemoteRequestKind
  deriving DecidableEq

inductive RemoteTransferAction where
  | request (request : FileContentsRequest)
  | ready (paths : List PathBuf)
  | ignore
  deriving DecidableEq

inductive Failure where
  | error (message : String)
  | panic
  deriving DecidableEq

/-! ## State -/

structure StagingHost (Disk : Type) where
  createDirectory : Disk → PathBuf → Disk × Option String
  createFile : Disk → PathBuf → Disk × Option String
  write : Disk → PathBuf → List UInt8 → Disk × Option String
  flush : Disk → PathBuf → Disk × Option String

/-- A file of the staging directory, with the size it was announced with; the contents
are not known after a failed write. -/
structure StagedFile where
  path : PathBuf
  announced : Nat
  contents : Option (List UInt8)
  deriving DecidableEq

structure RemoteClipboardTransfer (Disk : Type) where
  transferId : UInt64
  clipDataId : Option UInt32
  root : PathBuf
  disk : Disk
  retained : Bool := false
  files : List RemoteFile
  topLevelNames : List String
  currentFile : Nat := 0
  expectedSize : Option Nat := none
  offset : Nat := 0
  accountedBytes : Nat := 0
  outputFile : Option StagedFile := none
  pending : Option PendingRemoteRequest := none
  finished : List StagedFile := []

abbrev Called (Disk : Type) := RemoteClipboardTransfer Disk × Except Failure RemoteTransferAction

variable {Disk : Type} (host : StagingHost Disk) (platform : Platform)

def fail (t : RemoteClipboardTransfer Disk) (message : String) : Called Disk :=
  (t, .error (.error message))

/-! ## Operations -/

section Operations

variable (t : RemoteClipboardTransfer Disk)

def complete : Called Disk :=
  ({ t with retained := true },
    .ok (.ready (t.topLevelNames.map fun name => t.root.push (parse platform name))))

def requestSize (streamId : UInt32) : Called Disk :=
  let asked := { t with pending := some ⟨streamId, .size⟩ }
  match t.files[t.currentFile]? with
  | none => (asked, .error .panic)
  | some file => (asked, .ok (.request
      { streamId, index := file.descriptorIndex, flags := .size, position := 0,
        requestedSize := sizeRequestBytes, dataId := t.clipDataId }))

def requestRange (streamId : UInt32) : Called Disk :=
  if t.expectedSize.getD 0 < t.offset then (t, .error .panic)
  else
    let requested := min (t.expectedSize.getD 0 - t.offset) remoteFileChunkBytes
    let asked := { t with pending := some ⟨streamId, .range requested⟩ }
    match t.files[t.currentFile]? with
    | none => (asked, .error .panic)
    | some file => (asked, .ok (.request
        { streamId, index := file.descriptorIndex, flags := .range, position := t.offset,
          requestedSize := requested, dataId := t.clipDataId }))

/-- The end of `finish_file`: the next file, if there is one. -/
def nextFile (nextStreamId : UInt32) : Called Disk :=
  let t := { t with currentFile := t.currentFile + 1, expectedSize := none, offset := 0 }
  if t.currentFile = t.files.length then complete platform t else requestSize t nextStreamId

def finishFile (nextStreamId : UInt32) : Called Disk :=
  match t.outputFile with
  | none => nextFile platform t nextStreamId
  | some file =>
    let flushed := host.flush t.disk file.path
    match flushed.2 with
    | some err => fail { t with disk := flushed.1, outputFile := none } err
    | none => nextFile platform
        { t with disk := flushed.1, outputFile := none, finished := t.finished ++ [file] }
        nextStreamId

/-- The bytes accounted for so far change before the last check. -/
def accountSize (size : Nat) : RemoteClipboardTransfer Disk × Option String :=
  if maxSingleFileBytes < size then
    (t, some "remote clipboard file exceeds the single-file limit")
  else if 2 ^ 64 ≤ t.accountedBytes + size then
    (t, some "remote clipboard transfer size overflow")
  else
    let accounted := { t with accountedBytes := t.accountedBytes + size }
    if maxTotalTransferBytes < accounted.accountedBytes then
      (accounted, some "remote clipboard transfer exceeds the total size limit")
    else (accounted, none)

def openFile (file : RemoteFile) (size : Nat) (nextStreamId : UInt32) : Called Disk :=
  let path := t.root.push file.relativePath
  let created := host.createFile t.disk path
  match created.2 with
  | some _ => fail { t with disk := created.1 }
      "remote clipboard staging file could not be created"
  | none =>
    let t := { t with
      disk := created.1
      outputFile := some ⟨path, size, some []⟩
      expectedSize := some size
      offset := 0 }
    if size = 0 then finishFile host platform t nextStreamId else requestRange t nextStreamId

def acceptSize (response : FileContentsResponse) (nextStreamId : UInt32) : Called Disk :=
  match response.dataAsSize with
  | none => fail t "remote clipboard size response is invalid"
  | some size =>
    match t.files[t.currentFile]? with
    | none => fail t "remote clipboard file index is invalid"
    | some file =>
      if file.advertisedSize ≠ none ∧ file.advertisedSize ≠ some size then
        fail t "remote clipboard file size changed"
      else
        let accounted := accountSize t size.toNat
        match accounted.2 with
        | some err => fail accounted.1 err
        | none => openFile host platform accounted.1 file size.toNat nextStreamId

def writeRange (file : StagedFile) (expected : Nat) (data : List UInt8) (nextStreamId : UInt32) :
    Called Disk :=
  let written := host.write t.disk file.path data
  match written.2 with
  | some err =>
    fail { t with disk := written.1, outputFile := some { file with contents := none } } err
  | none =>
    let t := { t with
      disk := written.1
      outputFile := some { file with contents := file.contents.map (· ++ data) }
      offset := t.offset + data.length }
    if t.offset = expected then finishFile host platform t nextStreamId
    else requestRange t nextStreamId

def acceptRange (data : List UInt8) (requested : Nat) (nextStreamId : UInt32) : Called Disk :=
  match t.expectedSize with
  | none => fail t "remote clipboard file size is missing"
  | some expected =>
    if data = [] then fail t "remote clipboard returned an empty file chunk"
    else if requested < data.length then
      fail t "remote clipboard returned an oversized file chunk"
    else if 2 ^ 64 ≤ t.offset + data.length then fail t "remote clipboard file offset overflow"
    else if expected < t.offset + data.length then
      fail t "remote clipboard file exceeds its size"
    else match t.outputFile with
      | none => fail t "remote clipboard staging file is missing"
      | some file => writeRange host platform t file expected data nextStreamId

def advance (response : FileContentsResponse) (nextStreamId : UInt32) : Called Disk :=
  match t.pending with
  | none => (t, .ok .ignore)
  | some pending =>
    if pending.streamId ≠ response.streamId then (t, .ok .ignore)
    else
      let taken := { t with pending := none }
      if response.isError then fail taken "remote clipboard file request failed"
      else match pending.kind with
        | .size => acceptSize host platform taken response nextStreamId
        | .range requested => acceptRange host platform taken response.data requested nextStreamId

def start (streamId : UInt32) : Called Disk :=
  if t.files = [] then complete platform t else requestSize t streamId

end Operations

/-- `create_directories`: the disk after them, or the error of the first that fails. -/
def createDirectories (root : PathBuf) : Disk → List PathBuf → Disk × Option String
  | disk, [] => (disk, none)
  | disk, directory :: rest =>
    let created := host.createDirectory disk (root.push directory)
    match created.2 with
    | some _ => (created.1, some "remote clipboard staging directory could not be created")
    | none => createDirectories root created.1 rest

structure RemoteTransferSettings where
  transferId : UInt64
  clipDataId : Option UInt32

/-- `create`, in a staging directory that was made. -/
def RemoteClipboardTransfer.create (layout : RemoteClipboardLayout)
    (settings : RemoteTransferSettings) (root : PathBuf) (disk : Disk) :
    Except String (RemoteClipboardTransfer Disk) :=
  match createDirectories host root disk layout.directories with
  | (_, some err) => .error err
  | (disk, none) => .ok
      { transferId := settings.transferId, clipDataId := settings.clipDataId, root, disk
        files := layout.files, topLevelNames := layout.topLevelNames }

end Onetcli.Rdp.Clipboard
