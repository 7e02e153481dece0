import Onetcli.Lib.Runs
import Onetcli.Rdp.Clipboard.RemoteTransfer

/-!
The clipboard state that the backend's callbacks and the controller share,
clipboard/controller.rs, backend.rs and backend_remote.rs of the helper. A callback
holds the lock for one section and goes on without it, so the rest of a callback is a
task of its own: any task may take its next step at any time, and every send of a
task may fail. Local transfers are their ids; local text is left out.
-/

namespace Onetcli.Rdp.Clipboard

open Checks Paths Runs

def remoteClipboardTransferBit : UInt64 := 0x8000000000000000
def localClipboardTransferMask : UInt64 := remoteClipboardTransferBit - 1
def firstSequenceId : UInt64 := 1

/-! ## Shared state -/

structure TextClipboardState (Disk : Type) where
  localFiles : Option UInt64 := none
  lockedLocalFiles : List (UInt32 × UInt64) := []
  pendingRemote : Option UInt64 := none
  remoteTransfer : Option (RemoteClipboardTransfer Disk) := none
  nextRemoteSequence : UInt64 := firstSequenceId
  nextStreamId : UInt32 := 1

variable {Disk : Type}

namespace TextClipboardState

variable (state : TextClipboardState Disk)

def nextTransferId : UInt64 :=
  remoteClipboardTransferBit ||| state.nextRemoteSequence

def reserveRemoteTransfer : TextClipboardState Disk × UInt64 :=
  let next := (state.nextRemoteSequence + 1) &&& localClipboardTransferMask
  ({ state with
      remoteTransfer := none
      nextRemoteSequence := if next = 0 then firstSequenceId else next
      pendingRemote := some state.nextTransferId },
    state.nextTransferId)

def allocateStreamId : TextClipboardState Disk × UInt32 :=
  let next := state.nextStreamId + 1
  ({ state with nextStreamId := if next = 0 then 1 else next }, state.nextStreamId)

def cancelLocalTransfer (transferId : UInt64) : TextClipboardState Disk × Bool :=
  let currentMatches := state.localFiles = some transferId
  let locked := state.lockedLocalFiles.filter (·.2 ≠ transferId)
  ({ state with
      localFiles := if currentMatches then none else state.localFiles
      lockedLocalFiles := locked },
    currentMatches || state.lockedLocalFiles.length != locked.length)

def installed : Option UInt64 :=
  state.remoteTransfer.map (·.transferId)

/-- `cancel_transfer` of the controller. -/
def cancelTransfer (transferId : UInt64) : TextClipboardState Disk × Bool :=
  let (state, cancelledLocal) := state.cancelLocalTransfer transferId
  ({ state with
      pendingRemote := if state.pendingRemote = some transferId then none else state.pendingRemote
      remoteTransfer :=
        if state.installed = some transferId then none else state.remoteTransfer },
    cancelledLocal || state.pendingRemote = some transferId || state.installed = some transferId)

def forgetRemote : TextClipboardState Disk :=
  { state with pendingRemote := none, remoteTransfer := none }

/-- The section of `build_cliprdr_backend`. -/
def resetBackend : TextClipboardState Disk :=
  { state.forgetRemote with lockedLocalFiles := [] }

def shutdown : TextClipboardState Disk :=
  { state.resetBackend with localFiles := none }

end TextClipboardState

/-! ## Tasks -/

inductive TransferEvent where
  | clipboardFilesReady (transferId : UInt64) (paths : List PathBuf)
  | clipboardTransferFailed (transferId : UInt64) (message : String)
  deriving DecidableEq

def TransferEvent.transferId : TransferEvent → UInt64
  | .clipboardFilesReady transferId _ => transferId
  | .clipboardTransferFailed transferId _ => transferId

/-- What a callback has still to do after it gave the lock back. -/
inductive Task (Disk : Type) where
  | initiatePaste (transferId : UInt64)
  | initiateFailed (transferId : UInt64)
  | install (transferId : UInt64) (result : Except String (RemoteClipboardTransfer Disk))
  | sendRequest (transferId : UInt64) (request : FileContentsRequest)
  | requestFailed (transferId : UInt64)
  | report (event : TransferEvent)

/-- The tasks that `dispatch_remote_result` leaves; a panic ends the callback. -/
def dispatchRemoteResult (transferId : UInt64) :
    Except Failure RemoteTransferAction → List (Task Disk)
  | .ok (.request request) => [.sendRequest transferId request]
  | .ok (.ready paths) => [.report (.clipboardFilesReady transferId paths)]
  | .ok .ignore => []
  | .error (.error message) => [.report (.clipboardTransferFailed transferId message)]
  | .error .panic => []

variable (host : StagingHost Disk) (platform : Platform)

section Sections

variable (state : TextClipboardState Disk)

/-- The locked section of `install_remote_transfer`. -/
def installRemoteTransfer (transferId : UInt64)
    (result : Except String (RemoteClipboardTransfer Disk)) :
    TextClipboardState Disk × List (Task Disk) :=
  if state.pendingRemote ≠ some transferId then (state, [])
  else
    let state := { state with pendingRemote := none }
    match result with
    | .error message => (state, dispatchRemoteResult transferId (.error (.error message)))
    | .ok transfer =>
      let (state, streamId) := state.allocateStreamId
      let (transfer, action) := start platform transfer streamId
      let state := match action with
        | .ok (.request _) => { state with remoteTransfer := some transfer }
        | _ => state
      (state, dispatchRemoteResult transferId action)

/-- The locked section of `advance_remote_transfer`. -/
def advanceRemoteTransfer (response : FileContentsResponse) :
    TextClipboardState Disk × List (Task Disk) :=
  match state.remoteTransfer with
  | none => (state, [])
  | some transfer =>
    let (state, nextStreamId) := { state with remoteTransfer := none }.allocateStreamId
    let (advanced, action) := advance host platform transfer response nextStreamId
    let state := match action with
      | .ok (.request _) => { state with remoteTransfer := some advanced }
      | .ok .ignore => { state with remoteTransfer := some advanced }
      | _ => state
    (state, dispatchRemoteResult transfer.transferId action)

/-- The locked section of `cancel_remote_locks`. -/
def cancelRemoteLocks (clipDataIds : List UInt32) : TextClipboardState Disk × List (Task Disk) :=
  match state.remoteTransfer with
  | none => (state, [])
  | some transfer =>
    if transfer.clipDataId.any (· ∈ clipDataIds) then
      ({ state with remoteTransfer := none },
        [.report (.clipboardTransferFailed transfer.transferId
          "remote clipboard snapshot expired")])
    else (state, [])

/-- The section that follows a failed send of `begin_remote_copy`. -/
def initiateFailed (transferId : UInt64) : TextClipboardState Disk × List (Task Disk) :=
  ({ state with
      pendingRemote := if state.pendingRemote = some transferId then none else state.pendingRemote },
    [.report (.clipboardTransferFailed transferId
      "RDP clipboard channel closed before the file transfer started")])

/-- The section that follows a failed send of a request. -/
def requestFailed (transferId : UInt64) : TextClipboardState Disk × List (Task Disk) :=
  ({ state with
      remoteTransfer :=
        if state.installed = some transferId then none else state.remoteTransfer },
    [.report (.clipboardTransferFailed transferId
      "RDP clipboard channel closed during the file transfer")])

end Sections

/-! ## Interleavings -/

inductive Observation where
  | reserved (transferId : UInt64)
  | cancelled (transferId : UInt64) (answer : Bool)
  | sent (event : TransferEvent)
  deriving DecidableEq

structure ClipboardRun (Disk : Type) where
  shared : TextClipboardState Disk := {}
  tasks : List (Task Disk) := []
  trace : List Observation := []

/-- A list of files as it comes from the peer, with the place to stage it. -/
structure RemoteFileList (Disk : Type) where
  files : List FileDescriptor
  clipDataId : Option UInt32
  root : PathBuf
  disk : Disk

/-- One step: a callback or the controller enters its section, or a task goes on. A send
of the task succeeds if `accepted`. -/
inductive ClipboardStep (Disk : Type) where
  | remoteCopy
  | remoteText
  | buildBackend
  | shutdown
  | remoteFileList (list : RemoteFileList Disk)
  | fileContentsResponse (response : FileContentsResponse)
  | locksCleared (clipDataIds : List UInt32)
  | setLocalFiles (transferId : UInt64)
  | setLocalText
  | lock (dataId : UInt32)
  | unlock (dataId : UInt32)
  | cancel (transferId : UInt64)
  | proceed (index : Nat) (accepted : Bool)

variable (tables : NameTables)

/-- `receive_remote_files` reads the pending id and makes the transfer without the lock. -/
def receiveRemoteFiles (state : TextClipboardState Disk) (list : RemoteFileList Disk) :
    List (Task Disk) :=
  match state.pendingRemote with
  | none => []
  | some transferId =>
    [.install transferId do
      let layout ← RemoteClipboardLayout.validate tables platform list.files
      RemoteClipboardTransfer.create host layout ⟨transferId, list.clipDataId⟩ list.root
        list.disk]

/-- The lock is given back at the end of a section that leaves tasks. -/
def ClipboardRun.release (run : ClipboardRun Disk)
    (done : TextClipboardState Disk × List (Task Disk)) : ClipboardRun Disk :=
  { run with shared := done.1, tasks := run.tasks ++ done.2 }

def perform (run : ClipboardRun Disk) (accepted : Bool) : Task Disk → ClipboardRun Disk
  | .initiatePaste transferId =>
    if accepted then run else { run with tasks := run.tasks ++ [.initiateFailed transferId] }
  | .initiateFailed transferId => run.release (initiateFailed run.shared transferId)
  | .install transferId result =>
    run.release (installRemoteTransfer platform run.shared transferId result)
  | .sendRequest transferId _ =>
    if accepted then run else { run with tasks := run.tasks ++ [.requestFailed transferId] }
  | .requestFailed transferId => run.release (requestFailed run.shared transferId)
  | .report event => if accepted then { run with trace := run.trace ++ [.sent event] } else run

def clipboardStep (run : ClipboardRun Disk) : ClipboardStep Disk → ClipboardRun Disk
  | .remoteCopy =>
    let (shared, transferId) := run.shared.reserveRemoteTransfer
    { shared
      tasks := run.tasks ++ [.initiatePaste transferId]
      trace := run.trace ++ [.reserved transferId] }
  | .remoteText => { run with shared := run.shared.forgetRemote }
  | .buildBackend => { run with shared := run.shared.resetBackend }
  | .shutdown => { run with shared := run.shared.shutdown }
  | .remoteFileList list =>
    { run with tasks := run.tasks ++ receiveRemoteFiles host platform tables run.shared list }
  | .fileContentsResponse response =>
    run.release (advanceRemoteTransfer host platform run.shared response)
  | .locksCleared clipDataIds => run.release (cancelRemoteLocks run.shared clipDataIds)
  | .setLocalFiles transferId =>
    if transferId &&& remoteClipboardTransferBit = 0 then
      { run with shared := { run.shared with localFiles := some transferId } }
    else run
  | .setLocalText => { run with shared := { run.shared with localFiles := none } }
  | .lock dataId =>
    match run.shared.localFiles with
    | none => run
    | some transferId =>
      { run with shared := { run.shared with
        lockedLocalFiles := (dataId, transferId) ::
          run.shared.lockedLocalFiles.filter (·.1 ≠ dataId) } }
  | .unlock dataId =>
    { run with shared := { run.shared with
      lockedLocalFiles := run.shared.lockedLocalFiles.filter (·.1 ≠ dataId) } }
  | .cancel transferId =>
    let (shared, answer) := run.shared.cancelTransfer transferId
    { run with shared, trace := run.trace ++ [.cancelled transferId answer] }
  | .proceed index accepted =>
    match run.tasks[index]? with
    | none => run
    | some task => perform platform { run with tasks := run.tasks.eraseIdx index } accepted task

def clipboardMachine : Machine (ClipboardRun Disk) (ClipboardStep Disk) Unit where
  step run input := (clipboardStep host platform tables run input, ())

end Onetcli.Rdp.Clipboard
