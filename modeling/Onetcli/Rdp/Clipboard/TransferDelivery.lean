import Onetcli.Rdp.Clipboard.TransferSafety

/-!
A transfer against a peer that answers each request truthfully, with ranges as short
as it likes. The peer and the ids of the requests may depend on the round of the
conversation. The disk is one that has room for the files of the layout.
-/

namespace Onetcli.Rdp.Clipboard

open Paths Runs

variable {Disk : Type}

/-- A peer whose files hold `source`, by their index in the list of files. -/
structure Honest (source : Nat → List UInt8)
    (serve : Nat → FileContentsRequest → FileContentsResponse) : Prop where
  echoes : ∀ round request, (serve round request).streamId = request.streamId
  succeeds : ∀ round request, (serve round request).isError = false
  size : ∀ round request, request.flags = .size →
    (serve round request).dataAsSize = some (UInt64.ofNat (source request.index).length)
  range : ∀ round request, request.flags = .range →
    request.position < (source request.index).length → 0 < request.requestedSize →
    ∃ count, 0 < count ∧ count ≤ request.requestedSize ∧
      (serve round request).data = ((source request.index).drop request.position).take count

def fileLength (source : Nat → List UInt8) (file : RemoteFile) : Nat :=
  (source file.descriptorIndex).length

/-- The list of files tells true sizes, where it tells any. -/
def AdvertisesTruly (source : Nat → List UInt8) (files : List RemoteFile) : Prop :=
  ∀ file ∈ files, ∀ size, file.advertisedSize = some size → size.toNat = fileLength source file

structure WithinLimits (source : Nat → List UInt8) (files : List RemoteFile) : Prop where
  single : ∀ file ∈ files, fileLength source file ≤ maxSingleFileBytes
  total : (files.map (fileLength source)).sum ≤ maxTotalTransferBytes

/-- It answers the requests that are made for these files, with the id of the locked list. -/
structure Truthful (source : Nat → List UInt8)
    (serve : Nat → FileContentsRequest → FileContentsResponse) (dataId : Option UInt32)
    (files : List RemoteFile) : Prop where
  size : ∀ round, ∀ file ∈ files, ∀ streamId,
    let answer := serve round
      ⟨streamId, file.descriptorIndex, .size, 0, sizeRequestBytes, dataId⟩
    answer.streamId = streamId ∧ answer.isError = false ∧
      answer.dataAsSize = some (UInt64.ofNat (fileLength source file))
  range : ∀ round, ∀ file ∈ files, ∀ streamId position requested,
    position < fileLength source file → 0 < requested →
    let answer := serve round ⟨streamId, file.descriptorIndex, .range, position, requested, dataId⟩
    answer.streamId = streamId ∧ answer.isError = false ∧
      ∃ count, 0 < count ∧ count ≤ requested ∧
        answer.data = ((source file.descriptorIndex).drop position).take count

theorem Honest.truthful {source : Nat → List UInt8}
    {serve : Nat → FileContentsRequest → FileContentsResponse} (honest : Honest source serve)
    (dataId : Option UInt32) (files : List RemoteFile) : Truthful source serve dataId files where
  size round _ _ _ := ⟨honest.echoes round _, honest.succeeds round _, honest.size round _ rfl⟩
  range round _ _ _ _ _ inside some_ := by
    refine ⟨honest.echoes round _, honest.succeeds round _, ?_⟩
    exact honest.range round ⟨_, _, .range, _, _, dataId⟩ rfl inside some_

/-- A disk with room for a list of files creates them in this order, and takes whatever
is written to the files that it has. -/
structure StagingRoom (host : StagingHost Disk) (room : Disk → List PathBuf → Prop) : Prop where
  create : ∀ disk path rest, room disk (path :: rest) →
    (host.createFile disk path).2 = none ∧ room (host.createFile disk path).1 rest
  write : ∀ disk rest path data, room disk rest →
    (host.write disk path data).2 = none ∧ room (host.write disk path data).1 rest
  flush : ∀ disk rest path, room disk rest →
    (host.flush disk path).2 = none ∧ room (host.flush disk path).1 rest

section Conversation

variable (host : StagingHost Disk) (platform : Platform)
  (serve : Nat → FileContentsRequest → FileContentsResponse) (ids : Nat → UInt32)

/-- Some rounds of a conversation: each request is answered and the answer handed on. -/
def converse : Nat → Nat → Called Disk → Called Disk
  | round, count + 1, (t, .ok (.request request)) =>
    converse (round + 1) count (advance host platform t (serve round request) (ids round))
  | _, _, called => called

def Eventually (goal : Called Disk → Prop) (round : Nat) (called : Called Disk) : Prop :=
  ∃ count, goal (converse host platform serve ids round count called)

variable {host platform serve ids} {goal : Called Disk → Prop} {round : Nat}

theorem eventually_now {called : Called Disk} (reached : goal called) :
    Eventually host platform serve ids goal round called :=
  ⟨0, by rw [converse]; exact reached; simp⟩

theorem eventually_answered {t : RemoteClipboardTransfer Disk} {request : FileContentsRequest}
    (next : Eventually host platform serve ids goal (round + 1)
      (advance host platform t (serve round request) (ids round))) :
    Eventually host platform serve ids goal round (t, .ok (.request request)) := by
  obtain ⟨count, reached⟩ := next
  exact ⟨count + 1, reached⟩

end Conversation

/-! ## One file -/

/-- What the staging directory holds of a file that arrived. -/
def arrived (source : Nat → List UInt8) (root : PathBuf) (file : RemoteFile) :
    PathBuf × Option (List UInt8) :=
  (root.push file.relativePath, some (source file.descriptorIndex))

def receivingAt (t : RemoteClipboardTransfer Disk) (file : RemoteFile) (bytes : List UInt8)
    (offset : Nat) (disk : Disk) : RemoteClipboardTransfer Disk :=
  { t with
    disk
    outputFile := some ⟨t.root.push file.relativePath, bytes.length, some (bytes.take offset)⟩
    expectedSize := some bytes.length
    offset
    pending := none }

/-- The transfer while it waits for an answer. -/
def asking (t : RemoteClipboardTransfer Disk) (streamId : UInt32)
    (kind : PendingRemoteRequestKind) : RemoteClipboardTransfer Disk :=
  { t with pending := some ⟨streamId, kind⟩ }

def rangeRequest (t : RemoteClipboardTransfer Disk) (file : RemoteFile) (bytes : List UInt8)
    (offset : Nat) (streamId : UInt32) : FileContentsRequest :=
  { streamId, index := file.descriptorIndex, flags := .range, position := offset
    requestedSize := min (bytes.length - offset) remoteFileChunkBytes, dataId := t.clipDataId }

def sizeRequest (t : RemoteClipboardTransfer Disk) (file : RemoteFile) (streamId : UInt32) :
    FileContentsRequest :=
  { streamId, index := file.descriptorIndex, flags := .size, position := 0
    requestedSize := sizeRequestBytes, dataId := t.clipDataId }

section Delivery

variable {host : StagingHost Disk} {platform : Platform} {ids : Nat → UInt32}
  {source : Nat → List UInt8} {serve : Nat → FileContentsRequest → FileContentsResponse}
  {room : Disk → List PathBuf → Prop} {goal : Called Disk → Prop}
  {t : RemoteClipboardTransfer Disk} {file : RemoteFile} {bytes : List UInt8} {offset : Nat}

theorem requestRange_receivingAt (found : t.files[t.currentFile]? = some file)
    (inside : offset ≤ bytes.length) (disk : Disk) (streamId : UInt32) :
    requestRange (receivingAt t file bytes offset disk) streamId =
      (asking (receivingAt t file bytes offset disk) streamId
          (.range (min (bytes.length - offset) remoteFileChunkBytes)),
        .ok (.request (rangeRequest t file bytes offset streamId))) := by
  simp only [requestRange, receivingAt, Option.getD_some, if_neg (Nat.not_lt.mpr inside), found,
    rangeRequest, asking]

section Answers

variable {streamId : UInt32} {response : FileContentsResponse}

theorem advance_size (idle : t.pending = none) (echoes : response.streamId = streamId)
    (succeeds : response.isError = false) (nextStreamId : UInt32) :
    advance host platform (asking t streamId .size) response nextStreamId =
      acceptSize host platform t response nextStreamId := by
  cases t
  cases idle
  simp only [advance, asking, echoes, succeeds, ne_eq, not_true_eq_false, if_false,
    Bool.false_eq_true]

theorem advance_range {requested : Nat} (idle : t.pending = none)
    (echoes : response.streamId = streamId) (succeeds : response.isError = false)
    (nextStreamId : UInt32) :
    advance host platform (asking t streamId (.range requested)) response nextStreamId =
      acceptRange host platform t response.data requested nextStreamId := by
  cases t
  cases idle
  simp only [advance, asking, echoes, succeeds, ne_eq, not_true_eq_false, if_false,
    Bool.false_eq_true]

end Answers

-- An honest answer is written and the transfer goes on behind it.
theorem acceptRange_honest (platform : Platform) (t : RemoteClipboardTransfer Disk)
    (file : RemoteFile) {data : List UInt8} {count requested : Nat} {disk : Disk}
    {rest : List PathBuf} (staging : StagingRoom host room) (space : room disk rest)
    (small : bytes.length ≤ maxSingleFileBytes) (some_ : 0 < count) (asked : count ≤ requested)
    (fits : offset + count ≤ bytes.length) (sent : data = (bytes.drop offset).take count)
    (nextStreamId : UInt32) : ∃ disk', room disk' rest ∧
      acceptRange host platform (receivingAt t file bytes offset disk) data requested nextStreamId =
        if offset + count = bytes.length then
          finishFile host platform (receivingAt t file bytes (offset + count) disk') nextStreamId
        else requestRange (receivingAt t file bytes (offset + count) disk') nextStreamId := by
  have length : data.length = count := by
    rw [sent, List.length_take, List.length_drop]
    omega
  have joined : bytes.take offset ++ data = bytes.take (offset + count) := by
    rw [sent, List.take_add]
  have noOverflow : ¬ 2 ^ 64 ≤ offset + count := by
    have limit : maxSingleFileBytes < 2 ^ 64 := by decide
    omega
  have proper : data ≠ [] := by
    rw [← List.length_pos_iff, length]
    exact some_
  obtain ⟨taken, left⟩ := staging.write disk rest (t.root.push file.relativePath) data space
  refine ⟨_, left, ?_⟩
  simp only [acceptRange, receivingAt, if_neg proper, length, if_neg (Nat.not_lt.mpr asked),
    if_neg noOverflow, if_neg (Nat.not_lt.mpr fits), writeRange, taken, Option.map_some, joined]

-- The ranges of a file, by induction on the bytes that are still missing.
theorem ranges_delivered {files : List RemoteFile}
    (truthful : Truthful source serve t.clipDataId files) (staging : StagingRoom host room)
    {rest : List PathBuf} (member : file ∈ files) (found : t.files[t.currentFile]? = some file)
    (holds : source file.descriptorIndex = bytes) (small : bytes.length ≤ maxSingleFileBytes)
    (finish : ∀ round disk nextStreamId, room disk rest →
      Eventually host platform serve ids goal round
        (finishFile host platform (receivingAt t file bytes bytes.length disk) nextStreamId))
    (missing : Nat) : ∀ offset round disk streamId, offset + missing = bytes.length → 0 < missing →
      room disk rest → Eventually host platform serve ids goal round
        (requestRange (receivingAt t file bytes offset disk) streamId) := by
  induction missing using Nat.strongRecOn with
  | ind missing ih =>
    intro offset round disk streamId left more space
    have requested : 0 < min (bytes.length - offset) remoteFileChunkBytes := by
      have chunk : 0 < remoteFileChunkBytes := by decide
      omega
    have inside : offset < (source file.descriptorIndex).length := by
      rw [holds]
      omega
    obtain ⟨echoes, succeeds, count, some_, enough, sent⟩ :=
      truthful.range round file member streamId offset _ inside requested
    have asked : count ≤ min (bytes.length - offset) remoteFileChunkBytes := enough
    have fits : offset + count ≤ bytes.length := by
      have bounded : count ≤ bytes.length - offset := Nat.le_trans asked (Nat.min_le_left _ _)
      omega
    rw [holds] at sent
    obtain ⟨disk', space', accepted⟩ := acceptRange_honest platform t file staging space small
      some_ asked fits sent (ids round)
    rw [requestRange_receivingAt found (by omega)]
    apply eventually_answered
    rw [rangeRequest, advance_range rfl echoes succeeds, accepted]
    split
    · rename_i whole
      rw [whole]
      exact finish _ _ _ space'
    · rename_i notWhole
      apply ih (missing - count)
      · omega
      · omega
      · omega
      · exact space'

/-! ## All files -/

/-- The transfer between two files, with `done` behind it and `rest` before it. -/
structure OnTrack (source : Nat → List UInt8) (root : PathBuf)
    (room : Disk → List PathBuf → Prop) (t : RemoteClipboardTransfer Disk)
    (done rest : List RemoteFile) : Prop where
  sameFiles : t.files = done ++ rest
  sameRoot : t.root = root
  current : t.currentFile = done.length
  staged : t.finished.map (fun staged => (staged.path, staged.contents)) =
    done.map (arrived source root)
  accounted : t.accountedBytes = (done.map (fileLength source)).sum
  space : room t.disk (rest.map fun file => root.push file.relativePath)
  idle : t.pending = none

/-- `Ready` was returned and every file is there, byte for byte. -/
def Arrived (source : Nat → List UInt8) (root : PathBuf) (files : List RemoteFile)
    (called : Called Disk) : Prop :=
  ∃ paths, called.2 = .ok (.ready paths) ∧
    called.1.finished.map (fun staged => (staged.path, staged.contents)) =
      files.map (arrived source root)

variable {root : PathBuf} {done rest : List RemoteFile}

theorem OnTrack.found (track : OnTrack source root room t done (file :: rest)) :
    t.files[t.currentFile]? = some file := by
  rw [track.sameFiles, track.current]
  simp

theorem OnTrack.requestSize (track : OnTrack source root room t done (file :: rest))
    (streamId : UInt32) : requestSize t streamId =
      (asking t streamId .size, .ok (.request (sizeRequest t file streamId))) := by
  simp only [Clipboard.requestSize, track.found, asking, sizeRequest]

theorem OnTrack.more (track : OnTrack source root room t done (file :: rest)) :
    t.currentFile ≠ t.files.length := by
  rw [track.sameFiles, track.current]
  simp

theorem acceptSize_honest (host : StagingHost Disk) (platform : Platform)
    (staging : StagingRoom host room) (track : OnTrack source root room t done (file :: rest))
    (truly : ∀ size, file.advertisedSize = some size → size.toNat = bytes.length)
    (small : bytes.length ≤ maxSingleFileBytes)
    (total : t.accountedBytes + bytes.length ≤ maxTotalTransferBytes)
    {response : FileContentsResponse}
    (told : response.dataAsSize = some (UInt64.ofNat bytes.length)) (nextStreamId : UInt32) :
    ∃ disk, room disk (rest.map fun file => root.push file.relativePath) ∧
      let accounted := { t with accountedBytes := t.accountedBytes + bytes.length }
      acceptSize host platform t response nextStreamId =
        if bytes.length = 0 then
          finishFile host platform (receivingAt accounted file bytes 0 disk) nextStreamId
        else requestRange (receivingAt accounted file bytes 0 disk) nextStreamId := by
  have noOverflow : ¬ 2 ^ 64 ≤ t.accountedBytes + bytes.length := by
    have limit : maxTotalTransferBytes < 2 ^ 64 := by decide
    omega
  have size : (UInt64.ofNat bytes.length).toNat = bytes.length := by
    rw [UInt64.toNat_ofNat']
    apply Nat.mod_eq_of_lt
    omega
  have same : ¬ (file.advertisedSize ≠ none ∧
      file.advertisedSize ≠ some (UInt64.ofNat bytes.length)) := by
    rintro ⟨some_, other⟩
    obtain ⟨known, advertised⟩ := Option.ne_none_iff_exists'.mp some_
    apply other
    rw [advertised, ← truly known advertised, UInt64.ofNat_toNat]
  have accounted : accountSize t bytes.length =
      ({ t with accountedBytes := t.accountedBytes + bytes.length }, none) := by
    simp only [accountSize, if_neg (Nat.not_lt.mpr small), if_neg noOverflow,
      if_neg (Nat.not_lt.mpr total)]
  obtain ⟨created, space⟩ := staging.create t.disk (root.push file.relativePath) _ track.space
  refine ⟨_, space, ?_⟩
  simp only [acceptSize, told, track.found, if_neg same, size, accounted, openFile,
    track.sameRoot, created, receivingAt, List.take_zero, track.idle]

-- A file that is complete joins the ones behind the transfer.
theorem finishFile_whole (host : StagingHost Disk) (platform : Platform)
    (staging : StagingRoom host room) (track : OnTrack source root room t done (file :: rest))
    (holds : source file.descriptorIndex = bytes) {disk : Disk}
    (space : room disk (rest.map fun file => root.push file.relativePath))
    (nextStreamId : UInt32) :
    ∃ next, OnTrack source root room next (done ++ [file]) rest ∧
      next.clipDataId = t.clipDataId ∧ finishFile host platform
        (receivingAt { t with accountedBytes := t.accountedBytes + bytes.length } file bytes
          bytes.length disk) nextStreamId =
        if next.currentFile = next.files.length then complete platform next
        else requestSize next nextStreamId := by
  obtain ⟨flushed, left⟩ := staging.flush disk _ (t.root.push file.relativePath) space
  refine ⟨{ t with
    disk := (host.flush disk (t.root.push file.relativePath)).1
    outputFile := none
    finished := t.finished ++
      [⟨t.root.push file.relativePath, bytes.length, some (bytes.take bytes.length)⟩]
    currentFile := t.currentFile + 1
    expectedSize := none
    offset := 0
    accountedBytes := t.accountedBytes + bytes.length
    pending := none }, ?_, rfl, by simp only [finishFile, receivingAt, flushed, nextFile]; rfl⟩
  exact {
    sameFiles := by simp [track.sameFiles]
    sameRoot := track.sameRoot
    current := by simp [track.current]
    staged := by simp [track.staged, arrived, track.sameRoot, holds]
    accounted := by simp [track.accounted, fileLength, holds]
    space := left
    idle := rfl }

-- Induction on the files before the transfer.
theorem truthful_delivered {files : List RemoteFile} {dataId : Option UInt32}
    (truthful : Truthful source serve dataId files) (staging : StagingRoom host room)
    (truly : AdvertisesTruly source files) (limits : WithinLimits source files)
    (rest : List RemoteFile) :
    ∀ done t round streamId, files = done ++ rest → OnTrack source root room t done rest →
      t.clipDataId = dataId → Eventually host platform serve ids (Arrived source root files) round
        (if t.currentFile = t.files.length then complete platform t
          else requestSize t streamId) := by
  induction rest with
  | nil =>
    intro done t round streamId whole track _
    have all : t.currentFile = t.files.length := by
      rw [track.sameFiles, track.current, List.append_nil]
    rw [if_pos all]
    apply eventually_now
    refine ⟨_, rfl, ?_⟩
    rw [whole, List.append_nil]
    exact track.staged
  | cons file rest ih =>
    intro done t round streamId whole track same
    have member : file ∈ files := by
      rw [whole]
      simp
    have total : t.accountedBytes + fileLength source file ≤ maxTotalTransferBytes := by
      have sum := limits.total
      rw [whole, List.map_append, List.sum_append, List.map_cons, List.sum_cons] at sum
      rw [track.accounted]
      omega
    have finish : ∀ round disk nextStreamId,
        room disk (rest.map fun file => root.push file.relativePath) →
        Eventually host platform serve ids (Arrived source root files) round
          (finishFile host platform
            (receivingAt { t with accountedBytes := t.accountedBytes + fileLength source file }
              file (source file.descriptorIndex) (fileLength source file) disk)
            nextStreamId) := by
      intro round disk nextStreamId space
      obtain ⟨next, onTrack, kept, finished⟩ :=
        finishFile_whole host platform staging track rfl space nextStreamId
      rw [fileLength, finished]
      apply ih (done ++ [file]) next round nextStreamId _ onTrack (kept.trans same)
      rw [whole, List.append_assoc]
      rfl
    obtain ⟨echoes, succeeds, told⟩ := truthful.size round file member streamId
    rw [← same] at truthful echoes succeeds told
    obtain ⟨disk, space, accepted⟩ := acceptSize_honest host platform staging track
      (truly file member) (limits.single file member) total told (ids round)
    rw [if_neg track.more, track.requestSize]
    apply eventually_answered
    rw [sizeRequest, advance_size track.idle echoes succeeds, accepted]
    split
    · rename_i empty
      have start := finish (round + 1) disk (ids round) space
      simpa only [fileLength, empty] using start
    · rename_i some_
      apply ranges_delivered (by exact truthful) staging member
      · exact track.found
      · rfl
      · exact limits.single file member
      · exact finish
      · exact Nat.zero_add _
      · exact Nat.pos_of_ne_zero some_
      · exact space

theorem files_delivered (honest : Honest source serve) (staging : StagingRoom host room)
    {files : List RemoteFile} (truly : AdvertisesTruly source files)
    (limits : WithinLimits source files) (rest : List RemoteFile) :
    ∀ done t round streamId, files = done ++ rest → OnTrack source root room t done rest →
      Eventually host platform serve ids (Arrived source root files) round
        (if t.currentFile = t.files.length then complete platform t
          else requestSize t streamId) :=
  fun done t round streamId whole track => truthful_delivered (honest.truthful _ files) staging
    truly limits rest done t round streamId whole track rfl

end Delivery

/-- A peer that sends what it is asked for. -/
def plainPeer (source : Nat → List UInt8) (_round : Nat) (request : FileContentsRequest) :
    FileContentsResponse :=
  match request.flags with
  | .size =>
    { streamId := request.streamId
      dataAsSize := some (UInt64.ofNat (source request.index).length) }
  | .range =>
    { streamId := request.streamId
      data := ((source request.index).drop request.position).take request.requestedSize }

theorem plainPeer_honest (source : Nat → List UInt8) : Honest source (plainPeer source) where
  echoes round request := by
    rw [plainPeer]
    split <;> rfl
  succeeds round request := by
    rw [plainPeer]
    split <;> rfl
  size round request flags := by
    rw [plainPeer, flags]
  range round request flags inside some_ := by
    rw [plainPeer, flags]
    exact ⟨request.requestedSize, some_, Nat.le_refl _, rfl⟩

/-- A disk that holds its entries, with names that differ in case apart. -/
def plainDisk : StagingHost (List PathBuf) :=
  let add := fun (disk : List PathBuf) (path : PathBuf) =>
    if path ∈ disk then (disk, some "File exists")
    else if { path with components := path.components.dropLast } ∈ disk then (path :: disk, none)
    else (disk, some "No such file or directory")
  { createDirectory := add
    createFile := add
    write := fun disk _ _ => (disk, none)
    flush := fun disk _ => (disk, none) }

/-- New files, each in a directory that exists. -/
def HasRoom (disk paths : List PathBuf) : Prop :=
  paths.Nodup ∧ ∀ path ∈ paths,
    path ∉ disk ∧ { path with components := path.components.dropLast } ∈ disk

theorem plainDisk_room : StagingRoom plainDisk HasRoom where
  create disk path rest space := by
    obtain ⟨distinct, places⟩ := space
    obtain ⟨new, parent⟩ := places path List.mem_cons_self
    simp only [plainDisk, if_neg new, if_pos parent, true_and]
    refine ⟨distinct.of_cons, ?_⟩
    intro other member
    obtain ⟨otherNew, otherParent⟩ := places other (List.mem_cons_of_mem _ member)
    refine ⟨?_, List.mem_cons_of_mem _ otherParent⟩
    intro present
    rcases List.mem_cons.mp present with same | old
    · rw [same] at member
      exact (List.nodup_cons.mp distinct).1 member
    · exact otherNew old
  write disk rest path data space := ⟨rfl, space⟩
  flush disk rest path space := ⟨rfl, space⟩

/-! ## Transfers -/

/-- What a session shows after each call. The contents of the current file are known until
a write fails. -/
structure TransferSafe (host : StagingHost Disk) (platform : Platform) (files : List RemoteFile)
    (root : PathBuf) (session : TransferSession Disk) : Prop where
  within : session.transfer.offset ≤ session.transfer.expectedSize.getD 0
  noPanic : session.result ≠ .error .panic
  written : ∀ file bytes, session.transfer.outputFile = some file → file.contents = some bytes →
    bytes.length = session.transfer.offset
  asked : ∀ request, session.outstanding = some request → request.flags = .range →
    request.position = session.transfer.offset ∧
      request.requestedSize = min (session.transfer.expectedSize.getD 0 - session.transfer.offset)
        remoteFileChunkBytes ∧
      ∃ file bytes, session.transfer.outputFile = some file ∧ file.contents = some bytes ∧
        bytes.length = request.position
  single : ∀ size ∈ acceptedSizes session.transfer, size ≤ maxSingleFileBytes
  total : (acceptedSizes session.transfer).sum ≤ maxTotalTransferBytes
  stale : ∀ response nextStreamId,
    (∀ request, session.outstanding = some request → request.streamId ≠ response.streamId) →
    advance host platform session.transfer response nextStreamId = (session.transfer, .ok .ignore)
  ready : ∀ paths, session.result = .ok (.ready paths) →
    List.Forall₂ (Delivered root) files session.transfer.finished

theorem SessionKept.safe {host : StagingHost Disk} {platform : Platform} {files : List RemoteFile}
    {root : PathBuf} {session : TransferSession Disk} (kept : SessionKept files root session) :
    TransferSafe host platform files root session := by
  have state := kept.waits.kept
  exact {
    within := state.within
    noPanic := kept.noPanic
    written := by
      intro file bytes open_ known
      exact (state.current file open_).written bytes known
    asked := by
      intro request outstanding flags
      have waits := kept.waits
      rw [outstanding] at waits
      rcases waits with asked | asked
      · rw [asked.flags] at flags
        cases flags
      · obtain ⟨file, bytes, open_, known⟩ := asked.holds
        have length := (state.current file open_).written bytes known
        exact ⟨asked.position, asked.requested, file, bytes, open_, known,
          length.trans asked.position.symm⟩
    single := state.single
    total := state.total
    stale := by
      intro response nextStreamId stale
      exact advance_stale host platform kept.waits response stale nextStreamId
    ready := kept.ready }

theorem create_onTrack {host : StagingHost Disk} {layout : RemoteClipboardLayout}
    {settings : RemoteTransferSettings} {root : PathBuf} {disk : Disk}
    {t : RemoteClipboardTransfer Disk}
    (created : RemoteClipboardTransfer.create host layout settings root disk = .ok t)
    {room : Disk → List PathBuf → Prop}
    (space : room t.disk (layout.files.map fun file => root.push file.relativePath))
    (source : Nat → List UInt8) : OnTrack source root room t [] layout.files := by
  rw [RemoteClipboardTransfer.create] at created
  split at created
  · cases created
  · cases created
    exact ⟨rfl, rfl, rfl, rfl, rfl, space, rfl⟩

/-- Whatever a peer answers, the state and the outstanding request of a transfer agree; a
peer that tells the truth about files within the limits has them copied. -/
theorem remote_transfer_keeps_and_delivers (host : StagingHost Disk) (platform : Platform)
    {layout : RemoteClipboardLayout} {settings : RemoteTransferSettings} {root : PathBuf}
    {disk : Disk} {t : RemoteClipboardTransfer Disk}
    (created : RemoteClipboardTransfer.create host layout settings root disk = .ok t)
    (streamId : UInt32) :
    (∀ inputs, ∀ reached ∈
        (transferMachine host platform).visited (.begin platform t streamId) inputs,
      TransferSafe host platform layout.files root reached) ∧
    ∀ source serve ids room, Honest source serve → AdvertisesTruly source layout.files →
      WithinLimits source layout.files → StagingRoom host room →
      room t.disk (layout.files.map fun file => root.push file.relativePath) →
      Eventually host platform serve ids (Arrived source root layout.files) 0
        (start platform t streamId) := by
  constructor
  · intro inputs reached member
    exact (session_run host platform created streamId inputs reached member).safe
  · intro source serve ids room honest truly limits staging space
    have track := create_onTrack created space source
    have begins : start platform t streamId =
        if t.currentFile = t.files.length then complete platform t
        else requestSize t streamId := by
      rw [start, track.current]
      cases t.files <;> rfl
    rw [begins]
    exact files_delivered honest staging truly limits layout.files [] t 0 streamId rfl track

/-! ## Conversations on a plain disk -/

def stagingRoot : PathBuf := { rooted := true, components := [.normal "staging"] }

def plainTransfer (layout : RemoteClipboardLayout) (disk : List PathBuf) :
    RemoteClipboardTransfer (List PathBuf) :=
  { transferId := 1, clipDataId := none, root := stagingRoot, disk
    files := layout.files, topLevelNames := layout.topLevelNames }

def noteLayout : RemoteClipboardLayout :=
  { files := [⟨0, { components := [.normal "note.txt"] }, some 3⟩], topLevelNames := ["note.txt"] }

def noteSource : Nat → List UInt8 := fun _ => [7, 8, 9]

theorem note_is_delivered :
    RemoteClipboardLayout.validate asciiTables unix [⟨"note.txt", none, none, some 3⟩] =
        .ok noteLayout ∧
      Eventually plainDisk unix (plainPeer noteSource) (fun _ => 5)
        (Arrived noteSource stagingRoot noteLayout.files) 0
        (start unix (plainTransfer noteLayout [stagingRoot]) 5) := by
  have created : RemoteClipboardTransfer.create plainDisk noteLayout ⟨1, none⟩ stagingRoot
      [stagingRoot] = .ok (plainTransfer noteLayout [stagingRoot]) := rfl
  refine ⟨by rfl, ?_⟩
  apply (remote_transfer_keeps_and_delivers plainDisk unix created 5).2 _ _ _ HasRoom
  · exact plainPeer_honest noteSource
  · intro file member size advertised
    rw [List.mem_singleton.mp member] at advertised ⊢
    cases advertised
    rfl
  · exact ⟨by decide, by decide⟩
  · exact plainDisk_room
  · exact ⟨by decide, by decide⟩

-- A conversation whose first answer fails the transfer.
theorem stopped_at_once {host : StagingHost Disk} {platform : Platform}
    {serve : Nat → FileContentsRequest → FileContentsResponse} {ids : Nat → UInt32}
    {source : Nat → List UInt8} {root : PathBuf} {files : List RemoteFile}
    {t : RemoteClipboardTransfer Disk} {request : FileContentsRequest} {failure : Failure}
    (fails : (advance host platform t (serve 0 request) (ids 0)).2 = .error failure) :
    ¬ Eventually host platform serve ids (Arrived source root files) 0
      (t, .ok (.request request)) := by
  rintro ⟨count, paths, reached, -⟩
  cases count with
  | zero => simp [converse] at reached
  | succ count =>
    rw [converse] at reached
    generalize advance host platform t (serve 0 request) (ids 0) = called at fails reached
    obtain ⟨after, answer⟩ := called
    cases fails
    simp [converse] at reached

def bigLayout : RemoteClipboardLayout :=
  { files := [⟨0, { components := [.normal "big"] }, none⟩], topLevelNames := ["big"] }

def bigSource : Nat → List UInt8 := fun _ => List.replicate (maxSingleFileBytes + 1) 0

theorem bigSource_refused :
    (advance plainDisk unix (asking (plainTransfer bigLayout [stagingRoot]) 5 .size)
      (plainPeer bigSource 0
        (sizeRequest (plainTransfer bigLayout [stagingRoot])
          ⟨0, { components := [.normal "big"] }, none⟩ 5)) 5).2 =
      .error (.error "remote clipboard file exceeds the single-file limit") := by
  -- The list is too long to compute, its length is not.
  simp only [plainPeer, sizeRequest, bigSource, List.length_replicate]
  rfl

/-- The directory and the parent of the file differ in case. -/
def caseLayout : RemoteClipboardLayout :=
  { directories := [{ components := [.normal "Docs"] }]
    files := [⟨1, { components := [.normal "docs", .normal "note.txt"] }, some 3⟩]
    topLevelNames := ["Docs"] }

def fullDisk : StagingHost (List PathBuf) :=
  { plainDisk with write := fun disk _ _ => (disk, some "No space left on device") }

theorem truthful_transfers_that_stop :
    (RemoteClipboardLayout.validate asciiTables unix [⟨"big", none, none, none⟩] = .ok bigLayout ∧
      Honest bigSource (plainPeer bigSource) ∧ AdvertisesTruly bigSource bigLayout.files ∧
      ¬ Eventually plainDisk unix (plainPeer bigSource) (fun _ => 5)
        (Arrived bigSource stagingRoot bigLayout.files) 0
        (start unix (plainTransfer bigLayout [stagingRoot]) 5)) ∧
    (RemoteClipboardLayout.validate asciiTables unix
          [⟨"Docs", none, some fileAttributeDirectory, none⟩,
            ⟨"note.txt", some "docs", none, some 3⟩] = .ok caseLayout ∧
      RemoteClipboardTransfer.create plainDisk caseLayout ⟨1, none⟩ stagingRoot [stagingRoot] =
        .ok (plainTransfer caseLayout
          [stagingRoot.push { components := [.normal "Docs"] }, stagingRoot]) ∧
      Honest noteSource (plainPeer noteSource) ∧ AdvertisesTruly noteSource caseLayout.files ∧
      WithinLimits noteSource caseLayout.files ∧
      ¬ Eventually plainDisk unix (plainPeer noteSource) (fun _ => 5)
        (Arrived noteSource stagingRoot caseLayout.files) 0
        (start unix (plainTransfer caseLayout
          [stagingRoot.push { components := [.normal "Docs"] }, stagingRoot]) 5)) ∧
    ((transferMachine fullDisk unix).run (.begin unix (plainTransfer noteLayout [stagingRoot]) 5)
        [({ streamId := 5, dataAsSize := some 3 }, 6),
          ({ streamId := 6, data := [7] }, 7)]).1.transfer.outputFile.map (·.contents) =
      some none := by
  refine ⟨⟨by rfl, plainPeer_honest _, ?_, ?_⟩,
    ⟨by rfl, by rfl, plainPeer_honest _, ?_, ?_, ?_⟩, by rfl⟩
  · intro file member size advertised
    rw [List.mem_singleton.mp member] at advertised
    cases advertised
  · exact stopped_at_once bigSource_refused
  · intro file member size advertised
    rw [List.mem_singleton.mp member] at advertised ⊢
    cases advertised
    rfl
  · exact ⟨by decide, by decide⟩
  · apply stopped_at_once
    rfl

end Onetcli.Rdp.Clipboard
