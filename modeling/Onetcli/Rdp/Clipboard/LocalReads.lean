import Onetcli.Rdp.Clipboard.FileLists
import Onetcli.Rdp.Clipboard.TransferDelivery

/-!
What the helper answers for its local files, clipboard/local.rs, and these answers as the
peer of a transfer: one helper stages what another one offers. The verified opening of a
file and what it then holds is up to the system.
-/

namespace Onetcli.Rdp.Clipboard

open Checks Paths

def maxLocalResponseChunkBytes : Nat := 4 * 1024 * 1024
def sizeResponseBytes : Nat := 8

variable {tables : NameTables}

/-- `open_verified`, with the bytes of the file. -/
abbrev OpenVerified (tables : NameTables) := LocalClipboardEntry tables → Except String (List UInt8)

namespace LocalClipboardEntry

variable (opens : OpenVerified tables) (entry : LocalClipboardEntry tables)
  (request : FileContentsRequest)

def sizeResponse : Except String FileContentsResponse := do
  ensure (request.position = 0 ∧ request.requestedSize = sizeResponseBytes)
    "invalid clipboard file size request"
  let _ ← opens entry
  pure { streamId := request.streamId, dataAsSize := some entry.size }

def rangeResponse : Except String FileContentsResponse := do
  ensure (0 < request.requestedSize) "clipboard file range is empty"
  ensure (request.position ≤ entry.size.toNat) "clipboard range starts past end"
  let bytes ← opens entry
  let amount := min (min request.requestedSize maxLocalResponseChunkBytes)
    (entry.size.toNat - request.position)
  ensure (request.position + amount ≤ bytes.length) "failed to fill whole buffer"
  pure { streamId := request.streamId, data := (bytes.drop request.position).take amount }

def read : Except String FileContentsResponse := do
  ensure (entry.kind = .file) "clipboard directory contents cannot be streamed"
  match request.flags with
  | .size => sizeResponse opens entry request
  | .range => rangeResponse opens entry request

end LocalClipboardEntry

/-- The files that are offered, and those that the peer has locked by an id. -/
structure OfferedFiles (tables : NameTables) where
  localFiles : Option (LocalClipboardTransfer tables)
  lockedLocalFiles : UInt32 → Option (LocalClipboardTransfer tables)

namespace OfferedFiles

variable (offered : OfferedFiles tables)

def transfer (dataId : Option UInt32) : Option (LocalClipboardTransfer tables) :=
  match dataId with
  | some dataId => offered.lockedLocalFiles dataId
  | none => offered.localFiles

def localEntry (request : FileContentsRequest) : Option (LocalClipboardEntry tables) :=
  (offered.transfer request.dataId).bind fun transfer => transfer.entries[request.index]?

/-- The response that `send_local_file_response` sends. -/
def respond (opens : OpenVerified tables) (request : FileContentsRequest) : FileContentsResponse :=
  ((offered.localEntry request).bind fun entry => (entry.read opens request).toOption).getD
    { streamId := request.streamId, isError := true }

end OfferedFiles

/-- The bytes of the files that are offered, by their index in the list. -/
def offeredBytes (opens : OpenVerified tables) (transfer : LocalClipboardTransfer tables)
    (index : Nat) : List UInt8 :=
  (transfer.entries[index]?.bind fun entry => (opens entry).toOption).getD []

/-- No file changed since the list was collected. -/
def Unchanged (opens : OpenVerified tables) (transfer : LocalClipboardTransfer tables) : Prop :=
  ∀ entry ∈ transfer.entries, entry.kind = .file →
    ∃ bytes, opens entry = .ok bytes ∧ bytes.length = entry.size.toNat

theorem fileBytes_filter (entries : List (LocalClipboardEntry tables)) : fileBytes entries =
      ((entries.filter fun entry => entry.kind = .file).map fun entry => entry.size.toNat).sum := by
  induction entries with
  | nil => rfl
  | cons entry rest ih =>
    rw [fileBytes] at ih ⊢
    by_cases isFile : entry.kind = .file <;> simp [isFile, ih]

section Served

variable {platform : Platform} {opens : OpenVerified tables} {offered : OfferedFiles tables}
  {transfer : LocalClipboardTransfer tables} {layout : RemoteClipboardLayout}
  {dataId : Option UInt32}

/-- A file of the list, as it is offered and as it was collected. -/
structure Offered (opens : OpenVerified tables) (transfer : LocalClipboardTransfer tables)
    (platform : Platform) (file : RemoteFile) (entry : LocalClipboardEntry tables) : Prop where
  found : transfer.entries[file.descriptorIndex]? = some entry
  isFile : entry.kind = .file
  path : file.relativePath = entry.relativePath.asPathBuf platform
  advertised : file.advertisedSize = some entry.size
  opened : opens entry = .ok (offeredBytes opens transfer file.descriptorIndex)
  length : (offeredBytes opens transfer file.descriptorIndex).length = entry.size.toNat

theorem offered_at (unchanged : Unchanged opens transfer) {entry : LocalClipboardEntry tables}
    {index : Nat} (found : transfer.entries[index]? = some entry) (isFile : entry.kind = .file) :
    Offered opens transfer platform
      ⟨index, entry.relativePath.asPathBuf platform, some entry.size⟩ entry := by
  obtain ⟨bytes, opened, length⟩ := unchanged entry (List.mem_of_getElem? found) isFile
  have holds : offeredBytes opens transfer index = bytes := by
    rw [offeredBytes, found, Option.bind_some, opened]
    rfl
  exact ⟨found, isFile, rfl, rfl, by rw [holds, opened], by rw [holds, length]⟩

theorem file_offered (agrees : Agrees platform transfer.entries layout)
    (unchanged : Unchanged opens transfer) {file : RemoteFile} (member : file ∈ layout.files) :
    ∃ entry, Offered opens transfer platform file entry := by
  rw [agrees.files, List.mem_map] at member
  obtain ⟨⟨entry, index⟩, kept, rfl⟩ := member
  obtain ⟨numbered, isFile⟩ := List.mem_filter.mp kept
  exact ⟨entry, offered_at unchanged (List.mem_zipIdx_iff_getElem?.mp numbered)
    (of_decide_eq_true isFile)⟩

theorem files_map {B : Type} (agrees : Agrees platform transfer.entries layout)
    (unchanged : Unchanged opens transfer) (ofFile : RemoteFile → B)
    (ofEntry : LocalClipboardEntry tables → B)
    (same : ∀ file entry, Offered opens transfer platform file entry →
      ofFile file = ofEntry entry) : layout.files.map ofFile =
      (transfer.entries.filter fun entry => entry.kind = .file).map ofEntry := by
  conv_rhs => rw [← List.zipIdx_map_fst 0 transfer.entries, List.filter_map, List.map_map]
  rw [agrees.files, List.map_map]
  apply List.map_congr_left
  intro pair kept
  obtain ⟨numbered, isFile⟩ := List.mem_filter.mp kept
  exact same _ _ (offered_at unchanged (List.mem_zipIdx_iff_getElem?.mp numbered)
    (of_decide_eq_true isFile))

theorem respond_truthful (offers : offered.transfer dataId = some transfer)
    (agrees : Agrees platform transfer.entries layout) (unchanged : Unchanged opens transfer) :
    Truthful (offeredBytes opens transfer) (fun _ => offered.respond opens) dataId
      layout.files where
  size := by
    intro _ file member streamId
    obtain ⟨entry, file_⟩ := file_offered agrees unchanged member
    have read : entry.read opens ⟨streamId, file.descriptorIndex, .size, 0, sizeRequestBytes,
        dataId⟩ = .ok { streamId, dataAsSize := some entry.size } := by
      simp [LocalClipboardEntry.read, LocalClipboardEntry.sizeResponse, ensure, file_.isFile,
        file_.opened, sizeRequestBytes, sizeResponseBytes, bind, Except.bind, pure, Except.pure]
    simp only [OfferedFiles.respond, OfferedFiles.localEntry, offers, Option.bind_some,
      file_.found, read]
    refine ⟨rfl, rfl, congrArg some ?_⟩
    rw [fileLength, file_.length, UInt64.ofNat_toNat]
  range := by
    intro _ file member streamId position requested inside some_
    obtain ⟨entry, file_⟩ := file_offered agrees unchanged member
    rw [fileLength, file_.length] at inside
    let amount := min (min requested maxLocalResponseChunkBytes) (entry.size.toNat - position)
    have within : position + amount ≤ (offeredBytes opens transfer file.descriptorIndex).length := by
      rw [file_.length]
      omega
    have read : entry.read opens ⟨streamId, file.descriptorIndex, .range, position, requested,
        dataId⟩ = .ok { streamId, data :=
          ((offeredBytes opens transfer file.descriptorIndex).drop position).take amount } := by
      simp only [LocalClipboardEntry.read, LocalClipboardEntry.rangeResponse, ensure, file_.isFile,
        file_.opened, if_true, if_pos some_, if_pos (Nat.le_of_lt inside), if_pos within, bind,
        Except.bind, pure, Except.pure, amount]
    simp only [OfferedFiles.respond, OfferedFiles.localEntry, offers, Option.bind_some,
      file_.found, read]
    have chunk : 0 < maxLocalResponseChunkBytes := by decide
    exact ⟨rfl, rfl, amount, by omega, by omega, rfl⟩

theorem files_truly (agrees : Agrees platform transfer.entries layout)
    (unchanged : Unchanged opens transfer) :
    AdvertisesTruly (offeredBytes opens transfer) layout.files := by
  intro file member size advertised
  obtain ⟨entry, file_⟩ := file_offered agrees unchanged member
  rw [file_.advertised] at advertised
  cases advertised
  exact file_.length.symm

theorem files_withinLimits (agrees : Agrees platform transfer.entries layout)
    (unchanged : Unchanged opens transfer)
    (sound : Sound (⟨transfer.entries, fileBytes transfer.entries⟩ : Collected tables)) :
    WithinLimits (offeredBytes opens transfer) layout.files where
  single := by
    intro file member
    obtain ⟨entry, file_⟩ := file_offered agrees unchanged member
    rw [fileLength, file_.length]
    exact sound.sizes entry (List.mem_of_getElem? file_.found) file_.isFile
  total := by
    have sizes := files_map agrees unchanged (fileLength (offeredBytes opens transfer))
      (fun entry => entry.size.toNat) fun file entry file_ => file_.length
    rw [sizes, ← fileBytes_filter]
    exact sound.bounded

end Served

/-- Every file of the list has been staged under its own path, byte for byte. -/
def Copied {Disk : Type} (opens : OpenVerified tables) (platform : Platform) (root : PathBuf)
    (transfer : LocalClipboardTransfer tables) (called : Called Disk) : Prop :=
  ∃ paths, called.2 = .ok (.ready paths) ∧
    called.1.finished.map (fun staged => (staged.path, staged.contents)) =
      (transfer.entries.filter fun entry => entry.kind = .file).map fun entry =>
        (root.push (entry.relativePath.asPathBuf platform), (opens entry).toOption)

-- A list that was collected keeps the limits of the side that validates it.
theorem collect_sound {transferId : UInt64} {paths : List LocalPath}
    {transfer : LocalClipboardTransfer tables}
    (accepted : LocalClipboardTransfer.collect tables transferId paths = .ok transfer) :
    Sound (⟨transfer.entries, fileBytes transfer.entries⟩ : Collected tables) ∧
      transfer.entries.length ≤ maxClipboardEntryCount ∧
      transfer.descriptors = transfer.entries.map LocalClipboardEntry.descriptor := by
  obtain ⟨collected, _, _, run, entries, descriptors⟩ := collect_eq_ok accepted
  have empty : Sound ({} : Collected tables) := ⟨.nil, by simp, rfl, Nat.zero_le _⟩
  obtain ⟨sound, count, _⟩ := collectEntries_eq_ok run empty (Nat.zero_le _)
  rw [entries, descriptors, ← sound.total]
  exact ⟨sound, count, rfl⟩

theorem validated_agrees {platform : Platform} {entries : List (LocalClipboardEntry tables)}
    {layout : RemoteClipboardLayout}
    (sound : Sound (⟨entries, fileBytes entries⟩ : Collected tables))
    (count : entries.length ≤ maxClipboardEntryCount)
    (validated : RemoteClipboardLayout.validate tables platform
      (entries.map LocalClipboardEntry.descriptor) = .ok layout) :
    Agrees platform entries layout := by
  obtain ⟨valid, invalid⟩ := validateDescriptors_entries platform sound.ordered sound.sizes
    sound.bounded count
  simp only [RemoteClipboardLayout.validate, bind_eq_ok, pure_eq_ok] at validated
  obtain ⟨_, _, _, _, state, run, rfl⟩ := validated
  by_cases different : (normalizedKeys entries).Nodup
  · rw [valid different] at run
    cases run
    exact stateAfter_agrees platform entries
  · obtain ⟨err, failed⟩ := invalid different
    rw [failed] at run
    cases run

/-- One helper offers a list of files that do not change, the other has room for the layout it
validated from that list: every file is copied, however the requests are numbered. -/
theorem offered_files_are_copied {Disk : Type} (platform : Platform) (transferId : UInt64)
    (paths : List LocalPath) (transfer : LocalClipboardTransfer tables)
    (accepted : LocalClipboardTransfer.collect tables transferId paths = .ok transfer)
    (layout : RemoteClipboardLayout)
    (validated : RemoteClipboardLayout.validate tables platform transfer.descriptors = .ok layout)
    (opens : OpenVerified tables) (unchanged : Unchanged opens transfer)
    (offered : OfferedFiles tables) (settings : RemoteTransferSettings)
    (offers : offered.transfer settings.clipDataId = some transfer)
    (host : StagingHost Disk) (root : PathBuf) (disk : Disk) (t : RemoteClipboardTransfer Disk)
    (created : RemoteClipboardTransfer.create host layout settings root disk = .ok t)
    (room : Disk → List PathBuf → Prop) (staging : StagingRoom host room)
    (space : room t.disk (layout.files.map fun file => root.push file.relativePath))
    (ids : Nat → UInt32) (streamId : UInt32) :
    Eventually host platform (fun _ => offered.respond opens) ids
      (Copied opens platform root transfer) 0 (start platform t streamId) := by
  obtain ⟨sound, count, descriptors⟩ := collect_sound accepted
  rw [descriptors] at validated
  have agrees := validated_agrees sound count validated
  have track := create_onTrack created space (offeredBytes opens transfer)
  have locked : t.clipDataId = settings.clipDataId := by
    rw [RemoteClipboardTransfer.create] at created
    split at created <;> cases created
    rfl
  have begins : start platform t streamId =
      if t.currentFile = t.files.length then complete platform t
      else requestSize t streamId := by
    rw [start, track.current]
    cases t.files <;> rfl
  obtain ⟨rounds, paths, ready, staged⟩ := truthful_delivered
    (respond_truthful offers agrees unchanged) staging (files_truly agrees unchanged)
    (files_withinLimits agrees unchanged sound) layout.files [] t 0 streamId rfl track locked
  rw [← begins] at ready staged
  refine ⟨rounds, paths, ready, staged.trans ?_⟩
  apply files_map agrees unchanged
  intro file entry file_
  rw [arrived, file_.path, file_.opened]
  rfl

def homeLayout : RemoteClipboardLayout :=
  { directories := [{ components := [.normal "d"] }]
    files := [⟨1, { components := [.normal "d", .normal "a"] }, some 1⟩,
      ⟨2, { components := [.normal "d", .normal "b"] }, some 1⟩]
    topLevelNames := ["d"] }

-- A directory with two files, in a list that the peer has locked.
theorem locked_files_are_copied : ∃ transfer t, LocalClipboardTransfer.collect asciiTables 1
          [homeDirectory [namedFile 98, namedFile 97]] = .ok transfer ∧
        RemoteClipboardTransfer.create plainDisk homeLayout ⟨1, some 4⟩ stagingRoot
          [stagingRoot] = .ok t ∧ Eventually plainDisk unix
          (fun _ => (OfferedFiles.mk none fun _ => some transfer).respond fun _ => .ok [7])
          UInt32.ofNat (Copied (fun _ => .ok [7]) unix stagingRoot transfer) 0 (start unix t 5) := by
  have collected : ∃ transfer, LocalClipboardTransfer.collect asciiTables 1
        [homeDirectory [namedFile 98, namedFile 97]] = .ok transfer ∧
      RemoteClipboardLayout.validate asciiTables unix transfer.descriptors = .ok homeLayout ∧
      ∀ entry ∈ transfer.entries, entry.kind = .file → entry.size = 1 :=
    ⟨_, rfl, rfl, by decide⟩
  obtain ⟨transfer, accepted, validated, sizes⟩ := collected
  refine ⟨transfer, _, accepted, rfl, offered_files_are_copied unix 1 _ transfer accepted homeLayout
    validated _ ?_ _ ⟨1, some 4⟩ rfl plainDisk stagingRoot [stagingRoot] _ rfl HasRoom
    plainDisk_room ?_ _ 5⟩
  · intro entry member isFile
    rw [sizes entry member isFile]
    exact ⟨_, rfl, rfl⟩
  · exact ⟨by decide, by decide⟩

end Onetcli.Rdp.Clipboard
