import Onetcli.Lib.Runs
import Onetcli.Rdp.Clipboard.RemoteTransfer

/-!
What holds of a transfer whatever the peer answers. `Kept` survives every call, also
one that fails; a transfer that waits for an answer is `Between` two files or
`Receiving` one, and its outstanding request is the one that its state calls for.
-/

namespace Onetcli.Rdp.Clipboard

open Paths Runs

variable {Disk : Type} (host : StagingHost Disk) (platform : Platform)

/-! ## Sessions -/

/-- A transfer, what its last call returned and the request that is not answered yet. -/
structure TransferSession (Disk : Type) where
  transfer : RemoteClipboardTransfer Disk
  result : Except Failure RemoteTransferAction
  outstanding : Option FileContentsRequest

def outstandingAfter (before : Option FileContentsRequest) :
    Except Failure RemoteTransferAction → Option FileContentsRequest
  | .ok (.request request) => some request
  | .ok .ignore => before
  | .ok (.ready _) => none
  | .error _ => none

def TransferSession.after (before : Option FileContentsRequest) (called : Called Disk) :
    TransferSession Disk :=
  ⟨called.1, called.2, outstandingAfter before called.2⟩

def TransferSession.begin (t : RemoteClipboardTransfer Disk) (streamId : UInt32) :
    TransferSession Disk :=
  .after none (start platform t streamId)

/-- Any response may come at any time, with any next stream id. -/
def transferMachine :
    Machine (TransferSession Disk) (FileContentsResponse × UInt32)
      (Except Failure RemoteTransferAction) where
  step session input :=
    let called := advance host platform session.transfer input.1 input.2
    (.after session.outstanding called, called.2)

/-! ## Invariants -/

/-- The sizes that were accepted, of the files that are complete and of the current one. -/
def acceptedSizes (t : RemoteClipboardTransfer Disk) : List Nat :=
  t.finished.map (·.announced) ++ t.expectedSize.toList

structure StandsFor (root : PathBuf) (remote : RemoteFile) (staged : StagedFile) : Prop where
  placed : staged.path = root.push remote.relativePath
  advertised : ∀ size, remote.advertisedSize = some size → staged.announced = size.toNat

/-- It also holds as many bytes as were announced. -/
structure Delivered (root : PathBuf) (remote : RemoteFile) (staged : StagedFile) : Prop
    extends StandsFor root remote staged where
  whole : ∃ bytes, staged.contents = some bytes ∧ bytes.length = staged.announced

structure Written (root : PathBuf) (remote : Option RemoteFile) (expected : Option Nat)
    (offset : Nat) (file : StagedFile) : Prop where
  remote : ∃ found, remote = some found ∧ StandsFor root found file
  announced : expected = some file.announced
  written : ∀ bytes, file.contents = some bytes → bytes.length = offset

structure Kept (files : List RemoteFile) (root : PathBuf) (t : RemoteClipboardTransfer Disk) :
    Prop where
  sameFiles : t.files = files
  sameRoot : t.root = root
  inRange : t.currentFile ≤ t.files.length
  delivered : List.Forall₂ (Delivered t.root) (t.files.take t.currentFile) t.finished
  within : t.offset ≤ t.expectedSize.getD 0
  single : ∀ size ∈ acceptedSizes t, size ≤ maxSingleFileBytes
  total : (acceptedSizes t).sum ≤ maxTotalTransferBytes
  current : ∀ file, t.outputFile = some file →
    Written t.root t.files[t.currentFile]? t.expectedSize t.offset file

structure Between (files : List RemoteFile) (root : PathBuf) (t : RemoteClipboardTransfer Disk) :
    Prop extends Kept files root t where
  accounted : t.accountedBytes = (acceptedSizes t).sum
  noSize : t.expectedSize = none
  noFile : t.outputFile = none

structure Receiving (files : List RemoteFile) (root : PathBuf) (t : RemoteClipboardTransfer Disk) :
    Prop extends Kept files root t where
  accounted : t.accountedBytes = (acceptedSizes t).sum
  holds : ∃ file bytes, t.outputFile = some file ∧ file.contents = some bytes

structure AskedSize (files : List RemoteFile) (root : PathBuf) (t : RemoteClipboardTransfer Disk)
    (request : FileContentsRequest) : Prop extends Between files root t where
  pending : t.pending = some ⟨request.streamId, .size⟩
  flags : request.flags = .size
  remote : ∃ remote, t.files[t.currentFile]? = some remote ∧ request.index = remote.descriptorIndex

structure AskedRange (files : List RemoteFile) (root : PathBuf) (t : RemoteClipboardTransfer Disk)
    (request : FileContentsRequest) : Prop extends Receiving files root t where
  pending : t.pending = some ⟨request.streamId, .range request.requestedSize⟩
  flags : request.flags = .range
  remote : ∃ remote, t.files[t.currentFile]? = some remote ∧ request.index = remote.descriptorIndex
  position : request.position = t.offset
  requested : request.requestedSize = min (t.expectedSize.getD 0 - t.offset) remoteFileChunkBytes
  more : t.offset < t.expectedSize.getD 0

/-- What a call that is not ignored leaves; a panic is none of them. -/
inductive Outcome (files : List RemoteFile) (root : PathBuf) : Called Disk → Prop where
  | size {t request} (asked : AskedSize files root t request) :
      Outcome files root (t, .ok (.request request))
  | range {t request} (asked : AskedRange files root t request) :
      Outcome files root (t, .ok (.request request))
  | ready {t paths} (between : Between files root t) (idle : t.pending = none)
      (all : t.currentFile = t.files.length) : Outcome files root (t, .ok (.ready paths))
  | failed {t message} (kept : Kept files root t) (idle : t.pending = none) :
      Outcome files root (t, .error (.error message))

variable {files : List RemoteFile} {root : PathBuf}

section Calls

variable {t : RemoteClipboardTransfer Disk}

theorem requestSize_outcome (between : Between files root t)
    (more : t.currentFile < t.files.length) (streamId : UInt32) :
    Outcome files root (requestSize t streamId) := by
  rw [requestSize, List.getElem?_eq_getElem more]
  apply Outcome.size
  exact { between with
    pending := rfl
    flags := rfl
    remote := ⟨_, List.getElem?_eq_getElem more, rfl⟩ }

theorem requestRange_outcome (receiving : Receiving files root t)
    (more : t.offset < t.expectedSize.getD 0) (streamId : UInt32) :
    Outcome files root (requestRange t streamId) := by
  obtain ⟨file, _, open_, _⟩ := receiving.holds
  obtain ⟨remote, found, _⟩ := (receiving.current file open_).remote
  simp only [requestRange, if_neg (Nat.not_lt.mpr receiving.within), found]
  apply Outcome.range
  exact { receiving with
    pending := rfl
    flags := rfl
    remote := ⟨remote, found, rfl⟩
    position := rfl
    requested := rfl
    more := more }

theorem fail_outcome (kept : Kept files root t) (idle : t.pending = none) (message : String) :
    Outcome files root (fail t message) :=
  .failed kept idle

theorem complete_outcome (between : Between files root t) (idle : t.pending = none)
    (all : t.currentFile = t.files.length) : Outcome files root (complete platform t) :=
  .ready { between with } idle all

theorem nextFile_outcome
    (between : Between files root
      { t with currentFile := t.currentFile + 1, expectedSize := none, offset := 0 })
    (idle : t.pending = none) (nextStreamId : UInt32) :
    Outcome files root (nextFile platform t nextStreamId) := by
  rw [nextFile]
  split
  · rename_i all
    exact complete_outcome platform between idle all
  · rename_i notAll
    exact requestSize_outcome between (Nat.lt_of_le_of_ne between.inRange notAll) nextStreamId

-- The file that is complete joins the finished ones.
theorem between_next {file : StagedFile} {bytes : List UInt8} (receiving : Receiving files root t)
    (open_ : t.outputFile = some file) (known : file.contents = some bytes)
    (full : t.offset = t.expectedSize.getD 0) (disk : Disk) : Between files root { t with
      disk, outputFile := none, finished := t.finished ++ [file]
      currentFile := t.currentFile + 1, expectedSize := none, offset := 0 } := by
  have current := receiving.current file open_
  obtain ⟨remote, found, stands⟩ := current.remote
  have whole : bytes.length = file.announced := by
    rw [current.written bytes known, full, current.announced]
    rfl
  have accepted : acceptedSizes t = (t.finished ++ [file]).map (·.announced) := by
    simp [acceptedSizes, current.announced]
  have inside : t.currentFile < t.files.length := (List.getElem?_eq_some_iff.mp found).1
  have taken : t.files.take (t.currentFile + 1) = t.files.take t.currentFile ++ [remote] := by
    rw [List.take_add_one, found]
    rfl
  have delivered := receiving.delivered
  have single := receiving.single
  have total := receiving.total
  have accounted := receiving.accounted
  rw [accepted] at single total accounted
  exact {
    sameFiles := receiving.sameFiles
    sameRoot := receiving.sameRoot
    inRange := inside
    delivered := by
      rw [taken]
      exact List.rel_append delivered (.cons ⟨stands, bytes, known, whole⟩ .nil)
    within := Nat.le_refl 0
    single := by simpa [acceptedSizes] using single
    total := by simpa [acceptedSizes] using total
    current := fun _ impossible => by cases impossible
    accounted := by simpa [acceptedSizes] using accounted
    noSize := rfl
    noFile := rfl }

theorem finishFile_outcome (receiving : Receiving files root t) (idle : t.pending = none)
    (full : t.offset = t.expectedSize.getD 0) (nextStreamId : UInt32) :
    Outcome files root (finishFile host platform t nextStreamId) := by
  obtain ⟨file, bytes, open_, known⟩ := receiving.holds
  simp only [finishFile, open_]
  split
  · apply fail_outcome
    · exact { receiving with current := fun _ impossible => by cases impossible }
    · exact idle
  · apply nextFile_outcome
    · exact between_next receiving open_ known full _
    · exact idle

theorem accountSize_cases (t : RemoteClipboardTransfer Disk) (size : Nat) :
    (∃ message bytes, accountSize t size = ({ t with accountedBytes := bytes }, some message)) ∨
      (size ≤ maxSingleFileBytes ∧ t.accountedBytes + size ≤ maxTotalTransferBytes ∧
        accountSize t size = ({ t with accountedBytes := t.accountedBytes + size }, none)) := by
  rw [accountSize]
  split
  · exact .inl ⟨_, t.accountedBytes, rfl⟩
  · rename_i single
    split
    · exact .inl ⟨_, t.accountedBytes, rfl⟩
    · simp only
      split
      · exact .inl ⟨_, _, rfl⟩
      · rename_i total
        exact .inr ⟨Nat.not_lt.mp single, Nat.not_lt.mp total, rfl⟩

theorem receiving_opened {remote : RemoteFile} {size : Nat} (between : Between files root t)
    (found : t.files[t.currentFile]? = some remote)
    (advertised : ∀ known, remote.advertisedSize = some known → size = known.toNat)
    (single : size ≤ maxSingleFileBytes)
    (total : t.accountedBytes + size ≤ maxTotalTransferBytes) (disk : Disk) :
    Receiving files root { t with
      disk, accountedBytes := t.accountedBytes + size
      outputFile := some ⟨t.root.push remote.relativePath, size, some []⟩
      expectedSize := some size
      offset := 0 } := by
  have accepted : acceptedSizes t = t.finished.map (·.announced) := by
    simp [acceptedSizes, between.noSize]
  have before := between.single
  have accounted := between.accounted
  rw [accepted] at before accounted
  rw [accounted] at total
  exact {
    sameFiles := between.sameFiles
    sameRoot := between.sameRoot
    inRange := between.inRange
    delivered := between.delivered
    within := Nat.zero_le _
    single := by
      intro other member
      rcases List.mem_append.mp member with old | new
      · exact before other old
      · rw [List.mem_singleton.mp new]
        exact single
    total := by simpa [acceptedSizes] using total
    current := by
      rintro file ⟨⟩
      exact ⟨⟨remote, found, rfl, advertised⟩, rfl, by rintro bytes ⟨⟩; rfl⟩
    accounted := by simp [acceptedSizes, accounted]
    holds := ⟨_, [], rfl, rfl⟩ }

theorem openFile_outcome {remote : RemoteFile} {size : Nat} (between : Between files root t)
    (idle : t.pending = none) (found : t.files[t.currentFile]? = some remote)
    (advertised : ∀ known, remote.advertisedSize = some known → size = known.toNat)
    (single : size ≤ maxSingleFileBytes)
    (total : t.accountedBytes + size ≤ maxTotalTransferBytes) (nextStreamId : UInt32) :
    Outcome files root
      (openFile host platform { t with accountedBytes := t.accountedBytes + size } remote size
        nextStreamId) := by
  have opened := receiving_opened between found advertised single total
  simp only [openFile]
  split
  · exact .failed { between with } idle
  · split
    · rename_i empty
      exact finishFile_outcome host platform (opened _) idle empty.symm nextStreamId
    · rename_i some_
      exact requestRange_outcome (opened _) (Nat.pos_of_ne_zero some_) nextStreamId

theorem acceptSize_outcome (between : Between files root t) (idle : t.pending = none)
    (response : FileContentsResponse) (nextStreamId : UInt32) :
    Outcome files root (acceptSize host platform t response nextStreamId) := by
  rw [acceptSize]
  split
  · exact .failed between.toKept idle
  · rename_i size _
    split
    · exact .failed between.toKept idle
    · rename_i remote found
      split
      · exact .failed between.toKept idle
      · rename_i same
        have advertised : ∀ known, remote.advertisedSize = some known →
            size.toNat = known.toNat := by
          intro known told
          rw [told] at same
          simp only [ne_eq, reduceCtorEq, not_false_eq_true, Option.some.injEq, true_and,
            Decidable.not_not] at same
          rw [same]
        rcases accountSize_cases t size.toNat with
          ⟨message, bytes, refused⟩ | ⟨single, total, accounted⟩
        · simp only [refused]
          exact .failed { between with } idle
        · simp only [accounted]
          exact openFile_outcome host platform between idle found advertised single total
            nextStreamId

theorem receiving_written {file : StagedFile} {bytes : List UInt8}
    (receiving : Receiving files root t) (open_ : t.outputFile = some file)
    (known : file.contents = some bytes) (data : List UInt8)
    (fits : t.offset + data.length ≤ t.expectedSize.getD 0) (disk : Disk) :
    Receiving files root { t with
      disk
      outputFile := some { file with contents := file.contents.map (· ++ data) }
      offset := t.offset + data.length } := by
  have current := receiving.current file open_
  obtain ⟨remote, found, stands⟩ := current.remote
  exact { receiving with
    within := fits
    current := by
      rintro written ⟨⟩
      refine ⟨⟨remote, found, stands.placed, stands.advertised⟩, current.announced, ?_⟩
      intro all same
      rw [known] at same
      cases same
      rw [List.length_append, current.written bytes known]
    holds := ⟨_, bytes ++ data, rfl, by rw [known]; rfl⟩ }

theorem writeRange_outcome {file : StagedFile} {expected : Nat} {data : List UInt8}
    (receiving : Receiving files root t) (idle : t.pending = none)
    (open_ : t.outputFile = some file) (announced : t.expectedSize = some expected)
    (fits : t.offset + data.length ≤ expected) (nextStreamId : UInt32) :
    Outcome files root (writeRange host platform t file expected data nextStreamId) := by
  obtain ⟨_, bytes, same, known⟩ := receiving.holds
  rw [open_] at same
  cases same
  have size : t.expectedSize.getD 0 = expected := by rw [announced]; rfl
  have written := receiving_written receiving open_ known data (by rw [size]; exact fits)
  simp only [writeRange]
  split
  · have current := receiving.current file open_
    obtain ⟨remote, found, stands⟩ := current.remote
    apply fail_outcome
    · exact { receiving with
        current := by
          rintro _ ⟨⟩
          exact ⟨⟨remote, found, stands.placed, stands.advertised⟩, current.announced,
            fun _ impossible => nomatch impossible⟩ }
    · exact idle
  · split
    · rename_i full
      exact finishFile_outcome host platform (written _) idle (full.trans size.symm) nextStreamId
    · rename_i notFull
      apply requestRange_outcome (written _)
      exact size ▸ Nat.lt_of_le_of_ne fits notFull

theorem acceptRange_outcome (receiving : Receiving files root t) (idle : t.pending = none)
    (data : List UInt8) (requested : Nat) (nextStreamId : UInt32) :
    Outcome files root (acceptRange host platform t data requested nextStreamId) := by
  obtain ⟨file, bytes, open_, _⟩ := receiving.holds
  have announced := (receiving.current file open_).announced
  rw [acceptRange, announced, open_]
  simp only
  split
  · exact fail_outcome receiving.toKept idle _
  · split
    · exact fail_outcome receiving.toKept idle _
    · split
      · exact fail_outcome receiving.toKept idle _
      · split
        · exact fail_outcome receiving.toKept idle _
        · rename_i fits
          exact writeRange_outcome host platform receiving idle open_ announced
            (Nat.not_lt.mp fits) nextStreamId

theorem advance_size_outcome {request : FileContentsRequest}
    (asked : AskedSize files root t request) (response : FileContentsResponse)
    (answers : response.streamId = request.streamId) (nextStreamId : UInt32) :
    Outcome files root (advance host platform t response nextStreamId) := by
  have taken : Between files root { t with pending := none } := { asked with }
  simp only [advance, asked.pending, answers, ne_eq, not_true_eq_false, if_false]
  split
  · exact fail_outcome taken.toKept rfl _
  · exact acceptSize_outcome host platform taken rfl response nextStreamId

theorem advance_range_outcome {request : FileContentsRequest}
    (asked : AskedRange files root t request) (response : FileContentsResponse)
    (answers : response.streamId = request.streamId) (nextStreamId : UInt32) :
    Outcome files root (advance host platform t response nextStreamId) := by
  have taken : Receiving files root { t with pending := none } := { asked with }
  simp only [advance, asked.pending, answers, ne_eq, not_true_eq_false, if_false]
  split
  · exact fail_outcome taken.toKept rfl _
  · exact acceptRange_outcome host platform taken rfl response.data request.requestedSize
      nextStreamId

theorem start_outcome (between : Between files root t) (idle : t.pending = none)
    (first : t.currentFile = 0) (streamId : UInt32) :
    Outcome files root (start platform t streamId) := by
  rw [start]
  split
  · rename_i empty
    apply complete_outcome platform between idle
    rw [first, empty]
    rfl
  · rename_i some_
    apply requestSize_outcome between
    rw [first]
    exact List.length_pos_iff.mpr some_

end Calls

/-! ## Runs -/

def Waits (files : List RemoteFile) (root : PathBuf) (t : RemoteClipboardTransfer Disk) :
    Option FileContentsRequest → Prop
  | none => Kept files root t ∧ t.pending = none
  | some request => AskedSize files root t request ∨ AskedRange files root t request

structure SessionKept (files : List RemoteFile) (root : PathBuf) (session : TransferSession Disk) :
    Prop where
  waits : Waits files root session.transfer session.outstanding
  noPanic : session.result ≠ .error .panic
  ready : ∀ paths, session.result = .ok (.ready paths) →
    List.Forall₂ (Delivered root) files session.transfer.finished

variable {session : TransferSession Disk}

theorem Waits.kept {t : RemoteClipboardTransfer Disk} {outstanding : Option FileContentsRequest}
    (waits : Waits files root t outstanding) : Kept files root t := by
  cases outstanding with
  | none => exact waits.1
  | some request =>
    rcases waits with asked | asked
    · exact asked.toKept
    · exact asked.toKept

theorem session_after {called : Called Disk} (outcome : Outcome files root called)
    (before : Option FileContentsRequest) : SessionKept files root (.after before called) := by
  cases outcome with
  | size asked => exact ⟨.inl asked, by simp [TransferSession.after], by simp [TransferSession.after]⟩
  | range asked =>
    exact ⟨.inr asked, by simp [TransferSession.after], by simp [TransferSession.after]⟩
  | ready between idle all =>
    refine ⟨⟨between.toKept, idle⟩, by simp [TransferSession.after], ?_⟩
    intro paths _
    have delivered := between.delivered
    rwa [all, List.take_length, between.sameFiles, between.sameRoot] at delivered
  | failed kept idle =>
    exact ⟨⟨kept, idle⟩, by simp [TransferSession.after], by simp [TransferSession.after]⟩

theorem advance_stale {t : RemoteClipboardTransfer Disk} {outstanding : Option FileContentsRequest}
    (waits : Waits files root t outstanding) (response : FileContentsResponse)
    (stale : ∀ request, outstanding = some request → request.streamId ≠ response.streamId)
    (nextStreamId : UInt32) : advance host platform t response nextStreamId = (t, .ok .ignore) := by
  cases outstanding with
  | none => rw [advance, waits.2]
  | some request =>
    have other := stale request rfl
    rcases waits with asked | asked
    · simp only [advance, asked.pending, if_pos other]
    · simp only [advance, asked.pending, if_pos other]

theorem session_step (kept : SessionKept files root session)
    (input : FileContentsResponse × UInt32) :
    SessionKept files root ((transferMachine host platform).step session input).1 := by
  by_cases stale : ∀ request, session.outstanding = some request →
      request.streamId ≠ input.1.streamId
  · -- Nothing changes but the result, which is `ignore`.
    simp only [transferMachine, advance_stale host platform kept.waits input.1 stale]
    exact ⟨kept.waits, by simp [TransferSession.after], by simp [TransferSession.after]⟩
  · push Not at stale
    obtain ⟨request, outstanding, answers⟩ := stale
    have waits := kept.waits
    rw [outstanding] at waits
    apply session_after
    rcases waits with asked | asked
    · exact advance_size_outcome host platform asked input.1 answers.symm input.2
    · exact advance_range_outcome host platform asked input.1 answers.symm input.2

theorem create_between {layout : RemoteClipboardLayout} {settings : RemoteTransferSettings}
    {disk : Disk} {t : RemoteClipboardTransfer Disk}
    (created : RemoteClipboardTransfer.create host layout settings root disk = .ok t) :
    Between layout.files root t ∧ t.pending = none ∧ t.currentFile = 0 := by
  rw [RemoteClipboardTransfer.create] at created
  split at created
  · cases created
  · cases created
    refine ⟨?_, rfl, rfl⟩
    exact {
      sameFiles := rfl
      sameRoot := rfl
      inRange := Nat.zero_le _
      delivered := .nil
      within := Nat.le_refl 0
      single := fun _ impossible => by cases impossible
      total := Nat.zero_le _
      current := fun _ impossible => by cases impossible
      accounted := rfl
      noSize := rfl
      noFile := rfl }

-- Every session of a created transfer keeps the invariant, whatever the peer sends.
theorem session_run {layout : RemoteClipboardLayout} {settings : RemoteTransferSettings}
    {disk : Disk} {t : RemoteClipboardTransfer Disk}
    (created : RemoteClipboardTransfer.create host layout settings root disk = .ok t)
    (streamId : UInt32) (inputs : List (FileContentsResponse × UInt32)) :
    ∀ reached ∈ (transferMachine host platform).visited (.begin platform t streamId) inputs,
      SessionKept layout.files root reached := by
  obtain ⟨between, idle, first⟩ := create_between host created
  apply visited_invariant
  · intro session input kept
    exact session_step host platform kept input
  · exact session_after (start_outcome platform between idle first streamId) none

end Onetcli.Rdp.Clipboard
