import Onetcli.Lib.Custody
import Onetcli.Rdp.Clipboard.Backend

/-!
Whether a cancelled transfer is reported on. An id that is given out carries one
permit for a last event: the permit lies with the pending id, then with the
installed transfer, then with the task that reports, then with the event. The
sections that follow a failed send report without a look at where the permit is.
-/

namespace Onetcli.Rdp.Clipboard

open Paths Permits Runs

variable {Disk : Type} {host : StagingHost Disk} {platform : Platform} {tables : NameTables}

/-! ## Transfers keep their id -/

section Ids

variable (t : RemoteClipboardTransfer Disk)

theorem requestSize_transferId (streamId : UInt32) :
    (requestSize t streamId).1.transferId = t.transferId := by
  rw [requestSize]
  split <;> rfl

theorem requestRange_transferId (streamId : UInt32) :
    (requestRange t streamId).1.transferId = t.transferId := by
  rw [requestRange]
  split
  · rfl
  · simp only
    split <;> rfl

theorem start_transferId (platform : Platform) (streamId : UInt32) :
    (start platform t streamId).1.transferId = t.transferId := by
  rw [start]
  split
  · rfl
  · exact requestSize_transferId t streamId

theorem nextFile_transferId (nextStreamId : UInt32) :
    (nextFile platform t nextStreamId).1.transferId = t.transferId := by
  rw [nextFile]
  simp only
  split
  · rfl
  · exact requestSize_transferId _ nextStreamId

theorem finishFile_transferId (nextStreamId : UInt32) :
    (finishFile host platform t nextStreamId).1.transferId = t.transferId := by
  rw [finishFile]
  split
  · exact nextFile_transferId t nextStreamId
  · simp only
    split
    · rfl
    · exact nextFile_transferId _ nextStreamId

theorem accountSize_transferId (size : Nat) : (accountSize t size).1.transferId = t.transferId := by
  rw [accountSize]
  split
  · rfl
  · split
    · rfl
    · simp only
      split <;> rfl

theorem openFile_transferId (file : RemoteFile) (size : Nat) (nextStreamId : UInt32) :
    (openFile host platform t file size nextStreamId).1.transferId = t.transferId := by
  simp only [openFile]
  split
  · rfl
  · split
    · exact finishFile_transferId _ nextStreamId
    · exact requestRange_transferId _ nextStreamId

theorem acceptSize_transferId (response : FileContentsResponse) (nextStreamId : UInt32) :
    (acceptSize host platform t response nextStreamId).1.transferId = t.transferId := by
  rw [acceptSize]
  split
  · rfl
  · split
    · rfl
    · split
      · rfl
      · simp only
        split
        · exact accountSize_transferId t _
        · rw [openFile_transferId]
          exact accountSize_transferId t _

theorem writeRange_transferId (file : StagedFile) (expected : Nat) (data : List UInt8)
    (nextStreamId : UInt32) :
    (writeRange host platform t file expected data nextStreamId).1.transferId = t.transferId := by
  simp only [writeRange]
  split
  · rfl
  · split
    · exact finishFile_transferId _ nextStreamId
    · exact requestRange_transferId _ nextStreamId

theorem acceptRange_transferId (data : List UInt8) (requested : Nat) (nextStreamId : UInt32) :
    (acceptRange host platform t data requested nextStreamId).1.transferId = t.transferId := by
  rw [acceptRange]
  split
  · rfl
  · split
    · rfl
    · split
      · rfl
      · split
        · rfl
        · split
          · rfl
          · split
            · rfl
            · exact writeRange_transferId t _ _ data nextStreamId

theorem advance_transferId (host : StagingHost Disk) (platform : Platform)
    (response : FileContentsResponse) (nextStreamId : UInt32) :
    (advance host platform t response nextStreamId).1.transferId = t.transferId := by
  rw [advance]
  split
  · rfl
  · split
    · rfl
    · simp only
      split
      · rfl
      · split
        · exact acceptSize_transferId _ response nextStreamId
        · exact acceptRange_transferId _ response.data _ nextStreamId

end Ids

/-! ## Permits -/

def reportsOn (transferId : UInt64) : Task Disk → Bool
  | .report event => event.transferId = transferId
  | _ => false

def sentOn (transferId : UInt64) : Observation → Bool
  | .sent event => event.transferId = transferId
  | _ => false

def holding (slot : Option UInt64) (transferId : UInt64) : Nat :=
  if slot = some transferId then 1 else 0

/-- How often an id stands in the shared state. -/
def recorded (state : TextClipboardState Disk) (transferId : UInt64) : Nat :=
  holding state.pendingRemote transferId + holding state.installed transferId

theorem holding_none (transferId : UInt64) : holding none transferId = 0 := rfl

def livePermits (run : ClipboardRun Disk) (transferId : UInt64) : Nat :=
  recorded run.shared transferId + run.tasks.countP (reportsOn transferId) +
    run.trace.countP (sentOn transferId)

def IsRemote (transferId : UInt64) : Prop :=
  transferId &&& remoteClipboardTransferBit ≠ 0

def Withdrawn (trace : List Observation) (transferId : UInt64) : Prop :=
  IsRemote transferId ∧ .cancelled transferId true ∈ trace

def Known (trace : List Observation) (transferId : UInt64) : Prop :=
  .reserved transferId ∈ trace

def LocalIds (state : TextClipboardState Disk) : Prop :=
  (∀ transferId, state.localFiles = some transferId → ¬ IsRemote transferId) ∧
    ∀ entry ∈ state.lockedLocalFiles, ¬ IsRemote entry.2

def InstallsOwnId : Task Disk → Prop
  | .install transferId (.ok transfer) => transfer.transferId = transferId
  | _ => True

structure Accounted (run : ClipboardRun Disk) : Prop where
  permits : AtMostOnce (livePermits run) (Withdrawn run.trace) (Known run.trace)
  locals : LocalIds run.shared
  installs : ∀ task ∈ run.tasks, InstallsOwnId task

/-! ## Sections -/

/-- What a section may do with the permits that it finds in the shared state. -/
structure Spends (before : TextClipboardState Disk)
    (done : TextClipboardState Disk × List (Task Disk)) : Prop where
  less : ∀ transferId, recorded done.1 transferId + done.2.countP (reportsOn transferId) ≤
    recorded before transferId
  sameFiles : done.1.localFiles = before.localFiles
  sameLocked : done.1.lockedLocalFiles = before.lockedLocalFiles
  installs : ∀ task ∈ done.2, InstallsOwnId task

section Sections

variable (state : TextClipboardState Disk)

theorem spends_nothing : Spends state (state, []) :=
  ⟨fun _ => Nat.le_refl _, rfl, rfl, by simp⟩

theorem report_holds (event : TransferEvent) (other : UInt64) :
    [(.report event : Task Disk)].countP (reportsOn other) =
      holding (some event.transferId) other := by
  by_cases same : event.transferId = other
  · simp [reportsOn, holding, same]
  · simp [reportsOn, holding, same]

theorem dispatch_reports (transferId other : UInt64)
    (result : Except Failure RemoteTransferAction) :
    (dispatchRemoteResult transferId result : List (Task Disk)).countP (reportsOn other) ≤
      holding (some transferId) other := by
  match result with
  | .ok (.request _) => exact Nat.zero_le _
  | .ok (.ready paths) => exact Nat.le_of_eq (report_holds _ other)
  | .ok .ignore => exact Nat.zero_le _
  | .error (.error message) => exact Nat.le_of_eq (report_holds _ other)
  | .error .panic => exact Nat.zero_le _

theorem dispatch_installs (transferId : UInt64) (result : Except Failure RemoteTransferAction) :
    ∀ task ∈ (dispatchRemoteResult transferId result : List (Task Disk)), InstallsOwnId task := by
  match result with
  | .ok (.request _) => simp [dispatchRemoteResult, InstallsOwnId]
  | .ok (.ready paths) => simp [dispatchRemoteResult, InstallsOwnId]
  | .ok .ignore => simp [dispatchRemoteResult]
  | .error (.error message) => simp [dispatchRemoteResult, InstallsOwnId]
  | .error .panic => simp [dispatchRemoteResult]

-- The permit of a transfer goes to the task that reports on it.
theorem spends_report {before after : TextClipboardState Disk} {transferId : UInt64}
    (less : ∀ other, recorded after other + holding (some transferId) other ≤ recorded before other)
    (sameFiles : after.localFiles = before.localFiles)
    (sameLocked : after.lockedLocalFiles = before.lockedLocalFiles)
    (result : Except Failure RemoteTransferAction) :
    Spends before (after, dispatchRemoteResult transferId result) := by
  refine ⟨?_, sameFiles, sameLocked, dispatch_installs transferId result⟩
  intro other
  have reports : (dispatchRemoteResult transferId result : List (Task Disk)).countP
      (reportsOn other) ≤ holding (some transferId) other := dispatch_reports transferId other result
  exact Nat.le_trans (Nat.add_le_add_left reports _) (less other)

theorem spends_failed {before after : TextClipboardState Disk} {transferId : UInt64}
    (less : ∀ other, recorded after other + holding (some transferId) other ≤ recorded before other)
    (sameFiles : after.localFiles = before.localFiles)
    (sameLocked : after.lockedLocalFiles = before.lockedLocalFiles) (message : String) :
    Spends before (after, [.report (.clipboardTransferFailed transferId message)]) :=
  spends_report less sameFiles sameLocked (.error (.error message))

-- The permit of a transfer goes to the transfer in the shared state.
theorem spends_install {before after : TextClipboardState Disk}
    {transfer : RemoteClipboardTransfer Disk}
    (less : ∀ other, recorded after other + holding (some transfer.transferId) other ≤
      recorded before other)
    (sameFiles : after.localFiles = before.localFiles)
    (sameLocked : after.lockedLocalFiles = before.lockedLocalFiles) {tasks : List (Task Disk)}
    (silent : ∀ other, tasks.countP (reportsOn other) = 0)
    (installs : ∀ task ∈ tasks, InstallsOwnId task) :
    Spends before ({ after with remoteTransfer := some transfer }, tasks) := by
  refine ⟨?_, sameFiles, sameLocked, installs⟩
  intro other
  rw [silent other, Nat.add_zero]
  apply Nat.le_trans _ (less other)
  simp only [recorded, TextClipboardState.installed, Option.map_some]
  omega

theorem install_spends (transferId : UInt64) (result : Except String (RemoteClipboardTransfer Disk))
    (own : InstallsOwnId (.install transferId result)) :
    Spends state (installRemoteTransfer platform state transferId result) := by
  rw [installRemoteTransfer]
  split
  · exact spends_nothing state
  · rename_i pending
    rw [ne_eq, Decidable.not_not] at pending
    have moved : ∀ (stream : UInt32) (other : UInt64),
        recorded { state with pendingRemote := none, nextStreamId := stream } other +
          holding (some transferId) other ≤ recorded state other := by
      intro stream other
      simp only [recorded, pending, holding_none, TextClipboardState.installed]
      omega
    cases result with
    | error message => exact spends_report (moved state.nextStreamId) rfl rfl _
    | ok transfer =>
      have kept := start_transferId transfer platform state.nextStreamId
      rw [show transfer.transferId = transferId from own] at kept
      simp only [TextClipboardState.allocateStreamId]
      generalize start platform transfer state.nextStreamId = started at kept
      obtain ⟨after, action⟩ := started
      match action with
      | .ok (.request _) =>
        subst kept
        exact spends_install (moved _) rfl rfl (fun _ => rfl) (dispatch_installs _ _)
      | .ok (.ready _) => exact spends_report (moved _) rfl rfl _
      | .ok .ignore => exact spends_report (moved _) rfl rfl _
      | .error _ => exact spends_report (moved _) rfl rfl _

theorem advance_spends (response : FileContentsResponse) :
    Spends state (advanceRemoteTransfer host platform state response) := by
  rw [advanceRemoteTransfer]
  split
  · exact spends_nothing state
  · rename_i transfer found
    have moved : ∀ (stream : UInt32) (other : UInt64),
        recorded ({ state with remoteTransfer := none, nextStreamId := stream } :
            TextClipboardState Disk) other +
          holding (some transfer.transferId) other ≤ recorded state other := by
      intro stream other
      simp only [recorded, TextClipboardState.installed, found, Option.map_some, Option.map_none,
        holding_none]
      omega
    have kept := advance_transferId transfer host platform response state.nextStreamId
    simp only [TextClipboardState.allocateStreamId]
    generalize advance host platform transfer response state.nextStreamId = advanced at kept
    obtain ⟨after, action⟩ := advanced
    rw [← kept] at moved ⊢
    match action with
    | .ok (.request _) =>
      exact spends_install (moved _) rfl rfl (fun _ => rfl) (dispatch_installs _ _)
    | .ok .ignore =>
      exact spends_install (moved _) rfl rfl (fun _ => rfl) (dispatch_installs _ _)
    | .ok (.ready _) => exact spends_report (moved _) rfl rfl _
    | .error _ => exact spends_report (moved _) rfl rfl _

theorem cancelRemoteLocks_spends (clipDataIds : List UInt32) :
    Spends state (cancelRemoteLocks state clipDataIds) := by
  rw [cancelRemoteLocks]
  split
  · exact spends_nothing state
  · rename_i transfer found
    split
    · apply spends_failed
      · intro other
        simp only [recorded, TextClipboardState.installed, found, Option.map_some, Option.map_none,
          holding_none]
        omega
      · rfl
      · rfl
    · exact spends_nothing state

theorem initiateFailed_spends {transferId : UInt64}
    (pending : state.pendingRemote = some transferId) :
    Spends state (initiateFailed state transferId) := by
  apply spends_failed
  · intro other
    simp only [recorded, TextClipboardState.installed, pending, if_true, holding_none]
    omega
  · rfl
  · rfl

theorem requestFailed_spends {transferId : UInt64} (installed : state.installed = some transferId) :
    Spends state (requestFailed state transferId) := by
  apply spends_failed
  · intro other
    simp only [recorded, installed, if_true]
    simp only [TextClipboardState.installed, Option.map_none, holding_none]
    omega
  · rfl
  · rfl

end Sections

/-! ## Steps -/

/-- A failed send is handled while the id stands where the handler looks for it, and the
counter of ids has not come round to one that was given out before. -/
def Orderly (run : ClipboardRun Disk) : ClipboardStep Disk → Prop
  | .remoteCopy => ¬ Known run.trace run.shared.nextTransferId
  | .proceed index _ =>
    match run.tasks[index]? with
    | some (.initiateFailed transferId) => run.shared.pendingRemote = some transferId
    | some (.requestFailed transferId) => run.shared.installed = some transferId
    | _ => True
  | _ => True

variable {run : ClipboardRun Disk}

theorem accounted_release (accounted : Accounted run)
    {done : TextClipboardState Disk × List (Task Disk)} (spends : Spends run.shared done) :
    Accounted (run.release done) where
  permits := by
    apply accounted.permits.fewer
    intro transferId
    have less := spends.less transferId
    simp only [livePermits, ClipboardRun.release, List.countP_append]
    omega
  locals := by
    simp only [LocalIds, ClipboardRun.release, spends.sameFiles, spends.sameLocked]
    exact accounted.locals
  installs := by
    intro task member
    rcases List.mem_append.mp member with old | new
    · exact accounted.installs task old
    · exact spends.installs task new

theorem accounted_shared (accounted : Accounted run) {shared : TextClipboardState Disk}
    (less : ∀ transferId, recorded shared transferId ≤ recorded run.shared transferId)
    (locals : LocalIds shared) : Accounted { run with shared } where
  permits := by
    apply accounted.permits.fewer
    intro transferId
    have fewer := less transferId
    simp only [livePermits]
    omega
  locals := locals
  installs := accounted.installs

theorem accounted_tasks (accounted : Accounted run) {tasks : List (Task Disk)}
    (silent : ∀ transferId, tasks.countP (reportsOn transferId) = 0)
    (installs : ∀ task ∈ tasks, InstallsOwnId task) :
    Accounted { run with tasks := run.tasks ++ tasks } := by
  have nothing : Spends run.shared (run.shared, tasks) :=
    ⟨fun transferId => Nat.le_of_eq (by rw [silent transferId]; rfl), rfl, rfl, installs⟩
  exact accounted_release accounted nothing

theorem accounted_remoteCopy (accounted : Accounted run)
    (fresh : ¬ Known run.trace run.shared.nextTransferId) :
    Accounted (clipboardStep host platform tables run .remoteCopy) where
  permits := by
    have recorded_after : ∀ other, recorded run.shared.reserveRemoteTransfer.1 other =
        holding (some run.shared.nextTransferId) other := fun _ => rfl
    apply accounted.permits.issue fresh
    · intro other different
      have elsewhere : holding (some run.shared.nextTransferId) other = 0 := by
        simp [holding, different.symm]
      simp only [livePermits, clipboardStep, recorded_after, elsewhere, List.countP_append,
        List.countP_singleton, reportsOn, sentOn, Bool.false_eq_true, if_false]
      omega
    · have one : holding (some run.shared.nextTransferId) run.shared.nextTransferId ≤ 1 := by
        simp [holding]
      simp only [livePermits, clipboardStep, recorded_after, List.countP_append,
        List.countP_singleton, reportsOn, sentOn, Bool.false_eq_true, if_false]
      omega
    · intro other away
      have old : .cancelled other true ∈ run.trace := by simpa [clipboardStep] using away.2
      exact ⟨away.1, old⟩
    · intro other known
      exact List.mem_append_left _ known
    · exact List.mem_append_right _ List.mem_cons_self
  locals := accounted.locals
  installs := by
    intro task member
    rcases List.mem_append.mp member with old | new
    · exact accounted.installs task old
    · rw [List.mem_singleton.mp new]
      trivial

theorem cancelTransfer_answer {state : TextClipboardState Disk} (locals : LocalIds state)
    {transferId : UInt64} (remote : IsRemote transferId) :
    (state.cancelTransfer transferId).2 = true ↔ 0 < recorded state transferId := by
  have notLocal : state.localFiles ≠ some transferId := fun same => locals.1 _ same remote
  have notLocked : state.lockedLocalFiles.filter (·.2 ≠ transferId) = state.lockedLocalFiles := by
    rw [List.filter_eq_self]
    intro entry member
    rw [decide_eq_true_eq]
    rintro rfl
    exact locals.2 entry member remote
  have localAnswer : (state.cancelLocalTransfer transferId).2 = false := by
    rw [TextClipboardState.cancelLocalTransfer, notLocked]
    simp [notLocal]
  have answer : (state.cancelTransfer transferId).2 =
      ((state.cancelLocalTransfer transferId).2 || state.pendingRemote = some transferId ||
        state.installed = some transferId) := rfl
  rw [answer, localAnswer, Bool.false_or, Bool.or_eq_true, decide_eq_true_eq, decide_eq_true_eq,
    recorded, holding, holding]
  split <;> split <;> simp_all

theorem holding_dropped (slot : Option UInt64) (transferId other : UInt64) :
    holding (if slot = some transferId then none else slot) other =
      if other = transferId then 0 else holding slot other := by
  by_cases held : slot = some transferId
  · rw [if_pos held, held, holding_none]
    split
    · rfl
    · rename_i different
      rw [holding, if_neg]
      rintro ⟨⟩
      exact different rfl
  · rw [if_neg held]
    split
    · rename_i same
      rw [holding, same, if_neg held]
    · rfl

theorem cancelTransfer_recorded (state : TextClipboardState Disk) (transferId other : UInt64) :
    recorded (state.cancelTransfer transferId).1 other =
      if other = transferId then 0 else recorded state other := by
  have installed : (state.cancelTransfer transferId).1.installed =
      if state.installed = some transferId then none else state.installed := by
    have dropped : (state.cancelTransfer transferId).1.remoteTransfer =
        if state.installed = some transferId then none else state.remoteTransfer := rfl
    rw [TextClipboardState.installed, dropped]
    by_cases held : state.installed = some transferId
    · rw [if_pos held, if_pos held]
      rfl
    · rw [if_neg held, if_neg held]
      rfl
  have pending : (state.cancelTransfer transferId).1.pendingRemote =
      if state.pendingRemote = some transferId then none else state.pendingRemote := rfl
  rw [recorded, pending, installed, holding_dropped, holding_dropped, recorded]
  split <;> rfl

theorem cancelTransfer_locals {state : TextClipboardState Disk} (locals : LocalIds state)
    (transferId : UInt64) : LocalIds (state.cancelTransfer transferId).1 := by
  constructor
  · intro other held
    apply locals.1
    simp only [TextClipboardState.cancelTransfer, TextClipboardState.cancelLocalTransfer] at held
    split at held
    · cases held
    · exact held
  · intro entry member
    exact locals.2 entry (List.mem_of_mem_filter member)

theorem accounted_cancel (accounted : Accounted run) (transferId : UInt64) :
    Accounted (clipboardStep host platform tables run (.cancel transferId)) where
  permits := by
    have live : ∀ other, livePermits
        (clipboardStep host platform tables run (.cancel transferId)) other +
          (if other = transferId then recorded run.shared other else 0) =
        livePermits run other := by
      intro other
      simp only [livePermits, clipboardStep, cancelTransfer_recorded, List.countP_append,
        List.countP_singleton, sentOn, Bool.false_eq_true, if_false]
      split <;> omega
    have kept : ∀ other, Known run.trace other →
        Known (clipboardStep host platform tables run (.cancel transferId)).trace other :=
      fun _ known => List.mem_append_left _ known
    by_cases stood : 0 < recorded run.shared transferId
    · apply accounted.permits.withdraw _ _ _ kept
      · exact transferId
      · intro other
        have balance := live other
        omega
      · have balance := live transferId
        rw [if_pos rfl] at balance
        omega
      · rintro other ⟨remote, member⟩
        rcases List.mem_append.mp member with old | new
        · exact Or.inl ⟨remote, old⟩
        · rw [List.mem_singleton, Observation.cancelled.injEq] at new
          exact Or.inr new.1
    · apply accounted.permits.pass _ _ kept
      · intro other
        have balance := live other
        omega
      · rintro other ⟨remote, member⟩
        rcases List.mem_append.mp member with old | new
        · exact ⟨remote, old⟩
        · -- The answer was false: a remote id is no local one.
          rw [List.mem_singleton, Observation.cancelled.injEq] at new
          obtain ⟨rfl, answer⟩ := new
          exact absurd ((cancelTransfer_answer accounted.locals remote).mp answer.symm) stood
  locals := cancelTransfer_locals accounted.locals transferId
  installs := accounted.installs

/-! ## Tasks in flight -/

theorem countP_taken {tasks : List (Task Disk)} {index : Nat} {task : Task Disk}
    (found : tasks[index]? = some task) (counts : Task Disk → Bool) :
    (tasks.eraseIdx index).countP counts + [task].countP counts = tasks.countP counts := by
  obtain ⟨inside, rfl⟩ := List.getElem?_eq_some_iff.mp found
  rw [← (List.getElem_cons_eraseIdx_perm inside).countP_eq]
  simp only [List.countP_cons, List.countP_nil]
  omega

theorem accounted_taken (accounted : Accounted run) {index : Nat} {task : Task Disk}
    (found : run.tasks[index]? = some task) :
    Accounted { run with tasks := run.tasks.eraseIdx index } where
  permits := by
    apply accounted.permits.fewer
    intro transferId
    have taken := countP_taken found (reportsOn transferId)
    simp only [livePermits]
    omega
  locals := accounted.locals
  installs := fun task member => accounted.installs task (List.mem_of_mem_eraseIdx member)

theorem accounted_report (accounted : Accounted run) {index : Nat} {event : TransferEvent}
    (found : run.tasks[index]? = some (.report event)) : Accounted { run with
      tasks := run.tasks.eraseIdx index
      trace := run.trace ++ [.sent event] } where
  permits := by
    apply accounted.permits.pass
    · intro transferId
      have taken := countP_taken found (reportsOn transferId)
      have used : [Observation.sent event].countP (sentOn transferId) =
          [(.report event : Task Disk)].countP (reportsOn transferId) := by
        simp [List.countP_singleton, sentOn, reportsOn]
      simp only [livePermits, List.countP_append]
      omega
    · rintro transferId ⟨remote, member⟩
      exact ⟨remote, by simpa using member⟩
    · exact fun _ known => List.mem_append_left _ known
  locals := accounted.locals
  installs := fun task member => accounted.installs task (List.mem_of_mem_eraseIdx member)

theorem accounted_proceed (accounted : Accounted run) (index : Nat) (accepted : Bool)
    (orderly : Orderly run (.proceed index accepted)) :
    Accounted (clipboardStep host platform tables run (.proceed index accepted)) := by
  simp only [clipboardStep]
  cases found : run.tasks[index]? with
  | none => exact accounted
  | some task =>
    have taken := accounted_taken accounted found
    simp only [Orderly, found] at orderly
    cases task with
    | initiatePaste transferId | sendRequest transferId request =>
      cases accepted with
      | true => exact taken
      | false => exact accounted_tasks taken (fun _ => rfl) (by simp [InstallsOwnId])
    | initiateFailed transferId =>
      exact accounted_release taken (initiateFailed_spends run.shared orderly)
    | install transferId result =>
      apply accounted_release taken
      exact install_spends run.shared transferId result
        (accounted.installs _ (List.mem_of_getElem? found))
    | requestFailed transferId =>
      exact accounted_release taken (requestFailed_spends run.shared orderly)
    | report event =>
      cases accepted with
      | true => exact accounted_report accounted found
      | false => exact taken

/-! ## Runs -/

theorem create_transferId {layout : RemoteClipboardLayout} {settings : RemoteTransferSettings}
    {root : PathBuf} {disk : Disk} {t : RemoteClipboardTransfer Disk}
    (created : RemoteClipboardTransfer.create host layout settings root disk = .ok t) :
    t.transferId = settings.transferId := by
  rw [RemoteClipboardTransfer.create] at created
  split at created
  · cases created
  · cases created
    rfl

theorem receive_installs (state : TextClipboardState Disk) (list : RemoteFileList Disk) :
    ∀ task ∈ receiveRemoteFiles host platform tables state list, InstallsOwnId task := by
  intro task member
  rw [receiveRemoteFiles] at member
  split at member
  · cases member
  · rename_i transferId _
    rw [List.mem_singleton.mp member]
    cases validated : RemoteClipboardLayout.validate tables platform list.files with
    | error message => trivial
    | ok layout =>
      simp only [bind, Except.bind]
      cases created : RemoteClipboardTransfer.create host layout
          ⟨transferId, list.clipDataId⟩ list.root list.disk with
      | error message => trivial
      | ok transfer => exact create_transferId created

theorem receive_silent (state : TextClipboardState Disk) (list : RemoteFileList Disk)
    (transferId : UInt64) :
    (receiveRemoteFiles host platform tables state list).countP (reportsOn transferId) = 0 := by
  rw [receiveRemoteFiles]
  split <;> rfl

theorem accounted_step (accounted : Accounted run) (input : ClipboardStep Disk)
    (orderly : Orderly run input) : Accounted (clipboardStep host platform tables run input) := by
  have locals := accounted.locals
  cases input with
  | remoteCopy => exact accounted_remoteCopy accounted orderly
  | remoteText => exact accounted_shared accounted (fun _ => Nat.zero_le _) locals
  | buildBackend =>
    apply accounted_shared accounted (fun _ => Nat.zero_le _)
    exact ⟨locals.1, by simp [TextClipboardState.resetBackend]⟩
  | shutdown =>
    apply accounted_shared accounted (fun _ => Nat.zero_le _)
    exact ⟨by simp [TextClipboardState.shutdown],
      by simp [TextClipboardState.shutdown, TextClipboardState.resetBackend]⟩
  | remoteFileList list =>
    exact accounted_tasks accounted (receive_silent run.shared list)
      (receive_installs run.shared list)
  | fileContentsResponse response =>
    exact accounted_release accounted (advance_spends run.shared response)
  | locksCleared clipDataIds =>
    exact accounted_release accounted (cancelRemoteLocks_spends run.shared clipDataIds)
  | setLocalFiles transferId =>
    simp only [clipboardStep]
    split
    · rename_i isLocal
      apply accounted_shared accounted
      · exact fun _ => Nat.le_refl _
      · refine ⟨?_, locals.2⟩
        rintro other ⟨⟩ remote
        exact remote isLocal
    · exact accounted
  | setLocalText =>
    apply accounted_shared accounted
    · exact fun _ => Nat.le_refl _
    · exact ⟨by rintro _ ⟨⟩, locals.2⟩
  | lock dataId =>
    simp only [clipboardStep]
    split
    · exact accounted
    · rename_i transferId held
      apply accounted_shared accounted
      · exact fun _ => Nat.le_refl _
      · refine ⟨locals.1, ?_⟩
        intro entry member
        rcases List.mem_cons.mp member with new | old
        · rw [new]
          exact locals.1 transferId held
        · exact locals.2 entry (List.mem_of_mem_filter old)
  | unlock dataId =>
    apply accounted_shared accounted
    · exact fun _ => Nat.le_refl _
    · exact ⟨locals.1, fun entry member => locals.2 entry (List.mem_of_mem_filter member)⟩
  | cancel transferId => exact accounted_cancel accounted transferId
  | proceed index accepted => exact accounted_proceed accounted index accepted orderly

theorem accounted_start : Accounted ({} : ClipboardRun Disk) where
  permits := by
    constructor
    · exact fun _ => Nat.zero_le 1
    · exact fun _ _ => rfl
    · exact fun _ impossible => absurd impossible (Nat.lt_irrefl 0)
    · exact fun _ impossible => nomatch impossible.2
  locals := ⟨by rintro _ ⟨⟩, by rintro _ ⟨⟩⟩
  installs := fun _ impossible => nomatch impossible

/-- After a cancel of a remote transfer that was answered with true no last event for it is
sent, and no transfer has two of them. -/
def CancelIsFinal (trace : List Observation) : Prop :=
  (∀ before after transferId, trace = before ++ .cancelled transferId true :: after →
    IsRemote transferId → ∀ event, .sent event ∈ after → event.transferId ≠ transferId) ∧
  ∀ transferId, trace.countP (sentOn transferId) ≤ 1

theorem Accounted.cancelIsFinal (accounted : Accounted run) : CancelIsFinal run.trace := by
  constructor
  · rintro before after transferId split remote event sent rfl
    have gone := accounted.permits.gone event.transferId ⟨remote, by rw [split]; simp⟩
    have counted : 0 < run.trace.countP (sentOn event.transferId) := by
      apply List.countP_pos_iff.mpr
      refine ⟨.sent event, ?_, by simp [sentOn]⟩
      rw [split]
      exact List.mem_append_right _ (List.mem_cons_of_mem _ sent)
    rw [livePermits] at gone
    omega
  · intro transferId
    have single := accounted.permits.single transferId
    rw [livePermits] at single
    omega

/-- In every interleaving in which each failed send is handled in time. -/
theorem cancelled_transfers_stay_silent (host : StagingHost Disk) (platform : Platform)
    (tables : NameTables) (inputs : List (ClipboardStep Disk))
    (orderly : (clipboardMachine host platform tables).Respects Orderly {} inputs) :
    ∀ reached ∈ (clipboardMachine host platform tables).visited {} inputs,
      CancelIsFinal reached.trace := by
  intro reached member
  apply Accounted.cancelIsFinal
  apply visited_invariant_guarded _ Orderly Accounted {} inputs _ orderly accounted_start _ member
  intro run input _ accounted allowed
  exact accounted_step accounted input allowed

def quietDisk : StagingHost Unit where
  createDirectory _ _ := ((), none)
  createFile _ _ := ((), none)
  write _ _ _ := ((), none)
  flush _ _ := ((), none)

def firstTransfer : UInt64 := 0x8000000000000001

def cancelledCopy : List (ClipboardStep Unit) :=
  [.remoteCopy, .proceed 0 true, .remoteFileList ⟨[⟨"a", none, none, none⟩], none, {}, ()⟩,
    .proceed 0 true, .proceed 0 true, .cancel firstTransfer,
    .fileContentsResponse { streamId := 1, isError := true }]

theorem cancelled_copy_is_silent :
    ((clipboardMachine quietDisk unix asciiTables).run {} cancelledCopy).1.trace =
        [.reserved firstTransfer, .cancelled firstTransfer true] ∧
      CancelIsFinal ((clipboardMachine quietDisk unix asciiTables).run {} cancelledCopy).1.trace :=
  ⟨by rfl, cancelled_transfers_stay_silent quietDisk unix asciiTables cancelledCopy
    ⟨by simp [Orderly, Known], trivial, trivial, trivial, trivial, trivial, trivial, trivial⟩ _
    (run_mem_visited _ _ _)⟩

def cancelledBeforeFailure : List (ClipboardStep Unit) :=
  [.remoteCopy, .cancel firstTransfer, .proceed 0 false, .proceed 0 true, .proceed 0 true]

/-- The list of files fails before the send of the first message does. -/
def failedTwice : List (ClipboardStep Unit) :=
  [.remoteCopy, .remoteFileList ⟨[], none, {}, ()⟩, .proceed 1 true, .proceed 0 false,
    .proceed 1 true, .proceed 0 true, .proceed 0 true]

theorem failed_sends_are_reported_late :
    ¬ CancelIsFinal
        ((clipboardMachine quietDisk unix asciiTables).run {} cancelledBeforeFailure).1.trace ∧
      ((clipboardMachine quietDisk unix asciiTables).run {} failedTwice).1.trace.countP
        (sentOn firstTransfer) = 2 := by
  constructor
  · have trace : ((clipboardMachine quietDisk unix asciiTables).run {}
        cancelledBeforeFailure).1.trace = [.reserved firstTransfer] ++
          .cancelled firstTransfer true ::
            [.sent (.clipboardTransferFailed firstTransfer
              "RDP clipboard channel closed before the file transfer started")] := by rfl
    intro final
    exact final.1 _ _ firstTransfer trace (by rw [IsRemote]; decide) _
      List.mem_cons_self rfl
  · rfl

end Onetcli.Rdp.Clipboard
