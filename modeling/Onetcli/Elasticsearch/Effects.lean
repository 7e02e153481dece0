import Onetcli.Elasticsearch.State

/-!
What one step can do to the tables of the provider. Every request and every end of a search comes
down to one of the effects below; the invariants are proved from them and never look at a handler
again. `Books` adds to the tables what happened before: the values that searches have sent and
the blobs that the client has closed.
-/

namespace Onetcli.Elasticsearch

open Tables Runs

structure Books (Value : Type) where
  resources : Table String Unit
  blobs : Table String ProviderBlob
  jobs : Table String (ProviderJob Value)
  drawn : Nat
  delivered : String → Option Value
  closedBlobs : List String

structure Record (Value : Type) where
  state : ProviderState Value
  delivered : String → Option Value := fun _ => none
  closedBlobs : List String := []

def Record.books {Value : Type} (record : Record Value) : Books Value :=
  { resources := record.state.resources, blobs := record.state.blobs, jobs := record.state.jobs,
    drawn := record.state.drawn, delivered := record.delivered, closedBlobs := record.closedBlobs }

inductive Input (Value : Type) where
  | request (request : Request Value)
  | searchEnds (jobId : String) (outcome : Option (Except String Value))

section Steps

variable {Value : Type} (platform : Platform Value) (defaultMaxEvents maxMaxEvents : Nat)

/-- The values that searches have handed over, after one more search has ended. -/
def Record.deliver (record : Record Value) (jobId : String)
    (outcome : Option (Except String Value)) : String → Option Value :=
  match awaiting record.state jobId, outcome with
  | some _, some (.ok value) => Function.update record.delivered jobId (some value)
  | _, _ => record.delivered

def closedBlobs (state : ProviderState Value) (closed : List String) : Request Value → List String
  | .blobClose blobId => if blobId ∈ state.blobs then blobId :: closed else closed
  | _ => closed

def provider : Machine (Record Value) (Input Value)
    (Option (Answer Value) × List (JobEvent Value)) where
  step record input :=
    match input with
    | .request request =>
      let (state, answer, events) :=
        handle platform record.state defaultMaxEvents maxMaxEvents request
      ({ record with
        state, closedBlobs := closedBlobs record.state record.closedBlobs request },
        some answer, events)
    | .searchEnds jobId outcome =>
      ({ record with
        state := searchEnds record.state jobId outcome
        delivered := record.deliver jobId outcome }, none, [])

/-! ## Effects -/

/-- The tables after the loop over the jobs of a resource. -/
def sweptJobs (resourceId : String) (jobs : Table String (ProviderJob Value))
    (blobs : Table String ProviderBlob) :
    Table String (ProviderJob Value) × Table String ProviderBlob :=
  sweep (fun job => job.resourceId == resourceId) (fun _ job blobs => freeResult job blobs)
    jobs.keys jobs blobs

def sweptBlobs (resourceId : String) (jobs : Table String (ProviderJob Value))
    (blobs : Table String ProviderBlob) : Table String ProviderBlob :=
  (sweep (fun blob => blob.resourceId == resourceId) (fun _ _ acc => acc)
    (sweptJobs resourceId jobs blobs).2.keys (sweptJobs resourceId jobs blobs).2 ()).1

structure Leaves (job after : ProviderJob Value) : Prop where
  running : job.state = .running
  left : after.state ≠ .running
  resource : after.resourceId = job.resourceId
  settled : after.completion = none

inductive Effect (books : Books Value) : Books Value → Option String → Prop
  | keep (drawn : Nat) (later : books.drawn ≤ drawn) : Effect books { books with drawn } none
  | openResource (id : String) (drawn : Nat) (later : books.drawn ≤ drawn) :
      Effect books { books with resources := books.resources.insert id (), drawn } none
  | storeBlob (resourceId : String) (data : List UInt8) (isOpen : resourceId ∈ books.resources)
      (fits : weight (fun blob : ProviderBlob => blob.data.length) books.blobs + data.length ≤
        maxTotalBlobBytes) :
      Effect books
        { books with
          blobs := books.blobs.insert (blobName platform books.drawn) { resourceId, data }
          drawn := books.drawn + 1 } none
  | readBlob (id : String) (blob : ProviderBlob) (offset : Nat)
      (found : books.blobs.lookup id = some blob) :
      Effect books { books with blobs := books.blobs.insert id { blob with offset } } none
  | closeBlob (id : String) :
      Effect books
        { books with
          blobs := books.blobs.erase id
          closedBlobs := if id ∈ books.blobs then id :: books.closedBlobs else books.closedBlobs }
        none
  | startJob (resourceId : String) (message : Option String)
      (isOpen : resourceId ∈ books.resources) (few : books.jobs.entries.length < maxJobs) :
      Effect books
        { books with
          jobs := books.jobs.insert (jobName platform books.drawn)
            { resourceId, message, completion := some .waiting }
          drawn := books.drawn + 1 } none
  | receive (id : String) (job : ProviderJob Value) (value : Value)
      (found : books.jobs.lookup id = some job) (waits : job.completion = some .waiting) :
      Effect books
        { books with
          jobs := books.jobs.insert id { job with completion := some (.sent (.ok value)) }
          delivered := Function.update books.delivered id (some value) } none
  | vanish (id : String) (job : ProviderJob Value) (completion : Completion Value)
      (found : books.jobs.lookup id = some job) (waits : job.completion = some .waiting)
      (noValue : ∀ value, completion ≠ .sent (.ok value)) :
      Effect books
        { books with jobs := books.jobs.insert id { job with completion := some completion } } none
  | leave (id : String) (job after : ProviderJob Value)
      (found : books.jobs.lookup id = some job) (leaves : Leaves job after)
      (noBlob : ∀ blobId, after.result = some (.blob blobId) → job.result = some (.blob blobId)) :
      Effect books { books with jobs := books.jobs.insert id after } (some id)
  | succeed (id : String) (job after : ProviderJob Value) (value : Value) (data : List UInt8)
      (found : books.jobs.lookup id = some job) (leaves : Leaves job after)
      (sent : job.completion = some (.sent (.ok value)))
      (encoded : platform.toVec (normalizeSearch platform value) = .ok data)
      (result : after.result = some (.blob (blobName platform books.drawn)))
      (fits : weight (fun blob : ProviderBlob => blob.data.length) books.blobs + data.length ≤
        maxTotalBlobBytes) :
      Effect books
        { books with
          blobs := books.blobs.insert (blobName platform books.drawn)
            { resourceId := job.resourceId, data }
          jobs := books.jobs.insert id after
          drawn := books.drawn + 1 } (some id)
  | closeJob (id : String) (job : ProviderJob Value) (found : books.jobs.lookup id = some job) :
      Effect books
        { books with jobs := books.jobs.erase id, blobs := freeResult job books.blobs } none
  | closeResource (id : String) (isOpen : id ∈ books.resources) :
      Effect books
        { books with
          resources := books.resources.erase id
          jobs := (sweptJobs id books.jobs books.blobs).1
          blobs := sweptBlobs id books.jobs books.blobs } none
  | clear : Effect books { books with resources := ∅, blobs := ∅, jobs := ∅ } none

/-- The events of a step: none, or that of the one job that leaves, on every stream of the
kind. -/
def Broadcast (before after : ProviderState Value) (left : Option String)
    (events : List (JobEvent Value)) : Prop :=
  match left with
  | none => events = []
  | some id => ∃ job, after.jobs.lookup id = some job ∧ events = [jobEvent id job] ∧
      after.eventStreams = mapValues (pushEvent (jobEvent id job)) before.eventStreams

/-! ## What the handlers do -/

variable {platform} (record : Record Value)

/-- The record after a state change that leaves the history alone. -/
def Record.to (state : ProviderState Value) : Record Value := { record with state }

theorem effect_keep : Effect platform record.books record.books none :=
  .keep record.state.drawn (Nat.le_refl _)

theorem storeBlob_cases (state : ProviderState Value) (resourceId : String) (data : List UInt8) :
    storeBlob platform state resourceId data = (state, none) ∨
      totalBlobBytes state + data.length ≤ maxTotalBlobBytes ∧
        storeBlob platform state resourceId data = ({ state with
            drawn := state.drawn + 1
            blobs := state.blobs.insert (blobName platform state.drawn) { resourceId, data } },
            some (blobName platform state.drawn)) := by
  unfold storeBlob
  split
  · exact Or.inl rfl
  · rename_i fits
    exact Or.inr ⟨by omega, rfl⟩

theorem blobResult_effect (resourceId : String) (value : Value)
    (isOpen : resourceId ∈ record.state.resources) : Effect platform record.books
        (record.to (blobResult platform record.state resourceId value).1).books none := by
  unfold blobResult
  cases encoded : platform.toVec value with
  | error err => exact effect_keep record
  | ok data =>
    dsimp only
    split
    · exact effect_keep record
    · rcases storeBlob_cases record.state resourceId data with same | ⟨fits, same⟩
      · rw [same]
        exact effect_keep record
      · rw [same]
        exact .storeBlob resourceId data isOpen fits

theorem readBlob_effect (blobId : String) (maxBytes : Nat) :
    Effect platform record.books (record.to (readBlob record.state blobId maxBytes).1).books
      none := by
  unfold readBlob
  cases found : record.state.blobs.lookup blobId with
  | none => exact effect_keep record
  | some blob => exact .readBlob blobId blob _ found

theorem startJob_effect (resourceId : Option String) (method : String) (params : Value) :
    Effect platform record.books
      (record.to (startJob platform record.state resourceId method params).1).books none := by
  cases resourceId with
  | none => exact effect_keep record
  | some resourceId =>
    unfold startJob
    dsimp only
    split
    · exact effect_keep record
    · rename_i isOpen
      split
      · exact effect_keep record
      · split
        · exact effect_keep record
        · rename_i few
          cases platform.searchBody params with
          | some err => exact effect_keep record
          | none =>
            exact .startJob resourceId (some "search running") (not_not.mp isOpen)
              (Nat.lt_of_not_le few)

def LeavesIn (platform : Platform Value) (record : Record Value) (jobId : String)
    (after : ProviderState Value) : Prop :=
  Effect platform record.books (record.to after).books (some jobId) ∧
    after.eventStreams = record.state.eventStreams ∧
    ∃ job, after.jobs.lookup jobId = some job

theorem leavesIn_setJob {jobId : String} {job after : ProviderJob Value}
    (found : record.state.jobs.lookup jobId = some job) (leaves : Leaves job after)
    (noBlob : ∀ blobId, after.result = some (.blob blobId) → job.result = some (.blob blobId)) :
    LeavesIn platform record jobId (setJob record.state jobId after) :=
  ⟨.leave jobId job after found leaves noBlob, rfl, after, AList.lookup_insert _⟩

theorem failedJob_leaves {job : ProviderJob Value} (running : job.state = .running)
    (message : String) : Leaves job (failedJob { job with completion := none } message) :=
  ⟨running, JobState.noConfusion, rfl, rfl⟩

theorem succeededJob_leaves {job : ProviderJob Value} (running : job.state = .running)
    (result : ResultRef Value) : Leaves job (succeededJob { job with completion := none } result) :=
  ⟨running, JobState.noConfusion, rfl, rfl⟩

theorem completeJob_leaves {jobId : String} {job : ProviderJob Value} {value : Value}
    (found : record.state.jobs.lookup jobId = some job) (running : job.state = .running)
    (sent : job.completion = some (.sent (.ok value))) :
    LeavesIn platform record jobId
      (completeJob platform record.state jobId { job with completion := none } value) := by
  unfold completeJob
  dsimp only
  cases encoded : platform.toVec (normalizeSearch platform value) with
  | error err =>
    refine leavesIn_setJob record found ?_ ?_
    · exact ⟨running, JobState.noConfusion, rfl, rfl⟩
    · rintro blobId ⟨⟩
  | ok data =>
    dsimp only
    split
    · rcases storeBlob_cases record.state job.resourceId data with
        same | ⟨fits, same⟩
      · rw [same]
        apply leavesIn_setJob record found (failedJob_leaves running _)
        rintro blobId ⟨⟩
      · rw [same]
        exact ⟨.succeed jobId job _ value data found (succeededJob_leaves running _) sent encoded
          rfl fits, rfl, _, AList.lookup_insert _⟩
    · apply leavesIn_setJob record found (succeededJob_leaves running _)
      rintro blobId ⟨⟩

theorem pollJob_leaves (jobId : String) :
    pollJob platform record.state jobId = (record.state, false) ∨
      ∃ after, pollJob platform record.state jobId = (after, true) ∧
        LeavesIn platform record jobId after := by
  unfold pollJob
  cases found : record.state.jobs.lookup jobId with
  | none => exact Or.inl rfl
  | some job =>
    dsimp only
    by_cases running : job.state = .running
    · rw [if_neg (not_not.mpr running)]
      cases received : job.completion with
      | none =>
        refine Or.inr ⟨_, rfl, leavesIn_setJob record found ?_ fun blobId same => same⟩
        exact ⟨running, JobState.noConfusion, rfl, rfl⟩
      | some completion =>
        cases completion with
        | waiting => exact Or.inl rfl
        | disconnected =>
          refine Or.inr ⟨_, rfl, leavesIn_setJob record found (failedJob_leaves running _) ?_⟩
          rintro blobId ⟨⟩
        | sent outcome =>
          cases outcome with
          | error message =>
            refine Or.inr ⟨_, rfl,
              leavesIn_setJob record found (failedJob_leaves running _) ?_⟩
            rintro blobId ⟨⟩
          | ok value =>
            exact Or.inr ⟨_, rfl, completeJob_leaves record found running received⟩
    · rw [if_pos running]
      exact Or.inl rfl

theorem cancelJob_leaves (jobId : String) :
    (∃ err, cancelJob record.state jobId = (record.state, .error err)) ∨
      cancelJob record.state jobId = (record.state, .ok false) ∨
      ∃ after, cancelJob record.state jobId = (after, .ok true) ∧
        LeavesIn platform record jobId after := by
  unfold cancelJob
  cases found : record.state.jobs.lookup jobId with
  | none => exact Or.inl ⟨_, rfl⟩
  | some job =>
    dsimp only
    by_cases running : job.state = .running
    · rw [if_pos running]
      refine Or.inr (Or.inr ⟨_, rfl, leavesIn_setJob record found ?_ ?_⟩)
      · exact ⟨running, JobState.noConfusion, rfl, rfl⟩
      · rintro blobId ⟨⟩
    · rw [if_neg running]
      exact Or.inr (Or.inl rfl)

-- The event of a job that left goes to every stream, and changes no other table.
theorem emitJobEvent_broadcast {jobId : String} {after : ProviderState Value}
    (leaves : LeavesIn platform record jobId after) :
    Effect platform record.books (record.to (emitJobEvent after jobId).1).books (some jobId) ∧
      Broadcast record.state (emitJobEvent after jobId).1 (some jobId)
        (emitJobEvent after jobId).2 := by
  obtain ⟨effect, streams, job, found⟩ := leaves
  have same : emitJobEvent after jobId =
      (broadcastEvent after (jobEvent jobId job), [jobEvent jobId job]) := by
    simp only [emitJobEvent, found]
  rw [same]
  refine ⟨effect, job, found, rfl, ?_⟩
  rw [← streams]
  rfl

theorem pollAndEmit_effect (jobId : String) : ∃ left, Effect platform record.books
        (record.to (pollAndEmit platform record.state jobId).1).books left ∧
      Broadcast record.state (pollAndEmit platform record.state jobId).1 left
        (pollAndEmit platform record.state jobId).2 := by
  unfold pollAndEmit
  rcases pollJob_leaves record jobId with same | ⟨after, same, leaves⟩
  · rw [same]
    exact ⟨none, effect_keep record, rfl⟩
  · rw [same]
    exact ⟨some jobId, emitJobEvent_broadcast record leaves⟩

theorem closeJob_effect (jobId : String) :
    Effect platform record.books (record.to (closeJob record.state jobId)).books none := by
  unfold closeJob
  cases found : record.state.jobs.lookup jobId with
  | none => exact effect_keep record
  | some job => exact .closeJob jobId job found

theorem freeCandidate_le (resources : Table String Unit) (tries drawn : Nat) :
    drawn ≤ freeCandidate platform resources tries drawn := by
  induction tries generalizing drawn with
  | zero => exact Nat.le_refl _
  | succ tries ih =>
    unfold freeCandidate
    split
    · exact Nat.le_trans (Nat.le_succ _) (ih _)
    · exact Nat.le_refl _

theorem openEventStream_effect (kind : String) (connGiven : Bool) (capacity : Option Nat) :
    Effect platform record.books (record.to (openEventStream platform record.state
      defaultMaxEvents maxMaxEvents kind connGiven capacity).1).books none := by
  unfold openEventStream
  repeat' split
  · exact effect_keep record
  · exact effect_keep record
  · exact effect_keep record
  · exact effect_keep record
  · exact .keep _ (Nat.le_succ _)

theorem readEventStream_effect (streamId : String) (maxEvents : Nat) : Effect platform record.books
      (record.to (readEventStream record.state streamId maxEvents).1).books none := by
  unfold readEventStream
  cases record.state.eventStreams.lookup streamId with
  | none => exact effect_keep record
  | some stream => exact effect_keep record

theorem awaiting_eq_some {state : ProviderState Value} {jobId : String} {job : ProviderJob Value}
    (waiting : awaiting state jobId = some job) :
    state.jobs.lookup jobId = some job ∧ job.completion = some .waiting := by
  obtain ⟨found, waits⟩ := Option.filter_eq_some_iff.mp waiting
  refine ⟨found, ?_⟩
  unfold ProviderJob.waits at waits
  split at waits
  · assumption
  · cases waits

theorem searchEnds_effect (jobId : String) (outcome : Option (Except String Value)) :
    Effect platform record.books { record with
        state := searchEnds record.state jobId outcome
        delivered := record.deliver jobId outcome : Record Value }.books none := by
  unfold searchEnds Record.deliver
  cases waiting : awaiting record.state jobId with
  | none => exact effect_keep record
  | some job =>
    obtain ⟨found, waits⟩ := awaiting_eq_some waiting
    cases outcome with
    | none =>
      refine .vanish jobId job _ found waits fun value same => ?_
      cases same
    | some outcome =>
      cases outcome with
      | ok value => exact .receive jobId job value found waits
      | error message =>
        refine .vanish jobId job _ found waits fun value same => ?_
        cases same

-- Every step is one effect, and broadcasts the event of the job that leaves in it.
theorem provider_effect (input : Input Value) : ∃ left, Effect platform record.books
        ((provider platform defaultMaxEvents maxMaxEvents).step record input).1.books left ∧
      Broadcast record.state
        ((provider platform defaultMaxEvents maxMaxEvents).step record input).1.state left
        ((provider platform defaultMaxEvents maxMaxEvents).step record input).2.2 := by
  cases input with
  | searchEnds jobId outcome => exact ⟨none, searchEnds_effect record jobId outcome, rfl⟩
  | request request =>
    cases request with
    | resourceOpen answer =>
      cases answer with
      | error err => exact ⟨none, effect_keep record, rfl⟩
      | ok _ =>
        exact ⟨none, .openResource _ _ (Nat.le_succ_of_le (freeCandidate_le _ _ _)), rfl⟩
    | resourceInvoke resourceId method answer =>
      by_cases isOpen : resourceId ∈ record.state.resources
      · cases answer with
        | error err =>
          simp only [provider, handle, isOpen, not_true_eq_false, if_false]
          exact ⟨none, effect_keep record, rfl⟩
        | ok value =>
          simp only [provider, handle, isOpen, not_true_eq_false, if_false]
          exact ⟨none, blobResult_effect record resourceId _ isOpen, rfl⟩
      · simp only [provider, handle, isOpen, not_false_eq_true, if_true]
        exact ⟨none, effect_keep record, rfl⟩
    | resourceClose resourceId =>
      by_cases isOpen : resourceId ∈ record.state.resources
      · simp only [provider, handle, closeResource, isOpen, not_true_eq_false, if_false]
        exact ⟨none, .closeResource resourceId isOpen, rfl⟩
      · simp only [provider, handle, closeResource, isOpen, not_false_eq_true, if_true]
        exact ⟨none, effect_keep record, rfl⟩
    | blobRead blobId maxBytes => exact ⟨none, readBlob_effect record blobId maxBytes, rfl⟩
    | blobClose blobId => exact ⟨none, .closeBlob blobId, rfl⟩
    | jobStart resourceId method params =>
      exact ⟨none, startJob_effect record resourceId method params, rfl⟩
    | jobStatus jobId => exact pollAndEmit_effect record jobId
    | jobCancel jobId =>
      rcases @cancelJob_leaves Value platform record jobId with
        ⟨err, same⟩ | same | ⟨after, same, leaves⟩
      · simp only [provider, handle, same]
        exact ⟨none, effect_keep record, rfl⟩
      · simp only [provider, handle, same]
        exact ⟨none, effect_keep record, rfl⟩
      · simp only [provider, handle, same]
        exact ⟨some jobId, emitJobEvent_broadcast record leaves⟩
    | jobResult jobId => exact pollAndEmit_effect record jobId
    | jobClose jobId => exact ⟨none, closeJob_effect record jobId, rfl⟩
    | eventOpen kind connGiven capacity =>
      exact ⟨none, openEventStream_effect defaultMaxEvents maxMaxEvents record kind connGiven
        capacity, rfl⟩
    | eventRead streamId maxEvents =>
      exact ⟨none, readEventStream_effect record streamId maxEvents, rfl⟩
    | eventClose streamId => exact ⟨none, effect_keep record, rfl⟩
    | shutdown => exact ⟨none, .clear, rfl⟩
    | other answer => exact ⟨none, effect_keep record, rfl⟩

end Steps

end Onetcli.Elasticsearch
