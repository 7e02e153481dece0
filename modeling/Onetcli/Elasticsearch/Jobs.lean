import Onetcli.Elasticsearch.Invariants

/-!
What holds in every run of the provider: its budgets and owners, that a job leaves Running at
most once and keeps what it left with, that closing frees its blob, and that the request in which
it leaves broadcasts its event.
-/

namespace Onetcli.Elasticsearch

open Tables Runs

variable {Value : Type} {platform : Platform Value} {defaultMaxEvents maxMaxEvents : Nat}

/-! ## Leaving Running -/

/-- The job runs before a step and does no longer after it. -/
def LeavesRunning (before after : Table String (ProviderJob Value)) (id : String) : Prop :=
  ∃ job next, before.lookup id = some job ∧ job.state = .running ∧
    after.lookup id = some next ∧ next.state ≠ .running

section Effects

variable {books after : Books Value} {left : Option String} (sound : Sound platform books)
  (effect : Effect platform books after left)

include effect

theorem effect_left (id : String) (leaves : left = some id) :
    LeavesRunning books.jobs after.jobs id := by
  cases effect with
  | leave jobId job new found left | succeed jobId job new value data found left =>
    obtain rfl := Option.some.inj leaves
    exact ⟨job, new, found, left.running, AList.lookup_insert _, left.left⟩
  | _ => cases leaves

-- A job of the table is new, was in it with the same state and result, or leaves Running.
theorem effect_origin {id : String} {next : ProviderJob Value}
    (later : after.jobs.lookup id = some next) :
    id = jobName platform books.drawn ∨ ∃ job, books.jobs.lookup id = some job ∧
      (next.state = job.state ∧ next.result = job.result ∨
        left = some id ∧ job.state = .running) := by
  have unchanged (found : books.jobs.lookup id = some next) :
      id = jobName platform books.drawn ∨ ∃ job, books.jobs.lookup id = some job ∧
        (next.state = job.state ∧ next.result = job.result ∨
          left = some id ∧ job.state = .running) :=
    Or.inr ⟨next, found, Or.inl ⟨rfl, rfl⟩⟩
  cases effect with
  | startJob resourceId message isOpen room =>
    rcases lookup_insert_cases later with ⟨new, _⟩ | ⟨_, found⟩
    · exact Or.inl new
    · exact unchanged found
  | receive jobId old value there waits | vanish jobId old completion there waits =>
    rcases lookup_insert_cases later with ⟨rfl, rfl⟩ | ⟨_, found⟩
    · exact Or.inr ⟨old, there, Or.inl ⟨rfl, rfl⟩⟩
    · exact unchanged found
  | leave jobId old new there leaves | succeed jobId old new value data there leaves =>
    rcases lookup_insert_cases later with ⟨rfl, rfl⟩ | ⟨_, found⟩
    · exact Or.inr ⟨old, there, Or.inr ⟨rfl, leaves.running⟩⟩
    · exact unchanged found
  | closeJob jobId old there => exact unchanged (lookup_erase_cases later).2
  | closeResource resourceId isOpen =>
    exact unchanged ((sweptJobs_lookup resourceId _ _ id next).mp later).1
  | clear => cases later
  | _ => exact unchanged later

include sound

theorem effect_job (fresh : Function.Injective platform.newV4) {id : String}
    {job next : ProviderJob Value} (found : books.jobs.lookup id = some job)
    (later : after.jobs.lookup id = some next) :
    next.state = job.state ∧ next.result = job.result ∨ left = some id ∧ job.state = .running := by
  rcases effect_origin effect later with new | ⟨old, there, kept⟩
  · exact absurd new ((sound.jobs id job found).issued.ne_next (jobName_injective fresh))
  · obtain rfl := Option.some.inj (found.symm.trans there)
    exact kept

theorem left_iff (fresh : Function.Injective platform.newV4) (id : String) :
    left = some id ↔ LeavesRunning books.jobs after.jobs id := by
  refine ⟨effect_left effect id, ?_⟩
  rintro ⟨job, next, found, running, later, gone⟩
  rcases effect_job sound effect fresh found later with ⟨same, _⟩ | ⟨leaves, _⟩
  · rw [same] at gone
    exact absurd running gone
  · exact leaves

omit sound in
theorem effect_known (id : String) (next : ProviderJob Value)
    (later : after.jobs.lookup id = some next) :
    (∃ job, books.jobs.lookup id = some job) ∨ id = jobName platform books.drawn := by
  exact (effect_origin effect later).symm.imp_left fun ⟨job, found, _⟩ => ⟨job, found⟩

end Effects

/-- A job that was started before and, if it is still there, has left Running with this state
and this result. -/
def SettledAs (platform : Platform Value) (id : String) (state : JobState)
    (result : Option (ResultRef Value)) (books : Books Value) : Prop :=
  Issued (jobName platform) books.drawn id ∧ ∀ job, books.jobs.lookup id = some job →
    job.state = state ∧ job.result = result

theorem effect_settledAs {books after : Books Value} {left : Option String}
    (sound : Sound platform books) (effect : Effect platform books after left)
    (fresh : Function.Injective platform.newV4) {id : String} {state : JobState}
    {result : Option (ResultRef Value)} (gone : state ≠ .running)
    (settled : SettledAs platform id state result books) :
    SettledAs platform id state result after := by
  obtain ⟨issued, same⟩ := settled
  refine ⟨issued.later (effect_drawn effect), fun next later => ?_⟩
  rcases effect_known effect id next later with ⟨job, found⟩ | new
  · obtain ⟨sameState, sameResult⟩ := same job found
    rcases effect_job sound effect fresh found later with ⟨state, result⟩ | ⟨_, running⟩
    · exact ⟨state.trans sameState, result.trans sameResult⟩
    · exact absurd (sameState.symm.trans running) gone
  · exact absurd new (issued.ne_next (jobName_injective fresh))

/-- A job that was started before and does not run. -/
def Quiet (platform : Platform Value) (id : String) (books : Books Value) : Prop :=
  Issued (jobName platform) books.drawn id ∧ ∀ job, books.jobs.lookup id = some job →
    job.state ≠ .running

theorem effect_quiet {books after : Books Value} {left : Option String}
    (sound : Sound platform books) (effect : Effect platform books after left)
    (fresh : Function.Injective platform.newV4) {id : String}
    (quiet : Quiet platform id books ∨ left = some id) : Quiet platform id after := by
  have issued : Issued (jobName platform) books.drawn id := by
    rcases quiet with ⟨issued, _⟩ | leaves
    · exact issued
    · obtain ⟨job, _, found, _⟩ := effect_left effect id leaves
      exact (sound.jobs id job found).issued
  refine ⟨issued.later (effect_drawn effect), fun next later running => ?_⟩
  rcases quiet with ⟨_, same⟩ | leaves
  · rcases effect_known effect id next later with ⟨job, found⟩ | new
    · rcases effect_job sound effect fresh found later with ⟨state, _⟩ | ⟨_, ran⟩
      · exact same job found (state.symm.trans running)
      · exact same job found ran
    · exact absurd new (issued.ne_next (jobName_injective fresh))
  · obtain ⟨_, other, _, _, there, gone⟩ := effect_left effect id leaves
    obtain rfl := Option.some.inj (later.symm.trans there)
    exact gone running

/-! ## Event streams -/

def Passed (before after : ProviderState Value) (events : List (JobEvent Value)) : Prop :=
  after.eventStreams = before.eventStreams ∧ events = [] ∨
    ∃ event, after.eventStreams = mapValues (pushEvent event) before.eventStreams ∧
      events = [event]

theorem emitJobEvent_passed {record : Record Value} {jobId : String}
    {after : ProviderState Value} (leaves : LeavesIn platform record jobId after) :
    Passed record.state (emitJobEvent after jobId).1 (emitJobEvent after jobId).2 := by
  obtain ⟨_, streams, job, found⟩ := leaves
  have same : emitJobEvent after jobId =
      (broadcastEvent after (jobEvent jobId job), [jobEvent jobId job]) := by
    simp only [emitJobEvent, found]
  rw [same]
  refine Or.inr ⟨jobEvent jobId job, ?_, rfl⟩
  rw [← streams]
  rfl

theorem pollAndEmit_passed (record : Record Value) (jobId : String) :
    Passed record.state (pollAndEmit platform record.state jobId).1
      (pollAndEmit platform record.state jobId).2 := by
  unfold pollAndEmit
  rcases @pollJob_leaves Value platform record jobId with same | ⟨after, same, leaves⟩
  · rw [same]
    exact Or.inl ⟨rfl, rfl⟩
  · rw [same]
    exact emitJobEvent_passed leaves

theorem blobResult_streams (state : ProviderState Value) (resourceId : String) (value : Value) :
    (blobResult platform state resourceId value).1.eventStreams = state.eventStreams := by
  unfold blobResult
  cases platform.toVec value with
  | error err => rfl
  | ok data =>
    dsimp only
    split
    · rfl
    · rcases @storeBlob_cases Value platform state resourceId data with same | ⟨_, same⟩
      · rw [same]
      · rw [same]

def Input.onStreams : Input Value → Bool
  | .request (.eventOpen ..) | .request (.eventRead ..) | .request (.eventClose _)
  | .request .shutdown => true
  | _ => false

theorem provider_passed (record : Record Value) (input : Input Value)
    (off : input.onStreams = false) :
    Passed record.state ((provider platform defaultMaxEvents maxMaxEvents).step record input).1.state
      ((provider platform defaultMaxEvents maxMaxEvents).step record input).2.2 := by
  have kept : Passed record.state record.state [] := Or.inl ⟨rfl, rfl⟩
  cases input with
  | searchEnds jobId outcome =>
    simp only [provider, searchEnds]
    cases awaiting record.state jobId <;> exact kept
  | request request =>
    cases request with
    | resourceOpen answer => cases answer <;> exact kept
    | resourceInvoke resourceId method answer =>
      simp only [provider, handle]
      split
      · exact kept
      · cases answer with
        | error err => exact kept
        | ok value => exact Or.inl ⟨blobResult_streams _ _ _, rfl⟩
    | resourceClose resourceId =>
      simp only [provider, handle, closeResource]
      by_cases isOpen : resourceId ∈ record.state.resources
      · simp only [isOpen, not_true_eq_false, if_false]
        exact kept
      · simp only [isOpen, not_false_eq_true, if_true]
        exact kept
    | blobRead blobId maxBytes =>
      simp only [provider, handle, readBlob]
      cases record.state.blobs.lookup blobId <;> exact kept
    | blobClose blobId => exact kept
    | jobStart resourceId method params =>
      simp only [provider, handle, startJob]
      repeat' split
      all_goals exact kept
    | jobStatus jobId => exact pollAndEmit_passed record jobId
    | jobCancel jobId =>
      rcases @cancelJob_leaves Value platform record jobId with
        ⟨err, same⟩ | same | ⟨after, same, leaves⟩
      · simp only [provider, handle, same]
        exact kept
      · simp only [provider, handle, same]
        exact kept
      · simp only [provider, handle, same]
        exact emitJobEvent_passed leaves
    | jobResult jobId => exact pollAndEmit_passed record jobId
    | jobClose jobId =>
      simp only [provider, handle, closeJob]
      cases record.state.jobs.lookup jobId <;> exact kept
    | other answer => exact kept
    | _ => cases off

theorem provider_streams (record : Record Value) (input : Input Value)
    (few : record.state.eventStreams.entries.length ≤ maxEventStreams) :
    ((provider platform defaultMaxEvents maxMaxEvents).step record
      input).1.state.eventStreams.entries.length ≤ maxEventStreams := by
  cases on : input.onStreams with
  | false =>
    rcases @provider_passed _ platform defaultMaxEvents maxMaxEvents record input on with
      ⟨same, _⟩ | ⟨event, same, _⟩
    · rw [same]
      exact few
    · rw [same, length_mapValues]
      exact few
  | true =>
    match input with
    | .request (.eventOpen kind connGiven capacity) =>
      simp only [provider, handle, openEventStream]
      repeat' split
      · exact few
      · exact few
      · exact few
      · exact few
      · rename_i room
        rw [length_eq_weight] at room ⊢
        exact Nat.le_trans (weight_insert_le _ _ _ _) (by omega)
    | .request (.eventRead streamId maxEvents) =>
      simp only [provider, handle, readEventStream]
      cases found : record.state.eventStreams.lookup streamId with
      | none => exact few
      | some stream =>
        rw [length_eq_weight] at few ⊢
        exact Nat.le_trans (weight_replace_le _ _ found (Nat.le_refl _)) few
    | .request (.eventClose streamId) =>
      rw [length_eq_weight] at few ⊢
      exact Nat.le_trans (weight_erase_le _ _ _) few
    | .request .shutdown => exact Nat.zero_le _

/-! ## Whole runs -/

structure Reached (platform : Platform Value) (record : Record Value) : Prop where
  sound : Sound platform record.books
  few : record.state.eventStreams.entries.length ≤ maxEventStreams

theorem reached_new : Reached platform ({ state := {} } : Record Value) :=
  ⟨sound_new platform, Nat.zero_le _⟩

section Runs

variable (fresh : Function.Injective platform.newV4)
include fresh

theorem reached_step (record : Record Value) (input : Input Value)
    (reached : Reached platform record) :
    Reached platform ((provider platform defaultMaxEvents maxMaxEvents).step record input).1 := by
  obtain ⟨left, effect, _⟩ :=
    @provider_effect Value platform defaultMaxEvents maxMaxEvents record input
  exact ⟨effect_sound reached.sound effect fresh, provider_streams record input reached.few⟩

theorem reached_visited (inputs : List (Input Value)) :
    ∀ record ∈ (provider platform defaultMaxEvents maxMaxEvents).visited { state := {} } inputs,
      Reached platform record :=
  visited_invariant _ (Reached platform) (reached_step fresh) _ inputs reached_new

theorem settledAs_visited {record : Record Value} (reached : Reached platform record) {id : String}
    {state : JobState} {result : Option (ResultRef Value)} (gone : state ≠ .running)
    (settled : SettledAs platform id state result record.books) (inputs : List (Input Value)) :
    ∀ later ∈ (provider platform defaultMaxEvents maxMaxEvents).visited record inputs,
      SettledAs platform id state result later.books := by
  intro later visited
  refine (visited_invariant _
    (fun record => Reached platform record ∧ SettledAs platform id state result record.books)
    ?_ record inputs ⟨reached, settled⟩ later visited).2
  intro record input ⟨reached, settled⟩
  obtain ⟨left, effect, _⟩ :=
    @provider_effect Value platform defaultMaxEvents maxMaxEvents record input
  exact ⟨reached_step fresh record input reached,
    effect_settledAs reached.sound effect fresh gone settled⟩

end Runs

def completedEvents (id : String) (outputs : List (Option (Answer Value) × List (JobEvent Value))) :
    List (JobEvent Value) :=
  outputs.flatMap fun output => output.2.filter fun event => event.jobId == id

theorem broadcast_events {before after : ProviderState Value} {left : Option String}
    {events : List (JobEvent Value)} (broadcast : Broadcast before after left events)
    (id : String) : (left = some id ∧ (events.filter fun event => event.jobId == id).length = 1) ∨
      (left ≠ some id ∧ events.filter (fun event => event.jobId == id) = []) := by
  cases left with
  | none =>
    cases broadcast
    exact Or.inr ⟨by simp, rfl⟩
  | some jobId =>
    obtain ⟨job, _, rfl, _⟩ := broadcast
    by_cases same : jobId = id
    · subst same
      exact Or.inl ⟨rfl, by simp [jobEvent]⟩
    · exact Or.inr ⟨by simpa using same, by simp [jobEvent, same]⟩

section Counts

variable (fresh : Function.Injective platform.newV4)
include fresh

theorem quiet_run {record : Record Value} (reached : Reached platform record) {id : String}
    (quiet : Quiet platform id record.books) (inputs : List (Input Value)) : completedEvents id
      ((provider platform defaultMaxEvents maxMaxEvents).run record inputs).2 = [] := by
  induction inputs generalizing record with
  | nil => rfl
  | cons input rest ih =>
    obtain ⟨left, effect, broadcast⟩ :=
      @provider_effect Value platform defaultMaxEvents maxMaxEvents record input
    have tail := ih (reached_step fresh record input reached)
      (effect_quiet reached.sound effect fresh (Or.inl quiet))
    rcases broadcast_events broadcast id with ⟨leaves, _⟩ | ⟨_, silent⟩
    · -- a quiet job does not run, so it cannot leave
      obtain ⟨job, _, found, running, _⟩ := effect_left effect id leaves
      exact absurd running (quiet.2 job found)
    · simp only [completedEvents, Machine.run, List.flatMap_cons, silent, List.nil_append]
      exact tail

theorem completed_once {record : Record Value} (reached : Reached platform record) (id : String)
    (inputs : List (Input Value)) : (completedEvents id
      ((provider platform defaultMaxEvents maxMaxEvents).run record inputs).2).length ≤ 1 := by
  induction inputs generalizing record with
  | nil => exact Nat.zero_le _
  | cons input rest ih =>
    obtain ⟨left, effect, broadcast⟩ :=
      @provider_effect Value platform defaultMaxEvents maxMaxEvents record input
    have next := @reached_step Value platform defaultMaxEvents maxMaxEvents fresh record input
      reached
    simp only [completedEvents, Machine.run, List.flatMap_cons, List.length_append]
    rcases broadcast_events broadcast id with ⟨leaves, one⟩ | ⟨_, silent⟩
    · -- the job is quiet from here on
      have tail := @quiet_run Value platform defaultMaxEvents maxMaxEvents fresh _ next id
        (effect_quiet reached.sound effect fresh (Or.inr leaves)) rest
      unfold completedEvents at tail
      rw [tail, one]
      exact Nat.le_refl _
    · rw [silent, List.length_nil, Nat.zero_add]
      exact ih next

end Counts

/-! ## What closing frees -/

theorem closeJob_frees {record : Record Value} {id blobId : String} {job : ProviderJob Value}
    (found : record.state.jobs.lookup id = some job) (result : job.result = some (.blob blobId)) :
    (closeJob record.state id).blobs.lookup blobId = none := by
  simp only [closeJob, found]
  exact freeResult_frees result _

theorem closeResource_frees {record : Record Value} (sound : Sound platform record.books)
    {id blobId : String} {job : ProviderJob Value}
    (found : record.state.jobs.lookup id = some job) (result : job.result = some (.blob blobId)) :
    (closeResource record.state job.resourceId).1.blobs.lookup blobId = none := by
  have isOpen : job.resourceId ∈ record.state.resources := (sound.jobs id job found).owned
  simp only [closeResource, isOpen, not_true_eq_false, if_false]
  by_contra present
  obtain ⟨blob, there⟩ := Option.ne_none_iff_exists'.mp present
  obtain ⟨swept, other⟩ := (sweptBlobs_lookup job.resourceId _ _ blobId blob).mp there
  have before := sweptJobs_sub job.resourceId _ _ blobId blob swept
  rcases ((sound.jobs id job found).stored blobId result).2 with closed | ⟨stored, _, same, owner, _⟩
  · have gone : record.state.blobs.lookup blobId = none := (sound.gone blobId closed).2
    rw [before] at gone
    cases gone
  · obtain rfl := Option.some.inj (before.symm.trans same)
    exact other owner

/-! ## The whole provider -/

structure Kept (platform : Platform Value) (record : Record Value) : Prop where
  budget : totalBlobBytes record.state ≤ maxTotalBlobBytes
  fewJobs : record.state.jobs.entries.length ≤ maxJobs
  fewStreams : record.state.eventStreams.entries.length ≤ maxEventStreams
  jobOwner : ∀ id job, record.state.jobs.lookup id = some job →
    job.resourceId ∈ record.state.resources
  blobOwner : ∀ id blob, record.state.blobs.lookup id = some blob →
    blob.resourceId ∈ record.state.resources
  stored : ∀ id job blobId, record.state.jobs.lookup id = some job → job.state = .succeeded →
    job.result = some (.blob blobId) → blobId ∉ record.closedBlobs →
    Stored platform record.books id job blobId

def Steady (platform : Platform Value) (defaultMaxEvents maxMaxEvents : Nat)
    (record : Record Value) : Prop :=
  ∀ id job, record.state.jobs.lookup id = some job → job.state ≠ .running → ∀ inputs,
    ∀ later ∈ (provider platform defaultMaxEvents maxMaxEvents).visited record inputs, ∀ next,
      later.state.jobs.lookup id = some next → next.state = job.state ∧ next.result = job.result

def Frees (platform : Platform Value) (defaultMaxEvents maxMaxEvents : Nat)
    (record : Record Value) : Prop :=
  ∀ id job blobId, record.state.jobs.lookup id = some job → job.result = some (.blob blobId) →
    ∀ request ∈ [Request.jobClose id, .resourceClose job.resourceId],
      ((provider platform defaultMaxEvents maxMaxEvents).step record
        (.request request)).1.state.blobs.lookup blobId = none

/-- A step broadcasts to every stream one event of each job that leaves Running in it, and no
event of any other job. -/
def Announces (platform : Platform Value) (defaultMaxEvents maxMaxEvents : Nat)
    (record : Record Value) (input : Input Value) : Prop :=
  let next := (provider platform defaultMaxEvents maxMaxEvents).step record input
  ∀ id, (LeavesRunning record.state.jobs next.1.state.jobs id →
      ∃ job, next.1.state.jobs.lookup id = some job ∧ next.2.2 = [jobEvent id job] ∧
        next.1.state.eventStreams =
          mapValues (pushEvent (jobEvent id job)) record.state.eventStreams) ∧
    (¬LeavesRunning record.state.jobs next.1.state.jobs id → ∀ event ∈ next.2.2, event.jobId ≠ id)

section Reached

variable {record : Record Value} (reached : Reached platform record)
include reached

theorem reached_kept : Kept platform record where
  budget := reached.sound.budget
  fewJobs := reached.sound.few
  fewStreams := reached.few
  jobOwner id job found := (reached.sound.jobs id job found).owned
  blobOwner id blob found := (reached.sound.blobs id blob found).1
  stored id job blobId found _ result notClosed :=
    ((reached.sound.jobs id job found).stored blobId result).2.resolve_left notClosed

theorem reached_steady (fresh : Function.Injective platform.newV4) :
    Steady platform defaultMaxEvents maxMaxEvents record := by
  intro id job found gone inputs later visited next there
  have settled : SettledAs platform id job.state job.result record.books := by
    refine ⟨(reached.sound.jobs id job found).issued, fun other same => ?_⟩
    obtain rfl := Option.some.inj (found.symm.trans same)
    exact ⟨rfl, rfl⟩
  exact (settledAs_visited fresh reached gone settled inputs later visited).2 next there

theorem reached_frees : Frees platform defaultMaxEvents maxMaxEvents record := by
  intro id job blobId found result request among
  rcases List.mem_pair.mp among with rfl | rfl
  · exact closeJob_frees found result
  · have gone := closeResource_frees reached.sound found result
    have isOpen : job.resourceId ∈ record.state.resources :=
      (reached.sound.jobs id job found).owned
    simp only [closeResource, isOpen, not_true_eq_false, if_false] at gone
    simp only [provider, handle, closeResource, isOpen, not_true_eq_false, if_false]
    exact gone

theorem reached_announces (fresh : Function.Injective platform.newV4) (input : Input Value) :
    Announces platform defaultMaxEvents maxMaxEvents record input := by
  obtain ⟨left, effect, broadcast⟩ :=
    @provider_effect Value platform defaultMaxEvents maxMaxEvents record input
  intro id
  constructor
  · intro leaves
    obtain rfl := (left_iff reached.sound effect fresh id).mpr leaves
    exact broadcast
  · intro stays event among same
    rcases broadcast_events broadcast id with ⟨leaves, _⟩ | ⟨_, silent⟩
    · exact stays ((left_iff reached.sound effect fresh id).mp leaves)
    · have other := List.filter_eq_nil_iff.mp silent event among
      exact other (beq_iff_eq.mpr same)

end Reached

/-- The provider over any sequence of requests, with searches ending at any point between them. -/
theorem provider_invariant (platform : Platform Value) (defaultMaxEvents maxMaxEvents : Nat)
    (fresh : Function.Injective platform.newV4) (inputs : List (Input Value)) :
    (∀ record ∈ (provider platform defaultMaxEvents maxMaxEvents).visited { state := {} } inputs,
      Kept platform record ∧ Steady platform defaultMaxEvents maxMaxEvents record ∧
        Frees platform defaultMaxEvents maxMaxEvents record ∧
        ∀ input, Announces platform defaultMaxEvents maxMaxEvents record input) ∧
      ∀ id, (completedEvents id ((provider platform defaultMaxEvents maxMaxEvents).run
        { state := {} } inputs).2).length ≤ 1 := by
  constructor
  · intro record visited
    have reached := reached_visited fresh inputs record visited
    exact ⟨reached_kept reached, reached_steady reached fresh, reached_frees reached,
      reached_announces reached fresh⟩
  · exact fun id => completed_once fresh reached_new id inputs

def bytesPlatform : Platform (List UInt8) where
  newV4 n := String.ofList (List.replicate n 'u')
  raw := id
  indices := id
  toVec := .ok
  shouldStreamBlob size := decide (3 ≤ size)
  searchBody _ := none

theorem bytesPlatform_fresh : Function.Injective bytesPlatform.newV4 := by
  intro first second same
  have lists : List.replicate first 'u' = List.replicate second 'u' := String.ofList_injective same
  simpa using congrArg List.length lists

def bytesRun : List (Input (List UInt8)) :=
  [.request (.resourceOpen (.ok ())), .request (.eventOpen searchEventKind false none),
    .request (.jobStart (some "") "elasticsearch/search/async" []),
    .searchEnds "es-job-uu" (some (.ok [1, 2, 3])), .request (.jobStatus "es-job-uu"),
    .request (.jobResult "es-job-uu"), .request (.jobCancel "es-job-uu")]

theorem provider_invariant_bytesRun :
    (∀ record ∈ (provider bytesPlatform 8 8).visited { state := {} } bytesRun,
      Kept bytesPlatform record) ∧
      (completedEvents "es-job-uu"
        ((provider bytesPlatform 8 8).run { state := {} } bytesRun).2).length ≤ 1 ∧
      (completedEvents "es-job-uu"
        ((provider bytesPlatform 8 8).run { state := {} } bytesRun).2).map (·.state) =
          [.succeeded] :=
  have holds := provider_invariant bytesPlatform 8 8 bytesPlatform_fresh bytesRun
  ⟨fun record visited => (holds.1 record visited).1, holds.2 "es-job-uu", by decide +kernel⟩

end Onetcli.Elasticsearch
