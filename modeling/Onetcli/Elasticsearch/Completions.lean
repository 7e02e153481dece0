import Onetcli.Elasticsearch.Jobs

/-!
Who learns that a search has ended. The end of a search is noticed in `poll_job` alone, and only
the requests about the job call it; a client that reads its event stream and asks for nothing else
never sees the event (src/server/stream.rs).
-/

namespace Onetcli.Elasticsearch

open Tables Runs

variable {Value : Type} {platform : Platform Value} {defaultMaxEvents maxMaxEvents : Nat}

/-! ## What a step does to the event streams -/

def streamName (platform : Platform Value) (n : Nat) : String := "es-stream-" ++ platform.newV4 n

theorem streamName_injective (fresh : Function.Injective platform.newV4) :
    Function.Injective (streamName platform) := fun _ _ same =>
  fresh ((String.append_right_inj _).mp same)

inductive StreamEffect (platform : Platform Value) (before : ProviderState Value)
    (input : Input Value) (after : ProviderState Value) : List (JobEvent Value) → Prop
  | keep (same : after.eventStreams = before.eventStreams) :
      StreamEffect platform before input after []
  | broadcast (event : JobEvent Value)
      (same : after.eventStreams = mapValues (pushEvent event) before.eventStreams) :
      StreamEffect platform before input after [event]
  | opened (capacity : Nat) (drawn : after.drawn = before.drawn + 1)
      (same : after.eventStreams = before.eventStreams.insert (streamName platform before.drawn)
        { kind := searchEventKind, capacity }) :
      StreamEffect platform before input after []
  | read (id : String) (most : Nat) (stream : ProviderEventStream (JobEvent Value))
      (asked : input = .request (.eventRead id most))
      (found : before.eventStreams.lookup id = some stream)
      (same : after.eventStreams = before.eventStreams.insert id (stream.read most).1) :
      StreamEffect platform before input after []
  | closed (id : String) (same : after.eventStreams = before.eventStreams.erase id) :
      StreamEffect platform before input after []
  | cleared (same : after.eventStreams = ∅) : StreamEffect platform before input after []

theorem provider_streamEffect (record : Record Value) (input : Input Value) :
    StreamEffect platform record.state input
      ((provider platform defaultMaxEvents maxMaxEvents).step record input).1.state
      ((provider platform defaultMaxEvents maxMaxEvents).step record input).2.2 := by
  cases on : input.onStreams with
  | false =>
    rcases @provider_passed _ platform defaultMaxEvents maxMaxEvents record input on with
      ⟨same, silent⟩ | ⟨event, same, told⟩
    · rw [silent]
      exact .keep same
    · rw [told]
      exact .broadcast event same
  | true =>
    match input with
    | .request (.eventOpen kind connGiven capacity) =>
      simp only [provider, handle, openEventStream]
      repeat' split
      · exact .keep rfl
      · exact .keep rfl
      · exact .keep rfl
      · exact .keep rfl
      · rename_i known _ _ _
        rw [not_not.mp known]
        exact .opened _ rfl rfl
    | .request (.eventRead streamId maxEvents) =>
      simp only [provider, handle, readEventStream]
      cases found : record.state.eventStreams.lookup streamId with
      | none => exact .keep rfl
      | some stream => exact .read streamId maxEvents stream rfl found rfl
    | .request (.eventClose streamId) => exact .closed streamId rfl
    | .request .shutdown => exact .cleared rfl

/-! ## Who asks about a job -/

/-- The requests that look whether the search of a job has ended, or end it. -/
def Asks (jobId : String) : Input Value → Prop
  | .request (.jobStatus id) => id = jobId
  | .request (.jobResult id) => id = jobId
  | .request (.jobCancel id) => id = jobId
  | _ => False

/-- A job that runs although its search has ended. -/
structure Pending (job : ProviderJob Value) : Prop where
  running : job.state = .running
  ended : job.completion ≠ some .waiting

theorem emitJobEvent_about (state : ProviderState Value) (jobId : String) :
    ∀ event ∈ (emitJobEvent state jobId).2, event.jobId = jobId := by
  unfold emitJobEvent
  split
  · intro event among
    cases among
  · intro event among
    rw [List.mem_singleton.mp among]
    rfl

theorem pollAndEmit_about (state : ProviderState Value) (jobId : String) :
    ∀ event ∈ (pollAndEmit platform state jobId).2, event.jobId = jobId := by
  unfold pollAndEmit
  split
  · exact emitJobEvent_about _ _
  · intro event among
    cases among

theorem about_asks (record : Record Value) (input : Input Value) (event : JobEvent Value)
    (among : event ∈ ((provider platform defaultMaxEvents maxMaxEvents).step record input).2.2) :
    Asks event.jobId input := by
  cases input with
  | searchEnds jobId outcome => cases among
  | request request =>
    cases request with
    | jobStatus jobId | jobResult jobId =>
      exact (pollAndEmit_about record.state jobId event among).symm
    | jobCancel jobId =>
      simp only [provider, handle] at among
      split at among
      · cases among
      · exact (emitJobEvent_about _ jobId event among).symm
      · cases among
    | resourceOpen answer => cases answer <;> cases among
    | resourceInvoke resourceId method answer =>
      simp only [provider, handle] at among
      repeat' split at among
      all_goals cases among
    | resourceClose resourceId =>
      simp only [provider, handle] at among
      split at among <;> cases among
    | _ => cases among

variable {record : Record Value}

theorem emitJobEvent_told {jobId : String} {after : ProviderState Value}
    (leaves : LeavesIn platform record jobId after) :
    ∃ event ∈ (emitJobEvent after jobId).2, event.jobId = jobId := by
  obtain ⟨_, _, job, found⟩ := leaves
  simp only [emitJobEvent, found]
  exact ⟨_, List.mem_singleton_self _, rfl⟩

theorem pollAndEmit_told {jobId : String} {job : ProviderJob Value}
    (found : record.state.jobs.lookup jobId = some job) (pending : Pending job) :
    ∃ event ∈ (pollAndEmit platform record.state jobId).2, event.jobId = jobId := by
  unfold pollAndEmit
  rcases @pollJob_leaves Value platform record jobId with same | ⟨after, same, leaves⟩
  · -- a job whose search has ended is settled by the poll
    exfalso
    have settled := congrArg Prod.snd same
    simp only [pollJob, found, pending.running, ne_eq, not_true_eq_false, if_false] at settled
    rcases ended : job.completion with _ | (_ | (_ | _) | _)
    all_goals simp [ended] at settled
    exact pending.ended ended
  · rw [same]
    exact emitJobEvent_told leaves

-- A request about a job whose search has ended broadcasts its event.
theorem asks_told {jobId : String} {job : ProviderJob Value}
    (found : record.state.jobs.lookup jobId = some job) (pending : Pending job)
    {input : Input Value} (asks : Asks jobId input) :
    ∃ event ∈ ((provider platform defaultMaxEvents maxMaxEvents).step record input).2.2,
      event.jobId = jobId := by
  cases input with
  | searchEnds id outcome => cases asks
  | request request =>
    cases request with
    | jobStatus id | jobResult id =>
      cases asks
      exact pollAndEmit_told found pending
    | jobCancel id =>
      cases asks
      rcases @cancelJob_leaves Value platform record jobId with
        ⟨err, same⟩ | same | ⟨after, same, leaves⟩
      · simp [cancelJob, found, pending.running] at same
      · simp [cancelJob, found, pending.running] at same
      · simp only [provider, handle, same]
        exact emitJobEvent_told leaves
    | _ => cases asks

-- Nothing else changes such a job as long as it is open.
theorem effect_pending {books after : Books Value} {left : Option String}
    (sound : Sound platform books) (effect : Effect platform books after left)
    (fresh : Function.Injective platform.newV4) {id : String} {job next : ProviderJob Value}
    (found : books.jobs.lookup id = some job) (pending : Pending job)
    (later : after.jobs.lookup id = some next) : next = job ∨ left = some id := by
  cases effect with
  | startJob resourceId message isOpen few =>
    have issued := (sound.jobs id job found).issued
    rw [lookup_insert_if, if_neg (issued.ne_next (jobName_injective fresh)), found] at later
    exact Or.inl (Option.some.inj later).symm
  | receive jobId old value there waits | vanish jobId old completion there waits =>
    rw [lookup_insert_if] at later
    split at later
    · rename_i same
      subst same
      obtain rfl := Option.some.inj (found.symm.trans there)
      exact absurd waits pending.ended
    · exact Or.inl (Option.some.inj (later.symm.trans found))
  | leave jobId old new there leaves | succeed jobId old new value data there leaves =>
    rw [lookup_insert_if] at later
    split at later
    · rename_i same
      exact Or.inr (by rw [same])
    · exact Or.inl (Option.some.inj (later.symm.trans found))
  | closeJob jobId old there =>
    rw [lookup_erase_if] at later
    split at later
    · cases later
    · exact Or.inl (Option.some.inj (later.symm.trans found))
  | closeResource resourceId isOpen =>
    obtain ⟨stays, _⟩ := (sweptJobs_lookup resourceId _ _ id next).mp later
    exact Or.inl (Option.some.inj (stays.symm.trans found))
  | clear => cases later
  | _ => exact Or.inl (Option.some.inj (later.symm.trans found))

theorem unasked_pending (fresh : Function.Injective platform.newV4)
    (sound : Sound platform record.books) {jobId : String} {job : ProviderJob Value}
    (found : record.state.jobs.lookup jobId = some job) (pending : Pending job)
    {input : Input Value} (unasked : ¬ Asks jobId input)
    (isOpen : jobId ∈ ((provider platform defaultMaxEvents maxMaxEvents).step record
      input).1.state.jobs) :
    ((provider platform defaultMaxEvents maxMaxEvents).step record input).1.state.jobs.lookup
      jobId = some job := by
  obtain ⟨next, later⟩ := lookup_of_mem isOpen
  obtain ⟨left, effect, broadcast⟩ :=
    @provider_effect Value platform defaultMaxEvents maxMaxEvents record input
  rcases effect_pending sound effect fresh found pending later with rfl | leaves
  · exact later
  · -- the event of a job that leaves is broadcast in a request about it
    subst leaves
    obtain ⟨last, _, events, _⟩ := broadcast
    have asks := @about_asks Value platform defaultMaxEvents maxMaxEvents record input
      (jobEvent jobId last) (by rw [events]; exact List.mem_singleton_self _)
    exact absurd asks unasked

/-! ## Streams in every state that is reached -/

structure StreamSound (platform : Platform Value) (books : Books Value) (id : String)
    (stream : ProviderEventStream (JobEvent Value)) : Prop where
  kind : stream.kind = searchEventKind
  isOpen : stream.closed = false
  issued : Issued (streamName platform) books.drawn id
  quiet : ∀ event ∈ stream.buffer, Quiet platform event.jobId books

structure Streaming (platform : Platform Value) (record : Record Value) : Prop where
  reached : Reached platform record
  streams : ∀ id stream, record.state.eventStreams.lookup id = some stream →
    StreamSound platform record.books id stream

theorem streaming_new : Streaming platform ({ state := {} } : Record Value) :=
  ⟨reached_new, fun _ _ found => by cases found⟩

variable {stream : ProviderEventStream (JobEvent Value)}

theorem push_buffer (kind : stream.kind = searchEventKind) (event : JobEvent Value) :
    pushEvent event stream = stream.push event := by
  unfold pushEvent
  rw [if_pos (by rw [kind]; exact beq_self_eq_true _)]

theorem push_mem {event other : JobEvent Value}
    (among : other ∈ (stream.push event).buffer) : other ∈ stream.buffer ∨ other = event := by
  unfold ProviderEventStream.push at among
  repeat' split at among
  · exact Or.inl among
  · rcases List.mem_append.mp among with old | new
    · exact Or.inl (List.mem_of_mem_drop old)
    · exact Or.inr (List.mem_singleton.mp new)
  · rcases List.mem_append.mp among with old | new
    · exact Or.inl old
    · exact Or.inr (List.mem_singleton.mp new)

theorem push_keeps (stream : ProviderEventStream (JobEvent Value)) (event : JobEvent Value) :
    (stream.push event).kind = stream.kind ∧ (stream.push event).closed = stream.closed := by
  unfold ProviderEventStream.push
  repeat' split
  all_goals exact ⟨rfl, rfl⟩

section Steps

variable (fresh : Function.Injective platform.newV4)
include fresh

-- A step after which a stream of before is what it was.
theorem streamSound_later (sound : Sound platform record.books)
    {after : Books Value} {left : Option String} (effect : Effect platform record.books after left)
    {id : String} (streamSound : StreamSound platform record.books id stream) :
    StreamSound platform after id stream where
  kind := streamSound.kind
  isOpen := streamSound.isOpen
  issued := streamSound.issued.later (effect_drawn effect)
  quiet event among := effect_quiet sound effect fresh (Or.inl (streamSound.quiet event among))

theorem streaming_step (record : Record Value) (input : Input Value)
    (streaming : Streaming platform record) :
    Streaming platform ((provider platform defaultMaxEvents maxMaxEvents).step record input).1 := by
  refine ⟨reached_step fresh record input streaming.reached, ?_⟩
  intro id stream later
  obtain ⟨left, effect, broadcast⟩ :=
    @provider_effect Value platform defaultMaxEvents maxMaxEvents record input
  have sound := streaming.reached.sound
  have kept (old) (found : record.state.eventStreams.lookup id = some old) :=
    streamSound_later fresh sound effect (streaming.streams id old found)
  generalize told : ((provider platform defaultMaxEvents maxMaxEvents).step record input).2.2 =
    events at broadcast
  have streams := @provider_streamEffect Value platform defaultMaxEvents maxMaxEvents record input
  rw [told] at streams
  cases streams with
  | keep same =>
    rw [same] at later
    exact kept stream later
  | broadcast event same =>
    rw [same, lookup_mapValues] at later
    obtain ⟨old, found, pushed⟩ := Option.map_eq_some_iff.mp later
    have oldSound := kept old found
    rw [push_buffer oldSound.kind] at pushed
    subst pushed
    refine ⟨?_, ?_, oldSound.issued, ?_⟩
    · rw [(push_keeps old event).1]
      exact oldSound.kind
    · rw [(push_keeps old event).2]
      exact oldSound.isOpen
    · intro other among
      rcases push_mem among with before | rfl
      · exact oldSound.quiet other before
      · -- the event is that of the job that leaves
        cases left with
        | none => cases broadcast
        | some jobId =>
          obtain ⟨last, _, events, _⟩ := broadcast
          obtain rfl := (List.cons.inj events).1
          exact effect_quiet sound effect fresh (Or.inr rfl)
  | opened capacity drawn same =>
    rw [same, lookup_insert_if] at later
    split at later
    · rename_i here
      cases later
      refine ⟨rfl, rfl, ⟨record.state.drawn, ?_, here⟩, fun event among => by cases among⟩
      show record.state.drawn < (Record.books _).drawn
      simp only [Record.books]
      omega
    · exact kept stream later
  | read other most old asked found same =>
    rw [same, lookup_insert_if] at later
    split at later
    · rename_i here
      cases later
      rw [← here] at found
      have oldSound := kept old found
      exact ⟨oldSound.kind, oldSound.isOpen, oldSound.issued,
        fun event among => oldSound.quiet event (List.mem_of_mem_drop among)⟩
    · exact kept stream later
  | closed other same =>
    rw [same, lookup_erase_if] at later
    split at later
    · cases later
    · exact kept stream later
  | cleared same =>
    rw [same] at later
    cases later

theorem streaming_run (streaming : Streaming platform record) (inputs : List (Input Value)) :
    Streaming platform ((provider platform defaultMaxEvents maxMaxEvents).run record inputs).1 :=
  visited_invariant _ (Streaming platform) (streaming_step fresh) record inputs streaming _
    (run_mem_visited _ record inputs)

end Steps

/-! ## What a stream has been told -/

def readOf (streamId : String) :
    Input Value → Option (Answer Value) × List (JobEvent Value) → List (JobEvent Value)
  | .request (.eventRead id _), (some (.ok (.events result)), _) =>
    if id = streamId then result.events else []
  | _, _ => []

def deliveredBy (streamId : String) (inputs : List (Input Value))
    (outputs : List (Option (Answer Value) × List (JobEvent Value))) : List (JobEvent Value) :=
  (List.zipWith (readOf streamId) inputs outputs).flatten

/-- The event of the job is in the buffer of the stream after the run, or a read of the stream
has answered it. -/
def Told (platform : Platform Value) (defaultMaxEvents maxMaxEvents : Nat)
    (streamId jobId : String) (inputs : List (Input Value)) : Prop :=
  ∃ event : JobEvent Value, event.jobId = jobId ∧
    (event ∈ deliveredBy streamId inputs
        ((provider platform defaultMaxEvents maxMaxEvents).run { state := {} } inputs).2 ∨
      ∃ stream, ((provider platform defaultMaxEvents maxMaxEvents).run
          { state := {} } inputs).1.state.eventStreams.lookup streamId = some stream ∧
        event ∈ stream.buffer)

/-- A stream and a job are open when the search of the job ends and stay open, the stream is not
read, and it has room for one more event. -/
structure Watches (platform : Platform Value) (defaultMaxEvents maxMaxEvents : Nat)
    (streamId jobId : String) (before : List (Input Value)) (outcome : Option (Except String Value))
    (after : List (Input Value)) : Prop where
  waits : (awaiting ((provider platform defaultMaxEvents maxMaxEvents).run { state := {} }
    before).1.state jobId).isSome
  unread : ∀ most, .request (.eventRead streamId most) ∉ after
  jobOpen : ∀ later ∈ (provider platform defaultMaxEvents maxMaxEvents).visited
    ((provider platform defaultMaxEvents maxMaxEvents).run { state := {} }
      (before ++ [.searchEnds jobId outcome])).1 after, jobId ∈ later.state.jobs
  streamOpen : ∀ later ∈ (provider platform defaultMaxEvents maxMaxEvents).visited
    ((provider platform defaultMaxEvents maxMaxEvents).run { state := {} }
      (before ++ [.searchEnds jobId outcome])).1 after,
    ∃ stream, later.state.eventStreams.lookup streamId = some stream ∧
      stream.buffer.length < stream.capacity

section Runs

variable (fresh : Function.Injective platform.newV4)
include fresh

-- A stream that stays open unread, with room, collects what is broadcast.
theorem run_collects {streamId : String}
    (streaming : Streaming platform record) (inputs : List (Input Value))
    (unread : ∀ most, .request (.eventRead streamId most) ∉ inputs)
    (room : ∀ later ∈ (provider platform defaultMaxEvents maxMaxEvents).visited record inputs,
      ∃ stream, later.state.eventStreams.lookup streamId = some stream ∧
        stream.buffer.length < stream.capacity)
    (found : record.state.eventStreams.lookup streamId = some stream) :
    ∃ last, ((provider platform defaultMaxEvents maxMaxEvents).run record
        inputs).1.state.eventStreams.lookup streamId = some last ∧
      last.buffer = stream.buffer ++ ((provider platform defaultMaxEvents maxMaxEvents).run record
        inputs).2.flatMap Prod.snd := by
  induction inputs generalizing record stream with
  | nil => exact ⟨stream, found, (List.append_nil _).symm⟩
  | cons input rest ih =>
    have sound := streaming.streams streamId stream found
    obtain ⟨_, there, fits⟩ := room record (start_mem_visited _ _ _)
    obtain rfl := Option.some.inj (found.symm.trans there)
    obtain ⟨next, later, _⟩ := room _ (List.mem_cons_of_mem _ (start_mem_visited _ _ rest))
    have step : next.buffer = stream.buffer ++
        ((provider platform defaultMaxEvents maxMaxEvents).step record input).2.2 := by
      have streams :=
        @provider_streamEffect Value platform defaultMaxEvents maxMaxEvents record input
      generalize ((provider platform defaultMaxEvents maxMaxEvents).step record input).2.2 =
        events at streams
      have kept (same : some next = record.state.eventStreams.lookup streamId) :
          next.buffer = stream.buffer ++ [] := by
        rw [found] at same
        rw [Option.some.inj same, List.append_nil]
      cases streams with
      | keep same => exact kept (by rw [← later, same])
      | broadcast event same =>
        rw [same, lookup_mapValues, found, Option.map_some] at later
        rw [← Option.some.inj later, push_buffer sound.kind]
        simp [ProviderEventStream.push, sound.isOpen, Nat.not_le_of_lt fits]
      | opened capacity drawn same =>
        refine kept ?_
        rw [← later, same, lookup_insert_if]
        exact if_neg (sound.issued.ne_next (streamName_injective fresh))
      | read other most old asked _ same =>
        refine kept ?_
        rw [← later, same, lookup_insert_if, if_neg]
        rintro rfl
        exact unread most (by rw [asked]; exact List.mem_cons_self)
      | closed other same =>
        refine kept ?_
        rw [same, lookup_erase_if] at later
        split at later
        · cases later
        · exact later.symm
      | cleared same =>
        rw [same] at later
        cases later
    obtain ⟨last, atEnd, buffer⟩ := ih (streaming_step fresh record input streaming)
      (fun most among => unread most (List.mem_cons_of_mem _ among))
      (fun record visited => room record (List.mem_cons_of_mem _ visited)) later
    refine ⟨last, atEnd, ?_⟩
    rw [buffer, step, List.append_assoc]
    rfl

-- The event of a job whose search has ended is broadcast exactly in runs that ask about it.
theorem run_tells_iff {jobId : String} (reached : Reached platform record)
    {job : ProviderJob Value} (found : record.state.jobs.lookup jobId = some job)
    (pending : Pending job) (inputs : List (Input Value))
    (isOpen : ∀ later ∈ (provider platform defaultMaxEvents maxMaxEvents).visited record inputs,
      jobId ∈ later.state.jobs) :
    (∃ event ∈ ((provider platform defaultMaxEvents maxMaxEvents).run record
        inputs).2.flatMap Prod.snd, event.jobId = jobId) ↔ ∃ input ∈ inputs, Asks jobId input := by
  induction inputs generalizing record with
  | nil => simp [Machine.run]
  | cons input rest ih =>
    by_cases asks : Asks jobId input
    · refine iff_of_true ?_ ⟨input, List.mem_cons_self, asks⟩
      obtain ⟨event, among, about⟩ :=
        @asks_told Value platform defaultMaxEvents maxMaxEvents record jobId job found pending
          input asks
      exact ⟨event, List.mem_append_left _ among, about⟩
    · have openNext := isOpen _ (List.mem_cons_of_mem _ (start_mem_visited _ _ rest))
      have further := ih (reached_step fresh record input reached)
        (unasked_pending fresh reached.sound found pending asks openNext)
        fun later visited => isOpen later (List.mem_cons_of_mem _ visited)
      constructor
      · rintro ⟨event, among, about⟩
        rcases List.mem_append.mp among with now | later
        · rw [← about] at asks
          exact absurd (about_asks record input event now) asks
        · obtain ⟨other, inRest, asked⟩ := further.mp ⟨event, later, about⟩
          exact ⟨other, List.mem_cons_of_mem _ inRest, asked⟩
      · rintro ⟨other, among, asked⟩
        rcases List.mem_cons.mp among with rfl | inRest
        · exact absurd asked asks
        · obtain ⟨event, later, about⟩ := further.mpr ⟨other, inRest, asked⟩
          exact ⟨event, List.mem_append_right _ later, about⟩

theorem quiet_later (reached : Reached platform record) {id : String}
    (quiet : Quiet platform id record.books) (inputs : List (Input Value)) :
    Quiet platform id ((provider platform defaultMaxEvents maxMaxEvents).run record
      inputs).1.books := by
  refine (visited_invariant _
    (fun record => Reached platform record ∧ Quiet platform id record.books) ?_ record inputs
    ⟨reached, quiet⟩ _ (run_mem_visited _ record inputs)).2
  intro record input ⟨reached, quiet⟩
  obtain ⟨left, effect, _⟩ :=
    @provider_effect Value platform defaultMaxEvents maxMaxEvents record input
  exact ⟨reached_step fresh record input reached, effect_quiet reached.sound effect fresh (.inl quiet)⟩

omit fresh in
theorem read_answers {id : String} {most : Nat}
    {result : EventReadResult (JobEvent Value)} {told : List (JobEvent Value)}
    (answered : ((provider platform defaultMaxEvents maxMaxEvents).step record
      (.request (.eventRead id most))).2 = (some (.ok (.events result)), told))
    {event : JobEvent Value} (among : event ∈ result.events) :
    ∃ stream, record.state.eventStreams.lookup id = some stream ∧ event ∈ stream.buffer := by
  simp only [provider, handle, readEventStream] at answered
  cases found : record.state.eventStreams.lookup id with
  | none =>
    simp only [found, Prod.mk.injEq, Option.some.injEq, Except.ok.injEq, Reply.events.injEq]
      at answered
    rw [← answered.1] at among
    cases among
  | some stream =>
    simp only [found, Prod.mk.injEq, Option.some.injEq, Except.ok.injEq, Reply.events.injEq]
      at answered
    rw [← answered.1] at among
    exact ⟨stream, rfl, List.mem_of_mem_take among⟩

-- What a read has answered is about a job that does not run.
theorem delivered_quiet (streaming : Streaming platform record)
    (streamId : String) (inputs : List (Input Value)) (event : JobEvent Value)
    (delivered : event ∈ deliveredBy streamId inputs
      ((provider platform defaultMaxEvents maxMaxEvents).run record inputs).2) :
    Quiet platform event.jobId ((provider platform defaultMaxEvents maxMaxEvents).run record
      inputs).1.books := by
  induction inputs generalizing record with
  | nil => cases delivered
  | cons input rest ih =>
    have next := @streaming_step Value platform defaultMaxEvents maxMaxEvents fresh record input
      streaming
    rcases List.mem_append.mp delivered with now | later
    · unfold readOf at now
      split at now
      · rename_i id most result told answered
        split at now
        · obtain ⟨stream, found, buffered⟩ := read_answers answered now
          exact quiet_later fresh streaming.reached
            ((streaming.streams _ stream found).quiet event buffered) (_ :: rest)
        · cases now
      · cases now
    · exact ih next later

omit fresh in
theorem deliveredBy_unread {streamId : String} {inputs : List (Input Value)}
    (unread : ∀ most, .request (.eventRead streamId most) ∉ inputs)
    (outputs : List (Option (Answer Value) × List (JobEvent Value))) :
    deliveredBy streamId inputs outputs = [] := by
  induction inputs generalizing outputs with
  | nil => rfl
  | cons input rest ih =>
    cases outputs with
    | nil => rfl
    | cons output others =>
      have tail := ih (fun most among => unread most (List.mem_cons_of_mem _ among)) others
      have now : readOf streamId input output = [] := by
        unfold readOf
        split
        · rename_i id most result told
          refine if_neg ?_
          rintro rfl
          exact unread most List.mem_cons_self
        · rfl
      simp only [deliveredBy, List.zipWith_cons_cons, List.flatten_cons, now] at tail ⊢
      exact tail

omit fresh in
-- The end of a search leaves its job running, with an outcome that nobody has looked at.
theorem searchEnds_pending (sound : Sound platform record.books)
    {jobId : String} (waits : (awaiting record.state jobId).isSome)
    (outcome : Option (Except String Value)) :
    ∃ job, ((provider platform defaultMaxEvents maxMaxEvents).step record
        (.searchEnds jobId outcome)).1.state.jobs.lookup jobId = some job ∧ Pending job := by
  obtain ⟨job, waiting⟩ := Option.isSome_iff_exists.mp waits
  obtain ⟨found, idle⟩ := awaiting_eq_some waiting
  have running : job.state = .running := (sound.jobs jobId job found).idle (by simp [idle])
  simp only [provider, searchEnds, waiting]
  refine ⟨_, AList.lookup_insert _, running, ?_⟩
  cases outcome <;> simp

/-- An event reader learns of the end of a search exactly if a request about the job was answered
between the end and the read. -/
theorem completion_told_iff {streamId jobId : String} {before after : List (Input Value)}
    {outcome : Option (Except String Value)}
    (watches : Watches platform defaultMaxEvents maxMaxEvents streamId jobId before outcome after) :
    Told platform defaultMaxEvents maxMaxEvents streamId jobId
        (before ++ .searchEnds jobId outcome :: after) ↔ ∃ input ∈ after, Asks jobId input := by
  let machine := provider platform defaultMaxEvents maxMaxEvents
  let start := (machine.run { state := {} } before).1
  let ended := (machine.step start (.searchEnds jobId outcome)).1
  have split : machine.run { state := {} } (before ++ .searchEnds jobId outcome :: after) =
      ((machine.run ended after).1, (machine.run { state := {} } before).2 ++
        (none, []) :: (machine.run ended after).2) := run_append machine _ before _
  have here : (machine.run { state := {} } (before ++ [.searchEnds jobId outcome])).1 = ended :=
    congrArg Prod.fst (run_append machine _ before _)
  have streaming : Streaming platform start := streaming_run fresh streaming_new before
  have streamingEnded : Streaming platform ended := streaming_step fresh start _ streaming
  obtain ⟨job, found, pending⟩ : ∃ job, ended.state.jobs.lookup jobId = some job ∧ Pending job :=
    searchEnds_pending streaming.reached.sound watches.waits outcome
  have notQuiet : ¬ Quiet platform jobId ended.books :=
    fun quiet => quiet.2 job found pending.running
  have jobOpen := watches.jobOpen
  have streamOpen := watches.streamOpen
  rw [here] at jobOpen streamOpen
  obtain ⟨stream, there, _⟩ := streamOpen ended (start_mem_visited _ _ _)
  obtain ⟨last, atEnd, buffer⟩ :=
    run_collects fresh streamingEnded after watches.unread streamOpen there
  rw [← run_tells_iff fresh streamingEnded.reached found pending after jobOpen]
  unfold Told
  constructor
  · rintro ⟨event, rfl, delivered | ⟨held, lookup, buffered⟩⟩
    · -- what was read was read before the search ended
      change event ∈ deliveredBy streamId _ (machine.run { state := {} } _).2 at delivered
      rw [split, deliveredBy, List.zipWith_append (run_length machine _ before).symm,
        List.flatten_append, List.zipWith_cons_cons, List.flatten_cons] at delivered
      rcases List.mem_append.mp delivered with old | new
      · have quiet := delivered_quiet fresh streaming_new streamId before event old
        have later : Quiet platform event.jobId ended.books :=
          @quiet_later Value platform defaultMaxEvents maxMaxEvents start fresh streaming.reached _
            quiet [.searchEnds event.jobId outcome]
        exact absurd later notQuiet
      · rcases List.mem_append.mp new with none | after
        · cases none
        · rw [← deliveredBy, deliveredBy_unread watches.unread] at after
          cases after
    · change (machine.run { state := {} } _).1.state.eventStreams.lookup streamId = _ at lookup
      rw [split] at lookup
      obtain rfl := Option.some.inj (lookup.symm.trans atEnd)
      rw [buffer] at buffered
      rcases List.mem_append.mp buffered with old | new
      · exact absurd ((streamingEnded.streams _ stream there).quiet event old) notQuiet
      · exact ⟨event, new, rfl⟩
  · rintro ⟨event, among, about⟩
    refine ⟨event, about, Or.inr ⟨last, ?_, ?_⟩⟩
    · change (machine.run { state := {} } _).1.state.eventStreams.lookup streamId = _
      rw [split]
      exact atEnd
    · rw [buffer]
      exact List.mem_append_right _ among

end Runs

def watchedSearch : List (Input (List UInt8)) :=
  [.request (.resourceOpen (.ok ())), .request (.eventOpen searchEventKind false none),
    .request (.jobStart (some "") "elasticsearch/search/async" [])]

theorem watchedSearch_watches (after : List (Input (List UInt8)))
    (short : after = [] ∨ after = [.request (.jobStatus "es-job-uu")]) :
    Watches bytesPlatform 8 8 "es-stream-u" "es-job-uu" watchedSearch (some (.ok [1])) after where
  waits := by decide +kernel
  unread := by rcases short with rfl | rfl <;> simp
  jobOpen := by
    rcases short with rfl | rfl
    · exact List.forall_mem_singleton.mpr (by decide +kernel)
    · exact List.forall_mem_cons.mpr ⟨by decide +kernel,
        List.forall_mem_singleton.mpr (by decide +kernel)⟩
  streamOpen := by
    rcases short with rfl | rfl
    · exact List.forall_mem_singleton.mpr ⟨_, rfl, by decide +kernel⟩
    · exact List.forall_mem_cons.mpr ⟨⟨_, rfl, by decide +kernel⟩,
        List.forall_mem_singleton.mpr ⟨_, rfl, by decide +kernel⟩⟩

theorem watchedSearch_told :
    Told bytesPlatform 8 8 "es-stream-u" "es-job-uu"
      (watchedSearch ++ [.searchEnds "es-job-uu" (some (.ok [1])),
        .request (.jobStatus "es-job-uu")]) :=
  (completion_told_iff bytesPlatform_fresh (watchedSearch_watches _ (.inr rfl))).mpr
    ⟨_, List.mem_singleton_self _, rfl⟩

/-- Without such a request the reader is told nothing. -/
theorem completion_not_told :
    Watches bytesPlatform 8 8 "es-stream-u" "es-job-uu" watchedSearch (some (.ok [1])) [] ∧
      ¬ Told bytesPlatform 8 8 "es-stream-u" "es-job-uu"
        (watchedSearch ++ [.searchEnds "es-job-uu" (some (.ok [1]))]) := by
  refine ⟨watchedSearch_watches [] (.inl rfl), ?_⟩
  rintro ⟨event, _, delivered | ⟨stream, found, buffered⟩⟩
  · cases delivered
  · obtain rfl := Option.some.inj found
    cases buffered

end Onetcli.Elasticsearch
