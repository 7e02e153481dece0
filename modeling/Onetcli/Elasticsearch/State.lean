import Onetcli.EventQueues
import Onetcli.Lib.Weights

/-!
The state of the Elasticsearch provider (src/state of extensions/composite/elasticsearch) and
its requests (src/server). Requests are answered one at a time; between two of them the task of
a search may send its outcome or go away. The answers of the service, the encoder of JSON and the
source of UUIDs are parameters.
-/

namespace Onetcli.Elasticsearch

open Tables Runs

inductive ErrorCode where
  | methodNotFound
  | invalidParams
  | resourceBusy
  | resourceClosed
  | requestCancelled
  | internalError
  | dataValueOutOfRange
  | service
  deriving DecidableEq

structure ProtocolError where
  code : ErrorCode
  message : String
  deriving DecidableEq

def resourceError : ProtocolError := ⟨.resourceClosed, "Elasticsearch resource is not open"⟩

def jobUnknown : ProtocolError := ⟨.resourceClosed, "job is closed or unknown"⟩

/-- What the provider takes from outside: the UUIDs in the order in which they are drawn, the
constructors and the encoder of `serde_json`, and the rule of the protocol for results that are
streamed. `searchBody` is the error of `search_body` on the parameters of a job. -/
structure Platform (Value : Type) where
  newV4 : Nat → String
  raw : Value → Value
  indices : Value → Value
  toVec : Value → Except String (List UInt8)
  shouldStreamBlob : Nat → Bool
  searchBody : Value → Option ProtocolError

def normalizeSearch {Value : Type} (platform : Platform Value) (value : Value) : Value :=
  platform.raw value

def normalizeResult {Value : Type} (platform : Platform Value) (method : String) (value : Value) :
    Value :=
  if method = "elasticsearch/index/list" then platform.indices value
  else if method = "elasticsearch/search" then normalizeSearch platform value
  else value

inductive JobState where
  | running
  | succeeded
  | failed
  | cancelled
  deriving DecidableEq

inductive ResultRef (Value : Type) where
  | inline (value : Value)
  | blob (id : String)

/-- The channel of a search: nothing yet, the outcome, or no sender any more. -/
inductive Completion (Value : Type) where
  | waiting
  | sent (outcome : Except String Value)
  | disconnected

structure ProviderBlob where
  resourceId : String
  data : List UInt8
  offset : Nat := 0

/-- The other channel of a job only tells its search to stop. -/
structure ProviderJob (Value : Type) where
  resourceId : String
  state : JobState := .running
  progressPercent : Option Nat := none
  message : Option String
  result : Option (ResultRef Value) := none
  completion : Option (Completion Value)

structure JobEvent (Value : Type) where
  jobId : String
  state : JobState
  progressPercent : Option Nat
  message : Option String
  result : Option (ResultRef Value)

/-- The clients of the resources are opaque; `drawn` counts the UUIDs. -/
structure ProviderState (Value : Type) where
  resources : Table String Unit := ∅
  blobs : Table String ProviderBlob := ∅
  jobs : Table String (ProviderJob Value) := ∅
  eventStreams : Table String (ProviderEventStream (JobEvent Value)) := ∅
  drawn : Nat := 0

def maxTotalBlobBytes : Nat := 32 * 1024 * 1024

def maxJobs : Nat := 64

def maxEventStreams : Nat := 64

def searchEventKind : String := "elasticsearch/search/events"

section State

variable {Value : Type} (platform : Platform Value) (state : ProviderState Value)

/-! ## Blobs -/

def totalBlobBytes : Nat := weight (fun blob : ProviderBlob => blob.data.length) state.blobs

def blobName (n : Nat) : String := "es-blob-" ++ platform.newV4 n

def storeBlob (resourceId : String) (data : List UInt8) : ProviderState Value × Option String :=
  if maxTotalBlobBytes < data.length ∨ maxTotalBlobBytes < totalBlobBytes state + data.length then
    (state, none)
  else
    ({ state with
      drawn := state.drawn + 1
      blobs := state.blobs.insert (blobName platform state.drawn) { resourceId, data } },
      some (blobName platform state.drawn))

def blobResult (resourceId : String) (value : Value) :
    ProviderState Value × Except ProtocolError (ResultRef Value) :=
  match platform.toVec value with
  | .error err => (state, .error ⟨.invalidParams, "failed to encode result: " ++ err⟩)
  | .ok data =>
    if !platform.shouldStreamBlob data.length then (state, .ok (.inline value)) else
      match storeBlob platform state resourceId data with
      | (state, some blobId) => (state, .ok (.blob blobId))
      | (state, none) =>
        (state, .error ⟨.dataValueOutOfRange,
          "Elasticsearch result exceeds the provider blob budget"⟩)

def readBlob (blobId : String) (maxBytes : Nat) :
    ProviderState Value × Except ProtocolError (List UInt8 × Bool) :=
  match state.blobs.lookup blobId with
  | none => (state, .error ⟨.resourceClosed, "blob is closed or unknown"⟩)
  | some blob =>
    let start := min blob.offset blob.data.length
    let stop := min (start + maxBytes) blob.data.length
    ({ state with blobs := state.blobs.insert blobId { blob with offset := stop } },
      .ok ((blob.data.drop start).take (stop - start),
        stop == blob.data.length && decide (0 < stop - start)))

def closeBlob (blobId : String) : ProviderState Value :=
  { state with blobs := state.blobs.erase blobId }

/-- `retain`: what stays does not depend on the order. -/
def closeBlobsForResource (resourceId : String) : ProviderState Value :=
  { state with
    blobs := (sweep (fun blob => blob.resourceId == resourceId) (fun _ _ acc => acc)
      state.blobs.keys state.blobs ()).1 }

/-! ## Events -/

def pushEvent (event : JobEvent Value) (stream : ProviderEventStream (JobEvent Value)) :
    ProviderEventStream (JobEvent Value) :=
  if stream.kind == searchEventKind then stream.push event else stream

def broadcastEvent (event : JobEvent Value) : ProviderState Value :=
  { state with eventStreams := mapValues (pushEvent event) state.eventStreams }

def jobEvent (jobId : String) (job : ProviderJob Value) : JobEvent Value :=
  { jobId, state := job.state, progressPercent := job.progressPercent, message := job.message,
    result := job.result }

def emitJobEvent (jobId : String) : ProviderState Value × List (JobEvent Value) :=
  match state.jobs.lookup jobId with
  | none => (state, [])
  | some job => (broadcastEvent state (jobEvent jobId job), [jobEvent jobId job])

def openEventStream (defaultMaxEvents maxMaxEvents : Nat) (kind : String) (connGiven : Bool)
    (capacity : Option Nat) : ProviderState Value × Except ProtocolError String :=
  if kind ≠ searchEventKind then
    (state, .error ⟨.methodNotFound, "unknown Elasticsearch event stream `" ++ kind ++ "`"⟩)
  else if connGiven then
    (state, .error ⟨.invalidParams, "Elasticsearch event streams are provider-global"⟩)
  else if state.resources.entries.isEmpty then (state, .error resourceError)
  else if maxEventStreams ≤ state.eventStreams.entries.length then
    (state, .error ⟨.resourceBusy, "Elasticsearch event stream limit reached"⟩)
  else
    let streamId := "es-stream-" ++ platform.newV4 state.drawn
    ({ state with
      drawn := state.drawn + 1
      eventStreams := state.eventStreams.insert streamId
        { kind, capacity := eventCapacity defaultMaxEvents maxMaxEvents capacity } },
      .ok streamId)

def readEventStream (streamId : String) (maxEvents : Nat) :
    ProviderState Value × EventReadResult (JobEvent Value) :=
  match state.eventStreams.lookup streamId with
  | none => (state, { events := [], closed := true, droppedCount := 0 })
  | some stream =>
    let (stream, result) := stream.read maxEvents
    ({ state with eventStreams := state.eventStreams.insert streamId stream }, result)

def closeEventStream (streamId : String) : ProviderState Value :=
  { state with eventStreams := state.eventStreams.erase streamId }

/-! ## Jobs -/

def setJob (jobId : String) (job : ProviderJob Value) : ProviderState Value :=
  { state with jobs := state.jobs.insert jobId job }

def jobName (n : Nat) : String := "es-job-" ++ platform.newV4 n

def startJob (resourceId : Option String) (method : String) (params : Value) :
    ProviderState Value × Except ProtocolError String :=
  match resourceId with
  | none => (state, .error resourceError)
  | some resourceId =>
    if resourceId ∉ state.resources then (state, .error resourceError)
    else if method ≠ "elasticsearch/search/async" then
      (state, .error ⟨.methodNotFound, "unknown Elasticsearch job method `" ++ method ++ "`"⟩)
    else if maxJobs ≤ state.jobs.entries.length then
      (state, .error ⟨.resourceBusy, "Elasticsearch job limit reached"⟩)
    else
      match platform.searchBody params with
      | some err => (state, .error err)
      | none =>
        (setJob { state with drawn := state.drawn + 1 } (jobName platform state.drawn)
          { resourceId, message := some "search running", completion := some .waiting },
          .ok (jobName platform state.drawn))

def failedJob (job : ProviderJob Value) (message : String) : ProviderJob Value :=
  { job with state := .failed, progressPercent := none, message := some message, result := none }

def succeededJob (job : ProviderJob Value) (result : ResultRef Value) : ProviderJob Value :=
  { job with state := .succeeded, progressPercent := some 100,
             message := some "search completed", result := some result }

/-- `complete_job` on a job whose channel was taken. -/
def completeJob (jobId : String) (job : ProviderJob Value) (value : Value) : ProviderState Value :=
  let value := normalizeSearch platform value
  match platform.toVec value with
  | .error err =>
    setJob state jobId { job with state := .failed, message := some err, result := none }
  | .ok data =>
    if platform.shouldStreamBlob data.length then
      match storeBlob platform state job.resourceId data with
      | (state, some blobId) => setJob state jobId (succeededJob job (.blob blobId))
      | (state, none) =>
        setJob state jobId
          (failedJob job "Elasticsearch job result exceeds the provider blob budget")
    else setJob state jobId (succeededJob job (.inline value))

def pollJob (jobId : String) : ProviderState Value × Bool :=
  match state.jobs.lookup jobId with
  | none => (state, false)
  | some job =>
    if job.state ≠ .running then (state, false) else
      match job.completion with
      | none =>
        (setJob state jobId { job with
          state := .failed, message := some "search worker is unavailable" }, true)
      | some .waiting => (state, false)
      | some (.sent (.ok value)) =>
        (completeJob platform state jobId { job with completion := none } value, true)
      | some (.sent (.error message)) =>
        (setJob state jobId (failedJob { job with completion := none } message), true)
      | some .disconnected =>
        (setJob state jobId
          (failedJob { job with completion := none } "search worker terminated"), true)

def jobStatus (jobId : String) :
    Except ProtocolError (JobState × Option Nat × Option String) :=
  match state.jobs.lookup jobId with
  | none => .error jobUnknown
  | some job => .ok (job.state, job.progressPercent, job.message)

def cancelJob (jobId : String) : ProviderState Value × Except ProtocolError Bool :=
  match state.jobs.lookup jobId with
  | none => (state, .error jobUnknown)
  | some job =>
    if job.state = .running then
      (setJob state jobId { job with
        state := .cancelled, progressPercent := none, message := some "search cancelled",
        result := none, completion := none }, .ok true)
    else (state, .ok false)

def jobResult (jobId : String) : Except ProtocolError (ResultRef Value) :=
  match state.jobs.lookup jobId with
  | none => .error jobUnknown
  | some job =>
    match job.state with
    | .running => .error ⟨.resourceBusy, "job result is not ready"⟩
    | .cancelled => .error ⟨.requestCancelled, "job was cancelled"⟩
    | .failed => .error ⟨.internalError, "job failed with state `Failed`"⟩
    | .succeeded =>
      match job.result with
      | some result => .ok result
      | none => .error ⟨.internalError, "job result is unavailable"⟩

def freeResult (job : ProviderJob Value) (blobs : Table String ProviderBlob) :
    Table String ProviderBlob :=
  match job.result with
  | some (.blob id) => blobs.erase id
  | _ => blobs

def closeJob (jobId : String) : ProviderState Value :=
  match state.jobs.lookup jobId with
  | none => state
  | some job =>
    { state with jobs := state.jobs.erase jobId, blobs := freeResult job state.blobs }

def closeJobsForResource (resourceId : String) : ProviderState Value :=
  let swept := sweep (fun job => job.resourceId == resourceId) (fun _ job blobs => freeResult job blobs)
    state.jobs.keys state.jobs state.blobs
  { state with jobs := swept.1, blobs := swept.2 }

/-! ## Resources -/

/-- The loop of `insert_resource`: one of as many UUIDs as there are resources, and one more, is
free unless they repeat. -/
def freeCandidate (resources : Table String Unit) : Nat → Nat → Nat
  | 0, drawn => drawn
  | tries + 1, drawn =>
    if platform.newV4 drawn ∈ resources then freeCandidate resources tries (drawn + 1) else drawn

def insertResource : ProviderState Value × String :=
  let drawn := freeCandidate platform state.resources state.resources.entries.length state.drawn
  ({ state with
    drawn := drawn + 1
    resources := state.resources.insert (platform.newV4 drawn) () }, platform.newV4 drawn)

def closeResource (resourceId : String) : ProviderState Value × Bool :=
  if resourceId ∉ state.resources then (state, false) else
    let state := { state with resources := state.resources.erase resourceId }
    (closeBlobsForResource (closeJobsForResource state resourceId) resourceId, true)

def clear : ProviderState Value :=
  { state with resources := ∅, blobs := ∅, jobs := ∅, eventStreams := ∅ }

/-! ## Requests -/

/-- The requests with their parameters as the handlers use them; `answer` is what the service
answers to the provider while it handles the request. `other` stands for requests that touch no
table: `init`, `resource/ping`, unknown methods and parameters that cannot be read. -/
inductive Request (Value : Type) where
  | resourceOpen (answer : Except ProtocolError Unit)
  | resourceInvoke (resourceId method : String) (answer : Except ProtocolError Value)
  | resourceClose (resourceId : String)
  | blobRead (blobId : String) (maxBytes : Nat)
  | blobClose (blobId : String)
  | jobStart (resourceId : Option String) (method : String) (params : Value)
  | jobStatus (jobId : String)
  | jobCancel (jobId : String)
  | jobResult (jobId : String)
  | jobClose (jobId : String)
  | eventOpen (kind : String) (connGiven : Bool) (capacity : Option Nat)
  | eventRead (streamId : String) (maxEvents : Nat)
  | eventClose (streamId : String)
  | shutdown
  | other (answer : Except ProtocolError Unit)

inductive Reply (Value : Type) where
  | null
  | opened (id : String)
  | result (result : ResultRef Value)
  | status (state : JobState) (progressPercent : Option Nat) (message : Option String)
  | bytes (data : List UInt8) (done : Bool)
  | events (result : EventReadResult (JobEvent Value))

abbrev Answer (Value : Type) := Except ProtocolError (Reply Value)

/-- `status` and `result` poll the job first. -/
def pollAndEmit (jobId : String) : ProviderState Value × List (JobEvent Value) :=
  match pollJob platform state jobId with
  | (state, true) => emitJobEvent state jobId
  | (state, false) => (state, [])

def handle (defaultMaxEvents maxMaxEvents : Nat) :
    Request Value → ProviderState Value × Answer Value × List (JobEvent Value)
  | .resourceOpen (.error err) => (state, .error err, [])
  | .resourceOpen (.ok ()) =>
    let (state, resourceId) := insertResource platform state
    (state, .ok (.opened resourceId), [])
  | .resourceInvoke resourceId method answer =>
    if resourceId ∉ state.resources then (state, .error resourceError, []) else
      match answer with
      | .error err => (state, .error err, [])
      | .ok value =>
        let (state, result) :=
          blobResult platform state resourceId (normalizeResult platform method value)
        (state, result.map .result, [])
  | .resourceClose resourceId =>
    match closeResource state resourceId with
    | (state, true) => (state, .ok .null, [])
    | (state, false) => (state, .error resourceError, [])
  | .blobRead blobId maxBytes =>
    let (state, result) := readBlob state blobId maxBytes
    (state, result.map fun read => .bytes read.1 read.2, [])
  | .blobClose blobId => (closeBlob state blobId, .ok .null, [])
  | .jobStart resourceId method params =>
    let (state, result) := startJob platform state resourceId method params
    (state, result.map .opened, [])
  | .jobStatus jobId =>
    let (state, events) := pollAndEmit platform state jobId
    (state, (jobStatus state jobId).map fun status => .status status.1 status.2.1 status.2.2,
      events)
  | .jobCancel jobId =>
    match cancelJob state jobId with
    | (state, .error err) => (state, .error err, [])
    | (state, .ok true) =>
      let (state, events) := emitJobEvent state jobId
      (state, .ok .null, events)
    | (state, .ok false) => (state, .ok .null, [])
  | .jobResult jobId =>
    let (state, events) := pollAndEmit platform state jobId
    (state, (jobResult state jobId).map .result, events)
  | .jobClose jobId => (closeJob state jobId, .ok .null, [])
  | .eventOpen kind connGiven capacity =>
    let (state, result) := openEventStream platform state defaultMaxEvents maxMaxEvents kind
      connGiven capacity
    (state, result.map .opened, [])
  | .eventRead streamId maxEvents =>
    let (state, result) := readEventStream state streamId maxEvents
    (state, .ok (.events result), [])
  | .eventClose streamId => (closeEventStream state streamId, .ok .null, [])
  | .shutdown => (clear state, .ok .null, [])
  | .other answer => (state, answer.map fun _ => .null, [])

def ProviderJob.waits {Value : Type} (job : ProviderJob Value) : Bool :=
  match job.completion with
  | some .waiting => true
  | _ => false

/-- The job whose search can still reach it. -/
def awaiting (jobId : String) : Option (ProviderJob Value) :=
  (state.jobs.lookup jobId).filter ProviderJob.waits

/-- The task of a search sends its outcome, or ends without one; nothing happens when the job no
longer waits for it. -/
def searchEnds (jobId : String) (outcome : Option (Except String Value)) : ProviderState Value :=
  match awaiting state jobId with
  | some job =>
    setJob state jobId { job with
      completion := some (match outcome with
        | some outcome => .sent outcome
        | none => .disconnected) }
  | none => state

end State

end Onetcli.Elasticsearch
