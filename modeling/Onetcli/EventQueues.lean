import Onetcli.ProtocolCalls
import Onetcli.Lib.Runs

/-!
The event queues of two drivers: the bounded channel of extensions/ipc/redis/src/main.rs, which
refuses new events when it is full, and the buffer of the Elasticsearch provider
(src/state/event.rs), which drops its oldest one. Both count what was lost; a read of the first
takes the count away, the second keeps it.
-/

namespace Onetcli

open Runs Protocol

structure EventReadResult (Event : Type) where
  events : List Event
  closed : Bool
  droppedCount : Nat

/-- `clamp(1, most)` on the capacity that `event/open` asks for. -/
def clampCapacity (default most : Nat) (requested : Option Nat) : Nat :=
  min (max (requested.getD default) 1) most

theorem clampCapacity_pos {default most : Nat} (positive : 0 < most) (requested : Option Nat) :
    0 < clampCapacity default most requested :=
  Nat.lt_min.mpr ⟨Nat.lt_of_lt_of_le Nat.zero_lt_one (Nat.le_max_right _ _), positive⟩

/-! ## Redis -/

namespace Redis

variable {Event : Type}

def eventCapacity (requested : Option Nat) : Nat := clampCapacity 128 1024 requested

structure RedisEvent (Event : Type) where
  events : List Event := []
  capacity : Nat
  dropped : Nat := 0
  closed : Bool := false

/-- The task hands a message to `try_send`; the counter is an `AtomicU64`. -/
def RedisEvent.arrive (event : RedisEvent Event) (message : Event) : RedisEvent Event :=
  if event.events.length < event.capacity then { event with events := event.events ++ [message] }
  else { event with dropped := (event.dropped + 1) % 2 ^ 64 }

/-- `read_event` without waiting. -/
def readEvent (event : RedisEvent Event) (maxEvents : Nat) :
    RedisEvent Event × EventReadResult Event :=
  ({ event with events := event.events.drop maxEvents, dropped := 0 },
    { events := event.events.take maxEvents, closed := event.closed, droppedCount := event.dropped })

end Redis

/-! ## Elasticsearch -/

namespace Elasticsearch

variable {Event : Type}

/-- The default and the greatest capacity are constants of the protocol. -/
def eventCapacity (defaultMaxEvents maxMaxEvents : Nat) (requested : Option Nat) : Nat :=
  clampCapacity defaultMaxEvents maxMaxEvents requested

structure ProviderEventStream (Event : Type) where
  kind : String
  buffer : List Event := []
  capacity : Nat
  droppedCount : Nat := 0
  closed : Bool := false

/-- `push_event` on a stream. -/
def ProviderEventStream.push (stream : ProviderEventStream Event) (event : Event) :
    ProviderEventStream Event :=
  if stream.closed then stream
  else if stream.capacity ≤ stream.buffer.length then
    { stream with
      buffer := stream.buffer.drop 1 ++ [event]
      droppedCount := saturatingSucc stream.droppedCount }
  else { stream with buffer := stream.buffer ++ [event] }

/-- `read_event_stream` on a stream. -/
def ProviderEventStream.read (stream : ProviderEventStream Event) (maxEvents : Nat) :
    ProviderEventStream Event × EventReadResult Event :=
  let count := min maxEvents stream.buffer.length
  ({ stream with buffer := stream.buffer.drop count },
    { events := stream.buffer.take count, closed := stream.closed,
      droppedCount := stream.droppedCount })

end Elasticsearch

/-! ## The same traffic on both -/

inductive Traffic (Event : Type) where
  | arrive (event : Event)
  | read (maxEvents : Nat)

namespace Traffic

variable {Event : Type}

def redisMachine : Machine (Redis.RedisEvent Event) (Traffic Event)
    (Option (EventReadResult Event)) where
  step event traffic :=
    match traffic with
    | .arrive message => (event.arrive message, none)
    | .read maxEvents =>
      let (event, result) := Redis.readEvent event maxEvents
      (event, some result)

def elasticMachine : Machine (Elasticsearch.ProviderEventStream Event) (Traffic Event)
    (Option (EventReadResult Event)) where
  step stream traffic :=
    match traffic with
    | .arrive event => (stream.push event, none)
    | .read maxEvents =>
      let (stream, result) := stream.read maxEvents
      (stream, some result)

def answers (outputs : List (Option (EventReadResult Event))) : List (EventReadResult Event) :=
  outputs.filterMap id

/-- How many events each read returns, from the length of the queue. -/
def eventCounts (capacity : Nat) : Nat → List (Traffic Event) → List Nat
  | _, [] => []
  | length, .arrive _ :: rest => eventCounts capacity (min (length + 1) capacity) rest
  | length, .read most :: rest => min most length :: eventCounts capacity (length - most) rest

/-- How many events were lost before each read, from the length of the queue and the number of
events lost so far. -/
def lostAtReads (capacity : Nat) : Nat → Nat → List (Traffic Event) → List Nat
  | _, _, [] => []
  | length, lost, .arrive _ :: rest =>
    lostAtReads capacity (min (length + 1) capacity)
      (if length < capacity then lost else lost + 1) rest
  | length, lost, .read most :: rest => lost :: lostAtReads capacity (length - most) lost rest

def arrivals (traffic : List (Traffic Event)) : Nat :=
  traffic.countP fun step => match step with
    | .arrive _ => true
    | .read _ => false

/-- How much each number exceeds the one before it. -/
def increases : Nat → List Nat → List Nat
  | _, [] => []
  | before, total :: rest => (total - before) :: increases total rest

theorem increases_eq_iff {before : Nat} {totals : List Nat}
    (sorted : (before :: totals).Pairwise (· ≤ ·)) : increases before totals = totals ↔
      (totals ≠ [] → before = 0) ∧ ∀ total ∈ totals.dropLast, total = 0 := by
  induction totals generalizing before with
  | nil => simp [increases]
  | cons total rest ih =>
    obtain ⟨above, sortedRest⟩ := List.pairwise_cons.mp sorted
    have atLeast := above total List.mem_cons_self
    rw [increases, List.cons.injEq, ih sortedRest]
    cases rest with
    | nil =>
      simp
      omega
    | cons next others =>
      simp only [ne_eq, reduceCtorEq, not_false_eq_true, forall_const, List.dropLast_cons_cons,
        List.mem_cons, forall_eq_or_imp]
      constructor
      · rintro ⟨same, zero, later⟩
        exact ⟨by omega, zero, later⟩
      · rintro ⟨none, zero, later⟩
        exact ⟨by omega, zero, later⟩

theorem lostAtReads_sorted (capacity length lost : Nat) (traffic : List (Traffic Event)) :
    (lost :: lostAtReads capacity length lost traffic).Pairwise (· ≤ ·) := by
  induction traffic generalizing length lost with
  | nil => exact List.pairwise_singleton _ _
  | cons step rest ih =>
    cases step with
    | arrive event =>
      obtain ⟨above, sorted⟩ := List.pairwise_cons.mp
        (ih (min (length + 1) capacity) (if length < capacity then lost else lost + 1))
      refine List.pairwise_cons.mpr ⟨fun total among => ?_, sorted⟩
      have later := above total among
      split at later <;> omega
    | read most =>
      have sorted := ih (length - most) lost
      refine List.pairwise_cons.mpr ⟨fun total among => ?_, sorted⟩
      rcases List.mem_cons.mp among with rfl | later
      · exact Nat.le_refl _
      · exact (List.pairwise_cons.mp sorted).1 total later

theorem answers_some (result : EventReadResult Event)
    (outputs : List (Option (EventReadResult Event))) :
    answers (some result :: outputs) = result :: answers outputs := rfl

section Redis

variable (event : Redis.RedisEvent Event)

theorem arrive_spec (message : Event) (fits : event.events.length ≤ event.capacity) :
    (event.arrive message).events.length = min (event.events.length + 1) event.capacity ∧
      (event.arrive message).capacity = event.capacity ∧ (event.arrive message).dropped =
        if event.events.length < event.capacity then event.dropped
        else (event.dropped + 1) % 2 ^ 64 := by
  unfold Redis.RedisEvent.arrive
  split
  · refine ⟨?_, rfl, rfl⟩
    rw [List.length_append, List.length_singleton]
    omega
  · refine ⟨?_, rfl, rfl⟩
    dsimp only
    omega

theorem redis_eventCounts (fits : event.events.length ≤ event.capacity)
    (traffic : List (Traffic Event)) :
    (answers (redisMachine.run event traffic).2).map (fun result => result.events.length) =
      eventCounts event.capacity event.events.length traffic := by
  induction traffic generalizing event with
  | nil => rfl
  | cons step rest ih =>
    cases step with
    | arrive message =>
      obtain ⟨length, capacity, _⟩ := arrive_spec event message fits
      have next := ih (event.arrive message) (by omega)
      rw [length, capacity] at next
      exact next
    | read most =>
      have next := ih (Redis.readEvent event most).1 (by simp [Redis.readEvent]; omega)
      simp only [Redis.readEvent, List.length_drop] at next
      simp only [Machine.run, redisMachine, Redis.readEvent, answers_some, List.map_cons,
        List.length_take, eventCounts]
      exact congrArg _ next

theorem redis_lost (fits : event.events.length ≤ event.capacity)
    (traffic : List (Traffic Event)) (before lost : Nat) (start : event.dropped = lost - before)
    (ordered : before ≤ lost) (bounded : lost + arrivals traffic < 2 ^ 64) :
    (answers (redisMachine.run event traffic).2).map EventReadResult.droppedCount =
      increases before (lostAtReads event.capacity event.events.length lost traffic) := by
  induction traffic generalizing event before lost with
  | nil => rfl
  | cons step rest ih =>
    cases step with
    | arrive message =>
      have more : arrivals (.arrive message :: rest) = arrivals rest + 1 := by
        simp [arrivals]
      obtain ⟨length, capacity, dropped⟩ := arrive_spec event message fits
      have next := ih (event.arrive message) (by omega) before
        (if event.events.length < event.capacity then lost else lost + 1)
        (by rw [dropped]; split <;> omega) (by split <;> omega) (by split <;> omega)
      rw [length, capacity] at next
      exact next
    | read most =>
      have same : arrivals (.read most :: rest) = arrivals rest := by simp [arrivals]
      have next := ih (Redis.readEvent event most).1 (by simp [Redis.readEvent]; omega) lost lost
        (by simp [Redis.readEvent]) (Nat.le_refl _) (by omega)
      simp only [Redis.readEvent, List.length_drop] at next
      simp only [Machine.run, redisMachine, Redis.readEvent, answers_some, List.map_cons,
        lostAtReads, increases, start]
      exact congrArg _ next

end Redis

section Elasticsearch

variable (stream : Elasticsearch.ProviderEventStream Event)

theorem push_spec (event : Event) (isOpen : stream.closed = false) (positive : 0 < stream.capacity)
    (fits : stream.buffer.length ≤ stream.capacity) :
    (stream.push event).buffer.length = min (stream.buffer.length + 1) stream.capacity ∧
      (stream.push event).capacity = stream.capacity ∧ (stream.push event).closed = false ∧
      (stream.push event).droppedCount =
        if stream.buffer.length < stream.capacity then stream.droppedCount
        else saturatingSucc stream.droppedCount := by
  unfold Elasticsearch.ProviderEventStream.push
  rw [isOpen, if_neg Bool.false_ne_true]
  by_cases full : stream.capacity ≤ stream.buffer.length
  · rw [if_pos full, if_neg (Nat.not_lt.mpr full)]
    refine ⟨?_, rfl, rfl, rfl⟩
    simp only [List.length_append, List.length_drop, List.length_singleton]
    omega
  · rw [if_neg full, if_pos (Nat.lt_of_not_le full)]
    refine ⟨?_, rfl, rfl, rfl⟩
    simp only [List.length_append, List.length_singleton]
    omega

theorem elastic_eventCounts (isOpen : stream.closed = false) (positive : 0 < stream.capacity)
    (fits : stream.buffer.length ≤ stream.capacity) (traffic : List (Traffic Event)) :
    (answers (elasticMachine.run stream traffic).2).map (fun result => result.events.length) =
      eventCounts stream.capacity stream.buffer.length traffic := by
  induction traffic generalizing stream with
  | nil => rfl
  | cons step rest ih =>
    cases step with
    | arrive event =>
      obtain ⟨length, capacity, stillOpen, _⟩ := push_spec stream event isOpen positive fits
      have next := ih (stream.push event) stillOpen (by omega) (by omega)
      rw [length, capacity] at next
      exact next
    | read most =>
      have next := ih (stream.read most).1 isOpen positive
        (by simp [Elasticsearch.ProviderEventStream.read]; omega)
      have left : stream.buffer.length - min most stream.buffer.length =
          stream.buffer.length - most := by omega
      simp only [Elasticsearch.ProviderEventStream.read, List.length_drop, left] at next
      simp only [Machine.run, elasticMachine, Elasticsearch.ProviderEventStream.read,
        answers_some, List.map_cons, List.length_take, eventCounts, Nat.min_assoc, Nat.min_self]
      exact congrArg _ next

theorem elastic_lost (isOpen : stream.closed = false) (positive : 0 < stream.capacity)
    (fits : stream.buffer.length ≤ stream.capacity) (traffic : List (Traffic Event))
    (bounded : stream.droppedCount + arrivals traffic < 2 ^ 64) :
    (answers (elasticMachine.run stream traffic).2).map EventReadResult.droppedCount =
      lostAtReads stream.capacity stream.buffer.length stream.droppedCount traffic := by
  induction traffic generalizing stream with
  | nil => rfl
  | cons step rest ih =>
    cases step with
    | arrive event =>
      have more : arrivals (.arrive event :: rest) = arrivals rest + 1 := by
        simp [arrivals]
      obtain ⟨length, capacity, stillOpen, dropped⟩ :=
        push_spec stream event isOpen positive fits
      have counted : saturatingSucc stream.droppedCount = stream.droppedCount + 1 :=
        Nat.min_eq_left (by omega)
      rw [counted] at dropped
      have next := ih (stream.push event) stillOpen (by omega) (by omega)
        (by rw [dropped]; split <;> omega)
      rw [length, capacity, dropped] at next
      exact next
    | read most =>
      have same : arrivals (.read most :: rest) = arrivals rest := by simp [arrivals]
      have next := ih (stream.read most).1 isOpen positive
        (by simp [Elasticsearch.ProviderEventStream.read]; omega)
        (by simp only [Elasticsearch.ProviderEventStream.read]; omega)
      have left : stream.buffer.length - min most stream.buffer.length =
          stream.buffer.length - most := by omega
      simp only [Elasticsearch.ProviderEventStream.read, List.length_drop, left] at next
      simp only [Machine.run, elasticMachine, Elasticsearch.ProviderEventStream.read,
        answers_some, List.map_cons, lostAtReads]
      exact congrArg _ next

end Elasticsearch

/-- Two queues of one capacity that see the same traffic: every read returns as many events from
both, and the counts agree exactly when no event is lost before a read that is not the last. -/
theorem dropped_counts_iff (requested : Option Nat) (defaultMax most : Nat) (kind : String)
    (positive : 0 < most)
    (same : Elasticsearch.eventCapacity defaultMax most requested = Redis.eventCapacity requested)
    (traffic : List (Traffic Event)) (bounded : arrivals traffic < 2 ^ 64) :
    let redis := answers (redisMachine.run
      { capacity := Redis.eventCapacity requested } traffic).2
    let elastic := answers (elasticMachine.run
      { kind, capacity := Elasticsearch.eventCapacity defaultMax most requested } traffic).2
    redis.map (fun result => result.events.length) =
        elastic.map (fun result => result.events.length) ∧
      (redis.map EventReadResult.droppedCount = elastic.map EventReadResult.droppedCount ↔
        ∀ total ∈ (lostAtReads (Redis.eventCapacity requested) 0 0 traffic).dropLast,
          total = 0) := by
  intro redis elastic
  have some : 0 < Redis.eventCapacity requested := clampCapacity_pos (by decide) requested
  have someToo : 0 < Elasticsearch.eventCapacity defaultMax most requested :=
    clampCapacity_pos positive requested
  constructor
  · rw [redis_eventCounts _ (Nat.zero_le _), elastic_eventCounts _ rfl someToo (Nat.zero_le _), same]
  · rw [redis_lost _ (Nat.zero_le _) traffic 0 0 rfl (Nat.le_refl 0) (by omega),
      elastic_lost _ rfl someToo (Nat.zero_le _) traffic (by simpa using bounded), same]
    refine (increases_eq_iff (lostAtReads_sorted _ _ _ _)).trans ?_
    simp

/-- The second read after an overflow: one driver has taken its count away, the other repeats
it. -/
theorem second_read_differs :
    let traffic : List (Traffic Nat) := [.arrive 1, .arrive 2, .read 1, .read 1]
    let redis := answers (redisMachine.run { capacity := Redis.eventCapacity (some 1) } traffic).2
    let elastic := answers (elasticMachine.run
      { kind := "elasticsearch/search/events",
        capacity := Elasticsearch.eventCapacity 100 1000 (some 1) } traffic).2
    redis.map EventReadResult.droppedCount = [1, 0] ∧
      elastic.map EventReadResult.droppedCount = [1, 1] := by
  decide +kernel

theorem first_read_agrees :
    let traffic : List (Traffic Nat) := [.arrive 1, .arrive 2, .read 1]
    let redis := answers (redisMachine.run { capacity := Redis.eventCapacity (some 1) } traffic).2
    let elastic := answers (elasticMachine.run
      { kind := "elasticsearch/search/events",
        capacity := Elasticsearch.eventCapacity 100 1000 (some 1) } traffic).2
    redis.map EventReadResult.droppedCount = elastic.map EventReadResult.droppedCount :=
  (dropped_counts_iff (some 1) 100 1000 "elasticsearch/search/events" (by decide) (by decide)
    [.arrive 1, .arrive 2, .read 1] (by decide +kernel)).2.mpr (by decide +kernel)

end Traffic

end Onetcli
