import Onetcli.EventQueues

/-!
Reads of a Redis event stream (`open_event`, `read_event` and `close_event` of
extensions/ipc/redis/src/main.rs) while the task of the subscription runs. A read waits for a first
event, takes more from the channel, takes the counter and looks whether the channel is closed;
messages arrive and the task ends at any point between these. The channel is closed as soon as the
task has ended, whatever is still queued in it.
-/

namespace Onetcli.Redis

open Runs

variable {Event : Type}

/-- How far the one read at a time has come. -/
inductive Reader (Event : Type) where
  | idle
  | waiting (maxEvents : Nat)
  | taking (values : List Event) (maxEvents : Nat)
  | taken (values : List Event)
  | counted (values : List Event) (droppedCount : Nat)

/-- `channel.closed` stands for the end of the task, which owns the only sender. -/
structure EventStream (Event : Type) where
  channel : RedisEvent Event
  isOpen : Bool := true
  reader : Reader Event := .idle

inductive EventInput (Event : Type) where
  | message (event : Event)
  | taskEnds
  | read (maxEvents : Nat) (waitMs : Option Nat)
  | wake
  | timeout
  | take
  | count
  | answer
  | close

abbrev EventAnswer (Event : Type) := Except String (EventReadResult Event)

def streamClosed : EventAnswer Event := .error "event stream is closed"

namespace EventStream

variable (stream : EventStream Event)

def withEvents (events : List Event) (reader : Reader Event) : EventStream Event :=
  { stream with channel := { stream.channel with events }, reader }

/-- `recv` answers at once when something is queued or nobody sends any more. -/
def wake : EventStream Event :=
  match stream.reader, stream.channel.events with
  | .waiting maxEvents, event :: rest => stream.withEvents rest (.taking [event] maxEvents)
  | .waiting maxEvents, [] =>
    if stream.channel.closed then stream.withEvents [] (.taking [] maxEvents) else stream
  | _, _ => stream

def timeout : EventStream Event :=
  match stream.reader with
  | .waiting maxEvents => { stream with reader := .taking [] maxEvents }
  | _ => stream

/-- One round of the loop over `try_recv`. -/
def take : EventStream Event :=
  match stream.reader, stream.channel.events with
  | .taking values maxEvents, event :: rest =>
    if values.length < maxEvents then
      stream.withEvents rest (.taking (values ++ [event]) maxEvents)
    else { stream with reader := .taken values }
  | .taking values _, [] => { stream with reader := .taken values }
  | _, _ => stream

/-- `dropped.swap(0)`. -/
def count : EventStream Event :=
  match stream.reader with
  | .taken values =>
    { stream with
      channel := { stream.channel with dropped := 0 }
      reader := .counted values stream.channel.dropped }
  | _ => stream

def beginRead (maxEvents : Nat) (waitMs : Option Nat) : EventStream Event :=
  { stream with
    reader := if 0 < waitMs.getD 0 then .waiting maxEvents else .taking [] maxEvents }

/-- A request is taken up when no read is under way. -/
def step : EventInput Event → EventStream Event × Option (EventAnswer Event)
  | .message event =>
    (if stream.channel.closed then stream
      else { stream with channel := stream.channel.arrive event }, none)
  | .taskEnds => ({ stream with channel := { stream.channel with closed := true } }, none)
  | .read maxEvents waitMs =>
    match stream.reader with
    | .idle =>
      if stream.isOpen then (stream.beginRead maxEvents waitMs, none)
      else (stream, some streamClosed)
    | _ => (stream, none)
  | .wake => (stream.wake, none)
  | .timeout => (stream.timeout, none)
  | .take => (stream.take, none)
  | .count => (stream.count, none)
  | .answer =>
    match stream.reader with
    | .counted values droppedCount =>
      ({ stream with reader := .idle },
        some (.ok { events := values, closed := stream.channel.closed, droppedCount }))
    | _ => (stream, none)
  | .close =>
    match stream.reader with
    | .idle =>
      if stream.isOpen then
        ({ stream with isOpen := false, channel := { stream.channel with closed := true } },
          none)
      else (stream, some streamClosed)
    | _ => (stream, none)

end EventStream

/-- A stream with its history: how many messages the task has received, which of them it could
queue, which events were delivered, how many losses were reported, and whether a read has said
that the stream is closed. -/
structure EventRecord (Event : Type) where
  stream : EventStream Event
  received : Nat := 0
  accepted : List Event := []
  delivered : List Event := []
  reported : Nat := 0
  toldClosed : Bool := false

namespace EventRecord

variable (record : EventRecord Event)

def receive (event : Event) : EventRecord Event :=
  if record.stream.channel.closed then record
  else
    { record with
      received := record.received + 1
      accepted :=
        if record.stream.channel.events.length < record.stream.channel.capacity then
          record.accepted ++ [event]
        else record.accepted }

def tell : Option (EventAnswer Event) → EventRecord Event
  | some (.ok result) =>
    { record with
      delivered := record.delivered ++ result.events
      reported := record.reported + result.droppedCount
      toldClosed := record.toldClosed || result.closed }
  | _ => record

end EventRecord

def eventReads (Event : Type) :
    Machine (EventRecord Event) (EventInput Event) (Option (EventAnswer Event)) where
  step record input :=
    let (stream, answer) := record.stream.step input
    let record := match input with
      | .message event => record.receive event
      | _ => record.tell answer
    ({ record with stream }, answer)

def openRecord (capacity : Option Nat) : EventRecord Event :=
  { stream := { channel := { capacity := eventCapacity capacity } } }

/-! ## What is reported -/

def Reader.values : Reader Event → List Event
  | .idle | .waiting _ => []
  | .taking values _ | .taken values | .counted values _ => values

def Reader.droppedCount : Reader Event → Nat
  | .counted _ droppedCount => droppedCount
  | _ => 0

/-- Every message is delivered, in the hands of the read under way, queued, or counted as lost;
the events keep their order; and whoever was told that the stream is closed has all of them. -/
structure Reports (record : EventRecord Event) : Prop where
  ordered : record.delivered ++ (record.stream.reader.values ++ record.stream.channel.events) =
    record.accepted
  counted : record.received = record.delivered.length + record.stream.reader.values.length +
    record.stream.channel.events.length + record.reported + record.stream.reader.droppedCount +
    record.stream.channel.dropped
  closed : record.toldClosed = true → record.delivered = record.accepted

/-- The read under way still takes everything that is queued. -/
def Reader.Takes (queued : Nat) : Reader Event → Prop
  | .idle | .waiting _ => True
  | .taking values maxEvents => queued ≤ maxEvents - values.length
  | .taken _ | .counted _ _ => queued = 0

/-- When the task ends the read under way takes everything that is queued; a read that comes later,
or stops waiting later, asks for as many events as are queued; and fewer than 2^64 messages are lost
between two reads. -/
def Roomy (record : EventRecord Event) (input : EventInput Event) : Prop :=
  let stream := record.stream
  let queued := stream.channel.events.length
  match input with
  | .message _ => stream.channel.closed = false → stream.channel.capacity ≤ queued →
      stream.channel.dropped + 1 < 2 ^ 64
  | .taskEnds => stream.channel.closed = false → stream.reader.Takes queued
  | .read maxEvents waitMs => stream.channel.closed = true → stream.isOpen = true →
      waitMs.getD 0 = 0 → (match stream.reader with
        | .idle => queued ≤ maxEvents
        | _ => True)
  | .wake => stream.channel.closed = true → (match stream.reader with
      | .waiting maxEvents => queued ≤ max 1 maxEvents
      | _ => True)
  | .timeout => stream.channel.closed = true → (match stream.reader with
      | .waiting maxEvents => queued ≤ maxEvents
      | _ => True)
  | _ => True

/-! ## One step -/

/-- Beside the reports: the read under way has room once the task has ended, and nobody is told
that the stream is closed before. -/
structure Settled (record : EventRecord Event) : Prop extends Reports record where
  room : record.stream.channel.closed = true →
    record.stream.reader.Takes record.stream.channel.events.length
  ended : record.toldClosed = true → record.stream.channel.closed = true
  bounded : record.stream.channel.dropped < 2 ^ 64

structure Passes (before after : EventStream Event) : Prop where
  whole : after.reader.values ++ after.channel.events =
    before.reader.values ++ before.channel.events
  losses : after.reader.droppedCount + after.channel.dropped =
    before.reader.droppedCount + before.channel.dropped
  task : after.channel.closed = before.channel.closed
  fewer : after.channel.dropped ≤ before.channel.dropped

variable {record : EventRecord Event}

theorem Passes.reports {after : EventStream Event}
    (passes : Passes record.stream after) (reports : Reports record) :
    Reports { record with stream := after } := by
  refine ⟨?_, ?_, reports.closed⟩
  · have ordered := reports.ordered
    rw [← passes.whole] at ordered
    exact ordered
  · have counted := reports.counted
    have lengths := congrArg List.length passes.whole
    have losses := passes.losses
    rw [List.length_append, List.length_append] at lengths
    dsimp only
    omega

theorem Passes.settled {after : EventStream Event}
    (passes : Passes record.stream after) (settled : Settled record)
    (room : after.channel.closed = true → after.reader.Takes after.channel.events.length) :
    Settled { record with stream := after } :=
  ⟨passes.reports settled.toReports, room, fun told => passes.task.trans (settled.ended told),
    Nat.lt_of_le_of_lt passes.fewer settled.bounded⟩

theorem wake_passes (stream : EventStream Event) : Passes stream stream.wake := by
  rcases stream with ⟨⟨events, capacity, dropped, closed⟩, isOpen, reader⟩
  unfold EventStream.wake EventStream.withEvents
  cases reader with
  | waiting maxEvents =>
    cases events with
    | nil =>
      cases closed
      · exact ⟨rfl, rfl, rfl, Nat.le_refl _⟩
      · exact ⟨rfl, rfl, rfl, Nat.le_refl _⟩
    | cons event rest => exact ⟨rfl, rfl, rfl, Nat.le_refl _⟩
  | _ => exact ⟨rfl, rfl, rfl, Nat.le_refl _⟩

theorem timeout_passes (stream : EventStream Event) : Passes stream stream.timeout := by
  rcases stream with ⟨channel, isOpen, reader⟩
  cases reader <;> exact ⟨rfl, rfl, rfl, Nat.le_refl _⟩

theorem take_passes (stream : EventStream Event) : Passes stream stream.take := by
  rcases stream with ⟨⟨events, capacity, dropped, closed⟩, isOpen, reader⟩
  unfold EventStream.take EventStream.withEvents
  cases reader with
  | taking values maxEvents =>
    cases events with
    | nil => exact ⟨rfl, rfl, rfl, Nat.le_refl _⟩
    | cons event rest =>
      dsimp only
      split
      · exact ⟨List.append_assoc _ _ _, rfl, rfl, Nat.le_refl _⟩
      · exact ⟨rfl, rfl, rfl, Nat.le_refl _⟩
  | _ => exact ⟨rfl, rfl, rfl, Nat.le_refl _⟩

theorem count_passes (stream : EventStream Event) : Passes stream stream.count := by
  rcases stream with ⟨channel, isOpen, reader⟩
  cases reader with
  | taken values => exact ⟨rfl, (Nat.add_zero _).trans (Nat.zero_add _).symm, rfl, Nat.zero_le _⟩
  | _ => exact ⟨rfl, rfl, rfl, Nat.le_refl _⟩

theorem beginRead_passes (stream : EventStream Event) (idle : stream.reader = .idle)
    (maxEvents : Nat) (waitMs : Option Nat) : Passes stream (stream.beginRead maxEvents waitMs) := by
  rcases stream with ⟨channel, isOpen, reader⟩
  obtain rfl : reader = .idle := idle
  unfold EventStream.beginRead
  split <;> exact ⟨rfl, rfl, rfl, Nat.le_refl _⟩

theorem take_takes (stream : EventStream Event)
    (room : stream.reader.Takes stream.channel.events.length) :
    stream.take.reader.Takes stream.take.channel.events.length := by
  rcases stream with ⟨⟨events, capacity, dropped, closed⟩, isOpen, reader⟩
  unfold EventStream.take EventStream.withEvents
  cases reader with
  | taking values maxEvents =>
    cases events with
    | nil => rfl
    | cons event rest =>
      simp only [Reader.Takes, List.length_cons] at room
      dsimp only
      split
      · simp only [Reader.Takes, List.length_append, List.length_singleton]
        omega
      · omega
  | _ => exact room

theorem wake_takes (stream : EventStream Event)
    (room : stream.reader.Takes stream.channel.events.length) (asks : match stream.reader with
      | .waiting maxEvents => stream.channel.events.length ≤ max 1 maxEvents
      | _ => True) : stream.wake.reader.Takes stream.wake.channel.events.length := by
  rcases stream with ⟨⟨events, capacity, dropped, closed⟩, isOpen, reader⟩
  unfold EventStream.wake EventStream.withEvents
  cases reader with
  | waiting maxEvents =>
    cases events with
    | nil =>
      cases closed
      · trivial
      · exact Nat.zero_le _
    | cons event rest =>
      simp only [List.length_cons] at asks
      simp only [Reader.Takes, List.length_singleton]
      omega
  | _ => exact room

theorem timeout_takes (stream : EventStream Event)
    (room : stream.reader.Takes stream.channel.events.length) (asks : match stream.reader with
      | .waiting maxEvents => stream.channel.events.length ≤ maxEvents
      | _ => True) : stream.timeout.reader.Takes stream.timeout.channel.events.length := by
  rcases stream with ⟨channel, isOpen, reader⟩
  cases reader with
  | waiting maxEvents => exact asks
  | _ => exact room

theorem count_takes (stream : EventStream Event)
    (room : stream.reader.Takes stream.channel.events.length) :
    stream.count.reader.Takes stream.count.channel.events.length := by
  rcases stream with ⟨channel, isOpen, reader⟩
  cases reader <;> exact room

theorem message_reports (reports : Reports record) (event : Event)
    (unended : record.toldClosed = true → record.stream.channel.closed = true)
    (few : Roomy record (.message event)) :
    Reports ((eventReads Event).step record (.message event)).1 := by
  rcases record with ⟨⟨⟨events, capacity, dropped, closed⟩, isOpen, reader⟩, received, accepted,
    delivered, reported, toldClosed⟩
  obtain ⟨ordered, counted, told⟩ := reports
  simp only [eventReads, EventStream.step, EventRecord.receive] at *
  cases closed with
  | true => exact ⟨ordered, counted, told⟩
  | false =>
    have untold : toldClosed = false := Bool.eq_false_iff.mpr fun told => by cases unended told
    subst untold
    simp only [Bool.false_eq_true, if_false, RedisEvent.arrive]
    by_cases fits : events.length < capacity
    · rw [if_pos fits, if_pos fits]
      refine ⟨?_, ?_, fun told => by cases told⟩
      · rw [← ordered, List.append_assoc, List.append_assoc]
      · rw [List.length_append, List.length_singleton]
        dsimp only
        omega
    · rw [if_neg fits, if_neg fits]
      have small : dropped + 1 < 2 ^ 64 := few rfl (Nat.not_lt.mp fits)
      refine ⟨ordered, ?_, fun told => by cases told⟩
      dsimp only
      rw [Nat.mod_eq_of_lt small]
      omega

theorem message_uncounted (reports : Reports record) (event : Event)
    (bounded : record.stream.channel.dropped < 2 ^ 64) (many : ¬ Roomy record (.message event)) :
    ¬ Reports ((eventReads Event).step record (.message event)).1 := by
  rcases record with ⟨⟨⟨events, capacity, dropped, closed⟩, isOpen, reader⟩, received, accepted,
    delivered, reported, toldClosed⟩
  intro later
  have counted := reports.counted
  have after := later.counted
  simp only [Roomy, not_forall] at many
  obtain ⟨running, full, large⟩ := many
  subst running
  simp only [eventReads, EventStream.step, EventRecord.receive, Bool.false_eq_true, if_false,
    RedisEvent.arrive, if_neg (Nat.not_lt.mpr full)] at after counted
  dsimp only at bounded
  omega

theorem answer_reports (reports : Reports record) (room : record.stream.channel.closed = true →
      record.stream.reader.Takes record.stream.channel.events.length) :
    Reports ((eventReads Event).step record .answer).1 := by
  rcases record with ⟨⟨⟨events, capacity, dropped, closed⟩, isOpen, reader⟩, received, accepted,
    delivered, reported, toldClosed⟩
  cases reader with
  | counted values droppedCount =>
    obtain ⟨ordered, counted, told⟩ := reports
    simp only [eventReads, EventStream.step, EventRecord.tell, Reader.values, Reader.droppedCount]
      at *
    refine ⟨?_, ?_, ?_⟩
    · rw [← ordered, List.append_assoc]
      rfl
    · simp only [List.length_append, Reader.values, Reader.droppedCount, List.length_nil]
      omega
    · intro answered
      rcases (Bool.or_eq_true _ _).mp answered with before | now
      · have all := told before
        rw [← ordered] at all
        have none : values ++ events = [] := List.append_right_eq_self.mp all.symm
        rw [← ordered, none, (List.append_eq_nil_iff.mp none).1]
      · -- the read has taken everything that was queued
        have empty : events = [] := List.eq_nil_of_length_eq_zero (room now)
        rw [← ordered, empty, List.append_nil]
  | _ => exact reports

theorem settled_open (capacity : Option Nat) : Settled (openRecord capacity : EventRecord Event) :=
  ⟨⟨rfl, rfl, nofun⟩, fun _ => trivial, nofun, Nat.two_pow_pos 64⟩

theorem arrive_bounded (channel : RedisEvent Event) (event : Event)
    (bounded : channel.dropped < 2 ^ 64) : (channel.arrive event).dropped < 2 ^ 64 := by
  unfold RedisEvent.arrive
  split
  · exact bounded
  · exact Nat.mod_lt _ (by decide)

theorem arrive_closed (channel : RedisEvent Event) (event : Event) :
    (channel.arrive event).closed = channel.closed := by
  unfold RedisEvent.arrive
  split <;> rfl

theorem message_ended (ended : record.stream.channel.closed = true)
    (event : Event) : ((eventReads Event).step record (.message event)).1 = record := by
  simp [eventReads, EventStream.step, EventRecord.receive, ended]

theorem settled_step (record : EventRecord Event) (input : EventInput Event)
    (settled : Settled record) (roomy : Roomy record input) :
    Settled ((eventReads Event).step record input).1 := by
  have reports := settled.toReports
  cases input with
  | message event =>
    cases running : record.stream.channel.closed with
    | true =>
      rw [message_ended running]
      exact settled
    | false =>
      have after : ((eventReads Event).step record (.message event)).1.stream.channel =
          record.stream.channel.arrive event := by
        simp [eventReads, EventStream.step, running]
      refine ⟨message_reports reports event settled.ended roomy, fun ended => ?_,
        fun told => ?_, ?_⟩
      · rw [after, arrive_closed, running] at ended
        cases ended
      · have before : record.toldClosed = true := by
          simpa [eventReads, EventRecord.receive, running] using told
        rw [settled.ended before] at running
        cases running
      · rw [after]
        exact arrive_bounded _ event settled.bounded
  | taskEnds =>
    refine ⟨⟨reports.ordered, reports.counted, reports.closed⟩, fun _ => ?_, fun _ => rfl,
      settled.bounded⟩
    cases running : record.stream.channel.closed with
    | true => exact settled.room running
    | false => exact roomy running
  | read maxEvents waitMs =>
    simp only [eventReads, EventStream.step]
    cases idle : record.stream.reader with
    | idle =>
      dsimp only
      split
      · rename_i isOpen
        refine (beginRead_passes record.stream idle maxEvents waitMs).settled settled ?_
        intro ended
        have asks := roomy ended isOpen
        simp only [idle] at asks
        simp only [EventStream.beginRead]
        split
        · trivial
        · exact asks (by omega)
      · exact settled
    | _ => exact settled
  | wake =>
    exact (wake_passes record.stream).settled settled fun ended =>
      wake_takes record.stream (settled.room ((wake_passes _).task.symm.trans ended))
        (roomy ((wake_passes _).task.symm.trans ended))
  | timeout =>
    exact (timeout_passes record.stream).settled settled fun ended =>
      timeout_takes record.stream (settled.room ((timeout_passes _).task.symm.trans ended))
        (roomy ((timeout_passes _).task.symm.trans ended))
  | take =>
    exact (take_passes record.stream).settled settled fun ended =>
      take_takes record.stream (settled.room ((take_passes _).task.symm.trans ended))
  | count =>
    exact (count_passes record.stream).settled settled fun ended =>
      count_takes record.stream (settled.room ((count_passes _).task.symm.trans ended))
  | answer =>
    have answered := answer_reports reports settled.room
    rcases record with ⟨⟨channel, isOpen, reader⟩, received, accepted, delivered, reported,
      toldClosed⟩
    cases reader with
    | counted values droppedCount =>
      refine ⟨answered, fun _ => trivial, fun told => ?_, settled.bounded⟩
      rcases (Bool.or_eq_true _ _).mp told with before | now
      · exact settled.ended before
      · exact now
    | _ => exact settled
  | close =>
    simp only [eventReads, EventStream.step]
    split
    · split
      · rename_i idle _
        refine ⟨⟨reports.ordered, reports.counted, reports.closed⟩, fun _ => ?_, fun _ => rfl,
          settled.bounded⟩
        show record.stream.reader.Takes _
        rw [idle]
        trivial
      · exact settled
    · exact settled

/-! ## Without room -/

/-- The task has ended, and the read under way will leave something behind. -/
def Doomed (record : EventRecord Event) : Prop :=
  record.stream.channel.closed = true ∧
    ¬ record.stream.reader.Takes record.stream.channel.events.length

theorem doomed_step (doomed : Doomed record) (reports : Reports record) (input : EventInput Event) :
    Doomed ((eventReads Event).step record input).1 ∨
      ¬ Reports ((eventReads Event).step record input).1 := by
  rcases record with ⟨⟨⟨events, capacity, dropped, closed⟩, isOpen, reader⟩, received, accepted,
    delivered, reported, toldClosed⟩
  obtain ⟨ended, leaves⟩ := doomed
  obtain rfl : closed = true := ended
  cases reader with
  | idle => exact absurd trivial leaves
  | waiting maxEvents => exact absurd trivial leaves
  | taking values maxEvents =>
    simp only [Reader.Takes, Nat.not_le] at leaves
    cases input with
    | take =>
      cases events with
      | nil => cases leaves
      | cons event rest =>
        rw [List.length_cons] at leaves
        refine Or.inl ?_
        simp only [eventReads, EventStream.step, EventStream.take, EventStream.withEvents]
        split
        · refine ⟨rfl, ?_⟩
          simp only [Reader.Takes, List.length_append, List.length_singleton]
          omega
        · refine ⟨rfl, ?_⟩
          simp [Reader.Takes]
    | message event => exact Or.inl ⟨rfl, Nat.not_le.mpr leaves⟩
    | _ => exact Or.inl ⟨rfl, Nat.not_le.mpr leaves⟩
  | taken values =>
    cases input with
    | count => exact Or.inl ⟨rfl, leaves⟩
    | _ => exact Or.inl ⟨rfl, leaves⟩
  | counted values droppedCount =>
    cases input with
    | answer =>
      refine Or.inr fun later => ?_
      have all := later.closed (Bool.or_true _)
      -- what is still queued was accepted and is not delivered
      have ordered := reports.ordered
      simp only [eventReads, EventStream.step, EventRecord.tell, Reader.values] at all ordered
      rw [← all, ← List.append_assoc] at ordered
      exact leaves (congrArg List.length (List.append_right_eq_self.mp ordered))
    | _ => exact Or.inl ⟨rfl, leaves⟩

theorem doomed_run (doomed : Doomed record) (inputs : List (EventInput Event))
    (reports : ∀ later ∈ (eventReads Event).visited record inputs, Reports later) :
    Doomed ((eventReads Event).run record inputs).1 := by
  induction inputs generalizing record with
  | nil => exact doomed
  | cons input rest ih =>
    have next := reports _ (List.mem_cons_of_mem _ (start_mem_visited _ _ rest))
    rcases doomed_step doomed (reports record List.mem_cons_self) input with still | wrong
    · exact ih still fun later visited => reports later (List.mem_cons_of_mem _ visited)
    · exact absurd next wrong

theorem unroomy_step (settled : Settled record)
    {input : EventInput Event} (unroomy : ¬ Roomy record input) :
    Doomed ((eventReads Event).step record input).1 ∨
      ¬ Reports ((eventReads Event).step record input).1 := by
  cases input with
  | message event =>
    exact Or.inr (message_uncounted settled.toReports event settled.bounded unroomy)
  | taskEnds =>
    obtain ⟨_, leaves⟩ := Classical.not_imp.mp unroomy
    exact Or.inl ⟨rfl, leaves⟩
  | read maxEvents waitMs =>
    simp only [Roomy, Classical.not_imp] at unroomy
    obtain ⟨ended, isOpen, unwaiting, leaves⟩ := unroomy
    cases idle : record.stream.reader with
    | idle =>
      rw [idle] at leaves
      refine Or.inl ?_
      simp only [eventReads, EventStream.step, idle, isOpen, if_true, EventStream.beginRead,
        unwaiting, Nat.lt_irrefl, if_false]
      exact ⟨ended, leaves⟩
    | _ => exact absurd trivial (by rw [idle] at leaves; exact leaves)
  | wake =>
    rcases record with ⟨⟨⟨events, capacity, dropped, closed⟩, isOpen, reader⟩, received, accepted,
      delivered, reported, toldClosed⟩
    simp only [Roomy, Classical.not_imp] at unroomy
    obtain ⟨rfl, leaves⟩ := unroomy
    cases reader with
    | waiting maxEvents =>
      cases events with
      | nil => exact absurd (Nat.zero_le _) leaves
      | cons event rest =>
        simp only [List.length_cons] at leaves
        refine Or.inl ⟨rfl, ?_⟩
        simp only [eventReads, EventStream.step, EventStream.wake, EventStream.withEvents,
          Reader.Takes, List.length_singleton]
        omega
    | _ => exact absurd trivial leaves
  | timeout =>
    rcases record with ⟨⟨channel, isOpen, reader⟩, received, accepted, delivered, reported,
      toldClosed⟩
    obtain ⟨ended, leaves⟩ := Classical.not_imp.mp unroomy
    cases reader with
    | waiting maxEvents => exact Or.inl ⟨ended, leaves⟩
    | _ => exact absurd trivial leaves
  | _ => exact absurd trivial unroomy

/-- The reads of a stream report every message, whatever happens between their steps, as long as
each step has room; and whenever every read is answered, only then. -/
theorem event_reads_report (capacity : Option Nat) (inputs : List (EventInput Event)) :
    ((eventReads Event).Respects Roomy (openRecord capacity) inputs →
        ∀ record ∈ (eventReads Event).visited (openRecord capacity) inputs, Reports record) ∧
      (((eventReads Event).run (openRecord capacity) inputs).1.stream.reader = .idle →
        (∀ record ∈ (eventReads Event).visited (openRecord capacity) inputs, Reports record) →
        (eventReads Event).Respects Roomy (openRecord capacity) inputs) := by
  constructor
  · intro roomy record visited
    exact (visited_invariant_guarded _ Roomy Settled _ inputs
      (fun record input _ settled allowed => settled_step record input settled allowed) roomy
      (settled_open capacity) record visited).toReports
  · intro idle reports
    have start : Settled (openRecord capacity : EventRecord Event) := settled_open capacity
    generalize (openRecord capacity : EventRecord Event) = record at idle reports start ⊢
    induction inputs generalizing record with
    | nil => trivial
    | cons input rest ih =>
      have later := fun record visited => reports record (List.mem_cons_of_mem _ visited)
      by_cases roomy : Roomy record input
      · exact ⟨roomy, ih _ idle later (settled_step record input start roomy)⟩
      · exfalso
        rcases unroomy_step start roomy with doomed | wrong
        · have last := (doomed_run doomed rest later).2
          have answered : ((eventReads Event).run ((eventReads Event).step record input).1
            rest).1.stream.reader = .idle := idle
          rw [answered] at last
          exact last trivial
        · exact wrong (later _ (start_mem_visited _ _ rest))

/-- Two messages, the end of the task, and a read of one event. -/
theorem closed_told_early :
    ¬ ∀ record ∈ (eventReads Nat).visited (openRecord none)
      [.message 1, .message 2, .taskEnds, .read 1 none, .take, .take, .count, .answer],
      Reports record := by
  intro reports
  have last := reports _ (run_mem_visited (eventReads Nat) _ _)
  have all := last.closed rfl
  cases all

end Onetcli.Redis
