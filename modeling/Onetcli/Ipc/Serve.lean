import Onetcli.Ipc.Framing
import Onetcli.DbIpc.Server

/-!
The loop of internal/ipc/socket.go: read a frame, hand it to the handler, write the
answer. A frame without an id is passed over, a `shutdown` with one ends the loop
after its answer, and so does an answer that cannot be written, such as one beyond
the frame limit. The handler may keep a state of its own.
-/

namespace Onetcli.Ipc

open ByteStreams

variable {Writer State : Type} (codec : Codec)
  (write : Writer → List UInt8 → Writer × Option String)
  (handler : State → Message → State × Message)

def ReadError.message : ReadError → String
  | .eof => "EOF"
  | .unexpectedEof => "unexpected EOF"
  | .failed err => err

def serveConnected (state : State) (writer : Writer) (stream : Stream UInt8) :
    Writer × Option String :=
  match _read : (readFrame codec stream).result with
  | .error .eof => (writer, none)
  | .error err => (writer, some (ReadError.message err))
  | .ok req =>
    if req.id = "" then serveConnected state writer (readFrame codec stream).rest
    else
      let answer := handler state req
      match writeFrame codec write writer answer.2 with
      | (writer, some err) => (writer, some err)
      | (writer, none) =>
        if req.method = "shutdown" then (writer, none)
        else serveConnected answer.1 writer (readFrame codec stream).rest
termination_by stream.bytes.length
decreasing_by
  · exact readFrame_shrinks _read
  · exact readFrame_shrinks _read

/-! ## The answers that are due -/

/-- The requests that carry an id, up to the first `shutdown` among them. -/
def answerable : List Message → List Message
  | [] => []
  | req :: rest =>
    if req.id = "" then answerable rest
    else if req.method = "shutdown" then [req]
    else req :: answerable rest

/-- What the handler answers to one request after the other. -/
def responses : State → List Message → List Message
  | _, [] => []
  | state, req :: rest =>
    let answer := handler state req
    answer.2 :: responses answer.1 rest

/-- Write one answer after the other until one fails. -/
def sendAll : Writer → List Message → Writer × Option String
  | writer, [] => (writer, none)
  | writer, resp :: rest =>
    match writeFrame codec write writer resp with
    | (writer, some err) => (writer, some err)
    | (writer, none) => sendAll writer rest

variable {codec write handler} {stream : Stream UInt8}

/-! ## The loop -/

theorem serveConnected_failed {err : ReadError}
    (failed : (readFrame codec stream).result = .error err) (state : State) (writer : Writer) :
    serveConnected codec write handler state writer stream =
      (writer, if err = .eof then none else some (ReadError.message err)) := by
  rw [serveConnected]
  split
  · rename_i ended
    cases failed.symm.trans ended
    rfl
  · rename_i found notEof ended
    cases failed.symm.trans ended
    rw [if_neg notEof]
  · rename_i read
    cases failed.symm.trans read

theorem serveConnected_request {req : Message} (read : (readFrame codec stream).result = .ok req)
    (state : State) (writer : Writer) : serveConnected codec write handler state writer stream =
      if req.id = "" then
        serveConnected codec write handler state writer (readFrame codec stream).rest
      else
        match writeFrame codec write writer (handler state req).2 with
        | (writer, some err) => (writer, some err)
        | (writer, none) =>
          if req.method = "shutdown" then (writer, none)
          else serveConnected codec write handler (handler state req).1 writer
            (readFrame codec stream).rest := by
  rw [serveConnected]
  split
  · rename_i failed
    rw [read] at failed
    cases failed
  · rename_i failed
    rw [read] at failed
    cases failed
  · rename_i found ok
    rw [read] at ok
    cases ok
    rfl

/-- A `shutdown` with an id is among the requests. -/
def stopped (requests : List Message) : Bool :=
  requests.any fun req => req.id ≠ "" && req.method = "shutdown"

-- The loop sends the answers that are due, and then ends as its last read does.
theorem serveConnected_read {requests : List Message} {frames : List (List UInt8)}
    {part : List UInt8} {err : ReadError} (framed : List.Forall₂ (Framed codec) requests frames)
    (given : stream.bytes = frames.flatten ++ part)
    (ends : ∀ left : Stream UInt8, left.bytes = part → left.ending = stream.ending →
      (readFrame codec left).result = .error err) (state : State) (writer : Writer) :
    serveConnected codec write handler state writer stream =
      let sent := sendAll codec write writer (responses handler state (answerable requests))
      if sent.2 = none ∧ stopped requests = false then
        (sent.1, if err = .eof then none else some (ReadError.message err))
      else sent := by
  induction framed generalizing stream state writer with
  | nil => exact serveConnected_failed (ends stream given rfl) state writer
  | @cons req frame requests frames head tail ih =>
    rw [List.flatten_cons, List.append_assoc] at given
    have read := readFrame_framed head given
    have later := ih read.2 fun left same ending => ends left same (ending.trans readFrame_ending)
    rw [serveConnected_request read.1, answerable]
    by_cases notification : req.id = ""
    · rw [if_pos notification, if_pos notification, later]
      simp [stopped, notification]
    · rw [if_neg notification, if_neg notification]
      rcases sent : writeFrame codec write writer (handler state req).2 with ⟨after, _ | err⟩
      · by_cases last : req.method = "shutdown"
        · simp [last, responses, sendAll, sent, stopped, notification]
        · simp [last, responses, sendAll, sent, later, stopped]
      · by_cases last : req.method = "shutdown"
        · simp [last, responses, sendAll, sent]
        · simp [last, responses, sendAll, sent]

theorem serveConnected_framed {requests : List Message} {frames : List (List UInt8)}
    (framed : List.Forall₂ (Framed codec) requests frames) (given : stream.bytes = frames.flatten)
    (ends : stream.ending = .eof) (state : State) (writer : Writer) :
    serveConnected codec write handler state writer stream =
      sendAll codec write writer (responses handler state (answerable requests)) := by
  rw [serveConnected_read framed (given.trans (List.append_nil _).symm) fun left none same => by
    rw [readFrame_empty none, same, ends]]
  dsimp only
  split
  · rename_i sent
    exact Prod.ext rfl sent.1.symm
  · rfl

/-- How the loop ends when so many bytes of a frame are the last ones. -/
def cutError (bytes : Nat) : Option String :=
  if bytes = 0 ∨ bytes = 4 then none else some "unexpected EOF"

/-- On a connection that is lost inside a frame the requests before it are answered as ever.
Unless it ended before, the loop then takes a frame of which nothing but the length came for
the end of the connection, and reports any other. -/
theorem cut_connection_served {requests : List Message} {frames : List (List UInt8)}
    (framed : List.Forall₂ (Framed codec) requests frames) {msg : Message}
    {part more : List UInt8} (next : Framed codec msg (part ++ more)) (cut : more ≠ [])
    (given : stream.bytes = frames.flatten ++ part) (ends : stream.ending = .eof)
    (state : State) (writer : Writer) :
    serveConnected codec write handler state writer stream =
      let sent := sendAll codec write writer (responses handler state (answerable requests))
      if sent.2 = none ∧ stopped requests = false then (sent.1, cutError part.length)
      else sent := by
  have nothing : (if part.length < 4 then part else part.drop 4) = [] ↔
      part.length = 0 ∨ part.length = 4 := by
    rw [← List.length_eq_zero_iff]
    split
    · omega
    · rw [List.length_drop]
      omega
  rw [serveConnected_read framed given fun left same ending => by
    rw [readFrame_cut next cut same, ending, ends]]
  simp only [shortRead, List.isEmpty_iff, nothing, cutError]
  by_cases unnoticed : part.length = 0 ∨ part.length = 4
  · simp only [unnoticed, if_true]
  · simp only [unnoticed, if_false, ReadError.message, reduceCtorEq]

-- Answers sent to a buffer: the frames of a first part of them, the whole part or up to the
-- first that cannot be framed.
theorem sendAll_append (codec : Codec) (written : List UInt8) (resps : List Message) :
    ∃ sent unsent frames, resps = sent ++ unsent ∧
      List.Forall₂ (fun resp frame => writeFrame codec appendBytes [] resp = (frame, none))
        sent frames ∧ (sendAll codec appendBytes written resps).1 = written ++ frames.flatten ∧
      ((sendAll codec appendBytes written resps).2 = none ∧ unsent = [] ∨
        ∃ resp rest err, unsent = resp :: rest ∧
          (sendAll codec appendBytes written resps).2 = some err ∧
          writeFrame codec appendBytes [] resp = ([], some err)) := by
  induction resps generalizing written with
  | nil => exact ⟨[], [], [], rfl, .nil, by simp [sendAll], Or.inl ⟨rfl, rfl⟩⟩
  | cons resp rest ih =>
    rcases writeFrame_append codec written resp with ⟨frame, first, ok⟩ | ⟨err, first, failed⟩
    · obtain ⟨sent, unsent, frames, split, framed, bytes, outcome⟩ := ih (written ++ frame)
      refine ⟨resp :: sent, unsent, frame :: frames, ?_, .cons first framed, ?_, ?_⟩
      · rw [split, List.cons_append]
      · simp [sendAll, ok, bytes]
      · simpa [sendAll, ok] using outcome
    · refine ⟨[], resp :: rest, [], rfl, .nil, ?_, Or.inr ⟨resp, rest, err, rfl, ?_, first⟩⟩
      · simp [sendAll, failed]
      · simp [sendAll, failed]

theorem responses_ids (echoes : ∀ state req, req.id ≠ "" → (handler state req).2.id = req.id)
    (state : State) (requests : List Message) (carry : ∀ req ∈ requests, req.id ≠ "") :
    (responses handler state requests).map Message.id = requests.map Message.id := by
  induction requests generalizing state with
  | nil => rfl
  | cons req rest ih =>
    rw [responses, List.map_cons, List.map_cons, echoes state req (carry req List.mem_cons_self),
      ih _ fun other member => carry other (List.mem_cons_of_mem _ member)]

theorem answerable_carry (requests : List Message) : ∀ req ∈ answerable requests, req.id ≠ "" := by
  induction requests with
  | nil => simp [answerable]
  | cons req rest ih =>
    rw [answerable]
    split
    · exact ih
    · rename_i carries
      split
      · simpa using carries
      · intro other member
        rcases List.mem_cons.mp member with rfl | later
        · exact carries
        · exact ih other later

theorem server_echoes_id {World : Type} (rt : DbIpc.Runtime World) (s : DbIpc.Server World)
    (world : World) (req : DbIpc.Message) (carries : req.id ≠ "") :
    (DbIpc.handle rt s world req).2.2.id = req.id := by
  simp only [DbIpc.handle, if_neg carries]
  split
  · rfl
  · split <;> rfl

/-- Requests that carry an id are answered one by one and in order, each under its id,
up to the first `shutdown` among them; an answer that cannot be framed ends the loop
before it. -/
theorem requests_answered_in_order (codec : Codec) (handler : State → Message → State × Message)
    (echoes : ∀ state req, req.id ≠ "" → (handler state req).2.id = req.id)
    (requests : List Message) (frames : List (List UInt8)) (stream : Stream UInt8)
    (framed : List.Forall₂ (Framed codec) requests frames)
    (given : stream.bytes = frames.flatten) (ends : stream.ending = .eof) (state : State) :
    ∃ sent unsent written,
      responses handler state (answerable requests) = sent ++ unsent ∧
      sent.map Message.id = ((answerable requests).take sent.length).map Message.id ∧
      List.Forall₂ (fun resp frame => writeFrame codec appendBytes [] resp = (frame, none))
        sent written ∧
      (serveConnected codec appendBytes handler state [] stream).1 = written.flatten ∧
      ((serveConnected codec appendBytes handler state [] stream).2 = none ∧ unsent = [] ∨
        ∃ resp rest err, unsent = resp :: rest ∧
          (serveConnected codec appendBytes handler state [] stream).2 = some err ∧
          writeFrame codec appendBytes [] resp = ([], some err)) := by
  rw [serveConnected_framed framed given ends]
  obtain ⟨sent, unsent, written, split, whole, bytes, outcome⟩ :=
    sendAll_append codec [] (responses handler state (answerable requests))
  have ids := responses_ids echoes state (answerable requests) (answerable_carry requests)
  refine ⟨sent, unsent, written, split, ?_, whole, bytes, outcome⟩
  rw [split, List.map_append] at ids
  rw [List.map_take, ← ids, ← List.length_map (f := Message.id), List.take_left]

/-! ## Limits of the loop -/

/-- A field of raw JSON, left out when empty. -/
def rawField (name text : String) : List Char :=
  if text = "" then [] else ",\"".toList ++ name.toList ++ "\":".toList ++ text.toList

/-- The JSON of a message without an error whose method needs no escapes. -/
def renderMessage (msg : Message) : List Char :=
  "\x7b\"jsonrpc\":\"".toList ++ msg.jsonrpc.toList ++ "\"".toList ++ rawField "id" msg.id ++
    (if msg.method = "" then []
      else ",\"method\":\"".toList ++ msg.method.toList ++ "\"".toList) ++
    rawField "params" msg.params ++ rawField "result" msg.result ++ "\x7d".toList

def messageBytes (msg : Message) : List UInt8 :=
  (renderMessage msg).map fun char => UInt8.ofNat char.toNat

/-- A client's calls, and one notification. -/
def callOne : Message := { jsonrpc := "2.0", id := "1", method := "ping" }
def callTwo : Message := { jsonrpc := "2.0", id := "2", method := "ping" }
def shutdownNotice : Message := { jsonrpc := "2.0", method := "shutdown" }

def sampleCodec : Codec where
  marshal msg := .ok (messageBytes msg)
  unmarshal payload :=
    match [callOne, callTwo, shutdownNotice].find? (fun msg => messageBytes msg = payload) with
    | some msg => .ok msg
    | none => .error "invalid character"

def frameOf (msg : Message) : List UInt8 := putUint32 (messageBytes msg).length ++ messageBytes msg

theorem framed_callOne : Framed sampleCodec callOne (frameOf callOne) :=
  ⟨messageBytes callOne, rfl, by decide, rfl⟩

theorem framed_callTwo : Framed sampleCodec callTwo (frameOf callTwo) :=
  ⟨messageBytes callTwo, rfl, by decide, rfl⟩

theorem framed_shutdownNotice : Framed sampleCodec shutdownNotice (frameOf shutdownNotice) :=
  ⟨messageBytes shutdownNotice, rfl, by decide, rfl⟩

/-- A handler that answers every request with this result. -/
def answerWith (result : String) (state : Unit) (req : Message) : Unit × Message :=
  (state, { id := req.id, result })

def twoCalls : Stream UInt8 := ⟨[frameOf callOne ++ frameOf callTwo], .eof⟩

theorem two_calls_answered :
    ∃ sent unsent written,
      [{ id := "1", result := "0" }, { id := "2", result := "0" }] = sent ++ unsent ∧
      sent.map Message.id = (["1", "2"].take sent.length) ∧
      List.Forall₂ (fun resp frame => writeFrame sampleCodec appendBytes [] resp = (frame, none))
        sent written ∧
      (serveConnected sampleCodec appendBytes (answerWith "0") () [] twoCalls).1 =
        written.flatten := by
  obtain ⟨sent, unsent, written, split, ids, framed, bytes, _⟩ :=
    requests_answered_in_order sampleCodec (answerWith "0") (fun _ _ _ => rfl) [callOne, callTwo] _
      twoCalls (.cons framed_callOne (.cons framed_callTwo .nil)) (by simp [twoCalls, Stream.bytes])
      rfl ()
  refine ⟨sent, unsent, written, split, ?_, framed, bytes⟩
  rw [ids, List.map_take]
  rfl

/-- A call of which only the length comes is lost without an error. -/
theorem lost_call_unnoticed :
    serveConnected sampleCodec appendBytes (answerWith "0") () []
        ⟨[frameOf callOne ++ (frameOf callTwo).take 4], .eof⟩ =
      (frameOf { jsonrpc := "2.0", id := "1", result := "0" }, none) := by
  have whole := (List.take_append_drop 4 (frameOf callTwo)).symm ▸ framed_callTwo
  rw [cut_connection_served (.cons framed_callOne .nil) whole (by decide)
    (by simp [Stream.bytes]) rfl]
  rfl

theorem result_sublist_renderMessage (msg : Message) :
    msg.result.toList.Sublist (renderMessage msg) := by
  have inField : msg.result.toList.Sublist (rawField "result" msg.result) := by
    rw [rawField]
    split
    · rename_i empty
      rw [empty]
      exact List.nil_sublist _
    · exact List.sublist_append_right _ _
  exact inField.trans ((List.sublist_append_right _ _).trans (List.sublist_append_left _ _))

theorem oversized_answer (id : String) {result : String}
    (exceeds : maxFrameBytes < result.toList.length) :
    ∃ err, writeFrame sampleCodec appendBytes [] { id, result } = ([], some err) := by
  have contained := result_sublist_renderMessage (Message.versioned { id, result })
  have longer : result.toList.length ≤
      (messageBytes (Message.versioned { id, result })).length := by
    rw [messageBytes, List.length_map]
    exact contained.length_le
  refine ⟨"payload length " ++
    toString (messageBytes (Message.versioned { id, result })).length ++ " exceeds limit " ++
    toString maxFrameBytes, ?_⟩
  rw [writeFrame]
  simp only [sampleCodec]
  rw [if_pos (Nat.lt_of_lt_of_le exceeds longer)]

def manyDigits : String := String.ofList (List.replicate (maxFrameBytes + 1) '1')

theorem manyDigits_exceeds : maxFrameBytes < manyDigits.toList.length := by
  rw [manyDigits, String.toList_ofList, List.length_replicate]
  exact Nat.lt_succ_self _

-- An answer beyond the frame limit ends the loop with no answer to either call; a
-- handler need not answer under the id of the request; and a `shutdown` without an id
-- does not end the loop.
theorem loop_ends_at_oversized_answer :
    (∃ err, serveConnected sampleCodec appendBytes (answerWith manyDigits) () [] twoCalls =
        ([], some err)) ∧
      serveConnected sampleCodec appendBytes (fun state _ => (state, { result := "0" })) () []
          ⟨[frameOf callOne], .eof⟩ =
        (frameOf { jsonrpc := "2.0", result := "0" }, none) ∧
      serveConnected sampleCodec appendBytes (answerWith "0") () []
          ⟨[frameOf shutdownNotice, frameOf callOne], .eof⟩ =
        (frameOf { jsonrpc := "2.0", id := "1", result := "0" }, none) := by
  refine ⟨?_, ?_, ?_⟩
  · obtain ⟨err, refused⟩ := oversized_answer "1" manyDigits_exceeds
    have due : responses (answerWith manyDigits) () (answerable [callOne, callTwo]) =
        [{ id := "1", result := manyDigits }, { id := "2", result := manyDigits }] := rfl
    refine ⟨err, ?_⟩
    rw [serveConnected_framed (.cons framed_callOne (.cons framed_callTwo .nil))
      (by simp [twoCalls, Stream.bytes]) rfl, due, sendAll, refused]
  · rw [serveConnected_framed (.cons framed_callOne .nil) rfl rfl]
    rfl
  · rw [serveConnected_framed (.cons framed_shutdownNotice (.cons framed_callOne .nil)) rfl rfl]
    rfl

end Onetcli.Ipc
