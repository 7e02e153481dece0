import Mathlib
import Onetcli.Lib.ByteStreams

/-!
Frames of internal/ipc/framing.go: a payload of JSON behind its length in four
little-endian bytes, at most 64 MiB of it. The raw parts of a message are texts of
JSON, empty when absent. `encoding/json` is a parameter. Reading a frame also
tells what it asks for: the buffers it allocates and the bytes it waits for.
-/

namespace Onetcli.Ipc

open ByteStreams

def jsonrpcVersion : String := "2.0"

def maxFrameBytes : Nat := 64 * 1024 * 1024

structure ProtocolError where
  code : Int32
  message : String
  data : String := ""
  deriving DecidableEq

structure Message where
  jsonrpc : String := ""
  id : String := ""
  method : String := ""
  params : String := ""
  result : String := ""
  error : Option ProtocolError := none
  deriving DecidableEq

/-- `json.Marshal` and `json.Unmarshal` on messages. -/
structure Codec where
  marshal : Message → Except String (List UInt8)
  unmarshal : List UInt8 → Except String Message

def Codec.Inverse (codec : Codec) : Prop :=
  ∀ msg payload, codec.marshal msg = .ok payload → codec.unmarshal payload = .ok msg

/-! ## Lengths -/

/-- `binary.LittleEndian.PutUint32`. -/
def putUint32 (n : Nat) : List UInt8 :=
  [UInt8.ofNat n, UInt8.ofNat (n / 2 ^ 8), UInt8.ofNat (n / 2 ^ 16), UInt8.ofNat (n / 2 ^ 24)]

/-- `binary.LittleEndian.Uint32`. -/
def uint32 : List UInt8 → Nat
  | [a, b, c, d] => a.toNat + b.toNat * 2 ^ 8 + c.toNat * 2 ^ 16 + d.toNat * 2 ^ 24
  | _ => 0

theorem length_putUint32 (n : Nat) : (putUint32 n).length = 4 := rfl

theorem uint32_putUint32 {n : Nat} (small : n < 2 ^ 32) : uint32 (putUint32 n) = n := by
  simp only [putUint32, uint32, UInt8.toNat_ofNat']
  omega

/-! ## Reading -/

/-- What a reader asks for. -/
inductive Demand where
  | header (size : Nat)
  | allocate (size : Nat)
  | payload (size : Nat)
  deriving DecidableEq

structure Reading where
  demands : List Demand
  result : Except ReadError Message
  rest : Stream UInt8

variable (codec : Codec)

def readPayload (n : Nat) (stream : Stream UInt8) : Reading :=
  let demands := [.header 4, .allocate n, .payload n]
  let read := readFull n stream
  match read.1 with
  | .error err => ⟨demands, .error err, read.2⟩
  | .ok payload =>
    match codec.unmarshal payload with
    | .error err => ⟨demands, .error (.failed err), read.2⟩
    | .ok msg => ⟨demands, .ok msg, read.2⟩

def readFrame (stream : Stream UInt8) : Reading :=
  let read := readFull 4 stream
  match read.1 with
  | .error err => ⟨[.header 4], .error err, read.2⟩
  | .ok header =>
    let n := uint32 header
    if maxFrameBytes < n then
      ⟨[.header 4], .error (.failed ("frame length " ++ toString n ++ " exceeds limit " ++
        toString maxFrameBytes)), read.2⟩
    else readPayload codec n read.2

/-- The answers of calling `readFrame` so many times. -/
def readFrames : Nat → Stream UInt8 → List (Except ReadError Message)
  | 0, _ => []
  | calls + 1, stream =>
    (readFrame codec stream).result :: readFrames calls (readFrame codec stream).rest

/-! ## Writing -/

variable {Writer : Type} (write : Writer → List UInt8 → Writer × Option String)

def Message.versioned (msg : Message) : Message :=
  if msg.jsonrpc = "" then { msg with jsonrpc := jsonrpcVersion } else msg

def writeFrame (writer : Writer) (msg : Message) : Writer × Option String :=
  match codec.marshal msg.versioned with
  | .error err => (writer, some err)
  | .ok payload =>
    if maxFrameBytes < payload.length then
      (writer, some ("payload length " ++ toString payload.length ++ " exceeds limit " ++
        toString maxFrameBytes))
    else
      match write writer (putUint32 payload.length) with
      | (writer, some err) => (writer, some err)
      | (writer, none) => write writer payload

/-- A writer that takes everything, such as a buffer. -/
def appendBytes (written bytes : List UInt8) : List UInt8 × Option String := (written ++ bytes, none)

def writeFrames : List UInt8 → List Message → Option (List UInt8)
  | written, [] => some written
  | written, msg :: rest =>
    match writeFrame codec appendBytes written msg with
    | (_, some _) => none
    | (written, none) => writeFrames written rest

/-! ## Frames -/

structure Framed (msg : Message) (bytes : List UInt8) : Prop where
  shape : ∃ payload, bytes = putUint32 payload.length ++ payload ∧
    payload.length ≤ maxFrameBytes ∧ codec.unmarshal payload = .ok msg

variable {codec} {stream : Stream UInt8}

/-- The payload that a reader asks for. -/
def Demand.payloadSize : Demand → Nat
  | .header _ => 0
  | .allocate size => size
  | .payload size => size

theorem readFrame_framed {msg : Message} {bytes rest : List UInt8}
    (framed : Framed codec msg bytes) (given : stream.bytes = bytes ++ rest) :
    (readFrame codec stream).result = .ok msg ∧ (readFrame codec stream).rest.bytes = rest := by
  obtain ⟨payload, rfl, bounded, parsed⟩ := framed.shape
  rw [List.append_assoc] at given
  have header := readFull_append given
  rw [length_putUint32] at header
  have body := readFull_append header.2
  have length : uint32 (putUint32 payload.length) = payload.length :=
    uint32_putUint32 (Nat.lt_of_le_of_lt bounded (by decide))
  simp only [readFrame, header.1, length, if_neg (Nat.not_lt.mpr bounded), readPayload, body.1,
    parsed]
  exact ⟨trivial, body.2⟩

theorem readFrame_empty (empty : stream.bytes = []) :
    (readFrame codec stream).result = .error (shortRead stream.ending ([] : List UInt8)) := by
  have short : stream.bytes.length < 4 := by
    rw [empty]
    decide
  have failed := readFull_short short
  rw [empty] at failed
  simp only [readFrame, failed]

-- A frame of which a part came: nothing of the payload is there yet behind the length.
theorem readFrame_cut {msg : Message} {part more : List UInt8}
    (framed : Framed codec msg (part ++ more)) (cut : more ≠ []) (given : stream.bytes = part) :
    (readFrame codec stream).result = .error (shortRead stream.ending
      (if part.length < 4 then part else part.drop 4)) := by
  obtain ⟨payload, whole, bounded, _⟩ := framed.shape
  by_cases short : part.length < 4
  · have failed := readFull_short (given.symm ▸ short)
    rw [given] at failed
    simp only [readFrame, failed, if_pos short]
  · have front := congrArg (List.take 4) whole
    have back := congrArg (List.drop 4) whole
    rw [List.take_append_of_le_length (by omega), List.take_left' (length_putUint32 _)] at front
    rw [List.drop_append_of_le_length (by omega), List.drop_left' (length_putUint32 _)] at back
    rw [← List.take_append_drop 4 part, front] at given
    have header := readFull_append given
    rw [length_putUint32] at header
    have fewer : (readFull 4 stream).2.bytes.length < payload.length := by
      have missing := List.length_pos_iff.mpr cut
      rw [header.2, ← back, List.length_append]
      omega
    have body := readFull_short fewer
    rw [header.2] at body
    have length : uint32 (putUint32 payload.length) = payload.length :=
      uint32_putUint32 (Nat.lt_of_le_of_lt bounded (by decide))
    simp only [readFrame, header.1, length, if_neg (Nat.not_lt.mpr bounded), readPayload, body,
      if_neg short]
    rfl

theorem readPayload_stream (n : Nat) (stream : Stream UInt8) :
    (readPayload codec n stream).demands = [.header 4, .allocate n, .payload n] ∧
      (readPayload codec n stream).rest = (readFull n stream).2 := by
  simp only [readPayload]
  split
  · exact ⟨rfl, rfl⟩
  · split <;> exact ⟨rfl, rfl⟩

-- A call asks for the header and for at most one payload within the limit.
theorem readFrame_cases (codec : Codec) (stream : Stream UInt8) :
    (readFrame codec stream).demands = [.header 4] ∧
        (readFrame codec stream).rest = (readFull 4 stream).2 ∧
        (∃ err, (readFrame codec stream).result = .error err) ∨
      ∃ n header, (readFull 4 stream).1 = .ok header ∧ n ≤ maxFrameBytes ∧
        readFrame codec stream = readPayload codec n (readFull 4 stream).2 := by
  simp only [readFrame]
  split
  · exact Or.inl ⟨rfl, rfl, _, rfl⟩
  · rename_i header read
    split
    · exact Or.inl ⟨rfl, rfl, _, rfl⟩
    · rename_i bounded
      exact Or.inr ⟨uint32 header, header, read, Nat.le_of_not_lt bounded, rfl⟩

theorem readFrame_ending : (readFrame codec stream).rest.ending = stream.ending := by
  rcases readFrame_cases codec stream with ⟨_, rest, _⟩ | ⟨n, _, _, _, whole⟩
  · rw [rest]
    rfl
  · rw [whole, (readPayload_stream n _).2]
    rfl

theorem readFrame_bounded (codec : Codec) (stream : Stream UInt8) :
    (∀ demand ∈ (readFrame codec stream).demands, demand.payloadSize ≤ maxFrameBytes) ∧
      stream.bytes.length ≤ (readFrame codec stream).rest.bytes.length + (4 + maxFrameBytes) := by
  have header := readFull_consumes 4 stream
  rcases readFrame_cases codec stream with
    ⟨demands, rest, _⟩ | ⟨n, _, _, bounded, whole⟩
  · rw [demands, rest]
    refine ⟨by decide, ?_⟩
    omega
  · have payload := readFull_consumes n (readFull 4 stream).2
    rw [whole, (readPayload_stream n _).1, (readPayload_stream n _).2]
    refine ⟨?_, by omega⟩
    intro demand member
    simp only [List.mem_cons, List.not_mem_nil, or_false] at member
    rcases member with rfl | rfl | rfl
    · exact Nat.zero_le _
    · exact bounded
    · exact bounded

theorem readFrame_shrinks {msg : Message} (read : (readFrame codec stream).result = .ok msg) :
    (readFrame codec stream).rest.bytes.length < stream.bytes.length := by
  rcases readFrame_cases codec stream with
    ⟨_, _, err, failed⟩ | ⟨n, header, begun, _, whole⟩
  · rw [failed] at read
    cases read
  · have taken := readFull_ok begun
    have payload := readFull_consumes n (readFull 4 stream).2
    rw [whole, (readPayload_stream n _).2, taken.2, List.length_append]
    omega

theorem readFrames_framed {msgs : List Message} {frames : List (List UInt8)}
    (framed : List.Forall₂ (Framed codec) msgs frames) (given : stream.bytes = frames.flatten) :
    readFrames codec (msgs.length + 1) stream =
      msgs.map .ok ++ [.error (shortRead stream.ending ([] : List UInt8))] := by
  induction framed generalizing stream with
  | nil =>
    rw [List.length_nil, readFrames, readFrame_empty given]
    rfl
  | cons head tail ih =>
    have read := readFrame_framed head given
    rw [List.length_cons, readFrames, read.1, ih read.2, readFrame_ending]
    rfl

-- A buffer takes a frame or nothing, whatever it holds already.
theorem writeFrame_append (codec : Codec) (written : List UInt8) (msg : Message) :
    (∃ frame, writeFrame codec appendBytes [] msg = (frame, none) ∧
        writeFrame codec appendBytes written msg = (written ++ frame, none)) ∨
      ∃ err, writeFrame codec appendBytes [] msg = ([], some err) ∧
        writeFrame codec appendBytes written msg = (written, some err) := by
  simp only [writeFrame]
  split
  · exact Or.inr ⟨_, rfl, rfl⟩
  · split
    · exact Or.inr ⟨_, rfl, rfl⟩
    · simp only [appendBytes]
      exact Or.inl ⟨_, rfl, by simp⟩

theorem writeFrame_framed (inverse : codec.Inverse) {written after : List UInt8} {msg : Message}
    (accepted : writeFrame codec appendBytes written msg = (after, none)) :
    ∃ frame, after = written ++ frame ∧ Framed codec msg.versioned frame := by
  rw [writeFrame] at accepted
  split at accepted
  · cases accepted
  · rename_i payload marshalled
    split at accepted
    · cases accepted
    · rename_i bounded
      simp only [appendBytes] at accepted
      cases accepted
      exact ⟨putUint32 payload.length ++ payload, by rw [List.append_assoc],
        ⟨payload, rfl, by omega, inverse _ _ marshalled⟩⟩

theorem writeFrames_framed (inverse : codec.Inverse) {msgs : List Message}
    {written after : List UInt8} (accepted : writeFrames codec written msgs = some after) :
    ∃ frames, after = written ++ frames.flatten ∧
      List.Forall₂ (Framed codec) (msgs.map Message.versioned) frames := by
  induction msgs generalizing written with
  | nil =>
    cases accepted
    exact ⟨[], by simp, .nil⟩
  | cons msg rest ih =>
    rw [writeFrames] at accepted
    split at accepted
    · cases accepted
    · rename_i middle first
      obtain ⟨frame, rfl, head⟩ := writeFrame_framed inverse first
      obtain ⟨frames, rfl, tail⟩ := ih accepted
      exact ⟨frame :: frames, by simp, .cons head tail⟩

/-- What is written is read back, in every segmentation: messages that were accepted
come back in order with their version filled in, and then the end of the stream. No
stream makes the reader ask for more than a payload within the limit. -/
theorem frames_read_back (codec : Codec) (inverse : codec.Inverse) :
    (∀ msgs written segments, writeFrames codec [] msgs = some written →
        segments.flatten = written →
        readFrames codec (msgs.length + 1) ⟨segments, .eof⟩ =
          (msgs.map fun msg => .ok msg.versioned) ++ [.error .eof]) ∧
      (∀ msg frame, writeFrame codec appendBytes [] msg = (frame, none) →
        ∀ stream rest, stream.bytes = frame ++ rest →
          (readFrame codec stream).result = .ok msg.versioned) ∧
      ∀ stream,
        (∀ demand ∈ (readFrame codec stream).demands, demand.payloadSize ≤ maxFrameBytes) ∧
          stream.bytes.length ≤
            (readFrame codec stream).rest.bytes.length + (4 + maxFrameBytes) := by
  refine ⟨?_, ?_, readFrame_bounded codec⟩
  · intro msgs written segments accepted delivered
    obtain ⟨frames, whole, framed⟩ := writeFrames_framed inverse accepted
    have given : (Stream.mk segments Ending.eof).bytes = frames.flatten := delivered.trans whole
    have read := readFrames_framed framed given
    rw [List.length_map, List.map_map] at read
    exact read
  · intro msg frame accepted stream rest given
    obtain ⟨bytes, whole, framed⟩ := writeFrame_framed inverse accepted
    rw [List.nil_append] at whole
    rw [whole] at given
    exact (readFrame_framed framed given).1

/-- A call of `ping` and its JSON. -/
def pingRequest : Message := { jsonrpc := "2.0", id := "1", method := "ping" }

def pingJson : List UInt8 :=
  "\x7b\"jsonrpc\":\"2.0\",\"id\":1,\"method\":\"ping\"\x7d".toList.map fun char =>
    UInt8.ofNat char.toNat

/-- The codec on that call alone. -/
def pingCodec : Codec where
  marshal msg := if msg = pingRequest then .ok pingJson else .error "unsupported"
  unmarshal payload := if payload = pingJson then .ok pingRequest else .error "unsupported"

theorem pingCodec_inverse : pingCodec.Inverse := by
  intro msg payload marshalled
  simp only [pingCodec] at marshalled ⊢
  split at marshalled
  · rename_i same
    cases marshalled
    rw [if_pos rfl, same]
  · cases marshalled

def pingFrame : List UInt8 := putUint32 pingJson.length ++ pingJson

theorem ping_read_back_bytewise :
    readFrames pingCodec 3 ⟨(pingFrame ++ pingFrame).map (fun byte => [byte]), .eof⟩ =
      [.ok pingRequest, .ok pingRequest, .error .eof] := by
  refine (frames_read_back pingCodec pingCodec_inverse).1
    [{ pingRequest with jsonrpc := "" }, pingRequest] (pingFrame ++ pingFrame) _ ?_ ?_
  · rfl
  · rw [← List.flatMap_def, List.flatMap_singleton']

end Onetcli.Ipc
