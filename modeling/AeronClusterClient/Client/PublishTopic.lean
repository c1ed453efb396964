/- module: AeronClusterClient/Client/PublishTopic
   source: src/cluster_client.cpp (publish_topic, offer_ingress, remember_outgoing, on_ack_default),
   include/model/TopicMessage.h
   digest: The second way to publish builds a whole frame and hands it to nobody. -/

import AeronClusterClient.Client.Operations
import AeronClusterClient.Lib.FirstMatch
import AeronClusterClient.Sbe.MessageHandler

/-!
`publish_topic` encodes its message itself and gives it to `offer_ingress`, which is
a placeholder. What is left of a call is its entry in the table of messages that
wait for their acknowledgment.
-/

set_option autoImplicit false
set_option relaxedAutoImplicit false

namespace AeronClusterClient.Client.PublishTopic

open Lib.Action Lib.Bytes Lib.LittleEndian Lib.Runs
open Lib.FirstMatch (append_singleton_eq_append_cons)
open Client.State Client.Operations Sbe.GeneratedCodec Sbe.Encoder Sbe.Parser Sbe.TopicFormats
open Json (Jsoncpp)
open Config (ClusterClientConfig)
open Sbe.MessageHandler (AckInfo)
open Text (StdString ascii stdToString)

section Frames

/-- What a length parameter of 16 bits leaves of a text. -/
def cut (s : StdString) : StdString := s.take (s.length % 65536)

/-- `wrapForEncode` of a topic message. -/
def wrapForEncode (offset bufferLength : Nat) : Encode Unit := do
  modify (fun e => { e with fly :=
    { mBufferLength := bufferLength
      mOffset := offset
      mPosition := e.fly.mPosition
      mActingBlockLength := TopicMessage.sbeBlockLength
      mActingVersion := TopicMessage.sbeSchemaVersion } })
  moveTo (offset + TopicMessage.sbeBlockLength)

/-- The body shared by the generated `put…` members that take a pointer and a length. -/
def putChars (src : StdString) : Encode Unit := do
  let length := src.length % 65536
  let lengthPosition := (← get).fly.mPosition
  moveTo (lengthPosition + 2)
  write lengthPosition (toBytes 2 length)
  if length ≠ 0 then
    let pos := (← get).fly.mPosition
    moveTo (pos + length)
    write pos (src.take length)

/-- The four setters of the header. -/
def putMessageHeader : Encode Unit := do
  write 0 (toBytes 2 TopicMessage.sbeBlockLength)
  write 2 (toBytes 2 TopicMessage.sbeTemplateId)
  write 4 (toBytes 2 TopicMessage.sbeSchemaId)
  write 6 (toBytes 2 TopicMessage.sbeSchemaVersion)

def fillTopicMessage (size : Nat) (topic messageType uuid payload headers : StdString) (ts : Nat) :
    Encode Unit := do
  putMessageHeader
  wrapForEncode 8 (size - 8)
  putTimestamp ts
  putSequenceNumber 0
  putChars topic
  putChars messageType
  putChars uuid
  putChars payload
  putChars headers

/-- The frame that `publish_topic` builds; its last `resize` adds the header to the length. -/
def topicBuffer (topic messageType uuid payload headers : StdString) (ts : Nat) :
    Except StdString (List UInt8) :=
  let size := 8 + 8 + topic.length + messageType.length + uuid.length + payload.length +
    headers.length + 128
  match (fillTopicMessage size topic messageType uuid payload headers ts).run
      { buffer := List.replicate size 0 } with
  | .ok _ e => .ok (resize e.buffer (8 + e.fly.encodedLength))
  | .error message _ => .error message

theorem length_cut (s : StdString) : (cut s).length = s.length % 65536 := by
  rw [cut, List.length_take]
  exact Nat.min_eq_left (Nat.mod_le _ _)

theorem cut_of_short {s : StdString} (short : s.length < 65536) : cut s = s := by
  rw [cut, Nat.mod_eq_of_lt short, List.take_length]

theorem putChars_written {bytes : List UInt8} {room : Nat} {fly : Flyweight} {src : StdString}
    (fits : bytes.length + 2 + src.length ≤ fly.mBufferLength) :
    (putChars src).run (.written bytes room fly) =
      .ok () (.written (bytes ++ varData (cut src)) (room - (2 + (cut src).length)) fly) := by
  have small : src.length % 65536 ≤ src.length := Nat.mod_le _ _
  have whole : toBytes 2 (cut src).length ++ cut src = varData (cut src) := rfl
  unfold putChars Encoding.written
  simp only [EStateM.run_bind, EStateM.run_get]
  rw [moveTo_of_le (by simp only; omega)]
  simp only
  rw [write_zeros rfl]
  simp only
  by_cases empty : src.length % 65536 = 0
  · have none : cut src = [] := by rw [cut, empty, List.take_zero]
    rw [if_neg (not_not.mpr empty), ← whole, none, empty]
    simp
  · rw [if_pos empty]
    simp only [EStateM.run_bind, EStateM.run_get]
    rw [moveTo_of_le (by simp only; omega)]
    simp only
    rw [write_zeros (by simp)]
    rw [← whole, length_cut]
    simp [cut, Nat.sub_sub, Nat.add_assoc, small]

variable {topic messageType uuid payload headers : StdString}

theorem putMessageHeader_zeros {room : Nat} {fly : Flyweight} (fits : 8 ≤ room) :
    putMessageHeader.run { buffer := List.replicate room 0, fly := fly } =
      .ok () { buffer := TopicMessage.header.bytes ++ List.replicate (room - 8) 0, fly := fly } := by
  unfold putMessageHeader
  simp only [EStateM.run_bind]
  rw [← List.nil_append (List.replicate room 0), write_zeros (by simp)]
  simp only
  rw [write_zeros (by simp)]
  simp only
  rw [write_zeros (by simp)]
  simp only
  rw [write_zeros (by simp)]
  have rest : room - 2 - 2 - 2 - 2 = room - 8 := by omega
  simp [MessageHeader.bytes, TopicMessage.header, rest]

def wrapped (bufferLength : Nat) : Flyweight :=
  { mBufferLength := bufferLength
    mOffset := 8
    mPosition := 24
    mActingBlockLength := TopicMessage.sbeBlockLength
    mActingVersion := TopicMessage.sbeSchemaVersion }

theorem wrapForEncode_run {e : Encoding} {bufferLength : Nat} (fits : 24 ≤ bufferLength) :
    (wrapForEncode 8 bufferLength).run e = .ok () { e with fly := wrapped bufferLength } := by
  unfold wrapForEncode
  rw [EStateM.run_bind, EStateM.run_modify]
  dsimp only
  rw [moveTo_of_le (by exact fits)]
  rfl

/-- The frame is whole, and the flyweight never runs out of its buffer. -/
theorem topicBuffer_eq (ts : Nat) : topicBuffer topic messageType uuid payload headers ts =
    .ok (topicFrame ts 0 (cut topic) (cut messageType) (cut uuid) (cut payload) (cut headers)) := by
  have bound (s : StdString) : (cut s).length ≤ s.length := by
    rw [length_cut]
    exact Nat.mod_le _ _
  have t := bound topic
  have m := bound messageType
  have u := bound uuid
  have p := bound payload
  have h := bound headers
  generalize sized : 8 + 8 + topic.length + messageType.length + uuid.length + payload.length +
    headers.length + 128 = size
  let front := TopicMessage.header.bytes ++ toBytes 8 ts ++ toBytes 8 0
  have length : front.length = 24 := by simp [front, MessageHeader.bytes]
  have run : ∃ room, (fillTopicMessage size topic messageType uuid payload headers ts).run
      { buffer := List.replicate size 0 } =
        .ok () (.written (front ++ varData (cut topic) ++ varData (cut messageType) ++
          varData (cut uuid) ++ varData (cut payload) ++ varData (cut headers)) room
          (wrapped (size - 8))) := by
    have start (room : Nat) : (⟨front ++ List.replicate room 0, wrapped (size - 8)⟩ : Encoding) =
        .written front room (wrapped (size - 8)) := by
      rw [Encoding.written, length]
      rfl
    have limit : (wrapped (size - 8)).mBufferLength = size - 8 := rfl
    unfold fillTopicMessage
    simp only [EStateM.run_bind]
    rw [putMessageHeader_zeros (by omega)]
    dsimp only
    rw [wrapForEncode_run (by omega)]
    dsimp only
    rw [putTimestamp_zeros rfl]
    dsimp only
    rw [putSequenceNumber_zeros rfl]
    dsimp only
    rw [start, putChars_written (by omega)]
    dsimp only
    rw [putChars_written (by simp only [List.length_append, length_varData]; omega)]
    dsimp only
    rw [putChars_written (by simp only [List.length_append, length_varData]; omega)]
    dsimp only
    rw [putChars_written (by simp only [List.length_append, length_varData]; omega)]
    dsimp only
    rw [putChars_written (by simp only [List.length_append, length_varData]; omega)]
    exact ⟨_, rfl⟩
  obtain ⟨room, run⟩ := run
  unfold topicBuffer
  rw [sized]
  dsimp only
  rw [run]
  have frame : front ++ varData (cut topic) ++ varData (cut messageType) ++ varData (cut uuid) ++
      varData (cut payload) ++ varData (cut headers) = topicFrame ts 0 (cut topic) (cut messageType)
        (cut uuid) (cut payload) (cut headers) := rfl
  rw [frame]
  generalize whole : topicFrame ts 0 (cut topic) (cut messageType) (cut uuid) (cut payload)
    (cut headers) = bytes
  have long : 8 ≤ bytes.length := by
    rw [← whole, length_topicFrame]
    omega
  change Except.ok (resize (bytes ++ List.replicate room 0) (8 + (bytes.length - 8))) = _
  rw [Nat.add_sub_cancel' long, resize_of_le (by simp), List.take_left]

/-- The other encoder makes the same frame and loses the end of it. -/
theorem encodeTopicMessage_rdrop (short : FieldsFit topic messageType uuid payload headers)
    {ts : Nat} (fits : ts < 2 ^ 63) (given : ts ≠ 0) (now : Int) {frame : List UInt8}
    (built : topicBuffer topic messageType uuid payload headers ts = .ok frame) :
    encodeTopicMessage topic messageType uuid payload headers ts now = .ok (frame.rdrop 8) := by
  have whole {s : StdString} (fits : s.length ≤ 65534) : cut s = s := cut_of_short (by omega)
  rw [topicBuffer_eq, whole short.topic, whole short.messageType, whole short.uuid,
    whole short.payload, whole short.headers] at built
  cases built
  have same : unsigned 8 (ts : Int) = ts := by
    unfold unsigned
    omega
  rw [encodeTopicMessage_eq short (by omega) now, same]

end Frames

section RoundTrip

variable {topic messageType uuid payload headers : StdString} {ts : Nat} {frame : List UInt8}

theorem topicFrame_eq_messageFrame : topicFrame ts 0 topic messageType uuid payload headers =
    messageFrame 1 (toBytes 8 ts ++ toBytes 8 0) topic messageType uuid payload headers := by
  simp [topicFrame, messageFrame, fields, TopicMessage.header, TopicMessage.sbeBlockLength,
    TopicMessage.sbeTemplateId, TopicMessage.sbeSchemaId, TopicMessage.sbeSchemaVersion]

/-- What `publish_topic` builds decodes to what it was given, wherever it lies in memory; the other
encoder makes the same frame for the same arguments and loses the last eight bytes of it, unless the
timestamp is 0, for which it takes the clock. -/
theorem publishTopic_frame_decodes (json : Jsoncpp) (mem : Memory) (data : Nat)
    (short : FieldsFit topic messageType uuid payload headers) (small : ts < 2 ^ 63)
    (built : topicBuffer topic messageType uuid payload headers ts = .ok frame)
    (held : Holds mem data frame) :
    (∃ r, returned (decodeTopicMessageWithSbe mem json data frame.length) [] = some r ∧
      r.success = true ∧ r.messageType = messageType ∧ r.messageId = uuid ∧ r.payload = payload ∧
      r.headers = headers ∧ r.timestamp = ts) ∧
    (ts ≠ 0 → ∀ now, encodeTopicMessage topic messageType uuid payload headers ts now =
      .ok (frame.rdrop 8)) := by
  refine ⟨?_, fun given now => encodeTopicMessage_rdrop short small given now built⟩
  have whole {s : StdString} (fits : s.length ≤ 65534) : cut s = s := cut_of_short (by omega)
  rw [topicBuffer_eq, whole short.topic, whole short.messageType, whole short.uuid,
    whole short.payload, whole short.headers, topicFrame_eq_messageFrame] at built
  cases built
  have strings : Short topic messageType uuid payload headers := by
    have each := short
    intro s among
    simp only [List.mem_cons, List.not_mem_nil, or_false] at among
    rcases among with rfl | rfl | rfl | rfl | rfl
    · exact Nat.lt_succ_of_lt (Nat.lt_succ_of_le each.topic)
    · exact Nat.lt_succ_of_lt (Nat.lt_succ_of_le each.messageType)
    · exact Nat.lt_succ_of_lt (Nat.lt_succ_of_le each.uuid)
    · exact Nat.lt_succ_of_lt (Nat.lt_succ_of_le each.payload)
    · exact Nat.lt_succ_of_lt (Nat.lt_succ_of_le each.headers)
  obtain ⟨header, fixed, ahead⟩ := holds_messageFrame held
  rw [length_messageFrame]
  have block : (toBytes 8 ts ++ toBytes 8 0).length = 16 := by simp
  rw [block] at header ahead ⊢
  have longest : (fields [topic, messageType, uuid, payload, headers]).length ≤ 65537 * 5 :=
    length_fields_le strings
  have same : headerAt mem data = ⟨16, 1, 1, 1⟩ := headerAt_of_holds header
  generalize size : (fields [topic, messageType, uuid, payload, headers]).length = n at longest
  have limit : intBufferLength (8 + 16 + n) = 8 + 16 + n := intBufferLength_of_lt (by omega)
  let fly : Flyweight :=
    { mBufferLength := intBufferLength (8 + 16 + n)
      mOffset := 8
      mPosition := 8 + 16
      mActingBlockLength := 16
      mActingVersion := 1 }
  obtain ⟨log, handed⟩ : ∃ log, (readTopicMessage mem json data (8 + 16 + n)).run [] =
      (readTopicFields mem json data ⟨16, 1, 1, 1⟩ fly).run log :=
    readTopicMessage_of_header same (by omega) rfl rfl
      (by rw [limit]; exact Nat.le_add_right _ n)
  have lies : Ahead mem data fly [topic, messageType, uuid, payload, headers] :=
    ⟨strings, ahead, by rw [size]; exact limit.ge⟩
  obtain ⟨r, after, run, success, typeSame, uuidSame, payloadSame, headersSame, stamp⟩ :=
    readTopicFields_of_ahead lies
  have decoded : (decodeTopicMessageWithSbe mem json data (8 + 16 + n)).run [] = .ok r after :=
    tryCatch_of_ok (handed.trans run)
  refine ⟨r, returned_eq_some.mpr ⟨after, decoded⟩, success, typeSame, uuidSame, payloadSame,
    headersSame, ?_⟩
  have least : 8 ≤ (toBytes 8 ts ++ toBytes 8 0).length := by rw [block]; decide
  rw [stamp]
  change signed 8 (ofBytes (bytesAt mem (data + 8) 8)) = ts
  rw [bytesAt_block least fixed, List.take_left' (length_toBytes 8 ts),
    ofBytes_toBytes_of_lt (by omega)]
  unfold signed
  rw [if_pos (by omega)]

def orderFrame : List UInt8 :=
  topicFrame 1700000000000000000 0 (ascii "orders") (ascii "CREATE_ORDER") (ascii "pub_1")
    (ascii "[1]") (ascii "{}")

theorem publishTopic_frame_decodes_sample :
    ∃ r, returned (decodeTopicMessageWithSbe (memoryOf 4096 orderFrame) Json.plainJson 4096
        orderFrame.length) [] = some r ∧ r.success = true ∧ r.messageType = ascii "CREATE_ORDER" ∧
      r.messageId = ascii "pub_1" ∧ r.payload = ascii "[1]" ∧ r.headers = ascii "{}" ∧
      r.timestamp = (1700000000000000000 : Nat) := by
  have built : topicBuffer (ascii "orders") (ascii "CREATE_ORDER") (ascii "pub_1") (ascii "[1]")
      (ascii "{}") 1700000000000000000 = .ok orderFrame := by
    rw [topicBuffer_eq]
    rfl
  have short : FieldsFit (ascii "orders") (ascii "CREATE_ORDER") (ascii "pub_1") (ascii "[1]")
      (ascii "{}") := ⟨by decide, by decide, by decide, by decide, by decide⟩
  exact (publishTopic_frame_decodes Json.plainJson (memoryOf 4096 orderFrame) 4096 short (by decide)
    built (holds_memoryOf 4096 orderFrame)).1

end RoundTrip

section Facade

/-- `ClusterClient`: the implementation, and `inflight_`. -/
structure ClusterClient where
  impl : Impl
  inflight : AList (fun _ : StdString => Nat) := ∅

abbrev FacadeM := EStateM Raised ClusterClient

def onImpl {α : Type} (x : ClientM α) : FacadeM α := fun k =>
  match x.run k.impl with
  | .ok a c => .ok a { k with impl := c }
  | .error raised c => .error raised { k with impl := c }

/-- `emplace`: an entry that is there stays. -/
def rememberOutgoing (uuid : StdString) (tsNanos : Nat) : FacadeM Unit :=
  modify fun k =>
    if uuid ∈ k.inflight then k else { k with inflight := k.inflight.insert uuid tsNanos }

/-- The placeholder: the data is not looked at. -/
def offerIngress (_data : List UInt8) : FacadeM Bool := do
  onImpl throwIfDriverTerminated
  return (← onImpl get).isConnected

/-- The clock is read for the identifier and again for the timestamp; `meanwhile` is what other
threads do with the client while the frame is built. -/
def publishTopic (uuidNanos tsNanos : Nat) (meanwhile : List Step)
    (topic messageType jsonPayload headersJson : StdString) : FacadeM StdString := do
  onImpl throwIfDriverTerminated
  if !(← onImpl get).isConnected then
    throw (.exception (ascii "Client is not connected to cluster"))
  let uuid := ascii "pub_" ++ stdToString uuidNanos
  let hdrs := if headersJson.isEmpty then ascii "{}" else headersJson
  let buf ← onImpl (orThrow (topicBuffer topic messageType uuid jsonPayload hdrs tsNanos))
  onImpl (modify fun c => stateAfter take c meanwhile)
  if ← offerIngress buf then rememberOutgoing uuid tsNanos
  return uuid

/-- What an acknowledgment prints: a time in nanoseconds, measured or estimated. -/
inductive Report
  | measured (rttNanos : Int)
  | estimated (rttNanos : Int)
  deriving DecidableEq, Repr

/-- `on_ack_default`; the differences are taken in signed 64 bits. -/
def onAckDefault (ack : AckInfo) (now : Nat) : FacadeM Report := do
  let k ← get
  match if ack.messageId.isEmpty then none else k.inflight.lookup ack.messageId with
  | some sendNs =>
      modify fun k => { k with inflight := k.inflight.erase ack.messageId }
      return .measured (signed 8 (unsigned 8 (now - sendNs)))
  | none => return .estimated (signed 8 (unsigned 8 (now - ack.timestampNanos)))

/-- A call that reaches a `ClusterClient`. -/
inductive Turn
  | impl (step : Step)
  | publishTopic (uuidNanos tsNanos : Nat) (meanwhile : List Step)
      (topic messageType jsonPayload headersJson : StdString)
  | ack (info : AckInfo) (now : Nat)

def turn : Turn → ClusterClient → ClusterClient
  | .impl step, k => { k with impl := take step k.impl }
  | .publishTopic uuidNanos tsNanos meanwhile topic messageType jsonPayload headersJson, k =>
      finalState (publishTopic uuidNanos tsNanos meanwhile topic messageType jsonPayload headersJson) k
  | .ack info now, k => finalState (onAckDefault info now) k

end Facade

section Effects

variable {k : ClusterClient} {uuid : StdString} {ts : Nat}

/-- The driver is alive and the client is connected. -/
def Ready (c : Impl) : Prop := c.fatalErrorDetected = false ∧ c.isConnected = true

instance (c : Impl) : Decidable (Ready c) := inferInstanceAs (Decidable (_ ∧ _))

/-- The call gets as far as to enter its identifier. -/
def Remembers : Turn → ClusterClient → StdString → Nat → Prop
  | .publishTopic uuidNanos tsNanos meanwhile _ _ _ _, k, uuid, ts =>
      uuid = ascii "pub_" ++ stdToString uuidNanos ∧ ts = tsNanos ∧ Ready k.impl ∧
        Ready (stateAfter take k.impl meanwhile)
  | _, _, _, _ => False

def Acks : Turn → StdString → Prop
  | .ack info _, uuid => info.messageId = uuid ∧ uuid ≠ []
  | _, _ => False

/-- What other threads do with the implementation during a turn. -/
def stepsOf : Turn → ClusterClient → List Step
  | .impl step, _ => [step]
  | .publishTopic _ _ meanwhile _ _ _ _, k => if Ready k.impl then meanwhile else []
  | .ack _ _, _ => []

theorem throwIfDriverTerminated_run (c : Impl) :
    if c.fatalErrorDetected then ∃ raised, throwIfDriverTerminated.run c = .error raised c
    else throwIfDriverTerminated.run c = .ok () c := by
  unfold throwIfDriverTerminated
  rw [EStateM.run_bind, EStateM.run_get]
  dsimp only
  cases c.fatalErrorDetected with
  | true => exact ⟨_, rfl⟩
  | false => rfl

theorem onImpl_run {α : Type} (x : ClientM α) (k : ClusterClient) : (onImpl x).run k =
    match x.run k.impl with
    | .ok a c => .ok a { k with impl := c }
    | .error raised c => .error raised { k with impl := c } := rfl

theorem guards_run {α : Type} (rest : FacadeM α) (k : ClusterClient) :
    finalState (do
      onImpl throwIfDriverTerminated
      if !(← onImpl get).isConnected then
        throw (.exception (ascii "Client is not connected to cluster"))
      rest) k = if Ready k.impl then finalState rest k else k := by
  have health := throwIfDriverTerminated_run k.impl
  cases failed : k.impl.fatalErrorDetected with
  | true =>
      rw [failed, if_pos rfl] at health
      obtain ⟨raised, health⟩ := health
      have thrown : (onImpl throwIfDriverTerminated).run k = .error raised k := by
        rw [onImpl_run, health]
      rw [finalState_bind_of_error thrown, if_neg]
      exact fun ready => absurd ready.1 (by simp [failed])
  | false =>
      rw [failed, if_neg (by simp)] at health
      have passed : (onImpl throwIfDriverTerminated).run k = .ok () k := by
        rw [onImpl_run, health]
      have got : (onImpl get).run k = .ok k.impl k := rfl
      rw [finalState_bind_of_ok passed, finalState_bind_of_ok got]
      cases connected : k.impl.isConnected with
      | true =>
          have ready : Ready k.impl := ⟨failed, connected⟩
          exact (if_pos ready).symm
      | false =>
          have unready : ¬ Ready k.impl := fun ready => absurd ready.2 (by simp [connected])
          exact (if_neg unready).symm

theorem finalState_remember (buf : List UInt8) (uuid : StdString) (ts : Nat) (k : ClusterClient) :
    finalState (do
      if ← offerIngress buf then rememberOutgoing uuid ts
      return uuid) k =
      if Ready k.impl ∧ uuid ∉ k.inflight then { k with inflight := k.inflight.insert uuid ts }
      else k := by
  have health := throwIfDriverTerminated_run k.impl
  cases failed : k.impl.fatalErrorDetected with
  | true =>
      rw [failed, if_pos rfl] at health
      obtain ⟨raised, health⟩ := health
      have thrown : (offerIngress buf).run k = .error raised k := by
        unfold offerIngress
        rw [EStateM.run_bind, onImpl_run, health]
      rw [finalState_bind_of_error thrown, if_neg]
      exact fun both => absurd both.1.1 (by simp [failed])
  | false =>
      rw [failed, if_neg (by simp)] at health
      have answered : (offerIngress buf).run k = .ok k.impl.isConnected k := by
        unfold offerIngress
        rw [EStateM.run_bind, onImpl_run, health]
        rfl
      rw [finalState_bind_of_ok answered]
      cases connected : k.impl.isConnected with
      | true =>
          have ready : Ready k.impl := ⟨failed, connected⟩
          change finalState (rememberOutgoing uuid ts >>= fun _ => pure uuid) k = _
          rw [finalState_bind_pure]
          by_cases known : uuid ∈ k.inflight
          · exact (if_pos known).trans (if_neg fun both => both.2 known).symm
          · exact (if_neg known).trans (if_pos ⟨ready, known⟩).symm
      | false =>
          have unready : ¬ Ready k.impl := fun ready => absurd ready.2 (by simp [connected])
          exact (if_neg fun both => unready both.1).symm

theorem finalState_publishTopic (uuidNanos tsNanos : Nat) (meanwhile : List Step)
    (topic messageType jsonPayload headersJson : StdString) (k : ClusterClient) :
    finalState (publishTopic uuidNanos tsNanos meanwhile topic messageType jsonPayload headersJson)
        k =
      if Ready k.impl then
        { impl := stateAfter take k.impl meanwhile
          inflight :=
            if Ready (stateAfter take k.impl meanwhile) ∧
                ascii "pub_" ++ stdToString uuidNanos ∉ k.inflight then
              k.inflight.insert (ascii "pub_" ++ stdToString uuidNanos) tsNanos
            else k.inflight }
      else k := by
  unfold publishTopic
  rw [guards_run]
  refine ite_congr rfl (fun _ => ?_) fun _ => rfl
  dsimp only
  rw [topicBuffer_eq]
  have built {frame : List UInt8} : (onImpl (orThrow (.ok frame))).run k = .ok frame k := rfl
  have moved : (onImpl (modify fun c => stateAfter take c meanwhile)).run k =
      .ok () { k with impl := stateAfter take k.impl meanwhile } := rfl
  rw [finalState_bind_of_ok built, finalState_bind_of_ok moved, finalState_remember]
  dsimp only
  split <;> rfl

theorem finalState_onAckDefault (info : AckInfo) (now : Nat) (k : ClusterClient) :
    finalState (onAckDefault info now) k =
      if info.messageId ≠ [] then { k with inflight := k.inflight.erase info.messageId } else k := by
  unfold onAckDefault
  have got : (get : FacadeM ClusterClient).run k = .ok k k := rfl
  rw [finalState_bind_of_ok got]
  cases named : info.messageId with
  | nil => rfl
  | cons c rest =>
      rw [if_pos (List.cons_ne_nil c rest)]
      change finalState (match k.inflight.lookup (c :: rest) with
        | some _ => _
        | none => _ : FacadeM Report) k = _
      cases live : k.inflight.lookup (c :: rest) with
      | some sent => rfl
      | none =>
          have absent : c :: rest ∉ k.inflight := AList.lookup_eq_none.mp live
          have same : k.inflight.erase (c :: rest) = k.inflight :=
            AList.ext (List.kerase_of_notMem_keys absent)
          rw [same]
          rfl

theorem onAckDefault_of_live {info : AckInfo} {sent now : Nat} (named : info.messageId ≠ [])
    (live : k.inflight.lookup info.messageId = some sent) : (onAckDefault info now).run k =
      .ok (.measured (signed 8 (unsigned 8 (now - sent))))
        { k with inflight := k.inflight.erase info.messageId } := by
  have looked : (if info.messageId.isEmpty then none else k.inflight.lookup info.messageId) =
      some sent := by
    rw [if_neg (by simpa using named)]
    exact live
  unfold onAckDefault
  rw [EStateM.run_bind, EStateM.run_get]
  dsimp only
  rw [looked]
  rfl

theorem impl_turn (t : Turn) (k : ClusterClient) :
    (turn t k).impl = stateAfter take k.impl (stepsOf t k) := by
  cases t with
  | impl step => rfl
  | publishTopic uuidNanos tsNanos meanwhile topic messageType jsonPayload headersJson =>
      rw [turn, finalState_publishTopic, stepsOf]
      split <;> rfl
  | ack info now =>
      rw [turn, finalState_onAckDefault, stepsOf]
      split <;> rfl

/-- The entry of an identifier after a turn: an acknowledgment takes it away, a publication makes
it when there is none. -/
theorem lookup_turn (t : Turn) (k : ClusterClient) :
    (turn t k).inflight.lookup uuid = some ts ↔ ¬ Acks t uuid ∧
      (k.inflight.lookup uuid = some ts ∨ k.inflight.lookup uuid = none ∧ Remembers t k uuid ts) := by
  cases t with
  | impl step => simp [turn, Acks, Remembers]
  | publishTopic uuidNanos tsNanos meanwhile topic messageType jsonPayload headersJson =>
      rw [turn, finalState_publishTopic]
      generalize named : ascii "pub_" ++ stdToString uuidNanos = name
      have ours : Remembers (.publishTopic uuidNanos tsNanos meanwhile topic messageType jsonPayload
          headersJson) k uuid ts ↔ uuid = name ∧ ts = tsNanos ∧ Ready k.impl ∧
            Ready (stateAfter take k.impl meanwhile) := by
        rw [← named]
        rfl
      rw [ours]
      simp only [Acks, not_false_eq_true, true_and]
      by_cases ready : Ready k.impl
      · rw [if_pos ready]
        dsimp only
        by_cases enters : Ready (stateAfter take k.impl meanwhile) ∧ name ∉ k.inflight
        · rw [if_pos enters]
          by_cases same : uuid = name
          · subst same
            have none := AList.lookup_eq_none.mpr enters.2
            rw [AList.lookup_insert, none]
            simp [ready, enters.1, eq_comm]
          · rw [AList.lookup_insert_ne same]
            simp [same]
        · rw [if_neg enters]
          refine (or_iff_left ?_).symm
          rintro ⟨none, rfl, -, -, still⟩
          exact enters ⟨still, AList.lookup_eq_none.mp none⟩
      · rw [if_neg ready]
        simp [ready]
  | ack info now =>
      rw [turn, finalState_onAckDefault]
      simp only [Remembers, and_false, or_false, Acks]
      by_cases named : info.messageId = []
      · rw [if_neg (not_not.mpr named), named]
        constructor
        · exact fun live => ⟨fun acks => acks.2 acks.1.symm, live⟩
        · exact And.right
      · rw [if_pos named]
        dsimp only
        by_cases same : info.messageId = uuid
        · subst same
          rw [AList.lookup_erase]
          simp [named]
        · rw [AList.lookup_erase_ne (Ne.symm same)]
          simp [same]

end Effects

section Runs

variable (config : ClusterClientConfig) (generated : StdString)

def construct : ClusterClient := { impl := Impl.construct config generated }

def after (turns : List Turn) : ClusterClient :=
  stateAfter turn (construct config generated) turns

def stepsOfRun : ClusterClient → List Turn → List Step
  | _, [] => []
  | k, t :: turns => stepsOf t k ++ stepsOfRun (turn t k) turns

/-- Every publication of the identifier has been acknowledged since. -/
def Answered (turns : List Turn) (uuid : StdString) : Prop :=
  ∀ first t rest ts, turns = first ++ t :: rest → Remembers t (after config generated first) uuid ts →
    ∃ later ∈ rest, Acks later uuid

/-- The identifier was published then, for the first time since its last acknowledgment. -/
def Waits (turns : List Turn) (uuid : StdString) (ts : Nat) : Prop :=
  ∃ first t rest, turns = first ++ t :: rest ∧ Remembers t (after config generated first) uuid ts ∧
    Answered config generated first uuid ∧ ∀ later ∈ rest, ¬ Acks later uuid

variable {config generated} {turns : List Turn} {uuid : StdString} {ts : Nat}

theorem after_append (first rest : List Turn) :
    after config generated (first ++ rest) = stateAfter turn (after config generated first) rest :=
  stateAfter_append turn _ first rest

theorem impl_stateAfter (turns : List Turn) (k : ClusterClient) :
    (stateAfter turn k turns).impl = stateAfter take k.impl (stepsOfRun k turns) := by
  induction turns generalizing k with
  | nil => rfl
  | cons t turns ih =>
      rw [stepsOfRun, stateAfter_append, ← impl_turn]
      exact ih (turn t k)

theorem Remembers.spec {t : Turn} {k : ClusterClient} (remembers : Remembers t k uuid ts) :
    ¬ Acks t uuid ∧ uuid ≠ [] := by
  cases t with
  | publishTopic uuidNanos tsNanos meanwhile topic messageType jsonPayload headersJson =>
      refine ⟨id, ?_⟩
      rw [remembers.1]
      exact List.cons_ne_nil _ _
  | impl step => exact remembers.elim
  | ack info now => exact remembers.elim

theorem waits_append (t : Turn) : Waits config generated (turns ++ [t]) uuid ts ↔ ¬ Acks t uuid ∧
    (Waits config generated turns uuid ts ∨ Answered config generated turns uuid ∧
      Remembers t (after config generated turns) uuid ts) := by
  constructor
  · rintro ⟨first, s, rest, split, remembers, answered, unacked⟩
    rcases append_singleton_eq_append_cons.mp split with ⟨rfl, rfl, rfl⟩ | ⟨mid, rfl, rfl⟩
    · exact ⟨remembers.spec.1, .inr ⟨answered, remembers⟩⟩
    · refine ⟨unacked t (by simp), .inl ⟨first, s, mid, rfl, remembers, answered, ?_⟩⟩
      exact fun later among => unacked later (by simp [among])
  · rintro ⟨unacked, ⟨first, s, rest, rfl, remembers, answered, others⟩ | ⟨answered, remembers⟩⟩
    · refine ⟨first, s, rest ++ [t], by simp, remembers, answered, fun later among => ?_⟩
      rcases List.mem_append.mp among with earlier | here
      · exact others later earlier
      · rwa [List.mem_singleton.mp here]
    · exact ⟨turns, t, [], rfl, remembers, answered, by simp⟩

theorem answered_append (t : Turn) : Answered config generated (turns ++ [t]) uuid ↔
    Acks t uuid ∨ Answered config generated turns uuid ∧
      ∀ ts, ¬ Remembers t (after config generated turns) uuid ts := by
  constructor
  · intro answered
    by_cases acks : Acks t uuid
    · exact .inl acks
    · refine .inr ⟨fun first s rest ts split remembers => ?_, fun ts remembers => ?_⟩
      · obtain ⟨later, among, acked⟩ := answered first s (rest ++ [t]) ts (by simp [split]) remembers
        rcases List.mem_append.mp among with earlier | here
        · exact ⟨later, earlier, acked⟩
        · exact absurd (List.mem_singleton.mp here ▸ acked) acks
      · obtain ⟨later, among, -⟩ := answered turns t [] ts rfl remembers
        cases among
  · rintro (acks | ⟨answered, unremembered⟩) first s rest ts split remembers
    · rcases append_singleton_eq_append_cons.mp split with ⟨rfl, rfl, rfl⟩ | ⟨mid, rfl, rfl⟩
      · exact absurd acks remembers.spec.1
      · exact ⟨t, by simp, acks⟩
    · rcases append_singleton_eq_append_cons.mp split with ⟨rfl, rfl, rfl⟩ | ⟨mid, rfl, rfl⟩
      · exact absurd remembers (unremembered ts)
      · obtain ⟨later, among, acked⟩ := answered first s mid ts rfl remembers
        exact ⟨later, by simp [among], acked⟩

/-- The table is what is waited for, at every moment of every run. -/
theorem lookup_after (turns : List Turn) (uuid : StdString) :
    (∀ ts, (after config generated turns).inflight.lookup uuid = some ts ↔
      Waits config generated turns uuid ts) ∧
    ((after config generated turns).inflight.lookup uuid = none ↔
      Answered config generated turns uuid) := by
  induction turns using List.reverseRecOn with
  | nil =>
      refine ⟨fun ts => ⟨fun live => ?_, ?_⟩, fun _ => ?_, fun _ => rfl⟩
      · cases live
      · rintro ⟨first, t, rest, split, -⟩
        simp at split
      · intro first t rest ts split
        simp at split
  | append_singleton turns t ih =>
      obtain ⟨live, none⟩ := ih
      have step (ts : Nat) : (after config generated (turns ++ [t])).inflight.lookup uuid = some ts ↔
          ¬ Acks t uuid ∧ (Waits config generated turns uuid ts ∨
            Answered config generated turns uuid ∧
              Remembers t (after config generated turns) uuid ts) := by
        rw [after_append, ← live ts, ← none]
        exact lookup_turn t _
      refine ⟨fun ts => (step ts).trans (waits_append t).symm, ?_⟩
      rw [answered_append, Option.eq_none_iff_forall_ne_some]
      simp only [ne_eq, step, ← live, ← none]
      by_cases acks : Acks t uuid
      · simp [acks]
      · cases (after config generated turns).inflight.lookup uuid with
        | none => simp [acks]
        | some sent => simp [acks]

/-- In every run of a client, whatever other threads do between the steps of a call: publishing to
a topic leaves the implementation as the others alone leave it, so that no frame of it is offered
or handed on; an identifier is in the table with a time exactly when it waits since then for its
acknowledgment; and the acknowledgment measures from that time. -/
theorem publishTopic_only_remembers (config : ClusterClientConfig) (generated : StdString)
    (turns : List Turn) :
    (after config generated turns).impl =
      reached config generated (stepsOfRun (construct config generated) turns) ∧
    (∀ uuid ts, (after config generated turns).inflight.lookup uuid = some ts ↔
      Waits config generated turns uuid ts) ∧
    ∀ info ts now, Waits config generated turns info.messageId ts →
      returned (onAckDefault info now) (after config generated turns) =
        some (.measured (signed 8 (unsigned 8 (now - ts)))) := by
  refine ⟨impl_stateAfter turns _, fun uuid => (lookup_after turns uuid).1, fun info ts now waits => ?_⟩
  have live := ((lookup_after turns info.messageId).1 ts).mpr waits
  obtain ⟨first, t, rest, -, remembers, -⟩ := waits
  exact returned_eq_some.mpr ⟨_, onAckDefault_of_live remembers.spec.2 live⟩

end Runs

end AeronClusterClient.Client.PublishTopic
