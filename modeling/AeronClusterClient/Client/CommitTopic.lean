/- module: AeronClusterClient/Client/CommitTopic
   source: src/cluster_client.cpp (extract_topic_from_message, handle_incoming_message)
   digest: The topic under which a delivered message is committed, and the one it was sent on. -/

import AeronClusterClient.Client.Delivery

/-!
The decoder reads the topic of a frame and drops it. The commit path looks for
a topic in the JSON texts of the message, at three places one after the other,
and falls back to some subscribed topic.
-/

set_option autoImplicit false
set_option relaxedAutoImplicit false

namespace AeronClusterClient.Client.CommitTopic

open Lib.Action Lib.Bytes Lib.LittleEndian Lib.Unordered Client.State Client.Delivery
open Commit.Manager (CommitOffset)
open Json (Jsoncpp Value asString isMember member)
open Sbe.Encoder Sbe.GeneratedCodec
open Sbe.Parser (ParseResult readMessageHeader intBufferLength intBufferLength_of_lt decoding
  topicHeader_fields ofBytes_topicHeader)
open Text (StdString ascii)

section FrameTopic

variable (mem : Memory)

def decodeTopic (data length : Nat) : Decode StdString := do
  let actingBlockLength ← readUInt mem data 2
  let actingVersion ← readUInt mem (data + 6) 2
  let fly ← ofExcept (wrapForDecode 8 actingBlockLength actingVersion (intBufferLength length))
  return (← getTopicAsString mem data fly).1

/-- The topic a frame was sent on; a schema 111 frame is an envelope. -/
def sbeTopic (data length : Nat) : Option StdString :=
  returned (do
    let header ← readMessageHeader mem data
    if header.schemaId = 111 then
      decodeTopic mem (data + (8 + header.blockLength)) (length - (8 + header.blockLength))
    else decodeTopic mem data length) []

variable {mem}

/-- A frame laid out as the encoders lay it out was sent on the topic it was built from. -/
theorem sbeTopic_topicFrame {data value sequence : Nat}
    {topic messageType uuid payload headers : StdString}
    (fit : FieldsFit topic messageType uuid payload headers)
    (held : Holds mem data (topicFrame value sequence topic messageType uuid payload headers)) :
    sbeTopic mem data (topicFrame value sequence topic messageType uuid payload headers).length =
      some topic := by
  obtain ⟨topicShort, typeShort, uuidShort, payloadShort, headersShort⟩ := fit
  rw [length_topicFrame]
  generalize total : 34 + (topic.length + messageType.length + uuid.length + payload.length +
    headers.length) = length
  let block := TopicMessage.header.bytes ++ toBytes 8 value ++ toBytes 8 sequence
  let after := varData messageType ++ varData uuid ++ varData payload ++ varData headers
  have parts : Holds mem data (block ++ (varData topic ++ after)) := by
    simpa [topicFrame, block, after] using held
  obtain ⟨front, back⟩ := holds_append.mp parts
  have size : block.length = 24 := by simp [block, MessageHeader.bytes]
  rw [size] at back
  have topicHeld : Holds mem (data + 24) (varData topic) := (holds_append.mp back).1
  have header : Holds mem data TopicMessage.header.bytes :=
    (holds_append.mp (holds_append.mp front).1).1
  obtain ⟨blockLength, -, -, acting⟩ := topicHeader_fields header
  have long : 24 + (2 + topic.length) ≤ length := by omega
  have wrapped : wrapForDecode 8 16 1 length = .ok (decoding length 24) :=
    Flyweight.sbePosition_eq_ok.mpr ⟨show 24 ≤ length by omega, rfl⟩
  have topicRead (log : List (Nat × Nat)) :
      ∃ after, (getTopicAsString mem data (decoding length 24)).run log =
        .ok (topic, decoding length (24 + (varData topic).length)) after := by
    refine returned_eq_some.mp (returned_getVarDataAsString (by omega) topicHeld ?_)
    rw [length_varData]
    exact long
  obtain ⟨log, topicRun⟩ := topicRead [(data + 6, 2), (data, 2), (data, 8)]
  refine returned_eq_some.mpr ⟨log, bind_eq_ok.mpr ⟨TopicMessage.header, [(data, 8)], ?_, ?_⟩⟩
  · change EStateM.Result.ok (MessageHeader.ofBytes (bytesAt mem data 8)) _ = _
    rw [ofBytes_topicHeader header]
  · rw [if_neg (by decide)]
    unfold decodeTopic
    change (do
      let fly ← ofExcept (wrapForDecode 8 (ofBytes (bytesAt mem data 2))
        (ofBytes (bytesAt mem (data + 6) 2)) (intBufferLength length))
      return (← getTopicAsString mem data fly).1 : Decode StdString).run
        [(data + 6, 2), (data, 2), (data, 8)] = _
    rw [show ofBytes (bytesAt mem data 2) = 16 from blockLength, acting,
      intBufferLength_of_lt (by omega), wrapped]
    exact bind_eq_ok.mpr ⟨_, _, ofExcept_eq_ok.mpr ⟨rfl, rfl⟩, bind_eq_ok.mpr ⟨_, _, topicRun, rfl⟩⟩

end FrameTopic

section NamedTopics

def valueAt : Value → List StdString → Option Value
  | v, [] => some v
  | .object members, key :: path =>
      (members.find? (fun m => m.1 == key)).bind (fun m => valueAt m.2 path)
  | _, _ :: _ => none

variable (json : Jsoncpp)

def jsonAt (text : StdString) (path : List StdString) : Option Value :=
  match text, json.parse text with
  | _ :: _, .ok (some root) => valueAt root path
  | _, _ => none

/-- A value as a topic: whatever jsoncpp converts to a string. -/
def asTopic (v : Value) : Option StdString := (asString json v).toOption

/-- The topic a message names: `topic` of its headers, else `topic` of its payload, else
`message.topic` of its payload. -/
def namedTopic (result : ParseResult) : Option StdString :=
  match (jsonAt json result.headers [ascii "topic"]).bind (asTopic json) with
  | some topic => some topic
  | none =>
      match jsonAt json result.payload [ascii "topic"] with
      | some v => asTopic json v
      | none => (jsonAt json result.payload [ascii "message", ascii "topic"]).bind (asTopic json)

variable {json}

theorem valueAt_cons (root : Value) (key : StdString) (path : List StdString) :
    valueAt root (key :: path) =
      if (isMember root key).toOption = some true then valueAt (member root key) path else none := by
  cases root with
  | object members =>
      cases found : members.find? (fun m => m.1 == key) with
      | none =>
          have absent : members.any (fun m => m.1 == key) = false := by
            simpa using List.find?_eq_none.mp found
          simp [valueAt, isMember, found, absent, Except.toOption]
      | some m =>
          have present : members.any (fun m => m.1 == key) = true :=
            List.any_eq_true.mpr ⟨m, List.mem_of_find?_eq_some found, by simpa using List.find?_some found⟩
          simp [valueAt, isMember, member, found, present, Except.toOption]
  | _ => simp [valueAt, isMember, Except.toOption]

theorem findTopic_eq {text : StdString} {search : Value → Except StdString (Option StdString)} :
    findTopic json text search =
      (jsonAt json text []).bind (fun root => (search root).toOption.join) := by
  unfold findTopic jsonAt
  cases text with
  | nil => rfl
  | cons b text =>
      rw [if_neg (by simp)]
      rcases json.parse (b :: text) with what | root
      · rfl
      · cases root with
        | none => rfl
        | some root =>
            simp only [valueAt, Option.bind_some]
            cases search root <;> rfl

theorem jsonAt_eq (text : StdString) (path : List StdString) :
    jsonAt json text path = (jsonAt json text []).bind (fun root => valueAt root path) := by
  unfold jsonAt
  split <;> simp [valueAt]

private theorem toOption_some (text : Except StdString StdString) :
    (do return some (← text) : Except StdString (Option StdString)).toOption.join =
      text.toOption := by
  cases text <;> rfl

theorem topicOfHeaders_eq (root : Value) :
    (topicOfHeaders json root).toOption.join = (valueAt root [ascii "topic"]).bind (asTopic json) := by
  rw [valueAt_cons, topicOfHeaders, valueAt]
  rcases isMember root (ascii "topic") with what | _ | _
  · rfl
  · rfl
  · exact toOption_some (asString json (member root (ascii "topic")))

theorem topicOfPayload_eq (root : Value) :
    (topicOfPayload json root).toOption.join =
      match valueAt root [ascii "topic"] with
      | some v => asTopic json v
      | none => (valueAt root [ascii "message", ascii "topic"]).bind (asTopic json) := by
  cases root with
  | object members =>
      generalize here : (Value.object members) = root
      have total (key : StdString) : ∃ b, isMember root key = .ok b := by
        rw [← here]
        exact ⟨_, rfl⟩
      obtain ⟨direct, directly⟩ := total (ascii "topic")
      obtain ⟨nested, inside⟩ := total (ascii "message")
      rw [valueAt_cons, valueAt_cons root (ascii "message"), valueAt, topicOfPayload, directly, inside]
      cases direct with
      | true => exact toOption_some (asString json (member root (ascii "topic")))
      | false =>
          cases nested with
          | true => exact topicOfHeaders_eq (member root (ascii "message"))
          | false => rfl
  | _ => rfl

/-- The search of the commit path finds the named topic, or else a subscribed one. -/
theorem extractTopicFromMessage_eq (order : Enumeration StdString)
    (subscribedTopics : Finset StdString) (result : ParseResult) :
    extractTopicFromMessage json order subscribedTopics result =
      (namedTopic json result).getD ((order.begin subscribedTopics).getD (ascii "default")) := by
  have headers : findTopic json result.headers (topicOfHeaders json) =
      (jsonAt json result.headers [ascii "topic"]).bind (asTopic json) := by
    rw [findTopic_eq, jsonAt_eq _ [ascii "topic"], Option.bind_assoc]
    exact congrArg (Option.bind _) (funext topicOfHeaders_eq)
  have payload : findTopic json result.payload (topicOfPayload json) =
      match jsonAt json result.payload [ascii "topic"] with
      | some v => asTopic json v
      | none =>
          (jsonAt json result.payload [ascii "message", ascii "topic"]).bind (asTopic json) := by
    rw [findTopic_eq, jsonAt_eq _ [ascii "topic"], jsonAt_eq _ [ascii "message", ascii "topic"]]
    cases jsonAt json result.payload [] with
    | none => rfl
    | some root => exact topicOfPayload_eq root
  unfold extractTopicFromMessage namedTopic
  rw [headers, payload]
  cases (jsonAt json result.headers [ascii "topic"]).bind (asTopic json) with
  | some topic => rfl
  | none =>
      dsimp only
      generalize (match jsonAt json result.payload [ascii "topic"] with
        | some v => asTopic json v
        | none =>
            (jsonAt json result.payload [ascii "message", ascii "topic"]).bind (asTopic json)) = found
      cases found <;> rfl

end NamedTopics

/-- A delivery that commits does so under the topic `T` a frame was sent on exactly when `T` is the
topic the message names, or it names none and `T` comes first among the subscribed topics. -/
theorem commits_under_sent_topic_iff {w : World} {mem : Memory} {data length : Nat} {c : Impl}
    {offset : CommitOffset}
    (stored : (finalState (handleIncomingMessage w mem data length) c).stored = c.stored ++ [offset]) :
    ∃ result, parsedMessage w mem data length = some result ∧
      ∀ topic, sbeTopic mem data length = some topic →
        (offset.topic = topic ↔
          namedTopic w.json result = some topic ∨
            namedTopic w.json result = none ∧
              (w.order.begin c.subscribedTopics).getD (ascii "default") = topic) := by
  obtain ⟨result, accepted, -, rfl⟩ := stored_by_delivery stored
  refine ⟨result, accepted, fun topic _ => ?_⟩
  rw [autoCommitOffset, extractTopicFromMessage_eq]
  cases namedTopic w.json result with
  | none => simp
  | some named => simp

section Sample

/-- A frame sent on `orders` whose payload names no topic. -/
def ordersFrame : List UInt8 :=
  topicFrame 1700000000000 0 (ascii "orders") (ascii "ORDER") (ascii "msg_1") (ascii "hello") []

def world : World := { json := Json.plainJson, order := lexicographic }

def tradesOnly : Impl := { config := {}, subscribedTopics := {ascii "trades"} }

def tradesOffset : CommitOffset :=
  { topic := ascii "trades", messageIdentifier := ascii "cpp_client", messageId := ascii "msg_1",
    timestampNanos := 1700000000000, sequenceNumber := 0 }

private theorem stored_ordersFrame :
    (finalState (handleIncomingMessage world (memoryOf 4096 ordersFrame) 4096 ordersFrame.length)
      tradesOnly).stored = tradesOnly.stored ++ [tradesOffset] := by
  decide +kernel

theorem commits_under_sent_topic_iff_sample :
    ∃ result, parsedMessage world (memoryOf 4096 ordersFrame) 4096 ordersFrame.length = some result ∧
      ∀ topic, sbeTopic (memoryOf 4096 ordersFrame) 4096 ordersFrame.length = some topic →
        (tradesOffset.topic = topic ↔
          namedTopic world.json result = some topic ∨
            namedTopic world.json result = none ∧
              (world.order.begin tradesOnly.subscribedTopics).getD (ascii "default") = topic) :=
  commits_under_sent_topic_iff stored_ordersFrame

/-- The client commits a message of `orders` under `trades`. -/
theorem orders_committed_under_trades :
    ¬ ∀ (w : World) (mem : Memory) (data length : Nat) (c : Impl) (offset : CommitOffset)
        (topic : StdString),
      sbeTopic mem data length = some topic →
      topic ∉ [ascii "_ack", ascii "_subscriptions", ascii "_control"] →
      (finalState (handleIncomingMessage w mem data length) c).stored = c.stored ++ [offset] →
      offset.topic = topic := by
  intro claim
  have fit : FieldsFit (ascii "orders") (ascii "ORDER") (ascii "msg_1") (ascii "hello") [] :=
    ⟨by decide, by decide, by decide, by decide, by decide⟩
  have sent : sbeTopic (memoryOf 4096 ordersFrame) 4096 ordersFrame.length =
      some (ascii "orders") := sbeTopic_topicFrame fit (holds_memoryOf 4096 ordersFrame)
  have same := claim world (memoryOf 4096 ordersFrame) 4096 ordersFrame.length tradesOnly
    tradesOffset (ascii "orders") sent (by decide) stored_ordersFrame
  exact absurd same (by decide)

end Sample

end AeronClusterClient.Client.CommitTopic
