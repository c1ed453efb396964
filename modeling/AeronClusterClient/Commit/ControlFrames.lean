/- module: AeronClusterClient/Commit/ControlFrames
   source: include/aeron_cluster/subscription.hpp, src/commit_manager.cpp (build_commit_message,
   build_commit_offset_message), include/model/TopicMessage.h
   digest: Which requests on `_subscriptions` arrive with their complete texts. -/

import AeronClusterClient.Commit.Manager
import AeronClusterClient.Sbe.TopicFormats

/-!
The builders cast the length of each text to 16 bits before the flyweight sees
it. A text of 65536 bytes or more is cut to what the cast leaves, and the
message is sent when that much fits the buffer.
-/

set_option autoImplicit false
set_option relaxedAutoImplicit false

namespace AeronClusterClient.Commit.ControlFrames

open Lib.Action Lib.Bytes Lib.LittleEndian Sbe.GeneratedCodec Sbe.Encoder Sbe.Parser Sbe.TopicFormats
open Commit.Manager
open Json (Jsoncpp plainJson)
open Text (StdString ascii stdToString)

section Requests

/-- The payload text of a subscription request; an empty strategy is left out. -/
def subscribePayload (targetTopic clientId resumeStrategy : StdString) : StdString :=
  ascii "\x7b\"topic\":\"" ++ targetTopic ++ ascii "\",\"action\":\"SUBSCRIBE\",\"client_id\":\"" ++
    clientId ++ ascii "\"" ++
    (if resumeStrategy.isEmpty then []
      else ascii ",\"resumeStrategy\":\"" ++ resumeStrategy ++ ascii "\"") ++ ascii "\x7d"

def unsubscribePayload (targetTopic clientId : StdString) : StdString :=
  ascii "\x7b\"topic\":\"" ++ targetTopic ++ ascii "\",\"action\":\"UNSUBSCRIBE\",\"client_id\":\"" ++
    clientId ++ ascii "\"\x7d"

/-- `build_subscription_message`. The two clock readings are arguments. -/
def buildSubscriptionMessage (targetTopic clientId resumeStrategy : StdString)
    (timestamp stamp : Nat) : Except StdString (List UInt8) :=
  subscriptionsFrame 512 (ascii "SUBSCRIPTION")
    (ascii "sub_" ++ clientId ++ ascii "_" ++ stdToString stamp)
    (subscribePayload targetTopic clientId resumeStrategy) timestamp

def buildUnsubscriptionMessage (targetTopic clientId : StdString) (timestamp stamp : Nat) :
    Except StdString (List UInt8) :=
  subscriptionsFrame 512 (ascii "UNSUBSCRIBE")
    (ascii "unsub_" ++ clientId ++ ascii "_" ++ stdToString stamp)
    (unsubscribePayload targetTopic clientId) timestamp

/-- A request that is sent as a topic message. The commit of a topic with a numeric id is none. -/
inductive ControlRequest
  | subscribe (targetTopic clientId resumeStrategy : StdString)
  | unsubscribe (targetTopic clientId : StdString)
  | commit (topic clientId : StdString)
  | commitOffset (clientId : StdString) (offset : CommitOffset) (unknown : topicToId offset.topic = 0)

namespace ControlRequest

variable (request : ControlRequest)

def build (json : Jsoncpp) (timestamp stamp : Nat) : Except StdString (List UInt8) :=
  match request with
  | subscribe targetTopic clientId resumeStrategy =>
      buildSubscriptionMessage targetTopic clientId resumeStrategy timestamp stamp
  | unsubscribe targetTopic clientId => buildUnsubscriptionMessage targetTopic clientId timestamp stamp
  | commit topic clientId => buildCommitMessage topic clientId timestamp stamp
  | commitOffset clientId offset _ => buildCommitOffsetMessage json clientId offset timestamp stamp

def messageType : StdString :=
  match request with
  | subscribe .. => ascii "SUBSCRIPTION"
  | unsubscribe .. => ascii "UNSUBSCRIBE"
  | commit .. => ascii "COMMIT"
  | commitOffset .. => ascii "COMMIT_OFFSET"

def uuid (stamp : Nat) : StdString :=
  match request with
  | subscribe _ clientId _ => ascii "sub_" ++ clientId ++ ascii "_" ++ stdToString stamp
  | unsubscribe _ clientId => ascii "unsub_" ++ clientId ++ ascii "_" ++ stdToString stamp
  | commit _ clientId => ascii "commit_" ++ clientId ++ ascii "_" ++ stdToString stamp
  | commitOffset clientId _ _ => ascii "commit_offset_" ++ clientId ++ ascii "_" ++ stdToString stamp

def payload (json : Jsoncpp) : StdString :=
  match request with
  | subscribe targetTopic clientId resumeStrategy =>
      subscribePayload targetTopic clientId resumeStrategy
  | unsubscribe targetTopic clientId => unsubscribePayload targetTopic clientId
  | commit topic clientId => commitPayload topic clientId
  | commitOffset _ offset _ => json.write (commitOffsetJson offset)

/-- The bytes that the buffer has for the texts of a message. -/
def room : Nat :=
  match request with
  | commitOffset .. => 1024
  | _ => 512

theorem build_eq (json : Jsoncpp) (timestamp stamp : Nat) : request.build json timestamp stamp =
    subscriptionsFrame request.room request.messageType (request.uuid stamp) (request.payload json)
      timestamp := by
  cases request with
  | subscribe => rfl
  | unsubscribe => rfl
  | commit => rfl
  | commitOffset clientId offset unknown => exact if_neg (not_not.mpr unknown)

end ControlRequest

end Requests

section Decoding

/-- The texts that a receiver reads of a topic message. -/
structure TopicTexts where
  topic : StdString
  messageType : StdString
  uuid : StdString
  payload : StdString
  headers : StdString
  deriving DecidableEq, Repr

variable (mem : Memory) (mBuffer : Nat)

/-- The texts behind the message header and its fixed block, in the order of the schema. -/
def decodeTexts (length : Nat) : Decode TopicTexts := do
  let (_, fly) ← wrapBehindHeader mem mBuffer length
  let (topic, fly) ← getTopicAsString mem mBuffer fly
  let (messageType, fly) ← getMessageTypeAsString mem mBuffer fly
  let (uuid, fly) ← getUuidAsString mem mBuffer fly
  let (payload, fly) ← getPayloadAsString mem mBuffer fly
  let (headers, _) ← getHeadersAsString mem mBuffer fly
  return { topic, messageType, uuid, payload, headers }

variable {mem mBuffer}
variable {timestamp sequenceNumber : Nat} {topic messageType uuid payload headers : StdString}

theorem decodeTexts_topicFrame (short : Short topic messageType uuid payload headers)
    (held : Holds mem mBuffer
      (topicFrame timestamp sequenceNumber topic messageType uuid payload headers)) :
    returned (decodeTexts mem mBuffer (topicFrame timestamp sequenceNumber topic messageType uuid
      payload headers).length) [] = some ⟨topic, messageType, uuid, payload, headers⟩ := by
  have size := length_topicFrame timestamp sequenceNumber topic messageType uuid payload headers
  generalize (topicFrame timestamp sequenceNumber topic messageType uuid payload headers).length =
    length at size
  have parts : topicFrame timestamp sequenceNumber topic messageType uuid payload headers =
      TopicMessage.header.bytes ++ (toBytes 8 timestamp ++ toBytes 8 sequenceNumber) ++
        fields [topic, messageType, uuid, payload, headers] := by
    simp [topicFrame, fields]
  rw [parts] at held
  obtain ⟨header, -, ahead⟩ := holds_message held
  rw [List.length_append, length_toBytes, length_toBytes] at ahead
  have headerSame : headerAt mem mBuffer = TopicMessage.header := by
    rw [headerAt_of_holds header]
    rfl
  let fly := behindBlock TopicMessage.header length
  have lies : Ahead mem mBuffer fly [topic, messageType, uuid, payload, headers] := by
    refine ⟨short, ahead, ?_⟩
    simp [fly, fields, behindBlock, TopicMessage.header, TopicMessage.sbeBlockLength]
    omega
  have wrapped : (wrapBehindHeader mem mBuffer length).run [] =
      .ok (TopicMessage.header, fly) [(mBuffer, 8)] := by
    apply wrapBehindHeader_run headerSame
    simp [TopicMessage.header, TopicMessage.sbeBlockLength]
    omega
  obtain ⟨log₁, topicRun⟩ := lies.read [(mBuffer, 8)]
  obtain ⟨log₂, typeRun⟩ := lies.past.read log₁
  obtain ⟨log₃, uuidRun⟩ := lies.past.past.read log₂
  obtain ⟨log₄, payloadRun⟩ := lies.past.past.past.read log₃
  obtain ⟨log₅, headersRun⟩ := lies.past.past.past.past.read log₄
  refine returned_eq_some.mpr ⟨log₅, ?_⟩
  unfold decodeTexts getTopicAsString getMessageTypeAsString getUuidAsString getPayloadAsString
    getHeadersAsString
  rw [EStateM.run_bind, wrapped]
  dsimp only
  rw [EStateM.run_bind, topicRun]
  dsimp only
  rw [EStateM.run_bind, typeRun]
  dsimp only
  rw [EStateM.run_bind, uuidRun]
  dsimp only
  rw [EStateM.run_bind, payloadRun]
  dsimp only
  rw [EStateM.run_bind, headersRun]
  rfl

end Decoding

section Completeness

/-- Every frame that is built is decoded to the complete uuid and the complete payload. -/
def Complete (json : Jsoncpp) (request : ControlRequest) (timestamp stamp : Nat) : Prop :=
  ∀ frame, request.build json timestamp stamp = .ok frame →
    ∀ (mem : Memory) (mBuffer : Nat), Holds mem mBuffer frame →
      ∃ found, returned (decodeTexts mem mBuffer frame.length) [] = some found ∧
        found.uuid = request.uuid stamp ∧ found.payload = request.payload json

/-- Neither length is changed by the cast to 16 bits. -/
def TextsKept (json : Jsoncpp) (request : ControlRequest) (stamp : Nat) : Prop :=
  (request.uuid stamp).length < 65536 ∧ (request.payload json).length < 65536

/-- The length of the message with what the casts leave, against what the flyweight is told of the
buffer. -/
def Fits (json : Jsoncpp) (request : ControlRequest) (stamp : Nat) : Prop :=
  50 + request.messageType.length + (request.uuid stamp).length % 65536 +
    (request.payload json).length % 65536 ≤ 16 + request.room

variable {json : Jsoncpp} {request : ControlRequest} {timestamp stamp : Nat}

def castFrame (json : Jsoncpp) (request : ControlRequest) (timestamp stamp : Nat) : List UInt8 :=
  topicFrame timestamp 0 (ascii "_subscriptions") request.messageType (chars (request.uuid stamp))
    (chars (request.payload json)) (ascii "{}")

theorem chars_messageType (request : ControlRequest) :
    chars request.messageType = request.messageType := by
  cases request <;> rfl

theorem build_iff {frame : List UInt8} : request.build json timestamp stamp = .ok frame ↔
    frame = castFrame json request timestamp stamp ∧ Fits json request stamp := by
  have topic : chars (ascii "_subscriptions") = ascii "_subscriptions" := by decide
  have headers : chars (ascii "{}") = ascii "{}" := by decide
  have size : (castFrame json request timestamp stamp).length = 50 + request.messageType.length +
      (request.uuid stamp).length % 65536 + (request.payload json).length % 65536 := by
    have topicLength : (ascii "_subscriptions").length = 14 := by decide
    have headersLength : (ascii "{}").length = 2 := by decide
    rw [castFrame, length_topicFrame, length_chars, length_chars, topicLength, headersLength]
    omega
  rw [request.build_eq, subscriptionsFrame_iff, topic, headers, chars_messageType, Fits, ← size]
  constructor
  · rintro ⟨rfl, fits⟩
    exact ⟨rfl, fits⟩
  · rintro ⟨rfl, fits⟩
    exact ⟨rfl, fits⟩

theorem decodeTexts_castFrame {mem : Memory} {mBuffer : Nat}
    (held : Holds mem mBuffer (castFrame json request timestamp stamp)) :
    returned (decodeTexts mem mBuffer (castFrame json request timestamp stamp).length) [] =
      some ⟨ascii "_subscriptions", request.messageType, chars (request.uuid stamp),
        chars (request.payload json), ascii "{}"⟩ := by
  have cast (src : StdString) : (chars src).length < 65536 := by
    rw [length_chars]
    exact Nat.mod_lt _ (by decide)
  have short : Short (ascii "_subscriptions") request.messageType (chars (request.uuid stamp))
      (chars (request.payload json)) (ascii "{}") := by
    have type := cast request.messageType
    rw [chars_messageType] at type
    have topic : (ascii "_subscriptions").length < 65536 := by decide
    have headers : (ascii "{}").length < 65536 := by decide
    simp only [Short, List.forall_mem_cons, cast]
    simp [type, topic, headers]
  exact decodeTexts_topicFrame short held

theorem complete_of_textsKept (kept : TextsKept json request stamp) :
    Complete json request timestamp stamp := by
  intro frame built mem mBuffer held
  obtain ⟨rfl, -⟩ := build_iff.mp built
  exact ⟨_, decodeTexts_castFrame held, chars_eq_iff.mpr kept.1, chars_eq_iff.mpr kept.2⟩

theorem complete_of_not_fits (crosses : ¬ Fits json request stamp) :
    Complete json request timestamp stamp := by
  intro frame built
  exact absurd (build_iff.mp built).2 crosses

/-- A message that fits after its texts were cut is not complete. -/
theorem textsKept_of_complete (fits : Fits json request stamp)
    (complete : Complete json request timestamp stamp) : TextsKept json request stamp := by
  let frame := castFrame json request timestamp stamp
  have held : Holds (memoryOf 4096 frame) 4096 frame := holds_memoryOf 4096 frame
  obtain ⟨found, decoded, uuid, payload⟩ :=
    complete frame (build_iff.mpr ⟨rfl, fits⟩) (memoryOf 4096 frame) 4096 held
  rw [decodeTexts_castFrame held, Option.some.injEq] at decoded
  subst decoded
  exact ⟨chars_eq_iff.mp uuid, chars_eq_iff.mp payload⟩

/-- A request is complete, or refused, exactly when its uuid and its payload are shorter than 65536
bytes or what the casts leave of them does not fit the buffer. -/
theorem complete_iff (json : Jsoncpp) (request : ControlRequest) (timestamp stamp : Nat) :
    Complete json request timestamp stamp ↔
      TextsKept json request stamp ∨ ¬ Fits json request stamp := by
  constructor
  · intro complete
    by_cases fits : Fits json request stamp
    · exact .inl (textsKept_of_complete fits complete)
    · exact .inr fits
  · rintro (kept | crosses)
    · exact complete_of_textsKept kept
    · exact complete_of_not_fits crosses

section Sample

/-- A subscription to a topic of 65536 bytes. -/
def longRequest : ControlRequest :=
  .subscribe (List.replicate 65536 65) (ascii "client") (ascii "LATEST")

theorem length_payload_longRequest (json : Jsoncpp) : (longRequest.payload json).length = 65616 := by
  have topic (targetTopic clientId resumeStrategy : StdString) :
      (subscribePayload targetTopic clientId resumeStrategy).length =
        targetTopic.length + (subscribePayload [] clientId resumeStrategy).length := by
    simp only [subscribePayload, List.length_append, List.length_nil]
    omega
  have others : (subscribePayload [] (ascii "client") (ascii "LATEST")).length = 80 := by decide
  change (subscribePayload _ _ _).length = _
  rw [topic, others, List.length_replicate]

/-- The payload of this subscription is cut. -/
theorem long_topic_cut :
    ¬ ∀ (json : Jsoncpp) (request : ControlRequest) (timestamp stamp : Nat),
      Complete json request timestamp stamp := by
  intro claim
  have size := length_payload_longRequest plainJson
  have fits : Fits plainJson longRequest 2 := by
    unfold Fits
    rw [size]
    decide
  have kept := textsKept_of_complete fits (claim plainJson longRequest 1 2)
  have short := kept.2
  rw [size] at short
  omega

end Sample

end Completeness

end AeronClusterClient.Commit.ControlFrames
