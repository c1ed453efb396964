/- module: AeronClusterClient/Sbe/Encoder
   source: src/sbe_encoder.cpp (SBEEncoder), src/session_manager.cpp (create_topic_message),
   include/model/TopicMessage.h, include/aeron_cluster/config.hpp (SBEConstants)
   digest: The frames the client encodes, and the exact bytes of a topic message frame. -/

import AeronClusterClient.Sbe.GeneratedCodec
import Mathlib.Data.List.DropRight

set_option autoImplicit false
set_option relaxedAutoImplicit false

namespace AeronClusterClient.Sbe.Encoder

open Lib.Action Lib.Bytes Lib.LittleEndian Sbe.GeneratedCodec
open Text (StdString ascii)

def CLUSTER_SCHEMA_ID : Nat := 111
def CLUSTER_SCHEMA_VERSION : Nat := 8
def TOPIC_SCHEMA_ID : Nat := 1
def SESSION_CONNECT_TEMPLATE_ID : Nat := 3
def SESSION_EVENT_TEMPLATE_ID : Nat := 2
def SESSION_CLOSE_TEMPLATE_ID : Nat := 4
def SESSION_KEEPALIVE_TEMPLATE_ID : Nat := 5
def TOPIC_MESSAGE_TEMPLATE_ID : Nat := 1
def ACKNOWLEDGMENT_TEMPLATE_ID : Nat := 2

/-- The buffer is sized exactly and filled front to back. -/
def encodeSessionConnectRequest (correlationId responseStreamId : Int)
    (responseChannel : StdString) (protocolVersion : Int) : List UInt8 :=
  (MessageHeader.mk 16 SESSION_CONNECT_TEMPLATE_ID CLUSTER_SCHEMA_ID CLUSTER_SCHEMA_VERSION).bytes ++
    toBytes 8 (unsigned 8 correlationId) ++ toBytes 4 (unsigned 4 responseStreamId) ++
    toBytes 4 (unsigned 4 protocolVersion) ++
    toBytes 4 responseChannel.length ++ responseChannel

/-- The two session frames that carry a term and a session differ in their template only. -/
def sessionFrame (templateId : Nat) (leadershipTermId clusterSessionId : Int) : List UInt8 :=
  (MessageHeader.mk 16 templateId CLUSTER_SCHEMA_ID CLUSTER_SCHEMA_VERSION).bytes ++
    toBytes 8 (unsigned 8 leadershipTermId) ++ toBytes 8 (unsigned 8 clusterSessionId)

def encodeSessionKeepAlive := sessionFrame SESSION_KEEPALIVE_TEMPLATE_ID

def encodeSessionCloseRequest := sessionFrame SESSION_CLOSE_TEMPLATE_ID

namespace TopicMessage

def sbeBlockLength : Nat := 16
def sbeTemplateId : Nat := 1
def sbeSchemaId : Nat := 1
def sbeSchemaVersion : Nat := 1
def sbeBlockAndHeaderLength : Nat := 8 + sbeBlockLength

def header : MessageHeader := ⟨sbeBlockLength, sbeTemplateId, sbeSchemaId, sbeSchemaVersion⟩

/-- One step of `computeLength`: the two bytes of the length field and the data. -/
def fieldLength (name : StdString) (length : Nat) : Except StdString Nat :=
  if 65534 < length then .error (name ++ ascii " too long for length type [E109]")
  else .ok (2 + length)

def computeLength (topicLength messageTypeLength uuidLength payloadLength headersLength : Nat) :
    Except StdString Nat := do
  let length := sbeBlockLength
  let length := length + (← fieldLength (ascii "topicLength") topicLength)
  let length := length + (← fieldLength (ascii "messageTypeLength") messageTypeLength)
  let length := length + (← fieldLength (ascii "uuidLength") uuidLength)
  let length := length + (← fieldLength (ascii "payloadLength") payloadLength)
  let length := length + (← fieldLength (ascii "headersLength") headersLength)
  return length

end TopicMessage

/-- Run a message class over a zeroed `std::vector` and `resize` it to the encoded length. -/
def encodeInto (size : Nat) (fill : Encode Unit) : Except StdString (List UInt8) :=
  match fill.run { buffer := List.replicate size 0 } with
  | .ok _ e => .ok (resize e.buffer e.fly.encodedLength)
  | .error message _ => .error message

def putFields (topic messageType uuid payload headers : StdString) : Encode Unit := do
  putTopic topic
  putMessageType messageType
  putUuid uuid
  putPayload payload
  putHeaders headers

/-- `now` is the system clock in milliseconds, read when no timestamp is given. -/
def encodeTopicMessage (topic messageType uuid payload headers : StdString) (timestamp now : Int) :
    Except StdString (List UInt8) := do
  let timestamp := if timestamp = 0 then now else timestamp
  let length ← TopicMessage.computeLength topic.length messageType.length uuid.length
    payload.length headers.length
  let totalSize := TopicMessage.sbeBlockAndHeaderLength + length
  encodeInto totalSize do
    wrapAndApplyHeader TopicMessage.header 0 totalSize
    putTimestamp (unsigned 8 timestamp)
    putSequenceNumber 0
    putFields topic messageType uuid payload headers

/-- `SessionManager::Impl::create_topic_message`; the sequence number keeps the zero bytes of
the fresh vector. Its debug output re-reads the first 18 bytes of the frame and changes nothing. -/
def createTopicMessage (topic messageType messageId payload headers : StdString) (now : Int) :
    Except StdString (List UInt8) := do
  let length ← TopicMessage.computeLength topic.length messageType.length messageId.length
    payload.length headers.length
  let totalSize := TopicMessage.sbeBlockAndHeaderLength + length
  encodeInto totalSize do
    wrapAndApplyHeader TopicMessage.header 0 totalSize
    putTimestamp (unsigned 8 now)
    putFields topic messageType messageId payload headers

/-- The bytes of a complete topic message: header, fixed block and the five fields. -/
def topicFrame (timestamp sequenceNumber : Nat)
    (topic messageType uuid payload headers : StdString) : List UInt8 :=
  TopicMessage.header.bytes ++ toBytes 8 timestamp ++ toBytes 8 sequenceNumber ++
    varData topic ++ varData messageType ++ varData uuid ++ varData payload ++ varData headers

theorem length_topicFrame (timestamp sequenceNumber : Nat)
    (topic messageType uuid payload headers : StdString) :
    (topicFrame timestamp sequenceNumber topic messageType uuid payload headers).length =
      34 + (topic.length + messageType.length + uuid.length + payload.length + headers.length) := by
  simp only [topicFrame, MessageHeader.bytes, List.length_append, length_toBytes, length_varData]
  omega

section TopicFrames

variable {topic messageType uuid payload headers : StdString}

structure FieldsFit (topic messageType uuid payload headers : StdString) : Prop where
  topic : topic.length ≤ 65534
  messageType : messageType.length ≤ 65534
  uuid : uuid.length ≤ 65534
  payload : payload.length ≤ 65534
  headers : headers.length ≤ 65534

theorem fieldLength_iff {name : StdString} {length extent : Nat} :
    TopicMessage.fieldLength name length = .ok extent ↔ length ≤ 65534 ∧ extent = 2 + length := by
  unfold TopicMessage.fieldLength
  by_cases long : 65534 < length
  · rw [if_pos long]
    constructor
    · rintro ⟨⟩
    · exact fun fits => absurd fits.1 (Nat.not_le.mpr long)
  · rw [if_neg long]
    constructor
    · rintro ⟨⟩
      exact ⟨Nat.not_lt.mp long, rfl⟩
    · rintro ⟨-, rfl⟩
      rfl

private theorem fieldLength_of_le {name : StdString} {length : Nat} (short : length ≤ 65534) :
    TopicMessage.fieldLength name length = .ok (2 + length) :=
  fieldLength_iff.mpr ⟨short, rfl⟩

theorem le_of_fieldLength {name : StdString} {length extent : Nat}
    (fits : TopicMessage.fieldLength name length = .ok extent) : length ≤ 65534 :=
  (fieldLength_iff.mp fits).1

theorem computeLength_eq (short : FieldsFit topic messageType uuid payload headers) :
    TopicMessage.computeLength topic.length messageType.length uuid.length payload.length
        headers.length =
      .ok (26 + (topic.length + messageType.length + uuid.length + payload.length +
        headers.length)) := by
  unfold TopicMessage.computeLength
  rw [fieldLength_of_le short.topic, fieldLength_of_le short.messageType,
    fieldLength_of_le short.uuid, fieldLength_of_le short.payload,
    fieldLength_of_le short.headers]
  change Except.ok _ = Except.ok _
  congr 1
  unfold TopicMessage.sbeBlockLength
  omega

theorem fieldsFit_of_createTopicMessage {now : Int} {frame : List UInt8}
    (created : createTopicMessage topic messageType uuid payload headers now = .ok frame) :
    FieldsFit topic messageType uuid payload headers := by
  obtain ⟨_, computed, -⟩ := except_bind_eq_ok.mp created
  unfold TopicMessage.computeLength at computed
  obtain ⟨_, topicFits, computed⟩ := except_bind_eq_ok.mp computed
  obtain ⟨_, messageTypeFits, computed⟩ := except_bind_eq_ok.mp computed
  obtain ⟨_, uuidFits, computed⟩ := except_bind_eq_ok.mp computed
  obtain ⟨_, payloadFits, computed⟩ := except_bind_eq_ok.mp computed
  obtain ⟨_, headersFits, -⟩ := except_bind_eq_ok.mp computed
  exact ⟨le_of_fieldLength topicFits, le_of_fieldLength messageTypeFits, le_of_fieldLength uuidFits,
    le_of_fieldLength payloadFits, le_of_fieldLength headersFits⟩

private theorem putFields_written (bytes : List UInt8) (room : Nat) (fly : Flyweight)
    (short : FieldsFit topic messageType uuid payload headers)
    (fits : 10 + (topic.length + messageType.length + uuid.length + payload.length +
      headers.length) ≤ room)
    (size : fly.mBufferLength = bytes.length + room) :
    ∃ rest, (putFields topic messageType uuid payload headers).run (.written bytes room fly) =
      .ok () (.written (bytes ++ varData topic ++ varData messageType ++ varData uuid ++
        varData payload ++ varData headers) rest fly) := by
  unfold putFields putTopic putMessageType putUuid putPayload putHeaders
  simp only [EStateM.run_bind]
  rw [putVarData_written short.topic (by omega) size]
  simp only
  rw [putVarData_written short.messageType (by omega) (by simp; omega)]
  simp only
  rw [putVarData_written short.uuid (by omega) (by simp; omega)]
  simp only
  rw [putVarData_written short.payload (by omega) (by simp; omega)]
  simp only
  rw [putVarData_written short.headers (by omega) (by simp; omega)]
  exact ⟨_, rfl⟩

private theorem toBytes_zero (w : Nat) : toBytes w 0 = List.replicate w 0 := by
  induction w with
  | zero => rfl
  | succ w ih => rw [toBytes, Nat.zero_div, ih, List.replicate_succ]; rfl

/-- The final resize keeps `encodedLength` bytes, eight fewer than were written. -/
private theorem encodeInto_eq (size : Nat) (fly : Flyweight) (fill : Encode Unit)
    {bytes : List UInt8} {rest : Nat}
    (run : fill.run { buffer := List.replicate size 0 } = .ok () (.written bytes rest fly))
    (offset : fly.mOffset = 8) :
    encodeInto size fill = .ok (bytes.rdrop 8) := by
  unfold encodeInto List.rdrop
  rw [run]
  change Except.ok (resize (bytes ++ List.replicate rest 0) (bytes.length - fly.mOffset)) = _
  rw [offset, resize_of_le (by simp; omega), List.take_append_of_le_length (by omega)]

private def wrapped (room : Nat) : Flyweight :=
  { mBufferLength := 8 + room
    mOffset := 8
    mPosition := 24
    mActingBlockLength := TopicMessage.sbeBlockLength
    mActingVersion := TopicMessage.sbeSchemaVersion }

private theorem wrap_topicMessage {room : Nat} {fly : Flyweight} (fits : 16 ≤ room) :
    (wrapAndApplyHeader TopicMessage.header 0 (8 + room)).run
        { buffer := List.replicate (8 + room) 0, fly := fly } =
      .ok () { buffer := TopicMessage.header.bytes ++ List.replicate room 0, fly := wrapped room } :=
  wrapAndApplyHeader_zeros fits

theorem putTimestamp_zeros {bytes : List UInt8} {room value : Nat} {fly : Flyweight}
    (frontier : fly.mOffset = bytes.length) :
    (putTimestamp value).run { buffer := bytes ++ List.replicate room 0, fly := fly } =
      .ok () { buffer := bytes ++ toBytes 8 value ++ List.replicate (room - 8) 0, fly := fly } := by
  unfold putTimestamp
  rw [EStateM.run_bind, EStateM.run_get]
  simp only
  rw [Nat.add_zero, write_zeros frontier, length_toBytes]

theorem putSequenceNumber_zeros {bytes : List UInt8} {room value : Nat} {fly : Flyweight}
    (frontier : fly.mOffset + 8 = bytes.length) :
    (putSequenceNumber value).run { buffer := bytes ++ List.replicate room 0, fly := fly } =
      .ok () { buffer := bytes ++ toBytes 8 value ++ List.replicate (room - 8) 0, fly := fly } := by
  unfold putSequenceNumber
  rw [EStateM.run_bind, EStateM.run_get]
  simp only
  rw [write_zeros frontier, length_toBytes]

/-- `encode_topic_message` returns the frame of its arguments without the last eight bytes. -/
theorem encodeTopicMessage_eq (short : FieldsFit topic messageType uuid payload headers)
    {timestamp : Int} (given : timestamp ≠ 0) (now : Int) :
    encodeTopicMessage topic messageType uuid payload headers timestamp now =
      .ok ((topicFrame (unsigned 8 timestamp) 0 topic messageType uuid payload headers).rdrop 8) := by
  unfold encodeTopicMessage
  rw [if_neg given, computeLength_eq short]
  generalize total : topic.length + messageType.length + uuid.length + payload.length +
    headers.length = n
  change encodeInto (24 + (26 + n)) _ = _
  have size : 24 + (26 + n) = 8 + (42 + n) := by omega
  obtain ⟨rest, fields⟩ := putFields_written
    (TopicMessage.header.bytes ++ toBytes 8 (unsigned 8 timestamp) ++ toBytes 8 0)
    (42 + n - 8 - 8) (wrapped (42 + n)) short (by omega) (by simp [wrapped, MessageHeader.bytes]; omega)
  have run := encodeInto_eq (24 + (26 + n)) (wrapped (42 + n)) (do
      wrapAndApplyHeader TopicMessage.header 0 (24 + (26 + n))
      putTimestamp (unsigned 8 timestamp)
      putSequenceNumber 0
      putFields topic messageType uuid payload headers) (by
    rw [size, EStateM.run_bind, wrap_topicMessage (by omega)]
    simp only [EStateM.run_bind]
    rw [putTimestamp_zeros rfl]
    simp only
    rw [putSequenceNumber_zeros rfl]
    exact fields) rfl
  exact run

theorem createTopicMessage_eq (short : FieldsFit topic messageType uuid payload headers)
    (now : Int) :
    createTopicMessage topic messageType uuid payload headers now =
      .ok ((topicFrame (unsigned 8 now) 0 topic messageType uuid payload headers).rdrop 8) := by
  unfold createTopicMessage
  rw [computeLength_eq short]
  generalize total : topic.length + messageType.length + uuid.length + payload.length +
    headers.length = n
  change encodeInto (24 + (26 + n)) _ = _
  have size : 24 + (26 + n) = 8 + (42 + n) := by omega
  obtain ⟨rest, fields⟩ := putFields_written
    (TopicMessage.header.bytes ++ toBytes 8 (unsigned 8 now) ++ toBytes 8 0)
    (26 + n) (wrapped (42 + n)) short (by omega) (by simp [wrapped, MessageHeader.bytes]; omega)
  have run := encodeInto_eq (24 + (26 + n)) (wrapped (42 + n)) (do
      wrapAndApplyHeader TopicMessage.header 0 (24 + (26 + n))
      putTimestamp (unsigned 8 now)
      putFields topic messageType uuid payload headers) (by
    rw [size, EStateM.run_bind, wrap_topicMessage (by omega)]
    simp only [EStateM.run_bind]
    rw [putTimestamp_zeros rfl]
    simp only
    have zeros : List.replicate (42 + n - 8) 0 = toBytes 8 0 ++ List.replicate (26 + n) 0 := by
      rw [toBytes_zero, List.replicate_append_replicate]
      congr 1
      omega
    rw [zeros, ← List.append_assoc]
    exact fields) rfl
  exact run

end TopicFrames

end AeronClusterClient.Sbe.Encoder
