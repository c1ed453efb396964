/- module: AeronClusterClient/Commit/CompactFrame
   source: src/commit_manager.cpp (topic_to_id, build_commit_offset_message),
   include/model/CommitOffsetLite.h
   digest: A compact commit frame is decoded to the commit it was built from. -/

import AeronClusterClient.Commit.Manager
import AeronClusterClient.Sbe.TopicFormats

/-!
The buffer of a compact frame is sized by `computeLength`, which refuses texts
that the casts of their lengths would cut, and `encodedLength` does not count
the message header, which the final resize adds again.
-/

set_option autoImplicit false
set_option relaxedAutoImplicit false

namespace AeronClusterClient.Commit.CompactFrame

open Lib.Action Lib.Bytes Lib.LittleEndian Sbe.GeneratedCodec Sbe.Parser Sbe.TopicFormats
open Commit.Manager
open Json (Jsoncpp plainJson)
open Text (StdString ascii)

section Decoding

/-- What a receiver reads of a compact frame. -/
structure Decoded where
  header : MessageHeader
  topicId : Nat
  sequence : Nat
  messageId : StdString
  messageIdentifier : StdString
  deriving DecidableEq, Repr

variable (mem : Memory) (mBuffer : Nat)

def topicId (fly : Flyweight) : Decode Nat := readUInt mem (mBuffer + fly.mOffset + 0) 4

def sequence (fly : Flyweight) : Decode Nat := readUInt mem (mBuffer + fly.mOffset + 4) 8

def getMessageIdAsString := getVarDataAsString mem mBuffer
def getMessageIdentifierAsString := getVarDataAsString mem mBuffer

/-- The members behind the message header, in the order of the schema. -/
def decode (length : Nat) : Decode Decoded := do
  let (header, fly) ← wrapBehindHeader mem mBuffer length
  let topicId ← topicId mem mBuffer fly
  let sequence ← sequence mem mBuffer fly
  let (messageId, fly) ← getMessageIdAsString mem mBuffer fly
  let (messageIdentifier, _) ← getMessageIdentifierAsString mem mBuffer fly
  return { header, topicId, sequence, messageId, messageIdentifier }

end Decoding

section RoundTrip

variable {mem : Memory} {data id sequenceNumber : Nat} {messageId messageIdentifier : StdString}

theorem holds_commitOffsetLiteBytes
    (held : Holds mem data (commitOffsetLiteBytes id sequenceNumber messageId messageIdentifier)) :
    Holds mem data CommitOffsetLite.header.bytes ∧ Holds mem (data + 8) (toBytes 4 id) ∧
      Holds mem (data + 12) (toBytes 8 sequenceNumber) ∧
      Holds mem (data + 20) (fields [messageId, messageIdentifier]) := by
  have texts : commitOffsetLiteBytes id sequenceNumber messageId messageIdentifier =
      CommitOffsetLite.header.bytes ++ (toBytes 4 id ++ (toBytes 8 sequenceNumber ++
        fields [messageId, messageIdentifier])) := by
    simp [commitOffsetLiteBytes, fields]
  rw [texts] at held
  obtain ⟨header, held⟩ := holds_append.mp held
  obtain ⟨id, held⟩ := holds_append.mp held
  obtain ⟨number, held⟩ := holds_append.mp held
  rw [MessageHeader.length_bytes] at id
  rw [MessageHeader.length_bytes, length_toBytes] at number
  rw [MessageHeader.length_bytes, length_toBytes, length_toBytes] at held
  exact ⟨header, id, number, held⟩

theorem decode_commitOffsetLiteBytes (small : id < 2 ^ 32) (wide : sequenceNumber < 2 ^ 64)
    (idShort : messageId.length < 65536) (identifierShort : messageIdentifier.length < 65536)
    (held : Holds mem data (commitOffsetLiteBytes id sequenceNumber messageId messageIdentifier)) :
    returned (decode mem data (commitOffsetLiteBytes id sequenceNumber messageId
      messageIdentifier).length) [] =
      some ⟨CommitOffsetLite.header, id, sequenceNumber, messageId, messageIdentifier⟩ := by
  have size := length_commitOffsetLiteBytes id sequenceNumber messageId messageIdentifier
  generalize (commitOffsetLiteBytes id sequenceNumber messageId messageIdentifier).length = length at size
  obtain ⟨header, topic, number, ahead⟩ := holds_commitOffsetLiteBytes held
  have headerSame : headerAt mem data = CommitOffsetLite.header := by
    rw [headerAt_of_holds header]
    rfl
  have topicSame : ofBytes (bytesAt mem (data + 8) 4) = id := ofBytes_of_holds_lt topic small
  have numberSame : ofBytes (bytesAt mem (data + 12) 8) = sequenceNumber :=
    ofBytes_of_holds_lt number wide
  let fly := behindBlock CommitOffsetLite.header length
  have lies : Ahead mem data fly [messageId, messageIdentifier] := by
    refine ⟨by simp [idShort, identifierShort], ahead, ?_⟩
    simp [fly, fields, behindBlock, CommitOffsetLite.header, CommitOffsetLite.sbeBlockLength]
    omega
  have wrapped : (wrapBehindHeader mem data length).run [] =
      .ok (CommitOffsetLite.header, fly) [(data, 8)] := by
    apply wrapBehindHeader_run headerSame
    simp [CommitOffsetLite.header, CommitOffsetLite.sbeBlockLength]
    omega
  have topicRun : (topicId mem data fly).run [(data, 8)] = .ok id [(data + 8, 4), (data, 8)] := by
    rw [← topicSame]
    rfl
  have numberRun : (sequence mem data fly).run [(data + 8, 4), (data, 8)] =
      .ok sequenceNumber [(data + 12, 8), (data + 8, 4), (data, 8)] := by
    rw [← numberSame]
    rfl
  obtain ⟨log, idRun⟩ := lies.read [(data + 12, 8), (data + 8, 4), (data, 8)]
  obtain ⟨after, identifierRun⟩ := lies.past.read log
  refine returned_eq_some.mpr ⟨after, ?_⟩
  unfold decode getMessageIdAsString getMessageIdentifierAsString
  rw [EStateM.run_bind, wrapped]
  dsimp only
  rw [EStateM.run_bind, topicRun]
  dsimp only
  rw [EStateM.run_bind, numberRun]
  dsimp only
  rw [EStateM.run_bind, idRun]
  dsimp only
  rw [EStateM.run_bind, identifierRun]
  rfl

/-- The topic of a numeric id. -/
def topicOfId : Nat → StdString
  | 1 => ascii "order_request_topic"
  | 2 => ascii "order_notification_topic"
  | 3 => ascii "orders"
  | _ => ascii "order_status_request_topic"

theorem topicOfId_topicToId {topic : StdString} (numeric : topicToId topic ≠ 0) :
    topicOfId (topicToId topic) = topic := by
  unfold topicToId at numeric ⊢
  split_ifs at numeric ⊢ with request notification orders status
  · exact request.symm
  · exact notification.symm
  · exact orders.symm
  · exact status.symm
  · exact absurd rfl numeric

theorem topicToId_injective {topic other : StdString} (numeric : topicToId topic ≠ 0)
    (same : topicToId other = topicToId topic) : other = topic := by
  have numeric' : topicToId other ≠ 0 := same ▸ numeric
  calc
    other = topicOfId (topicToId other) := (topicOfId_topicToId numeric').symm
    _ = topicOfId (topicToId topic) := by rw [same]
    _ = topic := topicOfId_topicToId numeric

theorem topicToId_lt (topic : StdString) : topicToId topic < 2 ^ 32 := by
  unfold topicToId
  split_ifs <;> decide

/-- What is built from a commit whose topic has a numeric id. -/
structure Built (json : Jsoncpp) (clientId : StdString) (offset : CommitOffset) (timestamp stamp : Nat)
    (frame : List UInt8) : Prop where
  built : buildCommitOffsetMessage json clientId offset timestamp stamp = .ok frame
  size : frame.length =
    8 + 12 + 2 + offset.messageId.length + 2 + offset.messageIdentifier.length
  decodes : ∀ (mem : Memory) (data : Nat), Holds mem data frame →
    returned (decode mem data frame.length) [] = some ⟨CommitOffsetLite.header, topicToId offset.topic,
      offset.sequenceNumber, offset.messageId, offset.messageIdentifier⟩

/-- Texts of at most 65534 bytes make a frame of the exact size that is decoded to the commit, longer
ones make none, and the ids of different topics differ. -/
theorem compact_frame_round_trips (json : Jsoncpp) (clientId : StdString) (offset : CommitOffset)
    (timestamp stamp : Nat) (numeric : topicToId offset.topic ≠ 0)
    (wide : offset.sequenceNumber < 2 ^ 64) :
    (offset.messageId.length ≤ 65534 ∧ offset.messageIdentifier.length ≤ 65534 →
        ∃ frame, Built json clientId offset timestamp stamp frame) ∧
      (¬ (offset.messageId.length ≤ 65534 ∧ offset.messageIdentifier.length ≤ 65534) →
        ∃ what, buildCommitOffsetMessage json clientId offset timestamp stamp = .error what) ∧
      ∀ other, topicToId other = topicToId offset.topic → other = offset.topic := by
  have compact : buildCommitOffsetMessage json clientId offset timestamp stamp =
      commitOffsetLiteFrame (topicToId offset.topic) offset := if_pos numeric
  refine ⟨fun short => ?_, fun long => ?_, fun other same => topicToId_injective numeric same⟩
  · refine ⟨_, compact.trans (commitOffsetLiteFrame_iff.mpr ⟨short, rfl⟩), ?_, fun mem data held => ?_⟩
    · rw [length_commitOffsetLiteBytes]
      omega
    · have small := topicToId_lt offset.topic
      exact decode_commitOffsetLiteBytes small wide (by omega) (by omega) held
  · rw [compact]
    cases run : commitOffsetLiteFrame (topicToId offset.topic) offset with
    | ok frame => exact absurd (commitOffsetLiteFrame_iff.mp run).1 long
    | error what => exact ⟨what, rfl⟩

end RoundTrip

section Sample

def ordersOffset : CommitOffset :=
  { topic := ascii "orders", messageIdentifier := ascii "ROHIT_AERON01_TX", messageId := ascii "msg_1"
    timestampNanos := 1700000000000, sequenceNumber := 42 }

theorem compact_frame_round_trips_sample :
    ∃ frame, Built plainJson (ascii "client") ordersOffset 1 2 frame :=
  (compact_frame_round_trips plainJson (ascii "client") ordersOffset 1 2 (by decide) (by decide)).1
    (by decide)

end Sample

end AeronClusterClient.Commit.CompactFrame
