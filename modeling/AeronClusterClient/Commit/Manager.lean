/- module: AeronClusterClient/Commit/Manager
   source: src/commit_manager.cpp, include/aeron_cluster/commit_manager.hpp,
   include/aeron_cluster/protocol.hpp, include/model/CommitOffsetLite.h
   digest: The commit store, keyed by topic and identifier, and the frames that report commits. -/

import AeronClusterClient.Json
import AeronClusterClient.Lib.Unordered
import AeronClusterClient.Sbe.Encoder

set_option autoImplicit false
set_option relaxedAutoImplicit false

namespace AeronClusterClient.Commit.Manager

open Lib.Action Lib.LittleEndian Sbe.GeneratedCodec Sbe.Encoder
open Text (StdString ascii stdToString)
open Json (Jsoncpp Value)

structure CommitOffset where
  topic : StdString
  messageIdentifier : StdString
  messageId : StdString
  timestampNanos : Nat
  sequenceNumber : Nat
  deriving DecidableEq, Repr

structure CommitManager where
  commits : AList (fun _ : StdString => CommitOffset) := ∅

/-- The key under which a commit is stored and looked up. -/
def commitKey (topic messageIdentifier : StdString) : StdString :=
  topic ++ ascii ":" ++ messageIdentifier

namespace CommitManager

variable (manager : CommitManager)

/-- `commit_message`; the offset carries the arguments of the call. -/
def commitMessage (offset : CommitOffset) : CommitManager :=
  { manager with
    commits := manager.commits.insert (commitKey offset.topic offset.messageIdentifier) offset }

def getLastCommit (topic messageIdentifier : StdString) : Option CommitOffset :=
  manager.commits.lookup (commitKey topic messageIdentifier)

def clearCommits (topic : StdString) : CommitManager :=
  { manager with commits := manager.commits.erase topic }

def clearAllCommits (_ : CommitManager) : CommitManager :=
  { commits := ∅ }

theorem getLastCommit_commitMessage_of_eq {offset : CommitOffset}
    {topic messageIdentifier : StdString}
    (same : commitKey topic messageIdentifier = commitKey offset.topic offset.messageIdentifier) :
    (manager.commitMessage offset).getLastCommit topic messageIdentifier = some offset := by
  rw [getLastCommit, same]
  exact AList.lookup_insert _

theorem getLastCommit_commitMessage_of_ne {offset : CommitOffset}
    {topic messageIdentifier : StdString}
    (other : commitKey topic messageIdentifier ≠ commitKey offset.topic offset.messageIdentifier) :
    (manager.commitMessage offset).getLastCommit topic messageIdentifier =
      manager.getLastCommit topic messageIdentifier :=
  AList.lookup_insert_ne other

/-- Clearing erases the entry whose key is the topic itself. -/
theorem getLastCommit_clearCommits_of_eq {cleared topic messageIdentifier : StdString}
    (same : commitKey topic messageIdentifier = cleared) :
    (manager.clearCommits cleared).getLastCommit topic messageIdentifier = none := by
  rw [getLastCommit, same]
  exact AList.lookup_erase _ _

theorem getLastCommit_clearCommits_of_ne {cleared topic messageIdentifier : StdString}
    (other : commitKey topic messageIdentifier ≠ cleared) :
    (manager.clearCommits cleared).getLastCommit topic messageIdentifier =
      manager.getLastCommit topic messageIdentifier :=
  AList.lookup_erase_ne other

end CommitManager

section Frames

/-- The numeric topic ids of the server; 0 stands for an unknown topic. -/
def topicToId (topic : StdString) : Nat :=
  if topic = ascii "order_request_topic" then 1
  else if topic = ascii "order_notification_topic" then 2
  else if topic = ascii "orders" then 3
  else if topic = ascii "order_status_request_topic" then 4
  else 0

/-- The body shared by the generated `put…` members that take a pointer and a 16-bit
length: `static_cast<std::uint16_t>` of the size decides how much is written. -/
def putChars (src : StdString) : Encode Unit := do
  let data := src.take (src.length % 65536)
  let lengthPosition := (← get).fly.mPosition
  moveTo (lengthPosition + 2)
  write lengthPosition (toBytes 2 data.length)
  if data.length ≠ 0 then
    let pos := (← get).fly.mPosition
    moveTo (pos + data.length)
    write pos data

namespace CommitOffsetLite

def sbeBlockLength : Nat := 12

def header : MessageHeader := ⟨sbeBlockLength, 301, 1, 1⟩

def computeLength (messageIdLength messageIdentifierLength : Nat) : Except StdString Nat := do
  let length := sbeBlockLength
  let length := length + (← TopicMessage.fieldLength (ascii "messageIdLength") messageIdLength)
  let length := length +
    (← TopicMessage.fieldLength (ascii "messageIdentifierLength") messageIdentifierLength)
  return length

def putTopicId (value : Nat) : Encode Unit := do
  write ((← get).fly.mOffset + 0) (toBytes 4 value)

def putSequence (value : Nat) : Encode Unit := do
  write ((← get).fly.mOffset + 4) (toBytes 8 value)

end CommitOffsetLite

/-- Run a message class over a zeroed buffer and resize it to the header and the encoded length. -/
def encodeWithHeader (size : Nat) (fill : Encode Unit) : Except StdString (List UInt8) :=
  match fill.run { buffer := List.replicate size 0 } with
  | .ok _ e => .ok (Lib.Bytes.resize e.buffer (8 + e.fly.encodedLength))
  | .error message _ => .error message

/-- The compact frame of a commit whose topic has a numeric id. -/
def commitOffsetLiteFrame (topicId : Nat) (offset : CommitOffset) :
    Except StdString (List UInt8) := do
  let bodyLen ← CommitOffsetLite.computeLength offset.messageId.length
    offset.messageIdentifier.length
  let total := 8 + bodyLen
  encodeWithHeader total do
    wrapAndApplyHeader CommitOffsetLite.header 0 total
    CommitOffsetLite.putTopicId topicId
    CommitOffsetLite.putSequence offset.sequenceNumber
    putChars offset.messageId
    putChars offset.messageIdentifier

/-- A topic message on `_subscriptions` in an oversized buffer: `MessageHeader::wrap`
writes the header and `wrapForEncode` sees the buffer without it. -/
def subscriptionsFrame (room : Nat) (messageType uuid payload : StdString) (timestamp : Nat) :
    Except StdString (List UInt8) :=
  let size := 8 + 16 + room
  encodeWithHeader size do
    write 0 TopicMessage.header.bytes
    set ({ (← get) with fly :=
      { mBufferLength := size - 8
        mOffset := 8
        mActingBlockLength := TopicMessage.sbeBlockLength
        mActingVersion := TopicMessage.sbeSchemaVersion } } : Encoding)
    moveTo (8 + TopicMessage.sbeBlockLength)
    putTimestamp timestamp
    putSequenceNumber 0
    putChars (ascii "_subscriptions")
    putChars messageType
    putChars uuid
    putChars payload
    putChars (ascii "{}")

/-- What the members that take a 16-bit length write of a text. -/
def chars (src : StdString) : StdString := src.take (src.length % 65536)

theorem length_chars (src : StdString) : (chars src).length = src.length % 65536 := by
  unfold chars
  exact List.length_take_of_le (Nat.mod_le _ _)

/-- Only a text whose length survives the cast is written completely. -/
theorem chars_eq_iff {src : StdString} : chars src = src ↔ src.length < 65536 := by
  constructor
  · intro whole
    rw [← whole, length_chars]
    exact Nat.mod_lt _ (by decide)
  · intro short
    rw [chars, Nat.mod_eq_of_lt short, List.take_length]

section Written

variable {bytes frame : List UInt8} {room : Nat} {fly : Flyweight} {src : StdString}

theorem putChars_eq (src : StdString) : putChars src = (do
    let lengthPosition := (← get).fly.mPosition
    moveTo (lengthPosition + 2)
    write lengthPosition (toBytes 2 (chars src).length)
    if (chars src).length ≠ 0 then
      let pos := (← get).fly.mPosition
      moveTo (pos + (chars src).length)
      write pos (chars src)) := rfl

theorem putChars_written (fits : bytes.length + (varData (chars src)).length ≤ fly.mBufferLength) :
    (putChars src).run (.written bytes room fly) =
      .ok () (.written (bytes ++ varData (chars src)) (room - (2 + (chars src).length)) fly) := by
  rw [length_varData] at fits
  rw [putChars_eq]
  unfold Encoding.written
  simp only [EStateM.run_bind, EStateM.run_get]
  rw [moveTo_of_le (by simp only; omega)]
  simp only
  rw [write_zeros rfl]
  simp only
  by_cases empty : (chars src).length = 0
  · rw [if_neg (not_not.mpr empty)]
    simp [varData, List.length_eq_zero_iff.mp empty]
  · rw [if_pos empty]
    simp only [EStateM.run_bind, EStateM.run_get]
    rw [moveTo_of_le (by simp only; omega)]
    simp only
    rw [write_zeros (by simp)]
    simp [varData, Nat.sub_sub, Nat.add_assoc]

theorem putChars_crossing (crosses : fly.mBufferLength < bytes.length + (varData (chars src)).length) :
    ∃ e, (putChars src).run (.written bytes room fly) =
      .error (ascii "buffer too short [E100]") e := by
  rw [length_varData] at crosses
  rw [putChars_eq]
  unfold Encoding.written
  simp only [EStateM.run_bind, EStateM.run_get]
  by_cases begins : bytes.length + 2 ≤ fly.mBufferLength
  · rw [moveTo_of_le (by exact begins)]
    simp only
    rw [write_zeros rfl]
    simp only
    rw [if_pos (by omega)]
    simp only [EStateM.run_bind, EStateM.run_get]
    rw [moveTo_of_not_le (by simp only; omega)]
    exact ⟨_, rfl⟩
  · rw [moveTo_of_not_le (by exact begins)]
    exact ⟨_, rfl⟩

theorem putChars_iff {e : Encoding} : (putChars src).run (.written bytes room fly) = .ok () e ↔
    bytes.length + (varData (chars src)).length ≤ fly.mBufferLength ∧
      e = .written (bytes ++ varData (chars src)) (room - (2 + (chars src).length)) fly := by
  by_cases fits : bytes.length + (varData (chars src)).length ≤ fly.mBufferLength
  · rw [putChars_written fits]
    constructor
    · rintro ⟨⟩
      exact ⟨fits, rfl⟩
    · rintro ⟨-, rfl⟩
      rfl
  · obtain ⟨_, refused⟩ : ∃ e, (putChars src).run (.written bytes room fly) =
        .error (ascii "buffer too short [E100]") e :=
      putChars_crossing (Nat.not_le.mp fits)
    rw [refused]
    constructor
    · rintro ⟨⟩
    · exact fun whole => absurd whole.1 fits

def texts (strings : List StdString) : List UInt8 := strings.flatMap fun s => varData (chars s)

theorem forM_putChars_iff {strings : List StdString} {e : Encoding}
    (inside : bytes.length ≤ fly.mBufferLength) :
    (forM strings putChars : Encode Unit).run (.written bytes room fly) = .ok () e ↔
      bytes.length + (texts strings).length ≤ fly.mBufferLength ∧
        e = .written (bytes ++ texts strings) (room - (texts strings).length) fly := by
  induction strings generalizing bytes room with
  | nil =>
      have nothing : (forM ([] : List StdString) putChars : Encode Unit).run
          (.written bytes room fly) = .ok () (.written bytes room fly) := rfl
      rw [nothing, EStateM.Result.ok.injEq]
      simp [texts, inside, eq_comm]
  | cons s strings ih =>
      have split : texts (s :: strings) = varData (chars s) ++ texts strings := rfl
      rw [split, List.length_append, ← List.append_assoc, ← Nat.sub_sub, List.forM_cons, bind_eq_ok]
      constructor
      · rintro ⟨⟨⟩, _, here, others⟩
        obtain ⟨fits, rfl⟩ := putChars_iff.mp here
        have behind : (bytes ++ varData (chars s)).length ≤ fly.mBufferLength := by
          rwa [List.length_append]
        rw [ih behind, List.length_append] at others
        rw [length_varData] at others ⊢
        exact ⟨by omega, others.2⟩
      · rintro ⟨fits, rfl⟩
        have behind : (bytes ++ varData (chars s)).length ≤ fly.mBufferLength := by
          rw [List.length_append]
          omega
        refine ⟨(), _, putChars_written (by omega), (ih behind).mpr ⟨?_, ?_⟩⟩
        · rw [List.length_append]
          omega
        · rw [length_varData]

theorem resize_written {rest : Nat} (offset : fly.mOffset = 8) (header : 8 ≤ bytes.length) :
    Lib.Bytes.resize (Encoding.written bytes rest fly).buffer
      (8 + (Encoding.written bytes rest fly).fly.encodedLength) = bytes := by
  have kept : 8 + (Encoding.written bytes rest fly).fly.encodedLength = bytes.length := by
    simp only [Encoding.written, Flyweight.encodedLength, offset]
    omega
  rw [kept, Lib.Bytes.resize_of_le (by simp [Encoding.written])]
  exact List.take_left

/-- A frame whose texts come last is built when there is room for them, and is then complete. -/
theorem encodeWithHeader_iff {size : Nat} {fill : Encode Unit} {strings : List StdString}
    (filled : fill.run { buffer := List.replicate size 0 } =
      (forM strings putChars : Encode Unit).run (.written bytes room fly))
    (offset : fly.mOffset = 8) (header : 8 ≤ bytes.length)
    (inside : bytes.length ≤ fly.mBufferLength) :
    encodeWithHeader size fill = .ok frame ↔
      frame = bytes ++ texts strings ∧ frame.length ≤ fly.mBufferLength := by
  have whole : 8 ≤ (bytes ++ texts strings).length := by
    rw [List.length_append]
    omega
  unfold encodeWithHeader
  rw [filled]
  constructor
  · intro run
    cases outcome : (forM strings putChars : Encode Unit).run (.written bytes room fly) with
    | error what e =>
        rw [outcome] at run
        cases run
    | ok u e =>
        obtain ⟨fits, rfl⟩ := (forM_putChars_iff inside).mp outcome
        rw [outcome] at run
        dsimp only at run
        rw [resize_written offset whole] at run
        cases run
        exact ⟨rfl, by rwa [List.length_append]⟩
  · rintro ⟨rfl, fits⟩
    rw [List.length_append] at fits
    rw [(forM_putChars_iff inside).mpr ⟨fits, rfl⟩]
    dsimp only
    rw [resize_written offset whole]

/-- The flyweight of a topic message in an oversized buffer, which is told of all of it but the
message header. -/
def overRoom (room : Nat) : Flyweight :=
  { mBufferLength := 8 + 16 + room - 8
    mOffset := 8
    mPosition := 8 + TopicMessage.sbeBlockLength
    mActingBlockLength := TopicMessage.sbeBlockLength
    mActingVersion := TopicMessage.sbeSchemaVersion }

def topicBlock (timestamp : Nat) : List UInt8 :=
  TopicMessage.header.bytes ++ toBytes 8 timestamp ++ toBytes 8 0

theorem length_topicBlock (timestamp : Nat) : (topicBlock timestamp).length = 24 := by
  simp [topicBlock, MessageHeader.bytes]

section Subscriptions

theorem subscriptions_block (room timestamp : Nat) (rest : Encode Unit) :
    (do
      write 0 TopicMessage.header.bytes
      set ({ (← get) with fly :=
        { mBufferLength := 8 + 16 + room - 8
          mOffset := 8
          mActingBlockLength := TopicMessage.sbeBlockLength
          mActingVersion := TopicMessage.sbeSchemaVersion } } : Encoding)
      moveTo (8 + TopicMessage.sbeBlockLength)
      putTimestamp timestamp
      putSequenceNumber 0
      rest : Encode Unit).run { buffer := List.replicate (8 + 16 + room) 0 } =
    if 8 ≤ room then rest.run (.written (topicBlock timestamp) room (overRoom room))
    else .error (ascii "buffer too short [E100]") {
      buffer := TopicMessage.header.bytes ++ List.replicate (16 + room) 0
      fly := { overRoom room with mPosition := 0 } } := by
  have buffer : 8 + 16 + room - TopicMessage.header.bytes.length = 16 + room := by
    rw [MessageHeader.length_bytes]
    omega
  rw [EStateM.run_bind, ← List.nil_append (List.replicate (8 + 16 + room) 0),
    write_zeros (by rfl : 0 = ([] : List UInt8).length), buffer]
  dsimp only
  simp only [EStateM.run_bind, EStateM.run_get, EStateM.run_set, List.nil_append]
  by_cases large : 8 ≤ room
  · have fits : 8 + TopicMessage.sbeBlockLength ≤ 8 + 16 + room - 8 := by
      simp only [TopicMessage.sbeBlockLength]
      omega
    rw [if_pos large, moveTo_of_le (by exact fits)]
    dsimp only
    rw [putTimestamp_zeros (by rfl)]
    dsimp only
    rw [putSequenceNumber_zeros (by rfl)]
    dsimp only
    have left : 16 + room - 8 - 8 = room := by omega
    rw [left]
    rfl
  · have crosses : ¬ 8 + TopicMessage.sbeBlockLength ≤ 8 + 16 + room - 8 := by
      simp only [TopicMessage.sbeBlockLength]
      omega
    rw [if_neg large, moveTo_of_not_le (by exact crosses)]
    rfl

variable {messageType uuid payload : StdString} {timestamp : Nat}

/-- A frame on `_subscriptions` is built exactly when it fits, and is then a complete topic
message of what the casts leave of the texts. -/
theorem subscriptionsFrame_iff :
    subscriptionsFrame room messageType uuid payload timestamp = .ok frame ↔
      frame = topicFrame timestamp 0 (chars (ascii "_subscriptions")) (chars messageType)
        (chars uuid) (chars payload) (chars (ascii "{}")) ∧ frame.length ≤ 16 + room := by
  have block := length_topicBlock timestamp
  have fields : (do
      putChars (ascii "_subscriptions")
      putChars messageType
      putChars uuid
      putChars payload
      putChars (ascii "{}") : Encode Unit) =
        forM [ascii "_subscriptions", messageType, uuid, payload, ascii "{}"] putChars := by
    simp only [List.forM_cons, List.forM_nil, bind_pure_unit]
  have whole : topicFrame timestamp 0 (chars (ascii "_subscriptions")) (chars messageType)
      (chars uuid) (chars payload) (chars (ascii "{}")) =
        topicBlock timestamp ++ texts [ascii "_subscriptions", messageType, uuid, payload, ascii "{}"] := by
    simp [topicFrame, topicBlock, texts]
  unfold subscriptionsFrame
  dsimp only
  rw [fields, whole]
  have filled := subscriptions_block room timestamp
    (forM [ascii "_subscriptions", messageType, uuid, payload, ascii "{}"] putChars)
  by_cases large : 8 ≤ room
  · have limit : (overRoom room).mBufferLength = 16 + room := by
      simp only [overRoom]
      omega
    rw [if_pos large] at filled
    rw [encodeWithHeader_iff filled rfl (by omega) (by omega), limit]
  · rw [if_neg large] at filled
    unfold encodeWithHeader
    rw [filled]
    constructor
    · rintro ⟨⟩
    · rintro ⟨rfl, fits⟩
      rw [List.length_append] at fits
      omega

theorem subscriptionsFrame_eq_ok
    (run : subscriptionsFrame room messageType uuid payload timestamp = .ok frame) :
    frame = topicFrame timestamp 0 (chars (ascii "_subscriptions")) (chars messageType)
      (chars uuid) (chars payload) (chars (ascii "{}")) :=
  (subscriptionsFrame_iff.mp run).1

end Subscriptions

/-- The bytes of a compact commit frame: header, fixed block and the two texts. -/
def commitOffsetLiteBytes (topicId sequenceNumber : Nat) (messageId messageIdentifier : StdString) :
    List UInt8 :=
  CommitOffsetLite.header.bytes ++ toBytes 4 topicId ++ toBytes 8 sequenceNumber ++
    varData messageId ++ varData messageIdentifier

theorem putTopicId_zeros {value : Nat} (frontier : fly.mOffset = bytes.length) :
    (CommitOffsetLite.putTopicId value).run
        { buffer := bytes ++ List.replicate room 0, fly := fly } =
      .ok () { buffer := bytes ++ toBytes 4 value ++ List.replicate (room - 4) 0, fly := fly } := by
  unfold CommitOffsetLite.putTopicId
  rw [EStateM.run_bind, EStateM.run_get]
  simp only
  rw [Nat.add_zero, write_zeros frontier, length_toBytes]

theorem putSequence_zeros {value : Nat} (frontier : fly.mOffset + 4 = bytes.length) :
    (CommitOffsetLite.putSequence value).run
        { buffer := bytes ++ List.replicate room 0, fly := fly } =
      .ok () { buffer := bytes ++ toBytes 8 value ++ List.replicate (room - 8) 0, fly := fly } := by
  unfold CommitOffsetLite.putSequence
  rw [EStateM.run_bind, EStateM.run_get]
  simp only
  rw [write_zeros frontier, length_toBytes]

def overBody (bodyLen : Nat) : Flyweight :=
  { mBufferLength := 8 + bodyLen
    mOffset := 8
    mPosition := 8 + CommitOffsetLite.sbeBlockLength
    mActingBlockLength := CommitOffsetLite.sbeBlockLength
    mActingVersion := 1 }

section CompactFrames

def liteBlock (topicId sequenceNumber : Nat) : List UInt8 :=
  CommitOffsetLite.header.bytes ++ toBytes 4 topicId ++ toBytes 8 sequenceNumber

theorem length_liteBlock (topicId sequenceNumber : Nat) :
    (liteBlock topicId sequenceNumber).length = 20 := by
  simp [liteBlock, MessageHeader.bytes]

variable {topicId sequenceNumber bodyLen messageIdLength messageIdentifierLength : Nat}

theorem lite_block (fits : CommitOffsetLite.sbeBlockLength ≤ bodyLen) (rest : Encode Unit) :
    (do
      wrapAndApplyHeader CommitOffsetLite.header 0 (8 + bodyLen)
      CommitOffsetLite.putTopicId topicId
      CommitOffsetLite.putSequence sequenceNumber
      rest : Encode Unit).run { buffer := List.replicate (8 + bodyLen) 0 } =
    rest.run (.written (liteBlock topicId sequenceNumber) (bodyLen - 4 - 8) (overBody bodyLen)) := by
  rw [EStateM.run_bind, wrapAndApplyHeader_zeros (by exact fits)]
  dsimp only
  rw [EStateM.run_bind, putTopicId_zeros (by rfl)]
  dsimp only
  rw [EStateM.run_bind, putSequence_zeros (by rfl)]
  rfl

theorem computeLength_iff : CommitOffsetLite.computeLength messageIdLength messageIdentifierLength =
      .ok bodyLen ↔
    messageIdLength ≤ 65534 ∧ messageIdentifierLength ≤ 65534 ∧
      bodyLen = 12 + (2 + messageIdLength) + (2 + messageIdentifierLength) := by
  constructor
  · intro computed
    obtain ⟨_, id, computed⟩ := except_bind_eq_ok.mp computed
    obtain ⟨_, identifier, computed⟩ := except_bind_eq_ok.mp computed
    obtain ⟨idShort, rfl⟩ := fieldLength_iff.mp id
    obtain ⟨identifierShort, rfl⟩ := fieldLength_iff.mp identifier
    cases computed
    exact ⟨idShort, identifierShort, rfl⟩
  · rintro ⟨idShort, identifierShort, rfl⟩
    apply except_bind_eq_ok.mpr
    refine ⟨_, fieldLength_iff.mpr ⟨idShort, rfl⟩, ?_⟩
    apply except_bind_eq_ok.mpr
    exact ⟨_, fieldLength_iff.mpr ⟨identifierShort, rfl⟩, rfl⟩

theorem le_of_computeLength (computed : CommitOffsetLite.computeLength messageIdLength
      messageIdentifierLength = .ok bodyLen) : CommitOffsetLite.sbeBlockLength ≤ bodyLen := by
  obtain ⟨-, -, rfl⟩ := computeLength_iff.mp computed
  unfold CommitOffsetLite.sbeBlockLength
  omega

theorem length_commitOffsetLiteBytes (topicId sequenceNumber : Nat)
    (messageId messageIdentifier : StdString) :
    (commitOffsetLiteBytes topicId sequenceNumber messageId messageIdentifier).length =
      8 + 12 + (2 + messageId.length) + (2 + messageIdentifier.length) := by
  simp only [commitOffsetLiteBytes, MessageHeader.bytes, List.length_append, length_toBytes,
    length_varData]

theorem encodeWithHeader_lite {offset : CommitOffset}
    (computed : CommitOffsetLite.computeLength offset.messageId.length
      offset.messageIdentifier.length = .ok bodyLen) :
    encodeWithHeader (8 + bodyLen) (do
      wrapAndApplyHeader CommitOffsetLite.header 0 (8 + bodyLen)
      CommitOffsetLite.putTopicId topicId
      CommitOffsetLite.putSequence offset.sequenceNumber
      putChars offset.messageId
      putChars offset.messageIdentifier) = .ok frame ↔
    frame = commitOffsetLiteBytes topicId offset.sequenceNumber offset.messageId
      offset.messageIdentifier := by
  obtain ⟨idShort, identifierShort, extent⟩ := computeLength_iff.mp computed
  have block := length_liteBlock topicId offset.sequenceNumber
  have size := length_commitOffsetLiteBytes topicId offset.sequenceNumber offset.messageId
    offset.messageIdentifier
  have fields : (do
      putChars offset.messageId
      putChars offset.messageIdentifier : Encode Unit) =
        forM [offset.messageId, offset.messageIdentifier] putChars := by
    simp only [List.forM_cons, List.forM_nil, bind_pure_unit]
  have whole : liteBlock topicId offset.sequenceNumber ++
      texts [offset.messageId, offset.messageIdentifier] =
        commitOffsetLiteBytes topicId offset.sequenceNumber offset.messageId offset.messageIdentifier := by
    simp only [texts, List.flatMap_cons, List.flatMap_nil, List.append_nil]
    rw [chars_eq_iff.mpr (by omega), chars_eq_iff.mpr (by omega), ← List.append_assoc]
    rfl
  have fits : CommitOffsetLite.sbeBlockLength ≤ bodyLen := le_of_computeLength computed
  have inside : (liteBlock topicId offset.sequenceNumber).length ≤ (overBody bodyLen).mBufferLength := by
    simp only [overBody, CommitOffsetLite.sbeBlockLength] at fits ⊢
    omega
  rw [fields, encodeWithHeader_iff (lite_block fits _) rfl (by omega) inside, whole]
  constructor
  · exact fun built => built.1
  · rintro rfl
    refine ⟨rfl, ?_⟩
    simp only [overBody]
    omega

/-- A compact frame is built exactly for texts that fit their length prefixes, and is then complete. -/
theorem commitOffsetLiteFrame_iff {offset : CommitOffset} :
    commitOffsetLiteFrame topicId offset = .ok frame ↔
      (offset.messageId.length ≤ 65534 ∧ offset.messageIdentifier.length ≤ 65534) ∧
        frame = commitOffsetLiteBytes topicId offset.sequenceNumber offset.messageId
          offset.messageIdentifier := by
  unfold commitOffsetLiteFrame
  rw [except_bind_eq_ok]
  constructor
  · rintro ⟨bodyLen, computed, run⟩
    obtain ⟨idShort, identifierShort, -⟩ := computeLength_iff.mp computed
    exact ⟨⟨idShort, identifierShort⟩, (encodeWithHeader_lite computed).mp run⟩
  · rintro ⟨⟨idShort, identifierShort⟩, same⟩
    have computed := computeLength_iff.mpr ⟨idShort, identifierShort, rfl⟩
    exact ⟨_, computed, (encodeWithHeader_lite computed).mpr same⟩

theorem commitOffsetLiteFrame_eq_ok {offset : CommitOffset}
    (run : commitOffsetLiteFrame topicId offset = .ok frame) :
    frame = commitOffsetLiteBytes topicId offset.sequenceNumber (chars offset.messageId)
      (chars offset.messageIdentifier) := by
  obtain ⟨⟨idShort, identifierShort⟩, same⟩ := commitOffsetLiteFrame_iff.mp run
  rw [chars_eq_iff.mpr (by omega), chars_eq_iff.mpr (by omega)]
  exact same

end CompactFrames

end Written

/-- The JSON object of a commit, its members in key order as jsoncpp keeps them. -/
def commitOffsetJson (offset : CommitOffset) : Value :=
  .object [
    (ascii "action", .string (ascii "COMMIT_OFFSET")),
    (ascii "messageIdentifier", .string offset.messageIdentifier),
    (ascii "message_id", .string offset.messageId),
    (ascii "sequence_number", .uint offset.sequenceNumber),
    (ascii "timestamp_nanos", .uint offset.timestampNanos),
    (ascii "topic", .string offset.topic)]

/-- The payload text of a commit request, put together without escapes. -/
def commitPayload (topic clientId : StdString) : StdString :=
  ascii "\x7b\"topic\":\"" ++ topic ++ ascii "\",\"action\":\"COMMIT\",\"client_id\":\"" ++
    clientId ++ ascii "\"\x7d"

/-- `build_commit_message`. The two clock readings are arguments. -/
def buildCommitMessage (topic clientId : StdString) (timestamp stamp : Nat) :
    Except StdString (List UInt8) :=
  subscriptionsFrame 512 (ascii "COMMIT") (ascii "commit_" ++ clientId ++ ascii "_" ++ stdToString stamp)
    (commitPayload topic clientId) timestamp

/-- `build_commit_offset_message`. The two clock readings of the fallback are arguments;
the topic argument of the source is not used by it. -/
def buildCommitOffsetMessage (json : Jsoncpp) (clientId : StdString) (offset : CommitOffset)
    (timestamp stamp : Nat) : Except StdString (List UInt8) :=
  if topicToId offset.topic ≠ 0 then commitOffsetLiteFrame (topicToId offset.topic) offset
  else
    subscriptionsFrame 1024 (ascii "COMMIT_OFFSET")
      (ascii "commit_offset_" ++ clientId ++ ascii "_" ++ stdToString stamp)
      (json.write (commitOffsetJson offset)) timestamp

end Frames

end AeronClusterClient.Commit.Manager
