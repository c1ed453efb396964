/- module: AeronClusterClient/Sbe/Parser
   source: src/sbe_encoder.cpp (SBEDecoder, MessageParser), include/aeron_cluster/sbe_messages.hpp
   digest: The parser of incoming frames, over a flat memory with a record of what it reads. -/

import AeronClusterClient.Json
import AeronClusterClient.Sbe.Encoder

set_option autoImplicit false
set_option relaxedAutoImplicit false

namespace AeronClusterClient.Sbe.Parser

open Lib.Action Lib.Bytes Lib.LittleEndian Sbe.GeneratedCodec Sbe.Encoder
open Text (StdString ascii stdToString contains isPrintable)
open Json (Jsoncpp sequenceNumberOfPayload)

structure ParseResult where
  success : Bool := false
  errorMessage : StdString := []
  messageType : StdString := []
  messageId : StdString := []
  payload : StdString := []
  headers : StdString := []
  timestamp : Int := 0
  sequenceNumber : Nat := 0
  templateId : Nat := 0
  schemaId : Nat := 0
  version : Nat := 0
  blockLength : Nat := 0
  correlationId : Int := 0
  sessionId : Int := 0
  leaderMemberId : Int := 0
  eventCode : Int := 0
  leadershipTermId : Int := 0
  deriving DecidableEq, Repr

namespace ParseResult

variable (result : ParseResult)

def isSessionEvent : Bool :=
  result.templateId == SESSION_EVENT_TEMPLATE_ID && result.schemaId == CLUSTER_SCHEMA_ID

def isTopicMessage : Bool :=
  (result.templateId == TOPIC_MESSAGE_TEMPLATE_ID &&
      (result.schemaId == TOPIC_SCHEMA_ID || result.schemaId == 1)) ||
    (result.schemaId == CLUSTER_SCHEMA_ID && result.templateId == TOPIC_MESSAGE_TEMPLATE_ID) ||
    (result.schemaId == TOPIC_SCHEMA_ID && result.templateId == SESSION_EVENT_TEMPLATE_ID) ||
    (!result.messageType.isEmpty &&
      (contains result.messageType (ascii "ORDER") ||
        contains result.messageType (ascii "TopicMessage") ||
        contains result.messageType (ascii "CREATE_ORDER") ||
        contains result.messageType (ascii "UPDATE_ORDER")))

def isAcknowledgment : Bool :=
  result.templateId == ACKNOWLEDGMENT_TEMPLATE_ID && result.schemaId == TOPIC_SCHEMA_ID

end ParseResult

def failure (message : StdString) : ParseResult := { errorMessage := message }

/-- The fixed block of a `SessionEvent`. -/
structure SessionEvent where
  correlationId : Int
  clusterSessionId : Int
  leadershipTermId : Int
  leaderMemberId : Int
  code : Int

section Decoders

variable (mem : Memory)

def readMessageHeader (data : Nat) : Decode MessageHeader := do
  return .ofBytes (← readBytes mem data 8)

/-- `SBEDecoder::decode_message_header`; address 0 is the null pointer. -/
def decodeMessageHeader (data length : Nat) : Decode (Option MessageHeader) := do
  if data = 0 ∨ length < 8 then return none
  return some (← readMessageHeader mem data)

def validateHeader (header : MessageHeader) (expectedTemplateId expectedSchemaId : Nat) : Bool :=
  header.templateId == expectedTemplateId && header.schemaId == expectedSchemaId

/-- `SBEDecoder::extract_variable_string`: the new offset, 0 on failure, and the output string. -/
def extractVariableString (data offset remainingLength : Nat) (output : StdString) :
    Decode (Nat × StdString) := do
  if remainingLength < offset + 4 then return (0, output)
  let length ← readUInt mem (data + offset) 4
  let offset := offset + 4
  if remainingLength - 4 < length ∨ 10 * 1024 * 1024 < length then return (0, output)
  if 0 < length then
    let bytes ← readBytes mem (data + offset) length
    return (offset + length, bytes)
  else
    return (offset, [])

/-- `SBEDecoder::decode_session_event`. Its debug output visits the first 256 bytes. -/
def decodeSessionEvent (data length : Nat) : Decode (Option (SessionEvent × StdString)) := do
  if data = 0 ∨ length < 8 + 32 then return none
  let _ ← readBytes mem data (min length 256)
  let some header ← decodeMessageHeader mem data length | return none
  if !validateHeader header SESSION_EVENT_TEMPLATE_ID CLUSTER_SCHEMA_ID then return none
  let ptr := data + 8
  let event : SessionEvent :=
    { correlationId := ← readInt mem ptr 8
      clusterSessionId := ← readInt mem (ptr + 8) 8
      leadershipTermId := ← readInt mem (ptr + 16) 8
      leaderMemberId := ← readInt mem (ptr + 24) 4
      code := ← readInt mem (ptr + 28) 4 }
  let remaining := length - 8 - 32
  if 0 < remaining then
    let (_, detail) ← extractVariableString mem (ptr + 32) 0 remaining []
    return some (event, detail)
  else
    return some (event, [])

/-- `SBEDecoder::decode_acknowledgment`: message id, status, error and timestamp. -/
def decodeAcknowledgment (data length : Nat) :
    Decode (Option (StdString × StdString × StdString × Int)) := do
  if data = 0 ∨ length < 8 + 8 then return none
  let some header ← decodeMessageHeader mem data length | return none
  if !validateHeader header ACKNOWLEDGMENT_TEMPLATE_ID TOPIC_SCHEMA_ID then return none
  let ptr := data + 8
  let timestamp ← readInt mem ptr 8
  let ptr := ptr + 8
  let remaining := length - 8 - 8
  let (offset, messageId) ← extractVariableString mem ptr 0 remaining []
  if offset = 0 then return none
  let (offset, status) ← extractVariableString mem ptr offset remaining []
  if offset = 0 then return none
  if offset < remaining then
    let (_, error) ← extractVariableString mem ptr offset remaining []
    return some (messageId, status, error, timestamp)
  else
    return some (messageId, status, [], timestamp)

def parseSessionEvent (data length : Nat) : Decode ParseResult := do
  let some (event, detail) ← decodeSessionEvent mem data length
    | return failure (ascii "Failed to decode SessionEvent")
  let header ← readMessageHeader mem data
  return {
    success := true
    messageType := ascii "SessionEvent"
    correlationId := event.correlationId
    sessionId := event.clusterSessionId
    leaderMemberId := event.leaderMemberId
    leadershipTermId := event.leadershipTermId
    eventCode := event.code
    payload := detail
    timestamp := 0
    templateId := header.templateId
    schemaId := header.schemaId
    version := header.version
    blockLength := header.blockLength }

def parseAcknowledgment (data length : Nat) : Decode ParseResult := do
  let some (messageId, status, error, timestamp) ← decodeAcknowledgment mem data length
    | return failure (ascii "Failed to decode Acknowledgment")
  let header ← readMessageHeader mem data
  return {
    success := true
    messageType := ascii "Acknowledgment"
    messageId := messageId
    payload := status
    headers := error
    timestamp := timestamp
    templateId := header.templateId
    schemaId := header.schemaId
    version := header.version
    blockLength := header.blockLength }

/-- The maximal runs of printable characters that have at least `minLength` of them. -/
def extractReadableStrings (minLength : Nat) : List UInt8 → StdString → List StdString
  | [], current => if minLength ≤ current.length then [current] else []
  | c :: rest, current =>
      if isPrintable c then extractReadableStrings minLength rest (current ++ [c])
      else if minLength ≤ current.length then
        current :: extractReadableStrings minLength rest []
      else extractReadableStrings minLength rest []

/-- `MessageParser::decode_acknowledgment_with_sbe`. Nothing in it throws. -/
def decodeAcknowledgmentWithSbe (data length : Nat) : Decode ParseResult := do
  if length < 8 then return failure (ascii "Buffer too short for SBE header")
  let blockLength ← readUInt mem data 2
  let templateId ← readUInt mem (data + 2) 2
  let schemaId ← readUInt mem (data + 4) 2
  let version ← readUInt mem (data + 6) 2
  if templateId ≠ 2 ∨ schemaId ≠ 1 then
    return failure (
      ascii "Message is not an Acknowledgment. Expected: template_id=2, schema_id=1. Got: template_id=" ++
        stdToString templateId ++ ascii ", schema_id=" ++ stdToString schemaId)
  let expectedMinSize := 8 + 8
  if length < expectedMinSize then
    return failure (
      ascii "Buffer too short for Acknowledgment message. Need at least " ++
        stdToString expectedMinSize ++ ascii " bytes, got " ++ stdToString length)
  let timestamp ← readUInt mem (data + 8) 8
  let remainingOffset := 16
  let extracted ←
    if remainingOffset < length then do
      let rest ← readBytes mem (data + remainingOffset) (length - remainingOffset)
      pure (extractReadableStrings 3 rest [])
    else pure []
  let messageId := extracted.getD 0 []
  let payload := extracted.getD 1 []
  return {
    success := true
    templateId := templateId
    schemaId := schemaId
    version := version
    blockLength := blockLength
    messageType := ascii "Acknowledgment"
    timestamp := signed 8 timestamp
    messageId := if messageId.isEmpty then ascii "ack_" ++ stdToString timestamp else messageId
    payload := if payload.isEmpty then ascii "SUCCESS" else payload
    headers := extracted.getD 2 [] }

variable (json : Jsoncpp)

/-- `static_cast<int>(length)` passed on as an unsigned 64-bit buffer length. -/
def intBufferLength (length : Nat) : Nat := unsigned 8 (signed 4 (length % 2 ^ 32))

/-- The headers are decoded on their own; an exception leaves them empty. -/
def headersOrEmpty (data : Nat) (fly : Flyweight) : Decode StdString :=
  tryCatch (do return (← getHeadersAsString mem data fly).1) (fun _ => return [])

/-- The fields of a message whose header has been accepted. -/
def readTopicFields (data : Nat) (header : MessageHeader) (fly : Flyweight) :
    Decode ParseResult := do
  let timestamp ← timestamp mem data fly
  let (_topic, fly) ← getTopicAsString mem data fly
  let (messageType, fly) ← getMessageTypeAsString mem data fly
  let (uuid, fly) ← getUuidAsString mem data fly
  let (payload, fly) ← getPayloadAsString mem data fly
  let _ ← sequenceNumber mem data fly
  let headers ← headersOrEmpty mem data fly
  return {
    success := true
    templateId := header.templateId
    schemaId := header.schemaId
    version := header.version
    blockLength := header.blockLength
    messageType := messageType
    messageId := uuid
    payload := payload
    timestamp := signed 8 timestamp
    sequenceNumber := sequenceNumberOfPayload json payload
    headers := headers }

/-- The body of the `try` block of `decode_topic_message_with_sbe`. -/
def readTopicMessage (data length : Nat) : Decode ParseResult := do
  if length < 0 + 8 then
    throw (ascii "buffer too short for flyweight [E107]")
  let actingBlockLength ← readUInt mem (data + 0) 2
  let actingVersion ← readUInt mem (data + 6) 2
  let templateId ← readUInt mem (data + 2) 2
  let schemaId ← readUInt mem (data + 4) 2
  if templateId ≠ TopicMessage.sbeTemplateId ∨ schemaId ≠ TopicMessage.sbeSchemaId then
    return failure (
      ascii "Not a TopicMessage (got template_id=" ++ stdToString templateId ++
        ascii ", schema_id=" ++ stdToString schemaId ++ ascii ")")
  let fly ← ofExcept (wrapForDecode 8 actingBlockLength actingVersion (intBufferLength length))
  readTopicFields mem json data ⟨actingBlockLength, templateId, schemaId, actingVersion⟩ fly

def decodeTopicMessageWithSbe (data length : Nat) : Decode ParseResult :=
  tryCatch (readTopicMessage mem json data length) (fun what =>
    return failure (ascii "SBE TopicMessage decoding failed: " ++ what))

/-- `MessageParser::parse_topic_message`: a schema 111 frame is an envelope whose
message starts after the header and the announced block. -/
def parseTopicMessage (data length : Nat) : Decode ParseResult := do
  if data = 0 ∨ length < 8 then
    return failure (ascii "Insufficient data for message header")
  let some header ← decodeMessageHeader mem data length
    | return failure (ascii "Failed to decode message header")
  if header.schemaId = 111 then
    let sessionHeaderSize := 8 + header.blockLength
    if length ≤ sessionHeaderSize then
      return failure (ascii "Session message too short to contain embedded message")
    let embeddedData := data + sessionHeaderSize
    let embeddedLength := length - sessionHeaderSize
    if embeddedLength < 8 then
      return failure (ascii "Embedded message too short")
    let some embedded ← decodeMessageHeader mem embeddedData embeddedLength
      | return failure (ascii "Failed to decode embedded message header")
    if embedded.schemaId = 1 then
      if embedded.templateId = 1 then
        decodeTopicMessageWithSbe mem json embeddedData embeddedLength
      else if embedded.templateId = 2 then
        decodeAcknowledgmentWithSbe mem embeddedData embeddedLength
      else
        return failure (
          ascii "Unknown embedded message template_id: " ++ stdToString embedded.templateId)
    else
      return failure (
        ascii "Unknown embedded message schema_id: " ++ stdToString embedded.schemaId)
  else if header.schemaId = 1 then
    if header.templateId = 1 then decodeTopicMessageWithSbe mem json data length
    else if header.templateId = 2 then decodeAcknowledgmentWithSbe mem data length
    else
      return failure (
        ascii "Unknown direct message template_id: " ++ stdToString header.templateId)
  else
    return failure (
      ascii "Unknown message format: schema_id=" ++ stdToString header.schemaId ++
        ascii ", template_id=" ++ stdToString header.templateId)

/-- `MessageParser::parse_message`. The result that is classified carries the header only. -/
def parseMessage (data length : Nat) : Decode ParseResult := do
  if data = 0 ∨ length = 0 then return failure (ascii "Null or empty data")
  let some header ← decodeMessageHeader mem data length
    | return failure (ascii "Failed to decode message header")
  let result : ParseResult :=
    { templateId := header.templateId
      schemaId := header.schemaId
      version := header.version
      blockLength := header.blockLength }
  if result.isSessionEvent then parseSessionEvent mem data length
  else if result.isTopicMessage then parseTopicMessage mem json data length
  else if result.isAcknowledgment then parseAcknowledgment mem data length
  else
    let message := ascii "Unknown message type: template=" ++ stdToString result.templateId ++
      ascii ", schema=" ++ stdToString result.schemaId
    return { result with errorMessage := message }

end Decoders

/-- What a call of `parse_message` returns; the parser never lets an exception escape. -/
def parsed (json : Jsoncpp) (mem : Memory) (data length : Nat) : Option ParseResult :=
  returned (parseMessage mem json data length) []

section Headers

variable {mem : Memory} {data length : Nat}

def headerAt (mem : Memory) (data : Nat) : MessageHeader := .ofBytes (bytesAt mem data 8)

theorem headerAt_eq (mem : Memory) (data : Nat) : headerAt mem data =
    ⟨ofBytes (bytesAt mem (data + 0) 2), ofBytes (bytesAt mem (data + 2) 2),
      ofBytes (bytesAt mem (data + 4) 2), ofBytes (bytesAt mem (data + 6) 2)⟩ := by
  have split : bytesAt mem data 8 = bytesAt mem data 2 ++ (bytesAt mem (data + 2) 2 ++
      (bytesAt mem (data + 4) 2 ++ bytesAt mem (data + 6) 2)) := by
    rw [show 8 = 2 + (2 + (2 + 2)) from rfl, bytesAt_add, bytesAt_add, bytesAt_add]
  have past (addr k : Nat) (beyond : 2 ≤ k) : (bytesAt mem addr 2).drop k = [] :=
    List.drop_eq_nil_of_le (by simpa using beyond)
  unfold headerAt MessageHeader.ofBytes
  rw [split]
  simp [List.drop_append, past]

theorem headerAt_of_holds {header : MessageHeader} (held : Holds mem data header.bytes) :
    headerAt mem data = ⟨header.blockLength % 65536, header.templateId % 65536,
      header.schemaId % 65536, header.version % 65536⟩ := by
  obtain ⟨front, version⟩ := holds_append.mp held
  obtain ⟨front, schemaId⟩ := holds_append.mp front
  obtain ⟨blockLength, templateId⟩ := holds_append.mp front
  simp only [List.length_append, length_toBytes] at templateId schemaId version
  rw [headerAt_eq, MessageHeader.mk.injEq]
  exact ⟨ofBytes_of_holds blockLength, ofBytes_of_holds templateId, ofBytes_of_holds schemaId,
    ofBytes_of_holds version⟩

theorem decodeMessageHeader_run (here : data ≠ 0) (long : 8 ≤ length) (reads : List (Nat × Nat)) :
    (decodeMessageHeader mem data length).run reads =
      .ok (some (headerAt mem data)) ((data, 8) :: reads) := by
  unfold decodeMessageHeader
  rw [if_neg (by omega)]
  rfl

def classified (header : MessageHeader) : ParseResult :=
  { templateId := header.templateId
    schemaId := header.schemaId
    version := header.version
    blockLength := header.blockLength }

theorem isTopicMessage_classified {header : MessageHeader} :
    (classified header).isTopicMessage = true ↔
      (header.templateId = 1 ∧ (header.schemaId = 1 ∨ header.schemaId = 111)) ∨
        (header.templateId = 2 ∧ header.schemaId = 1) := by
  simp only [classified, ParseResult.isTopicMessage, TOPIC_MESSAGE_TEMPLATE_ID, TOPIC_SCHEMA_ID,
    CLUSTER_SCHEMA_ID, SESSION_EVENT_TEMPLATE_ID, List.isEmpty_nil, Bool.not_true, Bool.false_and,
    Bool.or_false, Bool.or_self, Bool.or_eq_true, Bool.and_eq_true, beq_iff_eq]
  tauto

theorem parseMessage_of_topic {json : Jsoncpp} {reads : List (Nat × Nat)} (here : data ≠ 0)
    (long : 8 ≤ length) (topic : (classified (headerAt mem data)).isTopicMessage = true) :
    (parseMessage mem json data length).run reads =
      (parseTopicMessage mem json data length).run ((data, 8) :: reads) := by
  have event : (classified (headerAt mem data)).isSessionEvent = false := by
    have kind := isTopicMessage_classified.mp topic
    simp only [classified, ParseResult.isSessionEvent, SESSION_EVENT_TEMPLATE_ID, CLUSTER_SCHEMA_ID,
      Bool.and_eq_false_iff, beq_eq_false_iff_ne]
    omega
  unfold parseMessage
  rw [if_neg (by omega), EStateM.run_bind, decodeMessageHeader_run here long]
  change EStateM.run (if (classified (headerAt mem data)).isSessionEvent = true then _ else
    if (classified (headerAt mem data)).isTopicMessage = true then _ else _) _ = _
  rw [event, topic]
  rfl

theorem parseTopicMessage_of_direct {json : Jsoncpp} {reads : List (Nat × Nat)} (here : data ≠ 0)
    (long : 8 ≤ length) (schema : (headerAt mem data).schemaId = 1) :
    (parseTopicMessage mem json data length).run reads =
      (if (headerAt mem data).templateId = 1 then decodeTopicMessageWithSbe mem json data length
        else if (headerAt mem data).templateId = 2 then decodeAcknowledgmentWithSbe mem data length
        else return failure (ascii "Unknown direct message template_id: " ++
          stdToString (headerAt mem data).templateId)).run ((data, 8) :: reads) := by
  unfold parseTopicMessage
  rw [if_neg (by omega), EStateM.run_bind, decodeMessageHeader_run here long]
  dsimp only
  rw [if_neg (by omega), if_pos schema]

end Headers

section Strings

variable {mem : Memory} {data offset remaining : Nat}

def prefixAt (mem : Memory) (data offset : Nat) : Nat := ofBytes (bytesAt mem (data + offset) 4)

/-- Where a string with its prefix at an offset ends. -/
def stringEnd (mem : Memory) (data offset : Nat) : Nat := offset + 4 + prefixAt mem data offset

theorem stringEnd_ne_zero (mem : Memory) (data offset : Nat) : stringEnd mem data offset ≠ 0 := by
  unfold stringEnd
  omega

def stringBytes (mem : Memory) (data offset : Nat) : StdString :=
  bytesAt mem (data + (offset + 4)) (prefixAt mem data offset)

/-- The prefix is there and passes the checks that are made of it. -/
def Accepted (mem : Memory) (data offset remaining : Nat) : Prop :=
  offset + 4 ≤ remaining ∧ prefixAt mem data offset ≤ remaining - 4 ∧
    prefixAt mem data offset ≤ 10 * 1024 * 1024

/-- An accepted string is returned with the offset behind it; an empty one is not read. -/
theorem extractVariableString_of_accepted (accepted : Accepted mem data offset remaining)
    (output : StdString) (reads : List (Nat × Nat)) :
    ∃ after, (extractVariableString mem data offset remaining output).run reads =
        .ok (stringEnd mem data offset, stringBytes mem data offset) after ∧
      (after = (data + (offset + 4), prefixAt mem data offset) :: (data + offset, 4) :: reads ∨
        prefixAt mem data offset = 0 ∧ after = (data + offset, 4) :: reads) := by
  obtain ⟨room, fits, limited⟩ := accepted
  have length : (readUInt mem (data + offset) 4).run reads =
      .ok (prefixAt mem data offset) ((data + offset, 4) :: reads) := rfl
  unfold extractVariableString
  rw [if_neg (by omega), EStateM.run_bind, length]
  dsimp only
  rw [if_neg (by omega)]
  by_cases some : 0 < prefixAt mem data offset
  · rw [if_pos some]
    exact ⟨_, rfl, Or.inl rfl⟩
  · have empty : prefixAt mem data offset = 0 := by omega
    unfold stringEnd stringBytes
    rw [if_neg some, empty]
    exact ⟨_, rfl, Or.inr ⟨rfl, rfl⟩⟩

/-- Any other string fails, with nothing read but the prefix, and that only if it is there. -/
theorem extractVariableString_of_not_accepted (refused : ¬ Accepted mem data offset remaining)
    (output : StdString) (reads : List (Nat × Nat)) :
    ∃ after, (extractVariableString mem data offset remaining output).run reads =
        .ok (0, output) after ∧
      (after = reads ∨ offset + 4 ≤ remaining ∧ after = (data + offset, 4) :: reads) := by
  have length : (readUInt mem (data + offset) 4).run reads =
      .ok (prefixAt mem data offset) ((data + offset, 4) :: reads) := rfl
  unfold extractVariableString
  by_cases short : remaining < offset + 4
  · rw [if_pos short]
    exact ⟨_, rfl, Or.inl rfl⟩
  · have bad : remaining - 4 < prefixAt mem data offset ∨
        10 * 1024 * 1024 < prefixAt mem data offset := by
      unfold Accepted at refused
      omega
    rw [if_neg short, EStateM.run_bind, length]
    dsimp only
    rw [if_pos bad]
    exact ⟨_, rfl, Or.inr ⟨by omega, rfl⟩⟩

end Strings

section TopicHeaders

theorem intBufferLength_of_lt {length : Nat} (small : length < 2 ^ 31) :
    intBufferLength length = length := by
  unfold intBufferLength
  rw [Nat.mod_eq_of_lt (by omega)]
  unfold signed unsigned
  rw [if_pos (by omega)]
  omega

/-- What has been done when the body of the `try` block returns: the fields have been read, unless
the header is that of another message. -/
theorem readTopicMessage_eq_ok {json : Jsoncpp} {mem : Memory} {data length : Nat} {r : ParseResult}
    {reads after : List (Nat × Nat)}
    (run : (readTopicMessage mem json data length).run reads = .ok r after) :
    (∃ message, r = failure message) ∨ ∃ fly log,
      wrapForDecode 8 (headerAt mem data).blockLength (headerAt mem data).version
        (intBufferLength length) = .ok fly ∧
      (readTopicFields mem json data (headerAt mem data) fly).run log = .ok r after := by
  unfold readTopicMessage at run
  split at run
  · cases run
  · obtain ⟨block, _, ⟨⟩, run⟩ := bind_eq_ok.mp run
    obtain ⟨version, _, ⟨⟩, run⟩ := bind_eq_ok.mp run
    obtain ⟨template, _, ⟨⟩, run⟩ := bind_eq_ok.mp run
    obtain ⟨schema, _, ⟨⟩, run⟩ := bind_eq_ok.mp run
    split at run
    · cases run
      exact Or.inl ⟨_, rfl⟩
    · obtain ⟨fly, log, wrapped, fields⟩ := bind_eq_ok.mp run
      refine Or.inr ⟨fly, log, ?_⟩
      rw [headerAt_eq]
      exact ⟨(ofExcept_eq_ok.mp wrapped).1, fields⟩

theorem readTopicFields_of_success {json : Jsoncpp} {mem : Memory} {data length : Nat}
    {r : ParseResult} {reads after : List (Nat × Nat)}
    (run : (decodeTopicMessageWithSbe mem json data length).run reads = .ok r after)
    (success : r.success = true) :
    ∃ fly log, wrapForDecode 8 (headerAt mem data).blockLength (headerAt mem data).version
        (intBufferLength length) = .ok fly ∧
      (readTopicFields mem json data (headerAt mem data) fly).run log = .ok r after := by
  have body : (readTopicMessage mem json data length).run reads = .ok r after := by
    refine of_tryCatch_eq_ok (fun what log returned => ?_) run
    cases returned
    cases success
  rcases readTopicMessage_eq_ok body with ⟨message, rfl⟩ | fields
  · cases success
  · exact fields

theorem readTopicMessage_of_header {json : Jsoncpp} {mem : Memory} {data length : Nat}
    {reads : List (Nat × Nat)} {header : MessageHeader} (same : headerAt mem data = header)
    (long : 8 ≤ length) (template : header.templateId = 1) (schema : header.schemaId = 1)
    (fits : 8 + header.blockLength ≤ intBufferLength length) :
    ∃ log, (readTopicMessage mem json data length).run reads =
      (readTopicFields mem json data header
        { mBufferLength := intBufferLength length
          mOffset := 8
          mPosition := 8 + header.blockLength
          mActingBlockLength := header.blockLength
          mActingVersion := header.version }).run log := by
  obtain ⟨blockLength, templateId, schemaId, acting⟩ := header
  have parts := (headerAt_eq mem data).symm.trans same
  obtain ⟨blockEq, templateEq, schemaEq, actingEq⟩ := MessageHeader.mk.inj parts
  dsimp only at template schema fits
  unfold readTopicMessage
  rw [if_neg (by omega)]
  refine ⟨(data + 4, 2) :: (data + 2, 2) :: (data + 6, 2) :: (data + 0, 2) :: reads, ?_⟩
  change (if ofBytes (bytesAt mem (data + 2) 2) ≠ TopicMessage.sbeTemplateId ∨
    ofBytes (bytesAt mem (data + 4) 2) ≠ TopicMessage.sbeSchemaId then _ else _ :
      Decode ParseResult).run _ = _
  have wrapped : wrapForDecode 8 blockLength acting (intBufferLength length) = .ok _ :=
    Flyweight.sbePosition_eq_ok.mpr ⟨fits, rfl⟩
  rw [templateEq, schemaEq, blockEq, actingEq, template, schema, if_neg (by decide), wrapped,
    EStateM.run_bind]
  rfl

def decoding (length position : Nat) : Flyweight :=
  { mBufferLength := length
    mOffset := 8
    mPosition := position
    mActingBlockLength := TopicMessage.sbeBlockLength
    mActingVersion := TopicMessage.sbeSchemaVersion }

variable {mem : Memory} {data : Nat}

theorem ofBytes_topicHeader (held : Holds mem data TopicMessage.header.bytes) :
    MessageHeader.ofBytes (bytesAt mem data 8) = TopicMessage.header :=
  headerAt_of_holds held

theorem topicHeader_fields (held : Holds mem data TopicMessage.header.bytes) :
    ofBytes (bytesAt mem (data + 0) 2) = 16 ∧ ofBytes (bytesAt mem (data + 2) 2) = 1 ∧
      ofBytes (bytesAt mem (data + 4) 2) = 1 ∧ ofBytes (bytesAt mem (data + 6) 2) = 1 := by
  have fields := (headerAt_eq mem data).symm.trans (headerAt_of_holds held)
  obtain ⟨blockLength, templateId, schemaId, version⟩ := MessageHeader.mk.inj fields
  exact ⟨blockLength, templateId, schemaId, version⟩

end TopicHeaders

end AeronClusterClient.Sbe.Parser
