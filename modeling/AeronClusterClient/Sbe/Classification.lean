/- module: AeronClusterClient/Sbe/Classification
   source: src/sbe_encoder.cpp (get_message_type_name, MessageParser::get_message_type,
   extract_correlation_id, is_acknowledgment_for), include/aeron_cluster/sbe_messages.hpp
   digest: The checks that look at the first header of a frame, against the parser. -/

import AeronClusterClient.Sbe.EnvelopeTransparency

/-!
The parser looks behind a session message header, the quick checks do not. For
a frame that parses with success they name the same message and the same
correlation id as long as no such header stands in front; behind one the name is
lost, and the leadership term is taken for the correlation id.
-/

set_option autoImplicit false
set_option relaxedAutoImplicit false

namespace AeronClusterClient.Sbe.Classification

open Lib.Action Lib.Bytes Lib.LittleEndian Sbe.GeneratedCodec Sbe.Encoder Sbe.Parser Sbe.ReadBounds
open Sbe.EnvelopeTransparency (sessionMessageHeader)
open Text (StdString ascii stdToString contains)
open Json (Jsoncpp)

def getMessageTypeName (templateId schemaId : Nat) : StdString :=
  if schemaId = CLUSTER_SCHEMA_ID then
    if templateId = SESSION_CONNECT_TEMPLATE_ID then ascii "SessionConnectRequest"
    else if templateId = SESSION_EVENT_TEMPLATE_ID then ascii "SessionEvent"
    else ascii "UnknownClusterMessage(" ++ stdToString templateId ++ ascii ")"
  else if schemaId = TOPIC_SCHEMA_ID then
    if templateId = TOPIC_MESSAGE_TEMPLATE_ID then ascii "TopicMessage"
    else if templateId = ACKNOWLEDGMENT_TEMPLATE_ID then ascii "Acknowledgment"
    else ascii "UnknownTopicMessage(" ++ stdToString templateId ++ ascii ")"
  else
    ascii "UnknownSchema(" ++ stdToString schemaId ++ ascii "," ++ stdToString templateId ++ ascii ")"

section QuickChecks

variable (mem : Memory)

def getMessageType (data length : Nat) : Decode StdString := do
  if data = 0 ∨ length < 8 then return ascii "INVALID"
  let header ← readMessageHeader mem data
  return getMessageTypeName header.templateId header.schemaId

def extractCorrelationId (data length : Nat) : Decode Int := do
  if data = 0 ∨ length < 8 + 8 then return 0
  let header ← readMessageHeader mem data
  if header.schemaId = CLUSTER_SCHEMA_ID then readInt mem (data + 8) 8
  else return 0

def isAcknowledgmentFor (json : Jsoncpp) (data length : Nat) (messageId : StdString) : Decode Bool := do
  let result ← parseMessage mem json data length
  if !result.success || !result.isAcknowledgment then return false
  return result.messageId == messageId || contains result.payload messageId ||
    contains result.headers messageId

end QuickChecks

variable {json : Jsoncpp} {mem : Memory} {data length : Nat}

section Reads

/-- The checks of the first header read nothing but the frame, whatever it is. -/
theorem quick_checks_read_inside (mem : Memory) (data length : Nat) :
    AllInside data (data + length) (finalState (getMessageType mem data length) []) ∧
      AllInside data (data + length) (finalState (extractCorrelationId mem data length) []) := by
  have header (long : 8 ≤ length) :
      Within (Stays data (data + length)) (readMessageHeader mem data) :=
    within_bind (within_readBytes (inside_of_le (by omega) (by omega))) fun _ => within_pure _
  have type : Within (Stays data (data + length)) (getMessageType mem data length) := by
    unfold getMessageType
    by_cases short : data = 0 ∨ length < 8
    · rw [if_pos short]
      exact within_pure _
    · rw [if_neg short]
      exact within_bind (header (by omega)) fun _ => within_pure _
  have correlation : Within (Stays data (data + length)) (extractCorrelationId mem data length) := by
    unfold extractCorrelationId
    by_cases short : data = 0 ∨ length < 8 + 8
    · rw [if_pos short]
      exact within_pure _
    · rw [if_neg short]
      refine within_bind (header (by omega)) fun found => within_ite ?_ (within_pure _)
      exact within_readInt (inside_of_le (by omega) (by omega))
  have none : AllInside data (data + length) [] := List.forall_mem_nil _
  exact ⟨(type []).mpr none, (correlation []).mpr none⟩

end Reads

section Headers

def headerOf (r : ParseResult) : MessageHeader := ⟨r.blockLength, r.templateId, r.schemaId, r.version⟩

theorem readInt_run (addr width : Nat) (reads : List (Nat × Nat)) :
    (readInt mem addr width).run reads =
      .ok (signed width (ofBytes (bytesAt mem addr width))) ((addr, width) :: reads) := rfl

theorem headerOf_sessionEvent {r : ParseResult} {reads after : List (Nat × Nat)}
    (run : (parseSessionEvent mem data length).run reads = .ok r after) (success : r.success = true) :
    headerOf r = headerAt mem data ∧
      r.correlationId = signed 8 (ofBytes (bytesAt mem (data + 8) 8)) := by
  unfold parseSessionEvent at run
  obtain ⟨decoded, _, decode, run⟩ := bind_eq_ok.mp run
  cases decoded with
  | none =>
      cases run
      cases success
  | some found =>
      obtain ⟨event, detail⟩ := found
      dsimp only at run
      obtain ⟨_, _, ⟨⟩, run⟩ := bind_eq_ok.mp run
      cases run
      refine ⟨rfl, ?_⟩
      unfold decodeSessionEvent at decode
      split at decode
      · cases decode
      · obtain ⟨_, _, ⟨⟩, decode⟩ := bind_eq_ok.mp decode
        obtain ⟨_, _, header, decode⟩ := bind_eq_ok.mp decode
        cases (decodeMessageHeader_run (by omega) (by omega) _).symm.trans header
        dsimp only at decode
        split at decode
        · cases decode
        · obtain ⟨correlationId, _, read, decode⟩ := bind_eq_ok.mp decode
          have value : correlationId = signed 8 (ofBytes (bytesAt mem (data + 8) 8)) :=
            (EStateM.Result.ok.inj ((readInt_run (data + 8) 8 _).symm.trans read)).1.symm
          obtain ⟨_, _, -, decode⟩ := bind_eq_ok.mp decode
          obtain ⟨_, _, -, decode⟩ := bind_eq_ok.mp decode
          obtain ⟨_, _, -, decode⟩ := bind_eq_ok.mp decode
          obtain ⟨_, _, -, decode⟩ := bind_eq_ok.mp decode
          split at decode
          · obtain ⟨_, _, -, decode⟩ := bind_eq_ok.mp decode
            cases decode
            exact value
          · cases decode
            exact value

theorem headerOf_topicMessage {r : ParseResult} {reads after : List (Nat × Nat)}
    (run : (decodeTopicMessageWithSbe mem json data length).run reads = .ok r after)
    (success : r.success = true) : headerOf r = headerAt mem data ∧ r.correlationId = 0 := by
  obtain ⟨fly, log, -, fields⟩ := readTopicFields_of_success run success
  unfold readTopicFields at fields
  obtain ⟨_, _, -, fields⟩ := bind_eq_ok.mp fields
  obtain ⟨_, _, -, fields⟩ := bind_eq_ok.mp fields
  obtain ⟨_, _, -, fields⟩ := bind_eq_ok.mp fields
  obtain ⟨_, _, -, fields⟩ := bind_eq_ok.mp fields
  obtain ⟨_, _, -, fields⟩ := bind_eq_ok.mp fields
  obtain ⟨_, _, -, fields⟩ := bind_eq_ok.mp fields
  obtain ⟨_, _, -, ⟨⟩⟩ := bind_eq_ok.mp fields
  exact ⟨rfl, rfl⟩

theorem headerOf_acknowledgment {r : ParseResult} {reads after : List (Nat × Nat)}
    (run : (decodeAcknowledgmentWithSbe mem data length).run reads = .ok r after)
    (success : r.success = true) : headerOf r = headerAt mem data ∧ r.correlationId = 0 := by
  unfold decodeAcknowledgmentWithSbe at run
  split at run
  · cases run
    cases success
  · obtain ⟨block, _, ⟨⟩, run⟩ := bind_eq_ok.mp run
    obtain ⟨template, _, ⟨⟩, run⟩ := bind_eq_ok.mp run
    obtain ⟨schema, _, ⟨⟩, run⟩ := bind_eq_ok.mp run
    obtain ⟨version, _, ⟨⟩, run⟩ := bind_eq_ok.mp run
    dsimp only at run
    split at run
    · cases run
      cases success
    · split at run
      · cases run
        cases success
      · obtain ⟨_, _, -, run⟩ := bind_eq_ok.mp run
        split at run
        · obtain ⟨_, _, -, run⟩ := bind_eq_ok.mp run
          cases run
          exact ⟨(headerAt_eq mem data).symm, rfl⟩
        · cases run
          exact ⟨(headerAt_eq mem data).symm, rfl⟩

theorem headerOf_decoded {r : ParseResult} (decoded : Decoded json mem data length r)
    (success : r.success = true) : headerOf r = headerAt mem data ∧ r.correlationId = 0 := by
  obtain ⟨-, ⟨-, reads, after, run⟩ | ⟨-, reads, after, run⟩⟩ := decoded
  · exact headerOf_topicMessage run success
  · exact headerOf_acknowledgment run success

end Headers

section Agreement

/-- A session message header stands in front. -/
def Wrapped (mem : Memory) (data : Nat) : Prop :=
  (headerAt mem data).schemaId = 111 ∧ (headerAt mem data).templateId = 1

def Starts (mem : Memory) (data start : Nat) : Prop :=
  (¬ Wrapped mem data ∧ start = data) ∨
    (Wrapped mem data ∧ start = data + (8 + (headerAt mem data).blockLength))

/-- The first field behind the first header: the correlation id of a session event, the leadership
term of a session message header. -/
def firstField (mem : Memory) (data : Nat) : Int := signed 8 (ofBytes (bytesAt mem (data + 8) 8))

/-- The three messages that are parsed with success, by template and schema. -/
def messageKinds : List (Nat × Nat) := [(2, 111), (1, 1), (2, 1)]

/-- What the quick checks say of a frame that has been parsed with success. -/
structure Classified (json : Jsoncpp) (mem : Memory) (data length : Nat) (r : ParseResult) : Prop where
  /-- The result carries the header of the message, which lies in the frame and is of a known kind. -/
  header : ∃ start, Starts mem data start ∧ start + 8 ≤ data + length ∧ headerOf r = headerAt mem start
  kind : (r.templateId, r.schemaId) ∈ messageKinds
  /-- A message behind a session message header never is a session event. -/
  event : Wrapped mem data → r.isSessionEvent = false
  messageType : returned (getMessageType mem data length) [] =
    some (getMessageTypeName r.templateId r.schemaId) ↔ ¬ Wrapped mem data
  correlationId : returned (extractCorrelationId mem data length) [] = some r.correlationId ↔
    (Wrapped mem data → firstField mem data = 0)
  acknowledges (messageId : StdString) :
    returned (isAcknowledgmentFor mem json data length messageId) [] = some true ↔
      (r.templateId, r.schemaId) = (2, 1) ∧
        (r.messageId = messageId ∨ contains r.payload messageId = true ∨
          contains r.headers messageId = true)

theorem getMessageType_run (here : data ≠ 0) (long : 8 ≤ length) :
    returned (getMessageType mem data length) [] =
      some (getMessageTypeName (headerAt mem data).templateId (headerAt mem data).schemaId) := by
  unfold getMessageType
  rw [if_neg (by omega)]
  rfl

theorem extractCorrelationId_of_cluster (here : data ≠ 0) (long : 16 ≤ length)
    (schema : (headerAt mem data).schemaId = 111) :
    returned (extractCorrelationId mem data length) [] =
      some (firstField mem data) := by
  unfold extractCorrelationId
  rw [if_neg (by omega)]
  change returned (if (headerAt mem data).schemaId = 111 then _ else _ : Decode Int) _ = _
  rw [if_pos schema]
  rfl

theorem extractCorrelationId_of_other (schema : (headerAt mem data).schemaId ≠ 111) :
    returned (extractCorrelationId mem data length) [] = some 0 := by
  unfold extractCorrelationId
  split
  · rfl
  · change returned (if (headerAt mem data).schemaId = 111 then _ else _ : Decode Int) _ = _
    rw [if_neg schema]
    rfl

theorem isAcknowledgmentFor_iff {r : ParseResult} (parse : parsed json mem data length = some r)
    (success : r.success = true) (messageId : StdString) :
    returned (isAcknowledgmentFor mem json data length messageId) [] = some true ↔
      (r.templateId, r.schemaId) = (2, 1) ∧
        (r.messageId = messageId ∨ contains r.payload messageId = true ∨
          contains r.headers messageId = true) := by
  obtain ⟨after, run⟩ := returned_eq_some.mp parse
  have whole : (isAcknowledgmentFor mem json data length messageId).run [] = EStateM.run
      (if !r.success || !r.isAcknowledgment then pure false
        else pure (r.messageId == messageId || contains r.payload messageId ||
          contains r.headers messageId) : Decode Bool) after := by
    unfold isAcknowledgmentFor
    rw [EStateM.run_bind, run]
  have kind : r.isAcknowledgment = true ↔ (r.templateId, r.schemaId) = (2, 1) := by
    simp [ParseResult.isAcknowledgment, ACKNOWLEDGMENT_TEMPLATE_ID, TOPIC_SCHEMA_ID]
  rw [returned_eq_some, whole, success, ← kind]
  cases r.isAcknowledgment with
  | false => simp [EStateM.run_pure]
  | true => simp [EStateM.run_pure, or_assoc]

theorem sessionEvent_parsed {r : ParseResult} (parse : parsed json mem data length = some r)
    (success : r.success = true) (here : data ≠ 0) (long : 8 ≤ length)
    (schema : (headerAt mem data).schemaId = 111) (template : (headerAt mem data).templateId = 2) :
    headerOf r = headerAt mem data ∧ r.correlationId = firstField mem data := by
  obtain ⟨after, run⟩ := returned_eq_some.mp parse
  unfold parseMessage at run
  rw [if_neg (by omega), EStateM.run_bind, decodeMessageHeader_run here long] at run
  have event : (classified (headerAt mem data)).isSessionEvent = true := by
    simp [classified, ParseResult.isSessionEvent, schema, template, SESSION_EVENT_TEMPLATE_ID,
      CLUSTER_SCHEMA_ID]
  change EStateM.run (if (classified (headerAt mem data)).isSessionEvent = true then _ else _) _ = _
    at run
  rw [if_pos event] at run
  exact headerOf_sessionEvent run success

theorem classified_of_decoded {r : ParseResult} {start size : Nat}
    (parse : parsed json mem data length = some r) (success : r.success = true) (here : data ≠ 0)
    (long : 8 ≤ length) (starts : Starts mem data start) (inside : start + 8 ≤ data + length)
    (decoded : Decoded json mem start size r) : Classified json mem data length r := by
  obtain ⟨header, none⟩ := headerOf_decoded decoded success
  have template : r.templateId = (headerAt mem start).templateId :=
    congrArg MessageHeader.templateId header
  have schema : r.schemaId = (headerAt mem start).schemaId := congrArg MessageHeader.schemaId header
  have business : r.schemaId = 1 ∧ (r.templateId = 1 ∨ r.templateId = 2) := by
    rw [template, schema]
    exact ⟨decoded.1, decoded.2.imp And.left And.left⟩
  have names : getMessageTypeName 1 111 ≠ getMessageTypeName r.templateId r.schemaId := by
    obtain ⟨one, two | two⟩ := business
    · rw [one, two]
      decide
    · rw [one, two]
      decide
  refine ⟨⟨start, starts, inside, header⟩, ?_, fun _ => ?_, ?_, ?_, isAcknowledgmentFor_iff parse success⟩
  · obtain ⟨one, two | two⟩ := business
    · simp [messageKinds, one, two]
    · simp [messageKinds, one, two]
  · simp [ParseResult.isSessionEvent, business.1, CLUSTER_SCHEMA_ID]
  · rw [getMessageType_run here long]
    rcases starts with ⟨bare, rfl⟩ | ⟨wrapped, -⟩
    · rw [← template, ← schema]
      exact iff_of_true rfl bare
    · rw [wrapped.1, wrapped.2]
      exact iff_of_false (fun same => names (Option.some.inj same)) (not_not_intro wrapped)
  · rw [none]
    rcases starts with ⟨bare, rfl⟩ | ⟨wrapped, rfl⟩
    · rw [extractCorrelationId_of_other (by omega)]
      exact iff_of_true rfl fun wrapped => absurd wrapped bare
    · rw [extractCorrelationId_of_cluster here (by omega) wrapped.1, Option.some.injEq]
      exact ⟨fun zero _ => zero, fun zero => zero wrapped⟩

/-- A frame that parses with success: which header its result carries, and for which frames the
checks of the first header say the same. -/
theorem quick_checks_agree_iff {r : ParseResult} (parse : parsed json mem data length = some r)
    (success : r.success = true) : Classified json mem data length r := by
  obtain ⟨here, long, ⟨schema, template, room⟩ | direct | ⟨schema, template, room, embedded⟩⟩ :=
    parse_decoded parse success
  · obtain ⟨header, correlation⟩ := sessionEvent_parsed parse success here long schema template
    have bare : ¬ Wrapped mem data := fun wrapped => by
      have one := wrapped.2
      omega
    have kind : (r.templateId, r.schemaId) = (2, 111) := by
      rw [← template, ← schema, ← header]
      rfl
    refine ⟨⟨data, .inl ⟨bare, rfl⟩, by omega, header⟩, ?_, fun wrapped => absurd wrapped bare, ?_, ?_,
      isAcknowledgmentFor_iff parse success⟩
    · rw [kind]
      decide
    · rw [getMessageType_run here long, ← header]
      exact iff_of_true rfl bare
    · rw [extractCorrelationId_of_cluster here (by omega) schema, correlation]
      exact iff_of_true rfl fun wrapped => absurd wrapped bare
  · have bare : ¬ Wrapped mem data := fun wrapped => by
      have one := wrapped.1
      have other := direct.1
      omega
    exact classified_of_decoded parse success here long (.inl ⟨bare, rfl⟩) (by omega) direct
  · exact classified_of_decoded parse success here long (.inr ⟨⟨schema, template⟩, rfl⟩) (by omega)
      embedded

section Sample

def wrappedFrame : List UInt8 :=
  sessionMessageHeader 0 7 3 0 ++
    topicFrame 1700000000000 0 (ascii "orders") (ascii "ORDER") (ascii "msg_1") (ascii "hello") []

theorem quick_checks_agree_iff_sample : ∃ r,
    parsed Json.plainJson (memoryOf 4096 wrappedFrame) 4096 wrappedFrame.length = some r ∧
      Classified Json.plainJson (memoryOf 4096 wrappedFrame) 4096 wrappedFrame.length r := by
  have parse : (parsed Json.plainJson (memoryOf 4096 wrappedFrame) 4096 wrappedFrame.length).map
      ParseResult.success = some true := by decide +kernel
  obtain ⟨r, parse, success⟩ := Option.map_eq_some_iff.mp parse
  exact ⟨r, parse, quick_checks_agree_iff parse success⟩

end Sample

end Agreement

end AeronClusterClient.Sbe.Classification
