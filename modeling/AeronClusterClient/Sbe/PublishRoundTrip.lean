/- module: AeronClusterClient/Sbe/PublishRoundTrip
   source: src/sbe_encoder.cpp, src/session_manager.cpp
   digest: A published topic message never parses back to what was published. -/

import AeronClusterClient.Sbe.Parser

/-!
Both encoders resize their buffer to `encodedLength()`, which counts from the
end of the message header, so the last eight bytes of every frame are lost.
The parser either runs out of buffer or loses the headers field.
-/

set_option autoImplicit false
set_option relaxedAutoImplicit false

namespace AeronClusterClient.Sbe.PublishRoundTrip

open Lib.Action Lib.Bytes Lib.LittleEndian Sbe.GeneratedCodec Sbe.Encoder Sbe.Parser
open Text (StdString ascii)
open Json (Jsoncpp)

variable {json : Jsoncpp} {mem : Memory} {data length : Nat} {reads : List (Nat × Nat)}

private theorem parseMessage_topic (here : data ≠ 0) (long : 8 ≤ length)
    (held : Holds mem data TopicMessage.header.bytes) :
    (parseMessage mem json data length).run reads =
      (decodeTopicMessageWithSbe mem json data length).run ((data, 8) :: (data, 8) :: reads) := by
  have header : headerAt mem data = TopicMessage.header := ofBytes_topicHeader held
  have template : (headerAt mem data).templateId = 1 := by rw [header]; rfl
  have schema : (headerAt mem data).schemaId = 1 := by rw [header]; rfl
  have topic : (classified (headerAt mem data)).isTopicMessage = true :=
    isTopicMessage_classified.mpr (Or.inl ⟨template, Or.inl schema⟩)
  rw [parseMessage_of_topic here long topic, parseTopicMessage_of_direct here long schema,
    if_pos template]

private theorem readTopicFields_of_published {r : ParseResult} {after : List (Nat × Nat)}
    (small : length < 2 ^ 31) (held : Holds mem data TopicMessage.header.bytes)
    (run : (decodeTopicMessageWithSbe mem json data length).run reads = .ok r after)
    (success : r.success = true) :
    ∃ log, (readTopicFields mem json data TopicMessage.header (decoding length 24)).run log =
      .ok r after := by
  have same : headerAt mem data = TopicMessage.header := ofBytes_topicHeader held
  obtain ⟨fly, log, wrapped, fields⟩ := readTopicFields_of_success run success
  rw [same, intBufferLength_of_lt small] at wrapped
  rw [same] at fields
  obtain ⟨-, rfl⟩ := Flyweight.sbePosition_eq_ok.mp wrapped
  exact ⟨log, fields⟩

section TruncatedFrame

variable {topic messageType uuid payload headers : StdString} {value sequence : Nat}

private theorem field_of_truncated {frame before s : List UInt8}
    {result : StdString × Flyweight} {log : List (Nat × Nat)}
    (held : Holds mem data (frame.take length)) (short : s.length ≤ 65534)
    (part : before ++ varData s <+: frame)
    (run : (getVarDataAsString mem data (decoding length before.length)).run reads =
      .ok result log) :
    result = (s, decoding length (before ++ varData s).length) ∧
      (before ++ varData s).length ≤ length := by
  obtain ⟨after, rfl⟩ := part
  rw [List.length_append]
  have held : Holds mem data
      ((before ++ varData s ++ after).take (decoding length before.length).mBufferLength) := held
  exact getVarDataAsString_of_take (Nat.lt_succ_of_le (Nat.le_succ_of_le short)) held rfl run

/-- A headers field that crosses the cut is replaced by the empty string. -/
private theorem headers_of_truncated {frame before s : List UInt8} {found : StdString}
    {log : List (Nat × Nat)} (held : Holds mem data (frame.take length))
    (short : s.length ≤ 65534) (part : before ++ varData s <+: frame)
    (crosses : length < (before ++ varData s).length)
    (run : (headersOrEmpty mem data (decoding length before.length)).run reads = .ok found log) :
    found = [] := by
  unfold headersOrEmpty at run
  change (EStateM.tryCatch _ _).run _ = _ at run
  unfold EStateM.run EStateM.tryCatch at run
  cases body : (do return (← getHeadersAsString mem data (decoding length before.length)).1 :
      Decode StdString) reads with
  | ok a t =>
      obtain ⟨_, _, fieldRun, -⟩ := bind_eq_ok.mp body
      exact absurd (field_of_truncated held short part fieldRun).2 (Nat.not_le.mpr crosses)
  | error e t =>
      rw [body] at run
      cases run
      rfl

/-- Of a topic frame cut inside the headers field, a successful decoding has read the
payload completely and has lost the headers. -/
private theorem readTopicFields_truncated {r : ParseResult} {log : List (Nat × Nat)}
    {header : MessageHeader} (fit : FieldsFit topic messageType uuid payload headers)
    (held : Holds mem data
      ((topicFrame value sequence topic messageType uuid payload headers).take length))
    (lost : length < (topicFrame value sequence topic messageType uuid payload headers).length)
    (run : (readTopicFields mem json data header (decoding length 24)).run reads = .ok r log) :
    32 + (topic.length + messageType.length + uuid.length + payload.length) ≤ length ∧
      r.headers = [] := by
  let block := TopicMessage.header.bytes ++ toBytes 8 value ++ toBytes 8 sequence
  unfold readTopicFields at run
  obtain ⟨_, _, -, run⟩ := bind_eq_ok.mp run
  obtain ⟨_, _, topicRun, run⟩ := bind_eq_ok.mp run
  have topicPart : block ++ varData topic <+:
      topicFrame value sequence topic messageType uuid payload headers := by
    simp [topicFrame, block]
  obtain ⟨rfl, -⟩ := field_of_truncated held fit.topic topicPart topicRun
  obtain ⟨_, _, typeRun, run⟩ := bind_eq_ok.mp run
  obtain ⟨rfl, -⟩ := field_of_truncated (s := messageType) held fit.messageType
    (by simp [topicFrame, block]) typeRun
  obtain ⟨_, _, uuidRun, run⟩ := bind_eq_ok.mp run
  obtain ⟨rfl, -⟩ := field_of_truncated (s := uuid) held fit.uuid
    (by simp [topicFrame, block]) uuidRun
  obtain ⟨_, _, payloadRun, run⟩ := bind_eq_ok.mp run
  obtain ⟨rfl, payloadInside⟩ := field_of_truncated (s := payload) held fit.payload
    (by simp [topicFrame, block]) payloadRun
  obtain ⟨_, _, -, run⟩ := bind_eq_ok.mp run
  obtain ⟨found, _, headersRun, ⟨⟩⟩ := bind_eq_ok.mp run
  refine ⟨?_, ?_⟩
  · simp only [block, MessageHeader.bytes, List.length_append, length_toBytes,
      length_varData] at payloadInside
    omega
  · exact headers_of_truncated (s := headers) held fit.headers (List.prefix_refl _) lost headersRun

end TruncatedFrame

/-- Parsing the frame gives back every published string and the timestamp. -/
def RoundTrips (json : Jsoncpp) (mem : Memory) (data : Nat) (frame : List UInt8)
    (messageType uuid payload headers : StdString) (timestamp : Int) : Prop :=
  ∃ r, parsed json mem data frame.length = some r ∧ r.success = true ∧
    r.messageType = messageType ∧ r.messageId = uuid ∧ r.payload = payload ∧
    r.headers = headers ∧ r.timestamp = timestamp

variable {topic messageType uuid payload headers : StdString}

private theorem rdrop_topicFrame (value : Nat) :
    (topicFrame value 0 topic messageType uuid payload headers).rdrop 8 =
      (topicFrame value 0 topic messageType uuid payload headers).take
        (26 + (topic.length + messageType.length + uuid.length + payload.length +
          headers.length)) := by
  unfold List.rdrop
  rw [length_topicFrame]
  congr 1
  omega

private theorem not_success_of_null {log : List (Nat × Nat)} {r : ParseResult}
    (run : (parseMessage mem json 0 length).run reads = .ok r log) : r.success = false := by
  unfold parseMessage at run
  rw [if_pos (Or.inl rfl)] at run
  cases run
  rfl

/-- Eight bytes short, a topic frame parses with an error or without its headers. -/
theorem not_roundTrips_truncated (fit : FieldsFit topic messageType uuid payload headers)
    {value : Nat} {timestamp : Int}
    (held : Holds mem data ((topicFrame value 0 topic messageType uuid payload headers).rdrop 8)) :
    ¬ RoundTrips json mem data ((topicFrame value 0 topic messageType uuid payload headers).rdrop 8)
      messageType uuid payload headers timestamp := by
  rintro ⟨r, parse, success, -, -, -, sameHeaders, -⟩
  have whole := length_topicFrame value 0 topic messageType uuid payload headers
  rw [rdrop_topicFrame] at held parse
  rw [List.length_take_of_le (by omega)] at parse
  obtain ⟨log, run⟩ := returned_eq_some.mp parse
  by_cases null : data = 0
  · subst null
    rw [not_success_of_null run] at success
    cases success
  · have headerHeld : Holds mem data TopicMessage.header.bytes :=
      holds_prefix_of_take held (by simp [topicFrame]) (by
        simp only [MessageHeader.bytes, List.length_append, length_toBytes]
        omega)
    rw [parseMessage_topic null (by omega) headerHeld] at run
    have small : 26 + (topic.length + messageType.length + uuid.length + payload.length +
        headers.length) < 2 ^ 31 := by
      have := fit.topic
      have := fit.messageType
      have := fit.uuid
      have := fit.payload
      have := fit.headers
      omega
    obtain ⟨inner, fields⟩ := readTopicFields_of_published small headerHeld run success
    obtain ⟨inside, lost⟩ := readTopicFields_truncated fit held (by omega) fields
    rw [lost] at sameHeaders
    subst sameHeaders
    simp only [List.length_nil] at inside
    omega

/-- What either encoder publishes never parses back to what was published. -/
theorem publish_never_round_trips (fit : FieldsFit topic messageType uuid payload headers)
    {timestamp : Int} (given : timestamp ≠ 0) (now : Int) :
    ∃ frame, encodeTopicMessage topic messageType uuid payload headers timestamp now = .ok frame ∧
      createTopicMessage topic messageType uuid payload headers timestamp = .ok frame ∧
      ∀ (json : Jsoncpp) (mem : Memory) (data : Nat), Holds mem data frame →
        ¬ RoundTrips json mem data frame messageType uuid payload headers timestamp := by
  refine ⟨_, encodeTopicMessage_eq fit given now, createTopicMessage_eq fit timestamp, ?_⟩
  intro json mem data held
  exact not_roundTrips_truncated fit held

section Sample

/-- jsoncpp as it behaves on a payload that is not JSON: the parse reports failure. -/
def rejectingJson : Jsoncpp where
  parse _ := .ok none
  write _ := []
  realText _ := []
  realIntegral _ := none
  realTruncated _ := 0

def sampleHeaders : StdString := ascii "trace-0001"

private theorem sample_fits :
    FieldsFit (ascii "orders") (ascii "CREATE_ORDER") (ascii "msg_1") (ascii "hello") sampleHeaders :=
  ⟨by decide, by decide, by decide, by decide, by decide⟩

theorem publish_never_round_trips_sample :
    ∃ frame, encodeTopicMessage (ascii "orders") (ascii "CREATE_ORDER") (ascii "msg_1")
        (ascii "hello") sampleHeaders 1700000000000 0 = .ok frame ∧
      createTopicMessage (ascii "orders") (ascii "CREATE_ORDER") (ascii "msg_1")
        (ascii "hello") sampleHeaders 1700000000000 = .ok frame ∧
      ∀ (json : Jsoncpp) (mem : Memory) (data : Nat), Holds mem data frame →
        ¬ RoundTrips json mem data frame (ascii "CREATE_ORDER") (ascii "msg_1") (ascii "hello")
          sampleHeaders 1700000000000 :=
  publish_never_round_trips sample_fits (by decide) 0

/-- The published strings of the sample are all short, and its headers come back empty. -/
theorem sample_publish_loses_headers :
    ¬ ∀ (json : Jsoncpp) (mem : Memory) (data : Nat) (frame : List UInt8)
        (topic messageType uuid payload headers : StdString) (timestamp now : Int),
      FieldsFit topic messageType uuid payload headers → timestamp ≠ 0 →
      encodeTopicMessage topic messageType uuid payload headers timestamp now = .ok frame →
      Holds mem data frame →
      RoundTrips json mem data frame messageType uuid payload headers timestamp := by
  intro claim
  let frame := (topicFrame 1700000000000 0 (ascii "orders") (ascii "CREATE_ORDER")
    (ascii "msg_1") (ascii "hello") sampleHeaders).rdrop 8
  obtain ⟨r, parse, -, -, -, -, headers, -⟩ := claim rejectingJson (memoryOf 4096 frame) 4096 frame
    (ascii "orders") (ascii "CREATE_ORDER") (ascii "msg_1") (ascii "hello") sampleHeaders
    1700000000000 0 sample_fits (by decide) (by decide +kernel) (holds_memoryOf 4096 frame)
  have lost : (parsed rejectingJson (memoryOf 4096 frame) 4096 frame.length).map
      ParseResult.headers = some [] := by decide +kernel
  rw [parse] at lost
  cases lost.symm.trans (congrArg some headers)

end Sample

end AeronClusterClient.Sbe.PublishRoundTrip
