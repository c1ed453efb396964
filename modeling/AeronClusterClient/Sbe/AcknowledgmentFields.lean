/- module: AeronClusterClient/Sbe/AcknowledgmentFields
   source: src/sbe_encoder.cpp (decode_acknowledgment_with_sbe), include/model/Acknowledgment.h
   digest: Which acknowledgments the parser decodes with the message id they carry. -/

import AeronClusterClient.Sbe.Parser

/-!
The decoder of acknowledgments looks for runs of three or more printable bytes
behind the timestamp, and takes the first run for the message id. The bytes of a
length prefix that are printable become part of a run.
-/

set_option autoImplicit false
set_option relaxedAutoImplicit false

namespace AeronClusterClient.Sbe.AcknowledgmentFields

open Lib.Action Lib.Bytes Lib.LittleEndian Sbe.GeneratedCodec Sbe.Parser
open Text (StdString ascii stdToString isPrintable)
open Json (Jsoncpp)

section Runs

variable {minLength : Nat} {current : StdString} {rest : List UInt8} {c : UInt8}

theorem extract_printable {run : List UInt8} (printable : ∀ c ∈ run, isPrintable c = true) :
    extractReadableStrings minLength (run ++ rest) current =
      extractReadableStrings minLength rest (current ++ run) := by
  induction run generalizing current with
  | nil => simp
  | cons c run ih =>
      have here : isPrintable c = true := printable c List.mem_cons_self
      rw [List.cons_append, extractReadableStrings, if_pos here,
        ih fun d among => printable d (List.mem_cons_of_mem c among)]
      simp

theorem extract_other (other : isPrintable c = false) :
    extractReadableStrings minLength (c :: rest) current =
      if minLength ≤ current.length then current :: extractReadableStrings minLength rest []
      else extractReadableStrings minLength rest [] := by
  rw [extractReadableStrings, other]
  rfl

/-- A run that is long enough is the front of the next string that is found. -/
theorem extract_long (rest : List UInt8) (long : minLength ≤ current.length) :
    ∃ more later, extractReadableStrings minLength rest current = (current ++ more) :: later := by
  induction rest generalizing current with
  | nil =>
      rw [extractReadableStrings, if_pos long]
      exact ⟨[], [], by rw [List.append_nil]⟩
  | cons c rest ih =>
      cases printable : isPrintable c with
      | false =>
          rw [extract_other printable, if_pos long]
          exact ⟨[], _, by rw [List.append_nil]⟩
      | true =>
          rw [extractReadableStrings, if_pos printable]
          have longer : minLength ≤ (current ++ [c]).length := by
            rw [List.length_append]
            omega
          obtain ⟨more, later, found⟩ := ih longer
          exact ⟨c :: more, later, by rw [found, List.append_assoc]; rfl⟩

end Runs

section Frames

variable {json : Jsoncpp} {mem : Memory} {data length : Nat}

def acknowledgmentFrame (version : Nat) (timestamp : Int)
    (messageId topic correlationId : StdString) : List UInt8 :=
  (MessageHeader.mk 8 2 1 version).bytes ++ toBytes 8 (unsigned 8 timestamp) ++
    (varData messageId ++ varData topic ++ varData correlationId)

def found (mem : Memory) (data length : Nat) : List StdString :=
  extractReadableStrings 3 (bytesAt mem (data + 16) (length - 16)) []

/-- What the decoder makes of a frame with something behind the timestamp. -/
def decoded (mem : Memory) (data length : Nat) : ParseResult :=
  let header := headerAt mem data
  let timestamp := ofBytes (bytesAt mem (data + 8) 8)
  let messageId := (found mem data length).getD 0 []
  let payload := (found mem data length).getD 1 []
  { success := true
    templateId := header.templateId
    schemaId := header.schemaId
    version := header.version
    blockLength := header.blockLength
    messageType := ascii "Acknowledgment"
    timestamp := signed 8 timestamp
    messageId := if messageId.isEmpty then ascii "ack_" ++ stdToString timestamp else messageId
    payload := if payload.isEmpty then ascii "SUCCESS" else payload
    headers := (found mem data length).getD 2 [] }

theorem decoded_success : (decoded mem data length).success = true := rfl

theorem decoded_timestamp :
    (decoded mem data length).timestamp = signed 8 (ofBytes (bytesAt mem (data + 8) 8)) := by
  simp only [decoded]

theorem decoded_messageId (some : (found mem data length).getD 0 [] ≠ []) :
    (decoded mem data length).messageId = (found mem data length).getD 0 [] :=
  if_neg (by simpa using some)

theorem decodeAcknowledgmentWithSbe_run (long : 16 < length)
    (template : (headerAt mem data).templateId = 2) (schema : (headerAt mem data).schemaId = 1)
    (reads : List (Nat × Nat)) :
    ∃ after, (decodeAcknowledgmentWithSbe mem data length).run reads =
      .ok (decoded mem data length) after := by
  have result : decoded mem data length = { decoded mem data length with
      templateId := ofBytes (bytesAt mem (data + 2) 2)
      schemaId := ofBytes (bytesAt mem (data + 4) 2)
      version := ofBytes (bytesAt mem (data + 6) 2)
      blockLength := ofBytes (bytesAt mem (data + 0) 2) } := by
    simp only [decoded, headerAt_eq]
  rw [headerAt_eq] at template schema
  dsimp only at template schema
  unfold decodeAcknowledgmentWithSbe
  rw [if_neg (by omega), result]
  refine ⟨(data + 16, length - 16) :: (data + 8, 8) :: (data + 6, 2) :: (data + 4, 2) ::
    (data + 2, 2) :: (data, 2) :: reads, ?_⟩
  refine bind_eq_ok.mpr ⟨ofBytes (bytesAt mem (data + 0) 2), (data, 2) :: reads, rfl, ?_⟩
  refine bind_eq_ok.mpr ⟨ofBytes (bytesAt mem (data + 2) 2), _, rfl, ?_⟩
  refine bind_eq_ok.mpr ⟨ofBytes (bytesAt mem (data + 4) 2), _, rfl, ?_⟩
  refine bind_eq_ok.mpr ⟨ofBytes (bytesAt mem (data + 6) 2), _, rfl, ?_⟩
  rw [template, schema, if_neg (by decide)]
  dsimp only
  rw [if_neg (by omega)]
  refine bind_eq_ok.mpr ⟨ofBytes (bytesAt mem (data + 8) 8), _, rfl, ?_⟩
  rw [if_pos long]
  refine bind_eq_ok.mpr ⟨bytesAt mem (data + 16) (length - 16), _, rfl, ?_⟩
  refine bind_eq_ok.mpr ⟨found mem data length, _, rfl, ?_⟩
  simp only [decoded]
  rfl

theorem parsed_acknowledgment (json : Jsoncpp) (here : data ≠ 0) (long : 16 < length)
    (template : (headerAt mem data).templateId = 2) (schema : (headerAt mem data).schemaId = 1) :
    parsed json mem data length = some (decoded mem data length) := by
  have topic : (classified (headerAt mem data)).isTopicMessage = true :=
    isTopicMessage_classified.mpr (Or.inr ⟨template, schema⟩)
  obtain ⟨after, decode⟩ := decodeAcknowledgmentWithSbe_run long template schema
    [(data, 8), (data, 8)]
  refine returned_eq_some.mpr ⟨after, ?_⟩
  rw [parseMessage_of_topic here (by omega) topic, parseTopicMessage_of_direct here (by omega) schema,
    if_neg (by omega), if_pos template]
  exact decode

variable {version : Nat} {timestamp : Int} {messageId topic correlationId : StdString}

theorem held_acknowledgment
    (held : Holds mem data (acknowledgmentFrame version timestamp messageId topic correlationId)) :
    (headerAt mem data).templateId = 2 ∧ (headerAt mem data).schemaId = 1 ∧
      bytesAt mem (data + 8) 8 = toBytes 8 (unsigned 8 timestamp) ∧
      found mem data (acknowledgmentFrame version timestamp messageId topic correlationId).length =
        extractReadableStrings 3 (varData messageId ++ varData topic ++ varData correlationId) [] := by
  obtain ⟨header, time, strings⟩ := holds_message held
  rw [headerAt_of_holds header]
  refine ⟨rfl, rfl, ?_, ?_⟩
  · rwa [Holds, length_toBytes] at time
  · have size : (acknowledgmentFrame version timestamp messageId topic correlationId).length - 16 =
        (varData messageId ++ varData topic ++ varData correlationId).length := by
      unfold acknowledgmentFrame
      rw [List.length_append, List.length_append, MessageHeader.length_bytes, length_toBytes]
      omega
    rw [length_toBytes] at strings
    unfold found
    rw [size]
    exact congrArg (extractReadableStrings 3 · []) strings

end Frames

section Decoding

variable {json : Jsoncpp} {mem : Memory} {data : Nat} {version : Nat} {timestamp : Int}
  {messageId topic correlationId : StdString}

/-- The parser succeeds with the message id and the timestamp of the frame. -/
def DecodesByField (json : Jsoncpp) (mem : Memory) (data length : Nat) (messageId : StdString)
    (timestamp : Int) : Prop :=
  ∃ r, parsed json mem data length = some r ∧ r.success = true ∧ r.messageId = messageId ∧
    r.timestamp = timestamp

/-- The first string contains the message id; the high byte of its length prefix stands before it
if that is printable, and the low byte of the next one after it if that is. -/
theorem first_string (rest : List UInt8) (long : 3 ≤ messageId.length)
    (printable : ∀ c ∈ messageId, isPrintable c = true) (low high next : UInt8) :
    ∃ before after,
      (extractReadableStrings 3 (low :: high :: (messageId ++ next :: rest)) []).getD 0 [] =
        before ++ messageId ++ after ∧
      (before = [] ∧ after = [] ↔ isPrintable high = false ∧ isPrintable next = false) := by
  obtain ⟨front, short, low_read⟩ : ∃ front : StdString, front.length ≤ 1 ∧
      extractReadableStrings 3 (low :: high :: (messageId ++ next :: rest)) [] =
        extractReadableStrings 3 (high :: (messageId ++ next :: rest)) front := by
    cases kind : isPrintable low with
    | true => exact ⟨[low], le_rfl, by rw [extractReadableStrings, if_pos kind]; rfl⟩
    | false => exact ⟨[], by simp, by rw [extract_other kind]; rfl⟩
  rw [low_read]
  cases high_kind : isPrintable high with
  | true =>
      rw [extractReadableStrings, if_pos high_kind, extract_printable printable]
      have longer : 3 ≤ (front ++ [high] ++ messageId).length := by
        simp only [List.length_append]
        omega
      obtain ⟨more, later, found⟩ := extract_long (next :: rest) longer
      exact ⟨front ++ [high], more, by rw [found]; rfl, by simp⟩
  | false =>
      rw [extract_other high_kind, if_neg (by omega), extract_printable printable, List.nil_append]
      cases next_kind : isPrintable next with
      | true =>
          rw [extractReadableStrings, if_pos next_kind]
          have longer : 3 ≤ (messageId ++ [next]).length := by
            rw [List.length_append]
            omega
          obtain ⟨more, later, found⟩ := extract_long rest longer
          exact ⟨[], next :: more, by rw [found]; simp, by simp⟩
      | false =>
          rw [extract_other next_kind, if_pos long]
          exact ⟨[], [], by simp, by simp⟩

/-- An acknowledgment is decoded by its fields exactly when neither the high byte of the message
id's length prefix nor the low byte of the topic's is a printable character. -/
theorem decodes_by_field_iff (json : Jsoncpp) (here : data ≠ 0) (long : 3 ≤ messageId.length)
    (printable : ∀ c ∈ messageId, isPrintable c = true) (lower : -2 ^ 63 ≤ timestamp)
    (upper : timestamp < 2 ^ 63)
    (held : Holds mem data (acknowledgmentFrame version timestamp messageId topic correlationId)) :
    DecodesByField json mem data
        (acknowledgmentFrame version timestamp messageId topic correlationId).length messageId
        timestamp ↔
      isPrintable (UInt8.ofNat (messageId.length / 256)) = false ∧
        isPrintable (UInt8.ofNat topic.length) = false := by
  obtain ⟨template, schema, time, strings⟩ := held_acknowledgment held
  have size : 16 < (acknowledgmentFrame version timestamp messageId topic correlationId).length := by
    simp only [acknowledgmentFrame, MessageHeader.bytes, List.length_append, length_toBytes,
      length_varData]
    omega
  obtain ⟨before, after, first, exact_iff⟩ := first_string
    (UInt8.ofNat (topic.length / 256) :: (topic ++ varData correlationId)) long printable
    (UInt8.ofNat messageId.length) (UInt8.ofNat (messageId.length / 256)) (UInt8.ofNat topic.length)
  have split : varData messageId ++ varData topic ++ varData correlationId =
      UInt8.ofNat messageId.length :: UInt8.ofNat (messageId.length / 256) :: (messageId ++
        UInt8.ofNat topic.length :: UInt8.ofNat (topic.length / 256) ::
          (topic ++ varData correlationId)) := by
    simp [varData, toBytes]
  rw [split] at strings
  rw [← strings] at first
  rw [← exact_iff]
  have parse := parsed_acknowledgment json here size template schema
  generalize (acknowledgmentFrame version timestamp messageId topic correlationId).length = length at *
  have stamp : (decoded mem data length).timestamp = timestamp := by
    rw [decoded_timestamp, time, ofBytes_toBytes_of_lt (unsigned_lt 8 timestamp),
      signed_unsigned_int64 lower upper]
  have some : (found mem data length).getD 0 [] ≠ [] := by
    rw [first]
    exact List.ne_nil_of_length_pos (by simp only [List.length_append]; omega)
  constructor
  · rintro ⟨r, returned, -, same, -⟩
    cases parse.symm.trans returned
    rw [decoded_messageId some, first] at same
    have sizes := congrArg List.length same
    simp only [List.length_append] at sizes
    exact ⟨List.eq_nil_of_length_eq_zero (by omega), List.eq_nil_of_length_eq_zero (by omega)⟩
  · rintro ⟨rfl, rfl⟩
    rw [List.nil_append, List.append_nil] at first
    exact ⟨_, parse, decoded_success, (decoded_messageId some).trans first, stamp⟩

section Sample

theorem decodes_by_field_iff_sample :
    DecodesByField Json.plainJson
        (memoryOf 4096 (acknowledgmentFrame 1 7 (ascii "msg_1") (ascii "orders") (ascii "c-1"))) 4096
        (acknowledgmentFrame 1 7 (ascii "msg_1") (ascii "orders") (ascii "c-1")).length
        (ascii "msg_1") 7 ↔
      isPrintable (UInt8.ofNat ((ascii "msg_1").length / 256)) = false ∧
        isPrintable (UInt8.ofNat (ascii "orders").length) = false :=
  decodes_by_field_iff Json.plainJson (by decide) (by decide) (List.all_eq_true.mp (by decide))
    (by decide) (by decide) (holds_memoryOf 4096 _)

/-- A topic of 32 characters: its length prefix is a space, which becomes part of the message id. -/
def longTopic : StdString := List.replicate 32 97

theorem prefix_absorbed :
    ¬ ∀ (json : Jsoncpp) (mem : Memory) (data version : Nat) (timestamp : Int)
        (messageId topic correlationId : StdString), data ≠ 0 → 3 ≤ messageId.length →
      (∀ c ∈ messageId, isPrintable c = true) → -2 ^ 63 ≤ timestamp → timestamp < 2 ^ 63 →
      Holds mem data (acknowledgmentFrame version timestamp messageId topic correlationId) →
      DecodesByField json mem data
        (acknowledgmentFrame version timestamp messageId topic correlationId).length messageId
        timestamp := by
  intro claim
  let frame := acknowledgmentFrame 1 7 (ascii "msg_1") longTopic (ascii "c-1")
  obtain ⟨r, parse, -, same, -⟩ := claim Json.plainJson (memoryOf 4096 frame) 4096 1 7 (ascii "msg_1")
    longTopic (ascii "c-1") (by decide) (by decide) (List.all_eq_true.mp (by decide)) (by decide)
    (by decide) (holds_memoryOf 4096 frame)
  have absorbed : (parsed Json.plainJson (memoryOf 4096 frame) 4096 frame.length).map
      ParseResult.messageId = some (ascii "msg_1 ") := by
    decide +kernel
  rw [parse] at absorbed
  cases absorbed.symm.trans (congrArg some same)

end Sample

end Decoding

end AeronClusterClient.Sbe.AcknowledgmentFields
