/- module: AeronClusterClient/Sbe/EnvelopeTransparency
   source: src/sbe_encoder.cpp (parse_message, parse_topic_message), src/session_manager.cpp
   (create_session_message_header_buffer), include/aeron_cluster/sbe_messages.hpp
   digest: A message parses to the same result with a session message header before it and without. -/

import AeronClusterClient.Lib.Agreement
import AeronClusterClient.Sbe.ReadBounds

/-!
A message behind a session message header lies at another address, and other
bytes follow it. The decoders return the same for both places as long as they
look at the bytes of the message; the time stamp that they may read from behind
a very short message belongs to one that they reject.
-/

set_option autoImplicit false
set_option relaxedAutoImplicit false

namespace AeronClusterClient.Sbe.EnvelopeTransparency

open Lib.Action Lib.Agreement Lib.Bytes Lib.LittleEndian
open Sbe.GeneratedCodec Sbe.Encoder Sbe.Parser Sbe.ReadBounds
open Text (StdString ascii stdToString)
open Json (Jsoncpp)

variable {json : Jsoncpp} {mem mem' : Memory} {data data' length : Nat}

section Places

/-- The same bytes lie at the two places. -/
def Alike (mem : Memory) (data : Nat) (mem' : Memory) (data' length : Nat) : Prop :=
  ∀ i < length, mem (data + i) = mem' (data' + i)

theorem alike_of_holds {m : List UInt8} (held : Holds mem data m) (held' : Holds mem' data' m) :
    Alike mem data mem' data' m.length := by
  intro i inside
  have same : bytesAt mem data m.length = bytesAt mem' data' m.length :=
    Eq.trans held (Eq.symm held')
  unfold bytesAt at same
  exact List.map_inj_left.mp same i (List.mem_range.mpr inside)

theorem bytesAt_alike (alike : Alike mem data mem' data' length) {offset size : Nat}
    (inside : offset + size ≤ length) :
    bytesAt mem (data + offset) size = bytesAt mem' (data' + offset) size := by
  unfold bytesAt
  apply List.map_congr_left
  intro i below
  rw [List.mem_range] at below
  have here := alike (offset + i) (by omega)
  rwa [← Nat.add_assoc, ← Nat.add_assoc] at here

theorem headerAt_alike (alike : Alike mem data mem' data' length) (long : 8 ≤ length) :
    headerAt mem data = headerAt mem' data' := by
  have same : bytesAt mem (data + 0) 8 = bytesAt mem' (data' + 0) 8 :=
    bytesAt_alike alike (by omega)
  unfold headerAt
  exact congrArg MessageHeader.ofBytes same

theorem agree_readBytes (alike : Alike mem data mem' data' length) {offset size : Nat}
    (inside : offset + size ≤ length) :
    Agree (readBytes mem (data + offset) size) (readBytes mem' (data' + offset) size) := by
  intro reads reads'
  have left : outcome (readBytes mem (data + offset) size) reads =
      .ok (bytesAt mem (data + offset) size) := rfl
  have right : outcome (readBytes mem' (data' + offset) size) reads' =
      .ok (bytesAt mem' (data' + offset) size) := rfl
  rw [left, right, bytesAt_alike alike inside]

theorem agree_readUInt (alike : Alike mem data mem' data' length) {offset width : Nat}
    (inside : offset + width ≤ length) :
    Agree (readUInt mem (data + offset) width) (readUInt mem' (data' + offset) width) :=
  agree_bind (agree_readBytes alike inside) fun bytes => agree_pure (ofBytes bytes)

/-- The buffer of the flyweight ends with the message, or the message is longer than the given
number of fields can be. -/
def Room (length count : Nat) (fly : Flyweight) : Prop :=
  fly.mBufferLength ≤ length ∨ fly.mPosition + count * 65537 ≤ length

theorem lengthAt_lt (mem : Memory) (data position : Nat) : lengthAt mem data position < 65536 := by
  have bound := ofBytes_lt (bytesAt mem (data + position) 2)
  rwa [length_bytesAt] at bound

theorem outcome_getVarDataAsString (mem : Memory) (data : Nat) (fly : Flyweight)
    (reads : List (Nat × Nat)) :
    outcome (getVarDataAsString mem data fly) reads =
      if fly.mPosition + 2 ≤ fly.mBufferLength then
        if fieldEnd mem data fly.mPosition ≤ fly.mBufferLength then
          .ok (bytesAt mem (data + (fly.mPosition + 2)) (lengthAt mem data fly.mPosition),
            { fly with mPosition := fieldEnd mem data fly.mPosition })
        else .error (ascii "buffer too short [E100]")
      else .error (ascii "buffer too short [E100]") := by
  unfold outcome
  rw [getVarDataAsString_run rfl]
  unfold fieldEnd lengthAt
  split
  · rename_i run
    split at run
    · split at run
      · rename_i begins ends
        cases run
        rw [if_pos begins, if_pos ends]
      · cases run
    · cases run
  · rename_i run
    split at run
    · split at run
      · cases run
      · rename_i begins crosses
        cases run
        rw [if_pos begins, if_neg crosses]
    · rename_i short
      cases run
      rw [if_neg short]

/-- A field is read alike at both places, as far as there is room. -/
theorem agree_getVarDataAsString (alike : Alike mem data mem' data' length) {fly : Flyweight}
    {count : Nat} (room : Room length (count + 1) fly) :
    Agree (getVarDataAsString mem data fly) (getVarDataAsString mem' data' fly) := by
  intro reads reads'
  have small := lengthAt_lt mem data fly.mPosition
  unfold Room at room
  rw [outcome_getVarDataAsString, outcome_getVarDataAsString]
  by_cases begins : fly.mPosition + 2 ≤ fly.mBufferLength
  · have size : lengthAt mem data fly.mPosition = lengthAt mem' data' fly.mPosition := by
      unfold lengthAt
      rw [bytesAt_alike alike (by omega)]
    have ends : fieldEnd mem data fly.mPosition = fieldEnd mem' data' fly.mPosition := by
      unfold fieldEnd
      rw [size]
    rw [if_pos begins, if_pos begins, ← ends, ← size]
    by_cases fits : fieldEnd mem data fly.mPosition ≤ fly.mBufferLength
    · rw [if_pos fits, if_pos fits, bytesAt_alike alike]
      unfold fieldEnd at fits
      omega
    · rw [if_neg fits, if_neg fits]
  · rw [if_neg begins, if_neg begins]

theorem room_of_run {fly moved : Flyweight} {count : Nat} {s : StdString}
    {reads after : List (Nat × Nat)} (room : Room length (count + 1) fly)
    (run : (getVarDataAsString mem data fly).run reads = .ok (s, moved) after) :
    Room length count moved ∧ moved.mOffset = fly.mOffset := by
  obtain ⟨value, -⟩ := getVarDataAsString_eq_ok run rfl
  have small := lengthAt_lt mem data fly.mPosition
  unfold lengthAt at small
  unfold Room at room ⊢
  cases value
  refine ⟨?_, rfl⟩
  dsimp only
  omega

theorem agree_field (alike : Alike mem data mem' data' length) {fly : Flyweight} {count : Nat}
    {f g : StdString × Flyweight → Decode ParseResult} (room : Room length (count + 1) fly)
    (rest : ∀ s moved, Room length count moved → moved.mOffset = fly.mOffset →
      Agree (f (s, moved)) (g (s, moved))) :
    Agree (getVarDataAsString mem data fly >>= f) (getVarDataAsString mem' data' fly >>= g) := by
  apply agree_bind_of_ok (agree_getVarDataAsString alike room)
  rintro ⟨s, moved⟩ reads after run
  obtain ⟨left, offset⟩ := room_of_run room run
  exact rest s moved left offset

theorem agree_headersOrEmpty (alike : Alike mem data mem' data' length) {fly : Flyweight}
    (room : Room length 1 fly) : Agree (headersOrEmpty mem data fly) (headersOrEmpty mem' data' fly) := by
  apply agree_tryCatch
  · exact agree_bind (agree_getVarDataAsString alike room) fun read => agree_pure read.1
  · intro what
    exact agree_pure []

theorem total_sequenceNumber (fly : Flyweight) : Total (sequenceNumber mem data fly) :=
  fun _ => ⟨_, _, rfl⟩

/-- The fields of a message are read alike if the time stamp is part of it; the sequence number is
not used. -/
theorem agree_readTopicFields (alike : Alike mem data mem' data' length) (long : 16 ≤ length)
    {header : MessageHeader} {fly : Flyweight} (offset : fly.mOffset = 8) (room : Room length 5 fly) :
    Agree (readTopicFields mem json data header fly) (readTopicFields mem' json data' header fly) := by
  unfold readTopicFields
  apply agree_bind
  · unfold timestamp
    rw [offset]
    exact agree_readUInt alike (by omega)
  · intro stamp
    apply agree_field alike room
    intro topic fly room _
    apply agree_field alike room
    intro messageType fly room _
    apply agree_field alike room
    intro uuid fly room _
    apply agree_field alike room
    intro payload fly room _
    apply agree_skip (total_sequenceNumber fly) (total_sequenceNumber fly)
    exact agree_bind (agree_headersOrEmpty alike room) fun headers => agree_pure _

theorem agree_readTopicMessage (alike : Alike mem data mem' data' length) (long : 16 ≤ length) :
    Agree (readTopicMessage mem json data length) (readTopicMessage mem' json data' length) := by
  unfold readTopicMessage
  rw [if_neg (by omega), if_neg (by omega)]
  apply agree_bind_of_ok (agree_readUInt alike (by omega))
  intro blockLength reads after run
  apply agree_bind (agree_readUInt alike (by omega))
  intro version
  apply agree_bind (agree_readUInt alike (by omega))
  intro templateId
  apply agree_bind (agree_readUInt alike (by omega))
  intro schemaId
  apply agree_ite (agree_pure _)
  apply agree_bind_of_ok (agree_ofExcept _)
  intro fly reads' after' wrapped
  obtain ⟨moved, -⟩ := ofExcept_eq_ok.mp wrapped
  obtain ⟨-, rfl⟩ := Flyweight.sbePosition_eq_ok.mp moved
  apply agree_readTopicFields alike long rfl
  have small : blockLength < 65536 := by
    have bound := ofBytes_lt (bytesAt mem (data + 0) 2)
    rw [length_bytesAt] at bound
    cases run
    exact bound
  unfold Room
  dsimp only
  by_cases plain : length < 2 ^ 31
  · rw [intBufferLength_of_lt plain]
    exact Or.inl le_rfl
  · right
    omega

theorem agree_decodeTopicMessageWithSbe (alike : Alike mem data mem' data' length)
    (long : 16 ≤ length) : Agree (decodeTopicMessageWithSbe mem json data length)
      (decodeTopicMessageWithSbe mem' json data' length) :=
  agree_tryCatch (agree_readTopicMessage alike long) fun _ => agree_pure _

theorem agree_decodeAcknowledgmentWithSbe (alike : Alike mem data mem' data' length) :
    Agree (decodeAcknowledgmentWithSbe mem data length)
      (decodeAcknowledgmentWithSbe mem' data' length) := by
  unfold decodeAcknowledgmentWithSbe
  by_cases short : length < 8
  · rw [if_pos short, if_pos short]
    exact agree_pure _
  · rw [if_neg short, if_neg short]
    have front : Agree (readUInt mem (data + 0) 2) (readUInt mem' (data' + 0) 2) :=
      agree_readUInt alike (by omega)
    apply agree_bind front
    intro blockLength
    apply agree_bind (agree_readUInt alike (by omega))
    intro templateId
    apply agree_bind (agree_readUInt alike (by omega))
    intro schemaId
    apply agree_bind (agree_readUInt alike (by omega))
    intro version
    apply agree_ite (agree_pure _)
    dsimp only
    by_cases block : length < 8 + 8
    · rw [if_pos block, if_pos block]
      exact agree_pure _
    · rw [if_neg block, if_neg block]
      apply agree_bind (agree_readUInt alike (by omega))
      intro timestamp
      by_cases more : 16 < length
      · rw [if_pos more, if_pos more]
        apply agree_bind
        · apply agree_bind (agree_readBytes alike (by omega))
          intro rest
          exact agree_pure _
        · intro extracted
          exact agree_pure _
      · rw [if_neg more, if_neg more]
        exact agree_bind (agree_pure _) fun extracted => agree_pure _

end Places

section Results

/-- Both calls return; one succeeds exactly if the other does, and then with the same result. -/
def Similar (x y : Option ParseResult) : Prop :=
  ∃ r r', x = some r ∧ y = some r' ∧ (r.success = true ↔ r'.success = true) ∧
    (r.success = true → r = r')

theorem Similar.symm {x y : Option ParseResult} (similar : Similar x y) : Similar y x := by
  obtain ⟨r, r', left, right, both, same⟩ := similar
  exact ⟨r', r, right, left, both.symm, fun success => (same (both.mpr success)).symm⟩

theorem Similar.trans {x y z : Option ParseResult} (first : Similar x y) (rest : Similar y z) :
    Similar x z := by
  obtain ⟨r, r', left, middle, both, same⟩ := first
  obtain ⟨s, s', middle', right, both', same'⟩ := rest
  have one : s = r' := Option.some.inj (middle'.symm.trans middle)
  subst one
  refine ⟨r, s', left, right, both.trans both', fun success => ?_⟩
  exact (same success).trans (same' (both.mp success))

theorem similar_refl (r : ParseResult) : Similar (some r) (some r) :=
  ⟨r, r, rfl, rfl, Iff.rfl, fun _ => rfl⟩

theorem similar_self {x : Decode ParseResult} (total : Total x) (reads : List (Nat × Nat)) :
    Similar (returned x reads) (returned x reads) := by
  obtain ⟨r, after, run⟩ := total reads
  rw [returned_eq_some.mpr ⟨after, run⟩]
  exact similar_refl r

theorem similar_of_failed {r r' : ParseResult} (failed : r.success = false)
    (failed' : r'.success = false) : Similar (some r) (some r') := by
  refine ⟨r, r', rfl, rfl, by rw [failed, failed'], fun success => ?_⟩
  rw [failed] at success
  cases success

theorem similar_of_agree {x y : Decode ParseResult} (agree : Agree x y) (total : Total x)
    (reads reads' : List (Nat × Nat)) : Similar (returned x reads) (returned y reads') := by
  obtain ⟨r, after, run⟩ := total reads
  have left : returned x reads = some r := returned_eq_some.mpr ⟨after, run⟩
  have right : returned y reads' = some r := by
    rw [← outcome_eq_ok, ← agree reads reads', outcome_eq_ok, left]
  rw [left, right]
  exact similar_refl r

theorem total_decodeTopicMessageWithSbe :
    Total (decodeTopicMessageWithSbe mem json data length) :=
  total_tryCatch fun _ => total_pure _

theorem total_readUInt (addr width : Nat) : Total (readUInt mem addr width) := fun _ => ⟨_, _, rfl⟩

theorem total_decodeAcknowledgmentWithSbe : Total (decodeAcknowledgmentWithSbe mem data length) := by
  unfold decodeAcknowledgmentWithSbe
  apply total_ite (total_pure _)
  apply total_bind (total_readUInt _ _)
  intro blockLength
  apply total_bind (total_readUInt _ _)
  intro templateId
  apply total_bind (total_readUInt _ _)
  intro schemaId
  apply total_bind (total_readUInt _ _)
  intro version
  apply total_ite (total_pure _)
  apply total_ite (total_pure _)
  apply total_bind (total_readUInt _ _)
  intro timestamp
  dsimp only
  apply total_ite
  · apply total_bind (fun _ => ⟨_, _, rfl⟩)
    intro rest
    exact total_bind (total_pure _) fun extracted => total_pure _
  · exact total_bind (total_pure _) fun extracted => total_pure _

theorem le_of_fieldsComplete {count position : Nat} (inside : position ≤ length)
    (complete : FieldsComplete mem data length count position) : position + 2 * count ≤ length := by
  induction count generalizing position with
  | zero => omega
  | succ count ih =>
      obtain ⟨here, later⟩ := complete
      have behind := ih here later
      unfold fieldEnd at behind
      omega

/-- A message too short for its time stamp is rejected: its four length prefixes would not fit. -/
theorem failed_of_short {r : ParseResult} {reads after : List (Nat × Nat)} (short : length < 16)
    (run : (decodeTopicMessageWithSbe mem json data length).run reads = .ok r after) :
    r.success = false := by
  cases success : r.success with
  | false => rfl
  | true =>
      obtain ⟨fits, complete⟩ := topic_ends run success
      have four := le_of_fieldsComplete fits complete
      rw [intBufferLength_of_lt (by omega)] at four
      omega

theorem similar_topic (alike : Alike mem data mem' data' length) (reads reads' : List (Nat × Nat)) :
    Similar (returned (decodeTopicMessageWithSbe mem json data length) reads)
      (returned (decodeTopicMessageWithSbe mem' json data' length) reads') := by
  have total (mem : Memory) (data : Nat) : Total (decodeTopicMessageWithSbe mem json data length) :=
    total_decodeTopicMessageWithSbe
  by_cases long : 16 ≤ length
  · exact similar_of_agree (agree_decodeTopicMessageWithSbe alike long) (total mem data) reads reads'
  · obtain ⟨r, after, run⟩ := total mem data reads
    obtain ⟨r', after', run'⟩ := total mem' data' reads'
    rw [returned_eq_some.mpr ⟨after, run⟩, returned_eq_some.mpr ⟨after', run'⟩]
    exact similar_of_failed (failed_of_short (by omega) run) (failed_of_short (by omega) run')

end Results

section Dispatch

/-- A message by its header: a topic message, an acknowledgment, or nothing that is known. -/
def dispatch (mem : Memory) (json : Jsoncpp) (data length : Nat) : Decode ParseResult :=
  let header := headerAt mem data
  if header.schemaId = 1 ∧ header.templateId = 1 then decodeTopicMessageWithSbe mem json data length
  else if header.schemaId = 1 ∧ header.templateId = 2 then
    decodeAcknowledgmentWithSbe mem data length
  else return {}

theorem total_dispatch : Total (dispatch mem json data length) :=
  total_ite total_decodeTopicMessageWithSbe
    (total_ite total_decodeAcknowledgmentWithSbe (total_pure _))

theorem similar_dispatch (alike : Alike mem data mem' data' length) (long : 8 ≤ length)
    (reads reads' : List (Nat × Nat)) :
    Similar (returned (dispatch mem json data length) reads)
      (returned (dispatch mem' json data' length) reads') := by
  unfold dispatch
  rw [headerAt_alike alike long]
  dsimp only
  split
  · exact similar_topic alike reads reads'
  · split
    · exact similar_of_agree (agree_decodeAcknowledgmentWithSbe alike)
        total_decodeAcknowledgmentWithSbe reads reads'
    · exact similar_refl {}

/-- A message of another schema than those of the cluster, or with another template, is refused. -/
theorem parsed_unknown (json : Jsoncpp) (here : data ≠ 0) (long : 8 ≤ length)
    (schema : (headerAt mem data).schemaId ≠ 111)
    (unknown : ¬ (classified (headerAt mem data)).isTopicMessage = true) :
    ∃ r, parsed json mem data length = some r ∧ r.success = false := by
  have event : ¬ (classified (headerAt mem data)).isSessionEvent = true := by
    simp only [classified, ParseResult.isSessionEvent, CLUSTER_SCHEMA_ID, Bool.and_eq_true,
      beq_iff_eq]
    omega
  have acknowledgment : ¬ (classified (headerAt mem data)).isAcknowledgment = true := by
    rw [isTopicMessage_classified] at unknown
    simp only [classified, ParseResult.isAcknowledgment, ACKNOWLEDGMENT_TEMPLATE_ID, TOPIC_SCHEMA_ID,
      Bool.and_eq_true, beq_iff_eq]
    omega
  have run : (parseMessage mem json data length).run [] = .ok
      { classified (headerAt mem data) with
        errorMessage := ascii "Unknown message type: template=" ++
          stdToString (headerAt mem data).templateId ++ ascii ", schema=" ++
          stdToString (headerAt mem data).schemaId } [(data, 8)] := by
    unfold parseMessage
    rw [if_neg (by omega), EStateM.run_bind, decodeMessageHeader_run here long]
    change EStateM.run (if (classified (headerAt mem data)).isSessionEvent = true then _ else
      if (classified (headerAt mem data)).isTopicMessage = true then _ else
        if (classified (headerAt mem data)).isAcknowledgment = true then _ else _) _ = _
    rw [if_neg event, if_neg unknown, if_neg acknowledgment]
    rfl
  exact ⟨_, returned_eq_some.mpr ⟨_, run⟩, rfl⟩

theorem similar_direct (json : Jsoncpp) (here : data ≠ 0) (long : 8 ≤ length)
    (schema : (headerAt mem data).schemaId ≠ 111) :
    ∃ reads, Similar (parsed json mem data length)
      (returned (dispatch mem json data length) reads) := by
  by_cases topic : (classified (headerAt mem data)).isTopicMessage = true
  · refine ⟨[(data, 8), (data, 8)], ?_⟩
    have kind := isTopicMessage_classified.mp topic
    have business : (headerAt mem data).schemaId = 1 := by omega
    have same : parsed json mem data length =
        returned (dispatch mem json data length) [(data, 8), (data, 8)] := by
      unfold parsed dispatch returned
      rw [parseMessage_of_topic here long topic, parseTopicMessage_of_direct here long business]
      dsimp only
      by_cases template : (headerAt mem data).templateId = 1
      · rw [if_pos template, if_pos ⟨business, template⟩]
      · have answer : (headerAt mem data).templateId = 2 := by omega
        rw [if_neg template, if_pos answer, if_neg (by omega), if_pos ⟨business, answer⟩]
    rw [same]
    exact similar_self total_dispatch _
  · obtain ⟨r, parse, failed⟩ := parsed_unknown json here long schema topic
    refine ⟨[], ?_⟩
    rw [isTopicMessage_classified] at topic
    unfold dispatch
    dsimp only
    rw [parse, if_neg (by omega), if_neg (by omega)]
    exact similar_of_failed failed rfl

section Enveloped

variable {version : Nat} (here : data ≠ 0) (header : headerAt mem data = ⟨24, 1, 111, version⟩)

include here header

theorem parseMessage_enveloped (long : 8 ≤ length) :
    (parseMessage mem json data length).run [] =
      (parseTopicMessage mem json data length).run [(data, 8)] := by
  have topic : (classified (headerAt mem data)).isTopicMessage = true := by
    rw [header]
    rfl
  exact parseMessage_of_topic here long topic

theorem parsed_enveloped_short (json : Jsoncpp) (short : length < 8) :
    ∃ r, parsed json mem data (32 + length) = some r ∧ r.success = false := by
  have run : ∃ r after, (parseTopicMessage mem json data (32 + length)).run [(data, 8)] =
      .ok r after ∧ r.success = false := by
    unfold parseTopicMessage
    rw [if_neg (by omega), EStateM.run_bind, decodeMessageHeader_run here (by omega), header]
    dsimp only
    rw [if_pos rfl]
    by_cases empty : 32 + length ≤ 8 + 24
    · rw [if_pos empty]
      exact ⟨_, _, rfl, rfl⟩
    · rw [if_neg empty, if_pos (by omega)]
      exact ⟨_, _, rfl, rfl⟩
  obtain ⟨r, after, run, failed⟩ := run
  refine ⟨r, returned_eq_some.mpr ⟨after, ?_⟩, failed⟩
  rw [parseMessage_enveloped here header (by omega), run]

theorem similar_enveloped (json : Jsoncpp) (long : 8 ≤ length) :
    ∃ reads, Similar (parsed json mem data (32 + length))
      (returned (dispatch mem json (data + 32) length) reads) := by
  refine ⟨[(data + 32, 8), (data, 8), (data, 8)], ?_⟩
  have behind : 32 + length - (8 + 24) = length := by omega
  have run : (parseMessage mem json data (32 + length)).run [] =
      (if (headerAt mem (data + 32)).schemaId = 1 then
        if (headerAt mem (data + 32)).templateId = 1 then
          decodeTopicMessageWithSbe mem json (data + 32) length
        else if (headerAt mem (data + 32)).templateId = 2 then
          decodeAcknowledgmentWithSbe mem (data + 32) length
        else return failure (ascii "Unknown embedded message template_id: " ++
          stdToString (headerAt mem (data + 32)).templateId)
      else return failure (ascii "Unknown embedded message schema_id: " ++
        stdToString (headerAt mem (data + 32)).schemaId)).run
        [(data + 32, 8), (data, 8), (data, 8)] := by
    rw [parseMessage_enveloped here header (by omega)]
    unfold parseTopicMessage
    rw [if_neg (by omega), EStateM.run_bind, decodeMessageHeader_run here (by omega), header]
    dsimp only
    rw [if_pos rfl, if_neg (by omega), behind, if_neg (by omega), EStateM.run_bind,
      decodeMessageHeader_run (by omega) long]
  unfold parsed dispatch returned
  rw [run]
  dsimp only
  by_cases schema : (headerAt mem (data + 32)).schemaId = 1
  · rw [if_pos schema]
    by_cases template : (headerAt mem (data + 32)).templateId = 1
    · rw [if_pos template, if_pos ⟨schema, template⟩]
      exact similar_self total_decodeTopicMessageWithSbe _
    · by_cases answer : (headerAt mem (data + 32)).templateId = 2
      · rw [if_neg template, if_pos answer, if_neg (by omega), if_pos ⟨schema, answer⟩]
        exact similar_self total_decodeAcknowledgmentWithSbe _
      · rw [if_neg template, if_neg answer, if_neg (by omega), if_neg (by omega)]
        exact similar_of_failed rfl rfl
  · rw [if_neg schema, if_neg (by omega), if_neg (by omega)]
    exact similar_of_failed rfl rfl

end Enveloped

end Dispatch

section Transparency

variable {version : Nat} {leadershipTermId clusterSessionId timestamp : Int} {m : List UInt8}

def sessionMessageHeader (version : Nat) (leadershipTermId clusterSessionId timestamp : Int) :
    List UInt8 :=
  (MessageHeader.mk 24 1 111 version).bytes ++ toBytes 8 (unsigned 8 leadershipTermId) ++
    toBytes 8 (unsigned 8 clusterSessionId) ++ toBytes 8 (unsigned 8 timestamp)

theorem length_sessionMessageHeader :
    (sessionMessageHeader version leadershipTermId clusterSessionId timestamp).length = 32 := by
  simp [sessionMessageHeader, MessageHeader.bytes]

theorem holds_enveloped (held : Holds mem data
      (sessionMessageHeader version leadershipTermId clusterSessionId timestamp ++ m)) :
    headerAt mem data = ⟨24, 1, 111, version % 65536⟩ ∧ Holds mem (data + 32) m := by
  obtain ⟨front, behind⟩ := holds_append.mp held
  rw [length_sessionMessageHeader] at behind
  obtain ⟨front, -⟩ := holds_append.mp front
  obtain ⟨front, -⟩ := holds_append.mp front
  obtain ⟨header, -⟩ := holds_append.mp front
  exact ⟨headerAt_of_holds header, behind⟩

def schemaOf (m : List UInt8) : Nat := (MessageHeader.ofBytes (m.take 8)).schemaId

theorem schemaOf_eq (long : 8 ≤ m.length) (held : Holds mem data m) :
    (headerAt mem data).schemaId = schemaOf m := by
  have front : bytesAt mem data 8 = m.take 8 := bytesAt_of_holds (k := 0) held (by omega)
  unfold headerAt schemaOf
  rw [front]

theorem parsed_short (json : Jsoncpp) (mem : Memory) (data : Nat) (short : length < 8) :
    ∃ r, parsed json mem data length = some r ∧ r.success = false := by
  by_cases empty : data = 0 ∨ length = 0
  · refine ⟨failure (ascii "Null or empty data"), returned_eq_some.mpr ⟨[], ?_⟩, rfl⟩
    unfold parseMessage
    rw [if_pos empty]
    rfl
  · have refused : (decodeMessageHeader mem data length).run [] = .ok none [] := by
      unfold decodeMessageHeader
      rw [if_pos (Or.inr short)]
      rfl
    refine ⟨failure (ascii "Failed to decode message header"), returned_eq_some.mpr ⟨[], ?_⟩, rfl⟩
    unfold parseMessage
    rw [if_neg empty, EStateM.run_bind, refused]
    rfl

/-- Behind a session message header, every message that is not itself one of the cluster's parses as it
does alone. -/
theorem envelope_transparent (json : Jsoncpp) {mem mem' : Memory} {data data' : Nat}
    {version : Nat} {leadershipTermId clusterSessionId timestamp : Int} {m : List UInt8}
    (here : data ≠ 0) (here' : m ≠ [] → data' ≠ 0) (other : 8 ≤ m.length → schemaOf m ≠ 111)
    (held : Holds mem data
      (sessionMessageHeader version leadershipTermId clusterSessionId timestamp ++ m))
    (held' : Holds mem' data' m) :
    Similar (parsed json mem data
        (sessionMessageHeader version leadershipTermId clusterSessionId timestamp ++ m).length)
      (parsed json mem' data' m.length) := by
  obtain ⟨header, inner⟩ := holds_enveloped held
  rw [List.length_append, length_sessionMessageHeader]
  by_cases long : 8 ≤ m.length
  · have some : m ≠ [] := by
      rintro rfl
      exact absurd long (by decide)
    have alike : Alike mem (data + 32) mem' data' m.length := alike_of_holds inner held'
    have schema : (headerAt mem' data').schemaId ≠ 111 := by
      rw [schemaOf_eq long held']
      exact other long
    obtain ⟨reads, enveloped⟩ := similar_enveloped here header json long
    obtain ⟨reads', direct⟩ := similar_direct json (here' some) long schema
    have between : Similar (returned (dispatch mem json (data + 32) m.length) reads)
        (returned (dispatch mem' json data' m.length) reads') :=
      similar_dispatch alike long reads reads'
    exact (enveloped.trans between).trans direct.symm
  · have short : m.length < 8 := Nat.lt_of_not_le long
    obtain ⟨r, parse, failed⟩ := parsed_enveloped_short here header json short
    obtain ⟨r', parse', failed'⟩ := parsed_short json mem' data' short
    rw [parse, parse']
    exact similar_of_failed failed failed'

section Sample

/-- An acknowledgment of eight bytes of block with a short text behind it. -/
def sampleMessage : List UInt8 :=
  (MessageHeader.mk 8 2 1 1).bytes ++ toBytes 8 1700000000000 ++ ascii "msg_1"

theorem envelope_transparent_acknowledgment :
    Similar (parsed Json.plainJson (memoryOf 4096 (sessionMessageHeader 8 3 7 0 ++ sampleMessage)) 4096
        (sessionMessageHeader 8 3 7 0 ++ sampleMessage).length)
      (parsed Json.plainJson (memoryOf 8192 sampleMessage) 8192 sampleMessage.length) := by
  have other : schemaOf sampleMessage ≠ 111 := by decide +kernel
  exact envelope_transparent Json.plainJson (by decide) (fun _ => by decide) (fun _ => other)
    (holds_memoryOf 4096 _) (holds_memoryOf 8192 sampleMessage)

end Sample

end Transparency

end AeronClusterClient.Sbe.EnvelopeTransparency
