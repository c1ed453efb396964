/- module: AeronClusterClient/Sbe/ValidityFilter
   source: src/sbe_encoder.cpp (is_valid_sbe_message), tools/message_inspector.cpp (inspectMessage)
   digest: Which of the frames that are parsed with success the validity filter accepts. -/

import AeronClusterClient.Sbe.ReadBounds

/-!
The inspector asks the filter whether the data appear to be a message before it
parses them. The filter has limits of its own for the announced block, which the
parser does not have.
-/

set_option autoImplicit false
set_option relaxedAutoImplicit false

namespace AeronClusterClient.Sbe.ValidityFilter

open Lib.Action Lib.Bytes Lib.LittleEndian Sbe.GeneratedCodec Sbe.Encoder Sbe.Parser Sbe.ReadBounds
open Json (Jsoncpp)

variable {json : Jsoncpp} {mem : Memory} {data length : Nat}

def isValidSbeMessage (mem : Memory) (data length : Nat) : Decode Bool := do
  if data = 0 ∨ length < 8 then return false
  let header ← readMessageHeader mem data
  if header.blockLength = 0 ∨ 10000 < header.blockLength then return false
  if length < 8 + header.blockLength then return false
  if header.schemaId ≠ CLUSTER_SCHEMA_ID ∧ header.schemaId ≠ TOPIC_SCHEMA_ID then return false
  return true

/-- The filter accepts a message whose block has from 1 to 10000 bytes, all of them in the data, and
whose schema is known. -/
theorem isValidSbeMessage_eq_true : returned (isValidSbeMessage mem data length) [] = some true ↔
    data ≠ 0 ∧ 8 ≤ length ∧
      (1 ≤ (headerAt mem data).blockLength ∧ (headerAt mem data).blockLength ≤ 10000) ∧
      8 + (headerAt mem data).blockLength ≤ length ∧
      ((headerAt mem data).schemaId = 111 ∨ (headerAt mem data).schemaId = 1) := by
  have no {log : List (Nat × Nat)} : ¬ returned (pure false : Decode Bool) log = some true := by
    rintro ⟨⟩
  unfold isValidSbeMessage
  by_cases short : data = 0 ∨ length < 8
  · rw [if_pos short]
    refine iff_of_false no ?_
    omega
  · rw [if_neg short]
    change returned (if (headerAt mem data).blockLength = 0 ∨ 10000 < (headerAt mem data).blockLength
      then pure false else if length < 8 + (headerAt mem data).blockLength then pure false
      else if (headerAt mem data).schemaId ≠ 111 ∧ (headerAt mem data).schemaId ≠ 1 then pure false
      else pure true : Decode Bool) [(data, 8)] = some true ↔ _
    split_ifs with size outside unknown
    · refine iff_of_false no ?_
      omega
    · refine iff_of_false no ?_
      omega
    · refine iff_of_false no ?_
      omega
    · refine iff_of_true rfl ?_
      omega

/-- A block that fits the length the flyweight is given lies in the message. -/
theorem le_of_intBufferLength {n : Nat} (fits : n ≤ intBufferLength length) (small : n < 2 ^ 31) :
    n ≤ length := by
  by_cases below : length < 2 ^ 31
  · rwa [intBufferLength_of_lt below] at fits
  · omega

theorem blockLength_lt (mem : Memory) (data : Nat) : (headerAt mem data).blockLength < 65536 := by
  have bound := ofBytes_lt (bytesAt mem (data + 0) 2)
  rw [length_bytesAt] at bound
  rwa [headerAt_eq]

theorem block_of_decoded {r : ParseResult} (decoded : Decoded json mem data length r)
    (success : r.success = true) (topic : (headerAt mem data).templateId = 1) :
    8 + (headerAt mem data).blockLength ≤ length := by
  have bound := blockLength_lt mem data
  obtain ⟨-, ⟨-, reads, after, run⟩ | ⟨acknowledgment, -⟩⟩ := decoded
  · exact le_of_intBufferLength (topic_ends run success).1 (by omega)
  · omega

section Filter

/-- What is parsed with success has a complete header of a known schema, a topic message in an
envelope or not also all of the block it announces, and the filter accepts it exactly if the block
keeps its limits. -/
theorem filter_accepts_iff {r : ParseResult} (parse : parsed json mem data length = some r)
    (success : r.success = true) :
    data ≠ 0 ∧ 8 ≤ length ∧
      ((headerAt mem data).schemaId = 111 ∨ (headerAt mem data).schemaId = 1) ∧
      ((headerAt mem data).templateId = 1 → 8 + (headerAt mem data).blockLength ≤ length) ∧
      (returned (isValidSbeMessage mem data length) [] = some true ↔
        (1 ≤ (headerAt mem data).blockLength ∧ (headerAt mem data).blockLength ≤ 10000) ∧
          8 + (headerAt mem data).blockLength ≤ length) := by
  obtain ⟨here, long, kind⟩ := parse_decoded parse success
  have known : (headerAt mem data).schemaId = 111 ∨ (headerAt mem data).schemaId = 1 := by
    rcases kind with ⟨event, -⟩ | direct | ⟨envelope, -⟩
    · exact Or.inl event
    · exact Or.inr direct.1
    · exact Or.inl envelope
  refine ⟨here, long, known, fun topic => ?_, ?_⟩
  · rcases kind with ⟨-, event, -⟩ | direct | ⟨-, -, room, -⟩
    · omega
    · exact block_of_decoded direct success topic
    · omega
  · rw [isValidSbeMessage_eq_true]
    constructor
    · rintro ⟨-, -, limits, inside, -⟩
      exact ⟨limits, inside⟩
    · rintro ⟨limits, inside⟩
      exact ⟨here, long, limits, inside, known⟩

section Sample

/-- A topic message of zeros behind its header, with a block of 10001 bytes. -/
def largeBlock : Memory := memoryOf 4096 (MessageHeader.mk 10001 1 1 1).bytes

theorem large_block_filtered :
    ¬ ∀ (json : Jsoncpp) (mem : Memory) (data length : Nat) (r : ParseResult),
      parsed json mem data length = some r → r.success = true →
        returned (isValidSbeMessage mem data length) [] = some true := by
  intro claim
  have parse : (parsed Json.plainJson largeBlock 4096 10019).map ParseResult.success = some true := by
    decide +kernel
  obtain ⟨r, parse, success⟩ := Option.map_eq_some_iff.mp parse
  have accepted := claim Json.plainJson largeBlock 4096 10019 r parse success
  have filtered : returned (isValidSbeMessage largeBlock 4096 10019) [] = some false := by
    decide +kernel
  rw [filtered] at accepted
  cases accepted

theorem filter_accepts_iff_sample : ∃ r : ParseResult,
    parsed Json.plainJson largeBlock 4096 10019 = some r ∧ r.success = true ∧
    ((4096 ≠ 0 ∧ 8 ≤ 10019 ∧
      ((headerAt largeBlock 4096).schemaId = 111 ∨ (headerAt largeBlock 4096).schemaId = 1) ∧
      ((headerAt largeBlock 4096).templateId = 1 →
        8 + (headerAt largeBlock 4096).blockLength ≤ 10019) ∧
      (returned (isValidSbeMessage largeBlock 4096 10019) [] = some true ↔
        (1 ≤ (headerAt largeBlock 4096).blockLength ∧
          (headerAt largeBlock 4096).blockLength ≤ 10000) ∧
          8 + (headerAt largeBlock 4096).blockLength ≤ 10019))) := by
  have parse : (parsed Json.plainJson largeBlock 4096 10019).map ParseResult.success = some true := by
    decide +kernel
  obtain ⟨r, parse, success⟩ := Option.map_eq_some_iff.mp parse
  exact ⟨r, parse, success, filter_accepts_iff parse success⟩

end Sample

end Filter

end AeronClusterClient.Sbe.ValidityFilter
