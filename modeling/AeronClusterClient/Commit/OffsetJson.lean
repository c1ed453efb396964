/- module: AeronClusterClient/Commit/OffsetJson
   source: src/commit_manager.cpp (parse_commit_offset, serialize_commit_offset)
   digest: What is left of a commit that is written as JSON and read again. -/

import AeronClusterClient.Commit.Manager

/-!
The writer and the reader name the identifier of a commit differently, so the
reader finds none and takes its default.
-/

set_option autoImplicit false
set_option relaxedAutoImplicit false

namespace AeronClusterClient.Commit.OffsetJson

open Commit.Manager
open Json (Jsoncpp Value getString getUInt64 ReadsBack compactJson readsBack_compactJson)
open Text (StdString ascii)

section Codec

variable (json : Jsoncpp)

def serializeCommitOffset (offset : CommitOffset) : StdString := json.write (commitOffsetJson offset)

/-- `parse_commit_offset`. The errors that the parser reports for a text are a parameter. -/
def parseCommitOffset (errors : StdString → StdString) (payload : StdString) :
    Except StdString CommitOffset := do
  match ← json.parse payload with
  | none => throw (ascii "Failed to parse commit offset JSON: " ++ errors payload)
  | some root =>
      let topic ← getString json root (ascii "topic") []
      let messageIdentifier ← getString json root (ascii "message_identifier") []
      let messageId ← getString json root (ascii "message_id") []
      let timestampNanos ← getUInt64 json root (ascii "timestamp_nanos")
      let sequenceNumber ← getUInt64 json root (ascii "sequence_number")
      return { topic, messageIdentifier, messageId, timestampNanos, sequenceNumber }

end Codec

section RoundTrip

variable {json : Jsoncpp} {errors : StdString → StdString} {offset : CommitOffset}

/-- Everything comes back but the identifier, which is always empty. -/
theorem parse_serialize (reads : ReadsBack json.parse json.write (commitOffsetJson offset)) :
    parseCommitOffset json errors (serializeCommitOffset json offset) =
      .ok { offset with messageIdentifier := [] } := by
  have parsed : json.parse (serializeCommitOffset json offset) =
      .ok (some (commitOffsetJson offset).readBack) := reads
  have topic : getString json (commitOffsetJson offset).readBack (ascii "topic") [] =
      .ok offset.topic := Json.getString_of_find rfl []
  have identifier : getString json (commitOffsetJson offset).readBack (ascii "message_identifier") [] =
      .ok [] := Json.getString_of_absent rfl []
  have messageId : getString json (commitOffsetJson offset).readBack (ascii "message_id") [] =
      .ok offset.messageId := Json.getString_of_find rfl []
  have timestamp : getUInt64 json (commitOffsetJson offset).readBack (ascii "timestamp_nanos") =
      .ok offset.timestampNanos := Json.getUInt64_of_find rfl
  have sequence : getUInt64 json (commitOffsetJson offset).readBack (ascii "sequence_number") =
      .ok offset.sequenceNumber := Json.getUInt64_of_find rfl
  unfold parseCommitOffset
  rw [parsed]
  simp only [bind, Except.bind, topic, identifier, messageId, timestamp, sequence]
  rfl

/-- A commit comes back exactly when it has no identifier. -/
theorem parse_serialize_eq_iff (json : Jsoncpp) (errors : StdString → StdString)
    (offset : CommitOffset) (reads : ReadsBack json.parse json.write (commitOffsetJson offset)) :
    parseCommitOffset json errors (serializeCommitOffset json offset) = .ok offset ↔
      offset.messageIdentifier = [] := by
  rw [parse_serialize reads, Except.ok.injEq]
  constructor
  · intro same
    exact (congrArg CommitOffset.messageIdentifier same).symm
  · intro empty
    rw [← empty]

end RoundTrip

section Sample

def plainOffset : CommitOffset :=
  { topic := ascii "orders", messageIdentifier := [], messageId := ascii "msg_1"
    timestampNanos := 2 ^ 64 - 1, sequenceNumber := 2 ^ 64 - 1 }

def namedOffset : CommitOffset := { plainOffset with messageIdentifier := ascii "ROHIT_AERON01_TX" }

theorem parse_serialize_eq_iff_sample :
    let json := compactJson (fun _ => []) (commitOffsetJson plainOffset)
    parseCommitOffset json (fun _ => []) (serializeCommitOffset json plainOffset) = .ok plainOffset ↔
      plainOffset.messageIdentifier = [] :=
  parse_serialize_eq_iff _ _ _ (readsBack_compactJson _ _)

/-- The identifier of the stream is lost. -/
theorem identifier_lost :
    ¬ ∀ (json : Jsoncpp) (errors : StdString → StdString) (offset : CommitOffset),
      offset.timestampNanos < 2 ^ 64 → offset.sequenceNumber < 2 ^ 64 →
      ReadsBack json.parse json.write (commitOffsetJson offset) →
      parseCommitOffset json errors (serializeCommitOffset json offset) = .ok offset := by
  intro claim
  have reads := readsBack_compactJson (fun _ => []) (commitOffsetJson namedOffset)
  have returned := claim _ (fun _ => []) namedOffset (by decide) (by decide) reads
  rw [parse_serialize reads, Except.ok.injEq] at returned
  have lost := congrArg CommitOffset.messageIdentifier returned
  exact absurd lost (by decide)

end Sample

end AeronClusterClient.Commit.OffsetJson
