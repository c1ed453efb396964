/- module: AeronClusterClient/Sbe/TopicFormats
   source: src/sbe_encoder.cpp (decode_topic_message_with_sbe), include/model/TopicMessage.h
   digest: Topic messages of every block length and version are decoded by their five fields. -/

import AeronClusterClient.Sbe.ReadBounds

/-!
Old frames have a fixed block of eight bytes, new ones of sixteen, and later
schema versions may extend it. The flyweight finds the fields behind the block
that the frame announces; the sequence number that it reads at the offset of the
new format is not used, and in an old frame the length prefixes of the five
fields are long enough for it to stay inside.
-/

set_option autoImplicit false
set_option relaxedAutoImplicit false

namespace AeronClusterClient.Sbe.TopicFormats

open Lib.Action Lib.Bytes Lib.LittleEndian Sbe.GeneratedCodec Sbe.Parser Sbe.ReadBounds
open Text (StdString ascii)
open Json (Jsoncpp)

variable {json : Jsoncpp} {mem : Memory} {data length : Nat} {reads : List (Nat × Nat)}

def fields (strings : List StdString) : List UInt8 := strings.flatMap varData

def messageFrame (version : Nat) (block : List UInt8)
    (topic messageType uuid payload headers : StdString) : List UInt8 :=
  (MessageHeader.mk block.length 1 1 version).bytes ++ block ++
    fields [topic, messageType, uuid, payload, headers]

variable {strings : List StdString}

theorem fields_cons (s : StdString) (strings : List StdString) :
    fields (s :: strings) = varData s ++ fields strings := rfl

theorem le_length_fields (strings : List StdString) :
    2 * strings.length ≤ (fields strings).length := by
  induction strings with
  | nil => exact Nat.le_refl 0
  | cons s strings ih =>
      rw [fields_cons, List.length_append, length_varData, List.length_cons]
      omega

theorem length_fields_le (short : ∀ s ∈ strings, s.length < 65536) :
    (fields strings).length ≤ 65537 * strings.length := by
  induction strings with
  | nil => exact Nat.le_refl 0
  | cons s strings ih =>
      obtain ⟨here, others⟩ := List.forall_mem_cons.mp short
      have behind := ih others
      rw [fields_cons, List.length_append, length_varData, List.length_cons]
      omega

section Fields

variable {fly : Flyweight} {s : StdString}

/-- Memory holds these fields from the position of the flyweight on, inside its buffer. -/
structure Ahead (mem : Memory) (data : Nat) (fly : Flyweight) (strings : List StdString) : Prop where
  short : ∀ s ∈ strings, s.length < 65536
  held : Holds mem (data + fly.mPosition) (fields strings)
  inside : fly.mPosition + (fields strings).length ≤ fly.mBufferLength

def past (fly : Flyweight) (s : StdString) : Flyweight :=
  { fly with mPosition := fly.mPosition + (varData s).length }

theorem Ahead.past (ahead : Ahead mem data fly (s :: strings)) : Ahead mem data (past fly s) strings := by
  obtain ⟨short, held, inside⟩ := ahead
  rw [fields_cons] at held inside
  rw [List.length_append] at inside
  have rest := (holds_append.mp held).2
  rw [Nat.add_assoc] at rest
  refine ⟨fun t among => short t (List.mem_cons_of_mem _ among), rest, ?_⟩
  simp only [TopicFormats.past]
  omega

theorem Ahead.read (ahead : Ahead mem data fly (s :: strings)) (reads : List (Nat × Nat)) :
    ∃ after, (getVarDataAsString mem data fly).run reads = .ok (s, TopicFormats.past fly s) after := by
  obtain ⟨short, held, inside⟩ := ahead
  rw [fields_cons] at held inside
  rw [List.length_append] at inside
  have returns : returned (getVarDataAsString mem data fly) reads =
      some (s, TopicFormats.past fly s) :=
    returned_getVarDataAsString (short s List.mem_cons_self) (holds_append.mp held).1 (by omega)
  exact ⟨_, run_of_returned returns⟩

/-- Fields that lie ahead inside the frame are inside it, whatever the buffer length. -/
theorem fieldsInside_of_held {position bufferLength : Nat} {next : Nat → Prop}
    (short : ∀ s ∈ strings, s.length < 65536) (held : Holds mem (data + position) (fields strings))
    (inside : position + (fields strings).length ≤ length)
    (last : next (position + (fields strings).length)) :
    FieldsInside mem data length bufferLength next strings.length position := by
  induction strings generalizing position with
  | nil => exact last
  | cons s strings ih =>
      rw [fields_cons] at held inside last
      rw [List.length_append, ← Nat.add_assoc] at inside last
      obtain ⟨here, rest⟩ := holds_append.mp held
      rw [Nat.add_assoc] at rest
      have size : lengthAt mem data position = s.length :=
        (holds_varData (short s List.mem_cons_self) here).1
      have ends : fieldEnd mem data position = position + (varData s).length := by
        unfold fieldEnd
        rw [size, length_varData, Nat.add_assoc]
      intro _
      rw [ends]
      refine ⟨by omega, fun _ => ?_⟩
      exact ih (fun t among => short t (List.mem_cons_of_mem _ among)) rest inside last

end Fields

section Receiving

/-- A receiver reads the message header and wraps the message class behind it. -/
def wrapBehindHeader (mem : Memory) (mBuffer length : Nat) : Decode (MessageHeader × Flyweight) := do
  let header ← readMessageHeader mem mBuffer
  let fly ← ofExcept (wrapForDecode 8 header.blockLength header.version length)
  return (header, fly)

def behindBlock (header : MessageHeader) (length : Nat) : Flyweight :=
  { mBufferLength := length
    mOffset := 8
    mPosition := 8 + header.blockLength
    mActingBlockLength := header.blockLength
    mActingVersion := header.version }

theorem wrapBehindHeader_run {header : MessageHeader} (same : headerAt mem data = header)
    (fits : 8 + header.blockLength ≤ length) (reads : List (Nat × Nat)) :
    (wrapBehindHeader mem data length).run reads =
      .ok (header, behindBlock header length) ((data, 8) :: reads) := by
  have read : (readMessageHeader mem data).run reads = .ok header ((data, 8) :: reads) := by
    rw [← same]
    rfl
  have wrapped : wrapForDecode 8 header.blockLength header.version length =
      .ok (behindBlock header length) :=
    Flyweight.sbePosition_eq_ok.mpr ⟨fits, rfl⟩
  unfold wrapBehindHeader
  rw [EStateM.run_bind, read]
  dsimp only
  rw [EStateM.run_bind, ofExcept_eq_ok.mpr ⟨wrapped, rfl⟩]
  rfl

end Receiving

section Decoding

variable {version : Nat} {block : List UInt8} {topic messageType uuid payload headers : StdString}

/-- The five texts fit their 16-bit length prefixes. -/
def Short (topic messageType uuid payload headers : StdString) : Prop :=
  ∀ s ∈ [topic, messageType, uuid, payload, headers], s.length < 65536

theorem readTopicFields_of_ahead {header : MessageHeader} {fly : Flyweight}
    (ahead : Ahead mem data fly [topic, messageType, uuid, payload, headers]) :
    ∃ r after, (readTopicFields mem json data header fly).run reads = .ok r after ∧
      r.success = true ∧ r.messageType = messageType ∧ r.messageId = uuid ∧ r.payload = payload ∧
      r.headers = headers ∧
      r.timestamp = signed 8 (ofBytes (bytesAt mem (data + fly.mOffset) 8)) := by
  have stamp : (timestamp mem data fly).run reads =
      .ok (ofBytes (bytesAt mem (data + fly.mOffset) 8))
        ((data + fly.mOffset, 8) :: reads) := rfl
  obtain ⟨log₁, topicRun⟩ := ahead.read ((data + fly.mOffset, 8) :: reads)
  obtain ⟨log₂, typeRun⟩ := ahead.past.read log₁
  obtain ⟨log₃, uuidRun⟩ := ahead.past.past.read log₂
  obtain ⟨log₄, payloadRun⟩ := ahead.past.past.past.read log₃
  let behind := past (past (past (past fly topic) messageType) uuid) payload
  have number : (sequenceNumber mem data behind).run log₄ =
      .ok (ofBytes (bytesAt mem (data + behind.mOffset + 8) 8))
        ((data + behind.mOffset + 8, 8) :: log₄) := rfl
  obtain ⟨log₅, headersRun⟩ := ahead.past.past.past.past.read ((data + behind.mOffset + 8, 8) :: log₄)
  have guarded : (headersOrEmpty mem data behind).run ((data + behind.mOffset + 8, 8) :: log₄) =
      .ok headers log₅ :=
    tryCatch_of_ok (bind_eq_ok.mpr ⟨_, _, headersRun, rfl⟩)
  unfold readTopicFields getTopicAsString getMessageTypeAsString getUuidAsString getPayloadAsString
  rw [EStateM.run_bind, stamp]
  dsimp only
  rw [EStateM.run_bind, topicRun]
  dsimp only
  rw [EStateM.run_bind, typeRun]
  dsimp only
  rw [EStateM.run_bind, uuidRun]
  dsimp only
  rw [EStateM.run_bind, payloadRun]
  dsimp only
  rw [EStateM.run_bind, number]
  dsimp only
  rw [EStateM.run_bind, guarded]
  refine ⟨_, log₅, rfl, rfl, rfl, rfl, rfl, rfl, ?_⟩
  dsimp only

theorem holds_messageFrame (held : Holds mem data
      (messageFrame version block topic messageType uuid payload headers)) :
    Holds mem data (MessageHeader.mk block.length 1 1 version).bytes ∧
      Holds mem (data + 8) block ∧
      Holds mem (data + (8 + block.length)) (fields [topic, messageType, uuid, payload, headers]) :=
  holds_message held

theorem length_messageFrame : (messageFrame version block topic messageType uuid payload
      headers).length = 8 + block.length + (fields [topic, messageType, uuid, payload, headers]).length := by
  unfold messageFrame
  rw [List.length_append, List.length_append, MessageHeader.length_bytes]

/-- What a decoder should make of a message: no read outside the frame, and the strings and the
time stamp of the message. -/
structure Decodes (json : Jsoncpp) (mem : Memory) (data length : Nat) (block : List UInt8)
    (messageType uuid payload headers : StdString) (r : ParseResult) : Prop where
  run : returned (decodeTopicMessageWithSbe mem json data length) [] = some r
  success : r.success = true
  inside : AllInside data (data + length)
    (finalState (decodeTopicMessageWithSbe mem json data length) [])
  messageType : r.messageType = messageType
  messageId : r.messageId = uuid
  payload : r.payload = payload
  headers : r.headers = headers
  timestamp : r.timestamp = signed 8 (ofBytes (block.take 8))

theorem topicInside_of_held {length : Nat} (same : (headerAt mem data).blockLength = block.length)
    (least : 8 ≤ block.length) (short : Short topic messageType uuid payload headers)
    (ahead : Holds mem (data + (8 + block.length))
      (fields [topic, messageType, uuid, payload, headers]))
    (size : 8 + block.length + (fields [topic, messageType, uuid, payload, headers]).length =
      length) : TopicInside mem data length := by
  have front : fields [topic, messageType, uuid, payload, headers] =
      fields [topic, messageType, uuid, payload] ++ fields [headers] := by
    simp [fields]
  have prefixes : 2 * 5 ≤ (fields [topic, messageType, uuid, payload, headers]).length :=
    le_length_fields [topic, messageType, uuid, payload, headers]
  have part (strings : List StdString)
      (among : strings ⊆ [topic, messageType, uuid, payload, headers]) :
      ∀ s ∈ strings, s.length < 65536 :=
    fun s here => short s (among here)
  have early : ∀ s ∈ [topic, messageType, uuid, payload], s.length < 65536 :=
    part _ (by simp)
  have late : ∀ s ∈ [headers], s.length < 65536 := part _ (by simp)
  unfold TopicInside
  dsimp only
  rw [same]
  intro fits
  refine ⟨by omega, ?_⟩
  rw [front] at ahead size prefixes
  rw [List.length_append] at size prefixes
  obtain ⟨four, last⟩ := holds_append.mp ahead
  rw [Nat.add_assoc] at last
  apply fieldsInside_of_held early four (by omega)
  -- the prefixes of the fields make up for the sequence number that an old block lacks
  refine ⟨by omega, ?_⟩
  exact fieldsInside_of_held late last (by omega) trivial

theorem allInside_of_topicInside (inside : TopicInside mem data length) (long : 8 ≤ length)
    (template : (headerAt mem data).templateId = 1) (schema : (headerAt mem data).schemaId = 1) :
    AllInside data (data + length)
      (finalState (decodeTopicMessageWithSbe mem json data length) []) := by
  have bounded : InsideIff data (data + length) (decodeTopicMessageWithSbe mem json data length)
      (TopicInside mem data length) :=
    insideIff_decodeTopicMessageWithSbe le_rfl long template schema
  exact (bounded []).mpr ⟨fun range among => absurd among List.not_mem_nil, inside⟩

theorem bytesAt_block (least : 8 ≤ block.length) (fixed : Holds mem (data + 8) block) :
    bytesAt mem (data + 8) 8 = block.take 8 :=
  bytesAt_of_holds (k := 0) fixed (by omega)

/-- Topic messages of every block length from eight bytes on, of every version and with any five
strings are decoded to what they were made of. -/
theorem every_format_decodes (json : Jsoncpp) {mem : Memory} {data version : Nat}
    {block : List UInt8} {topic messageType uuid payload headers : StdString}
    (least : 8 ≤ block.length) (most : block.length < 65536)
    (short : Short topic messageType uuid payload headers)
    (held : Holds mem data (messageFrame version block topic messageType uuid payload headers)) :
    ∃ r, Decodes json mem data
      (messageFrame version block topic messageType uuid payload headers).length block messageType
      uuid payload headers r := by
  obtain ⟨header, fixed, ahead⟩ := holds_messageFrame held
  have size : (messageFrame version block topic messageType uuid payload headers).length =
      8 + block.length + (fields [topic, messageType, uuid, payload, headers]).length :=
    length_messageFrame
  generalize (messageFrame version block topic messageType uuid payload headers).length = length at *
  have longest : (fields [topic, messageType, uuid, payload, headers]).length ≤ 65537 * 5 :=
    length_fields_le short
  have same : headerAt mem data = ⟨block.length, 1, 1, version % 65536⟩ := by
    rw [headerAt_of_holds header]
    dsimp only
    rw [Nat.mod_eq_of_lt most]
  have whole : intBufferLength length = length := intBufferLength_of_lt (by omega)
  have fits : 8 + block.length ≤ intBufferLength length := by omega
  obtain ⟨log, handed⟩ : ∃ log, (readTopicMessage mem json data length).run [] =
      (readTopicFields mem json data ⟨block.length, 1, 1, version % 65536⟩
        { mBufferLength := intBufferLength length
          mOffset := 8
          mPosition := 8 + block.length
          mActingBlockLength := block.length
          mActingVersion := version % 65536 }).run log :=
    readTopicMessage_of_header same (by omega) rfl rfl fits
  have inside : TopicInside mem data length :=
    topicInside_of_held (by rw [same]) least short ahead size.symm
  have lies : Ahead mem data
      { mBufferLength := intBufferLength length
        mOffset := 8
        mPosition := 8 + block.length
        mActingBlockLength := block.length
        mActingVersion := version % 65536 } [topic, messageType, uuid, payload, headers] := by
    refine ⟨short, ahead, ?_⟩
    dsimp only
    omega
  obtain ⟨r, after, run, success, typeSame, uuidSame, payloadSame, headersSame, stamp⟩ :=
    readTopicFields_of_ahead lies
  have decoded : (decodeTopicMessageWithSbe mem json data length).run [] = .ok r after :=
    tryCatch_of_ok (handed.trans run)
  have reads : AllInside data (data + length)
      (finalState (decodeTopicMessageWithSbe mem json data length) []) :=
    allInside_of_topicInside inside (by omega) (by rw [same]) (by rw [same])
  refine ⟨r, returned_eq_some.mpr ⟨after, decoded⟩, success, reads, typeSame, uuidSame, payloadSame,
    headersSame, ?_⟩
  rw [stamp]
  dsimp only
  rw [bytesAt_block least fixed]

section Sample

/-- A message in the old format, without payload and headers. -/
def oldFrame : List UInt8 :=
  messageFrame 0 (toBytes 8 1700000000000) (ascii "orders") (ascii "CREATE_ORDER") (ascii "msg_1")
    [] []

theorem every_format_decodes_old :
    ∃ r, Decodes Json.plainJson (memoryOf 4096 oldFrame) 4096 oldFrame.length
      (toBytes 8 1700000000000) (ascii "CREATE_ORDER") (ascii "msg_1") [] [] r := by
  have short : Short (ascii "orders") (ascii "CREATE_ORDER") (ascii "msg_1") [] [] := by
    unfold Short
    decide
  exact every_format_decodes Json.plainJson (by decide) (by decide) short
    (holds_memoryOf 4096 oldFrame)

end Sample

end Decoding

end AeronClusterClient.Sbe.TopicFormats
