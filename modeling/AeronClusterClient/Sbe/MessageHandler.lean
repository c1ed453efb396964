/- module: AeronClusterClient/Sbe/MessageHandler
   source: include/aeron_cluster/message_handler.hpp, include/aeron_cluster/protocol.hpp,
   src/ack_decoder.cpp, include/model/TopicMessage.h
   digest: Exactly which topic messages the second decoder hands to its callback as they are. -/

import AeronClusterClient.Sbe.TopicFormats

/-!
The handler reads a topic message field by field. A field whose length prefix is
zero is left where it is, so that every later field reads the same prefix. The
flyweight is given the length of the frame without its header for a buffer that
begins with the header, so that no field may reach into the last eight bytes.
-/

set_option autoImplicit false
set_option relaxedAutoImplicit false

namespace AeronClusterClient.Sbe.MessageHandler

open Lib.Action Lib.Bytes Lib.LittleEndian Sbe.GeneratedCodec Sbe.TopicFormats
open Text (StdString ascii)

section Model

structure AckInfo where
  timestampNanos : Nat := 0
  messageId : StdString := []
  topic : StdString := []
  correlationId : StdString := []
  simpleControlAck : Bool := false
  deriving DecidableEq, Repr

/-- The calls that the handler makes. -/
inductive Call
  | ack (info : AckInfo)
  | topicMessage (topic msgType uuid payload headers : StdString)
  deriving DecidableEq, Repr

/-- Which callbacks have been set. -/
structure Handler where
  tmCb : Bool := false
  ackCb : Bool := false
  deriving DecidableEq, Repr

def TOPIC_MESSAGE_TEMPLATE_ID : Nat := 1
def ACKNOWLEDGMENT_TEMPLATE_ID : Nat := 2
def SBE_SCHEMA_ID : Nat := 1

/-- Milliseconds become nanoseconds, modulo 2 ^ 64. -/
def toNanosAuto (ts : Nat) : Nat :=
  if ts < 100000000000000 then ts * 1000000 % 2 ^ 64 else ts

variable (mem : Memory)

/-- `decode_ack`. The full acknowledgment is decoded by a generated class that is not part of the
repository. -/
def decodeAck (fullAck : Nat → Nat → Decode (Option AckInfo)) (data len : Nat) :
    Decode (Option AckInfo) := do
  if len < 8 then return none
  let blockLength ← readUInt mem (data + 0) 2
  let templateId ← readUInt mem (data + 2) 2
  let schemaId ← readUInt mem (data + 4) 2
  let _version ← readUInt mem (data + 6) 2
  if schemaId ≠ SBE_SCHEMA_ID then return none
  if templateId = ACKNOWLEDGMENT_TEMPLATE_ID then
    if len = 16 ∧ blockLength = 8 then
      let tsMs ← readUInt mem (data + 8) 8
      return some { timestampNanos := toNanosAuto tsMs, simpleControlAck := true }
    else fullAck data len
  else return none

def isTopicMessage (data len : Nat) : Decode Bool := do
  if len < 8 then return false
  let templateId ← readUInt mem (data + 2) 2
  let schemaId ← readUInt mem (data + 4) 2
  return templateId == TOPIC_MESSAGE_TEMPLATE_ID && schemaId == SBE_SCHEMA_ID

/-- `read_var_string`: the getter writes into a string of as many zeros as the length says. -/
def readVarString (lenGetter : Flyweight → Decode Nat)
    (getter : Flyweight → Nat → Decode (List UInt8 × Flyweight)) (msg : Flyweight) :
    Decode (StdString × Flyweight) := do
  let len ← lenGetter msg
  if len ≤ 0 then return ([], msg)
  let (bytes, msg) ← getter msg len
  return (overwrite (List.replicate len 0) 0 bytes, msg)

/-- The part of `on_egress` behind the headers: the five fields, and the call. -/
def extractFields (handler : Handler) (data : Nat) (msg : Flyweight) : Decode (List Call) := do
  let (topic, msg) ← readVarString (topicLength mem data) (getTopic mem data) msg
  let (msgType, msg) ← readVarString (messageTypeLength mem data) (getMessageType mem data) msg
  let (uuid, msg) ← readVarString (uuidLength mem data) (getUuid mem data) msg
  let (payload, msg) ← readVarString (payloadLength mem data) (getPayload mem data) msg
  let (headers, _) ← readVarString (headersLength mem data) (getHeaders mem data) msg
  if topic.isEmpty then return []
  return if handler.tmCb then [.topicMessage topic msgType uuid payload headers] else []

/-- `on_egress`: the calls it makes, unless an exception ends it before the first. -/
def onEgress (handler : Handler) (fullAck : Nat → Nat → Decode (Option AckInfo)) (data len : Nat) :
    Decode (List Call) := do
  if len < 8 then return []
  if let some ack ← decodeAck mem fullAck data len then
    return if handler.ackCb then [.ack ack] else []
  if !(← isTopicMessage mem data len) then return []
  if len < 0 + 8 then
    throw (ascii "buffer too short for flyweight [E107]")
  let blockLength ← readUInt mem (data + 0) 2
  let version ← readUInt mem (data + 6) 2
  let msg ← ofExcept (wrapForDecode 8 blockLength version (len - 8))
  extractFields mem handler data msg

end Model

/-- The calls made for a frame, whether or not an exception escapes. -/
def calls (mem : Memory) (handler : Handler) (fullAck : Nat → Nat → Decode (Option AckInfo))
    (data len : Nat) : List Call :=
  (returned (onEgress mem handler fullAck data len) []).getD []

variable {mem : Memory} {data : Nat} {reads : List (Nat × Nat)} {fly : Flyweight} {s : StdString}
  {strings : List StdString}

section Fields

def readField (mem : Memory) (data : Nat) : Flyweight → Decode (StdString × Flyweight) :=
  readVarString (varDataLength mem data) (getVarData mem data)

/-- An empty field is read without being passed. -/
theorem readField_of_empty (held : Holds mem (data + fly.mPosition) (varData [])) :
    returned (readField mem data fly) reads = some ([], fly) := by
  have size : ofBytes (bytesAt mem (data + fly.mPosition) 2) = 0 := by
    rw [Holds] at held
    exact congrArg ofBytes held
  have lengthRead : (varDataLength mem data fly).run reads =
      .ok 0 ((data + fly.mPosition, 2) :: reads) := by
    rw [← size]
    rfl
  unfold readField readVarString returned
  rw [EStateM.run_bind, lengthRead]
  rfl

/-- Another field is read, and passed, exactly if it ends inside the buffer. -/
theorem readField_of_some (short : s.length < 65536) (filled : s ≠ [])
    (held : Holds mem (data + fly.mPosition) (varData s)) :
    returned (readField mem data fly) reads =
      if fly.mPosition + (varData s).length ≤ fly.mBufferLength then some (s, past fly s)
      else none := by
  obtain ⟨size, bytes⟩ := holds_varData short held
  rw [Nat.add_assoc] at bytes
  have lengthRead : (varDataLength mem data fly).run reads =
      .ok s.length ((data + fly.mPosition, 2) :: reads) := by
    rw [← size]
    rfl
  have positive : ¬ s.length ≤ 0 := by
    have := List.length_pos_of_ne_nil filled
    omega
  have copied : overwrite (List.replicate s.length 0) 0 s = s := by
    simp [overwrite]
  unfold readField readVarString returned
  rw [EStateM.run_bind, lengthRead]
  dsimp only
  rw [if_neg positive, EStateM.run_bind, getVarData_run size, bytes, length_varData]
  by_cases ends : fly.mPosition + (2 + s.length) ≤ fly.mBufferLength
  · rw [if_pos (by omega), if_pos (by omega), if_pos ends]
    change some (overwrite (List.replicate s.length 0) 0 s, _) = some (s, past fly s)
    rw [copied]
    unfold past
    rw [length_varData, Nat.add_assoc]
  · have beyond : ¬ fly.mPosition + 2 + s.length ≤ fly.mBufferLength := by omega
    rw [if_neg ends, if_neg beyond]
    by_cases begins : fly.mPosition + 2 ≤ fly.mBufferLength
    · rw [if_pos begins]
    · rw [if_neg begins]

def Reads (mem : Memory) (data : Nat) : Flyweight → List StdString → Prop
  | _, [] => True
  | fly, s :: rest => ∃ reads moved,
      returned (readField mem data fly) reads = some (s, moved) ∧ Reads mem data moved rest

/-- From an empty field on, everything that is read is empty. -/
theorem empty_of_stuck (held : Holds mem (data + fly.mPosition) (varData []))
    (read : Reads mem data fly strings) : ∀ s ∈ strings, s = [] := by
  induction strings with
  | nil => exact nofun
  | cons s rest ih =>
      obtain ⟨reads, moved, here, later⟩ := read
      rw [readField_of_empty held] at here
      cases here
      exact List.forall_mem_cons.mpr ⟨rfl, ih later⟩

theorem length_fields_of_empty (empty : ∀ s ∈ strings, s = []) :
    (fields strings).length = 2 * strings.length := by
  induction strings with
  | nil => rfl
  | cons s rest ih =>
      obtain ⟨rfl, others⟩ := List.forall_mem_cons.mp empty
      rw [fields_cons, List.length_append, ih others, length_varData, List.length_cons,
        List.length_nil]
      omega

/-- Of at most four last fields of a frame whose flyweight ends eight bytes early, none is read unless
all are empty: a last field with something in it would have to end beyond the buffer. -/
theorem empty_of_reads (few : strings.length ≤ 4) (short : ∀ s ∈ strings, s.length < 65536)
    (held : Holds mem (data + fly.mPosition) (fields strings))
    (early : fly.mPosition + (fields strings).length = fly.mBufferLength + 8)
    (read : Reads mem data fly strings) : ∀ s ∈ strings, s = [] := by
  induction strings generalizing fly with
  | nil => exact nofun
  | cons s rest ih =>
      rw [fields_cons] at held early
      obtain ⟨here, behind⟩ := holds_append.mp held
      by_cases empty : s = []
      · subst empty
        exact empty_of_stuck here read
      · obtain ⟨reads, moved, first, later⟩ := read
        rw [readField_of_some (short s List.mem_cons_self) empty here] at first
        split at first
        · rename_i ends
          cases first
          rw [List.length_cons] at few
          rw [List.length_append] at early
          rw [Nat.add_assoc] at behind
          have limit : (past fly s).mPosition + (fields rest).length = fly.mBufferLength + 8 := by
            unfold past
            dsimp only
            omega
          have others := ih (by omega) (fun t among => short t (List.mem_cons_of_mem s among)) behind
            limit later
          have size := length_fields_of_empty others
          omega
        · cases first

end Fields

section Frames

variable {handler : Handler} {fullAck : Nat → Nat → Decode (Option AckInfo)} {len : Nat}
  {blockLength version : Nat}

theorem onEgress_of_header (handler : Handler) (fullAck : Nat → Nat → Decode (Option AckInfo))
    (long : 8 ≤ len)
    (header : Parser.headerAt mem data = ⟨blockLength, 1, 1, version⟩)
    (fits : 8 + blockLength ≤ len - 8) :
    ∃ log, (onEgress mem handler fullAck data len).run [] =
      (extractFields mem handler data
        { mBufferLength := len - 8
          mOffset := 8
          mPosition := 8 + blockLength
          mActingBlockLength := blockLength
          mActingVersion := version }).run log := by
  rw [Parser.headerAt_eq] at header
  obtain ⟨blockEq, templateEq, schemaEq, versionEq⟩ := MessageHeader.mk.inj header
  have field (n : Nat) (reads : List (Nat × Nat)) : (readUInt mem (data + n) 2).run reads =
      .ok (ofBytes (bytesAt mem (data + n) 2)) ((data + n, 2) :: reads) := rfl
  have acks (reads : List (Nat × Nat)) :
      ∃ after, (decodeAck mem fullAck data len).run reads = .ok none after := by
    unfold decodeAck
    rw [if_neg (by omega)]
    refine ⟨(data + 6, 2) :: (data + 4, 2) :: (data + 2, 2) :: (data + 0, 2) :: reads, ?_⟩
    refine bind_eq_ok.mpr ⟨_, _, field 0 reads, ?_⟩
    refine bind_eq_ok.mpr ⟨_, _, field 2 _, ?_⟩
    refine bind_eq_ok.mpr ⟨_, _, field 4 _, ?_⟩
    refine bind_eq_ok.mpr ⟨_, _, field 6 _, ?_⟩
    rw [templateEq, schemaEq, if_neg (by decide), if_neg (by decide)]
    rfl
  have topic (reads : List (Nat × Nat)) :
      ∃ after, (isTopicMessage mem data len).run reads = .ok true after := by
    unfold isTopicMessage
    rw [if_neg (by omega)]
    refine ⟨(data + 4, 2) :: (data + 2, 2) :: reads, ?_⟩
    refine bind_eq_ok.mpr ⟨_, _, field 2 reads, ?_⟩
    refine bind_eq_ok.mpr ⟨_, _, field 4 _, ?_⟩
    rw [templateEq, schemaEq]
    rfl
  have wrapped : wrapForDecode 8 blockLength version (len - 8) = .ok _ :=
    Flyweight.sbePosition_eq_ok.mpr ⟨fits, rfl⟩
  obtain ⟨log₁, refused⟩ := acks []
  obtain ⟨log₂, accepted⟩ := topic log₁
  refine ⟨(data + 6, 2) :: (data + 0, 2) :: log₂, ?_⟩
  unfold onEgress
  rw [if_neg (by omega), EStateM.run_bind, refused]
  dsimp only
  rw [EStateM.run_bind, accepted]
  dsimp only
  rw [if_neg (by decide), if_neg (by omega), EStateM.run_bind, field]
  dsimp only
  rw [EStateM.run_bind, field]
  dsimp only
  rw [blockEq, versionEq, wrapped]
  rfl

variable {topic messageType uuid payload headers : StdString}

theorem calls_eq_singleton {call : Call} {x : Decode (List Call)} {log : List (Nat × Nat)}
    (run : (onEgress mem handler fullAck data len).run [] = x.run log) :
    calls mem handler fullAck data len = [call] ↔ returned x log = some [call] := by
  have same : returned (onEgress mem handler fullAck data len) [] = returned x log := by
    unfold returned
    rw [run]
  unfold calls
  rw [same]
  cases returned x log with
  | none => simp
  | some list => simp

theorem reads_of_extractFields {msg : Flyweight} {log : List (Nat × Nat)}
    (run : returned (extractFields mem handler data msg) log =
      some [.topicMessage topic messageType uuid payload headers]) :
    Reads mem data msg [topic, messageType, uuid, payload, headers] := by
  obtain ⟨after, run⟩ := returned_eq_some.mp run
  unfold extractFields at run
  obtain ⟨⟨topic', first⟩, _, topicRun, run⟩ := bind_eq_ok.mp run
  obtain ⟨⟨messageType', second⟩, _, typeRun, run⟩ := bind_eq_ok.mp run
  obtain ⟨⟨uuid', third⟩, _, uuidRun, run⟩ := bind_eq_ok.mp run
  obtain ⟨⟨payload', fourth⟩, _, payloadRun, run⟩ := bind_eq_ok.mp run
  obtain ⟨⟨headers', fifth⟩, _, headersRun, run⟩ := bind_eq_ok.mp run
  dsimp only at run
  split at run
  · cases run
  · split at run
    · cases run
      exact ⟨_, _, returned_eq_some.mpr ⟨_, topicRun⟩, _, _, returned_eq_some.mpr ⟨_, typeRun⟩,
        _, _, returned_eq_some.mpr ⟨_, uuidRun⟩, _, _, returned_eq_some.mpr ⟨_, payloadRun⟩,
        _, _, returned_eq_some.mpr ⟨_, headersRun⟩, trivial⟩
    · cases run

theorem extractFields_of_empty {msg : Flyweight} (set : handler.tmCb = true) (filled : topic ≠ [])
    (short : topic.length < 65536)
    (held : Holds mem (data + msg.mPosition) (fields [topic, [], [], [], []]))
    (inside : msg.mPosition + (varData topic).length ≤ msg.mBufferLength) (log : List (Nat × Nat)) :
    returned (extractFields mem handler data msg) log = some [.topicMessage topic [] [] [] []] := by
  rw [fields_cons] at held
  obtain ⟨here, behind⟩ := holds_append.mp held
  rw [fields_cons, Nat.add_assoc] at behind
  have empty (log : List (Nat × Nat)) :
      returned (readField mem data (past msg topic)) log = some ([], past msg topic) :=
    readField_of_empty (holds_append.mp behind).1
  have first : returned (readField mem data msg) log = some (topic, past msg topic) := by
    rw [readField_of_some short filled here, if_pos inside]
  obtain ⟨log₁, topicRun⟩ := returned_eq_some.mp first
  obtain ⟨log₂, typeRun⟩ := returned_eq_some.mp (empty log₁)
  obtain ⟨log₃, uuidRun⟩ := returned_eq_some.mp (empty log₂)
  obtain ⟨log₄, payloadRun⟩ := returned_eq_some.mp (empty log₃)
  obtain ⟨log₅, headersRun⟩ := returned_eq_some.mp (empty log₄)
  refine returned_eq_some.mpr ⟨log₅, ?_⟩
  unfold extractFields
  refine bind_eq_ok.mpr ⟨_, _, topicRun, ?_⟩
  refine bind_eq_ok.mpr ⟨_, _, typeRun, ?_⟩
  refine bind_eq_ok.mpr ⟨_, _, uuidRun, ?_⟩
  refine bind_eq_ok.mpr ⟨_, _, payloadRun, ?_⟩
  refine bind_eq_ok.mpr ⟨_, _, headersRun, ?_⟩
  dsimp only
  rw [if_neg (by simpa using filled), set]
  rfl

/-- A topic message is handed to the callback as it is exactly when nothing but its topic is filled. -/
theorem handed_on_iff {mem : Memory} {handler : Handler}
    (fullAck : Nat → Nat → Decode (Option AckInfo)) {data version : Nat} {block : List UInt8}
    {topic messageType uuid payload headers : StdString} (set : handler.tmCb = true)
    (sixteen : block.length = 16) (short : Short topic messageType uuid payload headers)
    (filled : topic ≠ [])
    (held : Holds mem data (messageFrame version block topic messageType uuid payload headers)) :
    calls mem handler fullAck data
        (messageFrame version block topic messageType uuid payload headers).length =
      [.topicMessage topic messageType uuid payload headers] ↔
        messageType = [] ∧ uuid = [] ∧ payload = [] ∧ headers = [] := by
  obtain ⟨header, -, ahead⟩ := holds_messageFrame held
  have size : (messageFrame version block topic messageType uuid payload headers).length =
      8 + block.length + (fields [topic, messageType, uuid, payload, headers]).length :=
    length_messageFrame
  rw [sixteen] at header ahead size
  have accepted : Parser.headerAt mem data = ⟨16, 1, 1, version % 65536⟩ :=
    Parser.headerAt_of_holds header
  generalize (messageFrame version block topic messageType uuid payload headers).length = len at *
  rw [fields_cons, List.length_append] at size
  have least : 2 * 4 ≤ (fields [messageType, uuid, payload, headers]).length :=
    le_length_fields [messageType, uuid, payload, headers]
  have long : 8 ≤ len := by omega
  have fits : 8 + 16 ≤ len - 8 := by omega
  obtain ⟨log, run⟩ := onEgress_of_header handler fullAck long accepted fits
  rw [calls_eq_singleton run]
  constructor
  · intro handed
    obtain ⟨reads, moved, first, later⟩ := reads_of_extractFields handed
    obtain ⟨here, behind⟩ := holds_append.mp ahead
    rw [readField_of_some (short topic List.mem_cons_self) filled here] at first
    split at first
    · cases first
      rw [Nat.add_assoc] at behind
      have others : ∀ s ∈ [messageType, uuid, payload, headers], s.length < 65536 :=
        fun s among => short s (List.mem_cons_of_mem topic among)
      have early : 8 + 16 + (varData topic).length +
          (fields [messageType, uuid, payload, headers]).length = len - 8 + 8 := by
        omega
      have four : [messageType, uuid, payload, headers].length ≤ 4 := Nat.le_refl 4
      have empty := empty_of_reads four others behind early later
      exact ⟨empty _ (by simp), empty _ (by simp), empty _ (by simp), empty _ (by simp)⟩
    · cases first
  · rintro ⟨rfl, rfl, rfl, rfl⟩
    apply extractFields_of_empty set filled (short topic List.mem_cons_self) ahead
    dsimp only
    omega

section Sample

def noFullAck (_data _len : Nat) : Decode (Option AckInfo) := return none

def topicFrame (messageType uuid payload headers : StdString) : List UInt8 :=
  messageFrame 1 (toBytes 8 1700000000000 ++ toBytes 8 0) (ascii "orders") messageType uuid payload
    headers

theorem handed_on_iff_topic_only :
    calls (memoryOf 4096 (topicFrame [] [] [] [])) { tmCb := true } noFullAck 4096
        (topicFrame [] [] [] []).length = [.topicMessage (ascii "orders") [] [] [] []] ↔
      ([] : StdString) = [] ∧ ([] : StdString) = [] ∧ ([] : StdString) = [] ∧ ([] : StdString) = [] := by
  have short : Short (ascii "orders") [] [] [] [] := by
    unfold Short
    decide
  exact handed_on_iff noFullAck rfl (by decide) short (by decide) (holds_memoryOf 4096 _)

/-- A complete message with a short headers field is not handed on: the handler throws. -/
theorem complete_message_not_handed_on :
    ¬ ∀ (mem : Memory) (handler : Handler) (fullAck : Nat → Nat → Decode (Option AckInfo))
        (data version : Nat) (block : List UInt8) (topic messageType uuid payload headers : StdString),
      handler.tmCb = true → block.length = 16 → Short topic messageType uuid payload headers →
      topic ≠ [] → Holds mem data (messageFrame version block topic messageType uuid payload headers) →
      calls mem handler fullAck data
          (messageFrame version block topic messageType uuid payload headers).length =
        [.topicMessage topic messageType uuid payload headers] := by
  intro claim
  let frame := topicFrame (ascii "CREATE_ORDER") (ascii "msg_1") (ascii "hello") (ascii "h1")
  have short : Short (ascii "orders") (ascii "CREATE_ORDER") (ascii "msg_1") (ascii "hello")
      (ascii "h1") := by
    unfold Short
    decide
  have handed := claim (memoryOf 4096 frame) { tmCb := true } noFullAck 4096 1
    (toBytes 8 1700000000000 ++ toBytes 8 0) (ascii "orders") (ascii "CREATE_ORDER") (ascii "msg_1")
    (ascii "hello") (ascii "h1") rfl (by decide) short (by decide) (holds_memoryOf 4096 frame)
  have none : calls (memoryOf 4096 frame) { tmCb := true } noFullAck 4096 frame.length = [] := by
    decide +kernel
  rw [← topicFrame, none] at handed
  cases handed

end Sample

end Frames

end AeronClusterClient.Sbe.MessageHandler
