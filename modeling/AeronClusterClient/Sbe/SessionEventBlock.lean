/- module: AeronClusterClient/Sbe/SessionEventBlock
   source: src/sbe_encoder.cpp (decode_session_event, extract_variable_string, parse_session_event)
   digest: Session events with blocks of every length, and where their detail is looked for. -/

import AeronClusterClient.Sbe.Parser

/-!
The block of a session event has the length that its header announces. The
decoder looks for the detail behind the 32 bytes it knows of, so that what a
newer schema appends to the block is read as the beginning of the detail.
-/

set_option autoImplicit false
set_option relaxedAutoImplicit false

namespace AeronClusterClient.Sbe.SessionEventBlock

open Lib.Action Lib.Bytes Lib.LittleEndian Sbe.GeneratedCodec Sbe.Encoder Sbe.Parser
open Json (Jsoncpp)
open Text (StdString ascii)

/-- The longest string that is extracted: 10 MiB. -/
def maxExtracted : Nat := 10 * 1024 * 1024

/-- A string behind its length, a 32-bit number. -/
def lengthPrefixed (s : StdString) : List UInt8 := toBytes 4 s.length ++ s

/-- A session event as it is sent: any version, any block with the fields the decoder knows, and a
detail that is not too long. -/
structure SessionEventFrame where
  version : Nat
  block : List UInt8
  detail : StdString
  known : 32 ≤ block.length
  announced : block.length < 65536
  limited : detail.length ≤ maxExtracted

namespace SessionEventFrame

variable (f : SessionEventFrame)

def header : MessageHeader :=
  ⟨f.block.length, SESSION_EVENT_TEMPLATE_ID, CLUSTER_SCHEMA_ID, f.version⟩

def bytes : List UInt8 := f.header.bytes ++ (f.block ++ lengthPrefixed f.detail)

def field (offset width : Nat) : Int := signed width (ofBytes ((f.block.drop offset).take width))

def behind : List UInt8 := f.block.drop 32 ++ lengthPrefixed f.detail

end SessionEventFrame

section Extraction

variable {mem : Memory} {data : Nat}

/-- The string that stands in front of some bytes; none if its length is out of bounds. -/
def stringAt (bytes : List UInt8) : StdString :=
  let length := ofBytes (bytes.take 4)
  if bytes.length - 4 < length ∨ maxExtracted < length then [] else (bytes.drop 4).take length

theorem stringAt_of_short {bytes : List UInt8} (short : bytes.length < 4) : stringAt bytes = [] := by
  have none : bytes.drop 4 = [] := List.drop_eq_nil_of_le (by omega)
  unfold stringAt
  simp [none]

def Refused (bytes : List UInt8) : Prop :=
  bytes.length - 4 < ofBytes (bytes.take 4) ∨ maxExtracted < ofBytes (bytes.take 4)

theorem length_lengthPrefixed (s : StdString) : (lengthPrefixed s).length = 4 + s.length := by
  simp [lengthPrefixed]

theorem stringAt_of_starts {bytes : List UInt8} {s : StdString} (limited : s.length ≤ maxExtracted)
    (stands : lengthPrefixed s <+: bytes) : stringAt bytes = s := by
  obtain ⟨rest, rfl⟩ := stands
  have count : ofBytes (toBytes 4 s.length) = s.length :=
    ofBytes_toBytes_of_lt (by unfold maxExtracted at limited; omega)
  have front : (lengthPrefixed s ++ rest).take 4 = toBytes 4 s.length := by
    rw [lengthPrefixed, List.append_assoc, List.take_left' (length_toBytes 4 _)]
  have back : (lengthPrefixed s ++ rest).drop 4 = s ++ rest := by
    rw [lengthPrefixed, List.append_assoc, List.drop_left' (length_toBytes 4 _)]
  have room : (lengthPrefixed s ++ rest).length = 4 + s.length + rest.length := by
    rw [List.length_append, length_lengthPrefixed]
  unfold stringAt
  rw [front, back, count, room, if_neg (by omega), List.take_left]

theorem stringAt_eq_iff {bytes : List UInt8} {s : StdString} (limited : s.length ≤ maxExtracted)
    (enough : 4 ≤ bytes.length) :
    stringAt bytes = s ↔ lengthPrefixed s <+: bytes ∨ s = [] ∧ Refused bytes := by
  by_cases bad : Refused bytes
  · have none : stringAt bytes = [] := if_pos bad
    rw [none]
    constructor
    · rintro rfl
      exact Or.inr ⟨rfl, bad⟩
    · rintro (stands | ⟨rfl, -⟩)
      · exact none.symm.trans (stringAt_of_starts limited stands)
      · rfl
  · have found : stringAt bytes = (bytes.drop 4).take (ofBytes (bytes.take 4)) := if_neg bad
    have inside : ofBytes (bytes.take 4) ≤ (bytes.drop 4).length := by
      unfold Refused at bad
      rw [List.length_drop]
      omega
    have front : toBytes 4 (ofBytes (bytes.take 4)) = bytes.take 4 := by
      have whole := toBytes_ofBytes (bytes.take 4)
      rwa [List.length_take_of_le enough] at whole
    constructor
    · intro same
      rw [found] at same
      have count : s.length = ofBytes (bytes.take 4) := by
        rw [← same, List.length_take_of_le inside]
      refine Or.inl ⟨(bytes.drop 4).drop s.length, ?_⟩
      rw [lengthPrefixed, count, front, ← same, List.append_assoc, List.take_append_drop,
        List.take_append_drop]
    · rintro (stands | ⟨rfl, refused⟩)
      · exact stringAt_of_starts limited stands
      · exact absurd refused bad

theorem extractVariableString_run (mem : Memory) (data remaining : Nat) (reads : List (Nat × Nat)) :
    ∃ offset after, (extractVariableString mem data 0 remaining []).run reads =
      .ok (offset, stringAt (bytesAt mem data remaining)) after := by
  have front (room : 4 ≤ remaining) :
      (bytesAt mem data remaining).take 4 = bytesAt mem (data + 0) 4 :=
    take_bytesAt room
  by_cases accepted : Accepted mem data 0 remaining
  · have found : stringAt (bytesAt mem data remaining) = stringBytes mem data 0 := by
      obtain ⟨room, fits, limited⟩ := accepted
      have rest : (bytesAt mem data remaining).drop 4 = bytesAt mem (data + 4) (remaining - 4) :=
        drop_bytesAt (by omega)
      unfold prefixAt at fits limited
      unfold stringAt stringBytes prefixAt maxExtracted
      rw [front (by omega), rest, length_bytesAt, if_neg (by omega), take_bytesAt fits]
    obtain ⟨after, run, -⟩ := extractVariableString_of_accepted accepted [] reads
    exact ⟨stringEnd mem data 0, after, by rw [found, run]⟩
  · have none : stringAt (bytesAt mem data remaining) = [] := by
      by_cases short : remaining < 4
      · exact stringAt_of_short (by simpa using short)
      · unfold Accepted prefixAt at accepted
        unfold stringAt maxExtracted
        rw [front (by omega), length_bytesAt, if_pos (by omega)]
    obtain ⟨after, run, -⟩ := extractVariableString_of_not_accepted accepted [] reads
    exact ⟨0, after, by rw [none, run]⟩

end Extraction

section Parsing

variable {mem : Memory} {data length : Nat}

def eventAt (mem : Memory) (ptr : Nat) : SessionEvent where
  correlationId := signed 8 (ofBytes (bytesAt mem ptr 8))
  clusterSessionId := signed 8 (ofBytes (bytesAt mem (ptr + 8) 8))
  leadershipTermId := signed 8 (ofBytes (bytesAt mem (ptr + 16) 8))
  leaderMemberId := signed 4 (ofBytes (bytesAt mem (ptr + 24) 4))
  code := signed 4 (ofBytes (bytesAt mem (ptr + 28) 4))

/-- A frame with the header of a session event is decoded if something follows the block of 32
bytes. -/
theorem decodeSessionEvent_run (here : data ≠ 0) (long : 40 < length)
    (kind : validateHeader (headerAt mem data) SESSION_EVENT_TEMPLATE_ID CLUSTER_SCHEMA_ID = true)
    (reads : List (Nat × Nat)) :
    ∃ after, (decodeSessionEvent mem data length).run reads =
      .ok (some (eventAt mem (data + 8), stringAt (bytesAt mem (data + 40) (length - 40)))) after := by
  have remaining : length - 8 - 32 = length - 40 := by omega
  have more : 0 < length - 40 := by omega
  have log : (readBytes mem data (min length 256)).run reads =
      .ok (bytesAt mem data (min length 256)) ((data, min length 256) :: reads) := rfl
  unfold decodeSessionEvent
  rw [if_neg (by omega), EStateM.run_bind, log]
  dsimp only
  rw [EStateM.run_bind, decodeMessageHeader_run here (by omega)]
  dsimp only
  rw [kind, if_neg (by decide), remaining]
  simp only [if_pos more]
  obtain ⟨offset, after, detail⟩ := extractVariableString_run mem (data + 8 + 32) (length - 40)
    ((data + 8 + 28, 4) :: (data + 8 + 24, 4) :: (data + 8 + 16, 8) ::
      (data + 8 + 8, 8) :: (data + 8, 8) :: (data, 8) :: (data, min length 256) :: reads)
  refine ⟨after, ?_⟩
  change (extractVariableString mem (data + 8 + 32) 0 (length - 40) [] >>= fun found =>
    pure (some (eventAt mem (data + 8), found.2)) : Decode _).run _ = _
  rw [EStateM.run_bind, detail]
  rfl

theorem parsed_sessionEvent (json : Jsoncpp) (here : data ≠ 0) (long : 40 < length)
    (kind : validateHeader (headerAt mem data) SESSION_EVENT_TEMPLATE_ID CLUSTER_SCHEMA_ID = true) :
    parsed json mem data length = some {
      success := true
      messageType := ascii "SessionEvent"
      correlationId := (eventAt mem (data + 8)).correlationId
      sessionId := (eventAt mem (data + 8)).clusterSessionId
      leaderMemberId := (eventAt mem (data + 8)).leaderMemberId
      leadershipTermId := (eventAt mem (data + 8)).leadershipTermId
      eventCode := (eventAt mem (data + 8)).code
      payload := stringAt (bytesAt mem (data + 40) (length - 40))
      timestamp := 0
      templateId := (headerAt mem data).templateId
      schemaId := (headerAt mem data).schemaId
      version := (headerAt mem data).version
      blockLength := (headerAt mem data).blockLength } := by
  obtain ⟨after, decoded⟩ := decodeSessionEvent_run here long kind [(data, 8)]
  have event : (classified (headerAt mem data)).isSessionEvent = true := kind
  refine returned_eq_some.mpr ⟨(data, 8) :: after, ?_⟩
  unfold parseMessage
  rw [if_neg (by omega), EStateM.run_bind, decodeMessageHeader_run here (by omega)]
  change EStateM.run (if (classified (headerAt mem data)).isSessionEvent = true then _ else _) _ = _
  rw [event, if_pos rfl]
  unfold parseSessionEvent
  rw [EStateM.run_bind, decoded]
  rfl

end Parsing

section Events

/-- The parser succeeds and returns the fields of the block and the detail. -/
def AsSent (json : Jsoncpp) (mem : Memory) (data : Nat) (f : SessionEventFrame) : Prop :=
  ∃ r, parsed json mem data f.bytes.length = some r ∧ r.success = true ∧
    r.correlationId = f.field 0 8 ∧ r.sessionId = f.field 8 8 ∧ r.leadershipTermId = f.field 16 8 ∧
    r.leaderMemberId = f.field 24 4 ∧ r.eventCode = f.field 28 4 ∧ r.payload = f.detail

namespace SessionEventFrame

variable {mem : Memory} {data : Nat} {f : SessionEventFrame}

theorem length_bytes : f.bytes.length = 8 + f.block.length + (4 + f.detail.length) := by
  rw [bytes, List.length_append, List.length_append, MessageHeader.length_bytes, length_lengthPrefixed]
  omega

theorem length_behind : f.behind.length = f.block.length - 32 + (4 + f.detail.length) := by
  rw [behind, List.length_append, List.length_drop, length_lengthPrefixed]

theorem kind_of_holds (held : Holds mem data f.bytes) :
    validateHeader (headerAt mem data) SESSION_EVENT_TEMPLATE_ID CLUSTER_SCHEMA_ID = true := by
  rw [headerAt_of_holds (holds_append.mp held).1]
  rfl

theorem block_of_holds (held : Holds mem data f.bytes) : Holds mem (data + 8) f.block := by
  have rest := (holds_append.mp held).2
  rw [MessageHeader.length_bytes] at rest
  exact (holds_append.mp rest).1

theorem field_of_holds (held : Holds mem data f.bytes) {offset width : Nat}
    (inside : offset + width ≤ 32) :
    signed width (ofBytes (bytesAt mem (data + 8 + offset) width)) = f.field offset width := by
  have known := f.known
  rw [field, bytesAt_of_holds (block_of_holds held) (by omega)]

theorem event_of_holds (held : Holds mem data f.bytes) : eventAt mem (data + 8) =
    ⟨f.field 0 8, f.field 8 8, f.field 16 8, f.field 24 4, f.field 28 4⟩ := by
  have first : signed 8 (ofBytes (bytesAt mem (data + 8 + 0) 8)) = f.field 0 8 :=
    field_of_holds held (by decide)
  unfold eventAt
  rw [SessionEvent.mk.injEq]
  exact ⟨first, field_of_holds held (by decide),
    field_of_holds held (by decide), field_of_holds held (by decide),
    field_of_holds held (by decide)⟩

theorem behind_of_holds (held : Holds mem data f.bytes) :
    bytesAt mem (data + 40) (f.bytes.length - 40) = f.behind := by
  have known := f.known
  have size := f.length_bytes
  have short := f.header.length_bytes
  have whole : bytesAt mem data f.bytes.length = f.bytes := held
  rw [← drop_bytesAt (by omega), whole, bytes, behind, List.drop_append, short,
    List.drop_of_length_le (by omega), List.nil_append, List.drop_append_of_le_length known]

end SessionEventFrame

open SessionEventFrame

/-- A session event is parsed as it was sent exactly if its block has the length that is compiled
in, or its detail happens to stand behind that many bytes too, or nothing is found there and the
detail is empty. -/
theorem asSent_iff (json : Jsoncpp) {mem : Memory} {data : Nat} {f : SessionEventFrame}
    (here : data ≠ 0) (held : Holds mem data f.bytes) :
    AsSent json mem data f ↔
      f.block.length = 32 ∨ lengthPrefixed f.detail <+: f.behind ∨
        f.detail = [] ∧ Refused f.behind := by
  have known := f.known
  have size := f.length_bytes
  have room := f.length_behind
  have parse := parsed_sessionEvent json here (show 40 < f.bytes.length by omega)
    (kind_of_holds held)
  have found : AsSent json mem data f ↔ stringAt f.behind = f.detail := by
    rw [behind_of_holds held, event_of_holds held] at parse
    constructor
    · rintro ⟨r, parse', -, -, -, -, -, -, detail⟩
      cases parse.symm.trans parse'
      exact detail
    · intro detail
      exact ⟨_, parse, rfl, rfl, rfl, rfl, rfl, rfl, detail⟩
  rw [found, stringAt_eq_iff f.limited (by omega)]
  constructor
  · exact Or.inr
  · rintro (compiled | stands)
    · have same : f.behind = lengthPrefixed f.detail := by
        rw [behind, List.drop_of_length_le (by omega), List.nil_append]
      exact Or.inl (same ▸ List.prefix_rfl)
    · exact stands

section Sample

/-- A block of 40 bytes, as a newer schema may send it; the last eight are zeros. -/
def longerBlock : SessionEventFrame where
  version := 9
  block := toBytes 8 5 ++ toBytes 8 7 ++ toBytes 8 3 ++ toBytes 4 1 ++ toBytes 4 0 ++ toBytes 8 0
  detail := ascii "ok"
  known := by decide
  announced := by decide
  limited := by decide

def knownBlock : SessionEventFrame where
  version := 8
  block := toBytes 8 5 ++ toBytes 8 7 ++ toBytes 8 3 ++ toBytes 4 1 ++ toBytes 4 0
  detail := ascii "ok"
  known := by decide
  announced := by decide
  limited := by decide

theorem asSent_iff_sample :
    AsSent Json.plainJson (memoryOf 4096 knownBlock.bytes) 4096 knownBlock ↔
      knownBlock.block.length = 32 ∨ lengthPrefixed knownBlock.detail <+: knownBlock.behind ∨
        knownBlock.detail = [] ∧ Refused knownBlock.behind :=
  asSent_iff Json.plainJson (by decide) (holds_memoryOf 4096 _)

theorem appended_fields_hide_detail :
    ¬ ∀ (json : Jsoncpp) (mem : Memory) (data : Nat) (f : SessionEventFrame), data ≠ 0 →
      Holds mem data f.bytes → AsSent json mem data f := by
  intro claim
  obtain ⟨r, parse, -, -, -, -, -, -, detail⟩ := claim Json.plainJson
    (memoryOf 4096 longerBlock.bytes) 4096 longerBlock (by decide) (holds_memoryOf 4096 _)
  have hidden : (parsed Json.plainJson (memoryOf 4096 longerBlock.bytes) 4096
      longerBlock.bytes.length).map ParseResult.payload = some [] := by
    decide +kernel
  rw [parse] at hidden
  cases hidden.symm.trans (congrArg some detail)

end Sample

end Events

end AeronClusterClient.Sbe.SessionEventBlock
