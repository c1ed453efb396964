/- module: AeronClusterClient/Sbe/GeneratedCodec
   source: include/model/TopicMessage.h, include/model/MessageHeader.h
   digest: The generated flyweights: positions, fixed fields and variable-length data. -/

import AeronClusterClient.Lib.Action
import AeronClusterClient.Lib.Bytes
import AeronClusterClient.Lib.LittleEndian
import AeronClusterClient.Text

/-!
A flyweight lies over a byte buffer and carries a position that every access
to a variable-length field moves. Positions stay below `2 ^ 20`, so the 64-bit
additions of the source never wrap around and are additions of natural numbers
here. Reading is done from a flat memory and records each range it reads;
writing is done into a buffer.
-/

set_option autoImplicit false
set_option relaxedAutoImplicit false

namespace AeronClusterClient.Sbe.GeneratedCodec

open Lib.Action Lib.Bytes Lib.LittleEndian
open Text (StdString ascii)

/-- The packed struct `MessageHeader` of sbe_messages.hpp, also the generated `sbe::MessageHeader`. -/
structure MessageHeader where
  blockLength : Nat
  templateId : Nat
  schemaId : Nat
  version : Nat
  deriving DecidableEq, Repr

def MessageHeader.bytes (header : MessageHeader) : List UInt8 :=
  toBytes 2 header.blockLength ++ toBytes 2 header.templateId ++
    toBytes 2 header.schemaId ++ toBytes 2 header.version

def MessageHeader.ofBytes (bytes : List UInt8) : MessageHeader where
  blockLength := Lib.LittleEndian.ofBytes (bytes.take 2)
  templateId := Lib.LittleEndian.ofBytes ((bytes.drop 2).take 2)
  schemaId := Lib.LittleEndian.ofBytes ((bytes.drop 4).take 2)
  version := Lib.LittleEndian.ofBytes (bytes.drop 6)

@[simp] theorem MessageHeader.length_bytes (header : MessageHeader) : header.bytes.length = 8 := by
  simp [MessageHeader.bytes]

theorem MessageHeader.ofBytes_bytes {header : MessageHeader}
    (blockLength : header.blockLength < 65536) (templateId : header.templateId < 65536)
    (schemaId : header.schemaId < 65536) (version : header.version < 65536) :
    MessageHeader.ofBytes header.bytes = header := by
  have past (n k : Nat) (beyond : 2 ≤ k) : (toBytes 2 n).drop k = [] :=
    List.drop_eq_nil_of_le (by simpa using beyond)
  simp [MessageHeader.ofBytes, MessageHeader.bytes, List.drop_append,
    past, ofBytes_toBytes_of_lt, blockLength, templateId, schemaId, version]

/-- The position state of a generated message class. -/
structure Flyweight where
  mBufferLength : Nat := 0
  mOffset : Nat := 0
  mPosition : Nat := 0
  mActingBlockLength : Nat := 0
  mActingVersion : Nat := 0
  deriving DecidableEq, Repr

namespace Flyweight

def sbeCheckPosition (fly : Flyweight) (position : Nat) : Except StdString Nat :=
  if fly.mBufferLength < position then .error (ascii "buffer too short [E100]") else .ok position

def sbePosition (fly : Flyweight) (position : Nat) : Except StdString Flyweight := do
  return { fly with mPosition := ← fly.sbeCheckPosition position }

def encodedLength (fly : Flyweight) : Nat := fly.mPosition - fly.mOffset

theorem sbePosition_eq_ok {fly moved : Flyweight} {position : Nat} :
    fly.sbePosition position = .ok moved ↔
      position ≤ fly.mBufferLength ∧ moved = { fly with mPosition := position } := by
  unfold sbePosition sbeCheckPosition
  by_cases short : fly.mBufferLength < position
  · rw [if_pos short]
    constructor
    · rintro ⟨⟩
    · exact fun h => absurd h.1 (Nat.not_le.mpr short)
  · rw [if_neg short]
    constructor
    · rintro ⟨⟩
      exact ⟨Nat.not_lt.mp short, rfl⟩
    · rintro ⟨-, rfl⟩
      rfl

theorem sbePosition_eq_error {fly : Flyweight} {position : Nat}
    (beyond : ¬ position ≤ fly.mBufferLength) :
    fly.sbePosition position = .error (ascii "buffer too short [E100]") := by
  unfold sbePosition sbeCheckPosition
  rw [if_pos (Nat.not_le.mp beyond)]
  rfl

end Flyweight

/-- The wire form of a variable-length field: a 16-bit length and the bytes. -/
def varData (s : StdString) : List UInt8 := toBytes 2 s.length ++ s

@[simp] theorem length_varData (s : StdString) : (varData s).length = 2 + s.length := by
  simp [varData]

section Held

variable {mem : Memory} {addr w n : Nat} {s : StdString}

theorem ofBytes_of_holds (held : Holds mem addr (toBytes w n)) :
    ofBytes (bytesAt mem addr w) = n % 256 ^ w := by
  rw [Holds, length_toBytes] at held
  rw [held, ofBytes_toBytes]

theorem ofBytes_of_holds_lt (held : Holds mem addr (toBytes w n)) (fits : n < 256 ^ w) :
    ofBytes (bytesAt mem addr w) = n := by
  rw [ofBytes_of_holds held, Nat.mod_eq_of_lt fits]

theorem holds_varData (short : s.length < 65536) (held : Holds mem addr (varData s)) :
    ofBytes (bytesAt mem addr 2) = s.length ∧ bytesAt mem (addr + 2) s.length = s := by
  obtain ⟨heldLength, heldData⟩ := holds_append.mp held
  rw [length_toBytes] at heldData
  exact ⟨ofBytes_of_holds_lt heldLength short, heldData⟩

theorem holds_message {header : MessageHeader} {block rest : List UInt8}
    (held : Holds mem addr (header.bytes ++ block ++ rest)) :
    Holds mem addr header.bytes ∧ Holds mem (addr + 8) block ∧
      Holds mem (addr + (8 + block.length)) rest := by
  obtain ⟨front, behind⟩ := holds_append.mp held
  obtain ⟨front, fixed⟩ := holds_append.mp front
  rw [List.length_append, MessageHeader.length_bytes] at behind
  rw [MessageHeader.length_bytes] at fixed
  exact ⟨front, fixed, behind⟩

end Held

section Reading

/-- A decoder: it reads memory, records each range read, and may throw. -/
abbrev Decode := EStateM StdString (List (Nat × Nat))

variable (mem : Memory)

def readBytes (addr n : Nat) : Decode (List UInt8) := do
  modify (fun reads => (addr, n) :: reads)
  return bytesAt mem addr n

def readUInt (addr width : Nat) : Decode Nat := do
  return ofBytes (← readBytes mem addr width)

def readInt (addr width : Nat) : Decode Int := do
  return signed width (← readUInt mem addr width)

variable (mBuffer : Nat)

/-- `wrapForDecode` with the buffer at `mBuffer`. -/
def wrapForDecode (offset actingBlockLength actingVersion bufferLength : Nat) :
    Except StdString Flyweight :=
  let fly : Flyweight :=
    { mBufferLength := bufferLength
      mOffset := offset
      mActingBlockLength := actingBlockLength
      mActingVersion := actingVersion }
  fly.sbePosition (offset + actingBlockLength)

def timestamp (fly : Flyweight) : Decode Nat := readUInt mem (mBuffer + fly.mOffset + 0) 8

def sequenceNumber (fly : Flyweight) : Decode Nat := readUInt mem (mBuffer + fly.mOffset + 8) 8

/-- The body shared by the generated `get…AsString` members. The data is copied
before its end is checked against the buffer. -/
def getVarDataAsString (fly : Flyweight) : Decode (StdString × Flyweight) := do
  let lengthPosition := fly.mPosition
  let fly ← ofExcept (fly.sbePosition (lengthPosition + 2))
  let dataLength ← readUInt mem (mBuffer + lengthPosition) 2
  let pos := fly.mPosition
  let result ← readBytes mem (mBuffer + pos) dataLength
  let fly ← ofExcept (fly.sbePosition (pos + dataLength))
  return (result, fly)

def getTopicAsString := getVarDataAsString mem mBuffer
def getMessageTypeAsString := getVarDataAsString mem mBuffer
def getUuidAsString := getVarDataAsString mem mBuffer
def getPayloadAsString := getVarDataAsString mem mBuffer
def getHeadersAsString := getVarDataAsString mem mBuffer

/-- The body shared by the generated `…Length` members: the length prefix, wherever it lies. -/
def varDataLength (fly : Flyweight) : Decode Nat := readUInt mem (mBuffer + fly.mPosition) 2

def topicLength := varDataLength mem mBuffer
def messageTypeLength := varDataLength mem mBuffer
def uuidLength := varDataLength mem mBuffer
def payloadLength := varDataLength mem mBuffer
def headersLength := varDataLength mem mBuffer

/-- The body shared by the generated `get…` members that copy into a given array: the bytes that
are copied. Here the end is checked first. -/
def getVarData (fly : Flyweight) (length : Nat) : Decode (List UInt8 × Flyweight) := do
  let lengthPosition := fly.mPosition
  let fly ← ofExcept (fly.sbePosition (lengthPosition + 2))
  let dataLength ← readUInt mem (mBuffer + lengthPosition) 2
  let bytesToCopy := if length < dataLength then length else dataLength
  let pos := fly.mPosition
  let fly ← ofExcept (fly.sbePosition (pos + dataLength))
  return (← readBytes mem (mBuffer + pos) bytesToCopy, fly)

def getTopic := getVarData mem mBuffer
def getMessageType := getVarData mem mBuffer
def getUuid := getVarData mem mBuffer
def getPayload := getVarData mem mBuffer
def getHeaders := getVarData mem mBuffer

variable {mem mBuffer} {fly : Flyweight} {reads : List (Nat × Nat)}

/-- A read of variable-length data: the length prefix if it is inside the buffer, then the data,
and only then the check of its end. -/
theorem getVarDataAsString_run {n : Nat}
    (length : ofBytes (bytesAt mem (mBuffer + fly.mPosition) 2) = n) :
    (getVarDataAsString mem mBuffer fly).run reads =
      if fly.mPosition + 2 ≤ fly.mBufferLength then
        if fly.mPosition + 2 + n ≤ fly.mBufferLength then
          .ok (bytesAt mem (mBuffer + (fly.mPosition + 2)) n,
              { fly with mPosition := fly.mPosition + 2 + n })
            ((mBuffer + (fly.mPosition + 2), n) :: (mBuffer + fly.mPosition, 2) :: reads)
        else
          .error (ascii "buffer too short [E100]")
            ((mBuffer + (fly.mPosition + 2), n) :: (mBuffer + fly.mPosition, 2) :: reads)
      else .error (ascii "buffer too short [E100]") reads := by
  subst length
  unfold getVarDataAsString
  dsimp only
  have ends {position : Nat} (beyond : position ≤ fly.mBufferLength) :
      Flyweight.sbePosition { fly with mPosition := fly.mPosition + 2 } position =
        .ok { fly with mPosition := position } :=
    Flyweight.sbePosition_eq_ok.mpr ⟨beyond, rfl⟩
  by_cases begins : fly.mPosition + 2 ≤ fly.mBufferLength
  · have moved := Flyweight.sbePosition_eq_ok.mpr ⟨begins, rfl⟩
    rw [if_pos begins, moved]
    change (ofExcept (Flyweight.sbePosition { fly with mPosition := fly.mPosition + 2 }
      (fly.mPosition + 2 + ofBytes (bytesAt mem (mBuffer + fly.mPosition) 2))) >>= _ : Decode _).run
        (_ :: _ :: reads) = _
    split
    · rename_i fits
      rw [ends fits]
      rfl
    · rename_i crosses
      have refused : Flyweight.sbePosition { fly with mPosition := fly.mPosition + 2 }
          (fly.mPosition + 2 + ofBytes (bytesAt mem (mBuffer + fly.mPosition) 2)) =
            .error (ascii "buffer too short [E100]") :=
        Flyweight.sbePosition_eq_error crosses
      rw [refused]
      rfl
  · rw [if_neg begins, Flyweight.sbePosition_eq_error begins]
    rfl

theorem getVarData_run {n : Nat}
    (length : ofBytes (bytesAt mem (mBuffer + fly.mPosition) 2) = n) :
    (getVarData mem mBuffer fly n).run reads =
      if fly.mPosition + 2 ≤ fly.mBufferLength then
        if fly.mPosition + 2 + n ≤ fly.mBufferLength then
          .ok (bytesAt mem (mBuffer + (fly.mPosition + 2)) n,
              { fly with mPosition := fly.mPosition + 2 + n })
            ((mBuffer + (fly.mPosition + 2), n) :: (mBuffer + fly.mPosition, 2) :: reads)
        else .error (ascii "buffer too short [E100]") ((mBuffer + fly.mPosition, 2) :: reads)
      else .error (ascii "buffer too short [E100]") reads := by
  subst length
  unfold getVarData
  dsimp only
  by_cases begins : fly.mPosition + 2 ≤ fly.mBufferLength
  · have moved := Flyweight.sbePosition_eq_ok.mpr ⟨begins, rfl⟩
    rw [if_pos begins, moved]
    let behind : Flyweight := { fly with mPosition := fly.mPosition + 2 }
    let dataLength := ofBytes (bytesAt mem (mBuffer + fly.mPosition) 2)
    change (ofExcept (behind.sbePosition (fly.mPosition + 2 + dataLength)) >>= _ : Decode _).run
      (_ :: reads) = _
    rw [ite_self]
    by_cases fits : fly.mPosition + 2 + dataLength ≤ fly.mBufferLength
    · have ends : behind.sbePosition (fly.mPosition + 2 + dataLength) =
          .ok { fly with mPosition := fly.mPosition + 2 + dataLength } :=
        Flyweight.sbePosition_eq_ok.mpr ⟨fits, rfl⟩
      rw [ends, if_pos fits]
      rfl
    · have refused : behind.sbePosition (fly.mPosition + 2 + dataLength) =
          .error (ascii "buffer too short [E100]") :=
        Flyweight.sbePosition_eq_error fits
      rw [refused, if_neg fits]
      rfl
  · rw [if_neg begins, Flyweight.sbePosition_eq_error begins]
    rfl

/-- A read of variable-length data that returns has stayed inside the buffer,
and its value and the new position follow from the length in memory. -/
theorem getVarDataAsString_eq_ok {result : StdString × Flyweight} {after : List (Nat × Nat)}
    (run : (getVarDataAsString mem mBuffer fly).run reads = .ok result after) {n : Nat}
    (length : ofBytes (bytesAt mem (mBuffer + fly.mPosition) 2) = n) :
    result = (bytesAt mem (mBuffer + (fly.mPosition + 2)) n,
        { fly with mPosition := fly.mPosition + 2 + n }) ∧
      fly.mPosition + 2 + n ≤ fly.mBufferLength := by
  rw [getVarDataAsString_run length] at run
  split at run
  · split at run
    · rename_i ends
      cases run
      exact ⟨rfl, ends⟩
    · cases run
  · cases run

theorem returned_getVarDataAsString {s : StdString} (short : s.length < 65536)
    (held : Holds mem (mBuffer + fly.mPosition) (varData s))
    (inside : fly.mPosition + (varData s).length ≤ fly.mBufferLength) :
    returned (getVarDataAsString mem mBuffer fly) reads =
      some (s, { fly with mPosition := fly.mPosition + (varData s).length }) := by
  obtain ⟨length, bytes⟩ := holds_varData short held
  rw [Nat.add_assoc] at bytes
  rw [length_varData, ← Nat.add_assoc] at inside ⊢
  have begins : fly.mPosition + 2 ≤ fly.mBufferLength := by omega
  refine returned_eq_some.mpr ⟨(mBuffer + (fly.mPosition + 2), s.length) ::
    (mBuffer + fly.mPosition, 2) :: reads, ?_⟩
  rw [getVarDataAsString_run length, if_pos begins, if_pos inside, bytes]

theorem getVarDataAsString_of_holds {s : StdString} {result : StdString × Flyweight}
    {after : List (Nat × Nat)} (short : s.length < 65536)
    (held : Holds mem (mBuffer + fly.mPosition) (varData s))
    (run : (getVarDataAsString mem mBuffer fly).run reads = .ok result after) :
    result = (s, { fly with mPosition := fly.mPosition + (varData s).length }) ∧
      fly.mPosition + (varData s).length ≤ fly.mBufferLength := by
  obtain ⟨length, bytes⟩ := holds_varData short held
  have spec := getVarDataAsString_eq_ok run length
  rw [← Nat.add_assoc, bytes] at spec
  rw [length_varData, ← Nat.add_assoc]
  exact spec

/-- In a truncated frame a read that returns still gives the field that was written:
a field that crosses the cut is refused. -/
theorem getVarDataAsString_of_take {before after : List UInt8} {s : StdString}
    {result : StdString × Flyweight} {log : List (Nat × Nat)} (short : s.length < 65536)
    (held : Holds mem mBuffer ((before ++ varData s ++ after).take fly.mBufferLength))
    (here : fly.mPosition = before.length)
    (run : (getVarDataAsString mem mBuffer fly).run reads = .ok result log) :
    result = (s, { fly with mPosition := before.length + (varData s).length }) ∧
      before.length + (varData s).length ≤ fly.mBufferLength := by
  have bound := (getVarDataAsString_eq_ok run rfl).2
  rw [here] at bound
  have heldLength : Holds mem (mBuffer + before.length) (toBytes 2 s.length) := by
    have parts : Holds mem mBuffer
        ((before ++ toBytes 2 s.length ++ (s ++ after)).take fly.mBufferLength) := by
      simpa [varData, List.append_assoc] using held
    exact holds_of_take parts (by rw [length_toBytes]; omega)
  rw [ofBytes_of_holds_lt heldLength short] at bound
  have heldField := holds_of_take held (by rw [length_varData]; omega)
  rw [← here] at heldField ⊢
  exact getVarDataAsString_of_holds short heldField run

end Reading

section Writing

/-- A message under construction: the bytes and the flyweight over them. -/
structure Encoding where
  buffer : List UInt8
  fly : Flyweight := {}
  deriving DecidableEq, Repr

abbrev Encode := EStateM StdString Encoding

def write (pos : Nat) (bytes : List UInt8) : Encode Unit :=
  modify (fun e => { e with buffer := overwrite e.buffer pos bytes })

def moveTo (position : Nat) : Encode Unit := do
  let e ← get
  let fly ← ofExcept (e.fly.sbePosition position)
  set { e with fly := fly }

/-- `wrapAndApplyHeader` of a message class with the given header constants. -/
def wrapAndApplyHeader (header : MessageHeader) (offset bufferLength : Nat) : Encode Unit := do
  if bufferLength < offset + 8 then
    throw (ascii "buffer too short for flyweight [E107]")
  write offset (toBytes 2 header.blockLength)
  write (offset + 2) (toBytes 2 header.templateId)
  write (offset + 4) (toBytes 2 header.schemaId)
  write (offset + 6) (toBytes 2 header.version)
  modify (fun e => { e with fly :=
    { mBufferLength := bufferLength
      mOffset := offset + 8
      mPosition := e.fly.mPosition
      mActingBlockLength := header.blockLength
      mActingVersion := header.version } })
  moveTo (offset + 8 + header.blockLength)

def putTimestamp (value : Nat) : Encode Unit := do
  write ((← get).fly.mOffset + 0) (toBytes 8 value)

def putSequenceNumber (value : Nat) : Encode Unit := do
  write ((← get).fly.mOffset + 8) (toBytes 8 value)

/-- The body shared by the generated `put…` members that take a `std::string`. -/
def putVarData (str : StdString) : Encode Unit := do
  if 65534 < str.length then
    throw (ascii "std::string too long for length type [E109]")
  let lengthPosition := (← get).fly.mPosition
  moveTo (lengthPosition + 2)
  write lengthPosition (toBytes 2 str.length)
  if str.length ≠ 0 then
    let pos := (← get).fly.mPosition
    moveTo (pos + str.length)
    write pos str

def putTopic := putVarData
def putMessageType := putVarData
def putUuid := putVarData
def putPayload := putVarData
def putHeaders := putVarData

/-- A buffer written up to its position and zero beyond it. -/
def Encoding.written (bytes : List UInt8) (room : Nat) (fly : Flyweight) : Encoding :=
  { buffer := bytes ++ List.replicate room 0
    fly := { fly with mPosition := bytes.length } }

theorem moveTo_of_le {e : Encoding} {position : Nat} (room : position ≤ e.fly.mBufferLength) :
    (moveTo position).run e =
      .ok () { e with fly := { e.fly with mPosition := position } } := by
  have moved := Flyweight.sbePosition_eq_ok.mpr ⟨room, rfl⟩
  unfold moveTo
  change (ofExcept (e.fly.sbePosition position) >>= _ : Encode Unit).run e = _
  rw [moved]
  rfl

theorem moveTo_of_not_le {e : Encoding} {position : Nat}
    (beyond : ¬ position ≤ e.fly.mBufferLength) :
    (moveTo position).run e = .error (ascii "buffer too short [E100]") e := by
  unfold moveTo
  change (ofExcept (e.fly.sbePosition position) >>= _ : Encode Unit).run e = _
  rw [Flyweight.sbePosition_eq_error beyond]
  rfl

theorem write_zeros {bytes data : List UInt8} {pos room : Nat} {fly : Flyweight}
    (frontier : pos = bytes.length) :
    (write pos data).run { buffer := bytes ++ List.replicate room 0, fly := fly } =
      .ok () { buffer := bytes ++ data ++ List.replicate (room - data.length) 0, fly := fly } := by
  rw [← overwrite_zeros frontier]
  rfl

/-- Wrapping a zeroed buffer writes the header and moves past the fixed block. -/
theorem wrapAndApplyHeader_zeros {header : MessageHeader} {room : Nat} {fly : Flyweight}
    (fits : header.blockLength ≤ room) :
    (wrapAndApplyHeader header 0 (8 + room)).run
        { buffer := List.replicate (8 + room) 0, fly := fly } =
      .ok () {
        buffer := header.bytes ++ List.replicate room 0
        fly :=
          { mBufferLength := 8 + room
            mOffset := 8
            mPosition := 8 + header.blockLength
            mActingBlockLength := header.blockLength
            mActingVersion := header.version } } := by
  unfold wrapAndApplyHeader
  rw [if_neg (by omega)]
  simp only [EStateM.run_bind]
  rw [← List.nil_append (List.replicate (8 + room) 0), write_zeros (by simp)]
  simp only
  rw [write_zeros (by simp)]
  simp only
  rw [write_zeros (by simp)]
  simp only
  rw [write_zeros (by simp)]
  simp only [EStateM.run_modify]
  rw [moveTo_of_le (by simp only; omega)]
  have rest : 8 + room - 2 - 2 - 2 - 2 = room := by omega
  simp [MessageHeader.bytes, rest]

/-- Writing one more field extends the written part by its wire form. -/
theorem putVarData_written {bytes : List UInt8} {room : Nat} {fly : Flyweight} {str : StdString}
    (short : str.length ≤ 65534) (fits : 2 + str.length ≤ room)
    (size : fly.mBufferLength = bytes.length + room) :
    (putVarData str).run (.written bytes room fly) =
      .ok () (.written (bytes ++ varData str) (room - (2 + str.length)) fly) := by
  unfold putVarData Encoding.written
  rw [if_neg (Nat.not_lt.mpr short)]
  simp only [EStateM.run_bind, EStateM.run_get]
  rw [moveTo_of_le (by simp only; omega)]
  simp only
  rw [write_zeros rfl]
  simp only
  by_cases empty : str.length = 0
  · rw [if_neg (not_not.mpr empty)]
    simp [varData, List.length_eq_zero_iff.mp empty]
  · rw [if_pos empty]
    simp only [EStateM.run_bind, EStateM.run_get]
    rw [moveTo_of_le (by simp only; omega)]
    simp only
    rw [write_zeros (by simp)]
    simp [varData, Nat.sub_sub, Nat.add_assoc]

end Writing

end AeronClusterClient.Sbe.GeneratedCodec
