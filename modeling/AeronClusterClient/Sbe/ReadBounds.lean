/- module: AeronClusterClient/Sbe/ReadBounds
   source: src/sbe_encoder.cpp (MessageParser, SBEDecoder), include/model/TopicMessage.h
   digest: Exactly which frames are parsed without a read past their end and refused when they are cut. -/

import AeronClusterClient.Sbe.Parser

/-!
Every decoder but one checks the length before it reads. The flyweight of a topic
message reads its fixed block without a check, and copies the data of a field
before it looks where the field ends. Which frames are accepted is another matter:
an acknowledgment is searched for readable text, and a detail or headers that do
not fit are left out.
-/

set_option autoImplicit false
set_option relaxedAutoImplicit false

namespace AeronClusterClient.Sbe.ReadBounds

open Lib.Action Lib.Bytes Lib.LittleEndian Sbe.GeneratedCodec Sbe.Encoder Sbe.Parser
open Text (StdString)
open Json (Jsoncpp)

variable {json : Jsoncpp} {mem : Memory} {lo hi : Nat} {α β : Type}

section Reads

/-- Every byte of the range lies between the two addresses. -/
def Inside (lo hi : Nat) (range : Nat × Nat) : Prop :=
  ∀ i < range.2, lo ≤ range.1 + i ∧ range.1 + i < hi

def AllInside (lo hi : Nat) (reads : List (Nat × Nat)) : Prop := ∀ range ∈ reads, Inside lo hi range

theorem inside_iff {addr size : Nat} (above : lo ≤ addr) :
    Inside lo hi (addr, size) ↔ size = 0 ∨ addr + size ≤ hi := by
  constructor
  · intro inside
    by_cases empty : size = 0
    · exact Or.inl empty
    · have last : addr + (size - 1) < hi := (inside (size - 1) (by dsimp only; omega)).2
      omega
  · intro fits i below
    dsimp only at below ⊢
    omega

theorem inside_of_le {addr size : Nat} (above : lo ≤ addr) (below : addr + size ≤ hi) :
    Inside lo hi (addr, size) :=
  (inside_iff above).mpr (Or.inr below)

theorem allInside_cons {range : Nat × Nat} {reads : List (Nat × Nat)} :
    AllInside lo hi (range :: reads) ↔ AllInside lo hi reads ∧ Inside lo hi range := by
  unfold AllInside
  rw [List.forall_mem_cons, and_comm]

def Stays (lo hi : Nat) (reads after : List (Nat × Nat)) : Prop :=
  AllInside lo hi after ↔ AllInside lo hi reads

instance : IsPreorder (List (Nat × Nat)) (Stays lo hi) where
  refl _ := Iff.rfl
  trans _ _ _ first rest := rest.trans first

theorem stays_cons {range : Nat × Nat} {reads : List (Nat × Nat)} (inside : Inside lo hi range) :
    Stays lo hi reads (range :: reads) :=
  allInside_cons.trans (and_iff_left inside)

theorem within_readBytes {addr size : Nat} (inside : Inside lo hi (addr, size)) :
    Within (Stays lo hi) (readBytes mem addr size) :=
  fun _ => stays_cons inside

theorem within_readUInt {addr width : Nat} (inside : Inside lo hi (addr, width)) :
    Within (Stays lo hi) (readUInt mem addr width) :=
  fun _ => stays_cons inside

theorem within_readInt {addr width : Nat} (inside : Inside lo hi (addr, width)) :
    Within (Stays lo hi) (readInt mem addr width) :=
  fun _ => stays_cons inside

/-- Whatever has been read before, the reads of the computation are inside exactly under the
condition. -/
def InsideIff (lo hi : Nat) (x : Decode α) (condition : Prop) : Prop :=
  ∀ reads, AllInside lo hi (finalState x reads) ↔ AllInside lo hi reads ∧ condition

theorem insideIff_of_within {x : Decode α} {condition : Prop} (within : Within (Stays lo hi) x)
    (holds : condition) : InsideIff lo hi x condition :=
  fun reads => (within reads).trans (and_iff_left holds).symm

theorem insideIff_congr {x : Decode α} {condition condition' : Prop}
    (inside : InsideIff lo hi x condition) (same : condition ↔ condition') :
    InsideIff lo hi x condition' := by
  rwa [same] at inside

theorem insideIff_readUInt_bind {addr width : Nat} {f : Nat → Decode α} {condition : Prop}
    (rest : InsideIff lo hi (f (ofBytes (bytesAt mem addr width))) condition) :
    InsideIff lo hi (readUInt mem addr width >>= f) (Inside lo hi (addr, width) ∧ condition) := by
  intro reads
  have read : (readUInt mem addr width).run reads =
      .ok (ofBytes (bytesAt mem addr width)) ((addr, width) :: reads) := rfl
  rw [finalState_bind_of_ok read, rest, allInside_cons, and_assoc]

theorem insideIff_bind_of_run {x : Decode α} {f : α → Decode β} {a : α} {condition : Prop}
    (run : ∀ reads, ∃ after, x.run reads = .ok a after) (within : Within (Stays lo hi) x)
    (rest : InsideIff lo hi (f a) condition) : InsideIff lo hi (x >>= f) condition := by
  intro reads
  obtain ⟨after, returns⟩ := run reads
  have stays : AllInside lo hi after ↔ AllInside lo hi reads := within.of_ok returns
  rw [finalState_bind_of_ok returns, rest after, stays]

theorem insideIff_bind_of_error {x : Decode α} {f : α → Decode β} {what : StdString}
    {condition : Prop} (run : ∀ reads, ∃ after, x.run reads = .error what after)
    (within : Within (Stays lo hi) x) (holds : condition) : InsideIff lo hi (x >>= f) condition := by
  intro reads
  obtain ⟨after, throws⟩ := run reads
  have stays : AllInside lo hi after ↔ AllInside lo hi reads := within.of_error throws
  rw [finalState_bind_of_error throws, stays]
  exact (and_iff_left holds).symm

theorem insideIff_tryCatch_pure {x : Decode α} {handler : StdString → α} {condition : Prop}
    (inside : InsideIff lo hi x condition) :
    InsideIff lo hi (tryCatch x fun what => pure (handler what)) condition := by
  intro reads
  rw [finalState_tryCatch_pure]
  exact inside reads

theorem insideIff_map_pure {x : Decode α} {f : α → β} {condition : Prop}
    (inside : InsideIff lo hi x condition) : InsideIff lo hi (x >>= fun a => pure (f a)) condition := by
  intro reads
  rw [finalState_bind_pure]
  exact inside reads

end Reads

section Fields

variable {data : Nat}

def lengthAt (mem : Memory) (data position : Nat) : Nat := ofBytes (bytesAt mem (data + position) 2)

def fieldEnd (mem : Memory) (data position : Nat) : Nat :=
  position + 2 + lengthAt mem data position

/-- Of `count` fields from a position on, each of which the buffer length lets the flyweight
begin ends inside the frame; after the last one that it lets end, `next` holds. -/
def FieldsInside (mem : Memory) (data length bufferLength : Nat) (next : Nat → Prop) :
    Nat → Nat → Prop
  | 0, position => next position
  | count + 1, position =>
      position + 2 ≤ bufferLength → fieldEnd mem data position ≤ length ∧
        (fieldEnd mem data position ≤ bufferLength →
          FieldsInside mem data length bufferLength next count (fieldEnd mem data position))

theorem field_run (mem : Memory) (data : Nat) (fly : Flyweight) (reads : List (Nat × Nat)) :
    (getVarDataAsString mem data fly).run reads =
      if fly.mPosition + 2 ≤ fly.mBufferLength then
        if fieldEnd mem data fly.mPosition ≤ fly.mBufferLength then
          .ok (bytesAt mem (data + (fly.mPosition + 2)) (lengthAt mem data fly.mPosition),
              { fly with mPosition := fieldEnd mem data fly.mPosition })
            ((data + (fly.mPosition + 2), lengthAt mem data fly.mPosition) ::
              (data + fly.mPosition, 2) :: reads)
        else
          .error (Text.ascii "buffer too short [E100]")
            ((data + (fly.mPosition + 2), lengthAt mem data fly.mPosition) ::
              (data + fly.mPosition, 2) :: reads)
      else .error (Text.ascii "buffer too short [E100]") reads :=
  getVarDataAsString_run rfl

theorem insideIff_getVarData_bind {fly : Flyweight} {f : StdString × Flyweight → Decode α}
    {condition : Prop} (above : lo ≤ data)
    (rest : fieldEnd mem data fly.mPosition ≤ fly.mBufferLength →
      InsideIff lo hi (f (bytesAt mem (data + (fly.mPosition + 2)) (lengthAt mem data fly.mPosition),
        { fly with mPosition := fieldEnd mem data fly.mPosition })) condition) :
    InsideIff lo hi (getVarDataAsString mem data fly >>= f)
      (fly.mPosition + 2 ≤ fly.mBufferLength → data + fieldEnd mem data fly.mPosition ≤ hi ∧
        (fieldEnd mem data fly.mPosition ≤ fly.mBufferLength → condition)) := by
  intro reads
  have run := field_run mem data fly reads
  by_cases begins : fly.mPosition + 2 ≤ fly.mBufferLength
  · rw [if_pos begins] at run
    have ranges : AllInside lo hi ((data + (fly.mPosition + 2), lengthAt mem data fly.mPosition) ::
        (data + fly.mPosition, 2) :: reads) ↔
          AllInside lo hi reads ∧ data + fieldEnd mem data fly.mPosition ≤ hi := by
      rw [allInside_cons, allInside_cons, inside_iff (by omega), inside_iff (by omega), and_assoc]
      unfold fieldEnd
      refine and_congr_right fun _ => ?_
      omega
    by_cases ends : fieldEnd mem data fly.mPosition ≤ fly.mBufferLength
    · rw [if_pos ends] at run
      rw [finalState_bind_of_ok run, rest ends, ranges, and_assoc]
      simp only [begins, ends, forall_const]
    · rw [if_neg ends] at run
      rw [finalState_bind_of_error run, ranges]
      simp only [begins, ends, forall_const, false_implies, and_true]
  · rw [if_neg begins] at run
    rw [finalState_bind_of_error run]
    simp only [begins, false_implies, and_true]

theorem insideIff_field {fly : Flyweight} {f : StdString × Flyweight → Decode α}
    {length bufferLength position count : Nat} {next : Nat → Prop} (above : lo ≤ data)
    (size : fly.mBufferLength = bufferLength) (here : fly.mPosition = position)
    (rest : ∀ s moved, moved.mBufferLength = bufferLength → moved.mOffset = fly.mOffset →
      moved.mPosition = fieldEnd mem data position → InsideIff lo (data + length) (f (s, moved))
        (FieldsInside mem data length bufferLength next count (fieldEnd mem data position))) :
    InsideIff lo (data + length) (getVarDataAsString mem data fly >>= f)
      (FieldsInside mem data length bufferLength next (count + 1) position) := by
  subst size here
  refine insideIff_congr (insideIff_getVarData_bind above fun _ => rest _ _ rfl rfl rfl) ?_
  rw [FieldsInside, Nat.add_le_add_iff_left]

/-- The flyweight's frame of a length: the timestamp, four fields, then the sequence number and
the headers field, as far as they are read. -/
def TopicInside (mem : Memory) (data length : Nat) : Prop :=
  let bufferLength := intBufferLength length
  let block := 8 + (headerAt mem data).blockLength
  block ≤ bufferLength → 16 ≤ length ∧
    FieldsInside mem data length bufferLength
      (fun position => 24 ≤ length ∧
        FieldsInside mem data length bufferLength (fun _ => True) 1 position) 4 block

theorem inside_fixed {fly : Flyweight} {length : Nat} (above : lo ≤ data) (offset : fly.mOffset = 8)
    (n : Nat) : Inside lo (data + length) (data + fly.mOffset + n, 8) ↔ 16 + n ≤ length := by
  rw [inside_iff (by omega), offset]
  omega

theorem insideIff_readTopicFields {header : MessageHeader} {fly : Flyweight}
    {length bufferLength position : Nat} (above : lo ≤ data) (offset : fly.mOffset = 8)
    (size : fly.mBufferLength = bufferLength) (here : fly.mPosition = position) :
    InsideIff lo (data + length) (readTopicFields mem json data header fly)
      (16 ≤ length ∧ FieldsInside mem data length bufferLength
        (fun position => 24 ≤ length ∧
          FieldsInside mem data length bufferLength (fun _ => True) 1 position) 4 position) := by
  unfold readTopicFields
  refine insideIff_congr (insideIff_readUInt_bind ?_)
    (and_congr_left' (inside_fixed above offset 0))
  refine insideIff_field above size here fun topic fly size offset' here => ?_
  rw [offset] at offset'
  refine insideIff_field above size here fun messageType fly size offset here => ?_
  rw [offset'] at offset
  refine insideIff_field above size here fun uuid fly size offset' here => ?_
  rw [offset] at offset'
  refine insideIff_field above size here fun payload fly size offset here => ?_
  rw [offset'] at offset
  rw [FieldsInside]
  refine insideIff_congr (insideIff_readUInt_bind (insideIff_map_pure ?_))
    (and_congr_left' (inside_fixed above offset 8))
  refine insideIff_tryCatch_pure (insideIff_field above size here fun headers fly _ _ _ => ?_)
  exact insideIff_of_within (within_pure _) trivial

theorem insideIff_decodeTopicMessageWithSbe {length : Nat} (above : lo ≤ data) (long : 8 ≤ length)
    (template : (headerAt mem data).templateId = 1) (schema : (headerAt mem data).schemaId = 1) :
    InsideIff lo (data + length) (decodeTopicMessageWithSbe mem json data length)
      (TopicInside mem data length) := by
  have field {n : Nat} (fits : n + 2 ≤ 8) :
      Within (Stays lo (data + length)) (readUInt mem (data + n) 2) :=
    within_readUInt (inside_of_le (by omega) (by omega))
  have block : (headerAt mem data).blockLength = ofBytes (bytesAt mem (data + 0) 2) := by
    rw [headerAt_eq]
  rw [headerAt_eq] at template schema
  dsimp only at template schema
  refine insideIff_tryCatch_pure ?_
  unfold readTopicMessage TopicInside
  rw [if_neg (by omega), block]
  refine insideIff_bind_of_run (fun _ => ⟨_, rfl⟩) (field (by decide)) ?_
  refine insideIff_bind_of_run (fun _ => ⟨_, rfl⟩) (field (by decide)) ?_
  refine insideIff_bind_of_run (fun _ => ⟨_, rfl⟩) (field (by decide)) ?_
  refine insideIff_bind_of_run (fun _ => ⟨_, rfl⟩) (field (by decide)) ?_
  rw [template, schema, if_neg (by decide)]
  by_cases fits : 8 + ofBytes (bytesAt mem (data + 0) 2) ≤ intBufferLength length
  · have wrapped : wrapForDecode 8 (ofBytes (bytesAt mem (data + 0) 2))
        (ofBytes (bytesAt mem (data + 6) 2)) (intBufferLength length) = .ok _ :=
      Flyweight.sbePosition_eq_ok.mpr ⟨fits, rfl⟩
    rw [wrapped]
    refine insideIff_bind_of_run (fun _ => ⟨_, rfl⟩) (within_pure _) ?_
    refine insideIff_congr (insideIff_readTopicFields above rfl rfl rfl) ?_
    exact ⟨fun inside _ => inside, fun inside => inside fits⟩
  · have refused : wrapForDecode 8 (ofBytes (bytesAt mem (data + 0) 2))
        (ofBytes (bytesAt mem (data + 6) 2)) (intBufferLength length) = .error _ :=
      Flyweight.sbePosition_eq_error fits
    rw [refused]
    exact insideIff_bind_of_error (fun _ => ⟨_, rfl⟩) (within_throw _) fun begins => absurd begins fits

end Fields

section Bounded

variable {data length : Nat}

/-- The decoder of an acknowledgment checks the length before each of its reads. -/
theorem within_decodeAcknowledgmentWithSbe (above : lo ≤ data) :
    Within (Stays lo (data + length)) (decodeAcknowledgmentWithSbe mem data length) := by
  unfold decodeAcknowledgmentWithSbe
  by_cases short : length < 8
  · rw [if_pos short]
    exact within_pure _
  · have field {n width : Nat} (fits : n + width ≤ length) :
        Within (Stays lo (data + length)) (readUInt mem (data + n) width) :=
      within_readUInt (inside_of_le (by omega) (by omega))
    rw [if_neg short]
    refine within_bind (field (n := 0) (by omega)) fun blockLength => ?_
    refine within_bind (field (by omega)) fun templateId => ?_
    refine within_bind (field (by omega)) fun schemaId => ?_
    refine within_bind (field (by omega)) fun version => ?_
    refine within_ite (within_pure _) ?_
    dsimp only
    by_cases block : length < 8 + 8
    · rw [if_pos block]
      exact within_pure _
    · rw [if_neg block]
      refine within_bind (field (by omega)) fun timestamp => ?_
      split
      · refine within_bind (within_readBytes (inside_of_le (by omega) (by omega))) fun rest => ?_
        exact within_pure _
      · exact within_pure _

theorem within_decodeMessageHeader (above : lo ≤ data) :
    Within (Stays lo (data + length)) (decodeMessageHeader mem data length) := by
  unfold decodeMessageHeader
  by_cases short : data = 0 ∨ length < 8
  · rw [if_pos short]
    exact within_pure _
  · rw [if_neg short]
    have read : Within (Stays lo (data + length)) (readMessageHeader mem data) := by
      refine within_bind (within_readBytes (inside_of_le above ?_)) fun _ => within_pure _
      omega
    exact within_bind read fun _ => within_pure _

/-- One string, and what follows it: the prefix is checked before it is read, but of an accepted
string all bytes are read, wherever it ends. -/
theorem insideIff_extractVariableString_bind {pos offset remaining : Nat} {output : StdString}
    {f : Nat × StdString → Decode α} {condition : Prop} (above : lo ≤ pos)
    (below : pos + remaining ≤ hi) (refused : Within (Stays lo hi) (f (0, output)))
    (rest : InsideIff lo hi (f (stringEnd mem pos offset, stringBytes mem pos offset)) condition) :
    InsideIff lo hi (extractVariableString mem pos offset remaining output >>= f)
      (Accepted mem pos offset remaining → pos + stringEnd mem pos offset ≤ hi ∧ condition) := by
  intro reads
  have before (room : offset + 4 ≤ remaining) : Inside lo hi (pos + offset, 4) :=
    inside_of_le (by omega) (by omega)
  by_cases accepted : Accepted mem pos offset remaining
  · obtain ⟨after, run, log⟩ := extractVariableString_of_accepted accepted output reads
    have ranges : AllInside lo hi after ↔
        AllInside lo hi reads ∧ pos + stringEnd mem pos offset ≤ hi := by
      have room := accepted.1
      unfold stringEnd
      rcases log with rfl | ⟨empty, rfl⟩
      · rw [allInside_cons, allInside_cons, and_iff_left (before room), inside_iff (by omega)]
        refine and_congr_right fun _ => ?_
        omega
      · rw [allInside_cons, and_iff_left (before room), empty, and_iff_left]
        omega
    rw [finalState_bind_of_ok run, rest after, ranges, and_assoc]
    simp only [accepted, forall_const]
  · obtain ⟨after, run, log⟩ := extractVariableString_of_not_accepted accepted output reads
    have ranges : AllInside lo hi after ↔ AllInside lo hi reads := by
      rcases log with rfl | ⟨room, rfl⟩
      · rfl
      · rw [allInside_cons, and_iff_left (before room)]
    have stays : AllInside lo hi (finalState (f (0, output)) after) ↔ AllInside lo hi after :=
      refused after
    rw [finalState_bind_of_ok run, stays, ranges]
    simp only [accepted, false_implies, and_true]

theorem within_extractVariableString {pos remaining : Nat} {output : StdString}
    (above : lo ≤ pos) (below : pos + remaining ≤ hi) :
    Within (Stays lo hi) (extractVariableString mem pos 0 remaining output) := by
  intro reads
  have inside : InsideIff lo hi (extractVariableString mem pos 0 remaining output >>= pure)
      (Accepted mem pos 0 remaining → pos + stringEnd mem pos 0 ≤ hi ∧ True) :=
    insideIff_extractVariableString_bind above below (within_pure _)
      (insideIff_of_within (within_pure _) trivial)
  rw [bind_pure] at inside
  refine (inside reads).trans (and_iff_left ?_)
  rintro ⟨room, fits, -⟩
  unfold stringEnd
  exact ⟨by omega, trivial⟩

theorem within_decodeSessionEvent (above : lo ≤ data) :
    Within (Stays lo (data + length)) (decodeSessionEvent mem data length) := by
  unfold decodeSessionEvent
  by_cases short : data = 0 ∨ length < 8 + 32
  · rw [if_pos short]
    exact within_pure _
  · have field {addr width : Nat} (start : lo ≤ addr) (fits : addr + width ≤ data + length) :
        Within (Stays lo (data + length)) (readInt mem addr width) :=
      within_readInt (inside_of_le start fits)
    rw [if_neg short]
    refine within_bind (within_readBytes (inside_of_le above (by omega))) fun _ => ?_
    refine within_bind (within_decodeMessageHeader above) fun header => ?_
    cases header with
    | none => exact within_pure _
    | some header =>
        refine within_ite (within_pure _) ?_
        refine within_bind (field (by omega) (by omega)) fun correlationId => ?_
        refine within_bind (field (by omega) (by omega)) fun clusterSessionId => ?_
        refine within_bind (field (by omega) (by omega)) fun leadershipTermId => ?_
        refine within_bind (field (by omega) (by omega)) fun leaderMemberId => ?_
        refine within_bind (field (by omega) (by omega)) fun code => ?_
        dsimp only
        refine within_ite ?_ (within_pure _)
        refine within_bind (within_extractVariableString (by omega) (by omega)) fun detail => ?_
        exact within_pure _

theorem within_parseSessionEvent (above : lo ≤ data) (long : 8 ≤ length) :
    Within (Stays lo (data + length)) (parseSessionEvent mem data length) := by
  unfold parseSessionEvent
  refine within_bind (within_decodeSessionEvent above) fun decoded => ?_
  cases decoded with
  | none => exact within_pure _
  | some decoded =>
      refine within_bind ?_ fun header => within_pure _
      exact within_bind (within_readBytes (inside_of_le above (by omega))) fun _ => within_pure _

/-- The address and the length that the flyweight decoder is called with, if it is. -/
def topicAt (mem : Memory) (data length : Nat) : Option (Nat × Nat) :=
  let header := headerAt mem data
  let front := 8 + header.blockLength
  if data = 0 ∨ length < 8 ∨ header.templateId ≠ 1 then none
  else if header.schemaId = 1 then some (data, length)
  else if header.schemaId = 111 ∧ front + 8 ≤ length ∧
      (headerAt mem (data + front)).schemaId = 1 ∧ (headerAt mem (data + front)).templateId = 1 then
    some (data + front, length - front)
  else none

/-- The topic message in the frame, if there is one, is inside. -/
def Bounded (mem : Memory) (data length : Nat) : Prop :=
  ∀ frame ∈ topicAt mem data length, TopicInside mem frame.1 frame.2

theorem insideIff_decodeMessageHeader_bind {f : Option MessageHeader → Decode α} {condition : Prop}
    (here : data ≠ 0) (long : 8 ≤ length) (above : lo ≤ data) (below : data + length ≤ hi)
    (rest : InsideIff lo hi (f (some (headerAt mem data))) condition) :
    InsideIff lo hi (decodeMessageHeader mem data length >>= f) condition := by
  intro reads
  rw [finalState_bind_of_ok (decodeMessageHeader_run here long reads), rest, allInside_cons,
    and_iff_left (inside_of_le above (by omega))]

theorem insideIff_route {condition : Prop} {unknown : ParseResult} (above : lo ≤ data)
    (long : 8 ≤ length) (schema : (headerAt mem data).schemaId = 1)
    (topic : (headerAt mem data).templateId = 1 → (condition ↔ TopicInside mem data length))
    (other : (headerAt mem data).templateId ≠ 1 → condition) :
    InsideIff lo (data + length)
      (if (headerAt mem data).templateId = 1 then decodeTopicMessageWithSbe mem json data length
      else if (headerAt mem data).templateId = 2 then decodeAcknowledgmentWithSbe mem data length
      else return unknown) condition := by
  split
  · rename_i template
    rw [topic template]
    exact insideIff_decodeTopicMessageWithSbe above long template schema
  · rename_i template
    refine insideIff_of_within (within_ite ?_ (within_pure _)) (other template)
    exact within_decodeAcknowledgmentWithSbe above

theorem bounded_of_none (none : topicAt mem data length = none) : Bounded mem data length := by
  intro frame found
  rw [none] at found
  cases found

theorem bounded_of_some {start size : Nat} (found : topicAt mem data length = some (start, size)) :
    Bounded mem data length ↔ TopicInside mem start size := by
  unfold Bounded
  rw [found]
  simp

theorem insideIff_parseTopicMessage (here : data ≠ 0) (long : 8 ≤ length)
    (template : (headerAt mem data).schemaId = 111 → (headerAt mem data).templateId = 1) :
    InsideIff data (data + length) (parseTopicMessage mem json data length)
      (Bounded mem data length) := by
  have given : ¬ (data = 0 ∨ length < 8) := by omega
  unfold parseTopicMessage
  rw [if_neg given]
  refine insideIff_decodeMessageHeader_bind here long le_rfl le_rfl ?_
  dsimp only
  by_cases envelope : (headerAt mem data).schemaId = 111
  · rw [if_pos envelope]
    have business : (headerAt mem data).templateId = 1 := template envelope
    have within_frame (short : length < 8 + (headerAt mem data).blockLength + 8) :
        Bounded mem data length := by
      apply bounded_of_none
      simp [topicAt, envelope, business, Nat.not_le.mpr short]
    by_cases empty : length ≤ 8 + (headerAt mem data).blockLength
    · rw [if_pos empty]
      exact insideIff_of_within (within_pure _) (within_frame (by omega))
    · rw [if_neg empty]
      by_cases short : length - (8 + (headerAt mem data).blockLength) < 8
      · rw [if_pos short]
        exact insideIff_of_within (within_pure _) (within_frame (by omega))
      · rw [if_neg short]
        have room : 8 + (headerAt mem data).blockLength + 8 ≤ length := by omega
        have ends : data + length = data + (8 + (headerAt mem data).blockLength) +
            (length - (8 + (headerAt mem data).blockLength)) := by
          omega
        rw [ends]
        refine insideIff_decodeMessageHeader_bind (by omega) (by omega) (by omega) le_rfl ?_
        dsimp only
        split
        · rename_i schema
          refine insideIff_route (by omega) (by omega) schema (fun template => ?_) fun template => ?_
          · apply bounded_of_some
            simp only [topicAt]
            rw [if_neg (by omega), if_neg (by omega), if_pos ⟨envelope, room, schema, template⟩]
          · apply bounded_of_none
            simp [topicAt, envelope, template]
        · rename_i schema
          refine insideIff_of_within (within_pure _) (bounded_of_none ?_)
          simp [topicAt, envelope, schema]
  · rw [if_neg envelope]
    split
    · rename_i schema
      refine insideIff_route le_rfl long schema (fun template => ?_) fun template => ?_
      · apply bounded_of_some
        simp only [topicAt]
        rw [if_neg (by omega), if_pos schema]
      · apply bounded_of_none
        simp [topicAt, template]
    · rename_i schema
      refine insideIff_of_within (within_pure _) (bounded_of_none ?_)
      simp [topicAt, envelope, schema]

/-- Whatever the frame, its reads are inside exactly when those of its topic message are. -/
theorem insideIff_parseMessage :
    InsideIff data (data + length) (parseMessage mem json data length) (Bounded mem data length) := by
  unfold parseMessage
  by_cases short : data = 0 ∨ length < 8
  · have nothing : Bounded mem data length := by
      apply bounded_of_none
      rcases short with null | short <;> simp [topicAt, *]
    refine insideIff_of_within ?_ nothing
    refine within_ite (within_pure _) ?_
    intro reads
    have refused : (decodeMessageHeader mem data length).run reads = .ok none reads := by
      unfold decodeMessageHeader
      rw [if_pos short]
      rfl
    rw [finalState_bind_of_ok refused]
    exact refl_of (Stays data (data + length)) reads
  · have here : data ≠ 0 := by omega
    have long : 8 ≤ length := by omega
    rw [if_neg (by omega)]
    refine insideIff_decodeMessageHeader_bind here long le_rfl le_rfl ?_
    dsimp only
    change InsideIff _ _ (if (classified (headerAt mem data)).isSessionEvent = true then _ else
      if (classified (headerAt mem data)).isTopicMessage = true then _ else _) _
    split
    · rename_i event
      simp only [classified, ParseResult.isSessionEvent, Bool.and_eq_true, beq_iff_eq] at event
      refine insideIff_of_within (within_parseSessionEvent le_rfl long) (bounded_of_none ?_)
      simp [topicAt, event.1, SESSION_EVENT_TEMPLATE_ID]
    · split
      · rename_i topic
        refine insideIff_parseTopicMessage here long fun envelope => ?_
        have kind := isTopicMessage_classified.mp topic
        omega
      · rename_i topic
        rw [isTopicMessage_classified] at topic
        have nothing : topicAt mem data length = none := by
          unfold topicAt
          dsimp only
          by_cases template : (headerAt mem data).templateId = 1
          · rw [if_neg (by omega), if_neg (by omega), if_neg (by omega)]
          · rw [if_pos (by omega)]
        split
        · rename_i acknowledgment
          simp only [ParseResult.isAcknowledgment, Bool.and_eq_true, beq_iff_eq] at acknowledgment
          exact absurd (Or.inr acknowledgment) topic
        · exact insideIff_of_within (within_pure _) (bounded_of_none nothing)

end Bounded

section Complete

variable {data length : Nat}

def FieldsComplete (mem : Memory) (data length : Nat) : Nat → Nat → Prop
  | 0, _ => True
  | count + 1, position =>
      fieldEnd mem data position ≤ length ∧
        FieldsComplete mem data length count (fieldEnd mem data position)

/-- A business message has the timestamp in its block, and as many fields as it should behind the
block that its header announces. -/
def MessageComplete (mem : Memory) (data length count : Nat) : Prop :=
  let block := (headerAt mem data).blockLength
  8 ≤ block ∧ FieldsComplete mem data length count (8 + block)

/-- The topic, the message type, the uuid, the payload and the headers. -/
def TopicComplete (mem : Memory) (data length : Nat) : Prop := MessageComplete mem data length 5

/-- The message id, the topic and the correlation id. -/
def AcknowledgmentComplete (mem : Memory) (data length : Nat) : Prop :=
  MessageComplete mem data length 3

/-- A session event has its fixed fields in the block that its header announces, the block is whole,
and so is the detail if anything follows the block. -/
def EventComplete (mem : Memory) (data length : Nat) : Prop :=
  let detail := 8 + (headerAt mem data).blockLength
  40 ≤ detail ∧ detail ≤ length ∧ (detail < length → stringEnd mem data detail ≤ length)

def BusinessComplete (mem : Memory) (data length : Nat) : Prop :=
  let header := headerAt mem data
  header.schemaId = 1 ∧
    ((header.templateId = 2 ∧ AcknowledgmentComplete mem data length) ∨
      (header.templateId = 1 ∧ TopicComplete mem data length))

/-- A frame of a known kind, neither cut nor with a block too short for the fields that are taken from
it: a session event, a business message, or an envelope of one. -/
def Complete (mem : Memory) (data length : Nat) : Prop :=
  let header := headerAt mem data
  let front := 8 + header.blockLength
  data ≠ 0 ∧ 8 ≤ length ∧
    ((header.schemaId = 111 ∧ header.templateId = 2 ∧ EventComplete mem data length) ∨
      BusinessComplete mem data length ∨
      (header.schemaId = 111 ∧ header.templateId = 1 ∧ front + 8 ≤ length ∧
        BusinessComplete mem (data + front) (length - front)))

/-- The business message at the data has been decoded, with this result. -/
def Decoded (json : Jsoncpp) (mem : Memory) (data length : Nat) (r : ParseResult) : Prop :=
  (headerAt mem data).schemaId = 1 ∧
    (((headerAt mem data).templateId = 1 ∧ ∃ reads after,
        (decodeTopicMessageWithSbe mem json data length).run reads = .ok r after) ∨
      ((headerAt mem data).templateId = 2 ∧ ∃ reads after,
        (decodeAcknowledgmentWithSbe mem data length).run reads = .ok r after))

/-- A session event, or a business message that has been decoded: the one at the data, or the one behind
the announced block of an envelope. -/
def FrameDecoded (json : Jsoncpp) (mem : Memory) (data length : Nat) (r : ParseResult) : Prop :=
  ((headerAt mem data).schemaId = 111 ∧ (headerAt mem data).templateId = 2 ∧ 40 ≤ length) ∨
    Decoded json mem data length r ∨
    ((headerAt mem data).schemaId = 111 ∧ (headerAt mem data).templateId = 1 ∧
      8 + (headerAt mem data).blockLength + 8 ≤ length ∧
      Decoded json mem (data + (8 + (headerAt mem data).blockLength))
        (length - (8 + (headerAt mem data).blockLength)) r)

end Complete

section Verdicts

variable {data length : Nat} {thrown acceptable : Prop} {means : ParseResult → Prop}

/-- The decoder reports success exactly for what is acceptable, and then with a result that means what
it should; it throws only where it may. -/
def Judges (thrown : Prop) (x : Decode ParseResult) (acceptable : Prop)
    (means : ParseResult → Prop) : Prop :=
  ∀ reads, Ends x reads
    (fun r _ => (r.success = true ↔ acceptable) ∧ (r.success = true → means r)) fun _ _ => thrown

theorem judges_refused {r : ParseResult} (failed : r.success = false) (refused : ¬ acceptable) :
    Judges thrown (pure r) acceptable means :=
  have no : ¬ r.success = true := Bool.eq_false_iff.mp failed
  fun _ => ⟨iff_of_false no refused, fun success => absurd success no⟩

theorem judges_accepted {r : ParseResult} (success : r.success = true) (accepted : acceptable)
    (meant : means r) : Judges thrown (pure r) acceptable means :=
  fun _ => ⟨iff_of_true success accepted, fun _ => meant⟩

theorem judges_bind_of_run {x : Decode α} {f : α → Decode ParseResult} {a : α}
    (run : ∀ reads, ∃ after, x.run reads = .ok a after)
    (rest : Judges thrown (f a) acceptable means) : Judges thrown (x >>= f) acceptable means := by
  intro reads
  obtain ⟨after, returns⟩ := run reads
  exact ends_bind_of_ok returns (rest after)

theorem judges_bind_of_total {x : Decode α} {f : α → Decode ParseResult} (total : Total x)
    (rest : ∀ a, Judges thrown (f a) acceptable means) :
    Judges thrown (x >>= f) acceptable means := by
  intro reads
  obtain ⟨a, after, returns⟩ := total reads
  exact ends_bind_of_ok returns (rest a after)

theorem judges_ite {c : Prop} [Decidable c] {x y : Decode ParseResult}
    (hx : c → Judges thrown x acceptable means) (hy : ¬ c → Judges thrown y acceptable means) :
    Judges thrown (if c then x else y) acceptable means :=
  fun reads => ends_ite (fun holds => hx holds reads) fun fails => hy fails reads

theorem judges_congr {x : Decode ParseResult} {acceptable' : Prop} {means' : ParseResult → Prop}
    (judges : Judges thrown x acceptable means) (same : acceptable ↔ acceptable')
    (meant : ∀ r, acceptable → means r → means' r) : Judges thrown x acceptable' means' := by
  refine fun reads => (judges reads).mono (fun r _ judged => ?_) fun _ _ => id
  rw [← same]
  exact ⟨judged.1, fun success => meant r (judged.1.mp success) (judged.2 success)⟩

/-- A result is what the decoder has returned. -/
theorem judges_returned {x : Decode ParseResult} (judges : Judges thrown x acceptable fun _ => True)
    (meant : ∀ r reads after, x.run reads = .ok r after → means r) :
    Judges thrown x acceptable means := by
  intro reads
  cases run : x.run reads with
  | ok r after =>
      have judged := (ends_of_ok run).mp (judges reads)
      exact (ends_of_ok run).mpr ⟨judged.1, fun _ => meant r reads after run⟩
  | error what after => exact (ends_of_error run).mpr ((ends_of_error run).mp (judges reads))

/-- A topic message that the flyweight decodes: its block and its four fields before the headers end
within the buffer length. -/
def TopicAccepted (mem : Memory) (data length : Nat) : Prop :=
  8 + (headerAt mem data).blockLength ≤ intBufferLength length ∧
    FieldsComplete mem data (intBufferLength length) 4 (8 + (headerAt mem data).blockLength)

theorem judges_field {fly : Flyweight} {f : StdString × Flyweight → Decode ParseResult}
    {bufferLength position : Nat} (size : fly.mBufferLength = bufferLength)
    (here : fly.mPosition = position) (cut : ¬ fieldEnd mem data position ≤ bufferLength → thrown)
    (rest : fieldEnd mem data position ≤ bufferLength → ∀ s moved,
      moved.mBufferLength = bufferLength → moved.mPosition = fieldEnd mem data position →
        Judges thrown (f (s, moved)) acceptable means) :
    Judges thrown (getVarDataAsString mem data fly >>= f) acceptable means := by
  subst size here
  intro reads
  have run := field_run mem data fly reads
  by_cases ends : fieldEnd mem data fly.mPosition ≤ fly.mBufferLength
  · have begins : fly.mPosition + 2 ≤ fly.mBufferLength := by
      unfold fieldEnd at ends
      omega
    rw [if_pos begins, if_pos ends] at run
    exact ends_bind_of_ok run (rest ends _ { fly with mPosition := fieldEnd mem data fly.mPosition } rfl rfl _)
  · rw [if_neg ends] at run
    split at run
    · exact ends_bind.mpr ((ends_of_error run).mpr (cut ends))
    · exact ends_bind.mpr ((ends_of_error run).mpr (cut ends))

theorem judges_readTopicFields {header : MessageHeader} {fly : Flyweight}
    {bufferLength position : Nat} (size : fly.mBufferLength = bufferLength)
    (here : fly.mPosition = position) :
    Judges (¬ FieldsComplete mem data bufferLength 4 position)
      (readTopicFields mem json data header fly)
      (FieldsComplete mem data bufferLength 4 position) fun _ => True := by
  have headers (fly : Flyweight) : Total (headersOrEmpty mem data fly) :=
    total_tryCatch fun _ => total_pure []
  unfold readTopicFields
  refine judges_bind_of_run (fun _ => ⟨_, rfl⟩) ?_
  refine judges_field size here (fun cut complete => cut complete.1) fun end₁ topic fly size here => ?_
  refine judges_field size here (fun cut complete => cut complete.2.1)
    fun end₂ messageType fly size here => ?_
  refine judges_field size here (fun cut complete => cut complete.2.2.1)
    fun end₃ uuid fly size here => ?_
  refine judges_field size here (fun cut complete => cut complete.2.2.2.1)
    fun end₄ payload fly size here => ?_
  refine judges_bind_of_run (fun _ => ⟨_, rfl⟩) ?_
  refine judges_bind_of_total (headers fly) fun _ => ?_
  exact judges_accepted rfl ⟨end₁, end₂, end₃, end₄, trivial⟩ trivial

theorem topic_ends {r : ParseResult} {reads after : List (Nat × Nat)}
    (run : (decodeTopicMessageWithSbe mem json data length).run reads = .ok r after)
    (success : r.success = true) : TopicAccepted mem data length := by
  obtain ⟨fly, log, wrapped, fields⟩ := readTopicFields_of_success run success
  obtain ⟨fits, rfl⟩ := Flyweight.sbePosition_eq_ok.mp wrapped
  exact ⟨fits, ((ends_of_ok fields).mp (judges_readTopicFields rfl rfl log)).1.mp success⟩

theorem judges_decodeTopicMessageWithSbe (long : 8 ≤ length)
    (template : (headerAt mem data).templateId = 1) (schema : (headerAt mem data).schemaId = 1) :
    Judges False (decodeTopicMessageWithSbe mem json data length) (TopicAccepted mem data length)
      fun _ => True := by
  have body : Judges (¬ TopicAccepted mem data length) (readTopicMessage mem json data length)
      (TopicAccepted mem data length) fun _ => True := by
    intro reads
    by_cases fits : 8 + (headerAt mem data).blockLength ≤ intBufferLength length
    · have fields : TopicAccepted mem data length ↔ FieldsComplete mem data (intBufferLength length) 4
          (8 + (headerAt mem data).blockLength) := and_iff_right fits
      obtain ⟨log, run⟩ : ∃ log, (readTopicMessage mem json data length).run reads =
          (readTopicFields mem json data (headerAt mem data) _).run log :=
        readTopicMessage_of_header rfl long template schema fits
      rw [fields]
      unfold Ends
      rw [run]
      exact judges_readTopicFields rfl rfl log
    · have unacceptable : ¬ TopicAccepted mem data length := fun accepted => fits accepted.1
      cases run : (readTopicMessage mem json data length).run reads with
      | error what log => exact (ends_of_error run).mpr unacceptable
      | ok r log =>
          refine (ends_of_ok run).mpr ⟨iff_of_false ?_ unacceptable, fun _ => trivial⟩
          rcases readTopicMessage_eq_ok run with ⟨message, rfl⟩ | ⟨fly, _, wrapped, -⟩
          · exact Bool.false_ne_true
          · exact absurd (Flyweight.sbePosition_eq_ok.mp wrapped).1 fits
  intro reads
  refine ends_tryCatch.mpr ((body reads).mono (fun _ _ judged => judged) fun what log refused => ?_)
  exact judges_refused rfl refused log

theorem judges_decodeAcknowledgmentWithSbe (long : 8 ≤ length)
    (template : (headerAt mem data).templateId = 2) (schema : (headerAt mem data).schemaId = 1) :
    Judges False (decodeAcknowledgmentWithSbe mem data length) (16 ≤ length) fun _ => True := by
  rw [headerAt_eq] at template schema
  dsimp only at template schema
  unfold decodeAcknowledgmentWithSbe
  rw [if_neg (by omega)]
  refine judges_bind_of_run (fun _ => ⟨_, rfl⟩) (judges_bind_of_run (fun _ => ⟨_, rfl⟩) ?_)
  refine judges_bind_of_run (fun _ => ⟨_, rfl⟩) (judges_bind_of_run (fun _ => ⟨_, rfl⟩) ?_)
  rw [template, schema, if_neg (by decide)]
  refine judges_ite (fun short => judges_refused rfl (by omega)) fun short => ?_
  refine judges_bind_of_run (fun _ => ⟨_, rfl⟩) ?_
  dsimp only
  split
  · exact judges_bind_of_run (fun _ => ⟨_, rfl⟩) (judges_accepted rfl (by omega) trivial)
  · exact judges_bind_of_run (fun _ => ⟨_, rfl⟩) (judges_accepted rfl (by omega) trivial)

theorem total_extractVariableString {offset remaining : Nat} {output : StdString} :
    Total (extractVariableString mem data offset remaining output) := by
  intro reads
  by_cases accepted : Accepted mem data offset remaining
  · obtain ⟨after, run, -⟩ := extractVariableString_of_accepted accepted output reads
    exact ⟨_, after, run⟩
  · obtain ⟨after, run, -⟩ := extractVariableString_of_not_accepted accepted output reads
    exact ⟨_, after, run⟩

theorem ends_decodeSessionEvent (here : data ≠ 0) (long : 40 ≤ length)
    (template : (headerAt mem data).templateId = 2) (schema : (headerAt mem data).schemaId = 111)
    (reads : List (Nat × Nat)) :
    Ends (decodeSessionEvent mem data length) reads (fun decoded _ => decoded.isSome = true)
      fun _ _ => False := by
  have valid : validateHeader (headerAt mem data) SESSION_EVENT_TEMPLATE_ID CLUSTER_SCHEMA_ID =
      true := by
    simp [validateHeader, template, schema, SESSION_EVENT_TEMPLATE_ID, CLUSTER_SCHEMA_ID]
  have read {f : Int → Decode (Option (SessionEvent × StdString))} {addr width : Nat}
      (rest : ∀ value log, Ends (f value) log (fun decoded _ => decoded.isSome = true)
        fun _ _ => False) (log : List (Nat × Nat)) :
      Ends (readInt mem addr width >>= f) log (fun decoded _ => decoded.isSome = true)
        fun _ _ => False := by
    have value : (readInt mem addr width).run log =
        .ok (signed width (ofBytes (bytesAt mem addr width))) ((addr, width) :: log) := rfl
    exact ends_bind_of_ok value (rest _ _)
  unfold decodeSessionEvent
  rw [if_neg (by omega)]
  have log : (readBytes mem data (min length 256)).run reads =
      .ok (bytesAt mem data (min length 256)) ((data, min length 256) :: reads) := rfl
  refine ends_bind_of_ok log (ends_bind_of_ok (decodeMessageHeader_run here (by omega) _) ?_)
  dsimp only
  rw [valid, if_neg (by decide)]
  refine read (fun correlationId log => read (fun clusterSessionId log => ?_) log) _
  refine read (fun leadershipTermId log => read (fun leaderMemberId log => ?_) log) log
  refine read (fun code log => ?_) log
  refine ends_ite (fun _ => ?_) fun _ => rfl
  obtain ⟨_, after, run⟩ := total_extractVariableString log
  exact ends_bind_of_ok run rfl

theorem judges_parseSessionEvent (here : data ≠ 0) (template : (headerAt mem data).templateId = 2)
    (schema : (headerAt mem data).schemaId = 111) :
    Judges False (parseSessionEvent mem data length) (40 ≤ length) fun _ => True := by
  unfold parseSessionEvent
  by_cases long : 40 ≤ length
  · intro reads
    have decodes := ends_decodeSessionEvent here long template schema reads
    refine ends_bind.mpr (decodes.mono (fun decoded log found => ?_) fun _ _ => id)
    obtain ⟨event, rfl⟩ := Option.isSome_iff_exists.mp found
    exact judges_bind_of_run (fun _ => ⟨_, rfl⟩) (judges_accepted rfl long trivial) log
  · have refused (reads : List (Nat × Nat)) :
        (decodeSessionEvent mem data length).run reads = .ok none reads := by
      unfold decodeSessionEvent
      rw [if_pos (by omega)]
      rfl
    exact judges_bind_of_run (fun reads => ⟨_, refused reads⟩) (judges_refused rfl long)

def BusinessAccepted (mem : Memory) (data length : Nat) : Prop :=
  let header := headerAt mem data
  header.schemaId = 1 ∧
    ((header.templateId = 2 ∧ 16 ≤ length) ∨
      (header.templateId = 1 ∧ TopicAccepted mem data length))

def FrameAccepted (mem : Memory) (data length : Nat) : Prop :=
  let header := headerAt mem data
  let front := 8 + header.blockLength
  data ≠ 0 ∧ 8 ≤ length ∧
    ((header.schemaId = 111 ∧ header.templateId = 2 ∧ 40 ≤ length) ∨
      BusinessAccepted mem data length ∨
      (header.schemaId = 111 ∧ header.templateId = 1 ∧ front + 8 ≤ length ∧
        BusinessAccepted mem (data + front) (length - front)))

theorem judges_route {message : StdString} (long : 8 ≤ length)
    (schema : (headerAt mem data).schemaId = 1) :
    Judges False
      (if (headerAt mem data).templateId = 1 then decodeTopicMessageWithSbe mem json data length
      else if (headerAt mem data).templateId = 2 then decodeAcknowledgmentWithSbe mem data length
      else return failure message) (BusinessAccepted mem data length)
      (Decoded json mem data length) := by
  refine judges_ite (fun template => ?_) fun other => judges_ite (fun template => ?_) fun neither => ?_
  · refine judges_returned ?_ fun r reads after run => ⟨schema, Or.inl ⟨template, reads, after, run⟩⟩
    refine judges_congr (judges_decodeTopicMessageWithSbe long template schema) ?_ fun _ _ => id
    simp [BusinessAccepted, schema, template]
  · refine judges_returned ?_ fun r reads after run => ⟨schema, Or.inr ⟨template, reads, after, run⟩⟩
    refine judges_congr (judges_decodeAcknowledgmentWithSbe long template schema) ?_ fun _ _ => id
    simp [BusinessAccepted, schema, template]
  · refine judges_refused rfl ?_
    simp [BusinessAccepted, other, neither]

theorem judges_parseTopicMessage (here : data ≠ 0) (long : 8 ≤ length) :
    Judges False (parseTopicMessage mem json data length)
      (BusinessAccepted mem data length ∨
        ((headerAt mem data).schemaId = 111 ∧ 8 + (headerAt mem data).blockLength + 8 ≤ length ∧
          BusinessAccepted mem (data + (8 + (headerAt mem data).blockLength))
            (length - (8 + (headerAt mem data).blockLength))))
      fun r => Decoded json mem data length r ∨
        ((headerAt mem data).schemaId = 111 ∧ 8 + (headerAt mem data).blockLength + 8 ≤ length ∧
          Decoded json mem (data + (8 + (headerAt mem data).blockLength))
            (length - (8 + (headerAt mem data).blockLength)) r) := by
  have given : ¬ (data = 0 ∨ length < 8) := by omega
  unfold parseTopicMessage
  rw [if_neg given]
  refine judges_bind_of_run (fun _ => ⟨_, decodeMessageHeader_run here long _⟩) ?_
  dsimp only
  refine judges_ite (fun envelope => ?_) fun other => ?_
  · have direct : ¬ BusinessAccepted mem data length := by
      rintro ⟨schema, -⟩
      omega
    have cut (short : length < 8 + (headerAt mem data).blockLength + 8) :
        ¬ (BusinessAccepted mem data length ∨
          ((headerAt mem data).schemaId = 111 ∧ 8 + (headerAt mem data).blockLength + 8 ≤ length ∧
            BusinessAccepted mem (data + (8 + (headerAt mem data).blockLength))
              (length - (8 + (headerAt mem data).blockLength)))) := by
      rintro (accepted | ⟨-, room, -⟩)
      · exact direct accepted
      · omega
    refine judges_ite (fun empty => judges_refused rfl (cut (by omega))) fun more => ?_
    refine judges_ite (fun short => judges_refused rfl (cut (by omega))) fun room => ?_
    refine judges_bind_of_run
      (fun _ => ⟨_, decodeMessageHeader_run (by omega) (by omega) _⟩) ?_
    dsimp only
    refine judges_ite (fun schema => ?_) fun schema => judges_refused rfl ?_
    · have fits : 8 + (headerAt mem data).blockLength + 8 ≤ length := by omega
      refine judges_congr (judges_route (by omega) schema) ?_ fun r _ decoded => ?_
      · simp [direct, envelope, fits]
      · exact Or.inr ⟨envelope, fits, decoded⟩
    · rintro (accepted | ⟨-, -, schema', -⟩)
      · exact direct accepted
      · exact schema schema'
  · refine judges_ite (fun schema => ?_) fun schema => judges_refused rfl ?_
    · refine judges_congr (judges_route long schema) ?_ fun r _ decoded => Or.inl decoded
      simp [other]
    · rintro (⟨schema', -⟩ | ⟨envelope, -⟩)
      · exact schema schema'
      · exact other envelope

theorem judges_parseMessage :
    Judges False (parseMessage mem json data length) (FrameAccepted mem data length)
      (FrameDecoded json mem data length) := by
  unfold parseMessage
  refine judges_ite (fun nothing => judges_refused rfl ?_) fun given => ?_
  · rintro ⟨here, long, -⟩
    omega
  · by_cases short : length < 8
    · have refused (reads : List (Nat × Nat)) :
          (decodeMessageHeader mem data length).run reads = .ok none reads := by
        unfold decodeMessageHeader
        rw [if_pos (Or.inr short)]
        rfl
      refine judges_bind_of_run (fun reads => ⟨_, refused reads⟩) (judges_refused rfl ?_)
      rintro ⟨-, long, -⟩
      omega
    · have here : data ≠ 0 := by omega
      have long : 8 ≤ length := by omega
      refine judges_bind_of_run (fun _ => ⟨_, decodeMessageHeader_run here long _⟩) ?_
      dsimp only
      change Judges False (if (classified (headerAt mem data)).isSessionEvent = true then _ else
        if (classified (headerAt mem data)).isTopicMessage = true then _ else
          if (classified (headerAt mem data)).isAcknowledgment = true then _ else _) _ _
      refine judges_ite (fun event => ?_) fun noEvent => ?_
      · simp only [classified, ParseResult.isSessionEvent, Bool.and_eq_true, beq_iff_eq] at event
        obtain ⟨template, schema⟩ := event
        refine judges_congr (judges_parseSessionEvent here template schema) ?_ fun r room _ =>
          Or.inl ⟨schema, template, room⟩
        simp [FrameAccepted, BusinessAccepted, here, long, template, schema,
          SESSION_EVENT_TEMPLATE_ID, CLUSTER_SCHEMA_ID]
      · simp only [classified, ParseResult.isSessionEvent, Bool.and_eq_true, beq_iff_eq] at noEvent
        refine judges_ite (fun topic => ?_) fun noTopic => ?_
        · have kind := isTopicMessage_classified.mp topic
          refine judges_congr (judges_parseTopicMessage here long) ⟨?_, ?_⟩ fun r _ decoded => ?_
          · rintro (direct | ⟨envelope, room, embedded⟩)
            · exact ⟨here, long, Or.inr (Or.inl direct)⟩
            · exact ⟨here, long, Or.inr (Or.inr ⟨envelope, by omega, room, embedded⟩)⟩
          · rintro ⟨-, -, ⟨schema, template, -⟩ | direct | ⟨envelope, -, room, embedded⟩⟩
            · exact absurd ⟨template, schema⟩ noEvent
            · exact Or.inl direct
            · exact Or.inr ⟨envelope, room, embedded⟩
          · rcases decoded with direct | ⟨envelope, room, embedded⟩
            · exact Or.inr (Or.inl direct)
            · exact Or.inr (Or.inr ⟨envelope, by omega, room, embedded⟩)
        · rw [isTopicMessage_classified] at noTopic
          refine judges_ite (fun acknowledgment => ?_) fun _ => judges_refused rfl ?_
          · simp only [classified, ParseResult.isAcknowledgment, Bool.and_eq_true,
              beq_iff_eq] at acknowledgment
            exact absurd (Or.inr acknowledgment) noTopic
          · rintro ⟨-, -, ⟨schema, template, -⟩ | direct | ⟨envelope, template, -⟩⟩
            · exact noEvent ⟨template, schema⟩
            · obtain ⟨schema, ⟨template, -⟩ | ⟨template, -⟩⟩ := direct
              · exact noTopic (Or.inr ⟨template, schema⟩)
              · exact noTopic (Or.inl ⟨template, Or.inl schema⟩)
            · exact noTopic (Or.inl ⟨template, Or.inr envelope⟩)

theorem parse_verdict (json : Jsoncpp) (mem : Memory) (data length : Nat) :
    ∃ r, parsed json mem data length = some r ∧
      (r.success = true ↔ FrameAccepted mem data length) ∧
      (r.success = true → FrameDecoded json mem data length r) := by
  have judged : Judges False (parseMessage mem json data length) (FrameAccepted mem data length)
      (FrameDecoded json mem data length) := judges_parseMessage
  cases run : (parseMessage mem json data length).run [] with
  | ok r after =>
      exact ⟨r, returned_eq_some.mpr ⟨after, run⟩, (ends_of_ok run).mp (judged [])⟩
  | error what after => exact ((ends_of_error run).mp (judged [])).elim

/-- What has been decoded when a frame is parsed with success. -/
theorem parse_decoded {r : ParseResult} (parse : parsed json mem data length = some r)
    (success : r.success = true) :
    data ≠ 0 ∧ 8 ≤ length ∧ FrameDecoded json mem data length r := by
  obtain ⟨_, parse', verdict, decoded⟩ := parse_verdict json mem data length
  cases parse.symm.trans parse'
  obtain ⟨here, long, -⟩ := verdict.mp success
  exact ⟨here, long, decoded success⟩

end Verdicts

section Truncation

variable {data length : Nat}

/-- Where the decoder of an acknowledgment asks for the timestamp only, and that of a topic message for
the first four fields, the rest of the message is there as well. -/
structure BusinessUncut (mem : Memory) (data length : Nat) : Prop where
  acknowledgment : (headerAt mem data).templateId = 2 → 16 ≤ length →
    AcknowledgmentComplete mem data length
  topicMessage : (headerAt mem data).templateId = 1 → TopicAccepted mem data length →
    TopicComplete mem data length

/-- The same of every frame: where a session event has forty bytes, whatever block it announces, its
block and its detail are there. -/
structure Uncut (mem : Memory) (data length : Nat) : Prop where
  event : (headerAt mem data).schemaId = 111 → (headerAt mem data).templateId = 2 → 40 ≤ length →
    EventComplete mem data length
  message : (headerAt mem data).schemaId = 1 → BusinessUncut mem data length
  embedded : (headerAt mem data).schemaId = 111 → (headerAt mem data).templateId = 1 →
    8 + (headerAt mem data).blockLength + 8 ≤ length →
      (headerAt mem (data + (8 + (headerAt mem data).blockLength))).schemaId = 1 →
        BusinessUncut mem (data + (8 + (headerAt mem data).blockLength))
          (length - (8 + (headerAt mem data).blockLength))

theorem business_complete (accepted : BusinessAccepted mem data length)
    (uncut : BusinessUncut mem data length) : BusinessComplete mem data length := by
  obtain ⟨schema, ⟨template, long⟩ | ⟨template, fields⟩⟩ := accepted
  · exact ⟨schema, Or.inl ⟨template, uncut.acknowledgment template long⟩⟩
  · exact ⟨schema, Or.inr ⟨template, uncut.topicMessage template fields⟩⟩

theorem business_uncut (schema : (headerAt mem data).schemaId = 1)
    (complete : BusinessAccepted mem data length → BusinessComplete mem data length) :
    BusinessUncut mem data length where
  acknowledgment template long := by
    obtain ⟨-, ⟨-, whole⟩ | ⟨other, -⟩⟩ := complete ⟨schema, Or.inl ⟨template, long⟩⟩
    · exact whole
    · omega
  topicMessage template accepted := by
    obtain ⟨-, ⟨other, -⟩ | ⟨-, whole⟩⟩ := complete ⟨schema, Or.inr ⟨template, accepted⟩⟩
    · omega
    · exact whole

theorem complete_iff_uncut (here : data ≠ 0) (long : 8 ≤ length) :
    (FrameAccepted mem data length → Complete mem data length) ↔ Uncut mem data length := by
  constructor
  · intro complete
    refine ⟨fun schema template block => ?_, fun schema => business_uncut schema fun accepted => ?_,
      fun envelope template room schema => business_uncut schema fun accepted => ?_⟩
    · obtain ⟨-, -, ⟨-, -, whole⟩ | ⟨other, -⟩ | ⟨-, other, -⟩⟩ :=
        complete ⟨here, long, Or.inl ⟨schema, template, block⟩⟩
      · exact whole
      · omega
      · omega
    · obtain ⟨-, -, ⟨other, -⟩ | whole | ⟨other, -⟩⟩ :=
        complete ⟨here, long, Or.inr (Or.inl accepted)⟩
      · omega
      · exact whole
      · omega
    · obtain ⟨-, -, ⟨-, other, -⟩ | ⟨other, -⟩ | ⟨-, -, -, whole⟩⟩ :=
        complete ⟨here, long, Or.inr (Or.inr ⟨envelope, template, room, accepted⟩)⟩
      · omega
      · omega
      · exact whole
  · rintro uncut ⟨-, -, ⟨schema, template, block⟩ | direct | ⟨envelope, template, room, embedded⟩⟩
    · exact ⟨here, long, Or.inl ⟨schema, template, uncut.event schema template block⟩⟩
    · exact ⟨here, long, Or.inr (Or.inl (business_complete direct (uncut.message direct.1)))⟩
    · refine ⟨here, long, Or.inr (Or.inr ⟨envelope, template, room, ?_⟩)⟩
      exact business_complete embedded (uncut.embedded envelope template room embedded.1)

end Truncation

section Containment

/-- Parsing the frame reads nothing but the frame, and ends without success if it is not complete. -/
structure ParsesInside (json : Jsoncpp) (mem : Memory) (data length : Nat) : Prop where
  reads : AllInside data (data + length) (finalState (parseMessage mem json data length) [])
  rejects : ¬ Complete mem data length → ∃ r, parsed json mem data length = some r ∧ r.success = false

section Sample

/-- A topic message header that announces no block, and nothing else. -/
def bareHeader : List UInt8 := (MessageHeader.mk 0 1 1 1).bytes

end Sample

end Containment

end AeronClusterClient.Sbe.ReadBounds
