/- module: AeronClusterClient/Sbe/StringChain
   source: src/sbe_encoder.cpp (extract_variable_string, decode_acknowledgment)
   digest: Which strings, one behind another, are extracted without a read past the end. -/

import AeronClusterClient.Sbe.ReadBounds
import AeronClusterClient.Sbe.SessionEventBlock

/-!
The length of a string is compared with what remains behind the first prefix,
wherever the string begins. That is right for the first string of a chain; a
later one may pass although it ends behind the frame. Offsets and lengths are
those of one object in memory, whose sums do not wrap.
-/

set_option autoImplicit false
set_option relaxedAutoImplicit false

namespace AeronClusterClient.Sbe.StringChain

open Lib.Action Lib.Bytes Lib.LittleEndian Sbe.GeneratedCodec Sbe.Encoder Sbe.Parser Sbe.ReadBounds
open SessionEventBlock (lengthPrefixed length_lengthPrefixed maxExtracted)
open Text (StdString ascii)

variable {mem : Memory} {data offset remaining length lo : Nat}

section Extraction

/-- The length at an offset is more than what is left behind it, but not more than is allowed at
the front. -/
def Overlong (mem : Memory) (data offset remaining : Nat) : Prop :=
  offset + 4 ≤ remaining ∧ remaining - (offset + 4) < prefixAt mem data offset ∧
    prefixAt mem data offset ≤ min (remaining - 4) maxExtracted

theorem accepted_of_overlong (overlong : Overlong mem data offset remaining) :
    Accepted mem data offset remaining := by
  obtain ⟨room, -, allowed⟩ := overlong
  unfold maxExtracted at allowed
  exact ⟨room, by omega, by omega⟩

theorem not_overlong_iff (accepted : Accepted mem data offset remaining) :
    ¬ Overlong mem data offset remaining ↔ stringEnd mem data offset ≤ remaining := by
  unfold Accepted at accepted
  unfold Overlong stringEnd maxExtracted
  omega

theorem not_overlong_front : ¬ Overlong mem data 0 remaining := by
  unfold Overlong
  omega

/-- The extraction fails, or gives the string behind the prefix with the offset behind it, and
that is not beyond what remains. -/
def ExtractsWithin (mem : Memory) (data offset remaining : Nat) (output : StdString) : Prop :=
  ∃ next s, returned (extractVariableString mem data offset remaining output) [] = some (next, s) ∧
    (next = 0 ∨
      next = offset + 4 + prefixAt mem data offset ∧
        s = bytesAt mem (data + (offset + 4)) (prefixAt mem data offset) ∧ next ≤ remaining)

theorem extractsWithin_iff (output : StdString) :
    ExtractsWithin mem data offset remaining output ↔ ¬ Overlong mem data offset remaining := by
  by_cases accepted : Accepted mem data offset remaining
  · rw [not_overlong_iff accepted]
    obtain ⟨after, run, -⟩ := extractVariableString_of_accepted accepted output []
    have value := returned_eq_some.mpr ⟨after, run⟩
    constructor
    · rintro ⟨next, s, value', failed | ⟨-, -, inside⟩⟩
      · cases value.symm.trans value'
        exact absurd failed (stringEnd_ne_zero mem data offset)
      · cases value.symm.trans value'
        exact inside
    · exact fun inside => ⟨_, _, value, Or.inr ⟨rfl, rfl, inside⟩⟩
  · obtain ⟨after, run, -⟩ := extractVariableString_of_not_accepted accepted output []
    constructor
    · exact fun _ overlong => accepted (accepted_of_overlong overlong)
    · exact fun _ => ⟨0, output, returned_eq_some.mpr ⟨after, run⟩, Or.inl rfl⟩

theorem extractsWithin_front (output : StdString) : ExtractsWithin mem data 0 remaining output :=
  (extractsWithin_iff output).mpr not_overlong_front

end Extraction

section Acknowledgment

/-- Of this many strings, each of which begins where the one before it ends, none is overlong. -/
def NoneOverlong (mem : Memory) (data remaining : Nat) : Nat → Nat → Prop
  | 0, _ => True
  | count + 1, offset =>
      ¬ Overlong mem data offset remaining ∧
        (Accepted mem data offset remaining →
          NoneOverlong mem data remaining count (stringEnd mem data offset))

theorem noneOverlong_of_end {count : Nat} (ends : remaining ≤ offset) :
    NoneOverlong mem data remaining count offset := by
  have nothing : ¬ Accepted mem data offset remaining := by
    unfold Accepted
    omega
  cases count with
  | zero => trivial
  | succ count =>
      exact ⟨fun overlong => nothing (accepted_of_overlong overlong),
        fun accepted => absurd accepted nothing⟩

/-- The decoder gets as far as the strings. -/
def IsAcknowledgment (mem : Memory) (data length : Nat) : Prop :=
  data ≠ 0 ∧ 16 ≤ length ∧
    validateHeader (headerAt mem data) ACKNOWLEDGMENT_TEMPLATE_ID TOPIC_SCHEMA_ID = true

theorem insideIff_string {α : Type} {output : StdString} {f : Nat × StdString → Decode α}
    {count : Nat} (above : lo ≤ data)
    (refused : Within (Stays lo (data + remaining)) (f (0, output)))
    (rest : InsideIff lo (data + remaining) (f (stringEnd mem data offset, stringBytes mem data offset))
      (NoneOverlong mem data remaining count (stringEnd mem data offset))) :
    InsideIff lo (data + remaining) (extractVariableString mem data offset remaining output >>= f)
      (NoneOverlong mem data remaining (count + 1) offset) := by
  refine insideIff_congr (insideIff_extractVariableString_bind above le_rfl refused rest) ?_
  rw [NoneOverlong, Nat.add_le_add_iff_left]
  by_cases accepted : Accepted mem data offset remaining
  · simp only [accepted, forall_const, not_overlong_iff accepted]
  · have fits : ¬ Overlong mem data offset remaining :=
      fun overlong => accepted (accepted_of_overlong overlong)
    simp only [accepted, false_implies, fits, not_false_eq_true, and_self]

theorem insideIff_decodeAcknowledgment (above : lo ≤ data) :
    InsideIff lo (data + length) (decodeAcknowledgment mem data length)
      (IsAcknowledgment mem data length → NoneOverlong mem (data + 16) (length - 16) 3 0) := by
  unfold decodeAcknowledgment
  by_cases short : data = 0 ∨ length < 8 + 8
  · rw [if_pos short]
    refine insideIff_of_within (within_pure _) fun ⟨here, long, _⟩ => ?_
    omega
  · rw [if_neg short]
    refine insideIff_decodeMessageHeader_bind (by omega) (by omega) above le_rfl ?_
    dsimp only
    cases kind : validateHeader (headerAt mem data) ACKNOWLEDGMENT_TEMPLATE_ID TOPIC_SCHEMA_ID with
    | false =>
        refine insideIff_of_within (within_pure _) fun ⟨_, _, accepted⟩ => ?_
        cases kind.symm.trans accepted
    | true =>
        have decoded : IsAcknowledgment mem data length := ⟨by omega, by omega, kind⟩
        have size : data + length = data + 16 + (length - 16) := by omega
        have rest : length - 8 - 8 = length - 16 := by omega
        simp only [decoded, forall_const]
        rw [rest, size]
        refine insideIff_bind_of_run (fun _ => ⟨_, rfl⟩)
          (within_readInt (inside_of_le (by omega) (by omega))) ?_
        -- the message id and the status; the error is looked for if anything is left
        refine insideIff_string (by omega) (within_pure _) ?_
        dsimp only
        rw [if_neg (stringEnd_ne_zero mem (data + 16) _)]
        refine insideIff_string (by omega) (within_pure _) ?_
        dsimp only
        rw [if_neg (stringEnd_ne_zero mem (data + 16) _)]
        split
        · refine insideIff_string (by omega) (within_pure _) ?_
          exact insideIff_of_within (within_pure _) trivial
        · exact insideIff_of_within (within_pure _) (noneOverlong_of_end (by omega))

theorem reads_inside_iff :
    AllInside data (data + length) (finalState (decodeAcknowledgment mem data length) []) ↔
      (IsAcknowledgment mem data length → NoneOverlong mem (data + 16) (length - 16) 3 0) := by
  rw [insideIff_decodeAcknowledgment le_rfl]
  exact and_iff_right fun range among => by cases among

end Acknowledgment

section Whole

variable {s : StdString} {strings : List StdString}

def chain (strings : List StdString) : List UInt8 := strings.flatMap lengthPrefixed

theorem string_of_held (limited : s.length ≤ maxExtracted)
    (held : Holds mem (data + offset) (lengthPrefixed s)) :
    prefixAt mem data offset = s.length ∧ stringBytes mem data offset = s := by
  obtain ⟨front, back⟩ := holds_append.mp held
  have count : prefixAt mem data offset = s.length :=
    ofBytes_of_holds_lt front (by unfold maxExtracted at limited; omega)
  rw [length_toBytes] at back
  refine ⟨count, ?_⟩
  unfold stringBytes
  rw [count]
  exact back

theorem extracted_of_held {ends : Nat} (limited : s.length ≤ maxExtracted)
    (held : Holds mem (data + offset) (lengthPrefixed s)) (last : ends = offset + (4 + s.length))
    (room : ends ≤ remaining) (output : StdString) (reads : List (Nat × Nat)) :
    ∃ after, (extractVariableString mem data offset remaining output).run reads =
      .ok (ends, s) after := by
  obtain ⟨count, bytes⟩ := string_of_held limited held
  have accepted : Accepted mem data offset remaining := by
    unfold maxExtracted at limited
    unfold Accepted
    omega
  obtain ⟨after, run, -⟩ := extractVariableString_of_accepted accepted output reads
  rw [bytes, stringEnd, count, Nat.add_assoc, ← last] at run
  exact ⟨after, run⟩

/-- In a chain that fills what remains, no string is overlong, however many are looked for. -/
theorem noneOverlong_of_held {count : Nat} (limited : ∀ s ∈ strings, s.length ≤ maxExtracted)
    (held : Holds mem (data + offset) (chain strings))
    (room : offset + (chain strings).length = remaining) :
    NoneOverlong mem data remaining count offset := by
  induction strings generalizing offset count with
  | nil => exact noneOverlong_of_end room.ge
  | cons s strings ih =>
      cases count with
      | zero => trivial
      | succ count =>
          have size : (chain (s :: strings)).length = 4 + s.length + (chain strings).length := by
            simp [chain, length_lengthPrefixed]
          obtain ⟨first, rest⟩ := holds_append.mp held
          rw [length_lengthPrefixed] at rest
          obtain ⟨count, -⟩ := string_of_held (limited s List.mem_cons_self) first
          have ends : stringEnd mem data offset = offset + (4 + s.length) := by
            unfold stringEnd
            omega
          rw [NoneOverlong, ends]
          refine ⟨?_, fun _ => ih (fun t among => limited t (List.mem_cons_of_mem s among))
            (by rwa [← Nat.add_assoc]) (by omega)⟩
          unfold Overlong
          omega

def frame (version : Nat) (timestamp : Int) (strings : List StdString) : List UInt8 :=
  (MessageHeader.mk 8 2 1 version).bytes ++ toBytes 8 (unsigned 8 timestamp) ++ chain strings

variable {version : Nat} {timestamp : Int}

theorem length_frame :
    (frame version timestamp strings).length = 16 + (chain strings).length := by
  simp only [frame, List.length_append, MessageHeader.length_bytes, length_toBytes]

/-- An acknowledgment that is whole is decoded without a read past its end. -/
theorem whole_read_inside (limited : ∀ s ∈ strings, s.length ≤ maxExtracted)
    (held : Holds mem data (frame version timestamp strings)) :
    AllInside data (data + (frame version timestamp strings).length)
      (finalState (decodeAcknowledgment mem data (frame version timestamp strings).length) []) := by
  obtain ⟨-, -, behind⟩ := holds_message held
  rw [length_toBytes] at behind
  have fills : 0 + (chain strings).length = (frame version timestamp strings).length - 16 := by
    rw [length_frame]
    omega
  rw [reads_inside_iff]
  exact fun _ => noneOverlong_of_held limited behind fills

theorem decoded_of_extracted {ends₁ ends₂ ends₃ : Nat} {messageId status error : StdString}
    (kind : IsAcknowledgment mem data length)
    (first : ∀ reads, ∃ after, (extractVariableString mem (data + 16) 0 (length - 16) []).run reads =
      .ok (ends₁, messageId) after) (some₁ : ends₁ ≠ 0)
    (second : ∀ reads, ∃ after,
      (extractVariableString mem (data + 16) ends₁ (length - 16) []).run reads =
        .ok (ends₂, status) after) (some₂ : ends₂ ≠ 0) (more : ends₂ < length - 16)
    (third : ∀ reads, ∃ after,
      (extractVariableString mem (data + 16) ends₂ (length - 16) []).run reads =
        .ok (ends₃, error) after) :
    returned (decodeAcknowledgment mem data length) [] =
      some (some (messageId, status, error, signed 8 (ofBytes (bytesAt mem (data + 8) 8)))) := by
  obtain ⟨here, long, accepted⟩ := kind
  have rest : length - 8 - 8 = length - 16 := by omega
  obtain ⟨after₁, run₁⟩ := first [(data + 8, 8), (data, 8)]
  obtain ⟨after₂, run₂⟩ := second after₁
  obtain ⟨after₃, run₃⟩ := third after₂
  refine returned_eq_some.mpr ⟨after₃, ?_⟩
  unfold decodeAcknowledgment
  rw [if_neg (by omega), EStateM.run_bind, decodeMessageHeader_run here (by omega)]
  dsimp only
  rw [accepted, if_neg (by decide), rest]
  refine bind_eq_ok.mpr ⟨_, _, rfl, bind_eq_ok.mpr ⟨_, _, run₁, ?_⟩⟩
  dsimp only
  rw [if_neg some₁]
  refine bind_eq_ok.mpr ⟨_, _, run₂, ?_⟩
  dsimp only
  rw [if_neg some₂, if_pos more]
  exact bind_eq_ok.mpr ⟨_, _, run₃, rfl⟩

/-- A whole acknowledgment is decoded with the strings and the timestamp that it was made of. -/
theorem whole_decoded {messageId status error : StdString} (here : data ≠ 0)
    (lower : -2 ^ 63 ≤ timestamp) (upper : timestamp < 2 ^ 63)
    (limited : ∀ s ∈ [messageId, status, error], s.length ≤ maxExtracted)
    (held : Holds mem data (frame version timestamp [messageId, status, error])) :
    returned (decodeAcknowledgment mem data
      (frame version timestamp [messageId, status, error]).length) [] =
        some (some (messageId, status, error, timestamp)) := by
  have room : (frame version timestamp [messageId, status, error]).length - 16 =
      4 + messageId.length + (4 + status.length) + (4 + error.length) := by
    rw [length_frame]
    simp [chain, length_lengthPrefixed]
    omega
  obtain ⟨header, stamp, strings⟩ := holds_message held
  have time : signed 8 (ofBytes (bytesAt mem (data + 8) 8)) = timestamp := by
    rw [ofBytes_of_holds_lt stamp (unsigned_lt 8 timestamp), signed_unsigned_int64 lower upper]
  have kind : IsAcknowledgment mem data
      (frame version timestamp [messageId, status, error]).length := by
    refine ⟨here, by rw [length_frame]; omega, ?_⟩
    rw [headerAt_of_holds header]
    rfl
  obtain ⟨short₁, short₂, short₃⟩ : messageId.length ≤ maxExtracted ∧
      status.length ≤ maxExtracted ∧ error.length ≤ maxExtracted := by
    simpa using limited
  rw [length_toBytes] at strings
  obtain ⟨first, others⟩ := holds_append.mp strings
  obtain ⟨second, last⟩ := holds_append.mp others
  obtain ⟨third, -⟩ := holds_append.mp last
  rw [length_lengthPrefixed] at second third
  rw [length_lengthPrefixed, Nat.add_assoc (data + 16)] at third
  have start : Holds mem (data + 16 + 0) (lengthPrefixed messageId) := first
  have decoded := decoded_of_extracted kind
    (extracted_of_held short₁ start (Nat.zero_add (4 + messageId.length)).symm (by omega) [])
    (by omega) (extracted_of_held short₂ second rfl (by omega) []) (by omega) (by omega)
    (extracted_of_held short₃ third rfl (by omega) [])
  rw [time] at decoded
  exact decoded

end Whole

section Strings

/-- The strings of a chain are extracted within what remains, and an acknowledgment is decoded
without a read past its end, exactly if the lengths that are reached are not overlong. -/
theorem strings_bounded_iff (mem : Memory) (data offset remaining length : Nat)
    (output : StdString) :
    (ExtractsWithin mem data offset remaining output ↔ ¬ Overlong mem data offset remaining) ∧
      (AllInside data (data + length) (finalState (decodeAcknowledgment mem data length) []) ↔
        (IsAcknowledgment mem data length → NoneOverlong mem (data + 16) (length - 16) 3 0)) :=
  ⟨extractsWithin_iff output, reads_inside_iff⟩

section Sample

/-- The message id and the status, which both fit the frame, but not one behind the other. -/
def twoStrings : List UInt8 := lengthPrefixed (ascii "id-1") ++ toBytes 4 8

/-- An acknowledgment that ends behind the length of its status. -/
def cutFrame : List UInt8 := (MessageHeader.mk 8 2 1 1).bytes ++ toBytes 8 7 ++ twoStrings

/-- The status is read from behind the end, and its extraction returns an offset beyond it. -/
theorem status_read_past_end :
    (¬ ∀ (mem : Memory) (data offset : Nat) (bytes : List UInt8) (output : StdString),
      Holds mem data bytes → offset ≤ bytes.length →
        ExtractsWithin mem data offset bytes.length output) ∧
    ¬ ∀ (mem : Memory) (data : Nat) (frame : List UInt8), Holds mem data frame →
      AllInside data (data + frame.length)
        (finalState (decodeAcknowledgment mem data frame.length) []) := by
  constructor
  · intro claim
    have within := claim (memoryOf 4096 twoStrings) 4096 8 twoStrings [] (holds_memoryOf 4096 _)
      (by decide)
    obtain ⟨next, s, value, bounded⟩ := within
    have beyond : (returned (extractVariableString (memoryOf 4096 twoStrings) 4096 8
        twoStrings.length []) []).map Prod.fst = some 20 := by
      decide +kernel
    rw [value] at beyond
    cases beyond
    rcases bounded with failed | ⟨-, -, inside⟩
    · cases failed
    · exact absurd inside (by decide)
  · intro claim
    have inside := claim (memoryOf 4096 cutFrame) 4096 cutFrame (holds_memoryOf 4096 _)
    have read : (4124, 8) ∈ finalState
        (decodeAcknowledgment (memoryOf 4096 cutFrame) 4096 cutFrame.length) [] := by
      decide +kernel
    exact absurd (inside _ read 0 (by decide)).2 (by decide)

end Sample

end Strings

end AeronClusterClient.Sbe.StringChain
