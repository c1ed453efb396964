/- module: AeronClusterClient/Sbe/SequenceNumbers
   source: src/sbe_encoder.cpp (the sequence extraction of decode_topic_message_with_sbe)
   digest: Which sequence number is found in a payload, and when it is one that was sent. -/

import AeronClusterClient.Sbe.TopicFormats

/-!
The number is looked for at the payload and at up to three `message` members
below one another. Each kind of JSON number is converted to 64 unsigned bits in
its own way; a negative one is not refused but wraps.
-/

set_option autoImplicit false
set_option relaxedAutoImplicit false

namespace AeronClusterClient.Sbe.SequenceNumbers

open Lib.Action Lib.Bytes Lib.LittleEndian Sbe.GeneratedCodec Sbe.Parser Sbe.TopicFormats
open Text (StdString ascii isSpace isDigit digitsValue readDecimal stoull)
open Json (Jsoncpp Value isObject isMember member integral asUInt64? asInt64? extractSequence
  nestedMessage searchSequence sequenceNumberOfPayload compactJson readsBack_compactJson)

variable {json : Jsoncpp}

section Numbers

def digits (s : StdString) : Option Nat :=
  if s ≠ [] ∧ s.all isDigit then some (digitsValue s) else none

/-- An optionally signed decimal integer. -/
def decimal : StdString → Option Int
  | 45 :: s => (digits s).map fun n : Nat => (-n : Int)
  | 43 :: s => (digits s).map fun n : Nat => (n : Int)
  | s => (digits s).map fun n : Nat => (n : Int)

/-- The integer that a value stands for: an integral number or the text of one. An integer
beyond 64 bits is held as a double, which is beyond them as well. -/
def mathValue (json : Jsoncpp) : Value → Option Int
  | .string s => decimal s
  | v => integral json v

/-- A sequence number: strictly positive, and it fits in 64 unsigned bits. -/
def fits (z : Int) : Bool := 0 < z ∧ z < 2 ^ 64

/-- The conversion does not refuse a number that is none: a negative one of 64 bits, the text of a
negative one, or one beyond 64 bits whose double happens not to become zero. -/
def wraps (json : Jsoncpp) : Value → Int → Bool
  | .string _, z => -2 ^ 64 < z ∧ z < 0
  | .real bits, z =>
      -2 ^ 63 ≤ z ∧ z < 0 ∨ (z < -2 ^ 63 ∨ 2 ^ 64 ≤ z) ∧ json.realTruncated bits ≠ 0
  | _, z => -2 ^ 63 ≤ z ∧ z < 0

def wrapped (json : Jsoncpp) : Value → Int → Nat
  | .real bits, z => if -2 ^ 63 ≤ z ∧ z < 0 then (z % 2 ^ 64).toNat else json.realTruncated bits
  | _, z => (z % 2 ^ 64).toNat

theorem toNat_emod_ne_zero {z : Int} (lower : -2 ^ 64 < z) (negative : z < 0) :
    (z % 2 ^ 64).toNat ≠ 0 := by
  omega

theorem wrapped_ne_zero {v : Value} {z : Int} (wrap : wraps json v z = true) :
    wrapped json v z ≠ 0 := by
  cases v with
  | real bits =>
      have kind : -2 ^ 63 ≤ z ∧ z < 0 ∨ (z < -2 ^ 63 ∨ 2 ^ 64 ≤ z) ∧ json.realTruncated bits ≠ 0 :=
        of_decide_eq_true wrap
      change (if -2 ^ 63 ≤ z ∧ z < 0 then (z % 2 ^ 64).toNat else json.realTruncated bits) ≠ 0
      split
      · rename_i range
        exact toNat_emod_ne_zero (by omega) range.2
      · rename_i range
        exact (kind.resolve_left range).2
  | string s =>
      have range : -2 ^ 64 < z ∧ z < 0 := of_decide_eq_true wrap
      exact toNat_emod_ne_zero range.1 range.2
  | _ =>
      have range : -2 ^ 63 ≤ z ∧ z < 0 := of_decide_eq_true wrap
      exact toNat_emod_ne_zero (by omega) range.2

theorem digits_eq_some {s : StdString} {n : Nat} (value : digits s = some n) :
    s ≠ [] ∧ s.all isDigit = true ∧ digitsValue s = n := by
  unfold digits at value
  split at value
  · rename_i shape
    exact ⟨shape.1, shape.2, Option.some.inj value⟩
  · cases value

theorem takeWhile_of_digits {s : StdString} {n : Nat} (value : digits s = some n) :
    s.takeWhile isDigit = s ∧ s ≠ [] ∧ digitsValue s = n := by
  obtain ⟨some, all, same⟩ := digits_eq_some value
  refine ⟨?_, some, same⟩
  rw [List.takeWhile_eq_self_iff]
  exact List.all_eq_true.mp all

theorem read_of_digits {s : StdString} {n : Nat} (negative : Bool) (value : digits s = some n) :
    (match s.takeWhile isDigit with
      | [] => none
      | digits => some (negative, digitsValue digits)) = some (negative, n) := by
  obtain ⟨all, filled, same⟩ := takeWhile_of_digits value
  rw [all]
  split
  · exact absurd rfl filled
  · rw [same]

theorem of_isDigit {c : UInt8} (digit : isDigit c = true) : isSpace c = false ∧ c ≠ 45 ∧ c ≠ 43 := by
  simp only [isDigit, Bool.and_eq_true, decide_eq_true_eq, UInt8.le_iff_toNat_le] at digit
  have low : 48 ≤ c.toNat := digit.1
  have other (d : UInt8) (below : d.toNat < 48) : c ≠ d := by
    rintro rfl
    omega
  refine ⟨?_, other 45 (by decide), other 43 (by decide)⟩
  have blank : c ≠ 32 := other 32 (by decide)
  have past : ¬ c ≤ 13 := by
    intro below
    have : c.toNat ≤ 13 := below
    omega
  simp [isSpace, blank, past]

theorem readDecimal_of_digits {s : StdString} {n : Nat} (value : digits s = some n) :
    readDecimal s = some (false, n) := by
  obtain ⟨filled, all, -⟩ := digits_eq_some value
  obtain ⟨c, rest, rfl⟩ := List.exists_cons_of_ne_nil filled
  obtain ⟨noSpace, noMinus, noPlus⟩ := of_isDigit (List.all_eq_true.mp all c List.mem_cons_self)
  have here : (c :: rest).dropWhile isSpace = c :: rest := by
    rw [List.dropWhile_cons, noSpace]
    rfl
  unfold readDecimal
  rw [here]
  split
  rename_i negative tail sign
  split at sign
  · rename_i same
    exact absurd (List.cons.inj same).1 noMinus
  · rename_i same
    exact absurd (List.cons.inj same).1 noPlus
  · cases sign
    exact read_of_digits false value

theorem readDecimal_of_decimal {s : StdString} {z : Int} (value : decimal s = some z) :
    ∃ (negative : Bool) (n : Nat), readDecimal s = some (negative, n) ∧
      z = if negative then -(n : Int) else n := by
  unfold decimal at value
  split at value
  · obtain ⟨n, number, rfl⟩ := Option.map_eq_some_iff.mp value
    exact ⟨true, n, read_of_digits true number, rfl⟩
  · obtain ⟨n, number, rfl⟩ := Option.map_eq_some_iff.mp value
    exact ⟨false, n, read_of_digits false number, rfl⟩
  · obtain ⟨n, number, rfl⟩ := Option.map_eq_some_iff.mp value
    exact ⟨false, n, readDecimal_of_digits number, rfl⟩

/-- The text of an integer is refused, or taken modulo `2 ^ 64`. -/
theorem stoull_of_decimal {s : StdString} {z : Int} (value : decimal s = some z) :
    stoull s = if -2 ^ 64 < z ∧ z < 2 ^ 64 then some (z % 2 ^ 64).toNat else none := by
  obtain ⟨negative, n, read, same⟩ := readDecimal_of_decimal value
  have magnitude : n < 2 ^ 64 ↔ -2 ^ 64 < z ∧ z < 2 ^ 64 := by
    cases negative with
    | false =>
        change z = n at same
        omega
    | true =>
        change z = -n at same
        omega
  have modulo (small : n < 2 ^ 64) :
      (if negative then (2 ^ 64 - n) % 2 ^ 64 else n) = (z % 2 ^ 64).toNat := by
    cases negative with
    | false =>
        change z = n at same
        change n = _
        omega
    | true =>
        change z = -n at same
        change (2 ^ 64 - n) % 2 ^ 64 = _
        omega
  have converted : stoull s = if n < 2 ^ 64 then
      some (if negative then (2 ^ 64 - n) % 2 ^ 64 else n) else none := by
    unfold stoull
    rw [read]
    rfl
  rw [converted]
  by_cases small : n < 2 ^ 64
  · rw [if_pos small, if_pos (magnitude.mp small), modulo small]
  · rw [if_neg small, if_neg fun range => small (magnitude.mpr range)]

def extracted (json : Jsoncpp) (v : Value) : Nat :=
  extractSequence json (.object [(ascii "_sequence_number", v)])

theorem asUInt64?_of_integral {v : Value} {z : Int} (value : integral json v = some z) :
    asUInt64? json v = if 0 ≤ z ∧ z < 2 ^ 64 then some z.toNat else none := by
  unfold asUInt64?
  rw [value]
  rfl

theorem asInt64?_of_integral {v : Value} {z : Int} (value : integral json v = some z) :
    asInt64? json v = if -2 ^ 63 ≤ z ∧ z < 2 ^ 63 then some z else none := by
  unfold asInt64?
  rw [value]
  rfl

section Kinds

variable {v : Value} {z : Int}

theorem extracted_of_unsigned (value : integral json v = some z) (range : 0 ≤ z ∧ z < 2 ^ 64) :
    extracted json v = z.toNat := by
  have unsigned := asUInt64?_of_integral value
  rw [if_pos range] at unsigned
  simp [extracted, extractSequence, unsigned]

theorem extracted_of_negative (value : integral json v = some z) (range : -2 ^ 63 ≤ z ∧ z < 0) :
    extracted json v = (z % 2 ^ 64).toNat := by
  have unsigned := asUInt64?_of_integral value
  have signed := asInt64?_of_integral value
  rw [if_neg (by omega)] at unsigned
  rw [if_pos (by omega)] at signed
  simp [extracted, extractSequence, unsigned, signed]

theorem extracted_of_beyond (value : integral json v = some z) (range : z < -2 ^ 63 ∨ 2 ^ 64 ≤ z) :
    extracted json v = match v with
      | .real bits => json.realTruncated bits
      | _ => 0 := by
  have noUnsigned : asUInt64? json v = none := by
    rw [asUInt64?_of_integral value]
    exact if_neg (by omega)
  have noSigned : asInt64? json v = none := by
    rw [asInt64?_of_integral value]
    exact if_neg (by omega)
  unfold extracted extractSequence
  simp only [List.find?_cons, beq_self_eq_true, noUnsigned, noSigned]
  cases v with
  | string s => cases value
  | _ => rfl

theorem extracted_of_text (s : StdString) : extracted json (.string s) = (stoull s).getD 0 := by
  simp [extracted, extractSequence, asUInt64?, asInt64?, integral]

theorem wraps_of_integral (value : integral json v = some z) : wraps json v z = true ↔
    (-2 ^ 63 ≤ z ∧ z < 0) ∨
      ∃ bits, v = .real bits ∧ (z < -2 ^ 63 ∨ 2 ^ 64 ≤ z) ∧ json.realTruncated bits ≠ 0 := by
  cases v with
  | string s => cases value
  | real bits => simp [wraps]
  | _ => simp [wraps]

theorem extracted_of_number (value : integral json v = some z) : extracted json v =
    if fits z then z.toNat else if wraps json v z then wrapped json v z else 0 := by
  have wrap := wraps_of_integral value
  by_cases unsigned : 0 ≤ z ∧ z < 2 ^ 64
  · have noWrap : ¬ wraps json v z = true := by
      rintro wrapping
      rcases wrap.mp wrapping with negative | ⟨_, -, beyond, -⟩
      · omega
      · omega
    rw [extracted_of_unsigned value unsigned, if_neg noWrap]
    split
    · rfl
    · rename_i zero
      have least : ¬ (0 < z ∧ z < 2 ^ 64) := fun positive => zero (decide_eq_true positive)
      omega
  · have noFit : ¬ fits z = true := by
      intro fit
      have positive : 0 < z ∧ z < 2 ^ 64 := of_decide_eq_true fit
      omega
    rw [if_neg noFit]
    by_cases negative : -2 ^ 63 ≤ z ∧ z < 0
    · rw [extracted_of_negative value negative, if_pos (wrap.mpr (Or.inl negative))]
      cases v with
      | real bits => exact (if_pos negative).symm
      | _ => rfl
    · rw [extracted_of_beyond value (by omega)]
      cases v with
      | real bits =>
          have become : wrapped json (.real bits) z = json.realTruncated bits := if_neg negative
          dsimp only
          split
          · exact become.symm
          · rename_i refused
            by_contra left
            exact refused (wrap.mpr (Or.inr ⟨bits, rfl, by omega, left⟩))
      | _ =>
          refine (if_neg fun wrapping => ?_).symm
          rcases wrap.mp wrapping with range | ⟨bits, same, -⟩
          · exact negative range
          · cases same

end Kinds

/-- An integer that fits is found exactly; of the others, those that wrap are not refused. -/
theorem extracted_eq {v : Value} {z : Int} (value : mathValue json v = some z) :
    extracted json v =
      if fits z then z.toNat else if wraps json v z then wrapped json v z else 0 := by
  cases v with
  | string s =>
      have magnitude : fits z = true ↔ 0 < z ∧ z < 2 ^ 64 := decide_eq_true_iff
      have wrap : wraps json (.string s) z = true ↔ -2 ^ 64 < z ∧ z < 0 := decide_eq_true_iff
      have become : wrapped json (.string s) z = (z % 2 ^ 64).toNat := rfl
      rw [extracted_of_text, stoull_of_decimal value, become]
      split_ifs with range fit wrapping
      · have positive := magnitude.mp fit
        rw [Option.getD_some]
        omega
      · rfl
      · have zero : z = 0 := by
          rw [magnitude] at fit
          rw [wrap] at wrapping
          omega
        rw [zero]
        rfl
      · have positive := magnitude.mp ‹_›
        omega
      · have negative := wrap.mp ‹_›
        omega
      · rfl
  | _ => exact extracted_of_number value

end Numbers

section Levels

/-- A value and the `message` objects below it, at most `depth` of them. -/
def levels : Nat → Value → List Value
  | 0, v => [v]
  | depth + 1, v =>
      v :: if isObject (member v (ascii "message")) then levels depth (member v (ascii "message"))
        else []

def sequenceMember : Value → Option Value
  | .object members => (members.find? (fun m => m.1 == ascii "_sequence_number")).map Prod.snd
  | _ => none

/-- The `_sequence_number` members along the path, in the order in which they are tried. -/
def sequenceMembers (root : Value) : List Value := (levels 3 root).filterMap sequenceMember

theorem extractSequence_eq (v : Value) :
    extractSequence json v = ((sequenceMember v).map (extracted json)).getD 0 := by
  cases v with
  | object members =>
      unfold extracted extractSequence sequenceMember
      simp only [List.find?_cons, beq_self_eq_true]
      cases found : members.find? (fun m => m.1 == ascii "_sequence_number") with
      | none => rfl
      | some entry => rfl
  | _ => rfl

theorem nestedMessage_eq {v : Value} (object : isObject v = true) : nestedMessage v =
    .ok (if isObject (member v (ascii "message")) then some (member v (ascii "message")) else none) := by
  cases v with
  | object members =>
      have present : isMember (.object members) (ascii "message") =
          .ok (members.any (fun m => m.1 == ascii "message")) := rfl
      unfold nestedMessage
      rw [present]
      cases among : members.any (fun m => m.1 == ascii "message") with
      | true => rfl
      | false =>
          have absent : members.find? (fun m => m.1 == ascii "message") = none := by
            rw [List.find?_eq_none]
            exact fun m here => by simpa using List.any_eq_false.mp among m here
          have null : member (.object members) (ascii "message") = .null := by
            simp [member, absent]
          rw [null]
          rfl
  | _ => cases object

/-- The search ends at the first number that is not zero. -/
theorem searchSequence_eq {depth : Nat} {v : Value} (object : isObject v = true) :
    searchSequence json depth v =
      .ok ((((levels depth v).map (extractSequence json)).find? (· ≠ 0)).getD 0) := by
  induction depth generalizing v with
  | zero =>
      by_cases zero : extractSequence json v = 0
      · simp [searchSequence, levels, zero]
      · simp [searchSequence, levels, zero]
  | succ depth ih =>
      by_cases zero : extractSequence json v = 0
      · rw [searchSequence, if_neg (not_not.mpr zero), nestedMessage_eq object, levels, List.map_cons,
          List.find?_cons_of_neg (by simpa using zero)]
        by_cases nested : isObject (member v (ascii "message")) = true
        · rw [if_pos nested, if_pos nested]
          exact ih nested
        · rw [if_neg nested, if_neg nested]
          rfl
      · rw [searchSequence, if_pos zero, levels, List.map_cons,
          List.find?_cons_of_pos (by simpa using zero), Option.getD_some]

theorem find_extractSequence (vs : List Value) :
    ((vs.map (extractSequence json)).find? (· ≠ 0)).getD 0 =
      (((vs.filterMap sequenceMember).map (extracted json)).find? (· ≠ 0)).getD 0 := by
  induction vs with
  | nil => rfl
  | cons v vs ih =>
      rw [List.map_cons, extractSequence_eq]
      cases entry : sequenceMember v with
      | none =>
          rw [List.filterMap_cons_none entry, List.find?_cons_of_neg (by simp)]
          exact ih
      | some seqValue =>
          rw [List.filterMap_cons_some entry, List.map_cons, Option.map_some, Option.getD_some]
          by_cases zero : extracted json seqValue = 0
          · rw [List.find?_cons_of_neg (by simpa using zero),
              List.find?_cons_of_neg (by simpa using zero)]
            exact ih
          · rw [List.find?_cons_of_pos (by simpa using zero),
              List.find?_cons_of_pos (by simpa using zero)]

theorem sequenceNumberOfPayload_eq {payload : StdString} {root : Value} (filled : payload ≠ [])
    (parse : json.parse payload = .ok (some root)) : sequenceNumberOfPayload json payload =
      (((sequenceMembers root).map (extracted json)).find? (· ≠ 0)).getD 0 := by
  unfold sequenceNumberOfPayload sequenceMembers
  rw [if_neg filled, parse, ← find_extractSequence]
  cases root with
  | object members =>
      dsimp only
      rw [searchSequence_eq rfl]
      rfl
  | _ => rfl

end Levels

section FirstNumber

/-- The numbers along the path, each beside the integer that it stands for. -/
def numbers (json : Jsoncpp) (vs : List Value) : List (Value × Int) :=
  vs.filterMap fun v => (mathValue json v).map fun z => (v, z)

/-- The first sequence number along the path, 0 if there is none. -/
def firstFitting (json : Jsoncpp) (root : Value) : Nat :=
  (((numbers json (sequenceMembers root)).find? fun p => fits p.2).map fun p => p.2.toNat).getD 0

/-- The first number that is not refused, whether it fits or wraps. -/
def firstTaken (json : Jsoncpp) (vs : List Value) : Option (Value × Int) :=
  (numbers json vs).find? fun p => fits p.2 || wraps json p.1 p.2

/-- Every `_sequence_number` along the path is an integer or the text of one. -/
def Whole (json : Jsoncpp) (vs : List Value) : Prop := ∀ v ∈ vs, ∃ z, mathValue json v = some z

theorem find_extracted {vs : List Value} (whole : Whole json vs) :
    ((vs.map (extracted json)).find? (· ≠ 0)).getD 0 =
      ((firstTaken json vs).map fun p =>
        if fits p.2 then p.2.toNat else wrapped json p.1 p.2).getD 0 := by
  induction vs with
  | nil => rfl
  | cons v vs ih =>
      obtain ⟨z, value⟩ := whole v List.mem_cons_self
      have later := ih fun w among => whole w (List.mem_cons_of_mem v among)
      have entry : numbers json (v :: vs) = (v, z) :: numbers json vs := by
        simp [numbers, value]
      have found := extracted_eq value
      unfold firstTaken at later ⊢
      rw [List.map_cons, entry]
      by_cases fit : fits z = true
      · have positive : 0 < z ∧ z < 2 ^ 64 := of_decide_eq_true fit
        rw [if_pos fit] at found
        rw [List.find?_cons_of_pos (by simp only [found, ne_eq, decide_eq_true_eq]; omega),
          List.find?_cons_of_pos (by simp [fit]), Option.map_some, if_pos fit]
        exact found
      · rw [if_neg fit] at found
        by_cases wrap : wraps json v z = true
        · rw [if_pos wrap] at found
          rw [List.find?_cons_of_pos (by simpa [found] using wrapped_ne_zero wrap),
            List.find?_cons_of_pos (by simp [wrap]), Option.map_some, if_neg fit]
          exact found
        · rw [if_neg wrap] at found
          rw [List.find?_cons_of_neg (by simp [found]), List.find?_cons_of_neg (by simp [fit, wrap])]
          exact later

theorem sequenceNumber_of_fields {mem : Memory} {data : Nat} {header : MessageHeader}
    {fly : Flyweight} {reads after : List (Nat × Nat)} {r : ParseResult}
    (run : (readTopicFields mem json data header fly).run reads = .ok r after) :
    r.sequenceNumber = sequenceNumberOfPayload json r.payload := by
  unfold readTopicFields at run
  obtain ⟨timestamp, _, -, run⟩ := bind_eq_ok.mp run
  obtain ⟨⟨topic, _⟩, _, -, run⟩ := bind_eq_ok.mp run
  obtain ⟨⟨messageType, _⟩, _, -, run⟩ := bind_eq_ok.mp run
  obtain ⟨⟨uuid, _⟩, _, -, run⟩ := bind_eq_ok.mp run
  obtain ⟨⟨payload, _⟩, _, -, run⟩ := bind_eq_ok.mp run
  obtain ⟨unused, _, -, run⟩ := bind_eq_ok.mp run
  obtain ⟨headers, _, -, run⟩ := bind_eq_ok.mp run
  cases run
  rfl

theorem sequenceNumber_of_decoded {mem : Memory} {data length : Nat} {reads : List (Nat × Nat)}
    {r : ParseResult}
    (decoded : returned (decodeTopicMessageWithSbe mem json data length) reads = some r) :
    r.sequenceNumber = sequenceNumberOfPayload json r.payload := by
  obtain ⟨after, run⟩ := returned_eq_some.mp decoded
  unfold decodeTopicMessageWithSbe at run
  cases body : (readTopicMessage mem json data length).run reads with
  | error what log =>
      rw [tryCatch_of_error body] at run
      cases run
      rfl
  | ok result log =>
      cases (tryCatch_of_ok body).symm.trans run
      rcases readTopicMessage_eq_ok body with ⟨message, rfl⟩ | ⟨fly, log, -, fields⟩
      · rfl
      · exact sequenceNumber_of_fields fields

theorem find_fits {vs : List Value} {p : Value × Int} (taken : firstTaken json vs = some p)
    (fit : fits p.2 = true) : (numbers json vs).find? (fun p => fits p.2) = some p := by
  obtain ⟨-, before, later, split, none⟩ := List.find?_eq_some_iff_append.mp taken
  refine List.find?_eq_some_iff_append.mpr ⟨fit, before, later, split, fun q among => ?_⟩
  have refused := none q among
  simp only [Bool.not_eq_true', Bool.or_eq_false_iff] at refused
  simpa using refused.1

/-- The reported sequence number is the first one that was sent exactly if the first number that is
not refused fits, or wraps to just that one. -/
theorem sequenceNumber_exact_iff {mem : Memory} {data length : Nat} {reads : List (Nat × Nat)}
    {r : ParseResult} {root : Value}
    (decoded : returned (decodeTopicMessageWithSbe mem json data length) reads = some r)
    (filled : r.payload ≠ []) (parse : json.parse r.payload = .ok (some root))
    (whole : Whole json (sequenceMembers root)) :
    r.sequenceNumber = firstFitting json root ↔
      ∀ p ∈ firstTaken json (sequenceMembers root),
        fits p.2 = true ∨ wrapped json p.1 p.2 = firstFitting json root := by
  rw [sequenceNumber_of_decoded decoded, sequenceNumberOfPayload_eq filled parse,
    find_extracted whole]
  cases taken : firstTaken json (sequenceMembers root) with
  | none =>
      have noFit : (numbers json (sequenceMembers root)).find? (fun p => fits p.2) = none := by
        rw [List.find?_eq_none]
        intro p among fit
        have refused := List.find?_eq_none.mp taken p among
        simp [fit] at refused
      have zero : firstFitting json root = 0 := by
        unfold firstFitting
        rw [noFit]
        rfl
      rw [zero]
      exact iff_of_true rfl fun p among => by cases among
  | some p =>
      rw [Option.map_some, Option.getD_some]
      by_cases fit : fits p.2 = true
      · have first : firstFitting json root = p.2.toNat := by
          unfold firstFitting
          rw [find_fits taken fit]
          rfl
        rw [if_pos fit, first]
        refine iff_of_true rfl ?_
        rintro q ⟨⟩
        exact Or.inl fit
      · rw [if_neg fit]
        constructor
        · rintro same q ⟨⟩
          exact Or.inr same
        · exact fun taken => (taken p rfl).resolve_left fit

section Sample

def numbered (i : Int) : Value := .object [(ascii "_sequence_number", .int i)]

def numberedJson (i : Int) : Jsoncpp := compactJson (fun _ => []) (numbered i)

def numberedFrame (i : Int) : List UInt8 :=
  messageFrame 1 (toBytes 16 0) (ascii "orders") (ascii "CREATE_ORDER") (ascii "msg_1")
    ((numberedJson i).write (numbered i)) []

theorem whole_numbered (json : Jsoncpp) (i : Int) : Whole json (sequenceMembers (numbered i)) := by
  have only : sequenceMembers (numbered i) = [.int i] := rfl
  rw [only]
  intro v among
  cases List.mem_singleton.mp among
  exact ⟨i, rfl⟩

theorem sequenceNumber_exact_iff_sample : ∃ r : ParseResult,
    returned (decodeTopicMessageWithSbe (memoryOf 4096 (numberedFrame 7)) (numberedJson 7) 4096
      (numberedFrame 7).length) [] = some r ∧
    (r.sequenceNumber = firstFitting (numberedJson 7) (numbered 7) ↔
      ∀ p ∈ firstTaken (numberedJson 7) (sequenceMembers (numbered 7)),
        fits p.2 = true ∨
          wrapped (numberedJson 7) p.1 p.2 = firstFitting (numberedJson 7) (numbered 7)) := by
  have payload : (returned (decodeTopicMessageWithSbe (memoryOf 4096 (numberedFrame 7))
      (numberedJson 7) 4096 (numberedFrame 7).length) []).map ParseResult.payload =
        some ((numberedJson 7).write (numbered 7)) := by
    decide +kernel
  obtain ⟨r, decoded, same⟩ := Option.map_eq_some_iff.mp payload
  refine ⟨r, decoded, sequenceNumber_exact_iff decoded ?_ ?_ (whole_numbered _ 7)⟩
  · rw [same]
    decide
  · rw [same]
    exact readsBack_compactJson _ _

/-- The number -1 is reported as the last of the stream. -/
theorem negative_number_wraps :
    ¬ ∀ (json : Jsoncpp) (mem : Memory) (data length : Nat) (reads : List (Nat × Nat))
        (r : ParseResult) (root : Value),
      returned (decodeTopicMessageWithSbe mem json data length) reads = some r →
      r.payload ≠ [] → json.parse r.payload = .ok (some root) → Whole json (sequenceMembers root) →
      r.sequenceNumber = firstFitting json root := by
  intro claim
  have result : (returned (decodeTopicMessageWithSbe (memoryOf 4096 (numberedFrame (-1)))
      (numberedJson (-1)) 4096 (numberedFrame (-1)).length) []).map
        (fun r => (r.payload, r.sequenceNumber)) =
      some ((numberedJson (-1)).write (numbered (-1)), 18446744073709551615) := by
    decide +kernel
  obtain ⟨r, decoded, same⟩ := Option.map_eq_some_iff.mp result
  obtain ⟨payload, number⟩ := Prod.mk.inj same
  have filled : r.payload ≠ [] := by
    rw [payload]
    decide
  have parse : (numberedJson (-1)).parse r.payload = .ok (some (numbered (-1))) := by
    rw [payload]
    exact readsBack_compactJson _ _
  have exact := claim (numberedJson (-1)) (memoryOf 4096 (numberedFrame (-1))) 4096 _ [] r _ decoded
    filled parse (whole_numbered _ (-1))
  have none : firstFitting (numberedJson (-1)) (numbered (-1)) = 0 := by
    decide
  rw [number, none] at exact
  cases exact

end Sample

end FirstNumber

end AeronClusterClient.Sbe.SequenceNumbers
