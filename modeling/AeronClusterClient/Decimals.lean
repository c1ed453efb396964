/- module: AeronClusterClient/Decimals
   source: the std::to_string and std::stoi uses of src/
   digest: A number that is written in decimal reads back. -/

import AeronClusterClient.Text
import Mathlib.Data.List.TakeWhile

set_option autoImplicit false
set_option relaxedAutoImplicit false

namespace AeronClusterClient.Decimals

open Text

section Digits

variable {s : StdString}

theorem toNat_of_isDigit {c : UInt8} (digit : isDigit c = true) : 48 ≤ c.toNat ∧ c.toNat ≤ 57 := by
  simpa [isDigit, UInt8.le_iff_toNat_le] using digit

theorem readDecimal_of_digits (filled : s ≠ []) (digits : s.all isDigit = true) :
    readDecimal s = some (false, digitsValue s) := by
  obtain ⟨c, rest, rfl⟩ := List.exists_cons_of_ne_nil filled
  have all : ∀ d ∈ c :: rest, isDigit d = true := List.all_eq_true.mp digits
  have range := toNat_of_isDigit (all c List.mem_cons_self)
  have other (d : UInt8) (below : d.toNat < 48) : c ≠ d := by
    rintro rfl
    omega
  have plain : isSpace c = false := by
    have blank : c ≠ 32 := other 32 (by decide)
    simp only [isSpace, Bool.or_eq_false_iff, beq_eq_false_iff_ne, ne_eq, blank, not_false_eq_true,
      Bool.and_eq_false_iff, decide_eq_false_iff_not, UInt8.le_iff_toNat_le, true_and]
    right
    change ¬ c.toNat ≤ 13
    omega
  have whole : (c :: rest).takeWhile isDigit = c :: rest := List.takeWhile_eq_self_iff.mpr all
  unfold readDecimal
  rw [List.dropWhile_cons_of_neg (by simp [plain])]
  split
  · next negative text sign =>
      split at sign
      · next minus =>
          cases minus
          exact absurd rfl (other 45 (by decide))
      · next plus =>
          cases plus
          exact absurd rfl (other 43 (by decide))
      · cases sign
        rw [whole]

/-- The value that `std::stoi` reads of digits, or `none` for `out_of_range`. -/
theorem stoi_of_digits (filled : s ≠ []) (digits : s.all isDigit = true) :
    stoi s = if digitsValue s ≤ 2147483647 then some (digitsValue s : Int) else none := by
  unfold stoi
  rw [readDecimal_of_digits filled digits]
  change (if -2147483648 ≤ (digitsValue s : Int) ∧ (digitsValue s : Int) ≤ 2147483647 then
    some (digitsValue s : Int) else none) = _
  by_cases small : digitsValue s ≤ 2147483647
  · rw [if_pos small, if_pos (by omega)]
  · rw [if_neg small, if_neg (by omega)]

theorem foldl_digits_eq_zero (start : Nat) (s : StdString) (digits : s.all isDigit = true) :
    s.foldl (fun n c => 10 * n + (c.toNat - 48)) start = 0 ↔ start = 0 ∧ ∀ c ∈ s, c = 48 := by
  induction s generalizing start with
  | nil => simp
  | cons c s ih =>
      obtain ⟨first, rest⟩ := Bool.and_eq_true_iff.mp digits
      have range := toNat_of_isDigit first
      have zero : c = 48 ↔ c.toNat = 48 := UInt8.toNat_inj.symm
      rw [List.foldl_cons, ih _ rest, List.forall_mem_cons, zero]
      constructor
      · rintro ⟨sum, others⟩
        exact ⟨by omega, by omega, others⟩
      · rintro ⟨none, here, others⟩
        exact ⟨by omega, others⟩

theorem digitsValue_eq_zero (digits : s.all isDigit = true) :
    digitsValue s = 0 ↔ ∀ c ∈ s, c = 48 := by
  rw [digitsValue, foldl_digits_eq_zero 0 s digits]
  simp

end Digits

section Written

theorem stdToString_natCast (n : Nat) :
    stdToString n = (Nat.toDigits 10 n).map fun c => UInt8.ofNat c.toNat := by
  change ascii (toString n) = _
  rw [ascii, Nat.toString_eq_ofList_toDigits, String.toList_ofList]

theorem stdToString_ne_nil (n : Nat) : stdToString n ≠ [] := by
  rw [stdToString_natCast]
  simp [Nat.toDigits_ne_nil]

theorem toNat_of_digitChar {c : Char} (digit : c.isDigit = true) :
    (UInt8.ofNat c.toNat).toNat = c.toNat ∧ 48 ≤ c.toNat ∧ c.toNat ≤ 57 := by
  have range : 48 ≤ c.toNat ∧ c.toNat ≤ 57 := by
    simpa [Char.isDigit, UInt32.le_iff_toNat_le] using digit
  refine ⟨?_, range⟩
  rw [UInt8.toNat_ofNat']
  omega

theorem all_isDigit_stdToString (n : Nat) : (stdToString n).all isDigit = true := by
  rw [stdToString_natCast, List.all_eq_true]
  intro byte among
  obtain ⟨c, written, rfl⟩ := List.mem_map.mp among
  have digit := Nat.isDigit_of_mem_toDigits (by decide) (by decide) written
  obtain ⟨same, low, high⟩ := toNat_of_digitChar digit
  simp only [isDigit, UInt8.le_iff_toNat_le, Bool.and_eq_true, decide_eq_true_eq, same]
  exact ⟨low, high⟩

theorem digitsValue_stdToString (n : Nat) : digitsValue (stdToString n) = n := by
  have value (chars : List Char) (start : Nat) (digits : ∀ c ∈ chars, c.isDigit = true) :
      (chars.map fun c => UInt8.ofNat c.toNat).foldl (fun n c => 10 * n + (c.toNat - 48)) start =
        Nat.ofDigitChars 10 chars start := by
    induction chars generalizing start with
    | nil => rfl
    | cons c chars ih =>
        have same := (toNat_of_digitChar (digits c List.mem_cons_self)).1
        rw [List.map_cons, List.foldl_cons, same, Nat.ofDigitChars_cons]
        exact ih _ fun d among => digits d (List.mem_cons_of_mem c among)
  rw [digitsValue, stdToString_natCast, value _ 0 fun c => Nat.isDigit_of_mem_toDigits (by decide) (by decide)]
  exact Nat.ofDigitChars_ten_toDigits

theorem stoi_stdToString {n : Nat} (small : n ≤ 2147483647) : stoi (stdToString n) = some (n : Int) := by
  rw [stoi_of_digits (stdToString_ne_nil n) (all_isDigit_stdToString n), digitsValue_stdToString,
    if_pos small]

end Written

end AeronClusterClient.Decimals
