/- module: AeronClusterClient/Lib/JsonText
   generality: any text, any list of members
   digest: The grammar of JSON texts, and objects that are put together without escapes. -/

import Mathlib.Algebra.Order.BigOperators.Group.List
import Mathlib.Algebra.Order.Group.Nat
import Mathlib.Algebra.Ring.Nat
import Mathlib.Data.List.Nodup
import Mathlib.Data.List.Perm.Subperm

/-!
A text denotes a tree by a derivation of the grammar. Bytes from 128 on are
passed through, as parts of UTF-8 sequences. An escape is longer than what it
stands for, so that a text has room for its members only if each of them is
written plainly.
-/

set_option autoImplicit false
set_option relaxedAutoImplicit false

namespace AeronClusterClient.Lib.JsonText

abbrev Bytes := List UInt8

/-- A JSON value. The members of an object stand in the order of the text. -/
inductive Tree
  | null
  | bool (b : Bool)
  | number (text : Bytes)
  | string (s : Bytes)
  | array (items : List Tree)
  | object (members : List (Bytes × Tree))

section Grammar

/-- White space between tokens. -/
def Blank (w : Bytes) : Prop := ∀ c ∈ w, c = 32 ∨ c = 9 ∨ c = 10 ∨ c = 13

/-- A byte that stands for itself in a string: neither a quote nor a backslash nor a control
character. -/
def plain (c : UInt8) : Bool := 32 ≤ c && c != 34 && c != 92

def Plain (s : Bytes) : Prop := ∀ c ∈ s, plain c = true

instance (s : Bytes) : Decidable (Plain s) := decidable_of_iff (s.all plain = true) List.all_eq_true

def hexDigit (c : UInt8) : Option Nat :=
  if 48 ≤ c ∧ c ≤ 57 then some (c.toNat - 48)
  else if 65 ≤ c ∧ c ≤ 70 then some (c.toNat - 55)
  else if 97 ≤ c ∧ c ≤ 102 then some (c.toNat - 87)
  else none

def hexValue (a b c d : UInt8) : Option Nat := do
  return 4096 * (← hexDigit a) + 256 * (← hexDigit b) + 16 * (← hexDigit c) + (← hexDigit d)

/-- The characters behind a backslash, each with the byte that the two stand for. -/
def shortEscapes : List (UInt8 × UInt8) :=
  [(34, 34), (92, 92), (47, 47), (98, 8), (102, 12), (110, 10), (114, 13), (116, 9)]

/-- A character of a string, and the bytes that it stands for. A character beyond 16 bits is
escaped as two surrogates. -/
inductive Character : Bytes → Bytes → Prop
  | plain {c : UInt8} (itself : plain c = true) : Character [c] [c]
  | short {e c : UInt8} (escape : (e, c) ∈ shortEscapes) : Character [92, e] [c]
  | unit {d₁ d₂ d₃ d₄ : UInt8} {c : Char} (value : hexValue d₁ d₂ d₃ d₄ = some c.toNat) :
      Character [92, 117, d₁, d₂, d₃, d₄] (String.utf8EncodeChar c)
  | pair {d₁ d₂ d₃ d₄ e₁ e₂ e₃ e₄ : UInt8} {high low : Nat} {c : Char}
      (first : hexValue d₁ d₂ d₃ d₄ = some high) (second : hexValue e₁ e₂ e₃ e₄ = some low)
      (isHigh : 0xD800 ≤ high ∧ high < 0xDC00) (isLow : 0xDC00 ≤ low ∧ low < 0xE000)
      (value : c.toNat = 0x10000 + 0x400 * (high - 0xD800) + (low - 0xDC00)) :
      Character [92, 117, d₁, d₂, d₃, d₄, 92, 117, e₁, e₂, e₃, e₄] (String.utf8EncodeChar c)

inductive Characters : Bytes → Bytes → Prop
  | nil : Characters [] []
  | cons {raw raws s t : Bytes} (head : Character raw s) (tail : Characters raws t) :
      Characters (raw ++ raws) (s ++ t)

def Digits (s : Bytes) : Prop := s ≠ [] ∧ ∀ c ∈ s, 48 ≤ c ∧ c ≤ 57

inductive Number : Bytes → Prop
  | mk {minus int frac exp : Bytes} (sign : minus = [] ∨ minus = [45])
      (whole : int = [48] ∨ Digits int ∧ int.head? ≠ some 48)
      (fraction : frac = [] ∨ ∃ d, Digits d ∧ frac = 46 :: d)
      (exponent : exp = [] ∨ ∃ e expSign d, (e = 69 ∨ e = 101) ∧
        (expSign = [] ∨ expSign = [43] ∨ expSign = [45]) ∧ Digits d ∧ exp = e :: (expSign ++ d)) :
      Number (minus ++ int ++ frac ++ exp)

/-- What a piece of a text is. -/
inductive Phrase
  | value (t : Tree)
  | items (ts : List Tree)
  | members (ms : List (Bytes × Tree))

inductive Text : Bytes → Phrase → Prop
  | null : Text [110, 117, 108, 108] (.value .null)
  | true : Text [116, 114, 117, 101] (.value (.bool true))
  | false : Text [102, 97, 108, 115, 101] (.value (.bool false))
  | number {s : Bytes} (number : Number s) : Text s (.value (.number s))
  | string {raw s : Bytes} (chars : Characters raw s) : Text (34 :: (raw ++ [34])) (.value (.string s))
  | emptyArray {w : Bytes} (blank : Blank w) : Text (91 :: (w ++ [93])) (.value (.array []))
  | array {s : Bytes} {ts : List Tree} (items : Text s (.items ts)) :
      Text (91 :: (s ++ [93])) (.value (.array ts))
  | emptyObject {w : Bytes} (blank : Blank w) : Text (123 :: (w ++ [125])) (.value (.object []))
  | object {s : Bytes} {ms : List (Bytes × Tree)} (members : Text s (.members ms)) :
      Text (123 :: (s ++ [125])) (.value (.object ms))
  | item {w s w' : Bytes} {t : Tree} (before : Blank w) (value : Text s (.value t))
      (after : Blank w') : Text (w ++ s ++ w') (.items [t])
  | moreItems {s s' : Bytes} {t : Tree} {ts : List Tree} (first : Text s (.items [t]))
      (rest : Text s' (.items ts)) : Text (s ++ 44 :: s') (.items (t :: ts))
  | member {w raw name w' v s v' : Bytes} {t : Tree} (before : Blank w)
      (chars : Characters raw name) (colonBefore : Blank w') (colonAfter : Blank v)
      (value : Text s (.value t)) (after : Blank v') :
      Text (w ++ 34 :: (raw ++ 34 :: (w' ++ 58 :: (v ++ s ++ v')))) (.members [(name, t)])
  | moreMembers {s s' : Bytes} {m : Bytes × Tree} {ms : List (Bytes × Tree)}
      (first : Text s (.members [m])) (rest : Text s' (.members ms)) :
      Text (s ++ 44 :: s') (.members (m :: ms))

/-- A whole text, with white space around its value. -/
def Denotes (text : Bytes) (t : Tree) : Prop :=
  ∃ w s w', Blank w ∧ Blank w' ∧ text = w ++ s ++ w' ∧ Text s (.value t)

end Grammar

section Room

/-- How many bytes of a string have to be escaped. -/
def escaped (s : Bytes) : Nat := s.countP fun c => !plain c

theorem escaped_eq_zero {s : Bytes} : escaped s = 0 ↔ Plain s := by
  simp [escaped, Plain, List.countP_eq_zero]

theorem escaped_le_length (s : Bytes) : escaped s ≤ s.length := List.countP_le_length

theorem hexDigit_lt {c : UInt8} {n : Nat} (value : hexDigit c = some n) : n < 16 := by
  unfold hexDigit at value
  split_ifs at value with digit upper lower
  · cases value
    have : c.toNat ≤ 57 := digit.2
    omega
  · cases value
    have : c.toNat ≤ 70 := upper.2
    omega
  · cases value
    have : c.toNat ≤ 102 := lower.2
    omega

theorem hexValue_lt {a b c d : UInt8} {n : Nat} (value : hexValue a b c d = some n) : n < 65536 := by
  unfold hexValue at value
  simp only [Option.bind_eq_bind, Option.bind_eq_some_iff] at value
  obtain ⟨i, first, j, second, k, third, l, fourth, sum⟩ := value
  have := hexDigit_lt first
  have := hexDigit_lt second
  have := hexDigit_lt third
  have := hexDigit_lt fourth
  cases sum
  omega

theorem utf8Size_le_three {c : Char} (small : c.toNat < 65536) : c.utf8Size ≤ 3 := by
  have most := c.utf8Size_le_four
  by_contra four
  have large : 0xffff < c.val := Char.utf8Size_eq_four_iff.mp (by omega)
  have : 65535 < c.toNat := large
  omega

/-- An escape is longer than what it stands for by what that has to have escaped. -/
theorem Character.room {raw s : Bytes} (char : Character raw s) : s.length + escaped s ≤ raw.length := by
  cases char with
  | @plain c itself =>
      have none : escaped [c] = 0 := escaped_eq_zero.mpr (by simpa [Plain] using itself)
      rw [none]
      rfl
  | @short e c escape =>
      have most := escaped_le_length [c]
      simp only [List.length_cons, List.length_nil] at most ⊢
      omega
  | @unit _ _ _ _ c value =>
      have most := escaped_le_length (String.utf8EncodeChar c)
      have size := utf8Size_le_three (hexValue_lt value)
      rw [String.length_utf8EncodeChar] at most ⊢
      simp only [List.length_cons, List.length_nil]
      omega
  | @pair _ _ _ _ _ _ _ _ high low c first second isHigh isLow value =>
      have most := escaped_le_length (String.utf8EncodeChar c)
      have size := c.utf8Size_le_four
      rw [String.length_utf8EncodeChar] at most ⊢
      simp only [List.length_cons, List.length_nil]
      omega

theorem Characters.room {raw s : Bytes} (chars : Characters raw s) :
    s.length + escaped s ≤ raw.length := by
  induction chars with
  | nil => exact le_rfl
  | @cons raw raws s t head tail ih =>
      have front := head.room
      have sum : escaped (s ++ t) = escaped s + escaped t := List.countP_append
      rw [sum, List.length_append, List.length_append]
      omega

/-- The bytes that a text needs at least for a value. -/
def Tree.need : Tree → Nat
  | .string s => 2 + s.length + escaped s
  | _ => 1

def memberNeed (m : Bytes × Tree) : Nat := 4 + m.1.length + escaped m.1 + m.2.need

/-- The length is enough for the phrase; the last member has no comma behind it. -/
def Phrase.Fits (length : Nat) : Phrase → Prop
  | .value t => t.need ≤ length
  | .items _ => True
  | .members ms => (ms.map memberNeed).sum ≤ length + 1

theorem Number.length_pos {s : Bytes} (number : Number s) : 1 ≤ s.length := by
  obtain ⟨-, whole, -, -⟩ := number
  rename_i minus int frac exp
  have some : 1 ≤ int.length := by
    rcases whole with rfl | ⟨⟨filled, -⟩, -⟩
    · exact le_rfl
    · exact List.length_pos_of_ne_nil filled
  simp only [List.length_append]
  omega

theorem Text.fits {s : Bytes} {phrase : Phrase} (text : Text s phrase) : phrase.Fits s.length := by
  induction text with
  | null => exact Nat.succ_pos _
  | true => exact Nat.succ_pos _
  | false => exact Nat.succ_pos _
  | number number => exact number.length_pos
  | string chars =>
      have room := chars.room
      simp only [Phrase.Fits, Tree.need, List.length_cons, List.length_append, List.length_nil]
      omega
  | emptyArray => exact Nat.succ_pos _
  | array => exact Nat.succ_pos _
  | emptyObject => exact Nat.succ_pos _
  | object => exact Nat.succ_pos _
  | item => trivial
  | moreItems => trivial
  | @member w raw name w' v s v' t before chars colonBefore colonAfter value after ih =>
      have room := chars.room
      change t.need ≤ s.length at ih
      simp only [Phrase.Fits, memberNeed, List.map_cons, List.map_nil, List.sum_cons, List.sum_nil,
        List.length_cons, List.length_append]
      omega
  | @moreMembers s s' m ms first rest ihFirst ihRest =>
      simp only [Phrase.Fits, List.map_cons, List.map_nil, List.sum_cons, List.sum_nil,
        List.length_cons, List.length_append] at ihFirst ihRest ⊢
      omega

/-- A text has room for all the members of the object that it denotes. -/
theorem Denotes.room {text : Bytes} {ms : List (Bytes × Tree)} (denotes : Denotes text (.object ms)) :
    (ms.map memberNeed).sum + 1 ≤ text.length := by
  obtain ⟨w, s, w', -, -, rfl, text⟩ := denotes
  have inner : (ms.map memberNeed).sum + 1 ≤ s.length := by
    cases text with
    | emptyObject =>
        simp only [List.map_nil, List.sum_nil, List.length_cons]
        omega
    | object members =>
        have fits := members.fits
        change (ms.map memberNeed).sum ≤ _ at fits
        simp only [List.length_cons, List.length_append, List.length_nil]
        omega
  simp only [List.length_append]
  omega

end Room

section Unescaped

/-- A string between quotes, as it is. -/
def quoted (s : Bytes) : Bytes := 34 :: (s ++ [34])

def unescapedMembers : List (Bytes × Bytes) → Bytes
  | [] => []
  | [f] => quoted f.1 ++ 58 :: quoted f.2
  | f :: fields => quoted f.1 ++ 58 :: quoted f.2 ++ 44 :: unescapedMembers fields

/-- The text of an object of strings, put together without escapes. -/
def unescapedObject (fields : List (Bytes × Bytes)) : Bytes :=
  123 :: (unescapedMembers fields ++ [125])

def stringMember (f : Bytes × Bytes) : Bytes × Tree := (f.1, .string f.2)

/-- The text is an object in which each of the names has its string as its only value. -/
def Says (text : Bytes) (fields : List (Bytes × Bytes)) : Prop :=
  ∃ ms, Denotes text (.object ms) ∧
    ∀ f ∈ fields, ∀ t, (f.1, t) ∈ ms ↔ t = .string f.2

theorem characters_of_plain {s : Bytes} (plain : Plain s) : Characters s s := by
  induction s with
  | nil => exact .nil
  | cons c s ih =>
      have rest := ih fun d among => plain d (List.mem_cons_of_mem c among)
      exact .cons (.plain (plain c List.mem_cons_self)) rest

theorem text_of_plain {f : Bytes × Bytes} (name : Plain f.1) (value : Plain f.2) :
    Text (quoted f.1 ++ 58 :: quoted f.2) (.members [stringMember f]) := by
  have blank : Blank [] := by simp [Blank]
  have member := Text.member blank (characters_of_plain name) blank blank
    (.string (characters_of_plain value)) blank
  simpa [quoted, stringMember] using member

theorem text_unescapedMembers {fields : List (Bytes × Bytes)} (some : fields ≠ [])
    (plain : ∀ f ∈ fields, Plain f.1 ∧ Plain f.2) :
    Text (unescapedMembers fields) (.members (fields.map stringMember)) := by
  induction fields with
  | nil => exact absurd rfl some
  | cons f fields ih =>
      have here := plain f List.mem_cons_self
      have first := text_of_plain here.1 here.2
      cases fields with
      | nil => exact first
      | cons g fields =>
          have rest := ih (List.cons_ne_nil g fields) fun h among =>
            plain h (List.mem_cons_of_mem f among)
          exact .moreMembers first rest

theorem denotes_of_plain {fields : List (Bytes × Bytes)}
    (plain : ∀ f ∈ fields, Plain f.1 ∧ Plain f.2) :
    Denotes (unescapedObject fields) (.object (fields.map stringMember)) := by
  have blank : Blank [] := by simp [Blank]
  refine ⟨[], unescapedObject fields, [], blank, blank, by simp, ?_⟩
  by_cases none : fields = []
  · subst none
    exact .emptyObject blank
  · exact .object (text_unescapedMembers none plain)

theorem length_unescapedMembers {fields : List (Bytes × Bytes)} (some : fields ≠ []) :
    (unescapedMembers fields).length + 1 = (fields.map fun f => f.1.length + f.2.length + 6).sum := by
  induction fields with
  | nil => exact absurd rfl some
  | cons f fields ih =>
      cases fields with
      | nil =>
          simp only [unescapedMembers, quoted, List.length_append, List.length_cons, List.length_nil,
            List.map_cons, List.map_nil, List.sum_cons, List.sum_nil]
          omega
      | cons g fields =>
          have rest := ih (List.cons_ne_nil g fields)
          rw [List.map_cons, List.sum_cons, ← rest]
          simp only [unescapedMembers, quoted, List.length_append, List.length_cons, List.length_nil]
          omega

/-- If every one of the strings is found, whatever else is, all of them have been written plainly:
the text has no room for an escape. -/
theorem plain_of_mem {fields : List (Bytes × Bytes)} {ms : List (Bytes × Tree)}
    (names : (fields.map Prod.fst).Nodup) (denotes : Denotes (unescapedObject fields) (.object ms))
    (found : ∀ f ∈ fields, stringMember f ∈ ms) : ∀ f ∈ fields, Plain f.1 ∧ Plain f.2 := by
  intro f among
  have distinct : (fields.map stringMember).Nodup := by
    refine List.Nodup.of_map Prod.fst ?_
    rwa [List.map_map]
  have inside : (fields.map stringMember).Subperm ms := by
    refine List.subperm_of_subset distinct fun m here => ?_
    obtain ⟨g, member, rfl⟩ := List.mem_map.mp here
    exact found g member
  have needed : ((fields.map stringMember).map memberNeed).sum ≤ (ms.map memberNeed).sum := by
    obtain ⟨part, same, sub⟩ := inside
    rw [← (same.map memberNeed).sum_eq]
    exact (sub.map memberNeed).sum_le_sum fun _ _ => Nat.zero_le _
  have escapes : ((fields.map stringMember).map memberNeed).sum =
      (fields.map fun f => f.1.length + f.2.length + 6).sum +
        (fields.map fun f => escaped f.1 + escaped f.2).sum := by
    rw [List.map_map, ← List.sum_map_add]
    congr 1
    refine List.map_congr_left fun g _ => ?_
    simp only [Function.comp, stringMember, memberNeed, Tree.need]
    omega
  have room := denotes.room
  have size := length_unescapedMembers (List.ne_nil_of_mem among)
  have none : (fields.map fun f => escaped f.1 + escaped f.2).sum = 0 := by
    simp only [unescapedObject, List.length_cons, List.length_append, List.length_nil] at room
    omega
  have here : escaped f.1 + escaped f.2 = 0 :=
    List.sum_eq_zero_iff.mp none _ (List.mem_map_of_mem among)
  exact ⟨escaped_eq_zero.mp (by omega), escaped_eq_zero.mp (by omega)⟩

/-- An object that is put together without escapes says what it was meant to say exactly if there
was nothing to escape. -/
theorem says_unescapedObject_iff {fields : List (Bytes × Bytes)}
    (names : (fields.map Prod.fst).Nodup) :
    Says (unescapedObject fields) fields ↔ ∀ f ∈ fields, Plain f.1 ∧ Plain f.2 := by
  constructor
  · rintro ⟨ms, denotes, only⟩
    exact plain_of_mem names denotes fun f among => (only f among _).mpr rfl
  · intro plain
    refine ⟨_, denotes_of_plain plain, fun f among t => ?_⟩
    constructor
    · intro member
      obtain ⟨g, other, same⟩ := List.mem_map.mp member
      obtain ⟨name, value⟩ := Prod.mk.inj same
      have one : g = f := List.inj_on_of_nodup_map names other among name
      rw [← value, one]
    · rintro rfl
      exact List.mem_map_of_mem among

end Unescaped

end AeronClusterClient.Lib.JsonText
