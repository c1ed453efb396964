/- module: AeronClusterClient/Commit/Store
   source: src/commit_manager.cpp (commit_message, get_last_commit), tests/test_commit_resume.cpp
   digest: Whether the commit store keeps the commits of different pairs apart. -/

import AeronClusterClient.Commit.Manager

/-!
The store is a map from texts. Two pairs of a topic and an identifier share an
entry when a colon in one of them lets the same text be split in two ways.
-/

set_option autoImplicit false
set_option relaxedAutoImplicit false

namespace AeronClusterClient.Commit.Store

open Commit.Manager
open Text (StdString ascii)

section Last

variable {α : Type} {p q : α → Bool}

def lastWhere (p : α → Bool) (history : List α) : Option α := (history.filter p).getLast?

theorem lastWhere_concat (p : α → Bool) (history : List α) (a : α) :
    lastWhere p (history ++ [a]) = if p a then some a else lastWhere p history := by
  unfold lastWhere
  rw [List.filter_append]
  cases found : p a with
  | true => simp [found]
  | false => simp [found]

theorem of_lastWhere_eq_some {history : List α} {a : α} (last : lastWhere p history = some a) :
    a ∈ history ∧ p a = true :=
  List.mem_filter.mp (List.mem_of_getLast? last)

theorem lastWhere_eq_none_iff {history : List α} :
    lastWhere p history = none ↔ ∀ a ∈ history, p a = false := by
  unfold lastWhere
  simp

/-- The last entry with a weaker property is the last one with the stronger property exactly
when it has it. -/
theorem lastWhere_eq_iff (weaker : ∀ a, q a = true → p a = true) (history : List α) :
    lastWhere p history = lastWhere q history ↔ ∀ a, lastWhere p history = some a → q a = true := by
  induction history using List.reverseRecOn with
  | nil => simp [lastWhere]
  | append_singleton history a ih =>
      rw [lastWhere_concat, lastWhere_concat]
      by_cases strong : q a = true
      · simp [strong, weaker a strong]
      · by_cases weak : p a = true
        · have other : some a ≠ lastWhere q history := by
            intro same
            exact strong (of_lastWhere_eq_some same.symm).2
          simp [strong, weak, other]
        · simpa [strong, weak] using ih

end Last

def committed (offsets : List CommitOffset) : CommitManager :=
  offsets.foldl CommitManager.commitMessage {}

def madeWith (topic messageIdentifier : StdString) (offset : CommitOffset) : Bool :=
  offset.topic = topic ∧ offset.messageIdentifier = messageIdentifier

def sharesKey (topic messageIdentifier : StdString) (offset : CommitOffset) : Bool :=
  commitKey offset.topic offset.messageIdentifier = commitKey topic messageIdentifier

theorem sharesKey_of_madeWith {topic messageIdentifier : StdString} (offset : CommitOffset)
    (made : madeWith topic messageIdentifier offset = true) :
    sharesKey topic messageIdentifier offset = true := by
  obtain ⟨rfl, rfl⟩ := of_decide_eq_true made
  exact decide_eq_true rfl

theorem getLastCommit_committed (offsets : List CommitOffset) (topic messageIdentifier : StdString) :
    (committed offsets).getLastCommit topic messageIdentifier =
      lastWhere (sharesKey topic messageIdentifier) offsets := by
  induction offsets using List.reverseRecOn with
  | nil => rfl
  | append_singleton offsets offset ih =>
      have once : committed (offsets ++ [offset]) = (committed offsets).commitMessage offset := by
        unfold committed
        rw [List.foldl_append]
        rfl
      rw [once, lastWhere_concat]
      by_cases same : commitKey offset.topic offset.messageIdentifier =
          commitKey topic messageIdentifier
      · rw [CommitManager.getLastCommit_commitMessage_of_eq _ same.symm]
        simp [sharesKey, same]
      · have apart : commitKey topic messageIdentifier ≠
            commitKey offset.topic offset.messageIdentifier := fun h => same h.symm
        rw [CommitManager.getLastCommit_commitMessage_of_ne _ apart, ih]
        simp [sharesKey, same]

/-- The store answers for a pair with the last commit of exactly this pair, or with none. -/
def AnswersByPair (offsets : List CommitOffset) (topic messageIdentifier : StdString) : Prop :=
  (committed offsets).getLastCommit topic messageIdentifier =
    lastWhere (madeWith topic messageIdentifier) offsets

/-- The store answers by the pair exactly when the last commit whose topic and identifier form the
text of the pair was made with the pair itself. -/
theorem answersByPair_iff (offsets : List CommitOffset) (topic messageIdentifier : StdString) :
    AnswersByPair offsets topic messageIdentifier ↔
      ∀ offset, lastWhere (sharesKey topic messageIdentifier) offsets = some offset →
        madeWith topic messageIdentifier offset = true := by
  unfold AnswersByPair
  rw [getLastCommit_committed]
  exact lastWhere_eq_iff sharesKey_of_madeWith offsets

section Separators

def separator : UInt8 := 58

def Separates (offset : CommitOffset) : Prop :=
  separator ∉ offset.topic ∧ separator ∉ offset.messageIdentifier

theorem commitKey_eq (topic messageIdentifier : StdString) :
    commitKey topic messageIdentifier = topic ++ separator :: messageIdentifier := by
  unfold commitKey
  rw [List.append_assoc]
  rfl

theorem madeWith_of_separates {offset : CommitOffset} (separates : Separates offset)
    {topic messageIdentifier : StdString} (shares : sharesKey topic messageIdentifier offset = true) :
    madeWith topic messageIdentifier offset = true := by
  obtain ⟨inTopic, inIdentifier⟩ := separates
  have same := of_decide_eq_true shares
  rw [commitKey_eq, commitKey_eq] at same
  apply decide_eq_true
  rcases List.append_eq_append_iff.mp same with ⟨rest, whole, after⟩ | ⟨rest, whole, after⟩
  · cases rest with
    | nil => simpa [whole] using after
    | cons b rest =>
        obtain ⟨rfl, identifier⟩ := List.cons.inj after
        exact absurd (by rw [identifier]; simp) inIdentifier
  · cases rest with
    | nil => simpa [whole, eq_comm] using after
    | cons b rest =>
        obtain ⟨rfl, -⟩ := List.cons.inj after
        exact absurd (by rw [whole]; simp) inTopic

/-- In a store that answers every pair by its own commits, no commit shares the text of another
pair: the last one under that text would answer for both. -/
theorem eq_of_answers {offsets : List CommitOffset}
    (answers : ∀ topic messageIdentifier, AnswersByPair offsets topic messageIdentifier)
    {offset : CommitOffset} (among : offset ∈ offsets) {topic messageIdentifier : StdString}
    (same : commitKey offset.topic offset.messageIdentifier = commitKey topic messageIdentifier) :
    offset.topic = topic ∧ offset.messageIdentifier = messageIdentifier := by
  have own : sharesKey topic messageIdentifier =
      sharesKey offset.topic offset.messageIdentifier := by
    unfold sharesKey
    rw [same]
  cases last : lastWhere (sharesKey topic messageIdentifier) offsets with
  | none =>
      have missing := lastWhere_eq_none_iff.mp last offset among
      exact absurd same (of_decide_eq_false missing)
  | some found =>
      have first := (answersByPair_iff _ _ _).mp (answers topic messageIdentifier) found last
      rw [own] at last
      have second := (answersByPair_iff _ _ _).mp (answers _ _) found last
      obtain ⟨topicEq, identifierEq⟩ := of_decide_eq_true first
      obtain ⟨topicEq', identifierEq'⟩ := of_decide_eq_true second
      exact ⟨topicEq'.symm.trans topicEq, identifierEq'.symm.trans identifierEq⟩

/-- Without a separator in any topic or identifier every pair is answered by its own commits, and
with one some pair is not. -/
theorem keyed_by_pair_iff (offsets : List CommitOffset) :
    (∀ topic messageIdentifier, AnswersByPair offsets topic messageIdentifier) ↔
      ∀ offset ∈ offsets, Separates offset := by
  constructor
  · intro answers offset among
    constructor
    · intro inTopic
      obtain ⟨front, back, split⟩ := List.append_of_mem inTopic
      have same : commitKey offset.topic offset.messageIdentifier =
          commitKey front (back ++ separator :: offset.messageIdentifier) := by
        rw [commitKey_eq, commitKey_eq, split]
        simp
      have whole := (eq_of_answers answers among same).1
      rw [split] at whole
      simp at whole
    · intro inIdentifier
      obtain ⟨front, back, split⟩ := List.append_of_mem inIdentifier
      have same : commitKey offset.topic offset.messageIdentifier =
          commitKey (offset.topic ++ separator :: front) back := by
        rw [commitKey_eq, commitKey_eq, split]
        simp
      have whole := (eq_of_answers answers among same).1
      simp at whole
  · intro separate topic messageIdentifier
    rw [answersByPair_iff]
    intro offset last
    obtain ⟨among, shares⟩ := of_lastWhere_eq_some last
    exact madeWith_of_separates (separate offset among) shares

section Sample

/-- A commit for the topic `a` and the identifier `b:c`. -/
def sampleOffset : CommitOffset := ⟨ascii "a", ascii "b:c", ascii "msg1", 1000, 1⟩

/-- It is returned for the topic `a:b` and the identifier `c`, which nobody has committed. -/
theorem uncommitted_pair_found :
    ¬ ∀ (offsets : List CommitOffset) (topic messageIdentifier : StdString),
      AnswersByPair offsets topic messageIdentifier := by
  intro claim
  have answers := claim [sampleOffset] (ascii "a:b") (ascii "c")
  unfold AnswersByPair at answers
  rw [getLastCommit_committed] at answers
  revert answers
  decide

end Sample

end Separators

end AeronClusterClient.Commit.Store
