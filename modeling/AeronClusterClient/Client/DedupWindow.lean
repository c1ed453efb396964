/- module: AeronClusterClient/Client/DedupWindow
   source: src/cluster_client.cpp (is_message_processed, mark_message_processed,
   handle_incoming_message)
   digest: For how long the set of processed messages remembers an id. -/

import AeronClusterClient.Client.Delivery
import AeronClusterClient.Lib.Runs

/-!
The cleanup of the set of processed messages means to drop the hundred oldest
ids; it drops the first hundred of an iteration, which a hash set is free to
order as it likes.
-/

set_option autoImplicit false
set_option relaxedAutoImplicit false

namespace AeronClusterClient.Client.DedupWindow

open Lib.Action Lib.Runs Lib.Bytes Lib.Unordered Client.State Client.Delivery
open Sbe.Parser (ParseResult)
open Text (StdString)

/-- A call of `mark_message_processed`, with the order of the set during it. -/
structure Mark where
  order : Enumeration StdString
  messageId : StdString

def mark (m : Mark) (processedMessages : Finset StdString) : Finset StdString :=
  markMessageProcessed m.order processedMessages m.messageId

def others (messageId : StdString) (marks : List Mark) : Finset StdString :=
  (marks.map Mark.messageId).toFinset.erase messageId

section Window

variable (s : Finset StdString) (marks : List Mark)

/-- A mark is remembered until 900 other ids have been marked after it, and meanwhile no
delivery of a message with its id reaches the message callback. -/
def Window : Prop :=
  ∀ first m mid rest, marks = first ++ m :: mid ++ rest → (others m.messageId mid).card < 900 →
    isMessageProcessed (stateAfter mark s (first ++ m :: mid)) m.messageId = true ∧
      ∀ (c : Impl) (incoming : Incoming) (result : ParseResult),
        c.processedMessages = stateAfter mark s (first ++ m :: mid) →
        parsedMessage incoming.world incoming.mem incoming.data incoming.length = some result →
        result.messageId = m.messageId → m.messageId ≠ [] →
        (deliver incoming c).messages = c.messages

/-- Every cleanup drops only ids after each of whose marks 900 other ids have been marked. -/
def DropsOld : Prop :=
  ∀ first m rest, marks = first ++ m :: rest →
    let processedMessages := insert m.messageId (stateAfter mark s first)
    1000 < processedMessages.card →
    ∀ dropped ∈ m.order.front processedMessages 100,
      ∀ before again after, first ++ [m] = before ++ again :: after → again.messageId = dropped →
        900 ≤ (others dropped after).card

variable {s marks} {m : Mark} {messageId : StdString}

theorem mem_mark :
    messageId ∈ mark m s ↔ messageId ∈ insert m.messageId s ∧
      (1000 < (insert m.messageId s).card →
        messageId ∉ m.order.front (insert m.messageId s) 100) :=
  mem_markMessageProcessed

theorem stateAfter_mark (first : List Mark) :
    stateAfter mark s (first ++ [m]) = mark m (stateAfter mark s first) := by
  rw [stateAfter_append]
  rfl

theorem others_mono (messageId : StdString) {mid more : List Mark} :
    (others messageId mid).card ≤ (others messageId (mid ++ more)).card := by
  refine Finset.card_le_card (Finset.erase_subset_erase _ ?_)
  simp

theorem mem_of_dropsOld (drops : DropsOld s marks) {first mid rest : List Mark}
    (split : marks = first ++ m :: mid ++ rest) (recent : (others m.messageId mid).card < 900) :
    m.messageId ∈ stateAfter mark s (first ++ m :: mid) := by
  induction mid using List.reverseRecOn generalizing rest with
  | nil =>
      rw [stateAfter_mark, mem_mark]
      refine ⟨Finset.mem_insert_self _ _, fun full dropped => ?_⟩
      have old := drops first m rest (by simpa using split) full _ dropped first m [] rfl rfl
      exact absurd old (by simp [others])
  | append_singleton mid last ih =>
      have earlier : marks = first ++ m :: mid ++ last :: rest := by simpa using split
      have before := ih earlier (lt_of_le_of_lt (others_mono _) recent)
      rw [show first ++ m :: (mid ++ [last]) = first ++ m :: mid ++ [last] by simp,
        stateAfter_mark, mem_mark]
      refine ⟨Finset.mem_insert_of_mem before, fun full dropped => ?_⟩
      have old := drops (first ++ m :: mid) last rest earlier full _ dropped
        first m (mid ++ [last]) (by simp) rfl
      exact absurd recent (Nat.not_lt.mpr old)

theorem messages_of_redelivered {c : Impl} {incoming : Incoming} {result : ParseResult}
    (accepted : parsedMessage incoming.world incoming.mem incoming.data incoming.length = some result)
    (redelivered : Redelivered result c) : (deliver incoming c).messages = c.messages :=
  (delivers_handleIncomingMessage accepted c).messages.resolve_right fun called =>
    called.1 redelivered

/-- Whatever the deliveries are, the processed messages of a client come from marks. -/
theorem processedMessages_run (c : Impl) (deliveries : List Incoming) :
    ∃ marks, (stateAfter deliver c deliveries).processedMessages =
      stateAfter mark c.processedMessages marks := by
  induction deliveries generalizing c with
  | nil => exact ⟨[], rfl⟩
  | cons incoming deliveries ih =>
      obtain ⟨marks, rest⟩ := ih (deliver incoming c)
      have first : (deliver incoming c).processedMessages = c.processedMessages ∨
          ∃ m, (deliver incoming c).processedMessages = mark m c.processedMessages := by
        cases outcome : parsedMessage incoming.world incoming.mem incoming.data incoming.length with
        | none => exact .inl (disturbs_handleIncomingMessage outcome c).processedMessages
        | some result =>
            exact (delivers_handleIncomingMessage outcome c).processedMessages.imp id fun marked =>
              ⟨⟨incoming.world.order, result.messageId⟩, marked⟩
      rcases first with same | ⟨m, marked⟩
      · exact ⟨marks, by rw [← same]; exact rest⟩
      · refine ⟨m :: marks, ?_⟩
        rw [marked] at rest
        exact rest

/-- The window holds in every run of marks whose cleanups drop old ids only, and in no other. -/
theorem window_iff_dropsOld (s : Finset StdString) (marks : List Mark) :
    Window s marks ↔ DropsOld s marks := by
  constructor
  · intro window first m rest split processedMessages full dropped member before again after same id
    refine Nat.not_lt.mp fun recent => ?_
    have remembered := (window before again after rest (by rw [split, ← same]; simp)
      (by rwa [id])).1
    rw [isMessageProcessed, decide_eq_true_iff, ← same, stateAfter_mark, mem_mark, id] at remembered
    exact remembered.2 full member
  · intro drops first m mid rest split recent
    have known := mem_of_dropsOld drops split recent
    refine ⟨decide_eq_true known, ?_⟩
    intro c incoming result same accepted id given
    refine messages_of_redelivered accepted ⟨by rwa [id], ?_⟩
    rwa [id, same]

section Sample

def idOf (n : Nat) : StdString := List.replicate (n + 1) 120

theorem idOf_injective : Function.Injective idOf := by
  intro a b same
  simpa [idOf] using congrArg List.length same

private theorem insert_idOf (n : Nat) :
    insert (idOf n) ((Finset.range n).image idOf) = (Finset.range (n + 1)).image idOf ∧
      (insert (idOf n) ((Finset.range n).image idOf)).card = n + 1 := by
  have grown : insert (idOf n) ((Finset.range n).image idOf) = (Finset.range (n + 1)).image idOf := by
    rw [Finset.range_add_one, Finset.image_insert]
  refine ⟨grown, ?_⟩
  rw [grown, Finset.card_image_of_injective _ idOf_injective, Finset.card_range]

/-- The marks of the first thousand ids, each in the order of the set at that time. -/
def thousandMarks : List Mark := (List.range 1000).map (fun n => ⟨lexicographic, idOf n⟩)

/-- A cleanup whose iteration starts at the id that is being marked. -/
def lastMark : Mark := ⟨lexicographic.startingAt (idOf 1000), idOf 1000⟩

private theorem stateAfter_thousandMarks {n : Nat} (few : n ≤ 1000) :
    stateAfter mark ∅ ((List.range n).map (fun n => ⟨lexicographic, idOf n⟩)) =
      (Finset.range n).image idOf := by
  induction n with
  | zero => rfl
  | succ n ih =>
      rw [List.range_succ, List.map_append, List.map_singleton, stateAfter_mark, ih (by omega)]
      obtain ⟨grown, size⟩ := insert_idOf n
      unfold mark markMessageProcessed
      rw [if_neg (by rw [size]; omega), grown]

/-- The id that is being marked is itself among the first hundred of the iteration. -/
theorem newest_id_dropped : ¬ ∀ marks : List Mark, Window ∅ marks := by
  intro claim
  have remembered := (claim (thousandMarks ++ [lastMark]) thousandMarks lastMark [] [] (by simp)
    (by simp [others])).1
  rw [isMessageProcessed, decide_eq_true_iff, stateAfter_mark, mem_mark, thousandMarks,
    stateAfter_thousandMarks le_rfl] at remembered
  refine remembered.2 ?_ (Enumeration.mem_front_startingAt _ remembered.1 (by decide))
  exact (insert_idOf 1000).2.symm ▸ Nat.lt_succ_self 1000

end Sample

end Window

end AeronClusterClient.Client.DedupWindow
