/- module: AeronClusterClient/Client/PollLimit
   source: src/cluster_client.cpp (poll_messages), include/aeron_cluster/performance_config.hpp
   digest: When a poll keeps to its limit and counts what it delivers. -/

import AeronClusterClient.Client.Reassembly
import AeronClusterClient.Client.StallDetection

/-!
A poll asks Aeron for a batch of a fixed size and compares the number of
fragments with the caller's limit only when all of them have been handled.
-/

set_option autoImplicit false
set_option relaxedAutoImplicit false

namespace AeronClusterClient.Client.PollLimit

open Lib.Runs Client.Reassembly
open Client.StallDetection (DEFAULT_POLL_BATCH_SIZE)

section Model

/-- How Aeron answers a poll: how many of the fragments that wait it passes to the handler, and
whether the call ends with an exception behind them. -/
structure Answer where
  delivered : Nat
  throws : Bool := false
  deriving DecidableEq, Repr

/-- `Subscription::poll`; no poll delivers more than its limit, or more than there is. -/
structure Aeron where
  poll : List Fragment → Nat → Answer
  within : ∀ waiting limit, (poll waiting limit).delivered ≤ min limit waiting.length

/-- The fields of the client that a poll reads or writes, with the fragments that wait in the
images of the subscription. -/
structure Egress where
  /-- The number of images of the egress subscription, if there is one. -/
  subscription : Option Nat := none
  waiting : List Fragment := []
  reassembler : LocalFragmentReassembler := {}
  messagesReceived : Nat := 0

/-- The fragments that the handler has been called with, in order. -/
def Egress.handled (e : Egress) : List Fragment := e.reassembler.arrived

def BATCH_SIZE : Nat := DEFAULT_POLL_BATCH_SIZE

/-- `MessageBatchProcessor::process_batch` with `onFragment` as the callback. -/
def processBatch (aeron : Aeron) (e : Egress) : Nat × Egress :=
  let answer := aeron.poll e.waiting BATCH_SIZE
  let e := { e with
    waiting := e.waiting.drop answer.delivered
    reassembler := stateAfter onFragment e.reassembler (e.waiting.take answer.delivered) }
  -- an exception is swallowed before the number of fragments is known
  (if answer.throws then 0 else answer.delivered, e)

def maxToProcess (maxMessages : Int) : Nat :=
  if 0 < maxMessages then maxMessages.toNat else DEFAULT_POLL_BATCH_SIZE

def pollMessages (aeron : Aeron) (maxMessages : Int) (e : Egress) : Nat × Egress :=
  match e.subscription with
  | none | some 0 => (0, e)
  | some (_ + 1) =>
      let (fragments, e) := processBatch aeron e
      let messagesProcessed := min fragments (maxToProcess maxMessages)
      (messagesProcessed, { e with messagesReceived := e.messagesReceived + messagesProcessed })

/-- The subscription is found or lost, fragments arrive for it, or the client polls. -/
inductive Step
  | images (subscription : Option Nat)
  | arrive (fragments : List Fragment)
  | poll (aeron : Aeron) (maxMessages : Int)

def step : Step → Egress → Egress
  | .images subscription, e => { e with subscription }
  | .arrive fragments, e => { e with waiting := e.waiting ++ fragments }
  | .poll aeron maxMessages, e => (pollMessages aeron maxMessages e).2

end Model

section Polls

variable (aeron : Aeron) (maxMessages : Int) (e : Egress)

def Egress.Polls : Prop := 0 < e.subscription.getD 0

/-- What Aeron answers to the poll for a batch. -/
def batch : Answer := aeron.poll e.waiting BATCH_SIZE

/-- A poll keeps to its limit, returns the number of fragments it has had handled, and counts them. -/
def Exact : Prop :=
  ∃ handed, (pollMessages aeron maxMessages e).2.handled = e.handled ++ handed ∧
    (0 < maxMessages → handed.length ≤ maxMessages) ∧
    (pollMessages aeron maxMessages e).1 = handed.length ∧
    (pollMessages aeron maxMessages e).2.messagesReceived = e.messagesReceived + handed.length

/-- Aeron delivers no more than the caller's limit to the poll for a batch, and the poll does not
end with an exception behind fragments that have been handled. -/
def Fits : Prop :=
  e.Polls → (batch aeron e).delivered ≤ maxToProcess maxMessages ∧
    ((batch aeron e).throws = true → (batch aeron e).delivered = 0)

variable {aeron maxMessages e}

theorem delivered_le_waiting : (batch aeron e).delivered ≤ e.waiting.length :=
  (aeron.within e.waiting BATCH_SIZE).trans (min_le_right _ _)

/-- The number of fragments that `process_batch` reports. -/
def reported (answer : Answer) : Nat := if answer.throws then 0 else answer.delivered

theorem pollMessages_of_idle (idle : ¬ e.Polls) : pollMessages aeron maxMessages e = (0, e) := by
  unfold Egress.Polls at idle
  unfold pollMessages
  split
  · rfl
  · rfl
  · next images found => simp [found] at idle

theorem pollMessages_of_polls (polls : e.Polls) :
    pollMessages aeron maxMessages e =
      (min (reported (batch aeron e)) (maxToProcess maxMessages),
        { e with
          waiting := e.waiting.drop (batch aeron e).delivered
          reassembler :=
            stateAfter onFragment e.reassembler (e.waiting.take (batch aeron e).delivered)
          messagesReceived :=
            e.messagesReceived + min (reported (batch aeron e)) (maxToProcess maxMessages) }) := by
  unfold Egress.Polls at polls
  unfold pollMessages
  split
  · next found => simp [found] at polls
  · next found => simp [found] at polls
  · rfl

theorem handled_of_polls (polls : e.Polls) :
    (pollMessages aeron maxMessages e).2.handled =
      e.handled ++ e.waiting.take (batch aeron e).delivered := by
  rw [pollMessages_of_polls polls]
  exact arrived_stateAfter _ _

theorem length_delivered :
    (e.waiting.take (batch aeron e).delivered).length = (batch aeron e).delivered := by
  rw [List.length_take]
  exact min_eq_left delivered_le_waiting

theorem exact_of_idle (idle : ¬ e.Polls) : Exact aeron maxMessages e := by
  refine ⟨[], ?_⟩
  rw [pollMessages_of_idle idle]
  exact ⟨(List.append_nil _).symm, fun positive => positive.le, rfl, rfl⟩

/-- The number that is reported is that of the fragments exactly when the poll fits. -/
theorem reported_iff (answer : Answer) (limit : Nat) :
    min (reported answer) limit = answer.delivered ↔
      answer.delivered ≤ limit ∧ (answer.throws = true → answer.delivered = 0) := by
  unfold reported
  cases answer.throws with
  | false => simp
  | true =>
      simp only [if_true, Nat.zero_min, true_implies]
      omega

theorem exact_iff_fits : Exact aeron maxMessages e ↔ Fits aeron maxMessages e := by
  by_cases polls : e.Polls
  · have counted := reported_iff (batch aeron e) (maxToProcess maxMessages)
    constructor
    · rintro ⟨handed, grown, -, returned, -⟩ -
      rw [handled_of_polls polls] at grown
      obtain rfl := List.append_cancel_left grown
      rw [length_delivered, pollMessages_of_polls polls] at returned
      exact counted.mp returned
    · intro fits
      have same := counted.mpr (fits polls)
      refine ⟨_, handled_of_polls polls, ?_, ?_, ?_⟩
      · intro positive
        have limited := (fits polls).1
        rw [maxToProcess, if_pos positive] at limited
        rw [length_delivered]
        omega
      · rw [length_delivered, pollMessages_of_polls polls, same]
      · rw [length_delivered, pollMessages_of_polls polls, same]
  · exact iff_of_true (exact_of_idle polls) fun there => absurd there polls

end Polls

section Runs

def StepExact (e : Egress) : Step → Prop
  | .poll aeron maxMessages => Exact aeron maxMessages e
  | _ => True

def StepFits (e : Egress) : Step → Prop
  | .poll aeron maxMessages => Fits aeron maxMessages e
  | _ => True

def Counted (e : Egress) : Prop := e.messagesReceived = e.handled.length

theorem stepExact_iff (e : Egress) (i : Step) : StepExact e i ↔ StepFits e i := by
  cases i with
  | poll aeron maxMessages => exact exact_iff_fits
  | images subscription => exact Iff.rfl
  | arrive fragments => exact Iff.rfl

/-- A poll never counts more than it has had handled, and as much exactly when it fits. -/
theorem counted_poll (aeron : Aeron) (maxMessages : Int) {e : Egress}
    (behind : e.messagesReceived ≤ e.handled.length) :
    (pollMessages aeron maxMessages e).2.messagesReceived ≤
        (pollMessages aeron maxMessages e).2.handled.length ∧
      (Counted (pollMessages aeron maxMessages e).2 ↔ Counted e ∧ Fits aeron maxMessages e) := by
  by_cases polls : e.Polls
  · have counted := reported_iff (batch aeron e) (maxToProcess maxMessages)
    have fewer : reported (batch aeron e) ≤ (batch aeron e).delivered := by
      unfold reported
      split <;> omega
    have fits : Fits aeron maxMessages e ↔
        min (reported (batch aeron e)) (maxToProcess maxMessages) = (batch aeron e).delivered := by
      rw [counted]
      exact ⟨fun fits => fits polls, fun fits _ => fits⟩
    have received : (pollMessages aeron maxMessages e).2.messagesReceived =
        e.messagesReceived + min (reported (batch aeron e)) (maxToProcess maxMessages) := by
      rw [pollMessages_of_polls polls]
    have handled : (pollMessages aeron maxMessages e).2.handled.length =
        e.handled.length + (batch aeron e).delivered := by
      rw [handled_of_polls polls, List.length_append, length_delivered]
    rw [Counted, Counted, fits, received, handled]
    omega
  · rw [pollMessages_of_idle polls]
    refine ⟨behind, ?_⟩
    have fits : Fits aeron maxMessages e := fun there => absurd there polls
    simp [fits]

theorem counted_step (i : Step) {e : Egress} (behind : e.messagesReceived ≤ e.handled.length) :
    (step i e).messagesReceived ≤ (step i e).handled.length ∧
      (Counted (step i e) ↔ Counted e ∧ StepFits e i) := by
  cases i with
  | poll aeron maxMessages => exact counted_poll aeron maxMessages behind
  | images subscription => exact ⟨behind, (and_iff_left trivial).symm⟩
  | arrive fragments => exact ⟨behind, (and_iff_left trivial).symm⟩

/-- What one poll fails to count is never made up for. -/
theorem counted_iff_meets (steps : List Step) {e : Egress}
    (behind : e.messagesReceived ≤ e.handled.length) :
    Counted (stateAfter step e steps) ↔ Counted e ∧ Meets step StepFits e steps := by
  induction steps generalizing e with
  | nil => exact (and_iff_left trivial).symm
  | cons i steps ih =>
      obtain ⟨still, counted⟩ := counted_step i behind
      change Counted (stateAfter step (step i e) steps) ↔ _
      rw [ih still, counted, Meets, and_assoc]

/-- The polls of a run keep to their limits and count what they deliver, one by one and all
together, exactly when each of them fits. -/
theorem polls_exact_iff (steps : List Step) :
    (Meets step StepExact {} steps ↔ Meets step StepFits {} steps) ∧
    ((stateAfter step {} steps).messagesReceived = (stateAfter step {} steps).handled.length ↔
      Meets step StepFits {} steps) := by
  refine ⟨meets_congr stepExact_iff, ?_⟩
  have counted := counted_iff_meets steps (e := {}) le_rfl
  exact counted.trans (and_iff_right rfl)

section Sample

def eager : Aeron where
  poll waiting limit := ⟨min limit waiting.length, false⟩
  within _ _ := le_rfl

/-- Two fragments wait when one is asked for. -/
def crowded : List Step :=
  [.images (some 1), .arrive [⟨0xC0, [1], 1, 0⟩, ⟨0xC0, [2], 1, 1⟩], .poll eager 1]

/-- Both fragments are handled, and one is counted. -/
theorem poll_exceeds_limit : ¬ ∀ steps : List Step, Meets step StepExact {} steps := by
  intro claim
  obtain ⟨-, -, ⟨handed, grown, limited, -⟩, -⟩ := claim crowded
  have both : handed = [⟨0xC0, [1], 1, 0⟩, ⟨0xC0, [2], 1, 1⟩] :=
    (List.nil_append handed).symm.trans (grown.symm.trans (by decide))
  have one := limited (by decide)
  rw [both] at one
  exact absurd one (by decide)

end Sample

end Runs

end AeronClusterClient.Client.PollLimit
