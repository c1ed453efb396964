/- module: AeronClusterClient/Client/PolledDelivery
   source: src/cluster_client.cpp (LocalFragmentReassembler, poll_messages,
   create_egress_subscription, handle_incoming_message), include/aeron_cluster/performance_config.hpp
   digest: A client that polls fragments does what one does that receives whole messages. -/

import AeronClusterClient.Client.Operations
import AeronClusterClient.Client.PollLimit

/-!
The other modules speak of a client that whole messages are delivered to. What
arrives are fragments; they wait in the image until a poll hands a batch of them
to the reassembler, and the end of the batch need not be the end of a message.
The client with fragments refines the one with messages: a poll is the delivery
of the messages whose last fragments are in its batch.
-/

set_option autoImplicit false
set_option relaxedAutoImplicit false

namespace AeronClusterClient.Client.PolledDelivery

open Lib.Action Lib.Bytes Lib.Runs
open Client.State Client.Delivery Client.Reassembly
open Client.Operations (reached take)
open Client.PollLimit (Aeron Egress pollMessages pollMessages_of_idle pollMessages_of_polls batch)
open Config (ClusterClientConfig)
open Text (StdString)

section Model

/-- Where the bytes of a sink call lie: in the term buffer, or in a copy of the accumulator. -/
structure Place (bytes : List UInt8) where
  mem : Memory
  data : Nat
  held : Holds mem data bytes

/-- The sink of the reassembler. -/
def handle (w : World) {bytes : List UInt8} (place : Place bytes) (c : Impl) : Impl :=
  finalState (handleIncomingMessage w place.mem place.data bytes.length) c

/-- A client, with the fragments that have been sent to it on the image of its subscription. -/
structure PolledClient where
  impl : Impl
  /-- Sent, and not yet arrived. -/
  sent : List Fragment := []
  waiting : List Fragment := []
  reassembler : LocalFragmentReassembler := {}
  messagesReceived : Nat := 0

def PolledClient.egress (p : PolledClient) : Egress :=
  ⟨p.impl.egressSubscription, p.waiting, p.reassembler, p.messagesReceived⟩

/-- The sink calls of one poll, from the given number on. -/
def handleCalls (w : World) (place : Nat → (bytes : List UInt8) → Place bytes) :
    List Delivery → Nat → Impl → Impl
  | [], _, c => c
  | call :: calls, n, c => handleCalls w place calls (n + 1) (handle w (place n call.bytes) c)

/-- A poll; its sink calls neither look at the fragments nor change them. -/
def poll (aeron : Aeron) (maxMessages : Int) (w : World)
    (place : Nat → (bytes : List UInt8) → Place bytes) (p : PolledClient) : PolledClient :=
  let e := (pollMessages aeron maxMessages p.egress).2
  { p with
    impl := handleCalls w place (e.reassembler.sink.drop p.reassembler.sink.length) 0 p.impl
    waiting := e.waiting
    reassembler := e.reassembler
    messagesReceived := e.messagesReceived }

/-- A message is cut and sent, fragments arrive, the client polls, or is called. A call may replace
the subscription and its reassembler; the fragments of the old one are gone then. -/
inductive Step
  | send (message : CutMessage)
  | arrive (count : Nat)
  | poll (aeron : Aeron) (maxMessages : Int) (world : World)
      (place : Nat → (bytes : List UInt8) → Place bytes)
  | client (step : Operations.Step) (resubscribes : Bool)

def step : Step → PolledClient → PolledClient
  | .send message, p => { p with sent := p.sent ++ message.fragments }
  | .arrive count, p =>
      { p with sent := p.sent.drop count, waiting := p.waiting ++ p.sent.take count }
  | .poll aeron maxMessages w place, p => poll aeron maxMessages w place p
  | .client call resubscribes, p =>
      if resubscribes then
        { impl := take call p.impl, messagesReceived := p.messagesReceived }
      else { p with impl := take call p.impl }

end Model

section Meaning

/-- A client that messages are under way to, in the order in which they were sent. -/
structure WholeClient where
  impl : Impl
  inFlight : List (List UInt8) := []

inductive WholeStep
  | send (message : List UInt8)
  | deliver (world : World) (place : (bytes : List UInt8) → Place bytes)
  | client (step : Operations.Step) (resubscribes : Bool)

/-- A delivery is that of the message that has been under way the longest. -/
def wholeStep : WholeStep → WholeClient → WholeClient
  | .send message, q => { q with inFlight := q.inFlight ++ [message] }
  | .deliver w place, q =>
      match q.inFlight with
      | [] => q
      | message :: later => { impl := handle w (place message) q.impl, inFlight := later }
  | .client call resubscribes, q =>
      { impl := take call q.impl, inFlight := if resubscribes then [] else q.inFlight }

/-- What a step means: a poll delivers messages, and the arrival of a fragment nothing. -/
inductive Meant : Step → List WholeStep → Prop
  | send (message : CutMessage) : Meant (.send message) [.send message.bytes]
  | arrive (count : Nat) : Meant (.arrive count) []
  | poll (aeron : Aeron) (maxMessages : Int) (world : World)
      (place : Nat → (bytes : List UInt8) → Place bytes) (count : Nat) :
      Meant (.poll aeron maxMessages world place)
        ((List.range count).map fun n => .deliver world (place n))
  | client (call : Operations.Step) (resubscribes : Bool) :
      Meant (.client call resubscribes) [.client call resubscribes]

end Meaning

section Fragments

/-- The fragments of the first message that have been handled, if it is not complete. -/
def Begun (acc : List UInt8) (begun : List Fragment) (messages : List CutMessage) : Prop :=
  begun = [] ∨ ∃ message later left, messages = message :: later ∧ begun ≠ [] ∧ left ≠ [] ∧
    message.fragments = begun ++ left ∧ acc = begun.flatMap Fragment.bytes

theorem fragments_ne_nil (message : CutMessage) : message.fragments ≠ [] := by
  rcases message.flagged with ⟨only, same, -⟩ | ⟨first, middles, last, same, -⟩
  · rw [same]
    exact List.cons_ne_nil _ _
  · rw [same]
    exact List.cons_ne_nil _ _

theorem place_of_left {message : CutMessage} {begun left : List Fragment} {f : Fragment}
    (cut : message.fragments = begun ++ f :: left) (some : begun ≠ []) :
    if left = [] then f.place = .last else f.place = .middle := by
  rcases message.flagged with ⟨only, same, -⟩ | ⟨first, middles, last, same, -, inner, ends⟩
  · rw [same] at cut
    have short := congrArg List.length cut
    have long := List.length_pos_of_ne_nil some
    simp at short
    omega
  · obtain ⟨b, begun, rfl⟩ := List.exists_cons_of_ne_nil some
    rw [same, List.cons_append, List.cons.injEq] at cut
    by_cases none : left = []
    · subst none
      obtain ⟨-, last_eq⟩ := List.append_inj' cut.2 rfl
      rw [if_pos rfl, ← List.singleton_injective last_eq]
      exact ends
    · have split := cut.2
      rw [← List.dropLast_append_getLast none, ← List.cons_append, ← List.append_assoc] at split
      obtain ⟨middles_eq, -⟩ := List.append_inj' split rfl
      rw [if_neg none]
      refine inner f ?_
      rw [middles_eq]
      exact List.mem_append_right _ List.mem_cons_self

theorem onFragment_refines {r : LocalFragmentReassembler} {messages : List CutMessage} {f : Fragment}
    {begun rest : List Fragment} (ahead : messages.flatMap CutMessage.fragments = begun ++ f :: rest)
    (state : Begun r.acc begun messages) :
    ∃ done later begun', messages = done ++ later ∧
      (onFragment f r).sink = r.sink ++ done.map CutMessage.handed ∧
      later.flatMap CutMessage.fragments = begun' ++ rest ∧ Begun (onFragment f r).acc begun' later := by
  rw [onFragment_eq]
  rcases state with rfl | ⟨message, later, left, rfl, some, more, cut, acc⟩
  · cases messages with
    | nil => cases ahead
    | cons message later =>
        rw [List.flatMap_cons, List.nil_append] at ahead
        rcases message.flagged with ⟨only, same, alone⟩ | ⟨first, middles, last, same, begins, -⟩
        · rw [same, List.singleton_append, List.cons.injEq] at ahead
          obtain ⟨rfl, rfl⟩ := ahead
          have handed : message.handed = .fragment only.bytes := by
            simp [CutMessage.handed, ← message.whole, same]
          refine ⟨[message], later, [], rfl, ?_, rfl, .inl rfl⟩
          rw [alone, List.map_singleton, handed]
        · rw [same, List.cons_append, List.cons.injEq] at ahead
          obtain ⟨rfl, rfl⟩ := ahead
          refine ⟨[], message :: later, [first], rfl, ?_, ?_, .inr ⟨message, later, middles ++ [last],
            rfl, List.cons_ne_nil _ _, by simp, same, ?_⟩⟩
          · rw [begins, List.map_nil, List.append_nil]
          · rw [List.flatMap_cons, same]
            rfl
          · rw [begins]
            simp
  · obtain ⟨g, left, rfl⟩ := List.exists_cons_of_ne_nil more
    rw [List.flatMap_cons, cut, List.append_assoc, List.append_cancel_left_eq, List.cons_append,
      List.cons.injEq] at ahead
    obtain ⟨rfl, rfl⟩ := ahead
    have place := place_of_left cut some
    have bytes : message.bytes = r.acc ++ (g :: left).flatMap Fragment.bytes := by
      rw [← message.whole, cut, List.flatMap_append, acc]
    by_cases none : left = []
    · subst none
      rw [if_pos rfl] at place
      have several : message.fragments.length ≠ 1 := by
        have long := List.length_pos_of_ne_nil some
        rw [cut, List.length_append, List.length_singleton]
        omega
      refine ⟨[message], later, [], rfl, ?_, rfl, .inl rfl⟩
      rw [place, List.map_singleton, CutMessage.handed, if_neg several, bytes]
      simp
    · rw [if_neg none] at place
      refine ⟨[], message :: later, begun ++ [g], rfl, ?_, ?_, .inr ⟨message, later, left, rfl,
        by simp, none, by simp [cut], ?_⟩⟩
      · rw [place, List.map_nil, List.append_nil]
      · rw [List.flatMap_cons, cut]
        simp
      · rw [place, acc]
        simp

/-- A batch of fragments is the messages that it completes. -/
theorem batch_refines {r : LocalFragmentReassembler} {messages : List CutMessage}
    {begun rest : List Fragment} (fragments : List Fragment)
    (ahead : messages.flatMap CutMessage.fragments = begun ++ (fragments ++ rest))
    (state : Begun r.acc begun messages) :
    ∃ done later begun', messages = done ++ later ∧
      (stateAfter onFragment r fragments).sink = r.sink ++ done.map CutMessage.handed ∧
      later.flatMap CutMessage.fragments = begun' ++ rest ∧
      Begun (stateAfter onFragment r fragments).acc begun' later := by
  induction fragments generalizing r messages begun with
  | nil => exact ⟨[], messages, begun, rfl, by simp [stateAfter], ahead, state⟩
  | cons f fragments ih =>
      obtain ⟨first, others, begun₁, rfl, sink, ahead₁, state₁⟩ := onFragment_refines ahead state
      obtain ⟨more, later, begun₂, rfl, sink₂, ahead₂, state₂⟩ := ih ahead₁ state₁
      refine ⟨first ++ more, later, begun₂, (List.append_assoc _ _ _).symm, ?_, ahead₂, state₂⟩
      change (stateAfter onFragment (onFragment f r) fragments).sink = _
      rw [sink₂, sink, List.map_append, List.append_assoc]

end Fragments

section Runs

/-- The two clients are in the same state, and the messages that are under way to the one are those
of which the other has not handled all fragments. -/
structure Refines (p : PolledClient) (q : WholeClient) : Prop where
  impl : p.impl = q.impl
  flight : ∃ messages begun, messages.map CutMessage.bytes = q.inFlight ∧
    messages.flatMap CutMessage.fragments = begun ++ (p.waiting ++ p.sent) ∧
    Begun p.reassembler.acc begun messages

theorem deliveries (w : World) (place : Nat → (bytes : List UInt8) → Place bytes)
    (done later : List CutMessage) (n : Nat) (c : Impl) :
    stateAfter wholeStep ⟨c, (done ++ later).map CutMessage.bytes⟩
        ((List.range' n done.length).map fun n => .deliver w (place n)) =
      ⟨handleCalls w place (done.map CutMessage.handed) n c, later.map CutMessage.bytes⟩ := by
  induction done generalizing n c with
  | nil => rfl
  | cons message done ih =>
      rw [List.length_cons, List.range'_succ, List.map_cons, List.map_cons, handleCalls]
      change stateAfter wholeStep ⟨handle w (place n message.bytes) c,
        (done ++ later).map CutMessage.bytes⟩ _ = _
      rw [ih, bytes_handed]

theorem polled_batch (aeron : Aeron) (maxMessages : Int) (p : PolledClient) :
    ∃ count, (pollMessages aeron maxMessages p.egress).2.waiting = p.waiting.drop count ∧
      (pollMessages aeron maxMessages p.egress).2.reassembler =
        stateAfter onFragment p.reassembler (p.waiting.take count) := by
  by_cases polls : p.egress.Polls
  · rw [pollMessages_of_polls polls]
    exact ⟨_, rfl, rfl⟩
  · rw [pollMessages_of_idle polls]
    exact ⟨0, rfl, rfl⟩

/-- Each step of a client with fragments is imitated by what it means. -/
theorem step_refines (p : PolledClient) (q : WholeClient) (i : Step) (refines : Refines p q) :
    ∃ moves, Meant i moves ∧ Refines (step i p) (stateAfter wholeStep q moves) := by
  obtain ⟨c, inFlight⟩ := q
  obtain ⟨impl, messages, begun, flight, ahead, state⟩ := refines
  dsimp only at impl flight
  subst impl flight
  cases i with
  | send message =>
      refine ⟨_, .send message, rfl, messages ++ [message], begun, List.map_append, ?_, ?_⟩
      · rw [List.flatMap_append, ahead]
        simp [step]
      · rcases state with none | ⟨first, later, left, rfl, rest⟩
        · exact .inl none
        · exact .inr ⟨first, later ++ [message], left, rfl, rest⟩
  | arrive count =>
      refine ⟨_, .arrive count, rfl, messages, begun, rfl, ?_, state⟩
      rw [ahead]
      simp [step]
  | poll aeron maxMessages w place =>
      obtain ⟨count, waiting, reassembler⟩ := polled_batch aeron maxMessages p
      have split : messages.flatMap CutMessage.fragments =
          begun ++ (p.waiting.take count ++ (p.waiting.drop count ++ p.sent)) := by
        rw [ahead, ← List.append_assoc (List.take _ _), List.take_append_drop]
      obtain ⟨done, later, begun', rfl, sink, ahead', state'⟩ := batch_refines _ split state
      refine ⟨_, .poll aeron maxMessages w place done.length, ?_⟩
      rw [List.range_eq_range', deliveries]
      refine ⟨?_, later, begun', rfl, ?_, ?_⟩
      · dsimp only [step, poll]
        rw [reassembler, sink, List.drop_left]
      · dsimp only [step, poll]
        rw [waiting, ahead']
      · dsimp only [step, poll]
        rw [reassembler]
        exact state'
  | client call resubscribes =>
      refine ⟨_, .client call resubscribes, ?_⟩
      cases resubscribes with
      | false => exact ⟨rfl, messages, begun, rfl, ahead, state⟩
      | true => exact ⟨rfl, [], [], rfl, rfl, .inl rfl⟩

/-- What happens to a client that messages are delivered to is a run of its operations. -/
theorem reached_of_whole (config : ClusterClientConfig) (generated : StdString)
    (moves : List WholeStep) : ∃ operations,
      (stateAfter wholeStep ⟨Impl.construct config generated, []⟩ moves).impl =
        reached config generated operations := by
  refine invariant_of_steps (fun q : WholeClient => ∃ operations, q.impl =
    reached config generated operations) ⟨[], rfl⟩ ?_
  rintro ⟨_, inFlight⟩ i ⟨operations, rfl⟩
  have more (last : Operations.Step) : take last (reached config generated operations) =
      reached config generated (operations ++ [last]) :=
    (stateAfter_append take _ operations [last]).symm
  cases i with
  | send message => exact ⟨operations, rfl⟩
  | deliver w place =>
      cases inFlight with
      | nil => exact ⟨operations, rfl⟩
      | cons message later =>
          exact ⟨_, more ⟨w, .act (.event (.delivered (place message).mem (place message).data
            message.length))⟩⟩
  | client call resubscribes => exact ⟨_, more call⟩

end Runs

end AeronClusterClient.Client.PolledDelivery
