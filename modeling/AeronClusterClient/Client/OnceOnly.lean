/- module: AeronClusterClient/Client/OnceOnly
   source: src/cluster_client.cpp (handle_incoming_message, is_message_processed,
   mark_message_processed, and everything that may be going on around a delivery)
   digest: A message that its callback has accepted does not come back while few ids are about. -/

import AeronClusterClient.Client.AtLeastOnce
import AeronClusterClient.Client.Moves

/-!
The set of processed ids is cleaned up when it has more than a thousand
entries. Until then a mark is never lost, so that a redelivery, on whatever
connection and between whatever other calls, is kept from the callback.
-/

set_option autoImplicit false
set_option relaxedAutoImplicit false

namespace AeronClusterClient.Client.OnceOnly

open Lib.Action Lib.Bytes Lib.Runs
open Client.State Client.Frames Client.Subscriptions Client.Delivery Client.Connection
open Client.Operations Client.Moves
open Client.AtLeastOnce (beforeCallback disturbs_beforeCallback CallbackReturns)
open Config (ClusterClientConfig)
open Sbe.Parser (ParseResult)
open Text (StdString ascii)

section Relations

structure Still (c after : Impl) : Prop where
  messages : after.messages = c.messages
  processedMessages : after.processedMessages = c.processedMessages

instance : IsPreorder Impl Still where
  refl _ := ⟨rfl, rfl⟩
  trans _ _ _ first rest :=
    ⟨rest.messages.trans first.messages, rest.processedMessages.trans first.processedMessages⟩

/-- No mark is lost, and the callback is not called for a marked id. -/
structure Keeps (c after : Impl) : Prop where
  marks : c.processedMessages ⊆ after.processedMessages
  messages : ∃ new, after.messages = c.messages ++ new ∧
    ∀ result ∈ new, result.messageId = [] ∨ result.messageId ∉ c.processedMessages

/-- So it is as long as all marks are among these ids. -/
def Remembers (ids : Finset StdString) (c after : Impl) : Prop :=
  c.processedMessages ⊆ ids → after.processedMessages ⊆ ids ∧ Keeps c after

theorem keeps_of_still {c after : Impl} (still : Still c after) : Keeps c after := by
  refine ⟨?_, [], ?_, by simp⟩
  · rw [still.processedMessages]
  · rw [still.messages, List.append_nil]

theorem Keeps.trans {c mid after : Impl} (first : Keeps c mid) (rest : Keeps mid after) :
    Keeps c after := by
  obtain ⟨new, told, fresh⟩ := first.messages
  obtain ⟨more, told', fresh'⟩ := rest.messages
  refine ⟨first.marks.trans rest.marks, new ++ more, ?_, fun result among => ?_⟩
  · rw [told', told, List.append_assoc]
  · rcases List.mem_append.mp among with early | late
    · exact fresh result early
    · exact (fresh' result late).imp id fun unmarked marked => unmarked (first.marks marked)

variable {ids : Finset StdString}

theorem remembers_of_still {c after : Impl} (still : Still c after) : Remembers ids c after := by
  intro among
  refine ⟨?_, keeps_of_still still⟩
  rwa [still.processedMessages]

instance : IsPreorder Impl (Remembers ids) where
  refl c := remembers_of_still (refl_of Still c)
  trans _ _ _ first rest among := by
    obtain ⟨within, keeps⟩ := first among
    obtain ⟨within', keeps'⟩ := rest within
    exact ⟨within', keeps.trans keeps'⟩

theorem still_of_sends {c after : Impl} (sends : Sends c after) : Still c after :=
  ⟨sends.messages, sends.processedMessages⟩

theorem still_of_disturbs {c after : Impl} (disturbs : Disturbs c after) : Still c after :=
  still_of_sends disturbs.toSends

end Relations

section Deliveries

variable {w : World} {result : ParseResult} {c : Impl}

theorem processedMessages_of_unnamed (unnamed : result.messageId = []) :
    (finalState (processMessage w result) c).processedMessages = c.processedMessages := by
  unfold processMessage
  simp only [unnamed, List.isEmpty_nil, Bool.not_true, Bool.false_and, Bool.and_false,
    Bool.false_eq_true, if_false]
  change (finalState (callMessageCallback w result >>= fun _ => pure ()) c).processedMessages = _
  rw [finalState_bind_pure]
  exact (callsBack_callMessageCallback c).processedMessages

theorem processedMessages_of_accepted (new : ¬ Redelivered result c)
    (returns : c.messageCallback = true → returned (callUser w (.message result)) c = some ())
    (kept : shouldSkipAutoCommit w.json w.order c.subscribedTopics result = false)
    (named : result.messageId ≠ []) :
    (finalState (processMessage w result) c).processedMessages =
      markMessageProcessed w.order c.processedMessages result.messageId := by
  have unknown : (!result.messageId.isEmpty && isMessageProcessed c.processedMessages result.messageId) =
      false := by
    by_contra known
    apply new
    simpa [Redelivered, isMessageProcessed] using known
  have accepted : ∃ mid, (callMessageCallback w result).run c = .ok true mid ∧
      mid.processedMessages = c.processedMessages := by
    unfold callMessageCallback
    rw [EStateM.run_bind, EStateM.run_get]
    dsimp only
    by_cases installed : c.messageCallback = true
    · obtain ⟨mid, run⟩ := returned_eq_some.mp (returns installed)
      have told : mid = told (.message result) c := by
        have called := callUser_run (w := w) (.message result) c
        rw [run] at called
        cases answered : w.callback c.sessionManager.looks with
        | ok _ =>
            rw [answered] at called
            cases called
            rfl
        | error what =>
            rw [answered] at called
            cases called
      refine ⟨mid, ?_, by rw [told]; rfl⟩
      rw [if_pos installed]
      apply catchException_of_ok
      rw [EStateM.run_bind, run]
      rfl
    · rw [if_neg installed]
      exact ⟨c, rfl, rfl⟩
  obtain ⟨mid, run, same⟩ := accepted
  have goes : (processMessage w result).run c = (acknowledge w false result).run mid := by
    unfold processMessage
    rw [EStateM.run_bind, EStateM.run_get]
    dsimp only
    rw [unknown, if_neg (by simp), EStateM.run_bind, run]
    dsimp only
    rw [kept, if_pos (by simpa using named)]
  rw [finalState_congr goes]
  have rest := commits_autoCommit (w := w) result
    { mid with
      processedMessages := markMessageProcessed w.order mid.processedMessages result.messageId }
  rw [← same]
  exact rest.processedMessages

theorem parse_of_message {mem : Memory} {data length : Nat}
    (message : parsedMessage w mem data length = some result) :
    parse w mem data length = pure result ∧ result.success = true := by
  obtain ⟨parsed, success⟩ := Option.filter_eq_some_iff.mp message
  refine ⟨?_, success⟩
  rcases parse_eq w mem data length with ⟨r, parsed', same⟩ | ⟨failed, -⟩
  · rw [parsed] at parsed'
    cases parsed'
    exact same
  · rw [failed] at parsed
    cases parsed

theorem processedMessages_deliver_unnamed {mem : Memory} {data length : Nat}
    (message : parsedMessage w mem data length = some result) (unnamed : result.messageId = []) :
    (finalState (handleIncomingMessage w mem data length) c).processedMessages =
      c.processedMessages := by
  obtain ⟨same, success⟩ := parse_of_message message
  let kept (c after : Impl) : Prop := after.processedMessages = c.processedMessages
  have quiet {α : Type} {x : ClientM α} (disturbs : Within Disturbs x) : Within kept x :=
    disturbs.mono fun _ _ h => h.processedMessages
  have body : Within kept (handleParsedMessage w result) := by
    unfold handleParsedMessage
    refine within_bind_comp (Q := kept) (S := kept) ?_ (fun _ _ => processedMessages_of_unnamed unnamed)
      (fun _ _ h => h) fun _ _ _ first rest => Eq.trans rest first
    exact quiet (within_ite (disturbs_handleSessionEvent result) (within_pure _))
  unfold handleIncomingMessage
  rw [same, pure_bind, if_pos success]
  exact within_catchException_comp (R := kept) (Q := kept) (S := kept) body
    (fun what => quiet (disturbs_callErrorCallback _)) (fun _ _ h => h)
    (fun _ _ _ first rest => Eq.trans rest first) c

theorem remembers_delivers {ids : Finset StdString} (few : ids.card ≤ 1000) {after : Impl}
    (among : result.messageId ∈ ids) (delivers : Delivers w result c after) :
    Remembers ids c after := by
  intro marked
  have fresh : ∃ new, after.messages = c.messages ++ new ∧
      ∀ r ∈ new, r.messageId = [] ∨ r.messageId ∉ c.processedMessages := by
    rcases delivers.messages with same | ⟨new, told⟩
    · exact ⟨[], by rw [same, List.append_nil], by simp⟩
    · refine ⟨[result], told, fun r this => ?_⟩
      obtain rfl := List.mem_singleton.mp this
      by_contra known
      rw [not_or, not_not] at known
      exact new known
  rcases delivers.processedMessages with same | marks
  · rw [same]
    exact ⟨marked, ⟨by rw [same], fresh⟩⟩
  · have inserted : insert result.messageId c.processedMessages ⊆ ids :=
      Finset.insert_subset among marked
    have room : ¬ 1000 < (insert result.messageId c.processedMessages).card :=
      Nat.not_lt.mpr ((Finset.card_le_card inserted).trans few)
    have all : after.processedMessages = insert result.messageId c.processedMessages := by
      rw [marks]
      unfold markMessageProcessed
      exact if_neg room
    rw [all]
    refine ⟨inserted, ⟨?_, fresh⟩⟩
    rw [all]
    exact Finset.subset_insert _ _

/-- The id, if there is one, of the message that something brings which happens to a client. -/
def Brings (w : World) : Meanwhile → StdString → Prop
  | .delivered mem data length, messageId =>
      ∃ result, parsedMessage w mem data length = some result ∧ result.messageId = messageId
  | _, _ => False

theorem remembers_handleIncomingMessage {ids : Finset StdString} (few : ids.card ≤ 1000)
    {mem : Memory} {data length : Nat}
    (among : ∀ messageId ≠ [], Brings w (.delivered mem data length) messageId → messageId ∈ ids) :
    Within (Remembers ids) (handleIncomingMessage w mem data length) := by
  intro c
  cases message : parsedMessage w mem data length with
  | none =>
      exact remembers_of_still (still_of_disturbs (disturbs_handleIncomingMessage message c))
  | some result =>
      have delivers := delivers_handleIncomingMessage message c
      by_cases unnamed : result.messageId = []
      · intro marked
        have same := processedMessages_deliver_unnamed (c := c) message unnamed
        rw [same]
        refine ⟨marked, ⟨by rw [same], ?_⟩⟩
        rcases delivers.messages with silent | ⟨-, told⟩
        · exact ⟨[], by rw [silent, List.append_nil], by simp⟩
        · refine ⟨[result], told, fun r this => .inl ?_⟩
          rwa [List.mem_singleton.mp this]
      · exact remembers_delivers few (among _ unnamed ⟨result, message, rfl⟩) delivers

end Deliveries

section Moving

variable {w : World} {ids : Finset StdString} {α : Type}

theorem remembers_of_sends {x : ClientM α} (sends : Within Sends x) : Within (Remembers ids) x :=
  sends.mono fun _ _ same => remembers_of_still (still_of_sends same)

theorem remembers_of_disturbs {x : ClientM α} (disturbs : Within Disturbs x) :
    Within (Remembers ids) x :=
  disturbs.mono fun _ _ same => remembers_of_still (still_of_disturbs same)

theorem remembers_setConnectionState (newState : ConnectionState) :
    Within (Remembers ids) (setConnectionState w newState) := by
  unfold setConnectionState
  refine within_bind within_get fun c => ?_
  refine within_bind (within_modify fun _ => remembers_of_still ⟨rfl, rfl⟩) fun _ => ?_
  refine within_bind within_get fun c => within_ite ?_ (within_pure _)
  exact remembers_of_disturbs (disturbs_callUser rfl)

variable (few : ids.card ≤ 1000)
include few

theorem remembers_doMeanwhile {event : Meanwhile}
    (among : ∀ messageId ≠ [], Brings w event messageId → messageId ∈ ids) :
    Within (Remembers ids) (doMeanwhile w event) := by
  cases event with
  | session event => exact remembers_of_disturbs (disturbs_callSession _)
  | images count => exact remembers_of_disturbs (disturbs_modify fun _ => rfl)
  | connectionLost reason => exact remembers_of_disturbs (disturbs_notifyConnectionLoss _ _)
  | delivered mem data length => exact remembers_handleIncomingMessage few among
  | driverError message => exact remembers_of_disturbs (disturbs_handleAeronError message)

variable (among : ∀ n, ∀ event ∈ w.meanwhile n, ∀ messageId ≠ [],
  Brings w event messageId → messageId ∈ ids)
include among

theorem remembers_pause : Within (Remembers ids) (pause w) := by
  intro c
  unfold pause
  -- the events of this pause are those that the world answers with here
  refine bind_from (fun raised after run => ?_) fun events after run => ?_
  · cases run
  · have here : events = w.meanwhile c.sessionManager.looks := by
      cases run
      rfl
    have asked : Remembers ids c after :=
      Within.of_ok (remembers_of_disturbs (disturbs_answer w.meanwhile)) run
    refine trans_of (Remembers ids) asked (within_forM (fun event happens => ?_) after)
    rw [here] at happens
    exact within_catchException (remembers_doMeanwhile few (among _ event happens)) fun _ =>
      within_pure _

/-- Deliveries apart, no move of a client is of concern. -/
theorem throughout_remembers : Throughout w (Remembers ids) where
  plain same := remembers_of_still ⟨same.messages, same.processedMessages⟩
  announces := remembers_setConnectionState
  connects _ := remembers_of_disturbs (disturbs_callSession _)
  disconnects _ := remembers_of_disturbs (disturbs_callSession _)
  publishes := publishes_of_parts (remembers_of_sends (sends_publishOrThrow _ _ _ _ _ _))
    fun counts => remembers_of_still ⟨counts.messages, counts.processedMessages⟩
  commits offset := remembers_of_sends (sends_sendCommitOffset offset)
  pauses := remembers_pause few among
  threads same := remembers_of_still ⟨same.messages, same.processedMessages⟩
  errors _ := remembers_of_disturbs (disturbs_callErrorCallback _)
  requests _ _ := remembers_of_disturbs (disturbs_callSession _)
  keepalives := remembers_of_disturbs (disturbs_callSession _)

end Moving

section Runs

/-- An id arrives with the event of a step, or at one of its pauses. -/
def Arrives (step : Step) (messageId : StdString) : Prop :=
  (∃ event, step.operation = .act (.event event) ∧ Brings step.world event messageId) ∨
    ∃ n, ∃ event ∈ step.world.meanwhile n, Brings step.world event messageId

variable {ids : Finset StdString}

theorem remembers_take (few : ids.card ≤ 1000) {step : Step}
    (among : ∀ messageId ≠ [], Arrives step messageId → messageId ∈ ids) (c : Impl) :
    Remembers ids c (take step c) := by
  have paused : ∀ n, ∀ event ∈ step.world.meanwhile n, ∀ messageId ≠ [],
      Brings step.world event messageId → messageId ∈ ids :=
    fun n event happens messageId named brings =>
      among messageId named (.inr ⟨n, event, happens, brings⟩)
  refine (throughout_remembers few paused).take c fun event this => ?_
  exact remembers_doMeanwhile few fun messageId named brings =>
    among messageId named (.inl ⟨event, this, brings⟩)

theorem remembers_stateAfter (few : ids.card ≤ 1000) {steps : List Step}
    (among : ∀ step ∈ steps, ∀ messageId ≠ [], Arrives step messageId → messageId ∈ ids) (c : Impl) :
    Remembers ids c (stateAfter take c steps) := by
  induction steps generalizing c with
  | nil => exact refl_of (Remembers ids) c
  | cons step steps ih =>
      exact trans_of (Remembers ids) (remembers_take few (among step List.mem_cons_self) c)
        (ih (fun step later => among step (List.mem_cons_of_mem _ later)) (take step c))

/-- The frame carries a message with this id, not one of those that are never committed, and the
callback returns for it. -/
def AcceptsFrame (w : World) (mem : Memory) (data length : Nat) (c : Impl) (messageId : StdString) :
    Prop :=
  ∃ result, parsedMessage w mem data length = some result ∧ result.messageId = messageId ∧
    shouldSkipAutoCommit w.json w.order c.subscribedTopics result = false ∧
    CallbackReturns w result c

/-- A message with this id is accepted by its callback: it arrives with the step, or at one of its
pauses, and then its mark is there when the step is over. -/
inductive Accepts (step : Step) (c : Impl) (messageId : StdString) : Prop
  | delivered (mem : Memory) (data length : Nat) :
      step.operation = .act (.event (.delivered mem data length)) →
      AcceptsFrame step.world mem data length c messageId → Accepts step c messageId
  | paused (n : Nat) (event : Meanwhile) : event ∈ step.world.meanwhile n →
      Brings step.world event messageId → messageId ∈ (take step c).processedMessages →
        Accepts step c messageId

theorem Accepts.arrives {step : Step} {c : Impl} {messageId : StdString}
    (accepts : Accepts step c messageId) : Arrives step messageId := by
  cases accepts with
  | delivered mem data length event accepted =>
      obtain ⟨result, message, same, -⟩ := accepted
      exact .inl ⟨_, event, result, message, same⟩
  | paused n event happens brings marked => exact .inr ⟨n, event, happens, brings⟩

theorem marked_of_acceptsFrame (few : ids.card ≤ 1000) {w : World} {mem : Memory} {data length : Nat}
    {c : Impl} {messageId : StdString} (known : c.processedMessages ⊆ ids) (among : messageId ∈ ids)
    (named : messageId ≠ []) (accepts : AcceptsFrame w mem data length c messageId) :
    messageId ∈ (finalState (handleIncomingMessage w mem data length) c).processedMessages := by
  obtain ⟨result, message, rfl, kept, mid, comes, answered⟩ := accepts
  obtain ⟨same, success⟩ := parse_of_message message
  have disturbs := disturbs_beforeCallback w result c
  rw [finalState_of_ok comes.before] at disturbs
  have topics : mid.subscribedTopics = c.subscribedTopics :=
    congrArg (·.subscribedTopics) disturbs.subscriptions
  rw [← topics] at kept
  have body : (finalState (handleParsedMessage w result) c).processedMessages =
      markMessageProcessed w.order c.processedMessages result.messageId := by
    change (finalState (beforeCallback w result >>= fun _ => processMessage w result) c).processedMessages = _
    rw [finalState_bind_of_ok comes.before, ← disturbs.processedMessages]
    exact processedMessages_of_accepted comes.unprocessed answered kept named
  have whole : (finalState (handleIncomingMessage w mem data length) c).processedMessages =
      markMessageProcessed w.order c.processedMessages result.messageId := by
    unfold handleIncomingMessage
    rw [same, pure_bind, if_pos success, ← body]
    have reported (what : StdString) : Within Still (callErrorCallback w
        (ascii "Message handling error: " ++ what)) :=
      (disturbs_callErrorCallback _).mono fun _ _ same => still_of_disturbs same
    exact (after_catchException reported c).processedMessages
  rw [whole, mem_markMessageProcessed]
  refine ⟨Finset.mem_insert_self _ _, fun full => ?_⟩
  have inserted : insert result.messageId c.processedMessages ⊆ ids :=
    Finset.insert_subset among known
  exact absurd full (Nat.not_lt.mpr ((Finset.card_le_card inserted).trans few))

theorem marked_of_accepts (few : ids.card ≤ 1000) {step : Step} {c : Impl} {messageId : StdString}
    (known : c.processedMessages ⊆ ids) (among : messageId ∈ ids) (named : messageId ≠ [])
    (accepts : Accepts step c messageId) : messageId ∈ (take step c).processedMessages := by
  cases accepts with
  | delivered mem data length event accepted =>
      obtain ⟨w, operation⟩ := step
      obtain rfl : operation = _ := event
      exact marked_of_acceptsFrame few known among named accepted
  | paused n event happens brings marked => exact marked

/-- In every run of a client in which at most a thousand ids arrive, whatever else it does meanwhile:
once a step has had a message accepted by its callback, in a delivery of its own or at one of its
pauses, the callback is not called again for its id in the steps that follow. -/
theorem accepted_once (config : ClusterClientConfig) (generated : StdString) (first rest : List Step)
    (step : Step) {messageId : StdString} (few : ids.card ≤ 1000)
    (among : ∀ other ∈ first ++ step :: rest, ∀ named ≠ [], Arrives other named → named ∈ ids)
    (named : messageId ≠ []) (accepts : Accepts step (reached config generated first) messageId) :
    ∃ later, (reached config generated (first ++ step :: rest)).messages =
        (reached config generated (first ++ [step])).messages ++ later ∧
      ∀ result ∈ later, result.messageId ≠ messageId := by
  have before := remembers_stateAfter few (c := Impl.construct config generated)
    (fun other early => among other (List.mem_append_left _ early)) (Finset.empty_subset ids)
  have listed : messageId ∈ ids :=
    among step (List.mem_append_right _ List.mem_cons_self) messageId named accepts.arrives
  have marked : messageId ∈ (reached config generated (first ++ [step])).processedMessages := by
    have split : reached config generated (first ++ [step]) = take step (reached config generated first) :=
      stateAfter_append take _ first [step]
    rw [split]
    exact marked_of_accepts few before.1 listed named accepts
  have known : (reached config generated (first ++ [step])).processedMessages ⊆ ids := by
    have early : ∀ other ∈ first ++ [step], ∀ named ≠ [], Arrives other named → named ∈ ids := by
      intro other early
      refine among other ?_
      rcases List.mem_append.mp early with earlier | this
      · exact List.mem_append_left _ earlier
      · rw [List.mem_singleton.mp this]
        exact List.mem_append_right _ List.mem_cons_self
    exact (remembers_stateAfter few early _ (Finset.empty_subset ids)).1
  have late : ∀ other ∈ rest, ∀ named ≠ [], Arrives other named → named ∈ ids := fun other late =>
    among other (List.mem_append_right _ (List.mem_cons_of_mem _ late))
  have goes := remembers_stateAfter few late _ known
  obtain ⟨later, told, fresh⟩ := goes.2.messages
  refine ⟨later, ?_, fun result among same => ?_⟩
  · have split : reached config generated (first ++ step :: rest) =
        stateAfter take (reached config generated (first ++ [step])) rest := by
      unfold reached
      rw [← stateAfter_append, List.append_assoc]
      rfl
    rw [split]
    exact told
  · rcases fresh result among with unnamed | unmarked
    · exact named (same.symm.trans unnamed)
    · exact unmarked (same ▸ marked)

section Sample

def orderFrame : List UInt8 :=
  Sbe.Encoder.topicFrame 1700000000000 0 (ascii "orders") (ascii "ORDER") (ascii "msg_1")
    (ascii "hello") []

def receiving : World := { json := Json.plainJson, order := lexicographic }

def orderArrives : Step :=
  ⟨receiving, .act (.event (.delivered (memoryOf 4096 orderFrame) 4096 orderFrame.length))⟩

/-- The order arrives twice at a client that has a message callback. -/
theorem accepted_once_sample :
    ∃ later, (reached {} [] ([⟨receiving, .setMessageCallback true⟩] ++ orderArrives ::
        [orderArrives])).messages =
        (reached {} [] ([⟨receiving, .setMessageCallback true⟩] ++ [orderArrives])).messages ++ later ∧
      ∀ result ∈ later, result.messageId ≠ ascii "msg_1" := by
  have parses : (parsedMessage receiving (memoryOf 4096 orderFrame) 4096 orderFrame.length).isSome =
      true := by decide +kernel
  obtain ⟨result, message⟩ := Option.isSome_iff_exists.mp parses
  have fields : (parsedMessage receiving (memoryOf 4096 orderFrame) 4096 orderFrame.length).map
      (fun r => (r.messageId, r.isSessionEvent)) = some (ascii "msg_1", false) := by
    decide +kernel
  have skipped : (parsedMessage receiving (memoryOf 4096 orderFrame) 4096 orderFrame.length).map
      (fun r => shouldSkipAutoCommit receiving.json receiving.order ∅ r) = some false := by
    decide +kernel
  rw [message, Option.map_some, Option.some.injEq, Prod.mk.injEq] at fields
  rw [message, Option.map_some, Option.some.injEq] at skipped
  have brought (messageId : StdString)
      (brings : Brings receiving (.delivered (memoryOf 4096 orderFrame) 4096 orderFrame.length) messageId) :
      messageId = ascii "msg_1" := by
    obtain ⟨other, same, rfl⟩ := brings
    rw [message] at same
    cases same
    exact fields.1
  have arriving (messageId : StdString) (arrives : Arrives orderArrives messageId) :
      messageId = ascii "msg_1" := by
    rcases arrives with ⟨event, same, brings⟩ | ⟨n, event, none, -⟩
    · cases same
      exact brought messageId brings
    · cases none
  have few : ({ascii "msg_1"} : Finset StdString).card ≤ 1000 := by decide
  refine accepted_once {} [] [⟨receiving, .setMessageCallback true⟩] [orderArrives] orderArrives few
    ?_ (by decide) ?_
  · intro other among messageId _ arrives
    rw [Finset.mem_singleton]
    rcases List.mem_append.mp among with early | late
    · rw [List.mem_singleton.mp early] at arrives
      rcases arrives with ⟨event, same, -⟩ | ⟨n, event, none, -⟩
      · cases same
      · cases none
    · have this : other = orderArrives := by simpa using late
      exact arriving messageId (this ▸ arrives)
  · refine .delivered _ _ _ rfl ⟨result, message, fields.1, skipped,
      reached {} [] [⟨receiving, .setMessageCallback true⟩], ⟨?_, ?_⟩, ?_⟩
    · unfold beforeCallback
      rw [fields.2]
      rfl
    · rintro ⟨-, known⟩
      cases known
    · exact fun _ => rfl

end Sample

end Runs

end AeronClusterClient.Client.OnceOnly
