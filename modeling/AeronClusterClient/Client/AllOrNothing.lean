/- module: AeronClusterClient/Client/AllOrNothing
   source: src/cluster_client.cpp (publish_*, send_subscription_request,
   send_unsubscription_request), src/session_manager.cpp (publish_message, send_combined_message)
   digest: A call that publishes has one frame accepted and counted, or throws and has changed nothing. -/

import AeronClusterClient.Client.Operations
import AeronClusterClient.Session.Acceptance

/-!
The session manager reports by a result whether a frame was accepted, the
client by an exception. Between the two, callbacks may run for what the session
manager has noticed on the way; they touch neither the count of sent messages
nor the subscriptions.
-/

set_option autoImplicit false
set_option relaxedAutoImplicit false

namespace AeronClusterClient.Client.AllOrNothing

open Lib.Action Client.State Client.Frames Client.Subscriptions Client.Programs
open Orders (Order)
open Session.Manager (SessionM)
open Session.Updates (On)
open Session.Acceptance
open Text (StdString ascii)

/-- A call that publishes one message. -/
inductive Request
  | publishOrder (order : Order)
  | publishOrderToTopic (order : Order) (topic : StdString)
  | publishMessage (messageType payload headers : StdString)
  | publishMessageToTopic (messageType payload headers topic : StdString)
  | subscribe (topic messageIdentifier resumeStrategy instanceIdentifier : StdString)
  | unsubscribe (topic messageIdentifier : StdString)

def send (w : World) : Request → ClientM StdString
  | .publishOrder order => Operations.publishOrder w order
  | .publishOrderToTopic order topic => Operations.publishOrderToTopic w order topic
  | .publishMessage messageType payload headers =>
      Operations.publishMessage w messageType payload headers
  | .publishMessageToTopic messageType payload headers topic =>
      Operations.publishMessageToTopic w messageType payload headers topic
  | .subscribe topic messageIdentifier resumeStrategy instanceIdentifier =>
      sendSubscriptionRequest w topic messageIdentifier resumeStrategy instanceIdentifier
  | .unsubscribe topic messageIdentifier => sendUnsubscriptionRequest w topic messageIdentifier

section Outcomes

/-- No frame has been accepted, no message counted, and the subscriptions are as they were. -/
structure Unsent (c after : Impl) : Prop where
  refuses : Refuses c.sessionManager.session after.sessionManager.session
  messagesSent : after.stats.messagesSent = c.stats.messagesSent
  subscriptions : after.subscriptions = c.subscriptions

instance : IsPreorder Impl Unsent where
  refl _ := ⟨refl_of Refuses _, rfl, rfl⟩
  trans _ _ _ first rest :=
    ⟨trans_of Refuses first.refuses rest.refuses, rest.messagesSent.trans first.messagesSent,
      rest.subscriptions.trans first.subscriptions⟩

def CarriesId (messageId : StdString) (frame : List UInt8) : Prop :=
  ∃ topic messageType payload headers,
    CarriesMessage topic messageType messageId payload headers frame

/-- Exactly one frame has been accepted, and it carries the id. -/
def AcceptsOne (c : Impl) (messageId : StdString) (after : Impl) : Prop :=
  ∃ frame, CarriesId messageId frame ∧
    Accepts [frame] c.sessionManager.session after.sessionManager.session

/-- The call has returned an id after one frame for it was accepted, and one message is counted. -/
structure Published (c : Impl) (messageId : StdString) (after : Impl) : Prop where
  accepts : AcceptsOne c messageId after
  messagesSent : after.stats.messagesSent = c.stats.messagesSent + 1

/-- The call has thrown an exception, and nothing has been sent. -/
structure Thrown (c : Impl) (raised : Raised) (after : Impl) : Prop where
  exception : ∃ what, raised = .exception what
  unsent : Unsent c after

/-- The call has one frame accepted and counted, or it throws with nothing sent. -/
def SendsOnce (x : ClientM StdString) : Prop := ∀ c, Ends x c (Published c) (Thrown c)

theorem AcceptsOne.after_unsent {c mid after : Impl} {messageId : StdString} (first : Unsent c mid)
    (accepts : AcceptsOne mid messageId after) : AcceptsOne c messageId after := by
  obtain ⟨frame, carried, accepted⟩ := accepts
  exact ⟨frame, carried, first.refuses.trans accepted⟩

theorem AcceptsOne.before_unsent {c mid after : Impl} {messageId : StdString}
    (accepts : AcceptsOne c messageId mid) (rest : Unsent mid after) : AcceptsOne c messageId after := by
  obtain ⟨frame, carried, accepted⟩ := accepts
  exact ⟨frame, carried, accepted.trans rest.refuses⟩

end Outcomes

section Rules

variable {w : World} {α : Type}

theorem sendsOnce_after {x : ClientM α} {f : α → ClientM StdString} (catchable : Catchable x)
    (unsent : Within Unsent x) (rest : ∀ a, SendsOnce (f a)) : SendsOnce (x >>= f) := by
  intro c
  rw [ends_bind]
  cases run : x.run c with
  | error raised mid => exact (ends_of_error run).mpr ⟨catchable c raised mid run, unsent.of_error run⟩
  | ok a mid =>
      have first : Unsent c mid := unsent.of_ok run
      refine (ends_of_ok run).mpr ((rest a mid).mono (fun messageId after published => ?_)
        fun raised after thrown => ?_)
      · refine ⟨published.accepts.after_unsent first, ?_⟩
        rw [published.messagesSent, first.messagesSent]
      · exact ⟨thrown.exception, trans_of Unsent first thrown.unsent⟩

theorem sendsOnce_throw (what : StdString) : SendsOnce (throwException what) :=
  fun c => ⟨⟨what, rfl⟩, refl_of Unsent c⟩

theorem noting_unsent : Noting (Within Unsent) := by
  refine .of_notes closed_within fun {f} notes => ?_
  refine within_modify fun c => ⟨?_, (notes c).messagesSent, (notes c).subscriptions⟩
  rw [(notes c).session]
  exact refl_of Refuses _

theorem callSession_returns {x : SessionM α} (total : Total x) (c : Impl) :
    ∃ a m after, x.run c.sessionManager = .ok a m ∧ (callSession w x).run c = .ok a after ∧
      Unsent { c with sessionManager := m } after := by
  obtain ⟨a, m, run⟩ := total c.sessionManager
  obtain ⟨b, after, called⟩ := total_callSession (w := w) total c
  have noticed : Within Unsent (m.session.notices.forM
      (fun notice => catchException (onNotice w notice) (fun _ => return ())) >>= fun _ => pure a) := by
    refine within_bind (within_forM fun notice _ => ?_) fun _ => within_pure _
    exact within_catchException (noted_onNotice noting_unsent notice) fun _ => within_pure _
  have same := called
  rw [callSession_of_ok run] at same
  obtain ⟨_, _, -, returned⟩ := bind_eq_ok.mp same
  cases returned
  have taken : Unsent { c with sessionManager := m }
      { c with sessionManager := { m with session.notices := [] } } :=
    ⟨refuses_of_same rfl, rfl, rfl⟩
  exact ⟨a, m, _, run, called, trans_of Unsent taken (noticed.of_ok same)⟩

theorem ends_publishOrThrow (topic messageType messageId payload headers failure : StdString)
    (c : Impl) : Ends (publishOrThrow w topic messageType messageId payload headers failure) c
      (fun _ after => AcceptsOne c messageId after ∧ after.stats.messagesSent = c.stats.messagesSent)
      (Thrown c) := by
  let handing : Impl :=
    { c with handed := c.handed ++ [.publish topic messageType messageId payload headers] }
  have total : Total (Session.Manager.publishMessage handing.config w.session topic messageType
      messageId payload headers) := Session.Connect.total_publishMessage _ _ _ _ _
  obtain ⟨sent, m, after, run, called, rest⟩ := callSession_returns (w := w) total handing
  have reports := (ends_of_ok run).mp (attempts_publishMessage topic messageType messageId payload
    headers handing.sessionManager)
  change Ends (callSession w (Session.Manager.publishMessage handing.config w.session topic messageType
    messageId payload headers) >>= fun sent =>
      if !sent then do throwException ((← get).buildPublishFailureMessage failure) else pure ())
    handing _ _
  rw [ends_bind, ends_of_ok called]
  cases sent with
  | true =>
      obtain ⟨frame, carried, accepted⟩ := reports
      have one : AcceptsOne c messageId { handing with sessionManager := m } :=
        ⟨frame, ⟨topic, messageType, payload, headers, carried⟩, accepted⟩
      exact ⟨one.before_unsent rest, rest.messagesSent⟩
  | false =>
      have refused : Unsent c { handing with sessionManager := m } := ⟨reports, rfl, rfl⟩
      exact ⟨⟨_, rfl⟩, trans_of Unsent refused rest⟩

theorem sendsOnce_publish {topic messageType messageId payload headers failure : StdString}
    {rest : Unit → ClientM StdString}
    (counts : ∀ c, ∃ after, (rest ()).run c = .ok messageId after ∧
      after.sessionManager = c.sessionManager ∧
      after.stats.messagesSent = c.stats.messagesSent + 1) :
    SendsOnce (publishOrThrow w topic messageType messageId payload headers failure >>= rest) := by
  intro c
  rw [ends_bind]
  refine (ends_publishOrThrow topic messageType messageId payload headers failure c).mono ?_
    fun _ _ thrown => thrown
  rintro ⟨⟩ mid ⟨accepted, same⟩
  obtain ⟨after, run, session, counted⟩ := counts mid
  refine (ends_of_ok run).mpr ⟨?_, ?_⟩
  · obtain ⟨frame, carried, accepts⟩ := accepted
    refine ⟨frame, carried, ?_⟩
    rw [session]
    exact accepts
  · rw [counted, same]

end Rules

section Requests

variable {w : World}

theorem sendsOnce_guarded {rest : Unit → ClientM StdString} (all : ∀ u, SendsOnce (rest u)) :
    SendsOnce (ensureConnectedOrThrow >>= rest) :=
  sendsOnce_after (has_ensureConnectedOrThrow closed_catchable)
    (has_ensureConnectedOrThrow closed_within) all

theorem sendsOnce_answer {answers : Nat → StdString} {rest : StdString → ClientM StdString}
    (all : ∀ messageId, SendsOnce (rest messageId)) : SendsOnce (answer answers >>= rest) :=
  sendsOnce_after (noted_answer noting_catchable _) (noted_answer noting_unsent _) all

theorem sendsOnce_get {rest : Impl → ClientM StdString} (all : ∀ c, SendsOnce (rest c)) :
    SendsOnce (get >>= rest) :=
  sendsOnce_after closed_catchable.get within_get all

theorem sendsOnce_topic {topic : StdString} {rest : Unit → ClientM StdString}
    (all : ∀ u, SendsOnce (rest u)) :
    SendsOnce (Operations.throwIfTopicEmpty topic >>= rest) :=
  sendsOnce_after (Operations.has_throwIfTopicEmpty closed_catchable topic)
    (Operations.has_throwIfTopicEmpty closed_within topic) all

theorem sendsOnce_publishOrderOn (topic : StdString) (order : Order) :
    SendsOnce (Operations.publishOrderOn w topic order) := by
  unfold Operations.publishOrderOn
  cases order.validate with
  | nil => exact sendsOnce_answer fun messageId => sendsOnce_publish fun c => ⟨_, rfl, rfl, rfl⟩
  | cons error errors => exact sendsOnce_throw _

theorem sendsOnce_publishMessageOn (topic messageType payload headers : StdString) :
    SendsOnce (Operations.publishMessageOn w topic messageType payload headers) := by
  unfold Operations.publishMessageOn
  exact sendsOnce_answer fun messageId => sendsOnce_publish fun c => ⟨_, rfl, rfl, rfl⟩

/-- Every call that publishes is all or nothing, in every state and whatever the offers return. -/
theorem publishing_all_or_nothing (w : World) (request : Request) : SendsOnce (send w request) := by
  cases request with
  | publishOrder order =>
      change SendsOnce (Operations.publishOrder w order)
      unfold Operations.publishOrder
      exact sendsOnce_guarded fun _ => sendsOnce_get fun c => sendsOnce_publishOrderOn _ order
  | publishOrderToTopic order topic =>
      change SendsOnce (Operations.publishOrderToTopic w order topic)
      unfold Operations.publishOrderToTopic
      exact sendsOnce_guarded fun _ => sendsOnce_topic fun _ =>
        sendsOnce_publishOrderOn topic order
  | publishMessage messageType payload headers =>
      change SendsOnce (Operations.publishMessage w messageType payload headers)
      unfold Operations.publishMessage
      exact sendsOnce_guarded fun _ => sendsOnce_get fun c =>
        sendsOnce_publishMessageOn _ messageType payload headers
  | publishMessageToTopic messageType payload headers topic =>
      change SendsOnce (Operations.publishMessageToTopic w messageType payload headers topic)
      unfold Operations.publishMessageToTopic
      exact sendsOnce_guarded fun _ => sendsOnce_topic fun _ =>
        sendsOnce_publishMessageOn topic messageType payload headers
  | subscribe topic messageIdentifier resumeStrategy instanceIdentifier =>
      change SendsOnce (sendSubscriptionRequest w topic messageIdentifier resumeStrategy
        instanceIdentifier)
      unfold sendSubscriptionRequest
      refine sendsOnce_guarded fun _ => sendsOnce_answer fun messageId => ?_
      refine sendsOnce_get fun c => ?_
      dsimp only
      unfold publishRequest
      exact sendsOnce_publish fun c => ⟨_, rfl, rfl, rfl⟩
  | unsubscribe topic messageIdentifier =>
      change SendsOnce (sendUnsubscriptionRequest w topic messageIdentifier)
      unfold sendUnsubscriptionRequest
      refine sendsOnce_guarded fun _ => sendsOnce_answer fun messageId => ?_
      unfold publishRequest
      exact sendsOnce_publish fun c => ⟨_, rfl, rfl, rfl⟩

end Requests

end AeronClusterClient.Client.AllOrNothing
