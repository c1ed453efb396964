/- module: AeronClusterClient/Client/SentMessages
   source: src/cluster_client.cpp (publish_*, send_subscription_request, send_unsubscription_request,
   get_connection_stats), src/session_manager.cpp (publish_message)
   digest: Every message that a client counts as sent has an accepted frame of its own. -/

import AeronClusterClient.Client.AllOrNothing
import AeronClusterClient.Client.Envelopes
import AeronClusterClient.Client.Moves

/-!
A client counts a message when its session manager has reported success. In
between, other threads' callbacks run, a resumption may publish from inside a
connect call, and frames are accepted that the client does not count.
-/

set_option autoImplicit false
set_option relaxedAutoImplicit false

namespace AeronClusterClient.Client.SentMessages

open Lib.Action Lib.Runs
open Client.State Client.Programs Client.SessionEffects Client.Operations Client.Moves
open Client.AllOrNothing (CarriesId SendsOnce sendsOnce_publish)
open Client.Envelopes (respects_grows)
open Config (ClusterClientConfig)
open Session.Acceptance (acceptedFrames)
open Session.CloseRequest (Grows grows_of_same admits_grows)
open Session.Manager (SessionM SessionState)
open Session.Updates (On within_sendRawMessage)
open Text (StdString)

section Counting

def Uncounted (c after : Impl) : Prop := after.stats.messagesSent = c.stats.messagesSent

instance : IsPreorder Impl Uncounted where
  refl _ := rfl
  trans _ _ _ first rest := Eq.trans rest first

theorem noting_uncounted : Noting (Within Uncounted) :=
  .of_notes closed_within fun notes => within_modify fun c => (notes c).messagesSent

theorem hears_uncounted : Hears Uncounted where
  kept same := same.messagesSent
  asks reason c _ := noting_uncounted.schedules reason c

end Counting

section Backing

/-- Each of the messages counted since has a frame of its own among those accepted since, and the
frame carries an id. -/
def Backed (c after : Impl) : Prop :=
  ∃ more frames, acceptedFrames after.sessionManager.session.offered =
      acceptedFrames c.sessionManager.session.offered ++ more ∧
    List.Sublist frames more ∧
    after.stats.messagesSent = c.stats.messagesSent + frames.length ∧
    ∀ frame ∈ frames, ∃ messageId, CarriesId messageId frame

theorem acceptedFrames_of_appended {offers made all : List (List UInt8 × Int)}
    (record : all = offers ++ made) :
    acceptedFrames all = acceptedFrames offers ++ acceptedFrames made := by
  simp [acceptedFrames, record]

theorem backed_of_uncounted {c after : Impl} (grows : Holds Grows c after)
    (uncounted : Uncounted c after) : Backed c after := by
  obtain ⟨made, record⟩ := grows
  exact ⟨acceptedFrames made, [], acceptedFrames_of_appended record.symm, List.nil_sublist _, uncounted,
    by simp⟩

theorem backed_of_same {c after : Impl}
    (session : after.sessionManager.session = c.sessionManager.session)
    (uncounted : Uncounted c after) : Backed c after :=
  backed_of_uncounted (grows_of_same (congrArg SessionState.offered session)) uncounted

instance : IsPreorder Impl Backed where
  refl _ := backed_of_same rfl rfl
  trans _ _ _ first rest := by
    obtain ⟨more, frames, accepted, among, counted, carry⟩ := first
    obtain ⟨more', frames', accepted', among', counted', carry'⟩ := rest
    refine ⟨more ++ more', frames ++ frames', ?_, among.append among', ?_, fun frame here => ?_⟩
    · rw [accepted', accepted, List.append_assoc]
    · rw [counted', counted, List.length_append, Nat.add_assoc]
    · exact (List.mem_append.mp here).elim (carry frame) (carry' frame)

variable {w : World} {α : Type}

theorem backed_of_parts {x : ClientM α} (grows : Within (Holds Grows) x)
    (uncounted : Within Uncounted x) : Within Backed x :=
  fun c => backed_of_uncounted (grows c) (uncounted c)

theorem backed_callSession {x : SessionM α} (grows : Within (On Grows) x) :
    Within Backed (callSession w x) :=
  backed_of_parts (holds_callSession respects_grows grows) (hears_callSession hears_uncounted x)

theorem backed_of_sendsOnce {x : ClientM StdString} (sends : SendsOnce x) : Within Backed x := by
  intro c
  have ends := sends c
  cases run : x.run c with
  | ok messageId after =>
      rw [finalState_of_ok run]
      obtain ⟨⟨frame, carried, made, record, one⟩, counted⟩ := (ends_of_ok run).mp ends
      refine ⟨[frame], [frame], ?_, List.Sublist.refl _, counted, ?_⟩
      · rw [acceptedFrames_of_appended record, one]
      · rintro other here
        obtain rfl := List.mem_singleton.mp here
        exact ⟨messageId, carried⟩
  | error raised after =>
      rw [finalState_of_error run]
      obtain ⟨-, unsent⟩ := (ends_of_error run).mp ends
      obtain ⟨made, record, -⟩ := unsent.refuses
      exact backed_of_uncounted ⟨made, record.symm⟩ unsent.messagesSent

theorem throughout_backed : Throughout w Backed where
  plain same := backed_of_same same.session same.messagesSent
  announces newState := backed_of_parts (noted_setConnectionState noting_holds newState)
    (hears_setConnectionState hears_uncounted newState)
  connects _ := backed_callSession (respects_grows.connect _ _)
  disconnects _ := backed_callSession (respects_grows.disconnect _ _)
  publishes books := backed_of_sendsOnce (sendsOnce_publish fun c => by
    obtain ⟨after, run, counts⟩ := books c
    exact ⟨after, run, counts.sessionManager, counts.messagesSent⟩)
  commits offset := backed_of_parts (has_sendCommitOffset (basis_holds respects_grows).toCore offset)
    (hears_sendCommitOffset hears_uncounted offset)
  pauses := backed_of_parts (basis_holds respects_grows).pause (hears_pause hears_uncounted)
  threads same := backed_of_same same.session same.messagesSent
  errors text := backed_of_parts (noted_callErrorCallback noting_holds text)
    (hears_callErrorCallback hears_uncounted text)
  requests _ _ := backed_callSession (within_sendRawMessage admits_grows.everywhere.event
    (fun _ => List.prefix_rfl) fun _ _ => List.prefix_append _ _)
  keepalives := backed_callSession (respects_grows.sendKeepalive _)

theorem backed_take (step : Step) (c : Impl) : Backed c (take step c) :=
  throughout_backed.take c fun event _ =>
    backed_of_parts (has_doMeanwhile (basis_holds respects_grows) event) (hears_doMeanwhile hears_uncounted event)

theorem backed_stateAfter (steps : List Step) (c : Impl) : Backed c (stateAfter take c steps) := by
  induction steps generalizing c with
  | nil => exact refl_of Backed c
  | cons step steps ih => exact trans_of Backed (backed_take step c) (ih (take step c))

end Backing

/-- In every run of a client, whatever else is sent and whatever other threads do meanwhile, the
messages it counts as sent are so many accepted frames, each of which carries a message with an id. -/
theorem sent_messages_are_accepted (config : ClusterClientConfig) (generated : StdString)
    (steps : List Step) :
    ∃ frames, List.Sublist frames
        (acceptedFrames (reached config generated steps).sessionManager.session.offered) ∧
      frames.length = (reached config generated steps).stats.messagesSent ∧
      ∀ frame ∈ frames, ∃ messageId, CarriesId messageId frame := by
  obtain ⟨more, frames, accepted, among, counted, carry⟩ :=
    backed_stateAfter steps (Impl.construct config generated)
  refine ⟨frames, ?_, ?_, carry⟩
  · change frames.Sublist (acceptedFrames (stateAfter take _ steps).sessionManager.session.offered)
    rw [accepted]
    exact among
  · change frames.length = (stateAfter take (Impl.construct config generated) steps).stats.messagesSent
    rw [counted]
    exact (Nat.zero_add _).symm

end AeronClusterClient.Client.SentMessages
