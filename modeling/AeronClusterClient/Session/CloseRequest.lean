/- module: AeronClusterClient/Session/CloseRequest
   source: src/session_manager.cpp (disconnect, send_raw_message, is_connected)
   digest: Exactly when a disconnect call offers its close request. -/

import AeronClusterClient.Session.Availability
import AeronClusterClient.Session.Updates

/-!
The guard of a disconnect call lets a close request through when the publication
is connected, even if `connected_` is clear. The request then goes through
`send_raw_message`, which looks at `connected_` again, before each attempt.
-/

set_option autoImplicit false
set_option relaxedAutoImplicit false

namespace AeronClusterClient.Session.CloseRequest

open Lib.Action Session.Manager Session.Updates
open Session.Availability (afterLook run_look kept_afterLook afterOffer run_offer)
open Sbe.Encoder (encodeSessionCloseRequest)
open Config (ClusterClientConfig)

variable {config : ClusterClientConfig} {world : World} {frame : List UInt8} {m mid after : Machine}

section Record

def Grows (s after : SessionState) : Prop := s.offered <+: after.offered

instance : IsPreorder SessionState Grows where
  refl _ := List.prefix_rfl
  trans _ _ _ := List.IsPrefix.trans

theorem grows_of_same {s after : SessionState} (same : after.offered = s.offered) : Grows s after := by
  unfold Grows
  rw [same]

theorem admits_grows : Admits Grows where
  event s event := grows_of_same (apply_kept s event).1
  control _ _ _ _ := List.prefix_append _ _
  sent _ := List.prefix_rfl
  accepted _ := List.prefix_rfl
  publication _ _ := List.prefix_rfl
  leader _ _ := List.prefix_rfl
  redirect _ := List.prefix_rfl
  thread _ := List.prefix_rfl

/-- Between two states the frame has been offered. -/
def Offered (frame : List UInt8) (m after : Machine) : Prop :=
  ∃ result, (frame, result) ∈ after.session.offered.drop m.session.offered.length

theorem offered_of_grows (offered : Offered frame m mid) (grows : On Grows mid after) :
    Offered frame m after := by
  obtain ⟨result, made⟩ := offered
  obtain ⟨rest, record⟩ := grows
  refine ⟨result, ?_⟩
  rw [← record, List.drop_append]
  exact List.mem_append_left _ made

theorem grows_of_offered (grows : On Grows m mid) (offered : Offered frame mid after) :
    Offered frame m after := by
  obtain ⟨result, made⟩ := offered
  refine ⟨result, ?_⟩
  have longer : m.session.offered.length ≤ mid.session.offered.length := grows.length_le
  exact List.drop_subset_drop_left _ longer made

end Record

section Attempts

/-- The offers of the call return; Aeron throws for frames that exceed its maximum only. -/
def Answers (world : World) : Prop := ∀ k, ∃ result, world.offer k = .ok result

theorem offered_afterLook (world : World) (m : Machine) :
    (afterLook world m).session.offered = m.session.offered :=
  kept_afterLook SessionState.offered (fun s event => (apply_kept s event).1) world m

theorem offered_afterOffer {m : Machine} {result : Int} :
    (afterOffer world frame result m).session.offered = m.session.offered ++ [(frame, result)] :=
  congrArg (· ++ [(frame, result)]) (offered_afterLook world m)

theorem offered_offerLoop {result : Int} (answered : world.offer (m.looks + 1) = .ok result)
    (attempts : Nat) : Offered frame m (finalState (offerLoop world frame (attempts + 1)) m) := by
  have run : (offer world frame).run m = .ok result (afterOffer world frame result m) :=
    run_offer answered
  have once : Offered frame m (afterOffer world frame result m) := by
    refine ⟨result, ?_⟩
    rw [offered_afterOffer, List.drop_left]
    exact List.mem_singleton.mpr rfl
  have rest (after : Machine) (grows : On Grows (afterOffer world frame result m) after) :
      Offered frame m after :=
    offered_of_grows once grows
  unfold offerLoop
  refine bind_from (fun _ _ failed => ?_) (fun _ _ returned => ?_)
  · rw [run] at failed
    cases failed
  · rw [run] at returned
    cases returned
    have append (s : SessionState) (result : Int) :
        Grows s { s with offered := s.offered ++ [(frame, result)] } := List.prefix_append _ _
    refine rest _ (within_ite (within_bind (within_update admits_grows.sent) fun _ => within_pure _)
      ?_ (afterOffer world frame result m))
    refine within_bind (within_update fun s => admits_grows.event s (.offerFailed result)) fun _ => ?_
    have again : Within (On Grows) (offerLoop world frame attempts) :=
      within_offerLoop admits_grows.everywhere.event admits_grows.sent append attempts
    exact within_ite (within_pure _) again

theorem effectivePublishRetryAttempts_pos : 0 < effectivePublishRetryAttempts config := by
  unfold effectivePublishRetryAttempts
  omega

theorem offered_sendRawMessage {result : Int} (answered : world.offer (m.looks + 2) = .ok result)
    (connected : (afterLook world m).session.isConnected = true) :
    Offered frame m (finalState (sendRawMessage config world frame) m) := by
  have positive : 0 < effectivePublishRetryAttempts config := effectivePublishRetryAttempts_pos
  obtain ⟨attempts, some⟩ := Nat.exists_eq_add_one_of_ne_zero positive.ne'
  have loop : Offered frame (afterLook world m)
      (finalState (offerLoop world frame (attempts + 1)) (afterLook world m)) :=
    offered_offerLoop answered attempts
  unfold sendRawMessage
  refine bind_from (fun _ _ run => by cases run) (fun s t run => ?_)
  cases run_look.symm.trans run
  rw [connected, some]
  change Offered frame m (finalState (tryCatch _ _) (afterLook world m))
  rw [finalState_tryCatch_pure]
  exact grows_of_offered (grows_of_same (offered_afterLook world m)) loop

theorem sendRawMessage_of_unconnected
    (unconnected : (afterLook world m).session.isConnected = false) :
    (sendRawMessage config world frame).run m = .ok false (afterLook world m) := by
  unfold sendRawMessage
  refine bind_eq_ok.mpr ⟨_, _, run_look, ?_⟩
  rw [unconnected]
  rfl

theorem not_offered_self : ¬ Offered frame m m := by
  rintro ⟨result, made⟩
  rw [List.drop_length] at made
  cases made

theorem offered_afterLook_iff : Offered frame (afterLook world m) after ↔ Offered frame m after := by
  unfold Offered
  rw [offered_afterLook]

/-- The attempts offer the frame exactly when one of their looks finds the session connected. -/
theorem offered_sendCloseRequest_iff (answers : Answers world) (control : Control frame)
    (attempts : Nat) : Offered frame m (finalState (sendCloseRequest config world frame attempts) m) ↔
      ∃ k < attempts, ((afterLook world)^[k + 1] m).session.isConnected = true := by
  induction attempts generalizing m with
  | zero =>
      constructor
      · exact fun offered => absurd offered not_offered_self
      · rintro ⟨k, below, -⟩
        cases below
  | succ attempts ih =>
      unfold sendCloseRequest
      cases connected : (afterLook world m).session.isConnected with
      | true =>
          refine iff_of_true ?_ ⟨0, by omega, connected⟩
          obtain ⟨result, answered⟩ := answers (m.looks + 2)
          have once : Offered frame m (finalState (sendRawMessage config world frame) m) :=
            offered_sendRawMessage answered connected
          refine bind_from (fun _ t run => ?_) (fun sent t run => ?_)
          · rwa [finalState_of_error run] at once
          · rw [finalState_of_ok run] at once
            refine offered_of_grows once (within_ite (within_pure _) ?_ t)
            exact within_sendCloseRequest admits_grows.everywhere control attempts
      | false =>
          rw [finalState_bind_of_ok (sendRawMessage_of_unconnected connected)]
          change Offered frame m (finalState (sendCloseRequest config world frame attempts)
            (afterLook world m)) ↔ _
          rw [← offered_afterLook_iff, ih]
          constructor
          · rintro ⟨k, below, found⟩
            exact ⟨k + 1, by omega, found⟩
          · rintro ⟨k, below, found⟩
            cases k with
            | zero =>
                rw [Function.iterate_one, connected] at found
                cases found
            | succ k => exact ⟨k, by omega, found⟩

end Attempts

section Calls

def closeRequest (s : SessionState) : List UInt8 :=
  encodeSessionCloseRequest s.leadershipTermId s.sessionId

theorem offered_bind_update_iff {x : SessionM Unit} {f : SessionState → SessionState}
    (kept : ∀ s, (f s).offered = s.offered) :
    Offered frame m (finalState (x >>= fun _ => update f) mid) ↔
      Offered frame m (finalState x mid) := by
  unfold Offered finalState
  rw [EStateM.run_bind]
  cases run : x.run mid with
  | ok a t =>
      change (∃ result, (frame, result) ∈ (f t.session).offered.drop _) ↔ _
      rw [kept]
  | error e t => exact Iff.rfl

/-- A disconnect call that finds a session, a term and a connected publication offers the close
request for them exactly when one of its three attempts finds the session still connected. -/
theorem disconnect_offers_close_iff (answers : Answers world)
    (session : 0 < (afterLook world m).session.sessionId)
    (term : 0 < (afterLook world m).session.leadershipTermId)
    (publication : (afterLook world m).session.publicationConnected = true) :
    Offered (closeRequest (afterLook world m).session) m (finalState (disconnect config world) m) ↔
      ∃ k < 3, ((afterLook world)^[k + 2] m).session.isConnected = true := by
  have exists_publication : (afterLook world m).session.ingressPublication.isSome = true := by
    unfold SessionState.publicationConnected at publication
    cases found : (afterLook world m).session.ingressPublication with
    | none => simp [found] at publication
    | some _ => rfl
  have passes : ((afterLook world m).session.publicationConnected ||
      (afterLook world m).session.connected) = true := by
    rw [publication, Bool.true_or]
  unfold disconnect
  rw [finalState_bind_of_ok run_look]
  dsimp only
  rw [if_pos ⟨session, term, exists_publication⟩, if_pos passes]
  refine (offered_bind_update_iff
    (f := fun s => { s with ingressPublication := none, connected := false, sessionId := -1 })
    fun _ => rfl).trans ?_
  rw [← offered_afterLook_iff]
  exact offered_sendCloseRequest_iff answers (.closeRequest _ _) 3

/-- When no other thread acts during the call, `connected_` decides. -/
theorem offers_close_quiet (quiet : ∀ k, world.events k = []) (session : 0 < m.session.sessionId)
    (term : 0 < m.session.leadershipTermId) (publication : m.session.publicationConnected = true) :
    (∃ k < 3, ((afterLook world)^[k + 2] m).session.isConnected = true) ↔
      m.session.connected = true := by
  have same (k : Nat) : ((afterLook world)^[k] m).session = m.session := by
    induction k generalizing m with
    | zero => rfl
    | succ k ih =>
        have once : (afterLook world m).session = m.session := by simp [afterLook, quiet]
        rw [Function.iterate_succ_apply, ih (by rwa [once]) (by rwa [once]) (by rwa [once]), once]
  have connected : m.session.isConnected = m.session.connected := by
    simp [SessionState.isConnected, session, term, publication]
  simp only [same, connected]
  constructor
  · rintro ⟨_, _, found⟩
    exact found
  · exact fun found => ⟨0, by omega, found⟩

section Sample

def established (connected : Bool) : SessionState :=
  { ingressPublication := some { connected := true }
    sessionId := 5
    leadershipTermId := 1
    connected := connected }

theorem disconnect_offers_close_iff_sample :
    Offered (closeRequest (established true)) { session := established true }
        (finalState (disconnect {} {}) { session := established true }) ↔
      ∃ k < 3, ((afterLook {})^[k + 2] { session := established true }).session.isConnected = true :=
  disconnect_offers_close_iff (fun _ => ⟨1, rfl⟩) (by decide) (by decide) (by decide)

/-- A session that an error event has disconnected is closed without a close request. -/
theorem no_close_after_session_error :
    ¬ ∀ (config : ClusterClientConfig) (world : World) (m : Machine), Answers world →
      0 < (afterLook world m).session.sessionId → 0 < (afterLook world m).session.leadershipTermId →
      (afterLook world m).session.publicationConnected = true →
      Offered (closeRequest (afterLook world m).session) m (finalState (disconnect config world) m) := by
  intro claim
  have offered := claim {} {} { session := (established true).handleSessionError } (fun _ => ⟨1, rfl⟩)
    (by decide) (by decide) (by decide)
  have silent : (finalState (disconnect {} {})
      { session := (established true).handleSessionError }).session.offered = [] := by
    decide +kernel
  obtain ⟨result, made⟩ := offered
  rw [silent, List.drop_nil] at made
  cases made

end Sample

end Calls

end AeronClusterClient.Session.CloseRequest
