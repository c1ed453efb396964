/- module: AeronClusterClient/Session/Acceptance
   source: src/session_manager.cpp (publish_message, send_combined_message)
   digest: A message is published exactly when the publication has accepted one frame for it. -/

import AeronClusterClient.Session.Updates

/-!
A send offers its frame until an offer is accepted, fails for good, or no
attempt is left; an offer may also throw. However it ends, what it reports is
whether the publication has accepted the frame, and it is never accepted twice.
-/

set_option autoImplicit false
set_option relaxedAutoImplicit false

namespace AeronClusterClient.Session.Acceptance

open Lib.Action Session.Manager Session.Updates
open Sbe.Encoder (createTopicMessage)
open Config (ClusterClientConfig)
open Text (StdString)

section Record

def acceptedFrames (offers : List (List UInt8 × Int)) : List (List UInt8) :=
  (offers.filter (fun offer => 0 < offer.2)).map Prod.fst

/-- Between the two sessions exactly these frames have been accepted. -/
def Accepts (frames : List (List UInt8)) (s after : SessionState) : Prop :=
  ∃ made, after.offered = s.offered ++ made ∧ acceptedFrames made = frames

/-- No frame has been accepted. -/
abbrev Refuses : SessionState → SessionState → Prop := Accepts []

theorem Accepts.trans {first rest : List (List UInt8)} {s mid after : SessionState}
    (accepts : Accepts first s mid) (more : Accepts rest mid after) :
    Accepts (first ++ rest) s after := by
  obtain ⟨made, record, rfl⟩ := accepts
  obtain ⟨made', record', rfl⟩ := more
  refine ⟨made ++ made', ?_, ?_⟩
  · rw [record', record, List.append_assoc]
  · simp [acceptedFrames]

instance : IsPreorder SessionState Refuses where
  refl _ := ⟨[], (List.append_nil _).symm, rfl⟩
  trans _ _ _ first rest := first.trans rest

theorem refuses_of_same {s after : SessionState} (same : after.offered = s.offered) :
    Refuses s after :=
  ⟨[], by rw [same, List.append_nil], rfl⟩

theorem refuses_apply (s : SessionState) (event : Event) : Refuses s (s.apply event) :=
  refuses_of_same (apply_kept s event).1

end Record

section Attempts

/-- The attempt has reported whether one frame, which carries what it should, was accepted. -/
def Reports (carries : List UInt8 → Prop) (m : Machine) : Bool → Machine → Prop
  | true, after => ∃ frame, carries frame ∧ On (Accepts [frame]) m after
  | false, after => On Refuses m after

/-- However the attempt ends, it has reported truly. An exception reports that no frame was accepted. -/
def Attempts (carries : List UInt8 → Prop) (x : SessionM Bool) : Prop :=
  ∀ m, Ends x m (Reports carries m) (fun _ after => On Refuses m after)

variable {carries : List UInt8 → Prop} {world : World} {α : Type}

theorem Reports.after_refuses {m mid after : Machine} {sent : Bool} (first : On Refuses m mid)
    (reports : Reports carries mid sent after) : Reports carries m sent after := by
  cases sent with
  | true =>
      obtain ⟨frame, carried, accepts⟩ := reports
      exact ⟨frame, carried, first.trans accepts⟩
  | false => exact trans_of (On Refuses) first reports

theorem attempts_false : Attempts carries (pure false) := fun m => refl_of (On Refuses) m

theorem attempts_ite {c : Prop} [Decidable c] {x y : SessionM Bool} (hx : Attempts carries x)
    (hy : Attempts carries y) : Attempts carries (if c then x else y) :=
  fun m => ends_ite (fun _ => hx m) (fun _ => hy m)

theorem attempts_after {x : SessionM α} {f : α → SessionM Bool} (first : Within (On Refuses) x)
    (rest : ∀ a, Attempts carries (f a)) : Attempts carries (x >>= f) := by
  intro m
  refine ends_bind.mpr ((first.ends m).mono (fun a mid refused => ?_) fun _ _ refused => refused)
  exact (rest a mid).mono (fun _ _ => Reports.after_refuses refused)
    fun _ _ => trans_of (On Refuses) refused

theorem attempts_tryCatch {x : SessionM Bool} (body : Attempts carries x) :
    Attempts carries (tryCatch x fun _ => return false) :=
  fun m => ends_tryCatch.mpr (body m)

theorem Attempts.mono {carries' : List UInt8 → Prop} {x : SessionM Bool} (attempts : Attempts carries x)
    (weaker : ∀ frame, carries frame → carries' frame) : Attempts carries' x := by
  intro m
  refine (attempts m).mono (fun sent after reports => ?_) fun _ _ refused => refused
  cases sent with
  | true =>
      obtain ⟨frame, carried, accepts⟩ := reports
      exact ⟨frame, weaker frame carried, accepts⟩
  | false => exact reports

theorem refuses_look : Within (On Refuses) (look world) :=
  within_look fun s event _ => refuses_apply s event

theorem ends_offer (frame : List UInt8) (m : Machine) :
    Ends (offer world frame) m
      (fun result after => On (Accepts (acceptedFrames [(frame, result)])) m after)
      (fun _ after => On Refuses m after) := by
  unfold offer offerBuffer
  refine ends_bind.mpr ((refuses_look.ends m).mono (fun _ mid looked => ?_) fun _ _ refused => refused)
  refine ends_bind.mpr (ends_bind.mpr ?_)
  change Ends (ofExcept (world.offer mid.looks)) mid _ _
  cases world.offer mid.looks with
  | error what => exact looked
  | ok result =>
      have recorded : Accepts (acceptedFrames [(frame, result)]) mid.session
          { mid.session with offered := mid.session.offered ++ [(frame, result)] } :=
        ⟨[(frame, result)], rfl, rfl⟩
      exact looked.trans recorded

theorem attempts_offerLoop (frame : List UInt8) (attempts : Nat) :
    Attempts (· = frame) (offerLoop world frame attempts) := by
  induction attempts with
  | zero => exact attempts_false
  | succ attempts ih =>
      intro m
      unfold offerLoop
      refine ends_bind.mpr ((ends_offer frame m).mono (fun result mid offered => ?_)
        fun _ _ refused => refused)
      refine ends_ite (fun accepted => ?_) (fun refused => ?_)
      · have once : acceptedFrames [(frame, result)] = [frame] := by simp [acceptedFrames, accepted]
        rw [once] at offered
        obtain ⟨made, record, same⟩ := offered
        exact ⟨frame, rfl, made, record, same⟩
      · have none : acceptedFrames [(frame, result)] = [] := by simp [acceptedFrames, refused]
        rw [none] at offered
        have rest : Attempts (· = frame) (do
            update (fun s => s.handleOfferFailure result)
            if !isTransientFailure (classifyOfferFailure result) || attempts == 0 then return false
            offerLoop world frame attempts) := by
          refine attempts_after (within_update fun s => ?_) fun _ => attempts_ite attempts_false ih
          exact refuses_apply s (.offerFailed result)
        exact (rest mid).mono (fun _ _ => Reports.after_refuses offered)
          fun _ _ => trans_of (On Refuses) offered

theorem attempts_sendCombinedMessage (config : ClusterClientConfig) (businessMessage : List UInt8) :
    Attempts (fun frame => ∃ header, frame = header ++ businessMessage)
      (sendCombinedMessage config world businessMessage) := by
  unfold sendCombinedMessage
  refine attempts_after refuses_look fun _ => attempts_ite attempts_false ?_
  refine attempts_after refuses_look fun s => attempts_ite attempts_false ?_
  refine attempts_tryCatch ((attempts_offerLoop _ _).mono fun frame same => ?_)
  exact ⟨s.sessionHeaderBuffer, same⟩

end Attempts

/-- The frame carries a topic message with these fields behind a session header. -/
def CarriesMessage (topic messageType messageId payload headers : StdString) (frame : List UInt8) :
    Prop :=
  ∃ header now businessMessage,
    createTopicMessage topic messageType messageId payload headers now = .ok businessMessage ∧
      frame = header ++ businessMessage

theorem attempts_publishMessage {config : ClusterClientConfig} {world : World}
    (topic messageType messageId payload headers : StdString) :
    Attempts (CarriesMessage topic messageType messageId payload headers)
      (publishMessage config world topic messageType messageId payload headers) := by
  unfold publishMessage
  refine attempts_after refuses_look fun _ => attempts_ite attempts_false (attempts_tryCatch ?_)
  refine attempts_after within_get fun m => ?_
  cases created : createTopicMessage topic messageType messageId payload headers
      (world.now m.looks) with
  | error what => exact fun mid => refl_of (On Refuses) mid
  | ok businessMessage =>
      refine (attempts_sendCombinedMessage config businessMessage).mono ?_
      rintro frame ⟨header, rfl⟩
      exact ⟨header, _, businessMessage, created, rfl⟩

end AeronClusterClient.Session.Acceptance
