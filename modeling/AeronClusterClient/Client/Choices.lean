/- module: AeronClusterClient/Client/Choices
   generality: every call into a client, in every world
   digest: What its user has chosen stands, and a client that is not to reconnect schedules nothing. -/

import AeronClusterClient.Client.Moves

/-!
Whether a client reconnects by itself and which callbacks it has is for its user
to say. No call but the setters changes it, and a client that is not to
reconnect leaves its auto-reconnect thread alone.
-/

set_option autoImplicit false
set_option relaxedAutoImplicit false

namespace AeronClusterClient.Client.Choices

open Lib.Action
open Client.State Client.Operations Client.Moves
open Client.Programs (reconnects)
open Text (StdString)

/-- The choices stand. -/
def SameChoices (c after : Impl) : Prop := choices after = choices c

instance : IsPreorder Impl SameChoices where
  refl _ := rfl
  trans _ _ _ first rest := Eq.trans rest first

/-- In addition, nothing becomes of a reconnect that nobody wants. -/
structure Obeys (c after : Impl) : Prop where
  choices : choices after = choices c
  unasked : c.autoReconnectEnabled = false → reconnects after = reconnects c

theorem Obeys.enabled {c after : Impl} (obeys : Obeys c after) :
    after.autoReconnectEnabled = c.autoReconnectEnabled :=
  congrArg Prod.fst obeys.choices

theorem Obeys.stateCallback {c after : Impl} (obeys : Obeys c after) :
    after.connectionStateCallback = c.connectionStateCallback :=
  congrArg (·.2.2.1) obeys.choices

instance : IsPreorder Impl Obeys where
  refl _ := ⟨rfl, fun _ => rfl⟩
  trans _ _ _ first rest :=
    ⟨rest.choices.trans first.choices, fun off =>
      (rest.unasked (first.enabled.trans off)).trans (first.unasked off)⟩

variable {w : World}

theorem sameChoices_scheduleAutoReconnect (reason : StdString) :
    Within SameChoices (scheduleAutoReconnect reason) := by
  unfold scheduleAutoReconnect
  refine within_bind (within_modify fun _ => rfl) fun _ => within_bind within_get fun c => ?_
  exact within_ite (within_pure _) (within_ite (within_pure _) (within_modify fun _ => rfl))

theorem hears_obeys : Hears Obeys where
  kept same := ⟨same.choices, fun _ => same.reconnects⟩
  asks reason {c} wanted := by
    refine ⟨sameChoices_scheduleAutoReconnect reason c, fun off => ?_⟩
    exact absurd wanted (Bool.eq_false_iff.mp off)

/-- A call that neither sets anything nor is the auto-reconnect thread's leaves the choices alone. -/
theorem respected_obeys : Respected w Obeys where
  plain same := ⟨same.choices, fun _ => same.reconnects⟩
  announces := hears_setConnectionState hears_obeys
  connects _ := hears_callSession hears_obeys _
  disconnects _ := hears_callSession hears_obeys _
  publishes := publishes_of_parts (hears_publishOrThrow hears_obeys _ _ _ _ _ _) fun counts =>
    ⟨counts.choices, fun _ => counts.reconnects⟩
  commits := hears_sendCommitOffset hears_obeys
  requests _ _ := hears_callSession hears_obeys _
  keepalives := hears_callSession hears_obeys _
  pauses := hears_pause hears_obeys

theorem obeys_perform {operation : Operation} (other : ¬ Sets operation) :
    Within Obeys (perform w operation) :=
  respected_obeys.perform other fun event _ => hears_doMeanwhile hears_obeys event

end AeronClusterClient.Client.Choices
