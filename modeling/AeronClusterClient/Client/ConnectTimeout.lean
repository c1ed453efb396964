/- module: AeronClusterClient/Client/ConnectTimeout
   source: src/cluster_client.cpp (connect_async, connect_with_timeout),
   include/aeron_cluster/cluster_client.hpp (ClusterClientConnection)
   digest: Connecting with a timeout, and what its result says about the client. -/

import AeronClusterClient.Client.ResumeOnConnect
import AeronClusterClient.Client.StaleConnection

/-!
The result is settled when the wait ends, but the future that the call throws
away then waits for the connect call that it has started. The client is left as
that call leaves it.
-/

set_option autoImplicit false
set_option relaxedAutoImplicit false

namespace AeronClusterClient.Client.ConnectTimeout

open Lib.Action Client.State Client.Frames Client.Connection Client.ConnectSteps Client.HeardLosses
open Client.StaleConnection
open Text (StdString)

section Programs

variable (w : World)

/-- The future of `connect_async`, which holds what the connect call returns or throws. -/
def connectAsync : ClientM (Except StdString Bool) :=
  catchException (do
      let value ← connect w
      return .ok value)
    (fun what => return .error what)

/-- `connect_with_timeout`; `ready` says whether the connect call is over when the wait ends.
If it is not, the destructor of the future waits for it and drops its result. -/
def connectWithTimeout (ready : Bool) : ClientM Bool := do
  let future ← connectAsync w
  if ready then orThrow future else return false

/-- A scope with a `ClusterClientConnection` that connects with a timeout; its destructor
disconnects the client if the result was true, also when the scope is left by an exception. -/
def scopedConnection (ready : Bool) : ClientM Unit := do
  let connected ← catchException (connectWithTimeout w ready) (fun _ => return false)
  if connected then disconnect w .user

end Programs

variable {w : World} {c : Impl}

section Outcomes

variable {α : Type} {returns : α → Impl → Prop} {throws : Raised → Impl → Prop}

theorem ends_catchException {x : ClientM α} {handler : StdString → ClientM α} :
    Ends (catchException x handler) c returns throws ↔
      Ends x c returns fun raised after =>
        match raised with
        | .exception what => Ends (handler what) after returns throws
        | .terminate => throws .terminate after := by
  unfold catchException
  rw [ends_tryCatch]
  cases run : x.run c with
  | ok a after => rw [ends_of_ok run, ends_of_ok run]
  | error raised after =>
      rw [ends_of_error run, ends_of_error run]
      cases raised with
      | exception what => rfl
      | terminate => rfl

def Says (value : Bool) (after : Impl) : Prop := value = true ↔ after.connectionState = .connected

def Unconnected (after : Impl) : Prop := after.connectionState ≠ .connected

theorem ends_settle (connected : Bool) (c : Impl) :
    Ends (settle w connected) c Says fun raised after =>
      (∃ what, raised = .exception what) ∧ (connected = false → Unconnected after) := by
  have stored := announced_connectionState (if connected then .connected else .failed) c
  by_cases called : StateCallbackThrows w (if connected then .connected else .failed) c
  · obtain ⟨what, thrown⟩ := settle_throws called
    rw [ends_of_error thrown]
    refine ⟨⟨what, rfl⟩, fun failed => ?_⟩
    rw [Unconnected, stored, failed]
    decide
  · rw [ends_of_ok (settle_returns called), Says, stored]
    cases connected <;> decide

theorem ends_attempted (unconnected : Unconnected c) :
    Ends (catchException (attempt w >>= settle w) (fun _ => settle w false)) c Says
      fun _ after => Unconnected after := by
  have failing (d : Impl) : Ends (settle w false) d Says fun _ after => Unconnected after :=
    (ends_settle false d).mono (fun _ _ said => said) fun _ _ thrown => thrown.2 rfl
  rw [ends_catchException, ends_bind]
  refine ((mute_attempt (w := w)).ends c).mono ?_ ?_
  · intro won arrived _
    refine (ends_settle won arrived).mono (fun _ _ said => said) ?_
    rintro raised after ⟨⟨what, rfl⟩, -⟩
    exact failing after
  · intro raised after mute
    cases raised with
    | exception what => exact failing after
    | terminate => exact (mute unconnected).1

theorem ends_connect (c : Impl) : Ends (connect w) c Says fun _ after => Unconnected after := by
  by_cases connected : c.connectionState = .connected
  · rw [ends_of_ok (connect_of_connected connected)]
    exact iff_of_true rfl connected
  · unfold Ends
    rw [connect_of_unconnected connected]
    change Ends (setConnectionState w .connecting >>= _) c Says fun _ after => Unconnected after
    rw [ends_bind]
    have begins := finalState_setConnectionState (w := w) .connecting c
    have unconnected : Unconnected (announced .connecting c) := by
      rw [Unconnected, announced_connectionState]
      decide
    cases stored : (setConnectionState w .connecting).run c with
    | ok _ begun =>
        rw [finalState_of_ok stored] at begins
        rw [ends_of_ok stored, begins]
        exact ends_attempted unconnected
    | error raised begun =>
        rw [finalState_of_error stored] at begins
        rw [ends_of_error stored, begins]
        exact unconnected

theorem returned_connect_iff :
    returned (connect w) c = some true ↔ (finalState (connect w) c).connectionState = .connected := by
  have ends := ends_connect (w := w) c
  cases run : (connect w).run c with
  | ok value after =>
      rw [ends_of_ok run] at ends
      have said : value = true ↔ after.connectionState = .connected := ends
      rw [finalState_of_ok run, ← said, returned, run]
      simp
  | error raised after =>
      rw [ends_of_error run] at ends
      rw [finalState_of_error run, returned, run]
      exact iff_of_false nofun ends

end Outcomes

section Timeouts

theorem connectWithTimeout_run (ready : Bool) :
    (connectWithTimeout w ready).run c =
      match (connect w).run c with
      | .ok value after => .ok (ready && value) after
      | .error (.exception what) after =>
          if ready then .error (.exception what) after else .ok false after
      | .error .terminate after => .error .terminate after := by
  unfold connectWithTimeout
  rw [EStateM.run_bind]
  cases run : (connect w).run c with
  | ok value after =>
      have future : (connectAsync w).run c = .ok (.ok value) after := by
        refine catchException_of_ok ?_
        rw [EStateM.run_bind, run]
        rfl
      rw [future]
      cases ready <;> rfl
  | error raised after =>
      have thrown : (do
          let value ← connect w
          return .ok value : ClientM (Except StdString Bool)).run c = .error raised after := by
        rw [EStateM.run_bind, run]
      cases raised with
      | exception what =>
          have future : (connectAsync w).run c = .ok (.error what) after :=
            catchException_of_exception thrown
          rw [future]
          cases ready <;> rfl
      | terminate =>
          have future : (connectAsync w).run c = .error .terminate after :=
            catchException_of_terminate thrown
          rw [future]

theorem finalState_connectWithTimeout (ready : Bool) :
    finalState (connectWithTimeout w ready) c = finalState (connect w) c := by
  unfold finalState
  rw [connectWithTimeout_run]
  cases (connect w).run c with
  | ok value after => rfl
  | error raised after =>
      cases raised with
      | exception what => cases ready <;> rfl
      | terminate => rfl

theorem returned_connectWithTimeout (ready : Bool) :
    returned (connectWithTimeout w ready) c = some true ↔
      ready = true ∧ returned (connect w) c = some true := by
  unfold returned
  rw [connectWithTimeout_run]
  cases (connect w).run c with
  | ok value after => simp
  | error raised after =>
      cases raised with
      | exception what => cases ready <;> simp
      | terminate => simp

/-- The result is true exactly if the client is left in the state `CONNECTED`. -/
def TellsTruth (w : World) (ready : Bool) (c : Impl) : Prop :=
  returned (connectWithTimeout w ready) c = some true ↔
    (finalState (connectWithTimeout w ready) c).connectionState = .connected

/-- The result is the truth exactly if the connect call is over in time or does not succeed. -/
theorem tellsTruth_iff (w : World) (ready : Bool) (c : Impl) :
    TellsTruth w ready c ↔ ready = true ∨ returned (connect w) c ≠ some true := by
  unfold TellsTruth
  rw [returned_connectWithTimeout, finalState_connectWithTimeout, ← returned_connect_iff]
  tauto

theorem unconnected_of_throw {ready : Bool} {raised : Raised} {after : Impl}
    (run : (connectWithTimeout w ready).run c = .error raised after) : Unconnected after := by
  intro connected
  rw [← finalState_of_error run, finalState_connectWithTimeout, ← returned_connect_iff] at connected
  rw [connectWithTimeout_run, run_of_returned connected] at run
  cases run

/-- The scope leaves the client connected exactly where the result is not the truth. -/
theorem scopedConnection_leaves_connected_iff (ready : Bool) :
    (finalState (scopedConnection w ready) c).connectionState = .connected ↔
      ¬ TellsTruth w ready c := by
  have left := finalState_connectWithTimeout (w := w) (c := c) ready
  have value := returned_connectWithTimeout (w := w) (c := c) ready
  rw [returned_connect_iff, ← left] at value
  rw [tellsTruth_iff, not_or, not_not, Bool.not_eq_true, returned_connect_iff, ← left]
  unfold scopedConnection
  cases run : (connectWithTimeout w ready).run c with
  | ok connected after =>
      rw [returned, run, Option.some_inj, finalState_of_ok run] at value
      rw [finalState_of_ok run, finalState_bind_of_ok (catchException_of_ok run)]
      cases connected with
      | true =>
          have closed := (down_disconnect (w := w) .user after).unconnected
          refine iff_of_false closed fun late => ?_
          rw [(value.mp rfl).1] at late
          cases late.1
      | false =>
          have early : ready = true → Unconnected after := fun waited stored =>
            absurd (value.mpr ⟨waited, stored⟩) (by decide)
          cases ready with
          | true => exact iff_of_false (early rfl) nofun
          | false => exact (and_iff_right rfl).symm
  | error raised after =>
      have unconnected := unconnected_of_throw run
      rw [finalState_of_error run]
      refine iff_of_false ?_ fun late => unconnected late.2
      cases raised with
      | exception what =>
          have caught : (catchException (connectWithTimeout w ready) (fun _ => return false)).run c =
              .ok false after := catchException_of_exception run
          rw [finalState_bind_of_ok caught]
          exact unconnected
      | terminate =>
          rw [finalState_bind_of_error (catchException_of_terminate run)]
          exact unconnected

section Sample

/-- The connect call succeeds when the wait is over. -/
theorem late_success_is_denied : ¬ ∀ (w : World) (ready : Bool) (c : Impl), TellsTruth w ready c := by
  intro claim
  have truth := claim ResumeOnConnect.accepting false { config := {} }
  have stored : (finalState (connectWithTimeout ResumeOnConnect.accepting false)
      { config := {} }).connectionState = .connected := by
    decide +kernel
  have value : returned (connectWithTimeout ResumeOnConnect.accepting false) { config := {} } =
      some false := by
    decide +kernel
  have both := truth.mpr stored
  rw [value] at both
  exact absurd both (by decide)

end Sample

end Timeouts

end AeronClusterClient.Client.ConnectTimeout
