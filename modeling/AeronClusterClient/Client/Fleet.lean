/- module: AeronClusterClient/Client/Fleet
   source: src/signal_handler.cpp (signal_handler, disconnect_all_clients), src/cluster_client.cpp
   (ClusterClient: connect, disconnect, ~ClusterClient)
   generality: every run over any number of clients
   digest: What a signal does to the clients of a program. -/

import AeronClusterClient.Client.Destruction
import AeronClusterClient.Client.Dormancy
import AeronClusterClient.SignalHandler

/-!
A program has many clients and one manager of its signals. A signal makes the
manager disconnect the clients on its list, one after the other; what one of
them throws is caught before the next one.
-/

set_option autoImplicit false
set_option relaxedAutoImplicit false

namespace AeronClusterClient.Client.Fleet

open Lib.Action Lib.Runs
open Client.State Client.Frames Client.Connection Client.Operations
open Client.Destruction (leave disconnect_run refusing)
open Client.Dormancy (connects dormant_take)
open Client.Programs (noted_onNotice noted_setConnectionState)
open Client.ResumeOnConnect (accepting)
open Client.SessionEffects (Holds holds_modify noting_holds)
open Config (ClusterClientConfig)
open Session.Manager (SessionState)
open SignalHandler (ClientId Ownership SignalHandlerManager Refines meant disconnectAllClients)
open Text (StdString)

section Model

/-- The manager of the signals, and what every client that is alive is like. -/
structure Program where
  manager : SignalHandlerManager := {}
  client : ClientId → Impl := fun _ => { config := {} }

inductive Event
  | create (client : ClientId) (owner : Ownership) (config : ClusterClientConfig)
      (generated : StdString)
  | operate (client : ClientId) (step : Operations.Step)
  | register (client : Option ClientId)
  | unregister (client : Option ClientId)
  | destroy (client : ClientId)
  /-- The handler runs on any thread; each disconnect call has a world of its own. -/
  | signal (caller : Caller) (worlds : Nat → World)

/-- What the manager hears of: the user's connect calls register the client, those of its other
threads do not. -/
def Event.heard : Event → List SignalHandler.Step
  | .create client owner _ _ => [.create client owner]
  | .operate client ⟨_, .act .connect⟩ => [.connect client]
  | .operate _ _ => []
  | .register client => [.register client]
  | .unregister client => [.unregister client]
  | .destroy client => [.destroy client]
  | .signal _ _ => []

/-- `disconnect` of each client that has been collected, whether or not the one before has thrown. -/
def disconnectEach (caller : Caller) (worlds : Nat → World) :
    List ClientId → Nat → (ClientId → Impl) → ClientId → Impl
  | [], _, clients => clients
  | client :: rest, n, clients =>
      disconnectEach caller worlds rest (n + 1)
        (Function.update clients client (finalState (disconnect (worlds n) caller) (clients client)))

/-- What becomes of the clients. A client that is not alive is not called. -/
def Event.clients (event : Event) (p : Program) : ClientId → Impl :=
  match event with
  | .create client _ config generated =>
      if p.manager.alive client = none then
        Function.update p.client client (Impl.construct config generated)
      else p.client
  | .operate client step =>
      if p.manager.alive client = none then p.client
      else Function.update p.client client (Operations.take step (p.client client))
  | .signal caller worlds => disconnectEach caller worlds (disconnectAllClients p.manager) 0 p.client
  | .register _ | .unregister _ | .destroy _ => p.client

def step (event : Event) (p : Program) : Program where
  manager := stateAfter SignalHandler.step p.manager event.heard
  client := event.clients p

def reached (events : List Event) : Program := stateAfter step {} events

/-- The clients that are meant to be registered after a run. -/
def registered (events : List Event) : Finset ClientId :=
  (stateAfter meant {} (events.flatMap Event.heard)).registered

end Model

section Shut

/-- Nothing is left of a session but what it has sent. -/
structure Closed (s : SessionState) : Prop where
  connected : s.connected = false
  sessionId : s.sessionId = -1
  ingressPublication : s.ingressPublication = none

structure Shut (c : Impl) : Prop where
  unconnected : c.connectionState ≠ .connected
  session : Closed c.sessionManager.session

def StaysClosed (s after : SessionState) : Prop := Closed s → Closed after

instance : IsPreorder SessionState StaysClosed where
  refl _ := id
  trans _ _ _ first rest := rest ∘ first

variable {w : World}

theorem closed_disconnect (config : ClusterClientConfig) (world : Session.Manager.World)
    {m after : Session.Manager.Machine}
    (run : (Session.Manager.disconnect config world).run m = .ok () after) : Closed after.session := by
  have reset {m after : Session.Manager.Machine}
      (run : (Session.Manager.update fun s =>
        { s with ingressPublication := none, connected := false, sessionId := -1 }).run m =
          .ok () after) : Closed after.session := by
    cases run
    exact ⟨rfl, rfl, rfl⟩
  unfold Session.Manager.disconnect at run
  obtain ⟨s, looked, -, run⟩ := bind_eq_ok.mp run
  split at run
  · split at run
    · obtain ⟨_, _, -, run⟩ := bind_eq_ok.mp run
      exact reset run
    · exact reset run
  · exact reset run

theorem closed_closeSession {c closed : Impl} (run : (closeSession w).run c = .ok () closed) :
    Closed closed.sessionManager.session := by
  have total : Total (Session.Manager.disconnect c.config w.session) := Session.Connect.total_disconnect
  obtain ⟨_, m, closes⟩ := total c.sessionManager
  have begun : (closeSession w).run c =
      (callSession w (Session.Manager.disconnect c.config w.session)).run c := rfl
  rw [begun, callSession_of_ok closes] at run
  have rest : Within (Holds StaysClosed) (do
      m.session.notices.forM (fun notice => catchException (onNotice w notice) (fun _ => return ()))
      pure () : ClientM Unit) := by
    refine within_bind (within_forM fun notice _ => ?_) fun _ => within_pure _
    exact within_catchException (noted_onNotice noting_holds notice) fun _ => within_pure _
  have done := closed_disconnect c.config w.session closes
  exact rest.of_ok run ⟨done.connected, done.sessionId, done.ingressPublication⟩

theorem shut_disconnect (w : World) (caller : Caller) (c : Impl) :
    Shut (finalState (disconnect w caller) c) := by
  refine ⟨(StaleConnection.down_disconnect caller c).unconnected, ?_⟩
  obtain ⟨_, closed, closes⟩ := StaleConnection.total_closeSession (w := w)
    { c with suppressDisconnectNotifications := true }
  have rest : Within (Holds StaysClosed)
      (if c.connectionState = .connected then leave w caller else pure ()) := by
    refine within_ite ?_ (within_pure _)
    unfold leave
    refine within_bind (SessionEffects.holds_stopPolling _) fun _ => ?_
    refine within_bind (noted_setConnectionState noting_holds _) fun _ => ?_
    exact within_bind (holds_modify fun _ => rfl) fun _ => holds_modify fun _ => rfl
  rw [finalState_congr (disconnect_run w caller c), PollingThread.finalState_suppressingNotifications,
    finalState_bind_of_ok closes]
  exact rest closed (closed_closeSession closes)

end Shut

section Signals

variable {caller : Caller} {worlds : Nat → World} {clients : ClientId → Impl} {client : ClientId}

theorem disconnectEach_of_not_mem {collected : List ClientId} (other : client ∉ collected) (n : Nat) :
    disconnectEach caller worlds collected n clients client = clients client := by
  induction collected generalizing n clients with
  | nil => rfl
  | cons first rest ih =>
      rw [disconnectEach, ih (List.not_mem_of_not_mem_cons other),
        Function.update_of_ne (List.ne_of_not_mem_cons other)]

/-- A client that is on the list twice is disconnected twice. -/
theorem disconnectEach_of_mem {collected : List ClientId} (among : client ∈ collected) (n : Nat) :
    Shut (disconnectEach caller worlds collected n clients client) := by
  induction collected generalizing n clients with
  | nil => cases among
  | cons first rest ih =>
      rw [disconnectEach]
      by_cases later : client ∈ rest
      · exact ih later (n + 1)
      · obtain rfl : client = first := (List.mem_cons.mp among).resolve_right later
        rw [disconnectEach_of_not_mem later, Function.update_self]
        exact shut_disconnect (worlds n) caller (clients client)

theorem manager_reached (events : List Event) (p : Program) :
    (stateAfter step p events).manager =
      stateAfter SignalHandler.step p.manager (events.flatMap Event.heard) := by
  induction events generalizing p with
  | nil => rfl
  | cons event events ih =>
      rw [List.flatMap_cons, stateAfter_append]
      exact ih (step event p)

/-- A signal collects the clients that are meant to be registered. -/
theorem mem_disconnectAllClients (events : List Event) :
    client ∈ disconnectAllClients (reached events).manager ↔ client ∈ registered events := by
  have start : Refines {} {} := ⟨rfl, nofun, by simp⟩
  have refines := SignalHandler.refines_stateAfter start (events.flatMap Event.heard)
  unfold reached registered
  rw [manager_reached, SignalHandler.disconnectAllClients_eq refines.shared]
  exact refines.same client

end Signals

section Runs

variable {client : ClientId}

/-- Somebody makes the client connect: its user, or its auto-reconnect thread. -/
def Event.Connects (client : ClientId) : Event → Prop
  | .operate other step => other = client ∧ connects step.operation = true
  | _ => False

theorem unconnected_step {event : Event} (other : ¬ event.Connects client) {p : Program}
    (off : (p.client client).connectionState ≠ .connected) :
    ((step event p).client client).connectionState ≠ .connected := by
  have updated {same : ClientId} {after : Impl}
      (still : client = same → after.connectionState ≠ .connected) :
      (Function.update p.client same after client).connectionState ≠ .connected := by
    by_cases here : client = same
    · subst here
      rw [Function.update_self]
      exact still rfl
    · rw [Function.update_of_ne here]
      exact off
  cases event with
  | create created owner config generated =>
      change ((if p.manager.alive created = none then
        Function.update p.client created (Impl.construct config generated)
        else p.client) client).connectionState ≠ .connected
      split
      · exact updated fun _ => nofun
      · exact off
  | operate called step =>
      change ((if p.manager.alive called = none then p.client
        else Function.update p.client called (Operations.take step (p.client called)))
          client).connectionState ≠ .connected
      split
      · exact off
      · refine updated fun here => ?_
        subst here
        have quiet : connects step.operation = false := by
          simpa [Event.Connects] using other
        exact (dormant_take quiet (p.client client) off).1
  | register registered => exact off
  | unregister unregistered => exact off
  | destroy destroyed => exact off
  | signal caller worlds =>
      change (disconnectEach caller worlds (disconnectAllClients p.manager) 0 p.client
        client).connectionState ≠ .connected
      by_cases among : client ∈ disconnectAllClients p.manager
      · exact (disconnectEach_of_mem among 0).unconnected
      · rw [disconnectEach_of_not_mem among]
        exact off

theorem unconnected_stateAfter {events : List Event} (others : ∀ event ∈ events, ¬ event.Connects client)
    {p : Program} (off : (p.client client).connectionState ≠ .connected) :
    ((stateAfter step p events).client client).connectionState ≠ .connected :=
  List.foldlRecOn events (fun p event => step event p)
    (motive := fun p => (p.client client).connectionState ≠ .connected) off
    fun _ off event among => unconnected_step (others event among) off

/-- In every run of a program whose signals arrive between whole operations, a signal disconnects each
client that is meant to be registered and closes its session, however often it is on the list and
whatever its callbacks and those of the others throw; the client stays disconnected until somebody
makes it connect. Every other client is left as it is. -/
theorem signal_disconnects_registered (events : List Event) (caller : Caller) (worlds : Nat → World)
    (client : ClientId) :
    (client ∈ registered events →
      Shut ((reached (events ++ [.signal caller worlds])).client client) ∧
        ∀ later : List Event, (∀ event ∈ later, ¬ event.Connects client) →
          ((reached (events ++ .signal caller worlds :: later)).client client).connectionState ≠
            .connected) ∧
      (client ∉ registered events →
        (reached (events ++ [.signal caller worlds])).client client =
          (reached events).client client) := by
  have signalled : (reached (events ++ [.signal caller worlds])).client =
      disconnectEach caller worlds (disconnectAllClients (reached events).manager) 0
        (reached events).client := by
    unfold reached
    rw [stateAfter_append]
    rfl
  rw [← mem_disconnectAllClients events, signalled]
  refine ⟨fun among => ⟨disconnectEach_of_mem among 0, fun later others => ?_⟩, fun other =>
    disconnectEach_of_not_mem other 0⟩
  have shut : Shut (disconnectEach caller worlds (disconnectAllClients (reached events).manager) 0
      (reached events).client client) := disconnectEach_of_mem among 0
  have whole : reached (events ++ .signal caller worlds :: later) =
      stateAfter step (reached (events ++ [.signal caller worlds])) later := by
    unfold reached
    rw [← stateAfter_append, List.append_assoc]
    rfl
  rw [whole]
  refine unconnected_stateAfter others ?_
  rw [signalled]
  exact shut.unconnected

section Sample

/-- One of the two connected clients is not owned by shared pointers, and could not register itself. -/
def twoClients : List Event :=
  [.create 0 .shared {} [], .create 1 .other {} [], .operate 0 ⟨accepting, .act .connect⟩,
    .operate 1 ⟨accepting, .act .connect⟩]

theorem signal_disconnects_registered_sample :
    Shut ((reached (twoClients ++ [.signal .user fun _ => refusing])).client 0) ∧
      (reached (twoClients ++ [.signal .user fun _ => refusing])).client 1 =
        (reached twoClients).client 1 := by
  have first := signal_disconnects_registered twoClients .user (fun _ => refusing) 0
  have second := signal_disconnects_registered twoClients .user (fun _ => refusing) 1
  exact ⟨(first.1 (by decide)).1, second.2 (by decide)⟩

end Sample

end Runs

end AeronClusterClient.Client.Fleet
