/- module: AeronClusterClient/SignalHandler
   source: src/signal_handler.cpp, src/cluster_client.cpp (~ClusterClient, connect,
   enable_automatic_signal_handling)
   digest: The clients that are disconnected on a signal, and when each of them is so once. -/

import AeronClusterClient.Lib.Runs
import Mathlib.Data.Finset.Basic
import Mathlib.Data.List.Nodup
import Mathlib.Logic.Function.Basic

/-!
The manager keeps weak pointers in a vector. A client is meant to be registered
or not; the vector is exact as long as no client that is registered is
registered again.
-/

set_option autoImplicit false
set_option relaxedAutoImplicit false

namespace AeronClusterClient.SignalHandler

open Lib.Runs

section Model

abbrev ClientId := Nat

/-- Whether an object that is alive is owned by shared pointers. -/
inductive Ownership
  | shared
  | other
  deriving DecidableEq, Repr

/-- The manager, with the clients that are alive. -/
structure SignalHandlerManager where
  clients : List ClientId := []
  handlersInstalled : Bool := false
  alive : ClientId → Option Ownership := fun _ => none

variable (m : SignalHandlerManager)

/-- `weak_client.lock()`. -/
def lock (weak : ClientId) : Option ClientId :=
  if m.alive weak = some .shared then some weak else none

/-- A null pointer is ignored; every other one goes to the end of the list. -/
def registerClient : Option ClientId → SignalHandlerManager
  | none => m
  | some client => { m with clients := m.clients ++ [client], handlersInstalled := true }

/-- Expired entries go, and those of the client. -/
def unregisterClient : Option ClientId → SignalHandlerManager
  | none => m
  | some client =>
      { m with clients := m.clients.filter fun weak =>
          match lock m weak with
          | none => false
          | some shared => shared ≠ client }

/-- `shared_from_this` throws where the client is not owned by shared pointers. -/
def enableAutomaticSignalHandling (client : ClientId) : SignalHandlerManager :=
  match lock m client with
  | some self => registerClient m (some self)
  | none => m

/-- The clients that `disconnect_all_clients` disconnects, in order. -/
def disconnectAllClients : List ClientId := m.clients.filterMap (lock m)

/-- What a program does with its clients. `connect` is any of the three connect calls, or a call
of `enable_automatic_signal_handling`; a shared pointer points to a client that has one. -/
inductive Step
  | create (client : ClientId) (owner : Ownership)
  | connect (client : ClientId)
  | register (client : Option ClientId)
  | unregister (client : Option ClientId)
  | destroy (client : ClientId)

/-- Calls of an object that is not alive, and shared pointers to one, do not occur: such a step
changes nothing. -/
def step : Step → SignalHandlerManager → SignalHandlerManager
  | .create client owner, m =>
      if m.alive client = none then { m with alive := Function.update m.alive client (some owner) }
      else m
  | .connect client, m => enableAutomaticSignalHandling m client
  | .register client, m => registerClient m (client.bind (lock m))
  | .unregister client, m => unregisterClient m client
  | .destroy client, m =>
      if m.alive client = none then m
      -- the weak pointers have expired when the destructor runs
      else unregisterClient { m with alive := Function.update m.alive client none } (some client)

end Model

section Meaning

/-- Which clients are alive, and which of them are registered. -/
structure Registry where
  alive : ClientId → Option Ownership := fun _ => none
  registered : Finset ClientId := ∅

/-- What the steps mean: registration is a set. -/
def meant : Step → Registry → Registry
  | .create client owner, r =>
      if r.alive client = none then { r with alive := Function.update r.alive client (some owner) }
      else r
  | .connect client, r | .register (some client), r =>
      if r.alive client = some .shared then { r with registered := insert client r.registered } else r
  | .register none, r | .unregister none, r => r
  | .unregister (some client), r => { r with registered := r.registered.erase client }
  | .destroy client, r =>
      if r.alive client = none then r
      else
        { alive := Function.update r.alive client none, registered := r.registered.erase client }

/-- The list has the clients that are meant, with or without repetitions. -/
structure Refines (m : SignalHandlerManager) (r : Registry) : Prop where
  alive : m.alive = r.alive
  shared : ∀ client ∈ m.clients, m.alive client = some .shared
  same : ∀ client, client ∈ m.clients ↔ client ∈ r.registered

variable {m : SignalHandlerManager} {r : Registry} {client : ClientId}

theorem lock_of_shared (shared : m.alive client = some .shared) : lock m client = some client :=
  if_pos shared

theorem lock_of_other (other : m.alive client ≠ some .shared) : lock m client = none := if_neg other

theorem enableAutomaticSignalHandling_eq :
    enableAutomaticSignalHandling m client = registerClient m (lock m client) := by
  unfold enableAutomaticSignalHandling
  cases lock m client <;> rfl

theorem refines_registerClient (refines : Refines m r) (shared : m.alive client = some .shared) :
    Refines (registerClient m (some client))
      { r with registered := insert client r.registered } := by
  refine ⟨refines.alive, fun c among => ?_, fun c => ?_⟩
  · rcases List.mem_append.mp among with old | new
    · exact refines.shared c old
    · rw [List.mem_singleton.mp new]
      exact shared
  · rw [Finset.mem_insert, ← refines.same]
    simp [registerClient, or_comm]

theorem mem_unregisterClient {c : ClientId} :
    c ∈ (unregisterClient m (some client)).clients ↔
      c ∈ m.clients ∧ m.alive c = some .shared ∧ c ≠ client := by
  by_cases shared : m.alive c = some .shared
  · simp [unregisterClient, lock, shared]
  · simp [unregisterClient, lock, shared]

theorem mem_unregisterClient_of_shared {c : ClientId}
    (shared : ∀ c ∈ m.clients, c ≠ client → m.alive c = some .shared) :
    c ∈ (unregisterClient m (some client)).clients ↔ c ≠ client ∧ c ∈ m.clients := by
  rw [mem_unregisterClient]
  constructor
  · rintro ⟨among, -, other⟩
    exact ⟨other, among⟩
  · rintro ⟨other, among⟩
    exact ⟨among, shared c among other, other⟩

theorem refines_unregisterClient (refines : Refines m r) :
    Refines (unregisterClient m (some client)) { r with registered := r.registered.erase client } := by
  refine ⟨refines.alive, fun c among => (mem_unregisterClient.mp among).2.1, fun c => ?_⟩
  rw [mem_unregisterClient_of_shared fun c among _ => refines.shared c among, Finset.mem_erase,
    ← refines.same]

theorem refines_destroy (refines : Refines m r) (client : ClientId) :
    Refines (unregisterClient { m with alive := Function.update m.alive client none } (some client))
      { alive := Function.update r.alive client none, registered := r.registered.erase client } := by
  refine ⟨by rw [← refines.alive]; rfl, fun c among => (mem_unregisterClient.mp among).2.1, ?_⟩
  intro c
  rw [mem_unregisterClient_of_shared ?_, Finset.mem_erase, ← refines.same]
  intro c among other
  dsimp only
  rw [Function.update_of_ne other]
  exact refines.shared c among

theorem refines_step (refines : Refines m r) (i : Step) : Refines (step i m) (meant i r) := by
  obtain ⟨alive, registered⟩ := r
  obtain rfl : m.alive = alive := refines.alive
  have enabled (client : ClientId) : Refines (registerClient m (lock m client))
      (if m.alive client = some .shared then ⟨m.alive, insert client registered⟩
      else ⟨m.alive, registered⟩) := by
    by_cases shared : m.alive client = some .shared
    · rw [lock_of_shared shared, if_pos shared]
      exact refines_registerClient refines shared
    · rw [lock_of_other shared, if_neg shared]
      exact refines
  cases i with
  | create client owner =>
      by_cases absent : m.alive client = none
      · rw [step, meant, if_pos absent, if_pos absent]
        refine ⟨rfl, fun c among => ?_, refines.same⟩
        have shared := refines.shared c among
        have other : c ≠ client := by
          rintro rfl
          rw [absent] at shared
          cases shared
        exact (Function.update_of_ne other _ _).trans shared
      · rw [step, meant, if_neg absent, if_neg absent]
        exact refines
  | connect client =>
      rw [step, enableAutomaticSignalHandling_eq]
      exact enabled client
  | register client =>
      cases client with
      | none => exact refines
      | some client => exact enabled client
  | unregister client =>
      cases client with
      | none => exact refines
      | some client => exact refines_unregisterClient refines
  | destroy client =>
      by_cases absent : m.alive client = none
      · rw [step, meant, if_pos absent, if_pos absent]
        exact refines
      · rw [step, meant, if_neg absent, if_neg absent]
        exact refines_destroy refines client

theorem refines_stateAfter (refines : Refines m r) (steps : List Step) :
    Refines (stateAfter step m steps) (stateAfter meant r steps) :=
  related_of_steps Refines refines fun _ _ i refines => refines_step refines i

end Meaning

section Once

variable {m : SignalHandlerManager} {r : Registry} {client : ClientId}

/-- Each registered client has one entry, no entry has expired, and a signal disconnects each
registered client once. -/
structure Exact (m : SignalHandlerManager) (r : Registry) : Prop where
  once : ∀ client, m.clients.count client = if client ∈ r.registered then 1 else 0
  unexpired : ∀ client ∈ m.clients, m.alive client ≠ none
  disconnects : ∀ client,
    (disconnectAllClients m).count client = if client ∈ r.registered then 1 else 0

theorem disconnectAllClients_eq (shared : ∀ client ∈ m.clients, m.alive client = some .shared) :
    disconnectAllClients m = m.clients := by
  have all : ∀ client ∈ m.clients, lock m client = some client :=
    fun client among => lock_of_shared (shared client among)
  rw [disconnectAllClients, List.filterMap_congr all]
  exact List.filterMap_some

theorem exact_iff_nodup (refines : Refines m r) : Exact m r ↔ m.clients.Nodup := by
  constructor
  · intro same
    rw [List.nodup_iff_count_le_one]
    intro client
    rw [same.once client]
    split <;> decide
  · intro distinct
    have once (client : ClientId) :
        m.clients.count client = if client ∈ r.registered then 1 else 0 := by
      rw [distinct.count]
      simp only [refines.same]
    refine ⟨once, fun client among => ?_, fun client => ?_⟩
    · rw [refines.shared client among]
      decide
    · rw [disconnectAllClients_eq refines.shared]
      exact once client

/-- The step registers no client that has an entry. -/
def Anew (m : SignalHandlerManager) : Step → Prop
  | .connect client | .register (some client) =>
      m.alive client = some .shared → client ∉ m.clients
  | _ => True

theorem nodup_registerClient (distinct : m.clients.Nodup) :
    (registerClient m (lock m client)).clients.Nodup ↔
      (m.alive client = some .shared → client ∉ m.clients) := by
  by_cases shared : m.alive client = some .shared
  · have grown : (registerClient m (some client)).clients = m.clients.concat client := by
      simp [registerClient]
    rw [lock_of_shared shared, grown, List.nodup_concat]
    simp [shared, distinct]
  · rw [lock_of_other shared]
    exact iff_of_true distinct fun there => absurd there shared

theorem nodup_unregisterClient (distinct : m.clients.Nodup) (client : Option ClientId) :
    (unregisterClient m client).clients.Nodup := by
  cases client with
  | none => exact distinct
  | some client => exact distinct.filter _

/-- A step keeps the entries distinct exactly if it registers no client again. -/
theorem nodup_step_iff (distinct : m.clients.Nodup) (i : Step) :
    (step i m).clients.Nodup ↔ Anew m i := by
  cases i with
  | create client owner =>
      rw [step]
      split <;> exact iff_of_true distinct trivial
  | connect client =>
      rw [step, enableAutomaticSignalHandling_eq]
      exact nodup_registerClient distinct
  | register client =>
      cases client with
      | none => exact iff_of_true distinct trivial
      | some client => exact nodup_registerClient distinct
  | unregister client => exact iff_of_true (nodup_unregisterClient distinct client) trivial
  | destroy client =>
      rw [step]
      split
      · exact iff_of_true distinct trivial
      · exact iff_of_true (distinct.filter _) trivial

/-- In every state of a run each registered client is on the list once, exactly if the run registers
no client that is on the list already. -/
theorem registered_once_iff (steps : List Step) :
    (∀ first rest, steps = first ++ rest →
        Exact (stateAfter step {} first) (stateAfter meant {} first)) ↔
      Meets step Anew {} steps := by
  have start : Refines {} {} := ⟨rfl, nofun, by simp⟩
  rw [← everywhere_iff_meets (fun _ => True) (fun m => m.clients.Nodup) trivial List.nodup_nil
    (fun _ _ _ => trivial) fun m i _ distinct => nodup_step_iff distinct i]
  refine forall_congr' fun first => forall_congr' fun rest => imp_congr_right fun _ => ?_
  exact exact_iff_nodup (refines_stateAfter start first)

section Sample

def reconnecting : List Step := [.create 0 .shared, .connect 0, .connect 0]

/-- A client that connects for the second time is on the list twice. -/
theorem second_connect_registers_again :
    ¬ ∀ steps first rest : List Step, steps = first ++ rest →
      Exact (stateAfter step {} first) (stateAfter meant {} first) := by
  intro claim
  have twice := (claim reconnecting reconnecting [] (List.append_nil _).symm).disconnects 0
  exact absurd twice (by decide)

end Sample

end Once

end AeronClusterClient.SignalHandler
