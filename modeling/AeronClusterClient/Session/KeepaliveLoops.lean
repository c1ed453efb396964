/- module: AeronClusterClient/Session/KeepaliveLoops
   source: src/session_manager.cpp (connect, disconnect, is_connected, send_keepalive, ~Impl)
   digest: The detached keepalive threads of a session manager, and how many of them are alive. -/

import AeronClusterClient.Session.Updates

/-!
A connect call that succeeds starts a loop that nobody joins. The loop ends
only when it wakes up and finds the session manager not connected, so a loop
that sleeps through a reconnect goes on beside the new one, and a loop that
sleeps while the session manager is destroyed wakes up in one that is gone.
-/

set_option autoImplicit false
set_option relaxedAutoImplicit false

namespace AeronClusterClient.Session.KeepaliveLoops

open Lib.Action Lib.Runs Session.Manager Session.Connect
open Session.Updates (Step)
open Config (ClusterClientConfig)

/-- A session manager with the threads it has detached. -/
structure Loops where
  machine : Machine
  /-- Whether the loops go on, in the order in which they were started. -/
  threads : List Bool := []
  /-- The destructor has been entered. -/
  closing : Bool := false
  /-- The destructor has completed. -/
  destroyed : Bool := false
  /-- The steps that loops have taken since then. -/
  lateSteps : Nat := 0
  deriving DecidableEq, Repr

def Loops.alive (s : Loops) : Nat := s.threads.count true

/-- What happens to a session manager and its loops. A loop that wakes up during a call is taken to do so
before the call or behind it. -/
inductive Turn
  | operation (step : Step)
  /-- A loop begins or wakes up. -/
  | wake (thread : Nat) (world : World)
  | destroy (world : World)
  | destroyed

section Programs

variable (config : ClusterClientConfig)

/-- The loops that an operation starts: one, if it is a connect call that succeeds. -/
def started (step : Step) (m : Machine) : Nat :=
  match step.operation with
  | .connect =>
      match returned (connect config step.world) m with
      | some (result, _) => if result.success then 1 else 0
      | none => 0
  | _ => 0

/-- One turn of the loop; the result says whether the loop goes to sleep again. -/
def iteration (world : World) : SessionM Bool := do
  if !(← look world).isConnected then return false
  let _ ← sendKeepalive world
  return true

/-- Nobody calls a session manager once its destructor runs, but its loops still wake up. -/
def take (turn : Turn) (s : Loops) : Loops :=
  match turn with
  | .operation step =>
      if s.closing then s
      else
        { s with
          machine := Updates.take config step s.machine
          threads := s.threads ++ List.replicate (started config step s.machine) true }
  | .wake thread world =>
      if s.threads.getD thread false then
        if s.destroyed then { s with lateSteps := s.lateSteps + 1 }
        else
          { s with
            machine := finalState (iteration world) s.machine
            threads := s.threads.set thread
              ((returned (iteration world) s.machine).getD false) }
      else s
  | .destroy world =>
      if s.closing then s
      else
        { s with
          machine := finalState (disconnect config world) s.machine
          closing := true }
  | .destroyed => if s.closing then { s with destroyed := true } else s

def Loops.initial (correlationId : Int) : Loops :=
  { machine := { session := { correlationId := correlationId } } }

def reached (correlationId : Int) (turns : List Turn) : Loops :=
  stateAfter (take config) (.initial correlationId) turns

end Programs

variable {config : ClusterClientConfig} {s : Loops} {thread : Nat}

/-- At most one loop is alive while the session is connected, and none has taken a step since the
destructor has completed. -/
structure Single (s : Loops) : Prop where
  one : s.machine.session.isConnected = true → s.alive ≤ 1
  late : s.lateSteps = 0

section Wakes

def FindsUnconnected (world : World) (m : Machine) : Prop :=
  ∃ found, returned (look world) m = some found ∧ found.isConnected = false

/-- During the run, while the session manager is there, the loop has woken up and found it not
connected. -/
def WokenUnconnected (config : ClusterClientConfig) (s : Loops) (turns : List Turn)
    (thread : Nat) : Prop :=
  ∃ before world after, turns = before ++ .wake thread world :: after ∧
    thread < (stateAfter (take config) s before).threads.length ∧
    (stateAfter (take config) s before).destroyed = false ∧
    FindsUnconnected world (stateAfter (take config) s before).machine

/-- The turn is a connect that starts a loop, or the end of the destructor. -/
def Closes (config : ClusterClientConfig) (s : Loops) : Turn → Prop
  | .operation step => s.closing = false ∧ started config step s.machine ≠ 0
  | .destroyed => s.closing = true
  | _ => False

/-- Before the next connect that succeeds, and before the destructor ends, every loop wakes up and
finds that its session is gone. -/
def Patient (config : ClusterClientConfig) (s : Loops) (turns : List Turn) : Prop :=
  ∀ first turn rest, turns = first ++ turn :: rest →
    Closes config (stateAfter (take config) s first) turn →
      ∀ thread < (stateAfter (take config) s first).threads.length,
        WokenUnconnected config s first thread

theorem iteration_of_unconnected {world : World} {m : Machine} (finds : FindsUnconnected world m) :
    returned (iteration world) m = some false := by
  obtain ⟨found, looked, unconnected⟩ := finds
  obtain ⟨t, run⟩ := returned_eq_some.mp looked
  refine returned_eq_some.mpr ⟨t, ?_⟩
  unfold iteration
  rw [EStateM.run_bind, run]
  dsimp only
  rw [unconnected]
  rfl

theorem ended_take (turn : Turn) (ended : s.threads[thread]? = some false) :
    (take config turn s).threads[thread]? = some false := by
  obtain ⟨begun, -⟩ := List.getElem?_eq_some_iff.mp ended
  cases turn with
  | operation step =>
      unfold take
      dsimp only
      split
      · exact ended
      · rw [List.getElem?_append_left begun]
        exact ended
  | wake other world =>
      unfold take
      dsimp only
      split
      · rename_i awake
        split
        · exact ended
        · have apart : other ≠ thread := by
            rintro rfl
            rw [List.getD_eq_getElem?_getD, ended] at awake
            cases awake
          rw [List.getElem?_set_ne apart]
          exact ended
      · exact ended
  | destroy world =>
      unfold take
      dsimp only
      split
      · exact ended
      · exact ended
  | destroyed =>
      unfold take
      dsimp only
      split
      · exact ended
      · exact ended

theorem ended_wake {world : World} (begun : thread < s.threads.length) (present : s.destroyed = false)
    (finds : FindsUnconnected world s.machine) :
    (take config (.wake thread world) s).threads[thread]? = some false := by
  unfold take
  dsimp only
  rw [present, iteration_of_unconnected finds]
  split
  · exact List.getElem?_set_self begun
  · rename_i asleep
    rw [List.getD_eq_getElem?_getD, List.getElem?_eq_getElem begun] at asleep
    rw [List.getElem?_eq_getElem begun]
    exact congrArg some (Bool.eq_false_iff.mpr asleep)

theorem ended_of_woken {turns : List Turn} (woken : WokenUnconnected config s turns thread) :
    (stateAfter (take config) s turns).threads[thread]? = some false := by
  obtain ⟨before, world, after, rfl, begun, present, finds⟩ := woken
  exact invariant_since (fun s : Loops => s.threads[thread]? = some false)
    (ended_wake begun present finds) fun _ turn => ended_take turn

end Wakes

section Counting

theorem started_le (step : Step) (m : Machine) : started config step m ≤ 1 := by
  unfold started
  split
  · split
    · split
      · exact le_rfl
      · exact Nat.zero_le 1
    · exact Nat.zero_le 1
  · exact Nat.zero_le 1

theorem alive_of_ended (ended : ∀ thread < s.threads.length, s.threads[thread]? = some false) :
    s.alive = 0 := by
  refine List.count_eq_zero.mpr fun among => ?_
  obtain ⟨thread, begun, goes⟩ := List.mem_iff_getElem.mp among
  have gone := ended thread begun
  rw [List.getElem?_eq_getElem begun, goes] at gone
  cases gone

/-- What a run of patient loops keeps, in connected states and in others. -/
structure Kept (s : Loops) : Prop where
  alive : s.alive ≤ 1
  destroyed : s.destroyed = true → s.alive = 0 ∧ s.closing = true
  late : s.lateSteps = 0

theorem alive_pos (awake : s.threads.getD thread false = true) :
    ∃ begun : thread < s.threads.length, s.threads[thread] = true ∧ 0 < s.alive := by
  have goes : s.threads[thread]? = some true := by
    rw [List.getD_eq_getElem?_getD] at awake
    cases found : s.threads[thread]? with
    | none =>
        rw [found] at awake
        cases awake
    | some alive =>
        rw [found] at awake
        exact congrArg some awake
  obtain ⟨begun, goes⟩ := List.getElem?_eq_some_iff.mp goes
  exact ⟨begun, goes, List.count_pos_iff.mpr (goes ▸ List.getElem_mem begun)⟩

theorem alive_set_le (awake : s.threads.getD thread false = true) (again : Bool) :
    (s.threads.set thread again).count true ≤ s.alive := by
  obtain ⟨begun, goes, counted⟩ := alive_pos awake
  unfold Loops.alive at *
  rw [List.count_set begun, goes]
  cases again with
  | true =>
      simp only [beq_self_eq_true, if_true]
      omega
  | false => simp

theorem kept_take {turn : Turn} (kept : Kept s)
    (ended : Closes config s turn → ∀ thread < s.threads.length, s.threads[thread]? = some false) :
    Kept (take config turn s) := by
  cases turn with
  | operation step =>
      unfold take
      dsimp only
      split
      · exact kept
      · rename_i called
        have present : s.closing = false := Bool.eq_false_iff.mpr called
        have more : (s.threads ++ List.replicate (started config step s.machine) true).count true =
            s.alive + started config step s.machine := by
          rw [List.count_append, List.count_replicate_self]
          rfl
        refine ⟨more.trans_le ?_, fun gone => absurd (kept.destroyed gone).2 called, kept.late⟩
        by_cases starts : started config step s.machine = 0
        · rw [starts]
          exact kept.alive
        · rw [alive_of_ended (ended ⟨present, starts⟩), Nat.zero_add]
          exact started_le step s.machine
  | wake thread world =>
      unfold take
      dsimp only
      split
      · rename_i awake
        split
        · rename_i gone
          obtain ⟨-, -, counted⟩ := alive_pos awake
          exact absurd (kept.destroyed gone).1 counted.ne'
        · rename_i present
          refine ⟨?_, fun gone => absurd gone present, kept.late⟩
          exact (alive_set_le awake _).trans kept.alive
      · exact kept
  | destroy world =>
      unfold take
      dsimp only
      split
      · exact kept
      · exact ⟨kept.alive, fun gone => ⟨(kept.destroyed gone).1, rfl⟩, kept.late⟩
  | destroyed =>
      unfold take
      dsimp only
      split
      · rename_i closing
        exact ⟨kept.alive, fun _ => ⟨alive_of_ended (ended closing), closing⟩, kept.late⟩
      · exact kept

end Counting

/-- In every run in which every loop is woken up between a loss and the next connect that succeeds, and
before the destructor ends, there is a single loop at most. -/
theorem single_of_patient (config : ClusterClientConfig) (correlationId : Int) (turns : List Turn)
    (patient : Patient config (.initial correlationId) turns) :
    ∀ first rest, turns = first ++ rest → Single (reached config correlationId first) := by
  rintro first rest rfl
  have initially : Kept (.initial correlationId) := ⟨Nat.zero_le 1, nofun, rfl⟩
  have apart : Meets (take config)
      (fun s turn => Closes config s turn → ∀ thread < s.threads.length, s.threads[thread]? = some false)
      (.initial correlationId) (first ++ rest) :=
    meets_of_splits fun before turn after split closes thread begun =>
      ended_of_woken (patient before turn after split closes thread begun)
  have kept : Kept (reached config correlationId first) :=
    invariant_of_prefix Kept initially (fun _ _ => kept_take) apart
  exact ⟨fun _ => kept.alive, kept.late⟩

section Sample

def accepting : World :=
  { events := fun _ =>
      [.session
        { success := true
          templateId := Sbe.Encoder.SESSION_EVENT_TEMPLATE_ID
          schemaId := Sbe.Encoder.CLUSTER_SCHEMA_ID
          eventCode := SESSION_EVENT_OK
          correlationId := 5
          leadershipTermId := 1 }] }

def oneMember : ClusterClientConfig := { clusterEndpoints := [Text.ascii "a:9002"] }

/-- A reconnect after the loop of the first session has woken up and ended. -/
def patientReconnect : List Turn :=
  [.operation ⟨accepting, .connect⟩, .operation ⟨{}, .disconnect⟩, .wake 0 {},
    .operation ⟨accepting, .connect⟩]

theorem single_of_patient_patientReconnect : Single (reached oneMember 0 patientReconnect) := by
  refine single_of_patient oneMember 0 patientReconnect ?_ patientReconnect [] rfl
  intro first turn rest split closes thread begun
  rcases first with _ | ⟨a, _ | ⟨b, _ | ⟨c, _ | ⟨d, first⟩⟩⟩⟩
  · exact absurd begun (Nat.not_lt_zero thread)
  · cases split
    exact absurd rfl closes.2
  · cases split
    exact closes.elim
  · cases split
    have one : (reached oneMember 0 (patientReconnect.take 3)).threads.length = 1 := by decide +kernel
    have first : thread = 0 := by
      change thread < (reached oneMember 0 (patientReconnect.take 3)).threads.length at begun
      omega
    subst first
    refine ⟨patientReconnect.take 2, {}, [], rfl, ?_, ?_, ⟨_, rfl, ?_⟩⟩
    · decide +kernel
    · decide +kernel
    · decide +kernel
  · have long := congrArg List.length split
    simp [patientReconnect] at long

/-- A reconnect within one keepalive interval leaves two loops. -/
theorem quick_reconnect_doubles_loop :
    ¬ ∀ (config : ClusterClientConfig) (correlationId : Int) (turns : List Turn),
      Single (reached config correlationId turns) := by
  intro claim
  have single := claim oneMember 0 [.operation ⟨accepting, .connect⟩,
    .operation ⟨{}, .disconnect⟩, .operation ⟨accepting, .connect⟩]
  have two := single.one (by decide +kernel)
  revert two
  decide +kernel

/-- The loop wakes up in a session manager that is gone. -/
example : (reached oneMember 0
    [.operation ⟨accepting, .connect⟩, .destroy {}, .destroyed, .wake 0 {}]).lateSteps = 1 := by
  decide +kernel

end Sample

end AeronClusterClient.Session.KeepaliveLoops
