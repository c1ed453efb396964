/- module: AeronClusterClient/Client/Destruction
   source: src/cluster_client.cpp (ClusterClient::Impl::~Impl)
   generality: every client state, every turn that other threads get meanwhile
   digest: When the destructor of a client returns, and when it ends the process. -/

import AeronClusterClient.Client.Choices
import AeronClusterClient.Client.StaleConnection

/-!
A thread object that is destroyed with a thread to join ends the process. The
destructor stops the polling thread, disconnects and joins the auto-reconnect
thread; what disconnecting throws is caught, but then the join is skipped.
-/

set_option autoImplicit false
set_option relaxedAutoImplicit false

namespace AeronClusterClient.Client.Destruction

open Lib.Action Lib.Runs
open Client.State Client.Frames Client.Connection Client.Operations Client.Choices
open Client.Moves (Sets hears_doMeanwhile hears_stopPolling)
open Client.Programs (reconnects)
open Client.ResumeOnConnect (accepting)
open Config (ClusterClientConfig)
open Text (StdString ascii stdToString)

section Model

/-- A client with the object of its auto-reconnect thread, which has a thread to join from the first
one that is created until it is joined. -/
structure Owned where
  client : Impl
  /-- `auto_reconnect_thread_.joinable()`. -/
  joinable : Bool
  owns : client.autoReconnectScheduled.isSome = true → joinable = true

def Owned.become (o : Owned) (after : Impl) : Owned where
  client := after
  joinable := o.joinable || after.autoReconnectScheduled.isSome
  owns scheduled := by simp [scheduled]

def construct (config : ClusterClientConfig) (generated : StdString) : Owned :=
  ⟨Impl.construct config generated, false, nofun⟩

def take (step : Step) (o : Owned) : Owned := o.become (Operations.take step o.client)

def reached (config : ClusterClientConfig) (generated : StdString) (steps : List Step) : Owned :=
  stateAfter take (construct config generated) steps

/-- What other threads do while a client is destroyed. -/
inductive Background
  | told (event : Meanwhile)
  | keepalive
  | autoReconnectBegin
  | autoReconnectAttempt

def Background.operation : Background → Operation
  | .told event => .act (.event event)
  | .keepalive => .keepalive
  | .autoReconnectBegin => .act .autoReconnectBegin
  | .autoReconnectAttempt => .act .autoReconnectAttempt

/-- The threads of the library that nothing is caught in; what an event throws is left to the
polling thread and to the driver. -/
def Background.unguarded : Background → Bool
  | .told _ => false
  | .keepalive | .autoReconnectBegin | .autoReconnectAttempt => true

structure Turn where
  world : World
  background : Background

/-- The client after a turn, unless it ends the process. -/
def Turn.take (turn : Turn) (o : Owned) : Option Owned :=
  match (perform turn.world turn.background.operation).run o.client with
  | .ok _ after => some (o.become after)
  | .error .terminate _ => none
  | .error (.exception _) after =>
      if turn.background.unguarded then none else some (o.become after)

def meanwhile : List Turn → Owned → Option Owned
  | [], o => some o
  | turn :: turns, o => (turn.take o).bind (meanwhile turns)

def goOn (underWay : Option World) (thread : Option (Nat × StdString)) (o : Owned) : Option Owned :=
  match underWay, thread with
  | some w, some (made, reason) =>
      match (reconnectOnce w made reason).run o.client with
      | .ok _ after => some (o.become after)
      | .error _ _ => none
  | _, _ => some o

/-- What other threads do while a client is destroyed, and what the world answers. -/
structure Course where
  world : World
  /-- Turns before the client disconnects. -/
  before : List Turn := []
  /-- The world of an attempt to reconnect that is under way from the start, if it goes on. -/
  underWay : Option World := none
  /-- Turns after the client has disconnected. -/
  joining : List Turn := []

/-- What a destructor comes to. -/
inductive Fate
  | destroyed (last : Impl)
  /-- The auto-reconnect thread still runs. -/
  | waiting
  | terminated

instance (fate : Fate) : Decidable (fate = .terminated) :=
  match fate with
  | .destroyed _ | .waiting => isFalse nofun
  | .terminated => isTrue rfl

/-- The thread objects go, and with them the process if one of them has a thread to join. -/
def release (joinable : Bool) (c : Impl) : Fate :=
  if joinable || c.polling.joinable then .terminated else .destroyed c

/-- The thread that the auto-reconnect object has to join is still to run or running. -/
def running (c : Impl) : Bool := c.autoReconnectScheduled.isSome || c.autoReconnectThread.isSome

/-- `~Impl`, and the destruction of the thread objects after its body. -/
def destruct (d : Course) (o : Owned) : Fate :=
  match meanwhile d.before (o.become (finalState (stopPolling .user) o.client)) with
  | none => .terminated
  | some closing =>
      match (disconnect d.world .user).run closing.client with
      | .error .terminate _ => .terminated
      -- the handler is behind the join
      | .error (.exception _) after => release (closing.become after).joinable after
      | .ok _ after =>
          let disconnected := closing.become after
          match (goOn d.underWay o.client.autoReconnectThread disconnected).bind (meanwhile d.joining) with
          | none => .terminated
          | some last =>
              if !disconnected.joinable then release last.joinable last.client
              else if running last.client then .waiting
              else release false last.client

end Model

section Fading

/-- What other threads and the destructor itself may do to a client whose auto-reconnect is off: the
choices stand, and nothing starts any more. -/
structure Fades (c after : Impl) : Prop where
  enabled : after.autoReconnectEnabled = c.autoReconnectEnabled
  stateCallback : after.connectionStateCallback = c.connectionStateCallback
  connectionState : after.connectionState = .connected → c.connectionState = .connected
  polling : c.polling.joinable = false → after.polling.joinable = false
  scheduled : c.autoReconnectEnabled = false →
    after.autoReconnectScheduled.isSome = true → c.autoReconnectScheduled.isSome = true

instance : IsPreorder Impl Fades where
  refl _ := ⟨rfl, rfl, id, id, fun _ => id⟩
  trans _ _ _ first rest :=
    ⟨rest.enabled.trans first.enabled, rest.stateCallback.trans first.stateCallback,
      first.connectionState ∘ rest.connectionState, rest.polling ∘ first.polling,
      fun off => first.scheduled off ∘ rest.scheduled (first.enabled.trans off)⟩

theorem unjoinable_of_steps {p q : Polling} (unjoinable : p.joinable = false)
    (steps : Relation.ReflTransGen PollingStep p q) : q.joinable = false := by
  induction steps with
  | refl => exact unjoinable
  | tail _ last unjoinable =>
      cases last with
      | clear => exact unjoinable
      | join joinable => rfl

theorem fades_of_obeys {c after : Impl} (obeys : Obeys c after) (steady : Steady c after) :
    Fades c after where
  enabled := obeys.enabled
  stateCallback := obeys.stateCallback
  connectionState := steady.connectionState
  polling unjoinable := unjoinable_of_steps unjoinable steady.polling
  scheduled off := by
    have same : after.autoReconnectScheduled = c.autoReconnectScheduled :=
      congrArg Prod.fst (obeys.unasked off)
    rw [same]
    exact id

variable {w : World} {c : Impl} {o : Owned}

theorem become_joinable (off : o.client.autoReconnectEnabled = false) {after : Impl}
    (fades : Fades o.client after) : (o.become after).joinable = o.joinable := by
  change (o.joinable || after.autoReconnectScheduled.isSome) = o.joinable
  cases scheduled : after.autoReconnectScheduled.isSome with
  | false => exact Bool.or_false _
  | true =>
      rw [o.owns (fades.scheduled off scheduled)]
      rfl

theorem steady_disconnect (caller : Caller) : Within Steady (disconnect w caller) := by
  have flag (suppress : Bool) : Within Steady
      (modify fun c => { c with suppressDisconnectNotifications := suppress } : ClientM Unit) :=
    within_modify fun _ => ⟨.refl, id, rfl⟩
  have steady {α : Type} {x : ClientM α} (disturbs : Within Disturbs x) : Within Steady x :=
    disturbs.mono fun _ _ disturbs => disturbs.toSteady
  unfold disconnect suppressingNotifications closeSession
  refine within_bind within_get fun c => within_bind (flag true) fun _ => ?_
  refine within_bind (within_tryCatch ?_ fun raised => ?_) fun _ => flag false
  · refine within_bind (within_bind within_get fun c => steady (disturbs_callSession _)) fun _ => ?_
    refine within_ite ?_ (within_pure _)
    refine within_bind (steady (disturbs_stopPolling _)) fun _ => ?_
    refine within_bind (steady (disturbs_setConnectionState (by decide))) fun _ => ?_
    refine within_bind (within_modify fun _ => ⟨.refl, id, rfl⟩) fun _ => ?_
    exact within_modify fun _ => ⟨.refl, id, rfl⟩
  · exact within_bind (flag false) fun _ => within_throw _

theorem fades_disconnect (caller : Caller) : Within Fades (disconnect w caller) := fun c =>
  fades_of_obeys (respected_obeys.disconnect caller c) (steady_disconnect caller c)

theorem fades_stopPolling (caller : Caller) (c : Impl) :
    Fades c (finalState (stopPolling caller) c) :=
  fades_of_obeys (hears_stopPolling hears_obeys caller c) (disturbs_stopPolling caller c).toSteady

theorem unjoinable_stopPolling (c : Impl) :
    (finalState (stopPolling .user) c).polling.joinable = false := by
  change (if c.polling.joinable && Caller.user ≠ .polling then c.polling.join
    else c.polling.clear).joinable = false
  cases joinable : c.polling.joinable with
  | true => rfl
  | false => exact joinable

end Fading

section Turns

variable {w : World} {c : Impl} {o : Owned}

theorem autoReconnectBegin_fades (c : Impl) :
    ∃ after, autoReconnectBegin.run c = .ok () after ∧ Fades c after := by
  cases thread : c.autoReconnectThread with
  | some running =>
      refine ⟨c, ?_, refl_of Fades c⟩
      unfold autoReconnectBegin
      rw [EStateM.run_bind, EStateM.run_get]
      dsimp only
      rw [thread]
      rfl
  | none =>
      cases scheduled : c.autoReconnectScheduled with
      | none =>
          refine ⟨c, ?_, refl_of Fades c⟩
          unfold autoReconnectBegin
          rw [EStateM.run_bind, EStateM.run_get]
          dsimp only
          rw [thread, scheduled]
          rfl
      | some reason =>
          let begun : Impl :=
            { c with autoReconnectScheduled := none, autoReconnectThread := some (0, reason) }
          have begins : Fades c begun := ⟨rfl, rfl, id, id, fun _ => nofun⟩
          refine ⟨finalState (stopPolling .autoReconnect) begun, ?_,
            trans_of Fades begins (fades_stopPolling _ _)⟩
          unfold autoReconnectBegin
          rw [EStateM.run_bind, EStateM.run_get]
          dsimp only
          rw [thread, scheduled]
          rfl

/-- A thread whose loop looks at the choice again makes no further attempt. -/
theorem autoReconnectAttempt_fades (off : c.autoReconnectEnabled = false) :
    ∃ after, (autoReconnectAttempt w).run c = .ok () after ∧ Fades c after := by
  unfold autoReconnectAttempt
  rw [EStateM.run_bind, EStateM.run_get]
  dsimp only
  cases c.autoReconnectThread with
  | none => exact ⟨c, rfl, refl_of Fades c⟩
  | some running =>
      obtain ⟨made, reason⟩ := running
      dsimp only
      let gone : Impl := { c with reconnectInProgress := false, autoReconnectThread := none }
      have goes : (autoReconnectGiveUp w reason).run c =
          (if gone.autoReconnectEnabled then
            callErrorCallback w (ascii "Auto-reconnect failed after " ++
              stdToString MAX_RECONNECT_ATTEMPTS ++ ascii " attempts. Reason: " ++ reason)
          else pure () : ClientM Unit).run gone := rfl
      have unheard : ¬ gone.autoReconnectEnabled = true := by
        rw [show gone.autoReconnectEnabled = c.autoReconnectEnabled from rfl, off]
        decide
      refine ⟨gone, ?_, ⟨rfl, rfl, id, id, fun _ => id⟩⟩
      rw [if_pos (by simp [off]), goes, if_neg unheard]
      rfl

/-- While auto-reconnect is off no turn of another thread ends the process. -/
theorem take_survives (off : o.client.autoReconnectEnabled = false) (turn : Turn) :
    ∃ after, turn.take o = some (o.become after) ∧ Fades o.client after := by
  obtain ⟨w, background⟩ := turn
  -- a thread function that returns
  have returned {after : Impl} {u : Unit}
      (run : (perform w background.operation).run o.client = .ok u after) :
      Turn.take ⟨w, background⟩ o = some (o.become after) := by
    unfold Turn.take
    dsimp only
    rw [run]
  cases background with
  | told event =>
      have fades : Fades o.client (finalState (doMeanwhile w event) o.client) :=
        fades_of_obeys (hears_doMeanwhile hears_obeys event _) (quiet_doMeanwhile event _).toSteady
      cases run : (doMeanwhile w event).run o.client with
      | ok u after =>
          rw [finalState_of_ok run] at fades
          exact ⟨after, returned run, fades⟩
      | error raised after =>
          rw [finalState_of_error run] at fades
          obtain ⟨what, rfl⟩ := Programs.has_doMeanwhile Programs.basis_catchable event _ _ _ run
          refine ⟨after, ?_, fades⟩
          unfold Turn.take
          dsimp only
          rw [show (perform w (Background.told event).operation).run o.client =
            .error (.exception what) after from run]
          rfl
  | keepalive =>
      have fades : Fades o.client (finalState (keepalive w) o.client) :=
        fades_of_obeys (respected_obeys.keepalives _) (disturbs_callSession _ _).toSteady
      have total : Total (keepalive w) :=
        Programs.total_callSession Session.Connect.total_sendKeepalive
      obtain ⟨sent, after, run⟩ := total o.client
      rw [finalState_of_ok run] at fades
      have dropped : (do let _ ← keepalive w : ClientM Unit).run o.client = .ok () after :=
        bind_eq_ok.mpr ⟨sent, after, run, rfl⟩
      exact ⟨after, returned dropped, fades⟩
  | autoReconnectBegin =>
      obtain ⟨after, run, fades⟩ := autoReconnectBegin_fades o.client
      exact ⟨after, returned run, fades⟩
  | autoReconnectAttempt =>
      obtain ⟨after, run, fades⟩ := autoReconnectAttempt_fades (w := w) off
      exact ⟨after, returned run, fades⟩

theorem meanwhile_survives (off : o.client.autoReconnectEnabled = false) (turns : List Turn) :
    ∃ last, meanwhile turns o = some last ∧ Fades o.client last.client ∧
      last.joinable = o.joinable := by
  induction turns generalizing o with
  | nil => exact ⟨o, rfl, refl_of Fades o.client, rfl⟩
  | cons turn turns ih =>
      obtain ⟨after, taken, fades⟩ := take_survives off turn
      obtain ⟨last, rest, later, same⟩ := ih (o := o.become after) (fades.enabled.trans off)
      refine ⟨last, ?_, trans_of Fades fades later, same.trans (become_joinable off fades)⟩
      rw [meanwhile, taken]
      exact rest

end Turns

section Disconnects

variable {w : World} {c : Impl} {caller : Caller}

theorem suppressingNotifications_returns {body : ClientM Unit}
    (returns : ∃ mid, body.run { c with suppressDisconnectNotifications := true } = .ok () mid) :
    ∃ after, (suppressingNotifications body).run c = .ok () after := by
  obtain ⟨mid, run⟩ := returns
  refine ⟨{ mid with suppressDisconnectNotifications := false }, ?_⟩
  unfold suppressingNotifications
  exact bind_eq_ok.mpr ⟨(), _, rfl, bind_eq_ok.mpr ⟨(), mid, tryCatch_of_ok run, rfl⟩⟩

theorem suppressingNotifications_throws {body : ClientM Unit} {raised : Raised}
    (throws : ∃ mid,
      body.run { c with suppressDisconnectNotifications := true } = .error raised mid) :
    ∃ after, (suppressingNotifications body).run c = .error raised after := by
  obtain ⟨mid, run⟩ := throws
  refine ⟨{ mid with suppressDisconnectNotifications := false }, ?_⟩
  have thrown : (tryCatch body (fun raised => do
      modify (fun c => { c with suppressDisconnectNotifications := false })
      throw raised) : ClientM Unit).run { c with suppressDisconnectNotifications := true } =
        .error raised { mid with suppressDisconnectNotifications := false } :=
    tryCatch_of_error run
  have begun : (suppressingNotifications body).run c = (do
      tryCatch body (fun raised => do
        modify (fun c => { c with suppressDisconnectNotifications := false })
        throw raised)
      modify (fun c => { c with suppressDisconnectNotifications := false }) : ClientM Unit).run
        { c with suppressDisconnectNotifications := true } := rfl
  rw [begun, EStateM.run_bind, thrown]

def Announces (c : Impl) : Prop :=
  c.connectionState = .connected ∧ c.connectionStateCallback = true

/-- What a disconnect call does to a connected client whose session is closed. -/
def leave (w : World) (caller : Caller) : ClientM Unit := do
  stopPolling caller
  setConnectionState w .disconnected
  releaseAeron
  modify (fun c =>
    { c with
      stats.currentSessionId := -1
      stats.currentLeaderId := -1
      stats.isConnected := false })

theorem disconnect_run (w : World) (caller : Caller) (c : Impl) :
    (disconnect w caller).run c = (suppressingNotifications (do
      closeSession w
      if c.connectionState = .connected then leave w caller)).run c := rfl

theorem closeSession_suppressed (w : World) (c : Impl) :
    ∃ closed, (closeSession w).run { c with suppressDisconnectNotifications := true } = .ok () closed ∧
      closed.connectionState = c.connectionState ∧
      closed.connectionStateCallback = c.connectionStateCallback := by
  obtain ⟨_, closed, closes⟩ := StaleConnection.total_closeSession (w := w)
    { c with suppressDisconnectNotifications := true }
  exact ⟨closed, closes, (PollingThread.silenced_closeSession.of_ok closes rfl).2.2,
    (respected_obeys.closeSession.of_ok closes).stateCallback⟩

/-- Nothing but the callback decides how the disconnect call of a connected client ends. -/
theorem disconnect_of_connected (w : World) (caller : Caller)
    (connected : c.connectionState = .connected) :
    ∃ stopped : Impl, stopped.connectionState = .connected ∧
      stopped.connectionStateCallback = c.connectionStateCallback ∧
      (¬ StateCallbackThrows w .disconnected stopped →
        ∃ after, (disconnect w caller).run c = .ok () after) ∧
      (StateCallbackThrows w .disconnected stopped →
        ∃ what after, (disconnect w caller).run c = .error (.exception what) after) := by
  obtain ⟨closed, closes, same, stays⟩ := closeSession_suppressed w c
  have body : (do closeSession w; leave w caller : ClientM Unit).run
      { c with suppressDisconnectNotifications := true } = (leave w caller).run closed := by
    rw [EStateM.run_bind, closes]
  have stopped : (leave w caller).run closed = (do
      setConnectionState w .disconnected
      releaseAeron
      modify (fun c =>
        { c with
          stats.currentSessionId := -1
          stats.currentLeaderId := -1
          stats.isConnected := false }) : ClientM Unit).run
        (finalState (stopPolling caller) closed) := rfl
  rw [disconnect_run, if_pos connected]
  refine ⟨finalState (stopPolling caller) closed, same.trans connected, stays, fun returns => ?_,
    fun throws => ?_⟩
  · refine suppressingNotifications_returns ?_
    rw [body, stopped, EStateM.run_bind, setConnectionState_returns returns]
    exact ⟨_, rfl⟩
  · obtain ⟨what, thrown⟩ := setConnectionState_throws throws
    refine ⟨what, suppressingNotifications_throws ?_⟩
    rw [body, stopped, EStateM.run_bind, thrown]
    exact ⟨_, rfl⟩

theorem disconnect_of_unconnected (unconnected : c.connectionState ≠ .connected) :
    ∃ after, (disconnect w caller).run c = .ok () after := by
  obtain ⟨closed, closes, -, -⟩ := closeSession_suppressed w c
  rw [disconnect_run, if_neg unconnected]
  exact suppressingNotifications_returns ⟨closed, bind_eq_ok.mpr ⟨(), closed, closes, rfl⟩⟩

theorem disconnect_ends (w : World) (caller : Caller) (c : Impl) :
    (∃ after, (disconnect w caller).run c = .ok () after) ∨
      Announces c ∧ ∃ what after, (disconnect w caller).run c = .error (.exception what) after := by
  by_cases connected : c.connectionState = .connected
  · obtain ⟨stopped, -, same, returns, throws⟩ := disconnect_of_connected w caller connected
    by_cases refuses : StateCallbackThrows w .disconnected stopped
    · exact Or.inr ⟨⟨connected, same ▸ refuses.2.1⟩, throws refuses⟩
    · exact Or.inl (returns refuses)
  · exact Or.inl (disconnect_of_unconnected connected)

/-- A user who never lets a callback return keeps a client from being disconnected in order. -/
theorem disconnect_refused (refuses : ∀ n, ∃ what, w.callback n = .error what) (caller : Caller)
    (heard : Announces c) : ∃ what after, (disconnect w caller).run c = .error (.exception what) after := by
  obtain ⟨stopped, connected, same, -, throws⟩ := disconnect_of_connected w caller heard.1
  refine throws ⟨?_, same.trans heard.2, refuses _⟩
  rw [connected]
  decide

end Disconnects

section Destructor

variable {o : Owned}

/-- What the destructor disconnects: the client has faded, and no polling thread is left to join. -/
theorem closing_survives (off : o.client.autoReconnectEnabled = false) (before : List Turn) :
    ∃ closing, meanwhile before (o.become (finalState (stopPolling .user) o.client)) = some closing ∧
      Fades o.client closing.client ∧ closing.joinable = o.joinable ∧
      closing.client.polling.joinable = false := by
  have stopped : Fades o.client (finalState (stopPolling .user) o.client) := fades_stopPolling _ _
  obtain ⟨closing, taken, fades, same⟩ :=
    meanwhile_survives (o := o.become _) (stopped.enabled.trans off) before
  exact ⟨closing, taken, trans_of Fades stopped fades, same.trans (become_joinable off stopped),
    fades.polling (unjoinable_stopPolling o.client)⟩

theorem release_of_unjoinable {c : Impl} (unjoinable : c.polling.joinable = false) :
    release false c = .destroyed c := by
  unfold release
  rw [unjoinable]
  rfl

/-- A destructor that does not skip a join which is due comes to its end, unless it waits for the
auto-reconnect thread. -/
theorem destruct_ends (off : o.client.autoReconnectEnabled = false)
    (idle : o.client.autoReconnectThread = none)
    (joins : ¬ (o.joinable = true ∧ Announces o.client)) (d : Course) :
    (∃ last, destruct d o = .destroyed last ∧ last.connectionState ≠ .connected) ∨
      o.joinable = true ∧ destruct d o = .waiting := by
  obtain ⟨closing, taken, fades, same, unjoinable⟩ := closing_survives off d.before
  have off' : closing.client.autoReconnectEnabled = false := fades.enabled.trans off
  have down : (finalState (disconnect d.world .user) closing.client).connectionState ≠ .connected :=
    (StaleConnection.down_disconnect .user closing.client).2
  have leaves : Fades closing.client (finalState (disconnect d.world .user) closing.client) :=
    fades_disconnect .user closing.client
  unfold destruct
  rw [taken]
  dsimp only
  rcases disconnect_ends d.world .user closing.client with ⟨after, run⟩ | ⟨heard, what, after, run⟩
  · rw [finalState_of_ok run] at down leaves
    obtain ⟨last, rest, later, still⟩ := meanwhile_survives (o := closing.become after)
      (leaves.enabled.trans off') d.joining
    have joinable : (closing.become after).joinable = o.joinable :=
      (become_joinable off' leaves).trans same
    have ended : last.client.connectionState ≠ .connected := mt later.connectionState down
    have goes : (goOn d.underWay o.client.autoReconnectThread (closing.become after)).bind
        (meanwhile d.joining) = some last := by
      rw [idle, ← rest]
      unfold goOn
      cases d.underWay with
      | none => rfl
      | some w => rfl
    rw [run]
    dsimp only
    rw [goes]
    dsimp only
    rw [joinable, still, joinable,
      release_of_unjoinable (later.polling (leaves.polling unjoinable))]
    cases due : o.joinable with
    | false =>
        rw [release_of_unjoinable (later.polling (leaves.polling unjoinable))]
        exact Or.inl ⟨last.client, rfl, ended⟩
    | true =>
        cases runs : running last.client with
        | true => exact Or.inr ⟨rfl, rfl⟩
        | false => exact Or.inl ⟨last.client, rfl, ended⟩
  · -- the join is skipped, and none is due
    rw [finalState_of_error run] at down leaves
    have announces : Announces o.client :=
      ⟨fades.connectionState heard.1, fades.stateCallback ▸ heard.2⟩
    have undue : (closing.become after).joinable = false := by
      rw [become_joinable off' leaves, same]
      simpa using fun due => joins ⟨due, announces⟩
    rw [run]
    dsimp only
    rw [undue, release_of_unjoinable (leaves.polling unjoinable)]
    exact Or.inl ⟨after, rfl, down⟩

def refusing : World :=
  { json := Json.plainJson, order := lexicographic, callback := fun _ => .error (ascii "refused") }

theorem destruct_refused (off : o.client.autoReconnectEnabled = false) (due : o.joinable = true)
    (heard : Announces o.client) : destruct { world := refusing } o = .terminated := by
  have stopped : Fades o.client (finalState (stopPolling .user) o.client) := fades_stopPolling _ _
  have stays : Announces (finalState (stopPolling .user) o.client) :=
    ⟨heard.1, stopped.stateCallback.trans heard.2⟩
  obtain ⟨what, after, run⟩ := disconnect_refused (w := refusing) (fun _ => ⟨_, rfl⟩) .user stays
  have leaves : Fades (finalState (stopPolling .user) o.client) after :=
    (fades_disconnect .user).of_error run
  have joinable : ((o.become (finalState (stopPolling .user) o.client)).become after).joinable = true := by
    rw [become_joinable (o := o.become (finalState (stopPolling .user) o.client))
      (stopped.enabled.trans off) leaves, become_joinable off stopped, due]
  unfold destruct meanwhile
  dsimp only
  rw [show (disconnect refusing .user).run
    (o.become (finalState (stopPolling .user) o.client)).client = .error (.exception what) after from run]
  dsimp only
  rw [joinable]
  rfl

section Sample

def acceptingAgain : World :=
  { accepting with session := { events := fun n => if n = 20 then accepting.session.events 7 else [] } }

/-- A client that has lost its session; its auto-reconnect thread has been created. -/
def abandoned : List Step :=
  [⟨accepting, .act (.setAutoReconnect true)⟩, ⟨accepting, .act .connect⟩,
    ⟨accepting, .act (.event (.connectionLost []))⟩]

/-- The thread has reconnected it, and its user wants to be told of it from now on. -/
def recovered : List Step :=
  abandoned ++ [⟨accepting, .act .autoReconnectBegin⟩, ⟨acceptingAgain, .act .autoReconnectAttempt⟩,
    ⟨accepting, .act (.setAutoReconnect false)⟩, ⟨accepting, .setConnectionStateCallback true⟩]

/-- A thread that reconnects while it is joined leaves a polling thread behind. -/
theorem reconnect_outlives_destructor :
    ¬ ∀ (o : Owned) (d : Course), o.client.autoReconnectThread = none → ¬ Announces o.client →
      destruct d o ≠ .terminated := by
  intro claim
  have survives := claim (reached {} [] abandoned)
    { world := accepting
      joining := [⟨accepting, .autoReconnectBegin⟩, ⟨acceptingAgain, .autoReconnectAttempt⟩] }
    (by decide +kernel) (fun heard => absurd heard.1 (by decide +kernel))
  exact survives (by decide +kernel)

end Sample

end Destructor

section Runs

variable {o : Owned}

structure Unasked (o : Owned) : Prop where
  off : o.client.autoReconnectEnabled = false
  nothing : reconnects o.client = (none, none, [])
  joinable : o.joinable = false

theorem Unasked.scheduled (unasked : Unasked o) : o.client.autoReconnectScheduled = none :=
  congrArg Prod.fst unasked.nothing

theorem Unasked.thread (unasked : Unasked o) : o.client.autoReconnectThread = none :=
  congrArg (·.2.1) unasked.nothing

theorem Unasked.become (unasked : Unasked o) {after : Impl}
    (off : after.autoReconnectEnabled = false) (same : reconnects after = reconnects o.client) :
    Unasked (o.become after) := by
  have nothing : reconnects after = (none, none, []) := same.trans unasked.nothing
  have scheduled : after.autoReconnectScheduled = none := congrArg Prod.fst nothing
  refine ⟨off, nothing, ?_⟩
  change (o.joinable || after.autoReconnectScheduled.isSome) = false
  rw [unasked.joinable, scheduled]
  rfl

theorem unasked_take (unasked : Unasked o) {step : Step}
    (other : step.operation ≠ .act (.setAutoReconnect true)) : Unasked (take step o) := by
  obtain ⟨w, operation⟩ := step
  have off := unasked.off
  have obeys (plain : ¬ Sets operation) : Unasked (take ⟨w, operation⟩ o) := by
    have obeys : Obeys o.client (finalState (perform w operation) o.client) := obeys_perform plain _
    exact unasked.become (obeys.enabled.trans off) (obeys.unasked off)
  cases operation with
  | act act =>
      cases act with
      | setAutoReconnect enabled =>
          cases enabled with
          | false => exact unasked.become rfl rfl
          | true => exact absurd rfl other
      | autoReconnectBegin =>
          have idle : finalState autoReconnectBegin o.client = o.client := by
            refine finalState_of_ok (a := ()) ?_
            unfold autoReconnectBegin
            rw [EStateM.run_bind, EStateM.run_get]
            dsimp only
            rw [unasked.thread, unasked.scheduled]
            rfl
          have same : take ⟨w, .act .autoReconnectBegin⟩ o =
              o.become (finalState autoReconnectBegin o.client) := rfl
          rw [same, idle]
          exact unasked.become off rfl
      | autoReconnectAttempt =>
          have idle : finalState (autoReconnectAttempt w) o.client = o.client := by
            refine finalState_of_ok (a := ()) ?_
            unfold autoReconnectAttempt
            rw [EStateM.run_bind, EStateM.run_get]
            dsimp only
            rw [unasked.thread]
            rfl
          have same : take ⟨w, .act .autoReconnectAttempt⟩ o =
              o.become (finalState (autoReconnectAttempt w) o.client) := rfl
          rw [same, idle]
          exact unasked.become off rfl
      | _ => exact obeys nofun
  | setMessageCallback present => exact unasked.become off rfl
  | setConnectionStateCallback present => exact unasked.become off rfl
  | setErrorCallback present => exact unasked.become off rfl
  | _ => exact obeys nofun

end Runs

end AeronClusterClient.Client.Destruction
