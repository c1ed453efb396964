/- module: AeronClusterClient/Client/AtLeastOnce
   source: src/cluster_client.cpp (handle_incoming_message, is_message_processed,
   mark_message_processed), README.md
   digest: What is marked as processed or committed has been accepted by the message callback. -/

import AeronClusterClient.Client.Delivery
import AeronClusterClient.Lib.Runs

/-!
A delivery marks and commits a message after its callback has returned. A
message whose id is marked is not handed to the callback again but it is
committed again, so that only the deliveries before it can tell that it was
accepted.
-/

set_option autoImplicit false
set_option relaxedAutoImplicit false

namespace AeronClusterClient.Client.AtLeastOnce

open Lib.Action Lib.Runs Lib.Bytes Client.State Client.Frames Client.Delivery
open Config (ClusterClientConfig)
open Sbe.Parser (ParseResult)
open Commit.Manager (CommitManager CommitOffset)
open Text (StdString ascii)

section Callbacks

variable (w : World) (result : ParseResult)

/-- What a delivery does before it comes to the callback. -/
def beforeCallback : ClientM Unit :=
  if result.isSessionEvent then handleSessionEvent w result else return ()

structure ComesTo (c mid : Impl) : Prop where
  before : (beforeCallback w result).run c = .ok () mid
  unprocessed : ¬ Redelivered result mid

/-- The message callback returns, or none is installed. -/
def CallbackReturns (c : Impl) : Prop :=
  ∃ mid, ComesTo w result c mid ∧
    (mid.messageCallback = true → returned (callUser w (.message result)) mid = some ())

def CallbackThrows (c : Impl) : Prop :=
  ∃ mid, ComesTo w result c mid ∧
    mid.messageCallback = true ∧ returned (callUser w (.message result)) mid = none

end Callbacks

section Records

structure KeepsRecords (c after : Impl) : Prop where
  processedMessages : after.processedMessages = c.processedMessages
  commitManager : after.commitManager = c.commitManager
  stored : after.stored = c.stored

instance : IsPreorder Impl KeepsRecords where
  refl _ := ⟨rfl, rfl, rfl⟩
  trans _ _ _ first rest :=
    ⟨rest.processedMessages.trans first.processedMessages,
      rest.commitManager.trans first.commitManager, rest.stored.trans first.stored⟩

theorem keepsRecords_of_disturbs {c after : Impl} (disturbs : Disturbs c after) :
    KeepsRecords c after :=
  ⟨disturbs.processedMessages, disturbs.commitManager, disturbs.stored⟩

variable {w : World} {result : ParseResult}

theorem disturbs_beforeCallback (w : World) (result : ParseResult) :
    Within Disturbs (beforeCallback w result) :=
  within_ite (disturbs_handleSessionEvent result) (within_pure _)

theorem redelivered_iff {c mid : Impl} (before : (beforeCallback w result).run c = .ok () mid) :
    Redelivered result mid ↔ Redelivered result c := by
  have disturbs := disturbs_beforeCallback w result c
  rw [finalState_of_ok before] at disturbs
  unfold Redelivered
  rw [disturbs.processedMessages]

theorem not_returns_of_throws {c : Impl} (throws : CallbackThrows w result c) :
    ¬ CallbackReturns w result c := by
  rintro ⟨mid, comes, returns⟩
  obtain ⟨mid', comes', installed, thrown⟩ := throws
  have same := comes.before.symm.trans comes'.before
  cases same
  rw [returns installed] at thrown
  cases thrown

theorem callMessageCallback_of_thrown {c : Impl} (installed : c.messageCallback = true)
    (thrown : returned (callUser w (.message result)) c ≠ some ()) :
    (callMessageCallback w result).run c = .ok false (told (.message result) c) := by
  have answered : ∃ what, (callUser w (.message result)).run c =
      .error (.exception what) (told (.message result) c) := by
    have run := callUser_run (w := w) (.message result) c
    cases outcome : w.callback c.sessionManager.looks with
    | ok u =>
        rw [outcome] at run
        exact absurd (returned_eq_some.mpr ⟨_, run⟩) thrown
    | error what =>
        rw [outcome] at run
        exact ⟨what, run⟩
  obtain ⟨what, run⟩ := answered
  unfold callMessageCallback
  rw [EStateM.run_bind, EStateM.run_get]
  dsimp only
  rw [if_pos installed]
  have body : (callUser w (.message result) >>= fun _ => return true : ClientM Bool).run c =
      .error (.exception what) (told (.message result) c) := by
    rw [EStateM.run_bind, run]
  exact catchException_of_exception body

theorem keepsRecords_processMessage {c : Impl} (unprocessed : ¬ Redelivered result c)
    (installed : c.messageCallback = true)
    (thrown : returned (callUser w (.message result)) c ≠ some ()) :
    KeepsRecords c (finalState (processMessage w result) c) := by
  have known : (!result.messageId.isEmpty && isMessageProcessed c.processedMessages result.messageId) =
      false := by
    by_contra known
    apply unprocessed
    simpa [Redelivered, isMessageProcessed] using known
  have failed := callMessageCallback_of_thrown installed thrown
  have run : (processMessage w result).run c = .ok () (told (.message result) c) := by
    unfold processMessage
    rw [EStateM.run_bind, EStateM.run_get]
    dsimp only
    rw [known, if_neg (by simp), EStateM.run_bind, failed]
    rfl
  rw [finalState_of_ok run]
  exact ⟨rfl, rfl, rfl⟩

theorem keepsRecords_handleParsedMessage {c : Impl} (unprocessed : ¬ Redelivered result c)
    (refused : ¬ CallbackReturns w result c) :
    KeepsRecords c (finalState (handleParsedMessage w result) c) := by
  change KeepsRecords c (finalState (beforeCallback w result >>= fun _ => processMessage w result) c)
  have disturbs := disturbs_beforeCallback w result c
  cases before : (beforeCallback w result).run c with
  | error raised mid =>
      rw [finalState_of_error before] at disturbs
      rw [finalState_bind_of_error before]
      exact keepsRecords_of_disturbs disturbs
  | ok u mid =>
      rw [finalState_of_ok before] at disturbs
      rw [finalState_bind_of_ok before]
      have new : ¬ Redelivered result mid := mt (redelivered_iff before).mp unprocessed
      have rejects : ¬ (mid.messageCallback = true →
          returned (callUser w (.message result)) mid = some ()) :=
        fun returns => refused ⟨mid, ⟨before, new⟩, returns⟩
      rw [Classical.not_imp] at rejects
      exact trans_of KeepsRecords (keepsRecords_of_disturbs disturbs)
        (keepsRecords_processMessage new rejects.1 rejects.2)

end Records

section Steps

/-- The message of a frame that arrives, if it parses. -/
def messageOf (incoming : Incoming) : Option ParseResult :=
  parsedMessage incoming.world incoming.mem incoming.data incoming.length

/-- The message with this id comes to its callback, which returns. -/
def Accepts (incoming : Incoming) (c : Impl) (messageId : StdString) : Prop :=
  ∃ result, messageOf incoming = some result ∧ result.messageId = messageId ∧
    CallbackReturns incoming.world result c

def Throws (incoming : Incoming) (c : Impl) : Prop :=
  ∃ result, messageOf incoming = some result ∧ CallbackThrows incoming.world result c

theorem keepsRecords_deliver {incoming : Incoming} {result : ParseResult} {c : Impl}
    (message : messageOf incoming = some result) (unprocessed : ¬ Redelivered result c)
    (refused : ¬ CallbackReturns incoming.world result c) : KeepsRecords c (deliver incoming c) := by
  obtain ⟨parsed, success⟩ := Option.filter_eq_some_iff.mp message
  have body := keepsRecords_handleParsedMessage unprocessed refused
  have same : parse incoming.world incoming.mem incoming.data incoming.length = pure result := by
    rcases parse_eq incoming.world incoming.mem incoming.data incoming.length with
      ⟨r, parsed', same⟩ | ⟨failed, -⟩
    · rw [parsed] at parsed'
      cases parsed'
      exact same
    · rw [failed] at parsed
      cases parsed
  unfold deliver handleIncomingMessage
  rw [same, pure_bind, if_pos success]
  refine trans_of KeepsRecords body (after_catchException (fun what => ?_) c)
  exact (disturbs_callErrorCallback _).mono fun _ _ => keepsRecords_of_disturbs

theorem keepsRecords_of_throws {incoming : Incoming} {c : Impl} (throws : Throws incoming c) :
    KeepsRecords c (deliver incoming c) := by
  obtain ⟨result, message, thrown⟩ := throws
  have new : ¬ Redelivered result c := by
    obtain ⟨mid, comes, -⟩ := thrown
    exact mt (redelivered_iff comes.before).mpr comes.unprocessed
  exact keepsRecords_deliver message new (not_returns_of_throws thrown)

/-- What a delivery may record, in terms of the ids that have been accepted. -/
structure RecordsOnly (accepted : StdString → Prop) (c after : Impl) : Prop where
  processedMessages : ∀ messageId ∈ after.processedMessages,
    messageId ∈ c.processedMessages ∨ accepted messageId
  commits : after.commitManager = c.commitManager ∧ after.stored = c.stored ∨
    ∃ offset : CommitOffset, accepted offset.messageId ∧
      after.commitManager = c.commitManager.commitMessage offset ∧
      after.stored = c.stored ++ [offset]

theorem recordsOnly_of_keeps {accepted : StdString → Prop} {c after : Impl}
    (keeps : KeepsRecords c after) : RecordsOnly accepted c after where
  processedMessages messageId among := by
    rw [keeps.processedMessages] at among
    exact .inl among
  commits := .inl ⟨keeps.commitManager, keeps.stored⟩

theorem recordsOnly_of_delivers {accepted : StdString → Prop} {w : World} {result : ParseResult}
    {c after : Impl} (delivers : Delivers w result c after) (yes : accepted result.messageId) :
    RecordsOnly accepted c after where
  processedMessages messageId among := by
    rcases delivers.processedMessages with same | marked
    · rw [same] at among
      exact .inl among
    · rw [marked] at among
      rcases Finset.mem_insert.mp (mem_markMessageProcessed.mp among).1 with rfl | old
      · exact .inr yes
      · exact .inl old
  commits := by
    rcases delivers.commits with same | ⟨-, manager, stored⟩
    · exact .inl same
    · exact .inr ⟨_, yes, manager, stored⟩

theorem recordsOnly_deliver {accepted : StdString → Prop} {c : Impl}
    (sound : ∀ messageId ∈ c.processedMessages, accepted messageId) (incoming : Incoming) :
    RecordsOnly (fun messageId => accepted messageId ∨ Accepts incoming c messageId) c
      (deliver incoming c) := by
  cases message : messageOf incoming with
  | none =>
      have disturbs := disturbs_handleIncomingMessage (w := incoming.world) message c
      exact recordsOnly_of_keeps (keepsRecords_of_disturbs disturbs)
  | some result =>
      have delivers := delivers_handleIncomingMessage (w := incoming.world) message c
      by_cases redelivered : Redelivered result c
      · exact recordsOnly_of_delivers delivers (.inl (sound _ redelivered.2))
      · by_cases returns : CallbackReturns incoming.world result c
        · exact recordsOnly_of_delivers delivers (.inr ⟨result, message, rfl, returns⟩)
        · exact recordsOnly_of_keeps (keepsRecords_deliver message redelivered returns)

end Steps

section Runs

/-- A frame arrives, or something else happens that marks no message. -/
inductive Step
  | delivery (incoming : Incoming)
  | between (change : Impl → Impl)
      (kept : ∀ c, (change c).processedMessages = c.processedMessages)

def take : Step → Impl → Impl
  | .delivery incoming, c => deliver incoming c
  | .between change _, c => change c

def Accepted (c : Impl) (steps : List Step) (messageId : StdString) : Prop :=
  ∃ first incoming rest, steps = first ++ .delivery incoming :: rest ∧
    Accepts incoming (stateAfter take c first) messageId

structure CommitImpliesProcessed (c : Impl) (steps : List Step) : Prop where
  processed : ∀ messageId ∈ (stateAfter take c steps).processedMessages, Accepted c steps messageId
  /-- A delivery commits nothing, or one message that this delivery or an earlier one accepted. -/
  commits : ∀ first incoming rest, steps = first ++ .delivery incoming :: rest →
    let before := stateAfter take c first
    (deliver incoming before).commitManager = before.commitManager ∧
        (deliver incoming before).stored = before.stored ∨
      ∃ offset : CommitOffset, Accepted c (first ++ [.delivery incoming]) offset.messageId ∧
        (deliver incoming before).commitManager = before.commitManager.commitMessage offset ∧
        (deliver incoming before).stored = before.stored ++ [offset]
  /-- A delivery whose callback throws adds no commit and no mark. -/
  throws : ∀ first incoming rest, steps = first ++ .delivery incoming :: rest →
    let before := stateAfter take c first
    Throws incoming before → KeepsRecords before (deliver incoming before)

theorem Accepted.extend {c : Impl} {steps : List Step} {messageId : StdString}
    (accepted : Accepted c steps messageId) (more : List Step) :
    Accepted c (steps ++ more) messageId := by
  obtain ⟨first, incoming, rest, rfl, accepts⟩ := accepted
  exact ⟨first, incoming, rest ++ more, by simp, accepts⟩

theorem accepted_concat {c : Impl} {steps : List Step} {incoming : Incoming} {messageId : StdString}
    (either : Accepted c steps messageId ∨ Accepts incoming (stateAfter take c steps) messageId) :
    Accepted c (steps ++ [.delivery incoming]) messageId := by
  rcases either with earlier | now
  · exact earlier.extend _
  · exact ⟨steps, incoming, [], rfl, now⟩

theorem accepted_of_processed {c : Impl} (fresh : c.processedMessages = ∅) (steps : List Step) :
    ∀ messageId ∈ (stateAfter take c steps).processedMessages, Accepted c steps messageId := by
  induction steps using List.reverseRecOn with
  | nil =>
      intro messageId among
      change messageId ∈ c.processedMessages at among
      rw [fresh] at among
      cases among
  | append_singleton steps step ih =>
      intro messageId among
      rw [stateAfter_append] at among
      cases step with
      | delivery incoming =>
          have records := recordsOnly_deliver ih incoming
          rcases records.processedMessages messageId among with old | accepted
          · exact (ih messageId old).extend _
          · exact accepted_concat accepted
      | between change kept =>
          change messageId ∈ (change (stateAfter take c steps)).processedMessages at among
          rw [kept] at among
          exact (ih messageId among).extend _

/-- Along every run of a new client, whatever its callbacks do, only messages that a callback has
accepted are marked or committed. -/
theorem commit_implies_processed (config : ClusterClientConfig) (generated : StdString)
    (steps : List Step) : CommitImpliesProcessed (Impl.construct config generated) steps where
  processed := accepted_of_processed rfl steps
  commits first incoming rest _ := by
    have sound := accepted_of_processed (c := Impl.construct config generated) rfl first
    rcases (recordsOnly_deliver sound incoming).commits with same | ⟨offset, accepted, commits⟩
    · exact .inl same
    · exact .inr ⟨offset, accepted_concat accepted, commits⟩
  throws _ _ _ _ := keepsRecords_of_throws

end Runs

end AeronClusterClient.Client.AtLeastOnce
