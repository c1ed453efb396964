/- module: AeronClusterClient/Client/Delivery
   source: src/cluster_client.cpp (handle_incoming_message, extract_topic_from_message,
   should_skip_auto_commit, is_message_processed, mark_message_processed)
   digest: The delivery of one egress message: callback, deduplication and auto-commit. -/

import AeronClusterClient.Client.Subscriptions

set_option autoImplicit false
set_option relaxedAutoImplicit false

namespace AeronClusterClient.Client.Delivery

open Lib.Action Lib.Bytes Lib.LittleEndian Lib.Unordered Client.State Client.Frames
open Client.Subscriptions
open Sbe.Parser (ParseResult parseMessage)
open Commit.Manager (CommitOffset)
open Json (Jsoncpp Value isMember member asString)
open Text (StdString ascii contains startsWith)

section Topics

variable (json : Jsoncpp)

/-- Parse a text that is not empty and search it; an exception counts as finding nothing. -/
def findTopic (text : StdString) (search : Value → Except StdString (Option StdString)) :
    Option StdString :=
  if text.isEmpty then none
  else
    match json.parse text with
    | .ok (some root) =>
        match search root with
        | .ok topic => topic
        | .error _ => none
    | _ => none

def topicOfHeaders (root : Value) : Except StdString (Option StdString) := do
  if ← isMember root (ascii "topic") then
    return some (← asString json (member root (ascii "topic")))
  return none

def topicOfPayload (root : Value) : Except StdString (Option StdString) := do
  if ← isMember root (ascii "topic") then
    return some (← asString json (member root (ascii "topic")))
  if ← isMember root (ascii "message") then
    let message := member root (ascii "message")
    if ← isMember message (ascii "topic") then
      return some (← asString json (member message (ascii "topic")))
  return none

variable (order : Enumeration StdString)

def extractTopicFromMessage (subscribedTopics : Finset StdString) (result : ParseResult) :
    StdString :=
  match findTopic json result.headers (topicOfHeaders json) with
  | some topic => topic
  | none =>
      match findTopic json result.payload (topicOfPayload json) with
      | some topic => topic
      | none => (order.begin subscribedTopics).getD (ascii "default")

def skippedTypes : List StdString :=
  [ascii "acknowledgment", ascii "acknowledgment_legacy", ascii "Acknowledgment",
    ascii "Acknowledgment_legacy", ascii "COMMIT_RESPONSE", ascii "SUBSCRIBE"]

def shouldSkipAutoCommit (subscribedTopics : Finset StdString) (result : ParseResult) : Bool :=
  if result.messageType ∈ skippedTypes then true
  else if !result.messageId.isEmpty && startsWith result.messageId (ascii "ack_") then true
  else
    let topic := extractTopicFromMessage json order subscribedTopics result
    if topic = ascii "_ack" ∨ topic = ascii "_subscriptions" then true
    else if topic = ascii "_control" then
      !(result.messageType = ascii "REPLAY_COMPLETE" ||
        contains result.payload (ascii "REPLAY_COMPLETE"))
    else result.payload.isEmpty

end Topics

section Deduplication

def isMessageProcessed (processedMessages : Finset StdString) (messageId : StdString) : Bool :=
  messageId ∈ processedMessages

/-- Insert the id; beyond 1000 entries, erase the first hundred of an iteration. -/
def markMessageProcessed (order : Enumeration StdString) (processedMessages : Finset StdString)
    (messageId : StdString) : Finset StdString :=
  let processedMessages := insert messageId processedMessages
  if 1000 < processedMessages.card then
    processedMessages \ order.front processedMessages 100
  else processedMessages

theorem mem_markMessageProcessed {order : Enumeration StdString} {processedMessages : Finset StdString}
    {messageId other : StdString} :
    other ∈ markMessageProcessed order processedMessages messageId ↔
      other ∈ insert messageId processedMessages ∧
        (1000 < (insert messageId processedMessages).card →
          other ∉ order.front (insert messageId processedMessages) 100) := by
  unfold markMessageProcessed
  dsimp only
  split
  · rename_i full
    rw [Finset.mem_sdiff]
    exact and_congr_right fun _ => ⟨fun kept _ => kept, fun kept => kept full⟩
  · rename_i room
    exact ⟨fun known => ⟨known, fun full => absurd full room⟩, fun known => known.1⟩

end Deduplication

section Handling

variable (w : World)

/-- The offset that an auto-commit of the message stores. The identifier is the one kept
for the topic, and otherwise the client id. -/
def autoCommitOffset (c : Impl) (result : ParseResult) : CommitOffset :=
  let topic := extractTopicFromMessage w.json w.order c.subscribedTopics result
  { topic := topic
    messageIdentifier := commitIdentifier c.subscriptions topic
    messageId := result.messageId
    timestampNanos := unsigned 8 result.timestamp
    sequenceNumber := result.sequenceNumber }

def callMessageCallback (result : ParseResult) : ClientM Bool := do
  if (← get).messageCallback then
    catchException (do
        callUser w (.message result)
        return true)
      (fun _ => return false)
  else return true

def autoCommit (result : ParseResult) : ClientM Unit := do
  let c ← get
  if c.config.enableAutoCommit then commitMessage w (autoCommitOffset w c result)

/-- The commit path of a message whose callback succeeded; a redelivery is committed again. -/
def acknowledge (alreadyProcessed : Bool) (result : ParseResult) : ClientM Unit := do
  modify (fun c =>
    if alreadyProcessed then c
    else
      { c with
        processedMessages := markMessageProcessed w.order c.processedMessages result.messageId })
  autoCommit w result

def processMessage (result : ParseResult) : ClientM Unit := do
  let c ← get
  let alreadyProcessed :=
    !result.messageId.isEmpty && isMessageProcessed c.processedMessages result.messageId
  let shouldSkip := shouldSkipAutoCommit w.json w.order c.subscribedTopics result
  let callbackSuccess ← (if alreadyProcessed then return true else callMessageCallback w result)
  if callbackSuccess && !shouldSkip && !result.messageId.isEmpty then
    acknowledge w alreadyProcessed result

/-- Session events are handed to the session manager first. -/
def handleParsedMessage (result : ParseResult) : ClientM Unit := do
  (if result.isSessionEvent then handleSessionEvent w result else return ())
  processMessage w result

def parse (mem : Memory) (data length : Nat) : ClientM ParseResult :=
  match (parseMessage mem w.json data length).run [] with
  | .ok result _ => return result
  | .error what _ => throwException what

def handleIncomingMessage (mem : Memory) (data length : Nat) : ClientM Unit :=
  catchException (do
      let result ← parse w mem data length
      if result.success then handleParsedMessage w result)
    (fun what => callErrorCallback w (ascii "Message handling error: " ++ what))

end Handling

section Specification

variable {w : World} {result : ParseResult}

def Committable (w : World) (result : ParseResult) (c : Impl) : Prop :=
  c.config.enableAutoCommit = true ∧
    shouldSkipAutoCommit w.json w.order c.subscribedTopics result = false ∧ result.messageId ≠ []

def Redelivered (result : ParseResult) (c : Impl) : Prop :=
  result.messageId ≠ [] ∧ result.messageId ∈ c.processedMessages

/-- What a delivery may do to a client: at most one call of the message callback, unless
the message is a redelivery, at most one mark, and at most one commit, whose offset the
state before the delivery determines. -/
structure Delivers (w : World) (result : ParseResult) (c after : Impl) : Prop
    extends Quiet c after where
  messages : after.messages = c.messages ∨
    ¬ Redelivered result c ∧ after.messages = c.messages ++ [result]
  processedMessages : after.processedMessages = c.processedMessages ∨
    after.processedMessages = markMessageProcessed w.order c.processedMessages result.messageId
  commits : after.commitManager = c.commitManager ∧ after.stored = c.stored ∨
    Committable w result c ∧
      after.commitManager = c.commitManager.commitMessage (autoCommitOffset w c result) ∧
      after.stored = c.stored ++ [autoCommitOffset w c result]

private theorem sameTables (w : World) (result : ParseResult) {c d : Impl} (same : c.subscriptions = d.subscriptions) :
    autoCommitOffset w c result = autoCommitOffset w d result ∧
      (Committable w result c ↔ Committable w result d) := by
  have fields := same
  simp only [Impl.subscriptions, Subscriptions.mk.injEq] at fields
  obtain ⟨config, identifiers, topics, -⟩ := fields
  unfold autoCommitOffset Committable
  rw [same, config, topics]
  exact ⟨rfl, Iff.rfl⟩

theorem Delivers.after_disturbs {c mid after : Impl} (first : Disturbs c mid)
    (rest : Delivers w result mid after) : Delivers w result c after where
  toQuiet := first.quiet.trans rest.toQuiet
  messages := by
    have delivered := rest.messages
    unfold Redelivered at delivered ⊢
    rwa [first.messages, first.processedMessages] at delivered
  processedMessages := by
    have marked := rest.processedMessages
    rwa [first.processedMessages] at marked
  commits := by
    have committed := rest.commits
    have tables := sameTables w result first.subscriptions
    rwa [first.commitManager, first.stored, tables.1, tables.2] at committed

theorem Delivers.before_disturbs {c mid after : Impl} (first : Delivers w result c mid)
    (rest : Disturbs mid after) : Delivers w result c after where
  toQuiet := first.toQuiet.trans rest.quiet
  messages := by
    rw [rest.messages]
    exact first.messages
  processedMessages := by
    rw [rest.processedMessages]
    exact first.processedMessages
  commits := by
    rw [rest.commitManager, rest.stored]
    exact first.commits

theorem delivers_of_disturbs {c after : Impl} (disturbs : Disturbs c after) :
    Delivers w result c after :=
  .after_disturbs disturbs
    ⟨refl_of Quiet after, .inl rfl, .inl rfl, .inl ⟨rfl, rfl⟩⟩

/-- The callback is called at most once, and all else is as for a notification. -/
structure CallsBack (result : ParseResult) (c after : Impl) : Prop extends Quiet c after where
  messages : after.messages = c.messages ∨ after.messages = c.messages ++ [result]
  processedMessages : after.processedMessages = c.processedMessages
  commitManager : after.commitManager = c.commitManager
  stored : after.stored = c.stored

theorem callsBack_of_disturbs {c after : Impl} (disturbs : Disturbs c after) :
    CallsBack result c after :=
  ⟨disturbs.quiet, .inl disturbs.messages, disturbs.processedMessages, disturbs.commitManager,
    disturbs.stored⟩

theorem callsBack_callMessageCallback : Within (CallsBack result) (callMessageCallback w result) := by
  have called : Within (CallsBack result) (callUser w (.message result)) := by
    unfold callUser
    refine within_bind_comp (Q := CallsBack result) (S := Disturbs) (within_modify fun c => ?_)
      (fun _ => within_bind (disturbs_answer _) within_orThrow) (fun _ _ h => h) ?_
    · refine ⟨⟨⟨.refl, id, rfl⟩, fun _ => rfl⟩, .inr ?_, rfl, rfl, rfl⟩
      simp [Impl.messages, Called.message?]
    · intro s t u first rest
      refine ⟨first.toQuiet.trans rest.quiet, ?_,
        rest.processedMessages.trans first.processedMessages,
        rest.commitManager.trans first.commitManager, rest.stored.trans first.stored⟩
      rw [rest.messages]
      exact first.messages
  unfold callMessageCallback
  refine within_get_bind fun s => ?_
  split
  · refine within_catchException_comp (Q := CallsBack result) (S := Eq) ?_ (fun _ _ => rfl)
      (fun _ _ h => h) (fun _ _ _ first same => same ▸ first) s
    exact within_bind_comp (S := Eq) called (fun _ _ => rfl) (fun _ _ h => h)
      (fun _ _ _ first same => same ▸ first)
  · exact callsBack_of_disturbs (refl_of Disturbs s)

/-- What an auto-commit may do: nothing but at most one commit. -/
structure Commits (w : World) (result : ParseResult) (c after : Impl) : Prop
    extends Quiet c after where
  messages : after.messages = c.messages
  processedMessages : after.processedMessages = c.processedMessages
  commits : after.commitManager = c.commitManager ∧ after.stored = c.stored ∨
    c.config.enableAutoCommit = true ∧
      after.commitManager = c.commitManager.commitMessage (autoCommitOffset w c result) ∧
      after.stored = c.stored ++ [autoCommitOffset w c result]

theorem commits_autoCommit (result : ParseResult) : Within (Commits w result) (autoCommit w result) := by
  unfold autoCommit
  refine within_get_bind fun c => ?_
  split
  · rename_i enabled
    have stores := stores_commitMessage (w := w) (autoCommitOffset w c result) c
    exact ⟨stores.toQuiet, stores.messages, stores.processedMessages,
      .inr ⟨enabled, stores.commitManager, stores.stored⟩⟩
  · exact ⟨refl_of Quiet c, rfl, rfl, .inl ⟨rfl, rfl⟩⟩

/-- What the commit path may do: at most one mark and at most one commit. -/
structure Acknowledges (w : World) (result : ParseResult) (c after : Impl) : Prop
    extends Quiet c after where
  messages : after.messages = c.messages
  processedMessages : after.processedMessages = c.processedMessages ∨
    after.processedMessages = markMessageProcessed w.order c.processedMessages result.messageId
  commits : after.commitManager = c.commitManager ∧ after.stored = c.stored ∨
    c.config.enableAutoCommit = true ∧
      after.commitManager = c.commitManager.commitMessage (autoCommitOffset w c result) ∧
      after.stored = c.stored ++ [autoCommitOffset w c result]

theorem acknowledges_acknowledge (alreadyProcessed : Bool) :
    Within (Acknowledges w result) (acknowledge w alreadyProcessed result) := by
  intro c
  cases alreadyProcessed with
  | true =>
      have rest := commits_autoCommit (w := w) result c
      exact ⟨rest.toQuiet, rest.messages, .inl rest.processedMessages, rest.commits⟩
  | false =>
      have rest := commits_autoCommit (w := w) result
        { c with
          processedMessages := markMessageProcessed w.order c.processedMessages result.messageId }
      exact ⟨⟨⟨rest.polling, rest.connectionState, rest.subscriptions⟩, rest.handed⟩, rest.messages,
        .inr rest.processedMessages, rest.commits⟩

theorem CallsBack.delivers {c mid : Impl} (called : CallsBack result c mid)
    (once : Redelivered result c → mid = c) : Delivers w result c mid where
  toQuiet := called.toQuiet
  messages := by
    by_cases redelivered : Redelivered result c
    · exact .inl (by rw [once redelivered])
    · exact called.messages.imp id fun appended => ⟨redelivered, appended⟩
  processedMessages := .inl called.processedMessages
  commits := .inl ⟨called.commitManager, called.stored⟩

theorem Delivers.of_acknowledges {c mid after : Impl} (called : CallsBack result c mid)
    (once : Redelivered result c → mid = c)
    (allowed : shouldSkipAutoCommit w.json w.order c.subscribedTopics result = false ∧
      result.messageId ≠ [])
    (acknowledged : Acknowledges w result mid after) : Delivers w result c after where
  toQuiet := called.toQuiet.trans acknowledged.toQuiet
  messages := by
    rw [acknowledged.messages]
    exact (called.delivers (w := w) once).messages
  processedMessages := by
    have marked := acknowledged.processedMessages
    rwa [called.processedMessages] at marked
  commits := by
    have committed := acknowledged.commits
    have tables := (sameTables w result called.subscriptions).1
    have enabled : mid.config.enableAutoCommit = c.config.enableAutoCommit :=
      congrArg (·.config.enableAutoCommit) called.subscriptions
    rw [called.commitManager, called.stored, tables, enabled] at committed
    exact committed.imp id fun h => ⟨⟨h.1, allowed.1, allowed.2⟩, h.2⟩

theorem delivers_processMessage : Within (Delivers w result) (processMessage w result) := by
  unfold processMessage
  refine within_get_bind fun c => ?_
  dsimp only
  generalize known : (!result.messageId.isEmpty &&
    isMessageProcessed c.processedMessages result.messageId) = alreadyProcessed
  have redelivered : Redelivered result c → alreadyProcessed = true := by
    rw [← known]
    simp [Redelivered, isMessageProcessed]
  refine within_bind_comp (R := fun s u => s = c → Delivers w result s u)
    (Q := fun s t => CallsBack result s t ∧ (alreadyProcessed = true → t = s))
    (S := fun t u => u = t ∨ (shouldSkipAutoCommit w.json w.order c.subscribedTopics result = false ∧
      result.messageId ≠ []) ∧ Acknowledges w result t u) ?_ (fun callbackSuccess => ?_) ?_ ?_ c rfl
  · cases alreadyProcessed with
    | true => exact fun s => ⟨callsBack_of_disturbs (refl_of Disturbs s), fun _ => rfl⟩
    | false => exact fun s => ⟨callsBack_callMessageCallback s, by simp⟩
  · intro t
    split
    · rename_i committed
      refine .inr ⟨?_, acknowledges_acknowledge _ t⟩
      simpa using (Bool.and_eq_true_iff.mp committed).imp (fun h => (Bool.and_eq_true_iff.mp h).2) id
    · exact .inl rfl
  · rintro s t ⟨called, once⟩ rfl
    exact called.delivers fun again => once (redelivered again)
  · rintro s t u ⟨called, once⟩ (rfl | ⟨allowed, acknowledged⟩) rfl
    · exact called.delivers fun again => once (redelivered again)
    · exact .of_acknowledges called (fun again => once (redelivered again)) allowed acknowledged

theorem delivers_handleParsedMessage :
    Within (Delivers w result) (handleParsedMessage w result) := by
  unfold handleParsedMessage
  exact within_bind_comp (Q := Disturbs) (S := Delivers w result)
    (within_ite (disturbs_handleSessionEvent result) (within_pure _))
    (fun _ => delivers_processMessage) (fun _ _ => delivers_of_disturbs)
    (fun _ _ _ => Delivers.after_disturbs)

/-- The result of the parser on a frame, if it reports success. -/
def parsedMessage (w : World) (mem : Memory) (data length : Nat) : Option ParseResult :=
  (Sbe.Parser.parsed w.json mem data length).filter ParseResult.success

theorem parse_eq (w : World) (mem : Memory) (data length : Nat) :
    (∃ r, Sbe.Parser.parsed w.json mem data length = some r ∧ parse w mem data length = pure r) ∨
      Sbe.Parser.parsed w.json mem data length = none ∧
        ∃ what, parse w mem data length = throwException what := by
  unfold Sbe.Parser.parsed returned parse
  cases (parseMessage mem w.json data length).run [] with
  | ok r reads => exact .inl ⟨r, rfl, rfl⟩
  | error what reads => exact .inr ⟨rfl, what, rfl⟩

theorem disturbs_handleIncomingMessage {mem : Memory} {data length : Nat}
    (refused : parsedMessage w mem data length = none) :
    Within Disturbs (handleIncomingMessage w mem data length) := by
  unfold handleIncomingMessage
  refine within_catchException ?_ fun what => disturbs_callErrorCallback _
  rcases parse_eq w mem data length with
    ⟨r, parsed, same⟩ | ⟨parsed, what, same⟩
  · rw [same, pure_bind]
    have failed : r.success = false := by simpa [parsedMessage, parsed] using refused
    rw [failed]
    exact within_pure _
  · rw [same]
    change Within Disturbs (throwException what : ClientM Unit)
    exact within_throw _

theorem delivers_handleIncomingMessage {mem : Memory} {data length : Nat}
    (accepted : parsedMessage w mem data length = some result) :
    Within (Delivers w result) (handleIncomingMessage w mem data length) := by
  obtain ⟨parsed, success⟩ := Option.filter_eq_some_iff.mp accepted
  rcases parse_eq w mem data length with
    ⟨r, parsed', same⟩ | ⟨refused, -⟩
  · obtain rfl : r = result := Option.some.inj (parsed'.symm.trans parsed)
    unfold handleIncomingMessage
    refine within_catchException_comp (Q := Delivers w r) (S := Disturbs) ?_
      (fun what => disturbs_callErrorCallback _) (fun _ _ h => h)
      (fun _ _ _ first rest => first.before_disturbs rest)
    rw [same, pure_bind, if_pos success]
    exact delivers_handleParsedMessage
  · rw [refused] at parsed
    cases parsed

theorem quiet_handleIncomingMessage (mem : Memory) (data length : Nat) :
    Within Quiet (handleIncomingMessage w mem data length) := by
  cases outcome : parsedMessage w mem data length with
  | none => exact quiet_of_disturbs (disturbs_handleIncomingMessage outcome)
  | some result => exact (delivers_handleIncomingMessage outcome).mono fun _ _ h => h.toQuiet

theorem stored_by_delivery {mem : Memory} {data length : Nat} {c : Impl} {offset : CommitOffset}
    (stored : (finalState (handleIncomingMessage w mem data length) c).stored = c.stored ++ [offset]) :
    ∃ result, parsedMessage w mem data length = some result ∧ Committable w result c ∧
      offset = autoCommitOffset w c result := by
  cases outcome : parsedMessage w mem data length with
  | none =>
      rw [(disturbs_handleIncomingMessage outcome c).stored] at stored
      simp at stored
  | some result =>
      rcases (delivers_handleIncomingMessage outcome c).commits with ⟨-, same⟩ | ⟨allowed, -, new⟩
      · rw [same] at stored
        simp at stored
      · rw [new] at stored
        exact ⟨result, rfl, allowed, (List.singleton_inj.mp (List.append_cancel_left stored)).symm⟩

end Specification

section Deliveries

/-- A frame that arrives, with the answers the world gives during its delivery. -/
structure Incoming where
  world : World
  mem : Memory
  data : Nat
  length : Nat

def deliver (incoming : Incoming) (c : Impl) : Impl :=
  finalState (handleIncomingMessage incoming.world incoming.mem incoming.data incoming.length) c

theorem commits_deliver (incoming : Incoming) (c : Impl) :
    ((deliver incoming c).commitManager = c.commitManager ∧
        (deliver incoming c).stored = c.stored) ∨
      ∃ offset, (deliver incoming c).commitManager = c.commitManager.commitMessage offset ∧
        (deliver incoming c).stored = c.stored ++ [offset] := by
  cases outcome : parsedMessage incoming.world incoming.mem incoming.data incoming.length with
  | none =>
      have same := disturbs_handleIncomingMessage outcome c
      exact .inl ⟨same.commitManager, same.stored⟩
  | some result =>
      exact (delivers_handleIncomingMessage outcome c).commits.imp id fun commits =>
        ⟨_, commits.2⟩

end Deliveries

end AeronClusterClient.Client.Delivery
