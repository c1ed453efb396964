/- module: AeronClusterClient/Client/TrackedTriples
   source: src/cluster_client.cpp (make_subscription_key, track_subscription, untrack_subscription)
   digest: When the table of tracked subscriptions is the set of triples that are tracked. -/

import AeronClusterClient.Client.Subscriptions
import AeronClusterClient.Commit.Store
import AeronClusterClient.Lib.KeyedTable

/-!
A record is stored under its topic, identifier and instance, joined by `|`. Two
triples with a `|` in one of their parts may be joined to the same text, and
the one that is tracked last then takes the place of the other.
-/

set_option autoImplicit false
set_option relaxedAutoImplicit false

namespace AeronClusterClient.Client.TrackedTriples

open Lib.Runs Lib.KeyedTable Client.State Client.Subscriptions
open Commit.Store (lastWhere lastWhere_concat)
open Config (ClusterClientConfig)
open Text (StdString ascii)

structure Triple where
  topic : StdString
  messageIdentifier : StdString
  instanceIdentifier : StdString
  deriving DecidableEq, Repr

/-- No part is empty, so that none is replaced by a default. -/
structure Triple.Given (triple : Triple) : Prop where
  topic : triple.topic ≠ []
  messageIdentifier : triple.messageIdentifier ≠ []
  instanceIdentifier : triple.instanceIdentifier ≠ []

def Triple.record (triple : Triple) (resumeStrategy : StdString) : SubscriptionRecord where
  topic := triple.topic
  messageIdentifier := triple.messageIdentifier
  resumeStrategy := resumeStrategy
  instanceIdentifier := triple.instanceIdentifier

def Triple.key (triple : Triple) : StdString :=
  makeSubscriptionKey triple.topic triple.messageIdentifier triple.instanceIdentifier

def tripleOf (record : SubscriptionRecord) : Triple :=
  ⟨record.topic, record.messageIdentifier, record.instanceIdentifier⟩

inductive Call
  | track (triple : Triple) (given : triple.Given) (resumeStrategy : StdString)
  | untrack (topic messageIdentifier : StdString)

def call : Call → Impl → Impl
  | .track triple _ resumeStrategy, c =>
      trackSubscription c triple.topic triple.messageIdentifier resumeStrategy
        triple.instanceIdentifier
  | .untrack topic messageIdentifier, c => untrackSubscription c topic messageIdentifier

def tracked (config : ClusterClientConfig) (generated : StdString) (calls : List Call) : Impl :=
  stateAfter call (Impl.construct config generated) calls

section Meaning

/-- The call tracks the triple, or it untracks its topic with its identifier or with none. -/
def Call.concerns (triple : Triple) : Call → Bool
  | .track other _ _ => other = triple
  | .untrack topic messageIdentifier =>
      topic = triple.topic ∧ (messageIdentifier = [] ∨ messageIdentifier = triple.messageIdentifier)

/-- The record of a triple that has been tracked since it was last untracked, with the strategy it
was last tracked with. -/
def latest (calls : List Call) (triple : Triple) : Option SubscriptionRecord :=
  match lastWhere (Call.concerns triple) calls with
  | some (.track _ _ resumeStrategy) => some (triple.record resumeStrategy)
  | _ => none

/-- The table holds exactly this record for each triple, and none for a triple that has none. -/
def TracksExactly (calls : List Call) (c : Impl) : Prop :=
  ∀ triple, (rows c.trackedSubscriptions).filter (fun record => tripleOf record = triple) =
    (latest calls triple).toList

/-- The call replaces no record of another triple. -/
def ReplacesNoOther (c : Impl) : Call → Prop
  | .track triple _ _ =>
      ∀ record ∈ rows c.trackedSubscriptions, recordKey record = triple.key → tripleOf record = triple
  | .untrack _ _ => True

theorem latest_concat (calls : List Call) (last : Call) (triple : Triple) :
    latest (calls ++ [last]) triple =
      if last.concerns triple then
        match last with
        | .track _ _ resumeStrategy => some (triple.record resumeStrategy)
        | .untrack _ _ => none
      else latest calls triple := by
  unfold latest
  rw [lastWhere_concat]
  by_cases concerned : last.concerns triple = true
  · rw [if_pos concerned, if_pos concerned]
    cases last with
    | track other given resumeStrategy => rfl
    | untrack topic messageIdentifier => rfl
  · rw [if_neg concerned, if_neg concerned]

theorem tripleOf_latest {calls : List Call} {triple : Triple} {record : SubscriptionRecord}
    (found : latest calls triple = some record) : tripleOf record = triple := by
  unfold latest at found
  split at found
  · cases found
    rfl
  · cases found

end Meaning

section Changes

def changeOf : Call → Change SubscriptionRecord
  | .track triple _ resumeStrategy => .put (triple.record resumeStrategy)
  | .untrack topic messageIdentifier => .drop (untracks topic messageIdentifier)

theorem subscriptionRecord_of_given {triple : Triple} (given : triple.Given) (c : Impl)
    (resumeStrategy : StdString) :
    subscriptionRecord c triple.topic triple.messageIdentifier resumeStrategy
      triple.instanceIdentifier = triple.record resumeStrategy := by
  simp [subscriptionRecord, Triple.record, given.messageIdentifier, given.instanceIdentifier]

theorem trackedSubscriptions_call (c : Impl) (made : Call) :
    (call made c).trackedSubscriptions = change recordKey (changeOf made) c.trackedSubscriptions := by
  cases made with
  | track triple given resumeStrategy =>
      have same := subscriptionRecord_of_given given c resumeStrategy
      change c.trackedSubscriptions.insert (recordKey _) _ = _
      rw [same]
      rfl
  | untrack topic messageIdentifier => rfl

theorem replacesNoOther_iff (c : Impl) (made : Call) :
    ReplacesNoOther c made ↔ KeepsApart recordKey tripleOf c.trackedSubscriptions (changeOf made) := by
  cases made with
  | track triple given resumeStrategy => exact Iff.rfl
  | untrack topic messageIdentifier => exact Iff.rfl

theorem untracks_of_tripleOf {record : SubscriptionRecord} {triple : Triple}
    (same : tripleOf record = triple) (topic messageIdentifier : StdString) :
    untracks topic messageIdentifier record =
      Call.concerns triple (.untrack topic messageIdentifier) := by
  subst same
  unfold untracks Call.concerns
  rw [Bool.eq_iff_iff, decide_eq_true_iff, Bool.and_eq_true, Bool.or_eq_true, beq_iff_eq, beq_iff_eq,
    List.isEmpty_iff, eq_comm (a := record.topic), eq_comm (a := record.messageIdentifier)]
  rfl

theorem meant_eq_latest (calls : List Call) :
    stateAfter (meant tripleOf) (fun _ => none) (calls.map changeOf) = latest calls := by
  induction calls using List.reverseRecOn with
  | nil => rfl
  | append_singleton calls last ih =>
      rw [List.map_append, stateAfter_append, ih]
      funext triple
      rw [latest_concat]
      change meant tripleOf (changeOf last) (latest calls) triple = _
      cases last with
      | track other given resumeStrategy =>
          change Function.update (latest calls) other (some (other.record resumeStrategy)) triple = _
          by_cases same : triple = other
          · subst same
            simp [Call.concerns]
          · rw [Function.update_of_ne same]
            simp [Call.concerns, Ne.symm same]
      | untrack topic messageIdentifier =>
          change (latest calls triple).filter (fun r => !untracks topic messageIdentifier r) = _
          cases found : latest calls triple with
          | none => simp
          | some record =>
              have erased := untracks_of_tripleOf (tripleOf_latest found) topic messageIdentifier
              rw [Option.filter_some, erased]
              cases Call.concerns triple (.untrack topic messageIdentifier) <;> rfl

theorem tracksExactly_iff {calls : List Call} {c : Impl} (filed : Filed recordKey c.trackedSubscriptions) :
    TracksExactly calls c ↔ Represents tripleOf c.trackedSubscriptions (latest calls) := by
  constructor
  · intro exact record
    have one := exact (tripleOf record)
    constructor
    · intro among
      have listed : record ∈ (latest calls (tripleOf record)).toList := by
        rw [← one]
        exact List.mem_filter.mpr ⟨among, decide_eq_true rfl⟩
      exact Option.mem_toList.mp listed
    · intro found
      have listed : record ∈ (rows c.trackedSubscriptions).filter
          (fun r => tripleOf r = tripleOf record) := by
        rw [one]
        exact Option.mem_toList.mpr found
      exact (List.mem_filter.mp listed).1
  · intro represents triple
    exact filter_rows filed represents triple fun r => tripleOf_latest

end Changes

section Runs

theorem coarser_recordKey (r s : SubscriptionRecord) (same : tripleOf r = tripleOf s) :
    recordKey r = recordKey s := by
  obtain ⟨topic, identifier, inst⟩ := Triple.mk.inj same
  unfold recordKey
  rw [topic, identifier, inst]

variable (config : ClusterClientConfig) (generated : StdString) (calls : List Call)

theorem trackedSubscriptions_tracked :
    (tracked config generated calls).trackedSubscriptions =
      stateAfter (change recordKey) ∅ (calls.map changeOf) :=
  stateAfter_map (fun c : Impl => c.trackedSubscriptions) trackedSubscriptions_call _ calls

theorem filed_tracked : Filed recordKey (tracked config generated calls).trackedSubscriptions := by
  rw [trackedSubscriptions_tracked]
  exact invariant_of_steps (Filed recordKey) (filed_empty recordKey) fun table made filed =>
    filed_change filed made

/-- After every call of a sequence the table is exact, if and only if no call replaces a record of
another triple. -/
theorem tracks_exactly_iff :
    (∀ first rest, calls = first ++ rest → TracksExactly first (tracked config generated first)) ↔
      Meets call ReplacesNoOther (Impl.construct config generated) calls := by
  have table := represents_iff_meets coarser_recordKey (filed_empty recordKey) represents_empty
    (calls.map changeOf)
  have view : Meets call ReplacesNoOther (Impl.construct config generated) calls ↔
      Meets (change recordKey) (KeepsApart recordKey tripleOf) ∅ (calls.map changeOf) :=
    meets_map (fun c : Impl => c.trackedSubscriptions) trackedSubscriptions_call replacesNoOther_iff
  rw [view]
  refine Iff.trans ?_ table
  have here (first : List Call) : TracksExactly first (tracked config generated first) ↔
      Represents tripleOf (stateAfter (change recordKey) ∅ (first.map changeOf))
        (stateAfter (meant tripleOf) (fun _ => none) (first.map changeOf)) := by
    rw [tracksExactly_iff (filed_tracked config generated first), trackedSubscriptions_tracked,
      meant_eq_latest]
  constructor
  · intro every first rest split
    obtain ⟨front, back, rfl, rfl, rfl⟩ := List.map_eq_append_iff.mp split
    exact (here front).mp (every front back rfl)
  · intro every first rest split
    refine (here first).mpr (every (first.map changeOf) (rest.map changeOf) ?_)
    rw [split, List.map_append]

end Runs

section Separators

def bar : UInt8 := 124

/-- Neither the topic nor the identifier has a `|`. The instance identifier may have one. -/
def Triple.Separated (triple : Triple) : Prop :=
  bar ∉ triple.topic ∧ bar ∉ triple.messageIdentifier

theorem key_eq (triple : Triple) :
    triple.key = triple.topic ++ bar :: (triple.messageIdentifier ++ bar :: triple.instanceIdentifier) := by
  unfold Triple.key makeSubscriptionKey
  simp [ascii, bar]

theorem append_separator_inj {a : UInt8} {x y behind rest : StdString} (inX : a ∉ x) (inY : a ∉ y)
    (same : x ++ a :: behind = y ++ a :: rest) : x = y ∧ behind = rest := by
  have front : x = y := by
    have taken := congrArg (List.takeWhile (· ≠ a)) same
    have all (s : StdString) (free : a ∉ s) : ∀ b ∈ s, decide (b ≠ a) = true := by
      intro b among
      exact decide_eq_true fun equal => free (equal ▸ among)
    rw [List.takeWhile_append_of_pos (all x inX), List.takeWhile_append_of_pos (all y inY)] at taken
    simpa using taken
  subst front
  exact ⟨rfl, List.tail_eq_of_cons_eq (List.append_cancel_left same)⟩

theorem key_inj {s t : Triple} (first : s.Separated) (second : t.Separated) (same : s.key = t.key) :
    s = t := by
  rw [key_eq, key_eq] at same
  obtain ⟨topic, behind⟩ := append_separator_inj first.1 second.1 same
  obtain ⟨identifier, inst⟩ := append_separator_inj first.2 second.2 behind
  obtain ⟨_, _, _⟩ := s
  obtain ⟨_, _, _⟩ := t
  rw [Triple.mk.injEq]
  exact ⟨topic, identifier, inst⟩

def Call.Separated : Call → Prop
  | .track triple _ _ => triple.Separated
  | .untrack _ _ => True

theorem meets_of_separated {c : Impl} (filed : Filed recordKey c.trackedSubscriptions)
    (kept : ∀ record ∈ rows c.trackedSubscriptions, (tripleOf record).Separated) {calls : List Call}
    (separated : ∀ made ∈ calls, made.Separated) : Meets call ReplacesNoOther c calls := by
  induction calls generalizing c with
  | nil => trivial
  | cons made calls ih =>
      obtain ⟨here, later⟩ := List.forall_mem_cons.mp separated
      have table := trackedSubscriptions_call c made
      have stillFiled : Filed recordKey (call made c).trackedSubscriptions := by
        rw [table]
        exact filed_change filed _
      refine ⟨?_, ih stillFiled (fun record among => ?_) later⟩
      · cases made with
        | track triple given resumeStrategy =>
            intro record among same
            exact key_inj (kept record among) here same
        | untrack topic messageIdentifier => trivial
      · rw [table] at among
        cases made with
        | track triple given resumeStrategy =>
            rcases (mem_rows_insert filed).mp among with rfl | ⟨old, -⟩
            · exact here
            · exact kept record old
        | untrack topic messageIdentifier => exact kept record (mem_rows_eraseIf.mp among).1

/-- A client whose topics and identifiers have no `|` loses no subscription. -/
theorem tracksExactly_of_separated (config : ClusterClientConfig) (generated : StdString)
    {calls : List Call} (separated : ∀ made ∈ calls, made.Separated) :
    TracksExactly calls (tracked config generated calls) := by
  have meets : Meets call ReplacesNoOther (Impl.construct config generated) calls :=
    meets_of_separated (filed_empty recordKey) (fun _ among => by cases among) separated
  have filed := filed_tracked config generated calls
  rw [tracksExactly_iff filed, trackedSubscriptions_tracked, ← meant_eq_latest]
  have view := (meets_map (fun c : Impl => c.trackedSubscriptions) trackedSubscriptions_call
    replacesNoOther_iff).mp meets
  exact (represents_iff_meets coarser_recordKey (filed_empty recordKey) represents_empty
    (calls.map changeOf)).mpr view _ [] (List.append_nil _).symm

end Separators

section Sample

def firstTriple : Triple := ⟨ascii "a", ascii "b|c", ascii "i"⟩

def secondTriple : Triple := ⟨ascii "a|b", ascii "c", ascii "i"⟩

/-- The second subscription takes the place of the first one. -/
theorem joined_key_loses_record :
    ¬ ∀ (config : ClusterClientConfig) (generated : StdString) (calls : List Call),
      TracksExactly calls (tracked config generated calls) := by
  intro claim
  have exact := claim {} (ascii "i")
    [.track firstTriple ⟨by decide, by decide, by decide⟩ (ascii "LATEST"),
      .track secondTriple ⟨by decide, by decide, by decide⟩ (ascii "LATEST")] firstTriple
  exact absurd exact (by decide)

end Sample

end AeronClusterClient.Client.TrackedTriples
