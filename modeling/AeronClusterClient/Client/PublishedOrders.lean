/- module: AeronClusterClient/Client/PublishedOrders
   source: src/order_types.cpp (to_json), src/cluster_client.cpp (publish_order)
   digest: Which differences between two orders can be told from what is published for them. -/

import AeronClusterClient.Client.Operations

/-!
The JSON form of an order says that it is a market order to be created, and
has neither a price nor a time in force. All that is left of the state of an
order is whether it is published as an update.
-/

set_option autoImplicit false
set_option relaxedAutoImplicit false

namespace AeronClusterClient.Client.PublishedOrders

open Lib.Action Client.State Client.Frames Client.Subscriptions Client.Operations
open Json (Jsoncpp plainJson)
open Orders (Order)
open Text (StdString ascii)

section Handing

def SameHanded (c after : Impl) : Prop := after.handed = c.handed

instance : IsPreorder Impl SameHanded where
  refl _ := rfl
  trans _ _ _ first rest := Eq.trans rest first

variable {w : World} {c : Impl}

theorem sameHanded_of_disturbs {α : Type} {x : ClientM α} (disturbs : Within Disturbs x) :
    Within SameHanded x :=
  disturbs.mono fun _ _ h => h.handed

theorem handed_publishOrThrow (topic messageType messageId payload headers failure : StdString)
    (c : Impl) : (finalState (publishOrThrow w topic messageType messageId payload headers failure)
      c).handed = c.handed ++ [.publish topic messageType messageId payload headers] := by
  let handing : Impl :=
    { c with handed := c.handed ++ [.publish topic messageType messageId payload headers] }
  have rest : Within SameHanded (do
      let c ← get
      if !(← callSession w (Session.Manager.publishMessage c.config w.session topic messageType
          messageId payload headers)) then
        throwException ((← get).buildPublishFailureMessage failure)) := by
    refine within_bind within_get fun c => ?_
    refine within_bind (sameHanded_of_disturbs (disturbs_callSession _)) fun sent => ?_
    exact within_ite (within_bind within_get fun _ => within_throw _) (within_pure _)
  exact rest handing

theorem handed_publishOrderOn {order : Order} (valid : order.validate = []) (topic : StdString)
    (c : Impl) : ∃ messageId headers, (finalState (publishOrderOn w topic order) c).handed =
      c.handed ++ [.publish topic order.messageType messageId (w.json.write order.toJson) headers] := by
  unfold publishOrderOn
  rw [valid]
  obtain ⟨messageId, asked, answered, same⟩ : ∃ messageId asked,
      (answer w.messageId).run c = .ok messageId asked ∧ asked.handed = c.handed := ⟨_, _, rfl, rfl⟩
  refine ⟨messageId, w.json.write (order.publishHeaders messageId), ?_⟩
  dsimp only
  rw [finalState_bind_of_ok answered, ← same, ← handed_publishOrThrow]
  have counted : Within SameHanded (do countSent; return messageId) :=
    within_bind (within_modify fun _ => rfl) fun _ => within_pure _
  exact after_bind (fun _ => counted) asked

end Handing

section Pairs

/-- In this state, a call of `publish_order` sends the pair of a message type and a payload. -/
def Publishes (w : World) (order : Order) (c : Impl) (pair : StdString × StdString) : Prop :=
  ∃ topic messageId headers, (finalState (publishOrder w order) c).handed =
    c.handed ++ [.publish topic pair.1 messageId pair.2 headers]

def pairOf (json : Jsoncpp) (order : Order) : StdString × StdString :=
  (order.messageType, json.write order.toJson)

/-- Whenever both orders are published, the pairs that are sent for them differ. -/
def ToldApart (json : Jsoncpp) (order other : Order) : Prop :=
  ∀ (w w' : World) (c c' : Impl) (pair pair' : StdString × StdString),
    w.json = json → w'.json = json → Publishes w order c pair → Publishes w' other c' pair' →
      pair ≠ pair'

variable {w : World} {order other : Order} {c : Impl} {json : Jsoncpp}

theorem finalState_publishOrder (passes : ensureConnectedOrThrow.run c = .ok () c) :
    finalState (publishOrder w order) c =
      finalState (publishOrderOn w c.config.defaultTopic order) c := by
  have read : (get : ClientM Impl).run c = .ok c c := rfl
  unfold publishOrder
  rw [finalState_bind_of_ok passes, finalState_bind_of_ok read]

theorem pair_of_publishes (valid : order.validate = []) {pair : StdString × StdString}
    (publishes : Publishes w order c pair) : pair = pairOf w.json order := by
  obtain ⟨topic, messageId, headers, record⟩ := publishes
  rcases ensureConnectedOrThrow_run c with ⟨-, run⟩ | ⟨what, run⟩
  · obtain ⟨messageId', headers', same⟩ := handed_publishOrderOn (w := w) valid c.config.defaultTopic c
    rw [finalState_publishOrder run, same] at record
    have last := List.singleton_inj.mp (List.append_cancel_left record)
    rw [Handed.publish.injEq] at last
    obtain ⟨-, type, -, payload, -⟩ := last
    exact Prod.ext type.symm payload.symm
  · unfold publishOrder at record
    rw [finalState_bind_of_error run] at record
    simp at record

def connectedClient : Impl :=
  { config := {}
    connectionState := .connected
    sessionManager :=
      { session :=
          { connected := true, ingressPublication := some { connected := true }
            sessionId := 1, leadershipTermId := 1 } } }

theorem publishes_connectedClient (w : World) (valid : order.validate = []) :
    Publishes w order connectedClient (pairOf w.json order) := by
  have passes : ensureConnectedOrThrow.run connectedClient = .ok () connectedClient := rfl
  obtain ⟨messageId, headers, record⟩ := handed_publishOrderOn (w := w) valid
    connectedClient.config.defaultTopic connectedClient
  refine ⟨connectedClient.config.defaultTopic, messageId, headers, ?_⟩
  rw [finalState_publishOrder passes]
  exact record

theorem toldApart_iff (valid : order.validate = []) (valid' : other.validate = []) :
    ToldApart json order other ↔ pairOf json order ≠ pairOf json other := by
  constructor
  · intro apart
    have first := publishes_connectedClient { json := json, order := lexicographic } valid
    have second := publishes_connectedClient { json := json, order := lexicographic } valid'
    exact apart _ _ _ _ _ _ rfl rfl first second
  · rintro apart w w' c c' pair pair' rfl same publishes publishes'
    rw [pair_of_publishes valid publishes, pair_of_publishes valid' publishes', same]
    exact apart

def IsUpdate (order : Order) : Prop := order.status = ascii "UPDATED" ∨ order.status = ascii "CANCELLED"

instance (order : Order) : Decidable (IsUpdate order) := inferInstanceAs (Decidable (_ ∨ _))

theorem messageType_eq_iff : order.messageType = other.messageType ↔ (IsUpdate order ↔ IsUpdate other) := by
  have differ : ascii "UPDATE_ORDER" ≠ ascii "CREATE_ORDER" := by decide
  unfold Order.messageType
  change (if IsUpdate order then _ else _) = (if IsUpdate other then _ else _) ↔ _
  by_cases first : IsUpdate order
  · by_cases second : IsUpdate other
    · simp [first, second]
    · simp [first, second, differ]
  · by_cases second : IsUpdate other
    · simp [first, second, differ.symm]
    · simp [first, second]

/-- Two valid orders with the same identity are told apart exactly when one of them is published as
an update and the other is not, whatever else they differ in. -/
theorem told_apart_iff (json : Jsoncpp) {order other : Order} (valid : order.validate = [])
    (valid' : other.validate = []) (identity : order.SameIdentity other) :
    ToldApart json order other ↔ ¬ (IsUpdate order ↔ IsUpdate other) := by
  have payload : order.toJson = other.toJson := order.toJson_eq identity
  rw [toldApart_iff valid valid', ← messageType_eq_iff]
  unfold pairOf
  rw [payload, Ne, Prod.mk.injEq, and_iff_left rfl]

end Pairs

section Sample

def marketOrder : Order :=
  { id := ascii "order_1", clientOrderUuid := ascii "uuid_1"
    baseToken := ascii "ETH", quoteToken := ascii "USDC", side := ascii "BUY"
    quantity := 0x3FF0000000000000, orderType := ascii "MARKET" }

def limitOrder : Order :=
  { marketOrder with limitPrice := 0x40A9000000000000, orderType := ascii "LIMIT" }

def cancelledOrder : Order := { limitOrder with status := ascii "CANCELLED" }

theorem told_apart_iff_sample :
    ToldApart plainJson limitOrder cancelledOrder ↔ ¬ (IsUpdate limitOrder ↔ IsUpdate cancelledOrder) :=
  told_apart_iff plainJson (by decide) (by decide) ⟨rfl, rfl, rfl, rfl, rfl, rfl, rfl, rfl⟩

/-- A limit order is published as the market order. -/
theorem limit_order_published_as_market :
    ¬ ∀ (json : Jsoncpp) (order other : Order), order.validate = [] → other.validate = [] →
      order.SameIdentity other →
      order.orderType ≠ other.orderType ∨ order.limitPrice ≠ other.limitPrice ∨
        order.stopPrice ≠ other.stopPrice ∨ order.timeInForce ≠ other.timeInForce ∨
        order.status ≠ other.status →
      ToldApart json order other := by
  intro claim
  have apart := claim plainJson marketOrder limitOrder (by decide) (by decide)
    ⟨rfl, rfl, rfl, rfl, rfl, rfl, rfl, rfl⟩ (.inl (by decide))
  rw [toldApart_iff (by decide) (by decide)] at apart
  exact apart rfl

end Sample

end AeronClusterClient.Client.PublishedOrders
