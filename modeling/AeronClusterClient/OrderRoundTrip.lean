/- module: AeronClusterClient/OrderRoundTrip
   source: src/order_types.cpp (to_json, from_json)
   digest: What the reader of orders makes of an order that was written. -/

import AeronClusterClient.Orders

/-!
The writer nests an order in the envelope of an exchange message, and the
reader looks for flat members that the envelope does not have. Every field
takes its default.
-/

set_option autoImplicit false
set_option relaxedAutoImplicit false

namespace AeronClusterClient.OrderRoundTrip

open Json (Jsoncpp Value ReadsBack compactJson readsBack_compactJson isMember_of_absent get_of_absent
  getInt64_of_absent getString_of_absent)
open Orders Orders.Order
open Text (StdString ascii)

section Blank

variable {json : Jsoncpp} {reader : Reader} {text : StdString}
variable {members : List (StdString × Value)} {key : StdString}

theorem getDouble_of_absent (absent : members.any (fun m => m.1 == key) = false) (default : Double) :
    getDouble (.object members) key default = .ok default := by
  unfold getDouble
  rw [get_of_absent absent]
  rfl

theorem getOptional_of_absent {α : Type} (absent : members.any (fun m => m.1 == key) = false)
    (read : Value → Except StdString α) : getOptional (.object members) key read = .ok none := by
  unfold getOptional
  rw [isMember_of_absent absent]
  rfl

theorem readMetadata_of_absent (absent : members.any (fun m => m.1 == ascii "metadata") = false) :
    readMetadata json (.object members) = .ok ∅ := by
  unfold readMetadata
  rw [isMember_of_absent absent]
  rfl

def keysRead : List StdString := [
  ascii "id", ascii "base_token", ascii "quote_token", ascii "side", ascii "quantity",
  ascii "order_type", ascii "quantity_token", ascii "limit_price", ascii "limit_price_token",
  ascii "customer_id", ascii "user_id", ascii "account_id", ascii "status", ascii "timestamp",
  ascii "updated_at", ascii "client_order_uuid", ascii "time_in_force", ascii "request_source",
  ascii "request_channel", ascii "base_token_usd_rate", ascii "quote_token_usd_rate",
  ascii "stop_price", ascii "expiry_timestamp", ascii "metadata"]

/-- The order whose fields all have the defaults of the reader. -/
def blank : Order := { quoteTokenUsdRate := doubleOfNat 1 }

theorem fromJson_of_absent (parsed : reader.parse text = .ok (some (.object members)))
    (absent : ∀ key ∈ keysRead, members.any (fun m => m.1 == key) = false) :
    fromJson json reader text = .ok blank := by
  simp only [keysRead, List.forall_mem_cons] at absent
  unfold fromJson
  rw [parsed]
  simp only [bind, Except.bind, getString_of_absent, getDouble_of_absent, getInt64_of_absent,
    getOptional_of_absent, readMetadata_of_absent, absent]
  rfl

end Blank

section RoundTrip

/-- The fields that an order should keep. -/
structure Keeps (order back : Order) : Prop where
  id : back.id = order.id
  baseToken : back.baseToken = order.baseToken
  quoteToken : back.quoteToken = order.quoteToken
  side : back.side = order.side
  quantity : back.quantity = order.quantity
  limitPrice : back.limitPrice = order.limitPrice
  clientOrderUuid : back.clientOrderUuid = order.clientOrderUuid

/-- An order is written, and read again with these fields. -/
def RoundTrips (json : Jsoncpp) (reader : Reader) (order : Order) : Prop :=
  ∃ back, fromJson json reader (json.write order.toJson) = .ok back ∧ Keeps order back

variable {json : Jsoncpp} {reader : Reader} {order : Order}

def keysWritten : List StdString := [ascii "message", ascii "msg_type", ascii "uuid"]

theorem readBack_toJson (order : Order) :
    ∃ members, order.toJson.readBack = .object members ∧ members.map Prod.fst = keysWritten :=
  ⟨_, rfl, rfl⟩

theorem disjoint_keys : ∀ key ∈ keysRead, keysWritten.any (· == key) = false := by
  decide

/-- Whatever order was written, the blank order is read. -/
theorem fromJson_toJson (reads : ReadsBack reader.parse json.write order.toJson) :
    fromJson json reader (json.write order.toJson) = .ok blank := by
  obtain ⟨members, top, keys⟩ := readBack_toJson order
  have parsed : reader.parse (json.write order.toJson) = .ok (some (.object members)) := by
    rw [reads, top]
  have absent : ∀ key ∈ keysRead, members.any (fun m => m.1 == key) = false := by
    intro key read
    have none := disjoint_keys key read
    rw [← keys, List.any_map] at none
    exact none
  exact fromJson_of_absent parsed absent

/-- No valid order comes back: at least its id is lost. -/
theorem never_round_trips (json : Jsoncpp) (reader : Reader) {order : Order}
    (valid : order.validate = []) (reads : ReadsBack reader.parse json.write order.toJson) :
    ¬ RoundTrips json reader order := by
  rintro ⟨back, returned, keeps⟩
  rw [fromJson_toJson reads, Except.ok.injEq] at returned
  have lost : order.id = [] := by rw [← keeps.id, ← returned]; rfl
  have check : (order.id.isEmpty, ascii "Order ID is required") ∈ order.checks := List.mem_cons_self
  have named : order.id.isEmpty = false := order.validate_eq_nil_iff.mp valid _ check
  simp [lost] at named

end RoundTrip

section Sample

def limitOrder : Order :=
  { id := ascii "test-order-123", clientOrderUuid := ascii "uuid_1"
    baseToken := ascii "ETH", quoteToken := ascii "USDC", side := ascii "BUY"
    quantity := 0x3FF8000000000000, quantityToken := ascii "ETH"
    limitPrice := 0x40AB580000000000, limitPriceToken := ascii "USDC", accountId := 12345 }

/-- jsoncpp on this order, whose only double is its quantity. -/
def orderJson : Jsoncpp := compactJson (fun _ => ascii "1.5") limitOrder.toJson

def orderReader : Reader where
  parse := orderJson.parse
  formattedErrorMessages _ := []

theorem never_round_trips_sample : ¬ RoundTrips orderJson orderReader limitOrder :=
  never_round_trips orderJson orderReader (by decide) (readsBack_compactJson _ _)

/-- The limit order is read as an order for nothing. -/
theorem limit_order_comes_back_blank :
    ¬ ∀ (json : Jsoncpp) (reader : Reader) (order : Order), order.validate = [] →
      ReadsBack reader.parse json.write order.toJson → RoundTrips json reader order := by
  intro claim
  have reads := readsBack_compactJson (fun _ => ascii "1.5") limitOrder.toJson
  obtain ⟨back, returned, keeps⟩ := claim orderJson orderReader limitOrder (by decide) reads
  rw [fromJson_toJson reads, Except.ok.injEq] at returned
  have lost : blank.id = limitOrder.id := by rw [returned, keeps.id]
  exact absurd lost (by decide)

end Sample

end AeronClusterClient.OrderRoundTrip
