/- module: AeronClusterClient/Orders
   source: src/order_types.cpp, include/aeron_cluster/order_types.hpp
   digest: Orders: their validation and the JSON value that is published for them. -/

import AeronClusterClient.Json
import Mathlib.Data.List.AList

set_option autoImplicit false
set_option relaxedAutoImplicit false

namespace AeronClusterClient.Orders

open Json (Jsoncpp Value asInt64 asString getInt64 getString isMember isObject member)
open Text (StdString ascii stdToString)

section Doubles

/-- A `double`, by its bit pattern. -/
abbrev Double := UInt64

/-- `x <= 0.0`: both zeros and every number with a sign bit, but no NaN. -/
def nonPositive (x : Double) : Bool :=
  x == 0 || (0x8000000000000000 ≤ x && x ≤ 0xFFF0000000000000)

/-- The nearest natural number to `n / d`, and the even one of two. -/
def roundHalfEven (n d : Nat) : Nat :=
  let q := n / d
  if d < 2 * (n % d) ∨ (2 * (n % d) = d ∧ q % 2 = 1) then q + 1 else q

/-- `std::to_string` of a `double`: the format `%f`, with six decimals. -/
def stdToStringDouble (x : Double) : StdString :=
  let exponent := x.toNat / 2 ^ 52 % 2 ^ 11
  let fraction := x.toNat % 2 ^ 52
  let magnitude : StdString :=
    if exponent = 2047 then if fraction = 0 then ascii "inf" else ascii "nan"
    else
      -- a subnormal number has the smallest exponent and no leading one
      let scaled := if exponent = 0 then fraction * 2 else (2 ^ 52 + fraction) * 2 ^ exponent
      let millionths := roundHalfEven (scaled * 10 ^ 6) (2 ^ 1075)
      let decimals := stdToString (millionths % 10 ^ 6)
      stdToString (millionths / 10 ^ 6) ++ ascii "." ++
        List.replicate (6 - decimals.length) 48 ++ decimals
  if 2 ^ 63 ≤ x.toNat then ascii "-" ++ magnitude else magnitude

/-- The double nearest to a natural number. -/
def doubleOfNat (n : Nat) : Double :=
  if n = 0 then 0
  else
    let exponent := Nat.log2 n
    let mantissa :=
      if exponent ≤ 52 then n * 2 ^ (52 - exponent) else roundHalfEven n (2 ^ (exponent - 52))
    -- the leading one of the mantissa, or its overflow, adds to the exponent
    UInt64.ofNat ((exponent + 1022) * 2 ^ 52 + mantissa)

def doubleOfInt (i : Int) : Double :=
  if i < 0 then 0x8000000000000000 + doubleOfNat i.natAbs else doubleOfNat i.natAbs

/-- `Json::Value::asDouble`. -/
def asDouble : Value → Except StdString Double
  | .null => .ok 0
  | .bool b => .ok (doubleOfNat b.toNat)
  | .int i => .ok (doubleOfInt i)
  | .uint n => .ok (doubleOfNat n)
  | .real bits => .ok bits
  | .string _ | .array _ | .object _ => .error (ascii "Value is not convertible to double.")

/-- `root.get(key, default).asDouble()`. -/
def getDouble (root : Value) (key : StdString) (default : Double) : Except StdString Double := do
  asDouble (← Json.get root key (.real default))

example : stdToStringDouble 0xBFF8000000000000 = ascii "-1.500000" := by decide +kernel

end Doubles

/-- The fields of `Order` that validation, publishing and the two JSON conversions use. -/
structure Order where
  id : StdString := []
  clientOrderUuid : StdString := []
  baseToken : StdString := []
  quoteToken : StdString := []
  side : StdString := []
  quantity : Double := 0
  quantityToken : StdString := []
  limitPrice : Double := 0
  limitPriceToken : StdString := []
  stopPrice : Option Double := none
  customerId : Int := 0
  userId : Int := 0
  accountId : Int := 0
  status : StdString := ascii "CREATED"
  orderType : StdString := ascii "LIMIT"
  timeInForce : StdString := ascii "GTC"
  timestamp : Int := 0
  updatedAt : Int := 0
  expiryTimestamp : Option Int := none
  requestSource : StdString := ascii "API"
  requestChannel : StdString := ascii "cpp_client"
  baseTokenUsdRate : Double := 0
  quoteTokenUsdRate : Double := 0
  identifier : StdString := []
  metadata : AList (fun _ : StdString => StdString) := ∅
  deriving DecidableEq

namespace Order

def sides : List StdString := [ascii "BUY", ascii "SELL"]

def orderTypes : List StdString :=
  [ascii "MARKET", ascii "LIMIT", ascii "STOP", ascii "STOP_LIMIT"]

def timesInForce : List StdString :=
  [ascii "GTC", ascii "IOC", ascii "FOK", ascii "DAY", ascii "GTD"]

variable (order : Order)

/-- A stop price that is missing, or that is not positive. -/
def lacksStopPrice : Bool :=
  match order.stopPrice with
  | some price => nonPositive price
  | none => true

/-- Each check of `validate`, as the condition under which it fails and the error it then adds. -/
def checks : List (Bool × StdString) := [
  (order.id.isEmpty, ascii "Order ID is required"),
  (order.baseToken.isEmpty, ascii "Base token is required"),
  (order.quoteToken.isEmpty, ascii "Quote token is required"),
  (!sides.contains order.side, ascii "Side must be 'BUY' or 'SELL'"),
  (nonPositive order.quantity, ascii "Quantity must be positive"),
  (!orderTypes.contains order.orderType, ascii "Invalid order type: " ++ order.orderType),
  (order.orderType = ascii "LIMIT" ∧ nonPositive order.limitPrice,
    ascii "Limit price must be positive for LIMIT orders"),
  (order.orderType = ascii "STOP" ∧ order.lacksStopPrice,
    ascii "Stop price must be positive for STOP orders"),
  (order.orderType = ascii "STOP_LIMIT" ∧ order.lacksStopPrice,
    ascii "Stop price must be positive for STOP_LIMIT orders"),
  (order.orderType = ascii "STOP_LIMIT" ∧ nonPositive order.limitPrice,
    ascii "Limit price must be positive for STOP_LIMIT orders"),
  (!timesInForce.contains order.timeInForce, ascii "Invalid time in force: " ++ order.timeInForce),
  (order.timeInForce = ascii "GTD" ∧ order.expiryTimestamp.isNone,
    ascii "Expiry timestamp required for GTD orders")]

def validate : List StdString :=
  order.checks.filterMap fun (fails, error) => if fails then some error else none

/-- An order passes exactly when none of its checks fails. -/
theorem validate_eq_nil_iff : order.validate = [] ↔ ∀ check ∈ order.checks, check.1 = false := by
  unfold validate
  rw [List.filterMap_eq_nil_iff]
  refine forall₂_congr fun check _ => ?_
  obtain ⟨fails, error⟩ := check
  cases fails <;> simp

/-- The value that `to_json` writes, members in key order. `c_str()` ends the identifier at
its first zero byte. -/
def toJson : Value :=
  let headers : Value := .object [
    (ascii "auth_token", .string (ascii "Bearer xxx")),
    (ascii "connection_uuid", .string (ascii "130032")),
    (ascii "create_ts", .string (stdToString (order.timestamp.tdiv 1000000))),
    (ascii "customer_id", .string (stdToString order.customerId)),
    (ascii "ip_address", .string (ascii "10.37.62.251")),
    (ascii "origin", .string (ascii "fix")),
    (ascii "origin_id", .string (order.identifier.takeWhile (· ≠ 0))),
    (ascii "origin_name", .string (ascii "FIX_GATEWAY"))]
  let orderDetails : Value := .object [
    (ascii "client_order_id", .string order.clientOrderUuid),
    (ascii "order_type", .string (ascii "market")),
    (ascii "quantity", .object [
      (ascii "token", .string order.baseToken),
      (ascii "value", .real order.quantity)]),
    (ascii "quantity_value_str", .string (stdToStringDouble order.quantity)),
    (ascii "side", .string order.side),
    (ascii "token_pair", .object [
      (ascii "base_token", .string order.baseToken),
      (ascii "quote_token", .string order.quoteToken)])]
  .object [
    (ascii "message", .object [
      (ascii "headers", headers),
      (ascii "message", .object [
        (ascii "action", .string (ascii "CREATE")),
        (ascii "order_details", orderDetails)])]),
    (ascii "msg_type", .string (ascii "D")),
    (ascii "uuid", .string order.clientOrderUuid)]

/-- `Json::Reader`: it throws, or it reports failure, or it yields a root value. -/
structure Reader where
  parse : StdString → Except StdString (Option Value)
  formattedErrorMessages : StdString → StdString

section Reading

variable (json : Jsoncpp) (root : Value)

/-- A member that is missing or null leaves the field empty. -/
def getOptional {α : Type} (key : StdString) (read : Value → Except StdString α) :
    Except StdString (Option α) := do
  if ← isMember root key then
    match member root key with
    | .null => return none
    | v => return some (← read v)
  return none

/-- The entries of the `metadata` member, when it is there and is an object. -/
def readMetadata : Except StdString (AList (fun _ : StdString => StdString)) := do
  let entries :=
    match ← isMember root (ascii "metadata"), member root (ascii "metadata") with
    | true, .object entries => entries
    | _, _ => []
  let insert metadata entry := do return metadata.insert entry.1 (← asString json entry.2)
  entries.foldlM insert ∅

def fromJson (reader : Reader) (text : StdString) : Except StdString Order := do
  match ← reader.parse text with
  | none => throw (ascii "Failed to parse JSON: " ++ reader.formattedErrorMessages text)
  | some root =>
      let id ← getString json root (ascii "id") []
      let baseToken ← getString json root (ascii "base_token") []
      let quoteToken ← getString json root (ascii "quote_token") []
      let side ← getString json root (ascii "side") []
      let quantity ← getDouble root (ascii "quantity") 0
      let orderType ← getString json root (ascii "order_type") (ascii "LIMIT")
      let quantityToken ← getString json root (ascii "quantity_token") baseToken
      let limitPrice ← getDouble root (ascii "limit_price") 0
      let limitPriceToken ← getString json root (ascii "limit_price_token") quoteToken
      let customerId ← getInt64 json root (ascii "customer_id")
      let userId ← getInt64 json root (ascii "user_id")
      let accountId ← getInt64 json root (ascii "account_id")
      let status ← getString json root (ascii "status") (ascii "CREATED")
      let timestamp ← getInt64 json root (ascii "timestamp")
      let updatedAt ← getInt64 json root (ascii "updated_at")
      let clientOrderUuid ← getString json root (ascii "client_order_uuid") []
      let timeInForce ← getString json root (ascii "time_in_force") (ascii "GTC")
      let requestSource ← getString json root (ascii "request_source") (ascii "API")
      let requestChannel ← getString json root (ascii "request_channel") (ascii "cpp_client")
      let baseTokenUsdRate ← getDouble root (ascii "base_token_usd_rate") 0
      let quoteTokenUsdRate ← getDouble root (ascii "quote_token_usd_rate") (doubleOfNat 1)
      let stopPrice ← getOptional root (ascii "stop_price") asDouble
      let expiryTimestamp ← getOptional root (ascii "expiry_timestamp") (asInt64 json)
      let metadata ← readMetadata json root
      return {
        id, clientOrderUuid, baseToken, quoteToken, side, quantity, quantityToken, limitPrice,
        limitPriceToken, stopPrice, customerId, userId, accountId, status, orderType, timeInForce,
        timestamp, updatedAt, expiryTimestamp, requestSource, requestChannel, baseTokenUsdRate,
        quoteTokenUsdRate, metadata }

end Reading

def messageType : StdString :=
  if order.status = ascii "UPDATED" ∨ order.status = ascii "CANCELLED" then ascii "UPDATE_ORDER"
  else ascii "CREATE_ORDER"

/-- The fields by which an order is identified where it is executed. -/
structure SameIdentity (other : Order) : Prop where
  clientOrderUuid : order.clientOrderUuid = other.clientOrderUuid
  identifier : order.identifier = other.identifier
  baseToken : order.baseToken = other.baseToken
  quoteToken : order.quoteToken = other.quoteToken
  side : order.side = other.side
  quantity : order.quantity = other.quantity
  customerId : order.customerId = other.customerId
  timestamp : order.timestamp = other.timestamp

/-- Nothing but the identity of an order is written. -/
theorem toJson_eq {other : Order} (same : order.SameIdentity other) : order.toJson = other.toJson := by
  simp only [toJson, same.clientOrderUuid, same.identifier, same.baseToken, same.quoteToken, same.side,
    same.quantity, same.customerId, same.timestamp]

/-- The headers that go with the message, members in key order. -/
def publishHeaders (messageId : StdString) : Value :=
  .object [
    (ascii "messageId", .string messageId),
    (ascii "messageType", .string order.messageType),
    (ascii "orderId", .string order.id)]

end Order

end AeronClusterClient.Orders
