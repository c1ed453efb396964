/- module: AeronClusterClient/OrderPlacement
   source: src/order_types.cpp (OrderFactory, calculate_notional_value, can_place_order),
   include/aeron_cluster/order_types.hpp
   digest: The orders of the factory, and which orders a portfolio can pay for. -/

import AeronClusterClient.Portfolios

/-!
A buy is paid for in the quote token and a sale in the base token. Only the
notional value of a buy is looked at, and that of a market order is zero: any
balance that is not negative pays for it.
-/

set_option autoImplicit false
set_option relaxedAutoImplicit false

namespace AeronClusterClient.OrderPlacement

open Orders Portfolios
open Text (StdString ascii stdToString)

section Comparisons

def isNaN (x : Double) : Bool := 0x7FF0000000000000 < x.toNat % 2 ^ 63

/-- The place of a number among the others; both zeros have the same. -/
def place (x : Double) : Int :=
  if x.toNat < 2 ^ 63 then x.toNat else -(x.toNat % 2 ^ 63 : Nat)

/-- `x >= y`, which no NaN satisfies. -/
def atLeast (x y : Double) : Bool := !isNaN x && !isNaN y && place y ≤ place x

theorem atLeast_iff {x y : Double} :
    atLeast x y = true ↔ isNaN x = false ∧ isNaN y = false ∧ place y ≤ place x := by
  simp [atLeast, and_assoc]

theorem atLeast_trans {x y z : Double} (first : atLeast x y = true) (rest : atLeast y z = true) :
    atLeast x z = true := by
  obtain ⟨number, -, above⟩ := atLeast_iff.mp first
  obtain ⟨-, number', above'⟩ := atLeast_iff.mp rest
  exact atLeast_iff.mpr ⟨number, number', Int.le_trans above' above⟩

theorem nonPositive_eq (x : Double) : nonPositive x = atLeast 0 x := by
  have bound := x.toNat_lt
  rw [Bool.eq_iff_iff, atLeast_iff]
  unfold nonPositive isNaN place
  simp only [Bool.or_eq_true, beq_iff_eq, Bool.and_eq_true, decide_eq_true_eq, decide_eq_false_iff_not,
    ← UInt64.toNat_inj, UInt64.le_iff_toNat_le, UInt64.reduceToNat]
  split <;> omega

end Comparisons

section Model

-- the multiplication of doubles, whatever it rounds to
variable (mul : Double → Double → Double)

def isBuy (order : Order) : Bool := order.side = ascii "BUY"

def calculateNotionalValue (order : Order) : Double :=
  if order.orderType = ascii "MARKET" then 0
  else if order.orderType = ascii "LIMIT" ∨ order.orderType = ascii "STOP_LIMIT" then
    mul order.quantity order.limitPrice
  else if order.orderType = ascii "STOP" then
    match order.stopPrice with
    | some price => mul order.quantity price
    | none => 0
  else 0

def isSufficient (balance : Balance) (requiredAmount : Double) : Bool :=
  atLeast balance.available requiredAmount

def canPlaceOrder (order : Order) (p : Portfolio) : Bool :=
  if isBuy order then
    match getBalance order.quoteToken p with
    | none => false
    | some balance => isSufficient balance (calculateNotionalValue mul order)
  else
    match getBalance order.baseToken p with
    | none => false
    | some balance => isSufficient balance order.quantity

/-- What the clock and the random numbers give to a new order. -/
structure Stamp where
  now : Int
  clientOrderUuid : StdString
  timestamp : Int
  random : Nat

def generateOrderId (name : StdString) (stamp : Stamp) : StdString :=
  name ++ ascii "_" ++ stdToString stamp.timestamp ++ ascii "_" ++ stdToString stamp.random

/-- The constructor with the basic parameters. -/
def construct (base quote side : StdString) (qty : Double) (type : StdString) (stamp : Stamp) :
    Order :=
  { baseToken := base
    quoteToken := quote
    side := side
    quantity := qty
    orderType := type
    identifier := ascii "ROHIT_AERON01_TX"
    quantityToken := base
    limitPriceToken := quote
    timestamp := stamp.now
    updatedAt := stamp.now
    clientOrderUuid := stamp.clientOrderUuid }

def create (side type name timeInForce : StdString) (baseToken quoteToken : StdString)
    (quantity : Double) (accountId : Int) (stamp : Stamp) : Order :=
  { construct baseToken quoteToken side quantity type stamp with
    id := generateOrderId name stamp
    accountId := accountId
    timeInForce := timeInForce }

def createMarketBuy : StdString → StdString → Double → Int → Stamp → Order :=
  create (ascii "BUY") (ascii "MARKET") (ascii "market_buy") (ascii "IOC")

def createMarketSell : StdString → StdString → Double → Int → Stamp → Order :=
  create (ascii "SELL") (ascii "MARKET") (ascii "market_sell") (ascii "IOC")

def createLimitBuy (baseToken quoteToken : StdString) (quantity limitPrice : Double) (accountId : Int)
    (stamp : Stamp) : Order :=
  { create (ascii "BUY") (ascii "LIMIT") (ascii "limit_buy") (ascii "GTC") baseToken quoteToken
      quantity accountId stamp with limitPrice := limitPrice }

def createLimitSell (baseToken quoteToken : StdString) (quantity limitPrice : Double) (accountId : Int)
    (stamp : Stamp) : Order :=
  { create (ascii "SELL") (ascii "LIMIT") (ascii "limit_sell") (ascii "GTC") baseToken quoteToken
      quantity accountId stamp with limitPrice := limitPrice }

def createStopLoss (baseToken quoteToken : StdString) (quantity stopPrice : Double) (accountId : Int)
    (stamp : Stamp) : Order :=
  { create (ascii "SELL") (ascii "STOP") (ascii "stop_loss") (ascii "GTC") baseToken quoteToken
      quantity accountId stamp with stopPrice := some stopPrice }

def createStopLimit (baseToken quoteToken : StdString) (quantity stopPrice limitPrice : Double)
    (accountId : Int) (stamp : Stamp) : Order :=
  { create (ascii "SELL") (ascii "STOP_LIMIT") (ascii "stop_limit") (ascii "GTC") baseToken quoteToken
      quantity accountId stamp with stopPrice := some stopPrice, limitPrice := limitPrice }

end Model

section Payment

variable {add mul : Double → Double → Double}

def payingToken (order : Order) : StdString :=
  if isBuy order then order.quoteToken else order.baseToken

def required (mul : Double → Double → Double) (order : Order) : Double :=
  if isBuy order then calculateNotionalValue mul order else order.quantity

theorem canPlaceOrder_iff {order : Order} {p : Portfolio} : canPlaceOrder mul order p = true ↔
    ∃ balance, getBalance (payingToken order) p = some balance ∧
      atLeast balance.available (required mul order) = true := by
  unfold canPlaceOrder payingToken required isSufficient
  cases isBuy order with
  | true => cases held : getBalance order.quoteToken p <;> simp [held]
  | false => cases held : getBalance order.baseToken p <;> simp [held]

/-- The last call about the token has set this balance. -/
def LastSet (token : StdString) (calls : List Call) (balance : Balance) : Prop :=
  ∃ first now rest, calls = first ++ .update balance now :: rest ∧ balance.token = token ∧
    ∀ made ∈ rest, made.token ≠ token

/-- The balance of the paying token was last set to enough. -/
def PaidFor (mul : Double → Double → Double) (order : Order) (calls : List Call) : Prop :=
  ∃ balance, LastSet (payingToken order) calls balance ∧
    atLeast balance.available (required mul order) = true

theorem canPlaceOrder_after_iff (order : Order) (calls : List Call) :
    canPlaceOrder mul order (after add calls) = true ↔ PaidFor mul order calls := by
  rw [canPlaceOrder_iff]
  refine exists_congr fun balance => and_congr_left fun _ => ?_
  exact getBalance_after_iff calls

-- an empty balance pays for a market buy of one
example : canPlaceOrder (fun x _ => x)
    (createMarketBuy (ascii "BTC") (ascii "USD") 0x3FF0000000000000 0 ⟨0, [], 0, 0⟩)
    (after (fun x _ => x) [.update { token := ascii "USD" } 0]) = true := by decide

end Payment

section Factory

variable {mul : Double → Double → Double}

/-- What the factory makes, with the prices it is given. -/
inductive Product
  | marketBuy
  | marketSell
  | limitBuy (limitPrice : Double)
  | limitSell (limitPrice : Double)
  | stopLoss (stopPrice : Double)
  | stopLimit (stopPrice limitPrice : Double)

namespace Product

def make (baseToken quoteToken : StdString) (quantity : Double) (accountId : Int) (stamp : Stamp) :
    Product → Order
  | marketBuy => createMarketBuy baseToken quoteToken quantity accountId stamp
  | marketSell => createMarketSell baseToken quoteToken quantity accountId stamp
  | limitBuy limitPrice => createLimitBuy baseToken quoteToken quantity limitPrice accountId stamp
  | limitSell limitPrice => createLimitSell baseToken quoteToken quantity limitPrice accountId stamp
  | stopLoss stopPrice => createStopLoss baseToken quoteToken quantity stopPrice accountId stamp
  | stopLimit stopPrice limitPrice =>
      createStopLimit baseToken quoteToken quantity stopPrice limitPrice accountId stamp

def prices : Product → List Double
  | marketBuy | marketSell => []
  | limitBuy price | limitSell price | stopLoss price => [price]
  | stopLimit stopPrice limitPrice => [stopPrice, limitPrice]

def payment (mul : Double → Double → Double) (baseToken quoteToken : StdString) (quantity : Double) :
    Product → StdString × Double
  | marketBuy => (quoteToken, 0)
  | limitBuy limitPrice => (quoteToken, mul quantity limitPrice)
  | marketSell | limitSell _ | stopLoss _ | stopLimit _ _ => (baseToken, quantity)

end Product

variable {baseToken quoteToken : StdString} {quantity : Double} {accountId : Int} {stamp : Stamp}

theorem generateOrderId_ne_nil (name : StdString) (stamp : Stamp) : generateOrderId name stamp ≠ [] := by
  simp [generateOrderId, ascii]

/-- What the factory fills in, whatever it is given. -/
structure FilledIn (order : Order) : Prop where
  id : order.id ≠ []
  side : order.side ∈ Order.sides
  orderType : order.orderType ∈ Order.orderTypes
  timeInForce : order.timeInForce ∈ Order.timesInForce
  undated : order.timeInForce ≠ ascii "GTD"

/-- Of such an order, validation looks at the tokens and the amounts that its type asks for. -/
theorem FilledIn.validate_iff {order : Order} (filled : FilledIn order) :
    order.validate = [] ↔ order.baseToken ≠ [] ∧ order.quoteToken ≠ [] ∧
      nonPositive order.quantity = false ∧
      (order.orderType = ascii "LIMIT" → nonPositive order.limitPrice = false) ∧
      (order.orderType = ascii "STOP" → order.lacksStopPrice = false) ∧
      (order.orderType = ascii "STOP_LIMIT" → order.lacksStopPrice = false) ∧
      (order.orderType = ascii "STOP_LIMIT" → nonPositive order.limitPrice = false) := by
  rw [Order.validate_eq_nil_iff]
  unfold Order.checks
  simp [filled.id, filled.side, filled.orderType, filled.timeInForce, filled.undated]

theorem filledIn_make (product : Product) :
    FilledIn (product.make baseToken quoteToken quantity accountId stamp) := by
  have buy : ascii "BUY" ∈ Order.sides := by decide
  have sell : ascii "SELL" ∈ Order.sides := by decide
  have types : ascii "LIMIT" ∈ Order.orderTypes ∧ ascii "STOP" ∈ Order.orderTypes ∧
      ascii "STOP_LIMIT" ∈ Order.orderTypes := by decide
  have ioc : ascii "IOC" ∈ Order.timesInForce ∧ ascii "IOC" ≠ ascii "GTD" := by decide
  have gtc : ascii "GTC" ∈ Order.timesInForce ∧ ascii "GTC" ≠ ascii "GTD" := by decide
  have id (name : StdString) : generateOrderId name stamp ≠ [] := generateOrderId_ne_nil name stamp
  cases product with
  | marketBuy => exact ⟨id _, buy, List.mem_cons_self, ioc.1, ioc.2⟩
  | marketSell => exact ⟨id _, sell, List.mem_cons_self, ioc.1, ioc.2⟩
  | limitBuy limitPrice => exact ⟨id _, buy, types.1, gtc.1, gtc.2⟩
  | limitSell limitPrice => exact ⟨id _, sell, types.1, gtc.1, gtc.2⟩
  | stopLoss stopPrice => exact ⟨id _, sell, types.2.1, gtc.1, gtc.2⟩
  | stopLimit stopPrice limitPrice => exact ⟨id _, sell, types.2.2, gtc.1, gtc.2⟩

/-- The factory fills in whatever validation asks for, except for what it is given. -/
theorem validate_make_iff (product : Product) :
    (product.make baseToken quoteToken quantity accountId stamp).validate = [] ↔
      baseToken ≠ [] ∧ quoteToken ≠ [] ∧
        ∀ amount ∈ quantity :: product.prices, nonPositive amount = false := by
  rw [(filledIn_make product).validate_iff]
  cases product <;>
    simp +decide [Product.make, Product.prices, Order.lacksStopPrice, createMarketBuy, createMarketSell,
      createLimitBuy, createLimitSell, createStopLoss, createStopLimit, create, construct]

theorem payment_make (product : Product) :
    (payingToken (product.make baseToken quoteToken quantity accountId stamp),
      required mul (product.make baseToken quoteToken quantity accountId stamp)) =
        product.payment mul baseToken quoteToken quantity := by
  cases product <;> rfl

theorem positive_of_atLeast {x y : Double} (enough : atLeast x y = true)
    (positive : nonPositive y = false) : nonPositive x = false := by
  rw [nonPositive_eq] at positive ⊢
  cases sign : atLeast 0 x with
  | false => rfl
  | true => rwa [atLeast_trans sign enough] at positive

/-- What is known of an order of the factory before any portfolio has been asked. -/
structure Settled (mul : Double → Double → Double) (product : Product)
    (baseToken quoteToken : StdString) (quantity : Double) (order : Order) : Prop where
  valid : order.validate = [] ↔ baseToken ≠ [] ∧ quoteToken ≠ [] ∧
    ∀ amount ∈ quantity :: product.prices, nonPositive amount = false
  payment : (payingToken order, required mul order) = product.payment mul baseToken quoteToken quantity
  /-- A sale is paid for only by a balance that is not at or below zero, as the amount is not. -/
  sale : order.validate = [] → isBuy order = false → ∀ calls, PaidFor mul order calls →
    ∃ balance, LastSet baseToken calls balance ∧ nonPositive balance.available = false

theorem settled_make (product : Product) : Settled mul product baseToken quoteToken quantity
    (product.make baseToken quoteToken quantity accountId stamp) where
  valid := validate_make_iff product
  payment := payment_make product
  sale := by
    rintro valid sells calls ⟨balance, last, enough⟩
    obtain ⟨-, -, positive⟩ := (validate_make_iff product).mp valid
    have token : payingToken (product.make baseToken quoteToken quantity accountId stamp) =
        baseToken := by
      unfold payingToken
      rw [sells]
      cases product <;> rfl
    have amount : required mul (product.make baseToken quoteToken quantity accountId stamp) =
        quantity := by
      unfold required
      rw [sells]
      cases product <;> rfl
    rw [token] at last
    rw [amount] at enough
    exact ⟨balance, last, positive_of_atLeast enough (positive quantity List.mem_cons_self)⟩

end Factory

/-- Whether an order can be placed depends on the last call about its paying token alone; and of the
orders of the factory it is known beforehand what they take. -/
theorem placing_follows_last_set (add mul : Double → Double → Double) :
    (∀ order calls, canPlaceOrder mul order (after add calls) = true ↔ PaidFor mul order calls) ∧
      ∀ (product : Product) baseToken quoteToken quantity accountId stamp,
        Settled mul product baseToken quoteToken quantity
          (product.make baseToken quoteToken quantity accountId stamp) :=
  ⟨canPlaceOrder_after_iff, fun product _ _ _ _ _ => settled_make product⟩

end AeronClusterClient.OrderPlacement
