/- module: AeronClusterClient/Portfolios
   source: src/order_types.cpp, include/aeron_cluster/order_types.hpp
   digest: The balances of a portfolio are a map from tokens, and the cached total is their sum. -/

import AeronClusterClient.Lib.FirstMatch
import AeronClusterClient.Orders

set_option autoImplicit false
set_option relaxedAutoImplicit false

namespace AeronClusterClient.Portfolios

open Lib.FirstMatch Lib.Runs Orders
open Text (StdString ascii)

section Model

/-- `Balance`; the amounts are stored and never looked at here. -/
structure Balance where
  token : StdString
  available : Double := 0
  total : Double := 0
  inOrders : Double := 0
  usdValue : Double := 0
  lastUpdated : Int := 0
  deriving DecidableEq

structure Portfolio where
  balances : List Balance := []
  totalUsdValue : Double := 0
  timestamp : Int := 0
  deriving DecidableEq

-- the addition of doubles, whatever it rounds to
variable (add : Double → Double → Double)

/-- `find_if` for the token, and a pointer to what it finds. -/
def getBalance (token : StdString) (p : Portfolio) : Option Balance :=
  p.balances.find? fun b => b.token = token

/-- The loop `total_usd_value += balance.usd_value`. -/
def addUp (total : Double) (balances : List Balance) : Double :=
  balances.foldl (fun total b => add total b.usdValue) total

def recalculateTotalValue (p : Portfolio) : Portfolio :=
  { p with totalUsdValue := addUp add 0 p.balances }

/-- `now` is what `get_current_timestamp_nanos` returns. -/
def updateBalance (balance : Balance) (now : Int) (p : Portfolio) : Portfolio :=
  let balances :=
    match p.balances.find? fun b => b.token = balance.token with
    | some _ => p.balances.replaceF fun b => if b.token = balance.token then some balance else none
    | none => p.balances ++ [balance]
  { recalculateTotalValue add { p with balances } with timestamp := now }

def removeBalance (token : StdString) (p : Portfolio) : Bool × Portfolio :=
  match p.balances.find? fun b => b.token = token with
  | some _ =>
      (true, recalculateTotalValue add
        { p with balances := p.balances.eraseP fun b => b.token = token })
  | none => (false, p)

def getTokens (p : Portfolio) : List StdString := p.balances.map Balance.token

/-- A call that changes a portfolio. -/
inductive Call
  | update (balance : Balance) (now : Int)
  | remove (token : StdString)

def call : Call → Portfolio → Portfolio
  | .update balance now, p => updateBalance add balance now p
  | .remove token, p => (removeBalance add token p).2

def after (calls : List Call) : Portfolio := stateAfter (call add) {} calls

end Model

section Map

def Call.token : Call → StdString
  | .update balance _ => balance.token
  | .remove token => token

def Call.change : Call → Change StdString Balance
  | .update balance _ => .put balance
  | .remove token => .drop token

variable {add : Double → Double → Double} {p : Portfolio} {token : StdString}

theorem about_change (made : Call) : made.change.about Balance.token = made.token := by
  cases made <;> rfl

theorem getBalance_eq : getBalance token p = lookup Balance.token p.balances token := rfl

theorem balances_updateBalance (balance : Balance) (now : Int) :
    (updateBalance add balance now p).balances = put Balance.token balance p.balances := by
  unfold updateBalance put
  cases found : lookup Balance.token p.balances balance.token with
  | none =>
      have missing : p.balances.find? (fun b => b.token = balance.token) = none := found
      simp [missing, recalculateTotalValue]
  | some b =>
      have there : p.balances.find? (fun b => b.token = balance.token) = some b := found
      simp [there, recalculateTotalValue, replaceFirst]

theorem balances_removeBalance :
    (removeBalance add token p).2.balances = drop Balance.token token p.balances := by
  unfold removeBalance drop
  cases found : p.balances.find? fun b => b.token = token with
  | none =>
      refine (List.eraseP_of_forall_not fun b among => ?_).symm
      exact List.find?_eq_none.mp found b among
  | some b => rfl

theorem balances_call (made : Call) :
    (call add made p).balances = change Balance.token made.change p.balances := by
  cases made with
  | update balance now => exact balances_updateBalance balance now
  | remove token => exact balances_removeBalance

theorem balances_after (calls : List Call) :
    (after add calls).balances = stateAfter (change Balance.token) [] (calls.map Call.change) :=
  stateAfter_map Portfolio.balances (fun _ made => balances_call made) _ calls

/-- After any calls the balances are the map that the calls mean. -/
theorem represents_after (calls : List Call) :
    Represents Balance.token (after add calls).balances
      (stateAfter (meant Balance.token) (fun _ => none) (calls.map Call.change)) := by
  rw [balances_after]
  exact represents_stateAfter represents_nil _

theorem getBalance_after_iff (calls : List Call) {balance : Balance} :
    getBalance token (after add calls) = some balance ↔
      ∃ first now rest, calls = first ++ .update balance now :: rest ∧ balance.token = token ∧
        ∀ made ∈ rest, made.token ≠ token := by
  rw [getBalance_eq, (represents_after calls).agrees, meant_eq_some_iff]
  constructor
  · rintro ⟨first, rest, split, named, untouched⟩
    obtain ⟨earlier, behind, rfl, rfl, later⟩ := List.map_eq_append_iff.mp split
    obtain ⟨made, rest, rfl, written, rfl⟩ := List.map_eq_cons_iff.mp later
    cases made with
    | remove token => cases written
    | update other now =>
        cases written
        refine ⟨earlier, now, rest, rfl, named, fun made among => ?_⟩
        rw [← about_change]
        exact untouched made.change (List.mem_map_of_mem among)
  · rintro ⟨first, now, rest, rfl, named, untouched⟩
    refine ⟨first.map Call.change, rest.map Call.change, by simp [Call.change], named, ?_⟩
    intro changed among
    obtain ⟨made, there, rfl⟩ := List.mem_map.mp among
    rw [about_change]
    exact untouched made there

theorem removeBalance_fst : (removeBalance add token p).1 = true ↔ token ∈ getTokens p := by
  have present : (lookup Balance.token p.balances token).isSome ↔
      token ∈ p.balances.map Balance.token := isSome_lookup_iff
  unfold removeBalance getTokens
  rw [← present, ← getBalance_eq]
  unfold getBalance
  cases p.balances.find? fun b => b.token = token <;> simp

end Map

section Total

variable {add : Double → Double → Double} {p : Portfolio}

def Totalled (add : Double → Double → Double) (p : Portfolio) : Prop :=
  p.totalUsdValue = (p.balances.map Balance.usdValue).foldl add 0

theorem totalled_recalculateTotalValue : Totalled add (recalculateTotalValue add p) := by
  simp [Totalled, recalculateTotalValue, addUp, List.foldl_map]

theorem totalled_updateBalance (balance : Balance) (now : Int) :
    Totalled add (updateBalance add balance now p) :=
  totalled_recalculateTotalValue

theorem totalled_removeBalance {token : StdString} (removed : (removeBalance add token p).1 = true) :
    Totalled add (removeBalance add token p).2 := by
  unfold removeBalance at removed ⊢
  split at removed
  · exact totalled_recalculateTotalValue
  · cases removed

theorem removeBalance_of_absent {token : StdString} (absent : (removeBalance add token p).1 = false) :
    (removeBalance add token p).2 = p := by
  unfold removeBalance at absent ⊢
  split at absent
  · cases absent
  · rfl

theorem totalled_call (totalled : Totalled add p) (made : Call) : Totalled add (call add made p) := by
  cases made with
  | update balance now => exact totalled_updateBalance balance now
  | remove token =>
      cases removed : (removeBalance add token p).1 with
      | true => exact totalled_removeBalance removed
      | false =>
          rw [call, removeBalance_of_absent removed]
          exact totalled

theorem totalled_after (calls : List Call) : Totalled add (after add calls) :=
  invariant_of_steps (Totalled add) rfl fun _ made totalled => totalled_call totalled made

end Total

/-- A portfolio is a map from tokens to balances, with the sum of its values beside it. -/
theorem portfolio_is_map (add : Double → Double → Double) (calls : List Call) :
    (getTokens (after add calls)).Nodup ∧
    (∀ token balance, getBalance token (after add calls) = some balance ↔
      ∃ first now rest, calls = first ++ .update balance now :: rest ∧ balance.token = token ∧
        ∀ made ∈ rest, made.token ≠ token) ∧
    (∀ token, (removeBalance add token (after add calls)).1 = true ↔
      token ∈ getTokens (after add calls)) ∧
    (after add calls).totalUsdValue =
      ((after add calls).balances.map Balance.usdValue).foldl add 0 :=
  ⟨(represents_after calls).distinct, fun _ _ => getBalance_after_iff calls,
    fun _ => removeBalance_fst, totalled_after calls⟩

end AeronClusterClient.Portfolios
