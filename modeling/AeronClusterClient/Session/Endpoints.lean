/- module: AeronClusterClient/Session/Endpoints
   source: src/session_manager.cpp (SessionUtils)
   digest: Endpoints as they are written for a leader, checked and taken apart. -/

import AeronClusterClient.Config.ResponseChannel
import AeronClusterClient.Decimals

/-!
An endpoint is split at its first colon. The check is stricter than the split:
it wants the characters of a host name, and nothing but digits behind the colon.
-/

set_option autoImplicit false
set_option relaxedAutoImplicit false

namespace AeronClusterClient.Session.Endpoints

open Text (StdString ascii stdToString stoi isDigit digitsValue)
open Config.ResponseChannel (isHostChar isHostChar_ne takeWhile_run)
open Decimals (all_isDigit_stdToString stdToString_ne_nil stoi_of_digits stoi_stdToString)

section Model

def leaderPort (memberId : Int) : Int := 9002 + memberId * 100

def calculateLeaderEndpoint (memberId : Int) (baseIp : StdString) : StdString :=
  if memberId < 0 then [] else baseIp ++ 58 :: stdToString (leaderPort memberId)

def beforeColon (c : UInt8) : Bool := c != 58

/-- `extract_base_ip`; without a colon it is the whole endpoint. -/
def extractBaseIp (endpoint : StdString) : StdString := endpoint.takeWhile beforeColon

/-- `is_valid_endpoint`: the whole text matches `[a-zA-Z0-9\.\-]+:\d+`. -/
def isValidEndpoint (endpoint : StdString) : Bool :=
  match endpoint.dropWhile isHostChar with
  | 58 :: port =>
      !(endpoint.takeWhile isHostChar).isEmpty && !port.isEmpty && port.all isDigit
  | _ => false

/-- `parse_endpoint`; an exception of `std::stoi` is caught. -/
def parseEndpoint (endpoint : StdString) : StdString × Int :=
  match endpoint.dropWhile beforeColon with
  | [] => ([], 0)
  | _ :: portStr =>
      match stoi portStr with
      | some port => (endpoint.takeWhile beforeColon, port)
      | none => ([], 0)

end Model

section Splits

variable {host port : StdString}

theorem all_beforeColon : host.all beforeColon = true ↔ (58 : UInt8) ∉ host := by
  rw [List.all_eq_true]
  constructor
  · intro every among
    exact absurd (every 58 among) (by decide)
  · intro clear c among
    refine bne_iff_ne.mpr ?_
    rintro rfl
    exact clear among

theorem split_at_colon (clear : (58 : UInt8) ∉ host) (port : StdString) :
    (host ++ 58 :: port).takeWhile beforeColon = host ∧
      (host ++ 58 :: port).dropWhile beforeColon = 58 :: port := by
  refine takeWhile_run (all_beforeColon.mpr clear) fun c among => ?_
  cases among
  rfl

theorem extractBaseIp_eq_iff : extractBaseIp (host ++ 58 :: port) = host ↔ (58 : UInt8) ∉ host := by
  constructor
  · intro same among
    have inside : (58 : UInt8) ∈ (host ++ 58 :: port).takeWhile beforeColon := by
      change (58 : UInt8) ∈ extractBaseIp (host ++ 58 :: port)
      rwa [same]
    exact absurd (List.mem_takeWhile_imp inside) (by decide)
  · exact fun clear => (split_at_colon clear port).1

theorem parseEndpoint_of_host (clear : (58 : UInt8) ∉ host) :
    parseEndpoint (host ++ 58 :: port) = ((stoi port).map fun value => (host, value)).getD ([], 0) := by
  obtain ⟨front, back⟩ := split_at_colon clear port
  unfold parseEndpoint
  rw [front, back]
  dsimp only
  cases stoi port <;> rfl

/-- The endpoints that are accepted: a host, a colon and digits. -/
theorem isValidEndpoint_iff {endpoint : StdString} : isValidEndpoint endpoint = true ↔
    ∃ host port, endpoint = host ++ 58 :: port ∧ (host ≠ [] ∧ host.all isHostChar = true) ∧
      port ≠ [] ∧ port.all isDigit = true := by
  constructor
  · intro valid
    have cut := List.takeWhile_append_dropWhile (p := isHostChar) (l := endpoint)
    unfold isValidEndpoint at valid
    split at valid
    · next port colon =>
        rw [colon] at cut
        simp only [Bool.and_eq_true, Bool.not_eq_true', List.isEmpty_eq_false_iff] at valid
        exact ⟨_, port, cut.symm, ⟨valid.1.1, List.all_takeWhile⟩, valid.1.2, valid.2⟩
    · cases valid
  · rintro ⟨host, port, rfl, ⟨filled, chars⟩, full, digits⟩
    have stops (c : UInt8) (among : c ∈ (58 :: port).head?) : isHostChar c = false := by
      cases among
      rfl
    obtain ⟨front, back⟩ := takeWhile_run chars stops
    unfold isValidEndpoint
    rw [front, back]
    simp [filled, full, digits]

end Splits

section Agreement

/-- Of the endpoint of a leader, the base IP and the port come back exactly if the base IP has no
colon, and it is accepted exactly if the base IP looks like a host name. -/
structure ComesBack (memberId : Int) (baseIp : StdString) : Prop where
  parsed : parseEndpoint (calculateLeaderEndpoint memberId baseIp) = (baseIp, leaderPort memberId) ↔
    (58 : UInt8) ∉ baseIp
  extracted : extractBaseIp (calculateLeaderEndpoint memberId baseIp) = baseIp ↔ (58 : UInt8) ∉ baseIp
  valid : isValidEndpoint (calculateLeaderEndpoint memberId baseIp) = true ↔
    baseIp ≠ [] ∧ baseIp.all isHostChar = true

theorem not_mem_of_hostChars {host : StdString} (chars : host.all isHostChar = true) :
    (58 : UInt8) ∉ host := fun among =>
  (isHostChar_ne (List.all_eq_true.mp chars 58 among)).1 rfl

theorem not_mem_of_digits {port : StdString} (digits : port.all isDigit = true) :
    (58 : UInt8) ∉ port := fun among =>
  absurd (List.all_eq_true.mp digits 58 among) (by decide)

/-- Whatever is in front of its last colon, an endpoint that is parsed into some host has that host in
front of its first. -/
theorem extractBaseIp_of_parsed {endpoint host : StdString} {port : Int} (filled : host ≠ [])
    (parsed : parseEndpoint endpoint = (host, port)) : extractBaseIp endpoint = host := by
  have front : (parseEndpoint endpoint).1 = host := by rw [parsed]
  unfold parseEndpoint at front
  split at front
  · exact absurd front.symm filled
  · split at front
    · exact front
    · exact absurd front.symm filled

theorem comesBack {memberId : Int} (member : 0 ≤ memberId) (small : leaderPort memberId ≤ 2147483647)
    (baseIp : StdString) : ComesBack memberId baseIp := by
  obtain ⟨port, same⟩ : ∃ port : Nat, leaderPort memberId = port :=
    Int.eq_ofNat_of_zero_le (by unfold leaderPort; omega)
  have fits : port ≤ 2147483647 := by omega
  have written : calculateLeaderEndpoint memberId baseIp = baseIp ++ 58 :: stdToString port := by
    unfold calculateLeaderEndpoint
    rw [if_neg (by omega), same]
  refine ⟨?_, ?_, ?_⟩
  · rw [written, same]
    constructor
    · intro parsed among
      have base := extractBaseIp_of_parsed (List.ne_nil_of_mem among) parsed
      exact extractBaseIp_eq_iff.mp base among
    · intro clear
      rw [parseEndpoint_of_host clear, stoi_stdToString fits]
      rfl
  · rw [written]
    exact extractBaseIp_eq_iff
  · rw [written]
    constructor
    · intro valid
      obtain ⟨host, digits, whole, shape, -, numeral⟩ := isValidEndpoint_iff.mp valid
      have split := (List.append_cons_inj_of_notMem (not_mem_of_hostChars shape.2)
        (not_mem_of_digits numeral)).mp whole.symm
      rwa [split.1] at shape
    · intro shape
      exact isValidEndpoint_iff.mpr ⟨baseIp, _, rfl, shape, stdToString_ne_nil _,
        all_isDigit_stdToString _⟩

/-- A valid endpoint is parsed into its host and its port, unless the port is no `int`. -/
def Parses (endpoint : StdString) : Prop :=
  ∃ host port, endpoint = host ++ 58 :: port ∧ extractBaseIp endpoint = host ∧
    parseEndpoint endpoint =
      if digitsValue port ≤ 2147483647 then (host, (digitsValue port : Int)) else ([], 0)

theorem parses_of_valid {endpoint : StdString} (valid : isValidEndpoint endpoint = true) :
    Parses endpoint := by
  obtain ⟨host, port, rfl, shape, filled, digits⟩ := isValidEndpoint_iff.mp valid
  have clear := not_mem_of_hostChars shape.2
  refine ⟨host, port, rfl, extractBaseIp_eq_iff.mpr clear, ?_⟩
  rw [parseEndpoint_of_host clear, stoi_of_digits filled digits]
  split <;> rfl

/-- The utilities agree about endpoints: every one that is accepted is parsed, and those that are
written for the leaders of a cluster come back. -/
theorem endpoints_agree :
    (∀ endpoint, isValidEndpoint endpoint = true → Parses endpoint) ∧
      ∀ memberId baseIp, 0 ≤ memberId → leaderPort memberId ≤ 2147483647 →
        ComesBack memberId baseIp :=
  ⟨fun _ => parses_of_valid, fun _ baseIp member small => comesBack member small baseIp⟩

theorem endpoints_agree_sample :
    Parses (ascii "node-1:9102") ∧ ComesBack 1 (ascii "node-1") :=
  ⟨endpoints_agree.1 _ (by decide), endpoints_agree.2 1 _ (by decide) (by decide)⟩

end Agreement

end AeronClusterClient.Session.Endpoints
