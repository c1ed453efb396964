/- module: AeronClusterClient/Config/ResponseChannel
   source: src/config.cpp (needs_port_resolution, get_local_ip_address, find_available_port,
   resolve_egress_endpoint)
   digest: How a response channel with port 0 gets the address and a free port of the machine. -/

import AeronClusterClient.Decimals
import AeronClusterClient.Lib.Scan

/-!
The endpoint of a channel is searched for with the regular expression
`endpoint=([a-zA-Z0-9\.\-]+):(\d+)`. Neither run of characters can be continued by
what comes after it in the expression, so a match takes as much as there is and
nothing has to be given back.
-/

set_option autoImplicit false
set_option relaxedAutoImplicit false

namespace AeronClusterClient.Config.ResponseChannel

open Lib.Scan Decimals
open Text (StdString ascii stdToString stoi isDigit digitsValue)

section Endpoints

/-- The characters `[a-zA-Z0-9\.\-]`. -/
def isHostChar (c : UInt8) : Bool :=
  (97 ≤ c && c ≤ 122) || (65 ≤ c && c ≤ 90) || isDigit c || c == 46 || c == 45

/-- The two groups of a match. -/
structure Endpoint where
  host : StdString
  port : StdString
  host_ne_nil : host ≠ []
  host_chars : host.all isHostChar = true
  port_ne_nil : port ≠ []
  port_digits : port.all isDigit = true
  deriving DecidableEq

def endpointKey : StdString := ascii "endpoint="

def writeEndpoint (e : Endpoint) : StdString := endpointKey ++ (e.host ++ 58 :: e.port)

def endpointOf (host port : StdString) : Option Endpoint :=
  if shape : (host ≠ [] ∧ host.all isHostChar = true) ∧ port ≠ [] ∧ port.all isDigit = true then
    some ⟨host, port, shape.1.1, shape.1.2, shape.2.1, shape.2.2⟩
  else none

def readPort (host tail : StdString) : Option (Endpoint × StdString) := do
  let e ← endpointOf host (tail.takeWhile isDigit)
  return (e, tail.dropWhile isDigit)

/-- The match at the start of a text, and what comes after it. -/
def readEndpoint (text : StdString) : Option (Endpoint × StdString) :=
  if endpointKey.isPrefixOf text then
    let body := text.drop endpointKey.length
    match body.dropWhile isHostChar with
    | 58 :: tail => readPort (body.takeWhile isHostChar) tail
    | _ => none
  else none

theorem endpointOf_eq_some {host port : StdString} {e : Endpoint}
    (found : endpointOf host port = some e) : e.host = host ∧ e.port = port := by
  unfold endpointOf at found
  split at found
  · cases found
    exact ⟨rfl, rfl⟩
  · cases found

theorem endpointOf_self (e : Endpoint) : endpointOf e.host e.port = some e :=
  dif_pos ⟨⟨e.host_ne_nil, e.host_chars⟩, e.port_ne_nil, e.port_digits⟩

theorem isHostChar_ne {c : UInt8} (inside : isHostChar c = true) : c ≠ 58 ∧ c ≠ 61 := by
  constructor <;> rintro rfl <;> exact absurd inside (by decide)

theorem takeWhile_run {p : UInt8 → Bool} {run rest : StdString} (inside : run.all p = true)
    (stops : ∀ c ∈ rest.head?, p c = false) :
    (run ++ rest).takeWhile p = run ∧ (run ++ rest).dropWhile p = rest := by
  have all : ∀ c ∈ run, p c = true := List.all_eq_true.mp inside
  rw [List.takeWhile_append_of_pos all, List.dropWhile_append_of_pos all]
  cases rest with
  | nil => simp
  | cons c rest => simp [stops c rfl]

theorem stops_dropWhile (p : UInt8 → Bool) (text : StdString) :
    ∀ c ∈ (text.dropWhile p).head?, p c = false := by
  intro c here
  have stops := List.head?_dropWhile_not p text
  rw [Option.mem_def.mp here] at stops
  simpa using stops

/-- What is read is written there, and its port ends where the digits end. -/
theorem readEndpoint_eq_some {text rest : StdString} {e : Endpoint} :
    readEndpoint text = some (e, rest) ↔
      text = writeEndpoint e ++ rest ∧ ∀ c ∈ rest.head?, isDigit c = false := by
  constructor
  · intro read
    unfold readEndpoint at read
    split at read
    · next key =>
        obtain ⟨body, rfl⟩ := List.isPrefixOf_iff_prefix.mp key
        rw [List.drop_left] at read
        dsimp only at read
        split at read
        · next tail colon =>
            obtain ⟨found, shape, same⟩ := Option.bind_eq_some_iff.mp read
            cases same
            obtain ⟨host, port⟩ := endpointOf_eq_some shape
            refine ⟨?_, stops_dropWhile isDigit tail⟩
            have cut := List.takeWhile_append_dropWhile (p := isHostChar) (l := body)
            rw [colon] at cut
            rw [writeEndpoint, host, port, List.append_assoc, List.append_assoc, List.cons_append,
              List.takeWhile_append_dropWhile, cut]
        · cases read
    · cases read
  · rintro ⟨rfl, stops⟩
    have key : endpointKey.isPrefixOf (writeEndpoint e ++ rest) = true := by
      rw [List.isPrefixOf_iff_prefix, writeEndpoint, List.append_assoc]
      exact List.prefix_append _ _
    have body : (writeEndpoint e ++ rest).drop endpointKey.length = e.host ++ 58 :: (e.port ++ rest) := by
      simp [writeEndpoint]
    have colon : ∀ c ∈ (58 :: (e.port ++ rest)).head?, isHostChar c = false := by
      rintro c ⟨⟩
      decide
    have host := takeWhile_run e.host_chars colon
    have port := takeWhile_run e.port_digits stops
    unfold readEndpoint
    rw [if_pos key, body]
    dsimp only
    rw [host.1, host.2]
    change readPort e.host (e.port ++ rest) = some (e, rest)
    unfold readPort
    rw [port.1, port.2, endpointOf_self]
    rfl

def endpointPattern : Pattern UInt8 Endpoint where
  read := readEndpoint
  write := writeEndpoint
  write_ne_nil e := by simp [writeEndpoint]
  reads read := (readEndpoint_eq_some.mp read).1

theorem takeWhile_before {p : UInt8 → Bool} {c : UInt8} (stops : p c = false) (run x : StdString) :
    (run ++ c :: x).takeWhile p = run.takeWhile p ∧
      (run ++ c :: x).dropWhile p = run.dropWhile p ++ c :: x := by
  induction run with
  | nil => simp [stops]
  | cons d run ih =>
      rw [List.cons_append, List.takeWhile_cons, List.dropWhile_cons, List.takeWhile_cons,
        List.dropWhile_cons]
      split
      · exact ⟨by rw [ih.1], ih.2⟩
      · exact ⟨rfl, rfl⟩

/-- The part of a text behind the key up to another key. -/
theorem readEndpoint_of_key {text body : StdString} (key : endpointKey.isPrefixOf text = true)
    (rest : text.drop endpointKey.length = body) : readEndpoint text =
      match body.dropWhile isHostChar with
      | 58 :: tail => readPort (body.takeWhile isHostChar) tail
      | _ => none := by
  unfold readEndpoint
  rw [if_pos key, rest]

/-- Before a key that stands behind something, what is read ends before the last character of the
key, which is no part of a host or of a port. -/
theorem readEndpoint_before_key {before : StdString} (filled : before ≠ []) (x : StdString) :
    readEndpoint (before ++ endpointKey ++ x) =
      (readEndpoint (before ++ endpointKey)).map fun found => (found.1, found.2 ++ x) := by
  have long : endpointKey.length ≤ (before ++ endpointKey).length := by simp
  have same : endpointKey <+: before ++ endpointKey ++ x ↔ endpointKey <+: before ++ endpointKey :=
    ⟨fun key => List.prefix_of_prefix_length_le key (List.prefix_append _ _) long,
      fun key => key.trans (List.prefix_append _ _)⟩
  by_cases key : endpointKey <+: before ++ endpointKey
  · -- the key here is `endpoint` with its last character
    have split : endpointKey = ascii "endpoint" ++ [61] := by decide
    have body (y : StdString) : (before ++ endpointKey ++ y).drop endpointKey.length =
        (before ++ ascii "endpoint").drop endpointKey.length ++ 61 :: y := by
      have enough : endpointKey.length ≤ (before ++ ascii "endpoint").length := by
        have := List.length_pos_iff.mpr filled
        have eight : (ascii "endpoint").length = 8 := by decide
        have nine : endpointKey.length = 9 := by decide
        rw [List.length_append, eight, nine]
        omega
      rw [← List.drop_append_of_le_length enough]
      congr 1
      rw [split]
      simp
    have alone := body []
    rw [List.append_nil] at alone
    rw [readEndpoint_of_key (List.isPrefixOf_iff_prefix.mpr (same.mpr key)) (body x),
      readEndpoint_of_key (List.isPrefixOf_iff_prefix.mpr key) alone]
    generalize (before ++ ascii "endpoint").drop endpointKey.length = run
    have host (y : StdString) := takeWhile_before (p := isHostChar) (c := 61) (by decide) run y
    rw [(host x).1, (host x).2, (host []).1, (host []).2]
    cases stopped : run.dropWhile isHostChar with
    | nil => rfl
    | cons c tail =>
        by_cases colon : c = 58
        · subst colon
          have port (y : StdString) := takeWhile_before (p := isDigit) (c := 61) (by decide) tail y
          change readPort _ (tail ++ 61 :: x) = (readPort _ (tail ++ [61])).map _
          unfold readPort
          rw [(port x).1, (port x).2, (port []).1, (port []).2]
          cases endpointOf (run.takeWhile isHostChar) (tail.takeWhile isDigit) with
          | none => rfl
          | some e => simp
        · simp [colon]
  · have none {text : StdString} (absent : ¬ endpointKey <+: text) : readEndpoint text = none := by
      unfold readEndpoint
      rw [if_neg (mt List.isPrefixOf_iff_prefix.mp absent)]
    rw [none key, none (mt same.mp key)]
    rfl

/-- Every match begins with the key, and nothing before a key is read across it. -/
theorem anchored_endpoint : Anchored endpointPattern endpointKey isDigit where
  key_ne_nil := by decide
  key_stops := by
    rintro c ⟨⟩
    decide
  begins e := List.prefix_append _ _
  steady filled x y unread := by
    change readEndpoint _ = none at unread
    change readEndpoint _ = none
    rw [readEndpoint_before_key filled, Option.map_eq_none_iff] at *
    exact unread
  stops read := (readEndpoint_eq_some.mp read).2
  rereads stops := readEndpoint_eq_some.mpr ⟨rfl, stops⟩

end Endpoints

section Ports

/-- What is thrown here: the types are those of the standard library. -/
inductive Failure
  | invalidArgument (text : StdString)
  | outOfRange (text : StdString)
  | runtimeError (text : StdString)
  deriving DecidableEq

/-- A network interface as `getifaddrs` lists it; the address counts where it is one of IPv4. -/
structure Interface where
  hasAddress : Bool
  up : Bool
  running : Bool
  loopback : Bool
  inet : Bool
  octets : UInt8 × UInt8 × UInt8 × UInt8

/-- What the machine answers. The random engine gives a number for each turn of the search for a
port, and each turn knows whether a socket can be opened then and bound to the port drawn. -/
structure Host where
  interfaces : Option (List Interface)
  draws : Nat → Nat
  binds : Nat → Bool

variable (host : Host)

def inetNtop : UInt8 × UInt8 × UInt8 × UInt8 → StdString
  | (a, b, c, d) => stdToString a.toNat ++ 46 :: stdToString b.toNat ++ 46 :: stdToString c.toNat ++
      46 :: stdToString d.toNat

def Interface.isUsable (i : Interface) : Bool :=
  i.hasAddress && i.up && i.running && !i.loopback && i.inet && i.octets != (127, 0, 0, 1)

def getLocalIpAddress : StdString :=
  match host.interfaces with
  | none => []
  | some interfaces =>
      match interfaces.find? Interface.isUsable with
      | some i => inetNtop i.octets
      | none => []

def Host.draw (minPort maxPort turn : Nat) : Nat :=
  minPort + host.draws turn % (maxPort - minPort + 1)

def noPortFound (minPort maxPort : Nat) : Failure :=
  .runtimeError (ascii "No available UDP port found in the range " ++ stdToString minPort ++
    ascii "-" ++ stdToString maxPort)

/-- The turns of the search; a port that was tried is passed over. `none` while it goes on. -/
def portLoop (minPort maxPort : Nat) : Nat → Nat → List Nat → Option (Except Failure Nat)
  | 0, _, _ => none
  | fuel + 1, turn, tried =>
      if tried.length < maxPort - minPort + 1 then
        let port := host.draw minPort maxPort turn
        if port ∈ tried then portLoop minPort maxPort fuel (turn + 1) tried
        else if host.binds turn then some (.ok port)
        else portLoop minPort maxPort fuel (turn + 1) (port :: tried)
      else some (.error (noPortFound minPort maxPort))

def findAvailablePort (fuel minPort maxPort : Nat) : Option (Except Failure Nat) :=
  portLoop host minPort maxPort fuel 0 []

end Ports

section Resolution

variable (host : Host) (fuel : Nat)

def needsPortResolution (channel : StdString) : Bool :=
  Text.contains channel (ascii "endpoint=localhost:0") ||
    Text.contains channel (ascii "endpoint=0.0.0.0:0") || Text.contains channel (ascii ":0")

/-- The text that takes the place of every endpoint holds no `$`, so nothing in it is expanded. -/
def resolveEgressEndpoint (baseChannel : StdString) : Option (Except Failure StdString) :=
  match search endpointPattern baseChannel with
  | none => some (.error (.invalidArgument
      (ascii "Channel endpoint is not in the correct format: expected 'endpoint=HOST:PORT'")))
  | some found =>
      match stoi found.port with
      | none => some (.error (.outOfRange (ascii "stoi")))
      | some port =>
          if port = 0 then
            match findAvailablePort host fuel 40000 59000 with
            | none => none
            | some (.error failure) => some (.error failure)
            | some (.ok newPort) =>
                let machineIp := getLocalIpAddress host
                let resolvedHost := if machineIp.isEmpty then found.host else machineIp
                let newEndpoint := endpointKey ++ (resolvedHost ++ 58 :: stdToString newPort)
                some (.ok (replaceAll endpointPattern newEndpoint baseChannel))
          else some (.ok baseChannel)

end Resolution

end AeronClusterClient.Config.ResponseChannel
