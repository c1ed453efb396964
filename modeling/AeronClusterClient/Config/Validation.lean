/- module: AeronClusterClient/Config/Validation
   source: src/config.cpp (validate), src/cluster_client.cpp (ClusterClientConfigBuilder)
   digest: What a configuration that passes its validation is like, and that it passes again. -/

import AeronClusterClient.Config
import AeronClusterClient.Config.PortSearch

set_option autoImplicit false
set_option relaxedAutoImplicit false

namespace AeronClusterClient.Config.Validation

open Config.ResponseChannel Config.PortSearch Lib.Scan Decimals
open Config (ClusterClientConfig)
open Text (StdString ascii stdToString stoi isDigit digitsValue)

section Settings

/-- `ClusterClientConfig` with the fields that only the validation, the builder and the pauses of a
send read. Times are in milliseconds, those of the publish retries in microseconds. -/
structure Settings extends ClusterClientConfig where
  aeronDir : StdString := ascii "/dev/shm/aeron"
  responseTimeout : Int := 10000
  retryDelay : Int := 500
  applicationName : StdString := ascii "aeron-cluster-cpp"
  enableKeepalive : Bool := true
  keepaliveInterval : Int := 1000
  publishRetryIdleBase : Int := 500
  publishRetryIdleMax : Int := 5000
  publishRateLimitDelay : Int := 0
  debugLogging : Bool := false
  commitLogEnabled : Bool := false

variable (host : Host) (fuel : Nat)

/-- The checks that stand before the response channel is resolved, each with the text it throws. -/
def openingChecks (s : Settings) : List (Bool × StdString) :=
  [(s.clusterEndpoints.isEmpty, ascii "At least one cluster endpoint must be specified"),
    (s.responseChannel.isEmpty, ascii "Response channel cannot be empty")]

/-- The checks that come after it. -/
def closingChecks (s : Settings) : List (Bool × StdString) :=
  [(s.aeronDir.isEmpty, ascii "Aeron directory cannot be empty"),
    (s.responseTimeout ≤ 0, ascii "Response timeout must be positive"),
    (s.maxRetries < 0, ascii "Max retries cannot be negative"),
    (s.keepaliveInterval ≤ 0, ascii "Keepalive interval must be positive"),
    (s.publishMaxRetryAttempts < 1, ascii "Publish max retry attempts must be at least 1"),
    (s.publishRetryIdleBase < 0, ascii "Publish retry idle base cannot be negative"),
    (s.publishRetryIdleMax < 0, ascii "Publish retry idle max cannot be negative"),
    (0 < s.publishRetryIdleMax && s.publishRetryIdleMax < s.publishRetryIdleBase,
      ascii "Publish retry idle max must be >= base delay"),
    (s.deliveryStallWarningTimeout < 0 || s.deliveryStallDisconnectTimeout < 0,
      ascii "Delivery stall timeouts cannot be negative"),
    (0 < s.deliveryStallWarningTimeout && 0 < s.deliveryStallDisconnectTimeout &&
        s.deliveryStallDisconnectTimeout < s.deliveryStallWarningTimeout,
      ascii "Delivery stall warning timeout cannot exceed disconnect timeout")]

/-- The text of the first check that does not pass. -/
def firstFailure (checks : List (Bool × StdString)) : Option StdString :=
  (checks.find? Prod.fst).map Prod.snd

def resolvedChannel (channel : StdString) : Option (Except Failure StdString) :=
  if needsPortResolution channel then resolveEgressEndpoint host fuel channel
  else some (.ok channel)

/-- What is thrown, and the settings that are left; `none` while a port is searched for. A channel
that has been resolved stays so when a later check throws. -/
def validate (s : Settings) : Option (Except Failure Unit × Settings) :=
  match firstFailure (openingChecks s) with
  | some text => some (.error (.invalidArgument text), s)
  | none =>
      match resolvedChannel host fuel s.responseChannel with
      | none => none
      | some (.error failure) => some (.error failure, s)
      | some (.ok channel) =>
          let resolved := { s with responseChannel := channel }
          match firstFailure (closingChecks resolved) with
          | some text => some (.error (.invalidArgument text), resolved)
          | none => some (.ok (), resolved)

end Settings

section Resolved

variable {host : Host} {fuel : Nat}

theorem needsPortResolution_iff {channel : StdString} :
    needsPortResolution channel = true ↔ ascii ":0" <:+: channel := by
  have localhost : ascii ":0" <:+: ascii "endpoint=localhost:0" := ⟨ascii "endpoint=localhost", [], by decide⟩
  have any : ascii ":0" <:+: ascii "endpoint=0.0.0.0:0" := ⟨ascii "endpoint=0.0.0.0", [], by decide⟩
  unfold needsPortResolution Text.contains
  simp only [Bool.or_eq_true, decide_eq_true_eq]
  constructor
  · rintro ((there | there) | there)
    · exact localhost.trans there
    · exact any.trans there
    · exact there
  · exact .inr

theorem infix_of_search {channel : StdString} {e : Endpoint}
    (found : search endpointPattern channel = some e) : writeEndpoint e <:+: channel := by
  obtain ⟨before, piece, after, split, matched, -⟩ := List.findSome?_eq_some_iff.mp found
  have whole := render_scan (P := endpointPattern) channel
  rw [split] at whole
  cases piece with
  | inl c => cases matched
  | inr m =>
      cases matched
      refine ⟨render endpointPattern before, render endpointPattern after, ?_⟩
      rw [← whole]
      simp [render, endpointPattern]

theorem needsPortResolution_of_zero {channel : StdString} {e : Endpoint}
    (found : search endpointPattern channel = some e) (zero : digitsValue e.port = 0) :
    needsPortResolution channel = true := by
  rw [needsPortResolution_iff]
  refine List.IsInfix.trans ?_ (infix_of_search found)
  obtain ⟨c, rest, shape⟩ := List.exists_cons_of_ne_nil e.port_ne_nil
  have all := (digitsValue_eq_zero e.port_digits).mp zero
  rw [shape] at all
  obtain rfl := all c List.mem_cons_self
  refine ⟨endpointKey ++ e.host, rest, ?_⟩
  have colon : ascii ":0" = [58, 48] := by decide
  rw [writeEndpoint, shape, colon]
  simp

theorem isHostChar_of_isDigit {c : UInt8} (digit : isDigit c = true) : isHostChar c = true := by
  unfold isHostChar
  rw [digit]
  simp

theorem all_isHostChar_inetNtop (octets : UInt8 × UInt8 × UInt8 × UInt8) :
    (inetNtop octets).all isHostChar = true := by
  have digits (n : Nat) : ∀ c ∈ stdToString n, isHostChar c = true := fun c among =>
    isHostChar_of_isDigit (List.all_eq_true.mp (all_isDigit_stdToString n) c among)
  have dot : isHostChar 46 = true := by decide
  obtain ⟨a, b, c, d⟩ := octets
  rw [List.all_eq_true]
  intro byte among
  simp only [inetNtop, List.mem_append, List.mem_cons] at among
  rcases among with ((first | rfl | second) | rfl | third) | rfl | fourth
  · exact digits _ byte first
  · exact dot
  · exact digits _ byte second
  · exact dot
  · exact digits _ byte third
  · exact dot
  · exact digits _ byte fourth

theorem all_isHostChar_getLocalIpAddress (host : Host) :
    (getLocalIpAddress host).all isHostChar = true := by
  unfold getLocalIpAddress
  split
  · rfl
  · split
    · exact all_isHostChar_inetNtop _
    · rfl

def resolvedEndpoint (host : Host) (found : Endpoint) (newPort : Nat) : Endpoint where
  host := if (getLocalIpAddress host).isEmpty then found.host else getLocalIpAddress host
  port := stdToString newPort
  host_ne_nil := by
    split
    · exact found.host_ne_nil
    · next filled => simpa using filled
  host_chars := by
    split
    · exact found.host_chars
    · exact all_isHostChar_getLocalIpAddress host
  port_ne_nil := stdToString_ne_nil newPort
  port_digits := all_isDigit_stdToString newPort

structure Resolves (host : Host) (fuel : Nat) (channel resolved : StdString) : Prop where
  found : ∃ e, search endpointPattern resolved = some e ∧ stoi e.port ≠ some 0 ∧
    (stoi e.port).isSome
  how : resolved = channel ∨ ∃ first newPort, search endpointPattern channel = some first ∧
    stoi first.port = some 0 ∧ findAvailablePort host fuel 40000 59000 = some (.ok newPort) ∧
    scan endpointPattern resolved =
      edit (fun _ => resolvedEndpoint host first newPort) (scan endpointPattern channel)

theorem port_bounds {newPort : Nat}
    (ends : findAvailablePort host fuel 40000 59000 = some (.ok newPort)) :
    40000 ≤ newPort ∧ newPort ≤ 59000 := by
  obtain ⟨turn, rfl, -⟩ := chosen_portLoop .start (by decide) ends
  exact draw_bounds (by decide) turn

theorem resolves_of_ok {channel resolved : StdString}
    (ends : resolveEgressEndpoint host fuel channel = some (.ok resolved)) :
    Resolves host fuel channel resolved := by
  unfold resolveEgressEndpoint at ends
  split at ends
  · cases ends
  · next first found =>
      split at ends
      · cases ends
      · next port read =>
          split at ends
          · next zero =>
              subst zero
              split at ends
              · cases ends
              · cases ends
              · next newPort searched =>
                  have written : resolved = replaceAll endpointPattern
                      (endpointPattern.write (resolvedEndpoint host first newPort)) channel := by
                    cases ends
                    rfl
                  subst written
                  have bounds := port_bounds searched
                  have back : stoi (resolvedEndpoint host first newPort).port = some (newPort : Int) :=
                    stoi_stdToString (by omega)
                  refine ⟨⟨resolvedEndpoint host first newPort, ?_, ?_, ?_⟩,
                    .inr ⟨first, newPort, found, read, searched, ?_⟩⟩
                  · rw [search_replaceAll anchored_endpoint, found]
                    rfl
                  · rw [back]
                    intro none
                    have zero : (newPort : Int) = 0 := Option.some.inj none
                    omega
                  · rw [back]
                    rfl
                  · exact scan_replaceAll anchored_endpoint _ _
          · next other =>
              cases ends
              refine ⟨⟨first, found, ?_, ?_⟩, .inl rfl⟩
              · rw [read]
                exact fun same => other (Option.some.inj same)
              · rw [read]
                rfl

/-- A channel whose first endpoint has a port of its own is left alone, on every machine. -/
theorem resolveEgressEndpoint_of_port {channel : StdString} {e : Endpoint}
    (found : search endpointPattern channel = some e) (port : stoi e.port ≠ some 0)
    (fits : (stoi e.port).isSome) (host : Host) (fuel : Nat) :
    resolveEgressEndpoint host fuel channel = some (.ok channel) := by
  obtain ⟨value, read⟩ := Option.isSome_iff_exists.mp fits
  unfold resolveEgressEndpoint
  rw [found]
  dsimp only
  rw [read]
  dsimp only
  rw [if_neg]
  rintro rfl
  exact port read

end Resolved

section Validated

variable {host : Host} {fuel : Nat} {s after : Settings}

theorem firstFailure_eq_none {checks : List (Bool × StdString)} :
    firstFailure checks = none ↔ ∀ check ∈ checks, check.1 = false := by
  simp [firstFailure, List.find?_eq_none]

theorem validate_eq_ok : validate host fuel s = some (.ok (), after) ↔
    firstFailure (openingChecks s) = none ∧ ∃ channel,
      resolvedChannel host fuel s.responseChannel = some (.ok channel) ∧
      after = { s with responseChannel := channel } ∧ firstFailure (closingChecks after) = none := by
  constructor
  · intro valid
    unfold validate at valid
    split at valid
    · cases valid
    · next opening =>
        refine ⟨opening, ?_⟩
        split at valid
        · cases valid
        · cases valid
        · next channel resolved =>
            dsimp only at valid
            split at valid
            · cases valid
            · next closing =>
                cases valid
                exact ⟨channel, resolved, rfl, closing⟩
  · rintro ⟨opening, channel, resolved, rfl, closing⟩
    unfold validate
    rw [opening]
    dsimp only
    rw [resolved]
    dsimp only
    rw [closing]

/-- What holds of settings that a validation has left. -/
structure Settled (s after : Settings) : Prop where
  /-- Nothing but the response channel is changed. -/
  frame : after = { s with responseChannel := after.responseChannel }
  /-- The validation passes again on every machine, and changes nothing any more. -/
  again : ∀ host fuel, validate host fuel after = some (.ok (), after)
  /-- The first endpoint of the channel has no port 0 left. -/
  port : ∀ e, search endpointPattern after.responseChannel = some e → stoi e.port ≠ some 0
  /-- The channel is the old one, or the old one with one new endpoint in the place of all. -/
  channel : after.responseChannel = s.responseChannel ∨
    ∃ first e, ∃ newPort : Nat, search endpointPattern s.responseChannel = some first ∧
      stoi first.port = some 0 ∧ 40000 ≤ newPort ∧ newPort ≤ 59000 ∧ e.port = stdToString newPort ∧
      scan endpointPattern after.responseChannel =
        edit (fun _ => e) (scan endpointPattern s.responseChannel)

/-- A resolved channel is resolved: whether or not it is looked at again, it stays. -/
theorem resolvedChannel_again {channel resolved : StdString}
    (ends : resolvedChannel host fuel channel = some (.ok resolved)) (other : Host) (more : Nat) :
    resolvedChannel other more resolved = some (.ok resolved) := by
  unfold resolvedChannel at ends
  split at ends
  · obtain ⟨e, found, port, fits⟩ := (resolves_of_ok ends).found
    unfold resolvedChannel
    rw [resolveEgressEndpoint_of_port found port fits]
    exact ite_self _
  · next plain =>
      cases ends
      exact if_neg plain

theorem nonempty_of_search {channel : StdString} {e : Endpoint}
    (found : search endpointPattern channel = some e) : channel.isEmpty = false := by
  cases channel with
  | nil => cases found
  | cons c channel => rfl

/-- Validating settles: what passes once is left with an endpoint that has a port, and passes on
every machine without another change. -/
theorem validate_settles (valid : validate host fuel s = some (.ok (), after)) :
    Settled s after := by
  obtain ⟨opening, channel, resolved, rfl, closing⟩ := validate_eq_ok.mp valid
  have stays := resolvedChannel_again resolved
  have ends := resolved
  unfold resolvedChannel at ends
  split at ends
  · have resolves := resolves_of_ok ends
    obtain ⟨e, found, port, -⟩ := resolves.found
    have filled := nonempty_of_search found
    refine ⟨rfl, fun host fuel => ?_, fun other there => ?_, ?_⟩
    · refine validate_eq_ok.mpr ⟨?_, channel, stays host fuel, rfl, closing⟩
      rw [firstFailure_eq_none] at opening ⊢
      simp only [openingChecks, List.mem_cons, List.not_mem_nil, or_false, forall_eq_or_imp,
        forall_eq] at opening ⊢
      exact ⟨opening.1, filled⟩
    · cases found.symm.trans there
      exact port
    · rcases resolves.how with same | ⟨first, newPort, old, zero, searched, scanned⟩
      · exact .inl same
      · obtain ⟨low, high⟩ := port_bounds searched
        exact .inr ⟨first, _, newPort, old, zero, low, high, rfl, scanned⟩
  · next plain =>
      cases ends
      refine ⟨rfl, fun host fuel => ?_, fun e found => ?_, .inl rfl⟩
      · exact validate_eq_ok.mpr ⟨opening, _, stays host fuel, rfl, closing⟩
      · intro zero
        refine plain (needsPortResolution_of_zero found ?_)
        rw [stoi_of_digits e.port_ne_nil e.port_digits] at zero
        split at zero
        · exact Int.ofNat_eq_zero.mp (Option.some.inj zero)
        · cases zero

def oneAddress : Host where
  interfaces := some [⟨true, true, true, true, true, (127, 0, 0, 1)⟩,
    ⟨true, true, true, false, true, (10, 0, 0, 7)⟩]
  draws _ := 2345
  binds _ := true

theorem validate_settles_sample :
    Settled {} { ({} : Settings) with responseChannel := ascii "aeron:udp?endpoint=10.0.0.7:42345" } :=
  validate_settles (validate_eq_ok.mpr ⟨by decide, _, rfl, rfl, by decide +kernel⟩ :
    validate oneAddress 1 {} = _)

end Validated

end AeronClusterClient.Config.Validation
