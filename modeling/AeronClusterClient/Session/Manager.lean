/- module: AeronClusterClient/Session/Manager
   source: src/session_manager.cpp, include/aeron_cluster/session_manager.hpp
   digest: The session manager: its state, the handlers of session events and offer results, and the sends. -/

import AeronClusterClient.Config
import AeronClusterClient.Sbe.Parser

/-!
Several threads share a session manager: the polling thread handles session
events while a user thread connects or publishes. A program of one thread is a
computation over `Machine`; whenever it looks at shared state it first lets the
`World` apply what the other threads did since its last look. The world also
answers every call into Aeron.
-/

set_option autoImplicit false
set_option relaxedAutoImplicit false

namespace AeronClusterClient.Session.Manager

open Lib.LittleEndian Sbe.GeneratedCodec Sbe.Encoder Sbe.Parser
open Config (ClusterClientConfig)
open Text (StdString ascii stdToString)

def SESSION_EVENT_OK : Int := 0
def SESSION_EVENT_ERROR : Int := 1
def SESSION_EVENT_REDIRECT : Int := 2
def SESSION_EVENT_AUTHENTICATION_REJECTED : Int := 3
def SESSION_EVENT_CLOSED : Int := 4

/-- The results of an offer that Aeron reserves, and the driver error code of session_manager.cpp. -/
def NOT_CONNECTED : Int := -1
def BACK_PRESSURED : Int := -2
def ADMIN_ACTION : Int := -3
def PUBLICATION_CLOSED : Int := -4
def MAX_POSITION_EXCEEDED : Int := -5
def kAeronPublicationErrorCode : Int := -6

inductive OfferFailureCode
  | none
  | notConnected
  | backPressured
  | adminAction
  | publicationClosed
  | maxPositionExceeded
  | driverError
  | unknown
  deriving DecidableEq, Repr

/-- What the ingress publication reports through `isConnected()`. -/
structure Publication where
  connected : Bool
  deriving DecidableEq, Repr

structure SessionStats where
  messagesSent : Nat := 0
  keepalivesSent : Nat := 0
  keepalivesFailed : Nat := 0
  sessionEventsReceived : Nat := 0
  redirectsReceived : Nat := 0
  deriving DecidableEq, Repr

/-- A call of one of the two registered callbacks, in the order in which they are made. -/
inductive Notice
  | connectionState (connected : Bool)
  | sessionEvent (result : ParseResult)
  deriving DecidableEq, Repr

def writeUInt16LE (buffer : List UInt8) (offset value : Nat) : List UInt8 :=
  (buffer.set offset (UInt8.ofNat (value % 256))).set (offset + 1)
    (UInt8.ofNat ((value >>> 8) % 256))

@[irreducible] def writeInt64LE (buffer : List UInt8) (offset : Nat) (value : Int) : List UInt8 :=
  (List.range 8).foldl (fun buffer i => buffer.set (offset + i) (byteAt i value)) buffer

/-- The four fields of the SBE header at the front of a pre-built buffer. -/
def writeHeaderLE (buffer : List UInt8) (header : MessageHeader) : List UInt8 :=
  let buffer := writeUInt16LE buffer 0 header.blockLength
  let buffer := writeUInt16LE buffer 2 header.templateId
  let buffer := writeUInt16LE buffer 4 header.schemaId
  writeUInt16LE buffer 6 header.version

def createSessionMessageHeaderBuffer (buffer : List UInt8) : List UInt8 :=
  let buffer := writeHeaderLE (Lib.Bytes.resize buffer 32) ⟨24, 1, 111, 8⟩
  let buffer := writeInt64LE buffer 8 0
  let buffer := writeInt64LE buffer 16 0
  writeInt64LE buffer 24 0

def createKeepaliveBuffer (buffer : List UInt8) : List UInt8 :=
  let buffer := writeHeaderLE (Lib.Bytes.resize buffer 24)
    ⟨16, SESSION_KEEPALIVE_TEMPLATE_ID, CLUSTER_SCHEMA_ID, CLUSTER_SCHEMA_VERSION⟩
  let buffer := writeInt64LE buffer 8 0
  writeInt64LE buffer 16 0

/-- The fields of `SessionManager::Impl`, with the callbacks it has made and the frames it has offered. -/
structure SessionState where
  ingressPublication : Option Publication := none
  sessionId : Int := -1
  leaderMemberId : Int := 0
  leadershipTermId : Int := -1
  connected : Bool := false
  redirectedToMemberId : Int := -1
  correlationId : Int := 0
  stats : SessionStats := {}
  lastOfferErrorCode : Int := 0
  lastOfferErrorMessage : StdString := []
  sessionHeaderBuffer : List UInt8 := createSessionMessageHeaderBuffer []
  keepaliveBuffer : List UInt8 := createKeepaliveBuffer []
  /-- How many detached keepalive threads have been started. -/
  keepaliveThreads : Nat := 0
  notices : List Notice := []
  offered : List (List UInt8 × Int) := []
  /-- How many notices had been made when a `SessionConnectRequest` was last accepted. -/
  noticesAtRequest : Nat := 0
  deriving DecidableEq, Repr

namespace SessionState

variable (s : SessionState)

def publicationConnected : Bool :=
  match s.ingressPublication with
  | some publication => publication.connected
  | none => false

def isConnected : Bool :=
  s.connected && s.publicationConnected && 0 < s.sessionId && 0 < s.leadershipTermId

def notify (notice : Notice) : SessionState := { s with notices := s.notices ++ [notice] }

def updateSessionHeader : SessionState :=
  let buffer := writeInt64LE s.sessionHeaderBuffer 8 s.leadershipTermId
  let buffer := writeInt64LE buffer 16 s.sessionId
  { s with sessionHeaderBuffer := writeInt64LE buffer 24 0 }

def updateKeepaliveBuffer : SessionState :=
  let buffer := writeInt64LE s.keepaliveBuffer 8 s.leadershipTermId
  { s with keepaliveBuffer := writeInt64LE buffer 16 s.sessionId }

def handleSessionRedirect (result : ParseResult) : SessionState :=
  { s with
    stats.redirectsReceived := s.stats.redirectsReceived + 1
    redirectedToMemberId := result.leaderMemberId
    leaderMemberId := result.leaderMemberId }

/-- The session id is taken from the correlation id field of the event. -/
def handleSessionOk (result : ParseResult) : SessionState :=
  let s : SessionState :=
    { s with
      sessionId := result.correlationId
      connected := true
      leadershipTermId := result.leadershipTermId
      leaderMemberId := result.leaderMemberId }
  s.updateSessionHeader.updateKeepaliveBuffer.notify (.connectionState true)

def handleSessionError : SessionState :=
  { s with connected := false }.notify (.connectionState false)

def handleSessionClosed : SessionState :=
  { s with connected := false, sessionId := -1 }.notify (.connectionState false)

def handleSessionEvent (result : ParseResult) : SessionState :=
  if !result.isSessionEvent then s
  else
    let s : SessionState := { s with stats.sessionEventsReceived := s.stats.sessionEventsReceived + 1 }
    let s :=
      if result.eventCode = SESSION_EVENT_OK then s.handleSessionOk result
      else if result.eventCode = SESSION_EVENT_REDIRECT then s.handleSessionRedirect result
      else if result.eventCode = SESSION_EVENT_ERROR ∨
          result.eventCode = SESSION_EVENT_AUTHENTICATION_REJECTED then s.handleSessionError
      else if result.eventCode = SESSION_EVENT_CLOSED then s.handleSessionClosed
      else s
    s.notify (.sessionEvent result)

def clearLastPublicationError : SessionState :=
  { s with lastOfferErrorCode := 0, lastOfferErrorMessage := [] }

def requestAccepted : SessionState :=
  { s.clearLastPublicationError with noticesAtRequest := s.notices.length }

def updateLastPublicationError (code : Int) (message : StdString) : SessionState :=
  { s with lastOfferErrorCode := code, lastOfferErrorMessage := message }

def handleConnectionLoss : SessionState :=
  if s.connected then { s with connected := false }.notify (.connectionState false) else s

end SessionState

def classifyOfferFailure (result : Int) : OfferFailureCode :=
  if 0 < result then .none
  else if result = NOT_CONNECTED then .notConnected
  else if result = BACK_PRESSURED then .backPressured
  else if result = ADMIN_ACTION then .adminAction
  else if result = PUBLICATION_CLOSED then .publicationClosed
  else if result = MAX_POSITION_EXCEEDED then .maxPositionExceeded
  else if result = kAeronPublicationErrorCode then .driverError
  else .unknown

def describeOfferFailure (result : Int) : StdString :=
  if result = NOT_CONNECTED then
    ascii "AERON_PUBLICATION_NOT_CONNECTED (-1): ingress publication is not connected"
  else if result = BACK_PRESSURED then
    ascii "AERON_PUBLICATION_BACK_PRESSURED (-2): subscribers are applying back pressure"
  else if result = ADMIN_ACTION then
    ascii "AERON_PUBLICATION_ADMIN_ACTION (-3): driver administration is in progress"
  else if result = PUBLICATION_CLOSED then
    ascii "AERON_PUBLICATION_CLOSED (-4): publication is closed and must be recreated"
  else if result = MAX_POSITION_EXCEEDED then
    ascii "AERON_PUBLICATION_MAX_POSITION_EXCEEDED (-5): publication reached its maximum position"
  else if result = kAeronPublicationErrorCode then
    ascii "AERON_PUBLICATION_ERROR (-6): driver reported a publication error"
  else if result = 0 then
    ascii "Offer returned 0: publication is not ready for the message yet"
  else
    ascii "Unknown Aeron publication status (" ++ stdToString result ++ ascii ")"

def isTransientFailure (code : OfferFailureCode) : Bool :=
  code == .backPressured || code == .adminAction

def isConnectionLossFailure : OfferFailureCode → Bool
  | .notConnected | .publicationClosed | .maxPositionExceeded | .driverError => true
  | _ => false

def SessionState.handleOfferFailure (s : SessionState) (result : Int) : SessionState :=
  let code := classifyOfferFailure result
  if code = .none then s.clearLastPublicationError
  else
    let s := s.updateLastPublicationError result (describeOfferFailure result)
    if isConnectionLossFailure code then s.handleConnectionLoss else s

/-- What another thread, or the publication itself, does to a session between two looks at it. -/
inductive Event
  | session (result : ParseResult)
  | offerFailed (result : Int)
  | publication (connected : Bool)
  deriving DecidableEq, Repr

def SessionState.apply (s : SessionState) : Event → SessionState
  | .session result => s.handleSessionEvent result
  | .offerFailed result => s.handleOfferFailure result
  | .publication connected =>
      { s with ingressPublication := s.ingressPublication.map (fun _ => { connected := connected }) }

def redirectEvent (leaderMemberId : Int) : ParseResult :=
  { success := true
    templateId := SESSION_EVENT_TEMPLATE_ID
    schemaId := CLUSTER_SCHEMA_ID
    eventCode := SESSION_EVENT_REDIRECT
    leaderMemberId := leaderMemberId }

/-- Everything a session manager does not decide itself, indexed by the number of looks taken so far. -/
structure World where
  /-- What the other threads have done since the last look. -/
  events : Nat → List Event := fun _ => []
  offer : Nat → Except StdString Int := fun _ => .ok 1
  addExclusivePublication : Nat → Except StdString Unit := fun _ => .ok ()
  findExclusivePublication : Nat → Option Publication := fun _ => some { connected := true }
  /-- How often a waiting loop runs its body before its deadline has passed. -/
  waits : Nat → Nat := fun _ => 1
  now : Nat → Int := fun _ => 0

/-- A session together with the number of looks taken so far. -/
structure Machine where
  session : SessionState
  looks : Nat := 0
  deriving DecidableEq, Repr

abbrev SessionM := EStateM StdString Machine

section Sends

variable (config : ClusterClientConfig) (world : World)

/-- Look at the shared state, after what the other threads did. -/
def look : SessionM SessionState := do
  let m ← get
  let session := (world.events m.looks).foldl SessionState.apply m.session
  set ({ session := session, looks := m.looks + 1 } : Machine)
  return session

def update (f : SessionState → SessionState) : SessionM Unit :=
  modify (fun m => { m with session := f m.session })

/-- Offer a buffer of the session: what counts is what it holds when it is offered. -/
def offerBuffer (buffer : SessionState → List UInt8) : SessionM Int := do
  let _ ← look world
  let result ← ofExcept (world.offer (← get).looks)
  update (fun s => { s with offered := s.offered ++ [(buffer s, result)] })
  return result

def offer (frame : List UInt8) : SessionM Int := offerBuffer world (fun _ => frame)

def effectivePublishRetryAttempts : Nat := (max 1 config.publishMaxRetryAttempts).toNat

/-- The retry loop that `send_raw_message` and `send_combined_message` share. -/
def offerLoop (frame : List UInt8) : Nat → SessionM Bool
  | 0 => return false
  | attempts + 1 => do
      let result ← offer world frame
      if 0 < result then
        update (fun s =>
          { s.clearLastPublicationError with stats.messagesSent := s.stats.messagesSent + 1 })
        return true
      update (fun s => s.handleOfferFailure result)
      if !isTransientFailure (classifyOfferFailure result) || attempts == 0 then return false
      offerLoop frame attempts

def sendRawMessage (encodedMessage : List UInt8) : SessionM Bool := do
  if !(← look world).isConnected then return false
  tryCatch (offerLoop world encodedMessage (effectivePublishRetryAttempts config))
    (fun _ => return false)

/-- The connection is checked once without the send mutex and once with it. -/
def sendCombinedMessage (businessMessage : List UInt8) : SessionM Bool := do
  if !(← look world).isConnected then return false
  let s ← look world
  if !s.isConnected then return false
  tryCatch (offerLoop world (s.sessionHeaderBuffer ++ businessMessage)
      (effectivePublishRetryAttempts config))
    (fun _ => return false)

/-- The body of the keepalive loop: the pre-built buffer is offered at most three times. -/
def keepaliveLoop : Nat → SessionM Bool
  | 0 => return false
  | attempts + 1 => do
      let result ← offerBuffer world SessionState.keepaliveBuffer
      if 0 < result then
        update (fun s =>
          { s.clearLastPublicationError with stats.keepalivesSent := s.stats.keepalivesSent + 1 })
        return true
      update (fun s => s.handleOfferFailure result)
      if isTransientFailure (classifyOfferFailure result) then keepaliveLoop attempts
      else return false

def countFailedKeepalive : SessionM Bool := do
  update (fun s => { s with stats.keepalivesFailed := s.stats.keepalivesFailed + 1 })
  return false

def sendKeepalive : SessionM Bool := do
  let s ← look world
  if !s.isConnected || s.leadershipTermId == -1 || s.sessionId == -1 then return false
  tryCatch (do if ← keepaliveLoop world 3 then return true else countFailedKeepalive)
    (fun _ => countFailedKeepalive)

def publishMessage (topic messageType messageId payload headers : StdString) : SessionM Bool := do
  if !(← look world).isConnected then return false
  tryCatch (do
      let businessMessage ← ofExcept
        (createTopicMessage topic messageType messageId payload headers (world.now (← get).looks))
      sendCombinedMessage config world businessMessage)
    (fun _ => return false)

def sendSessionConnectRequest : SessionM Bool :=
  tryCatch (do
      let s ← look world
      let encodedMessage := encodeSessionConnectRequest s.correlationId config.egressStreamId
        config.responseChannel config.protocolSemanticVersion
      let result ← offer world encodedMessage
      if 0 < result then
        update SessionState.requestAccepted
        return true
      update (fun s => s.handleOfferFailure result)
      return false)
    (fun _ => return false)

/-- The close request is sent through `send_raw_message`, at most three times. -/
def sendCloseRequest (closeRequest : List UInt8) : Nat → SessionM Unit
  | 0 => return ()
  | attempts + 1 => do
      if ← sendRawMessage config world closeRequest then return ()
      sendCloseRequest closeRequest attempts

def disconnect : SessionM Unit := do
  let s ← look world
  if 0 < s.sessionId ∧ 0 < s.leadershipTermId ∧ s.ingressPublication.isSome then
    if s.publicationConnected || s.connected then
      sendCloseRequest config world
        (encodeSessionCloseRequest s.leadershipTermId s.sessionId) 3
  update (fun s => { s with ingressPublication := none, connected := false, sessionId := -1 })

end Sends

end AeronClusterClient.Session.Manager
