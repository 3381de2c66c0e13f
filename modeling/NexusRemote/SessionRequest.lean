import NexusRemote.ControlStore
import NexusRemote.PolicyEngine
import NexusRemote.RelayTokens

/-!
# Session requests (`apps/nexusd/src/routes.rs`, `state.rs`)

`request_session_handler` is an asynchronous function: between two of its awaits
other calls of it may run against the same state. A call is a task with a phase
for every point where it can be suspended; `Task.advance` runs it from one such
point to the next. The clock, the random numbers and the failures of the
database and of the audit sink are inputs.
-/

namespace SessionRequest

open BigEndian EntityId PolicyModel PolicyEngine RelayTokens AuditLog ControlStore

structure SessionRequestPayload where
  organizationId : TenantId
  subjectUserId : UserId
  clientDeviceId : DeviceId
  targetDeviceId : DeviceId
  requestedActions : List String
  clientEphemeralPublicKey : Bytes
  deriving DecidableEq

structure SessionCapability where
  version : UInt32
  issuer : String
  sessionId : String
  subjectUserId : String
  clientDeviceId : String
  targetDeviceId : String
  permissions : List String
  restrictions : Bytes
  notBefore : UInt64
  expiresAt : UInt64
  nonce : Bytes
  agentMinProtocol : UInt32
  agentMaxProtocol : UInt32
  clientEphemeralPublicKey : Bytes
  signature : Bytes
  deriving DecidableEq

structure SessionAuthorizationResponse where
  sessionId : SessionId
  capabilityBytes : Bytes
  relayId : String
  clientRelayToken : RelayToken
  hostRelayToken : RelayToken
  expiresAt : UInt64

inductive StatusCode where
  | badRequest
  | unauthorized
  | forbidden
  | notFound
  | internalServerError
  deriving DecidableEq, Repr

/-- A status code with the text of its `ErrorResponse`. -/
structure ErrorReply where
  status : StatusCode
  error : String
  deriving DecidableEq, Repr

def internal (error : String) : ErrorReply := ⟨.internalServerError, error⟩

/-- `storage_error_response`: whatever the failure was, the caller learns only this. -/
def storageErrorResponse : ErrorReply := internal "control-plane storage failure"

/-- The part of `AppState` that no request changes, with the encoders of other crates. -/
structure AppState where
  signingKey : SigningKey
  controlPlaneId : String
  defaultRelayId : String
  policyEngine : Engine
  digest : Digest
  /-- The Protobuf encoding of a capability, or the text of the encoder's error. -/
  encodeCapability : SessionCapability → Except String Bytes

/-- The roles that `AppState::new` installs. -/
def defaultEngine : Engine :=
  Engine.new
    [(Role.new "admin").withActions Action.all,
      (Role.new "operator").withActions [.desktopView, .desktopControl]]

/-- `AppState::new`. -/
def AppState.new (signingKey : SigningKey) (controlPlaneId : String) (digest : Digest)
    (encodeCapability : SessionCapability → Except String Bytes) : AppState where
  signingKey := signingKey
  controlPlaneId := controlPlaneId
  defaultRelayId := "relay-nexus-primary"
  policyEngine := defaultEngine
  digest := digest
  encodeCapability := encodeCapability

/-- The part of `AppState` behind locks and connections. -/
structure Shared where
  database : Database
  auditChain : AuditChain
  auditSink : List ChainedAuditEvent

/-! ## The decision -/

def subjectOf (payload : SessionRequestPayload) : SubjectContext where
  userId := payload.subjectUserId
  roles := ["admin", "operator"]
  mfaAuthenticated := true
  clientDeviceManaged := true
  clientIp := none

def resourceOf (payload : SessionRequestPayload) : ResourceContext where
  targetDeviceId := payload.targetDeviceId
  deviceLabels := ∅
  activeSessionsOnDevice := []

def primaryAction : Action := .desktopView

def decision (state : AppState) (payload : SessionRequestPayload) : EvaluationDecision :=
  state.policyEngine.evaluate (subjectOf payload) (resourceOf payload) primaryAction

/-! ## Building what an authorized request receives -/

def ttlSecs : UInt64 := 120

/-- Sixteen random bytes in hexadecimal behind `sess-` are always an identifier. -/
theorem sessionId_valid (uuid : Octets 16) : validateId ("sess-" ++ hex uuid.1) = .ok () := by
  rw [validateId_ok, String.utf8ByteSize_append, utf8ByteSize_hex, uuid.2]
  refine ⟨by decide, by decide, ?_⟩
  intro c hc
  rw [String.toList_append, List.mem_append] at hc
  rcases hc with hc | hc
  · have hstart : ("sess-".toList.all fun c => !refused c) = true := by decide
    simpa using List.all_eq_true.mp hstart c hc
  · exact not_refused_of_mem_hex _ c hc

/-- `SessionId::new` of `sess-` and `uuid_simple()`, which cannot fail. -/
def newSessionId (uuid : Octets 16) : SessionId := ⟨"sess-" ++ hex uuid.1, sessionId_valid uuid⟩

def permissionsOf (granted : ActionSet) : List String :=
  (ActionSet.iter granted).map Action.asStr

/-- The capability before it is signed. -/
def unsignedCapability (state : AppState) (payload : SessionRequestPayload) (now : UInt64)
    (sessionId : SessionId) (granted : ActionSet) (nonce : Octets 16) : SessionCapability where
  version := 1
  issuer := state.controlPlaneId
  sessionId := sessionId.value
  subjectUserId := payload.subjectUserId.value
  clientDeviceId := payload.clientDeviceId.value
  targetDeviceId := payload.targetDeviceId.value
  permissions := permissionsOf granted
  restrictions := []
  notBefore := now
  expiresAt := now + ttlSecs
  nonce := nonce.1
  agentMinProtocol := 1
  agentMaxProtocol := 1
  clientEphemeralPublicKey := payload.clientEphemeralPublicKey
  signature := []

/-- The signed token of one endpoint; `name` stands in the text of the error. -/
def relayTokenFor (state : AppState) (payload : SessionRequestPayload) (now : UInt64)
    (sessionId : SessionId) (role : EndpointRole) (name : String) : Except ErrorReply RelayToken :=
  let builder : RelayTokenBuilder :=
    { sessionId := some sessionId
      relayId := some state.defaultRelayId
      clientDeviceId := some payload.clientDeviceId
      targetDeviceId := some payload.targetDeviceId
      role := some role
      expiresAt := some (now + ttlSecs) }
  match builder.build with
  | .ok token => .ok (token.sign state.signingKey)
  | .error e => .error (internal ("failed to build " ++ name ++ " relay token: " ++ e.message))

/-- What the handler has built for an authorized request before it stores anything.
The response carries the encoding of the signed capability. -/
structure Issue (state : AppState) where
  capability : SessionCapability
  record : AuthorizedSessionRecord
  response : SessionAuthorizationResponse
  signed : ∃ rawBytes, state.encodeCapability { capability with signature := [] } = .ok rawBytes ∧
    capability.signature = (state.signingKey rawBytes).1
  encoded : state.encodeCapability capability = .ok response.capabilityBytes

/-- Signs the capability and builds the tokens, the row and the response. -/
def authorize (state : AppState) (payload : SessionRequestPayload) (now : UInt64)
    (granted : ActionSet) (uuid nonce : Octets 16) : Except ErrorReply (Issue state) :=
  let sessionId := newSessionId uuid
  let unsigned := unsignedCapability state payload now sessionId granted nonce
  match hraw : state.encodeCapability unsigned with
  | .error e => .error (internal ("failed to encode capability: " ++ e))
  | .ok rawBytes =>
    let capability := { unsigned with signature := (state.signingKey rawBytes).1 }
    match hsigned : state.encodeCapability capability with
    | .error e => .error (internal ("failed to encode signed capability: " ++ e))
    | .ok signedCapBytes =>
      match relayTokenFor state payload now sessionId .client "client" with
      | .error e => .error e
      | .ok clientRelayToken =>
        match relayTokenFor state payload now sessionId .host "host" with
        | .error e => .error e
        | .ok hostRelayToken =>
          .ok
            { capability := capability
              record :=
                { sessionId := sessionId
                  organizationId := payload.organizationId
                  userId := payload.subjectUserId
                  clientDeviceId := payload.clientDeviceId
                  targetDeviceId := payload.targetDeviceId
                  relayId := state.defaultRelayId
                  permissions := permissionsOf granted
                  createdAt := now
                  status := "authorized" }
              response :=
                { sessionId := sessionId
                  capabilityBytes := signedCapBytes
                  relayId := state.defaultRelayId
                  clientRelayToken := clientRelayToken
                  hostRelayToken := hostRelayToken
                  expiresAt := now + ttlSecs }
              signed := ⟨rawBytes, hraw, rfl⟩
              encoded := hsigned }

/-- The audit event of an authorization. -/
def authorizeEvent (state : AppState) (payload : SessionRequestPayload) (now : UInt64)
    (sessionId : SessionId) : AuditEventBuilder :=
  { eventId := some ("evt-auth-" ++ sessionId.value)
    timestamp := some now
    organizationId := some payload.organizationId
    userId := some payload.subjectUserId
    deviceId := some payload.targetDeviceId
    sessionId := some sessionId
    eventType := some .sessionAuthorize
    metadata := some (.object [("client_device_id", .string payload.clientDeviceId.value),
      ("relay_id", .string state.defaultRelayId)]) }

/-- The audit event of a denial; its identifier has nothing of the request but the second. -/
def denyEvent (payload : SessionRequestPayload) (now : UInt64) (reason : DenialReason) :
    AuditEventBuilder :=
  { eventId := some ("evt-deny-" ++ toString now.toNat)
    timestamp := some now
    organizationId := some payload.organizationId
    userId := some payload.subjectUserId
    deviceId := some payload.targetDeviceId
    eventType := some .sessionDeny
    metadata := some (.object [("reason", .string reason.message)]) }

/-! ## The handler, from await to await -/

/-- What the handler answers; of an authorization the capability is kept beside the response. -/
abbrev Answer (state : AppState) := Except ErrorReply (Issue state)

/-- Where a call is suspended, with the local variables that it still needs. -/
inductive Phase (state : AppState) where
  /-- Waiting for `get_device`. -/
  | lookup
  /-- Waiting for `persist_authorized_session`. -/
  | persist (issue : Issue state)
  /-- About to append to the audit chain, which happens under its lock. -/
  | append (event : AuditEvent) (answer : Answer state)
  /-- Waiting for `insert_audit_event`, with the chain as it was before the event. -/
  | insertAudit (previousChain : AuditChain) (chained : ChainedAuditEvent) (answer : Answer state)
  /-- Waiting for the audit sink. -/
  | recordSink (chained : ChainedAuditEvent) (answer : Answer state)
  | answered (answer : Answer state)

/-- One call of the handler. -/
structure Task (state : AppState) where
  payload : SessionRequestPayload
  now : UInt64
  phase : Phase state

/-- What one turn of a task takes from outside: a failure of the awaited operation
and the random numbers drawn. -/
structure Inputs where
  fault : Option String
  uuid : Octets 16
  nonce : Octets 16

/-- `record_audit` is skipped when the event cannot be built. -/
def auditThen {state : AppState} (builder : AuditEventBuilder) (answer : Answer state) : Phase state :=
  match builder.build with
  | .ok event => .append event answer
  | .error _ => .answered answer

/-- After `get_device`: the checks, the decision and everything up to the next await. -/
def authorizeOrDeny (state : AppState) (payload : SessionRequestPayload) (now : UInt64) (inputs : Inputs)
    (device : Option RegisteredDevice) : Phase state :=
  match device with
  | none => .answered (.error
      ⟨.notFound, "target device " ++ payload.targetDeviceId.value ++ " not found"⟩)
  | some device =>
    if !device.isActive then .answered (.error ⟨.forbidden, "target device is not active"⟩)
    else
      match decision state payload with
      | .allowed granted _ _ =>
        match authorize state payload now granted inputs.uuid inputs.nonce with
        | .ok issue => .persist issue
        | .error e => .answered (.error e)
      | .denied reason =>
        auditThen (denyEvent payload now reason)
          (.error ⟨.forbidden, "session access denied by policy: " ++ reason.message⟩)

/-- The outcome of a database operation that may fail for reasons of its own. -/
def attempt {α : Type} (inputs : Inputs) (operation : Except StorageError α) :
    Except StorageError α :=
  match inputs.fault with
  | some text => .error (.database text)
  | none => operation

/-- Runs a call up to its next await. -/
def advance (state : AppState) (shared : Shared) (payload : SessionRequestPayload) (now : UInt64)
    (inputs : Inputs) : Phase state → Phase state × Shared
  | .lookup =>
    match attempt inputs (shared.database.getDevice payload.targetDeviceId) with
    | .error _ => (.answered (.error storageErrorResponse), shared)
    | .ok device => (authorizeOrDeny state payload now inputs device, shared)
  | .persist issue =>
    match attempt inputs (shared.database.insertAuthorizedSession issue.record) with
    | .error _ => (.answered (.error storageErrorResponse), shared)
    | .ok database =>
      (auditThen (authorizeEvent state payload now issue.response.sessionId) (.ok issue),
        { shared with database := database })
  | .append event answer =>
    match shared.auditChain.append state.digest event with
    | .error _ => (.answered (.error storageErrorResponse), shared)
    | .ok (chained, chain) =>
      (.insertAudit shared.auditChain chained answer, { shared with auditChain := chain })
  | .insertAudit previousChain chained answer =>
    match attempt inputs (shared.database.insertAuditEvent state.digest chained) with
    | .error _ =>
      -- The chain goes back to what it was, whatever has been appended since.
      (.answered (.error storageErrorResponse), { shared with auditChain := previousChain })
    | .ok database => (.recordSink chained answer, { shared with database := database })
  | .recordSink chained answer =>
    match inputs.fault with
    | some _ => (.answered (.error storageErrorResponse), shared)
    | none => (.answered answer, { shared with auditSink := shared.auditSink ++ [chained] })
  | .answered answer => (.answered answer, shared)

end SessionRequest
