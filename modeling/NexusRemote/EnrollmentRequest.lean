import NexusRemote.AuditRecording
import NexusRemote.ControlGrants
import NexusRemote.DeviceRegistration
import NexusRemote.EnrollmentStore
import NexusRemote.TextSlices

/-!
# Enrollment requests (`enroll_device_handler` in `apps/nexusd/src/routes.rs`)

The handler checks the token and the proof that the device holds its key, derives
an identifier for the device, enrolls it in one transaction and then records an
audit event. A call goes from await to await like a session request. The clock is
an input, and so are the failures of the database and of the audit sink.
-/

namespace EnrollmentRequest

open BigEndian EntityId RelayTokens AuditLog DeviceCredentials DeviceRegistration ControlStore SessionRequest
open Transactions EnrollmentStore
open AuditRecording (Stage Keeps turn turn_keeps recordAlone)

/-- What the handler takes from other crates, beside what stands in `AppState`. -/
structure Crates (state : AppState) where
  serializer : Serializer
  signatures : Signatures
  /-- `signing_key.verifying_key()`. -/
  verifyingKey : VerifyingKey
  matching : Matching state.signingKey verifyingKey
  /-- A character as it is printed for debugging. -/
  debugChar : Char → String

/-! ## The device -/

/-- `device_id_str`. The slice is taken by bytes: without a character boundary there is none, and
the handler panics. -/
def deviceIdStr (token : EnrollmentToken) : Option String :=
  (TextSlices.sliceTo token.tokenId (min token.tokenId.utf8ByteSize 8)).map fun start =>
    "dev-" ++ token.deviceType.asStr ++ "-" ++ start

def credentialLifetime : UInt64 := 365 * 24 * 3600

/-- The credential before it is signed. -/
def credentialFor (req : DeviceRegistrationRequest) (now : UInt64) (deviceId : DeviceId) :
    DeviceCredentialBuilder where
  deviceId := some deviceId
  organizationId := some req.enrollmentToken.organizationId
  publicKey := some req.devicePublicKey
  deviceType := some req.enrollmentToken.deviceType
  os := some req.os
  architecture := some req.architecture
  capabilities := ["desktop.view", "desktop.control"]
  issuedAt := some now
  expiresAt := some (now + credentialLifetime)

/-- The audit event of an enrollment. -/
def enrollEvent (req : DeviceRegistrationRequest) (now : UInt64) (deviceId : DeviceId) :
    AuditEventBuilder where
  eventId := some ("evt-enroll-" ++ deviceId.value)
  timestamp := some now
  organizationId := some req.enrollmentToken.organizationId
  deviceId := some deviceId
  eventType := some .deviceEnroll
  metadata := some (.object [("arch", .string req.architecture), ("hostname", .string req.hostname),
    ("os", .string req.os), ("token_id", .string req.enrollmentToken.tokenId)])

/-- `enrollment_error_response`, with the text of the `StateError` in between. -/
def enrollmentErrorResponse : EnrollmentError → ErrorReply
  | .notFound tokenId => cannotBeConsumed ("enrollment token " ++ tokenId ++ " not found")
  | .exhausted tokenId usesCount maxUses =>
    cannotBeConsumed ("enrollment token " ++ tokenId ++ " has exceeded maximum uses (" ++
      toString usesCount.toNat ++ "/" ++ toString maxUses.toNat ++ ")")
  | .expired expiredAt currentTime =>
    cannotBeConsumed ("enrollment token expired at " ++ toString expiredAt.toNat ++
      ", current time " ++ toString currentTime.toNat)
  | .notYetActive notBefore currentTime =>
    cannotBeConsumed ("enrollment token not active until " ++ toString notBefore.toNat ++
      ", current time " ++ toString currentTime.toNat)
  | .storage _ => storageErrorResponse
where
  cannotBeConsumed (error : String) : ErrorReply :=
    ⟨.forbidden, "enrollment token cannot be consumed: " ++ error⟩

/-! ## The handler, from await to await -/

/-- Where a call is suspended, or how it has ended. -/
inductive Phase where
  /-- Waiting for `enroll_device`. -/
  | enroll (device : RegisteredDevice)
  /-- Inside `record_audit`. -/
  | record (stage : Stage) (credential : DeviceCredential)
  | answered (answer : Except ErrorReply DeviceCredential)
  | panicked

/-- The error that a call has returned. -/
def Phase.error : Phase → Option ErrorReply
  | .answered (.error e) => some e
  | _ => none

/-- From the checks to the device that is to be enrolled. -/
def issue {state : AppState} (C : Crates state) (req : DeviceRegistrationRequest) (now : UInt64) :
    Phase :=
  match deviceIdStr req.enrollmentToken with
  | none => .panicked
  | some text =>
    match Id.new .device text with
    | .error e =>
      .answered (.error (internal ("failed to generate device id: " ++ e.message C.debugChar)))
    | .ok deviceId =>
      match (credentialFor req now deviceId).build with
      | .error e => .answered (.error (internal ("failed to build credential: " ++ e.message)))
      | .ok credential =>
        match DeviceCredential.sign C.serializer state.signingKey credential with
        | .error e => .answered (.error (internal ("failed to sign credential: " ++ e.message)))
        | .ok credential => .enroll ⟨credential, req.hostname, req.agentVersion, now, true⟩

/-- Up to the first await. -/
def start {state : AppState} (C : Crates state) (req : DeviceRegistrationRequest) (now : UInt64) :
    Phase :=
  match EnrollmentToken.verify C.serializer C.signatures C.verifyingKey now req.enrollmentToken with
  | .error e => .answered (.error ⟨.unauthorized, "enrollment token invalid: " ++ e.message⟩)
  | .ok () =>
    match req.verifyProof C.signatures with
    | .error e => .answered (.error ⟨.badRequest, "invalid proof-of-possession: " ++ e.message⟩)
    | .ok () => issue C req now

/-- Which statements of a call fail, and whether the audit sink does. -/
structure Failures where
  enroll : Faults := {}
  insertAudit : Option String := none
  sink : Option String := none

def Failures.at (failures : Failures) : Stage → Option String
  | .insert _ _ => failures.insertAudit
  | .sink _ => failures.sink
  | _ => none

/-- A call that is recording its audit event, or has done so. -/
def recording (credential : DeviceCredential) : Stage → Phase
  | .returned (.ok ()) => .answered (.ok credential)
  | .returned (.error _) => .answered (.error storageErrorResponse)
  | stage => .record stage credential

/-- Runs a call up to its next await. -/
def advance (state : AppState) (req : DeviceRegistrationRequest) (now : UInt64) (failures : Failures) :
    Phase × Shared → Phase × Shared
  | (.enroll device, shared) =>
    match transaction (enrollDevice failures.enroll req.enrollmentToken.tokenId now device)
        shared.database with
    | (.error e, database) =>
      (.answered (.error (enrollmentErrorResponse e)), { shared with database := database })
    | (.ok _, database) =>
      -- The audit event is skipped when it cannot be built.
      match (enrollEvent req now device.credential.deviceId).build with
      | .error _ => (.answered (.ok device.credential), { shared with database := database })
      | .ok event => (.record (.append event) device.credential, { shared with database := database })
  | (.record stage credential, shared) =>
    let next := turn state.digest shared (failures.at stage) stage
    (recording credential next.1, next.2)
  | (phase, shared) => (phase, shared)

/-- A call that runs alone. It awaits four times at most. -/
def enrollDeviceHandler {state : AppState} (C : Crates state) (req : DeviceRegistrationRequest)
    (now : UInt64) (failures : Failures) (shared : Shared) : Phase × Shared :=
  (advance state req now failures)^[4] (start C req now, shared)

/-! ## What a call gets to -/

section

variable {state : AppState} (C : Crates state) (req : DeviceRegistrationRequest) (now : UInt64)

/-- The token is signed and in its window, and the device holds its key. -/
structure Genuine : Prop where
  token : EnrollmentToken.verify C.serializer C.signatures C.verifyingKey now req.enrollmentToken = .ok ()
  proof : req.verifyProof C.signatures = .ok ()

theorem start_genuine (h : Genuine C req now) : start C req now = issue C req now := by
  simp only [start, h.token, h.proof]

theorem issue_enroll (device : RegisteredDevice) (h : issue C req now = .enroll device) :
    deviceIdStr req.enrollmentToken = some device.credential.deviceId.value ∧
      device.enrolledAt = now := by
  unfold issue at h
  split at h
  · cases h
  · rename_i text htext
    split at h
    · cases h
    · rename_i deviceId hid
      rw [Id.new_ok] at hid
      -- Building the credential does not fail, and signing it keeps its fields.
      simp only [credentialFor, DeviceCredentialBuilder.build, DeviceCredential.sign] at h
      split at h
      · cases h
      · rename_i credential hsigned
        cases h
        split at hsigned
        · cases hsigned
        · cases hsigned
          exact ⟨by rw [htext, ← hid], rfl⟩

theorem start_enroll (device : RegisteredDevice) (h : start C req now = .enroll device) :
    Genuine C req now ∧ issue C req now = .enroll device := by
  unfold start at h
  split at h
  · cases h
  · rename_i htoken
    split at h
    · cases h
    · rename_i hproof
      exact ⟨⟨htoken, hproof⟩, h⟩

end

/-- While a call records its audit event, its turns are those of `record_audit`. -/
theorem advance_recording (state : AppState) (req : DeviceRegistrationRequest) (now : UInt64)
    (failures : Failures) (credential : DeviceCredential) (stage : Stage) (shared : Shared) :
    advance state req now failures (recording credential stage, shared) =
      (recording credential (turn state.digest shared (failures.at stage) stage).1,
        (turn state.digest shared (failures.at stage) stage).2) := by
  cases stage with
  | append event => rfl
  | insert previousChain chained => rfl
  | sink chained => rfl
  | returned result => cases result <;> rfl

section

variable {state : AppState} (C : Crates state) (req : DeviceRegistrationRequest) (now : UInt64)
  (failures : Failures) (shared : Shared)

theorem advance_record (credential : DeviceCredential) (event : AuditEvent) :
    (advance state req now failures)^[3] (.record (.append event) credential, shared) =
      (recording credential
          (recordAlone state.digest failures.insertAudit failures.sink shared event).1,
        (recordAlone state.digest failures.insertAudit failures.sink shared event).2) := by
  have hstart : Phase.record (.append event) credential = recording credential (.append event) := rfl
  rw [hstart]
  simp only [Function.iterate_succ, Function.iterate_zero, Function.comp_apply, id_eq,
    advance_recording, recordAlone]
  cases happend : shared.auditChain.append state.digest event with
  | error e => simp only [turn, happend]
  | ok appended =>
    obtain ⟨chained, chain⟩ := appended
    cases hinsert : AuditRecording.outcome failures.insertAudit
        (shared.database.insertAuditEvent state.digest chained) with
    | error e => simp only [turn, happend, Failures.at, hinsert]
    | ok database => simp only [turn, happend, Failures.at, hinsert]

/-- Once nothing is left to be enrolled, the tables stay as they are. -/
theorem iterate_keeps (n : Nat) (phase : Phase) (h : ∀ device, phase ≠ .enroll device) :
    Keeps shared ((advance state req now failures)^[n] (phase, shared)).2 := by
  induction n generalizing phase shared with
  | zero => exact .refl shared
  | succ n ih =>
    rw [Function.iterate_succ_apply]
    cases phase with
    | enroll device => exact absurd rfl (h device)
    | record stage credential =>
      refine (turn_keeps state.digest shared (failures.at stage) stage).trans (ih _ _ ?_)
      intro device
      generalize (turn state.digest shared (failures.at stage) stage).1 = next
      rcases next with _ | _ | _ | ⟨_ | _⟩ <;> nofun
    | answered answer => exact ih shared _ h
    | panicked => exact ih shared _ h

theorem enrollDeviceHandler_genuine (h : Genuine C req now) :
    enrollDeviceHandler C req now failures shared =
      (advance state req now failures)^[4] (issue C req now, shared) := by
  rw [enrollDeviceHandler, start_genuine C req now h]

/-- What a call that runs alone does: it changes nothing, or it enrolls the device and then records
the event. -/
theorem enrollDeviceHandler_cases :
    (Keeps shared (enrollDeviceHandler C req now failures shared).2 ∧
      ∀ device, start C req now = .enroll device → ∀ token database,
        transaction (enrollDevice failures.enroll req.enrollmentToken.tokenId now device)
          shared.database ≠ (.ok token, database)) ∨
    ∃ device token database event, start C req now = .enroll device ∧
      transaction (enrollDevice failures.enroll req.enrollmentToken.tokenId now device)
        shared.database = (.ok token, database) ∧
      (enrollEvent req now device.credential.deviceId).build = .ok event ∧
      enrollDeviceHandler C req now failures shared =
        (recording device.credential
            (recordAlone state.digest failures.insertAudit failures.sink
              { shared with database := database } event).1,
          (recordAlone state.digest failures.insertAudit failures.sink
            { shared with database := database } event).2) := by
  unfold enrollDeviceHandler
  by_cases hphase : ∃ device, start C req now = .enroll device
  · obtain ⟨device, hdevice⟩ := hphase
    rw [hdevice, Function.iterate_succ_apply]
    rcases htransaction : transaction
      (enrollDevice failures.enroll req.enrollmentToken.tokenId now device) shared.database with
      ⟨e | token, database⟩
    · left
      have hsame := transaction_error _ shared.database e (congrArg Prod.fst htransaction)
      rw [htransaction] at hsame
      obtain rfl : database = shared.database := hsame
      simp only [advance, htransaction]
      refine ⟨iterate_keeps req now failures shared 3 _ nofun, ?_⟩
      intro device' hdevice' token database
      cases hdevice'
      rw [htransaction]
      nofun
    · right
      refine ⟨device, token, database, _, rfl, htransaction, rfl, ?_⟩
      simp only [advance, htransaction]
      exact advance_record req now failures _ device.credential _
  · left
    refine ⟨iterate_keeps req now failures shared 4 _ fun device h => hphase ⟨device, h⟩, ?_⟩
    intro device hdevice
    exact absurd ⟨device, hdevice⟩ hphase

end

/-! ## A device that asks to be enrolled -/

def deviceSeed : Octets 32 := List.Vector.replicate 32 2

def deviceKey : Octets 32 :=
  ⟨Ed25519.publicKey deviceSeed, by simp [Ed25519.publicKey, Ed25519.Point.compress]⟩

/-- The control plane's own key, and the key of the device. -/
def crates : Crates ControlGrants.plainState where
  serializer := fun record => .ok (JsonText.encode record)
  signatures :=
    { fromBytes := fun bytes =>
        if bytes = deviceKey then .ok (ControlEncoding.verifyingKey deviceSeed)
        else .error "signature error: Cannot decompress Edwards point"
      refusal := fun _ _ => "signature error: Verification equation was not satisfied" }
  verifyingKey := ControlEncoding.verifyingKey (List.Vector.replicate 32 7)
  matching := ControlEncoding.matching_keys _
  debugChar := fun c => "'" ++ c.toString ++ "'"

def unsignedToken (tokenId : String) (maxUses : UInt32) : EnrollmentToken :=
  ⟨tokenId, ControlGrants.organization, .host, 1000, 5000, maxUses, []⟩

def signedToken (tokenId : String) (maxUses : UInt32) : EnrollmentToken :=
  { unsignedToken tokenId maxUses with
    signature := (ControlGrants.plainState.signingKey
      (JsonText.encode (unsignedToken tokenId maxUses).payload)).1 }

/-- A request with a token for a host, from the device with the key. -/
def registration (tokenId : String) (maxUses : UInt32) : DeviceRegistrationRequest :=
  DeviceRegistrationRequest.signProof (Ed25519.sign deviceSeed)
    ⟨signedToken tokenId maxUses, deviceKey.1, "windows", "x86_64", "host", "0.1.0", 2000, []⟩

/-- The token has been signed by the control plane. -/
theorem signedToken_sign (tokenId : String) (maxUses : UInt32) :
    EnrollmentToken.sign crates.serializer ControlGrants.plainState.signingKey
      (unsignedToken tokenId maxUses) = .ok (signedToken tokenId maxUses) := by
  unfold EnrollmentToken.sign
  rfl

theorem fromBytes_deviceKey :
    crates.signatures.fromBytes deviceKey = .ok (ControlEncoding.verifyingKey deviceSeed) := by
  simp only [crates, if_true]

theorem registration_genuine (tokenId : String) (maxUses : UInt32) :
    Genuine crates (registration tokenId maxUses) 2000 where
  token := verify_sign _ _ _ _ 2000 _ _ crates.matching (signedToken_sign tokenId maxUses)
    (by simp [unsignedToken]) (by simp [unsignedToken])
  proof := verifyProof_signProof _ _ _ deviceKey _ (ControlEncoding.matching_keys deviceSeed) rfl
    fromBytes_deviceKey

end EnrollmentRequest
