import NexusRemote.SessionRequest

/-!
# Session capabilities at the endpoints (`crates/nexus-protocol/src/lib.rs`)

The schema check that both endpoints make of a capability, and the bytes that
its signature covers.
-/

namespace Capabilities

open BigEndian SessionRequest

def maxSessionIdLen : Nat := 128
def maxCapabilityPermissions : Nat := 32
def maxNonceLen : Nat := 64

inductive SessionCapabilityError where
  | unsupportedVersion
  | invalidIdentity
  | invalidValidityWindow
  | tooManyPermissions
  | invalidNonce
  | invalidProtocolRange
  deriving DecidableEq, Repr

def SessionCapabilityError.message : SessionCapabilityError → String
  | unsupportedVersion => "capability version must be 1"
  | invalidIdentity => "capability identity field is empty or too long"
  | invalidValidityWindow => "capability must have not_before before expires_at"
  | tooManyPermissions => "capability has too many permissions"
  | invalidNonce => "capability nonce is empty or too long"
  | invalidProtocolRange => "agent protocol range is invalid"

/-- The fields that name somebody, in the order in which they are checked. -/
def identities (c : SessionCapability) : List String :=
  [c.issuer, c.sessionId, c.subjectUserId, c.clientDeviceId, c.targetDeviceId]

def validate (c : SessionCapability) : Except SessionCapabilityError Unit :=
  if c.version ≠ 1 then .error .unsupportedVersion
  else if (identities c).any fun value =>
      value.utf8ByteSize = 0 || value.utf8ByteSize > maxSessionIdLen then
    .error .invalidIdentity
  else if c.notBefore ≥ c.expiresAt then .error .invalidValidityWindow
  else if c.permissions.isEmpty || c.permissions.length > maxCapabilityPermissions then
    .error .tooManyPermissions
  else if c.nonce.isEmpty || c.nonce.length > maxNonceLen then .error .invalidNonce
  else if c.agentMinProtocol > c.agentMaxProtocol then .error .invalidProtocolRange
  else .ok ()

/-- What the schema check accepts. -/
structure WellFormed (c : SessionCapability) : Prop where
  version : c.version = 1
  identity : ∀ value ∈ identities c,
    0 < value.utf8ByteSize ∧ value.utf8ByteSize ≤ maxSessionIdLen
  window : c.notBefore < c.expiresAt
  permissions : 0 < c.permissions.length ∧ c.permissions.length ≤ maxCapabilityPermissions
  nonce : 0 < c.nonce.length ∧ c.nonce.length ≤ maxNonceLen
  range : c.agentMinProtocol ≤ c.agentMaxProtocol

theorem validate_of_wellFormed (c : SessionCapability) (h : WellFormed c) : validate c = .ok () := by
  have hidentity : ((identities c).any fun value =>
      value.utf8ByteSize = 0 || value.utf8ByteSize > maxSessionIdLen) = false := by
    rw [List.any_eq_false]
    intro value hvalue
    obtain ⟨hpos, hle⟩ := h.identity value hvalue
    simp only [Bool.or_eq_true, decide_eq_true_eq, not_or]
    omega
  have hwindow : ¬c.notBefore ≥ c.expiresAt := UInt64.not_le.mpr h.window
  have hpermissions : (c.permissions.isEmpty ||
      decide (c.permissions.length > maxCapabilityPermissions)) = false := by
    obtain ⟨hpos, hle⟩ := h.permissions
    rw [Bool.or_eq_false_iff, List.isEmpty_eq_false_iff, decide_eq_false_iff_not]
    exact ⟨List.ne_nil_of_length_pos hpos, by omega⟩
  have hnonce : (c.nonce.isEmpty || decide (c.nonce.length > maxNonceLen)) = false := by
    obtain ⟨hpos, hle⟩ := h.nonce
    rw [Bool.or_eq_false_iff, List.isEmpty_eq_false_iff, decide_eq_false_iff_not]
    exact ⟨List.ne_nil_of_length_pos hpos, by omega⟩
  have hrange : ¬c.agentMinProtocol > c.agentMaxProtocol := UInt32.not_lt.mpr h.range
  unfold validate
  rw [if_neg (not_not.mpr h.version), if_neg (Bool.eq_false_iff.mp hidentity), if_neg hwindow,
    if_neg (Bool.eq_false_iff.mp hpermissions), if_neg (Bool.eq_false_iff.mp hnonce), if_neg hrange]

/-- The Protobuf encoder, writing into a buffer that grows and so does not run out. -/
structure Encoder where
  encode : SessionCapability → Except String Bytes
  grows : ∀ c e, encode c ≠ .error e

/-- The bytes written. -/
def Encoder.bytes (E : Encoder) (c : SessionCapability) : Bytes :=
  match h : E.encode c with
  | .ok bytes => bytes
  | .error e => absurd h (E.grows c e)

theorem Encoder.encode_eq (E : Encoder) (c : SessionCapability) :
    E.encode c = .ok (E.bytes c) := by
  unfold Encoder.bytes
  split
  · assumption
  · rename_i e h
    exact absurd h (E.grows c e)

theorem Encoder.bytes_eq (E : Encoder) (c : SessionCapability) (bytes : Bytes)
    (h : E.encode c = .ok bytes) : E.bytes c = bytes := by
  rw [E.encode_eq] at h
  exact Except.ok.inj h

/-- `signing_bytes`: everything but the signature. -/
def signingBytes (E : Encoder) (c : SessionCapability) : Bytes := E.bytes { c with signature := [] }

/-- A capability for two minutes, as the control plane builds it. -/
def shortCapability : SessionCapability where
  version := 1
  issuer := "nexusd-primary"
  sessionId := "sess-0001"
  subjectUserId := "user-alice"
  clientDeviceId := "dev-client-01"
  targetDeviceId := "dev-host-01"
  permissions := ["desktop.view"]
  restrictions := []
  notBefore := 2000
  expiresAt := 2120
  nonce := List.replicate 16 1
  agentMinProtocol := 1
  agentMaxProtocol := 1
  clientEphemeralPublicKey := []
  signature := []

theorem shortCapability_valid : validate shortCapability = .ok () := by decide

end Capabilities
