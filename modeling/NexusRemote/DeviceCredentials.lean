import NexusRemote.JsonText
import NexusRemote.RelayTokens

/-!
# Enrollment tokens and device credentials (`crates/nexus-auth/src/enrollment.rs`, `credential.rs`)

Both are signed by the control plane over the JSON text of a payload that holds
every other field. The serializer is a parameter.
-/

namespace DeviceCredentials

open BigEndian EntityId RelayTokens JsonText

inductive DeviceType where
  | host
  | client
  | relay
  deriving DecidableEq, Repr

def DeviceType.asStr : DeviceType → String
  | host => "host"
  | client => "client"
  | relay => "relay"

theorem DeviceType.asStr_injective : Function.Injective DeviceType.asStr := by
  intro a b h
  cases a <;> cases b <;> first | rfl | simp [DeviceType.asStr] at h

/-- `serde_json::to_vec`, or the text of its error. -/
abbrev Serializer := Record → Except String Bytes

structure EnrollmentToken where
  tokenId : String
  organizationId : TenantId
  deviceType : DeviceType
  notBefore : UInt64
  expiresAt : UInt64
  maxUses : UInt32
  signature : Bytes
  deriving DecidableEq

/-- `CanonicalEnrollmentPayload`. -/
def EnrollmentToken.payload (t : EnrollmentToken) : Record :=
  [("token_id", .scalar (.text t.tokenId)),
    ("organization_id", .scalar (.text t.organizationId.value)),
    ("device_type", .scalar (.text t.deviceType.asStr)),
    ("not_before", .scalar (.number t.notBefore.toNat)),
    ("expires_at", .scalar (.number t.expiresAt.toNat)),
    ("max_uses", .scalar (.number t.maxUses.toNat))]

def EnrollmentToken.signingBytes (J : Serializer) (t : EnrollmentToken) : Except String Bytes :=
  J t.payload

structure DeviceCredential where
  deviceId : DeviceId
  organizationId : TenantId
  publicKey : Bytes
  deviceType : DeviceType
  os : String
  architecture : String
  capabilities : List String
  issuedAt : UInt64
  expiresAt : UInt64
  signature : Bytes
  deriving DecidableEq

/-- `CanonicalCredentialPayload`. -/
def DeviceCredential.payload (c : DeviceCredential) : Record :=
  [("device_id", .scalar (.text c.deviceId.value)),
    ("organization_id", .scalar (.text c.organizationId.value)),
    ("public_key", .array (c.publicKey.map fun b => .number b.toNat)),
    ("device_type", .scalar (.text c.deviceType.asStr)),
    ("os", .scalar (.text c.os)),
    ("architecture", .scalar (.text c.architecture)),
    ("capabilities", .array (c.capabilities.map Scalar.text)),
    ("issued_at", .scalar (.number c.issuedAt.toNat)),
    ("expires_at", .scalar (.number c.expiresAt.toNat))]

def DeviceCredential.signingBytes (J : Serializer) (c : DeviceCredential) : Except String Bytes :=
  J c.payload

/-! ## The payload determines everything but the signature -/

theorem EnrollmentToken.payload_injective (s t : EnrollmentToken) (h : s.payload = t.payload) :
    { s with signature := [] } = { t with signature := [] } := by
  simp only [EnrollmentToken.payload, List.cons.injEq, Prod.mk.injEq, Value.scalar.injEq,
    Scalar.text.injEq, Scalar.number.injEq, true_and, and_true] at h
  obtain ⟨htoken, horganization, htype, hstart, hend, huses⟩ := h
  cases s
  cases t
  simp only [EnrollmentToken.mk.injEq, and_true]
  exact ⟨htoken, Id.eq_of_value _ _ horganization, DeviceType.asStr_injective htype,
    UInt64.toNat_inj.mp hstart, UInt64.toNat_inj.mp hend, UInt32.toNat_inj.mp huses⟩

theorem DeviceCredential.payload_injective (c d : DeviceCredential) (h : c.payload = d.payload) :
    { c with signature := [] } = { d with signature := [] } := by
  simp only [DeviceCredential.payload, List.cons.injEq, Prod.mk.injEq, Value.scalar.injEq,
    Value.array.injEq, Scalar.text.injEq, Scalar.number.injEq, true_and, and_true] at h
  obtain ⟨hdevice, horganization, hkey, htype, hos, harchitecture, hcapabilities, hissued,
    hexpires⟩ := h
  have hbyte : Function.Injective fun b : UInt8 => Scalar.number b.toNat := by
    intro a b hab
    exact UInt8.toNat_inj.mp (Scalar.number.inj hab)
  have htext : Function.Injective Scalar.text := fun a b hab => Scalar.text.inj hab
  cases c
  cases d
  simp only [DeviceCredential.mk.injEq, and_true]
  exact ⟨Id.eq_of_value _ _ hdevice, Id.eq_of_value _ _ horganization, List.map_injective_iff.mpr hbyte hkey,
    DeviceType.asStr_injective htype, hos, harchitecture,
    List.map_injective_iff.mpr htext hcapabilities, UInt64.toNat_inj.mp hissued,
    UInt64.toNat_inj.mp hexpires⟩

/-- The two kinds of payload start with fields of different names. -/
theorem payload_ne (t : EnrollmentToken) (c : DeviceCredential) : t.payload ≠ c.payload := by
  simp [EnrollmentToken.payload, DeviceCredential.payload]

end DeviceCredentials
