import NexusRemote.DeviceCredentials

/-!
# Checking a registration and issuing a credential (`crates/nexus-auth`)

A device sends the token that it was given, with its own public key and a
signature by that key over the token's identifier. What the crate for signatures
makes of bytes is a parameter.
-/

namespace DeviceRegistration

open BigEndian EntityId RelayTokens DeviceCredentials

inductive EnrollmentTokenError where
  | expired (expiredAt currentTime : UInt64)
  | notYetActive (notBefore currentTime : UInt64)
  | invalidSignature (text : String)
  | serialization (text : String)
  deriving DecidableEq, Repr

def EnrollmentTokenError.message : EnrollmentTokenError → String
  | expired expiredAt currentTime =>
    "enrollment token expired: expired at " ++ toString expiredAt.toNat ++ ", current time " ++
      toString currentTime.toNat
  | notYetActive notBefore currentTime =>
    "enrollment token not yet active: not before " ++ toString notBefore.toNat ++ ", current time " ++
      toString currentTime.toNat
  | invalidSignature text => "invalid enrollment token signature: " ++ text
  | serialization text => "serialization error: " ++ text

inductive DeviceCredentialError where
  | invalidProofOfPossession (text : String)
  | missingField (field : String)
  | serialization (text : String)
  deriving DecidableEq, Repr

def DeviceCredentialError.message : DeviceCredentialError → String
  | invalidProofOfPossession text => "invalid device proof-of-possession signature: " ++ text
  | missingField field => "missing field when building device credential: " ++ field
  | serialization text => "serialization error: " ++ text

/-- What the crate for signatures makes of bytes. -/
structure Signatures where
  /-- `VerifyingKey::from_bytes`, or the text of its error. -/
  fromBytes : Octets 32 → Except String VerifyingKey
  /-- The text of the error with which a key refuses a signature of a message. -/
  refusal : Bytes → Octets 64 → String

/-- `VerifyingKey::verify`, or the text of its error. -/
def Signatures.verify (S : Signatures) (key : VerifyingKey) (message : Bytes) (signature : Octets 64) :
    Except String Unit :=
  if key message signature then .ok () else .error (S.refusal message signature)

theorem Signatures.verify_matching (S : Signatures) (signer : SigningKey) (key : VerifyingKey)
    (message : Bytes) (h : Matching signer key) : S.verify key message (signer message) = .ok () :=
  if_pos (h message)

/-! ## The token -/

def EnrollmentToken.sign (J : Serializer) (key : SigningKey) (t : EnrollmentToken) :
    Except EnrollmentTokenError EnrollmentToken :=
  match t.signingBytes J with
  | .error text => .error (.serialization text)
  | .ok bytes => .ok { t with signature := (key bytes).1 }

def EnrollmentToken.verify (J : Serializer) (S : Signatures) (key : VerifyingKey) (now : UInt64)
    (t : EnrollmentToken) : Except EnrollmentTokenError Unit :=
  if now < t.notBefore then .error (.notYetActive t.notBefore now)
  else if now > t.expiresAt then .error (.expired t.expiresAt now)
  else
    match signatureOf t.signature with
    | none => .error (.invalidSignature "signature length must be 64 bytes")
    | some signature =>
      match t.signingBytes J with
      | .error text => .error (.serialization text)
      | .ok bytes =>
        match S.verify key bytes signature with
        | .error text => .error (.invalidSignature text)
        | .ok () => .ok ()

/-- A token that has been signed is accepted in its window. -/
theorem verify_sign (J : Serializer) (S : Signatures) (signer : SigningKey) (key : VerifyingKey)
    (now : UInt64) (t signed : EnrollmentToken) (hkeys : Matching signer key)
    (hsigned : EnrollmentToken.sign J signer t = .ok signed) (hstart : t.notBefore ≤ now)
    (hend : now ≤ t.expiresAt) : EnrollmentToken.verify J S key now signed = .ok () := by
  unfold EnrollmentToken.sign at hsigned
  cases hbytes : t.signingBytes J with
  | error text =>
    rw [hbytes] at hsigned
    cases hsigned
  | ok bytes =>
    rw [hbytes] at hsigned
    obtain rfl := Except.ok.inj hsigned
    have hsame : EnrollmentToken.signingBytes J { t with signature := (signer bytes).1 } = .ok bytes := hbytes
    have hearly : ¬now < t.notBefore := UInt64.not_lt.mpr hstart
    have hlate : ¬now > t.expiresAt := UInt64.not_lt.mpr hend
    simp only [EnrollmentToken.verify, if_neg hearly, if_neg hlate, signatureOf_octets, hsame,
      S.verify_matching signer key bytes hkeys]

/-! ## The request -/

structure DeviceRegistrationRequest where
  enrollmentToken : EnrollmentToken
  devicePublicKey : Bytes
  os : String
  architecture : String
  hostname : String
  agentVersion : String
  requestedAt : UInt64
  proofSignature : Bytes

def DeviceRegistrationRequest.proofBytes (r : DeviceRegistrationRequest) : Bytes :=
  r.enrollmentToken.tokenId.toUTF8.toList ++ toBytes 8 r.requestedAt.toNat

def DeviceRegistrationRequest.signProof (key : SigningKey) (r : DeviceRegistrationRequest) :
    DeviceRegistrationRequest :=
  { r with proofSignature := (key r.proofBytes).1 }

/-- `try_into::<[u8; 32]>`. -/
def keyBytesOf (bytes : Bytes) : Option (Octets 32) :=
  if h : bytes.length = 32 then some ⟨bytes, h⟩ else none

@[simp] theorem keyBytesOf_octets (key : Octets 32) : keyBytesOf key.1 = some key := by
  simp only [keyBytesOf, key.2, dite_true]
  rfl

def DeviceRegistrationRequest.verifyProof (S : Signatures) (r : DeviceRegistrationRequest) :
    Except DeviceCredentialError Unit :=
  match keyBytesOf r.devicePublicKey with
  | none => .error (.invalidProofOfPossession "device public key must be 32 bytes")
  | some keyBytes =>
    match S.fromBytes keyBytes with
    | .error text => .error (.invalidProofOfPossession ("invalid public key encoding: " ++ text))
    | .ok verifyingKey =>
      match signatureOf r.proofSignature with
      | none => .error (.invalidProofOfPossession "proof signature must be 64 bytes")
      | some signature =>
        match S.verify verifyingKey r.proofBytes signature with
        | .error text => .error (.invalidProofOfPossession text)
        | .ok () => .ok ()

/-- A proof by the key that the request names is accepted. -/
theorem verifyProof_signProof (S : Signatures) (signer : SigningKey) (key : VerifyingKey)
    (keyBytes : Octets 32) (r : DeviceRegistrationRequest) (hkeys : Matching signer key)
    (hkey : r.devicePublicKey = keyBytes.1) (hbytes : S.fromBytes keyBytes = .ok key) :
    (r.signProof signer).verifyProof S = .ok () := by
  have hproof : (r.signProof signer).proofBytes = r.proofBytes := rfl
  have hpublic : (r.signProof signer).devicePublicKey = keyBytes.1 := hkey
  have hsignature : (r.signProof signer).proofSignature = (signer r.proofBytes).1 := rfl
  simp only [DeviceRegistrationRequest.verifyProof, hproof, hpublic, hsignature, keyBytesOf_octets,
    hbytes, signatureOf_octets, S.verify_matching signer key _ hkeys]

/-! ## The credential -/

structure DeviceCredentialBuilder where
  deviceId : Option DeviceId := none
  organizationId : Option TenantId := none
  publicKey : Option Bytes := none
  deviceType : Option DeviceType := none
  os : Option String := none
  architecture : Option String := none
  capabilities : List String := []
  issuedAt : Option UInt64 := none
  expiresAt : Option UInt64 := none

def DeviceCredentialBuilder.build (b : DeviceCredentialBuilder) :
    Except DeviceCredentialError DeviceCredential :=
  match b.deviceId, b.organizationId, b.publicKey, b.deviceType, b.expiresAt with
  | none, _, _, _, _ => .error (.missingField "device_id")
  | _, none, _, _, _ => .error (.missingField "organization_id")
  | _, _, none, _, _ => .error (.missingField "public_key")
  | _, _, _, none, _ => .error (.missingField "device_type")
  | _, _, _, _, none => .error (.missingField "expires_at")
  | some deviceId, some organizationId, some publicKey, some deviceType, some expiresAt =>
    .ok
      { deviceId := deviceId
        organizationId := organizationId
        publicKey := publicKey
        deviceType := deviceType
        os := b.os.getD "windows"
        architecture := b.architecture.getD "x86_64"
        capabilities := b.capabilities
        issuedAt := b.issuedAt.getD 0
        expiresAt := expiresAt
        signature := [] }

def DeviceCredential.sign (J : Serializer) (key : SigningKey) (c : DeviceCredential) :
    Except DeviceCredentialError DeviceCredential :=
  match c.signingBytes J with
  | .error text => .error (.serialization text)
  | .ok bytes => .ok { c with signature := (key bytes).1 }

end DeviceRegistration
