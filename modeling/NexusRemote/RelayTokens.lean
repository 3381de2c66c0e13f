import NexusRemote.BigEndian
import NexusRemote.EntityId

/-!
# Relay tokens (`apps/nexus-relay/src/token.rs`)

A token admits one endpoint of a session to one relay until it expires. The
signature covers an explicit encoding of every other field.
-/

namespace RelayTokens

open BigEndian EntityId

inductive EndpointRole where
  | client
  | host
  deriving DecidableEq, Repr

/-- The byte that stands for the role in the signed encoding. -/
def EndpointRole.byte : EndpointRole → UInt8
  | client => 0
  | host => 1

def EndpointRole.peer : EndpointRole → EndpointRole
  | client => host
  | host => client

structure RelayToken where
  sessionId : SessionId
  relayId : String
  clientDeviceId : DeviceId
  targetDeviceId : DeviceId
  role : EndpointRole
  expiresAt : UInt64
  signature : Bytes
  deriving DecidableEq

inductive RelayTokenError where
  | invalidSignature
  | expired
  | wrongRelay
  | signatureLength
  | invalidRelayId
  | missingField (field : String)
  | fieldTooLong (field : String)
  deriving DecidableEq, Repr

def RelayTokenError.message : RelayTokenError → String
  | invalidSignature => "invalid relay token signature"
  | expired => "relay token is expired"
  | wrongRelay => "relay token targets a different relay"
  | signatureLength => "relay token signature has invalid length"
  | invalidRelayId => "relay token has an empty relay id"
  | missingField field => "relay token is missing required field: " ++ field
  | fieldTooLong field => "relay token field is too long: " ++ field

/-- `put`: a text behind its length as a `u16`. -/
def put (s : String) : Bytes := toBytes 2 s.utf8ByteSize ++ s.toUTF8.toList

def RelayToken.signingBytes (t : RelayToken) : Bytes :=
  "nexus-relay-token/v1\x00".toUTF8.toList ++ put t.sessionId.value ++ put t.relayId ++
    put t.clientDeviceId.value ++ put t.targetDeviceId.value ++
    [t.role.byte] ++ toBytes 8 t.expiresAt.toNat

/-- A text whose length fits its prefix reads back, with what follows it. -/
theorem put_append_inj (s t : String) (xs ys : Bytes) (hs : s.utf8ByteSize ≤ 65535)
    (ht : t.utf8ByteSize ≤ 65535) (h : put s ++ xs = put t ++ ys) : s = t ∧ xs = ys := by
  simp only [put, List.append_assoc] at h
  obtain ⟨hlength, hrest⟩ := List.append_inj h (by simp)
  have hsize : s.utf8ByteSize = t.utf8ByteSize := by
    have hread := congrArg ofBytes hlength
    rwa [ofBytes_toBytes_of_lt 2 _ (by omega), ofBytes_toBytes_of_lt 2 _ (by omega)] at hread
  obtain ⟨htext, hxs⟩ := List.append_inj hrest (by rw [length_utf8, length_utf8, hsize])
  exact ⟨utf8_injective htext, hxs⟩

theorem EndpointRole.byte_injective : Function.Injective EndpointRole.byte := by
  intro a b h
  cases a <;> cases b <;> first | rfl | cases h

/-- The signed encoding determines everything but the signature, if the relay's name fits. -/
theorem signingBytes_injective (s t : RelayToken) (hs : s.relayId.utf8ByteSize ≤ 65535)
    (ht : t.relayId.utf8ByteSize ≤ 65535) (h : s.signingBytes = t.signingBytes) :
    { s with signature := [] } = { t with signature := [] } := by
  have hfits : ∀ {kind : IdKind} (i : Id kind), i.value.utf8ByteSize ≤ 65535 :=
    fun i => i.size.2.trans (by decide)
  simp only [RelayToken.signingBytes, List.append_assoc, List.append_cancel_left_eq] at h
  obtain ⟨hsession, h⟩ := put_append_inj _ _ _ _ (hfits _) (hfits _) h
  obtain ⟨hrelay, h⟩ := put_append_inj _ _ _ _ hs ht h
  obtain ⟨hclient, h⟩ := put_append_inj _ _ _ _ (hfits _) (hfits _) h
  obtain ⟨htarget, h⟩ := put_append_inj _ _ _ _ (hfits _) (hfits _) h
  obtain ⟨hrole, hexpires⟩ := List.cons.inj h
  have htime : s.expiresAt = t.expiresAt := by
    rw [← word64 s.expiresAt, ← word64 t.expiresAt]
    exact congrArg (fun b => UInt64.ofNat (ofBytes b)) hexpires
  cases s
  cases t
  simp only [RelayToken.mk.injEq, and_true]
  exact ⟨Id.eq_of_value _ _ hsession, hrelay, Id.eq_of_value _ _ hclient, Id.eq_of_value _ _ htarget,
    EndpointRole.byte_injective hrole, htime⟩

/-- The signing key as the function it computes. -/
abbrev SigningKey := Bytes → Octets 64

/-- The verifying key as the check it makes of a message and a signature. -/
abbrev VerifyingKey := Bytes → Octets 64 → Bool

/-- The two keys belong together: what the one signs the other accepts. -/
def Matching (signer : SigningKey) (verifier : VerifyingKey) : Prop :=
  ∀ message, verifier message (signer message) = true

/-- `try_into::<[u8; 64]>`. -/
def signatureOf (bytes : Bytes) : Option (Octets 64) :=
  if h : bytes.length = 64 then some ⟨bytes, h⟩ else none

@[simp] theorem signatureOf_octets (signature : Octets 64) :
    signatureOf signature.1 = some signature := by
  simp only [signatureOf, signature.2, dite_true]
  rfl

def RelayToken.sign (t : RelayToken) (key : SigningKey) : RelayToken :=
  { t with signature := (key t.signingBytes).1 }

structure RelayTokenBuilder where
  sessionId : Option SessionId := none
  relayId : Option String := none
  clientDeviceId : Option DeviceId := none
  targetDeviceId : Option DeviceId := none
  role : Option EndpointRole := none
  expiresAt : Option UInt64 := none

/-- `ok_or(MissingField(..))`. -/
def required {α : Type} (field : String) (value : Option α) : Except RelayTokenError α :=
  match value with
  | some v => .ok v
  | none => .error (.missingField field)

def RelayTokenBuilder.build (b : RelayTokenBuilder) : Except RelayTokenError RelayToken := do
  let sessionId ← required "session_id" b.sessionId
  let relayId ← required "relay_id" b.relayId
  if relayId.utf8ByteSize = 0 then
    throw .invalidRelayId
  if relayId.utf8ByteSize > 65535 then
    throw (.fieldTooLong "relay_id")
  let clientDeviceId ← required "client_device_id" b.clientDeviceId
  let targetDeviceId ← required "target_device_id" b.targetDeviceId
  let role ← required "role" b.role
  let expiresAt ← required "expires_at" b.expiresAt
  return ⟨sessionId, relayId, clientDeviceId, targetDeviceId, role, expiresAt, []⟩

/-- What a built token is: the fields that were set, with a relay whose name fits its prefix. -/
theorem build_ok (b : RelayTokenBuilder) (token : RelayToken) (h : b.build = .ok token) :
    b = ⟨some token.sessionId, some token.relayId, some token.clientDeviceId,
        some token.targetDeviceId, some token.role, some token.expiresAt⟩ ∧
      token.signature = [] ∧ 0 < token.relayId.utf8ByteSize ∧
      token.relayId.utf8ByteSize ≤ 65535 := by
  obtain ⟨sessionId, relayId, clientDeviceId, targetDeviceId, role, expiresAt⟩ := b
  rcases sessionId with _ | sessionId
  · cases h
  rcases relayId with _ | relayId
  · cases h
  by_cases hempty : relayId.utf8ByteSize = 0
  · simp [RelayTokenBuilder.build, required, hempty, bind, Except.bind, throw, throwThe,
      MonadExceptOf.throw] at h
  by_cases hlong : relayId.utf8ByteSize > 65535
  · simp [RelayTokenBuilder.build, required, hempty, hlong, bind, Except.bind, throw, throwThe,
      MonadExceptOf.throw] at h
  simp only [RelayTokenBuilder.build, required, hempty, hlong, bind, Except.bind, pure,
    Except.pure, if_false] at h
  rcases clientDeviceId with _ | clientDeviceId
  · cases h
  rcases targetDeviceId with _ | targetDeviceId
  · cases h
  rcases role with _ | role
  · cases h
  rcases expiresAt with _ | expiresAt
  · cases h
  obtain rfl := Except.ok.inj h
  exact ⟨rfl, rfl, by simp only; omega, by simp only; omega⟩

/-- A builder with all its fields makes the token, if the relay's name fits. -/
theorem build_fits (token : RelayToken) (hunsigned : token.signature = [])
    (hpos : 0 < token.relayId.utf8ByteSize) (hle : token.relayId.utf8ByteSize ≤ 65535) :
    RelayTokenBuilder.build ⟨some token.sessionId, some token.relayId, some token.clientDeviceId,
      some token.targetDeviceId, some token.role, some token.expiresAt⟩ = .ok token := by
  have hempty : ¬token.relayId.utf8ByteSize = 0 := by omega
  have hlong : ¬token.relayId.utf8ByteSize > 65535 := by omega
  simp only [RelayTokenBuilder.build, required, hempty, hlong, bind, Except.bind, pure,
    Except.pure, if_false]
  rw [← hunsigned]

structure RelayTokenVerifier where
  key : VerifyingKey
  relayId : String

def RelayTokenVerifier.verify (v : RelayTokenVerifier) (token : RelayToken) (now : UInt64) :
    Except RelayTokenError Unit :=
  if token.relayId ≠ v.relayId then .error .wrongRelay
  else if token.expiresAt ≤ now then .error .expired
  else
    match signatureOf token.signature with
    | none => .error .signatureLength
    | some signature =>
      if v.key token.signingBytes signature then .ok () else .error .invalidSignature

/-- The relay admits a token of its own that has not expired and carries a good signature. -/
theorem verify_iff (v : RelayTokenVerifier) (token : RelayToken) (now : UInt64) :
    v.verify token now = .ok () ↔ now < token.expiresAt ∧ token.relayId = v.relayId ∧
      ∃ signature, signatureOf token.signature = some signature ∧
        v.key token.signingBytes signature = true := by
  by_cases hrelay : token.relayId = v.relayId
  · by_cases hexpired : token.expiresAt ≤ now
    · simp [RelayTokenVerifier.verify, hrelay, hexpired]
    · cases hsignature : signatureOf token.signature with
      | none => simp [RelayTokenVerifier.verify, hrelay, hexpired, hsignature]
      | some signature =>
        simp [RelayTokenVerifier.verify, hrelay, hexpired, hsignature, UInt64.not_le.mp hexpired]
  · simp [RelayTokenVerifier.verify, hrelay]

theorem verify_live (v : RelayTokenVerifier) (token : RelayToken) (now : UInt64)
    (h : v.verify token now = .ok ()) : now < token.expiresAt :=
  ((verify_iff v token now).mp h).1

/-- The relay admits what was signed for it until it expires. -/
theorem verify_sign (v : RelayTokenVerifier) (token : RelayToken) (signer : SigningKey)
    (now : UInt64) (hkeys : Matching signer v.key) (hrelay : token.relayId = v.relayId)
    (hnow : now < token.expiresAt) : v.verify (token.sign signer) now = .ok () := by
  have hbytes : (token.sign signer).signingBytes = token.signingBytes := rfl
  apply (verify_iff v _ now).mpr
  refine ⟨hnow, hrelay, signer token.signingBytes, signatureOf_octets _, ?_⟩
  rw [hbytes]
  exact hkeys token.signingBytes

end RelayTokens
