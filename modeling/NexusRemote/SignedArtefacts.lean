import NexusRemote.ControlEncoding
import NexusRemote.DeviceCredentials

/-!
# Everything that the control plane signs

One key signs session capabilities, relay tokens, enrollment tokens and device
credentials, each over an encoding of its own. What was signed tells them apart.
-/

namespace SignedArtefacts

open BigEndian RelayTokens SessionRequest Capabilities DeviceCredentials JsonText

inductive Artefact where
  | capability (c : SessionCapability)
  | relayToken (t : RelayToken)
  | enrollmentToken (t : EnrollmentToken)
  | credential (c : DeviceCredential)
  deriving DecidableEq

/-- The same artefact before it is signed. -/
def Artefact.unsigned : Artefact → Artefact
  | .capability c => .capability { c with signature := [] }
  | .relayToken t => .relayToken { t with signature := [] }
  | .enrollmentToken t => .enrollmentToken { t with signature := [] }
  | .credential c => .credential { c with signature := [] }

/-- What the control plane issues: capabilities of version one and relay tokens that the
builder has made. -/
def Artefact.Issuable : Artefact → Prop
  | .capability c => c.version = 1
  | .relayToken t =>
    ∃ (b : RelayTokenBuilder) (built : RelayToken), b.build = .ok built ∧
      t = { built with signature := t.signature }
  | .enrollmentToken _ => True
  | .credential _ => True

/-- The bytes that the signature covers. -/
def Artefact.signingBytes (E : Encoder) (J : Serializer) : Artefact → Except String Bytes
  | .capability c => E.encode { c with signature := [] }
  | .relayToken t => .ok t.signingBytes
  | .enrollmentToken t => t.signingBytes J
  | .credential c => c.signingBytes J

/-- The first byte that every kind of artefact is signed with. -/
def Artefact.firstByte : Artefact → UInt8
  | .capability _ => 0x08
  | .relayToken _ => 0x6E
  | .enrollmentToken _ => 0x7B
  | .credential _ => 0x7B

section

variable {E : Encoder} {J : Serializer} {decode : Bytes → Except String SessionCapability}
  {fromSlice : Bytes → Option Record}

theorem signingBytes_firstByte
    (hkey : ∀ c bytes, c.version = 1 → E.encode c = .ok bytes → bytes.head? = some 0x08)
    (hbrace : ∀ r bytes, J r = .ok bytes → bytes.head? = some 0x7B) (a : Artefact) (bytes : Bytes)
    (ha : a.Issuable) (h : a.signingBytes E J = .ok bytes) : bytes.head? = some a.firstByte := by
  cases a with
  | capability c => exact hkey { c with signature := [] } bytes ha h
  | relayToken t =>
    obtain rfl := Except.ok.inj h
    have htag : "nexus-relay-token/v1\x00".toUTF8.toList.head? = some 0x6E := by
      rw [toList_eq]
      decide
    simp only [RelayToken.signingBytes, List.append_assoc, List.head?_append, htag]
    rfl
  | enrollmentToken t => exact hbrace t.payload bytes h
  | credential c => exact hbrace c.payload bytes h

theorem relayId_fits (t : RelayToken) (h : (Artefact.relayToken t).Issuable) :
    t.relayId.utf8ByteSize ≤ 65535 := by
  obtain ⟨b, built, hbuilt, hsame⟩ := h
  obtain ⟨-, -, -, hfits⟩ := build_ok b built hbuilt
  rw [hsame]
  exact hfits

end

/-- Two artefacts with the same signed bytes are the same but for their signatures. -/
theorem signing_bytes_injective (E : Encoder) (J : Serializer)
    (decode : Bytes → Except String SessionCapability) (fromSlice : Bytes → Option Record)
    (hdecode : ∀ c bytes, E.encode c = .ok bytes → decode bytes = .ok c)
    (hread : ∀ r bytes, J r = .ok bytes → fromSlice bytes = some r)
    (hkey : ∀ c bytes, c.version = 1 → E.encode c = .ok bytes → bytes.head? = some 0x08)
    (hbrace : ∀ r bytes, J r = .ok bytes → bytes.head? = some 0x7B)
    (a b : Artefact) (bytes : Bytes) (ha : a.Issuable) (hb : b.Issuable)
    (hsigned : a.signingBytes E J = .ok bytes) (hsame : b.signingBytes E J = .ok bytes) :
    a.unsigned = b.unsigned := by
  have hfirst : a.firstByte = b.firstByte := by
    have hbyte := signingBytes_firstByte hkey hbrace a bytes ha hsigned
    rw [signingBytes_firstByte hkey hbrace b bytes hb hsame] at hbyte
    exact (Option.some.inj hbyte).symm
  have hpayload : ∀ r s, J r = .ok bytes → J s = .ok bytes → r = s := by
    intro r s hr hs
    have hread' := hread r bytes hr
    rw [hread s bytes hs] at hread'
    exact (Option.some.inj hread').symm
  -- The first byte leaves the pairs of one kind, and the two kinds of JSON payload.
  cases a with
  | capability c =>
    cases b with
    | capability d =>
      have hc := hdecode _ bytes hsigned
      rw [hdecode _ bytes hsame] at hc
      exact congrArg Artefact.capability (Except.ok.inj hc).symm
    | relayToken t => cases hfirst
    | enrollmentToken t => cases hfirst
    | credential d => cases hfirst
  | relayToken s =>
    cases b with
    | capability d => cases hfirst
    | relayToken t =>
      exact congrArg Artefact.relayToken (signingBytes_injective s t (relayId_fits s ha)
        (relayId_fits t hb) (Except.ok.inj (hsigned.trans hsame.symm)))
    | enrollmentToken t => cases hfirst
    | credential d => cases hfirst
  | enrollmentToken s =>
    cases b with
    | capability d => cases hfirst
    | relayToken t => cases hfirst
    | enrollmentToken t =>
      exact congrArg Artefact.enrollmentToken
        (EnrollmentToken.payload_injective s t (hpayload _ _ hsigned hsame))
    | credential d => exact absurd (hpayload _ _ hsigned hsame) (payload_ne s d)
  | credential c =>
    cases b with
    | capability d => cases hfirst
    | relayToken t => cases hfirst
    | enrollmentToken t => exact absurd (hpayload _ _ hsame hsigned) (payload_ne t c)
    | credential d =>
      exact congrArg Artefact.credential
        (DeviceCredential.payload_injective c d (hpayload _ _ hsigned hsame))

theorem signing_bytes_injective_resigned :
    ∃ bytes,
      (Artefact.capability shortCapability).signingBytes ControlEncoding.encoder
          (fun r => .ok (JsonText.encode r)) = .ok bytes ∧
        (Artefact.capability shortCapability).unsigned =
          (Artefact.capability { shortCapability with signature := [1] }).unsigned := by
  obtain ⟨bytes, hbytes⟩ : ∃ bytes, ControlEncoding.encoder.encode shortCapability = .ok bytes :=
    ⟨_, rfl⟩
  refine ⟨bytes, hbytes, signing_bytes_injective ControlEncoding.encoder
    (fun r => .ok (JsonText.encode r)) ControlEncoding.decodeCapability JsonText.decode
    ControlEncoding.decode_encode_capability ?_ ControlEncoding.encodeCapability_opens ?_ _ _ bytes
    rfl rfl hbytes hbytes⟩
  · intro r bytes h
    obtain rfl := Except.ok.inj h
    exact JsonText.decode_encode r
  · intro r bytes h
    obtain rfl := Except.ok.inj h
    exact JsonText.encode_opens r

end SignedArtefacts
