import NexusRemote.Capabilities
import NexusRemote.Mealy
import NexusRemote.UnixTime

/-!
# The client's session (`apps/nexus-client/src/session.rs`)

A session is driven by calls that carry the time. Some calls change the state
before they return an error, so every call is a function to its result and the
session it leaves.
-/

namespace ClientSession

open BigEndian UnixTime RelayTokens SessionRequest Capabilities

inductive ClientState where
  | disconnected
  | connecting
  | connected
  | reconnecting
  | expired
  deriving DecidableEq, Repr

/-- What the client keeps of its relay token. -/
structure RelayTokenMetadata where
  relayId : String
  sessionId : String
  clientDeviceId : String
  targetDeviceId : String
  expiresAt : UInt64
  signature : Bytes
  deriving DecidableEq

/-- The client's own encoder of the token that the relay issued to it. -/
def RelayTokenMetadata.signingBytes (t : RelayTokenMetadata) : Bytes :=
  "nexus-relay-token/v1\x00".toUTF8.toList ++
    [t.sessionId, t.relayId, t.clientDeviceId, t.targetDeviceId].flatMap put ++
    [0] ++ toBytes 8 t.expiresAt.toNat

structure ClientVerification where
  capabilityKey : VerifyingKey
  relayKey : VerifyingKey
  relayId : String

/-- A duration limit, which `SessionDurationPolicy::new` refuses to make zero. -/
structure SessionDurationPolicy where
  maxDuration : Duration
  positive : 0 < maxDuration

/-- A reconnect window, which `ReconnectPolicy::new` refuses to make zero. -/
structure ReconnectPolicy where
  window : Duration
  positive : 0 < window

inductive ClientError where
  | expired
  | invalidTransition (source target : ClientState)
  | identityMismatch
  | capabilityNotActive
  | capabilityExpired
  | relayTokenExpired
  | reconnectWindowElapsed
  | invalidCapabilitySignature
  | invalidRelaySignature
  deriving DecidableEq, Repr

structure Session where
  capability : SessionCapability
  relayToken : RelayTokenMetadata
  state : ClientState
  reconnectDeadline : Option UInt64
  establishedAt : Option UInt64
  durationPolicy : SessionDurationPolicy
  reconnectPolicy : ReconnectPolicy
  verification : ClientVerification

def Session.new (capability : SessionCapability) (relayToken : RelayTokenMetadata)
    (durationPolicy : SessionDurationPolicy) (reconnectPolicy : ReconnectPolicy)
    (verification : ClientVerification) : Session where
  capability := capability
  relayToken := relayToken
  state := .disconnected
  reconnectDeadline := none
  establishedAt := none
  durationPolicy := durationPolicy
  reconnectPolicy := reconnectPolicy
  verification := verification

abbrev Outcome := Except ClientError Unit

def Session.sessionDurationExpired (s : Session) (now : UInt64) : Bool :=
  match s.establishedAt with
  | some t => saturatingDurationSince now t ≥ s.durationPolicy.maxDuration
  | none => false

def Session.canReconnect (s : Session) (now : UInt64) : Bool :=
  s.state = .reconnecting &&
    (match s.reconnectDeadline with
      | some deadline => decide (now ≤ deadline)
      | none => false) &&
    !s.sessionDurationExpired now

def Session.validateIdentity (s : Session) : Outcome :=
  if s.capability.sessionId ≠ s.relayToken.sessionId ∨
      s.capability.clientDeviceId ≠ s.relayToken.clientDeviceId ∨
      s.capability.targetDeviceId ≠ s.relayToken.targetDeviceId then
    .error .identityMismatch
  else .ok ()

/-- The two signatures, checked last. -/
def Session.validateSignatures (E : Encoder) (s : Session) : Outcome :=
  match signatureOf s.capability.signature with
  | none => .error .invalidCapabilitySignature
  | some signature =>
    if !s.verification.capabilityKey (signingBytes E s.capability) signature then
      .error .invalidCapabilitySignature
    else if s.relayToken.relayId ≠ s.verification.relayId then .error .invalidRelaySignature
    else
      match signatureOf s.relayToken.signature with
      | none => .error .invalidRelaySignature
      | some signature =>
        if s.verification.relayKey s.relayToken.signingBytes signature then .ok ()
        else .error .invalidRelaySignature

def Session.validateClaims (E : Encoder) (s : Session) (now : UInt64) : Outcome :=
  match s.validateIdentity with
  | .error e => .error e
  | .ok () =>
    match validate s.capability with
    | .error _ => .error .identityMismatch
    | .ok () =>
      if now < s.capability.notBefore then .error .capabilityNotActive
      else if now ≥ s.capability.expiresAt then .error .capabilityExpired
      else if now ≥ s.relayToken.expiresAt then .error .relayTokenExpired
      else s.validateSignatures E

/-- What does not depend on the time: the claims belong together and are signed. -/
structure Session.Genuine (E : Encoder) (s : Session) : Prop where
  identity : s.validateIdentity = .ok ()
  schema : validate s.capability = .ok ()
  signatures : s.validateSignatures E = .ok ()

theorem validateClaims_ok (E : Encoder) (s : Session) (now : UInt64) :
    s.validateClaims E now = .ok () ↔
      s.Genuine E ∧ s.capability.notBefore ≤ now ∧ now < s.capability.expiresAt ∧
        now < s.relayToken.expiresAt := by
  unfold Session.validateClaims
  constructor
  · intro h
    split at h
    · cases h
    · rename_i hidentity
      split at h
      · cases h
      · rename_i hschema
        split at h
        · cases h
        · rename_i hactive
          split at h
          · cases h
          · rename_i hcapability
            split at h
            · cases h
            · rename_i hrelay
              exact ⟨⟨hidentity, hschema, h⟩, UInt64.not_lt.mp hactive,
                UInt64.not_le.mp hcapability, UInt64.not_le.mp hrelay⟩
  · rintro ⟨hgenuine, hactive, hcapability, hrelay⟩
    simp only [hgenuine.identity, hgenuine.schema]
    rw [if_neg (UInt64.not_lt.mpr hactive), if_neg (UInt64.not_le.mpr hcapability),
      if_neg (UInt64.not_le.mpr hrelay)]
    exact hgenuine.signatures

/-- The checks that read the capability, in their order. -/
def Session.capabilityChecks (E : Encoder) (s : Session) (now : UInt64) : Outcome :=
  match s.validateIdentity with
  | .error e => .error e
  | .ok () =>
    match validate s.capability with
    | .error _ => .error .identityMismatch
    | .ok () =>
      if now < s.capability.notBefore then .error .capabilityNotActive
      else if now ≥ s.capability.expiresAt then .error .capabilityExpired
      else
        match signatureOf s.capability.signature with
        | none => .error .invalidCapabilitySignature
        | some signature =>
          if s.verification.capabilityKey (signingBytes E s.capability) signature then .ok ()
          else .error .invalidCapabilitySignature

/-- The checks that read the relay token alone, in their order. -/
def ClientVerification.relayTokenChecks (v : ClientVerification) (t : RelayTokenMetadata)
    (now : UInt64) : Outcome :=
  if now ≥ t.expiresAt then .error .relayTokenExpired
  else if t.relayId ≠ v.relayId then .error .invalidRelaySignature
  else
    match signatureOf t.signature with
    | none => .error .invalidRelaySignature
    | some signature =>
      if v.relayKey t.signingBytes signature then .ok () else .error .invalidRelaySignature

theorem relayTokenChecks_ok (v : ClientVerification) (t : RelayTokenMetadata) (now : UInt64) :
    v.relayTokenChecks t now = .ok () ↔ now < t.expiresAt ∧ t.relayId = v.relayId ∧
      ∃ signature, signatureOf t.signature = some signature ∧
        v.relayKey t.signingBytes signature = true := by
  by_cases hexpired : t.expiresAt ≤ now
  · simp [ClientVerification.relayTokenChecks, hexpired]
  · by_cases hrelay : t.relayId = v.relayId
    · cases hsignature : signatureOf t.signature with
      | none => simp [ClientVerification.relayTokenChecks, hrelay, hexpired, hsignature]
      | some signature =>
        simp [ClientVerification.relayTokenChecks, hrelay, hexpired, hsignature,
          UInt64.not_le.mp hexpired]
    · simp [ClientVerification.relayTokenChecks, hrelay, hexpired]

/-- The capability's signature is good. -/
def Session.CapabilitySigned (E : Encoder) (s : Session) : Prop :=
  ∃ signature, signatureOf s.capability.signature = some signature ∧
    s.verification.capabilityKey (signingBytes E s.capability) signature = true

theorem capabilityChecks_ok (E : Encoder) (s : Session) (now : UInt64) :
    s.capabilityChecks E now = .ok () ↔ s.validateIdentity = .ok () ∧
      validate s.capability = .ok () ∧ s.capability.notBefore ≤ now ∧
      now < s.capability.expiresAt ∧ s.CapabilitySigned E := by
  cases hidentity : s.validateIdentity with
  | error e => simp [Session.capabilityChecks, hidentity]
  | ok u =>
    cases hschema : validate s.capability with
    | error e => simp [Session.capabilityChecks, hidentity, hschema]
    | ok u =>
      by_cases hactive : now < s.capability.notBefore
      · simp [Session.capabilityChecks, hidentity, hschema, hactive, UInt64.not_le.mpr hactive]
      by_cases hexpired : s.capability.expiresAt ≤ now
      · simp [Session.capabilityChecks, hidentity, hschema, hactive, hexpired,
          UInt64.not_lt.mpr hexpired]
      cases hsignature : signatureOf s.capability.signature with
      | none =>
        simp [Session.capabilityChecks, hidentity, hschema, hactive, hexpired,
          Session.CapabilitySigned, hsignature]
      | some signature =>
        simp [Session.capabilityChecks, hidentity, hschema, hactive, hexpired,
          Session.CapabilitySigned, hsignature, UInt64.not_lt.mp hactive, UInt64.not_le.mp hexpired]

theorem validateSignatures_ok (E : Encoder) (s : Session) :
    s.validateSignatures E = .ok () ↔ s.CapabilitySigned E ∧
      s.relayToken.relayId = s.verification.relayId ∧
      ∃ signature, signatureOf s.relayToken.signature = some signature ∧
        s.verification.relayKey s.relayToken.signingBytes signature = true := by
  cases hsignature : signatureOf s.capability.signature with
  | none => simp [Session.validateSignatures, Session.CapabilitySigned, hsignature]
  | some signature =>
    by_cases hkey : s.verification.capabilityKey (signingBytes E s.capability) signature = true
    · by_cases hrelay : s.relayToken.relayId = s.verification.relayId
      · cases htoken : signatureOf s.relayToken.signature with
        | none => simp [Session.validateSignatures, hsignature, hkey, hrelay, htoken]
        | some signature =>
          simp [Session.validateSignatures, Session.CapabilitySigned, hsignature, hkey, hrelay,
            htoken]
      · simp [Session.validateSignatures, hsignature, hkey, hrelay]
    · simp [Session.validateSignatures, Session.CapabilitySigned, hsignature, hkey]

/-- The two groups of checks are all that is checked; the code only makes them in turns. -/
theorem validateClaims_split (E : Encoder) (s : Session) (now : UInt64) :
    s.validateClaims E now = .ok () ↔ s.capabilityChecks E now = .ok () ∧
      s.verification.relayTokenChecks s.relayToken now = .ok () := by
  rw [validateClaims_ok, capabilityChecks_ok, relayTokenChecks_ok]
  constructor
  · rintro ⟨⟨hidentity, hschema, hsignatures⟩, hactive, hcapability, hlive⟩
    obtain ⟨hsigned, hrelay⟩ := (validateSignatures_ok E s).mp hsignatures
    exact ⟨⟨hidentity, hschema, hactive, hcapability, hsigned⟩, hlive, hrelay⟩
  · rintro ⟨⟨hidentity, hschema, hactive, hcapability, hsigned⟩, hlive, hrelay⟩
    have hsignatures := (validateSignatures_ok E s).mpr ⟨hsigned, hrelay⟩
    exact ⟨⟨hidentity, hschema, hsignatures⟩, hactive, hcapability, hlive⟩

/-- Claims that were signed with the keys that belong to the client's pass its check. -/
theorem validateSignatures_signed (E : Encoder) (s : Session) (capabilitySigner relaySigner : SigningKey)
    (hkey : Matching capabilitySigner s.verification.capabilityKey)
    (hrelayKey : Matching relaySigner s.verification.relayKey)
    (hsigned : s.capability.signature = (capabilitySigner (signingBytes E s.capability)).1)
    (hrelay : s.relayToken.relayId = s.verification.relayId)
    (htoken : s.relayToken.signature = (relaySigner s.relayToken.signingBytes).1) :
    s.validateSignatures E = .ok () := by
  apply (validateSignatures_ok E s).mpr
  refine ⟨⟨capabilitySigner (signingBytes E s.capability), ?_, hkey _⟩, hrelay,
    relaySigner s.relayToken.signingBytes, ?_, hrelayKey _⟩
  · rw [hsigned, signatureOf_octets]
  · rw [htoken, signatureOf_octets]

/-! ## The calls -/

def Session.ensureActive (E : Encoder) (s : Session) (now : UInt64) : Outcome × Session :=
  if s.state = .expired then (.error .expired, s)
  else if s.state ≠ .connected then (.error (.invalidTransition s.state .connected), s)
  else
    match s.validateClaims E now with
    | .error e => (.error e, s)
    | .ok () =>
      if s.sessionDurationExpired now then
        (.error .expired, { s with state := .expired, reconnectDeadline := none })
      else (.ok (), s)

/-- The end of `begin_connect`, when the state allows it. -/
def Session.enterConnecting (E : Encoder) (s : Session) (now : UInt64) : Outcome × Session :=
  match s.validateClaims E now with
  | .error e => (.error e, s)
  | .ok () => (.ok (), { s with state := .connecting })

def Session.beginConnect (E : Encoder) (s : Session) (now : UInt64) : Outcome × Session :=
  match s.state with
  | .expired => (.error .expired, s)
  | .reconnecting =>
    if !s.canReconnect now then (.error .reconnectWindowElapsed, { s with state := .expired })
    else s.enterConnecting E now
  | .disconnected => s.enterConnecting E now
  | .connecting | .connected => (.error (.invalidTransition s.state .connecting), s)

/-- A reconnect after its deadline. -/
def Session.deadlinePassed (s : Session) (now : UInt64) : Bool :=
  s.establishedAt.isSome &&
    match s.reconnectDeadline with
    | some deadline => decide (now > deadline)
    | none => false

def Session.connected (E : Encoder) (s : Session) (now : UInt64) : Outcome × Session :=
  if s.state = .expired then (.error .expired, s)
  else if s.state ≠ .connecting then (.error (.invalidTransition s.state .connected), s)
  else if s.deadlinePassed now then (.error .reconnectWindowElapsed, { s with state := .expired })
  else
    match s.validateClaims E now with
    | .error e => (.error e, s)
    | .ok () =>
      if s.sessionDurationExpired now then (.error .expired, { s with state := .expired })
      else
        (.ok (), { s with
          establishedAt := some (s.establishedAt.getD now)
          reconnectDeadline := none
          state := .connected })

def Session.reconnectAttemptFailed (s : Session) (now : UInt64) : Outcome × Session :=
  if s.state ≠ .connecting then (.error (.invalidTransition s.state .reconnecting), s)
  else if s.sessionDurationExpired now then
    (.error .expired, { s with state := .expired, reconnectDeadline := none })
  else
    match s.reconnectDeadline with
    | none => (.error .reconnectWindowElapsed, { s with state := .expired })
    | some deadline =>
      if now > deadline then
        (.error .reconnectWindowElapsed, { s with state := .expired, reconnectDeadline := none })
      else (.ok (), { s with state := .reconnecting })

def Session.transportLost (s : Session) (now : UInt64) : Outcome × Session :=
  if s.state = .expired then (.error .expired, s)
  else if s.state ≠ .connected then (.error (.invalidTransition s.state .reconnecting), s)
  else if s.sessionDurationExpired now then (.error .expired, { s with state := .expired })
  else
    (.ok (), { s with
      reconnectDeadline := some (saturatingAdd now s.reconnectPolicy.window)
      state := .reconnecting })

def Session.expire (s : Session) : Outcome × Session :=
  if s.state = .expired then (.error .expired, s)
  else (.ok (), { s with state := .expired, reconnectDeadline := none })

inductive Call where
  | beginConnect (now : UInt64)
  | connected (now : UInt64)
  | reconnectAttemptFailed (now : UInt64)
  | transportLost (now : UInt64)
  | ensureActive (now : UInt64)
  | expire
  deriving DecidableEq, Repr

/-- The time that a call is given. -/
def Call.now : Call → Option UInt64
  | .beginConnect now | .connected now | .reconnectAttemptFailed now | .transportLost now
  | .ensureActive now => some now
  | .expire => none

def step (E : Encoder) (s : Session) : Call → Outcome × Session
  | .beginConnect now => s.beginConnect E now
  | .connected now => s.connected E now
  | .reconnectAttemptFailed now => s.reconnectAttemptFailed now
  | .transportLost now => s.transportLost now
  | .ensureActive now => s.ensureActive E now
  | .expire => s.expire

/-! ## The first connection -/

theorem beginConnect_fresh (E : Encoder) (s : Session) (now : UInt64) (h : s.state = .disconnected)
    (hclaims : s.validateClaims E now = .ok ()) :
    s.beginConnect E now = (.ok (), { s with state := .connecting }) := by
  simp only [Session.beginConnect, h, Session.enterConnecting, hclaims]

theorem connected_fresh (E : Encoder) (s : Session) (now : UInt64) (h : s.state = .connecting)
    (hfresh : s.establishedAt = none) (hclaims : s.validateClaims E now = .ok ()) :
    s.connected E now = (.ok (), { s with
      establishedAt := some now, reconnectDeadline := none, state := .connected }) := by
  simp [Session.connected, h, hfresh, hclaims, Session.deadlinePassed,
    Session.sessionDurationExpired]

/-! ## What a call can do -/

/-- The effects of a call, with what it has checked. -/
inductive Effect (E : Encoder) (s : Session) : Call → Outcome × Session → Prop where
  | refused {call : Call} (e : ClientError) : Effect E s call (.error e, s)
  | gaveUp {call : Call} (e : ClientError) (deadline : Option UInt64) (h : s.state ≠ .expired)
    (hd : deadline = none ∨ deadline = s.reconnectDeadline) :
    Effect E s call (.error e, { s with state := .expired, reconnectDeadline := deadline })
  | beginConnect (now : UInt64)
    (h : s.state = .disconnected ∨ s.state = .reconnecting ∧ s.canReconnect now = true)
    (claims : s.validateClaims E now = .ok ()) :
    Effect E s (.beginConnect now) (.ok (), { s with state := .connecting })
  | connected (now : UInt64) (h : s.state = .connecting) (deadline : s.deadlinePassed now = false)
    (claims : s.validateClaims E now = .ok ()) (duration : s.sessionDurationExpired now = false) :
    Effect E s (.connected now) (.ok (), { s with
      establishedAt := some (s.establishedAt.getD now), reconnectDeadline := none,
      state := .connected })
  | attemptFailed (now deadline : UInt64) (h : s.state = .connecting)
    (duration : s.sessionDurationExpired now = false) (hd : s.reconnectDeadline = some deadline) :
    Effect E s (.reconnectAttemptFailed now) (.ok (), { s with state := .reconnecting })
  | transportLost (now : UInt64) (h : s.state = .connected)
    (duration : s.sessionDurationExpired now = false) :
    Effect E s (.transportLost now) (.ok (), { s with
      reconnectDeadline := some (saturatingAdd now s.reconnectPolicy.window),
      state := .reconnecting })
  | ensureActive (now : UInt64) (h : s.state = .connected)
    (claims : s.validateClaims E now = .ok ()) (duration : s.sessionDurationExpired now = false) :
    Effect E s (.ensureActive now) (.ok (), s)
  | expire (h : s.state ≠ .expired) :
    Effect E s .expire (.ok (), { s with state := .expired, reconnectDeadline := none })

variable {E : Encoder} {s : Session}

theorem enterConnecting_effect (now : UInt64)
    (h : s.state = .disconnected ∨ s.state = .reconnecting ∧ s.canReconnect now = true) :
    Effect E s (.beginConnect now) (s.enterConnecting E now) := by
  unfold Session.enterConnecting
  split
  · exact .refused _
  · rename_i hclaims
    exact .beginConnect now h hclaims

theorem beginConnect_effect (now : UInt64) :
    Effect E s (.beginConnect now) (s.beginConnect E now) := by
  unfold Session.beginConnect
  split
  · exact .refused _
  · rename_i hstate
    split
    · exact .gaveUp _ s.reconnectDeadline (by simp [hstate]) (.inr rfl)
    · rename_i hcan
      exact enterConnecting_effect now (.inr ⟨hstate, by simpa using hcan⟩)
  · rename_i hstate
    exact enterConnecting_effect now (.inl hstate)
  · exact .refused _
  · exact .refused _

theorem connected_effect (now : UInt64) : Effect E s (.connected now) (s.connected E now) := by
  unfold Session.connected
  split
  · exact .refused _
  · rename_i hlive
    split
    · exact .refused _
    · rename_i hstate
      split
      · exact .gaveUp _ s.reconnectDeadline hlive (.inr rfl)
      · rename_i hdeadline
        split
        · exact .refused _
        · rename_i hclaims
          split
          · exact .gaveUp _ s.reconnectDeadline hlive (.inr rfl)
          · rename_i hduration
            exact .connected now (not_not.mp hstate) (by simpa using hdeadline) hclaims
              (by simpa using hduration)

theorem reconnectAttemptFailed_effect (now : UInt64) :
    Effect E s (.reconnectAttemptFailed now) (s.reconnectAttemptFailed now) := by
  unfold Session.reconnectAttemptFailed
  split
  · exact .refused _
  · rename_i hstate
    have hstate := not_not.mp hstate
    have hlive : s.state ≠ .expired := by simp [hstate]
    split
    · exact .gaveUp _ none hlive (.inl rfl)
    · rename_i hduration
      split
      · exact .gaveUp _ s.reconnectDeadline hlive (.inr rfl)
      · rename_i deadline hd
        split
        · exact .gaveUp _ none hlive (.inl rfl)
        · exact .attemptFailed now deadline hstate (by simpa using hduration) hd

theorem transportLost_effect (now : UInt64) :
    Effect E s (.transportLost now) (s.transportLost now) := by
  unfold Session.transportLost
  split
  · exact .refused _
  · rename_i hlive
    split
    · exact .refused _
    · rename_i hstate
      split
      · exact .gaveUp _ s.reconnectDeadline hlive (.inr rfl)
      · rename_i hduration
        exact .transportLost now (not_not.mp hstate) (by simpa using hduration)

theorem ensureActive_effect (now : UInt64) :
    Effect E s (.ensureActive now) (s.ensureActive E now) := by
  unfold Session.ensureActive
  split
  · exact .refused _
  · rename_i hlive
    split
    · exact .refused _
    · rename_i hstate
      split
      · exact .refused _
      · rename_i hclaims
        split
        · exact .gaveUp _ none hlive (.inl rfl)
        · rename_i hduration
          exact .ensureActive now (not_not.mp hstate) hclaims (by simpa using hduration)

theorem expire_effect : Effect E s .expire s.expire := by
  unfold Session.expire
  split
  · exact .refused _
  · rename_i hlive
    exact .expire hlive

theorem step_effect (E : Encoder) (s : Session) (call : Call) :
    Effect E s call (step E s call) := by
  cases call with
  | beginConnect now => exact beginConnect_effect now
  | connected now => exact connected_effect now
  | reconnectAttemptFailed now => exact reconnectAttemptFailed_effect now
  | transportLost now => exact transportLost_effect now
  | ensureActive now => exact ensureActive_effect now
  | expire => exact expire_effect

end ClientSession
