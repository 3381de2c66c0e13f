import NexusRemote.AgentSessions
import NexusRemote.ControlGrants
import NexusRemote.RelayServer
import NexusRemote.SessionLifetime

/-!
# What the control plane issues, at the endpoints

The handler builds a capability and two relay tokens; the agent, the client and
the relay check them each in its own way.
-/

namespace IssuedSessions

open BigEndian EntityId PolicyModel PolicyEngine PolicyDecision PolicyGrants RelayTokens
open ControlStore SessionRequest ControlPlane Capabilities CapabilityVerifier ClientSession
open ControlGrants (drawn enrolledHost plainState viewHost)
open ControlEncoding (decodeCapability encoder matching_keys seed verifyingKey)
open RelayServer (sampleVerifier signedFor)

variable {state : AppState}

/-! ## Every answered call -/

/-- The issue of a call was built for its request and, once past that point, stored. -/
def Prepared (task : Task state) : Prop :=
  ∀ issue, issueOf task.phase = some issue →
    Built task.payload task.now issue ∧ (task.phase = .persist issue ∨ task.now.toNat < 2 ^ 63)

theorem advance_prepared (shared : Shared) (task : Task state) (inputs : Inputs)
    (h : Prepared task) :
    Prepared { task with
      phase := (advance state shared task.payload task.now inputs task.phase).1 } := by
  intro issue hissue
  rcases advance_issue shared task.payload task.now inputs task.phase issue hissue with
    ⟨hpersist, hbuilt⟩ | ⟨hold, hstored⟩
  · exact ⟨hbuilt, .inl hpersist⟩
  · obtain ⟨hbuilt, hphase | htime⟩ := h issue hold
    · obtain ⟨-, -, -, -, -, -, -, -, -, hcreated, hstatus⟩ := hbuilt.parts
      obtain ⟨htime, -⟩ := (insertAuthorizedSession_iff _ _ hstatus).mp (hstored hphase)
      rw [hcreated] at htime
      exact ⟨hbuilt, .inr htime⟩
    · exact ⟨hbuilt, .inr htime⟩

theorem step_prepared (p : Plane state) (event : Event) (h : ∀ task ∈ p.tasks, Prepared task) :
    ∀ task ∈ (step p event).2.tasks, Prepared task := by
  refine step_tasks (fun payload now issue hissue => ?_)
    (fun shared task inputs htask => advance_prepared shared task inputs htask) p event h
  cases hissue

/-- All calls of a plane are prepared, after any events. -/
theorem after_prepared (shared : Shared) (events : List Event) :
    ∀ task ∈ (Mealy.after step (Plane.start shared : Plane state) events).tasks, Prepared task :=
  Mealy.after_always step_prepared (Plane.start shared) events (by simp [Plane.start])

/-- What a turn hands out was built for the request at the time of the call, and that time
fits the database. -/
theorem step_built (p : Plane state) (index : Nat) (inputs : Inputs) (task : Task state)
    (payload : SessionRequestPayload) (issue : Issue state)
    (hp : ∀ task ∈ p.tasks, Prepared task) (htask : p.tasks[index]? = some task)
    (hout : (step p (.turn index inputs)).1 = some (payload, issue)) :
    task.payload = payload ∧ Built payload task.now issue ∧ task.now.toNat < 2 ^ 63 := by
  obtain ⟨index', inputs', task', chained, hevent, htask', rfl, hphase, -⟩ :=
    (step_output _ _ payload issue).mp hout
  obtain ⟨rfl, rfl⟩ := Event.turn.inj hevent
  obtain rfl : task = task' := Option.some.inj (htask.symm.trans htask')
  obtain ⟨hbuilt, hpersist | htime⟩ := hp task (List.mem_of_getElem? htask) issue
    (by rw [hphase]; rfl)
  · rw [hphase] at hpersist
    cases hpersist
  · exact ⟨rfl, hbuilt, htime⟩

/-- Everything that a run hands out was built for the request that it answers. -/
theorem handed_out_built (shared : Shared) (events : List Event) (payload : SessionRequestPayload)
    (issue : Issue state)
    (h : some (payload, issue) ∈ Mealy.trace step (Plane.start shared : Plane state) events) :
    ∃ now, Built payload now issue := by
  have hall := Mealy.trace_always (P := fun out : Option (SessionRequestPayload × Issue state) =>
      ∀ payload issue, out = some (payload, issue) → ∃ now, Built payload now issue)
    step_prepared ?_ (Plane.start shared) events (by simp [Plane.start])
  · exact hall _ h payload issue rfl
  · intro p event hp payload issue hout
    obtain ⟨index, inputs, task, -, rfl, htask, -⟩ := (step_output p event payload issue).mp hout
    exact ⟨task.now, (step_built p index inputs task payload issue hp htask hout).2.1⟩

/-! ## Restrictions -/

theorem restrictions_of_built {payload : SessionRequestPayload} {now : UInt64} {issue : Issue state}
    (h : Built payload now issue) : issue.capability.restrictions = [] := by
  obtain ⟨granted, -, -, uuid, nonce, -, hcapability, -⟩ := h.parts
  rw [hcapability]
  rfl

/-- However the policy restricts two sessions, their capabilities do not tell them apart. -/
theorem restrictions_never_signed (state₁ state₂ : AppState) (shared₁ shared₂ : Shared)
    (events₁ events₂ : List Event) (payload₁ payload₂ : SessionRequestPayload)
    (issue₁ : Issue state₁) (issue₂ : Issue state₂)
    (h₁ : some (payload₁, issue₁) ∈ Mealy.trace step (Plane.start shared₁) events₁)
    (h₂ : some (payload₂, issue₂) ∈ Mealy.trace step (Plane.start shared₂) events₂)
    (hdiffer : (decision state₁ payload₁).restrictions ≠ (decision state₂ payload₂).restrictions) :
    ¬((decision state₁ payload₁).restrictions ≠ (decision state₂ payload₂).restrictions →
      issue₁.capability.restrictions ≠ issue₂.capability.restrictions) := by
  obtain ⟨now₁, hbuilt₁⟩ := handed_out_built shared₁ events₁ payload₁ issue₁ h₁
  obtain ⟨now₂, hbuilt₂⟩ := handed_out_built shared₂ events₂ payload₂ issue₂ h₂
  intro hcarried
  apply hcarried hdiffer
  rw [restrictions_of_built hbuilt₁, restrictions_of_built hbuilt₂]

/-- A control plane whose administrators have sessions of at most a minute, without clipboard. -/
def limitedState : AppState :=
  { plainState with
    policyEngine := Engine.new [((Role.new "admin").withActions Action.all).withConditions
      { PolicyConditions.default with maxDurationSeconds := some 60, clipboardEnabled := false }] }

theorem limited_differs :
    (decision plainState viewHost).restrictions ≠
      (decision limitedState viewHost).restrictions := by
  decide +kernel

/-- Both control planes answer her. -/
theorem both_answer :
    ∃ (issue₁ : Issue plainState) (issue₂ : Issue limitedState),
      some (viewHost, issue₁) ∈ Mealy.trace step (Plane.start enrolledHost)
        (ControlGrants.call 0 viewHost 1) ∧
      some (viewHost, issue₂) ∈ Mealy.trace step (Plane.start enrolledHost)
        (ControlGrants.call 0 viewHost 1) := by
  obtain ⟨issue₁, h₁, -⟩ := ControlGrants.exists_issue plainState
    enrolledHost (ControlGrants.call 0 viewHost 1) 5 viewHost
    (Action.all.map Action.asStr) (by decide +kernel)
  obtain ⟨issue₂, h₂, -⟩ := ControlGrants.exists_issue limitedState
    enrolledHost (ControlGrants.call 0 viewHost 1) 5 viewHost
    (Action.all.map Action.asStr) (by decide +kernel)
  exact ⟨issue₁, issue₂, h₁, h₂⟩

/-- The policy allows a minute in one place and an hour in the other; the capabilities
restrict nothing in both. -/
theorem restrictions_lost :
    ∃ (issue₁ : Issue plainState) (issue₂ : Issue limitedState),
      some (viewHost, issue₁) ∈ Mealy.trace step (Plane.start enrolledHost)
        (ControlGrants.call 0 viewHost 1) ∧
      some (viewHost, issue₂) ∈ Mealy.trace step (Plane.start enrolledHost)
        (ControlGrants.call 0 viewHost 1) ∧
      (decision plainState viewHost).restrictions ≠
        (decision limitedState viewHost).restrictions ∧
      issue₁.capability.restrictions = issue₂.capability.restrictions := by
  obtain ⟨issue₁, issue₂, h₁, h₂⟩ := both_answer
  obtain ⟨now₁, hbuilt₁⟩ := handed_out_built _ _ _ issue₁ h₁
  obtain ⟨now₂, hbuilt₂⟩ := handed_out_built _ _ _ issue₂ h₂
  refine ⟨issue₁, issue₂, h₁, h₂, limited_differs, ?_⟩
  rw [restrictions_of_built hbuilt₁, restrictions_of_built hbuilt₂]

theorem restrictions_never_signed_two_planes :
    ∃ (issue₁ : Issue plainState) (issue₂ : Issue limitedState),
      ¬((decision plainState viewHost).restrictions ≠
          (decision limitedState viewHost).restrictions →
        issue₁.capability.restrictions ≠ issue₂.capability.restrictions) := by
  obtain ⟨issue₁, issue₂, h₁, h₂⟩ := both_answer
  exact ⟨issue₁, issue₂, restrictions_never_signed _ _ _ _ _ _ _ _ issue₁ issue₂ h₁ h₂
    limited_differs⟩

/-! ## Accepted at both ends -/

/-- Viewing is always among the permissions, and there are not more than there are actions. -/
theorem permissionsOf_size (payload : SessionRequestPayload) (granted : ActionSet)
    (restrictions : SessionRestrictions) (names : String)
    (h : decision state payload = .allowed granted restrictions names) :
    0 < (permissionsOf granted).length ∧
      (permissionsOf granted).length ≤ maxCapabilityPermissions := by
  obtain ⟨hne, -, hunion⟩ := evaluate_allowed _ _ _ _ _ _ _ h
  obtain ⟨role, hrole⟩ := List.exists_mem_of_ne_nil _ hne
  have hprimary : primaryAction ∈ granted :=
    (hunion primaryAction).mpr ⟨role, hrole, ((mem_matchingRoles _ _ _ _ role).mp hrole).permits⟩
  rw [permissionsOf, List.length_map]
  constructor
  · exact List.length_pos_of_mem ((ActionSet.mem_iter granted _).mpr hprimary)
  · exact (List.length_filter_le _ _).trans (by decide)

theorem expiresAt_toNat (now : UInt64) (h : now.toNat < 2 ^ 63) :
    (now + ttlSecs).toNat = now.toNat + 120 := by
  rw [UInt64.toNat_add, show ttlSecs.toNat = 120 from rfl, Nat.mod_eq_of_lt (by omega)]

/-- Every capability that is handed out lasts for two minutes. -/
theorem window_of_built {payload : SessionRequestPayload} {now : UInt64} {issue : Issue state}
    (h : Built payload now issue) (hnow : now.toNat < 2 ^ 63) :
    issue.capability.notBefore = now ∧ issue.capability.expiresAt.toNat = now.toNat + 120 := by
  obtain ⟨granted, -, -, uuid, nonce, -, hcapability, -⟩ := h.parts
  rw [hcapability]
  exact ⟨rfl, expiresAt_toNat now hnow⟩

theorem protocol_of_built {payload : SessionRequestPayload} {now : UInt64} {issue : Issue state}
    (h : Built payload now issue) :
    issue.capability.agentMinProtocol = 1 ∧ issue.capability.agentMaxProtocol = 1 := by
  obtain ⟨granted, -, -, uuid, nonce, -, hcapability, -⟩ := h.parts
  rw [hcapability]
  exact ⟨rfl, rfl⟩

theorem wellFormed_of_built {payload : SessionRequestPayload} {now : UInt64} {issue : Issue state}
    (hissuer : 0 < state.controlPlaneId.utf8ByteSize ∧ state.controlPlaneId.utf8ByteSize ≤ 128)
    (h : Built payload now issue) (hnow : now.toNat < 2 ^ 63) : WellFormed issue.capability := by
  obtain ⟨hstart, hend⟩ := window_of_built h hnow
  have hwindow : issue.capability.notBefore < issue.capability.expiresAt := by
    rw [UInt64.lt_iff_toNat_lt, hstart, hend]
    omega
  obtain ⟨granted, restrictions, names, uuid, nonce, hallowed, hcapability, -⟩ := h.parts
  rw [hcapability] at hwindow ⊢
  refine ⟨rfl, ?_, hwindow, permissionsOf_size payload granted restrictions names hallowed, ?_, ?_⟩
  · intro value hvalue
    simp only [identities, List.mem_cons, List.not_mem_nil, or_false] at hvalue
    rcases hvalue with rfl | rfl | rfl | rfl | rfl
    · exact hissuer
    · exact (newSessionId uuid).size
    · exact payload.subjectUserId.size
    · exact payload.clientDeviceId.size
    · exact payload.targetDeviceId.size
  · exact (show nonce.1.length = 16 from nonce.2) ▸ ⟨by decide, by decide⟩
  · exact UInt32.le_refl 1

/-- The signature covers what both endpoints encode again. -/
theorem capability_signed (E : Encoder) (hE : E.encode = state.encodeCapability)
    (issue : Issue state) :
    issue.capability.signature = (state.signingKey (signingBytes E issue.capability)).1 := by
  obtain ⟨rawBytes, hraw, hsigned⟩ := issue.signed
  rw [← hE] at hraw
  rw [hsigned, signingBytes, E.bytes_eq _ _ hraw]

/-- What the client keeps of the token returned to it. -/
def metadataOf (t : RelayToken) : RelayTokenMetadata where
  relayId := t.relayId
  sessionId := t.sessionId.value
  clientDeviceId := t.clientDeviceId.value
  targetDeviceId := t.targetDeviceId.value
  expiresAt := t.expiresAt
  signature := t.signature

/-- The client encodes its token as the issuer did. -/
theorem metadataOf_signingBytes (t : RelayToken) (h : t.role = .client) :
    (metadataOf t).signingBytes = t.signingBytes := by
  simp [metadataOf, RelayTokenMetadata.signingBytes, RelayToken.signingBytes, h,
    EndpointRole.byte]

/-- The relay and the client decide alike about a client's token, however it was made and
signed: of what the client checks, the relay checks the part that is about the token. -/
theorem client_token_agreement (token : RelayToken) (hrole : token.role = .client)
    (v : RelayTokenVerifier) (verification : ClientVerification) (now : UInt64)
    (hkey : verification.relayKey = v.key) (hrelay : verification.relayId = v.relayId) :
    (metadataOf token).signingBytes = token.signingBytes ∧
      (v.verify token now = .ok () ↔
        verification.relayTokenChecks (metadataOf token) now = .ok ()) ∧
      ∀ (E : Encoder) (s : Session), s.relayToken = metadataOf token →
        s.verification = verification →
        (s.validateClaims E now = .ok () ↔
          s.capabilityChecks E now = .ok () ∧ v.verify token now = .ok ()) := by
  have hbytes := metadataOf_signingBytes token hrole
  have hagree : v.verify token now = .ok () ↔
      verification.relayTokenChecks (metadataOf token) now = .ok () := by
    rw [verify_iff, relayTokenChecks_ok, hbytes, hkey, hrelay]
    rfl
  refine ⟨hbytes, hagree, ?_⟩
  intro E s htoken hverification
  rw [validateClaims_split, htoken, hverification, hagree]

/-- The client's token of a session passes at the relay, so it passes at the client. -/
theorem client_token_agreement_signed :
    (signedFor .client).role = .client ∧
      ClientVerification.relayTokenChecks
        ⟨sampleVerifier.key, sampleVerifier.key, "relay-1"⟩
        (metadataOf (signedFor .client)) 2000 = .ok () := by
  have hagree := client_token_agreement (signedFor .client) rfl
    sampleVerifier
    ⟨sampleVerifier.key, sampleVerifier.key, "relay-1"⟩ 2000 rfl rfl
  exact ⟨rfl, hagree.2.1.mp (RelayServer.signedFor_valid .client)⟩

/-- The agent, the client and the relay accept what was handed out at time `t`, each for
as long as it should. -/
structure Accepted (E : Encoder) (key : VerifyingKey) (payload : SessionRequestPayload)
    (t : Nat) (c : SessionCapability) (response : SessionAuthorizationResponse)
    (relayId : String) : Prop where
  agent : ∀ (v : Verifier) (now : UInt64) (instantNow : Nat),
    v.controlPlaneVerifyingKey = key → v.targetDeviceId = some payload.targetDeviceId.value →
    ¬v.replayCache.contains c.nonce → v.replayCache.entries.length < v.replayCache.capacity →
    t ≤ now.toNat → now.toNat ≤ t + 120 → (v.verify E c 1 now instantNow).1 = .ok ()
  client : ∀ (durationPolicy : SessionDurationPolicy) (reconnectPolicy : ReconnectPolicy)
    (now : UInt64), t ≤ now.toNat → now.toNat < t + 120 →
    ((Session.new c (metadataOf response.clientRelayToken) durationPolicy reconnectPolicy
      ⟨key, key, relayId⟩).beginConnect E now).1 = .ok ()
  relay : ∀ token ∈ [response.clientRelayToken, response.hostRelayToken], ∀ now : UInt64,
    now.toNat < t + 120 → (RelayTokenVerifier.mk key relayId).verify token now = .ok ()

section Built

variable {payload : SessionRequestPayload} {now : UInt64} {issue : Issue state} {E : Encoder}
  {key : VerifyingKey}

theorem agent_accepts
    (hissuer : 0 < state.controlPlaneId.utf8ByteSize ∧ state.controlPlaneId.utf8ByteSize ≤ 128)
    (hE : E.encode = state.encodeCapability) (h : Built payload now issue)
    (hnow : now.toNat < 2 ^ 63) (v : Verifier)
    (hkey : Matching state.signingKey v.controlPlaneVerifyingKey)
    (htarget : v.targetDeviceId = some payload.targetDeviceId.value) (later : UInt64)
    (instantNow : Nat) (hfree : v.replayCache.Free issue.capability.nonce instantNow)
    (hfrom : now.toNat ≤ later.toNat) (hto : later.toNat ≤ now.toNat + 120) :
    (v.verify E issue.capability 1 later instantNow).1 = .ok () := by
  obtain ⟨hstart, hend⟩ := window_of_built h hnow
  obtain ⟨hmin, hmax⟩ := protocol_of_built h
  refine verify_ok.mpr ⟨(precheck_ok _ _ _ _).mpr ⟨?_, ?_, ?_, ?_, ?_, ?_⟩, hfree, ?_⟩
  · exact validate_of_wellFormed _ (wellFormed_of_built hissuer h hnow)
  · simp [Verifier.targets, htarget, h.authorized.target]
  · rw [hstart, UInt64.le_iff_toNat_le]
    exact hfrom
  · rw [UInt64.le_iff_toNat_le, hend]
    exact hto
  · exact hmin.symm ▸ UInt32.le_refl 1
  · exact hmax.symm ▸ UInt32.le_refl 1
  · exact checkSignature_signed E state.signingKey _ _ hkey (capability_signed E hE issue)

theorem client_accepts
    (hissuer : 0 < state.controlPlaneId.utf8ByteSize ∧ state.controlPlaneId.utf8ByteSize ≤ 128)
    (hE : E.encode = state.encodeCapability) (h : Built payload now issue)
    (hnow : now.toNat < 2 ^ 63) (hkey : Matching state.signingKey key)
    (durationPolicy : SessionDurationPolicy) (reconnectPolicy : ReconnectPolicy) (later : UInt64)
    (hfrom : now.toNat ≤ later.toNat) (hto : later.toNat < now.toNat + 120) :
    ((Session.new issue.capability (metadataOf issue.response.clientRelayToken) durationPolicy
      reconnectPolicy ⟨key, key, state.defaultRelayId⟩).beginConnect E later).1 = .ok () := by
  obtain ⟨hstart, hend⟩ := window_of_built h hnow
  have hschema := validate_of_wellFormed _ (wellFormed_of_built hissuer h hnow)
  have hsigned := capability_signed E hE issue
  obtain ⟨granted, -, -, uuid, nonce, -, hcapability, htoken, -⟩ := h.parts
  have hmetadata : (metadataOf issue.response.clientRelayToken).signature =
      (state.signingKey (metadataOf issue.response.clientRelayToken).signingBytes).1 := by
    rw [metadataOf_signingBytes _ (by rw [htoken]; rfl), htoken]
    rfl
  set s := Session.new issue.capability (metadataOf issue.response.clientRelayToken)
    durationPolicy reconnectPolicy ⟨key, key, state.defaultRelayId⟩ with hs
  have hidentity : s.validateIdentity = .ok () := by
    rw [hs, htoken, hcapability]
    simp [Session.validateIdentity, Session.new, metadataOf, RelayToken.sign, issuedToken,
      unsignedCapability]
  have hsignatures : s.validateSignatures E = .ok () :=
    validateSignatures_signed E s state.signingKey state.signingKey hkey hkey hsigned
      (by rw [hs, htoken]; rfl) hmetadata
  have hclaims : s.validateClaims E later = .ok () := by
    refine (validateClaims_ok E s later).mpr ⟨⟨hidentity, hschema, hsignatures⟩, ?_, ?_, ?_⟩
    · rw [UInt64.le_iff_toNat_le]
      exact hstart ▸ hfrom
    · rw [UInt64.lt_iff_toNat_lt]
      exact hto.trans_eq hend.symm
    · rw [UInt64.lt_iff_toNat_lt, hs, htoken]
      exact hto.trans_eq (expiresAt_toNat now hnow).symm
  rw [beginConnect_fresh E s later rfl hclaims]

theorem relay_accepts (h : Built payload now issue) (hnow : now.toNat < 2 ^ 63)
    (hkey : Matching state.signingKey key) (token : RelayToken)
    (htoken : token ∈ [issue.response.clientRelayToken, issue.response.hostRelayToken])
    (later : UInt64) (hto : later.toNat < now.toNat + 120) :
    (RelayTokenVerifier.mk key state.defaultRelayId).verify token later = .ok () := by
  obtain ⟨-, -, -, uuid, -, -, -, hclient, hhost, -⟩ := h.parts
  have hsigned : ∃ role,
      token = (issuedToken state payload now (newSessionId uuid) role).sign state.signingKey := by
    simp only [List.mem_cons, List.not_mem_nil, or_false] at htoken
    rcases htoken with rfl | rfl
    · exact ⟨_, hclient⟩
    · exact ⟨_, hhost⟩
  obtain ⟨role, rfl⟩ := hsigned
  refine verify_sign _ _ _ _ hkey rfl ?_
  rw [UInt64.lt_iff_toNat_lt]
  exact hto.trans_eq (expiresAt_toNat now hnow).symm

end Built

/-- Whatever the control plane hands out, in any run, is accepted by both endpoints and by
the relay. -/
theorem issued_accepted (state : AppState) (shared : Shared) (events : List Event) (index : Nat)
    (inputs : Inputs) (task : Task state) (payload : SessionRequestPayload) (issue : Issue state)
    (E : Encoder) (decode : Bytes → Except String SessionCapability) (key : VerifyingKey)
    (hissuer : 0 < state.controlPlaneId.utf8ByteSize ∧ state.controlPlaneId.utf8ByteSize ≤ 128)
    (hE : E.encode = state.encodeCapability)
    (hdecode : ∀ c bytes, state.encodeCapability c = .ok bytes → decode bytes = .ok c)
    (hkey : Matching state.signingKey key)
    (htask : (Mealy.after step (Plane.start shared : Plane state) events).tasks[index]? = some task)
    (hout : (step (Mealy.after step (Plane.start shared : Plane state) events)
      (.turn index inputs)).1 = some (payload, issue)) :
    ∃ c, decode issue.response.capabilityBytes = .ok c ∧
      Accepted E key payload task.now.toNat c issue.response state.defaultRelayId := by
  obtain ⟨-, hbuilt, hnow⟩ := step_built _ index inputs task payload issue
    (after_prepared shared events) htask hout
  refine ⟨issue.capability, hdecode _ _ issue.encoded, ?_, ?_, ?_⟩
  · rintro v later instantNow rfl htarget hseen hroom hfrom hto
    exact agent_accepts hissuer hE hbuilt hnow v hkey htarget later instantNow
      (free_of_room _ _ _ hseen hroom) hfrom hto
  · intro durationPolicy reconnectPolicy later hfrom hto
    exact client_accepts hissuer hE hbuilt hnow hkey durationPolicy reconnectPolicy later hfrom hto
  · intro token htoken later hto
    exact relay_accepts hbuilt hnow hkey token htoken later hto

/-- Alice's call, up to its last turn. -/
def aliceWaiting : Plane plainState :=
  Mealy.after step (Plane.start enrolledHost)
    ((ControlGrants.call 0 viewHost 1).take 5)

theorem issued_accepted_alice :
    ∃ (issue : Issue plainState) (c : SessionCapability),
      (step aliceWaiting (.turn 0 (drawn 1))).1 = some (viewHost, issue) ∧
      decodeCapability issue.response.capabilityBytes = .ok c ∧
      Accepted encoder (verifyingKey seed)
        viewHost 2000 c issue.response "relay-nexus-primary" := by
  have hnow : (aliceWaiting.tasks[0]?.map fun task => task.now.toNat) = some 2000 := by
    decide +kernel
  have hanswer : ((step aliceWaiting (.turn 0 (drawn 1))).1.map Prod.fst) = some viewHost := by
    decide +kernel
  obtain ⟨task, htask, htime⟩ := Option.map_eq_some_iff.mp hnow
  obtain ⟨⟨payload, issue⟩, hout, rfl⟩ := Option.map_eq_some_iff.mp hanswer
  obtain ⟨c, hdecoded, haccepted⟩ := issued_accepted plainState
    enrolledHost _ 0 (drawn 1) task _ issue encoder
    decodeCapability (verifyingKey seed)
    (by decide) rfl ControlEncoding.decode_encode_capability
    (matching_keys seed) htask hout
  rw [htime] at haccepted
  exact ⟨issue, c, hout, hdecoded, haccepted⟩

end IssuedSessions
