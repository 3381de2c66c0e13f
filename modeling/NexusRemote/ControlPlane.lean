import NexusRemote.Mealy
import NexusRemote.PolicyGrants
import NexusRemote.SessionRequest

/-!
# Runs of the control plane

Any number of session requests run against one state, in any interleaving of
their turns. Beside the calls themselves a plane keeps the capabilities that
have been handed out and whose sessions have not ended.
-/

namespace ControlPlane

open BigEndian EntityId PolicyModel PolicyEngine PolicyDecision PolicyGrants
open ControlStore SessionRequest

structure Plane (state : AppState) where
  shared : Shared
  tasks : List (Task state)
  live : List SessionCapability

inductive Event where
  /-- A new call of the handler, at this time. -/
  | request (payload : SessionRequestPayload) (now : UInt64)
  /-- A call runs up to its next await. -/
  | turn (index : Nat) (inputs : Inputs)
  | ended (sessionId : String)

variable {state : AppState}

def Plane.start (shared : Shared) : Plane state := ⟨shared, [], []⟩

/-- The turn between two phases answers its caller with an authorization. -/
def handedOut : Phase state → Phase state → Option (Issue state)
  | .answered _, _ => none
  | _, .answered (.ok issue) => some issue
  | _, _ => none

/-- One event, with the request that it answers by an authorization. -/
def step (p : Plane state) :
    Event → Option (SessionRequestPayload × Issue state) × Plane state
  | .request payload now => (none, { p with tasks := p.tasks ++ [⟨payload, now, .lookup⟩] })
  | .turn index inputs =>
    match p.tasks[index]? with
    | none => (none, p)
    | some task =>
      let next := advance state p.shared task.payload task.now inputs task.phase
      let tasks := p.tasks.set index { task with phase := next.1 }
      match handedOut task.phase next.1 with
      | none => (none, ⟨next.2, tasks, p.live⟩)
      | some issue => (some (task.payload, issue), ⟨next.2, tasks, p.live ++ [issue.capability]⟩)
  | .ended sessionId => (none, { p with live := p.live.filter fun c => c.sessionId ≠ sessionId })

/-! ## The roles behind a session request -/

/-- A role that counts for every session request: it has one of the two names that
the handler assumes, allows viewing, selects a device without labels and asks for
no address. -/
structure Eligible (engine : Engine) (role : Role) : Prop where
  named : engine.roles["admin"]? = some role ∨ engine.roles["operator"]? = some role
  views : Action.desktopView ∈ role.allowedActions
  selects : role.deviceLabelSelectors = [] ∨
    ∃ selector ∈ role.deviceLabelSelectors, selector.matches ∅ = true
  anywhere : role.conditions.allowedIpRanges = []

theorem qualifies_iff (engine : Engine) (payload : SessionRequestPayload) (role : Role) :
    Qualifies engine (subjectOf payload) (resourceOf payload) primaryAction role ↔
      Eligible engine role := by
  constructor
  · rintro ⟨⟨name, hname, hrole⟩, hview, hselects, hsatisfies⟩
    refine ⟨?_, hview, hselects, ?_⟩
    · simp only [subjectOf, List.mem_cons, List.not_mem_nil, or_false] at hname
      rcases hname with rfl | rfl
      · exact .inl hrole
      · exact .inr hrole
    · rcases hsatisfies.ip with hnil | ⟨ip, hip, -⟩
      · exact hnil
      · cases hip
  · intro h
    refine ⟨?_, h.views, h.selects, fun _ => rfl, fun _ => rfl, .inl h.anywhere⟩
    rcases h.named with hrole | hrole
    · exact ⟨"admin", by simp [subjectOf], hrole⟩
    · exact ⟨"operator", by simp [subjectOf], hrole⟩

/-- The actions granted to any session request: the union over the eligible roles. -/
theorem mem_granted (payload : SessionRequestPayload) (granted : ActionSet)
    (restrictions : SessionRestrictions) (names : String)
    (h : decision state payload = .allowed granted restrictions names) (a : Action) :
    a ∈ granted ↔ ∃ role, Eligible state.policyEngine role ∧ a ∈ role.allowedActions := by
  obtain ⟨-, -, hunion⟩ := evaluate_allowed _ _ _ _ _ _ _ h
  simp only [hunion, mem_matchingRoles, qualifies_iff]

/-- A session request is allowed as soon as some role counts for it. -/
theorem decision_allowed_iff (payload : SessionRequestPayload) :
    (∃ granted restrictions names, decision state payload = .allowed granted restrictions names) ↔
      ∃ role, Eligible state.policyEngine role := by
  constructor
  · rintro ⟨granted, restrictions, names, h⟩
    obtain ⟨hne, -, -⟩ := evaluate_allowed _ _ _ _ _ _ _ h
    obtain ⟨role, hrole⟩ := List.exists_mem_of_ne_nil _ hne
    exact ⟨role, (qualifies_iff _ payload role).mp ((mem_matchingRoles _ _ _ _ role).mp hrole)⟩
  · rintro ⟨role, hrole⟩
    have hmatching := (mem_matchingRoles _ _ _ _ role).mpr ((qualifies_iff _ payload role).mpr hrole)
    have hconflict : ¬ControlConflict (resourceOf payload) primaryAction := by
      rintro ⟨h, -⟩
      cases h
    rw [decision, evaluate_eq _ _ _ _ hconflict]
    rcases evaluateRoles_cases state.policyEngine (subjectOf payload) (resourceOf payload)
      primaryAction with ⟨-, heval⟩ | ⟨hnil, -⟩
    · obtain ⟨granted, restrictions, names, hgrant, -⟩ := grant_allowed
        (matchingRoles state.policyEngine (subjectOf payload) (resourceOf payload) primaryAction)
      exact ⟨granted, restrictions, names, heval.trans hgrant⟩
    · rw [hnil] at hmatching
      cases hmatching

/-! ## What a call has built -/

/-- The issue belongs to the request: its capability names the target device and
permits what the policy grants. -/
structure Authorized (payload : SessionRequestPayload) (issue : Issue state) : Prop where
  target : issue.capability.targetDeviceId = payload.targetDeviceId.value
  permissions : ∃ granted restrictions names,
    decision state payload = .allowed granted restrictions names ∧
      issue.capability.permissions = permissionsOf granted

theorem mem_permissions {payload : SessionRequestPayload} {issue : Issue state}
    (h : Authorized payload issue) (text : String) :
    text ∈ issue.capability.permissions ↔
      ∃ role, Eligible state.policyEngine role ∧ ∃ a ∈ role.allowedActions, a.asStr = text := by
  obtain ⟨granted, restrictions, names, hallowed, hperm⟩ := h.permissions
  simp only [hperm, permissionsOf, List.mem_map, ActionSet.mem_iter,
    mem_granted payload granted restrictions names hallowed]
  constructor
  · rintro ⟨a, ⟨role, hrole, ha⟩, rfl⟩
    exact ⟨role, hrole, a, ha, rfl⟩
  · rintro ⟨role, hrole, a, ha, rfl⟩
    exact ⟨a, ⟨role, hrole, ha⟩, rfl⟩

/-- Everything that an authorization consists of. -/
theorem authorize_ok (payload : SessionRequestPayload) (now : UInt64) (granted : ActionSet)
    (uuid nonce : Octets 16) (issue : Issue state)
    (h : authorize state payload now granted uuid nonce = .ok issue) :
    issue.capability =
        { unsignedCapability state payload now (newSessionId uuid) granted nonce with
          signature := issue.capability.signature } ∧
      relayTokenFor state payload now (newSessionId uuid) .client "client" =
        .ok issue.response.clientRelayToken ∧
      relayTokenFor state payload now (newSessionId uuid) .host "host" =
        .ok issue.response.hostRelayToken ∧
      issue.response.sessionId = newSessionId uuid ∧
      issue.record =
        { sessionId := newSessionId uuid
          organizationId := payload.organizationId
          userId := payload.subjectUserId
          clientDeviceId := payload.clientDeviceId
          targetDeviceId := payload.targetDeviceId
          relayId := state.defaultRelayId
          permissions := permissionsOf granted
          createdAt := now
          status := "authorized" } := by
  dsimp only [authorize] at h
  split at h
  · cases h
  · split at h
    · cases h
    · split at h
      · cases h
      · rename_i clientRelayToken hclient
        split at h
        · cases h
        · rename_i hostRelayToken hhost
          cases h
          exact ⟨rfl, hclient, hhost, rfl, rfl⟩

/-- The token that the handler signs for one endpoint. -/
def issuedToken (state : AppState) (payload : SessionRequestPayload) (now : UInt64)
    (sessionId : SessionId) (role : RelayTokens.EndpointRole) : RelayTokens.RelayToken :=
  ⟨sessionId, state.defaultRelayId, payload.clientDeviceId, payload.targetDeviceId, role,
    now + ttlSecs, []⟩

/-- The handler signs a token for each endpoint, if the relay's name fits. -/
theorem relayTokenFor_ok (payload : SessionRequestPayload) (now : UInt64) (sessionId : SessionId)
    (role : RelayTokens.EndpointRole) (name : String) (token : RelayTokens.RelayToken) :
    relayTokenFor state payload now sessionId role name = .ok token ↔
      token = (issuedToken state payload now sessionId role).sign state.signingKey ∧
        0 < state.defaultRelayId.utf8ByteSize ∧ state.defaultRelayId.utf8ByteSize ≤ 65535 := by
  dsimp only [relayTokenFor]
  constructor
  · intro h
    split at h
    · rename_i built hbuilt
      obtain rfl := Except.ok.inj h
      obtain ⟨hfields, hunsigned, hfits⟩ := RelayTokens.build_ok _ built hbuilt
      obtain ⟨id, relayId, client, target, role', expiresAt, signature⟩ := built
      simp only [RelayTokens.RelayTokenBuilder.mk.injEq, Option.some.injEq] at hfields hunsigned
      obtain ⟨rfl, rfl, rfl, rfl, rfl, rfl⟩ := hfields
      rw [hunsigned]
      exact ⟨rfl, hfits⟩
    · cases h
  · rintro ⟨rfl, hpos, hle⟩
    have hbuild := RelayTokens.build_fits (issuedToken state payload now sessionId role) rfl hpos hle
    simp only [issuedToken] at hbuild ⊢
    rw [hbuild]

/-- With an encoder that does not fail, an authorization takes a relay whose name fits. -/
theorem authorize_iff (payload : SessionRequestPayload) (now : UInt64) (granted : ActionSet)
    (uuid nonce : Octets 16) (hencode : ∀ c, ∃ bytes, state.encodeCapability c = .ok bytes) :
    (∃ issue, authorize state payload now granted uuid nonce = .ok issue) ↔
      0 < state.defaultRelayId.utf8ByteSize ∧ state.defaultRelayId.utf8ByteSize ≤ 65535 := by
  constructor
  · rintro ⟨issue, h⟩
    obtain ⟨-, hclient, -⟩ := authorize_ok payload now granted uuid nonce issue h
    exact ((relayTokenFor_ok payload now _ _ _ _).mp hclient).2
  · intro hfits
    have htoken : ∀ role name, relayTokenFor state payload now (newSessionId uuid) role name =
        .ok ((issuedToken state payload now (newSessionId uuid) role).sign state.signingKey) :=
      fun role name => (relayTokenFor_ok payload now _ role name _).mpr ⟨rfl, hfits⟩
    dsimp only [authorize]
    split
    · rename_i e he
      obtain ⟨bytes, hbytes⟩ := hencode
        (unsignedCapability state payload now (newSessionId uuid) granted nonce)
      rw [hbytes] at he
      cases he
    · rename_i rawBytes hraw
      split
      · rename_i e he
        obtain ⟨bytes, hbytes⟩ := hencode
          { unsignedCapability state payload now (newSessionId uuid) granted nonce with
            signature := (state.signingKey rawBytes).1 }
        rw [hbytes] at he
        cases he
      · simp only [htoken]
        exact ⟨_, rfl⟩

/-- The issue is what the handler builds for the request at this time. -/
def Built (payload : SessionRequestPayload) (now : UInt64) (issue : Issue state) : Prop :=
  ∃ granted restrictions names uuid nonce,
    decision state payload = .allowed granted restrictions names ∧
      authorize state payload now granted uuid nonce = .ok issue

/-- What a built issue consists of. -/
theorem Built.parts {payload : SessionRequestPayload} {now : UInt64} {issue : Issue state}
    (h : Built payload now issue) : ∃ granted restrictions names uuid nonce,
      decision state payload = .allowed granted restrictions names ∧
      issue.capability =
        { unsignedCapability state payload now (newSessionId uuid) granted nonce with
          signature := issue.capability.signature } ∧
      issue.response.clientRelayToken =
        (issuedToken state payload now (newSessionId uuid) .client).sign state.signingKey ∧
      issue.response.hostRelayToken =
        (issuedToken state payload now (newSessionId uuid) .host).sign state.signingKey ∧
      issue.record.createdAt = now ∧ issue.record.status = "authorized" := by
  obtain ⟨granted, restrictions, names, uuid, nonce, hallowed, hissue⟩ := h
  obtain ⟨hcapability, hclient, hhost, -, hrecord⟩ :=
    authorize_ok payload now granted uuid nonce issue hissue
  exact ⟨granted, restrictions, names, uuid, nonce, hallowed, hcapability,
    ((relayTokenFor_ok payload now _ _ _ _).mp hclient).1,
    ((relayTokenFor_ok payload now _ _ _ _).mp hhost).1, by rw [hrecord], by rw [hrecord]⟩

theorem Built.authorized {payload : SessionRequestPayload} {now : UInt64} {issue : Issue state}
    (h : Built payload now issue) : Authorized payload issue := by
  obtain ⟨granted, restrictions, names, uuid, nonce, hallowed, hcapability, -⟩ := h.parts
  refine ⟨?_, granted, restrictions, names, hallowed, ?_⟩
  · rw [hcapability]
    rfl
  · rw [hcapability]
    rfl

/-- The issue that a phase still holds. -/
def issueOf : Phase state → Option (Issue state)
  | .lookup => none
  | .persist issue => some issue
  | .append _ answer | .insertAudit _ _ answer | .recordSink _ answer | .answered answer =>
    answer.toOption

/-- Every issue that the phase holds belongs to the request. -/
def Sound (payload : SessionRequestPayload) (phase : Phase state) : Prop :=
  ∀ issue, issueOf phase = some issue → Authorized payload issue

@[simp] theorem issueOf_auditThen (builder : AuditLog.AuditEventBuilder) (answer : Answer state) :
    issueOf (auditThen builder answer) = answer.toOption := by
  unfold auditThen
  split <;> rfl

theorem auditThen_ne_persist (builder : AuditLog.AuditEventBuilder) (answer : Answer state)
    (issue : Issue state) : auditThen builder answer ≠ .persist issue := by
  unfold auditThen
  split <;> simp

/-- What the checks and the decision take to build an issue. -/
theorem authorizeOrDeny_persist (payload : SessionRequestPayload) (now : UInt64) (inputs : Inputs)
    (device : Option RegisteredDevice) (issue : Issue state) :
    authorizeOrDeny state payload now inputs device = .persist issue ↔
      (∃ d, device = some d ∧ d.isActive = true) ∧ ∃ granted restrictions names,
        decision state payload = .allowed granted restrictions names ∧
          authorize state payload now granted inputs.uuid inputs.nonce = .ok issue := by
  cases device with
  | none => simp [authorizeOrDeny]
  | some d =>
    cases hactive : d.isActive with
    | false => simp [authorizeOrDeny, hactive]
    | true =>
      cases hdecision : decision state payload with
      | denied reason =>
        simp only [authorizeOrDeny, hactive, hdecision]
        simp [auditThen_ne_persist]
      | allowed granted restrictions names =>
        cases hissue : authorize state payload now granted inputs.uuid inputs.nonce with
        | error e => simp [authorizeOrDeny, hactive, hdecision, hissue]
        | ok issue' => simp [authorizeOrDeny, hactive, hdecision, hissue]

/-- The checks and the decision leave an issue only when they have just built it. -/
theorem authorizeOrDeny_issue (payload : SessionRequestPayload) (now : UInt64) (inputs : Inputs)
    (device : Option RegisteredDevice) (issue : Issue state)
    (h : issueOf (authorizeOrDeny state payload now inputs device) = some issue) :
    authorizeOrDeny state payload now inputs device = .persist issue ∧ Built payload now issue := by
  have hpersist : authorizeOrDeny state payload now inputs device = .persist issue := by
    unfold authorizeOrDeny at h ⊢
    split at h
    · cases h
    · split at h
      · cases h
      · rename_i hactive
        split at h
        · split at h
          · simpa [hactive, issueOf] using h
          · cases h
        · rw [issueOf_auditThen] at h
          cases h
  obtain ⟨-, granted, restrictions, names, hallowed, hissue⟩ :=
    (authorizeOrDeny_persist payload now inputs device issue).mp hpersist
  exact ⟨hpersist, granted, restrictions, names, _, _, hallowed, hissue⟩

/-- A turn builds an issue, which then waits to be stored, or keeps the one that there was;
and it passes the point where the session is stored only by storing it. -/
theorem advance_issue (shared : Shared) (payload : SessionRequestPayload) (now : UInt64)
    (inputs : Inputs) (phase : Phase state) (issue : Issue state)
    (h : issueOf (advance state shared payload now inputs phase).1 = some issue) :
    (advance state shared payload now inputs phase).1 = .persist issue ∧ Built payload now issue ∨
      issueOf phase = some issue ∧ (phase = .persist issue →
        ∃ database, shared.database.insertAuthorizedSession issue.record = .ok database) := by
  cases phase with
  | lookup =>
    simp only [advance] at h ⊢
    split at h
    · cases h
    · exact .inl (authorizeOrDeny_issue payload now inputs _ issue h)
  | persist issue' =>
    simp only [advance] at h
    split at h
    · cases h
    · rename_i database hstored
      rw [issueOf_auditThen] at h
      obtain rfl : issue' = issue := by simpa [Except.toOption] using h
      refine .inr ⟨rfl, fun _ => ⟨database, ?_⟩⟩
      unfold attempt at hstored
      split at hstored
      · cases hstored
      · exact hstored
  | append event answer =>
    simp only [advance] at h
    split at h
    · cases h
    · exact .inr ⟨h, by simp⟩
  | insertAudit previousChain chained answer =>
    simp only [advance] at h
    split at h
    · cases h
    · exact .inr ⟨h, by simp⟩
  | recordSink chained answer =>
    simp only [advance] at h
    split at h
    · cases h
    · exact .inr ⟨h, by simp⟩
  | answered answer => exact .inr ⟨h, by simp⟩

/-- A turn keeps the issue or builds it from the decision on the same request. -/
theorem advance_sound (shared : Shared) (payload : SessionRequestPayload) (now : UInt64)
    (inputs : Inputs) (phase : Phase state) (h : Sound payload phase) :
    Sound payload (advance state shared payload now inputs phase).1 := by
  intro issue hissue
  rcases advance_issue shared payload now inputs phase issue hissue with ⟨-, hbuilt⟩ | ⟨hold, -⟩
  · exact hbuilt.authorized
  · exact h issue hold

theorem authorizeEvent_build (payload : SessionRequestPayload) (now : UInt64)
    (sessionId : SessionId) (answer : Answer state) :
    ∃ event, auditThen (authorizeEvent state payload now sessionId) answer = .append event answer :=
  ⟨_, rfl⟩

/-- Before `get_device` has answered nothing is handed out in the same turn. -/
theorem handedOut_authorizeOrDeny (payload : SessionRequestPayload) (now : UInt64)
    (inputs : Inputs) (device : Option RegisteredDevice) :
    handedOut .lookup (authorizeOrDeny state payload now inputs device) = none := by
  unfold authorizeOrDeny
  split
  · rfl
  · split
    · rfl
    · split
      · split <;> rfl
      · rfl

/-- An authorization is handed out only when the audit sink has recorded it. -/
theorem handedOut_advance (shared : Shared) (payload : SessionRequestPayload) (now : UInt64)
    (inputs : Inputs) (phase : Phase state) (issue : Issue state) :
    handedOut phase (advance state shared payload now inputs phase).1 = some issue ↔
      inputs.fault = none ∧ ∃ chained, phase = .recordSink chained (.ok issue) := by
  cases phase with
  | lookup =>
    simp only [advance, reduceCtorEq, exists_false, and_false, iff_false]
    split
    · simp [handedOut]
    · simp [handedOut_authorizeOrDeny]
  | persist issue' =>
    simp only [advance, reduceCtorEq, exists_false, and_false, iff_false]
    split
    · simp [handedOut]
    · -- The event has all its required fields, so the audit is never skipped.
      obtain ⟨event, hevent⟩ :=
        authorizeEvent_build payload now issue'.response.sessionId (.ok issue')
      simp [hevent, handedOut]
  | append event answer =>
    simp only [advance, reduceCtorEq, exists_false, and_false, iff_false]
    split <;> simp [handedOut]
  | insertAudit previousChain chained answer =>
    simp only [advance, reduceCtorEq, exists_false, and_false, iff_false]
    split <;> simp [handedOut]
  | recordSink chained answer =>
    cases hfault : inputs.fault with
    | some text => simp [advance, hfault, handedOut]
    | none =>
      cases answer with
      | error e => simp [advance, hfault, handedOut]
      | ok issue' => simp [advance, hfault, handedOut]
  | answered answer => simp [handedOut]

/-! ## One event of a run -/

/-- The event lets a call of this request return its authorization: the call waits
for the audit sink with nothing else to do, and the sink does not fail. -/
def Answering (p : Plane state) (event : Event) (payload : SessionRequestPayload) : Prop :=
  ∃ index inputs task chained issue, event = .turn index inputs ∧ p.tasks[index]? = some task ∧
    task.payload = payload ∧ task.phase = .recordSink chained (.ok issue) ∧ inputs.fault = none

/-- What an event hands out is what the answered call has built. -/
theorem step_output (p : Plane state) (event : Event) (payload : SessionRequestPayload)
    (issue : Issue state) :
    (step p event).1 = some (payload, issue) ↔
      ∃ index inputs task chained, event = .turn index inputs ∧ p.tasks[index]? = some task ∧
        task.payload = payload ∧ task.phase = .recordSink chained (.ok issue) ∧
        inputs.fault = none := by
  constructor
  · intro h
    cases event with
    | request payload now => cases h
    | ended sessionId => cases h
    | turn index inputs =>
      cases htask : p.tasks[index]? with
      | none => simp [step, htask] at h
      | some task =>
        simp only [step, htask] at h
        split at h
        · cases h
        · rename_i issue' hout
          obtain ⟨rfl, rfl⟩ := Prod.mk.inj (Option.some.inj h)
          obtain ⟨hfault, chained, hphase⟩ := (handedOut_advance _ _ _ _ _ _).mp hout
          exact ⟨index, inputs, task, chained, rfl, htask, rfl, hphase, hfault⟩
  · rintro ⟨index, inputs, task, chained, rfl, htask, rfl, hphase, hfault⟩
    have hout := (handedOut_advance p.shared task.payload task.now inputs task.phase issue).mpr
      ⟨hfault, chained, hphase⟩
    simp only [step, htask, hout]

theorem answering_iff (p : Plane state) (event : Event) (payload : SessionRequestPayload) :
    Answering p event payload ↔ ∃ issue, (step p event).1 = some (payload, issue) := by
  simp only [step_output]
  constructor
  · rintro ⟨index, inputs, task, chained, issue, h⟩
    exact ⟨issue, index, inputs, task, chained, h⟩
  · rintro ⟨issue, index, inputs, task, chained, h⟩
    exact ⟨index, inputs, task, chained, issue, h⟩

/-- An event adds the capability that it hands out to the live ones, and nothing else. -/
theorem step_live (p : Plane state) (event : Event) :
    match (step p event).1 with
    | none => (step p event).2.live.Sublist p.live
    | some out => (step p event).2.live = p.live ++ [out.2.capability] := by
  cases event with
  | request payload now => exact List.Sublist.refl _
  | ended sessionId => exact List.filter_sublist
  | turn index inputs =>
    cases htask : p.tasks[index]? with
    | none => simp [step, htask]
    | some task =>
      cases hout : handedOut task.phase
        (advance state p.shared task.payload task.now inputs task.phase).1 <;>
        simp [step, htask, hout]

/-- Every issue in the plane belongs to its request. -/
def AllSound (p : Plane state) : Prop := ∀ task ∈ p.tasks, Sound task.payload task.phase

/-- What holds of every new call and is kept by every turn holds of all calls of a plane. -/
theorem step_tasks {P : Task state → Prop} (hnew : ∀ payload now, P ⟨payload, now, .lookup⟩)
    (hturn : ∀ shared task inputs, P task → P { task with
      phase := (advance state shared task.payload task.now inputs task.phase).1 })
    (p : Plane state) (event : Event) (h : ∀ task ∈ p.tasks, P task) :
    ∀ task ∈ (step p event).2.tasks, P task := by
  cases event with
  | request payload now =>
    intro task htask
    rcases List.mem_append.mp htask with htask | htask
    · exact h task htask
    · obtain rfl := List.mem_singleton.mp htask
      exact hnew payload now
  | ended sessionId => exact h
  | turn index inputs =>
    cases htask : p.tasks[index]? with
    | none =>
      simp only [step, htask]
      exact h
    | some task =>
      have hset : ∀ task' ∈ p.tasks.set index { task with
          phase := (advance state p.shared task.payload task.now inputs task.phase).1 },
          P task' := by
        intro task' htask'
        rcases List.mem_or_eq_of_mem_set htask' with hmem | rfl
        · exact h task' hmem
        · exact hturn p.shared task inputs (h task (List.mem_of_getElem? htask))
      simp only [step, htask]
      split
      · exact hset
      · exact hset

theorem step_allSound (p : Plane state) (event : Event) (h : AllSound p) :
    AllSound (step p event).2 := by
  refine step_tasks (fun payload now issue hissue => ?_) (fun shared task inputs htask => ?_) p event h
  · cases hissue
  · exact advance_sound shared task.payload task.now inputs task.phase htask

/-- What is handed out in a plane whose issues belong to their requests. -/
theorem step_authorized (p : Plane state) (event : Event) (payload : SessionRequestPayload)
    (issue : Issue state) (h : AllSound p) (hout : (step p event).1 = some (payload, issue)) :
    Authorized payload issue := by
  obtain ⟨index, inputs, task, chained, -, htask, rfl, hphase, -⟩ :=
    (step_output p event payload issue).mp hout
  exact h task (List.mem_of_getElem? htask) issue (by rw [hphase]; rfl)

end ControlPlane
