import NexusRemote.ControlGrants
import NexusRemote.Tables

/-!
# Enrolled devices and the sessions on them

Devices of any number of organizations are enrolled; then a session is requested.
The enrollment keeps a device, its credential and its organization together. The
session request names an organization of its own.
-/

namespace DeviceEnrollment

open BigEndian EntityId DeviceCredentials PolicyModel PolicyEngine PolicyDecision RelayTokens
open ControlStore SessionRequest ControlPlane
open ControlGrants (drawn plainState)

/-! ## Runs of enrollments -/

inductive Call where
  | storeEnrollmentToken (token : EnrollmentToken)
  | enrollDevice (tokenId : String) (now : UInt64) (device : RegisteredDevice)
  /-- Somebody writes to the other tables. -/
  | others (database : Database)

/-- One call; a failure leaves the database as it was. -/
def step (db : Database) : Call → Except EnrollmentError Unit × Database
  | .storeEnrollmentToken token =>
    match db.storeEnrollmentToken token with
    | .error e => (.error (.storage e), db)
    | .ok db => (.ok (), db)
  | .enrollDevice tokenId now device =>
    match db.enrollDevice tokenId now device with
    | .error e => (.error e, db)
    | .ok (_, db) => (.ok (), db)
  | .others database =>
    (.ok (), { db with
      organizations := database.organizations
      sessions := database.sessions
      auditEvents := database.auditEvents })

/-- The row of a device fits the credential that is stored with it. -/
structure Fits (id : String) (row : DeviceRow) (credential : DeviceCredential) : Prop where
  device : credential.deviceId.value = id
  organization : credential.organizationId.value = row.organizationId
  time : 0 ≤ row.createdAt
  status : row.status = "active" ∨ row.status = "revoked"

/-- Every device has a credential that fits it. -/
def Consistent (db : Database) : Prop :=
  ∀ id row, db.devices[id]? = some row →
    ∃ credential, db.deviceCredentials[id]? = some credential ∧ Fits id row credential

theorem consistent_empty : Consistent Database.empty := by
  intro id row h
  simp [Database.empty] at h

theorem inserted_consistent (db db' : Database) (device : RegisteredDevice)
    (hdb : Consistent db) (h : Inserted db device db') : Consistent db' := by
  obtain ⟨new, horganization, hstatus, htime, hdevices⟩ := h.devices
  intro id row hrow
  rw [hdevices] at hrow
  rw [h.credentials]
  obtain ⟨rfl, rfl⟩ | ⟨hid, hold⟩ := Tables.getElem?_insert_cases _ _ _ _ _ hrow
  · refine ⟨device.credential, Std.TreeMap.getElem?_insert_self, rfl, horganization.symm, htime, ?_⟩
    rw [hstatus]
    cases device.isActive
    · exact .inr rfl
    · exact .inl rfl
  · rw [Tables.getElem?_insert_of_ne _ _ hid]
    exact hdb id row hold

theorem step_consistent (db : Database) (call : Call) (h : Consistent db) :
    Consistent (step db call).2 := by
  cases call with
  | storeEnrollmentToken token =>
    simp only [step]
    split
    · exact h
    · rename_i db' hstored
      obtain ⟨-, hdevices, hcredentials⟩ := storeEnrollmentToken_ok db db' token hstored
      unfold Consistent
      rw [hdevices, hcredentials]
      exact h
  | enrollDevice tokenId now device =>
    simp only [step]
    split
    · exact h
    · rename_i token db' henroll
      obtain ⟨row, -, -, -, -, -, hinserted⟩ := enrollDevice_ok db db' tokenId now device token henroll
      refine inserted_consistent _ db' device ?_ hinserted
      exact h
  | others database => exact h

/-- After any enrollments every device has a credential that fits it. -/
theorem after_consistent (calls : List Call) : Consistent (Mealy.after step Database.empty calls) :=
  Mealy.after_always step_consistent Database.empty calls consistent_empty

theorem deviceFromRow_fits (id : DeviceId) (row : DeviceRow) (credential : DeviceCredential)
    (h : Fits id.value row credential) :
    deviceFromRow id.value row credential = .ok ⟨credential, row.hostname, row.agentVersion,
      UInt64.ofNat row.createdAt.toNat, row.status = "active"⟩ := by
  have hdevice : credential.deviceId = id := Id.eq_of_value _ _ h.device
  have htime : ofColumn "created_at" row.createdAt = .ok (UInt64.ofNat row.createdAt.toNat) :=
    if_pos h.time
  unfold deviceFromRow
  rw [parseId_value, ← h.organization, parseId_value, htime]
  rcases h.status with hstatus | hstatus <;>
    simp [hstatus, hdevice, bind, Except.bind, pure, Except.pure]

/-- A consistent database reads every device back, with its own credential. -/
theorem getDevice_consistent (db : Database) (id : DeviceId) (hdb : Consistent db) :
    (∃ device, db.getDevice id = .ok (some device) ∧ device.isActive = true) ↔
      ∃ row, db.devices[id.value]? = some row ∧ row.status = "active" := by
  unfold Database.getDevice
  cases hrow : db.devices[id.value]? with
  | none => simp
  | some row =>
    obtain ⟨credential, hcredential, hfits⟩ := hdb id.value row hrow
    simp [hcredential, deviceFromRow_fits id row credential hfits]

/-! ## Authorization -/

variable {state : AppState}

/-- A call of the handler signs a capability and stores a session; the two inputs are those
of its first two turns. -/
def Authorizes (state : AppState) (shared : Shared) (payload : SessionRequestPayload) (now : UInt64)
    (lookup persist : Inputs) : Prop :=
  ∃ issue database, (advance state shared payload now lookup .lookup).1 = .persist issue ∧
    attempt persist (shared.database.insertAuthorizedSession issue.record) = .ok database

/-- Everything that a session request is checked for. -/
structure Admitted (state : AppState) (db : Database) (payload : SessionRequestPayload)
    (now : UInt64) (lookup persist : Inputs) : Prop where
  device : ∃ row, db.devices[payload.targetDeviceId.value]? = some row ∧ row.status = "active"
  role : ∃ role, Eligible state.policyEngine role
  relay : 0 < state.defaultRelayId.utf8ByteSize ∧ state.defaultRelayId.utf8ByteSize ≤ 65535
  time : now.toNat < 2 ^ 63
  fresh : db.sessions.contains (newSessionId lookup.uuid).value = false
  faults : lookup.fault = none ∧ persist.fault = none

theorem attempt_ok {α : Type} (inputs : Inputs) (operation : Except StorageError α) (a : α) :
    attempt inputs operation = .ok a ↔ inputs.fault = none ∧ operation = .ok a := by
  unfold attempt
  cases inputs.fault <;> simp

/-- What the first turn of a call takes to build an issue. -/
theorem lookup_persist_iff (shared : Shared) (payload : SessionRequestPayload) (now : UInt64)
    (inputs : Inputs) (issue : Issue state) :
    (advance state shared payload now inputs .lookup).1 = .persist issue ↔
      inputs.fault = none ∧
      (∃ device, shared.database.getDevice payload.targetDeviceId = .ok (some device) ∧
        device.isActive = true) ∧
      ∃ granted restrictions names,
        decision state payload = .allowed granted restrictions names ∧
          authorize state payload now granted inputs.uuid inputs.nonce = .ok issue := by
  simp only [advance]
  cases hlookup : attempt inputs (shared.database.getDevice payload.targetDeviceId) with
  | error e =>
    simp only [reduceCtorEq, false_iff]
    rintro ⟨hfault, ⟨device, hdevice, -⟩, -⟩
    have hok := (attempt_ok inputs _ (some device)).mpr ⟨hfault, hdevice⟩
    rw [hlookup] at hok
    cases hok
  | ok device =>
    obtain ⟨hfault, hdevice⟩ := (attempt_ok _ _ _).mp hlookup
    simp only [authorizeOrDeny_persist, hdevice, hfault, Except.ok.injEq, true_and]

/-- The handler makes exactly the checks of `Admitted`; whose device it is, is not among them. -/
theorem authorizes_iff (shared : Shared) (payload : SessionRequestPayload) (now : UInt64)
    (lookup persist : Inputs) (hdb : Consistent shared.database)
    (hencode : ∀ c, ∃ bytes, state.encodeCapability c = .ok bytes) :
    Authorizes state shared payload now lookup persist ↔
      Admitted state shared.database payload now lookup persist := by
  constructor
  · rintro ⟨issue, database, hpersist, hstored⟩
    obtain ⟨hfault, hdevice, granted, restrictions, names, hallowed, hissue⟩ :=
      (lookup_persist_iff shared payload now lookup issue).mp hpersist
    obtain ⟨hpersistFault, hinsert⟩ := (attempt_ok _ _ _).mp hstored
    obtain ⟨-, -, -, -, hrecord⟩ := authorize_ok payload now granted _ _ issue hissue
    obtain ⟨htime, hfresh, -⟩ :=
      (insertAuthorizedSession_iff _ issue.record (by rw [hrecord])).mp ⟨database, hinsert⟩
    rw [hrecord] at htime hfresh
    exact ⟨(getDevice_consistent _ _ hdb).mp hdevice,
      (decision_allowed_iff payload).mp ⟨granted, restrictions, names, hallowed⟩,
      (authorize_iff payload now granted _ _ hencode).mp ⟨issue, hissue⟩, htime, hfresh, hfault,
      hpersistFault⟩
  · rintro ⟨hrow, hrole, hrelay, htime, hfresh, hfault, hpersistFault⟩
    obtain ⟨granted, restrictions, names, hallowed⟩ := (decision_allowed_iff payload).mpr hrole
    obtain ⟨issue, hissue⟩ :=
      (authorize_iff payload now granted lookup.uuid lookup.nonce hencode).mpr hrelay
    obtain ⟨-, -, -, -, hrecord⟩ := authorize_ok payload now granted _ _ issue hissue
    have hexists : shared.database.devices.contains issue.record.targetDeviceId.value = true := by
      obtain ⟨row, hget, -⟩ := hrow
      rw [hrecord, Std.TreeMap.contains_eq_isSome_getElem?, hget]
      rfl
    obtain ⟨database, hinsert⟩ := (insertAuthorizedSession_iff shared.database issue.record
      (by rw [hrecord])).mpr ⟨by rw [hrecord]; exact htime, by rw [hrecord]; exact hfresh, hexists⟩
    refine ⟨issue, database, ?_, (attempt_ok _ _ _).mpr ⟨hpersistFault, hinsert⟩⟩
    exact (lookup_persist_iff shared payload now lookup issue).mpr
      ⟨hfault, (getDevice_consistent _ _ hdb).mpr hrow, granted, restrictions, names, hallowed, hissue⟩

/-- The stored credential of the requested device belongs to the organization of the request. -/
def SameOrganization (db : Database) (payload : SessionRequestPayload) : Prop :=
  ∀ credential, db.deviceCredentials[payload.targetDeviceId.value]? = some credential →
    credential.organizationId = payload.organizationId

/-- After any enrollments, sessions stay within an organization exactly if the request is
stopped by one of the other checks or names the organization of the device. -/
theorem tenant_isolation_iff (state : AppState) (calls : List Call) (auditChain : AuditLog.AuditChain)
    (auditSink : List AuditLog.ChainedAuditEvent) (payload : SessionRequestPayload) (now : UInt64)
    (lookup persist : Inputs) (hencode : ∀ c, ∃ bytes, state.encodeCapability c = .ok bytes) :
    (Authorizes state ⟨Mealy.after step Database.empty calls, auditChain, auditSink⟩ payload now
        lookup persist → SameOrganization (Mealy.after step Database.empty calls) payload) ↔
      ¬Admitted state (Mealy.after step Database.empty calls) payload now lookup persist ∨
        SameOrganization (Mealy.after step Database.empty calls) payload := by
  rw [authorizes_iff _ payload now lookup persist (after_consistent calls) hencode]
  exact imp_iff_not_or

/-! ## Two organizations -/

def acme : TenantId := ControlGrants.organization
def globex : TenantId := ⟨"org-globex", by decide⟩

def acmeHost : DeviceId := ⟨"dev-host-tok-acme", by decide⟩
def globexHost : DeviceId := ⟨"dev-host-tok-glob", by decide⟩

/-- A token for one host. -/
def hostToken (tokenId : String) (organizationId : TenantId) : EnrollmentToken :=
  ⟨tokenId, organizationId, .host, 1000, 5000, 1, List.replicate 64 9⟩

def enrollHost (tokenId : String) (deviceId : DeviceId) (organizationId : TenantId) : Call :=
  .enrollDevice tokenId 2000
    ⟨ControlGrants.hostCredential deviceId organizationId, "host", "0.1.0", 2000, true⟩

/-- Each organization enrolls a host. -/
def twoHosts : Database :=
  Mealy.after step Database.empty
    [.storeEnrollmentToken (hostToken "tok-acme" acme), .storeEnrollmentToken (hostToken "tok-glob" globex),
      enrollHost "tok-acme" acmeHost acme, enrollHost "tok-glob" globexHost globex]

/-- Somebody of an organization asks for the host of the first one. -/
def acmeHostFor (organizationId : TenantId) : SessionRequestPayload :=
  { ControlGrants.requestBy ⟨"user-mallory", by decide⟩ ["desktop.view"] with
    organizationId := organizationId
    targetDeviceId := acmeHost }

theorem acmeHost_owner : twoHosts.deviceCredentials["dev-host-tok-acme"]?.map
    DeviceCredential.organizationId = some acme := by
  decide +kernel

theorem acmeHost_admitted (organizationId : TenantId) :
    Admitted plainState twoHosts (acmeHostFor organizationId) 2000 (drawn 1) (drawn 1) := by
  have hrow : twoHosts.devices["dev-host-tok-acme"]?.map DeviceRow.status = some "active" := by
    decide +kernel
  have hallowed : (decision plainState (acmeHostFor acme)).isAllowed = true := by
    decide +kernel
  refine ⟨Option.map_eq_some_iff.mp hrow, ?_, by decide, by decide, by decide +kernel, rfl, rfl⟩
  cases hdecision : decision plainState (acmeHostFor acme) with
  | denied reason =>
    rw [hdecision] at hallowed
    cases hallowed
  | allowed granted restrictions names =>
    exact (decision_allowed_iff (acmeHostFor acme)).mp ⟨granted, restrictions, names, hdecision⟩

/-- A request in the name of one organization opens a session on the other one's host. -/
theorem session_across_organizations :
    Authorizes plainState ⟨twoHosts, .new none, []⟩ (acmeHostFor globex) 2000 (drawn 1)
        (drawn 1) ∧
      ¬SameOrganization twoHosts (acmeHostFor globex) := by
  constructor
  · exact (authorizes_iff _ (acmeHostFor globex) 2000 (drawn 1) (drawn 1) (after_consistent _)
      (fun c => ⟨_, rfl⟩)).mpr (acmeHost_admitted globex)
  · intro hsame
    obtain ⟨credential, hcredential, howner⟩ := Option.map_eq_some_iff.mp acmeHost_owner
    have hglobex := hsame credential hcredential
    rw [howner] at hglobex
    exact absurd hglobex (by decide)

theorem tenant_isolation_own_host :
    Authorizes plainState ⟨twoHosts, .new none, []⟩ (acmeHostFor acme) 2000 (drawn 1)
        (drawn 1) ∧
      SameOrganization twoHosts (acmeHostFor acme) := by
  have hauthorized := (authorizes_iff ⟨twoHosts, .new none, []⟩ (acmeHostFor acme) 2000 (drawn 1)
    (drawn 1) (after_consistent _) (fun c => ⟨_, rfl⟩)).mpr (acmeHost_admitted acme)
  refine ⟨hauthorized, (tenant_isolation_iff plainState _ (.new none) []
    (acmeHostFor acme) 2000 (drawn 1) (drawn 1) (fun c => ⟨_, rfl⟩)).mpr (.inr ?_) hauthorized⟩
  intro credential hcredential
  obtain ⟨stored, hstored, howner⟩ := Option.map_eq_some_iff.mp acmeHost_owner
  obtain rfl : stored = credential := Option.some.inj (hstored.symm.trans hcredential)
  exact howner

end DeviceEnrollment
