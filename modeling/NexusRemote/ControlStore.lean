import NexusRemote.AuditLog
import NexusRemote.DeviceCredentials

/-!
# The control plane's database (`apps/nexusd/src/storage`, `migrations`)

One map for every table that the request handlers touch, keyed by its primary
key. A JSON column is kept as the value that it encodes. An operation is one
transaction: it returns the new database, or an error that leaves the old one.
-/

namespace ControlStore

open BigEndian EntityId AuditLog DeviceCredentials

inductive StorageError where
  /-- An error of the database itself, with its text. -/
  | database (text : String)
  /-- A stored or bound value is invalid; names its column or the rule it breaks. -/
  | corruptRow (column : String)
  | serialization (text : String)
  deriving DecidableEq, Repr

def uniqueFailed (column : String) : StorageError := .database ("UNIQUE constraint failed: " ++ column)
def foreignKeyFailed : StorageError := .database "FOREIGN KEY constraint failed"

structure RegisteredDevice where
  credential : DeviceCredential
  hostname : String
  agentVersion : String
  enrolledAt : UInt64
  isActive : Bool
  deriving DecidableEq

structure EnrollmentTokenRow where
  organizationId : String
  token : EnrollmentToken
  notBefore : Int
  expiresAt : Int
  maxUses : Int
  usesCount : Int
  deriving DecidableEq

structure DeviceRow where
  organizationId : String
  hostname : String
  agentVersion : String
  status : String
  createdAt : Int

structure SessionRow where
  organizationId : String
  userId : String
  clientDeviceId : String
  targetDeviceId : String
  status : String
  connectionMode : String
  relayId : String
  createdAt : Int
  policySnapshot : List String
  deriving DecidableEq

structure Database where
  organizations : Std.TreeMap String Int
  enrollmentTokens : Std.TreeMap String EnrollmentTokenRow
  devices : Std.TreeMap String DeviceRow
  deviceCredentials : Std.TreeMap String DeviceCredential
  sessions : Std.TreeMap String SessionRow
  auditEvents : Std.TreeMap String ChainedAuditEvent

/-- The tables after the migration. -/
def Database.empty : Database := ⟨∅, ∅, ∅, ∅, ∅, ∅⟩

/-- `i64::try_from`, on the way into a column. -/
def toColumn (column : String) (x : UInt64) : Except StorageError Int :=
  if x.toNat < 2 ^ 63 then .ok x.toNat else .error (.corruptRow column)

theorem toColumn_ok (column : String) (x : UInt64) (h : x.toNat < 2 ^ 63) :
    toColumn column x = .ok (x.toNat : Int) := if_pos h

theorem toColumn_error (column : String) (x : UInt64) (h : ¬x.toNat < 2 ^ 63) :
    toColumn column x = .error (.corruptRow column) := if_neg h

/-- `u64::try_from`, on the way out of a column. -/
def ofColumn (column : String) (x : Int) : Except StorageError UInt64 :=
  if 0 ≤ x then .ok (UInt64.ofNat x.toNat) else .error (.corruptRow column)

/-- `u32::try_from`, on the way out of a column. -/
def ofColumn32 (column : String) (x : Int) : Except StorageError UInt32 :=
  if 0 ≤ x ∧ x < 2 ^ 32 then .ok (UInt32.ofNat x.toNat) else .error (.corruptRow column)

theorem toColumn_eq (column : String) (x : UInt64) (n : Int) (h : toColumn column x = .ok n) :
    n = x.toNat := by
  unfold toColumn at h
  split at h
  · exact (Except.ok.inj h).symm
  · cases h

theorem ofColumn_eq (column : String) (x : Int) (n : UInt64) (hfits : x < 2 ^ 64)
    (h : ofColumn column x = .ok n) : x = n.toNat := by
  unfold ofColumn at h
  split at h
  · obtain rfl := Except.ok.inj h
    rw [UInt64.toNat_ofNat', Nat.mod_eq_of_lt (by omega)]
    omega
  · cases h

theorem ofColumn32_eq (column : String) (x : Int) (n : UInt32) (h : ofColumn32 column x = .ok n) :
    x = n.toNat := by
  unfold ofColumn32 at h
  split at h
  · obtain rfl := Except.ok.inj h
    rw [UInt32.toNat_ofNat', Nat.mod_eq_of_lt (by omega)]
    omega
  · cases h

/-- `INSERT INTO organizations … ON CONFLICT(id) DO NOTHING`. -/
def Database.ensureOrganization (db : Database) (id : TenantId) (createdAt : Int) : Database :=
  { db with organizations := db.organizations.insertIfNew id.value createdAt }

/-- The identifier that a text column holds. -/
def parseId (kind : IdKind) (column text : String) : Except StorageError (Id kind) :=
  match Id.new kind text with
  | .ok id => .ok id
  | .error _ => .error (.corruptRow column)

theorem parseId_value {kind : IdKind} (column : String) (i : Id kind) :
    parseId kind column i.value = .ok i := by
  rw [parseId, (Id.new_ok kind i.value i).mpr rfl]

def deviceFromRow (id : String) (row : DeviceRow) (credential : DeviceCredential) :
    Except StorageError RegisteredDevice := do
  let deviceId ← parseId .device "device_id" id
  let organizationId ← parseId .tenant "organization_id" row.organizationId
  if credential.deviceId ≠ deviceId then
    throw (.corruptRow "credential.device_id")
  if credential.organizationId ≠ organizationId then
    throw (.corruptRow "credential.organization_id")
  let enrolledAt ← ofColumn "created_at" row.createdAt
  match row.status with
  | "active" => return ⟨credential, row.hostname, row.agentVersion, enrolledAt, true⟩
  | "revoked" => return ⟨credential, row.hostname, row.agentVersion, enrolledAt, false⟩
  | _ => throw (.corruptRow "status")

/-- The device row joined with its credential. -/
def Database.getDevice (db : Database) (id : DeviceId) :
    Except StorageError (Option RegisteredDevice) :=
  match db.devices[id.value]?, db.deviceCredentials[id.value]? with
  | some row, some credential =>
    match deviceFromRow id.value row credential with
    | .ok device => .ok (some device)
    | .error e => .error e
  | _, _ => .ok none

/-! ## Enrollment -/

inductive EnrollmentError where
  | notFound (tokenId : String)
  | expired (expiredAt currentTime : UInt64)
  | notYetActive (notBefore currentTime : UInt64)
  | exhausted (tokenId : String) (usesCount maxUses : UInt32)
  | storage (e : StorageError)
  deriving DecidableEq, Repr

/-- `INSERT OR REPLACE`: a token that is stored again has not been used. -/
def Database.storeEnrollmentToken (db : Database) (token : EnrollmentToken) :
    Except StorageError Database :=
  match toColumn "not_before" token.notBefore, toColumn "expires_at" token.expiresAt with
  | .error e, _ => .error e
  | .ok _, .error e => .error e
  | .ok notBefore, .ok expiresAt =>
    let db := db.ensureOrganization token.organizationId notBefore
    .ok { db with
      enrollmentTokens := db.enrollmentTokens.insert token.tokenId
        { organizationId := token.organizationId.value
          token := token
          notBefore := notBefore
          expiresAt := expiresAt
          maxUses := token.maxUses.toNat
          usesCount := 0 } }

/-- What storing a token does. -/
theorem storeEnrollmentToken_ok (db db' : Database) (token : EnrollmentToken)
    (h : db.storeEnrollmentToken token = .ok db') :
    (∃ row : EnrollmentTokenRow, row.token = token ∧ row.maxUses = token.maxUses.toNat ∧
        row.usesCount = 0 ∧ db'.enrollmentTokens = db.enrollmentTokens.insert token.tokenId row) ∧
      db'.devices = db.devices ∧ db'.deviceCredentials = db.deviceCredentials := by
  unfold Database.storeEnrollmentToken at h
  split at h
  · cases h
  · cases h
  · obtain rfl := Except.ok.inj h
    exact ⟨⟨_, rfl, rfl, rfl, rfl⟩, rfl, rfl⟩

/-- The window and the budget of a token, up to the conditional `UPDATE` that consumes a use. -/
def EnrollmentTokenRow.consume (row : EnrollmentTokenRow) (tokenId : String) (now : UInt64) :
    Except EnrollmentError EnrollmentTokenRow :=
  match ofColumn "not_before" row.notBefore, ofColumn "expires_at" row.expiresAt,
      ofColumn32 "uses_count" row.usesCount, ofColumn32 "max_uses" row.maxUses with
  | .error e, _, _, _ => .error (.storage e)
  | _, .error e, _, _ => .error (.storage e)
  | _, _, .error e, _ => .error (.storage e)
  | _, _, _, .error e => .error (.storage e)
  | .ok notBefore, .ok expiresAt, .ok uses, .ok max =>
    if now < notBefore then .error (.notYetActive notBefore now)
    else if now > expiresAt then .error (.expired expiresAt now)
    else if uses ≥ max then .error (.exhausted tokenId uses max)
    else
      match toColumn "current_time" now with
      | .error e => .error (.storage e)
      | .ok current =>
        if row.usesCount < row.maxUses ∧ current ≤ row.expiresAt then
          .ok { row with usesCount := row.usesCount + 1 }
        else .error (.exhausted tokenId uses max)

/-- The rows of a device and its credential. -/
def Database.insertDevice (db : Database) (device : RegisteredDevice) :
    Except StorageError Database :=
  let cred := device.credential
  match toColumn "enrolled_at" device.enrolledAt with
  | .error e => .error e
  | .ok enrolledAt =>
    let db := db.ensureOrganization cred.organizationId enrolledAt
    if db.devices.contains cred.deviceId.value then .error (uniqueFailed "devices.id")
    else
      match toColumn "issued_at" cred.issuedAt, toColumn "expires_at" cred.expiresAt with
      | .error e, _ => .error e
      | .ok _, .error e => .error e
      | .ok _, .ok _ =>
        if db.deviceCredentials.contains cred.deviceId.value then
          .error (uniqueFailed "device_credentials.device_id")
        else
          .ok { db with
            devices := db.devices.insert cred.deviceId.value
              { organizationId := cred.organizationId.value
                hostname := device.hostname
                agentVersion := device.agentVersion
                status := if device.isActive then "active" else "revoked"
                createdAt := enrolledAt }
            deviceCredentials := db.deviceCredentials.insert cred.deviceId.value cred }

def Database.enrollDevice (db : Database) (tokenId : String) (now : UInt64)
    (device : RegisteredDevice) : Except EnrollmentError (EnrollmentToken × Database) :=
  match db.enrollmentTokens[tokenId]? with
  | none => .error (.notFound tokenId)
  | some row =>
    match row.consume tokenId now with
    | .error e => .error e
    | .ok consumed =>
      if device.credential.organizationId ≠ row.token.organizationId then
        .error (.storage (.corruptRow "organization_id mismatch"))
      else
        match insertDevice
            { db with enrollmentTokens := db.enrollmentTokens.insert tokenId consumed } device with
        | .error e => .error (.storage e)
        | .ok db => .ok (row.token, db)

/-- What inserting a device takes and does. -/
structure Inserted (db : Database) (device : RegisteredDevice) (db' : Database) : Prop where
  time : device.enrolledAt.toNat < 2 ^ 63
  newDevice : db.devices[device.credential.deviceId.value]? = none
  newCredential : db.deviceCredentials[device.credential.deviceId.value]? = none
  devices : ∃ row : DeviceRow, row.organizationId = device.credential.organizationId.value ∧
    row.status = (if device.isActive then "active" else "revoked") ∧ 0 ≤ row.createdAt ∧
    db'.devices = db.devices.insert device.credential.deviceId.value row
  credentials : db'.deviceCredentials =
    db.deviceCredentials.insert device.credential.deviceId.value device.credential
  tokens : db'.enrollmentTokens = db.enrollmentTokens
  sessions : db'.sessions = db.sessions
  auditEvents : db'.auditEvents = db.auditEvents

theorem insertDevice_ok (db db' : Database) (device : RegisteredDevice)
    (h : db.insertDevice device = .ok db') : Inserted db device db' := by
  unfold Database.insertDevice at h
  simp only at h
  by_cases htime : device.enrolledAt.toNat < 2 ^ 63
  · rw [toColumn_ok _ _ htime] at h
    simp only at h
    split at h
    · cases h
    · rename_i hdevice
      split at h
      · cases h
      · cases h
      · split at h
        · cases h
        · rename_i hcredential
          obtain rfl := Except.ok.inj h
          rw [Std.TreeMap.contains_eq_isSome_getElem?, Option.not_isSome_iff_eq_none] at hdevice hcredential
          exact ⟨htime, hdevice, hcredential, ⟨_, rfl, rfl, Int.natCast_nonneg _, rfl⟩, rfl, rfl, rfl, rfl⟩
  · rw [toColumn_error _ _ htime] at h
    cases h

/-- Everything that consuming a use can end in. -/
inductive Consumption (row : EnrollmentTokenRow) (tokenId : String) (now : UInt64) :
    Except EnrollmentError EnrollmentTokenRow → Prop
  | corrupt (column : String) : Consumption row tokenId now (.error (.storage (.corruptRow column)))
  | early (notBefore : UInt64) : Consumption row tokenId now (.error (.notYetActive notBefore now))
  | late (expiresAt : UInt64) : Consumption row tokenId now (.error (.expired expiresAt now))
  | usedUp (uses max : UInt32) (used : row.maxUses ≤ row.usesCount) :
    Consumption row tokenId now (.error (.exhausted tokenId uses max))
  | missed (uses max : UInt32) (expiresAt : UInt64)
      (column : ofColumn "expires_at" row.expiresAt = .ok expiresAt) (valid : ¬now > expiresAt)
      (expired : row.expiresAt < now.toNat) :
    Consumption row tokenId now (.error (.exhausted tokenId uses max))
  | consumed (nonneg : 0 ≤ row.usesCount) (left : row.usesCount < row.maxUses) :
    Consumption row tokenId now (.ok { row with usesCount := row.usesCount + 1 })

/-- A value that does not fit its column is an error of the row. -/
theorem column_error {α : Type} {fits : Prop} [Decidable fits] {a : α} {column : String}
    {e : StorageError} (h : (if fits then .ok a else .error (.corruptRow column) : Except StorageError α) =
      .error e) : e = .corruptRow column := by
  split at h
  · cases h
  · exact (Except.error.inj h).symm

theorem consume_cases (row : EnrollmentTokenRow) (tokenId : String) (now : UInt64) :
    Consumption row tokenId now (row.consume tokenId now) := by
  unfold EnrollmentTokenRow.consume
  split
  · rename_i herror
    rw [column_error herror]
    exact .corrupt _
  · rename_i herror _
    rw [column_error herror]
    exact .corrupt _
  · rename_i herror _ _
    rw [column_error herror]
    exact .corrupt _
  · rename_i herror _ _ _
    rw [column_error herror]
    exact .corrupt _
  · rename_i notBefore expiresAt uses max _ hexpiresAt huses hmax
    have huses := ofColumn32_eq _ _ _ huses
    have hmax := ofColumn32_eq _ _ _ hmax
    by_cases hearly : now < notBefore
    · rw [if_pos hearly]
      exact .early notBefore
    by_cases hlate : now > expiresAt
    · rw [if_neg hearly, if_pos hlate]
      exact .late expiresAt
    by_cases hused : uses ≥ max
    · rw [if_neg hearly, if_neg hlate, if_pos hused]
      refine .usedUp uses max ?_
      rw [huses, hmax]
      exact Int.ofNat_le.mpr (UInt32.le_iff_toNat_le.mp hused)
    rw [if_neg hearly, if_neg hlate, if_neg hused]
    have hleft : row.usesCount < row.maxUses := by
      rw [huses, hmax]
      exact Int.ofNat_lt.mpr (UInt32.lt_iff_toNat_lt.mp (UInt32.not_le.mp hused))
    cases hcurrent : toColumn "current_time" now with
    | error e =>
      rw [column_error hcurrent]
      exact .corrupt _
    | ok current =>
      dsimp only
      split
      · exact .consumed (by omega) hleft
      · rename_i hmissed
        refine .missed uses max expiresAt hexpiresAt hlate ?_
        rw [toColumn_eq _ _ _ hcurrent] at hmissed
        omega

theorem consume_ok (row consumed : EnrollmentTokenRow) (tokenId : String) (now : UInt64)
    (h : row.consume tokenId now = .ok consumed) :
    0 ≤ row.usesCount ∧ row.usesCount < row.maxUses ∧
      consumed = { row with usesCount := row.usesCount + 1 } := by
  have hcases := consume_cases row tokenId now
  rw [h] at hcases
  cases hcases with
  | consumed hnonneg hleft => exact ⟨hnonneg, hleft, rfl⟩

/-- What enrolling a device takes and does. -/
theorem enrollDevice_ok (db db' : Database) (tokenId : String) (now : UInt64)
    (device : RegisteredDevice) (token : EnrollmentToken)
    (h : db.enrollDevice tokenId now device = .ok (token, db')) :
    ∃ row, db.enrollmentTokens[tokenId]? = some row ∧ row.token = token ∧ 0 ≤ row.usesCount ∧
      row.usesCount < row.maxUses ∧ device.credential.organizationId = token.organizationId ∧
      Inserted { db with
        enrollmentTokens := db.enrollmentTokens.insert tokenId
          { row with usesCount := row.usesCount + 1 } } device db' := by
  unfold Database.enrollDevice at h
  split at h
  · cases h
  · rename_i row hrow
    split at h
    · cases h
    · rename_i consumed hconsume
      obtain ⟨hpos, hbudget, rfl⟩ := consume_ok row consumed tokenId now hconsume
      split at h
      · cases h
      · rename_i horganization
        split at h
        · cases h
        · rename_i stored hstored
          obtain ⟨rfl, rfl⟩ := Prod.mk.inj (Except.ok.inj h)
          exact ⟨row, hrow, rfl, hpos, hbudget, not_not.mp horganization, insertDevice_ok _ _ device hstored⟩

/-- A value that does not fit its column is not an error of the database. -/
theorem column_ne_database {α : Type} (fits : Prop) [Decidable fits] (a : α) (column text : String) :
    (if fits then .ok a else .error (.corruptRow column) : Except StorageError α) ≠
      .error (.database text) := by
  intro h
  cases column_error h

/-- Neither is a token that cannot be used. -/
theorem consume_ne_database (row : EnrollmentTokenRow) (tokenId text : String) (now : UInt64) :
    row.consume tokenId now ≠ .error (.storage (.database text)) := by
  intro h
  have hcases := consume_cases row tokenId now
  rw [h] at hcases
  cases hcases

/-- The device, or its credential, is there already. -/
def Duplicate (e : EnrollmentError) : Prop :=
  e = .storage (uniqueFailed "devices.id") ∨ e = .storage (uniqueFailed "device_credentials.device_id")

theorem enrollDevice_duplicate (db : Database) (tokenId : String) (now : UInt64)
    (device : RegisteredDevice) (e : EnrollmentError) (h : db.enrollDevice tokenId now device = .error e)
    (hduplicate : Duplicate e) :
    db.devices.contains device.credential.deviceId.value = true ∨
      db.deviceCredentials.contains device.credential.deviceId.value = true := by
  obtain ⟨text, rfl⟩ : ∃ text, e = .storage (.database text) := by
    rcases hduplicate with rfl | rfl <;> exact ⟨_, rfl⟩
  unfold Database.enrollDevice at h
  split at h
  · cases h
  · rename_i row _
    split at h
    · rename_i e hconsume
      cases h
      exact absurd hconsume (consume_ne_database row tokenId text now)
    · split at h
      · cases h
      · split at h
        · rename_i e hinsert
          cases h
          unfold Database.insertDevice at hinsert
          simp only at hinsert
          split at hinsert
          · rename_i herror
            cases hinsert
            exact absurd herror (column_ne_database _ _ _ _)
          · split at hinsert
            · rename_i hdevice
              exact .inl hdevice
            · split at hinsert
              · rename_i herror
                cases hinsert
                exact absurd herror (column_ne_database _ _ _ _)
              · rename_i herror
                cases hinsert
                exact absurd herror (column_ne_database _ _ _ _)
              · split at hinsert
                · rename_i hcredential
                  exact .inr hcredential
                · cases hinsert
        · cases h

/-! ## Sessions -/

structure AuthorizedSessionRecord where
  sessionId : SessionId
  organizationId : TenantId
  userId : UserId
  clientDeviceId : DeviceId
  targetDeviceId : DeviceId
  relayId : String
  permissions : List String
  createdAt : UInt64
  status : String
  deriving DecidableEq

def Database.insertAuthorizedSession (db : Database) (record : AuthorizedSessionRecord) :
    Except StorageError Database := do
  if record.status ≠ "authorized" then
    throw (.corruptRow "session status must be authorized")
  let createdAt ← toColumn "created_at" record.createdAt
  let db := db.ensureOrganization record.organizationId createdAt
  if db.sessions.contains record.sessionId.value then
    throw (uniqueFailed "sessions.id")
  if !db.devices.contains record.targetDeviceId.value then
    throw foreignKeyFailed
  return { db with
    sessions := db.sessions.insert record.sessionId.value
      { organizationId := record.organizationId.value
        userId := record.userId.value
        clientDeviceId := record.clientDeviceId.value
        targetDeviceId := record.targetDeviceId.value
        status := "authorized"
        connectionMode := "relay"
        relayId := record.relayId
        createdAt := createdAt
        policySnapshot := record.permissions } }

/-- What storing a session takes: a time that fits its column, a new identifier and a
device that is there. Whose device it is does not matter. -/
theorem insertAuthorizedSession_iff (db : Database) (record : AuthorizedSessionRecord)
    (hstatus : record.status = "authorized") :
    (∃ db', db.insertAuthorizedSession record = .ok db') ↔
      record.createdAt.toNat < 2 ^ 63 ∧ db.sessions.contains record.sessionId.value = false ∧
        db.devices.contains record.targetDeviceId.value = true := by
  unfold Database.insertAuthorizedSession Database.ensureOrganization
  rw [hstatus]
  by_cases htime : record.createdAt.toNat < 2 ^ 63
  · rw [toColumn_ok _ _ htime]
    simp only [htime, true_and]
    cases hsession : db.sessions.contains record.sessionId.value <;>
      cases hdevice : db.devices.contains record.targetDeviceId.value <;>
      simp [bind, Except.bind, pure, Except.pure, throw, throwThe,
        MonadExceptOf.throw]
  · rw [toColumn_error _ _ htime]
    simp only [htime, false_and, iff_false]
    rintro ⟨db', h⟩
    cases h

/-- What storing a session takes and does. -/
structure SessionStored (db : Database) (record : AuthorizedSessionRecord) (db' : Database) : Prop where
  time : record.createdAt.toNat < 2 ^ 63
  fresh : db.sessions[record.sessionId.value]? = none
  device : db.devices.contains record.targetDeviceId.value = true
  sessions : ∃ row, db'.sessions = db.sessions.insert record.sessionId.value row
  devices : db'.devices = db.devices
  auditEvents : db'.auditEvents = db.auditEvents

theorem insertAuthorizedSession_ok (db db' : Database) (record : AuthorizedSessionRecord)
    (h : db.insertAuthorizedSession record = .ok db') : SessionStored db record db' := by
  have hstatus : record.status = "authorized" := by
    by_contra hstatus
    unfold Database.insertAuthorizedSession at h
    rw [if_pos hstatus] at h
    cases h
  obtain ⟨htime, hfresh, hdevice⟩ := (insertAuthorizedSession_iff db record hstatus).mp ⟨db', h⟩
  unfold Database.insertAuthorizedSession at h
  simp only [hstatus, toColumn_ok _ _ htime, Database.ensureOrganization, hfresh, hdevice] at h
  obtain rfl := Except.ok.inj h
  rw [Std.TreeMap.contains_eq_isSome_getElem?, Option.isSome_eq_false_iff, Option.isNone_iff_eq_none] at hfresh
  exact ⟨htime, hfresh, hdevice, ⟨_, rfl⟩, rfl, rfl⟩

/-! ## Audit events -/

/-- A reference to a row that is absent. -/
def dangling {α : Type} (table : Std.TreeMap String α) : Option String → Bool
  | none => false
  | some id => !table.contains id

theorem dangling_of_contains {α : Type} (table : Std.TreeMap String α) (id : String)
    (h : table.contains id = true) : dangling table (some id) = false := by
  rw [dangling, h]
  rfl

def Database.insertAuditEvent (D : Digest) (db : Database) (chained : ChainedAuditEvent) :
    Except StorageError Database := do
  let event := chained.event
  match D.canonicalJson event with
  | .error text => throw (.serialization text)
  | .ok _ =>
    let timestamp ← toColumn "timestamp" event.timestamp
    let db := db.ensureOrganization event.organizationId timestamp
    let _ ← toColumn "sequence" chained.sequence
    if db.auditEvents.contains event.eventId then
      throw (uniqueFailed "audit_events.event_id")
    if dangling db.devices (event.deviceId.map Id.value) ||
        dangling db.sessions (event.sessionId.map Id.value) then
      throw foreignKeyFailed
    return { db with auditEvents := db.auditEvents.insert event.eventId chained }

/-- What an audit event is checked for when it is inserted. -/
structure Storable (D : Digest) (db : Database) (chained : ChainedAuditEvent) : Prop where
  json : ∃ text, D.canonicalJson chained.event = .ok text
  timestamp : chained.event.timestamp.toNat < 2 ^ 63
  sequence : chained.sequence.toNat < 2 ^ 63
  fresh : db.auditEvents.contains chained.event.eventId = false
  device : dangling db.devices (chained.event.deviceId.map Id.value) = false
  session : dangling db.sessions (chained.event.sessionId.map Id.value) = false

/-- What inserting an audit event takes and does. -/
theorem insertAuditEvent_iff (D : Digest) (db db' : Database) (chained : ChainedAuditEvent) :
    db.insertAuditEvent D chained = .ok db' ↔
      Storable D db chained ∧
        db' = { db.ensureOrganization chained.event.organizationId chained.event.timestamp.toNat with
          auditEvents := db.auditEvents.insert chained.event.eventId chained } := by
  constructor
  · intro h
    unfold Database.insertAuditEvent at h
    simp only at h
    split at h
    · cases h
    · rename_i json hjson
      by_cases htime : chained.event.timestamp.toNat < 2 ^ 63
      · by_cases hsequence : chained.sequence.toNat < 2 ^ 63
        · rw [toColumn_ok _ _ htime, toColumn_ok _ _ hsequence] at h
          simp only [bind, Except.bind, throw, throwThe, MonadExceptOf.throw, pure, Except.pure] at h
          split at h
          · cases h
          · rename_i hfresh
            split at h
            · cases h
            · rename_i hdangling
              obtain rfl := Except.ok.inj h
              rw [Bool.or_eq_true, not_or, Bool.not_eq_true, Bool.not_eq_true] at hdangling
              exact ⟨⟨⟨json, hjson⟩, htime, hsequence, Bool.not_eq_true _ ▸ hfresh, hdangling.1,
                hdangling.2⟩, rfl⟩
        · rw [toColumn_ok _ _ htime, toColumn_error _ _ hsequence] at h
          cases h
      · rw [toColumn_error _ _ htime] at h
        cases h
  · rintro ⟨hstorable, rfl⟩
    obtain ⟨json, hjson⟩ := hstorable.json
    simp only [Database.insertAuditEvent, hjson, toColumn_ok _ _ hstorable.timestamp,
      toColumn_ok _ _ hstorable.sequence, Database.ensureOrganization, hstorable.fresh,
      hstorable.device, hstorable.session]
    rfl

theorem insertAuditEvent_ok (D : Digest) (db db' : Database) (chained : ChainedAuditEvent)
    (h : db.insertAuditEvent D chained = .ok db') :
    chained.sequence.toNat < 2 ^ 63 ∧ db.auditEvents.contains chained.event.eventId = false ∧
      db'.auditEvents = db.auditEvents.insert chained.event.eventId chained := by
  obtain ⟨hstorable, rfl⟩ := (insertAuditEvent_iff D db db' chained).mp h
  exact ⟨hstorable.sequence, hstorable.fresh, rfl⟩

end ControlStore
