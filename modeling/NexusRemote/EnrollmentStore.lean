import NexusRemote.ControlStore
import NexusRemote.Mealy
import NexusRemote.Transactions

/-!
# Enrollment, statement by statement (`apps/nexusd/src/storage/enrollment.rs`)

`store_enrollment_token` and `enroll_device` are transactions of several
statements, any of which may fail. Transactions are serializable, so that calls
that run at the same time are calls in some order.
-/

namespace EnrollmentStore

open EntityId DeviceCredentials ControlStore Transactions

/-- An error of the database: its code, if it has one, and its text. -/
structure Fault where
  code : Option String
  text : String
  deriving DecidableEq

def Fault.error (fault : Fault) : StorageError := .database fault.text

/-! ## The statements -/

/-- `UPDATE enrollment_tokens SET uses_count = uses_count + 1 WHERE token_id = ? AND
uses_count < max_uses AND expires_at >= ?`, with the number of rows affected. -/
def consumeUse (tokenId : String) (current : Int) (db : Database) : Nat × Database :=
  match db.enrollmentTokens[tokenId]? with
  | none => (0, db)
  | some row =>
    if row.usesCount < row.maxUses ∧ current ≤ row.expiresAt then
      (1, { db with
        enrollmentTokens := db.enrollmentTokens.insert tokenId
          { row with usesCount := row.usesCount + 1 } })
    else (0, db)

/-- `INSERT INTO devices`. -/
def insertDeviceRow (device : RegisteredDevice) (enrolledAt : Int) (db : Database) :
    Except StorageError Database :=
  let cred := device.credential
  if db.devices.contains cred.deviceId.value then .error (uniqueFailed "devices.id")
  else
    .ok { db with
      devices := db.devices.insert cred.deviceId.value
        { organizationId := cred.organizationId.value
          hostname := device.hostname
          agentVersion := device.agentVersion
          status := if device.isActive then "active" else "revoked"
          createdAt := enrolledAt } }

/-- `INSERT INTO device_credentials`. -/
def insertCredentialRow (cred : DeviceCredential) (db : Database) : Except StorageError Database :=
  if db.deviceCredentials.contains cred.deviceId.value then
    .error (uniqueFailed "device_credentials.device_id")
  else
    .ok { db with deviceCredentials := db.deviceCredentials.insert cred.deviceId.value cred }

/-- `INSERT OR REPLACE INTO enrollment_tokens`. -/
def replaceToken (token : EnrollmentToken) (notBefore expiresAt : Int) (db : Database) : Database :=
  { db with
    enrollmentTokens := db.enrollmentTokens.insert token.tokenId
      { organizationId := token.organizationId.value
        token := token
        notBefore := notBefore
        expiresAt := expiresAt
        maxUses := token.maxUses.toNat
        usesCount := 0 } }

/-! ## The transactions -/

/-- The errors of a call are those of the storage, among others. -/
def stored {α : Type} (x : Except StorageError α) : Except EnrollmentError α :=
  match x with
  | .ok a => .ok a
  | .error e => .error (.storage e)

def found (tokenId : String) (row : Option EnrollmentTokenRow) :
    Except EnrollmentError EnrollmentTokenRow :=
  match row with
  | some row => .ok row
  | none => .error (.notFound tokenId)

/-- A statement of `enroll_device` that is only executed. -/
def execute (fault : Option Fault) (action : Database → Except StorageError Database) :
    Tx Database EnrollmentError Unit :=
  statement (fault.map fun fault => .storage fault.error) fun db =>
    match action db with
    | .ok db => .ok ((), db)
    | .error e => .error (.storage e)

/-- Which statements of a call of `enroll_device` fail. -/
structure Faults where
  begin : Option Fault := none
  select : Option Fault := none
  update : Option Fault := none
  organization : Option Fault := none
  device : Option Fault := none
  credential : Option Fault := none
  commit : Option Fault := none

/-- A database that is busy is taken for a token that is used up. -/
def updateError (tokenId : String) (uses max : UInt32) (fault : Fault) : EnrollmentError :=
  if fault.code = some "5" then .exhausted tokenId uses max else .storage fault.error

/-- Reads a token, checks its window and its budget and consumes a use. -/
def consumeToken (faults : Faults) (tokenId : String) (now : UInt64) :
    Tx Database EnrollmentError EnrollmentToken := do
  let row ← statement (faults.select.map fun fault => .storage fault.error) fun db =>
    .ok (db.enrollmentTokens[tokenId]?, db)
  let row ← compute (found tokenId row)
  let notBefore ← compute (stored (ofColumn "not_before" row.notBefore))
  let expiresAt ← compute (stored (ofColumn "expires_at" row.expiresAt))
  let uses ← compute (stored (ofColumn32 "uses_count" row.usesCount))
  let max ← compute (stored (ofColumn32 "max_uses" row.maxUses))
  refuse (now < notBefore) (.notYetActive notBefore now)
  refuse (now > expiresAt) (.expired expiresAt now)
  refuse (uses ≥ max) (.exhausted tokenId uses max)
  let current ← compute (stored (toColumn "current_time" now))
  let updated ← statement (faults.update.map (updateError tokenId uses max)) fun db =>
    .ok (consumeUse tokenId current db)
  refuse (updated ≠ 1) (.exhausted tokenId uses max)
  return row.token

/-- Inserts the organization, unless it is there, the device and its credential. -/
def saveDevice (faults : Faults) (device : RegisteredDevice) : Tx Database EnrollmentError Unit := do
  let cred := device.credential
  let enrolledAt ← compute (stored (toColumn "enrolled_at" device.enrolledAt))
  execute faults.organization fun db => .ok (db.ensureOrganization cred.organizationId enrolledAt)
  execute faults.device (insertDeviceRow device enrolledAt)
  let _ ← compute (stored (toColumn "issued_at" cred.issuedAt))
  let _ ← compute (stored (toColumn "expires_at" cred.expiresAt))
  execute faults.credential (insertCredentialRow cred)

def enrollDevice (faults : Faults) (tokenId : String) (now : UInt64) (device : RegisteredDevice) :
    Tx Database EnrollmentError EnrollmentToken := do
  execute faults.begin .ok
  let token ← consumeToken faults tokenId now
  refuse (device.credential.organizationId ≠ token.organizationId)
    (.storage (.corruptRow "organization_id mismatch"))
  saveDevice faults device
  execute faults.commit .ok
  return token

/-- Which statements of a call of `store_enrollment_token` fail. -/
structure StoreFaults where
  begin : Option Fault := none
  organization : Option Fault := none
  token : Option Fault := none
  commit : Option Fault := none

/-- A statement of `store_enrollment_token`. -/
def write (fault : Option Fault) (action : Database → Database) : Tx Database StorageError Unit :=
  statement (fault.map Fault.error) fun db => .ok ((), action db)

def storeEnrollmentToken (faults : StoreFaults) (token : EnrollmentToken) :
    Tx Database StorageError Unit := do
  write faults.begin id
  let createdAt ← compute (toColumn "not_before" token.notBefore)
  write faults.organization fun db => db.ensureOrganization token.organizationId createdAt
  let notBefore ← compute (toColumn "not_before" token.notBefore)
  let expiresAt ← compute (toColumn "expires_at" token.expiresAt)
  write faults.token (replaceToken token notBefore expiresAt)
  write faults.commit id

/-! ## Without faults -/

theorem outcome_execute (action : Database → Except StorageError Database) (db : Database) :
    outcome (execute none action) db =
      match action db with
      | .ok db => .ok ((), db)
      | .error e => .error (.storage e) :=
  outcome_statement _ db

theorem outcome_consumeToken (db : Database) (tokenId : String) (now : UInt64) :
    outcome (consumeToken {} tokenId now) db =
      match db.enrollmentTokens[tokenId]? with
      | none => .error (.notFound tokenId)
      | some row =>
        match row.consume tokenId now with
        | .error e => .error e
        | .ok consumed =>
          .ok (row.token, { db with enrollmentTokens := db.enrollmentTokens.insert tokenId consumed }) := by
  simp only [consumeToken, Option.map_none, outcome_bind, outcome_statement, outcome_compute,
    outcome_refuse, outcome_pure]
  cases hrow : db.enrollmentTokens[tokenId]? with
  | none => rfl
  | some row =>
    simp only [found, Except.map, EnrollmentTokenRow.consume]
    cases ofColumn "not_before" row.notBefore with
    | error e => rfl
    | ok notBefore =>
    cases ofColumn "expires_at" row.expiresAt with
    | error e => rfl
    | ok expiresAt =>
    cases ofColumn32 "uses_count" row.usesCount with
    | error e => rfl
    | ok uses =>
    cases ofColumn32 "max_uses" row.maxUses with
    | error e => rfl
    | ok max =>
    simp only [stored]
    by_cases hearly : now < notBefore
    · simp [hearly]
    by_cases hlate : now > expiresAt
    · simp [hearly, hlate]
    by_cases hused : uses ≥ max
    · simp [hearly, hlate, hused]
    cases toColumn "current_time" now with
    | error e => simp [hearly, hlate, hused]
    | ok current =>
      -- The statement sees the row that has just been read.
      by_cases hupdate : row.usesCount < row.maxUses ∧ current ≤ row.expiresAt
      · simp [hearly, hlate, hused, consumeUse, hrow, hupdate]
      · simp [hearly, hlate, hused, consumeUse, hrow, hupdate]

theorem outcome_saveDevice (db : Database) (device : RegisteredDevice) :
    outcome (saveDevice {} device) db =
      match db.insertDevice device with
      | .error e => .error (.storage e)
      | .ok db => .ok ((), db) := by
  simp only [saveDevice, outcome_bind, outcome_execute, outcome_compute, Database.insertDevice,
    Except.map, insertDeviceRow, insertCredentialRow]
  cases toColumn "enrolled_at" device.enrolledAt with
  | error e => rfl
  | ok enrolledAt =>
    simp only [stored]
    generalize db.ensureOrganization device.credential.organizationId enrolledAt = db
    cases db.devices.contains device.credential.deviceId.value with
    | true => rfl
    | false =>
      cases toColumn "issued_at" device.credential.issuedAt with
      | error e => rfl
      | ok issuedAt =>
      cases toColumn "expires_at" device.credential.expiresAt with
      | error e => rfl
      | ok expiresAt =>
        cases hcredential : db.deviceCredentials.contains device.credential.deviceId.value <;>
          simp only [hcredential, Bool.false_eq_true, if_false, if_true]

/-- The statements without faults are the operation on the whole database. -/
theorem outcome_enrollDevice (db : Database) (tokenId : String) (now : UInt64)
    (device : RegisteredDevice) :
    outcome (enrollDevice {} tokenId now device) db = db.enrollDevice tokenId now device := by
  simp only [enrollDevice, outcome_bind, outcome_execute, outcome_refuse, outcome_pure,
    outcome_consumeToken, outcome_saveDevice]
  unfold Database.enrollDevice
  cases db.enrollmentTokens[tokenId]? with
  | none => rfl
  | some row =>
    simp only
    cases row.consume tokenId now with
    | error e => rfl
    | ok consumed =>
      simp only
      by_cases horganization : device.credential.organizationId = row.token.organizationId
      · simp only [horganization, ne_eq, not_true, if_false]
        cases Database.insertDevice
          { db with enrollmentTokens := db.enrollmentTokens.insert tokenId consumed } device <;> rfl
      · simp [horganization]

theorem outcome_storeEnrollmentToken (db : Database) (token : EnrollmentToken) :
    outcome (storeEnrollmentToken {} token) db =
      match db.storeEnrollmentToken token with
      | .error e => .error e
      | .ok db => .ok ((), db) := by
  simp only [storeEnrollmentToken, write, Option.map_none, outcome_bind, outcome_statement,
    outcome_compute, Database.storeEnrollmentToken]
  cases toColumn "not_before" token.notBefore with
  | error e => rfl
  | ok notBefore =>
    cases toColumn "expires_at" token.expiresAt <;> rfl

/-! ## With faults -/

theorem execute_orFails (fault : Option Fault) (action : Database → Except StorageError Database) :
    OrFails (execute fault action) (execute none action) :=
  statement_orFails _ _

theorem consumeToken_orFails (faults : Faults) (tokenId : String) (now : UInt64) :
    OrFails (consumeToken faults tokenId now) (consumeToken {} tokenId now) := by
  refine .bind (statement_orFails _ _) fun row => ?_
  refine .bind (.refl _) fun row => ?_
  refine .bind (.refl _) fun notBefore => ?_
  refine .bind (.refl _) fun expiresAt => ?_
  refine .bind (.refl _) fun uses => ?_
  refine .bind (.refl _) fun max => ?_
  refine .bind (.refl _) fun _ => ?_
  refine .bind (.refl _) fun _ => ?_
  refine .bind (.refl _) fun _ => ?_
  refine .bind (.refl _) fun current => ?_
  exact .bind (statement_orFails _ _) fun updated => .refl _

theorem saveDevice_orFails (faults : Faults) (device : RegisteredDevice) :
    OrFails (saveDevice faults device) (saveDevice {} device) := by
  refine .bind (.refl _) fun enrolledAt => ?_
  refine .bind (execute_orFails _ _) fun _ => ?_
  refine .bind (execute_orFails _ _) fun _ => ?_
  refine .bind (.refl _) fun _ => ?_
  refine .bind (.refl _) fun _ => ?_
  exact execute_orFails _ _

theorem enrollDevice_orFails (faults : Faults) (tokenId : String) (now : UInt64)
    (device : RegisteredDevice) :
    OrFails (enrollDevice faults tokenId now device) (enrollDevice {} tokenId now device) := by
  refine .bind (execute_orFails _ _) fun _ => ?_
  refine .bind (consumeToken_orFails faults tokenId now) fun token => ?_
  refine .bind (.refl _) fun _ => ?_
  refine .bind (saveDevice_orFails faults device) fun _ => ?_
  exact .bind (execute_orFails _ _) fun _ => .refl _

theorem storeEnrollmentToken_orFails (faults : StoreFaults) (token : EnrollmentToken) :
    OrFails (storeEnrollmentToken faults token) (storeEnrollmentToken {} token) := by
  refine .bind (statement_orFails _ _) fun _ => ?_
  refine .bind (.refl _) fun createdAt => ?_
  refine .bind (statement_orFails _ _) fun _ => ?_
  refine .bind (.refl _) fun notBefore => ?_
  refine .bind (.refl _) fun expiresAt => ?_
  refine .bind (statement_orFails _ _) fun _ => ?_
  exact statement_orFails _ _

/-- Whatever else fails, a call that succeeds has done the whole operation. -/
theorem enrollDevice_committed (faults : Faults) (db db' : Database) (tokenId : String) (now : UInt64)
    (device : RegisteredDevice) (token : EnrollmentToken)
    (h : transaction (enrollDevice faults tokenId now device) db = (.ok token, db')) :
    db.enrollDevice tokenId now device = .ok (token, db') := by
  rw [transaction_ok] at h
  rw [← outcome_enrollDevice]
  exact enrollDevice_orFails faults tokenId now device db token db' h

theorem storeEnrollmentToken_committed (faults : StoreFaults) (db db' : Database)
    (token : EnrollmentToken)
    (h : transaction (storeEnrollmentToken faults token) db = (.ok (), db')) :
    db.storeEnrollmentToken token = .ok db' := by
  rw [transaction_ok] at h
  have hfaultless := storeEnrollmentToken_orFails faults token db () db' h
  rw [outcome_storeEnrollmentToken] at hfaultless
  split at hfaultless
  · cases hfaultless
  · rename_i hstored
    obtain ⟨-, rfl⟩ := Prod.mk.inj (Except.ok.inj hfaultless)
    exact hstored

/-! ## Runs of calls -/

inductive Call where
  | storeEnrollmentToken (faults : StoreFaults) (token : EnrollmentToken)
  | enrollDevice (faults : Faults) (tokenId : String) (now : UInt64) (device : RegisteredDevice)

inductive Reply where
  | stored (result : Except StorageError Unit)
  | enrolled (result : Except EnrollmentError EnrollmentToken)
  deriving DecidableEq

def step (db : Database) : Call → Reply × Database
  | .storeEnrollmentToken faults token =>
    let (result, db) := transaction (storeEnrollmentToken faults token) db
    (.stored result, db)
  | .enrollDevice faults tokenId now device =>
    let (result, db) := transaction (enrollDevice faults tokenId now device) db
    (.enrolled result, db)

/-- Everything that a call can do. -/
theorem step_cases (db : Database) (call : Call) :
    ((step db call).2 = db ∧ ∀ token, (step db call).1 ≠ .enrolled (.ok token)) ∨
      (∃ faults token, call = .storeEnrollmentToken faults token ∧
        (step db call).1 = .stored (.ok ()) ∧ db.storeEnrollmentToken token = .ok (step db call).2) ∨
      (∃ faults tokenId now device token, call = .enrollDevice faults tokenId now device ∧
        (step db call).1 = .enrolled (.ok token) ∧
        db.enrollDevice tokenId now device = .ok (token, (step db call).2)) := by
  cases call with
  | storeEnrollmentToken faults token =>
    rcases h : transaction (storeEnrollmentToken faults token) db with ⟨e | _, db'⟩
    · have hsame := transaction_error (storeEnrollmentToken faults token) db e (by rw [h])
      rw [h] at hsame
      exact .inl ⟨by simpa only [step, h] using hsame, by simp [step]⟩
    · refine .inr (.inl ⟨faults, token, rfl, by simp [step, h], ?_⟩)
      simpa only [step, h] using storeEnrollmentToken_committed faults db db' token h
  | enrollDevice faults tokenId now device =>
    rcases h : transaction (enrollDevice faults tokenId now device) db with ⟨e | token, db'⟩
    · have hsame := transaction_error (enrollDevice faults tokenId now device) db e (by rw [h])
      rw [h] at hsame
      exact .inl ⟨by simpa only [step, h] using hsame, by simp [step, h]⟩
    · refine .inr (.inr ⟨faults, tokenId, now, device, token, rfl, by simp [step, h], ?_⟩)
      simpa only [step, h] using enrollDevice_committed faults db db' tokenId now device token h

end EnrollmentStore
