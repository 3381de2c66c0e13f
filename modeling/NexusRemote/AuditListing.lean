import NexusRemote.AuditRestarts
import NexusRemote.DeviceEnrollment

/-!
# Listing the audit events of an organization (`list_audit_events` in `apps/nexusd/src/storage/audit.rs`)

The chain numbers and links the events of all organizations together; a listing
reads back those of one. Reading a row compares its columns with the event that
it holds.
-/

namespace AuditListing

open BigEndian EntityId AuditLog ControlStore SessionRequest AuditRecording AuditRestarts
open scoped List

/-- A row of `audit_events`; the JSON column is kept as the event that it encodes. -/
structure AuditEventRow where
  eventId : String
  organizationId : String
  userId : Option String
  deviceId : Option String
  sessionId : Option String
  eventType : String
  sequence : Int
  event : AuditEvent
  previousHash : Bytes
  hash : Bytes
  timestamp : Int

/-- `String::from_utf8` of a column. -/
def textColumn (bytes : Bytes) : Except StorageError String :=
  match ofUtf8 bytes with
  | some s => .ok s
  | none => .error (.corruptRow "invalid utf-8 sequence")

/-- What a listing makes of a row. -/
def AuditEventRow.read (row : AuditEventRow) (organizationId : TenantId) :
    Except StorageError ChainedAuditEvent := do
  let seq ← ofColumn "sequence" row.sequence
  let event := row.event
  if event.eventId ≠ row.eventId ∨ event.organizationId ≠ organizationId then
    throw (.corruptRow "event columns inconsistent")
  let storedTs ← ofColumn "timestamp" row.timestamp
  if event.timestamp ≠ storedTs ∨ event.organizationId.value ≠ organizationId.value then
    throw (.corruptRow "timestamp/organization_id")
  if row.userId ≠ event.userId.map Id.value then
    throw (.corruptRow "user_id")
  if row.deviceId ≠ event.deviceId.map Id.value then
    throw (.corruptRow "device_id")
  if row.sessionId ≠ event.sessionId.map Id.value then
    throw (.corruptRow "session_id")
  match AuditEventType.fromStr row.eventType with
  | .error text => throw (.corruptRow text)
  | .ok et =>
    if event.eventType ≠ et then
      throw (.corruptRow "event_type")
    let prev ← textColumn row.previousHash
    let hash ← textColumn row.hash
    return ⟨seq, event, prev, hash⟩

def globex : TenantId := DeviceEnrollment.globex

end AuditListing
