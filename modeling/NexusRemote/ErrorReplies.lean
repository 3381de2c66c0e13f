import NexusRemote.DeviceEnrollment
import NexusRemote.EnrollmentRequest

/-!
# What an error reply leaves behind

Both handlers commit what they were asked for in one transaction and then record
an audit event, which may fail in its turn. A call runs alone here, with any
choice of failures.
-/

namespace ErrorReplies

open EntityId AuditLog ControlStore SessionRequest Transactions EnrollmentStore
open AuditRecording (Stage turn recordAlone recordAlone_keeps Keeps turn_keeps advance_phaseOf
  opened outcome_ok phaseOf)
open ControlGrants (drawn enrolledHost plainState viewHost)
open EnrollmentRequest (Crates Failures crates enrollDeviceHandler enrollEvent issue_enroll
  registration signedToken start start_enroll)

/-! ## Recording an audit event -/

/-- The time of an event fits its column, and what it refers to is there. -/
structure Grounded (db : Database) (event : AuditEvent) : Prop where
  timestamp : event.timestamp.toNat < 2 ^ 63
  device : dangling db.devices (event.deviceId.map Id.value) = false
  session : dangling db.sessions (event.sessionId.map Id.value) = false

/-- Everything else that recording an event takes. -/
structure Recordable (D : Digest) (shared : Shared) (event : AuditEvent) (insert sink : Option String) :
    Prop where
  json : ∃ text, D.canonicalJson event = .ok text
  sequence : (shared.auditChain.sequence + 1).toNat < 2 ^ 63
  fresh : shared.database.auditEvents.contains event.eventId = false
  insert : insert = none
  sink : sink = none

theorem recordable_congr (D : Digest) (s t : Shared) (event : AuditEvent) (insert sink : Option String)
    (hchain : t.auditChain = s.auditChain)
    (haudit : t.database.auditEvents = s.database.auditEvents) :
    Recordable D t event insert sink ↔ Recordable D s event insert sink := by
  constructor
  · rintro ⟨hjson, hsequence, hfresh, hinsert, hsink⟩
    exact ⟨hjson, hchain ▸ hsequence, haudit ▸ hfresh, hinsert, hsink⟩
  · rintro ⟨hjson, hsequence, hfresh, hinsert, hsink⟩
    exact ⟨hjson, hchain ▸ hsequence, haudit ▸ hfresh, hinsert, hsink⟩

/-- A call that runs alone stores the event, and returns what becomes of the sink, or returns an error
and leaves the table as it is. -/
theorem recordAlone_cases (D : Digest) (insert sink : Option String) (shared : Shared)
    (event : AuditEvent) :
    (Grounded shared.database event ∧ Recordable D shared event insert none ∧
      (sink = none → (recordAlone D insert sink shared event).1 = .returned (.ok ())) ∧
      (∀ text, sink = some text →
        (recordAlone D insert sink shared event).1 = .returned (.error (.auditSink text))) ∧
      ∃ chained, chained.event = event ∧
        (recordAlone D insert sink shared event).2.database.auditEvents =
          shared.database.auditEvents.insert event.eventId chained) ∨
    (¬(Grounded shared.database event ∧ Recordable D shared event insert none) ∧
      (∃ e, (recordAlone D insert sink shared event).1 = .returned (.error e)) ∧
      (recordAlone D insert sink shared event).2.database.auditEvents = shared.database.auditEvents) := by
  rcases append_cases D shared.auditChain event with ⟨text, hjson, happend⟩ |
    ⟨json, chained, next, hjson, happend, rfl, hsequence⟩
  · refine .inr ⟨?_, ⟨.auditChain _, by simp only [recordAlone, turn, happend]; rfl⟩,
      by simp only [recordAlone, turn, happend]⟩
    rintro ⟨-, h⟩
    obtain ⟨json, hok⟩ := h.json
    rw [hjson] at hok
    cases hok
  · cases hinsert : AuditRecording.outcome insert (shared.database.insertAuditEvent D chained) with
    | error e =>
      refine .inr ⟨?_, ⟨.storage e, by simp only [recordAlone, turn, happend, hinsert]⟩,
        by simp only [recordAlone, turn, happend, hinsert]⟩
      rintro ⟨hgrounded, h⟩
      -- Nothing is left that could have failed.
      have hstorable : Storable D shared.database chained :=
        ⟨h.json, hgrounded.timestamp, hsequence ▸ h.sequence, h.fresh, hgrounded.device,
          hgrounded.session⟩
      have hok := (insertAuditEvent_iff D shared.database _ chained).mpr ⟨hstorable, rfl⟩
      rw [h.insert, AuditRecording.outcome, hok] at hinsert
      cases hinsert
    | ok database =>
      have hfault : insert = none := by
        cases insert with
        | none => rfl
        | some text => cases hinsert
      obtain ⟨hstorable, rfl⟩ :=
        (insertAuditEvent_iff D _ database chained).mp (outcome_ok hinsert)
      refine .inl ⟨⟨hstorable.timestamp, hstorable.device, hstorable.session⟩,
        ⟨⟨json, hjson⟩, hsequence ▸ hstorable.sequence, hstorable.fresh, hfault, rfl⟩, ?_, ?_, chained, rfl, ?_⟩
      · rintro rfl
        simp only [recordAlone, turn, happend, hinsert]
      · rintro text rfl
        simp only [recordAlone, turn, happend, hinsert]
      · cases sink <;> simp only [recordAlone, turn, happend, hinsert]

/-- A call that runs alone returns, and it returns `Ok` exactly if the event can be recorded. -/
theorem recordAlone_returns (D : Digest) (insert sink : Option String) (shared : Shared)
    (event : AuditEvent) (hgrounded : Grounded shared.database event) :
    ∃ result, (recordAlone D insert sink shared event).1 = .returned result ∧
      (result = .ok () ↔ Recordable D shared event insert sink) := by
  rcases recordAlone_cases D insert sink shared event with
    ⟨-, hrecordable, hok, herror, -⟩ | ⟨hnot, ⟨e, herror⟩, -⟩
  · cases sink with
    | none => exact ⟨.ok (), hok rfl, fun _ => hrecordable, fun _ => rfl⟩
    | some text =>
      refine ⟨.error (.auditSink text), herror text rfl, ?_⟩
      simp only [reduceCtorEq, false_iff]
      intro h
      cases h.sink
  · refine ⟨.error e, herror, ?_⟩
    simp only [reduceCtorEq, false_iff]
    intro h
    exact hnot ⟨hgrounded, h.json, h.sequence, h.fresh, h.insert, rfl⟩

/-- A call has committed a change of the tables and now records its event. An error means that
there was no change exactly if the event can be recorded. -/
theorem recorded_iff (D : Digest) (insert sink : Option String) (shared : Shared) (database : Database)
    (event : AuditEvent) (error : Stage → Option ErrorReply) (Unchanged : Shared → Prop)
    (hok : error (.returned (.ok ())) = none)
    (herror : ∀ e, error (.returned (.error e)) = some storageErrorResponse)
    (hgrounded : Grounded database event)
    (haudit : database.auditEvents = shared.database.auditEvents)
    (hkeeps : ∀ s t, Keeps s t → Unchanged t → Unchanged s)
    (hchanged : ¬Unchanged { shared with database := database }) :
    (∀ e, error (recordAlone D insert sink { shared with database := database } event).1 = some e →
        Unchanged (recordAlone D insert sink { shared with database := database } event).2) ↔
      Recordable D shared event insert sink := by
  obtain ⟨result, hresult, hrecordable⟩ := recordAlone_returns D insert sink
    { shared with database := database } event hgrounded
  rw [recordable_congr D shared { shared with database := database } event _ _ rfl haudit] at hrecordable
  rw [hresult, ← hrecordable]
  rcases result with e | _
  · refine ⟨fun hall => ?_, nofun⟩
    exact absurd (hkeeps _ _ (recordAlone_keeps D insert sink _ event) (hall _ (herror e))) hchanged
  · refine ⟨fun _ => rfl, ?_⟩
    intro _ e he
    rw [hok] at he
    cases he

/-! ## Enrollment -/

section

variable {state : AppState} (C : Crates state)
  (req : DeviceRegistration.DeviceRegistrationRequest) (now : UInt64)
  (failures : Failures) (shared : Shared)

/-- If the device is enrolled, its audit event can be recorded. -/
def AuditedEnrollment : Prop :=
  ∀ device token database event, start C req now = .enroll device →
    transaction (enrollDevice failures.enroll req.enrollmentToken.tokenId now device) shared.database =
      (.ok token, database) →
    (enrollEvent req now device.credential.deviceId).build = .ok event →
    Recordable state.digest shared event failures.insertAudit failures.sink

/-- No device has been added and no use of a token consumed. -/
def EnrolledNothing (t : Shared) : Prop :=
  t.database.devices = shared.database.devices ∧
    t.database.enrollmentTokens = shared.database.enrollmentTokens

theorem enroll_error_iff :
    (∀ e, (enrollDeviceHandler C req now failures shared).1.error = some e →
        EnrolledNothing shared (enrollDeviceHandler C req now failures shared).2) ↔
      AuditedEnrollment C req now failures shared := by
  rcases EnrollmentRequest.enrollDeviceHandler_cases C req now failures shared with ⟨hkeeps, hnot⟩ |
    ⟨device, token, database, event, hdevice, htransaction, hevent, hhandler⟩
  · refine ⟨?_, fun _ _ _ => ⟨hkeeps.devices, hkeeps.tokens⟩⟩
    intro _ device token database event hdevice htransaction
    exact absurd htransaction (hnot device hdevice token database)
  · have hcommitted := enrollDevice_committed failures.enroll _ _ _ now device token htransaction
    obtain ⟨row, -, -, -, -, -, hinserted⟩ := enrollDevice_ok _ _ _ _ _ _ hcommitted
    obtain ⟨new, -, -, -, hdevices⟩ := hinserted.devices
    obtain ⟨-, hissue⟩ := start_enroll C req now device hdevice
    obtain ⟨-, htime⟩ := issue_enroll C req now device hissue
    have hrow : database.devices[device.credential.deviceId.value]? = some new := by
      rw [hdevices, Std.TreeMap.getElem?_insert_self]
    have hgrounded : Grounded database event := by
      obtain rfl := Except.ok.inj hevent
      refine ⟨htime ▸ hinserted.time, dangling_of_contains _ device.credential.deviceId.value ?_, rfl⟩
      rw [Std.TreeMap.contains_eq_isSome_getElem?, hrow]
      rfl
    have hkeeps : ∀ s t, Keeps s t → EnrolledNothing shared t → EnrolledNothing shared s :=
      fun s t h ht => ⟨h.devices.symm.trans ht.1, h.tokens.symm.trans ht.2⟩
    have hchanged : ¬EnrolledNothing shared { shared with database := database } := by
      rintro ⟨hsame, -⟩
      have hnew : shared.database.devices[device.credential.deviceId.value]? = none := hinserted.newDevice
      rw [← hsame, hrow] at hnew
      cases hnew
    rw [hhandler, recorded_iff state.digest failures.insertAudit failures.sink shared database event
      (fun stage => (EnrollmentRequest.recording device.credential stage).error) (EnrolledNothing shared)
      rfl (fun _ => rfl) hgrounded hinserted.auditEvents hkeeps hchanged]
    constructor
    · intro hrecordable device' token' database' event' hdevice' _ hevent'
      obtain rfl := EnrollmentRequest.Phase.enroll.inj (hdevice.symm.trans hdevice')
      obtain rfl := Except.ok.inj (hevent.symm.trans hevent')
      exact hrecordable
    · intro haudited
      exact haudited device token database event hdevice htransaction hevent

end

/-! ## Sessions -/

section

variable {state : AppState} (payload : SessionRequestPayload) (now : UInt64)
  (lookup persist append insert sink : Inputs) (shared : Shared)

/-- Runs a call from one await to the next. -/
def advanceWith (call : Phase state × Shared) (inputs : Inputs) : Phase state × Shared :=
  advance state call.2 payload now inputs call.1

/-- A call of `request_session_handler` that runs alone. It awaits five times at most. -/
def requestSessionHandler (state : AppState) : Phase state × Shared :=
  [lookup, persist, append, insert, sink].foldl (advanceWith payload now) (.lookup, shared)

/-- The error that a call has returned. -/
def errorOf : Phase state → Option ErrorReply
  | .answered (.error e) => some e
  | _ => none

/-- A call that records its audit event, or has answered, leaves the tables as they are. -/
theorem audit_keeps (answer : Answer state) (stage : Stage) (inputs : List Inputs) :
    Keeps shared
      (inputs.foldl (advanceWith payload now) (phaseOf answer stage, shared)).2 := by
  induction inputs generalizing shared stage with
  | nil => exact .refl shared
  | cons first inputs ih =>
    rw [List.foldl_cons, advanceWith, advance_phaseOf]
    exact (turn_keeps state.digest shared first.fault stage).trans (ih _ _)

/-- The turns that record an audit event are a call of `record_audit`. -/
theorem audit_foldl (answer : Answer state) (event : AuditEvent) :
    [append, insert, sink].foldl (advanceWith payload now)
        (phaseOf answer (.append event), shared) =
      (phaseOf answer
          (recordAlone state.digest insert.fault sink.fault shared event).1,
        (recordAlone state.digest insert.fault sink.fault shared event).2) := by
  simp only [List.foldl_cons, List.foldl_nil, advanceWith, advance_phaseOf]
  rfl

/-- The first turn of a call builds an issue, or leads to the audit or an answer. -/
theorem lookup_cases (state : AppState) :
    (∃ issue, advance state shared payload now lookup .lookup = (.persist issue, shared)) ∨
      ∃ answer stage, advance state shared payload now lookup .lookup =
        (phaseOf answer stage, shared) := by
  simp only [advance]
  split
  · exact .inr ⟨.error _, .returned (.ok ()), rfl⟩
  · rename_i device _
    unfold authorizeOrDeny
    split
    · exact .inr ⟨.error _, .returned (.ok ()), rfl⟩
    · split
      · exact .inr ⟨.error _, .returned (.ok ()), rfl⟩
      · split
        · split
          · exact .inl ⟨_, rfl⟩
          · exact .inr ⟨.error _, .returned (.ok ()), rfl⟩
        · exact .inr ⟨.error _, .append _, rfl⟩

/-- What a call that runs alone does: it changes nothing, or it stores the session and then records
the event. -/
theorem requestSessionHandler_cases (state : AppState) :
    (Keeps shared (requestSessionHandler payload now lookup persist append insert sink shared state).2 ∧
      ∀ issue, (advance state shared payload now lookup .lookup).1 = .persist issue → ∀ database,
        attempt persist (shared.database.insertAuthorizedSession issue.record) ≠ .ok database) ∨
    ∃ issue database event, (advance state shared payload now lookup .lookup).1 = .persist issue ∧
      attempt persist (shared.database.insertAuthorizedSession issue.record) = .ok database ∧
      (authorizeEvent state payload now issue.response.sessionId).build = .ok event ∧
      requestSessionHandler payload now lookup persist append insert sink shared state =
        (phaseOf (.ok issue)
            (recordAlone state.digest insert.fault sink.fault
              { shared with database := database } event).1,
          (recordAlone state.digest insert.fault sink.fault
            { shared with database := database } event).2) := by
  unfold requestSessionHandler
  rw [List.foldl_cons]
  rcases lookup_cases payload now lookup shared state with ⟨issue, hissue⟩ | ⟨answer, stage, hstage⟩
  · rw [advanceWith, hissue, List.foldl_cons]
    cases hpersist : attempt persist (shared.database.insertAuthorizedSession issue.record) with
    | error e =>
      left
      simp only [advanceWith, advance, hpersist]
      refine ⟨audit_keeps payload now shared (.error storageErrorResponse) (.returned (.ok ())) _, ?_⟩
      intro issue' hissue' database
      cases hissue'
      rw [hpersist]
      intro hok
      cases hok
    | ok database =>
      right
      obtain ⟨event, hevent⟩ :
          ∃ event, (authorizeEvent state payload now issue.response.sessionId).build = .ok event :=
        ⟨_, rfl⟩
      refine ⟨issue, database, event, rfl, hpersist, hevent, ?_⟩
      have hstored : advanceWith payload now (.persist issue, shared) persist =
          (phaseOf (.ok issue) (.append event), { shared with database := database }) := by
        simp only [advanceWith, advance, hpersist, auditThen, hevent]
        rfl
      rw [hstored]
      exact audit_foldl payload now append insert sink _ (.ok issue) event
  · left
    rw [advanceWith, hstage]
    refine ⟨audit_keeps payload now shared answer stage _, ?_⟩
    intro issue hissue
    rcases stage with _ | _ | _ | ⟨_ | _⟩ <;> cases hissue

/-- If the session is stored, its audit event can be recorded. -/
def AuditedSession (state : AppState) : Prop :=
  ∀ issue database event, (advance state shared payload now lookup .lookup).1 = .persist issue →
    attempt persist (shared.database.insertAuthorizedSession issue.record) = .ok database →
    (authorizeEvent state payload now issue.response.sessionId).build = .ok event →
    Recordable state.digest shared event insert.fault sink.fault

/-- No session has been added. -/
def StoredNothing (t : Shared) : Prop := t.database.sessions = shared.database.sessions

theorem session_error_iff (state : AppState) :
    (∀ e, errorOf (requestSessionHandler payload now lookup persist append insert sink shared state).1 =
          some e →
        StoredNothing shared
          (requestSessionHandler payload now lookup persist append insert sink shared state).2) ↔
      AuditedSession payload now lookup persist insert sink shared state := by
  rcases requestSessionHandler_cases payload now lookup persist append insert sink shared state with
    ⟨hkeeps, hnot⟩ | ⟨issue, database, event, hissue, hpersist, hevent, hhandler⟩
  · refine ⟨?_, fun _ _ _ => hkeeps.sessions⟩
    intro _ issue database event hissue hpersist
    exact absurd hpersist (hnot issue hissue database)
  · have hstored := insertAuthorizedSession_ok _ _ _ ((DeviceEnrollment.attempt_ok _ _ _).mp hpersist).2
    obtain ⟨row, hsessions⟩ := hstored.sessions
    obtain ⟨-, -, granted, _, _, -, hbuilt⟩ :=
      (DeviceEnrollment.lookup_persist_iff shared payload now lookup issue).mp hissue
    obtain ⟨-, -, -, hid, hrecord⟩ := ControlPlane.authorize_ok payload now granted _ _ issue hbuilt
    have hsame : issue.response.sessionId = issue.record.sessionId := by rw [hid, hrecord]
    have htarget : payload.targetDeviceId = issue.record.targetDeviceId := by rw [hrecord]
    have htime : issue.record.createdAt = now := by rw [hrecord]
    have hrow : database.sessions[issue.record.sessionId.value]? = some row := by
      rw [hsessions, Std.TreeMap.getElem?_insert_self]
    have hgrounded : Grounded database event := by
      obtain rfl := Except.ok.inj hevent
      refine ⟨htime ▸ hstored.time, dangling_of_contains _ payload.targetDeviceId.value ?_,
        dangling_of_contains _ issue.response.sessionId.value ?_⟩
      · rw [hstored.devices, htarget]
        exact hstored.device
      · rw [hsame, Std.TreeMap.contains_eq_isSome_getElem?, hrow]
        rfl
    have hkeeps : ∀ s t, Keeps s t → StoredNothing shared t → StoredNothing shared s :=
      fun s t h ht => h.sessions.symm.trans ht
    have hchanged : ¬StoredNothing shared { shared with database := database } := by
      intro hunchanged
      have hnew := hstored.fresh
      rw [← hunchanged, hrow] at hnew
      cases hnew
    rw [hhandler, recorded_iff state.digest insert.fault sink.fault shared database event
      (fun stage => errorOf (phaseOf (.ok issue) stage)) (StoredNothing shared) rfl
      (fun _ => rfl) hgrounded hstored.auditEvents hkeeps hchanged]
    constructor
    · intro hrecordable issue' database' event' hissue' _ hevent'
      obtain rfl := Phase.persist.inj (hissue.symm.trans hissue')
      obtain rfl := Except.ok.inj (hevent.symm.trans hevent')
      exact hrecordable
    · intro haudited
      exact haudited issue database event hissue hpersist hevent

end

/-- Whatever fails: an error of the enrollment means that no device was added and no use consumed
exactly if the event of every device that is enrolled can be recorded, and an error of the session
request means that no session was added exactly if the event of every session that is stored can be. -/
theorem error_reply_iff {state : AppState} (C : Crates state) (shared : Shared)
    (now : UInt64) (req : DeviceRegistration.DeviceRegistrationRequest)
    (failures : Failures) (payload : SessionRequestPayload)
    (lookup persist append insert sink : Inputs) :
    ((∀ e, (enrollDeviceHandler C req now failures shared).1.error = some e →
        EnrolledNothing shared (enrollDeviceHandler C req now failures shared).2) ↔
      AuditedEnrollment C req now failures shared) ∧
    ((∀ e, errorOf (requestSessionHandler payload now lookup persist append insert sink shared state).1 =
          some e →
        StoredNothing shared
          (requestSessionHandler payload now lookup persist append insert sink shared state).2) ↔
      AuditedSession payload now lookup persist insert sink shared state) :=
  ⟨enroll_error_iff C req now failures shared,
    session_error_iff payload now lookup persist append insert sink shared state⟩

/-- A control plane with one token, for a host. -/
def withToken : Shared :=
  opened (Mealy.after EnrollmentStore.step Database.empty
    [.storeEnrollmentToken {} (signedToken "tok-acme" 1)])

/-- How the recording of an audit event can fail after the commit: at its row, or at the sink. -/
abbrev Down := Option String × Option String

def rowDown : Down := (some "disk I/O error", none)

def sinkDown : Down := (none, some "audit sink unavailable")

/-- An enrollment and a session request that commit, with these failures of their recording. -/
def enrollTok (down : Down) :=
  enrollDeviceHandler crates (registration "tok-acme" 1) 2000
    { insertAudit := down.1, sink := down.2 } withToken

def requestView (down : Down) :=
  requestSessionHandler viewHost 2000 (drawn 1) (drawn 1) (drawn 1) { drawn 1 with fault := down.1 }
    { drawn 1 with fault := down.2 } enrolledHost plainState

/-- The device is enrolled and the session stored, and both callers are told of a storage failure. -/
structure RefusedAfterCommit (down : Down) : Prop where
  enrollError : (enrollTok down).1.error = some storageErrorResponse
  enrolled : ¬EnrolledNothing withToken (enrollTok down).2
  requestError : errorOf (requestView down).1 = some storageErrorResponse
  stored : ¬StoredNothing enrolledHost (requestView down).2

theorem refusedAfterCommit_of_down (down : Down) (hdown : down ∈ [rowDown, sinkDown]) :
    RefusedAfterCommit down := by
  have henrolled (down : Down) : enrollTok down = (EnrollmentRequest.advance plainState
      (registration "tok-acme" 1) 2000 { insertAudit := down.1, sink := down.2 })^[4]
      (EnrollmentRequest.issue crates (registration "tok-acme" 1) 2000, withToken) :=
    EnrollmentRequest.enrollDeviceHandler_genuine _ _ _ _ _
      (EnrollmentRequest.registration_genuine "tok-acme" 1)
  have herror : ∀ down ∈ [rowDown, sinkDown],
      (enrollTok down).1.error = some storageErrorResponse ∧
        (enrollTok down).2.database.devices.contains "dev-host-tok-acme" = true := by
    simp only [henrolled]
    decide +kernel
  have hrefused : ∀ down ∈ [rowDown, sinkDown],
      errorOf (requestView down).1 = some storageErrorResponse ∧
        (requestView down).2.database.sessions.isEmpty = false := by
    decide +kernel
  refine ⟨(herror down hdown).1, ?_, (hrefused down hdown).1, ?_⟩
  · rintro ⟨hsame, -⟩
    have hdevice := (herror down hdown).2
    rw [hsame] at hdevice
    exact absurd hdevice (by decide +kernel)
  · intro hsame
    have hsession := (hrefused down hdown).2
    rw [hsame] at hsession
    exact absurd hsession (by decide +kernel)

/-- The insertion of the audit row fails after the commit, or the audit sink. -/
theorem error_after_commit : RefusedAfterCommit rowDown ∧ RefusedAfterCommit sinkDown :=
  ⟨refusedAfterCommit_of_down _ (by simp), refusedAfterCommit_of_down _ (by simp)⟩

end ErrorReplies
