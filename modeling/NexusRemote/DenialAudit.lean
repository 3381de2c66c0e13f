import NexusRemote.ErrorReplies

/-!
# The audit of denied requests

The audit event of a denial is named after the second in which it happens, and
the name is the primary key of the table. Requests are handled here one after
the other, without a failure of the storage other than a broken constraint.
-/

namespace DenialAudit

open EntityId PolicyEngine AuditLog ControlStore SessionRequest ErrorReplies
open AuditRecording (Stage turn recordAlone)
open ControlGrants (drawn enrolledHost plainState viewHost)
open Mealy (after after_cons)

/-- A session request, when it comes and what its call draws. -/
structure Request where
  payload : SessionRequestPayload
  now : UInt64
  uuid : BigEndian.Octets 16
  nonce : BigEndian.Octets 16

def Request.inputs (r : Request) : Inputs := ⟨none, r.uuid, r.nonce⟩

variable (state : AppState) (shared : Shared) (r : Request)

/-- A call that runs to its end: the error that it answers with, and what it leaves. -/
def handle : Option ErrorReply × Shared :=
  let call := requestSessionHandler r.payload r.now r.inputs r.inputs r.inputs r.inputs r.inputs shared state
  (errorOf call.1, call.2)

/-- The policy denies the request. -/
def Denied : Prop := ∃ reason, decision state r.payload = .denied reason

/-- The requested device exists and is active. -/
def Targets : Prop :=
  ∃ device, shared.database.getDevice r.payload.targetDeviceId = .ok (some device) ∧
    device.isActive = true

/-- If the request is denied, the answer says so and one row has been added for it. -/
def AuditsDenial : Prop :=
  ∀ reason, decision state r.payload = .denied reason →
    (handle state shared r).1 =
      some ⟨.forbidden, "session access denied by policy: " ++ reason.message⟩ ∧
    ∃ eventId chained, shared.database.auditEvents.contains eventId = false ∧
      chained.event.eventType = .sessionDeny ∧
      (handle state shared r).2.database.auditEvents =
        shared.database.auditEvents.insert eventId chained

/-! ## Names of audit events -/

def denyId (now : UInt64) : String := "evt-deny-" ++ toString now.toNat

theorem denyId_injective {s t : UInt64} (h : denyId s = denyId t) : s = t := by
  unfold denyId at h
  have hdigits : toString s.toNat = toString t.toNat := (String.append_right_inj _).mp h
  exact UInt64.toNat_inj.mp (Nat.repr_injective hdigits)

theorem denyId_ne_authorize (t : UInt64) (sessionId : String) : denyId t ≠ "evt-auth-" ++ sessionId := by
  intro h
  have hstart := congrArg (fun s : String => s.toList.take 5) h
  simp [denyId] at hstart

/-! ## One call -/

/-- The event that a denied request records. -/
def denialOf (reason : DenialReason) : AuditEvent where
  eventId := denyId r.now
  timestamp := r.now
  organizationId := r.payload.organizationId
  userId := some r.payload.subjectUserId
  deviceId := some r.payload.targetDeviceId
  sessionId := none
  eventType := .sessionDeny
  metadata := .object [("reason", .string reason.message)]

theorem denyEvent_build (reason : DenialReason) :
    (denyEvent r.payload r.now reason).build = .ok (denialOf r reason) := rfl

/-- A call that has answered is over. -/
theorem foldl_answered (payload : SessionRequestPayload) (now : UInt64) (answer : Answer state)
    (inputs : List Inputs) :
    inputs.foldl (advanceWith payload now) (.answered answer, shared) = (.answered answer, shared) := by
  induction inputs with
  | nil => rfl
  | cons first inputs ih => exact ih

/-- The turns of a call that records an event and has nothing else to do. -/
theorem foldl_audit (payload : SessionRequestPayload) (now : UInt64) (answer : Answer state)
    (event : AuditEvent) (inputs : Inputs) (hfault : inputs.fault = none) :
    [inputs, inputs, inputs, inputs].foldl (advanceWith payload now)
        (AuditRecording.phaseOf answer (.append event), shared) =
      (AuditRecording.phaseOf answer (recordAlone state.digest none none shared event).1,
        (recordAlone state.digest none none shared event).2) := by
  have hlist : [inputs, inputs, inputs, inputs] = [inputs, inputs, inputs] ++ [inputs] := rfl
  rw [hlist, List.foldl_append, audit_foldl payload now inputs inputs inputs shared answer event,
    hfault]
  simp only [List.foldl_cons, List.foldl_nil, advanceWith, AuditRecording.advance_phaseOf]
  rcases recordAlone_cases state.digest none none shared event with
    ⟨-, -, hok, -⟩ | ⟨-, ⟨e, herror⟩, -⟩
  · rw [hok rfl]
    rfl
  · rw [herror]
    rfl

/-- The first turn, for a device that exists and is active. -/
theorem lookup_eq (htargets : Targets shared r) :
    ∃ device, device.isActive = true ∧ advance state shared r.payload r.now r.inputs .lookup =
      (authorizeOrDeny state r.payload r.now r.inputs (some device), shared) := by
  obtain ⟨device, hdevice, hactive⟩ := htargets
  refine ⟨device, hactive, ?_⟩
  simp only [advance, attempt, Request.inputs, hdevice]

/-- A denied request does nothing but record its event. -/
theorem handle_denied (htargets : Targets shared r) (reason : DenialReason)
    (h : decision state r.payload = .denied reason) :
    handle state shared r =
      (errorOf (AuditRecording.phaseOf
          (.error ⟨.forbidden, "session access denied by policy: " ++ reason.message⟩ : Answer state)
          (recordAlone state.digest none none shared (denialOf r reason)).1),
        (recordAlone state.digest none none shared (denialOf r reason)).2) := by
  obtain ⟨device, hactive, hlookup⟩ := lookup_eq state shared r htargets
  have hphase : authorizeOrDeny state r.payload r.now r.inputs (some device) =
      AuditRecording.phaseOf
        (.error ⟨.forbidden, "session access denied by policy: " ++ reason.message⟩ : Answer state)
        (.append (denialOf r reason)) := by
    simp only [authorizeOrDeny, hactive, h, auditThen, denyEvent_build]
    rfl
  rw [hphase] at hlookup
  unfold handle requestSessionHandler
  rw [List.foldl_cons, advanceWith, hlookup, foldl_audit state shared _ _ _ _ _ rfl]

/-- A request that is not denied adds at most the row of an authorization. -/
theorem handle_allowed_rows (htargets : Targets shared r) (h : ¬Denied state r) :
    (handle state shared r).2.database.auditEvents = shared.database.auditEvents ∨
      ∃ sessionId chained, (handle state shared r).2.database.auditEvents =
        shared.database.auditEvents.insert ("evt-auth-" ++ sessionId) chained := by
  obtain ⟨device, hactive, hlookup⟩ := lookup_eq state shared r htargets
  unfold handle requestSessionHandler
  rw [List.foldl_cons, advanceWith, hlookup]
  cases hdecision : decision state r.payload with
  | denied reason => exact absurd ⟨reason, hdecision⟩ h
  | allowed granted restrictions names =>
    simp only [authorizeOrDeny, hactive, hdecision, Bool.not_true, Bool.false_eq_true, if_false]
    cases authorize state r.payload r.now granted r.inputs.uuid r.inputs.nonce with
    | error e => exact .inl (by simp only [foldl_answered])
    | ok issue =>
      dsimp only
      rw [List.foldl_cons]
      cases hpersist : shared.database.insertAuthorizedSession issue.record with
      | error e =>
        have hturn : advanceWith r.payload r.now (.persist issue, shared) r.inputs =
            (.answered (.error storageErrorResponse), shared) := by
          simp only [advanceWith, advance, attempt, Request.inputs, hpersist]
        rw [hturn, foldl_answered]
        exact .inl rfl
      | ok database =>
        obtain ⟨event, hevent⟩ :
            ∃ event, (authorizeEvent state r.payload r.now issue.response.sessionId).build = .ok event :=
          ⟨_, rfl⟩
        have hturn : advanceWith r.payload r.now (.persist issue, shared) r.inputs =
            (AuditRecording.phaseOf (.ok issue) (.append event),
              { shared with database := database }) := by
          simp only [advanceWith, advance, attempt, Request.inputs, hpersist, auditThen, hevent]
          rfl
        have hsame := (insertAuthorizedSession_ok _ _ _ hpersist).auditEvents
        rw [hturn, audit_foldl]
        change (recordAlone state.digest none none { shared with database := database }
            event).2.database.auditEvents = _ ∨
          ∃ sessionId chained, (recordAlone state.digest none none { shared with database := database }
            event).2.database.auditEvents = _
        obtain rfl := Except.ok.inj hevent
        rcases recordAlone_cases state.digest none none { shared with database := database } _ with
          ⟨-, -, -, -, chained, -, hrows⟩ | ⟨-, -, hrows⟩
        · exact .inr ⟨issue.response.sessionId.value, chained, hrows.trans (by rw [hsame])⟩
        · exact .inl (hrows.trans hsame)

/-- What any request does to the audit table. -/
theorem handle_rows (htargets : Targets shared r) :
    (handle state shared r).2.database.auditEvents = shared.database.auditEvents ∨
      (Denied state r ∧ ∃ chained, (handle state shared r).2.database.auditEvents =
        shared.database.auditEvents.insert (denyId r.now) chained) ∨
      (¬Denied state r ∧ ∃ sessionId chained, (handle state shared r).2.database.auditEvents =
        shared.database.auditEvents.insert ("evt-auth-" ++ sessionId) chained) := by
  by_cases hdenied : Denied state r
  · obtain ⟨reason, hreason⟩ := hdenied
    rw [handle_denied state shared r htargets reason hreason]
    rcases recordAlone_cases state.digest none none shared (denialOf r reason) with
      ⟨-, -, -, -, chained, -, hrows⟩ | ⟨-, -, hrows⟩
    · exact .inr (.inl ⟨⟨reason, hreason⟩, chained, hrows⟩)
    · exact .inl hrows
  · rcases handle_allowed_rows state shared r htargets hdenied with hrows | hrows
    · exact .inl hrows
    · exact .inr (.inr ⟨hdenied, hrows⟩)

/-- What it takes to record the denial, apart from the name of its event. -/
structure Fits : Prop where
  timestamp : r.now.toNat < 2 ^ 63
  sequence : (shared.auditChain.sequence + 1).toNat < 2 ^ 63

/-- A denied request is audited if its event fits and no row has its name yet. -/
theorem auditsDenial_iff (hjson : ∀ event, ∃ text, state.digest.canonicalJson event = .ok text)
    (htargets : Targets shared r) :
    AuditsDenial state shared r ↔
      (Denied state r →
        Fits shared r ∧ shared.database.auditEvents.contains (denyId r.now) = false) := by
  constructor
  · rintro haudits ⟨reason, hreason⟩
    obtain ⟨hreply, -⟩ := haudits reason hreason
    rw [handle_denied state shared r htargets reason hreason] at hreply
    rcases recordAlone_cases state.digest none none shared (denialOf r reason) with
      ⟨hgrounded, hrecordable, -⟩ | ⟨-, ⟨e, herror⟩, -⟩
    · exact ⟨⟨hgrounded.timestamp, hrecordable.sequence⟩, hrecordable.fresh⟩
    · rw [herror] at hreply
      have hstatus : StatusCode.internalServerError = .forbidden :=
        congrArg ErrorReply.status (Option.some.inj hreply)
      cases hstatus
  · intro hfits reason hreason
    obtain ⟨⟨htimestamp, hsequence⟩, hfresh⟩ := hfits ⟨reason, hreason⟩
    have hgrounded : Grounded shared.database (denialOf r reason) := by
      obtain ⟨device, hdevice, -⟩ := htargets
      refine ⟨htimestamp, dangling_of_contains _ r.payload.targetDeviceId.value ?_, rfl⟩
      unfold Database.getDevice at hdevice
      split at hdevice
      · rename_i row credential hrow hcredential
        rw [Std.TreeMap.contains_eq_isSome_getElem?, hrow]
        rfl
      · cases hdevice
    have hrecordable : Recordable state.digest shared (denialOf r reason) none none :=
      ⟨hjson _, hsequence, hfresh, rfl, rfl⟩
    rw [handle_denied state shared r htargets reason hreason]
    rcases recordAlone_cases state.digest none none shared (denialOf r reason) with
      ⟨-, -, hok, -, chained, hevent, hrows⟩ | ⟨hnot, -⟩
    · rw [hok rfl]
      exact ⟨rfl, denyId r.now, chained, hfresh, by rw [hevent]; rfl, hrows⟩
    · exact absurd ⟨hgrounded, hrecordable⟩ hnot

/-! ## Many calls -/

theorem contains_insert_of {α : Type} {t : Std.TreeMap String α} {k k' : String} (v : α)
    (h : t.contains k = true) : (t.insert k' v).contains k = true := by
  simp [Std.TreeMap.contains_insert, h]

/-- No row is ever removed. -/
theorem row_kept (eventId : String) (requests : List Request)
    (htargets : ∀ ys r, ys ++ [r] <+: requests → Targets (after (handle state) shared ys) r)
    (h : shared.database.auditEvents.contains eventId = true) :
    (after (handle state) shared requests).database.auditEvents.contains eventId = true := by
  have hstep : ∀ s r, s.database.auditEvents.contains eventId = true → Targets s r →
      (handle state s r).2.database.auditEvents.contains eventId = true := by
    intro s r hrow htarget
    rcases handle_rows state s r htarget with
      hrows | ⟨-, chained, hrows⟩ | ⟨-, sessionId, chained, hrows⟩
    · rw [hrows]
      exact hrow
    · rw [hrows]
      exact contains_insert_of chained hrow
    · rw [hrows]
      exact contains_insert_of chained hrow
  exact Mealy.after_invariant_of hstep shared requests h htargets

/-- A row of a denial was there before, or comes from a denied request in that second. -/
theorem row_explained (t : UInt64) (requests : List Request)
    (htargets : ∀ ys r, ys ++ [r] <+: requests → Targets (after (handle state) shared ys) r)
    (h : (after (handle state) shared requests).database.auditEvents.contains (denyId t) = true) :
    shared.database.auditEvents.contains (denyId t) = true ∨
      ∃ r ∈ requests, Denied state r ∧ r.now = t := by
  induction requests using List.reverseRecOn with
  | nil => exact .inl h
  | append_singleton requests r ih =>
    have hbefore : ∀ ys r', ys ++ [r'] <+: requests →
        Targets (after (handle state) shared ys) r' :=
      fun ys r' hys => htargets ys r' (hys.trans (List.prefix_append requests [r]))
    have hearlier : (after (handle state) shared requests).database.auditEvents.contains
        (denyId t) = true → shared.database.auditEvents.contains (denyId t) = true ∨
          ∃ r' ∈ requests ++ [r], Denied state r' ∧ r'.now = t := by
      intro hrow
      rcases ih hbefore hrow with hstart | ⟨r', hr', hdenied⟩
      · exact .inl hstart
      · exact .inr ⟨r', List.mem_append_left [r] hr', hdenied⟩
    rw [Mealy.after_concat] at h
    rcases handle_rows state _ r (htargets requests r (List.prefix_refl _)) with
      hrows | ⟨hdenied, chained, hrows⟩ | ⟨-, sessionId, chained, hrows⟩
    · rw [hrows] at h
      exact hearlier h
    · rw [hrows, Std.TreeMap.contains_insert, Bool.or_eq_true] at h
      rcases h with h | h
      · rw [beq_iff_eq, Std.LawfulEqCmp.compare_eq_iff_eq] at h
        exact .inr ⟨r, by simp, hdenied, denyId_injective h⟩
      · exact hearlier h
    · rw [hrows, Std.TreeMap.contains_insert, Bool.or_eq_true] at h
      rcases h with h | h
      · rw [beq_iff_eq, Std.LawfulEqCmp.compare_eq_iff_eq] at h
        exact absurd h.symm (denyId_ne_authorize t sessionId)
      · exact hearlier h

/-- The row of an audited denial. -/
theorem row_of_audited (htargets : Targets shared r) (hdenied : Denied state r)
    (h : AuditsDenial state shared r) :
    (handle state shared r).2.database.auditEvents.contains (denyId r.now) = true := by
  obtain ⟨reason, hreason⟩ := hdenied
  obtain ⟨-, eventId, chained, hfresh, -, hadded⟩ := h reason hreason
  rcases handle_rows state shared r htargets with
    hrows | ⟨-, chained', hrows⟩ | ⟨hallowed, -⟩
  · rw [hrows] at hadded
    rw [hadded, Std.TreeMap.contains_insert_self] at hfresh
    cases hfresh
  · rw [hrows]
    exact Std.TreeMap.contains_insert_self
  · exact absurd ⟨reason, hreason⟩ hallowed

/-- Every denial is audited exactly if no two denied requests come in the same second, none in a
second whose event is already stored, and their times and numbers fit the columns. -/
theorem denials_audited_iff
    (hjson : ∀ event, ∃ text, state.digest.canonicalJson event = .ok text) (requests : List Request)
    (htargets : ∀ ys r, ys ++ [r] <+: requests → Targets (after (handle state) shared ys) r) :
    (∀ ys r, ys ++ [r] <+: requests →
        AuditsDenial state (after (handle state) shared ys) r) ↔
      ∀ ys r, ys ++ [r] <+: requests → Denied state r →
        r.now.toNat < 2 ^ 63 ∧
        ((after (handle state) shared ys).auditChain.sequence + 1).toNat < 2 ^ 63 ∧
        shared.database.auditEvents.contains (denyId r.now) = false ∧
        ∀ r' ∈ ys, Denied state r' → r'.now ≠ r.now := by
  have hbefore : ∀ zs ys r, ys ++ [r] <+: requests → zs <+: ys → zs <+: requests :=
    fun zs ys r hys hzs => hzs.trans ((List.prefix_append ys [r]).trans hys)
  constructor
  · intro hall ys r hys hdenied
    obtain ⟨⟨htimestamp, hsequence⟩, hfresh⟩ :=
      (auditsDenial_iff state _ r hjson (htargets ys r hys)).mp (hall ys r hys) hdenied
    refine ⟨htimestamp, hsequence, ?_, ?_⟩
    · by_contra hrow
      rw [Bool.not_eq_false] at hrow
      have hkept := row_kept state shared (denyId r.now) ys
        (fun zs q hzs => htargets zs q (hbefore _ ys r hys hzs)) hrow
      rw [hfresh] at hkept
      cases hkept
    · intro r' hr' hdenied' hsame
      obtain ⟨earlier, later, rfl⟩ := List.append_of_mem hr'
      -- The row of the earlier denial is still there.
      have hfirst : earlier ++ [r'] <+: requests := hbefore _ _ r hys (by simp)
      have hrow := row_of_audited state _ r' (htargets earlier r' hfirst) hdenied'
        (hall earlier r' hfirst)
      have hlater : ∀ zs q, zs ++ [q] <+: later →
          Targets (after (handle state)
            (handle state (after (handle state) shared earlier) r').2 zs) q := by
        intro zs q hzs
        have htarget := htargets (earlier ++ r' :: zs) q (hbefore _ _ r hys (by simpa using hzs))
        rwa [Mealy.after_append, after_cons] at htarget
      have hkept := row_kept state _ (denyId r'.now) later hlater hrow
      rw [Mealy.after_append, after_cons] at hfresh
      rw [hsame, hfresh] at hkept
      cases hkept
  · intro hcond ys r hys
    rw [auditsDenial_iff state _ r hjson (htargets ys r hys)]
    intro hdenied
    obtain ⟨htimestamp, hsequence, hstart, hapart⟩ := hcond ys r hys hdenied
    refine ⟨⟨htimestamp, hsequence⟩, ?_⟩
    by_contra hrow
    rw [Bool.not_eq_false] at hrow
    rcases row_explained state shared r.now ys
      (fun zs q hzs => htargets zs q (hbefore _ ys r hys hzs)) hrow with hfirst | ⟨r', hr', hdenied', hsame⟩
    · rw [hstart] at hfirst
      cases hfirst
    · exact hapart r' hr' hdenied' hsame

/-! ## Two denials -/

/-- A control plane whose policy has no roles. -/
def denyingState : AppState := { plainState with policyEngine := Engine.new [] }

def deniedAt (now : UInt64) : Request :=
  ⟨viewHost, now, (drawn 1).uuid, (drawn 1).nonce⟩

def activeHost : RegisteredDevice :=
  ⟨ControlGrants.hostCredential ControlGrants.host ControlGrants.organization, "host", "0.1.0", 1000, true⟩

/-- Of two denials in one second the second one is answered with a storage failure and leaves no
row. -/
theorem second_denial_unaudited :
    let first := after (handle denyingState) enrolledHost [deniedAt 2000]
    Targets enrolledHost (deniedAt 2000) ∧ Targets first (deniedAt 2000) ∧
      decision denyingState (deniedAt 2000).payload = .denied .noMatchingRole ∧
      (handle denyingState first (deniedAt 2000)).1 = some storageErrorResponse ∧
      (handle denyingState first (deniedAt 2000)).2.database.auditEvents.size =
        first.database.auditEvents.size ∧
      ¬AuditsDenial denyingState first (deniedAt 2000) := by
  intro first
  have hdecision : decision denyingState (deniedAt 2000).payload = .denied .noMatchingRole := by
    decide +kernel
  have hreply : (handle denyingState first (deniedAt 2000)).1 = some storageErrorResponse := by
    decide +kernel
  refine ⟨⟨activeHost, by decide +kernel, rfl⟩, ⟨activeHost, by decide +kernel, rfl⟩, hdecision, hreply,
    by decide +kernel, ?_⟩
  intro haudits
  have hforbidden := (haudits _ hdecision).1
  rw [hreply] at hforbidden
  exact absurd hforbidden (by decide)

/-- A second later it is audited. -/
theorem denials_audited_apart :
    AuditsDenial denyingState
      (after (handle denyingState) enrolledHost [deniedAt 2000]) (deniedAt 2001) := by
  have hruns : ∀ ys r, ys ++ [r] <+: [deniedAt 2000, deniedAt 2001] →
      (ys = [] ∧ r = deniedAt 2000) ∨ (ys = [deniedAt 2000] ∧ r = deniedAt 2001) := by
    intro ys r hys
    match ys with
    | [] => exact .inl ⟨rfl, by simpa using hys⟩
    | [x] =>
      obtain ⟨rfl, hr⟩ := List.cons_prefix_cons.mp hys
      exact .inr ⟨rfl, by simpa using hr⟩
    | x :: y :: ys => exact absurd hys.length_le (by simp)
  have htargets : ∀ ys r, ys ++ [r] <+: [deniedAt 2000, deniedAt 2001] →
      Targets (after (handle denyingState) enrolledHost ys) r := by
    intro ys r hys
    rcases hruns ys r hys with ⟨rfl, rfl⟩ | ⟨rfl, rfl⟩
    · exact ⟨activeHost, by decide +kernel, rfl⟩
    · exact ⟨activeHost, by decide +kernel, rfl⟩
  refine (denials_audited_iff denyingState enrolledHost (fun event => ⟨_, rfl⟩)
    [deniedAt 2000, deniedAt 2001] htargets).mpr ?_ _ _ (List.prefix_refl _)
  intro ys r hys _
  rcases hruns ys r hys with ⟨rfl, rfl⟩ | ⟨rfl, rfl⟩
  · exact ⟨by decide, by decide +kernel, by decide +kernel, by simp⟩
  · refine ⟨by decide, by decide +kernel, by decide +kernel, ?_⟩
    intro r' hr' _
    rw [List.mem_singleton.mp hr']
    decide

end DenialAudit
