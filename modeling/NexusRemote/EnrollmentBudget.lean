import NexusRemote.DeviceEnrollment
import NexusRemote.EnrollmentStore
import NexusRemote.Tables

/-!
# How often an enrollment token is used

A call of `enroll_device` enrolls one device and consumes one use, or does
nothing. Over a run the uses are counted in the row of the token, from the time
when the token was stored last.
-/

namespace EnrollmentBudget

open DeviceCredentials ControlStore Transactions EnrollmentStore Tables
open DeviceEnrollment (acmeHost hostToken)

/-! ## All or nothing -/

/-- One device with its credential is new, and one use of the token is gone; nothing else has changed
but perhaps an organization that is new as well. -/
structure Enrolled (db : Database) (tokenId : String) (device : RegisteredDevice)
    (token : EnrollmentToken) (db' : Database) : Prop where
  newDevice : db.devices[device.credential.deviceId.value]? = none
  newCredential : db.deviceCredentials[device.credential.deviceId.value]? = none
  devices : ∃ row, db'.devices = db.devices.insert device.credential.deviceId.value row
  credentials : db'.deviceCredentials =
    db.deviceCredentials.insert device.credential.deviceId.value device.credential
  use : ∃ row, db.enrollmentTokens[tokenId]? = some row ∧ row.token = token ∧
    db'.enrollmentTokens =
      db.enrollmentTokens.insert tokenId { row with usesCount := row.usesCount + 1 }
  sessions : db'.sessions = db.sessions
  auditEvents : db'.auditEvents = db.auditEvents

theorem enrolled_of_ok (db db' : Database) (tokenId : String) (now : UInt64) (device : RegisteredDevice)
    (token : EnrollmentToken) (h : db.enrollDevice tokenId now device = .ok (token, db')) :
    Enrolled db tokenId device token db' := by
  obtain ⟨row, hrow, htoken, -, -, -, hinserted⟩ := enrollDevice_ok db db' tokenId now device token h
  obtain ⟨new, -, -, -, hdevices⟩ := hinserted.devices
  exact {
    newDevice := hinserted.newDevice
    newCredential := hinserted.newCredential
    devices := ⟨new, hdevices⟩
    credentials := hinserted.credentials
    use := ⟨row, hrow, htoken, hinserted.tokens⟩
    sessions := hinserted.sessions
    auditEvents := hinserted.auditEvents }

/-- No token has been used more often than it may be. -/
def WithinBudget (db : Database) : Prop :=
  ∀ (id : String) row, db.enrollmentTokens[id]? = some row → row.usesCount ≤ row.maxUses

theorem withinBudget_empty : WithinBudget Database.empty := by
  simp [WithinBudget, Database.empty]

theorem step_withinBudget (db : Database) (call : Call) (h : WithinBudget db) :
    WithinBudget (step db call).2 := by
  rcases step_cases db call with ⟨hsame, -⟩ | ⟨faults, token, rfl, -, hstored⟩ |
    ⟨faults, tokenId, now, device, token, rfl, -, henrolled⟩
  · rwa [hsame]
  · obtain ⟨⟨row, -, hmax, huses, htokens⟩, -⟩ := storeEnrollmentToken_ok db _ token hstored
    rw [WithinBudget, htokens]
    apply All.insert h
    rw [huses, hmax]
    exact Int.natCast_nonneg _
  · obtain ⟨row, hrow, -, -, hbudget, -, hinserted⟩ := enrollDevice_ok db _ tokenId now device token henrolled
    rw [WithinBudget, hinserted.tokens]
    exact All.insert h _ _ hbudget

/-- A host of one organization. -/
def hostNamed (id : EntityId.DeviceId) : RegisteredDevice :=
  ⟨ControlGrants.hostCredential id DeviceEnrollment.acme, "host", "0.1.0", 2000, true⟩

def secondHost : EntityId.DeviceId := ⟨"dev-host-second", by decide⟩

/-- A token for one device. -/
def oneUse : EnrollmentToken := hostToken "tok-acme" DeviceEnrollment.acme

def enroll (id : EntityId.DeviceId) : Call := .enrollDevice {} "tok-acme" 2000 (hostNamed id)

/-- Every call of `enroll_device` in a run, whatever fails in it: one that succeeds has enrolled its
device and consumed a use of its token, and one that fails has changed nothing. The budgets are kept. -/
theorem enroll_all_or_nothing (db : Database) (calls : List Call) :
    (∀ before faults tokenId now device,
      before ++ [Call.enrollDevice faults tokenId now device] <+: calls →
        (∀ token, (step (Mealy.after step db before) (.enrollDevice faults tokenId now device)).1 =
            .enrolled (.ok token) →
          Enrolled (Mealy.after step db before) tokenId device token
            (step (Mealy.after step db before) (.enrollDevice faults tokenId now device)).2) ∧
        ∀ e, (step (Mealy.after step db before) (.enrollDevice faults tokenId now device)).1 =
            .enrolled (.error e) →
          (step (Mealy.after step db before) (.enrollDevice faults tokenId now device)).2 =
            Mealy.after step db before) ∧
      (WithinBudget db → WithinBudget (Mealy.after step db calls)) := by
  constructor
  · intro before faults tokenId now device _
    generalize Mealy.after step db before = db
    rcases step_cases db (.enrollDevice faults tokenId now device) with ⟨hsame, hnot⟩ | ⟨_, _, hcall, -⟩ |
      ⟨_, _, _, _, token, hcall, hreply, henrolled⟩
    · exact ⟨fun token htoken => absurd htoken (hnot token), fun _ _ => hsame⟩
    · cases hcall
    · cases hcall
      rw [hreply]
      refine ⟨?_, ?_⟩
      · intro token' htoken
        cases htoken
        exact enrolled_of_ok db _ tokenId now device token henrolled
      · intro e he
        cases he
  · exact Mealy.after_always step_withinBudget db calls

/-- One device is enrolled, and the next one is refused. -/
theorem enroll_all_or_nothing_twice :
    let db := Mealy.after step Database.empty [.storeEnrollmentToken {} oneUse]
    let enrolled := step db (enroll acmeHost)
    enrolled.1 = .enrolled (.ok oneUse) ∧
      Enrolled db "tok-acme" (hostNamed acmeHost) oneUse enrolled.2 ∧
      (step enrolled.2 (enroll secondHost)).1 = .enrolled (.error (.exhausted "tok-acme" 1 1)) ∧
      (step enrolled.2 (enroll secondHost)).2 = enrolled.2 ∧ WithinBudget enrolled.2 := by
  intro db enrolled
  have hfirst : enrolled.1 = .enrolled (.ok oneUse) := by decide +kernel
  have hsecond : (step enrolled.2 (enroll secondHost)).1 =
      .enrolled (.error (.exhausted "tok-acme" 1 1)) := by decide +kernel
  have hall := enroll_all_or_nothing db [enroll acmeHost, enroll secondHost]
  have hone := enroll_all_or_nothing db [enroll acmeHost]
  refine ⟨hfirst, (hall.1 [] {} "tok-acme" 2000 _ (by simp [enroll])).1 oneUse hfirst, hsecond,
    (hall.1 [enroll acmeHost] {} "tok-acme" 2000 _ (by simp [enroll])).2 _ hsecond,
    hone.2 ?_⟩
  exact step_withinBudget Database.empty _ withinBudget_empty

/-! ## The budget over a run -/

/-- The token with which a device was enrolled. -/
def Reply.token : Reply → Option EnrollmentToken
  | .enrolled (.ok token) => some token
  | _ => none

/-- A token identifier is stored again only as long as its token has not been used. A call that
fails stores nothing. -/
def StoredUnused (db : Database) : Call → Prop
  | .storeEnrollmentToken faults token =>
    (step db (.storeEnrollmentToken faults token)).1 = .stored (.ok ()) →
      ∀ row, db.enrollmentTokens[token.tokenId]? = some row → row.usesCount = 0
  | .enrollDevice _ _ _ _ => True

/-- The uses of a token that its row shows. -/
def uses (db : Database) (token : EnrollmentToken) : Int :=
  match db.enrollmentTokens[token.tokenId]? with
  | none => 0
  | some row => if row.token = token then row.usesCount else 0

/-- The rows are those of stored tokens, and show the devices that have been enrolled. -/
structure Counted (db : Database) (enrolled : List EnrollmentToken) : Prop where
  key : ∀ (id : String) row, db.enrollmentTokens[id]? = some row → row.token.tokenId = id
  maxUses : ∀ (id : String) row, db.enrollmentTokens[id]? = some row →
    row.maxUses = row.token.maxUses.toNat
  budget : WithinBudget db
  uses : ∀ token, (enrolled.count token : Int) = uses db token

theorem counted_empty : Counted Database.empty [] where
  key := by simp [Database.empty]
  maxUses := by simp [Database.empty]
  budget := withinBudget_empty
  uses := by simp [uses, Database.empty]

/-- The uses after the row of a token has been written. -/
theorem uses_insert (db db' : Database) (row : EnrollmentTokenRow) (token : EnrollmentToken)
    (h : db'.enrollmentTokens = db.enrollmentTokens.insert row.token.tokenId row) :
    uses db' token =
      if row.token.tokenId = token.tokenId then if row.token = token then row.usesCount else 0
      else uses db token := by
  unfold uses
  rw [h]
  by_cases hid : row.token.tokenId = token.tokenId
  · rw [if_pos hid, ← hid, Std.TreeMap.getElem?_insert_self]
  · rw [if_neg hid, getElem?_insert_of_ne _ _ hid]

theorem store_counted (db db' : Database) (token : EnrollmentToken) (enrolled : List EnrollmentToken)
    (h : Counted db enrolled) (hbudget : WithinBudget db')
    (hunused : ∀ row, db.enrollmentTokens[token.tokenId]? = some row → row.usesCount = 0)
    (hstored : db.storeEnrollmentToken token = .ok db') : Counted db' enrolled := by
  obtain ⟨⟨new, rfl, hmax, hzero, htokens⟩, -⟩ := storeEnrollmentToken_ok db db' token hstored
  refine ⟨?_, ?_, hbudget, ?_⟩
  · rw [htokens]
    exact All.insert h.key _ _ rfl
  · rw [htokens]
    exact All.insert h.maxUses _ _ hmax
  · intro other
    rw [h.uses, uses_insert db db' new other htokens]
    by_cases hid : new.token.tokenId = other.tokenId
    · -- Neither the old row nor the new one shows a use.
      have hold : uses db other = 0 := by
        unfold uses
        rw [← hid]
        cases hrow : db.enrollmentTokens[new.token.tokenId]? with
        | none => rfl
        | some row => simp [hunused row hrow]
      rw [hold, if_pos hid, hzero]
      simp
    · rw [if_neg hid]

theorem enroll_counted (db db' : Database) (tokenId : String) (now : UInt64) (device : RegisteredDevice)
    (token : EnrollmentToken) (enrolled : List EnrollmentToken) (h : Counted db enrolled)
    (hbudget : WithinBudget db') (henrolled : db.enrollDevice tokenId now device = .ok (token, db')) :
    Counted db' (enrolled ++ [token]) := by
  obtain ⟨row, hrow, rfl, -, -, -, hinserted⟩ :=
    enrollDevice_ok db db' tokenId now device token henrolled
  obtain rfl := h.key tokenId row hrow
  have htokens := hinserted.tokens
  refine ⟨?_, ?_, hbudget, ?_⟩
  · rw [htokens]
    exact All.insert h.key _ _ rfl
  · rw [htokens]
    exact All.insert h.maxUses _ _ (h.maxUses _ row hrow)
  · intro other
    rw [uses_insert db db' { row with usesCount := row.usesCount + 1 } other htokens,
      List.count_append, Nat.cast_add, h.uses]
    by_cases hsame : row.token = other
    · subst hsame
      simp [uses, hrow]
    · have hnone : List.count other [row.token] = 0 := by simp [hsame]
      rw [hnone]
      by_cases hid : row.token.tokenId = other.tokenId
      · simp [uses, ← hid, hrow, hsame]
      · simp [hid]

/-- One call. -/
theorem step_counted (db : Database) (call : Call) (enrolled : List EnrollmentToken)
    (h : Counted db enrolled) (hunused : StoredUnused db call) :
    Counted (step db call).2 (enrolled ++ (Reply.token (step db call).1).toList) := by
  have hbudget := step_withinBudget db call h.budget
  rcases step_cases db call with ⟨hsame, hnot⟩ | ⟨faults, token, rfl, hreply, hstored⟩ |
    ⟨faults, tokenId, now, device, token, rfl, hreply, henrolled⟩
  · have hnone : Reply.token (step db call).1 = none := by
      unfold Reply.token
      split
      · rename_i token htoken
        exact absurd htoken (hnot token)
      · rfl
    rw [hnone, hsame]
    simpa using h
  · rw [hreply]
    simpa [Reply.token] using store_counted db _ token enrolled h hbudget (hunused hreply) hstored
  · rw [hreply]
    exact enroll_counted db _ tokenId now device token enrolled h hbudget henrolled

theorem run_counted (db : Database) (calls : List Call) (enrolled : List EnrollmentToken)
    (h : Counted db enrolled)
    (hunused : ∀ before call, before ++ [call] <+: calls → StoredUnused (Mealy.after step db before) call) :
    Counted (Mealy.after step db calls)
      (enrolled ++ (Mealy.trace step db calls).filterMap Reply.token) := by
  induction calls generalizing db enrolled with
  | nil => simpa using h
  | cons call calls ih =>
    obtain ⟨hfirst, hrest⟩ := (Mealy.along_cons db call calls).mp hunused
    have hnext := ih (step db call).2 _ (step_counted db call enrolled h hfirst) hrest
    rw [List.append_assoc] at hnext
    rw [Mealy.after_cons, Mealy.trace_cons]
    cases htoken : Reply.token (step db call).1 with
    | none => simpa [htoken] using hnext
    | some token => simpa [htoken] using hnext

/-- In every run in which a token identifier is stored again only as long as its token has not been
used, no token enrolls more devices than it may. -/
theorem enrolled_le_maxUses (calls : List Call) (token : EnrollmentToken)
    (hunused : ∀ before call, before ++ [call] <+: calls →
      StoredUnused (Mealy.after step Database.empty before) call) :
    ((Mealy.trace step Database.empty calls).filterMap Reply.token).count token ≤ token.maxUses.toNat := by
  have h := run_counted Database.empty calls [] counted_empty hunused
  rw [List.nil_append] at h
  have hcount := h.uses token
  unfold uses at hcount
  split at hcount
  · omega
  · rename_i row hrow
    split at hcount
    · rename_i htoken
      have hle := h.budget _ row hrow
      rw [h.maxUses _ row hrow, htoken, ← hcount] at hle
      exact Int.ofNat_le.mp hle
    · omega

/-- The token is stored, used and stored again: it enrolls a second device. -/
theorem restored_token_used_twice :
    ((Mealy.trace step Database.empty [.storeEnrollmentToken {} oneUse, enroll acmeHost,
      .storeEnrollmentToken {} oneUse, enroll secondHost]).filterMap Reply.token).count oneUse = 2 ∧
      oneUse.maxUses.toNat = 1 := by
  decide +kernel

/-- The token is stored twice, used, and the database fails when it is to be stored again. -/
theorem enrolled_le_maxUses_once :
    let calls : List Call := [.storeEnrollmentToken {} oneUse, .storeEnrollmentToken {} oneUse,
      enroll acmeHost,
      .storeEnrollmentToken { commit := some ⟨none, "disk I/O error"⟩ } oneUse, enroll secondHost]
    ((Mealy.trace step Database.empty calls).filterMap Reply.token).count oneUse ≤ 1 := by
  intro calls
  refine enrolled_le_maxUses calls oneUse ?_
  simp only [calls, Mealy.along_cons]
  refine ⟨?_, ?_, trivial, fun hstored => absurd hstored (by decide +kernel), trivial, by simp⟩
  · intro _ row hrow
    simp [Database.empty] at hrow
  · have hunused : (step Database.empty (.storeEnrollmentToken {} oneUse)).2.enrollmentTokens["tok-acme"]?.map
        EnrollmentTokenRow.usesCount = some 0 := by
      decide +kernel
    intro _ row hrow
    exact Option.some.inj ((congrArg (Option.map EnrollmentTokenRow.usesCount) hrow).symm.trans hunused)

end EnrollmentBudget
