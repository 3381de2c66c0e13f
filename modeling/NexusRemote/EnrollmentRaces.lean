import NexusRemote.EnrollmentBudget
import NexusRemote.Snapshots

/-!
# Enrollments at the same time

Each call of `enroll_device` reads the token in a transaction of its own, and
other calls may commit before it comes to write. SQLite then refuses the
`UPDATE`, or refuses it because another connection is writing just now. The
second refusal is reported as a token that is used up.
-/

namespace EnrollmentRaces

open DeviceCredentials ControlStore Transactions EnrollmentStore Snapshots
open EnrollmentBudget (hostNamed oneUse secondHost)

/-- A call of `enroll_device`. -/
structure Attempt where
  tokenId : String
  now : UInt64
  device : RegisteredDevice

abbrev Answer := Except EnrollmentError EnrollmentToken

/-- `SQLITE_BUSY_SNAPSHOT`: another connection has written since the transaction began to read. -/
def busySnapshot : Fault := ⟨some "517", "database is locked"⟩

/-- `SQLITE_BUSY`: another connection is writing. -/
def busy : Fault := ⟨some "5", "database is locked"⟩

theorem consumeToken_fails (faults : Faults) (fault : Fault) (hupdate : faults.update = some fault)
    (tokenId : String) (now : UInt64) : Fails (consumeToken faults tokenId now) := by
  unfold consumeToken
  rw [hupdate]
  refine .after _ fun row => ?_
  refine .after _ fun row => ?_
  refine .after _ fun notBefore => ?_
  refine .after _ fun expiresAt => ?_
  refine .after _ fun uses => ?_
  refine .after _ fun max => ?_
  refine .after _ fun _ => ?_
  refine .after _ fun _ => ?_
  refine .after _ fun _ => ?_
  refine .after _ fun current => ?_
  exact (statement_fails _ _).bind _

theorem enrollDevice_fails (faults : Faults) (fault : Fault) (hupdate : faults.update = some fault)
    (attempt : Attempt) :
    Fails (enrollDevice faults attempt.tokenId attempt.now attempt.device) :=
  .after _ fun _ => (consumeToken_fails faults fault hupdate attempt.tokenId attempt.now).bind _

/-- The answer of a call, and the database that it commits. -/
def enroll (attempt : Attempt) (faults : Faults) (seen : Database) : Answer × Option Database :=
  match transaction (enrollDevice faults attempt.tokenId attempt.now attempt.device) seen with
  | (.ok token, db) => (.ok token, some db)
  | (.error e, _) => (.error e, none)

theorem enroll_eq (attempt : Attempt) (faults : Faults) (seen : Database) :
    enroll attempt faults seen =
      match outcome (enrollDevice faults attempt.tokenId attempt.now attempt.device) seen with
      | .ok (token, db) => (.ok token, some db)
      | .error e => (.error e, none) := by
  unfold enroll
  rw [transaction_eq]
  rcases outcome (enrollDevice faults attempt.tokenId attempt.now attempt.device) seen with
    _ | ⟨token, db⟩ <;> rfl

/-- The `UPDATE` of a call that is behind is refused, if it has not been refused for another reason. -/
def refuseUpdate (faults : Faults) : Faults :=
  { faults with update := some (faults.update.getD busySnapshot) }

def engine : Engine Database Attempt Faults Answer where
  exec := enroll
  refused := refuseUpdate
  refused_writes attempt faults seen := by
    rw [enroll_eq]
    split
    · rename_i token db hok
      exact absurd hok (enrollDevice_fails _ _ rfl attempt seen token db)
    · rfl

/-! ## Which calls find the token used up -/

/-- The `UPDATE` of a call that has passed its checks finds the row. -/
theorem updates_of_checked (row : EnrollmentTokenRow) (now expiresAt : UInt64) (uses max : UInt32)
    (current : Int) (hfits : row.expiresAt < 2 ^ 64)
    (hexpiresAt : ofColumn "expires_at" row.expiresAt = .ok expiresAt)
    (huses : ofColumn32 "uses_count" row.usesCount = .ok uses)
    (hmax : ofColumn32 "max_uses" row.maxUses = .ok max)
    (hcurrent : toColumn "current_time" now = .ok current) (hlate : ¬now > expiresAt)
    (hused : ¬uses ≥ max) : row.usesCount < row.maxUses ∧ current ≤ row.expiresAt := by
  rw [ofColumn_eq _ _ _ hfits hexpiresAt, ofColumn32_eq _ _ _ huses, ofColumn32_eq _ _ _ hmax,
    toColumn_eq _ _ _ hcurrent]
  have hlt := UInt32.lt_iff_toNat_lt.mp (UInt32.not_le.mp hused)
  have hle := UInt64.le_iff_toNat_le.mp (UInt64.not_lt.mp hlate)
  omega

theorem consume_exhausted (row : EnrollmentTokenRow) (tokenId id : String) (now : UInt64)
    (uses max : UInt32) (hfits : row.expiresAt < 2 ^ 64)
    (h : row.consume tokenId now = .error (.exhausted id uses max)) : row.maxUses ≤ row.usesCount := by
  have hcases := consume_cases row tokenId now
  rw [h] at hcases
  cases hcases with
  | usedUp _ _ hused => exact hused
  | missed _ _ expiresAt hcolumn hvalid hexpired =>
    -- The `UPDATE` compares with the time that the checks have compared with.
    rw [ofColumn_eq _ _ _ hfits hcolumn] at hexpired
    have hle := UInt64.le_iff_toNat_le.mp (UInt64.not_lt.mp hvalid)
    omega

/-- A call whose `UPDATE` is refused ends in an error of its checks or in that of the `UPDATE`. -/
theorem consumeToken_refused (faults : Faults) (fault : Fault) (hselect : faults.select = none)
    (hupdate : faults.update = some fault) (db : Database) (tokenId : String) (now : UInt64)
    (row : EnrollmentTokenRow) (hrow : db.enrollmentTokens[tokenId]? = some row)
    (hfits : row.expiresAt < 2 ^ 64) :
    (∃ e, row.consume tokenId now = .error e ∧ outcome (consumeToken faults tokenId now) db = .error e) ∨
      (∃ consumed, row.consume tokenId now = .ok consumed) ∧
        ∃ uses max, outcome (consumeToken faults tokenId now) db =
          .error (updateError tokenId uses max fault) := by
  simp only [consumeToken, hselect, hupdate, Option.map_none, Option.map_some, outcome_bind,
    outcome_statement, outcome_fault, outcome_compute, outcome_refuse, hrow, found, Except.map,
    EnrollmentTokenRow.consume]
  cases ofColumn "not_before" row.notBefore with
  | error e => exact .inl ⟨_, rfl, rfl⟩
  | ok notBefore =>
  cases hexpiresAt : ofColumn "expires_at" row.expiresAt with
  | error e => exact .inl ⟨_, rfl, rfl⟩
  | ok expiresAt =>
  cases huses : ofColumn32 "uses_count" row.usesCount with
  | error e => exact .inl ⟨_, rfl, rfl⟩
  | ok uses =>
  cases hmax : ofColumn32 "max_uses" row.maxUses with
  | error e => exact .inl ⟨_, rfl, rfl⟩
  | ok max =>
  simp only [stored]
  by_cases hearly : now < notBefore
  · simp [hearly]
  by_cases hlate : now > expiresAt
  · simp [hearly, hlate]
  by_cases hused : uses ≥ max
  · simp [hearly, hlate, hused]
  cases hcurrent : toColumn "current_time" now with
  | error e => simp [hearly, hlate, hused]
  | ok current =>
    have hfound := updates_of_checked row now expiresAt uses max current hfits hexpiresAt huses hmax
      hcurrent hlate hused
    refine .inr ⟨⟨{ row with usesCount := row.usesCount + 1 }, ?_⟩, uses, max, ?_⟩
    · simp only [if_neg hearly, if_neg hlate, if_neg hused, if_pos hfound]
    · simp only [if_neg hearly, if_neg hlate, if_neg hused]

/-! ## The errors of a call -/

def IsStorage (e : EnrollmentError) : Prop := ∃ x, e = .storage x

theorem stored_isStorage {α : Type} (x : Except StorageError α) (e : EnrollmentError)
    (h : stored x = .error e) : IsStorage e := by
  cases x with
  | error x =>
    cases h
    exact ⟨x, rfl⟩
  | ok a => cases h

theorem execute_raises (fault : Option Fault) (action : Database → Except StorageError Database) :
    Raises IsStorage (execute fault action) := by
  refine statement_raises _ _ ?_ ?_
  · intro e h
    obtain ⟨fault, -, rfl⟩ := Option.map_eq_some_iff.mp h
    exact ⟨_, rfl⟩
  · intro db e h
    cases haction : action db with
    | error x =>
      simp only [haction] at h
      exact ⟨x, (Except.error.inj h).symm⟩
    | ok db' => simp [haction] at h

theorem saveDevice_raises (faults : Faults) (device : RegisteredDevice) :
    Raises IsStorage (saveDevice faults device) := by
  refine .bind (compute_raises _ (stored_isStorage _)) fun enrolledAt => ?_
  refine .bind (execute_raises _ _) fun _ => ?_
  refine .bind (execute_raises _ _) fun _ => ?_
  refine .bind (compute_raises _ (stored_isStorage _)) fun _ => ?_
  refine .bind (compute_raises _ (stored_isStorage _)) fun _ => ?_
  exact execute_raises _ _

/-- After the token has been consumed, only the storage fails. -/
theorem enrollDevice_error (faults : Faults) (attempt : Attempt) (db : Database) (e : EnrollmentError)
    (h : outcome (enrollDevice faults attempt.tokenId attempt.now attempt.device) db = .error e) :
    IsStorage e ∨ faults.begin = none ∧
      outcome (consumeToken faults attempt.tokenId attempt.now) db = .error e := by
  unfold enrollDevice at h
  cases hbegin : faults.begin with
  | some fault =>
    rw [hbegin, outcome_bind] at h
    exact .inl ⟨_, (Except.error.inj h).symm⟩
  | none =>
    rw [hbegin, outcome_bind, outcome_execute] at h
    refine (error_of_bind (fun token => ?_) h).symm.imp_right fun herror => ⟨rfl, herror⟩
    refine .bind (refuse_raises _ _ ⟨_, rfl⟩) fun _ => ?_
    refine .bind (saveDevice_raises faults attempt.device) fun _ => ?_
    exact .bind (execute_raises _ _) fun _ => pure_raises _

/-! ## Exhausted -/

def isExhausted : Answer → Bool
  | .error (.exhausted _ _ _) => true
  | _ => false

/-- The engine answers the `UPDATE` of a call that has passed its checks with `SQLITE_BUSY`. -/
structure Contended (seen : Database) (attempt : Attempt) (faults : Faults) : Prop where
  begin : faults.begin = none
  select : faults.select = none
  update : ∃ fault, faults.update = some fault ∧ fault.code = some "5"
  checked : ∃ row consumed, seen.enrollmentTokens[attempt.tokenId]? = some row ∧
    row.consume attempt.tokenId attempt.now = .ok consumed

theorem isExhausted_enroll (attempt : Attempt) (faults : Faults) (seen : Database) :
    isExhausted (enroll attempt faults seen).1 = true ↔
      ∃ id uses max, outcome (enrollDevice faults attempt.tokenId attempt.now attempt.device) seen =
        .error (.exhausted id uses max) := by
  rw [enroll_eq]
  rcases outcome (enrollDevice faults attempt.tokenId attempt.now attempt.device) seen with
    e | ⟨token, db⟩
  · cases e <;> simp [isExhausted]
  · simp [isExhausted]

/-- A call that is told so has seen the token used up, or has found the database busy. -/
theorem exhausted_cases (attempt : Attempt) (faults : Faults) (seen : Database)
    (row : EnrollmentTokenRow) (hrow : seen.enrollmentTokens[attempt.tokenId]? = some row)
    (hfits : row.expiresAt < 2 ^ 64) (h : isExhausted (enroll attempt faults seen).1 = true) :
    row.maxUses ≤ row.usesCount ∨ Contended seen attempt faults := by
  obtain ⟨id, uses, max, houtcome⟩ := (isExhausted_enroll attempt faults seen).mp h
  rcases enrollDevice_error faults attempt seen _ houtcome with ⟨x, hx⟩ | ⟨hbegin, hconsume⟩
  · cases hx
  cases hselect : faults.select with
  | some fault =>
    rw [consumeToken, hselect, outcome_bind] at hconsume
    cases hconsume
  | none =>
    cases hupdate : faults.update with
    | none =>
      have hfaultless : consumeToken faults attempt.tokenId attempt.now =
          consumeToken {} attempt.tokenId attempt.now := by
        simp only [consumeToken, hselect, hupdate]
      rw [hfaultless, outcome_consumeToken, hrow] at hconsume
      simp only at hconsume
      split at hconsume
      · rename_i e herror
        cases hconsume
        exact .inl (consume_exhausted row _ _ _ _ _ hfits herror)
      · cases hconsume
    | some fault =>
      rcases consumeToken_refused faults fault hselect hupdate seen attempt.tokenId attempt.now row hrow
        hfits with ⟨e, herror, heq⟩ | ⟨⟨consumed, hok⟩, uses', max', heq⟩
      · rw [heq] at hconsume
        cases hconsume
        exact .inl (consume_exhausted row _ _ _ _ _ hfits herror)
      · rw [heq, updateError] at hconsume
        split at hconsume
        · rename_i hcode
          exact .inr ⟨hbegin, hselect, ⟨fault, hupdate, hcode⟩, row, consumed, hrow, hok⟩
        · cases hconsume

theorem exhausted_of_contended (attempt : Attempt) (faults : Faults) (seen : Database)
    (row : EnrollmentTokenRow) (hrow : seen.enrollmentTokens[attempt.tokenId]? = some row)
    (hfits : row.expiresAt < 2 ^ 64) (h : Contended seen attempt faults) :
    isExhausted (enroll attempt faults seen).1 = true := by
  obtain ⟨fault, hupdate, hcode⟩ := h.update
  obtain ⟨row', consumed, hrow', hok⟩ := h.checked
  obtain rfl : row' = row := Option.some.inj (hrow'.symm.trans hrow)
  rcases consumeToken_refused faults fault h.select hupdate seen attempt.tokenId attempt.now row' hrow
    hfits with ⟨e, herror, -⟩ | ⟨-, uses, max, heq⟩
  · rw [hok] at herror
    cases herror
  · refine (isExhausted_enroll attempt faults seen).mpr ⟨attempt.tokenId, uses, max, ?_⟩
    rw [enrollDevice, h.begin, outcome_bind, outcome_execute]
    simp only [outcome_bind, heq, updateError, hcode, if_true]

/-- Whether a call is behind makes no difference. -/
theorem contended_refuseUpdate (seen : Database) (attempt : Attempt) (faults : Faults) :
    Contended seen attempt (refuseUpdate faults) ↔ Contended seen attempt faults := by
  constructor
  · rintro ⟨hbegin, hselect, ⟨fault, hupdate, hcode⟩, hchecked⟩
    refine ⟨hbegin, hselect, ⟨fault, ?_, hcode⟩, hchecked⟩
    cases hgiven : faults.update with
    | some given => simpa [refuseUpdate, hgiven] using hupdate
    | none =>
      -- A snapshot that is out of date has a code of its own.
      obtain rfl : busySnapshot = fault := by simpa [refuseUpdate, hgiven] using hupdate
      exact absurd hcode (by decide)
  · rintro ⟨hbegin, hselect, ⟨fault, hupdate, hcode⟩, hchecked⟩
    exact ⟨hbegin, hselect, ⟨fault, by simp [refuseUpdate, hupdate], hcode⟩, hchecked⟩

/-! ## The uses that the row shows -/

/-- How many devices have been enrolled with the token. -/
def enrolled (tokenId : String) (replies : List (Attempt × Answer)) : Nat :=
  replies.countP fun reply => reply.1.tokenId = tokenId && reply.2.isOk

/-- The row of the token after it has been used `n` times. -/
structure UsedTimes (token : EnrollmentToken) (n : Nat) (row : EnrollmentTokenRow) : Prop where
  maxUses : row.maxUses = token.maxUses.toNat
  fits : row.expiresAt < 2 ^ 64
  uses : row.usesCount = n
  budget : n ≤ token.maxUses.toNat

def Shows (token : EnrollmentToken) (db : Database) (replies : List (Attempt × Answer)) : Prop :=
  ∃ row, db.enrollmentTokens[token.tokenId]? = some row ∧
    UsedTimes token (enrolled token.tokenId replies) row

theorem shows_stored (db db' : Database) (token : EnrollmentToken)
    (h : db.storeEnrollmentToken token = .ok db') : Shows token db' [] := by
  unfold Database.storeEnrollmentToken at h
  split at h
  · cases h
  · cases h
  · rename_i notBefore expiresAt _ hexpires
    obtain rfl := Except.ok.inj h
    have hfits : expiresAt < 2 ^ 64 := by
      have hlt := token.expiresAt.toNat_lt
      rw [toColumn_eq _ _ _ hexpires]
      omega
    exact ⟨_, Std.TreeMap.getElem?_insert_self, rfl, hfits, rfl, Nat.zero_le _⟩

/-- What a call commits is a device that has been enrolled. -/
theorem enroll_committed (attempt : Attempt) (faults : Faults) (db db' : Database) (answer : Answer)
    (h : enroll attempt faults db = (answer, some db')) :
    ∃ token, answer = .ok token ∧
      db.enrollDevice attempt.tokenId attempt.now attempt.device = .ok (token, db') := by
  unfold enroll at h
  split at h
  · rename_i token db'' htransaction
    cases h
    exact ⟨token, rfl, enrollDevice_committed faults db db' _ _ _ token htransaction⟩
  · cases h

theorem enroll_failed (attempt : Attempt) (faults : Faults) (seen : Database) (answer : Answer)
    (h : enroll attempt faults seen = (answer, none)) : answer.isOk = false := by
  unfold enroll at h
  split at h
  · cases h
  · cases h
    rfl

theorem shows_failed (token : EnrollmentToken) (db : Database) (replies : List (Attempt × Answer))
    (attempt : Attempt) (answer : Answer) (h : Shows token db replies) (hfailed : answer.isOk = false) :
    Shows token db (replies ++ [(attempt, answer)]) := by
  simpa [Shows, enrolled, hfailed] using h

theorem shows_committed (token : EnrollmentToken) (db db' : Database)
    (replies : List (Attempt × Answer)) (attempt : Attempt) (answer : Answer) (faults : Faults)
    (h : Shows token db replies) (hcommitted : enroll attempt faults db = (answer, some db')) :
    Shows token db' (replies ++ [(attempt, answer)]) := by
  obtain ⟨used, rfl, henrolled⟩ := enroll_committed attempt faults db db' answer hcommitted
  obtain ⟨row, hrow, -, -, hbudget, -, hinserted⟩ := enrollDevice_ok db db' _ _ _ used henrolled
  obtain ⟨shown, hshown, hmax, hfits, huses, hle⟩ := h
  have htokens := hinserted.tokens
  by_cases hid : attempt.tokenId = token.tokenId
  · rw [hid] at hrow htokens
    obtain rfl : row = shown := Option.some.inj (hrow.symm.trans hshown)
    have hcount : enrolled token.tokenId (replies ++ [(attempt, .ok used)]) =
        enrolled token.tokenId replies + 1 := by
      simp [enrolled, hid, Except.isOk, Except.toBool]
    refine ⟨{ row with usesCount := row.usesCount + 1 }, ?_, hmax, hfits, ?_, ?_⟩
    · rw [htokens, Std.TreeMap.getElem?_insert_self]
    · rw [hcount, huses, Nat.cast_succ]
    · rw [huses, hmax] at hbudget
      rw [hcount]
      omega
  · have hcount : enrolled token.tokenId (replies ++ [(attempt, .ok used)]) =
        enrolled token.tokenId replies := by
      simp [enrolled, hid]
    refine ⟨shown, ?_, hmax, hfits, by rw [hcount, huses], by rw [hcount]; exact hle⟩
    rw [htokens, Tables.getElem?_insert_of_ne _ _ hid, hshown]

theorem run_shows (db db' : Database) (token : EnrollmentToken)
    (hstored : db.storeEnrollmentToken token = .ok db') (events : List (Event Attempt Faults)) :
    Shows token (Mealy.after engine.step (.quiet db') events).db (engine.replies (.quiet db') events) := by
  refine engine.after_serial ?_ ?_ db' (shows_stored db db' token hstored) events
  · intro db replies attempt answer faults seen h hfailed
    exact shows_failed token db replies attempt answer h (enroll_failed attempt faults seen answer hfailed)
  · intro db db' replies attempt answer faults h hcommitted
    exact shows_committed token db db' replies attempt answer faults h hcommitted

/-- A call has seen the row of the token as it was after no more uses. -/
theorem seen_shows (db db' : Database) (token : EnrollmentToken)
    (hstored : db.storeEnrollmentToken token = .ok db') (events : List (Event Attempt Faults))
    (client : Nat) (p : Pending Database Attempt)
    (hp : (Mealy.after engine.step (.quiet db') events).pending[client]? = some p) :
    ∃ n row, p.seen.enrollmentTokens[token.tokenId]? = some row ∧ UsedTimes token n row ∧
      n ≤ enrolled token.tokenId (engine.replies (.quiet db') events) := by
  obtain ⟨earlier, hearlier, hseen, -⟩ := engine.pending_seen db' events client p hp
  obtain ⟨row, hrow, hused⟩ := run_shows db db' token hstored earlier
  refine ⟨_, row, by rw [hseen, hrow], hused, ?_⟩
  exact (engine.replies_prefix _ hearlier).sublist.countP_le

/-! ## What a call is told -/

/-- The row shows as many uses as the token has. -/
def UsedUp (db : Database) (tokenId : String) : Prop :=
  ∀ row, db.enrollmentTokens[tokenId]? = some row → row.maxUses ≤ row.usesCount

theorem Shows.usedUp_iff {token : EnrollmentToken} {db : Database} {replies : List (Attempt × Answer)}
    (h : Shows token db replies) :
    UsedUp db token.tokenId ↔ enrolled token.tokenId replies = token.maxUses.toNat := by
  obtain ⟨row, hrow, hmax, -, huses, hle⟩ := h
  constructor
  · intro hused
    have hfull := hused row hrow
    omega
  · intro heq row' hrow'
    obtain rfl : row = row' := Option.some.inj (hrow.symm.trans hrow')
    omega

theorem contended_answers (seen : Database) (attempt : Attempt) (faults : Faults) (current : Prop)
    [Decidable current] :
    Contended seen attempt (if current then faults else engine.refused faults) ↔
      Contended seen attempt faults := by
  split
  · rfl
  · exact contended_refuseUpdate seen attempt faults

/-- A call for the token that returns now and finds the database busy finds the token used up. -/
def BusyUsedUp (tokenId : String) (s : Store Database Attempt) : Event Attempt Faults → Prop
  | .begins _ _ => True
  | .returns client faults =>
    ∀ p, s.pending[client]? = some p → p.call.tokenId = tokenId → Contended p.seen p.call faults →
      UsedUp s.db tokenId

theorem busyUsedUp_of_update (tokenId : String) (s : Store Database Attempt) (client : Nat)
    (faults : Faults) (h : faults.update = none) : BusyUsedUp tokenId s (.returns client faults) := by
  intro p _ _ hcontended
  obtain ⟨fault, hupdate, -⟩ := hcontended.update
  rw [h] at hupdate
  cases hupdate

/-- Whatever calls of `enroll_device` run at the same time from the moment when a token has been stored:
each one that is told that the token is used up is told so after all its uses have been committed, if
and only if `SQLITE_BUSY` comes only when they have. -/
theorem exhausted_truthful_iff (db db' : Database) (token : EnrollmentToken)
    (hstored : db.storeEnrollmentToken token = .ok db') (events : List (Event Attempt Faults)) :
    (∀ before event, before ++ [event] <+: events → ∀ attempt answer,
        (engine.step (Mealy.after engine.step (.quiet db') before) event).1 = some (attempt, answer) →
        attempt.tokenId = token.tokenId → isExhausted answer = true →
        enrolled token.tokenId (engine.replies (.quiet db') before) = token.maxUses.toNat) ↔
      ∀ before event, before ++ [event] <+: events →
        BusyUsedUp token.tokenId (Mealy.after engine.step (.quiet db') before) event := by
  constructor
  · intro htold before event hrun
    cases event with
    | begins client attempt => trivial
    | returns client faults =>
      intro p hp htoken hcontended
      obtain ⟨n, row, hrow, hused, -⟩ := seen_shows db db' token hstored before client p hp
      rw [← htoken] at hrow
      have hexhausted := exhausted_of_contended p.call _ p.seen row hrow hused.fits
        ((contended_answers p.seen p.call faults
          (p.version = (Mealy.after engine.step (.quiet db') before).version)).mpr hcontended)
      rw [(run_shows db db' token hstored before).usedUp_iff]
      exact htold before _ hrun p.call _
        ((engine.reply_iff _ _ _ _).mpr ⟨client, faults, p, rfl, hp, rfl, rfl⟩) htoken hexhausted
  · intro hbusy before event hrun attempt answer hreply htoken hexhausted
    obtain ⟨client, faults, p, rfl, hp, rfl, rfl⟩ := (engine.reply_iff _ _ _ _).mp hreply
    obtain ⟨n, row, hrow, hused, hle⟩ := seen_shows db db' token hstored before client p hp
    have hshows := run_shows db db' token hstored before
    rw [← htoken] at hrow
    rcases exhausted_cases p.call _ p.seen row hrow hused.fits hexhausted with hfull | hcontended
    · -- The uses that the call has seen have been committed, and there are no more.
      obtain ⟨-, -, -, -, huses, hmost⟩ := hshows
      rw [hused.maxUses, hused.uses] at hfull
      omega
    · rw [contended_answers] at hcontended
      exact hshows.usedUp_iff.mp (hbusy before _ hrun p hp htoken hcontended)

/-- A token for two devices. -/
def twoUses : EnrollmentToken := { oneUse with maxUses := 2 }

def attempt (id : EntityId.DeviceId) : Attempt := ⟨"tok-acme", 2000, hostNamed id⟩

def start : Store Database Attempt := .quiet (step Database.empty (.storeEnrollmentToken {} twoUses)).2

/-- Two hosts enroll at the same time with a token for two. One of them finds the database busy and is
told that the token is used up, when it has not been used at all; both can use it afterwards. -/
theorem busy_told_exhausted :
    let first : List (Event Attempt Faults) :=
      [.begins 0 (attempt DeviceEnrollment.acmeHost), .begins 1 (attempt secondHost)]
    let told : Event Attempt Faults := .returns 1 { update := some busy }
    let rest : List (Event Attempt Faults) :=
      [.returns 0 {}, .begins 1 (attempt secondHost), .returns 1 {}]
    (engine.step (Mealy.after engine.step start first) told).1.map Prod.snd =
        some (.error (.exhausted "tok-acme" 0 2)) ∧
      enrolled "tok-acme" (engine.replies start first) = 0 ∧ twoUses.maxUses.toNat = 2 ∧
      enrolled "tok-acme" (engine.replies start (first ++ told :: rest)) = 2 := by
  decide +kernel

/-- A third call has begun before the second host is enrolled. It finds the database busy, and by then
the token is used up. -/
theorem exhausted_truthful_late :
    let before : List (Event Attempt Faults) :=
      [.begins 0 (attempt DeviceEnrollment.acmeHost), .returns 0 {},
        .begins 1 (attempt secondHost), .begins 2 (attempt secondHost),
        .returns 1 {}]
    let told : Event Attempt Faults := .returns 2 { update := some busy }
    (engine.step (Mealy.after engine.step start before) told).1.map (fun r => (r.1.tokenId, r.2)) =
        some ("tok-acme", .error (.exhausted "tok-acme" 1 2)) ∧
      enrolled "tok-acme" (engine.replies start before) = 2 := by
  intro before told
  have htold : (engine.step (Mealy.after engine.step start before) told).1.map
      (fun r => (r.1.tokenId, r.2)) = some ("tok-acme", .error (.exhausted "tok-acme" 1 2)) := by
    decide +kernel
  have hfull : (Mealy.after engine.step start before).db.enrollmentTokens["tok-acme"]?.map
      (fun row => (row.maxUses, row.usesCount)) = some (2, 2) := by
    decide +kernel
  have hbusy : ∀ earlier event, earlier ++ [event] <+: before ++ [told] →
      BusyUsedUp "tok-acme" (Mealy.after engine.step start earlier) event := by
    simp only [before, told, List.cons_append, List.nil_append, Mealy.along_cons]
    refine ⟨trivial, busyUsedUp_of_update _ _ _ _ rfl, trivial, trivial,
      busyUsedUp_of_update _ _ _ _ rfl, ?_, by simp⟩
    intro p _ _ _ row hrow
    have hrow' := (congrArg (Option.map fun row => (row.maxUses, row.usesCount)) hrow).symm.trans hfull
    simp only [Option.map_some, Option.some.injEq, Prod.mk.injEq] at hrow'
    omega
  refine ⟨htold, ?_⟩
  obtain ⟨⟨attempt', answer⟩, hreply, heq⟩ := Option.map_eq_some_iff.mp htold
  obtain ⟨htoken, rfl⟩ := Prod.mk.inj heq
  exact (exhausted_truthful_iff Database.empty _ twoUses rfl (before ++ [told])).mpr hbusy before told
    List.prefix_rfl attempt' _ hreply htoken rfl

end EnrollmentRaces
