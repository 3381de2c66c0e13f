import NexusRemote.ControlGrants
import NexusRemote.Mealy
import NexusRemote.Tables

/-!
# Recording audit events (`record_audit` in `apps/nexusd/src/state.rs`)

A call appends its event to the chain in memory under a lock, lets go of the
lock, inserts the event into the database and, if that fails, puts back the
chain as it was before the append. Any number of calls run at once.
-/

namespace AuditRecording

open AuditLog ControlStore SessionRequest
open scoped List

inductive StateError where
  | storage (e : StorageError)
  | auditSink (text : String)
  | auditChain (text : String)
  deriving DecidableEq, Repr

/-- Where a call of `record_audit` is, with what it still needs. -/
inductive Stage where
  | append (event : AuditEvent)
  | insert (previousChain : AuditChain) (chained : ChainedAuditEvent)
  | sink (chained : ChainedAuditEvent)
  | returned (result : Except StateError Unit)

/-- A database operation that may also fail for a reason of its own. -/
def outcome {α : Type} (fault : Option String) (operation : Except StorageError α) :
    Except StorageError α :=
  match fault with
  | some text => .error (.database text)
  | none => operation

theorem outcome_ok {α : Type} {fault : Option String} {operation : Except StorageError α} {a : α}
    (h : outcome fault operation = .ok a) : operation = .ok a := by
  unfold outcome at h
  split at h
  · cases h
  · exact h

/-- Runs a call up to its next await. -/
def turn (D : Digest) (shared : Shared) (fault : Option String) : Stage → Stage × Shared
  | .append event =>
    match shared.auditChain.append D event with
    | .error e => (.returned (.error (.auditChain e.message)), shared)
    | .ok (chained, chain) =>
      (.insert shared.auditChain chained, { shared with auditChain := chain })
  | .insert previousChain chained =>
    match outcome fault (shared.database.insertAuditEvent D chained) with
    | .error e => (.returned (.error (.storage e)), { shared with auditChain := previousChain })
    | .ok database => (.sink chained, { shared with database := database })
  | .sink chained =>
    match fault with
    | some text => (.returned (.error (.auditSink text)), shared)
    | none => (.returned (.ok ()), { shared with auditSink := shared.auditSink ++ [chained] })
  | .returned result => (.returned result, shared)

/-! ## A call that runs alone -/

/-- A call of `record_audit` that runs alone. -/
def recordAlone (D : Digest) (insert sink : Option String) (shared : Shared) (event : AuditEvent) :
    Stage × Shared :=
  let appended := turn D shared none (.append event)
  let inserted := turn D appended.2 insert appended.1
  turn D inserted.2 sink inserted.1

/-- The tables that recording an event does not touch. -/
structure Keeps (s t : Shared) : Prop where
  devices : t.database.devices = s.database.devices
  credentials : t.database.deviceCredentials = s.database.deviceCredentials
  tokens : t.database.enrollmentTokens = s.database.enrollmentTokens
  sessions : t.database.sessions = s.database.sessions

theorem Keeps.refl (s : Shared) : Keeps s s := ⟨rfl, rfl, rfl, rfl⟩

theorem Keeps.trans {s t u : Shared} (h : Keeps s t) (h' : Keeps t u) : Keeps s u :=
  ⟨h'.devices.trans h.devices, h'.credentials.trans h.credentials, h'.tokens.trans h.tokens,
    h'.sessions.trans h.sessions⟩

theorem turn_keeps (D : Digest) (shared : Shared) (fault : Option String) (stage : Stage) :
    Keeps shared (turn D shared fault stage).2 := by
  cases stage with
  | append event =>
    simp only [turn]
    split <;> exact ⟨rfl, rfl, rfl, rfl⟩
  | insert previousChain chained =>
    simp only [turn]
    split
    · exact ⟨rfl, rfl, rfl, rfl⟩
    · rename_i database hinsert
      obtain ⟨-, rfl⟩ :=
        (insertAuditEvent_iff D _ database chained).mp (outcome_ok hinsert)
      exact ⟨rfl, rfl, rfl, rfl⟩
  | sink chained =>
    simp only [turn]
    split <;> exact ⟨rfl, rfl, rfl, rfl⟩
  | returned result => exact ⟨rfl, rfl, rfl, rfl⟩

theorem recordAlone_keeps (D : Digest) (insert sink : Option String) (shared : Shared)
    (event : AuditEvent) : Keeps shared (recordAlone D insert sink shared event).2 :=
  ((turn_keeps D shared none _).trans (turn_keeps D _ insert _)).trans (turn_keeps D _ sink _)

/-! ## The session handler records in this way -/

/-- The phase of a session request that is recording an audit event. -/
def phaseOf {state : AppState} (answer : Answer state) : Stage → Phase state
  | .append event => .append event answer
  | .insert previousChain chained => .insertAudit previousChain chained answer
  | .sink chained => .recordSink chained answer
  | .returned (.ok ()) => .answered answer
  | .returned (.error _) => .answered (.error storageErrorResponse)

/-- While a session request records its audit event, its turns are those of `record_audit`. -/
theorem advance_phaseOf (state : AppState) (shared : Shared) (payload : SessionRequestPayload)
    (now : UInt64) (inputs : Inputs) (answer : Answer state) (stage : Stage) :
    advance state shared payload now inputs (phaseOf answer stage) =
      (phaseOf answer (turn state.digest shared inputs.fault stage).1,
        (turn state.digest shared inputs.fault stage).2) := by
  cases stage with
  | append event =>
    simp only [phaseOf, advance, turn]
    cases shared.auditChain.append state.digest event <;> rfl
  | insert previousChain chained =>
    have hsame : outcome inputs.fault (shared.database.insertAuditEvent state.digest chained) =
        attempt inputs (shared.database.insertAuditEvent state.digest chained) := rfl
    simp only [phaseOf, advance, turn, hsame]
    cases attempt inputs (shared.database.insertAuditEvent state.digest chained) <;> rfl
  | sink chained =>
    simp only [phaseOf, advance, turn]
    cases inputs.fault <;> rfl
  | returned result => cases result <;> rfl

/-! ## Runs -/

/-- A process that records audit events, with the events that it has stored so far. -/
structure Recorder where
  shared : Shared
  calls : List Stage
  stored : List ChainedAuditEvent

inductive Event where
  /-- A new call of `record_audit`. -/
  | call (event : AuditEvent)
  /-- A call runs up to its next await. -/
  | turn (index : Nat) (fault : Option String)
  /-- Somebody else writes to the other tables. -/
  | others (database : Database)

/-- `AppState::new` over a database. -/
def opened (database : Database) : Shared := ⟨database, .new none, []⟩

def Recorder.start (database : Database) : Recorder := ⟨opened database, [], []⟩

/-- The event that a turn has just stored. -/
def justStored : Stage → Stage → Option ChainedAuditEvent
  | .insert _ _, .sink chained => some chained
  | _, _ => none

/-- One event, with what it stores. -/
def step (D : Digest) (r : Recorder) : Event → Option ChainedAuditEvent × Recorder
  | .call event => (none, { r with calls := r.calls ++ [.append event] })
  | .turn index fault =>
    match r.calls[index]? with
    | none => (none, r)
    | some stage =>
      let next := turn D r.shared fault stage
      let new := justStored stage next.1
      (new, ⟨next.2, r.calls.set index next.1, r.stored ++ new.toList⟩)
  | .others database =>
    (none, { r with shared := { r.shared with
      database := { database with auditEvents := r.shared.database.auditEvents } } })

def Stage.isReturned : Stage → Bool
  | .returned _ => true
  | _ => false

def bySequence (events : List ChainedAuditEvent) : List ChainedAuditEvent :=
  events.mergeSort fun a b => a.sequence ≤ b.sequence

/-- If the event is a failing insert, then the chain is the one that its own append left:
nothing has been appended or put back since. -/
def Undisturbed (D : Digest) (r : Recorder) : Event → Prop
  | .turn index fault =>
    match r.calls[index]? with
    | some (.insert previousChain chained) =>
      (outcome fault (r.shared.database.insertAuditEvent D chained)).isOk = false →
        r.shared.auditChain.events = previousChain.events ++ [chained]
    | _ => True
  | _ => True

/-! ## What is in memory, in flight and stored -/

/-- The event that a call has appended and not yet stored. -/
def Stage.pending : Stage → Option ChainedAuditEvent
  | .insert _ chained => some chained
  | _ => none

/-- The chain in memory consists of what is stored and what is in flight. -/
structure Inv (D : Digest) (r : Recorder) : Prop where
  chain : r.shared.auditChain.Valid D
  seed : r.shared.auditChain.genesisSeed = genesisHash
  previous : ∀ previousChain chained, Stage.insert previousChain chained ∈ r.calls →
    previousChain.Valid D ∧ previousChain.genesisSeed = genesisHash
  events : (r.stored ++ r.calls.filterMap Stage.pending).Perm r.shared.auditChain.events
  fits : ∀ chained ∈ r.stored, chained.sequence.toNat < 2 ^ 63

theorem inv_start (D : Digest) (database : Database) : Inv D (Recorder.start database) where
  chain := new_valid none
  seed := rfl
  previous := by simp [Recorder.start]
  events := .refl _
  fits := by simp [Recorder.start]

/-- The other calls in flight, beside the one at an index. -/
theorem pending_set (calls : List Stage) (index : Nat) (stage next : Stage)
    (h : calls[index]? = some stage) :
    ∃ rest : List ChainedAuditEvent,
      (calls.filterMap Stage.pending).Perm (stage.pending.toList ++ rest) ∧
        ((calls.set index next).filterMap Stage.pending).Perm (next.pending.toList ++ rest) := by
  obtain ⟨hlt, rfl⟩ := List.getElem?_eq_some_iff.mp h
  have hset : ∀ s : Stage, ((calls.set index s).filterMap Stage.pending).Perm
      (s.pending.toList ++
        (calls.take index ++ calls.drop (index + 1)).filterMap Stage.pending) := by
    intro s
    rw [List.set_eq_take_cons_drop s hlt, List.filterMap_append, List.filterMap_cons,
      List.filterMap_append]
    cases s.pending with
    | none => exact .refl _
    | some chained => exact List.perm_middle
  refine ⟨_, ?_, hset next⟩
  have hself := hset calls[index]
  rwa [List.set_getElem_self hlt] at hself

/-- A turn keeps the invariant if it moves events between memory, flight and store without
losing one. -/
theorem inv_of_turn (D : Digest) (r : Recorder) (index : Nat) (stage next : Stage)
    (shared : Shared) (new : List ChainedAuditEvent) (h : Inv D r)
    (hstage : r.calls[index]? = some stage)
    (hchain : shared.auditChain.Valid D ∧ shared.auditChain.genesisSeed = genesisHash)
    (hprevious : ∀ previousChain chained, next = .insert previousChain chained →
      previousChain.Valid D ∧ previousChain.genesisSeed = genesisHash)
    (hmoved : ∀ rest, (stage.pending.toList ++ rest).Perm r.shared.auditChain.events →
      (next.pending.toList ++ (new ++ rest)).Perm shared.auditChain.events)
    (hfits : ∀ chained ∈ new, chained.sequence.toNat < 2 ^ 63) :
    Inv D ⟨shared, r.calls.set index next, r.stored ++ new⟩ := by
  obtain ⟨rest, hbefore, hafter⟩ := pending_set r.calls index stage next hstage
  refine ⟨hchain.1, hchain.2, ?_, ?_, ?_⟩
  · intro previousChain chained hmem
    rcases List.mem_or_eq_of_mem_set hmem with hold | hnew
    · exact h.previous previousChain chained hold
    · exact hprevious previousChain chained hnew.symm
  · have hevents : (stage.pending.toList ++ (r.stored ++ rest)).Perm r.shared.auditChain.events :=
      (List.perm_append_comm_assoc _ _ _).trans ((hbefore.append_left r.stored).symm.trans h.events)
    have hnext := hmoved (r.stored ++ rest) hevents
    calc r.stored ++ new ++ (r.calls.set index next).filterMap Stage.pending
      _ ~ r.stored ++ new ++ (next.pending.toList ++ rest) := hafter.append_left _
      _ ~ next.pending.toList ++ (r.stored ++ new ++ rest) := List.perm_append_comm_assoc _ _ _
      _ ~ next.pending.toList ++ (new ++ (r.stored ++ rest)) := by
        rw [List.append_assoc]
        exact (List.perm_append_comm_assoc _ _ _).append_left _
      _ ~ shared.auditChain.events := hnext
  · intro chained hmem
    rcases List.mem_append.mp hmem with hold | hnew
    · exact h.fits chained hold
    · exact hfits chained hnew

/-- A call in flight keeps the invariant, unless it puts back a chain that others have used. -/
theorem step_turn_inv (D : Digest) (r : Recorder) (index : Nat) (fault : Option String)
    (stage : Stage) (h : Inv D r) (hstage : r.calls[index]? = some stage)
    (hgood : Undisturbed D r (.turn index fault)) : Inv D (step D r (.turn index fault)).2 := by
  simp only [step, hstage]
  cases stage with
  | append event =>
    simp only [turn]
    cases happend : r.shared.auditChain.append D event with
    | error e =>
      exact inv_of_turn D r index _ _ _ [] h hstage ⟨h.chain, h.seed⟩ (by simp)
        (fun rest hrest => hrest) (by simp)
    | ok appended =>
      obtain ⟨chained, chain⟩ := appended
      obtain ⟨hseed, hevents, -, hvalid⟩ := append_ok _ _ _ _ happend
      refine inv_of_turn D r index _ _ _ [] h hstage ⟨hvalid h.chain, hseed.trans h.seed⟩ ?_ ?_
        (by simp)
      · rintro previousChain chained' hsame
        obtain ⟨rfl, -⟩ := Stage.insert.inj hsame
        exact ⟨h.chain, h.seed⟩
      · intro rest hrest
        simp only [hevents]
        exact (hrest.cons chained).trans (List.perm_append_singleton _ _).symm
  | insert previousChain chained =>
    simp only [turn]
    cases hinsert : outcome fault (r.shared.database.insertAuditEvent D chained) with
    | error e =>
      -- The chain put back is the one in memory without this call's own event.
      have hown : r.shared.auditChain.events = previousChain.events ++ [chained] := by
        simp only [Undisturbed, hstage, hinsert] at hgood
        exact hgood rfl
      refine inv_of_turn D r index _ _ _ [] h hstage
        (h.previous previousChain chained (List.mem_of_getElem? hstage)) (by simp) ?_ (by simp)
      intro rest hrest
      rw [hown] at hrest
      exact (hrest.trans (List.perm_append_singleton _ _)).cons_inv
    | ok database =>
      obtain ⟨hfits, -⟩ := insertAuditEvent_ok D _ _ _ (outcome_ok hinsert)
      exact inv_of_turn D r index _ _ _ [chained] h hstage ⟨h.chain, h.seed⟩ (by simp)
        (fun rest hrest => hrest) (by simpa using hfits)
  | sink chained =>
    simp only [turn]
    cases fault with
    | none =>
      exact inv_of_turn D r index _ _ _ [] h hstage ⟨h.chain, h.seed⟩ (by simp)
        (fun rest hrest => hrest) (by simp)
    | some text =>
      exact inv_of_turn D r index _ _ _ [] h hstage ⟨h.chain, h.seed⟩ (by simp)
        (fun rest hrest => hrest) (by simp)
  | returned result =>
    exact inv_of_turn D r index _ _ _ [] h hstage ⟨h.chain, h.seed⟩ (by simp [turn])
      (fun rest hrest => hrest) (by simp)

theorem step_inv (D : Digest) (r : Recorder) (event : Event) (h : Inv D r)
    (hgood : Undisturbed D r event) : Inv D (step D r event).2 := by
  cases event with
  | call event =>
    refine ⟨h.chain, h.seed, ?_, ?_, h.fits⟩
    · intro previousChain chained hmem
      simp only [step, List.mem_append, List.mem_singleton, reduceCtorEq, or_false] at hmem
      exact h.previous previousChain chained hmem
    · have hnone : [Stage.append event].filterMap Stage.pending = [] := rfl
      simpa [step, hnone] using h.events
  | turn index fault =>
    cases hstage : r.calls[index]? with
    | none => simpa [step, hstage] using h
    | some stage => exact step_turn_inv D r index fault stage h hstage hgood
  | others database => exact ⟨h.chain, h.seed, h.previous, h.events, h.fits⟩

/-- Without anything in flight, what is stored is the chain in memory in some order. -/
theorem sorted_stored (D : Digest) (r : Recorder) (h : Inv D r)
    (hdone : ∀ stage ∈ r.calls, stage.isReturned = true) :
    bySequence r.stored = r.shared.auditChain.events := by
  have hquiet : r.calls.filterMap Stage.pending = [] := by
    refine List.filterMap_eq_nil_iff.mpr ?_
    intro stage hstage
    have hreturned := hdone stage hstage
    cases stage with
    | returned result => rfl
    | append event => cases hreturned
    | insert previousChain chained => cases hreturned
    | sink chained => cases hreturned
  have hperm : r.stored.Perm r.shared.auditChain.events := by
    have hevents := h.events
    rwa [hquiet, List.append_nil] at hevents
  obtain ⟨-, hnumbers⟩ := sequence_toNat _ h.chain.verified fun chained hmem =>
    h.fits chained (hperm.mem_iff.mpr hmem)
  have hkey : (fun a b : ChainedAuditEvent => decide (a.sequence ≤ b.sequence)) =
      fun a b => decide (a.sequence.toNat ≤ b.sequence.toNat) := by
    funext a b
    simp only [UInt64.le_iff_toNat_le]
  rw [bySequence, hkey]
  refine mergeSort_of_perm (fun chained => chained.sequence.toNat) _ _ ?_ hperm
  rw [hnumbers]
  exact List.pairwise_lt_range'

/-- In every run in which no failing insert puts back a chain that others have used since, the
stored events make a valid chain whenever all calls have returned. -/
theorem stored_chain_verifies (D : Digest) (database : Database) (events : List Event)
    (hgood : ∀ before event, before ++ [event] <+: events →
      Undisturbed D (Mealy.after (step D) (Recorder.start database) before) event)
    (hdone : ∀ stage ∈ (Mealy.after (step D) (Recorder.start database) events).calls,
      stage.isReturned = true) :
    verifyChain D (bySequence (Mealy.after (step D) (Recorder.start database) events).stored) none =
      .ok () := by
  have hinv := Mealy.after_invariant_of (step_inv D) (Recorder.start database) events
    (inv_start D database) hgood
  rw [sorted_stored D _ hinv hdone, verifyChain, Option.getD_none, ← hinv.seed]
  exact hinv.chain.verified

def sampleDigest : Digest := ⟨ControlEncoding.canonicalJson, Blake3.blake3⟩

def acme : EntityId.TenantId := ControlGrants.organization

/-- A user logs in. -/
def login (eventId : String) : AuditEvent where
  eventId := eventId
  timestamp := 2000
  organizationId := acme
  userId := none
  deviceId := none
  sessionId := none
  eventType := .userLogin
  metadata := .null

/-- Two calls append, then the insert of the first one fails. -/
def overtaken : List Event :=
  [.call (login "evt-a"), .call (login "evt-b"), .turn 0 none, .turn 1 none,
    .turn 0 (some "disk I/O error"), .turn 1 none, .turn 1 none]

/-- The second event is stored as number two of a chain that has no number one. -/
theorem overtaken_insert_breaks_chain :
    (∀ stage ∈ (Mealy.after (step sampleDigest) (Recorder.start .empty) overtaken).calls,
      stage.isReturned = true) ∧
    verifyChain sampleDigest
      (bySequence (Mealy.after (step sampleDigest) (Recorder.start .empty) overtaken).stored) none ≠
        .ok () := by
  refine ⟨by decide +kernel, ?_⟩
  have hnumbers : (Mealy.after (step sampleDigest) (Recorder.start .empty) overtaken).stored.map
      ChainedAuditEvent.sequence = [2] := by
    decide +kernel
  obtain ⟨chained, hstored, hsequence⟩ := List.map_eq_singleton_iff.mp hnumbers
  rw [hstored, bySequence, List.mergeSort_singleton, verifyChain]
  intro hverified
  have hfirst := ((verifyFrom_cons _ _).mp hverified).1.sequence
  rw [hsequence] at hfirst
  exact absurd hfirst (by decide)

/-- One insert fails while its call is alone, the next one succeeds. -/
def retried : List Event :=
  [.call (login "evt-a"), .turn 0 none, .turn 0 (some "disk I/O error"), .call (login "evt-b"),
    .turn 1 none, .turn 1 none, .turn 1 none]

theorem stored_chain_verifies_retried :
    verifyChain sampleDigest
      (bySequence (Mealy.after (step sampleDigest) (Recorder.start .empty) retried).stored) none =
        .ok () := by
  refine stored_chain_verifies sampleDigest .empty retried ?_ (by decide +kernel)
  simp only [retried, Mealy.along_cons]
  exact ⟨trivial, trivial, fun _ => rfl, trivial, trivial, fun h => absurd h (by decide +kernel),
    trivial, by simp⟩

end AuditRecording
