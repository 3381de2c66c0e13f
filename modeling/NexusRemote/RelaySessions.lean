import NexusRemote.Mealy
import NexusRemote.RelayTokens
import NexusRemote.Tables

/-!
# The session table of a relay (`apps/nexus-relay/src/session.rs`)

The table maps a session identifier to a shared session object. An object stays
alive behind its reference after it has left the table, so the objects are kept
in the order of their creation, and a reference is a position in that order.
-/

namespace RelaySessions

open EntityId RelayTokens

inductive SessionPairingError where
  | roleAlreadyConnected
  | identityMismatch
  | expired
  deriving DecidableEq, Repr

def SessionPairingError.message : SessionPairingError → String
  | roleAlreadyConnected => "endpoint role already connected for session"
  | identityMismatch => "session has incompatible endpoint identities"
  | expired => "session token expired"

structure SessionState where
  client : Bool := false
  host : Bool := false
  terminated : Bool := false
  deriving DecidableEq, Repr

/-- The flag of a role. -/
def SessionState.slot (state : SessionState) : EndpointRole → Bool
  | .client => state.client
  | .host => state.host

def SessionState.fill (state : SessionState) : EndpointRole → SessionState
  | .client => { state with client := true }
  | .host => { state with host := true }

structure RelaySession where
  sessionId : SessionId
  clientDeviceId : String
  targetDeviceId : String
  state : SessionState
  deriving DecidableEq

def RelaySession.new (token : RelayToken) : RelaySession :=
  ⟨token.sessionId, token.clientDeviceId.value, token.targetDeviceId.value, {}⟩

/-- An `Arc<RelaySession>`. -/
abbrev SessionRef := Nat

structure RelaySessionTable where
  sessions : Std.TreeMap String SessionRef
  created : List RelaySession
  valid : ∀ id ref, sessions[id]? = some ref →
    ∃ session : RelaySession, created[ref]? = some session ∧ session.sessionId.value = id

def RelaySessionTable.new : RelaySessionTable := ⟨∅, [], by simp⟩

/-- Changes the state of a session object. -/
def RelaySessionTable.setState (t : RelaySessionTable) (ref : SessionRef) (state : SessionState) :
    RelaySessionTable where
  sessions := t.sessions
  created := t.created.modify ref fun session => { session with state := state }
  valid := by
    intro id ref' h
    obtain ⟨session, hsession, hid⟩ := t.valid id ref' h
    by_cases hsame : ref = ref'
    · exact ⟨{ session with state := state }, by simp [hsame, hsession], hid⟩
    · exact ⟨session, by simp [hsame, hsession], hid⟩

/-- Creates a session object and enters it. -/
def RelaySessionTable.insert (t : RelaySessionTable) (session : RelaySession) : RelaySessionTable where
  sessions := t.sessions.insert session.sessionId.value t.created.length
  created := t.created ++ [session]
  valid := by
    intro id ref h
    obtain ⟨rfl, rfl⟩ | ⟨-, h⟩ := Tables.getElem?_insert_cases _ _ _ _ _ h
    · exact ⟨session, by simp, rfl⟩
    · obtain ⟨old, hold, hid⟩ := t.valid id ref h
      exact ⟨old, by rw [List.getElem?_append_left (List.getElem?_eq_some_iff.mp hold).1, hold], hid⟩

theorem RelaySessionTable.ref_lt (t : RelaySessionTable) (id : String) (ref : SessionRef)
    (h : t.sessions[id]? = some ref) : ref < t.created.length := by
  obtain ⟨session, hsession, -⟩ := t.valid id ref h
  exact (List.getElem?_eq_some_iff.mp hsession).1

/-- The entry of a token's session, created if it is not there. -/
def RelaySessionTable.entry (t : RelaySessionTable) (token : RelayToken) :
    SessionRef × RelaySession × RelaySessionTable :=
  match h : t.sessions[token.sessionId.value]? with
  | some ref => (ref, t.created.get ⟨ref, t.ref_lt _ ref h⟩, t)
  | none =>
    let session := RelaySession.new token
    (t.created.length, session, t.insert session)

def RelaySessionTable.removeSession (t : RelaySessionTable) (id : SessionId) : RelaySessionTable where
  sessions := t.sessions.erase id.value
  created := t.created
  valid := by
    intro id' ref h
    exact t.valid id' ref (Tables.getElem?_of_erase _ _ _ _ h).2

/-- The reference and whether both endpoints are there now. -/
def RelaySessionTable.registerOrJoin (t : RelaySessionTable) (token : RelayToken) (now : UInt64) :
    Except SessionPairingError (SessionRef × Bool) × RelaySessionTable :=
  if token.expiresAt ≤ now then (.error .expired, t)
  else
    let (ref, session, all) := t.entry token
    if session.clientDeviceId ≠ token.clientDeviceId.value ∨
        session.targetDeviceId ≠ token.targetDeviceId.value then
      (.error .identityMismatch, all)
    else if session.state.slot token.role then (.error .roleAlreadyConnected, all)
    else
      let state := session.state.fill token.role
      (.ok (ref, state.client && state.host), all.setState ref state)

/-- `terminate`, at the end of the forwarding. -/
def RelaySessionTable.terminate (t : RelaySessionTable) (ref : SessionRef) : RelaySessionTable :=
  match t.created[ref]? with
  | none => t
  | some session => t.setState ref { session.state with terminated := true }

/-! ## What a registration does -/

/-- A new session with its first endpoint. -/
def RelaySessionTable.opened (t : RelaySessionTable) (token : RelayToken) : RelaySessionTable :=
  (t.insert (RelaySession.new token)).setState t.created.length
    (SessionState.fill {} token.role)

theorem opened_created (t : RelaySessionTable) (token : RelayToken) :
    (t.opened token).created =
      t.created ++ [{ RelaySession.new token with state := SessionState.fill {} token.role }] := by
  simp only [RelaySessionTable.opened, RelaySessionTable.setState, RelaySessionTable.insert]
  rw [List.modify_eq_set_getElem?]
  simp

/-- A token fits a session that it may join. -/
structure Joins (session : RelaySession) (token : RelayToken) : Prop where
  client : session.clientDeviceId = token.clientDeviceId.value
  target : session.targetDeviceId = token.targetDeviceId.value
  free : session.state.slot token.role = false

theorem fill_paired (state : SessionState) (role : EndpointRole) :
    ((state.fill role).client && (state.fill role).host) = state.slot role.peer := by
  cases role <;> simp [SessionState.fill, SessionState.slot, EndpointRole.peer]

theorem entry_some (t : RelaySessionTable) (token : RelayToken) (ref : SessionRef)
    (session : RelaySession) (href : t.sessions[token.sessionId.value]? = some ref)
    (hsession : t.created[ref]? = some session) : t.entry token = (ref, session, t) := by
  unfold RelaySessionTable.entry
  split
  · rename_i ref' href'
    obtain rfl : ref' = ref := Option.some.inj (href'.symm.trans href)
    obtain ⟨hlt, rfl⟩ := List.getElem?_eq_some_iff.mp hsession
    rfl
  · rename_i hnone
    rw [hnone] at href
    cases href

theorem entry_none (t : RelaySessionTable) (token : RelayToken)
    (h : t.sessions[token.sessionId.value]? = none) :
    t.entry token = (t.created.length, RelaySession.new token, t.insert (RelaySession.new token)) := by
  unfold RelaySessionTable.entry
  split
  · rename_i ref href
    rw [h] at href
    cases href
  · rfl

/-- A session that is not there is opened. -/
theorem registerOrJoin_none (t : RelaySessionTable) (token : RelayToken) (now : UInt64)
    (hnow : now < token.expiresAt) (hnone : t.sessions[token.sessionId.value]? = none) :
    t.registerOrJoin token now = (.ok (t.created.length, false), t.opened token) := by
  unfold RelaySessionTable.registerOrJoin
  rw [if_neg (UInt64.not_le.mpr hnow), entry_none t token hnone]
  -- The new entry has the token's own identities and no endpoint, so nothing is refused.
  cases hrole : token.role <;>
    simp [RelaySession.new, SessionState.slot, SessionState.fill, RelaySessionTable.opened, hrole]

theorem registerOrJoin_joins (t : RelaySessionTable) (token : RelayToken) (now : UInt64)
    (ref : SessionRef) (session : RelaySession) (hnow : now < token.expiresAt)
    (href : t.sessions[token.sessionId.value]? = some ref)
    (hsession : t.created[ref]? = some session) (hjoins : Joins session token) :
    t.registerOrJoin token now = (.ok (ref, session.state.slot token.role.peer),
      t.setState ref (session.state.fill token.role)) := by
  unfold RelaySessionTable.registerOrJoin
  rw [if_neg (UInt64.not_le.mpr hnow), entry_some t token ref session href hsession]
  simp only [hjoins.client, hjoins.target, hjoins.free, fill_paired, ne_eq, not_true, or_self,
    if_false, Bool.false_eq_true]

/-- Everything that a registration can do. A refusal leaves the table and all sessions alone. -/
theorem registerOrJoin_cases (t : RelaySessionTable) (token : RelayToken) (now : UInt64) :
    (∃ e, t.registerOrJoin token now = (.error e, t)) ∨
      (now < token.expiresAt ∧ t.sessions[token.sessionId.value]? = none ∧
        t.registerOrJoin token now = (.ok (t.created.length, false), t.opened token)) ∨
      (now < token.expiresAt ∧ ∃ ref session, t.sessions[token.sessionId.value]? = some ref ∧
        t.created[ref]? = some session ∧ Joins session token ∧
        t.registerOrJoin token now = (.ok (ref, session.state.slot token.role.peer),
          t.setState ref (session.state.fill token.role))) := by
  by_cases hexpired : token.expiresAt ≤ now
  · exact .inl ⟨_, if_pos hexpired⟩
  · have hnow : now < token.expiresAt := UInt64.not_le.mp hexpired
    cases hentry : t.sessions[token.sessionId.value]? with
    | none => exact .inr (.inl ⟨hnow, rfl, registerOrJoin_none t token now hnow hentry⟩)
    | some ref =>
      obtain ⟨session, hsession, -⟩ := t.valid _ ref hentry
      by_cases hjoins : Joins session token
      · exact .inr (.inr ⟨hnow, ref, session, rfl, hsession, hjoins,
          registerOrJoin_joins t token now ref session hnow hentry hsession hjoins⟩)
      · left
        unfold RelaySessionTable.registerOrJoin
        rw [if_neg hexpired, entry_some t token ref session hentry hsession]
        simp only
        split
        · exact ⟨_, rfl⟩
        · rename_i hidentity
          rw [not_or, not_not, not_not] at hidentity
          rw [if_pos]
          · exact ⟨_, rfl⟩
          · by_contra hfree
            exact hjoins ⟨hidentity.1, hidentity.2, Bool.eq_false_iff.mpr hfree⟩

theorem registerOrJoin_error (t : RelaySessionTable) (token : RelayToken) (now : UInt64)
    (e : SessionPairingError) (h : (t.registerOrJoin token now).1 = .error e) :
    (t.registerOrJoin token now).2 = t := by
  obtain ⟨_, hcase⟩ | ⟨-, -, hcase⟩ | ⟨-, ref, session, -, -, -, hcase⟩ :=
    registerOrJoin_cases t token now
  · rw [hcase]
  · rw [hcase] at h
    cases h
  · rw [hcase] at h
    cases h

/-! ## One session among the others -/

/-- The entry of a session and the object behind it are as they were. -/
structure Unchanged (id : String) (t t' : RelaySessionTable) : Prop where
  entry : t'.sessions[id]? = t.sessions[id]?
  object : ∀ ref, t.sessions[id]? = some ref → t'.created[ref]? = t.created[ref]?

theorem setState_unchanged (t : RelaySessionTable) (id : String) (ref : SessionRef)
    (state : SessionState) (h : ∀ session, t.created[ref]? = some session →
      session.sessionId.value ≠ id) : Unchanged id t (t.setState ref state) where
  entry := rfl
  object := by
    intro ref' href'
    obtain ⟨session, hsession, hid⟩ := t.valid id ref' href'
    have hne : ref ≠ ref' := by
      rintro rfl
      exact h session hsession hid
    simp [RelaySessionTable.setState, hne]

theorem removeSession_unchanged (t : RelaySessionTable) (id : String) (other : SessionId)
    (h : other.value ≠ id) : Unchanged id t (t.removeSession other) where
  entry := Tables.getElem?_erase_of_ne _ h
  object := fun _ _ => rfl

theorem opened_unchanged (t : RelaySessionTable) (id : String) (token : RelayToken)
    (h : token.sessionId.value ≠ id) : Unchanged id t (t.opened token) where
  entry := by
    simp only [RelaySessionTable.opened, RelaySessionTable.setState, RelaySessionTable.insert,
      RelaySession.new]
    exact Tables.getElem?_insert_of_ne _ _ h
  object := by
    intro ref href
    rw [opened_created, List.getElem?_append_left (t.ref_lt id ref href)]

/-- A registration concerns only the session of its token. -/
theorem registerOrJoin_unchanged (t : RelaySessionTable) (id : String) (token : RelayToken)
    (now : UInt64) (h : token.sessionId.value ≠ id) :
    Unchanged id t (t.registerOrJoin token now).2 := by
  obtain ⟨_, hcase⟩ | ⟨-, -, hcase⟩ | ⟨-, ref, session, href, hsession, -, hcase⟩ :=
    registerOrJoin_cases t token now
  · rw [hcase]
    exact ⟨rfl, fun _ _ => rfl⟩
  · rw [hcase]
    exact opened_unchanged t id token h
  · rw [hcase]
    refine setState_unchanged t id ref _ ?_
    intro session' hsession'
    obtain ⟨own, hown, hid⟩ := t.valid _ ref href
    rw [hown] at hsession'
    obtain rfl := Option.some.inj hsession'
    rwa [hid]

theorem opened_entry (t : RelaySessionTable) (token : RelayToken) :
    (t.opened token).sessions[token.sessionId.value]? = some t.created.length ∧
      (t.opened token).created[t.created.length]? =
        some { RelaySession.new token with state := SessionState.fill {} token.role } := by
  simp [RelaySessionTable.opened, RelaySessionTable.setState, RelaySessionTable.insert,
    RelaySession.new]

theorem setState_object (t : RelaySessionTable) (ref : SessionRef) (session : RelaySession)
    (state : SessionState) (h : t.created[ref]? = some session) :
    (t.setState ref state).created[ref]? = some { session with state := state } := by
  simp [RelaySessionTable.setState, h]

/-! ## Runs of calls -/

inductive Call where
  | registerOrJoin (token : RelayToken) (now : UInt64)
  | removeSession (id : SessionId)

inductive Reply where
  | registered (token : RelayToken) (ref : SessionRef) (isPaired : Bool)
  | refused (token : RelayToken) (e : SessionPairingError)
  | removed

def step (t : RelaySessionTable) : Call → Reply × RelaySessionTable
  | .registerOrJoin token now =>
    match t.registerOrJoin token now with
    | (.ok (ref, isPaired), t') => (.registered token ref isPaired, t')
    | (.error e, t') => (.refused token e, t')
  | .removeSession id => (.removed, t.removeSession id)

/-- The successful registration of a session that a reply reports. -/
def Reply.success (id : SessionId) : Reply → Option (RelayToken × Bool)
  | .registered token _ isPaired => if token.sessionId = id then some (token, isPaired) else none
  | _ => none

/-- The registrations of a session since it was last removed, as its entry shows them. -/
inductive Joined (t : RelaySessionTable) (id : SessionId) : List (RelayToken × Bool) → Prop where
  | nobody (hentry : t.sessions[id.value]? = none) : Joined t id []
  | one (token : RelayToken) (ref : SessionRef) (session : RelaySession)
      (hentry : t.sessions[id.value]? = some ref) (hsession : t.created[ref]? = some session)
      (hclient : session.clientDeviceId = token.clientDeviceId.value)
      (htarget : session.targetDeviceId = token.targetDeviceId.value)
      (hslot : session.state.slot token.role = true)
      (hfree : session.state.slot token.role.peer = false) : Joined t id [(token, false)]
  | both (first second : RelayToken) (ref : SessionRef) (session : RelaySession)
      (hentry : t.sessions[id.value]? = some ref) (hsession : t.created[ref]? = some session)
      (hclient : first.clientDeviceId = second.clientDeviceId)
      (htarget : first.targetDeviceId = second.targetDeviceId)
      (hroles : second.role = first.role.peer) (hslots : ∀ role, session.state.slot role = true) :
      Joined t id [(first, false), (second, true)]

theorem joined_unchanged (t t' : RelaySessionTable) (id : SessionId) (done : List (RelayToken × Bool))
    (h : Joined t id done) (hsame : Unchanged id.value t t') : Joined t' id done := by
  cases h with
  | nobody hentry => exact .nobody (hsame.entry.trans hentry)
  | one token ref session hentry hsession hclient htarget hslot hfree =>
    exact .one token ref session (hsame.entry.trans hentry) ((hsame.object ref hentry).trans hsession)
      hclient htarget hslot hfree
  | both first second ref session hentry hsession hclient htarget hroles hslots =>
    exact .both first second ref session (hsame.entry.trans hentry)
      ((hsame.object ref hentry).trans hsession) hclient htarget hroles hslots

theorem slot_fill (state : SessionState) (role : EndpointRole) :
    (state.fill role).slot role = true ∧ (state.fill role).slot role.peer = state.slot role.peer := by
  cases role <;> exact ⟨rfl, rfl⟩

theorem eq_or_peer (role other : EndpointRole) : other = role ∨ other = role.peer := by
  cases role <;> cases other <;> simp [EndpointRole.peer]

/-- A registration of the session itself. -/
theorem register_joined (t : RelaySessionTable) (token : RelayToken) (now : UInt64)
    (done : List (RelayToken × Bool)) (h : Joined t token.sessionId done) :
    Joined (step t (.registerOrJoin token now)).2 token.sessionId
      (done ++ ((step t (.registerOrJoin token now)).1.success token.sessionId).toList) := by
  obtain ⟨_, hcase⟩ | ⟨-, hnone, hcase⟩ | ⟨-, ref, session, href, hsession, hjoins, hcase⟩ :=
    registerOrJoin_cases t token now
  · simpa [step, hcase, Reply.success] using h
  · simp only [step, hcase, Reply.success, if_true, Option.toList_some]
    cases h with
    | nobody hentry =>
      obtain ⟨hentry', hobject⟩ := opened_entry t token
      obtain ⟨hslot, hfree⟩ := slot_fill {} token.role
      refine .one token t.created.length _ hentry' hobject rfl rfl hslot ?_
      rw [hfree]
      cases token.role <;> rfl
    | one _ _ _ hentry => rw [hnone] at hentry; cases hentry
    | both _ _ _ _ hentry => rw [hnone] at hentry; cases hentry
  · simp only [step, hcase, Reply.success, if_true, Option.toList_some]
    have hobject := setState_object t ref session (session.state.fill token.role) hsession
    obtain ⟨hslot, hkept⟩ := slot_fill session.state token.role
    cases h with
    | nobody hentry => rw [hentry] at href; cases href
    | one first ref' session' hentry hsession' hclient htarget hfirst hfree =>
      obtain rfl : ref' = ref := Option.some.inj (hentry.symm.trans href)
      obtain rfl : session' = session := Option.some.inj (hsession'.symm.trans hsession)
      -- The first endpoint holds its own slot, so this one has the other role.
      have hrole : token.role = first.role.peer := by
        refine (eq_or_peer first.role token.role).resolve_left ?_
        intro hsame
        rw [← hsame, hjoins.free] at hfirst
        cases hfirst
      have hpeer : token.role.peer = first.role := by
        rw [hrole]
        cases first.role <;> rfl
      rw [hpeer, hfirst]
      refine .both first token ref' _ href hobject
        (Id.eq_of_value _ _ (hclient.symm.trans hjoins.client))
        (Id.eq_of_value _ _ (htarget.symm.trans hjoins.target)) hrole ?_
      intro role
      rcases eq_or_peer token.role role with rfl | rfl
      · exact hslot
      · rw [hkept, hpeer, hfirst]
    | both first second ref' session' hentry hsession' hclient htarget hroles hslots =>
      obtain rfl : ref' = ref := Option.some.inj (hentry.symm.trans href)
      obtain rfl : session' = session := Option.some.inj (hsession'.symm.trans hsession)
      have hfree := hjoins.free
      rw [hslots] at hfree
      cases hfree

/-- One call, unless it removes the session. -/
theorem step_joined (t : RelaySessionTable) (id : SessionId) (call : Call)
    (done : List (RelayToken × Bool)) (h : Joined t id done) (hcall : call ≠ .removeSession id) :
    Joined (step t call).2 id (done ++ ((step t call).1.success id).toList) := by
  cases call with
  | registerOrJoin token now =>
    by_cases hid : token.sessionId = id
    · subst hid
      exact register_joined t token now done h
    · have hvalue : token.sessionId.value ≠ id.value := fun hsame => hid (Id.eq_of_value _ _ hsame)
      have hsame := registerOrJoin_unchanged t id.value token now hvalue
      have hnone : (step t (.registerOrJoin token now)).1.success id = none := by
        simp only [step]
        split <;> simp [Reply.success, hid]
      have htable : (step t (.registerOrJoin token now)).2 = (t.registerOrJoin token now).2 := by
        simp only [step]
        split <;> simp [*]
      rw [hnone, htable, Option.toList_none, List.append_nil]
      exact joined_unchanged t _ id done h hsame
  | removeSession other =>
    have hvalue : other.value ≠ id.value := by
      intro hsame
      exact hcall (congrArg Call.removeSession (Id.eq_of_value _ _ hsame))
    simpa [step, Reply.success] using
      joined_unchanged t _ id done h (removeSession_unchanged t id.value other hvalue)

/-- The registrations of a run without a removal of the session. -/
theorem run_joined (t : RelaySessionTable) (id : SessionId) (calls : List Call)
    (done : List (RelayToken × Bool)) (h : Joined t id done)
    (hcalls : ∀ call ∈ calls, call ≠ .removeSession id) :
    Joined (Mealy.after step t calls) id
      (done ++ (Mealy.trace step t calls).filterMap (Reply.success id)) := by
  induction calls generalizing t done with
  | nil => simpa using h
  | cons call calls ih =>
    simp only [List.forall_mem_cons] at hcalls
    have hnext := ih (step t call).2 _ (step_joined t id call done h hcalls.1) hcalls.2
    rw [List.append_assoc] at hnext
    rw [Mealy.after_cons, Mealy.trace_cons]
    cases hsuccess : (step t call).1.success id with
    | none => simpa [hsuccess] using hnext
    | some registration => simpa [hsuccess] using hnext

/-- What the registrations between two removals of a session look like. -/
structure PairedOnce (registrations : List (RelayToken × Bool)) : Prop where
  client : registrations.countP (fun r => r.1.role = .client) ≤ 1
  host : registrations.countP (fun r => r.1.role = .host) ≤ 1
  identities : ∀ a ∈ registrations, ∀ b ∈ registrations,
    a.1.clientDeviceId = b.1.clientDeviceId ∧ a.1.targetDeviceId = b.1.targetDeviceId
  isPaired : registrations.map Prod.snd = [false, true].take registrations.length

theorem joined_pairedOnce (t : RelaySessionTable) (id : SessionId) (done : List (RelayToken × Bool))
    (h : Joined t id done) : PairedOnce done := by
  cases h with
  | nobody hentry => exact ⟨by simp, by simp, by simp, rfl⟩
  | one token ref session hentry hsession hclient htarget hslot hfree =>
    refine ⟨?_, ?_, by simp, rfl⟩
    · exact List.countP_le_length
    · exact List.countP_le_length
  | both first second ref session hentry hsession hclient htarget hroles hslots =>
    refine ⟨?_, ?_, ?_, rfl⟩
    · cases hrole : first.role <;> simp [hrole, hroles, EndpointRole.peer]
    · cases hrole : first.role <;> simp [hrole, hroles, EndpointRole.peer]
    · simp [hclient, htarget]

/-- In every run of calls: since a session was removed, or since the start, at most one endpoint
of each role has registered, both with the same identities, the first unpaired and the second
paired; and a call that fails changes nothing. -/
theorem pairing_invariant (id : SessionId) (before calls : List Call)
    (hstart : ∀ call ∈ before.getLast?, call = .removeSession id)
    (hcalls : ∀ call ∈ calls, call ≠ .removeSession id) :
    PairedOnce ((Mealy.trace step (Mealy.after step .new before) calls).filterMap
        (Reply.success id)) ∧
      ∀ token now e,
        ((Mealy.after step .new (before ++ calls)).registerOrJoin token now).1 = .error e →
          ((Mealy.after step .new (before ++ calls)).registerOrJoin token now).2 =
            Mealy.after step .new (before ++ calls) := by
  have hnobody : Joined (Mealy.after step .new before) id [] := by
    rcases List.eq_nil_or_concat' before with rfl | ⟨init, last, rfl⟩
    · exact .nobody (by simp [RelaySessionTable.new])
    · obtain rfl := hstart last (by simp)
      rw [Mealy.after_concat]
      exact .nobody (by simp [step, RelaySessionTable.removeSession])
  have hjoined := run_joined _ id calls [] hnobody hcalls
  rw [List.nil_append] at hjoined
  exact ⟨joined_pairedOnce _ id _ hjoined, fun token now e => registerOrJoin_error _ token now e⟩

def sampleId : SessionId := ⟨"sess-1", by decide⟩

/-- A token for one session. -/
def tokenFor (role : EndpointRole) : RelayToken :=
  ⟨sampleId, "relay-1", ⟨"dev-client-1", by decide⟩, ⟨"dev-host-1", by decide⟩, role, 2120, []⟩

/-- A client comes and goes; then both endpoints register, and the client once more. -/
theorem pairing_invariant_reopened :
    let before : List Call := [.registerOrJoin (tokenFor .client) 2000, .removeSession sampleId]
    let calls : List Call := [.registerOrJoin (tokenFor .client) 2001,
      .registerOrJoin (tokenFor .host) 2002, .registerOrJoin (tokenFor .client) 2003]
    (Mealy.trace step (Mealy.after step .new before) calls).filterMap (Reply.success sampleId) =
        [(tokenFor .client, false), (tokenFor .host, true)] ∧
      PairedOnce [(tokenFor .client, false), (tokenFor .host, true)] := by
  intro before calls
  have hsuccesses : (Mealy.trace step (Mealy.after step .new before) calls).filterMap
      (Reply.success sampleId) = [(tokenFor .client, false), (tokenFor .host, true)] := by
    decide +kernel
  have hpaired := (pairing_invariant sampleId before calls (by simp [before])
    (by simp [calls])).1
  rw [hsuccesses] at hpaired
  exact ⟨hsuccesses, hpaired⟩

end RelaySessions
