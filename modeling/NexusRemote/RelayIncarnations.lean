import NexusRemote.RelayTurns

/-!
# Whose entries a handler removes

`remove_session` and the removal from `waiting_peers` go by the session's
identifier alone. After an await the entry under it may be that of a later
registration, with a session object of its own.
-/

namespace RelayIncarnations

open EntityId RelayTokens RelayServer
open RelaySessions hiding step

/-- What task `i` removes next, if it is about to remove something, is its own: the session object
that it has registered with, the entry that it has inserted, or the entry of the first endpoint of
the session object that it has joined. -/
structure CleansOwn (r : Relay) (i : TaskId) : Prop where
  session : ∀ reg close ref, r.phase i = .unregister reg close →
    r.table.sessions[reg.id]? = some ref → ref = reg.session
  entry : ∀ reg peer, r.phase i = .leaving reg → r.waitingPeers[reg.id]? = some peer → peer.task = i
  taken : ∀ reg peer, r.phase i = .take reg → r.waitingPeers[reg.id]? = some peer →
    ∃ first, (r.phase peer.task).registration = some first ∧ first.session = reg.session

/-- A session is opened only when nothing is left under its identifier: no entry in
`waiting_peers` and no task that may still remove something. -/
def OpensAlone (V : RelayTokenVerifier) (r : Relay) : Event → Prop
  | .turn i (.token token now) =>
    r.phase i = .handshake → V.verify token now = .ok () →
      r.table.sessions[token.sessionId.value]? = none →
        r.waitingPeers[token.sessionId.value]? = none ∧
          ∀ j reg, (r.phase j).active = some reg → reg.id ≠ token.sessionId.value
  | _ => True

/-! ## One incarnation at a time -/

/-- The relay still refers to a session object under an identifier. -/
inductive Refers (r : Relay) (id : String) : SessionRef → Prop where
  | table (ref : SessionRef) (href : r.table.sessions[id]? = some ref) : Refers r id ref
  | task (i : TaskId) (reg : Registration) (hreg : (r.phase i).active = some reg)
      (hid : reg.id = id) : Refers r id reg.session
  | waiting (peer : WaitingPeer) (reg : Registration) (hpeer : r.waitingPeers[id]? = some peer)
      (hreg : (r.phase peer.task).registration = some reg) : Refers r id reg.session

structure Separate (r : Relay) : Prop where
  single : ∀ id ref ref', Refers r id ref → Refers r id ref' → ref = ref'
  fits : ∀ i, (r.phase i).Fits
  known : ∀ i reg, (r.phase i).registration = some reg → reg.session < r.table.created.length
  -- A session object has the endpoint that has created it.
  filled : ∀ slot ∈ r.table.created.map (fun session => session.state.slot), ∃ role, slot role = true
  unique : ∀ i j reg reg', (r.phase i).registration = some reg →
    (r.phase j).registration = some reg' → reg.isPaired = false → reg'.isPaired = false →
      reg.session = reg'.session → i = j
  owner : ∀ (id : String) peer, r.waitingPeers[id]? = some peer →
    ∃ reg, (r.phase peer.task).registration = some reg ∧ reg.id = id ∧ reg.isPaired = false

theorem separate_new : Separate .new where
  single := by
    intro id ref ref' h
    cases h with
    | table _ href => simp [Relay.new, RelaySessionTable.new] at href
    | task i reg hreg => simp [Relay.new, Relay.phase, Phase.active, Phase.registration] at hreg
    | waiting peer reg hpeer => simp [Relay.new] at hpeer
  fits _ := trivial
  known i reg h := by simp [Relay.new, Relay.phase, Phase.registration] at h
  filled := by simp [Relay.new, RelaySessionTable.new]
  unique i j reg reg' h := by simp [Relay.new, Relay.phase, Phase.registration] at h
  owner := by simp [Relay.new]

theorem separate_cleansOwn (r : Relay) (h : Separate r) (i : TaskId) : CleansOwn r i where
  session reg close ref hphase href :=
    h.single reg.id _ _ (.table ref href) (.task i reg (by rw [hphase]; rfl) rfl)
  entry reg peer hphase hpeer := by
    obtain ⟨first, hfirst, -, hunpaired⟩ := h.owner _ peer hpeer
    have hfits := h.fits i
    rw [hphase] at hfits
    have hsession := h.single reg.id _ _ (.waiting peer first hpeer hfirst)
      (.task i reg (by rw [hphase]; rfl) rfl)
    exact h.unique _ _ first reg hfirst (by rw [hphase]; rfl) hunpaired hfits hsession
  taken reg peer hphase hpeer := by
    obtain ⟨first, hfirst, -, -⟩ := h.owner _ peer hpeer
    exact ⟨first, hfirst, h.single reg.id _ _ (.waiting peer first hpeer hfirst)
      (.task i reg (by rw [hphase]; rfl) rfl)⟩

/-! ## Every turn keeps them apart -/

section Steps

variable {r r' : Relay} {i : TaskId}

/-- A turn after the registration makes the relay refer to nothing new. -/
theorem refers_of_proceeds (h : Proceeds r i r') (id : String) (ref : SessionRef)
    (href : Refers r' id ref) : Refers r id ref := by
  cases href with
  | table _ href => exact .table ref (h.sessions id ref href)
  | task j reg hreg hid => exact .task j reg (h.active j reg hreg) hid
  | waiting peer reg hpeer hreg =>
    rw [h.registration] at hreg
    rcases h.waiting id peer hpeer with hold | ⟨own, hphase, hid, rfl⟩
    · exact .waiting peer reg hold hreg
    · rw [hphase] at hreg
      obtain rfl := Option.some.inj hreg
      exact .task i own (by rw [hphase]; rfl) hid

theorem separate_proceeds (hr : Separate r) (h : Proceeds r i r') : Separate r' where
  single id ref ref' href href' :=
    hr.single id ref ref' (refers_of_proceeds h id ref href) (refers_of_proceeds h id ref' href')
  fits := h.fits hr.fits
  known j reg hreg := by
    have hlength : r'.table.created.length = r.table.created.length := by
      simpa using congrArg List.length h.slots
    rw [h.registration] at hreg
    rw [hlength]
    exact hr.known j reg hreg
  filled := by
    rw [h.slots]
    exact hr.filled
  unique j k reg reg' hj hk := by
    rw [h.registration] at hj hk
    exact hr.unique j k reg reg' hj hk
  owner id peer hpeer := by
    rw [h.registration]
    rcases h.waiting id peer hpeer with hold | ⟨own, hphase, hid, rfl⟩
    · exact hr.owner id peer hold
    · have hfits := hr.fits i
      rw [hphase] at hfits
      exact ⟨own, by rw [hphase]; rfl, hid, hfits⟩

/-- A task that has not registered owns no entry. -/
theorem owner_ne (hr : Separate r) (hstart : r.phase i = .handshake) (id : String) (peer : WaitingPeer)
    (hpeer : r.waitingPeers[id]? = some peer) : peer.task ≠ i := by
  rintro rfl
  obtain ⟨reg, hreg, -⟩ := hr.owner id peer hpeer
  rw [hstart] at hreg
  cases hreg

/-- A registration leaves the entries to their owners. -/
theorem owner_of_goes (hr : Separate r) (hstart : r.phase i = .handshake) {table : RelaySessionTable}
    {phase : Phase} (h : Goes { r with table := table } i phase r') (id : String) (peer : WaitingPeer)
    (hpeer : r'.waitingPeers[id]? = some peer) :
    ∃ reg, (r'.phase peer.task).registration = some reg ∧ reg.id = id ∧ reg.isPaired = false := by
  rw [h.waitingPeers] at hpeer
  rw [h.other _ (owner_ne hr hstart id peer hpeer)]
  exact hr.owner id peer hpeer

/-- After a registration with a session object, every registration is with an object created. -/
theorem known_of_goes (hr : Separate r) {table : RelaySessionTable} {phase : Phase} {own : Registration}
    (h : Goes { r with table := table } i phase r') (hphase : phase.registration = some own)
    (hown : own.session < table.created.length)
    (hgrows : r.table.created.length ≤ table.created.length) (j : TaskId) (reg : Registration)
    (hreg : (r'.phase j).registration = some reg) : reg.session < r'.table.created.length := by
  rw [h.table]
  refine h.forall_phase
    (P := fun p => ∀ reg, p.registration = some reg → reg.session < table.created.length) ?_ ?_ j reg hreg
  · intro reg hreg
    obtain rfl := Option.some.inj (hphase.symm.trans hreg)
    exact hown
  · intro j reg hreg
    exact (hr.known j reg hreg).trans_le hgrows

section Opening

variable {token : RelayToken} (hr : Separate r) (hstart : r.phase i = .handshake)
  (hunannounced : r.waitingPeers[token.sessionId.value]? = none)
  (halone : ∀ j reg, (r.phase j).active = some reg → reg.id ≠ token.sessionId.value)
  (h : Goes { r with table := r.table.opened token } i
    (.publish ⟨token, r.table.created.length, false⟩) r')
include hr hstart hunannounced halone h

/-- Under the identifier of the new session the relay refers to the new object only. -/
theorem refers_of_opens (id : String) (ref : SessionRef) (href : Refers r' id ref) :
    (id = token.sessionId.value ∧ ref = r.table.created.length) ∨
      (id ≠ token.sessionId.value ∧ Refers r id ref) := by
  by_cases hid : id = token.sessionId.value
  · refine .inl ⟨hid, ?_⟩
    subst hid
    cases href with
    | table _ href =>
      rw [h.table] at href
      exact Option.some.inj (href.symm.trans (opened_entry r.table token).1)
    | task j reg hreg hid =>
      by_cases hj : j = i
      · rw [hj, h.self] at hreg
        exact congrArg Registration.session (Option.some.inj hreg).symm
      · rw [h.other j hj] at hreg
        exact absurd hid (halone j reg hreg)
    | waiting peer reg hpeer =>
      rw [h.waitingPeers] at hpeer
      exact absurd (hpeer.symm.trans hunannounced) (by simp)
  · refine .inr ⟨hid, ?_⟩
    cases href with
    | table _ href =>
      rw [h.table] at href
      exact .table ref ((opened_unchanged r.table id token (Ne.symm hid)).entry.symm.trans href)
    | task j reg hreg hown =>
      by_cases hj : j = i
      · rw [hj, h.self] at hreg
        obtain rfl := Option.some.inj hreg
        exact absurd hown.symm hid
      · rw [h.other j hj] at hreg
        exact .task j reg hreg hown
    | waiting peer reg hpeer hreg =>
      rw [h.waitingPeers] at hpeer
      rw [h.other _ (owner_ne hr hstart id peer hpeer)] at hreg
      exact .waiting peer reg hpeer hreg

theorem separate_opens : Separate r' where
  single id ref ref' href href' := by
    have hcases := refers_of_opens hr hstart hunannounced halone h id
    rcases hcases ref href with ⟨hid, rfl⟩ | ⟨hid, hold⟩
    · rcases hcases ref' href' with ⟨-, rfl⟩ | ⟨hne, -⟩
      · rfl
      · exact absurd hid hne
    · rcases hcases ref' href' with ⟨hsame, -⟩ | ⟨-, hold'⟩
      · exact absurd hsame hid
      · exact hr.single id ref ref' hold hold'
  fits := h.forall_phase rfl hr.fits
  known := known_of_goes hr h rfl (by simp [opened_created]) (by simp [opened_created])
  filled := by
    rw [h.table, opened_created, List.map_append]
    intro slot hslot
    rcases List.mem_append.mp hslot with hold | hnew
    · exact hr.filled slot hold
    · obtain rfl := List.mem_singleton.mp hnew
      exact ⟨token.role, (slot_fill {} token.role).1⟩
  unique j k reg reg' hreg hreg' hunpaired hunpaired' hsession := by
    -- The new object has a number that no earlier registration has.
    have hnew : ∀ k reg, k ≠ i → (r'.phase k).registration = some reg →
        reg.session ≠ r.table.created.length := by
      intro k reg hk hreg
      rw [h.other k hk] at hreg
      exact Nat.ne_of_lt (hr.known k reg hreg)
    have hown : ∀ reg, (r'.phase i).registration = some reg → reg.session = r.table.created.length := by
      intro reg hreg
      rw [h.self] at hreg
      exact congrArg Registration.session (Option.some.inj hreg).symm
    by_cases hj : j = i
    · subst hj
      by_contra hk
      exact hnew k reg' (Ne.symm hk) hreg' (hsession.symm.trans (hown reg hreg))
    · by_cases hk : k = i
      · subst hk
        exact absurd (hsession.trans (hown reg' hreg')) (hnew j reg hj hreg)
      · rw [h.other j hj] at hreg
        rw [h.other k hk] at hreg'
        exact hr.unique j k reg reg' hreg hreg' hunpaired hunpaired' hsession
  owner := owner_of_goes hr hstart h

end Opening

section Joining

variable {token : RelayToken} {ref : SessionRef} {session : RelaySession} (hr : Separate r)
  (hstart : r.phase i = .handshake) (href : r.table.sessions[token.sessionId.value]? = some ref)
  (hsession : r.table.created[ref]? = some session) (hjoins : Joins session token)
include hr hsession hjoins

/-- The endpoint that has created a session is there, so one that joins it is the second. -/
theorem second_of_joins : session.state.slot token.role.peer = true := by
  have hmem : session.state.slot ∈ r.table.created.map (fun session => session.state.slot) :=
    List.mem_map.mpr ⟨session, List.mem_of_getElem? hsession, rfl⟩
  obtain ⟨role, hrole⟩ := hr.filled _ hmem
  rcases eq_or_peer token.role role with rfl | rfl
  · rw [hjoins.free] at hrole
    cases hrole
  · exact hrole

variable (h : Goes { r with table := r.table.setState ref (session.state.fill token.role) } i
  (if session.state.slot token.role.peer then .respond ⟨token, ref, true⟩
    else .publish ⟨token, ref, false⟩) r')
include hstart href h

theorem separate_joins : Separate r' := by
  rw [second_of_joins hr hsession hjoins, if_pos rfl] at h
  have hrefers : ∀ id ref', Refers r' id ref' → Refers r id ref' := by
    intro id ref' href'
    cases href' with
    | table _ href' =>
      rw [h.table] at href'
      exact .table ref' href'
    | task j reg hreg hid =>
      by_cases hj : j = i
      · rw [hj, h.self] at hreg
        obtain rfl := Option.some.inj hreg
        exact .table ref (hid ▸ href)
      · rw [h.other j hj] at hreg
        exact .task j reg hreg hid
    | waiting peer reg hpeer hreg =>
      rw [h.waitingPeers] at hpeer
      rw [h.other _ (owner_ne hr hstart id peer hpeer)] at hreg
      exact .waiting peer reg hpeer hreg
  have hfirst : ∀ j reg, (r'.phase j).registration = some reg → reg.isPaired = false →
      (r.phase j).registration = some reg := by
    intro j reg hreg hunpaired
    by_cases hj : j = i
    · rw [hj, h.self] at hreg
      obtain rfl := Option.some.inj hreg
      cases hunpaired
    · rwa [h.other j hj] at hreg
  exact {
    single := fun id ref ref' href href' =>
      hr.single id ref ref' (hrefers id ref href) (hrefers id ref' href')
    fits := h.forall_phase trivial hr.fits
    known := by
      have hlength : (r.table.setState ref (session.state.fill token.role)).created.length =
          r.table.created.length := by
        simp [RelaySessionTable.setState]
      exact known_of_goes hr h rfl (hlength ▸ r.table.ref_lt _ ref href) hlength.ge
    filled := by
      intro slot hslot
      obtain ⟨other, hother, rfl⟩ := List.mem_map.mp hslot
      obtain ⟨n, hn⟩ := List.mem_iff_getElem?.mp hother
      rw [h.table] at hn
      by_cases hne : ref = n
      · subst hne
        rw [setState_object r.table ref session _ hsession] at hn
        obtain rfl := Option.some.inj hn
        exact ⟨token.role, (slot_fill session.state token.role).1⟩
      · have hold : r.table.created[n]? = some other := by
          simpa [RelaySessionTable.setState, hne] using hn
        exact hr.filled _ (List.mem_map.mpr ⟨other, List.mem_of_getElem? hold, rfl⟩)
    unique := fun j k reg reg' hreg hreg' hunpaired hunpaired' =>
      hr.unique j k reg reg' (hfirst j reg hreg hunpaired) (hfirst k reg' hreg' hunpaired')
        hunpaired hunpaired'
    owner := owner_of_goes hr hstart h }

end Joining

end Steps

variable (V : RelayTokenVerifier)

/-- One event. -/
theorem step_separate (r : Relay) (e : Event) (hr : Separate r) (halone : OpensAlone V r e) :
    Separate (step V r e).2 := by
  cases e with
  | disconnect i => exact separate_proceeds hr (proceeds_of_alike i (alike_disconnect V r i))
  | turn i input =>
    simp only [step]
    rcases turn_moves V r i input with hsame | hmoves
    · rwa [hsame]
    · rcases moves_cases hmoves with ⟨token, now, rfl, hstart, hnone, hgoes⟩ |
        ⟨token, ref, session, hstart, href, hsession, hjoins, hgoes⟩ | hproceeds
      · have hverified : V.verify token now = .ok () := by
          have haccept : r.turn V i (.token token now) = r.acceptToken V i token now := by
            simp only [Relay.turn, hstart]
          rw [haccept] at hgoes
          exact verified_of_publish V r i token now _ hgoes.self
        obtain ⟨hunannounced, hothers⟩ := halone hstart hverified hnone
        exact separate_opens hr hstart hunannounced hothers hgoes
      · exact separate_joins hr hstart href hsession hjoins hgoes
      · exact separate_proceeds hr hproceeds

/-- In every run in which sessions are opened only when nothing is left under their identifiers,
every handler removes only what is its own. -/
theorem cleans_own (events : List Event)
    (halone : ∀ es e, es ++ [e] <+: events → OpensAlone V (Mealy.after (step V) .new es) e)
    (es : List Event) (hes : es <+: events) (i : TaskId) :
    CleansOwn (Mealy.after (step V) .new es) i := by
  refine separate_cleansOwn _ ?_ i
  refine Mealy.after_invariant_of (step_separate V) .new es separate_new ?_
  intro fs e hfs
  exact halone fs e (hfs.trans hes)

/-- A client comes and waits. -/
def arrived : List Event :=
  [.turn 0 (.token (signedFor .client) 2000), .turn 0 .go, .turn 0 .go]

/-- The host joins it; their session ends and is removed. -/
def ended : List Event :=
  arrived ++ [.turn 1 (.token (signedFor .host) 2000), .turn 1 .go, .turn 1 .go, .turn 1 .go,
    .turn 0 .go, .disconnect 1, .turn 0 .go, .turn 0 .go]

/-- Another client then opens the session again, waits and loses its connection. -/
def reopened : List Event :=
  ended ++ [.turn 2 (.token (signedFor .client) 2000), .turn 2 .go, .turn 2 .go, .disconnect 2,
    .turn 2 .closed]

theorem arrived_signed : ∀ e ∈ arrived, e.Signed := by
  simp [arrived, Event.Signed]

theorem ended_signed : ∀ e ∈ ended, e.Signed :=
  List.forall_mem_append.mpr ⟨arrived_signed, by simp [Event.Signed]⟩

/-- Nothing is left when the session has ended. -/
theorem ended_opensAlone : OpensAlone sampleVerifier (Mealy.after (step sampleVerifier) .new ended)
    (.turn 2 (.token (signedFor .client) 2000)) := by
  intro _ _ _
  constructor
  · rw [after_signedFor _ _ ended_signed]
    decide +kernel
  · intro j reg hreg
    by_cases hj : j < 2
    · rw [after_signedFor _ _ ended_signed] at hreg
      have hidle : ∀ i < 2, ((Mealy.after (step ⟨fun _ _ => true, "relay-1"⟩) .new ended).phase
          i).active.isNone := by
        decide +kernel
      simp [Option.isNone_iff_eq_none.mp (hidle j hj)] at hreg
    · have htask : ∀ e ∈ ended, e.task < 2 := by simp [ended, arrived, Event.task]
      rw [after_phase sampleVerifier .new ended j fun e he heq => hj (heq ▸ htask e he)] at hreg
      cases hreg

/-- The client that comes last is about to remove an entry, which is its own. -/
theorem cleans_own_reopened :
    (∀ es e, es ++ [e] <+: reopened →
      OpensAlone sampleVerifier (Mealy.after (step sampleVerifier) .new es) e) ∧
      (∀ i, CleansOwn (Mealy.after (step sampleVerifier) .new reopened) i) ∧
      (match (Mealy.after (step sampleVerifier) .new reopened).phase 2 with
        | .leaving reg =>
          (Mealy.after (step sampleVerifier) .new reopened).waitingPeers[reg.id]?.map
            WaitingPeer.task
        | _ => none) = some 2 := by
  have hcomes : OpensAlone sampleVerifier .new (.turn 0 (.token (signedFor .client) 2000)) := by
    intro _ _ _
    refine ⟨by simp [Relay.new], ?_⟩
    intro j reg hreg
    cases hreg
  -- The host opens nothing.
  have hjoins : OpensAlone sampleVerifier (Mealy.after (step sampleVerifier) .new arrived)
      (.turn 1 (.token (signedFor .host) 2000)) := by
    intro _ _ hnone
    rw [after_signedFor _ _ arrived_signed] at hnone
    exact absurd hnone (by decide +kernel)
  have halone : ∀ es e, es ++ [e] <+: reopened →
      OpensAlone sampleVerifier (Mealy.after (step sampleVerifier) .new es) e := by
    rw [reopened, Mealy.along_append, ended, Mealy.along_append, ← ended]
    refine ⟨⟨?_, (Mealy.along_cons _ _ _).mpr ⟨hjoins, ?_⟩⟩,
      (Mealy.along_cons _ _ _).mpr ⟨ended_opensAlone, ?_⟩⟩
    · rw [arrived, Mealy.along_cons, Mealy.along_cons, Mealy.along_cons]
      exact ⟨hcomes, trivial, trivial, by simp⟩
    · simp only [Mealy.along_cons]
      exact ⟨trivial, trivial, trivial, trivial, trivial, trivial, trivial, by simp⟩
    · simp only [Mealy.along_cons]
      exact ⟨trivial, trivial, trivial, trivial, by simp⟩
  refine ⟨halone, cleans_own sampleVerifier reopened halone reopened (List.prefix_refl _), ?_⟩
  rw [after_signedFor _ reopened
    (List.forall_mem_append.mpr ⟨ended_signed, by simp [Event.Signed]⟩)]
  decide +kernel

/-- A client waits, and loses its connection when the host has already registered. The host finds it
gone and removes the session; another client registers, and only then the first one goes on. -/
def overtaken : List Event :=
  [.turn 0 (.token (signedFor .client) 2000), .turn 0 .go, .turn 0 .go,
    .turn 1 (.token (signedFor .host) 2000), .disconnect 0, .turn 0 .closed,
    .turn 1 .go, .turn 1 .go, .turn 1 .go, .turn 1 .go,
    .turn 2 (.token (signedFor .client) 2000), .turn 2 .go]

theorem overtaken_signed : ∀ e ∈ overtaken, e.Signed := by
  simp [overtaken, Event.Signed]

/-- The first client is about to remove the entry of the other one, and then its session. -/
theorem later_registration_removed :
    ¬CleansOwn (Mealy.after (step sampleVerifier) .new overtaken) 0 ∧
      ¬CleansOwn (Mealy.after (step sampleVerifier) .new (overtaken ++ [.turn 0 .go])) 0 := by
  constructor
  · rw [after_signedFor _ _ overtaken_signed]
    generalize hr : Mealy.after (step ⟨fun _ _ => true, "relay-1"⟩) .new overtaken = r
    have hentry : (match r.phase 0 with
        | .leaving reg => r.waitingPeers[reg.id]?.map WaitingPeer.task
        | _ => none) = some 2 := by
      rw [← hr]
      decide +kernel
    intro h
    split at hentry
    · rename_i reg hphase
      obtain ⟨peer, hpeer, htask⟩ := Option.map_eq_some_iff.mp hentry
      rw [h.entry reg peer hphase hpeer] at htask
      cases htask
    · cases hentry
  · rw [after_signedFor _ _ (List.forall_mem_append.mpr ⟨overtaken_signed, by simp [Event.Signed]⟩)]
    generalize hr : Mealy.after (step ⟨fun _ _ => true, "relay-1"⟩) .new
      (overtaken ++ [.turn 0 .go]) = r
    have hsession : (match r.phase 0 with
        | .unregister reg _ => (reg.session, r.table.sessions[reg.id]?)
        | _ => (0, none)) = (0, some 1) := by
      rw [← hr]
      decide +kernel
    intro h
    split at hsession
    · rename_i reg close hphase
      obtain ⟨hown, hother⟩ := Prod.mk.inj hsession
      have hsame := h.session reg close 1 hphase hother
      rw [hown] at hsame
      cases hsame
    · cases hsession

end RelayIncarnations
