import NexusRemote.RelayServer
import NexusRemote.Tables

/-!
# What a turn of the relay can do

Everything that a turn can change, once and for all: `Moves` is read off the
handler, and every invariant of the relay is proved from it.
-/

namespace RelayServer

open EntityId RelayTokens RelaySessions Tables

variable (V : RelayTokenVerifier)

/-- Two relays that differ in their connections only. -/
structure Alike (r r' : Relay) : Prop where
  table : r'.table = r.table
  waitingPeers : r'.waitingPeers = r.waitingPeers
  phase : r'.phase = r.phase
  channel : r'.channel = r.channel

theorem alike_setTask (r : Relay) (i : TaskId) (task : Task) (hphase : task.phase = r.phase i)
    (hchannel : task.channel = r.channel i) : Alike r (r.setTask i task) where
  table := rfl
  waitingPeers := rfl
  phase := by rw [phase_setTask, hphase, Function.update_eq_self]
  channel := by rw [channel_setTask, hchannel, Function.update_eq_self]

theorem alike_close (r : Relay) (i : TaskId) (close : Close) : Alike r (r.closeConnection i close) :=
  alike_setTask r i _ rfl rfl

/-- Task `i` has gone on to a phase; nothing else has changed but perhaps connections. -/
structure Goes (r : Relay) (i : TaskId) (phase : Phase) (r' : Relay) : Prop where
  table : r'.table = r.table
  waitingPeers : r'.waitingPeers = r.waitingPeers
  phase : r'.phase = Function.update r.phase i phase
  channel : r'.channel = r.channel

theorem Goes.self {r r' : Relay} {i : TaskId} {phase : Phase} (h : Goes r i phase r') :
    r'.phase i = phase := by
  rw [h.phase, Function.update_self]

theorem Goes.other {r r' : Relay} {i : TaskId} {phase : Phase} (h : Goes r i phase r') (j : TaskId)
    (hj : j ≠ i) : r'.phase j = r.phase j := by
  rw [h.phase, Function.update_of_ne hj]

/-- What holds of every phase and of the new one holds of every phase afterwards. -/
theorem Goes.forall_phase {r r' : Relay} {i : TaskId} {phase : Phase} (h : Goes r i phase r')
    {P : Phase → Prop} (hphase : P phase) (hall : ∀ j, P (r.phase j)) (j : TaskId) :
    P (r'.phase j) := by
  rw [h.phase]
  exact (Function.forall_update_iff r.phase fun _ p => P p).mpr ⟨hphase, fun j _ => hall j⟩ j

theorem goes_become (r : Relay) (i : TaskId) (phase : Phase) : Goes r i phase (r.become i phase) :=
  ⟨rfl, rfl, phase_become r i phase, channel_become r i phase⟩

theorem Goes.of_alike {r r₁ r₂ : Relay} {i : TaskId} {phase : Phase} (h : Alike r r₁)
    (hgoes : Goes r₁ i phase r₂) : Goes r i phase r₂ where
  table := hgoes.table.trans h.table
  waitingPeers := hgoes.waitingPeers.trans h.waitingPeers
  phase := by rw [hgoes.phase, h.phase]
  channel := hgoes.channel.trans h.channel

/-- The handler closes its connection and goes on. -/
theorem goes_close (r : Relay) (i : TaskId) (close : Close) (phase : Phase) :
    Goes r i phase ((r.closeConnection i close).become i phase) :=
  .of_alike (alike_close r i close) (goes_become _ i phase)

/-- A turn that touches nothing shared, from one phase to another. -/
inductive Private (r : Relay) (i : TaskId) : Input → Phase → Phase → Prop where
  | refuse (input : Input) (response : RelayHandshakeResponse) (close : Close) :
      Private r i input .handshake (.refuse response close)
  | reject (input : Input) : Private r i input .handshake (.returned none)
  | refused (input : Input) (response : RelayHandshakeResponse) (close : Close) :
      Private r i input (.refuse response close) (.returned none)
  | first (reg : Registration) (h : reg.isPaired = false) :
      Private r i .go (.respond reg) (.waiting reg)
  | second (reg : Registration) (h : reg.isPaired = true) : Private r i .go (.respond reg) (.take reg)
  | unanswered (reg : Registration) : Private r i .fail (.respond reg) (.returned (some reg))
  | paired (reg : Registration) (role : EndpointRole) (peer : TaskId)
      (h : r.channel i = .sent role peer) : Private r i .go (.waiting reg) (.forwarding reg peer)
  | abandoned (reg : Registration) (h : r.channel i = .dropped) :
      Private r i .go (.waiting reg) (.unregister reg none)
  | closed (reg : Registration) (h : (r.task i).closed = true) :
      Private r i .closed (.waiting reg) (.leaving reg)
  | mismatch (reg : Registration) (h : r.waitingPeers[reg.id]? = none) :
      Private r i .go (.take reg) (.unregister reg (some pairingStateMismatch))
  | late (reg : Registration) (sender : TaskId) (h : (r.phase sender).listening = false) :
      Private r i .go (.handOver reg sender) (.unregister reg (some peerDisconnected))
  | done (reg : Registration) (h : (r.task i).closed = true) :
      Private r i .go (.linked reg) (.returned (some reg))

/-- The channels after the sender of an entry has been dropped. -/
def dropped (channel : TaskId → Channel) : Option WaitingPeer → TaskId → Channel
  | none => channel
  | some peer => Function.update channel peer.task .dropped

/-- Everything that a turn can do. -/
inductive Moves (r : Relay) (i : TaskId) (input : Input) (r' : Relay) : Prop where
  | goes (phase : Phase) (hprivate : Private r i input (r.phase i) phase) (hgoes : Goes r i phase r')
  | opens (token : RelayToken) (now : UInt64) (hinput : input = .token token now)
      (hstart : r.phase i = .handshake) (hnone : r.table.sessions[token.sessionId.value]? = none)
      (hgoes : Goes { r with table := r.table.opened token } i
        (.publish ⟨token, r.table.created.length, false⟩) r')
  | joins (token : RelayToken) (now : UInt64) (ref : SessionRef) (session : RelaySession)
      (hinput : input = .token token now) (hstart : r.phase i = .handshake)
      (href : r.table.sessions[token.sessionId.value]? = some ref)
      (hsession : r.table.created[ref]? = some session) (hjoins : Joins session token)
      (hgoes : Goes { r with table := r.table.setState ref (session.state.fill token.role) } i
        (if session.state.slot token.role.peer then .respond ⟨token, ref, true⟩
          else .publish ⟨token, ref, false⟩) r')
  | publishes (reg : Registration) (hstart : r.phase i = .publish reg) (htable : r'.table = r.table)
      (hwaiting : r'.waitingPeers = r.waitingPeers.insert reg.id ⟨reg.token.role, i⟩)
      (hphase : r'.phase = Function.update r.phase i (.respond reg))
      (hchannel : r'.channel = dropped r.channel r.waitingPeers[reg.id]?)
  | leaves (reg : Registration) (hstart : r.phase i = .leaving reg) (htable : r'.table = r.table)
      (hwaiting : r'.waitingPeers = r.waitingPeers.erase reg.id)
      (hphase : r'.phase = Function.update r.phase i (.unregister reg none))
      (hchannel : r'.channel = dropped r.channel r.waitingPeers[reg.id]?)
  | takes (reg : Registration) (peer : WaitingPeer) (hstart : r.phase i = .take reg)
      (hpeer : r.waitingPeers[reg.id]? = some peer)
      (hgoes : Goes { r with waitingPeers := r.waitingPeers.erase reg.id } i
        (.handOver reg peer.task) r')
  | sends (reg : Registration) (sender : TaskId) (hstart : r.phase i = .handOver reg sender)
      (hlistening : (r.phase sender).listening = true) (htable : r'.table = r.table)
      (hwaiting : r'.waitingPeers = r.waitingPeers)
      (hphase : r'.phase = Function.update r.phase i (.linked reg))
      (hchannel : r'.channel = Function.update r.channel sender (.sent reg.token.role i))
  | ends (reg : Registration) (peer : TaskId) (hstart : r.phase i = .forwarding reg peer)
      (hgoes : Goes { r with table := r.table.terminate reg.session } i (.unregister reg none) r')
  | removes (reg : Registration) (close : Option Close) (hstart : r.phase i = .unregister reg close)
      (hgoes : Goes { r with table := r.table.removeSession reg.token.sessionId } i
        (.returned (some reg)) r')

theorem dropSender_eq (r : Relay) (old : Option WaitingPeer) :
    (r.dropSender old).table = r.table ∧ (r.dropSender old).waitingPeers = r.waitingPeers ∧
      (r.dropSender old).phase = r.phase ∧ (r.dropSender old).channel = dropped r.channel old := by
  cases old with
  | none => exact ⟨rfl, rfl, rfl, rfl⟩
  | some peer => exact ⟨rfl, rfl, setChannel r peer.task .dropped⟩

/-- A registration on the way to a phase. -/
theorem acceptToken_moves (r : Relay) (i : TaskId) (token : RelayToken) (now : UInt64)
    (h : r.phase i = .handshake) : Moves r i (.token token now) (r.acceptToken V i token now) := by
  have hrefuse : ∀ response close,
      Moves r i (.token token now) (r.become i (.refuse response close)) := by
    intro response close
    exact .goes _ (h ▸ .refuse _ response close) (goes_become r i _)
  unfold Relay.acceptToken
  split
  · exact hrefuse _ _
  · obtain ⟨e, hcase⟩ | ⟨-, hnone, hcase⟩ | ⟨-, ref, session, href, hsession, hjoins, hcase⟩ :=
      registerOrJoin_cases r.table token now
    · rw [hcase]
      exact hrefuse _ _
    · rw [hcase]
      exact .opens token now rfl h hnone (goes_become _ i _)
    · rw [hcase]
      refine .joins token now ref session rfl h href hsession hjoins ?_
      cases session.state.slot token.role.peer <;> exact goes_become _ i _

/-- Only a token that verifies is registered. -/
theorem verified_of_publish (r : Relay) (i : TaskId) (token : RelayToken) (now : UInt64)
    (reg : Registration) (h : (r.acceptToken V i token now).phase i = .publish reg) :
    V.verify token now = .ok () := by
  unfold Relay.acceptToken at h
  split at h
  · simp at h
  · assumption

/-- A turn does nothing, or one of the moves. -/
theorem turn_moves (r : Relay) (i : TaskId) (input : Input) :
    r.turn V i input = r ∨ Moves r i input (r.turn V i input) := by
  unfold Relay.turn
  split
  · rename_i token now h
    exact .inr (acceptToken_moves V r i token now h)
  · rename_i h
    exact .inr (.goes _ (h ▸ .reject _) (goes_close r i _ _))
  · rename_i h
    exact .inr (.goes _ (h ▸ .reject _) (goes_close r i _ _))
  · rename_i error h
    exact .inr (.goes _ (h ▸ .refuse _ _ _) (goes_become r i _))
  · rename_i response close h
    exact .inr (.goes _ (h ▸ .refused _ response close) (goes_close r i close _))
  · rename_i reg h
    obtain ⟨htable, hwaiting, hphase, hchannel⟩ := dropSender_eq
      { r with waitingPeers := r.waitingPeers.insert reg.id ⟨reg.token.role, i⟩ }
      r.waitingPeers[reg.id]?
    obtain ⟨htable', hwaiting', hphase', hchannel'⟩ := goes_become
      ({ r with waitingPeers := r.waitingPeers.insert reg.id ⟨reg.token.role, i⟩ }.dropSender
        r.waitingPeers[reg.id]?) i (.respond reg)
    exact .inr (.publishes reg h (htable'.trans htable) (hwaiting'.trans hwaiting)
      (by rw [hphase', hphase]; rfl) (hchannel'.trans hchannel))
  · rename_i reg h
    cases hpaired : reg.isPaired with
    | false => exact .inr (.goes _ (h ▸ .first reg hpaired) (goes_become r i _))
    | true => exact .inr (.goes _ (h ▸ .second reg hpaired) (goes_become r i _))
  · rename_i reg h
    exact .inr (.goes _ (h ▸ .unanswered reg) (goes_close r i _ _))
  · rename_i reg h
    split
    · rename_i role peer hchannel
      exact .inr (.goes _ (h ▸ .paired reg role peer hchannel) (goes_become r i _))
    · rename_i hchannel
      exact .inr (.goes _ (h ▸ .abandoned reg hchannel) (goes_become r i _))
    · exact .inl rfl
  · rename_i reg h
    split
    · rename_i hclosed
      exact .inr (.goes _ (h ▸ .closed reg hclosed) (goes_become r i _))
    · exact .inl rfl
  · rename_i reg peer h
    split
    · refine .inr (.ends reg peer h ?_)
      exact .of_alike (alike_close _ i _) (.of_alike (alike_close _ peer _) (goes_become _ i _))
    · exact .inl rfl
  · rename_i reg h
    obtain ⟨htable, hwaiting, hphase, hchannel⟩ := dropSender_eq
      { r with waitingPeers := r.waitingPeers.erase reg.id } r.waitingPeers[reg.id]?
    obtain ⟨htable', hwaiting', hphase', hchannel'⟩ := goes_become
      ({ r with waitingPeers := r.waitingPeers.erase reg.id }.dropSender
        r.waitingPeers[reg.id]?) i (.unregister reg none)
    exact .inr (.leaves reg h (htable'.trans htable) (hwaiting'.trans hwaiting)
      (by rw [hphase', hphase]; rfl) (hchannel'.trans hchannel))
  · rename_i reg close h
    refine .inr (.removes reg close h ?_)
    cases close with
    | none => exact goes_become _ i _
    | some close => exact goes_close _ i close _
  · rename_i reg h
    split
    · rename_i peer hpeer
      exact .inr (.takes reg peer h hpeer (goes_become _ i _))
    · rename_i hnone
      exact .inr (.goes _ (h ▸ .mismatch reg hnone) (goes_become r i _))
  · rename_i reg sender h
    split
    · rename_i hlistening
      obtain ⟨hphase, hchannel⟩ := setChannel r sender (.sent reg.token.role i)
      obtain ⟨htable', hwaiting', hphase', hchannel'⟩ := goes_become
        (r.setTask sender { r.task sender with channel := .sent reg.token.role i }) i (.linked reg)
      exact .inr (.sends reg sender h hlistening htable' hwaiting' (by rw [hphase', hphase])
        (hchannel'.trans hchannel))
    · rename_i hlate
      exact .inr (.goes _ (h ▸ .late reg sender (Bool.eq_false_iff.mpr hlate)) (goes_become r i _))
  · rename_i reg h
    split
    · rename_i hclosed
      exact .inr (.goes _ (h ▸ .done reg hclosed) (goes_become r i _))
    · exact .inl rfl
  · exact .inl rfl

/-! ## The registration of a task -/

/-- The registration of a task, from its `register_or_join` on. -/
def Phase.registration : Phase → Option Registration
  | .handshake | .refuse _ _ => none
  | .publish reg | .respond reg | .waiting reg | .forwarding reg _ | .leaving reg | .unregister reg _
  | .take reg | .handOver reg _ | .linked reg => some reg
  | .returned reg => reg

/-- The registration of a task that may still use the table or the waiting peers. -/
def Phase.active : Phase → Option Registration
  | .linked _ | .returned _ => none
  | phase => phase.registration

/-- The first endpoint goes one way, the second one another. -/
def Phase.Fits : Phase → Prop
  | .publish reg | .waiting reg | .forwarding reg _ | .leaving reg => reg.isPaired = false
  | .take reg | .handOver reg _ | .linked reg => reg.isPaired = true
  | _ => True

theorem registration_of_active (phase : Phase) (reg : Registration) (h : phase.active = some reg) :
    phase.registration = some reg := by
  cases phase <;> first | exact h | cases h

/-- A task goes on with the registration that it has. -/
structure Onward (p q : Phase) : Prop where
  registration : q.registration = p.registration
  active : ∀ reg, q.active = some reg → p.active = some reg
  fits : p.Fits → q.Fits

theorem private_onward {r : Relay} {i : TaskId} {input : Input} {p q : Phase}
    (h : Private r i input p q) : Onward p q := by
  cases h <;> constructor <;> simp_all [Phase.registration, Phase.active, Phase.Fits]

/-- A turn after the registration: it may take away what is shared, but adds no more to it than the
entry of a first endpoint. -/
structure Proceeds (r : Relay) (i : TaskId) (r' : Relay) : Prop where
  other : ∀ j, j ≠ i → r'.phase j = r.phase j
  onward : Onward (r.phase i) (r'.phase i)
  sessions : ∀ (id : String) ref, r'.table.sessions[id]? = some ref →
    r.table.sessions[id]? = some ref
  waiting : ∀ (id : String) peer, r'.waitingPeers[id]? = some peer →
    r.waitingPeers[id]? = some peer ∨
      ∃ reg, r.phase i = .publish reg ∧ reg.id = id ∧ peer = ⟨reg.token.role, i⟩
  slots : r'.table.created.map (fun session => session.state.slot) =
    r.table.created.map (fun session => session.state.slot)

theorem Proceeds.registration {r r' : Relay} {i : TaskId} (h : Proceeds r i r') (j : TaskId) :
    (r'.phase j).registration = (r.phase j).registration := by
  by_cases hj : j = i
  · rw [hj, h.onward.registration]
  · rw [h.other j hj]

theorem Proceeds.active {r r' : Relay} {i : TaskId} (h : Proceeds r i r') (j : TaskId)
    (reg : Registration) (hreg : (r'.phase j).active = some reg) : (r.phase j).active = some reg := by
  by_cases hj : j = i
  · rw [hj] at hreg ⊢
    exact h.onward.active reg hreg
  · rwa [h.other j hj] at hreg

theorem Proceeds.fits {r r' : Relay} {i : TaskId} (h : Proceeds r i r')
    (hfits : ∀ j, (r.phase j).Fits) (j : TaskId) : (r'.phase j).Fits := by
  by_cases hj : j = i
  · rw [hj]
    exact h.onward.fits (hfits i)
  · rw [h.other j hj]
    exact hfits j

/-- A turn that leaves the shared state alone. -/
theorem proceeds_of_goes {r r' : Relay} {i : TaskId} {phase : Phase} (h : Goes r i phase r')
    (honward : Onward (r.phase i) phase) : Proceeds r i r' where
  other := h.other
  onward := by rwa [h.self]
  sessions id ref href := by rwa [h.table] at href
  waiting id peer hpeer := .inl (by rwa [h.waitingPeers] at hpeer)
  slots := by rw [h.table]

/-- A turn that keeps the table and changes the waiting peers in a way that other tasks expect. -/
theorem proceeds_of_update {r r' : Relay} {i : TaskId} {phase : Phase} (htable : r'.table = r.table)
    (hphase : r'.phase = Function.update r.phase i phase) (honward : Onward (r.phase i) phase)
    (hwaiting : ∀ (id : String) peer, r'.waitingPeers[id]? = some peer →
      r.waitingPeers[id]? = some peer ∨
        ∃ reg, r.phase i = .publish reg ∧ reg.id = id ∧ peer = ⟨reg.token.role, i⟩) :
    Proceeds r i r' where
  other j hj := by rw [hphase, Function.update_of_ne hj]
  onward := by rwa [hphase, Function.update_self]
  sessions id ref href := by rwa [htable] at href
  waiting := hwaiting
  slots := by rw [htable]

/-- Connections that come and go change nothing of what other tasks see. -/
theorem proceeds_of_alike {r r' : Relay} (i : TaskId) (h : Alike r r') : Proceeds r i r' where
  other j _ := by rw [h.phase]
  onward := by
    rw [h.phase]
    exact ⟨rfl, fun _ h => h, fun h => h⟩
  sessions id ref href := by rwa [h.table] at href
  waiting id peer hpeer := .inl (by rwa [h.waitingPeers] at hpeer)
  slots := by rw [h.table]

theorem terminate_sessions (t : RelaySessionTable) (ref : SessionRef) :
    (t.terminate ref).sessions = t.sessions := by
  unfold RelaySessionTable.terminate
  split <;> rfl

theorem terminate_slots (t : RelaySessionTable) (ref : SessionRef) :
    (t.terminate ref).created.map (fun session => session.state.slot) =
      t.created.map (fun session => session.state.slot) := by
  unfold RelaySessionTable.terminate
  split
  · rfl
  · rename_i session hsession
    simp only [RelaySessionTable.setState]
    refine List.ext_getElem? fun n => ?_
    by_cases hn : ref = n
    · subst hn
      simp only [List.getElem?_map, List.getElem?_modify_eq, hsession, Option.map_some]
      rfl
    · simp [hn]

/-- A turn opens a session, joins one or goes on after the registration. -/
theorem moves_cases {r r' : Relay} {i : TaskId} {input : Input} (h : Moves r i input r') :
    (∃ token now, input = .token token now ∧ r.phase i = .handshake ∧
      r.table.sessions[token.sessionId.value]? = none ∧
      Goes { r with table := r.table.opened token } i
        (.publish ⟨token, r.table.created.length, false⟩) r') ∨
    (∃ token ref session, r.phase i = .handshake ∧
      r.table.sessions[token.sessionId.value]? = some ref ∧ r.table.created[ref]? = some session ∧
      Joins session token ∧
      Goes { r with table := r.table.setState ref (session.state.fill token.role) } i
        (if session.state.slot token.role.peer then .respond ⟨token, ref, true⟩
          else .publish ⟨token, ref, false⟩) r') ∨
    Proceeds r i r' := by
  cases h with
  | opens token now hinput hstart hnone hgoes =>
    exact .inl ⟨token, now, hinput, hstart, hnone, hgoes⟩
  | joins token now ref session hinput hstart href hsession hjoins hgoes =>
    exact .inr (.inl ⟨token, ref, session, hstart, href, hsession, hjoins, hgoes⟩)
  | goes phase hprivate hgoes =>
    exact .inr (.inr (proceeds_of_goes hgoes (private_onward hprivate)))
  | publishes reg hstart htable hwaiting hphase hchannel =>
    refine .inr (.inr (proceeds_of_update htable hphase ?_ ?_))
    · rw [hstart]
      exact ⟨rfl, fun _ h => h, fun _ => trivial⟩
    · intro id peer hpeer
      rw [hwaiting] at hpeer
      obtain ⟨hid, hnew⟩ | ⟨-, hold⟩ := Tables.getElem?_insert_cases _ _ _ _ _ hpeer
      · exact .inr ⟨reg, hstart, hid, hnew.symm⟩
      · exact .inl hold
  | leaves reg hstart htable hwaiting hphase hchannel =>
    refine .inr (.inr (proceeds_of_update htable hphase ?_ ?_))
    · rw [hstart]
      exact ⟨rfl, fun _ h => h, fun _ => trivial⟩
    · intro id peer hpeer
      rw [hwaiting] at hpeer
      exact .inl (getElem?_of_erase _ _ _ _ hpeer).2
  | takes reg peer hstart hpeer hgoes =>
    have honward : Onward (r.phase i) (.handOver reg peer.task) := by
      rw [hstart]
      exact ⟨rfl, fun _ h => h, id⟩
    have h := proceeds_of_goes hgoes honward
    exact .inr (.inr { h with
      waiting := fun id peer hpeer => .inl (by
        rw [hgoes.waitingPeers] at hpeer
        exact (getElem?_of_erase _ _ _ _ hpeer).2) })
  | sends reg sender hstart hlistening htable hwaiting hphase hchannel =>
    refine .inr (.inr (proceeds_of_update htable hphase ?_ ?_))
    · rw [hstart]
      exact ⟨rfl, fun _ h => (by cases h), id⟩
    · intro id peer hpeer
      rw [hwaiting] at hpeer
      exact .inl hpeer
  | ends reg peer hstart hgoes =>
    have honward : Onward (r.phase i) (.unregister reg none) := by
      rw [hstart]
      exact ⟨rfl, fun _ h => h, fun _ => trivial⟩
    have h := proceeds_of_goes hgoes honward
    exact .inr (.inr { h with
      sessions := fun id ref href => by
        rw [hgoes.table, terminate_sessions] at href
        exact href
      slots := by rw [hgoes.table, terminate_slots] })
  | removes reg close hstart hgoes =>
    have honward : Onward (r.phase i) (.returned (some reg)) := by
      rw [hstart]
      exact ⟨rfl, fun _ h => (by cases h), fun _ => trivial⟩
    have h := proceeds_of_goes hgoes honward
    exact .inr (.inr { h with
      sessions := fun id ref href => by
        rw [hgoes.table] at href
        exact (getElem?_of_erase _ _ _ _ href).2 })

theorem moves_other {r r' : Relay} {i : TaskId} {input : Input} (h : Moves r i input r') (j : TaskId)
    (hj : j ≠ i) : r'.phase j = r.phase j := by
  rcases moves_cases h with ⟨_, _, _, _, _, hgoes⟩ | ⟨_, _, _, _, _, _, _, hgoes⟩ | hproceeds
  · exact hgoes.other j hj
  · exact hgoes.other j hj
  · exact hproceeds.other j hj

theorem moves_fits {r r' : Relay} {i : TaskId} {input : Input} (h : Moves r i input r')
    (hfits : ∀ j, (r.phase j).Fits) (j : TaskId) : (r'.phase j).Fits := by
  by_cases hj : j = i
  · subst hj
    rcases moves_cases h with ⟨_, _, _, _, _, hgoes⟩ | ⟨_, _, session, _, _, _, _, hgoes⟩ | hproceeds
    · rw [hgoes.self]
      rfl
    · rw [hgoes.self]
      split
      · trivial
      · rfl
    · exact hproceeds.onward.fits (hfits j)
  · rw [moves_other h j hj]
    exact hfits j

/-- Entries are added by their first endpoints only. -/
theorem moves_waiting {r r' : Relay} {i : TaskId} {input : Input} (h : Moves r i input r')
    (id : String) (peer : WaitingPeer) (hpeer : r'.waitingPeers[id]? = some peer) :
    r.waitingPeers[id]? = some peer ∨
      ∃ reg, r.phase i = .publish reg ∧ reg.id = id ∧ peer = ⟨reg.token.role, i⟩ := by
  rcases moves_cases h with ⟨_, _, _, _, _, hgoes⟩ | ⟨_, _, _, _, _, _, _, hgoes⟩ | hproceeds
  · exact .inl (by rwa [hgoes.waitingPeers] at hpeer)
  · exact .inl (by rwa [hgoes.waitingPeers] at hpeer)
  · exact hproceeds.waiting id peer hpeer

/-- Sessions are added by the handlers that open them only. -/
theorem moves_sessions {r r' : Relay} {i : TaskId} {input : Input} (h : Moves r i input r')
    (id : String) (ref : SessionRef) (href : r'.table.sessions[id]? = some ref) :
    r.table.sessions[id]? = some ref ∨
      ∃ reg, r'.phase i = .publish reg ∧ reg.id = id ∧ reg.isPaired = false := by
  rcases moves_cases h with ⟨token, _, _, _, _, hgoes⟩ | ⟨_, _, _, _, _, _, _, hgoes⟩ | hproceeds
  · rw [hgoes.table] at href
    by_cases hid : token.sessionId.value = id
    · exact .inr ⟨_, hgoes.self, hid, rfl⟩
    · exact .inl ((opened_unchanged r.table id token hid).entry.symm.trans href)
  · exact .inl (by rwa [hgoes.table] at href)
  · exact .inl (hproceeds.sessions id ref href)

/-- How a task comes to the end of what it does with the shared state. -/
theorem moves_active {r r' : Relay} {i : TaskId} {input : Input} (h : Moves r i input r')
    (reg : Registration) (hreg : (r.phase i).active = some reg) :
    (r'.phase i).active = some reg ∨ (input = .fail ∧ r.phase i = .respond reg) ∨
      (∃ sender, r.phase i = .handOver reg sender) ∨
      r'.table.sessions = r.table.sessions.erase reg.id := by
  cases h with
  | opens _ _ _ hstart => rw [hstart] at hreg; cases hreg
  | joins _ _ _ _ _ hstart => rw [hstart] at hreg; cases hreg
  | goes phase hprivate hgoes =>
    rw [hgoes.self]
    generalize r.phase i = p at hprivate hreg
    cases hprivate with
    | unanswered own =>
      obtain rfl := Option.some.inj hreg
      exact .inr (.inl ⟨rfl, rfl⟩)
    | refuse => cases hreg
    | reject => cases hreg
    | refused => cases hreg
    | done => cases hreg
    | _ => exact .inl hreg
  | publishes own hstart htable hwaiting hphase =>
    rw [hstart] at hreg
    exact .inl (by rw [hphase, Function.update_self]; exact hreg)
  | leaves own hstart htable hwaiting hphase =>
    rw [hstart] at hreg
    exact .inl (by rw [hphase, Function.update_self]; exact hreg)
  | takes own peer hstart hpeer hgoes =>
    rw [hstart] at hreg
    exact .inl (by rw [hgoes.self]; exact hreg)
  | sends own sender hstart =>
    rw [hstart] at hreg
    obtain rfl := Option.some.inj hreg
    exact .inr (.inr (.inl ⟨sender, hstart⟩))
  | ends own peer hstart hgoes =>
    rw [hstart] at hreg
    exact .inl (by rw [hgoes.self]; exact hreg)
  | removes own close hstart hgoes =>
    rw [hstart] at hreg
    obtain rfl := Option.some.inj hreg
    exact .inr (.inr (.inr (congrArg RelaySessionTable.sessions hgoes.table)))

theorem alike_disconnect (r : Relay) (i : TaskId) : Alike r (step V r (.disconnect i)).2 :=
  alike_setTask r i _ rfl rfl

/-- The task that an event is about. -/
def Event.task : Event → TaskId
  | .turn i _ => i
  | .disconnect i => i

theorem step_phase (r : Relay) (e : Event) (i : TaskId) (h : e.task ≠ i) :
    (step V r e).2.phase i = r.phase i := by
  cases e with
  | disconnect j => rw [(alike_disconnect V r j).phase]
  | turn j input =>
    rcases turn_moves V r j input with hsame | hmoves
    · exact congrArg (Relay.phase · i) hsame
    · exact moves_other hmoves i (Ne.symm h)

/-- A run leaves the tasks alone that it is not about. -/
theorem after_phase (r : Relay) (events : List Event) (i : TaskId) (h : ∀ e ∈ events, e.task ≠ i) :
    (Mealy.after (step V) r events).phase i = r.phase i := by
  induction events generalizing r with
  | nil => rfl
  | cons e events ih =>
    rw [List.forall_mem_cons] at h
    rw [Mealy.after_cons, ih _ h.2, step_phase V r e i h.1]

end RelayServer
