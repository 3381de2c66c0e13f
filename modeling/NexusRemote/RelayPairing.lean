import NexusRemote.RelayServer
import NexusRemote.Schedules

/-!
# Two endpoints that come to a relay

Whether an endpoint is the second one is decided under the lock of the session
table; the first one enters itself into `waiting_peers` later and under another
lock. The two handlers, taken together, go through the stages of a small
machine, which the relay follows turn by turn.
-/

namespace RelayPairing

open Filter EntityId RelayTokens RelaySessions RelayServer

variable {V : RelayTokenVerifier}

/-- The two endpoints of a session come, with valid tokens and open connections, to a relay that
knows nothing of the session. -/
structure Arrival (V : RelayTokenVerifier) where
  relay : Relay
  sessionId : SessionId
  task : EndpointRole → TaskId
  token : EndpointRole → RelayToken
  now : EndpointRole → UInt64
  distinct : task .client ≠ task .host
  role : ∀ role, (token role).role = role
  session : ∀ role, (token role).sessionId = sessionId
  client : (token .client).clientDeviceId = (token .host).clientDeviceId
  target : (token .client).targetDeviceId = (token .host).targetDeviceId
  valid : ∀ role, V.verify (token role) (now role) = .ok ()
  fresh : ∀ role, relay.task (task role) = {}
  unknown : relay.table.sessions[sessionId.value]? = none
  unannounced : relay.waitingPeers[sessionId.value]? = none

/-- A turn of one of the two handlers: the token is read, and every write succeeds. -/
def Arrival.turn (a : Arrival V) (r : Relay) (role : EndpointRole) : Relay :=
  r.turn V (a.task role)
    (if r.phase (a.task role) = .handshake then .token (a.token role) (a.now role) else .go)

def Arrival.run (a : Arrival V) (schedule : ℕ → EndpointRole) : ℕ → Relay :=
  Schedules.run a.turn a.relay schedule

/-- The first endpoint forwards between its own connection and the one that the second endpoint,
which keeps it alive, has handed to it. -/
structure Forwarded (a : Arrival V) (lead : EndpointRole) (ref : SessionRef) (r : Relay) : Prop where
  first : r.phase (a.task lead) = .forwarding ⟨a.token lead, ref, false⟩ (a.task lead.peer)
  second : r.phase (a.task lead.peer) = .linked ⟨a.token lead.peer, ref, true⟩
  connections : Registration.connections ⟨a.token lead, ref, false⟩ (a.task lead)
    (a.task lead.peer) = (a.task .client, a.task .host)

/-- The two endpoints are paired, and no handler finds the state inconsistent on the way. -/
structure Pairs (a : Arrival V) (run : ℕ → Relay) : Prop where
  noMismatch : ∀ n role reg,
    (run n).phase (a.task role) ≠ .unregister reg (some pairingStateMismatch)
  forwarded : ∃ lead ref, ∀ᶠ n in atTop, Forwarded a lead ref (run n)

/-! ## The stages -/

/-- How far the endpoint that has registered first is. -/
inductive First where
  | publish
  | respond
  | waiting
  | forwarding
  deriving DecidableEq

/-- How far the other endpoint is. -/
inductive Second where
  | handshake
  | respond
  | take
  | handOver
  | linked
  | mismatch
  | returned
  deriving DecidableEq

inductive Stage where
  | start
  | pairing (lead : EndpointRole) (x : First) (y : Second)
  deriving DecidableEq

def First.next (y : Second) : First → First
  | .publish => .respond
  | .respond => .waiting
  | .waiting => if y = .linked then .forwarding else .waiting
  | .forwarding => .forwarding

def Second.next (x : First) : Second → Second
  | .handshake => .respond
  | .respond => .take
  | .take => if x = .publish then .mismatch else .handOver
  | .handOver => .linked
  | .linked => .linked
  | .mismatch => .returned
  | .returned => .returned

def Stage.next : Stage → EndpointRole → Stage
  | .start, role => .pairing role .publish .handshake
  | .pairing lead x y, role =>
    if role = lead then .pairing lead (x.next y) y else .pairing lead x (y.next x)

/-- The two are forwarded to each other. -/
def Stage.Done (s : Stage) : Prop := ∃ lead, s = .pairing lead .forwarding .linked

/-- The second endpoint has not found the first one. -/
def Second.missed : Second → Bool
  | .mismatch | .returned => true
  | _ => false

def Stage.missed : Stage → Bool
  | .start => false
  | .pairing _ _ y => y.missed

theorem Second.next_missed (x : First) (y : Second) (h : (y.next x).missed = true) :
    y.missed = true ∨ y = .take ∧ x = .publish := by
  cases y with
  | take =>
    by_cases hx : x = .publish
    · exact .inr ⟨rfl, hx⟩
    · simp [Second.next, hx, Second.missed] at h
  | mismatch => exact .inl rfl
  | returned => exact .inl rfl
  | _ => cases h

/-- The only turn at which the first endpoint is missed. -/
theorem Stage.next_missed (s : Stage) (role : EndpointRole) (h : (s.next role).missed = true) :
    s.missed = true ∨ s = .pairing role.peer .publish .take := by
  cases s with
  | start => cases h
  | pairing lead x y =>
    simp only [Stage.next] at h
    split at h
    · exact .inl h
    · rename_i hrole
      obtain rfl := (eq_or_peer lead role).resolve_left hrole
      rcases Second.next_missed x y h with h | ⟨rfl, rfl⟩
      · exact .inl h
      · exact .inr (by cases lead <;> rfl)

def First.rank : First → ℕ
  | .publish => 3
  | .respond => 2
  | .waiting => 1
  | .forwarding => 0

def Second.rank : Second → ℕ
  | .handshake => 4
  | .respond => 3
  | .take => 2
  | .handOver | .mismatch => 1
  | .linked | .returned => 0

def Stage.rank : Stage → ℕ
  | .start => 8
  | .pairing _ x y => x.rank + y.rank

theorem First.next_eq_or_lower (x : First) (y : Second) : x.next y = x ∨ (x.next y).rank < x.rank := by
  cases x <;> cases y <;> decide

theorem Second.next_eq_or_lower (x : First) (y : Second) : y.next x = y ∨ (y.next x).rank < y.rank := by
  cases x <;> cases y <;> decide

/-- A turn leaves the stage or lowers its rank. -/
theorem Stage.next_eq_or_lower (s : Stage) (role : EndpointRole) :
    s.next role = s ∨ (s.next role).rank < s.rank := by
  cases s with
  | start => exact .inr (by cases role <;> decide)
  | pairing lead x y =>
    simp only [Stage.next]
    split
    · rcases x.next_eq_or_lower y with h | h
      · exact .inl (by rw [h])
      · exact .inr (Nat.add_lt_add_right h _)
    · rcases Second.next_eq_or_lower x y with h | h
      · exact .inl (by rw [h])
      · exact .inr (Nat.add_lt_add_left h _)

/-! ## The relay follows the stages -/

section Simulation

variable (a : Arrival V) (lead : EndpointRole) (ref : SessionRef)

def First.phase : First → Phase
  | .publish => .publish ⟨a.token lead, ref, false⟩
  | .respond => .respond ⟨a.token lead, ref, false⟩
  | .waiting => .waiting ⟨a.token lead, ref, false⟩
  | .forwarding => .forwarding ⟨a.token lead, ref, false⟩ (a.task lead.peer)

def Second.phase : Second → Phase
  | .handshake => .handshake
  | .respond => .respond ⟨a.token lead.peer, ref, true⟩
  | .take => .take ⟨a.token lead.peer, ref, true⟩
  | .handOver => .handOver ⟨a.token lead.peer, ref, true⟩ (a.task lead)
  | .linked => .linked ⟨a.token lead.peer, ref, true⟩
  | .mismatch => .unregister ⟨a.token lead.peer, ref, true⟩ (some pairingStateMismatch)
  | .returned => .returned (some ⟨a.token lead.peer, ref, true⟩)

/-- The session as its first endpoint has left it. -/
structure Opened (t : RelaySessionTable) : Prop where
  entry : t.sessions[a.sessionId.value]? = some ref
  object : ∃ session : RelaySession, t.created[ref]? = some session ∧
    Joins session (a.token lead.peer) ∧ session.state.slot lead = true

structure Pairing (x : First) (y : Second) (r : Relay) : Prop where
  first : r.phase (a.task lead) = x.phase a lead ref
  second : r.phase (a.task lead.peer) = y.phase a lead ref
  channel : r.channel (a.task lead) =
    if y = .linked then .sent lead.peer (a.task lead.peer) else .empty
  waiting : r.waitingPeers[a.sessionId.value]? =
    if x = .publish ∨ y = .handOver ∨ y = .linked then none else some ⟨lead, a.task lead⟩
  opened : y = .handshake → Opened a lead ref r.table
  alive : y ≠ .returned → ∀ role, (r.task (a.task role)).closed = false
  -- The second endpoint takes only what the first one has published.
  handed : x = .forwarding → y = .linked
  taken : y = .handOver ∨ y = .linked → x ≠ .publish

inductive At (a : Arrival V) (r : Relay) : Stage → Prop where
  | start (hphase : ∀ role, r.phase (a.task role) = .handshake)
      (hchannel : ∀ role, r.channel (a.task role) = .empty)
      (halive : ∀ role, (r.task (a.task role)).closed = false)
      (hunknown : r.table.sessions[a.sessionId.value]? = none)
      (hunannounced : r.waitingPeers[a.sessionId.value]? = none) : At a r .start
  | pairing (lead : EndpointRole) (ref : SessionRef) (x : First) (y : Second)
      (h : Pairing a lead ref x y r) : At a r (.pairing lead x y)

theorem Arrival.task_ne (role : EndpointRole) : a.task role ≠ a.task role.peer := by
  cases role
  · exact a.distinct
  · exact a.distinct.symm

theorem Arrival.turn_go (r : Relay) (role : EndpointRole)
    (h : r.phase (a.task role) ≠ .handshake) : a.turn r role = r.turn V (a.task role) .go := by
  rw [Arrival.turn, if_neg h]

/-- The turn of an endpoint that has not registered. -/
theorem Arrival.turn_register (r : Relay) (role : EndpointRole) (isPaired : Bool)
    (table : RelaySessionTable) (h : r.phase (a.task role) = .handshake)
    (hregister : r.table.registerOrJoin (a.token role) (a.now role) = (.ok (ref, isPaired), table)) :
    a.turn r role = { r with table := table }.become (a.task role)
      (if isPaired then .respond ⟨a.token role, ref, isPaired⟩
        else .publish ⟨a.token role, ref, isPaired⟩) := by
  rw [Arrival.turn, if_pos h, Relay.turn, Relay.acceptToken, a.valid role, hregister]
  exact h

theorem Arrival.id_eq (role : EndpointRole) (isPaired : Bool) :
    Registration.id ⟨a.token role, ref, isPaired⟩ = a.sessionId.value := by
  rw [Registration.id, a.session]

/-- Both endpoints have the same identities. -/
theorem Arrival.same_identities (role : EndpointRole) :
    (a.token role.peer).clientDeviceId = (a.token role).clientDeviceId ∧
      (a.token role.peer).targetDeviceId = (a.token role).targetDeviceId := by
  cases role
  · exact ⟨a.client.symm, a.target.symm⟩
  · exact ⟨a.client, a.target⟩

/-- The first registration. -/
theorem turn_start (r : Relay) (h : At a r .start) : At a (a.turn r lead) (Stage.start.next lead) := by
  cases h with
  | start hphase hchannel halive hunknown hunannounced =>
    have hnone : r.table.sessions[(a.token lead).sessionId.value]? = none := by
      rw [a.session, hunknown]
    rw [a.turn_register _ r lead false _ (hphase lead) (registerOrJoin_none r.table _ _
      (verify_live V _ _ (a.valid lead)) hnone)]
    obtain ⟨hentry, hobject⟩ := opened_entry r.table (a.token lead)
    obtain ⟨hclient, htarget⟩ := a.same_identities lead
    have hopened : Opened a lead r.table.created.length (r.table.opened (a.token lead)) := by
      rw [a.session] at hentry
      refine ⟨hentry, _, hobject, ⟨?_, ?_, ?_⟩, ?_⟩
      · exact congrArg Id.value hclient.symm
      · exact congrArg Id.value htarget.symm
      · rw [a.role, a.role]
        cases lead <;> rfl
      · rw [a.role]
        cases lead <;> rfl
    exact .pairing lead r.table.created.length .publish .handshake {
      first := by simp [First.phase]
      second := by simp [Second.phase, (a.task_ne lead).symm, hphase]
      channel := by simp [hchannel]
      waiting := by simpa using hunannounced
      opened := fun _ => hopened
      alive := by simpa using halive
      handed := by simp
      taken := by simp }

variable {a lead ref} {x : First} {y : Second} {r : Relay}

/-- A move of the endpoint that has registered first: it may change the waiting entries. -/
theorem Pairing.first_moves (h : Pairing a lead ref x y r)
    (waitingPeers : Std.TreeMap String WaitingPeer) (x' : First) (hx' : x' ≠ .publish)
    (hwaiting : waitingPeers[a.sessionId.value]? =
      if y = .handOver ∨ y = .linked then none else some ⟨lead, a.task lead⟩)
    (hhanded : x' = .forwarding → y = .linked) :
    Pairing a lead ref x' y
      ({ r with waitingPeers := waitingPeers }.become (a.task lead) (x'.phase a lead ref)) where
  first := by simp
  second := by simp [(a.task_ne lead).symm, h.second]
  channel := by simpa using h.channel
  waiting := by simpa [hx'] using hwaiting
  opened := by simpa using h.opened
  alive := by simpa using h.alive
  handed := hhanded
  taken := fun _ => hx'

/-- A turn of the endpoint that has registered first. -/
theorem turn_first (h : Pairing a lead ref x y r) : Pairing a lead ref (x.next y) y (a.turn r lead) := by
  have hfirst := h.first
  rw [a.turn_go r lead (by rw [hfirst]; cases x <;> simp [First.phase])]
  cases x with
  | publish =>
    -- Nobody is waiting yet, so no sender is dropped; and nobody has taken the entry.
    have hnone : r.waitingPeers[a.sessionId.value]? = none := by simpa using h.waiting
    have huntaken : ¬(y = .handOver ∨ y = .linked) := fun hy => h.taken hy rfl
    simp only [Relay.turn, hfirst, First.phase, a.id_eq, hnone, Relay.dropSender, a.role]
    exact h.first_moves _ .respond (by simp) (by simp [huntaken]) (by simp)
  | respond =>
    simp only [Relay.turn, hfirst, First.phase]
    exact h.first_moves r.waitingPeers .waiting (by simp) (by simpa using h.waiting) (by simp)
  | waiting =>
    have hchannel := h.channel
    rw [Relay.channel] at hchannel
    simp only [Relay.turn, hfirst, First.phase, hchannel]
    by_cases hy : y = .linked
    · subst hy
      simp only [if_true, First.next]
      exact h.first_moves r.waitingPeers .forwarding (by simp) (by simpa using h.waiting) (by simp)
    · simpa [hy, First.next] using h
  | forwarding =>
    obtain rfl := h.handed rfl
    have halive := h.alive (by simp)
    simpa [Relay.turn, hfirst, First.phase, halive, First.next] using h

/-- A move of the other endpoint that leaves the waiting entry and the channel alone. -/
theorem Pairing.second_moves (h : Pairing a lead ref x y r) (table : RelaySessionTable) (y' : Second)
    (hy : y ≠ .handOver ∧ y ≠ .linked ∧ y ≠ .returned)
    (hy' : y' ≠ .handshake ∧ y' ≠ .handOver ∧ y' ≠ .linked) :
    Pairing a lead ref x y'
      ({ r with table := table }.become (a.task lead.peer) (y'.phase a lead ref)) where
  first := by simp [a.task_ne lead, h.first]
  second := by simp
  channel := by simpa [hy, hy'] using h.channel
  waiting := by simpa [hy, hy'] using h.waiting
  opened := by simp [hy']
  alive := fun _ => by simpa using h.alive hy.2.2
  handed := fun hx => absurd (h.handed hx) hy.2.1
  taken := by simp [hy']

/-- A turn of the other endpoint. -/
theorem turn_second (h : Pairing a lead ref x y r) :
    Pairing a lead ref x (y.next x) (a.turn r lead.peer) := by
  have hsecond := h.second
  have hne := a.task_ne lead
  cases y with
  | handshake =>
    obtain ⟨hentry, session, hsession, hjoins, hslot⟩ := h.opened rfl
    have hpeer : (a.token lead.peer).role.peer = lead := by
      rw [a.role]
      cases lead <;> rfl
    have hregister := registerOrJoin_joins r.table (a.token lead.peer) (a.now lead.peer) ref session
      (verify_live V _ _ (a.valid _)) (by rw [a.session, hentry]) hsession hjoins
    rw [hpeer, hslot] at hregister
    rw [a.turn_register _ r lead.peer true _ hsecond hregister]
    exact h.second_moves _ .respond (by simp) (by simp)
  | respond =>
    rw [a.turn_go r lead.peer (by simp [hsecond, Second.phase])]
    simp only [Relay.turn, hsecond, Second.phase, if_true]
    exact h.second_moves r.table .take (by simp) (by simp)
  | take =>
    rw [a.turn_go r lead.peer (by simp [hsecond, Second.phase])]
    have hwaiting := h.waiting
    simp only [Relay.turn, hsecond, Second.phase, a.id_eq, hwaiting]
    by_cases hx : x = .publish
    · -- The entry is not there yet.
      subst hx
      exact h.second_moves r.table .mismatch (by simp) (by simp)
    · simp only [hx, reduceCtorEq, or_self, if_false]
      exact {
        first := by simp [hne, h.first]
        second := by simp [Second.phase, Second.next, hx]
        channel := by simpa [Second.next, hx] using h.channel
        waiting := by simp [Second.next, hx]
        opened := by simp [Second.next, hx]
        alive := by simpa [Second.next, hx] using h.alive
        handed := fun hx' => absurd (h.handed hx') (by simp)
        taken := fun _ => hx }
  | handOver =>
    rw [a.turn_go r lead.peer (by simp [hsecond, Second.phase])]
    have hlistening : (r.phase (a.task lead)).listening = true := by
      rw [h.first]
      cases x with
      | forwarding => exact absurd (h.handed rfl) (by simp)
      | _ => rfl
    obtain ⟨hphase, hchannel⟩ := setChannel r (a.task lead) (.sent lead.peer (a.task lead.peer))
    simp only [Relay.turn, hsecond, Second.phase, hlistening, if_true, a.role]
    exact {
      first := by rw [phase_become, Function.update_of_ne hne, hphase, h.first]
      second := by simp [Second.phase, Second.next]
      channel := by rw [channel_become, hchannel, Function.update_self, Second.next, if_pos rfl]
      waiting := by simpa [Second.next] using h.waiting
      opened := by simp [Second.next]
      alive := by simpa [Second.next] using h.alive
      handed := by simp [Second.next]
      taken := fun _ => h.taken (.inl rfl) }
  | linked =>
    rw [a.turn_go r lead.peer (by simp [hsecond, Second.phase])]
    have halive := h.alive (by simp)
    simpa [Relay.turn, hsecond, Second.phase, halive, Second.next] using h
  | mismatch =>
    rw [a.turn_go r lead.peer (by simp [hsecond, Second.phase])]
    simp only [Relay.turn, hsecond, Second.phase]
    exact {
      first := by simp [Relay.closeConnection, hne, h.first]
      second := by simp [Second.phase, Second.next]
      channel := by simpa [Relay.closeConnection, Second.next, hne] using h.channel
      waiting := by simpa [Relay.closeConnection, Second.next] using h.waiting
      opened := by simp [Second.next]
      alive := by simp [Second.next]
      handed := fun hx => absurd (h.handed hx) (by simp)
      taken := by simp [Second.next] }
  | returned =>
    rw [a.turn_go r lead.peer (by simp [hsecond, Second.phase])]
    simpa [Relay.turn, hsecond, Second.phase, Second.next] using h

/-- One turn of the relay is one turn of the stage machine. -/
theorem turn_at (s : Stage) (r : Relay) (role : EndpointRole) (h : At a r s) :
    At a (a.turn r role) (s.next role) := by
  cases h with
  | start hphase hchannel halive hunknown hunannounced =>
    exact turn_start a role r (.start hphase hchannel halive hunknown hunannounced)
  | pairing lead ref x y h =>
    rcases eq_or_peer lead role with rfl | rfl
    · rw [Stage.next, if_pos rfl]
      exact .pairing _ ref _ y (turn_first h)
    · rw [Stage.next, if_neg (by cases lead <;> simp [EndpointRole.peer])]
      exact .pairing lead ref x _ (turn_second h)

/-- The relay leaves two endpoints alone that are forwarded to each other. -/
theorem turn_forwarded (h : Pairing a lead ref .forwarding .linked r) (role : EndpointRole) :
    a.turn r role = r := by
  have halive := h.alive (by simp)
  rcases eq_or_peer lead role with rfl | rfl
  · rw [a.turn_go r _ (by simp [h.first, First.phase])]
    simp [Relay.turn, h.first, First.phase, halive]
  · rw [a.turn_go r _ (by simp [h.second, Second.phase])]
    simp [Relay.turn, h.second, Second.phase, halive]

theorem forwarded_of_pairing (h : Pairing a lead ref .forwarding .linked r) :
    Forwarded a lead ref r where
  first := h.first
  second := h.second
  connections := by
    rw [Registration.connections, a.role]
    cases lead <;> rfl

end Simulation

/-! ## Every schedule -/

section Runs

variable (a : Arrival V) (schedule : ℕ → EndpointRole)

/-- The stage of every moment. -/
def stage : ℕ → Stage := Schedules.run Stage.next .start schedule

theorem run_at (n : ℕ) : At a (a.run schedule n) (stage schedule n) := by
  have hstart : At a a.relay .start := by
    have hphase : ∀ role, a.relay.phase (a.task role) = .handshake := fun role => by
      rw [Relay.phase, a.fresh]
    have hchannel : ∀ role, a.relay.channel (a.task role) = .empty := fun role => by
      rw [Relay.channel, a.fresh]
    exact .start hphase hchannel (fun role => by rw [a.fresh]) a.unknown a.unannounced
  exact Schedules.run_simulates (R := fun s r => At a r s) turn_at .start hstart n

/-- The second endpoint looks for the first one after that one has entered itself. -/
def Ordered (run : ℕ → Relay) : Prop :=
  ∀ n reg reg', (run n).phase (a.task (schedule n)) = .take reg →
    (run n).phase (a.task (schedule n).peer) ≠ .publish reg'

variable {a schedule}

/-- Unless one is missed, somebody can go on until the two are forwarded to each other. -/
theorem exists_helpful (r : Relay) (s : Stage) (hat : At a r s) (hfound : s.missed = false)
    (hrest : ¬s.Done) : ∃ role, (s.next role).rank < s.rank := by
  cases hat with
  | start => exact ⟨.client, by decide⟩
  | pairing lead ref x y h =>
    have hpeer : lead.peer ≠ lead := by cases lead <;> simp [EndpointRole.peer]
    cases x with
    | publish => exact ⟨lead, by simp [Stage.next, First.next, Stage.rank, First.rank]⟩
    | respond => exact ⟨lead, by simp [Stage.next, First.next, Stage.rank, First.rank]⟩
    | forwarding =>
      obtain rfl := h.handed rfl
      exact absurd ⟨lead, rfl⟩ hrest
    | waiting =>
      -- The first endpoint waits for the second, or for its own turn to see what it was sent.
      cases y with
      | linked => exact ⟨lead, by simp [Stage.next, First.next, Stage.rank, First.rank]⟩
      | mismatch => cases hfound
      | returned => cases hfound
      | _ => exact ⟨lead.peer, by simp [Stage.next, Second.next, Stage.rank, Second.rank, hpeer]⟩

theorem missed_of_mismatch (r : Relay) (s : Stage) (hat : At a r s) (role : EndpointRole)
    (reg : Registration)
    (h : r.phase (a.task role) = .unregister reg (some pairingStateMismatch)) : s.missed = true := by
  cases hat with
  | start hphase =>
    rw [hphase] at h
    cases h
  | pairing lead ref x y hpairing =>
    rcases eq_or_peer lead role with rfl | rfl
    · rw [hpairing.first] at h
      cases x <;> cases h
    · rw [hpairing.second] at h
      cases y <;> first | rfl | cases h

/-- A turn at which one is missed is out of order. -/
theorem phases_of_take (r : Relay) (s : Stage) (hat : At a r s) (role : EndpointRole)
    (h : s = .pairing role.peer .publish .take) :
    ∃ reg reg', r.phase (a.task role) = .take reg ∧ r.phase (a.task role.peer) = .publish reg' := by
  subst h
  have hpeer : role.peer.peer = role := by cases role <;> rfl
  cases hat with
  | pairing _ ref _ _ h =>
    have hsecond := h.second
    rw [hpeer] at hsecond
    exact ⟨_, _, hsecond, h.first⟩

theorem take_of_phases (r : Relay) (s : Stage) (hat : At a r s) (role : EndpointRole)
    (reg reg' : Registration) (htake : r.phase (a.task role) = .take reg)
    (hpublish : r.phase (a.task role.peer) = .publish reg') :
    s = .pairing role.peer .publish .take := by
  cases hat with
  | start hphase =>
    rw [hphase] at htake
    cases htake
  | pairing lead ref x y h =>
    rcases eq_or_peer lead role with rfl | rfl
    · rw [h.first] at htake
      cases x <;> cases htake
    · have hpeer : lead.peer.peer = lead := by cases lead <;> rfl
      rw [hpeer] at hpublish
      rw [h.second] at htake
      rw [h.first] at hpublish
      rw [hpeer]
      cases x <;> cases hpublish
      cases y <;> cases htake
      rfl

theorem found_of_ordered (h : Ordered a schedule (a.run schedule)) (n : ℕ) :
    (stage schedule n).missed = false := by
  induction n with
  | zero => rfl
  | succ n ih =>
    by_contra hmissed
    rw [Bool.not_eq_false] at hmissed
    rcases Stage.next_missed _ _ hmissed with hearlier | htake
    · rw [stage] at ih
      rw [ih] at hearlier
      cases hearlier
    · obtain ⟨reg, reg', htaking, hpublishing⟩ :=
        phases_of_take _ _ (run_at a schedule n) (schedule n) htake
      exact h n reg reg' htaking hpublishing

/-- On every fair schedule: the two endpoints are paired, without a mismatch, exactly if the second
one looks for the first only after that one has entered itself into `waiting_peers`. -/
theorem pairs_iff (a : Arrival V) (schedule : ℕ → EndpointRole) (hfair : Schedules.Fair schedule) :
    Pairs a (a.run schedule) ↔ Ordered a schedule (a.run schedule) := by
  constructor
  · intro h n reg reg' htake hpublish
    have hstage := take_of_phases _ _ (run_at a schedule n) _ reg reg' htake hpublish
    have hnext : stage schedule (n + 1) = .pairing (schedule n).peer .publish .mismatch := by
      rw [stage, Schedules.run_succ, ← stage, hstage]
      cases schedule n <;> rfl
    have hat := run_at a schedule (n + 1)
    rw [hnext] at hat
    cases hat with
    | pairing _ ref _ _ hpairing => exact h.noMismatch (n + 1) _ _ hpairing.second
  · intro h
    have hfound := found_of_ordered h
    have hdone : ∃ n, (stage schedule n).Done :=
      Schedules.exists_rest Stage.next_eq_or_lower hfair fun n =>
        exists_helpful _ _ (run_at a schedule n) (hfound n)
    obtain ⟨n, lead, hn⟩ := hdone
    refine ⟨?_, lead, ?_⟩
    · intro n role reg hmismatch
      have hmissed := missed_of_mismatch _ _ (run_at a schedule n) role reg hmismatch
      rw [hfound] at hmissed
      cases hmissed
    · have hat := run_at a schedule n
      rw [hn] at hat
      cases hat with
      | pairing _ ref _ _ hpairing =>
        refine ⟨ref, eventually_atTop.mpr ⟨n, ?_⟩⟩
        intro m hm
        rw [Arrival.run, Schedules.run_stays (turn_forwarded hpairing) m hm]
        exact forwarded_of_pairing hpairing

end Runs

/-- The endpoints of one session at a new relay. -/
def sampleArrival : Arrival sampleVerifier where
  relay := .new
  sessionId := sampleId
  task
    | .client => 0
    | .host => 1
  token := signedFor
  now _ := 2000
  distinct := by decide
  role _ := rfl
  session _ := rfl
  client := rfl
  target := rfl
  valid := signedFor_valid
  fresh _ := rfl
  unknown := by simp [Relay.new, RelaySessionTable.new]
  unannounced := by simp [Relay.new]

/-- A turn of the client, and then three of the host. -/
def hasty (n : ℕ) : EndpointRole := if n % 4 = 0 then .client else .host

def alternating (n : ℕ) : EndpointRole := if n % 2 = 0 then .client else .host

theorem hasty_fair : Schedules.Fair hasty := by
  intro role
  refine frequently_atTop.mpr ?_
  intro n
  cases role with
  | client => exact ⟨4 * n, by omega, by simp [hasty]⟩
  | host => exact ⟨4 * n + 1, by omega, by simp [hasty]⟩

theorem alternating_fair : Schedules.Fair alternating := by
  intro role
  refine frequently_atTop.mpr ?_
  intro n
  cases role with
  | client => exact ⟨2 * n, by omega, by simp [alternating]⟩
  | host => exact ⟨2 * n + 1, by omega, by simp [alternating]⟩

/-- The client registers and is then held up; the host registers, answers and finds nobody. -/
theorem second_endpoint_rejected :
    Schedules.Fair hasty ∧
      (∃ reg, (sampleArrival.run hasty 4).phase (sampleArrival.task .host) =
        .unregister reg (some pairingStateMismatch)) ∧
      ¬Pairs sampleArrival (sampleArrival.run hasty) := by
  have hmismatch : ∃ reg, (sampleArrival.run hasty 4).phase (sampleArrival.task .host) =
      .unregister reg (some pairingStateMismatch) := by
    have hat := run_at sampleArrival hasty 4
    have hstage : stage hasty 4 = .pairing .client .publish .mismatch := by decide
    rw [hstage] at hat
    cases hat with
    | pairing _ ref _ _ h => exact ⟨_, h.second⟩
  refine ⟨hasty_fair, hmismatch, ?_⟩
  intro hpairs
  obtain ⟨reg, h⟩ := hmismatch
  exact hpairs.noMismatch 4 .host reg h

theorem pairs_alternating :
    Schedules.Fair alternating ∧ Pairs sampleArrival (sampleArrival.run alternating) := by
  have hlast : stage alternating 9 = .pairing .client .forwarding .linked := by decide
  have hstays : ∀ n, 9 ≤ n → stage alternating n = stage alternating 9 := by
    refine Schedules.run_stays ?_
    intro role
    rw [← stage, hlast]
    cases role <;> rfl
  have hnever : ∀ n, stage alternating n ≠ .pairing (alternating n).peer .publish .take := by
    intro n
    by_cases hn : 9 ≤ n
    · rw [hstays n hn, hlast]
      simp
    · have hlt : n < 9 := by omega
      interval_cases n <;> decide
  refine ⟨alternating_fair, (pairs_iff sampleArrival alternating alternating_fair).mpr ?_⟩
  intro n reg reg' htake hpublish
  exact hnever n (take_of_phases _ _ (run_at sampleArrival alternating n) _ reg reg' htake hpublish)

end RelayPairing
