import NexusRemote.RelayTurns

/-!
# What is left when the handlers have returned

An entry in the table or in `waiting_peers` stays until a handler removes it. As
long as every handler that has entered something is still on its way to the
removal, nothing is left when all of them have returned.
-/

namespace RelayCleanup

open EntityId RelayTokens RelayServer Tables
open RelaySessions hiding step

def Returned : Phase → Bool
  | .returned _ => true
  | _ => false

theorem active_of_returned (phase : Phase) (h : Returned phase = true) : phase.active = none := by
  cases phase <;> first | rfl | cases h

/-- Every handler that has registered under an identifier has returned. -/
def AllReturned (r : Relay) (id : String) : Prop :=
  ∀ i reg, (r.phase i).registration = some reg → reg.id = id → Returned (r.phase i) = true

/-- Nothing is left under an identifier, so that an endpoint of either role can register. -/
structure CleanedUp (r : Relay) (id : SessionId) : Prop where
  session : r.table.sessions[id.value]? = none
  waiting : r.waitingPeers[id.value]? = none
  registers : ∀ (token : RelayToken) now, token.sessionId = id → now < token.expiresAt →
    ∃ ref, (r.table.registerOrJoin token now).1 = .ok (ref, false)

/-- The response of a first endpoint is written. -/
def Answers (r : Relay) : Event → Prop
  | .turn i .fail => ∀ reg, r.phase i = .respond reg → reg.isPaired = true
  | _ => True

/-! ## Who will remove what is there -/

/-- A first endpoint of the session is on its way to `remove_session`. -/
def Held (r : Relay) (id : String) : Prop :=
  ∃ i reg, (r.phase i).active = some reg ∧ reg.id = id ∧ reg.isPaired = false

/-- The first endpoint of an entry has not heard of a peer, and will remove the entry unless somebody
takes it. -/
def Announced (r : Relay) (id : String) (peer : WaitingPeer) : Prop :=
  ∃ reg, (r.phase peer.task = .respond reg ∨ r.phase peer.task = .waiting reg ∨
    r.phase peer.task = .leaving reg) ∧ reg.id = id ∧ reg.isPaired = false ∧
    r.channel peer.task = .empty

/-- A task that has not entered itself yet. -/
def Unannounced (phase : Phase) : Prop := phase = .handshake ∨ ∃ reg, phase = .publish reg

structure Owned (r : Relay) : Prop where
  fits : ∀ i, (r.phase i).Fits
  held : ∀ (id : String) ref, r.table.sessions[id]? = some ref → Held r id
  announced : ∀ (id : String) peer, r.waitingPeers[id]? = some peer → Announced r id peer
  -- Whoever holds the sender of a channel has taken the entry with it.
  taken : ∀ j reg k, r.phase j = .handOver reg k → ¬Unannounced (r.phase k) ∧
    ∀ (id : String) peer, r.waitingPeers[id]? = some peer → peer.task ≠ k
  fresh : ∀ i, Unannounced (r.phase i) → r.channel i = .empty

theorem owned_new : Owned .new where
  fits _ := trivial
  held := by simp [Relay.new, RelaySessionTable.new]
  announced := by simp [Relay.new]
  taken j reg k h := by simp [Relay.new, Relay.phase] at h
  fresh _ _ := rfl

theorem owned_cleanedUp (r : Relay) (h : Owned r) (id : SessionId) (hreturned : AllReturned r id.value) :
    CleanedUp r id := by
  have hsession : r.table.sessions[id.value]? = none := by
    rw [Option.eq_none_iff_forall_ne_some]
    intro ref href
    obtain ⟨i, reg, hreg, hid, -⟩ := h.held id.value ref href
    rw [active_of_returned _ (hreturned i reg (registration_of_active _ _ hreg) hid)] at hreg
    cases hreg
  have hwaiting : r.waitingPeers[id.value]? = none := by
    rw [Option.eq_none_iff_forall_ne_some]
    intro peer hpeer
    obtain ⟨reg, hphase, hid, -, -⟩ := h.announced id.value peer hpeer
    have hreg : (r.phase peer.task).registration = some reg := by
      rcases hphase with hphase | hphase | hphase <;> rw [hphase] <;> rfl
    have hdone := hreturned peer.task reg hreg hid
    rcases hphase with hphase | hphase | hphase <;> rw [hphase] at hdone <;> cases hdone
  refine ⟨hsession, hwaiting, ?_⟩
  rintro token now rfl hnow
  exact ⟨_, congrArg Prod.fst (registerOrJoin_none r.table token now hnow hsession)⟩

/-! ## What a turn changes -/

section Turns

variable {r r' : Relay} {i : TaskId} {input : Input}

theorem announced_not_unannounced {id : String} {peer : WaitingPeer} (h : Announced r id peer) :
    ¬Unannounced (r.phase peer.task) := by
  obtain ⟨reg, hphase, -⟩ := h
  rintro (hnot | ⟨_, hnot⟩) <;> rw [hnot] at hphase <;> simp at hphase

/-- The owner of an entry has registered under its key. -/
theorem announced_id {id id' : String} {peer peer' : WaitingPeer} (h : Announced r id peer)
    (h' : Announced r id' peer') (htask : peer.task = peer'.task) : id = id' := by
  obtain ⟨reg, hphase, rfl, -⟩ := h
  obtain ⟨reg', hphase', rfl, -⟩ := h'
  rw [htask] at hphase
  rcases hphase with hphase | hphase | hphase <;> rw [hphase] at hphase' <;> simp at hphase' <;>
    rw [hphase']

/-- Every session that is in the table after a turn will be removed. -/
theorem held_moves (hr : Owned r) (h : Moves r i input r') (hanswers : Answers r (.turn i input))
    (id : String) (ref : SessionRef) (href : r'.table.sessions[id]? = some ref) : Held r' id := by
  rcases moves_sessions h id ref href with hold | ⟨reg, hphase, hid, hunpaired⟩
  · obtain ⟨j, reg, hreg, hid, hunpaired⟩ := hr.held id ref hold
    refine ⟨j, reg, ?_, hid, hunpaired⟩
    by_cases hj : j = i
    · subst hj
      rcases moves_active h reg hreg with hkept | ⟨rfl, hrespond⟩ | ⟨sender, hsends⟩ | hremoved
      · exact hkept
      · rw [hanswers reg hrespond] at hunpaired
        cases hunpaired
      · -- Only a second endpoint hands over.
        have hfits := hr.fits j
        rw [hsends, Phase.Fits, hunpaired] at hfits
        cases hfits
      · rw [hremoved] at href
        exact absurd hid (getElem?_of_erase _ _ _ _ href).1
    · rwa [moves_other h j hj]
  · exact ⟨i, reg, by rw [hphase]; rfl, hid, hunpaired⟩

/-- No task goes back to where it has not entered itself. -/
theorem unannounced_moves (h : Moves r i input r') (j : TaskId) (hj : Unannounced (r'.phase j)) :
    Unannounced (r.phase j) := by
  by_cases hji : j = i
  · subst hji
    have hnot : ∀ phase, r'.phase j = phase → ¬Unannounced phase → False := by
      rintro _ rfl hphase
      exact hphase hj
    cases h with
    | opens _ _ _ hstart => exact .inl hstart
    | joins _ _ _ _ _ hstart => exact .inl hstart
    | publishes reg hstart => exact .inr ⟨reg, hstart⟩
    | goes phase hprivate hgoes =>
      exfalso
      refine hnot _ hgoes.self ?_
      generalize r.phase j = p at hprivate
      cases hprivate <;> simp [Unannounced]
    | leaves reg _ _ _ hphase =>
      exact (hnot (.unregister reg none) (by rw [hphase, Function.update_self])
        (by simp [Unannounced])).elim
    | takes _ _ _ _ hgoes => exact (hnot _ hgoes.self (by simp [Unannounced])).elim
    | sends reg _ _ _ _ _ hphase =>
      exact (hnot (.linked reg) (by rw [hphase, Function.update_self]) (by simp [Unannounced])).elim
    | ends _ _ _ hgoes => exact (hnot _ hgoes.self (by simp [Unannounced])).elim
    | removes _ _ _ hgoes => exact (hnot _ hgoes.self (by simp [Unannounced])).elim
  · rwa [moves_other h j hji] at hj

/-- A channel is used by whoever holds its sender, or dropped with its entry. -/
theorem channel_moves (h : Moves r i input r') (j : TaskId) :
    r'.channel j = r.channel j ∨ (∃ reg, r.phase i = .handOver reg j) ∨
      ∃ (id : String) (peer : WaitingPeer), r.waitingPeers[id]? = some peer ∧ peer.task = j ∧
        ∀ peer', r'.waitingPeers[id]? = some peer' → peer'.task = i := by
  have hdropped : ∀ old, dropped r.channel old j = r.channel j ∨ ∃ peer, old = some peer ∧ peer.task = j := by
    intro old
    cases old with
    | none => exact .inl rfl
    | some peer =>
      by_cases hj : j = peer.task
      · exact .inr ⟨peer, rfl, hj.symm⟩
      · exact .inl (Function.update_of_ne hj _ _)
  cases h with
  | opens _ _ _ _ _ hgoes => exact .inl (congrFun hgoes.channel j)
  | joins _ _ _ _ _ _ _ _ _ hgoes => exact .inl (congrFun hgoes.channel j)
  | goes _ _ hgoes => exact .inl (congrFun hgoes.channel j)
  | takes _ _ _ _ hgoes => exact .inl (congrFun hgoes.channel j)
  | ends _ _ _ hgoes => exact .inl (congrFun hgoes.channel j)
  | removes _ _ _ hgoes => exact .inl (congrFun hgoes.channel j)
  | publishes reg _ _ hwaiting _ hchannel =>
    rw [hchannel]
    rcases hdropped r.waitingPeers[reg.id]? with hsame | ⟨peer, hpeer, htask⟩
    · exact .inl hsame
    · refine .inr (.inr ⟨reg.id, peer, hpeer, htask, ?_⟩)
      intro peer' hpeer'
      rw [hwaiting, Std.TreeMap.getElem?_insert_self] at hpeer'
      exact congrArg WaitingPeer.task (Option.some.inj hpeer').symm
  | leaves reg _ _ hwaiting _ hchannel =>
    rw [hchannel]
    rcases hdropped r.waitingPeers[reg.id]? with hsame | ⟨peer, hpeer, htask⟩
    · exact .inl hsame
    · refine .inr (.inr ⟨reg.id, peer, hpeer, htask, ?_⟩)
      intro peer' hpeer'
      rw [hwaiting] at hpeer'
      exact absurd rfl (getElem?_of_erase _ _ _ _ hpeer').1
  | sends reg sender hstart _ _ _ _ hchannel =>
    by_cases hj : j = sender
    · exact .inr (.inl ⟨reg, hj ▸ hstart⟩)
    · exact .inl (by rw [hchannel, Function.update_of_ne hj])

/-- The owner of an entry goes on waiting or removes the entry. -/
theorem announced_own (peer : WaitingPeer) (h : Moves r peer.task input r')
    (hanswers : Answers r (.turn peer.task input)) (id : String) (hold : Announced r id peer)
    (hpeer : r'.waitingPeers[id]? = some peer) : Announced r' id peer := by
  obtain ⟨reg, hphase, hid, hunpaired, hempty⟩ := hold
  cases h with
  | opens _ _ _ hstart => simp [hstart] at hphase
  | joins _ _ _ _ _ hstart => simp [hstart] at hphase
  | publishes _ hstart => simp [hstart] at hphase
  | takes _ _ hstart => simp [hstart] at hphase
  | sends _ _ hstart => simp [hstart] at hphase
  | ends _ _ hstart => simp [hstart] at hphase
  | removes _ _ hstart => simp [hstart] at hphase
  | leaves own hstart _ hwaiting =>
    obtain rfl : own = reg := by simpa [hstart] using hphase
    rw [hwaiting] at hpeer
    exact absurd hid (getElem?_of_erase _ _ _ _ hpeer).1
  | goes phase hprivate hgoes =>
    refine ⟨reg, ?_, hid, hunpaired, by rw [hgoes.channel, hempty]⟩
    rw [hgoes.self]
    generalize hp : r.phase peer.task = p at hprivate hphase
    cases hprivate with
    | first own =>
      obtain rfl : own = reg := by simpa using hphase
      exact .inr (.inl rfl)
    | closed own =>
      obtain rfl : own = reg := by simpa using hphase
      exact .inr (.inr rfl)
    | second own hpaired =>
      obtain rfl : own = reg := by simpa using hphase
      rw [hpaired] at hunpaired
      cases hunpaired
    | unanswered own =>
      obtain rfl : own = reg := by simpa using hphase
      rw [hanswers own hp] at hunpaired
      cases hunpaired
    | paired own role other hsent =>
      rw [hempty] at hsent
      cases hsent
    | abandoned own hdropped =>
      rw [hempty] at hdropped
      cases hdropped
    | _ => simp at hphase

/-- A first endpoint enters itself before it does anything else. -/
theorem respond_of_publish (h : Moves r i input r') (reg : Registration)
    (hphase : r.phase i = .publish reg) : r'.phase i = .respond reg := by
  cases h with
  | publishes own hstart _ _ hnext =>
    obtain rfl : own = reg := by simpa [hstart] using hphase
    rw [hnext, Function.update_self]
  | goes _ hprivate =>
    rw [hphase] at hprivate
    cases hprivate
  | opens _ _ _ hstart => simp [hstart] at hphase
  | joins _ _ _ _ _ hstart => simp [hstart] at hphase
  | leaves _ hstart => simp [hstart] at hphase
  | takes _ _ hstart => simp [hstart] at hphase
  | sends _ _ hstart => simp [hstart] at hphase
  | ends _ _ hstart => simp [hstart] at hphase
  | removes _ _ hstart => simp [hstart] at hphase

/-- A channel stays empty until its task has entered itself. -/
theorem fresh_moves (hr : Owned r) (h : Moves r i input r') (j : TaskId)
    (hj : Unannounced (r.phase j)) : r'.channel j = .empty := by
  rcases channel_moves h j with hsame | ⟨reg, hhandOver⟩ | ⟨id, peer, hpeer, rfl, -⟩
  · rw [hsame, hr.fresh j hj]
  · exact absurd hj (hr.taken i reg j hhandOver).1
  · exact absurd hj (announced_not_unannounced (hr.announced id peer hpeer))

/-- Every entry that is there after a turn has its owner still. -/
theorem announced_moves (hr : Owned r) (h : Moves r i input r') (hanswers : Answers r (.turn i input))
    (id : String) (peer : WaitingPeer) (hpeer : r'.waitingPeers[id]? = some peer) :
    Announced r' id peer := by
  rcases moves_waiting h id peer hpeer with hold | ⟨reg, hphase, hid, rfl⟩
  · have hannounced := hr.announced id peer hold
    by_cases htask : peer.task = i
    · subst htask
      exact announced_own peer h hanswers id hannounced hpeer
    · have hchannel : r'.channel peer.task = r.channel peer.task := by
        rcases channel_moves h peer.task with hsame | ⟨reg, hhandOver⟩ | ⟨id', other, hother, hsame, howner⟩
        · exact hsame
        · exact absurd rfl ((hr.taken i reg peer.task hhandOver).2 id peer hold)
        · obtain rfl := announced_id (hr.announced id' other hother) hannounced hsame
          exact absurd (howner peer hpeer) htask
      rw [Announced, moves_other h _ htask, hchannel]
      exact hannounced
  · have hfits := hr.fits i
    rw [hphase] at hfits
    exact ⟨reg, .inl (respond_of_publish h reg hphase), hid, hfits, fresh_moves hr h i (.inr ⟨reg, hphase⟩)⟩

/-- A second endpoint that has a sender now has taken it with its entry. -/
theorem takes_of_handOver (h : Moves r i input r') (reg : Registration) (k : TaskId)
    (hnow : r'.phase i = .handOver reg k) :
    ∃ peer, r.waitingPeers[reg.id]? = some peer ∧ peer.task = k ∧
      r'.waitingPeers = r.waitingPeers.erase reg.id := by
  cases h with
  | takes own peer hstart hpeer hgoes =>
    rw [hgoes.self] at hnow
    obtain ⟨rfl, rfl⟩ := Phase.handOver.inj hnow
    exact ⟨peer, hpeer, rfl, hgoes.waitingPeers⟩
  | goes phase hprivate hgoes =>
    rw [hgoes.self] at hnow
    generalize r.phase i = p at hprivate
    rw [hnow] at hprivate
    cases hprivate
  | joins token _ _ session _ _ _ _ _ hgoes =>
    rw [hgoes.self] at hnow
    split at hnow <;> cases hnow
  | opens _ _ _ _ _ hgoes => simp [hgoes.self] at hnow
  | publishes _ _ _ _ hphase => simp [hphase] at hnow
  | leaves _ _ _ _ hphase => simp [hphase] at hnow
  | sends _ _ _ _ _ _ hphase => simp [hphase] at hnow
  | ends _ _ _ hgoes => simp [hgoes.self] at hnow
  | removes _ _ _ hgoes => simp [hgoes.self] at hnow

theorem taken_moves (hr : Owned r) (h : Moves r i input r') (j : TaskId) (reg : Registration)
    (k : TaskId) (hj : r'.phase j = .handOver reg k) :
    ¬Unannounced (r'.phase k) ∧
      ∀ (id : String) peer, r'.waitingPeers[id]? = some peer → peer.task ≠ k := by
  by_cases hold : r.phase j = .handOver reg k
  · obtain ⟨hphase, hentries⟩ := hr.taken j reg k hold
    refine ⟨fun hk => hphase (unannounced_moves h k hk), ?_⟩
    intro id peer hpeer
    rcases moves_waiting h id peer hpeer with hpeer | ⟨own, hpublish, -, rfl⟩
    · exact hentries id peer hpeer
    · rintro rfl
      exact hphase (.inr ⟨own, hpublish⟩)
  · -- The task has just taken the entry.
    have hji : j = i := by
      by_contra hji
      rw [moves_other h j hji] at hj
      exact hold hj
    subst hji
    obtain ⟨peer, hpeer, rfl, hwaiting⟩ := takes_of_handOver h reg k hj
    have hannounced := hr.announced reg.id peer hpeer
    refine ⟨fun hk => announced_not_unannounced hannounced (unannounced_moves h _ hk), ?_⟩
    intro id other hother hsame
    rw [hwaiting] at hother
    obtain ⟨hne, hother⟩ := getElem?_of_erase _ _ _ _ hother
    exact hne (announced_id hannounced (hr.announced id other hother) hsame.symm)

theorem owned_moves (hr : Owned r) (h : Moves r i input r') (hanswers : Answers r (.turn i input)) :
    Owned r' where
  fits := moves_fits h hr.fits
  held := held_moves hr h hanswers
  announced := announced_moves hr h hanswers
  taken := taken_moves hr h
  fresh j hj := fresh_moves hr h j (unannounced_moves h j hj)

theorem owned_alike (hr : Owned r) (h : Alike r r') : Owned r' := by
  obtain ⟨htable, hwaiting, hphase, hchannel⟩ := h
  obtain ⟨hfits, hheld, hannounced, htaken, hfresh⟩ := hr
  constructor
  · rwa [hphase]
  · simpa only [Held, htable, hphase] using hheld
  · simpa only [Announced, hwaiting, hphase, hchannel] using hannounced
  · rwa [hphase, hwaiting]
  · rwa [hphase, hchannel]

end Turns

variable (V : RelayTokenVerifier)

/-- One event. -/
theorem step_owned (r : Relay) (e : Event) (hr : Owned r) (hanswers : Answers r e) :
    Owned (step V r e).2 := by
  cases e with
  | disconnect i => exact owned_alike hr (alike_disconnect V r i)
  | turn i input =>
    rcases turn_moves V r i input with hsame | hmoves
    · simpa only [step, hsame] using hr
    · exact owned_moves hr hmoves hanswers

/-- In every run in which the responses of first endpoints are written: when all handlers of a session
have returned, nothing is left of it, and an endpoint of either role can register. -/
theorem cleaned_up (events : List Event)
    (hanswers : ∀ es e, es ++ [e] <+: events → Answers (Mealy.after (step V) .new es) e)
    (id : SessionId) (hreturned : AllReturned (Mealy.after (step V) .new events) id.value) :
    CleanedUp (Mealy.after (step V) .new events) id := by
  refine owned_cleanedUp _ ?_ id hreturned
  exact Mealy.after_invariant_of (step_owned V) .new events owned_new hanswers

/-- The only task of a run has returned. -/
theorem allReturned_of_zero (events : List Event) (h : ∀ e ∈ events, e.task = 0)
    (hreturned : Returned ((Mealy.after (step V) .new events).phase 0) = true) (id : String) :
    AllReturned (Mealy.after (step V) .new events) id := by
  intro i reg hreg _
  by_cases hi : i = 0
  · rw [hi]
    exact hreturned
  · rw [after_phase V .new events i fun e he => by rw [h e he]; exact Ne.symm hi] at hreg
    cases hreg

/-- A client comes, waits, loses its connection and cleans up. -/
def visit : List Event :=
  [.turn 0 (.token (signedFor .client) 2000), .turn 0 .go, .turn 0 .go, .disconnect 0,
    .turn 0 .closed, .turn 0 .go, .turn 0 .go]

theorem cleaned_up_visit :
    AllReturned (Mealy.after (step sampleVerifier) .new visit) sampleId.value ∧
      CleanedUp (Mealy.after (step sampleVerifier) .new visit) sampleId := by
  have hreturned : Returned ((Mealy.after (step sampleVerifier) .new visit).phase 0) = true := by
    rw [after_signedFor _ _ (by simp [visit, Event.Signed])]
    decide +kernel
  have hall := allReturned_of_zero sampleVerifier visit (by simp [visit, Event.task]) hreturned
    sampleId.value
  refine ⟨hall, cleaned_up sampleVerifier visit ?_ sampleId hall⟩
  simp only [visit, Mealy.along_cons]
  exact ⟨trivial, trivial, trivial, trivial, trivial, trivial, trivial, by simp⟩

/-- A client registers and enters itself, but its response cannot be written. -/
def unanswered : List Event :=
  [.turn 0 (.token (signedFor .client) 2000), .turn 0 .go, .turn 0 .fail]

/-- Its handler has returned, and both entries stay: the client can not register again. -/
theorem unanswered_leaks :
    AllReturned (Mealy.after (step sampleVerifier) .new unanswered) sampleId.value ∧
      ¬CleanedUp (Mealy.after (step sampleVerifier) .new unanswered) sampleId ∧
      ((Mealy.after (step sampleVerifier) .new unanswered).waitingPeers[sampleId.value]?).map
        WaitingPeer.task = some 0 ∧
      ((Mealy.after (step sampleVerifier) .new unanswered).table.registerOrJoin
        (signedFor .client) 2000).1 = .error .roleAlreadyConnected := by
  have hafter := after_signedFor .new unanswered (by simp [unanswered, Event.Signed])
  have hreturned : Returned ((Mealy.after (step sampleVerifier) .new unanswered).phase 0) = true := by
    rw [hafter]
    decide +kernel
  have hentry : ((Mealy.after (step sampleVerifier) .new unanswered).waitingPeers[sampleId.value]?).map
      WaitingPeer.task = some 0 := by
    rw [hafter]
    decide +kernel
  have hrefused : ((Mealy.after (step sampleVerifier) .new unanswered).table.registerOrJoin
      (signedFor .client) 2000).1 = .error .roleAlreadyConnected := by
    rw [hafter]
    decide +kernel
  refine ⟨allReturned_of_zero sampleVerifier unanswered (by simp [unanswered, Event.task]) hreturned
    sampleId.value, ?_, hentry, hrefused⟩
  intro h
  rw [h.waiting] at hentry
  cases hentry

end RelayCleanup
