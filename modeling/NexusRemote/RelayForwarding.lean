import NexusRemote.RelayTokens
import NexusRemote.StreamCopy

/-!
# What the relay forwards (`apps/nexus-relay/src/forwarder.rs`)

Once the two sides of a session are paired, `forward_session` copies what they
send each other. A stream that one side opens is bridged to a new stream to the
other, with a loop for each direction; datagrams are passed on one by one. All
these loops run side by side and share the session's counters
(`apps/nexus-relay/src/session.rs`). The lists of what has arrived and gone out
are a ledger beside them that no loop reads.

When a connection has closed, `forward_session` aborts the two tasks that accept
streams and read datagrams and closes both connections. An aborted task ends
where it next has to wait; until then it goes on. Quinn still hands out what a
closed connection has received before, but opens no stream on it, sends no
datagram on it and writes nothing to its streams.
-/

namespace RelayForwarding

open BigEndian RelayTokens StreamCopy

/-! ## The counters -/

structure RelayMetrics where
  clientToHostBytes : UInt64
  hostToClientBytes : UInt64
  clientToHostPackets : UInt64
  hostToClientPackets : UInt64
  deriving DecidableEq, Repr

namespace RelayMetrics

def default : RelayMetrics := ⟨0, 0, 0, 0⟩

/-- `RelaySession::record_forward`; the counters wrap around. -/
def recordForward (m : RelayMetrics) (role : EndpointRole) (bytes : UInt64) : RelayMetrics :=
  match role with
  | .client =>
    { m with
      clientToHostBytes := m.clientToHostBytes + bytes
      clientToHostPackets := m.clientToHostPackets + 1 }
  | .host =>
    { m with
      hostToClientBytes := m.hostToClientBytes + bytes
      hostToClientPackets := m.hostToClientPackets + 1 }

/-- The bytes that came from a side. -/
def bytes (m : RelayMetrics) : EndpointRole → UInt64
  | .client => m.clientToHostBytes
  | .host => m.hostToClientBytes

/-- The chunks and datagrams that came from it. -/
def packets (m : RelayMetrics) : EndpointRole → UInt64
  | .client => m.clientToHostPackets
  | .host => m.hostToClientPackets

theorem bytes_recordForward (m : RelayMetrics) (role other : EndpointRole) (bytes : UInt64) :
    (m.recordForward role bytes).bytes other =
      if other = role then m.bytes other + bytes else m.bytes other := by
  cases role <;> cases other <;> rfl

theorem packets_recordForward (m : RelayMetrics) (role other : EndpointRole) (bytes : UInt64) :
    (m.recordForward role bytes).packets other =
      if other = role then m.packets other + 1 else m.packets other := by
  cases role <;> cases other <;> rfl

end RelayMetrics

/-! ## The loops -/

/-- The size of the buffer of `bridge_bistreams`. -/
def bufferSize : Nat := 64 * 1024

/-- A stream of one side and the stream to the other that it is bridged to: one copy for each side
that sends. -/
structure Bridge where
  initiator : EndpointRole
  copy : EndpointRole → Copy UInt8

def Bridge.new (initiator : EndpointRole) : Bridge := ⟨initiator, fun _ => .new⟩

def Bridge.advance (b : Bridge) (role : EndpointRole) (answer : Answer UInt8) : Bridge :=
  { b with copy := Function.update b.copy role (StreamCopy.step bufferSize (b.copy role) answer).2 }

/-- What becomes of a datagram that is passed on. -/
inductive Passed where
  | sent
  /-- The other side does not take it, now or at all. -/
  | refused
  | connectionLost
  deriving DecidableEq, Repr

/-- How far `forward_session` has come. -/
inductive Stage where
  /-- None of the connections is known to have closed. -/
  | waiting
  | streamsAborted
  | datagramsAborted
  | clientClosed
  | ended
  deriving DecidableEq, Repr

structure Forwarding where
  /-- In the order in which they were opened. -/
  bridges : List Bridge
  /-- The loops of `forward_streams`, by the side whose streams they accept. -/
  accepting : EndpointRole → Bool
  /-- The loops of `forward_datagrams`, by the side whose datagrams they read. -/
  relaying : EndpointRole → Bool
  metrics : RelayMetrics
  /-- The sides whose connection has not closed. -/
  connected : EndpointRole → Bool
  stage : Stage
  arrived : EndpointRole → List Bytes
  passed : EndpointRole → List Bytes

def Forwarding.new : Forwarding where
  bridges := []
  accepting := fun _ => true
  relaying := fun _ => true
  metrics := .default
  connected := fun _ => true
  stage := .waiting
  arrived := fun _ => []
  passed := fun _ => []

inductive Input where
  /-- A side has opened a stream, and the relay opens one to the other side or cannot. -/
  | stream (role : EndpointRole) (opened : Bool)
  | acceptFailed (role : EndpointRole)
  /-- A loop of a bridge gets an answer. -/
  | copied (index : Nat) (role : EndpointRole) (answer : Answer UInt8)
  | datagram (role : EndpointRole) (bytes : Bytes) (passed : Passed)
  | readFailed (role : EndpointRole)
  /-- The connection of a side closes, for whatever reason. -/
  | lost (role : EndpointRole)
  /-- `forward_session` goes on. -/
  | proceed
  /-- The aborted task of `forward_streams` ends. -/
  | streamsEnd
  /-- The aborted task of `forward_datagrams` ends. -/
  | datagramsEnd

def stop (loops : EndpointRole → Bool) (role : EndpointRole) : EndpointRole → Bool :=
  Function.update loops role false

/-- What a loop is told that writes to this side; a closed connection takes nothing. -/
def told (f : Forwarding) (target : EndpointRole) : Answer UInt8 → Answer UInt8
  | .wrote count => if f.connected target then .wrote count else .writeError
  | answer => answer

/-- The counters after a copy has gone on. -/
def account (m : RelayMetrics) (role : EndpointRole) : Option Nat → RelayMetrics
  | some size => m.recordForward role (UInt64.ofNat size)
  | none => m

def proceed (f : Forwarding) : Forwarding :=
  match f.stage with
  | .waiting =>
    if f.connected .client && f.connected .host then f else { f with stage := .streamsAborted }
  | .streamsAborted => { f with stage := .datagramsAborted }
  | .datagramsAborted =>
    { f with connected := stop f.connected .client, stage := .clientClosed }
  | .clientClosed => { f with connected := stop f.connected .host, stage := .ended }
  | .ended => f

def step (f : Forwarding) : Input → Unit × Forwarding
  | .stream role opened =>
    if !f.accepting role then ((), f)
    else if opened && f.connected role.peer then
      ((), { f with bridges := f.bridges ++ [Bridge.new role] })
    else ((), { f with accepting := stop f.accepting role })
  | .acceptFailed role => ((), { f with accepting := stop f.accepting role })
  | .copied index role answer =>
    match f.bridges[index]? with
    | none => ((), f)
    | some b =>
      let answer := told f role.peer answer
      ((), { f with
        bridges := f.bridges.modify index (·.advance role answer)
        metrics := account f.metrics role (StreamCopy.step bufferSize (b.copy role) answer).1 })
  | .datagram role bytes passed =>
    if !f.relaying role then ((), f)
    else
      -- The datagram is counted before it is passed on.
      let f := { f with
        metrics := f.metrics.recordForward role (UInt64.ofNat bytes.length)
        arrived := Function.update f.arrived role (f.arrived role ++ [bytes]) }
      match if f.connected role.peer then passed else .connectionLost with
      | .sent => ((), { f with passed := Function.update f.passed role (f.passed role ++ [bytes]) })
      | .refused => ((), f)
      | .connectionLost => ((), { f with relaying := stop f.relaying role })
  | .readFailed role => ((), { f with relaying := stop f.relaying role })
  | .lost role => ((), { f with connected := stop f.connected role })
  | .proceed => ((), proceed f)
  | .streamsEnd =>
    if f.stage = .waiting then ((), f) else ((), { f with accepting := fun _ => false })
  | .datagramsEnd =>
    if f.stage = .waiting ∨ f.stage = .streamsAborted then ((), f)
    else ((), { f with relaying := fun _ => false })

theorem stop_false {loops : EndpointRole → Bool} (role other : EndpointRole)
    (h : loops other = false) : stop loops role other = false := by
  unfold stop
  by_cases hrole : other = role
  · subst hrole
    simp
  · simp [Function.update_of_ne hrole, h]

/-- `forward_session` only aborts and closes. -/
theorem proceed_eq (f : Forwarding) : ∃ connected stage, proceed f = { f with connected, stage } ∧
    ∀ role, f.connected role = false → connected role = false := by
  unfold proceed
  cases f.stage with
  | waiting =>
    simp only
    split
    · exact ⟨f.connected, f.stage, rfl, fun _ => id⟩
    · exact ⟨_, _, rfl, fun _ => id⟩
  | streamsAborted => exact ⟨_, _, rfl, fun _ => id⟩
  | datagramsAborted | clientClosed => exact ⟨_, _, rfl, stop_false _⟩
  | ended => exact ⟨f.connected, f.stage, rfl, fun _ => id⟩

/-! ## Lists that change in one place -/

section
variable {α β : Type}

theorem forall_mem_modify {p : α → Prop} (f : α → α) (hf : ∀ a, p a → p (f a)) (l : List α)
    (i : Nat) (h : ∀ a ∈ l, p a) : ∀ a ∈ l.modify i f, p a := by
  induction l generalizing i with
  | nil => simp
  | cons a l ih =>
    obtain ⟨ha, hl⟩ := List.forall_mem_cons.mp h
    cases i with
    | zero => exact List.forall_mem_cons.mpr ⟨hf a ha, hl⟩
    | succ i => exact List.forall_mem_cons.mpr ⟨ha, ih i hl⟩

theorem sum_modify (g d : α → Nat) (f : α → α) (hd : ∀ a, g (f a) = g a + d a) (l : List α)
    (i : Nat) : ((l.modify i f).map g).sum = (l.map g).sum + (l[i]?.map d).getD 0 := by
  induction l generalizing i with
  | nil => simp
  | cons a l ih =>
    cases i with
    | zero => simp [hd, Nat.add_right_comm]
    | succ i => simp [ih, Nat.add_assoc]

end

/-! ## The books -/

/-- The bytes of streams of a side that have been accounted for, over all bridges. -/
def streamed (bridges : List Bridge) (role : EndpointRole) : Nat :=
  (bridges.map fun b => (b.copy role).recorded).sum

/-- The chunks of its streams. -/
def chunks (bridges : List Bridge) (role : EndpointRole) : Nat :=
  (bridges.map fun b => (b.copy role).chunks).sum

def volume (datagrams : List Bytes) : Nat := (datagrams.map List.length).sum

/-- What holds at any time of the forwarding. -/
structure Accounts (f : Forwarding) : Prop where
  balanced : ∀ b ∈ f.bridges, ∀ role, Balanced bufferSize (b.copy role)
  bytes : ∀ role, f.metrics.bytes role =
    UInt64.ofNat (streamed f.bridges role + volume (f.arrived role))
  packets : ∀ role, f.metrics.packets role =
    UInt64.ofNat (chunks f.bridges role + (f.arrived role).length)
  passed : ∀ role, (f.passed role).Sublist (f.arrived role)

theorem accounts_new : Accounts .new where
  balanced := by simp [Forwarding.new]
  bytes := by
    rintro (_ | _) <;> rfl
  packets := by
    rintro (_ | _) <;> rfl
  passed := by simp [Forwarding.new]

/-- A stream that is opened has carried nothing. -/
theorem opened_sums (bridges : List Bridge) (initiator role : EndpointRole) :
    streamed (bridges ++ [.new initiator]) role = streamed bridges role ∧
      chunks (bridges ++ [.new initiator]) role = chunks bridges role := by
  simp [streamed, chunks, Bridge.new, Copy.new]

/-- What one answer adds to the sums: what the copy accounts for. -/
theorem advance_sums (bridges : List Bridge) (index : Nat) (b : Bridge)
    (role other : EndpointRole) (answer : Answer UInt8) (h : bridges[index]? = some b) :
    let size := (StreamCopy.step bufferSize (b.copy role) answer).1
    streamed (bridges.modify index (·.advance role answer)) other =
        streamed bridges other + (if other = role then size.getD 0 else 0) ∧
      chunks (bridges.modify index (·.advance role answer)) other =
        chunks bridges other + if other = role then size.toList.length else 0 := by
  intro size
  have hstep (b : Bridge) := step_recorded bufferSize (b.copy role) answer
  by_cases hrole : other = role
  · subst hrole
    simp only [if_true]
    constructor
    · rw [streamed,
        sum_modify _ (fun b => (StreamCopy.step bufferSize (b.copy other) answer).1.getD 0) _
          (fun b => by simp [Bridge.advance, (hstep b).1]), h]
      rfl
    · rw [chunks, sum_modify _
        (fun b => (StreamCopy.step bufferSize (b.copy other) answer).1.toList.length)
        _ (fun b => by simp [Bridge.advance, (hstep b).2]), h]
      rfl
  · simp only [if_neg hrole]
    constructor
    · rw [streamed, sum_modify _ (fun _ => 0) _
        (fun b => by simp [Bridge.advance, Function.update_of_ne hrole]), h]
      rfl
    · rw [chunks, sum_modify _ (fun _ => 0) _
        (fun b => by simp [Bridge.advance, Function.update_of_ne hrole]), h]
      rfl

theorem advance_balanced (b : Bridge) (role : EndpointRole) (answer : Answer UInt8)
    (h : ∀ role, Balanced bufferSize (b.copy role)) :
    ∀ other, Balanced bufferSize ((b.advance role answer).copy other) := by
  intro other
  by_cases hrole : other = role
  · subst hrole
    simpa [Bridge.advance] using step_balanced bufferSize (b.copy other) answer (h other)
  · simpa [Bridge.advance, Function.update_of_ne hrole] using h other

/-- What an answer adds to the counters. -/
theorem account_counters (m : RelayMetrics) (role other : EndpointRole) (size : Option Nat) :
    (account m role size).bytes other =
        m.bytes other + UInt64.ofNat (if other = role then size.getD 0 else 0) ∧
      (account m role size).packets other =
        m.packets other + UInt64.ofNat (if other = role then size.toList.length else 0) := by
  cases size with
  | none => simp [account]
  | some n =>
    rw [account, RelayMetrics.bytes_recordForward, RelayMetrics.packets_recordForward]
    by_cases hrole : other = role
    · simp [hrole]
    · simp [hrole]

theorem copied_accounts (f : Forwarding) (index : Nat) (b : Bridge) (role : EndpointRole)
    (answer : Answer UInt8) (hb : f.bridges[index]? = some b) (h : Accounts f) :
    Accounts { f with
      bridges := f.bridges.modify index (·.advance role answer)
      metrics := account f.metrics role (StreamCopy.step bufferSize (b.copy role) answer).1 } where
  balanced :=
    forall_mem_modify _ (fun b => advance_balanced b role answer) f.bridges index h.balanced
  bytes := by
    intro other
    have hsums := (advance_sums f.bridges index b role other answer hb).1
    have hcounters := (account_counters f.metrics role other
      (StreamCopy.step bufferSize (b.copy role) answer).1).1
    rw [hcounters, hsums, h.bytes, Nat.add_right_comm, ← UInt64.ofNat_add]
  packets := by
    intro other
    have hsums := (advance_sums f.bridges index b role other answer hb).2
    have hcounters := (account_counters f.metrics role other
      (StreamCopy.step bufferSize (b.copy role) answer).1).2
    rw [hcounters, hsums, h.packets, Nat.add_right_comm, ← UInt64.ofNat_add]
  passed := h.passed

/-- The ledger and the counters after a datagram has arrived. -/
theorem arrived_accounts (f : Forwarding) (role : EndpointRole) (bytes : Bytes) (h : Accounts f) :
    Accounts { f with
      metrics := f.metrics.recordForward role (UInt64.ofNat bytes.length)
      arrived := Function.update f.arrived role (f.arrived role ++ [bytes]) } where
  balanced := h.balanced
  bytes := by
    intro other
    rw [RelayMetrics.bytes_recordForward]
    by_cases hrole : other = role
    · subst hrole
      simp [h.bytes, volume, UInt64.add_assoc]
    · simp [hrole, h.bytes]
  packets := by
    intro other
    rw [RelayMetrics.packets_recordForward]
    by_cases hrole : other = role
    · subst hrole
      simp [h.packets, UInt64.add_assoc]
    · simp [hrole, h.packets]
  passed := by
    intro other
    by_cases hrole : other = role
    · subst hrole
      simpa using (h.passed other).trans (List.sublist_append_left _ _)
    · simpa [Function.update_of_ne hrole] using h.passed other

/-- Loops that stop and connections that close change nothing of the books. -/
theorem stopped_accounts (f : Forwarding) (accepting relaying connected : EndpointRole → Bool)
    (stage : Stage) (h : Accounts f) :
    Accounts { f with accepting, relaying, connected, stage } :=
  ⟨h.balanced, h.bytes, h.packets, h.passed⟩

theorem step_accounts (f : Forwarding) (input : Input) (h : Accounts f) :
    Accounts (step f input).2 := by
  cases input with
  | stream role opened =>
    simp only [step]
    split
    · exact h
    · split
      · refine ⟨?_, fun other => ?_, fun other => ?_, h.passed⟩
        · refine List.forall_mem_append.mpr ⟨h.balanced, List.forall_mem_singleton.mpr fun _ => ?_⟩
          exact balanced_new bufferSize
        · rw [(opened_sums f.bridges role other).1]
          exact h.bytes other
        · rw [(opened_sums f.bridges role other).2]
          exact h.packets other
      · exact stopped_accounts f _ _ _ _ h
  | acceptFailed | readFailed | lost => exact stopped_accounts f _ _ _ _ h
  | copied index role answer =>
    simp only [step]
    split
    · exact h
    · rename_i b hb
      exact copied_accounts f index b role _ hb h
  | datagram role bytes passed =>
    simp only [step]
    split
    · exact h
    · have harrived := arrived_accounts f role bytes h
      cases (if f.connected role.peer then passed else Passed.connectionLost) with
      | sent =>
        refine ⟨harrived.balanced, harrived.bytes, harrived.packets, fun other => ?_⟩
        by_cases hrole : other = role
        · subst hrole
          simpa using (h.passed other).append (List.Sublist.refl [bytes])
        · simpa [Function.update_of_ne hrole] using h.passed other
      | refused => exact harrived
      | connectionLost => exact stopped_accounts _ _ _ _ _ harrived
  | proceed =>
    obtain ⟨connected, stage, hproceed, -⟩ := proceed_eq f
    rw [step, hproceed]
    exact stopped_accounts f _ _ _ _ h
  | streamsEnd | datagramsEnd =>
    simp only [step]
    split
    · exact h
    · exact stopped_accounts f _ _ _ _ h

/-- Over every interleaving of all the loops of a session, for each side that sends and each bridge:
what went to the other side is the beginning of what came from it, all of it when the stream was
finished or reset; and the datagrams passed on are among those that arrived, in their order. The
session's counters are, modulo `2 ^ 64`, the stream bytes and chunks that went out in full and the
datagrams that arrived, of that side alone; a bridge's share of them is at most one buffer behind
what it wrote. -/
theorem relay_forwards_faithfully (inputs : List Input) :
    let f := Mealy.after step Forwarding.new inputs
    (∀ b ∈ f.bridges, ∀ role, (b.copy role).written <+: (b.copy role).read ∧
        ((b.copy role).phase = .ended .finished ∨ (b.copy role).phase = .ended .reset →
          (b.copy role).written = (b.copy role).read) ∧
        (b.copy role).recorded ≤ (b.copy role).written.length ∧
        (b.copy role).written.length ≤ (b.copy role).recorded + bufferSize) ∧
      ∀ role, (f.passed role).Sublist (f.arrived role) ∧
        f.metrics.bytes role =
          UInt64.ofNat (streamed f.bridges role + volume (f.arrived role)) ∧
        f.metrics.packets role =
          UInt64.ofNat (chunks f.bridges role + (f.arrived role).length) := by
  intro f
  have h : Accounts f := Mealy.after_always step_accounts .new inputs accounts_new
  constructor
  · intro b hb role
    have hbalanced := h.balanced b hb role
    exact ⟨hbalanced.written_begins, hbalanced.complete, hbalanced.recorded_le⟩
  · intro role
    exact ⟨h.passed role, h.bytes role, h.packets role⟩

/-! ## A connection that has closed -/

end RelayForwarding
