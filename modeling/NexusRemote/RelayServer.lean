import NexusRemote.ControlEncoding
import NexusRemote.RelaySessions

/-!
# The relay's connection handler (`apps/nexus-relay/src/server.rs`)

`handle_connection` runs as a task of its own for every connection. Tasks share
the session table and the map of waiting peers, each behind its own lock, and
hand a connection over through a one-shot channel. A task is cut at every access
to something shared and at every await; `turn` runs it from one cut to the next.
The token, the clock and the outcome of an awaited operation are inputs.
-/

namespace RelayServer

open EntityId RelayTokens RelaySessions

/-- A task, its connection and its channel go by one number. -/
abbrev TaskId := Nat

structure RelayHandshakeResponse where
  success : Bool
  sessionId : Option SessionId
  role : Option EndpointRole
  isPaired : Option Bool
  error : Option String
  deriving DecidableEq

/-- The code and the reason of `Connection::close`. -/
structure Close where
  code : Nat
  reason : String
  deriving DecidableEq, Repr

def handshakeStreamError : Close := ⟨1, "handshake stream error"⟩
def handshakeTimeout : Close := ⟨1, "handshake timeout"⟩
def invalidHandshakeToken : Close := ⟨2, "invalid handshake token"⟩
def tokenVerificationFailed : Close := ⟨3, "token verification failed"⟩
def sessionPairingFailed : Close := ⟨4, "session pairing failed"⟩
def failedToSendResponse : Close := ⟨5, "failed to send handshake response"⟩
def peerDisconnected : Close := ⟨6, "peer disconnected prematurely"⟩
def pairingStateMismatch : Close := ⟨7, "pairing state mismatch"⟩
def sessionClosed : Close := ⟨0, "session closed"⟩

/-- What `register_or_join` gave to a task. -/
structure Registration where
  token : RelayToken
  session : SessionRef
  isPaired : Bool
  deriving DecidableEq

def Registration.id (reg : Registration) : String := reg.token.sessionId.value

/-- Where a task is, with the local variables that it still needs. -/
inductive Phase where
  /-- Waiting for the handshake stream and its token. -/
  | handshake
  /-- Writing a failure; whether that works does not matter. -/
  | refuse (response : RelayHandshakeResponse) (close : Close)
  /-- The first endpoint, about to enter itself into `waiting_peers`. -/
  | publish (reg : Registration)
  /-- Writing the successful response. -/
  | respond (reg : Registration)
  /-- The first endpoint in `select!`: for the peer, or for its own connection to close. -/
  | waiting (reg : Registration)
  | forwarding (reg : Registration) (peer : TaskId)
  /-- The connection has closed: about to remove the entry in `waiting_peers`. -/
  | leaving (reg : Registration)
  /-- About to call `remove_session`, and to close the connection after it. -/
  | unregister (reg : Registration) (close : Option Close)
  /-- The second endpoint, about to take the entry out of `waiting_peers`. -/
  | take (reg : Registration)
  /-- The second endpoint, with the sender of the first one's channel. -/
  | handOver (reg : Registration) (sender : TaskId)
  /-- Handed over; waiting for the connection to close. -/
  | linked (reg : Registration)
  | returned (reg : Option Registration)
  deriving DecidableEq

/-- The one-shot channel of a first endpoint. -/
inductive Channel where
  | empty
  | sent (role : EndpointRole) (connection : TaskId)
  /-- The sender was dropped before it sent. -/
  | dropped
  deriving DecidableEq, Repr

structure Task where
  phase : Phase := .handshake
  channel : Channel := .empty
  /-- The connection has closed, from either end. -/
  closed : Bool := false
  /-- How the handler has closed it. -/
  close : Option Close := none

/-- An entry of `waiting_peers`: the role and, by its number, the connection and the sender. -/
structure WaitingPeer where
  role : EndpointRole
  task : TaskId
  deriving DecidableEq

structure Relay where
  table : RelaySessionTable
  waitingPeers : Std.TreeMap String WaitingPeer
  /-- A connection that has not come yet is one whose token has not come yet. -/
  task : TaskId → Task

def Relay.new : Relay := ⟨.new, ∅, fun _ => {}⟩

def Relay.phase (r : Relay) (i : TaskId) : Phase := (r.task i).phase

def Relay.setTask (r : Relay) (i : TaskId) (task : Task) : Relay :=
  { r with task := Function.update r.task i task }

/-- Task `i` goes on to another phase. -/
def Relay.become (r : Relay) (i : TaskId) (phase : Phase) : Relay :=
  r.setTask i { r.task i with phase := phase }

/-- The handler closes connection `i`. -/
def Relay.closeConnection (r : Relay) (i : TaskId) (close : Close) : Relay :=
  r.setTask i { r.task i with closed := true, close := some close }

/-- The sender in an entry is dropped with it. -/
def Relay.dropSender (r : Relay) : Option WaitingPeer → Relay
  | none => r
  | some peer => r.setTask peer.task { r.task peer.task with channel := .dropped }

/-- The receiver of task `i` is alive: it has not left the `select!`. -/
def Phase.listening : Phase → Bool
  | .publish _ | .respond _ | .waiting _ => true
  | _ => false

def failureResponse (token : RelayToken) (error : String) : RelayHandshakeResponse :=
  ⟨false, some token.sessionId, some token.role, none, some error⟩

/-- What the operation that a task awaits comes to. -/
inductive Input where
  | go
  | fail
  /-- The token that was read, and the clock when it had been read. -/
  | token (token : RelayToken) (now : UInt64)
  | timeout
  /-- The text of the error in reading the token. -/
  | malformed (error : String)
  /-- `conn.closed()` wins the `select!`. -/
  | closed

variable (V : RelayTokenVerifier)

/-- The handshake, up to the registration. -/
def Relay.acceptToken (r : Relay) (i : TaskId) (token : RelayToken) (now : UInt64) : Relay :=
  match V.verify token now with
  | .error e => r.become i (.refuse (failureResponse token e.message) tokenVerificationFailed)
  | .ok () =>
    match r.table.registerOrJoin token now with
    | (.error e, table) =>
      { r with table := table }.become i
        (.refuse (failureResponse token e.message) sessionPairingFailed)
    | (.ok (session, isPaired), table) =>
      let reg : Registration := ⟨token, session, isPaired⟩
      { r with table := table }.become i (if isPaired then .respond reg else .publish reg)

/-- Runs task `i` up to its next cut. A task whose awaited operation is not ready stays. -/
def Relay.turn (r : Relay) (i : TaskId) (input : Input) : Relay :=
  match r.phase i, input with
  | .handshake, .token token now => r.acceptToken V i token now
  | .handshake, .fail => (r.closeConnection i handshakeStreamError).become i (.returned none)
  | .handshake, .timeout => (r.closeConnection i handshakeTimeout).become i (.returned none)
  | .handshake, .malformed error =>
    r.become i (.refuse ⟨false, none, none, none, some error⟩ invalidHandshakeToken)
  | .refuse _ close, _ => (r.closeConnection i close).become i (.returned none)
  | .publish reg, .go =>
    let old := r.waitingPeers[reg.id]?
    ({ r with waitingPeers := r.waitingPeers.insert reg.id ⟨reg.token.role, i⟩ }.dropSender
      old).become i (.respond reg)
  | .respond reg, .go => r.become i (if reg.isPaired then .take reg else .waiting reg)
  | .respond reg, .fail => (r.closeConnection i failedToSendResponse).become i (.returned (some reg))
  | .waiting reg, .go =>
    match (r.task i).channel with
    | .sent _ peer => r.become i (.forwarding reg peer)
    | .dropped => r.become i (.unregister reg none)
    | .empty => r
  | .waiting reg, .closed => if (r.task i).closed then r.become i (.leaving reg) else r
  | .forwarding reg peer, .go =>
    if (r.task i).closed || (r.task peer).closed then
      (({ r with table := r.table.terminate reg.session }.closeConnection i
        sessionClosed).closeConnection peer sessionClosed).become i (.unregister reg none)
    else r
  | .leaving reg, .go =>
    let old := r.waitingPeers[reg.id]?
    ({ r with waitingPeers := r.waitingPeers.erase reg.id }.dropSender old).become i
      (.unregister reg none)
  | .unregister reg close, .go =>
    let r := { r with table := r.table.removeSession reg.token.sessionId }
    match close with
    | none => r.become i (.returned (some reg))
    | some close => (r.closeConnection i close).become i (.returned (some reg))
  | .take reg, .go =>
    match r.waitingPeers[reg.id]? with
    | some peer =>
      { r with waitingPeers := r.waitingPeers.erase reg.id }.become i (.handOver reg peer.task)
    | none => r.become i (.unregister reg (some pairingStateMismatch))
  | .handOver reg sender, .go =>
    if (r.phase sender).listening then
      (r.setTask sender { r.task sender with channel := .sent reg.token.role i }).become i
        (.linked reg)
    else r.become i (.unregister reg (some peerDisconnected))
  | .linked reg, .go => if (r.task i).closed then r.become i (.returned (some reg)) else r
  | _, _ => r

/-- The connections of the client and of the host that task `i` calls `forward_session` with. -/
def Registration.connections (reg : Registration) (i peer : TaskId) : TaskId × TaskId :=
  match reg.token.role with
  | .client => (i, peer)
  | .host => (peer, i)

inductive Event where
  | turn (i : TaskId) (input : Input)
  /-- The connection of a task is closed by its other end, or times out. -/
  | disconnect (i : TaskId)

def step (r : Relay) : Event → Unit × Relay
  | .turn i input => ((), r.turn V i input)
  | .disconnect i => ((), r.setTask i { r.task i with closed := true })

/-! ## What other tasks see

Of a relay only the table, the waiting peers, the phases and the channels matter to other tasks.
-/

def Relay.channel (r : Relay) (i : TaskId) : Channel := (r.task i).channel

/-- The phases and the channels are those of the tasks, whatever the shared state is. -/
@[simp] theorem phase_mk (r : Relay) (table : RelaySessionTable)
    (waitingPeers : Std.TreeMap String WaitingPeer) :
    Relay.phase ⟨table, waitingPeers, r.task⟩ = r.phase := rfl

@[simp] theorem channel_mk (r : Relay) (table : RelaySessionTable)
    (waitingPeers : Std.TreeMap String WaitingPeer) :
    Relay.channel ⟨table, waitingPeers, r.task⟩ = r.channel := rfl

@[simp] theorem table_setTask (r : Relay) (i : TaskId) (task : Task) :
    (r.setTask i task).table = r.table := rfl

@[simp] theorem waitingPeers_setTask (r : Relay) (i : TaskId) (task : Task) :
    (r.setTask i task).waitingPeers = r.waitingPeers := rfl

@[simp] theorem phase_setTask (r : Relay) (i : TaskId) (task : Task) :
    (r.setTask i task).phase = Function.update r.phase i task.phase := by
  funext j
  by_cases h : j = i
  · subst h
    simp [Relay.phase, Relay.setTask]
  · simp [Relay.phase, Relay.setTask, h]

@[simp] theorem channel_setTask (r : Relay) (i : TaskId) (task : Task) :
    (r.setTask i task).channel = Function.update r.channel i task.channel := by
  funext j
  by_cases h : j = i
  · subst h
    simp [Relay.channel, Relay.setTask]
  · simp [Relay.channel, Relay.setTask, h]

@[simp] theorem closed_setTask (r : Relay) (i j : TaskId) (task : Task)
    (h : task.closed = (r.task i).closed) : ((r.setTask i task).task j).closed = (r.task j).closed := by
  by_cases hij : j = i
  · subst hij
    simp [Relay.setTask, h]
  · simp [Relay.setTask, hij]

@[simp] theorem table_become (r : Relay) (i : TaskId) (phase : Phase) :
    (r.become i phase).table = r.table := rfl

@[simp] theorem waitingPeers_become (r : Relay) (i : TaskId) (phase : Phase) :
    (r.become i phase).waitingPeers = r.waitingPeers := rfl

@[simp] theorem phase_become (r : Relay) (i : TaskId) (phase : Phase) :
    (r.become i phase).phase = Function.update r.phase i phase :=
  phase_setTask r i _

@[simp] theorem channel_become (r : Relay) (i : TaskId) (phase : Phase) :
    (r.become i phase).channel = r.channel :=
  (channel_setTask r i _).trans (Function.update_eq_self i r.channel)

@[simp] theorem closed_become (r : Relay) (i j : TaskId) (phase : Phase) :
    ((r.become i phase).task j).closed = (r.task j).closed :=
  closed_setTask r i j _ rfl

theorem setChannel (r : Relay) (i : TaskId) (channel : Channel) :
    (r.setTask i { r.task i with channel := channel }).phase = r.phase ∧
      (r.setTask i { r.task i with channel := channel }).channel =
        Function.update r.channel i channel :=
  ⟨(phase_setTask r i _).trans (Function.update_eq_self i r.phase), channel_setTask r i _⟩

/-! ## A deployed relay -/

/-- Of the verifier only its verdicts on the tokens that come matter. -/
theorem after_congr (W : RelayTokenVerifier) (r : Relay) (events : List Event)
    (h : ∀ i token now, .turn i (.token token now) ∈ events →
      V.verify token now = W.verify token now) :
    Mealy.after (step V) r events = Mealy.after (step W) r events := by
  induction events generalizing r with
  | nil => rfl
  | cons e events ih =>
    have hstep : step V r e = step W r e := by
      cases e with
      | disconnect i => rfl
      | turn i input =>
        simp only [step]
        unfold Relay.turn
        split
        · rename_i token now _
          simp only [Relay.acceptToken, h i token now (by simp)]
        all_goals rfl
    rw [Mealy.after_cons, Mealy.after_cons, hstep]
    exact ih _ fun i token now hmem => h i token now (List.mem_cons_of_mem e hmem)

def sampleVerifier : RelayTokenVerifier := ⟨ControlEncoding.verifyingKey ControlEncoding.seed, "relay-1"⟩

def signedFor (role : EndpointRole) : RelayToken :=
  (tokenFor role).sign (Ed25519.sign ControlEncoding.seed)

theorem signedFor_valid (role : EndpointRole) : sampleVerifier.verify (signedFor role) 2000 = .ok () :=
  verify_sign _ (tokenFor role) _ 2000 (ControlEncoding.matching_keys _) rfl
    (show (2000 : UInt64) < 2120 by decide)

/-- Every token that comes is one of these, at one time. -/
def Event.Signed : Event → Prop
  | .turn _ (.token token now) => now = 2000 ∧ ∃ role, token = signedFor role
  | _ => True

/-- Runs with these tokens are evaluated without the signatures. -/
theorem after_signedFor (r : Relay) (events : List Event) (h : ∀ e ∈ events, e.Signed) :
    Mealy.after (step sampleVerifier) r events =
      Mealy.after (step ⟨fun _ _ => true, "relay-1"⟩) r events := by
  refine after_congr sampleVerifier _ r events ?_
  intro i token now hmem
  obtain ⟨rfl, role, rfl⟩ := h _ hmem
  rw [signedFor_valid]
  exact (verify_sign _ (tokenFor role) _ 2000 (fun _ => rfl) rfl
    (show (2000 : UInt64) < 2120 by decide)).symm

end RelayServer
