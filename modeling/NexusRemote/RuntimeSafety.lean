import NexusRemote.ChaCha20Poly1305
import NexusRemote.ClientRuntime
import NexusRemote.SessionLifetime

/-!
# What the client's runtime does over a whole run

The runs are those of `ClientRuntime`: any order of calls, datagrams, polls,
cancellations and reconnects, whatever the network and the platform answer.
Each result is kept by every single move, and so by every run.
-/

namespace RuntimeSafety

open BigEndian FrameCrypto Capabilities ClientReceiver LatestFrames ClientRuntime
open ClientSession hiding step
open Reassembly VideoAuthenticity Histories Mealy
open ProtobufReader (Codec)
open CursorControl (Client CursorPosition CursorShape F32 MonitorInfo positionCodec shapeCodec)
open WindowInput (InputController Monitor clampToMonitor)
open Paths (Leads)
open ChaCha20Poly1305 (cipher)
open ControlEncoding (encoder matching_keys seed verifyingKey)
open RelayTokens (Matching SigningKey VerifyingKey)
open SessionLifetime (halfHour oneMinute shortToken step_expired step_frame)

variable {E : Encoder} {A : Aead} {P : Codec CursorPosition} {S : Codec CursorShape}
variable {r r' : Runtime} {events : List Event}

/-- The events of a run. -/
def log (E : Encoder) (A : Aead) (P : Codec CursorPosition) (S : Codec CursorShape) (r : Runtime)
    (actions : List Action) : List Event :=
  (trace (step E A P S) r actions).flatten

/-- The runtime after a run. -/
def final (E : Encoder) (A : Aead) (P : Codec CursorPosition) (S : Codec CursorShape) (r : Runtime)
    (actions : List Action) : Runtime :=
  after (step E A P S) r actions

/-- What every move keeps of a log and a state holds after every run. -/
theorem run_keeps {R : List Event → Runtime → Prop}
    (hmove : ∀ log r events r', Move E A P S r events r' → R log r → R (log ++ events) r')
    (r : Runtime) (h : R [] r) (actions : List Action) :
    R (log E A P S r actions) (final E A P S r actions) :=
  (Paths.run_leads step_goes r actions).keeps hmove [] h

/-! ## Fail closed -/

/-- Nothing can come in, go out or be drawn any more. -/
structure Closed (r : Runtime) : Prop where
  session : r.session.state = .expired
  input : r.input.shutdown = true ∧ r.input.queue = []
  render : r.renderQueue.shutdown = true ∧ r.renderQueue.latest = none
  frame : r.latestFrame = none
  cursor : r.client.latestCursor = none ∧ r.client.latestCursorShape = none
  connection : r.connectionClosed = true
  cancelled : r.cancellation.cancelled = true
  shutdown : r.shutdown = true

/-- Input taken, a message sent, a frame shown, a transport replaced, or a call other than
`shutdown` that succeeds; `shutdown` may be called again on a closed runtime. -/
def outward : Event → Bool
  | .accepted _ | .sent .. | .submitted .. | .replaced | .ran (.ok _) | .reconnected (.ok _)
  | .handled (.ok _) => true
  | _ => false

theorem expire_state (s : Session) : s.expire.2.state = .expired := by
  unfold Session.expire
  split
  · assumption
  · rfl

theorem failClosed_closed (r : Runtime) : Closed r.failClosed where
  session := expire_state r.session
  input := ⟨rfl, rfl⟩
  render := ⟨rfl, rfl⟩
  frame := rfl
  cursor := ⟨rfl, rfl⟩
  connection := rfl
  cancelled := rfl
  shutdown := rfl

theorem not_active_of_expired {s : Session} {now : UInt64} (h : s.state = .expired) :
    ¬Active E s now :=
  (step_expired (.ensureActive now) h).1

theorem returns_closed (event : Event) (hreturns : Returns r event) (h : Closed r) :
    outward event = false := by
  have hsession := h.session
  have hshutdown := h.shutdown
  cases event with
  | ran result => cases result <;> simp_all [Returns, outward]
  | reconnected result => cases result <;> simp_all [Returns, outward]
  | handled result => cases result <;> simp_all [Returns, outward]
  | stopped result => rfl
  | _ => exact hreturns.elim

/-- A closed runtime stays closed and does nothing. -/
theorem move_closed (move : Move E A P S r events r') (h : Closed r) :
    Closed r' ∧ ∀ e ∈ events, outward e = false := by
  cases move with
  | flags cancellation closed phase keeps =>
    refine ⟨{ h with connection := ?_, cancelled := keeps h.cancelled }, by simp⟩
    simp [h.connection]
  | drained frame position shape =>
    refine ⟨{ h with frame := ?_, cursor := ?_ }, by simp⟩
    · simp [h.frame]
    · simp [h.cursor]
  | called call =>
    exact ⟨{ h with session := (step_expired call h.session).2 }, by simp⟩
  | rejected now bytes active => exact absurd active (not_active_of_expired h.session)
  | received now bytes active => exact absurd active (not_active_of_expired h.session)
  | submitted now bytes active => exact absurd active (not_active_of_expired h.session)
  | typed input encoded recentEvents running =>
    rw [h.input.1] at running
    cases running
  | told focused recentEvents running =>
    rw [h.input.1] at running
    cases running
  | cleared => exact ⟨{ h with input := ⟨h.input.1, rfl⟩ }, by simp [outward]⟩
  | sent now active => exact absurd active (not_active_of_expired h.session)
  | replaced later hconnected =>
    exact absurd hconnected (step_expired (.connected later) h.session).1
  | closed => exact ⟨failClosed_closed r, by simp [outward]⟩
  | returned event hreturns =>
    exact ⟨h, by simpa using returns_closed event hreturns h⟩

/-- A runtime that is shut down is closed. -/
theorem move_keeps_closed (move : Move E A P S r events r') (h : r.shutdown = true → Closed r)
    (hshut : r'.shutdown = true) : Closed r' := by
  by_cases hbefore : r.shutdown = true
  · exact (move_closed move (h hbefore)).1
  · cases move with
    | closed => exact failClosed_closed r
    | _ => exact absurd hshut hbefore

/-- A call has failed with this error. When `handle_window_event` only hands back what the input
controller has refused, the runtime goes on. -/
def failed (e : ClientRuntimeError) (log : List Event) : Prop :=
  .ran (.error e) ∈ log ∨ .reconnected (.error e) ∈ log ∨ .stopped (.error e) ∈ log ∨
    .handled (.error e) ∈ log ∧ ∀ refusal, e ≠ .input refusal

/-- A runtime that `connect` has made. -/
def Started (E : Encoder) (r : Runtime) : Prop :=
  ∃ config session frameKey nonceDomain cancelled now opening later window pipeline,
    connectWithCancellation E config session frameKey nonceDomain cancelled now opening later window
      pipeline = .ok r

structure Fresh (r : Runtime) : Prop where
  established : ∃ t, r.session.establishedAt = some t
  view : canView r.session = true
  receiver : ∃ frameKey nonceDomain, r.client.receiver = .new frameKey nonceDomain
  queue : r.input.queue = []
  counters : r.receivedFrames = 0 ∧ r.sentInputMessages = 0
  shutdown : r.shutdown = false
  phase : r.phase = .idle

theorem setCursorMonitor_receiver (c : Client) (monitor : MonitorInfo) :
    (c.setCursorMonitor monitor).2.receiver = c.receiver := by
  unfold Client.setCursorMonitor
  split <;> rfl

theorem build_fresh {session : Session} {frameKey : Octets 32} {nonceDomain : UInt32}
    {monitor : MonitorInfo} {window : Except WindowError Unit}
    {pipeline : Except ClientDecoder.DecoderError Unit}
    (h : build session frameKey nonceDomain monitor window pipeline = .ok r)
    (hestablished : ∃ t, session.establishedAt = some t) (hview : canView session = true) :
    Fresh r := by
  have hreceiver := setCursorMonitor_receiver ⟨.new frameKey nonceDomain, none, none, none⟩ monitor
  unfold build at h
  split at h
  · cases h
  · rename_i client hclient
    rw [hclient] at hreceiver
    split at h
    · split at h
      · cases h
      · rename_i input hinput
        have hqueue : input.queue = [] := by rw [InputLimits.withLimits_ok _ _ _ input hinput]
        split at h
        · cases h
        · split at h
          · cases h
          · cases h
            exact ⟨hestablished, hview, ⟨frameKey, nonceDomain, hreceiver⟩, hqueue, ⟨rfl, rfl⟩, rfl,
              rfl⟩
    · cases h

theorem view_of_required {s : Session} (h : requireView s = .ok ()) : canView s = true := by
  unfold requireView at h
  split at h
  · assumption
  · cases h

/-- A call on a session keeps its permissions. -/
theorem step_permission (s : Session) (call : Call) (permission : String) :
    hasPermission (ClientSession.step E s call).2 permission = hasPermission s permission := by
  obtain ⟨state, deadline, established, h⟩ := step_frame (E := E) (s := s) call
  rw [h]
  rfl

theorem connected_established {s session : Session} {later : UInt64}
    (h : s.connected E later = (.ok (), session)) : ∃ t, session.establishedAt = some t := by
  have heffect := connected_effect (E := E) (s := s) later
  rw [h] at heffect
  cases heffect
  exact ⟨_, rfl⟩

theorem Started.fresh (h : Started E r) : Fresh r := by
  obtain ⟨config, session, frameKey, nonceDomain, cancelled, now, opening, later, window, pipeline,
    hconnect⟩ := h
  unfold connectWithCancellation at hconnect
  split at hconnect
  · cases hconnect
  · split at hconnect
    · cases hconnect
    · split at hconnect
      · cases hconnect
      · rename_i hrequired
        have hview := view_of_required hrequired
        split at hconnect
        · cases hconnect
        · rename_i connecting hbegun
          have hbegun' := step_permission (E := E) session (.beginConnect now) "desktop.view"
          rw [ClientSession.step, hbegun] at hbegun'
          split at hconnect <;> try cases hconnect
          split at hconnect
          · cases hconnect
          · rename_i connected hconnected
            have hkept := step_permission (E := E) connecting (.connected later) "desktop.view"
            rw [ClientSession.step, hconnected] at hkept
            exact build_fresh hconnect (connected_established hconnected)
              (hkept.trans (hbegun'.trans hview))

/-! ### A client with a desktop -/

def deskCapability : SessionRequest.SessionCapability :=
  { shortCapability with permissions := ["desktop.view", "desktop.control"] }

section
variable (E : Encoder) (signer : SigningKey) (verifier : VerifyingKey)

/-- A session of two minutes that may view and control. -/
def deskSession : Session :=
  Session.new { deskCapability with signature := (signer (signingBytes E deskCapability)).1 }
    { shortToken with signature := (signer shortToken.signingBytes).1 }
    halfHour oneMinute ⟨verifier, verifier, "relay-nexus-primary"⟩

def deskMonitor : MonitorInfo := ⟨0, 0, 1280, 720, F32.ofBits 0x3f800000⟩

theorem deskMonitor_valid : deskMonitor.validate = .ok () := by decide

/-- The runtime that the session gives when it connects at once. -/
def deskRuntime : Runtime where
  session := { deskSession E signer verifier with state := .connected, establishedAt := some 2000 }
  client := ⟨.new (List.Vector.replicate 32 0) 1, some deskMonitor, none, none⟩
  input := ⟨InputLimits.bounds deskMonitor deskMonitor_valid, false, false, [], 64, 240, []⟩
  renderQueue := RenderQueue.new
  latestFrame := none
  receivedFrames := 0
  sentInputMessages := 0
  cancellation := .new
  connectionClosed := false
  shutdown := false
  phase := .idle

theorem deskSession_claims (hkeys : Matching signer verifier) (now : UInt64)
    (hactive : 2000 ≤ now) (hnow : now < 2120) :
    (deskSession E signer verifier).validateClaims E now = .ok () := by
  have hvalid : validate deskCapability = .ok () := by decide
  refine (validateClaims_ok _ _ now).mpr ⟨⟨?_, hvalid, ?_⟩, hactive, hnow, hnow⟩
  · simp [deskSession, Session.new, Session.validateIdentity, deskCapability, shortCapability,
      shortToken]
  · exact validateSignatures_signed E _ signer signer hkeys hkeys rfl rfl rfl

theorem deskRuntime_started (hkeys : Matching signer verifier) :
    Started E (deskRuntime E signer verifier) := by
  refine ⟨⟨deskMonitor, ⟨1280, 720⟩⟩, deskSession E signer verifier, List.Vector.replicate 32 0, 1,
    false, 2000, .opened false, 2000, .ok (), .ok (), ?_⟩
  have hclaims := deskSession_claims E signer verifier hkeys 2000 (by decide) (by decide)
  have hbegin := beginConnect_fresh E (deskSession E signer verifier) 2000 rfl hclaims
  have hconnect := connected_fresh E { deskSession E signer verifier with state := .connecting }
    2000 rfl rfl hclaims
  have hview : requireView (deskSession E signer verifier) = .ok () := rfl
  have hstream : VideoStreamConfig.validate ⟨1280, 720⟩ = .ok () := by decide
  simp only [connectWithCancellation, Bool.false_eq_true, if_false, hstream, hview, hbegin,
    hconnect]
  rfl

theorem deskRuntime_active (hkeys : Matching signer verifier) :
    (deskRuntime E signer verifier).session.ensureActive E 2001 =
      (.ok (), (deskRuntime E signer verifier).session) := by
  have hclaims : (deskRuntime E signer verifier).session.validateClaims E 2001 = .ok () :=
    deskSession_claims E signer verifier hkeys 2001 (by decide) (by decide)
  have hduration : (deskRuntime E signer verifier).session.sessionDurationExpired 2001 = false := by
    have hage : ¬UnixTime.saturatingDurationSince 2001 2000 ≥ UnixTime.fromSecs 1800 := by decide
    exact decide_eq_false hage
  have hconnected : (deskRuntime E signer verifier).session.state = .connected := rfl
  simp [Session.ensureActive, hconnected, hclaims, hduration]

/-- The log of a run of it. -/
def deskLog (actions : List Action) : List Event :=
  log E cipher positionCodec shapeCodec (deskRuntime E signer verifier) actions

theorem desk_run : step E cipher positionCodec shapeCodec (deskRuntime E signer verifier) .run =
    ([], { deskRuntime E signer verifier with phase := .running }) := rfl

theorem desk_runs (action : Action)
    (h : action.enabled { deskRuntime E signer verifier with phase := .running } = true) :
    deskLog E signer verifier [.run, action] = (perform E cipher positionCodec shapeCodec
      { deskRuntime E signer verifier with phase := .running } action).1 := by
  simp only [deskLog, log, trace_cons, trace_nil, List.flatten_cons, List.flatten_nil,
    List.append_nil, desk_run, List.nil_append]
  rw [step, if_pos h]

/-- A key is typed and sent. -/
def typing : Action :=
  .poll 2001 none [(.focused true, 0), (.input (.key 4 4 .up .none), 1)] (.ok ())

def typed : List Event := [.accepted (.key 4 4 .up .none), .sent 2001 [0, 0, 0, 4, 8, 4, 16, 4]]

theorem desk_polls (hkeys : Matching signer verifier) :
    ∃ input, perform E cipher positionCodec shapeCodec
      { deskRuntime E signer verifier with phase := .running } typing = (typed,
        { deskRuntime E signer verifier with
          phase := .running, input, sentInputMessages := 1 }) := by
  have hactive := deskRuntime_active E signer verifier hkeys
  have hcontrol : canControl (deskRuntime E signer verifier).session = true := by
    change deskCapability.permissions.any (· == "desktop.control") = true
    decide
  have hencode : InputEvents.ClientInputSender.encode (.key 4 4 .up .none) =
      .ok [0, 0, 0, 4, 8, 4, 16, 4] := by decide +kernel
  have hinput : (deskRuntime E signer verifier).input =
      ⟨InputLimits.bounds deskMonitor deskMonitor_valid, false, false, [], 64, 240, []⟩ := rfl
  have hcounter : saturatingAdd (deskRuntime E signer verifier).sentInputMessages 1 = 1 := by
    change saturatingAdd 0 1 = 1
    decide
  refine ⟨⟨InputLimits.bounds deskMonitor deskMonitor_valid, true, false, [], 64, 240, [1]⟩, ?_⟩
  simp [perform, typing, typed, Runtime.onPoll, hactive, Runtime.pumpWindowEvents,
    Runtime.continueWith, Runtime.pumpInput, hcontrol, WindowInput.WindowEvent.isInput,
    InputController.handleWindowEvent, InputController.enqueueInput, InputController.setFocused,
    InputController.recent, clampToMonitor, hencode, hinput, WindowInput.maxInputControlBytes,
    InputLimits.tryNextControl, hcounter]

theorem desk_types (hkeys : Matching signer verifier) :
    deskLog E signer verifier [.run, typing] = typed := by
  obtain ⟨input, hpolls⟩ := desk_polls E signer verifier hkeys
  rw [desk_runs E signer verifier _ rfl, hpolls]

/-- Then the transport is lost. -/
theorem desk_types_and_loses (hkeys : Matching signer verifier) :
    deskLog E signer verifier [.run, typing, .datagram 2001 (.error .reset) 2001 (.ok ())] =
      typed ++ [.ran (.ok ⟨0, 1⟩)] := by
  obtain ⟨input, hpolls⟩ := desk_polls E signer verifier hkeys
  have hpoll : step E cipher positionCodec shapeCodec
      { deskRuntime E signer verifier with phase := .running } typing = _ :=
    (if_pos rfl).trans hpolls
  have hlose : step E cipher positionCodec shapeCodec
      { deskRuntime E signer verifier with phase := .running, input, sentInputMessages := 1 }
      (.datagram 2001 (.error .reset) 2001 (.ok ())) = _ := if_pos rfl
  simp only [deskLog, log, trace_cons, trace_nil, desk_run, hpoll, hlose, perform,
    Runtime.onDatagram, deskRuntime_active E signer verifier hkeys]
  rfl

/-- A frame of one byte in one packet, sealed with the key of the session. -/
def deskFrame : Bytes :=
  let header : VideoPacket.VideoPacketHeader := ⟨2, 7, 3, 9, 0, 1, 1000, 5, 17⟩
  let aad := (VideoTransport.frameMetadata header codecConfigId).aad.1
  let sealed := cipher.encrypt (List.Vector.replicate 32 0) (nonceFromSequence 1 5) aad [8]
  header.encode (sealed.getD []) []

/-- It arrives and is shown. -/
theorem desk_shows (hkeys : Matching signer verifier) :
    deskLog E signer verifier [.run, .datagram 2001 (.ok deskFrame) 2001 (.ok ())] =
      [.submitted 2001 ⟨9, 1000, true, [8]⟩] := by
  have hclient : (deskRuntime E signer verifier).client =
      ⟨.new (List.Vector.replicate 32 0) 1, some deskMonitor, none, none⟩ := rfl
  have haccepts :
      let out := Client.acceptInboundDatagram cipher positionCodec shapeCodec
        ⟨.new (List.Vector.replicate 32 0) 1, some deskMonitor, none, none⟩ deskFrame
      out.1 = .ok () ∧ out.2.receiver.latestFrame = some ⟨9, 1000, true, [8]⟩ := by
    decide +kernel
  obtain ⟨hresult, hframe⟩ := haccepts
  rw [desk_runs E signer verifier _ rfl, perform]
  simp only [Runtime.onDatagram, deskRuntime_active E signer verifier hkeys, hclient]
  generalize Client.acceptInboundDatagram cipher _ _ _ deskFrame = out at hresult hframe
  obtain ⟨result, client⟩ := out
  simp only at hresult hframe
  subst hresult
  simp only [Runtime.handOver, Receiver.drainLatestFrame, hframe]
  rfl

end

/-- The runtime with the keys of a seed. -/
def desk : Runtime := deskRuntime encoder (Ed25519.sign seed) (verifyingKey seed)

theorem desk_started : Started encoder desk := deskRuntime_started _ _ _ (matching_keys seed)

/-- The session is the same but for its progress. -/
def SameSession (start s : Session) : Prop :=
  ∃ state deadline, s = { start with state := state, reconnectDeadline := deadline }

theorem step_same {start s : Session} (call : Call) (t : UInt64)
    (ht : start.establishedAt = some t) (h : SameSession start s) :
    SameSession start (ClientSession.step E s call).2 := by
  obtain ⟨state, deadline, rfl⟩ := h
  obtain ⟨state', deadline', established, hframe⟩ := step_frame (E := E)
    (s := { start with state := state, reconnectDeadline := deadline }) call
  have hkept := SessionLifetime.step_establishedAt (E := E)
    (s := { start with state := state, reconnectDeadline := deadline }) call t ht
  rw [hframe] at hkept
  obtain rfl : established = some t := hkept
  rw [hframe, ← ht]
  exact ⟨state', deadline', rfl⟩

theorem move_same (start : Session) (t : UInt64) (ht : start.establishedAt = some t)
    (move : Move E A P S r events r') (h : SameSession start r.session) :
    SameSession start r'.session := by
  cases move with
  | called call => exact step_same call t ht h
  | replaced later hconnected => exact step_same (.connected later) t ht h
  | closed => exact step_same (E := E) .expire t ht h
  | _ => exact h

/-- The claims hold at this time and the session is within its duration. -/
def Authorized (E : Encoder) (s : Session) (now : UInt64) : Prop :=
  s.validateClaims E now = .ok () ∧ ∃ t, s.establishedAt = some t ∧
    UnixTime.saturatingDurationSince now t < s.durationPolicy.maxDuration

theorem active_authorized {start s : Session} (now t : UInt64)
    (ht : start.establishedAt = some t) (h : SameSession start s) (hactive : Active E s now) :
    Authorized E start now := by
  obtain ⟨state, deadline, rfl⟩ := h
  have heffect := ensureActive_effect (E := E)
    (s := { start with state := state, reconnectDeadline := deadline }) now
  unfold Active at hactive
  generalize Session.ensureActive E _ now = out at heffect hactive
  cases heffect with
  | refused e => cases hactive
  | gaveUp e deadline hlive hd => cases hactive
  | ensureActive _ hstate claims duration =>
    exact ⟨claims, t, ht, SessionLifetime.within_of_not_expired now t ht duration⟩

/-- What an event needs of the session. -/
def Allowed (E : Encoder) (s : Session) : Event → Prop
  | .submitted now _ => Authorized E s now
  | .sent now _ => Authorized E s now ∧ canControl s = true
  | .accepted _ => canControl s = true
  | _ => True

theorem move_allowed (start : Session) (t : UInt64) (ht : start.establishedAt = some t)
    (r : Runtime) (events : List Event) (r' : Runtime)
    (move : Move E A P S r events r') (h : SameSession start r.session) :
    SameSession start r'.session ∧ ∀ e ∈ events, Allowed E start e := by
  refine ⟨move_same start t ht move h, ?_⟩
  have hcontrol : canControl r.session = canControl start := by
    obtain ⟨state, deadline, hsame⟩ := h
    rw [hsame]
    rfl
  cases move with
  | submitted now bytes active frame =>
    simpa [Allowed] using active_authorized now t ht h active
  | typed input encoded recentEvents running control =>
    simpa [Allowed] using hcontrol ▸ control
  | sent now active control message =>
    simpa [Allowed] using ⟨active_authorized now t ht h active, hcontrol ▸ control⟩
  | returned event hreturns =>
    intro e he
    obtain rfl := List.mem_singleton.mp he
    cases e with
    | submitted | sent | accepted => exact hreturns.elim
    | _ => trivial
  | _ => simp [Allowed]

theorem run_allowed (hfresh : Fresh r) (actions : List Action) :
    ∀ e ∈ log E A P S r actions, Allowed E r.session e := by
  obtain ⟨t, ht⟩ := hfresh.established
  exact ((Paths.run_leads step_goes r actions).safe (move_allowed r.session t ht) ⟨_, _, rfl⟩).2

/-! ## The frames that are shown -/

/-- The frame that an event hands to the pipeline. -/
def shown : Event → Option DecodedFrameJob
  | .submitted _ job => some job
  | _ => none

theorem returns_shown {event : Event} (h : Returns r event) : shown event = none := by
  cases event with
  | submitted => exact h.elim
  | _ => rfl

/-- A datagram of the network reaches the receiver or leaves it alone. -/
theorem accept_receiver (c : Client) (bytes : Bytes) :
    (c.acceptInboundDatagram A P S bytes).2.receiver = c.receiver ∨
      (c.acceptInboundDatagram A P S bytes).2.receiver = (c.receiver.acceptDatagram A bytes).2 ∧
        ((c.receiver.acceptDatagram A bytes).1 = .ok () →
          (c.acceptInboundDatagram A P S bytes).1 = .ok ()) := by
  unfold Client.acceptInboundDatagram
  split
  · refine .inr ⟨by rw [CursorControl.acceptVideo_eq], fun hok => ?_⟩
    unfold Client.acceptVideo
    split
    · rename_i heq
      rw [heq] at hok
      cases hok
    · rfl
  · exact .inl (CursorControl.keep_receiver _ _)

/-- With an empty slot, what a call publishes is what it leaves there. -/
theorem publishedBy_empty (c : Receiver) (bytes : Bytes) (h : c.latestFrame = none) :
    Receiver.publishedBy A c bytes = (c.acceptDatagram A bytes).2.latestFrame := by
  have hdrained : c.drainLatestFrame.2 = c := by
    simp only [Receiver.drainLatestFrame, ← h]
  rw [Receiver.publishedBy, hdrained]

/-- A call that is refused publishes nothing. -/
theorem refused_empty (c : Receiver) (bytes : Bytes) (h : c.latestFrame = none)
    (hrefused : (c.acceptDatagram A bytes).1 ≠ .ok ()) :
    (c.acceptDatagram A bytes).2.latestFrame = none := by
  rw [← publishedBy_empty c bytes h]
  rcases Receiver.receive_cases A c bytes with ⟨assembled, accessUnit, hp⟩ | hs
  · exact absurd (congrArg Prod.fst hp.outcome) hrefused
  · exact hs.outcome

/-- The frames shown so far are publications that the receiver remembers. -/
structure Shows (A : Aead) (frameKey : Octets 32) (nonceDomain : UInt32)
    (published : List (AssembledFrame × DecodedFrameJob)) (log : List Event)
    (c : Receiver) : Prop where
  jobs : log.filterMap shown = published.map Prod.snd
  ordered : published.Pairwise fun p q =>
    p.2.frameId < q.2.frameId ∧ p.1.header.nonceSequence ≠ q.1.header.nonceSequence
  authentic : ∀ p ∈ published, Authentic A frameKey nonceDomain p
  past : ∀ p ∈ published, Past c p
  config : c.frameKey = frameKey ∧ c.nonceDomain = nonceDomain
  empty : c.latestFrame = none

section
variable {frameKey : Octets 32} {nonceDomain : UInt32}
  {published : List (AssembledFrame × DecodedFrameJob)} {log : List Event}
  {c : Receiver}

theorem Shows.quiet (h : Shows A frameKey nonceDomain published log c) {event : Event}
    (hquiet : shown event = none) : Shows A frameKey nonceDomain published (log ++ [event]) c where
  jobs := by rw [filterMap_concat, hquiet, h.jobs]; simp
  ordered := h.ordered
  authentic := h.authentic
  past := h.past
  config := h.config
  empty := h.empty

/-- The receiver takes a datagram, and nothing is shown. -/
theorem Shows.receive (h : Shows A frameKey nonceDomain published log c) (bytes : Bytes)
    (c' : Receiver) (hc : c' = c ∨ c' = (c.acceptDatagram A bytes).2)
    (slot : Option DecodedFrameJob) (hslot : slot = none) :
    Shows A frameKey nonceDomain published log { c' with latestFrame := slot } := by
  rcases hc with rfl | rfl
  · exact ⟨h.jobs, h.ordered, h.authentic, h.past, h.config, hslot⟩
  · have hconfig := Receiver.acceptDatagram_config A c bytes
    refine ⟨h.jobs, h.ordered, h.authentic, fun p hp => ?_, ?_, hslot⟩
    · exact past_keep A c bytes p (h.past p hp)
    · exact ⟨hconfig.1.trans h.config.1, hconfig.2.1.trans h.config.2⟩

/-- The receiver publishes a frame, and it is shown. -/
theorem Shows.publish (h : Shows A frameKey nonceDomain published log c) (bytes : Bytes)
    (now : UInt64) (frame : DecodedFrameJob)
    (hframe : (c.acceptDatagram A bytes).2.latestFrame = some frame) :
    ∃ p, Shows A frameKey nonceDomain (published ++ [p]) (log ++ [.submitted now frame])
      { (c.acceptDatagram A bytes).2 with latestFrame := none } := by
  rw [← publishedBy_empty c bytes h.empty, ← publication_job A c bytes] at hframe
  obtain ⟨p, hp, rfl⟩ := Option.map_eq_some_iff.mp hframe
  obtain ⟨hin, hnew⟩ := past_new A c bytes p hp
  have hauthentic := publication_authentic A c bytes p hp
  rw [h.config.1, h.config.2] at hauthentic
  have hkept := h.receive bytes _ (.inr rfl) none rfl
  refine ⟨p, ?_, ?_, ?_, ?_, hkept.config, rfl⟩
  · rw [filterMap_concat, h.jobs, List.map_append]
    rfl
  · rw [List.pairwise_append]
    refine ⟨h.ordered, List.pairwise_singleton _ _, ?_⟩
    intro q hq p' hp'
    obtain rfl := List.mem_singleton.mp hp'
    exact hnew q (h.past q hq)
  · exact List.forall_mem_append.mpr ⟨h.authentic, List.forall_mem_singleton.mpr hauthentic⟩
  · exact List.forall_mem_append.mpr ⟨hkept.past, List.forall_mem_singleton.mpr hin⟩

end

theorem move_shows (frameKey : Octets 32) (nonceDomain : UInt32) (log : List Event)
    (r : Runtime) (events : List Event) (r' : Runtime)
    (move : Move E A P S r events r')
    (h : ∃ published, Shows A frameKey nonceDomain published log r.client.receiver) :
    ∃ published, Shows A frameKey nonceDomain published (log ++ events) r'.client.receiver := by
  obtain ⟨published, h⟩ := h
  cases move with
  | flags | drained | called | told =>
    rw [List.append_nil]
    exact ⟨published, h⟩
  | typed | cleared | sent | replaced | closed => exact ⟨published, h.quiet rfl⟩
  | returned event hreturns => exact ⟨published, h.quiet (returns_shown hreturns)⟩
  | rejected now bytes active error herror =>
    rw [List.append_nil]
    refine ⟨published, ?_⟩
    rcases accept_receiver (A := A) (P := P) (S := S) r.client bytes with hsame | ⟨htaken, hok⟩
    · rw [hsame]
      exact h
    · rw [htaken]
      have hempty := refused_empty (A := A) r.client.receiver bytes h.empty
        fun haccepted => by simp [hok haccepted] at herror
      exact h.receive bytes _ (.inr rfl) _ hempty
  | received now bytes active latestFrame renderQueue =>
    rw [List.append_nil]
    have hreceiver := accept_receiver (A := A) (P := P) (S := S) r.client bytes
    exact ⟨published, h.receive bytes _ (hreceiver.imp_right And.left) none rfl⟩
  | submitted now bytes active frame renderQueue hframe =>
    rcases accept_receiver (A := A) (P := P) (S := S) r.client bytes with hsame | ⟨htaken, -⟩
    · rw [hsame, h.empty] at hframe
      cases hframe
    · rw [htaken] at hframe
      obtain ⟨p, hp⟩ := h.publish bytes now frame hframe
      refine ⟨published ++ [p], ?_⟩
      simp only [htaken]
      exact hp

/-- Whatever arrives, and however often the transport is replaced: the frames that go to the
pipeline are authentic, their ids rise over the whole run and no two of them share a nonce; and
each of them went there while a session that may view was within its claims and its duration. -/
theorem shown_frames_authentic (E : Encoder) (A : Aead) (P : Codec CursorPosition)
    (S : Codec CursorShape) (r : Runtime) (hstart : Started E r) (actions : List Action) :
    (∃ published : List (AssembledFrame × DecodedFrameJob),
      (log E A P S r actions).filterMap shown = published.map Prod.snd ∧
        published.Pairwise (fun p q =>
          p.2.frameId < q.2.frameId ∧ p.1.header.nonceSequence ≠ q.1.header.nonceSequence) ∧
        ∀ p ∈ published,
          Authentic A r.client.receiver.frameKey r.client.receiver.nonceDomain p) ∧
      ∀ now job, .submitted now job ∈ log E A P S r actions →
        Authorized E r.session now ∧ canView r.session = true := by
  have hfresh := hstart.fresh
  obtain ⟨frameKey, nonceDomain, hreceiver⟩ := hfresh.receiver
  have hinitial : ∃ published, Shows A frameKey nonceDomain published [] r.client.receiver := by
    rw [hreceiver]
    exact ⟨[], rfl, .nil, by simp, by simp, ⟨rfl, rfl⟩, rfl⟩
  obtain ⟨published, h⟩ := run_keeps (move_shows (E := E) (A := A) (P := P) (S := S) frameKey
    nonceDomain) r hinitial actions
  refine ⟨⟨published, h.jobs, h.ordered, ?_⟩, ?_⟩
  · rw [hreceiver]
    exact h.authentic
  · intro now job hjob
    exact ⟨run_allowed hfresh actions _ hjob, hfresh.view⟩

/-- A frame that is shown, and what follows. -/
theorem shown_frames_authentic_desk :
    .submitted 2001 ⟨9, 1000, true, [8]⟩ ∈ log encoder cipher positionCodec shapeCodec desk
        [.run, .datagram 2001 (.ok deskFrame) 2001 (.ok ())] ∧
      Authorized encoder desk.session 2001 ∧ canView desk.session = true := by
  have hshown : .submitted 2001 ⟨9, 1000, true, [8]⟩ ∈ log encoder cipher positionCodec shapeCodec
      desk [.run, .datagram 2001 (.ok deskFrame) 2001 (.ok ())] := by
    rw [desk, ← deskLog, desk_shows _ _ _ (matching_keys seed)]
    simp
  exact ⟨hshown, (shown_frames_authentic _ cipher _ _ desk desk_started _).2 _ _ hshown⟩

/-! ## The controls that are sent -/

/-- An event that drops what is queued. -/
def drops : Event → Bool
  | .cleared | .replaced | .closed => true
  | _ => false

/-- The control that an event puts into the queue. -/
def queued (monitor : Monitor) : Event → Option Bytes
  | .accepted input =>
    (InputEvents.ClientInputSender.encode (clampToMonitor input monitor)).toOption
  | _ => none

/-- The control that an event takes out of it and sends. -/
def sentControl : Event → Option Bytes
  | .sent _ control => some control
  | _ => none

/-- What was queued since the queue was last dropped has been sent or is still queued, in order. -/
def InOrder (monitor : Monitor) (log : List Event) (r : Runtime) : Prop :=
  r.input.monitor = monitor ∧
    (since drops log).filterMap (queued monitor) =
      (since drops log).filterMap sentControl ++ r.input.queue

theorem returns_inOrder {event : Event} (monitor : Monitor)
    (h : Returns r event) :
    drops event = false ∧ queued monitor event = none ∧ sentControl event = none := by
  cases event with
  | accepted | cleared | sent | submitted | replaced | closed => exact h.elim
  | _ => exact ⟨rfl, rfl, rfl⟩

theorem since_undropped (log : List Event) {event : Event}
    (h : drops event = false) : since drops (log ++ [event]) = since drops log ++ [event] := by
  rw [since_concat, h]
  rfl

/-- An event that has nothing to do with the queue. -/
theorem inOrder_quiet {monitor : Monitor} {log : List Event}
    {event : Event} (h : InOrder monitor log r)
    (hmonitor : r'.input.monitor = r.input.monitor)
    (hqueue : r'.input.queue = r.input.queue)
    (hquiet : drops event = false ∧ queued monitor event = none ∧ sentControl event = none) :
    InOrder monitor (log ++ [event]) r' := by
  obtain ⟨hdrops, hqueued, hsent⟩ := hquiet
  refine ⟨hmonitor.trans h.1, ?_⟩
  rw [since_undropped log hdrops, filterMap_concat, filterMap_concat, hqueued, hsent, h.2, hqueue]
  simp

/-- An event that drops the queue. -/
theorem inOrder_dropped {monitor : Monitor} {event : Event}
    (log : List Event) (hmonitor : r'.input.monitor = monitor)
    (hqueue : r'.input.queue = []) (hdrops : drops event = true) :
    InOrder monitor (log ++ [event]) r' := by
  refine ⟨hmonitor, ?_⟩
  rw [since_concat, hdrops, if_pos rfl, hqueue]
  rfl

theorem move_inOrder (monitor : Monitor) (log : List Event) (r : Runtime)
    (events : List Event) (r' : Runtime) (move : Move E A P S r events r')
    (h : InOrder monitor log r) : InOrder monitor (log ++ events) r' := by
  cases move with
  | flags | drained | called | told | rejected | received =>
    rw [List.append_nil]
    exact h
  | submitted => exact inOrder_quiet h rfl rfl ⟨rfl, rfl, rfl⟩
  | returned event hreturns => exact inOrder_quiet h rfl rfl (returns_inOrder monitor hreturns)
  | cleared | replaced | closed => exact inOrder_dropped log h.1 rfl rfl
  | typed input encoded recentEvents running control sent =>
    refine ⟨h.1, ?_⟩
    rw [h.1] at sent
    have hqueued : queued monitor (.accepted input) = some encoded := by
      rw [queued, sent]
      rfl
    rw [since_undropped log rfl, filterMap_concat, filterMap_concat, hqueued, h.2]
    simp [sentControl]
  | sent now active control message rest hqueue =>
    refine ⟨h.1, ?_⟩
    rw [since_undropped log rfl, filterMap_concat, filterMap_concat, h.2, hqueue]
    simp [queued, sentControl]

/-- Over every run: the controls that went out since the queue was last dropped (by a session that
may not control, a new transport or the end) are the first of those typed since then, in the order
in which they were typed, and the rest of them is the queue. Every one of them was typed and sent
while the session might control, and sent within its claims and its duration. -/
theorem sent_controls_in_order (E : Encoder) (A : Aead) (P : Codec CursorPosition)
    (S : Codec CursorShape) (r : Runtime) (hstart : Started E r) (actions : List Action) :
    (since drops (log E A P S r actions)).filterMap (queued r.input.monitor) =
        (since drops (log E A P S r actions)).filterMap sentControl ++
          (final E A P S r actions).input.queue ∧
      (∀ input, .accepted input ∈ log E A P S r actions → canControl r.session = true) ∧
      ∀ now control, .sent now control ∈ log E A P S r actions →
        Authorized E r.session now ∧ canControl r.session = true := by
  have hfresh := hstart.fresh
  have hinitial : InOrder r.input.monitor [] r := ⟨rfl, by simp [hfresh.queue]⟩
  have horder := run_keeps (move_inOrder (E := E) (A := A) (P := P) (S := S) r.input.monitor) r
    hinitial actions
  refine ⟨horder.2, ?_, ?_⟩
  · intro input hinput
    exact run_allowed hfresh actions _ hinput
  · intro now control hsent
    exact run_allowed hfresh actions _ hsent

/-- A key that is typed and sent, and what follows. -/
theorem sent_controls_in_order_desk :
    .sent 2001 [0, 0, 0, 4, 8, 4, 16, 4] ∈
        log encoder cipher positionCodec shapeCodec desk [.run, typing] ∧
      Authorized encoder desk.session 2001 ∧ canControl desk.session = true := by
  have hsent : .sent 2001 [0, 0, 0, 4, 8, 4, 16, 4] ∈
      log encoder cipher positionCodec shapeCodec desk [.run, typing] := by
    rw [desk, ← deskLog, desk_types _ _ _ (matching_keys seed)]
    simp [typed]
  exact ⟨hsent, (sent_controls_in_order _ cipher _ _ desk desk_started _).2.2 _ _ hsent⟩

/-! ## What `run` reports -/

/-- A saturating counter that has been raised this often. -/
def capped (n : Nat) : UInt64 := UInt64.ofNat (min n (2 ^ 64 - 1))

theorem capped_succ (n : Nat) : saturatingAdd (capped n) 1 = capped (n + 1) := saturatingAdd_one n

def isShown (e : Event) : Bool := (shown e).isSome

def isSent (e : Event) : Bool := (sentControl e).isSome

/-- What was counted so far. -/
def counts (log : List Event) : RuntimeSummary :=
  ⟨capped (log.countP isShown), capped (log.countP isSent)⟩

def Counted (log : List Event) (r : Runtime) : Prop :=
  r.summary = counts log ∧
    Along (fun past e => ∀ summary, e = .ran (.ok summary) → summary = counts past) log

theorem counts_quiet (log : List Event) {event : Event}
    (hshown : shown event = none) (hsent : sentControl event = none) :
    counts (log ++ [event]) = counts log := by
  simp [counts, isShown, isSent, hshown, hsent]

theorem move_counted (log : List Event) (r : Runtime)
    (events : List Event) (r' : Runtime) (move : Move E A P S r events r')
    (h : Counted log r) : Counted (log ++ events) r' := by
  obtain ⟨hcounts, hreports⟩ := h
  have hother (event : Event) (hevent : ∀ summary, event ≠ .ran (.ok summary)) :
      Along (fun past e => ∀ summary, e = .ran (.ok summary) → summary = counts past)
        (log ++ [event]) :=
    (along_concat log event).mpr ⟨hreports, fun summary he => absurd he (hevent summary)⟩
  cases move with
  | flags | drained | called | told | rejected | received =>
    rw [List.append_nil]
    exact ⟨hcounts, hreports⟩
  | typed | cleared | replaced | closed =>
    refine ⟨?_, hother _ (by simp)⟩
    rw [counts_quiet log rfl rfl]
    exact hcounts
  | submitted now bytes active frame =>
    refine ⟨?_, hother _ (by simp)⟩
    simp only [Runtime.summary, counts, RuntimeSummary.mk.injEq] at hcounts ⊢
    rw [hcounts.1, hcounts.2]
    simp [isShown, isSent, shown, sentControl, capped_succ]
  | sent now active control message =>
    refine ⟨?_, hother _ (by simp)⟩
    simp only [Runtime.summary, counts, RuntimeSummary.mk.injEq] at hcounts ⊢
    rw [hcounts.1, hcounts.2]
    simp [isShown, isSent, shown, sentControl, capped_succ]
  | returned event hreturns =>
    have hquiet := returns_inOrder r.input.monitor hreturns
    refine ⟨?_, (along_concat log event).mpr ⟨hreports, ?_⟩⟩
    · rw [counts_quiet log (returns_shown hreturns) hquiet.2.2]
      exact hcounts
    · rintro summary rfl
      exact hreturns.1.trans hcounts

/-- Whenever `run` returns because the transport was lost, its summary counts the frames that have
gone to the pipeline and the controls that have been sent since the client was connected, over all
the transports there were, up to the largest number the counters hold. -/
theorem summary_counts_whole_run (E : Encoder) (A : Aead) (P : Codec CursorPosition)
    (S : Codec CursorShape) (r : Runtime) (hstart : Started E r) (actions : List Action)
    (past : List Event) (summary : RuntimeSummary)
    (hran : past ++ [.ran (.ok summary)] <+: log E A P S r actions) :
    summary = counts past := by
  have hfresh := hstart.fresh
  have hinitial : Counted [] r := by
    refine ⟨?_, along_nil⟩
    rw [Runtime.summary, hfresh.counters.1, hfresh.counters.2]
    rfl
  exact (run_keeps move_counted r hinitial actions).2 past _ hran summary rfl

/-- A transport that is lost when one control has been sent and no frame has arrived. -/
theorem summary_counts_whole_run_desk :
    typed ++ [.ran (.ok ⟨0, 1⟩)] <+: log encoder cipher positionCodec shapeCodec desk
        [.run, typing, .datagram 2001 (.error .reset) 2001 (.ok ())] ∧
      (⟨0, 1⟩ : RuntimeSummary) = counts typed := by
  have hran : typed ++ [.ran (.ok ⟨0, 1⟩)] <+: log encoder cipher positionCodec shapeCodec desk
      [.run, typing, .datagram 2001 (.error .reset) 2001 (.ok ())] := by
    rw [desk, ← deskLog, desk_types_and_loses _ _ _ (matching_keys seed)]
  exact ⟨hran, summary_counts_whole_run _ cipher _ _ desk desk_started _ typed _ hran⟩

end RuntimeSafety
