import NexusRemote.ClientSession
import NexusRemote.InputLimits
import NexusRemote.LatestFrames
import NexusRemote.Paths
import NexusRemote.VideoAuthenticity

/-!
# The client's runtime (`apps/nexus-client/src/runtime.rs`)

`ClientRuntime` owns the session, the receiver, the window's input and the
handoff to the decoder. `run` serves one of three arms at a time: a
cancellation, a datagram, or a poll of the window. `reconnect_with_retry`
replaces a lost transport. Whatever goes wrong ends in `fail_closed`.

A run is a list of actions. An action is what happens between two awaits: its
parameters are what the clock, the network, the window thread and the native
pipeline answer. Cancellation may come from another task at any time. The model
is the Windows build, where the pipeline can fail; elsewhere it never does.
-/

namespace ClientRuntime

open BigEndian FrameCrypto Capabilities ClientSession ClientReceiver ClientDecoder LatestFrames
open ProtobufReader (Codec)
open CursorControl (Client CursorPosition CursorShape MonitorInfo)
open WindowInput (InputController InputControllerError WindowEvent)
open Paths (Leads)

/-! ## What the runtime talks to -/

/-- Why a QUIC connection ended. -/
inductive ConnectionError where
  | versionMismatch
  | transportError
  | connectionClosed
  | applicationClosed
  | reset
  | timedOut
  | locallyClosed
  | cidsExhausted
  deriving DecidableEq, Repr

/-- The ends of a connection that a reconnect may repair. -/
def ConnectionError.isLoss : ConnectionError → Bool
  | .connectionClosed | .applicationClosed | .reset | .locallyClosed => true
  | .versionMismatch | .transportError | .timedOut | .cidsExhausted => false

inductive ConnectError where
  | endpointStopping
  | cidsExhausted
  | invalidServerName
  | invalidRemoteAddress
  | noDefaultClientConfig
  | unsupportedVersion
  deriving DecidableEq, Repr

inductive SendDatagramError where
  | unsupportedByPeer
  | disabled
  | tooLarge
  | connectionLost (error : ConnectionError)
  deriving DecidableEq, Repr

inductive WindowError where
  | invalidDimensions
  | invalidChannelCapacity
  | titleTooLong
  | renderPayloadTooLarge
  | threadStart
  | commandClosed
  | commandFull
  | shutdownTimeout
  | startupTimeout
  deriving DecidableEq, Repr

inductive ClientRuntimeError where
  | window (error : WindowError)
  | input (error : InputControllerError)
  | receiver (error : CursorControl.ClientRuntimeError)
  | transport (error : ConnectionError)
  | connect (error : ConnectError)
  | session (error : ClientError)
  /-- `Session(PermissionDenied(permission))`. -/
  | permissionDenied (permission : String)
  | decoder (error : DecoderError)
  | sendDatagram (error : SendDatagramError)
  | shutdown
  | shutdownTimeout
  | invalidStreamDimensions
  deriving DecidableEq

structure RuntimeSummary where
  receivedFrames : UInt64
  sentInputMessages : UInt64
  deriving DecidableEq, Repr

structure VideoStreamConfig where
  width : UInt32
  height : UInt32
  deriving DecidableEq, Repr

def VideoStreamConfig.validate (c : VideoStreamConfig) : Except ClientRuntimeError Unit :=
  if c.width = 0 ∨ c.height = 0 ∨ c.width > 7680 ∨ c.height > 4320 ∨ c.width % 2 ≠ 0 ∨
      c.height % 2 ≠ 0 then
    .error .invalidStreamDimensions
  else .ok ()

def hasPermission (s : Session) (permission : String) : Bool :=
  s.capability.permissions.any (· == permission)

def canView (s : Session) : Bool := hasPermission s "desktop.view"

def canControl (s : Session) : Bool := hasPermission s "desktop.control"

/-! ## The runtime -/

/-- `RuntimeCancellation`, the flag and the `Notify`, which remembers one notification that nobody
has waited for. Only `cancel` notifies. -/
structure RuntimeCancellation where
  cancelled : Bool
  permit : Bool
  raised : permit = true → cancelled = true

namespace RuntimeCancellation

def new : RuntimeCancellation := ⟨false, false, by simp⟩

def cancel (_ : RuntimeCancellation) : RuntimeCancellation := ⟨true, true, fun _ => rfl⟩

/-- What waits for the notification takes it. -/
def take (c : RuntimeCancellation) : RuntimeCancellation := ⟨c.cancelled, false, by simp⟩

end RuntimeCancellation

/-- Where the call that holds the runtime is. -/
inductive Phase where
  | idle
  /-- `run` waits for one of its arms. -/
  | running
  /-- `reconnect_with_retry` is at the head of its loop. -/
  | retrying
  /-- `reconnect_attempt` has been entered. -/
  | attempting
  /-- It waits for a connection. -/
  | connecting
  /-- `reconnect_with_retry` waits before it tries again. -/
  | waiting
  deriving DecidableEq, Repr

structure Runtime where
  session : Session
  /-- The receiver with its monitor, and the cursor that waits to be drawn. -/
  client : Client
  input : InputController
  renderQueue : RenderQueueState
  latestFrame : Option DecodedFrameJob
  receivedFrames : UInt64
  sentInputMessages : UInt64
  cancellation : RuntimeCancellation
  connectionClosed : Bool
  shutdown : Bool
  phase : Phase

/-- What can be seen of the runtime from outside. -/
inductive Event where
  /-- An input of the window went into the queue of controls. -/
  | accepted (input : InputEvents.InputEvent)
  /-- The queued controls were dropped. -/
  | cleared
  /-- A control went out as a datagram, in the poll that began at this time. -/
  | sent (now : UInt64) (control : Bytes)
  /-- A frame went to the native pipeline, with the datagram that arrived at this time. -/
  | submitted (now : UInt64) (job : DecodedFrameJob)
  /-- The transport was replaced, and what was pending from the old one dropped. -/
  | replaced
  /-- `fail_closed` ran. -/
  | closed
  | ran (result : Except ClientRuntimeError RuntimeSummary)
  | reconnected (result : Except ClientRuntimeError Unit)
  | handled (result : Except ClientRuntimeError Unit)
  | stopped (result : Except ClientRuntimeError Unit)
  deriving DecidableEq

namespace Runtime

def cancel (r : Runtime) : Runtime := { r with cancellation := r.cancellation.cancel }

/-- `fail_closed_with_deadline`, but for the threads it waits for. -/
def failClosed (r : Runtime) : Runtime :=
  { r with
    cancellation := r.cancellation.cancel
    session := r.session.expire.2
    input := r.input.expire
    renderQueue := RenderQueue.shutdown r.renderQueue
    latestFrame := none
    client := { r.client with latestCursor := none, latestCursorShape := none }
    connectionClosed := true
    shutdown := true }

def summary (r : Runtime) : RuntimeSummary := ⟨r.receivedFrames, r.sentInputMessages⟩

/-- `run` returns an error after `fail_closed`. -/
def fail (r : Runtime) (error : ClientRuntimeError) : List Event × Runtime :=
  ([.closed, .ran (.error error)], { r.failClosed with phase := .idle })

/-- `WindowController::render_latest` for the default window, which takes what the queue takes. -/
def renderLatest (r : Runtime) (frame : DecodedFrameJob) : Except WindowError Unit × Runtime :=
  if frame.accessUnit.length > maxRenderAccessUnitSize then (.error .renderPayloadTooLarge, r)
  else
    match RenderQueue.pushLatest r.renderQueue frame with
    | (.ok (), queue) => (.ok (), { r with renderQueue := queue })
    | (.error .shutdown, queue) => (.error .commandClosed, { r with renderQueue := queue })
    | (.error _, queue) => (.error .renderPayloadTooLarge, { r with renderQueue := queue })

/-! ### The arms of `run` -/

/-- The end of the datagram arm: the frame that the receiver has published, if any, goes through
the render queue to the pipeline. -/
def handOver (r : Runtime) (now : UInt64) (submit : Except DecoderError Unit) :
    List Event × Runtime :=
  match r.client.receiver.drainLatestFrame with
  | (none, receiver) => ([], { r with client := { r.client with receiver } })
  | (some frame, receiver) =>
    let r := { r with client := { r.client with receiver }, latestFrame := some frame }
    match r.renderLatest frame with
    | (.error e, r) => r.fail (.window e)
    | (.ok (), r) =>
      match RenderQueue.takeLatest r.renderQueue with
      | (none, queue) =>
        ([], { r with renderQueue := queue, receivedFrames := saturatingAdd r.receivedFrames 1 })
      | (some job, queue) =>
        let r := { r with renderQueue := queue }
        match submit with
        | .error e => r.fail (.decoder e)
        | .ok () =>
          ([.submitted now job], { r with receivedFrames := saturatingAdd r.receivedFrames 1 })

/-- The datagram arm when the connection has ended. -/
def connectionEnded (r : Runtime) (error : ConnectionError) (later : UInt64)
    (reset : Except DecoderError Unit) : List Event × Runtime :=
  if error.isLoss then
    if r.cancellation.cancelled then r.fail .shutdown
    else
      match r.session.transportLost later with
      | (.error e, session) => { r with session }.fail (.session e)
      | (.ok (), session) =>
        match reset with
        | .error e => { r with session }.fail (.decoder e)
        | .ok () => ([.ran (.ok r.summary)], { r with session, phase := .idle })
  else r.fail (.transport error)

section
variable (E : Encoder) (A : Aead) (P : Codec CursorPosition) (S : Codec CursorShape)

/-- The datagram arm: `read_datagram` has answered. -/
def onDatagram (r : Runtime) (now : UInt64) (inbound : Except ConnectionError Bytes)
    (later : UInt64) (pipeline : Except DecoderError Unit) : List Event × Runtime :=
  match r.session.ensureActive E now with
  | (.error e, session) => { r with session }.fail (.session e)
  | (.ok (), session) =>
    let r := { r with session }
    match inbound with
    | .error error => r.connectionEnded error later pipeline
    | .ok bytes =>
      match r.client.acceptInboundDatagram A P S bytes with
      | (.error e, client) => { r with client }.fail (.receiver e)
      | (.ok (), client) => { r with client }.handOver now pipeline

/-- `pump_window_events`, given what the window has for it. -/
def pumpWindowEvents (r : Runtime) :
    List (WindowEvent × Nat) → List Event × Except ClientRuntimeError Unit × Runtime
  | [] => ([], .ok (), r)
  | (event, instant) :: events =>
    if event.isInput && !canControl r.session then r.pumpWindowEvents events
    else
      match r.input.handleWindowEvent event instant with
      | (.error e, input) => ([], .error (.input e), { r with input })
      | (.ok (), input) =>
        if event = .closed then ([.closed], .error .shutdown, { r with input }.failClosed)
        else
          let rest := { r with input }.pumpWindowEvents events
          match event with
          | .input typed => (.accepted typed :: rest.1, rest.2)
          | _ => rest

def pumpInput (r : Runtime) (now : UInt64) (send : Except SendDatagramError Unit) :
    List Event × Except ClientRuntimeError Unit × Runtime :=
  if !canControl r.session then ([.cleared], .ok (), { r with input := r.input.clearPending })
  else
    match InputLimits.tryNextControl r.input with
    | (none, input) => ([], .ok (), { r with input })
    | (some control, input) =>
      match send with
      | .error e => ([], .error (.sendDatagram e), { r with input })
      | .ok () =>
        ([.sent now control], .ok (),
          { r with input, sentInputMessages := saturatingAdd r.sentInputMessages 1 })

/-- `run` looks at a result of one of its helpers: an error closes the runtime. -/
def continueWith (step : List Event × Except ClientRuntimeError Unit × Runtime)
    (next : Runtime → List Event × Runtime) : List Event × Runtime :=
  match step with
  | (events, .error e, r) => (events ++ (r.fail e).1, (r.fail e).2)
  | (events, .ok (), r) => (events ++ (next r).1, (next r).2)

/-- The poll arm, every two milliseconds. -/
def onPoll (r : Runtime) (now : UInt64) (pipelineError : Option DecoderError)
    (events : List (WindowEvent × Nat)) (send : Except SendDatagramError Unit) :
    List Event × Runtime :=
  match pipelineError with
  | some e => r.fail (.decoder e)
  | none =>
    match r.session.ensureActive E now with
    | (.error e, session) => { r with session }.fail (.session e)
    | (.ok (), session) =>
      continueWith ({ r with session }.pumpWindowEvents events) fun r =>
        continueWith (r.pumpInput now send) fun r => ([], r)

/-! ### Reconnecting -/

/-- `reconnect_with_retry` after an attempt that failed. -/
def retry (r : Runtime) (error : ClientRuntimeError) : List Event × Runtime :=
  if r.session.state ≠ .reconnecting then
    ([.closed, .reconnected (.error error)], { r.failClosed with phase := .idle })
  else ([], { r with phase := .waiting })

/-- The head of the loop of `reconnect_with_retry`. -/
def onHead (r : Runtime) : List Event × Runtime :=
  if r.cancellation.cancelled then ([.reconnected (.error .shutdown)], { r with phase := .idle })
  else ([], { r with phase := .attempting })

/-- `reconnect_attempt` as far as `endpoint.connect`, which may refuse. -/
def onAttempt (r : Runtime) (now : UInt64) (refused : Option ConnectError) (later : UInt64) :
    List Event × Runtime :=
  if r.cancellation.cancelled then r.retry .shutdown
  else
    match r.session.beginConnect E now with
    | (.error e, session) => { r with session }.retry (.session e)
    | (.ok (), session) =>
      match refused with
      | none => ([], { r with session, phase := .connecting })
      | some refusal =>
        match session.reconnectAttemptFailed later with
        | (.error e, session) => { r with session }.retry (.session e)
        | (.ok (), session) => { r with session }.retry (.connect refusal)

/-- The rest of `reconnect_attempt`, when the connection is there or has failed. -/
def onConnection (r : Runtime) (later : UInt64) (opened : Except ConnectionError Unit)
    (reset : Except DecoderError Unit) : List Event × Runtime :=
  match opened with
  | .error error =>
    match r.session.reconnectAttemptFailed later with
    | (.error e, session) => { r with session }.retry (.session e)
    | (.ok (), session) => { r with session }.retry (.transport error)
  | .ok () =>
    match r.session.connected E later with
    | (.error e, session) => { r with session }.retry (.session e)
    | (.ok (), session) =>
      let r := { r with
        session
        connectionClosed := false
        input := r.input.clearPending
        renderQueue := RenderQueue.clear r.renderQueue
        latestFrame := none
        client := { r.client with latestCursor := none, latestCursorShape := none } }
      match reset with
      | .error e =>
        ([.replaced, .closed] ++ (r.failClosed.retry (.decoder e)).1,
          (r.failClosed.retry (.decoder e)).2)
      | .ok () => ([.replaced, .reconnected (.ok ())], { r with phase := .idle })

/-- The notification of a cancellation arrives where something waits for it. -/
def onNotified (r : Runtime) : List Event × Runtime :=
  let taken := { r with cancellation := r.cancellation.take }
  match r.phase with
  | .running => taken.fail .shutdown
  | .connecting => taken.retry .shutdown
  | .waiting => ([.reconnected (.error .shutdown)], { taken with phase := .idle })
  | .idle | .retrying | .attempting => ([], r)

/-! ### Calls while nothing runs -/

def run (r : Runtime) : List Event × Runtime :=
  if r.shutdown || r.cancellation.cancelled then ([.ran (.error .shutdown)], r)
  else ([], { r with phase := .running })

def reconnectWithRetry (r : Runtime) : List Event × Runtime :=
  if r.shutdown then ([.reconnected (.error .shutdown)], r) else ([], { r with phase := .retrying })

def handleWindowEvent (r : Runtime) (event : WindowEvent) (instant : Nat) : List Event × Runtime :=
  if r.shutdown then ([.handled (.error .shutdown)], r)
  else if event.isInput && !canControl r.session then ([.handled (.ok ())], r)
  else
    match r.input.handleWindowEvent event instant with
    | (.error e, input) => ([.handled (.error (.input e))], { r with input })
    | (.ok (), input) =>
      if event = .closed then
        ([.closed, .handled (.error .shutdown)], { r with input }.failClosed)
      else
        match event with
        | .input typed => ([.accepted typed, .handled (.ok ())], { r with input })
        | _ => ([.handled (.ok ())], { r with input })

/-- `shutdown`; the two threads stop before the deadline or not. -/
def shutDown (r : Runtime) (pipelineStopped windowStopped : Bool) : List Event × Runtime :=
  if r.shutdown then ([.stopped (.ok ())], r)
  else if pipelineStopped && windowStopped then ([.closed, .stopped (.ok ())], r.failClosed)
  else ([.closed, .stopped (.error .shutdownTimeout)], r.failClosed)

def requestShutdown (r : Runtime) : Runtime := { r.cancel with connectionClosed := true }

end
end Runtime

/-! ## Runs -/

inductive Action where
  /-- Another task cancels through its `ShutdownHandle`. -/
  | cancel
  | requestShutdown
  | run
  | reconnectWithRetry
  | handleWindowEvent (event : WindowEvent) (instant : Nat)
  | shutdown (pipelineStopped windowStopped : Bool)
  | drainLatestFrame
  | drainLatestCursor
  | drainLatestCursorShape
  /-- The caller drops the future of `run` or of `reconnect_with_retry`. -/
  | abandon
  | notified
  | datagram (now : UInt64) (inbound : Except ConnectionError Bytes) (later : UInt64)
      (pipeline : Except DecoderError Unit)
  | poll (now : UInt64) (pipelineError : Option DecoderError) (events : List (WindowEvent × Nat))
      (send : Except SendDatagramError Unit)
  | head
  | attempt (now : UInt64) (refused : Option ConnectError) (later : UInt64)
  | connection (later : UInt64) (opened : Except ConnectionError Unit)
      (reset : Except DecoderError Unit)
  | slept

/-- Where an action can happen. The calls need the runtime for themselves. -/
def Action.enabled (r : Runtime) : Action → Bool
  | .cancel => true
  | .requestShutdown | .run | .reconnectWithRetry | .handleWindowEvent .. | .shutdown ..
  | .drainLatestFrame | .drainLatestCursor | .drainLatestCursorShape => r.phase = .idle
  | .abandon => r.phase ≠ .idle
  | .notified => r.cancellation.permit
  | .datagram .. | .poll .. => r.phase = .running
  | .head => r.phase = .retrying
  | .attempt .. => r.phase = .attempting
  | .connection .. => r.phase = .connecting
  | .slept => r.phase = .waiting

section
variable (E : Encoder) (A : Aead) (P : Codec CursorPosition) (S : Codec CursorShape)

/-- What an action does where it can happen. -/
def perform (r : Runtime) : Action → List Event × Runtime
  | .cancel => ([], r.cancel)
  | .requestShutdown => ([], r.requestShutdown)
  | .run => r.run
  | .reconnectWithRetry => r.reconnectWithRetry
  | .handleWindowEvent event instant => r.handleWindowEvent event instant
  | .shutdown pipelineStopped windowStopped => r.shutDown pipelineStopped windowStopped
  | .drainLatestFrame => ([], { r with latestFrame := none })
  | .drainLatestCursor => ([], { r with client := { r.client with latestCursor := none } })
  | .drainLatestCursorShape =>
    ([], { r with client := { r.client with latestCursorShape := none } })
  | .abandon => ([], { r with phase := .idle })
  | .notified => r.onNotified
  | .datagram now inbound later pipeline => r.onDatagram E A P S now inbound later pipeline
  | .poll now pipelineError events send => r.onPoll E now pipelineError events send
  | .head => r.onHead
  | .attempt now refused later => r.onAttempt E now refused later
  | .connection later opened reset => r.onConnection E later opened reset
  | .slept => ([], { r with phase := .retrying })

def step (r : Runtime) (action : Action) : List Event × Runtime :=
  if action.enabled r then perform E A P S r action else ([], r)

end

/-! ## The first connection -/

structure ClientConnectConfig where
  monitor : MonitorInfo
  stream : VideoStreamConfig

/-- What becomes of the first attempt to connect. -/
inductive Opening where
  | refused (error : ConnectError)
  | failed (error : ConnectionError)
  | notified
  /-- The connection is there; it may have been cancelled meanwhile. -/
  | opened (cancelled : Bool)
  deriving DecidableEq

def requireView (s : Session) : Except ClientRuntimeError Unit :=
  if canView s then .ok () else .error (.permissionDenied "desktop.view")

/-- `ClientRuntime::build`, given whether the window and the pipeline start. -/
def build (session : Session) (frameKey : Octets 32) (nonceDomain : UInt32) (monitor : MonitorInfo)
    (window : Except WindowError Unit) (pipeline : Except DecoderError Unit) :
    Except ClientRuntimeError Runtime :=
  match Client.setCursorMonitor ⟨.new frameKey nonceDomain, none, none, none⟩ monitor with
  | (.error e, _) => .error (.receiver (.cursor e))
  | (.ok (), client) =>
    if h : monitor.validate = .ok () then
      match InputController.new (InputLimits.bounds monitor h) with
      | .error e => .error (.input e)
      | .ok input =>
        match window with
        | .error e => .error (.window e)
        | .ok () =>
          match pipeline with
          | .error e => .error (.decoder e)
          | .ok () =>
            .ok { session, client, input
                  renderQueue := RenderQueue.new
                  latestFrame := none
                  receivedFrames := 0
                  sentInputMessages := 0
                  cancellation := .new
                  connectionClosed := false
                  shutdown := false
                  phase := .idle }
    -- `set_cursor_monitor` has made the same check.
    else .error .shutdown

/-- `ClientRuntime::connect_with_cancellation`. -/
def connectWithCancellation (E : Encoder) (config : ClientConnectConfig) (session : Session)
    (frameKey : Octets 32) (nonceDomain : UInt32) (cancelled : Bool) (now : UInt64)
    (opening : Opening) (later : UInt64) (window : Except WindowError Unit)
    (pipeline : Except DecoderError Unit) : Except ClientRuntimeError Runtime :=
  if cancelled then .error .shutdown
  else
    match config.stream.validate with
    | .error e => .error e
    | .ok () =>
      match requireView session with
      | .error e => .error e
      | .ok () =>
        match session.beginConnect E now with
        | (.error e, _) => .error (.session e)
        | (.ok (), session) =>
          match opening with
          | .refused e => .error (.connect e)
          | .notified => .error .shutdown
          | .failed e => .error (.transport e)
          | .opened true => .error .shutdown
          | .opened false =>
            match session.connected E later with
            | (.error e, _) => .error (.session e)
            | (.ok (), session) => build session frameKey nonceDomain config.monitor window pipeline

/-! ## What an action is made of -/

/-- The session passes for active at this time. -/
def Active (E : Encoder) (s : Session) (now : UInt64) : Prop := (s.ensureActive E now).1 = .ok ()

/-- What a call may return, and how it leaves the runtime then. -/
def Returns (r : Runtime) : Event → Prop
  | .ran (.ok summary) => summary = r.summary ∧ r.session.state = .reconnecting
  | .reconnected (.ok ()) => r.session.state = .connected
  | .handled (.ok ()) => r.shutdown = false
  | .ran (.error e) | .reconnected (.error e) =>
    r.shutdown = true ∨ r.cancellation.cancelled = true ∧ e = .shutdown
  | .handled (.error e) => r.shutdown = true ∨ ∃ refusal, e = .input refusal
  | .stopped _ => r.shutdown = true
  | _ => False

/-- Everything that happens within an action, one thing at a time. -/
inductive Move (E : Encoder) (A : Aead) (P : Codec CursorPosition) (S : Codec CursorShape) :
    Runtime → List Event → Runtime → Prop where
  | flags (r : Runtime) (cancellation : RuntimeCancellation) (closed : Bool) (phase : Phase)
    (keeps : r.cancellation.cancelled = true → cancellation.cancelled = true) :
    Move E A P S r [] { r with
      cancellation, connectionClosed := closed || r.connectionClosed, phase }
  | drained (r : Runtime) (frame position shape : Bool) :
    Move E A P S r [] { r with
      latestFrame := if frame then none else r.latestFrame
      client := { r.client with
        latestCursor := if position then none else r.client.latestCursor
        latestCursorShape := if shape then none else r.client.latestCursorShape } }
  | called (r : Runtime) (call : Call) :
    Move E A P S r [] { r with session := (ClientSession.step E r.session call).2 }
  | rejected (r : Runtime) (now : UInt64) (bytes : Bytes) (active : Active E r.session now)
    (error : CursorControl.ClientRuntimeError)
    (h : (r.client.acceptInboundDatagram A P S bytes).1 = .error error) :
    Move E A P S r [] { r with client := (r.client.acceptInboundDatagram A P S bytes).2 }
  | received (r : Runtime) (now : UInt64) (bytes : Bytes) (active : Active E r.session now)
    (latestFrame : Option DecodedFrameJob) (renderQueue : RenderQueueState) :
    Move E A P S r [] { r with
      client := { (r.client.acceptInboundDatagram A P S bytes).2 with
        receiver := (r.client.acceptInboundDatagram A P S bytes).2.receiver.drainLatestFrame.2 }
      latestFrame, renderQueue }
  | submitted (r : Runtime) (now : UInt64) (bytes : Bytes) (active : Active E r.session now)
    (frame : DecodedFrameJob) (renderQueue : RenderQueueState)
    (h : (r.client.acceptInboundDatagram A P S bytes).2.receiver.latestFrame = some frame) :
    Move E A P S r [.submitted now frame] { r with
      client := { (r.client.acceptInboundDatagram A P S bytes).2 with
        receiver := (r.client.acceptInboundDatagram A P S bytes).2.receiver.drainLatestFrame.2 }
      latestFrame := some frame, renderQueue
      receivedFrames := saturatingAdd r.receivedFrames 1 }
  | typed (r : Runtime) (input : InputEvents.InputEvent) (encoded : Bytes)
    (recentEvents : List Nat) (running : r.input.shutdown = false)
    (control : canControl r.session = true)
    (sent : InputEvents.ClientInputSender.encode
      (WindowInput.clampToMonitor input r.input.monitor) = .ok encoded) :
    Move E A P S r [.accepted input] { r with
      input := { r.input with recentEvents, queue := r.input.queue ++ [encoded] } }
  | told (r : Runtime) (focused : Bool) (recentEvents : List Nat)
    (running : r.input.shutdown = false) :
    Move E A P S r [] { r with input := { r.input with focused, recentEvents } }
  | cleared (r : Runtime) : Move E A P S r [.cleared] { r with input := r.input.clearPending }
  | sent (r : Runtime) (now : UInt64) (active : Active E r.session now)
    (control : canControl r.session = true) (message : Bytes) (rest : List Bytes)
    (queue : r.input.queue = message :: rest) :
    Move E A P S r [.sent now message] { r with
      input := { r.input with queue := rest }
      sentInputMessages := saturatingAdd r.sentInputMessages 1 }
  | replaced (r : Runtime) (later : UInt64) (h : (r.session.connected E later).1 = .ok ()) :
    Move E A P S r [.replaced] { r with
      session := (r.session.connected E later).2
      connectionClosed := false
      input := r.input.clearPending
      renderQueue := RenderQueue.clear r.renderQueue
      latestFrame := none
      client := { r.client with latestCursor := none, latestCursorShape := none } }
  | closed (r : Runtime) : Move E A P S r [.closed] r.failClosed
  | returned (r : Runtime) (event : Event) (h : Returns r event) : Move E A P S r [event] r

section
variable {E : Encoder} {A : Aead} {P : Codec CursorPosition} {S : Codec CursorShape}

/-- What a part of an action does is a path of moves. -/
abbrev Goes (E : Encoder) (A : Aead) (P : Codec CursorPosition) (S : Codec CursorShape)
    (r : Runtime) (out : List Event × Runtime) : Prop :=
  Leads (Move E A P S) r out.1 out.2

/-- The same of a part that may fail. -/
abbrev Tries (E : Encoder) (A : Aead) (P : Codec CursorPosition) (S : Codec CursorShape)
    (r : Runtime) (out : List Event × Except ClientRuntimeError Unit × Runtime) : Prop :=
  Leads (Move E A P S) r out.1 out.2.2

/-- A call that returns when it has closed the runtime. -/
theorem closed_returned (r : Runtime) (event : Event) (h : Returns r.failClosed event) :
    Leads (Move E A P S) r ([.closed] ++ [event]) r.failClosed :=
  (Leads.single (.closed r)).tail (.returned _ event h)

/-- The end of a `run` or of a reconnection. -/
theorem quits (r : Runtime) (event : Event) (h : Returns r event) :
    Leads (Move E A P S) r [event] { r with phase := .idle } :=
  (Leads.single (.returned r event h)).last (.flags r r.cancellation false .idle id)

/-- A call of the session that came to this. -/
theorem called_move (r : Runtime) (call : Call) {result : Outcome} {session : Session}
    (h : ClientSession.step E r.session call = (result, session)) :
    Move E A P S r [] { r with session } := by
  have hcalled := Move.called (E := E) (A := A) (P := P) (S := S) r call
  rwa [h] at hcalled

theorem fail_goes (r : Runtime) (e : ClientRuntimeError) : Goes E A P S r (r.fail e) :=
  (Leads.single (.closed r)).trans (quits _ (.ran (.error e)) (.inl rfl))

theorem retry_goes (r : Runtime) (e : ClientRuntimeError) : Goes E A P S r (r.retry e) := by
  unfold Runtime.retry
  split
  · exact (Leads.single (.closed r)).trans (quits _ (.reconnected (.error e)) (.inl rfl))
  · exact .single (.flags r r.cancellation false .waiting id)

/-! ### The datagram arm -/

theorem renderLatest_cases (r : Runtime) (frame : DecodedFrameJob) :
    (∃ e queue, r.renderLatest frame = (.error e, { r with renderQueue := queue })) ∨
      ∃ queue, r.renderLatest frame = (.ok (), { r with renderQueue := queue }) ∧
        queue.latest = some frame := by
  unfold Runtime.renderLatest
  split
  · exact .inl ⟨_, r.renderQueue, rfl⟩
  · split
    · rename_i queue hpush
      refine .inr ⟨queue, rfl, ?_⟩
      unfold RenderQueue.pushLatest at hpush
      split at hpush
      · cases hpush
      · split at hpush
        · cases hpush
        · cases hpush
          rfl
    · exact .inl ⟨_, _, rfl⟩
    · exact .inl ⟨_, _, rfl⟩

theorem handOver_goes (r : Runtime) (now : UInt64) (bytes : Bytes)
    (submit : Except DecoderError Unit) (active : Active E r.session now) :
    Goes E A P S r
      ({ r with client := (r.client.acceptInboundDatagram A P S bytes).2 }.handOver now
        submit) := by
  have hreceived := Move.received (A := A) (P := P) (S := S) r now bytes active
  unfold Runtime.handOver
  cases hframe : (r.client.acceptInboundDatagram A P S bytes).2.receiver.latestFrame with
  | none =>
    simp only [Receiver.drainLatestFrame, hframe]
    exact .single (hreceived r.latestFrame r.renderQueue)
  | some frame =>
    simp only [Receiver.drainLatestFrame, hframe]
    obtain ⟨e, queue, hrender⟩ | ⟨queue, hrender, hqueue⟩ := renderLatest_cases
      { r with
        client := { (r.client.acceptInboundDatagram A P S bytes).2 with
          receiver := (r.client.acceptInboundDatagram A P S bytes).2.receiver.drainLatestFrame.2 }
        latestFrame := some frame } frame
    · simp only [Receiver.drainLatestFrame] at hrender
      simp only [hrender]
      exact (fail_goes _ _).head (hreceived (some frame) queue)
    · simp only [Receiver.drainLatestFrame] at hrender
      simp only [hrender, RenderQueue.takeLatest, hqueue]
      cases submit with
      | error e => exact (fail_goes _ _).head (hreceived (some frame) { queue with latest := none })
      | ok u =>
        exact .single (.submitted r now bytes active frame { queue with latest := none } hframe)

theorem transportLost_state (s : Session) {session : Session} (later : UInt64)
    (h : s.transportLost later = (.ok (), session)) : session.state = .reconnecting := by
  unfold Session.transportLost at h
  split at h
  · cases h
  · split at h
    · cases h
    · split at h
      · cases h
      · obtain rfl := (Prod.mk.inj h).2
        rfl

theorem connectionEnded_goes (r : Runtime) (error : ConnectionError) (later : UInt64)
    (reset : Except DecoderError Unit) : Goes E A P S r (r.connectionEnded error later reset) := by
  unfold Runtime.connectionEnded
  split
  · split
    · exact fail_goes _ _
    · split
      · rename_i hstep
        exact (fail_goes _ _).head (called_move r (.transportLost later) hstep)
      · rename_i session hstep
        have hlost := called_move (E := E) (A := A) (P := P) (S := S) r (.transportLost later) hstep
        cases reset with
        | error e => exact (fail_goes _ _).head hlost
        | ok u =>
          have hstate := transportLost_state r.session later hstep
          exact .head hlost (quits { r with session } (.ran (.ok r.summary)) ⟨rfl, hstate⟩)
  · exact fail_goes _ _

/-- A session that passes for active is left as it is. -/
theorem active_of_ensured {s session : Session} {now : UInt64}
    (h : s.ensureActive E now = (.ok (), session)) : Active E s now ∧ session = s := by
  refine ⟨by rw [Active, h], ?_⟩
  have heffect := ensureActive_effect (E := E) (s := s) now
  rw [h] at heffect
  cases heffect
  rfl

theorem onDatagram_goes (r : Runtime) (now : UInt64) (inbound : Except ConnectionError Bytes)
    (later : UInt64) (pipeline : Except DecoderError Unit) :
    Goes E A P S r (r.onDatagram E A P S now inbound later pipeline) := by
  unfold Runtime.onDatagram
  split
  · rename_i hstep
    exact (fail_goes _ _).head (called_move r (.ensureActive now) hstep)
  · rename_i session hstep
    obtain ⟨hactive, rfl⟩ := active_of_ensured hstep
    cases inbound with
    | error error => exact connectionEnded_goes r error later pipeline
    | ok bytes =>
      simp only
      split
      · rename_i e client haccept
        have hrejected := Move.rejected (A := A) (P := P) (S := S) r now bytes hactive e
          (by rw [haccept])
        rw [haccept] at hrejected
        exact (fail_goes _ _).head hrejected
      · rename_i client haccept
        have hover := handOver_goes (A := A) (P := P) (S := S) r now bytes pipeline hactive
        rw [haccept] at hover
        exact hover

/-! ### The poll arm -/

/-- Everything that the input controller can do with an event of the window. -/
inductive Handled (c : InputController) :
    WindowEvent → Except InputControllerError Unit × InputController → Prop where
  | refused (event : WindowEvent) (e : InputControllerError) : Handled c event (.error e, c)
  | pruned (event : WindowEvent) (e : InputControllerError) (recentEvents : List Nat)
    (running : c.shutdown = false) : Handled c event (.error e, { c with recentEvents })
  | closed (running : c.shutdown = false) : Handled c .closed (.ok (), c.expire)
  | typed (input : InputEvents.InputEvent) (encoded : Bytes) (recentEvents : List Nat)
    (running : c.shutdown = false)
    (sent : InputEvents.ClientInputSender.encode
      (WindowInput.clampToMonitor input c.monitor) = .ok encoded) :
    Handled c (.input input) (.ok (), { c with recentEvents, queue := c.queue ++ [encoded] })
  | told (event : WindowEvent) (focused : Bool) (running : c.shutdown = false)
    (closed : event ≠ .closed) (input : event.isInput = false) :
    Handled c event (.ok (), { c with focused })

theorem handleWindowEvent_handled (c : InputController) (event : WindowEvent) (instant : Nat) :
    Handled c event (c.handleWindowEvent event instant) := by
  by_cases hrunning : c.shutdown = true
  · simp only [InputController.handleWindowEvent, hrunning, if_true]
    exact .refused event .shutdown
  · rw [Bool.not_eq_true] at hrunning
    by_cases hclosed : event = .closed
    · subst hclosed
      simp only [InputController.handleWindowEvent, hrunning, Bool.false_eq_true, if_false]
      exact .closed hrunning
    · cases hinput : event.isInput with
      | false =>
        rw [c.handleWindowEvent_quiet event instant hrunning hinput hclosed]
        exact .told event _ hrunning hclosed hinput
      | true =>
        obtain ⟨input, rfl⟩ : ∃ input, event = .input input := by
          cases event <;> simp_all [WindowEvent.isInput]
        rw [c.handleWindowEvent_input input instant hrunning]
        obtain ⟨e, h⟩ | ⟨e, h⟩ | ⟨encoded, -, -, hsent, h⟩ :=
          InputLimits.enqueueInput_cases c input instant
        · rw [h]
          exact .refused _ e
        · rw [h]
          exact .pruned _ e _ hrunning
        · rw [h]
          exact .typed input encoded _ hrunning hsent

/-- An input that is not dropped comes from a session that may control. -/
theorem canControl_of_taken {r : Runtime} {input : InputEvents.InputEvent}
    (h : ¬((WindowEvent.input input).isInput && !canControl r.session) = true) :
    canControl r.session = true := by
  simpa [WindowEvent.isInput] using h

theorem pumpWindowEvents_tries (r : Runtime) (events : List (WindowEvent × Nat)) :
    Tries E A P S r (r.pumpWindowEvents events) ∧
      ((r.pumpWindowEvents events).2.1 = .ok () →
        (r.pumpWindowEvents events).2.2.session = r.session) := by
  induction events generalizing r with
  | nil => exact ⟨.refl r, fun _ => rfl⟩
  | cons head events ih =>
    obtain ⟨event, instant⟩ := head
    unfold Runtime.pumpWindowEvents
    split
    · exact ih r
    · rename_i htaken
      have hhandled := handleWindowEvent_handled r.input event instant
      generalize r.input.handleWindowEvent event instant = out at hhandled
      cases hhandled with
      | refused _ e => exact ⟨.refl r, by simp⟩
      | pruned _ e recentEvents running =>
        exact ⟨.single (.told r r.input.focused recentEvents running), by simp⟩
      | closed running =>
        -- The window's own end of the input comes to nothing beside that of the runtime.
        exact ⟨.single (.closed r), by simp⟩
      | typed input encoded recentEvents running sent =>
        have hcontrol := canControl_of_taken htaken
        have hrest := ih { r with input :=
          { r.input with recentEvents, queue := r.input.queue ++ [encoded] } }
        have hfirst : Leads (Move E A P S) r [.accepted input] _ :=
          .single (.typed r input encoded recentEvents running hcontrol sent)
        exact ⟨hfirst.trans hrest.1, hrest.2⟩
      | told _ focused running hclosed hinput =>
        have hrest := ih { r with input := { r.input with focused } }
        simp only [if_neg hclosed]
        split
        · cases hinput
        · exact ⟨hrest.1.head (.told r focused r.input.recentEvents running), hrest.2⟩

/-- A part that may fail and what `run` does with its result. -/
theorem continueWith_goes (r : Runtime)
    (out : List Event × Except ClientRuntimeError Unit × Runtime)
    (next : Runtime → List Event × Runtime) (hout : Tries E A P S r out)
    (hnext : out.2.1 = .ok () → Goes E A P S out.2.2 (next out.2.2)) :
    Goes E A P S r (Runtime.continueWith out next) := by
  obtain ⟨events, result, r'⟩ := out
  cases result with
  | error e => exact hout.trans (fail_goes r' e)
  | ok u => exact hout.trans (hnext rfl)

theorem pumpInput_goes (r : Runtime) (now : UInt64) (send : Except SendDatagramError Unit)
    (active : Active E r.session now) :
    Goes E A P S r (Runtime.continueWith (r.pumpInput now send) fun r => ([], r)) := by
  unfold Runtime.pumpInput
  split
  · exact continueWith_goes r _ _ (.single (.cleared r)) fun _ => .refl _
  · rename_i hcontrol
    rw [Bool.not_eq_true', Bool.not_eq_false] at hcontrol
    cases hqueue : r.input.queue with
    | nil =>
      simp only [InputLimits.tryNextControl, hqueue, List.head?_nil, List.tail_nil]
      rw [← hqueue]
      exact continueWith_goes r _ _ (.refl r) fun _ => .refl _
    | cons message rest =>
      simp only [InputLimits.tryNextControl, hqueue, List.head?_cons, List.tail_cons]
      cases send with
      | error e =>
        -- The control is lost, but so are those behind it: the runtime is closed.
        exact fail_goes r (.sendDatagram e)
      | ok u =>
        exact continueWith_goes r _ _ (.single (.sent r now active hcontrol message rest hqueue))
          fun _ => .refl _

theorem onPoll_goes (r : Runtime) (now : UInt64) (pipelineError : Option DecoderError)
    (events : List (WindowEvent × Nat)) (send : Except SendDatagramError Unit) :
    Goes E A P S r (r.onPoll E now pipelineError events send) := by
  unfold Runtime.onPoll
  cases pipelineError with
  | some e => exact fail_goes _ _
  | none =>
    simp only
    split
    · rename_i hstep
      exact (fail_goes _ _).head (called_move r (.ensureActive now) hstep)
    · rename_i session hstep
      obtain ⟨hactive, rfl⟩ := active_of_ensured hstep
      obtain ⟨hwindow, hsession⟩ :=
        pumpWindowEvents_tries (E := E) (A := A) (P := P) (S := S) r events
      apply continueWith_goes r _ _ hwindow
      intro hok
      apply pumpInput_goes
      rw [hsession hok]
      exact hactive

/-! ### Reconnecting and the calls -/

theorem onAttempt_goes (r : Runtime) (now : UInt64) (refused : Option ConnectError)
    (later : UInt64) : Goes E A P S r (r.onAttempt E now refused later) := by
  unfold Runtime.onAttempt
  split
  · exact retry_goes _ _
  · split
    · rename_i hstep
      exact (retry_goes _ _).head (called_move r (.beginConnect now) hstep)
    · rename_i session hstep
      apply Leads.head (called_move r (.beginConnect now) hstep)
      cases refused with
      | none => exact .single (.flags _ _ false .connecting id)
      | some refusal =>
        simp only
        split <;> rename_i hstep <;>
          exact (retry_goes _ _).head (called_move _ (.reconnectAttemptFailed later) hstep)

theorem connected_state (s : Session) {session : Session} (later : UInt64)
    (h : s.connected E later = (.ok (), session)) : session.state = .connected := by
  have heffect := connected_effect (E := E) (s := s) later
  rw [h] at heffect
  cases heffect
  rfl

theorem onConnection_goes (r : Runtime) (later : UInt64) (opened : Except ConnectionError Unit)
    (reset : Except DecoderError Unit) :
    Goes E A P S r (r.onConnection E later opened reset) := by
  unfold Runtime.onConnection
  cases opened with
  | error error =>
    simp only
    split <;> rename_i hstep <;>
      exact (retry_goes _ _).head (called_move r (.reconnectAttemptFailed later) hstep)
  | ok u =>
    simp only
    split
    · rename_i hstep
      exact (retry_goes _ _).head (called_move r (.connected later) hstep)
    · rename_i session hstep
      have hreplaced := Move.replaced (E := E) (A := A) (P := P) (S := S) r later (by rw [hstep])
      rw [hstep] at hreplaced
      cases reset with
      | error e =>
        have hclosed := (Leads.single hreplaced).tail (.closed _)
        exact hclosed.trans (retry_goes _ _)
      | ok u =>
        have hstate := connected_state r.session later hstep
        exact (Leads.single hreplaced).trans (quits _ (.reconnected (.ok ())) hstate)

theorem onNotified_goes (r : Runtime) (h : r.cancellation.permit = true) :
    Goes E A P S r r.onNotified := by
  have htaken :=
    Move.flags (E := E) (A := A) (P := P) (S := S) r r.cancellation.take false r.phase id
  unfold Runtime.onNotified
  split
  · exact (fail_goes _ _).head htaken
  · exact (retry_goes _ _).head htaken
  · have hcancelled := r.cancellation.raised h
    exact .head htaken (quits { r with cancellation := r.cancellation.take }
      (.reconnected (.error .shutdown)) (.inr ⟨hcancelled, rfl⟩))
  all_goals exact .refl r

theorem handleWindowEvent_goes (r : Runtime) (event : WindowEvent) (instant : Nat) :
    Goes E A P S r (r.handleWindowEvent event instant) := by
  have hrefused (r : Runtime) (e : InputControllerError) :
      Move E A P S r [.handled (.error (.input e))] r := .returned r _ (.inr ⟨e, rfl⟩)
  unfold Runtime.handleWindowEvent
  split
  · rename_i hshut
    exact .single (.returned r _ (.inl hshut))
  · rename_i hup
    rw [Bool.not_eq_true] at hup
    split
    · exact .single (.returned r _ hup)
    · rename_i htaken
      have hhandled := handleWindowEvent_handled r.input event instant
      generalize r.input.handleWindowEvent event instant = out at hhandled
      cases hhandled with
      | refused _ e => exact .single (hrefused _ _)
      | pruned _ e recentEvents running =>
        exact .head (.told r r.input.focused recentEvents running) (.single (hrefused _ _))
      | closed running =>
        exact closed_returned r (.handled (.error .shutdown)) (.inl rfl)
      | typed input encoded recentEvents running sent =>
        have hcontrol := canControl_of_taken htaken
        have htyped : Leads (Move E A P S) r [.accepted input] _ :=
          .single (.typed r input encoded recentEvents running hcontrol sent)
        exact htyped.tail (.returned _ (.handled (.ok ())) hup)
      | told _ focused running hclosed hinput =>
        simp only [if_neg hclosed]
        split
        · cases hinput
        · exact .head (.told r focused r.input.recentEvents running) (.single (.returned _ _ hup))

theorem shutDown_goes (r : Runtime) (pipelineStopped windowStopped : Bool) :
    Goes E A P S r (r.shutDown pipelineStopped windowStopped) := by
  unfold Runtime.shutDown
  split
  · rename_i hshut
    exact .single (.returned r _ hshut)
  · split
    · exact closed_returned r (.stopped (.ok ())) rfl
    · exact closed_returned r (.stopped (.error .shutdownTimeout)) rfl

/-- A call that is refused at once. -/
theorem refused_returns (r : Runtime) (h : (r.shutdown || r.cancellation.cancelled) = true) :
    r.shutdown = true ∨ r.cancellation.cancelled = true ∧
      ClientRuntimeError.shutdown = .shutdown := by
  simpa using h

/-- Every action is a path of moves. -/
theorem step_goes (r : Runtime) (action : Action) : Goes E A P S r (step E A P S r action) := by
  unfold step
  split
  · rename_i henabled
    cases action with
    | cancel => exact .single (.flags r r.cancellation.cancel false r.phase fun _ => rfl)
    | requestShutdown => exact .single (.flags r r.cancellation.cancel true r.phase fun _ => rfl)
    | run =>
      simp only [perform, Runtime.run]
      split
      · rename_i hrefused
        exact .single (.returned r _ (refused_returns r hrefused))
      · exact .single (.flags r r.cancellation false .running id)
    | reconnectWithRetry =>
      simp only [perform, Runtime.reconnectWithRetry]
      split
      · rename_i hshut
        exact .single (.returned r _ (.inl hshut))
      · exact .single (.flags r r.cancellation false .retrying id)
    | handleWindowEvent event instant => exact handleWindowEvent_goes r event instant
    | shutdown pipelineStopped windowStopped => exact shutDown_goes r _ _
    | drainLatestFrame => exact .single (.drained r true false false)
    | drainLatestCursor => exact .single (.drained r false true false)
    | drainLatestCursorShape => exact .single (.drained r false false true)
    | abandon => exact .single (.flags r r.cancellation false .idle id)
    | notified => exact onNotified_goes r henabled
    | datagram now inbound later pipeline => exact onDatagram_goes r now inbound later pipeline
    | poll now pipelineError events send => exact onPoll_goes r now pipelineError events send
    | head =>
      simp only [perform, Runtime.onHead]
      split
      · rename_i hcancelled
        exact quits r (.reconnected (.error .shutdown)) (.inr ⟨hcancelled, rfl⟩)
      · exact .single (.flags r r.cancellation false .attempting id)
    | attempt now refused later => exact onAttempt_goes r now refused later
    | connection later opened reset => exact onConnection_goes r later opened reset
    | slept => exact .single (.flags r r.cancellation false .retrying id)
  · exact .refl r

end

end ClientRuntime
