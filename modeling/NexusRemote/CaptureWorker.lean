import NexusRemote.CursorControl
import NexusRemote.DepthOne
import NexusRemote.HostMedia

/-!
# The capture source and its worker (`platform/windows/src/capture.rs`)

The owner of a `WindowsCaptureSource` asks a worker thread for frames over two
channels of one slot each, and stops waiting after a timeout. An action is one
atomic step of a thread, so a run is a list of actions in any order; an action
whose thread is not at that point, or is blocked, does nothing. A timeout may
come at any time. What the platform answers to the worker is part of its action:
the factory and the session may do anything, but their calls return.

The calls of `next_frame` are numbered; a command carries the number of the call
that sent it and a frame that of the command it answers. The numbers are not in
the source and no decision reads them. The thread that joins a worker which the
owner no longer waits for has no part in this.
-/

namespace CaptureWorker

open CursorControl HostMedia

abbrev BackendResult := Except BackendErrorKind

inductive CaptureApi where
  | wgc
  | dxgi
  deriving DecidableEq, Repr

structure CaptureConfig where
  allowDxgiFallback : Bool
  deriving DecidableEq, Repr

inductive CaptureState where
  | running (api : CaptureApi)
  | recoverableLoss
  | stopped
  deriving DecidableEq, Repr

inductive CaptureCommand where
  | nextFrame (call : Nat)
  | stop
  deriving DecidableEq, Repr

inductive CaptureResponse where
  | started (result : BackendResult CaptureApi)
  | frame (call : Nat) (result : BackendResult CapturedFrame)
  | stopped (result : BackendResult Unit)

/-- Where the owner is. -/
inductive Owner where
  /-- The channels are there, the thread is not. -/
  | spawning
  | starting
  | idle
  | awaitingFrame (call : Nat)
  | awaitingStop
  /-- In `stop`, with the result of `request_stop`. -/
  | joining (result : BackendResult Unit)
  /-- One end of a channel has been dropped, the other is about to be. -/
  | leaving
  | gone

/-- Where `worker_main` is. -/
inductive Worker where
  | unspawned
  | initializing
  | selecting
  | selectingDxgi
  | reporting (err : BackendErrorKind)
  | announcing (api : CaptureApi)
  | listening
  | capturing (call : Nat)
  | answering (call : Nat) (result : BackendResult CapturedFrame)
  /-- About to call `session.stop`, and to answer if it was asked to. -/
  | stopping (asked : Bool)
  | replying (result : BackendResult Unit)
  | finished

structure State where
  owner : Owner
  worker : Worker
  state : CaptureState
  /-- The owner holds the sender of the commands. -/
  commandTx : Bool
  /-- The owner holds the receiver of the responses. -/
  responseRx : Bool
  commands : Option CaptureCommand
  responses : Option CaptureResponse
  calls : Nat

/-- The state of the source means nothing before it has started. -/
def initial : State := ⟨.spawning, .unspawned, .stopped, true, true, none, none, 0⟩

inductive Event where
  | startReturned (result : BackendResult CaptureApi)
  | called (call : Nat)
  | returned (call : Nat) (result : BackendResult CapturedFrame)
  | stopReturned (result : BackendResult Unit)
  | sessionStarted (api : CaptureApi)
  /-- The worker called `session.next_frame` for this command. -/
  | captured (call : Nat) (result : BackendResult CapturedFrame)
  /-- The worker called `session.stop`. -/
  | stopped (result : BackendResult Unit)

/-- What the platform answers to whatever the worker calls next. -/
structure Replies where
  com : BackendResult Unit
  start : CaptureApi → BackendResult Unit
  nextFrame : BackendResult CapturedFrame
  stop : BackendResult Unit

inductive Action where
  | spawn (spawned : Bool)
  | nextFrame
  | stop
  | drop
  /-- The call in progress gets a response, or finds that the worker is gone. -/
  | receive
  /-- The call in progress has waited long enough. -/
  | timeout
  | release
  | work (replies : Replies)

/-! ## The owner -/

inductive TrySendError where
  | full
  | disconnected
  deriving DecidableEq, Repr

def TrySendError.kind : TrySendError → BackendErrorKind
  | full => .timeout
  | disconnected => .nativeFailure

/-- The receiver of the commands lives as long as the worker. -/
def Worker.alive : Worker → Bool
  | finished => false
  | _ => true

namespace State

def trySend (s : State) (command : CaptureCommand) : Except TrySendError State :=
  if s.worker.alive = false then .error .disconnected
  else if s.commands.isSome then .error .full
  else .ok { s with commands := some command }

def transitionToStopped (s : State) : State := { s with state := .stopped, commandTx := false }

/-- `start` returns an error; the receiver is dropped before the sender. -/
def failStart (s : State) (err : BackendErrorKind) : List Event × State :=
  ([.startReturned (.error err)], { s with responseRx := false, owner := .leaving })

/-- `request_stop` returns, and with it the sender is dropped. -/
def endRequest (s : State) (result : BackendResult Unit) : State :=
  { s with owner := .joining result, state := .stopped, commandTx := false }

def returnFrame (s : State) (call : Nat) (result : BackendResult CapturedFrame) :
    List Event × State :=
  ([.returned call result],
    { s with
      owner := .idle
      state := if result = .error .deviceLost then .recoverableLoss else s.state })

end State

def nextFrame (s : State) : List Event × State :=
  let call := s.calls
  let s' := { s with calls := s.calls + 1 }
  match s.state with
  | .running _ =>
    if s.commandTx then
      match s'.trySend (.nextFrame call) with
      | .ok sent => ([.called call], { sent with owner := .awaitingFrame call })
      | .error err =>
        ([.called call, .returned call (.error err.kind)], s'.transitionToStopped)
    else ([.called call, .returned call (.error .stopped)], s'.transitionToStopped)
  | .recoverableLoss => ([.called call, .returned call (.error .deviceLost)], s')
  | .stopped => ([.called call, .returned call (.error .stopped)], s')

def stop (s : State) : List Event × State :=
  match s.state with
  | .stopped => ([.stopReturned (.ok ())], s)
  | _ =>
    if s.commandTx then
      match s.trySend .stop with
      | .ok sent => ([], { sent with owner := .awaitingStop })
      | .error err => ([], s.endRequest (.error err.kind))
    else ([], s.endRequest (.error .stopped))

/-- The body of `Drop`; the receiver of the responses is a field and goes after it. -/
def drop (s : State) : State :=
  let sent :=
    if s.commandTx && s.state != .stopped then
      match s.trySend .stop with
      | .ok sent => sent
      | .error _ => s
    else s
  { sent with state := .stopped, commandTx := false, owner := .leaving }

/-- `recv_timeout`, when it returns before the timeout. -/
def receive (s : State) : List Event × State :=
  match s.owner with
  | .starting =>
    match s.responses with
    | some (.started (.ok api)) =>
      ([.startReturned (.ok api)],
        { s with responses := none, owner := .idle, state := .running api })
    | some (.started (.error err)) => s.failStart err
    | some _ => s.failStart .initializationFailed
    | none => if s.worker.alive then ([], s) else s.failStart .initializationFailed
  | .awaitingFrame call =>
    match s.responses with
    | some (.frame _ result) => { s with responses := none }.returnFrame call result
    | some _ => { s with responses := none }.transitionToStopped.returnFrame call
        (.error .nativeFailure)
    | none =>
      if s.worker.alive then ([], s)
      else s.transitionToStopped.returnFrame call (.error .nativeFailure)
  | .awaitingStop =>
    match s.responses with
    | some (.stopped result) => ([], { s with responses := none }.endRequest result)
    | some _ => ([], { s with responses := none }.endRequest (.error .nativeFailure))
    | none => if s.worker.alive then ([], s) else ([], s.endRequest (.error .nativeFailure))
  | .joining result =>
    if s.worker.alive then ([], s) else ([.stopReturned result], { s with owner := .idle })
  | _ => ([], s)

def timeout (s : State) : List Event × State :=
  match s.owner with
  | .starting => s.failStart .timeout
  | .awaitingFrame call => s.transitionToStopped.returnFrame call (.error .timeout)
  | .awaitingStop => ([], s.endRequest (.error .timeout))
  | .joining result =>
    ([.stopReturned (result.bind fun _ => .error .timeout)], { s with owner := .idle })
  | _ => ([], s)

def ownerStep (s : State) : Action → List Event × State
  | .spawn spawned =>
    match s.owner with
    | .spawning =>
      if spawned then ([], { s with owner := .starting, worker := .initializing })
      else
        -- the worker's ends of the channels are dropped with the closure
        ([.startReturned (.error .initializationFailed)],
          { s with owner := .gone, worker := .finished, commandTx := false, responseRx := false })
    | _ => ([], s)
  | .nextFrame =>
    match s.owner with
    | .idle => nextFrame s
    | _ => ([], s)
  | .stop =>
    match s.owner with
    | .idle => stop s
    | _ => ([], s)
  | .drop =>
    match s.owner with
    | .idle => ([], drop s)
    | _ => ([], s)
  | .receive => receive s
  | .timeout => timeout s
  | .release =>
    match s.owner with
    | .leaving => ([], { s with owner := .gone, commandTx := false, responseRx := false })
    | _ => ([], s)
  | .work _ => ([], s)

/-! ## The worker -/

/-- `SyncSender::send`: where the worker goes if the response is in the slot, and where if the
receiver is gone; as long as the slot is full it stays. -/
def State.send (s : State) (response : CaptureResponse) (sent disconnected : Worker) : State :=
  if s.responseRx = false then { s with worker := disconnected }
  else if s.responses.isSome then s
  else { s with responses := some response, worker := sent }

/-- Whether `select_session` tries the other API after this error. -/
def fallsBack (config : CaptureConfig) (err : BackendErrorKind) : Bool :=
  config.allowDxgiFallback && (err == .unsupportedApi || err == .deviceLost)

/-- The worker passes on valid frames only. -/
def checked (result : BackendResult CapturedFrame) : BackendResult CapturedFrame :=
  match result with
  | .ok frame =>
    match frame.validate with
    | .ok () => .ok frame
    | .error _ => .error .invalidFrame
  | .error err => .error err

def workerStep (config : CaptureConfig) (s : State) (replies : Replies) : List Event × State :=
  match s.worker with
  | .unspawned | .finished => ([], s)
  | .initializing =>
    match replies.com with
    | .ok () => ([], { s with worker := .selecting })
    | .error err => ([], { s with worker := .reporting err })
  | .selecting =>
    match replies.start .wgc with
    | .ok () => ([.sessionStarted .wgc], { s with worker := .announcing .wgc })
    | .error err =>
      ([], { s with worker := if fallsBack config err then .selectingDxgi else .reporting err })
  | .selectingDxgi =>
    match replies.start .dxgi with
    | .ok () => ([.sessionStarted .dxgi], { s with worker := .announcing .dxgi })
    | .error err => ([], { s with worker := .reporting err })
  | .reporting err => ([], s.send (.started (.error err)) .finished .finished)
  | .announcing api => ([], s.send (.started (.ok api)) .listening (.stopping false))
  | .listening =>
    match s.commands with
    | some (.nextFrame call) => ([], { s with commands := none, worker := .capturing call })
    | some .stop => ([], { s with commands := none, worker := .stopping true })
    | none => if s.commandTx then ([], s) else ([], { s with worker := .stopping false })
  | .capturing call =>
    ([.captured call replies.nextFrame],
      { s with worker := .answering call (checked replies.nextFrame) })
  | .answering call result => ([], s.send (.frame call result) .listening (.stopping false))
  | .stopping asked =>
    ([.stopped replies.stop],
      { s with worker := if asked then .replying replies.stop else .finished })
  | .replying result => ([], s.send (.stopped result) .finished .finished)

def step (config : CaptureConfig) (s : State) : Action → List Event × State
  | .work replies => workerStep config s replies
  | a => ownerStep s a

/-! ## What a step can do -/

/-- The worker is about to send a response; where it goes if it can, and where if nobody listens. -/
inductive Sends : Worker → CaptureResponse → Worker → Worker → Prop where
  | report (err : BackendErrorKind) :
      Sends (.reporting err) (.started (.error err)) .finished .finished
  | announce (api : CaptureApi) :
      Sends (.announcing api) (.started (.ok api)) .listening (.stopping false)
  | answer (call : Nat) (result : BackendResult CapturedFrame) :
      Sends (.answering call result) (.frame call result) .listening (.stopping false)
  | reply (result : BackendResult Unit) :
      Sends (.replying result) (.stopped result) .finished .finished

inductive Works (s : State) : List Event → State → Prop where
  | rests (hw : s.worker = .unspawned ∨ s.worker = .finished) : Works s [] s
  | waits (hw : s.worker = .listening) (hcommands : s.commands = none) (htx : s.commandTx = true) :
      Works s [] s
  | blocks (response : CaptureResponse) (sent lost : Worker)
      (hw : Sends s.worker response sent lost) (hfull : s.responses.isSome = true) : Works s [] s
  | initializes (hw : s.worker = .initializing) : Works s [] { s with worker := .selecting }
  | turns (hw : s.worker = .selecting) : Works s [] { s with worker := .selectingDxgi }
  | fails (err : BackendErrorKind)
      (hw : s.worker = .initializing ∨ s.worker = .selecting ∨ s.worker = .selectingDxgi) :
      Works s [] { s with worker := .reporting err }
  | opens (api : CaptureApi) (hw : s.worker = .selecting ∨ s.worker = .selectingDxgi) :
      Works s [.sessionStarted api] { s with worker := .announcing api }
  | sends (response : CaptureResponse) (sent lost : Worker)
      (hw : Sends s.worker response sent lost) (hempty : s.responses = none) :
      Works s [] { s with responses := some response, worker := sent }
  | loses (response : CaptureResponse) (sent lost : Worker)
      (hw : Sends s.worker response sent lost) : Works s [] { s with worker := lost }
  | takes (call : Nat) (hw : s.worker = .listening)
      (hcommands : s.commands = some (.nextFrame call)) :
      Works s [] { s with commands := none, worker := .capturing call }
  | obeys (hw : s.worker = .listening) (hcommands : s.commands = some .stop) :
      Works s [] { s with commands := none, worker := .stopping true }
  | hangsUp (hw : s.worker = .listening) (hcommands : s.commands = none)
      (htx : s.commandTx = false) : Works s [] { s with worker := .stopping false }
  | captures (call : Nat) (result : BackendResult CapturedFrame) (hw : s.worker = .capturing call) :
      Works s [.captured call result] { s with worker := .answering call (checked result) }
  | replies (result : BackendResult Unit) (hw : s.worker = .stopping true) :
      Works s [.stopped result] { s with worker := .replying result }
  | ends (result : BackendResult Unit) (hw : s.worker = .stopping false) :
      Works s [.stopped result] { s with worker := .finished }

theorem send_works (s : State) {response : CaptureResponse} {sent lost : Worker}
    (hw : Sends s.worker response sent lost) : Works s [] (s.send response sent lost) := by
  rw [State.send]
  split
  · exact .loses response sent lost hw
  · split
    · exact .blocks response sent lost hw ‹_›
    · exact .sends response sent lost hw (by simpa using ‹¬s.responses.isSome = true›)

theorem workerStep_works (config : CaptureConfig) (s : State) (replies : Replies) :
    Works s (workerStep config s replies).1 (workerStep config s replies).2 := by
  rw [workerStep]
  cases hw : s.worker with
  | unspawned => exact .rests (.inl hw)
  | finished => exact .rests (.inr hw)
  | initializing =>
    cases replies.com with
    | ok u => exact .initializes hw
    | error err => exact .fails err (.inl hw)
  | selecting =>
    dsimp only
    cases replies.start .wgc with
    | ok u => exact .opens .wgc (.inl hw)
    | error err =>
      dsimp only
      split
      · exact .turns hw
      · exact .fails err (.inr (.inl hw))
  | selectingDxgi =>
    dsimp only
    cases replies.start .dxgi with
    | ok u => exact .opens .dxgi (.inr hw)
    | error err => exact .fails err (.inr (.inr hw))
  | reporting err => exact send_works s (hw ▸ .report err)
  | announcing api => exact send_works s (hw ▸ .announce api)
  | listening =>
    dsimp only
    split
    · exact .takes _ hw ‹_›
    · exact .obeys hw ‹_›
    · split
      · exact .waits hw ‹_› ‹_›
      · exact .hangsUp hw ‹_› (by simpa using ‹¬s.commandTx = true›)
  | capturing call => exact .captures call replies.nextFrame hw
  | answering call result => exact send_works s (hw ▸ .answer call result)
  | stopping asked =>
    cases asked with
    | true => exact .replies replies.stop hw
    | false => exact .ends replies.stop hw
  | replying result => exact send_works s (hw ▸ .reply result)

/-- What is left of the responses when the owner stops waiting for one. -/
def Left (s : State) (responses : Option CaptureResponse) : Prop :=
  responses = s.responses ∨ responses = none

inductive Asks (s : State) : List Event → State → Prop where
  | rests : Asks s [] s
  | spawns (ho : s.owner = .spawning) :
      Asks s [] { s with owner := .starting, worker := .initializing }
  | spawnFails (ho : s.owner = .spawning) (err : BackendErrorKind) :
      Asks s [.startReturned (.error err)]
        { s with owner := .gone, worker := .finished, commandTx := false, responseRx := false }
  | starts (ho : s.owner = .starting) (api : CaptureApi)
      (hresponse : s.responses = some (.started (.ok api))) :
      Asks s [.startReturned (.ok api)]
        { s with responses := none, owner := .idle, state := .running api }
  | startFails (ho : s.owner = .starting) (err : BackendErrorKind) :
      Asks s [.startReturned (.error err)] { s with responseRx := false, owner := .leaving }
  | refuses (ho : s.owner = .idle) (err : BackendErrorKind) (state : CaptureState)
      (commandTx : Bool) (htx : commandTx = true → s.commandTx = true) :
      Asks s [.called s.calls, .returned s.calls (.error err)]
        { s with calls := s.calls + 1, state := state, commandTx := commandTx }
  | asks (ho : s.owner = .idle) (htx : s.commandTx = true) :
      Asks s [.called s.calls]
        { s with
          calls := s.calls + 1
          commands := some (.nextFrame s.calls)
          owner := .awaitingFrame s.calls }
  | returns (call tag : Nat) (result : BackendResult CapturedFrame)
      (ho : s.owner = .awaitingFrame call) (hresponse : s.responses = some (.frame tag result))
      (state : CaptureState) :
      Asks s [.returned call result]
        { s with responses := none, owner := .idle, state := state }
  | abandons (call : Nat) (ho : s.owner = .awaitingFrame call) (err : BackendErrorKind)
      (responses : Option CaptureResponse) (hleft : Left s responses) (state : CaptureState) :
      Asks s [.returned call (.error err)]
        { s with responses := responses, owner := .idle, state := state, commandTx := false }
  | stoppedAlready (ho : s.owner = .idle) : Asks s [.stopReturned (.ok ())] s
  | asksStop (ho : s.owner = .idle) (htx : s.commandTx = true) :
      Asks s [] { s with commands := some .stop, owner := .awaitingStop }
  | endsRequest (ho : s.owner = .idle ∨ s.owner = .awaitingStop) (result : BackendResult Unit)
      (responses : Option CaptureResponse) (hleft : Left s responses) :
      Asks s []
        { s with
          responses := responses, owner := .joining result, state := .stopped, commandTx := false }
  | joins (reason result : BackendResult Unit) (ho : s.owner = .joining reason) :
      Asks s [.stopReturned result] { s with owner := .idle }
  | drops (ho : s.owner = .idle) (commands : Option CaptureCommand)
      (hcommands : commands = s.commands ∨ (commands = some .stop ∧ s.commandTx = true)) :
      Asks s []
        { s with commands := commands, state := .stopped, commandTx := false, owner := .leaving }
  | releases (ho : s.owner = .leaving) :
      Asks s [] { s with owner := .gone, commandTx := false, responseRx := false }

theorem trySend_cases (s : State) (command : CaptureCommand) :
    (∃ err, s.trySend command = .error err) ∨
      s.trySend command = .ok { s with commands := some command } := by
  rw [State.trySend]
  split
  · exact .inl ⟨_, rfl⟩
  · split
    · exact .inl ⟨_, rfl⟩
    · exact .inr rfl

theorem nextFrame_asks (s : State) (ho : s.owner = .idle) :
    Asks s (nextFrame s).1 (nextFrame s).2 := by
  obtain ⟨owner, worker, state, commandTx, responseRx, commands, responses, calls⟩ := s
  unfold nextFrame
  cases state with
  | running api =>
    dsimp only
    cases commandTx with
    | false => exact .refuses ho .stopped .stopped false (by simp)
    | true =>
      rw [if_pos rfl]
      rcases trySend_cases ⟨owner, worker, .running api, true, responseRx, commands, responses,
        calls + 1⟩ (.nextFrame calls) with ⟨err, hsend⟩ | hsend
      · rw [hsend]
        exact .refuses ho err.kind .stopped false (by simp)
      · rw [hsend]
        exact .asks ho rfl
  | recoverableLoss => exact .refuses ho .deviceLost .recoverableLoss commandTx id
  | stopped => exact .refuses ho .stopped .stopped commandTx id

theorem stop_asks (s : State) (ho : s.owner = .idle) : Asks s (stop s).1 (stop s).2 := by
  have hends : ∀ result, Asks s [] (s.endRequest result) := fun result =>
    .endsRequest (.inl ho) result s.responses (.inl rfl)
  unfold stop
  split
  · exact .stoppedAlready ho
  · split
    · rename_i htx
      rcases trySend_cases s .stop with ⟨err, hsend⟩ | hsend
      · rw [hsend]
        exact hends _
      · rw [hsend]
        exact .asksStop ho htx
    · exact hends _

theorem drop_asks (s : State) (ho : s.owner = .idle) : Asks s [] (drop s) := by
  unfold drop
  dsimp only
  split
  · rename_i htx
    have hsender : s.commandTx = true := (Bool.and_eq_true_iff.mp htx).1
    rcases trySend_cases s .stop with ⟨err, hsend⟩ | hsend
    · rw [hsend]
      exact .drops ho s.commands (.inl rfl)
    · rw [hsend]
      exact .drops ho (some .stop) (.inr ⟨rfl, hsender⟩)
  · exact .drops ho s.commands (.inl rfl)

theorem receive_asks (s : State) : Asks s (receive s).1 (receive s).2 := by
  unfold receive
  cases ho : s.owner with
  | starting =>
    dsimp only
    split
    · exact .starts ho _ ‹_›
    · exact .startFails ho _
    · exact .startFails ho _
    · split
      · exact .rests
      · exact .startFails ho _
  | awaitingFrame call =>
    dsimp only
    split
    · exact .returns call _ _ ho ‹_› _
    · exact .abandons call ho _ none (.inr rfl) _
    · split
      · exact .rests
      · exact .abandons call ho _ s.responses (.inl rfl) _
  | awaitingStop =>
    dsimp only
    split
    · exact .endsRequest (.inr ho) _ none (.inr rfl)
    · exact .endsRequest (.inr ho) _ none (.inr rfl)
    · split
      · exact .rests
      · exact .endsRequest (.inr ho) _ s.responses (.inl rfl)
  | joining result =>
    dsimp only
    split
    · exact .rests
    · exact .joins result result ho
  | _ => exact .rests

theorem timeout_asks (s : State) : Asks s (timeout s).1 (timeout s).2 := by
  unfold timeout
  cases ho : s.owner with
  | starting => exact .startFails ho .timeout
  | awaitingFrame call => exact .abandons call ho .timeout s.responses (.inl rfl) _
  | awaitingStop => exact .endsRequest (.inr ho) _ s.responses (.inl rfl)
  | joining result => exact .joins result _ ho
  | _ => exact .rests

theorem ownerStep_asks (s : State) (a : Action) : Asks s (ownerStep s a).1 (ownerStep s a).2 := by
  cases a with
  | receive => exact receive_asks s
  | timeout => exact timeout_asks s
  | work replies => exact .rests
  | spawn spawned =>
    cases ho : s.owner <;> simp only [ownerStep, ho] <;> try exact .rests
    cases spawned with
    | true => exact .spawns ho
    | false => exact .spawnFails ho .initializationFailed
  | nextFrame =>
    cases ho : s.owner <;> simp only [ownerStep, ho] <;> try exact .rests
    exact nextFrame_asks s ho
  | stop =>
    cases ho : s.owner <;> simp only [ownerStep, ho] <;> try exact .rests
    exact stop_asks s ho
  | drop =>
    cases ho : s.owner <;> simp only [ownerStep, ho] <;> try exact .rests
    exact drop_asks s ho
  | release =>
    cases ho : s.owner <;> simp only [ownerStep, ho] <;> try exact .rests
    exact .releases ho

/-- A step is one of the worker's or one of the owner's. -/
theorem step_cases (config : CaptureConfig) (s : State) (a : Action) :
    Works s (step config s a).1 (step config s a).2 ∨
      Asks s (step config s a).1 (step config s a).2 := by
  cases a with
  | work replies => exact .inl (workerStep_works config s replies)
  | _ => exact .inr (ownerStep_asks s _)

end CaptureWorker
