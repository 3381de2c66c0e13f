import NexusRemote.RuntimeSafety

/-!
# The configured client

`ClientRuntime::run_configured_with_cancellation`
(`apps/nexus-client/src/runtime.rs`) connects and then alternates between `run`
and `reconnect_with_retry` until one of them ends it; on the way out the runtime
is shut down, or dropped, which comes to the same. A cancellation may come from
another task at any time. What `run` and `reconnect_with_retry` wait for is also
what wakes them when they are cancelled.
-/

namespace ConfiguredClient

open Capabilities FrameCrypto ClientSession ClientRuntime RuntimeSafety
open BigEndian (Bytes)
open ProtobufReader (Codec)
open CursorControl (CursorPosition CursorShape positionCodec shapeCodec)
open ChaCha20Poly1305 (cipher)
open ControlEncoding (encoder)

variable {E : Encoder} {A : Aead} {P : Codec CursorPosition} {S : Codec CursorShape}

/-! ## What an action within a call comes to -/

/-- The call that holds the runtime returns. -/
def isReturn : Event → Bool
  | .ran _ | .reconnected _ => true
  | _ => false

/-- Where `run` or `reconnect_with_retry` is after an action. -/
inductive Turns (r : Runtime) : List Event × Runtime → Prop where
  | serves (events : List Event) (r' : Runtime)
    (quiet : ∀ e ∈ events, isReturn e = false) (before : r.phase ≠ .retrying)
    (phase : r'.phase = .running) (cancellation : r'.cancellation = r.cancellation) :
    Turns r (events, r')
  | begins (r' : Runtime) (phase : r'.phase = .attempting)
    (cancellation : r'.cancellation = r.cancellation)
    (cancelled : r.cancellation.cancelled = false) : Turns r ([], r')
  | connects (r' : Runtime) (phase : r'.phase = .connecting)
    (session : r'.session.state = .connecting) (cancellation : r'.cancellation = r.cancellation)
    (cancelled : r.cancellation.cancelled = false) : Turns r ([], r')
  | waits (r' : Runtime) (before : r.phase ≠ .retrying) (phase : r'.phase = .waiting)
    (cancellation : r'.cancellation = r.cancellation) : Turns r ([], r')
  | repeats (r' : Runtime) (phase : r'.phase = .retrying) : Turns r ([], r')
  | returns (events : List Event) (e : Event) (r' : Runtime)
    (quiet : ∀ e ∈ events, isReturn e = false) (isReturn : isReturn e = true)
    (phase : r'.phase = .idle) (h : Returns r' e) : Turns r (events ++ [e], r')

theorem fail_turns (r₀ r : Runtime) (e : ClientRuntimeError) :
    Turns r₀ (r.fail e) :=
  .returns [.closed] (.ran (.error e)) _ (by simp [isReturn]) rfl rfl (.inl rfl)

/-- A failed attempt is the end, unless the session still waits for a transport. -/
theorem retry_turns (r₀ r : Runtime) (e : ClientRuntimeError)
    (hbefore : r₀.phase ≠ .retrying)
    (h : r.session.state = .reconnecting → r.cancellation = r₀.cancellation) :
    Turns r₀ (r.retry e) := by
  unfold Runtime.retry
  split
  · exact .returns [.closed] (.reconnected (.error e)) _ (by simp [isReturn]) rfl rfl (.inl rfl)
  · rename_i hstate
    exact .waits _ hbefore rfl (h (not_not.mp hstate))

/-! ### `run` -/

theorem handOver_turns (r₀ r : Runtime) (now : UInt64)
    (submit : Except ClientDecoder.DecoderError Unit) (hbefore : r₀.phase ≠ .retrying)
    (hphase : r.phase = .running) (hcancellation : r.cancellation = r₀.cancellation) :
    Turns r₀ (r.handOver now submit) := by
  unfold Runtime.handOver
  cases hframe : r.client.receiver.latestFrame with
  | none =>
    simp only [ClientReceiver.Receiver.drainLatestFrame, hframe]
    exact .serves [] _ (by simp) hbefore hphase hcancellation
  | some frame =>
    simp only [ClientReceiver.Receiver.drainLatestFrame, hframe]
    split
    · exact fail_turns r₀ _ _
    · rename_i r' hrender
      obtain ⟨e, queue, hcases⟩ | ⟨queue, hcases, -⟩ := renderLatest_cases
        { r with
          client := { r.client with receiver := { r.client.receiver with latestFrame := none } }
          latestFrame := some frame } frame
      · rw [hcases] at hrender
        cases hrender
      · rw [hcases] at hrender
        obtain rfl := (Prod.mk.inj hrender).2
        split
        · exact .serves [] _ (by simp) hbefore hphase hcancellation
        · split
          · exact fail_turns r₀ _ _
          · exact .serves _ _ (by simp [isReturn]) hbefore hphase hcancellation

theorem connectionEnded_turns (r₀ r : Runtime) (error : ConnectionError) (later : UInt64)
    (reset : Except ClientDecoder.DecoderError Unit) :
    Turns r₀ (r.connectionEnded error later reset) := by
  unfold Runtime.connectionEnded
  split
  · split
    · exact fail_turns r₀ _ _
    · split
      · exact fail_turns r₀ _ _
      · rename_i session hlost
        cases reset with
        | error e => exact fail_turns r₀ _ _
        | ok u =>
          have hstate := transportLost_state r.session later hlost
          exact .returns [] _ _ (by simp) rfl rfl ⟨rfl, hstate⟩
  · exact fail_turns r₀ _ _

theorem onDatagram_turns (r : Runtime) (now : UInt64) (inbound : Except ConnectionError Bytes)
    (later : UInt64) (pipeline : Except ClientDecoder.DecoderError Unit)
    (hphase : r.phase = .running) :
    Turns r (r.onDatagram E A P S now inbound later pipeline) := by
  unfold Runtime.onDatagram
  split
  · exact fail_turns r _ _
  · cases inbound with
    | error error => exact connectionEnded_turns r _ error later pipeline
    | ok bytes =>
      simp only
      split
      · exact fail_turns r _ _
      · exact handOver_turns r _ now pipeline (by simp [hphase]) hphase rfl

/-- A part of `run` that returns nothing itself and leaves the runtime running if it succeeds. -/
def Runs (r : Runtime)
    (out : List Event × Except ClientRuntimeError Unit × Runtime) :
    Prop :=
  (∀ e ∈ out.1, isReturn e = false) ∧
    (out.2.1 = .ok () → out.2.2.phase = r.phase ∧ out.2.2.cancellation = r.cancellation)

theorem Turns.prepend {r : Runtime} {out : List Event × Runtime}
    (h : Turns r out) (hphase : out.2.phase = .running ∨ out.2.phase = .idle)
    (events : List Event) (hevents : ∀ e ∈ events, isReturn e = false) :
    Turns r (events ++ out.1, out.2) := by
  cases h with
  | serves later r' quiet before phase cancellation =>
    exact .serves _ r' (List.forall_mem_append.mpr ⟨hevents, quiet⟩) before phase cancellation
  | returns later e r' quiet isReturn phase h =>
    rw [← List.append_assoc]
    exact .returns _ e r' (List.forall_mem_append.mpr ⟨hevents, quiet⟩) isReturn phase h
  | begins r' phase | connects r' phase | waits r' before phase | repeats r' phase =>
    simp [phase] at hphase

/-- `run` goes on or has returned. -/
def Serving (r : Runtime) (out : List Event × Runtime) : Prop :=
  Turns r out ∧ (out.2.phase = .running ∨ out.2.phase = .idle)

theorem continueWith_serving {r : Runtime}
    {out : List Event × Except ClientRuntimeError Unit × Runtime}
    {next : Runtime → List Event × Runtime} (hout : Runs r out)
    (hnext : out.2.1 = .ok () → Serving r (next out.2.2)) :
    Serving r (Runtime.continueWith out next) := by
  obtain ⟨events, result, r'⟩ := out
  cases result with
  | error e => exact ⟨(fail_turns r r' e).prepend (.inr rfl) events hout.1, .inr rfl⟩
  | ok u =>
    obtain ⟨hturns, hphase⟩ := hnext rfl
    exact ⟨hturns.prepend hphase events hout.1, hphase⟩

theorem pumpWindowEvents_runs (r : Runtime) (events : List (WindowInput.WindowEvent × Nat)) :
    Runs r (r.pumpWindowEvents events) := by
  induction events generalizing r with
  | nil => exact ⟨by simp [Runtime.pumpWindowEvents], fun _ => ⟨rfl, rfl⟩⟩
  | cons head events ih =>
    obtain ⟨event, instant⟩ := head
    unfold Runtime.pumpWindowEvents
    split
    · exact ih r
    · split
      · exact ⟨by simp, by simp⟩
      · split
        · exact ⟨by simp [isReturn], by simp⟩
        · rename_i input hhandled hopen
          have hrest := ih { r with input }
          split
          · exact ⟨by simpa [isReturn] using hrest.1, hrest.2⟩
          · exact hrest

theorem pumpInput_runs (r : Runtime) (now : UInt64) (send : Except SendDatagramError Unit) :
    Runs r (r.pumpInput now send) := by
  unfold Runtime.pumpInput
  split
  · exact ⟨by simp [isReturn], fun _ => ⟨rfl, rfl⟩⟩
  · split
    · exact ⟨by simp, fun _ => ⟨rfl, rfl⟩⟩
    · split
      · exact ⟨by simp, by simp⟩
      · exact ⟨by simp [isReturn], fun _ => ⟨rfl, rfl⟩⟩

theorem onPoll_turns (r : Runtime) (now : UInt64)
    (pipelineError : Option ClientDecoder.DecoderError)
    (events : List (WindowInput.WindowEvent × Nat)) (send : Except SendDatagramError Unit)
    (hphase : r.phase = .running) : Turns r (r.onPoll E now pipelineError events send) := by
  unfold Runtime.onPoll
  cases pipelineError with
  | some e => exact fail_turns r _ _
  | none =>
    simp only
    split
    · exact fail_turns r _ _
    · rename_i session hactive
      have hwindow := pumpWindowEvents_runs { r with session } events
      refine (continueWith_serving (r := r) hwindow fun hok => ?_).1
      have hinput := pumpInput_runs ({ r with session }.pumpWindowEvents events).2.2 now send
      obtain ⟨hphase', hcancellation⟩ := hwindow.2 hok
      refine continueWith_serving ⟨hinput.1, fun hsent => ?_⟩ fun hsent => ?_
      · exact ⟨(hinput.2 hsent).1.trans hphase', (hinput.2 hsent).2.trans hcancellation⟩
      · have hrunning := (hinput.2 hsent).1.trans (hphase'.trans hphase)
        exact ⟨.serves [] _ (by simp) (by simp [hphase]) hrunning
          ((hinput.2 hsent).2.trans hcancellation), .inl hrunning⟩

/-! ### `reconnect_with_retry` -/

theorem onAttempt_turns (r : Runtime) (now : UInt64) (refused : Option ConnectError)
    (later : UInt64) (hbefore : r.phase ≠ .retrying) :
    Turns r (r.onAttempt E now refused later) := by
  unfold Runtime.onAttempt
  split
  · exact retry_turns r r _ hbefore fun _ => rfl
  · rename_i hcancelled
    rw [Bool.not_eq_true] at hcancelled
    split
    · exact retry_turns r _ _ hbefore fun _ => rfl
    · rename_i session hbegun
      have heffect := beginConnect_effect (E := E) (s := r.session) now
      rw [hbegun] at heffect
      cases refused with
      | none =>
        cases heffect
        exact .connects _ rfl rfl rfl hcancelled
      | some refusal =>
        simp only
        split <;> exact retry_turns r _ _ hbefore fun _ => rfl

/-- After `fail_closed` no attempt is made any more. -/
theorem retry_closed (r : Runtime) (e : ClientRuntimeError) :
    r.failClosed.retry e =
      ([.closed, .reconnected (.error e)], { r.failClosed.failClosed with phase := .idle }) := by
  have hexpired : r.failClosed.session.state ≠ .reconnecting := by
    rw [(failClosed_closed r).session]
    decide
  rw [Runtime.retry, if_pos hexpired]

theorem onConnection_turns (r : Runtime) (later : UInt64) (opened : Except ConnectionError Unit)
    (reset : Except ClientDecoder.DecoderError Unit) (hbefore : r.phase ≠ .retrying) :
    Turns r (r.onConnection E later opened reset) := by
  unfold Runtime.onConnection
  cases opened with
  | error error =>
    simp only
    split <;> exact retry_turns r _ _ hbefore fun _ => rfl
  | ok u =>
    simp only
    split
    · exact retry_turns r _ _ hbefore fun _ => rfl
    · rename_i session hconnected
      have hstate := connected_state r.session later hconnected
      cases reset with
      | error e =>
        simp only
        rw [retry_closed]
        exact .returns [.replaced, .closed, .closed] (.reconnected (.error (.decoder e)))
          _ (by simp [isReturn]) rfl rfl (.inl rfl)
      | ok u =>
        exact .returns [.replaced] (.reconnected (.ok ())) _ (by simp [isReturn]) rfl rfl hstate

/-- A runtime that waits for a connection has a session that does. -/
def Connecting (r : Runtime) : Prop := r.phase = .connecting → r.session.state = .connecting

theorem onNotified_turns (r : Runtime) (hconnecting : Connecting r)
    (hpermit : r.cancellation.permit = true) : Turns r r.onNotified ∨ r.onNotified = ([], r) := by
  unfold Runtime.onNotified
  split
  · exact .inl (fail_turns r _ _)
  · rename_i hphase
    -- The notification is spent, but the session is past waiting for another attempt.
    refine .inl (retry_turns r _ _ (by simp [hphase]) fun hstate => ?_)
    rw [show _ = r.session.state from rfl, hconnecting hphase] at hstate
    cases hstate
  · have hcancelled := r.cancellation.raised hpermit
    exact .inl (.returns [] _ _ (by simp) rfl rfl (.inr ⟨hcancelled, rfl⟩))
  all_goals exact .inr rfl

/-- The actions that happen while `run` or `reconnect_with_retry` holds the runtime. -/
def internal : Action → Bool
  | .notified | .datagram .. | .poll .. | .head | .attempt .. | .connection .. | .slept => true
  | _ => false

/-- What an action within a call comes to. -/
theorem step_turns (r : Runtime) (action : Action) (hconnecting : Connecting r)
    (hinternal : internal action = true) :
    Turns r (ClientRuntime.step E A P S r action) ∨
      ClientRuntime.step E A P S r action = ([], r) := by
  unfold ClientRuntime.step
  split
  · rename_i henabled
    cases action with
    | notified => exact onNotified_turns r hconnecting henabled
    | datagram now inbound later pipeline =>
      exact .inl (onDatagram_turns r now inbound later pipeline (of_decide_eq_true henabled))
    | poll now pipelineError events send =>
      exact .inl (onPoll_turns r now pipelineError events send (of_decide_eq_true henabled))
    | head =>
      left
      simp only [perform, Runtime.onHead]
      split
      · rename_i hcancelled
        exact .returns [] _ _ (by simp) rfl rfl (.inr ⟨hcancelled, rfl⟩)
      · rename_i hcancelled
        exact .begins _ rfl rfl (by simpa using hcancelled)
    | attempt now refused later =>
      have hphase : r.phase = .attempting := of_decide_eq_true henabled
      exact .inl (onAttempt_turns r now refused later (by simp [hphase]))
    | connection later opened reset =>
      have hphase : r.phase = .connecting := of_decide_eq_true henabled
      exact .inl (onConnection_turns r later opened reset (by simp [hphase]))
    | slept => exact .inl (.repeats _ rfl)
    | _ => cases hinternal
  · exact .inr rfl

/-! ## No cancellation is missed -/

/-- Where the runtime waits for something, a cancellation that has come is there to be taken. -/
structure Heard (r : Runtime) : Prop where
  connecting : Connecting r
  pending : r.cancellation.cancelled = true → r.phase ≠ .idle → r.phase ≠ .retrying →
    r.cancellation.permit = true

theorem Turns.heard {r : Runtime} {out : List Event × Runtime} (h : Turns r out)
    (hphase : r.phase ≠ .idle) (hr : Heard r) : Heard out.2 := by
  cases h with
  | serves events r' quiet before phase cancellation =>
    refine ⟨by simp [Connecting, phase], fun hcancelled _ _ => ?_⟩
    rw [cancellation] at hcancelled ⊢
    exact hr.pending hcancelled hphase before
  | begins r' phase cancellation cancelled =>
    refine ⟨by simp [Connecting, phase], fun hcancelled => ?_⟩
    rw [cancellation, cancelled] at hcancelled
    cases hcancelled
  | connects r' phase session cancellation cancelled =>
    refine ⟨fun _ => session, fun hcancelled => ?_⟩
    rw [cancellation, cancelled] at hcancelled
    cases hcancelled
  | waits r' before phase cancellation =>
    refine ⟨by simp [Connecting, phase], fun hcancelled _ _ => ?_⟩
    rw [cancellation] at hcancelled ⊢
    exact hr.pending hcancelled hphase before
  | repeats r' phase => exact ⟨by simp [Connecting, phase], by simp [phase]⟩
  | returns events e r' quiet isReturn phase h =>
    exact ⟨by simp [Connecting, phase], by simp [phase]⟩

/-- While no call holds the runtime, none of its actions happens. -/
theorem step_idle (r : Runtime) (action : Action) (hphase : r.phase = .idle)
    (hinternal : internal action = true) : ClientRuntime.step E A P S r action = ([], r) := by
  unfold ClientRuntime.step
  split
  · rename_i henabled
    cases action with
    | notified => simp [perform, Runtime.onNotified, hphase]
    | datagram | poll | head | attempt | connection | slept =>
      simp [Action.enabled, hphase] at henabled
    | _ => cases hinternal
  · rfl

theorem heard_idle {r : Runtime} (hphase : r.phase = .idle) : Heard r :=
  ⟨by simp [Connecting, hphase], by simp [hphase]⟩

theorem handleWindowEvent_phase (r : Runtime) (event : WindowInput.WindowEvent) (instant : Nat) :
    (r.handleWindowEvent event instant).2.phase = r.phase := by
  unfold Runtime.handleWindowEvent
  repeat' split
  all_goals rfl

theorem shutDown_phase (r : Runtime) (pipelineStopped windowStopped : Bool) :
    (r.shutDown pipelineStopped windowStopped).2.phase = r.phase := by
  unfold Runtime.shutDown
  repeat' split
  all_goals rfl

theorem run_heard (r : Runtime) (hphase : r.phase = .idle) : Heard r.run.2 := by
  unfold Runtime.run
  split
  · exact heard_idle hphase
  · rename_i hfree
    simp only [Bool.or_eq_true, not_or, Bool.not_eq_true] at hfree
    exact ⟨by simp [Connecting], by simp [hfree.2]⟩

theorem reconnectWithRetry_heard (r : Runtime) (hphase : r.phase = .idle) :
    Heard r.reconnectWithRetry.2 := by
  unfold Runtime.reconnectWithRetry
  split
  · exact heard_idle hphase
  · exact ⟨by simp [Connecting], by simp⟩

theorem step_heard (r : Runtime) (action : Action) (h : Heard r) :
    Heard (ClientRuntime.step E A P S r action).2 := by
  cases hinternal : internal action with
  | true =>
    by_cases hphase : r.phase = .idle
    · rw [step_idle r action hphase hinternal]
      exact h
    · rcases step_turns (E := E) (A := A) (P := P) (S := S) r action h.connecting hinternal with
        hturns | hsame
      · exact hturns.heard hphase h
      · rw [hsame]
        exact h
  | false =>
    unfold ClientRuntime.step
    split
    · rename_i henabled
      cases action with
      | cancel => exact ⟨h.connecting, fun _ _ _ => rfl⟩
      | abandon => exact heard_idle rfl
      | run => exact run_heard r (of_decide_eq_true henabled)
      | reconnectWithRetry => exact reconnectWithRetry_heard r (of_decide_eq_true henabled)
      | handleWindowEvent event instant =>
        apply heard_idle
        exact (handleWindowEvent_phase r event instant).trans (of_decide_eq_true henabled)
      | shutdown pipelineStopped windowStopped =>
        apply heard_idle
        exact (shutDown_phase r pipelineStopped windowStopped).trans (of_decide_eq_true henabled)
      | requestShutdown | drainLatestFrame | drainLatestCursor | drainLatestCursorShape =>
        apply heard_idle
        exact of_decide_eq_true henabled
      | _ => cases hinternal
    · exact h

/-- Whoever cancels the client, and whenever: where `run` or `reconnect_with_retry` waits, for a
datagram, the clock, a connection or the next attempt, the notification is there to be taken, and
the call returns with it at once. No cancellation is lost on the way. -/
theorem cancellation_never_missed (E : Encoder) (A : Aead) (P : Codec CursorPosition)
    (S : Codec CursorShape) (r : Runtime) (hstart : Started E r) (actions : List Action)
    (hcancelled : (final E A P S r actions).cancellation.cancelled = true)
    (hwaits : (final E A P S r actions).phase ∈ [Phase.running, .connecting, .waiting]) :
    let out := ClientRuntime.step E A P S (final E A P S r actions) .notified
    out.2.phase = .idle ∧
      (.ran (.error .shutdown) ∈ out.1 ∨ .reconnected (.error .shutdown) ∈ out.1) := by
  have hheard : Heard (final E A P S r actions) :=
    Mealy.after_always step_heard r actions (heard_idle hstart.fresh.phase)
  generalize final E A P S r actions = r' at hcancelled hwaits hheard
  have hpermit : r'.cancellation.permit = true := by
    apply hheard.pending hcancelled
    · rintro hphase
      simp [hphase] at hwaits
    · rintro hphase
      simp [hphase] at hwaits
  simp only [ClientRuntime.step, Action.enabled, hpermit, if_true, perform, Runtime.onNotified]
  simp only [List.mem_cons, List.not_mem_nil, or_false] at hwaits
  rcases hwaits with hphase | hphase | hphase
  · simp only [hphase]
    exact ⟨rfl, .inl (by simp [Runtime.fail])⟩
  · -- The session was about to connect, so the attempt is not repeated.
    have hstate : r'.session.state ≠ .reconnecting := by
      rw [hheard.connecting hphase]
      decide
    simp only [hphase, Runtime.retry, ne_eq, hstate, not_false_eq_true, if_true]
    exact ⟨trivial, .inr (by simp)⟩
  · simp only [hphase]
    exact ⟨trivial, .inr (by simp)⟩

/-- A client that is cancelled while it runs. -/
theorem cancellation_never_missed_running :
    let cancelled := final encoder cipher positionCodec shapeCodec desk [.run, .cancel]
    cancelled.phase = .running ∧
      (ClientRuntime.step encoder cipher positionCodec shapeCodec cancelled .notified).2.phase =
        .idle := by
  intro cancelled
  have h := cancellation_never_missed _ cipher positionCodec shapeCodec desk desk_started
    [.run, .cancel] rfl (.head _)
  exact ⟨rfl, h.1⟩

/-! ## The loop of the configured client -/

/-- Where `run_configured_with_cancellation` is, once it is connected. -/
inductive Stage where
  /-- Within `run` or `reconnect_with_retry`. -/
  | awaiting
  | callRun
  | callReconnect
  /-- The loop has been left with what `run` returned. -/
  | stopping (summary : Except ClientRuntimeError RuntimeSummary)
  /-- `reconnect_with_retry` has failed; the runtime is dropped on the way out. -/
  | dropping (error : ClientRuntimeError)
  | finished (result : Except ClientRuntimeError RuntimeSummary)

structure Configured where
  runtime : Runtime
  stage : Stage

/-- What the loop does with what a call has returned. -/
def resume (r : Runtime) : Event → Stage
  | .ran summary =>
    if r.cancellation.cancelled ∧ summary = .error .shutdown then .stopping summary
    else if r.session.state ≠ .reconnecting then .stopping summary
    else .callReconnect
  | .reconnected (.ok ()) => .callRun
  | .reconnected (.error e) => .dropping e
  | _ => .awaiting

/-- The loop goes on with the last event, which is the return of the call if it has returned. -/
def settle (out : List Event × Runtime) : Configured :=
  ⟨out.2, (out.1.getLast?.map (resume out.2)).getD .awaiting⟩

/-- The result of `run_configured`, given what `shutdown` has returned. -/
def conclude (summary : Except ClientRuntimeError RuntimeSummary)
    (stopped : Option Event) :
    Except ClientRuntimeError RuntimeSummary :=
  match summary, stopped with
  | .error e, _ => .error e
  | .ok _, some (.stopped (.error e)) => .error e
  | .ok summary, _ => .ok summary

inductive Input where
  /-- Another task cancels. -/
  | cancel
  /-- Something happens while a call waits. -/
  | tick (action : Action)
  /-- The loop goes on; the threads stop in time or not, when it comes to that. -/
  | proceed (pipelineStopped windowStopped : Bool)

def step (E : Encoder) (A : Aead) (P : Codec CursorPosition) (S : Codec CursorShape)
    (c : Configured) : Input → List Event × Configured
  | .cancel => ([], { c with runtime := c.runtime.cancel })
  | .tick action =>
    match c.stage with
    | .awaiting =>
      if internal action then
        let out := ClientRuntime.step E A P S c.runtime action
        (out.1, settle out)
      else ([], c)
    | _ => ([], c)
  | .proceed pipelineStopped windowStopped =>
    let stop := c.runtime.shutDown pipelineStopped windowStopped
    match c.stage with
    | .callRun => (c.runtime.run.1, settle c.runtime.run)
    | .callReconnect => (c.runtime.reconnectWithRetry.1, settle c.runtime.reconnectWithRetry)
    | .stopping summary => (stop.1, ⟨stop.2, .finished (conclude summary stop.1.getLast?)⟩)
    | .dropping error => (stop.1, ⟨stop.2, .finished (.error error)⟩)
    | .awaiting | .finished _ => ([], c)

/-! ### How it ends -/

/-- What the runtime is like at a stage of the loop. -/
def Fits (r : Runtime) : Stage → Prop
  | .awaiting => r.phase ≠ .idle
  | .callRun | .callReconnect | .dropping _ => r.phase = .idle
  | .stopping summary => r.phase = .idle ∧ ∃ e, summary = .error e
  | .finished result => Closed r ∧ ∃ e, result = .error e

structure Sound (c : Configured) : Prop where
  closed : c.runtime.shutdown = true → Closed c.runtime
  heard : Heard c.runtime
  fits : Fits c.runtime c.stage

theorem step_closed (r : Runtime) (action : Action) (h : r.shutdown = true → Closed r)
    (hshut : (ClientRuntime.step E A P S r action).2.shutdown = true) :
    Closed (ClientRuntime.step E A P S r action).2 := by
  have hmove (r : Runtime) (events : List Event) (r' : Runtime)
      (move : Move E A P S r events r') (h : r.shutdown = true → Closed r) :
      (r'.shutdown = true → Closed r') ∧ ∀ e ∈ events, True :=
    ⟨move_keeps_closed move h, by simp⟩
  exact ((step_goes r action).safe hmove h).1 hshut

theorem resume_quiet (r : Runtime) (e : Event) (h : isReturn e = false) :
    resume r e = .awaiting := by
  cases e with
  | ran | reconnected => cases h
  | _ => rfl

theorem resume_returned (r : Runtime) (e : Event) (he : isReturn e = true)
    (hphase : r.phase = .idle) (h : Returns r e) : Fits r (resume r e) := by
  cases e with
  | ran summary =>
    cases summary with
    | ok summary =>
      -- `run` succeeds only when the transport is lost and the session waits for another.
      simpa [resume, h.2, Fits] using hphase
    | error e =>
      simp only [resume]
      split
      · exact ⟨hphase, e, rfl⟩
      · split
        · exact ⟨hphase, e, rfl⟩
        · exact hphase
  | reconnected result => cases result <;> exact hphase
  | _ => cases he

theorem settle_quiet (events : List Event) (r : Runtime)
    (h : ∀ e ∈ events, isReturn e = false) : settle (events, r) = ⟨r, .awaiting⟩ := by
  unfold settle
  cases hlast : events.getLast? with
  | none => rfl
  | some e =>
    have hmem := List.mem_of_getLast? hlast
    simp [resume_quiet r e (h e hmem)]

theorem settle_returned (events : List Event) (e : Event)
    (r : Runtime) :
    settle (events ++ [e], r) = ⟨r, resume r e⟩ := by
  simp [settle]

theorem settle_fits {r : Runtime} {out : List Event × Runtime} (h : Turns r out) :
    Fits out.2 (settle out).stage := by
  cases h with
  | serves events r' quiet before phase =>
    rw [settle_quiet events r' quiet]
    simp [Fits, phase]
  | begins r' phase | connects r' phase | waits r' before phase | repeats r' phase =>
    rw [settle_quiet [] r' (by simp)]
    simp [Fits, phase]
  | returns events e r' quiet isReturn phase h =>
    rw [settle_returned]
    exact resume_returned r' e isReturn phase h

theorem run_fits (r : Runtime) (hphase : r.phase = .idle) : Fits r.run.2 (settle r.run).stage := by
  unfold Runtime.run
  split
  · rename_i hrefused
    exact resume_returned r (.ran (.error .shutdown)) rfl hphase (refused_returns r hrefused)
  · rw [settle_quiet [] _ (by simp)]
    simp [Fits]

theorem reconnectWithRetry_fits (r : Runtime) (hphase : r.phase = .idle) :
    Fits r.reconnectWithRetry.2 (settle r.reconnectWithRetry).stage := by
  unfold Runtime.reconnectWithRetry
  split
  · rename_i hshut
    exact resume_returned r (.reconnected (.error .shutdown)) rfl hphase (.inl hshut)
  · rw [settle_quiet [] _ (by simp)]
    simp [Fits]

theorem shutDown_closed (r : Runtime) (pipelineStopped windowStopped : Bool)
    (h : r.shutdown = true → Closed r) : Closed (r.shutDown pipelineStopped windowStopped).2 := by
  unfold Runtime.shutDown
  split
  · rename_i hshut
    exact h hshut
  · split <;> exact failClosed_closed r

/-- One step of the loop, whatever happens. -/
theorem step_sound (c : Configured) (input : Input) (h : Sound c) :
    Sound (step E A P S c input).2 := by
  obtain ⟨r, stage⟩ := c
  obtain ⟨hclosed, hheard, hfits⟩ := h
  have hstays : Sound ⟨r, stage⟩ := ⟨hclosed, hheard, hfits⟩
  cases input with
  | cancel =>
    have hmove := Move.flags (E := E) (A := A) (P := P) (S := S) r r.cancellation.cancel false
      r.phase fun _ => rfl
    refine ⟨move_keeps_closed hmove hclosed, ⟨hheard.connecting, fun _ _ _ => rfl⟩, ?_⟩
    cases stage with
    | finished result => exact ⟨(move_closed hmove hfits.1).1, hfits.2⟩
    | _ => exact hfits
  | tick action =>
    cases stage with
    | awaiting =>
      simp only [step]
      split
      · rename_i hinternal
        rcases step_turns (E := E) (A := A) (P := P) (S := S) r action hheard.connecting
          hinternal with hturns | hsame
        · exact ⟨step_closed r action hclosed, step_heard r action hheard, settle_fits hturns⟩
        · rw [hsame]
          exact hstays
      · exact hstays
    | _ => exact hstays
  | proceed pipelineStopped windowStopped =>
    have hstop := shutDown_closed r pipelineStopped windowStopped hclosed
    have hstopped (hphase : r.phase = .idle) :
        Heard (r.shutDown pipelineStopped windowStopped).2 :=
      heard_idle ((shutDown_phase r pipelineStopped windowStopped).trans hphase)
    cases stage with
    | callRun =>
      have hphase : r.phase = .idle := hfits
      have hcall : ClientRuntime.step E A P S r .run = r.run := if_pos (decide_eq_true hphase)
      have hafter := step_closed (E := E) (A := A) (P := P) (S := S) r .run hclosed
      rw [hcall] at hafter
      exact ⟨hafter, run_heard r hfits, run_fits r hfits⟩
    | callReconnect =>
      have hphase : r.phase = .idle := hfits
      have hcall : ClientRuntime.step E A P S r .reconnectWithRetry = r.reconnectWithRetry :=
        if_pos (decide_eq_true hphase)
      have hafter := step_closed (E := E) (A := A) (P := P) (S := S) r .reconnectWithRetry hclosed
      rw [hcall] at hafter
      exact ⟨hafter, reconnectWithRetry_heard r hfits, reconnectWithRetry_fits r hfits⟩
    | stopping summary =>
      obtain ⟨hphase, e, rfl⟩ := hfits
      exact ⟨fun _ => hstop, hstopped hphase, hstop, e, rfl⟩
    | dropping error => exact ⟨fun _ => hstop, hstopped hfits, hstop, error, rfl⟩
    | awaiting | finished => exact hstays

/-- However the client is driven, and whatever the network and the platform answer: while it has
not finished, a call is under way or about to be made; and when it has, the runtime is closed and
the result is an error, so `run_configured` never returns a summary. -/
theorem configured_client_ends_closed (E : Encoder) (A : Aead) (P : Codec CursorPosition)
    (S : Codec CursorShape) (r : Runtime) (hstart : Started E r) (inputs : List Input) :
    let c := Mealy.after (step E A P S) ⟨r, .callRun⟩ inputs
    (c.stage = .awaiting → c.runtime.phase ≠ .idle) ∧
      ∀ result, c.stage = .finished result → Closed c.runtime ∧ ∃ e, result = .error e := by
  intro c
  have hfresh := hstart.fresh
  have hinitial : Sound ⟨r, .callRun⟩ :=
    ⟨by simp [hfresh.shutdown], heard_idle hfresh.phase, hfresh.phase⟩
  have hsound : Sound c := Mealy.after_always step_sound _ inputs hinitial
  refine ⟨fun hstage => ?_, fun result hstage => ?_⟩
  · have hfits := hsound.fits
    rw [hstage] at hfits
    exact hfits
  · have hfits := hsound.fits
    rw [hstage] at hfits
    exact hfits

/-- A client that is cancelled while it runs, up to its end. -/
theorem configured_client_ends_closed_cancelled :
    let c := Mealy.after (step encoder cipher positionCodec shapeCodec) ⟨desk, .callRun⟩
      [.proceed true true, .cancel, .tick .notified, .proceed true true]
    c.stage = .finished (.error .shutdown) ∧ Closed c.runtime := by
  intro c
  have hfinished : c.stage = .finished (.error .shutdown) := rfl
  exact ⟨hfinished, ((configured_client_ends_closed _ cipher positionCodec shapeCodec _ desk_started
    _).2 _ hfinished).1⟩

end ConfiguredClient
