import NexusRemote.ControlQueue
import NexusRemote.UnixTime

/-!
# From the window to the control stream

The window thread (`apps/nexus-client/src/window.rs`) hands its events to the
runtime over two queues: a small one for focus and lifecycle, which the runtime
looks at first, and a bounded channel for the rest. `InputController`
(`apps/nexus-client/src/input.rs`) turns what it is given into control messages
and refuses input it does not like, and `pump_window_events`
(`apps/nexus-client/src/runtime.rs`) passes a refusal on as the end of the
session. The two threads run side by side, so the runtime may learn of a change
of focus before it sees the input that was typed ahead of it.
-/

namespace WindowInput

open BigEndian InputEvents UnixTime

/-! ## The window -/

/-- The two queues between the window thread and the runtime. `hasFocus` is the window's own: what
it said last. -/
structure Window where
  control : List WindowEvent
  normal : List WindowEvent
  channelCapacity : Nat
  hasFocus : Bool

/-- The window thread lets go of an event. A full channel drops it. -/
def Window.emit (w : Window) (event : WindowEvent) : Window :=
  let w := { w with hasFocus := event.notice.getD w.hasFocus }
  if event.isControl then { w with control := push w.control event }
  else if w.normal.length < w.channelCapacity then { w with normal := w.normal ++ [event] }
  else w

/-! ## The input controller -/

/-- The part of a `MonitorInfo` that bounds the pointer; `validate` refuses an empty one. -/
structure Monitor where
  originX : Int32
  originY : Int32
  width : UInt32
  height : UInt32
  width_pos : 0 < width
  height_pos : 0 < height

inductive InputControllerError where
  | notFocused
  | shutdown
  | rateLimited
  | queueFull
  | invalidQueueCapacity
  | invalidRateLimit
  | payloadTooLarge
  | encode (error : ClientInputError)
  deriving DecidableEq

structure InputController where
  monitor : Monitor
  focused : Bool
  shutdown : Bool
  queue : List Bytes
  queueCapacity : Nat
  maxEventsPerSecond : Nat
  recentEvents : List Nat

def defaultInputQueueCapacity : Nat := 64
def defaultInputRatePerSecond : Nat := 240
def maxInputRatePerSecond : Nat := 4096
def maxInputQueueCapacity : Nat := 1024
def maxInputControlBytes : Nat := 64 * 1024

/-- `i64::clamp` on one axis of the monitor, and `as i32`. -/
def clampAxis (value origin : Int32) (size : UInt32) : Int32 :=
  Int32.ofInt (max origin.toInt (min value.toInt (origin.toInt + size.toNat - 1)))

def clampToMonitor (input : InputEvent) (monitor : Monitor) : InputEvent :=
  match input with
  | .mouseMove x y =>
    .mouseMove (clampAxis x monitor.originX monitor.width) (clampAxis y monitor.originY monitor.height)
  | other => other

namespace InputController

def withLimits (monitor : Monitor) (maxEventsPerSecond queueCapacity : Nat) :
    Except InputControllerError InputController :=
  if queueCapacity = 0 ∨ queueCapacity > maxInputQueueCapacity then .error .invalidQueueCapacity
  else if maxEventsPerSecond = 0 ∨ maxEventsPerSecond > maxInputRatePerSecond then
    .error .invalidRateLimit
  else
    .ok { monitor, focused := false, shutdown := false, queue := [], queueCapacity,
          maxEventsPerSecond, recentEvents := [] }

def new (monitor : Monitor) : Except InputControllerError InputController :=
  withLimits monitor defaultInputRatePerSecond defaultInputQueueCapacity

def setFocused (c : InputController) (focused : Bool) : InputController :=
  if c.shutdown then c else { c with focused }

def expire (c : InputController) : InputController :=
  { c with shutdown := true, focused := false, queue := [] }

def clearPending (c : InputController) : InputController :=
  { c with queue := [], recentEvents := [] }

/-- The inputs accepted less than a second ago. -/
def recent (c : InputController) (now : Nat) : List Nat :=
  c.recentEvents.dropWhile (fun timestamp => now - timestamp ≥ fromSecs 1)

def enqueueInput (c : InputController) (input : InputEvent) (now : Nat) :
    Except InputControllerError Unit × InputController :=
  if !c.focused then (.error .notFocused, c)
  else if c.queue.length ≥ c.queueCapacity then (.error .queueFull, c)
  else
    let c := { c with recentEvents := c.recent now }
    if c.recentEvents.length ≥ c.maxEventsPerSecond then (.error .rateLimited, c)
    else
      match ClientInputSender.encode (clampToMonitor input c.monitor) with
      | .error e => (.error (.encode e), c)
      | .ok encoded =>
        if encoded.length > maxInputControlBytes then (.error .payloadTooLarge, c)
        else
          (.ok (), { c with recentEvents := c.recentEvents ++ [now], queue := c.queue ++ [encoded] })

def handleWindowEvent (c : InputController) (event : WindowEvent) (now : Nat) :
    Except InputControllerError Unit × InputController :=
  if c.shutdown then (.error .shutdown, c)
  else
    match event with
    | .focusChanged focused | .focused focused => (.ok (), c.setFocused focused)
    | .closed => (.ok (), c.expire)
    | .input input => c.enqueueInput input now
    | .resized .. | .renderRequested | .renderRejected => (.ok (), c)

end InputController

/-! ## The runtime -/

inductive ClientRuntimeError where
  | input (error : InputControllerError)
  | shutdown
  deriving DecidableEq

/-- Which queue `try_next_event` looks at next. It does not hold both, so the window thread may run
between the two looks. -/
inductive Phase where
  | control
  | normal
  deriving DecidableEq

/-- The runtime and the window it listens to. `canControl` is what the session says, and `shutdown`
is set once `run` has failed closed. -/
structure Runtime where
  window : Window
  input : InputController
  canControl : Bool
  phase : Phase
  sent : List Bytes
  shutdown : Bool

namespace Runtime

def start (input : InputController) (channelCapacity : Nat) (canControl : Bool) : Runtime where
  window := { control := [], normal := [], channelCapacity, hasFocus := false }
  input
  canControl
  phase := .control
  sent := []
  shutdown := false

def failClosed (r : Runtime) : Runtime := { r with input := r.input.expire, shutdown := true }

/-- The body of the loop of `pump_window_events`; `none` is the next turn of the loop. -/
def handle (r : Runtime) (event : WindowEvent) (now : Nat) :
    Option (Except ClientRuntimeError Unit) × Runtime :=
  if event.isInput && !r.canControl then (none, { r with phase := .control })
  else
    match r.input.handleWindowEvent event now with
    | (.error e, input) =>
      (some (.error (.input e)), { r with input, phase := .control }.failClosed)
    | (.ok (), input) =>
      if event = .closed then
        (some (.error .shutdown), { r with input, phase := .control }.failClosed)
      else (none, { r with input, phase := .control })

def pumpInput (r : Runtime) : Runtime :=
  if !r.canControl then { r with input := r.input.clearPending }
  else
    match r.input.queue with
    | [] => r
    | control :: queue => { r with input := { r.input with queue }, sent := r.sent ++ [control] }

/-- One look at a queue. When both are empty `pump_window_events` returns and `run` sends one
message. -/
def poll (r : Runtime) (now : Nat) : Option (Except ClientRuntimeError Unit) × Runtime :=
  if r.shutdown then (none, r)
  else
    match r.phase with
    | .control =>
      match r.window.control with
      | event :: control => { r with window := { r.window with control } }.handle event now
      | [] => (none, { r with phase := .normal })
    | .normal =>
      match r.window.normal with
      | event :: normal => { r with window := { r.window with normal } }.handle event now
      | [] => (some (.ok ()), { r with phase := .control }.pumpInput)

end Runtime

inductive Step where
  | emit (event : WindowEvent)
  | poll (now : Nat)

/-- One step of either thread. The first part is what `pump_window_events` returned, if it did. -/
def step (r : Runtime) : Step → Option (Except ClientRuntimeError Unit) × Runtime
  | .emit event => (none, { r with window := r.window.emit event })
  | .poll now => r.poll now

/-! ## The control queue keeps the last notice -/

/-- The focus notice that the runtime will see last. -/
def lastNotice (events : List WindowEvent) : Option Bool :=
  (events.filterMap WindowEvent.notice).getLast?

theorem lastNotice_concat (events : List WindowEvent) (event : WindowEvent) :
    lastNotice (events ++ [event]) = event.notice.or (lastNotice events) := by
  unfold lastNotice
  rw [List.filterMap_append, List.getLast?_append]
  cases h : event.notice <;> simp [h]

theorem lastNotice_cons (event : WindowEvent) (events : List WindowEvent) :
    lastNotice (event :: events) = (lastNotice events).or event.notice := by
  unfold lastNotice
  cases h : event.notice with
  | none => simp [List.filterMap_cons_none h]
  | some hasFocus =>
    rw [List.filterMap_cons_some h, List.getLast?_cons]
    cases (events.filterMap WindowEvent.notice).getLast? <;> rfl

/-- Nothing is in the queue but what was there and what was pushed. -/
theorem mem_push (events : List WindowEvent) (event e : WindowEvent) (h : e ∈ push events event) :
    e ∈ events ∨ e = event := by
  have hkept := (retained_sublist events event).subset
  have hdoes := ControlQueue.push_does events event
  generalize push events event = pushed at h hdoes
  cases hdoes with
  | room =>
    rw [List.mem_append, List.mem_singleton] at h
    exact h.imp_left fun hmem => hkept hmem
  | overFocus front back victim full found | overOther front back victim found =>
    rw [found] at hkept
    rw [List.mem_append, List.mem_singleton] at h
    have hcut := (List.sublist_cons_self victim back).append_left front
    exact h.imp_left fun hmem => hkept (hcut.subset hmem)
  | dropped => exact .inl (hkept h)

/-- A pushed notice is the last one. -/
theorem lastNotice_push_notice (events : List WindowEvent) (event : WindowEvent) (hasFocus : Bool)
    (h : event.notice = some hasFocus) (hopen : .closed ∉ events) :
    lastNotice (push events event) = some hasFocus := by
  have hdoes := ControlQueue.push_does events event
  generalize push events event = pushed at hdoes ⊢
  cases hdoes with
  | room | overFocus | overOther => rw [lastNotice_concat, h, Option.some_or]
  | dropped full unfocused reason =>
    rcases reason with hdiagnostic | hpending
    · exact absurd (by rw [ControlQueue.isFocus, h]; rfl) hdiagnostic.1
    · exact absurd ((retained_sublist events event).subset hpending) hopen

theorem lastNotice_isSome (events : List WindowEvent) :
    (lastNotice events).isSome ↔ ∃ e ∈ events, e.notice.isSome := by
  unfold lastNotice
  rw [List.getLast?_isSome, ne_eq, List.filterMap_eq_nil_iff]
  simp [Option.isSome_iff_ne_none]

/-- Anything else leaves the last notice alone, unless it takes its place in a full queue. -/
theorem lastNotice_push_other (events : List WindowEvent) (event : WindowEvent)
    (h : event.notice = none) (hclosed : event ≠ .closed)
    (hroom : ¬(controlEventCapacity ≤ events.length ∧ (lastNotice events).isSome)) :
    lastNotice (push events event) = lastNotice events := by
  have hother : ¬ControlQueue.isFocus event := by simp [ControlQueue.isFocus, h]
  have hkept := ControlQueue.retained_other events event hother
  have hdoes := ControlQueue.push_does events event
  generalize push events event = pushed at hdoes ⊢
  cases hdoes with
  | room => rw [lastNotice_concat, h, Option.none_or, hkept]
  | overFocus front back victim full found focus =>
    rw [hkept] at full found
    exact absurd ⟨full, (lastNotice_isSome events).mpr ⟨victim, by simp [found], focus⟩⟩ hroom
  | overOther front back victim found spared unfocused lifecycle =>
    exact absurd ⟨hother, hclosed⟩ lifecycle
  | dropped => rw [hkept]

/-! ## What the controller takes -/

namespace InputController

/-- Clamping moves the pointer and touches nothing that is checked. -/
theorem validate_clampToMonitor (input : InputEvent) (monitor : Monitor) :
    (clampToMonitor input monitor).validate = input.validate := by
  cases input <;> rfl

/-- What can be encoded fits a control message. -/
theorem length_encoded (event : InputEvent) (encoded : Bytes)
    (h : ClientInputSender.encode event = .ok encoded) : encoded.length ≤ maxInputControlBytes := by
  obtain ⟨hvalid, rfl⟩ := (encode_ok_iff event encoded).mp h
  have hlen := length_message event hvalid
  rw [length_counted]
  simp only [maxTextBytes, maxInputControlBytes] at *
  omega

/-- An input that the controller takes. -/
structure Accepts (c : InputController) (input : InputEvent) (now : Nat) : Prop where
  room : c.queue.length < c.queueCapacity
  rate : (c.recent now).length < c.maxEventsPerSecond
  valid : input.validate = .ok ()

theorem enqueueInput_ok_iff (c : InputController) (input : InputEvent) (now : Nat) :
    (c.enqueueInput input now).1 = .ok () ↔ c.focused = true ∧ c.Accepts input now := by
  unfold enqueueInput
  constructor
  · intro h
    split at h
    · cases h
    · split at h
      · cases h
      · dsimp only at h
        split at h
        · cases h
        · split at h
          · cases h
          · rename_i hfocused hroom hrate _ encoded hencode
            have hvalid := ((encode_ok_iff _ _).mp hencode).1
            rw [validate_clampToMonitor] at hvalid
            exact ⟨by simpa using hfocused, by omega, by omega, hvalid⟩
  · rintro ⟨hfocused, hroom, hrate, hvalid⟩
    obtain ⟨encoded, hencode⟩ : ∃ encoded,
        ClientInputSender.encode (clampToMonitor input c.monitor) = .ok encoded := by
      refine ⟨_, (encode_ok_iff _ _).mpr ⟨?_, rfl⟩⟩
      rw [validate_clampToMonitor]
      exact hvalid
    have hfits := length_encoded _ _ hencode
    simp [hfocused, Nat.not_le.mpr hroom, Nat.not_le.mpr hrate, hencode, Nat.not_lt.mpr hfits]

/-- Whatever comes of an input, it does not change the focus or the shutdown flag. -/
theorem enqueueInput_frame (c : InputController) (input : InputEvent) (now : Nat) :
    (c.enqueueInput input now).2.focused = c.focused ∧
      (c.enqueueInput input now).2.shutdown = c.shutdown := by
  unfold enqueueInput
  dsimp only
  split
  · exact ⟨rfl, rfl⟩
  · split
    · exact ⟨rfl, rfl⟩
    · split
      · exact ⟨rfl, rfl⟩
      · split
        · exact ⟨rfl, rfl⟩
        · split <;> exact ⟨rfl, rfl⟩

/-- A running controller takes from everything but input and a close the focus it is told. -/
theorem handleWindowEvent_quiet (c : InputController) (event : WindowEvent) (now : Nat)
    (hrunning : c.shutdown = false) (hinput : event.isInput = false) (hclosed : event ≠ .closed) :
    c.handleWindowEvent event now = (.ok (), { c with focused := event.notice.getD c.focused }) := by
  have hup : ¬c.shutdown = true := by simp [hrunning]
  unfold handleWindowEvent
  rw [if_neg hup]
  cases event with
  | input input => cases hinput
  | closed => exact absurd rfl hclosed
  | focusChanged focused | focused focused =>
    simp only [setFocused, if_neg hup]
    rfl
  | resized | renderRequested | renderRejected => rfl

theorem handleWindowEvent_input (c : InputController) (input : InputEvent) (now : Nat)
    (hrunning : c.shutdown = false) :
    c.handleWindowEvent (.input input) now = c.enqueueInput input now := by
  simp [handleWindowEvent, hrunning]

end InputController

/-! ## The runtime knows the focus -/

namespace Runtime

theorem handle_quiet (r : Runtime) (event : WindowEvent) (now : Nat)
    (hrunning : r.input.shutdown = false) (hinput : event.isInput = false)
    (hclosed : event ≠ .closed) :
    r.handle event now =
      (none, { r with input := { r.input with focused := event.notice.getD r.input.focused },
                      phase := .control }) := by
  have hquiet := r.input.handleWindowEvent_quiet event now hrunning hinput hclosed
  simp only [handle, hinput, Bool.false_and, Bool.false_eq_true, if_false, hquiet, if_neg hclosed]

/-- A session that may not control skips input. -/
theorem handle_skipped (r : Runtime) (input : InputEvent) (now : Nat) (hview : r.canControl = false) :
    r.handle (.input input) now = (none, { r with phase := .control }) := by
  simp [handle, hview, WindowEvent.isInput]

/-- An input for a session that may control goes to the controller; one that the controller refuses
is the end of the session. -/
theorem handle_input (r : Runtime) (input : InputEvent) (now : Nat) (hcontrol : r.canControl = true)
    (hrunning : r.input.shutdown = false) :
    r.handle (.input input) now =
      let next := { r with input := (r.input.enqueueInput input now).2, phase := .control }
      match (r.input.enqueueInput input now).1 with
      | .ok () => (none, next)
      | .error e => (some (.error (.input e)), next.failClosed) := by
  have hhandled := r.input.handleWindowEvent_input input now hrunning
  simp only [handle, hcontrol, hhandled, Bool.not_true, Bool.and_false, Bool.false_eq_true,
    if_false, reduceCtorEq]
  rcases r.input.enqueueInput input now with ⟨_ | _, _⟩ <;> rfl

/-- What a running session keeps: the queues hold what belongs in them, and the last notice under
way, or else the controller, has the focus of the window. -/
structure Informed (r : Runtime) : Prop where
  running : r.input.shutdown = false
  control : ∀ event ∈ r.window.control, event.isControl = true ∧ event ≠ .closed
  normal : ∀ event ∈ r.window.normal, event.isControl = false
  focus : (lastNotice r.window.control).getD r.input.focused = r.window.hasFocus

/-- The input that the next look at the queues hands to the controller. -/
def arriving (r : Runtime) : Option InputEvent :=
  match r.shutdown, r.canControl, r.phase, r.window.normal with
  | false, true, .normal, .input input :: _ => some input
  | _, _, _, _ => none

end Runtime

/-- What the window thread may do: it does not close the window, and has input only while the
window has the focus. -/
def Produced (r : Runtime) : Step → Prop
  | .emit (.input _) => r.window.hasFocus = true
  | .emit .closed => False
  | _ => True

/-- No diagnostic takes the place of a pending focus notice, and no notice is still on its way when
an input is handed over. -/
def Undisturbed (r : Runtime) : Step → Prop
  | .emit .renderRejected =>
    ¬(controlEventCapacity ≤ r.window.control.length ∧ (lastNotice r.window.control).isSome)
  | .emit _ => True
  | .poll _ => r.arriving.isSome → lastNotice r.window.control = none

/-- The window still has the focus when an input is handed over, and the controller has room and
rate left for it. -/
def Timely (r : Runtime) : Step → Prop
  | .emit _ => True
  | .poll now =>
    ∀ input, r.arriving = some input → r.window.hasFocus = true ∧ r.input.Accepts input now

instance (r : Runtime) (now : Nat) : Decidable (Undisturbed r (.poll now)) :=
  inferInstanceAs (Decidable (r.arriving.isSome → lastNotice r.window.control = none))

namespace Runtime

theorem emit_normal (w : Window) (event : WindowEvent) (h : event.isControl = false) :
    (w.emit event).control = w.control ∧ (w.emit event).hasFocus = w.hasFocus ∧
      ∀ e ∈ (w.emit event).normal, e ∈ w.normal ∨ e = event := by
  have hnotice : event.notice = none := by cases event <;> first | rfl | cases h
  simp only [Window.emit, h, hnotice, Bool.false_eq_true, if_false]
  split
  · simp
  · exact ⟨rfl, rfl, fun e he => Or.inl he⟩

theorem emit_informed (r : Runtime) (event : WindowEvent) (hr : r.Informed)
    (hproduced : Produced r (.emit event)) (hundisturbed : Undisturbed r (.emit event)) :
    Informed { r with window := r.window.emit event } := by
  have hopen : WindowEvent.closed ∉ r.window.control := by
    intro hmem
    exact (hr.control _ hmem).2 rfl
  have hclosed : event ≠ .closed := by
    rintro rfl
    exact hproduced
  by_cases hcontrol : event.isControl = true
  · refine ⟨hr.running, ?_, ?_, ?_⟩
    · intro e he
      simp only [Window.emit, hcontrol, if_true] at he
      obtain hold | rfl := mem_push _ _ _ he
      · exact hr.control e hold
      · exact ⟨hcontrol, hclosed⟩
    · simp only [Window.emit, hcontrol, if_true]
      exact hr.normal
    · simp only [Window.emit, hcontrol, if_true]
      cases hnotice : event.notice with
      | some hasFocus => rw [lastNotice_push_notice _ _ _ hnotice hopen]; rfl
      | none =>
        rw [lastNotice_push_other _ _ hnotice hclosed ?_]
        · exact hr.focus
        · cases event with
          | renderRejected => exact hundisturbed
          | focusChanged | focused => cases hnotice
          | closed => exact absurd rfl hclosed
          | resized | input | renderRequested => cases hcontrol
  · obtain ⟨hsame, hfocus, hsent⟩ := emit_normal r.window event (by simpa using hcontrol)
    refine ⟨hr.running, ?_, ?_, ?_⟩
    · simp only [hsame]
      exact hr.control
    · intro e he
      obtain hold | rfl := hsent e he
      · exact hr.normal e hold
      · simpa using hcontrol
    · simp only [hsame, hfocus]
      exact hr.focus

/-- What one look at the queues can come to in a running session. -/
inductive Polled (r : Runtime) (now : Nat) : Option (Except ClientRuntimeError Unit) × Runtime → Prop
  | told (event : WindowEvent) (control : List WindowEvent)
      (hcontrol : r.window.control = event :: control) (hnone : r.arriving = none) :
      Polled r now (none, { r with window := { r.window with control }
                                   input := { r.input with
                                     focused := event.notice.getD r.input.focused }
                                   phase := .control })
  | turned (hnone : r.arriving = none) : Polled r now (none, { r with phase := .normal })
  | passed (event : WindowEvent) (normal : List WindowEvent)
      (hnormal : r.window.normal = event :: normal) (hnone : r.arriving = none) :
      Polled r now (none, { r with window := { r.window with normal }, phase := .control })
  | returned (hnone : r.arriving = none) :
      Polled r now (some (.ok ()), { r with phase := .control }.pumpInput)
  | taken (input : InputEvent) (normal : List WindowEvent)
      (hnormal : r.window.normal = .input input :: normal) (hsome : r.arriving = some input)
      (hok : (r.input.enqueueInput input now).1 = .ok ()) :
      Polled r now (none, { r with window := { r.window with normal }
                                   input := (r.input.enqueueInput input now).2
                                   phase := .control })
  | refused (input : InputEvent) (e : InputControllerError) (closed : Runtime)
      (hsome : r.arriving = some input) (herror : (r.input.enqueueInput input now).1 = .error e)
      (hclosed : closed.shutdown = true) : Polled r now (some (.error (.input e)), closed)

/-- What comes of an input at the head of the channel. -/
theorem handed_polled (r : Runtime) (now : Nat) (input : InputEvent) (normal : List WindowEvent)
    (hrunning : r.input.shutdown = false) (hup : r.shutdown = false) (hphase : r.phase = .normal)
    (hnormal : r.window.normal = .input input :: normal) :
    Polled r now
      ({ r with window := { r.window with normal } }.handle (.input input) now) := by
  by_cases hcontrol : r.canControl = true
  · have hsome : r.arriving = some input := by simp [arriving, hup, hcontrol, hphase, hnormal]
    rw [handle_input { r with window := { r.window with normal } } input now hcontrol hrunning]
    cases henqueue : (r.input.enqueueInput input now).1 with
    | ok => exact .taken input normal hnormal hsome henqueue
    | error e => exact .refused input e _ hsome henqueue rfl
  · have hview : r.canControl = false := by simpa using hcontrol
    have hnone : r.arriving = none := by simp [arriving, hview]
    rw [handle_skipped { r with window := { r.window with normal } } input now hview]
    exact .passed _ normal hnormal hnone

theorem poll_polled (r : Runtime) (now : Nat) (hr : r.Informed) (hup : r.shutdown = false) :
    Polled r now (r.poll now) := by
  have hrunning := hr.running
  unfold poll
  rw [if_neg (by simp [hup])]
  split
  case h_1 hphase =>
    have hnone : r.arriving = none := by simp [arriving, hphase]
    split
    case h_1 event control hcontrol =>
      obtain ⟨hisControl, hclosed⟩ := hr.control event (by simp [hcontrol])
      have hinput : event.isInput = false := by cases event <;> first | rfl | cases hisControl
      rw [handle_quiet { r with window := { r.window with control } } event now hrunning hinput hclosed]
      exact .told event control hcontrol hnone
    case h_2 => exact .turned hnone
  case h_2 hphase =>
    split
    case h_2 hnormal =>
      have hnone : r.arriving = none := by simp [arriving, hnormal]
      exact .returned hnone
    case h_1 event normal hnormal =>
      have hisNormal := hr.normal event (by simp [hnormal])
      cases hinput : event.isInput with
      | false =>
        have hclosed : event ≠ .closed := by
          rintro rfl
          cases hisNormal
        have hnotice : event.notice = none := by cases event <;> first | rfl | cases hisNormal
        have hnone : r.arriving = none := by cases event <;> simp_all [arriving, WindowEvent.isInput]
        rw [handle_quiet { r with window := { r.window with normal } } event now hrunning hinput hclosed,
          hnotice]
        exact .passed event normal hnormal hnone
      | true =>
        obtain ⟨input, rfl⟩ : ∃ input, event = .input input := by
          cases event <;> first | exact ⟨_, rfl⟩ | cases hinput
        exact handed_polled r now input normal hrunning hup hphase hnormal

theorem pumpInput_frame (r : Runtime) :
    r.pumpInput.window = r.window ∧ r.pumpInput.input.focused = r.input.focused ∧
      r.pumpInput.input.shutdown = r.input.shutdown := by
  unfold pumpInput
  split
  · exact ⟨rfl, rfl, rfl⟩
  · split <;> exact ⟨rfl, rfl, rfl⟩

/-- A look at the queues keeps the session informed, or ends it. -/
theorem Polled.informed {r : Runtime} {now : Nat}
    {outcome : Option (Except ClientRuntimeError Unit) × Runtime} (h : Polled r now outcome)
    (hr : r.Informed) (hup : outcome.2.shutdown = false) : outcome.2.Informed := by
  cases h with
  | told event control hcontrol hnone =>
    refine ⟨hr.running, ?_, hr.normal, ?_⟩
    · intro e he
      exact hr.control e (by rw [hcontrol]; exact List.mem_cons_of_mem _ he)
    · -- the notice that was taken is the last one if no other is behind it
      have hfocus := hr.focus
      rw [hcontrol, lastNotice_cons] at hfocus
      cases hlast : lastNotice control <;> simpa [hlast] using hfocus
  | turned => exact ⟨hr.running, hr.control, hr.normal, hr.focus⟩
  | passed event normal hnormal =>
    refine ⟨hr.running, hr.control, ?_, hr.focus⟩
    intro e he
    exact hr.normal e (by rw [hnormal]; exact List.mem_cons_of_mem _ he)
  | returned =>
    obtain ⟨hwindow, hfocused, hshutdown⟩ := pumpInput_frame { r with phase := .control }
    refine ⟨?_, ?_, ?_, ?_⟩
    · rw [hshutdown]
      exact hr.running
    · rw [hwindow]
      exact hr.control
    · rw [hwindow]
      exact hr.normal
    · rw [hwindow, hfocused]
      exact hr.focus
  | taken input normal hnormal =>
    obtain ⟨hfocused, hshutdown⟩ := r.input.enqueueInput_frame input now
    refine ⟨?_, hr.control, ?_, ?_⟩
    · exact hshutdown.trans hr.running
    · intro e he
      exact hr.normal e (by rw [hnormal]; exact List.mem_cons_of_mem _ he)
    · rw [← hr.focus, ← hfocused]
  | refused input e closed hsome herror hclosed =>
    rw [hclosed] at hup
    cases hup

/-- A look at the queues fails exactly when it hands over an input that comes too late, or that the
controller does not take. -/
theorem Polled.ok_iff {r : Runtime} {now : Nat}
    {outcome : Option (Except ClientRuntimeError Unit) × Runtime} (h : Polled r now outcome)
    (hr : r.Informed) (hundisturbed : Undisturbed r (.poll now)) :
    (∀ e, outcome.1 ≠ some (.error e)) ↔ Timely r (.poll now) := by
  have hquiet : r.arriving = none → Timely r (.poll now) := by
    intro hnone input hsome
    rw [hnone] at hsome
    cases hsome
  -- no notice is under way, so the controller has the focus of the window
  have hfocus : ∀ input, r.arriving = some input → r.input.focused = r.window.hasFocus := by
    intro input hsome
    rw [← hr.focus, hundisturbed (by rw [hsome]; rfl)]
    rfl
  have htimely : ∀ input, r.arriving = some input →
      (Timely r (.poll now) ↔ (r.input.enqueueInput input now).1 = .ok ()) := by
    intro input hsome
    rw [InputController.enqueueInput_ok_iff, hfocus input hsome]
    constructor
    · intro ht
      exact ht input hsome
    · intro haccepts input' hsome'
      obtain rfl := Option.some.inj (hsome.symm.trans hsome')
      exact haccepts
  cases h with
  | told _ _ _ hnone | turned hnone | passed _ _ _ hnone | returned hnone =>
    exact ⟨fun _ => hquiet hnone, fun _ e => nofun⟩
  | taken input _ _ hsome hok => exact ⟨fun _ => (htimely input hsome).mpr hok, fun _ e => nofun⟩
  | refused input e closed hsome herror =>
    constructor
    · intro hno
      exact absurd rfl (hno (.input e))
    · intro ht
      rw [(htimely input hsome).mp ht] at herror
      cases herror

end Runtime

/-! ## Whole runs -/

/-- While the session runs, it is informed. -/
def Consistent (r : Runtime) : Prop := r.shutdown = false → r.Informed

theorem step_consistent (r : Runtime) (x : Step) (hr : Consistent r)
    (h : Produced r x ∧ Undisturbed r x) : Consistent (step r x).2 := by
  cases x with
  | emit event => exact fun hup => r.emit_informed event (hr hup) h.1 h.2
  | poll now =>
    intro hup
    cases hdown : r.shutdown with
    | true =>
      simp [step, Runtime.poll, hdown] at hup
    | false => exact (r.poll_polled now (hr hdown) hdown).informed (hr hdown) hup

theorem step_ok_iff (r : Runtime) (x : Step) (hr : Consistent r)
    (h : Produced r x ∧ Undisturbed r x) :
    (∀ e, (step r x).1 ≠ some (.error e)) ↔ Timely r x := by
  cases x with
  | emit event => exact ⟨fun _ => trivial, fun _ e => nofun⟩
  | poll now =>
    cases hdown : r.shutdown with
    | true =>
      have hnone : r.arriving = none := by simp [Runtime.arriving, hdown]
      simp [step, Runtime.poll, hdown, Timely, hnone]
    | false => exact (r.poll_polled now (hr hdown) hdown).ok_iff (hr hdown) h.2

theorem start_consistent (monitor : Monitor) (rate queueCapacity channelCapacity : Nat)
    (canControl : Bool) (input : InputController)
    (h : InputController.withLimits monitor rate queueCapacity = .ok input) :
    Consistent (.start input channelCapacity canControl) := by
  obtain ⟨hfocused, hshutdown⟩ : input.focused = false ∧ input.shutdown = false := by
    unfold InputController.withLimits at h
    split at h
    · cases h
    · split at h
      · cases h
      · cases h
        exact ⟨rfl, rfl⟩
  intro _
  exact ⟨hshutdown, by simp [Runtime.start], by simp [Runtime.start], hfocused⟩

/-- Take any interleaving of the window thread with the looks of the runtime, in which no focus
notice is lost or still under way when an input is handed over. No pump fails exactly if the window
still has the focus whenever an input is handed over, with room in the queue and the rate, and a
valid input. -/
theorem window_activity_harmless_iff (monitor : Monitor) (rate queueCapacity channelCapacity : Nat)
    (canControl : Bool) (input : InputController) (steps : List Step)
    (hinput : InputController.withLimits monitor rate queueCapacity = .ok input)
    (hproduced : ∀ done next, done ++ [next] <+: steps →
      Produced (Mealy.after step (.start input channelCapacity canControl) done) next)
    (hundisturbed : ∀ done next, done ++ [next] <+: steps →
      Undisturbed (Mealy.after step (.start input channelCapacity canControl) done) next) :
    (∀ report ∈ Mealy.trace step (.start input channelCapacity canControl) steps,
        ∀ e, report ≠ some (.error e)) ↔
      ∀ done next, done ++ [next] <+: steps →
        Timely (Mealy.after step (.start input channelCapacity canControl) done) next := by
  have hstart := start_consistent monitor rate queueCapacity channelCapacity canControl input hinput
  refine Mealy.trace_iff_of step_consistent step_ok_iff _ steps hstart ?_
  intro done next hdone
  exact ⟨hproduced done next hdone, hundisturbed done next hdone⟩

def desktop : Monitor := ⟨0, 0, 1280, 720, by decide, by decide⟩

/-- The window gets the focus, the runtime learns of it, and an input is taken in time. -/
theorem window_activity_harmless_one :
    ∃ input, InputController.new desktop = .ok input ∧
      let steps : List Step := [.emit (.focusChanged true), .poll 0, .emit (.input (.mouseMove 1 1)),
        .poll 0, .poll 0, .poll 0, .poll 0]
      Mealy.trace step (.start input 16 true) steps =
          [none, none, none, none, none, none, some (.ok ())] ∧
        ∀ done next, done ++ [next] <+: steps →
          Timely (Mealy.after step (.start input 16 true) done) next := by
  refine ⟨_, rfl, ?_⟩
  intro steps
  refine (and_iff_left_of_imp ?_).mpr (by decide +kernel)
  intro htrace
  refine (window_activity_harmless_iff desktop defaultInputRatePerSecond
    defaultInputQueueCapacity 16 true _ steps rfl ?_ ?_).mp ?_
  · simp only [steps, Mealy.along_cons]
    exact ⟨trivial, trivial, rfl, trivial, trivial, trivial, trivial, by simp⟩
  · simp only [steps, Mealy.along_cons]
    refine ⟨trivial, ?_, trivial, ?_, ?_, ?_, ?_, by simp⟩ <;> decide +kernel
  · rw [htrace]
    simp

/-- The focus is lost behind an input, and the notice of it overtakes the input. -/
theorem overtaken_input_ends_session :
    ∃ input, InputController.new desktop = .ok input ∧
      let steps : List Step := [.emit (.focusChanged true), .poll 0, .poll 0, .poll 0,
        .emit (.input (.mouseMove 1 1)), .emit (.focusChanged false), .poll 1, .poll 1, .poll 1]
      (∀ done next, done ++ [next] <+: steps →
        Produced (Mealy.after step (.start input 16 true) done) next) ∧
      Mealy.trace step (.start input 16 true) steps =
        [none, none, none, some (.ok ()), none, none, none, none,
          some (.error (.input .notFocused))] := by
  refine ⟨_, rfl, ?_⟩
  intro steps
  constructor
  · simp only [steps, Mealy.along_cons]
    exact ⟨trivial, trivial, trivial, trivial, rfl, trivial, trivial, trivial, trivial, by simp⟩
  · decide +kernel

end WindowInput
