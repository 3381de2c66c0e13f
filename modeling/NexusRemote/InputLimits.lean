import NexusRemote.CursorControl
import NexusRemote.SlidingWindow
import NexusRemote.WindowInput

/-!
# The limits of the input controller (`apps/nexus-client/src/input.rs`)

The pointer is held on the monitor. What is typed and moved goes into a queue of
bounded length at a bounded rate, and comes out of it in order, until the window
is closed or the session ends.
-/

namespace InputLimits

open BigEndian InputEvents UnixTime WindowInput CursorControl
open Mealy (after trace trace_concat)
open SlidingWindow (Keeps count)

/-! ## The pointer -/

theorem validate_dimensions (m : MonitorInfo) (h : m.validate = .ok ()) :
    0 < m.width ∧ 0 < m.height := by
  unfold MonitorInfo.validate at h
  split at h
  · cases h
  · rename_i hdimensions
    obtain ⟨hwidth, hheight⟩ := not_or.mp hdimensions
    exact ⟨UInt32.pos_iff_ne_zero.mpr hwidth, UInt32.pos_iff_ne_zero.mpr hheight⟩

/-- The bounds of a monitor that has been checked. -/
def bounds (m : MonitorInfo) (h : m.validate = .ok ()) : Monitor where
  originX := m.originX
  originY := m.originY
  width := m.width
  height := m.height
  width_pos := (validate_dimensions m h).1
  height_pos := (validate_dimensions m h).2

/-- `as i32`, if it loses nothing. -/
def asI32 (x : Int) : Option Int32 :=
  if -2 ^ 31 ≤ x ∧ x < 2 ^ 31 then some (Int32.ofInt x) else none

/-- `value.clamp(min, max)`, which panics when the bounds are the wrong way round. -/
def clamp (value min max : Int) : Option Int :=
  if min > max then none
  else if value < min then some min
  else if value > max then some max
  else some value

/-- The last coordinate of an axis. -/
def lastOn (origin : Int32) (size : UInt32) : Option Int := do
  let limit ← i64 (origin.toInt + size.toNat)
  i64 (limit - 1)

def clampTo (value origin : Int32) (last : Int) : Option Int32 := do
  let clamped ← clamp value.toInt origin.toInt last
  asI32 clamped

/-- `clamp_to_monitor` with everything checked that could go wrong. -/
def clampToMonitorChecked (input : InputEvent) (m : MonitorInfo) : Option InputEvent := do
  let maxX ← lastOn m.originX m.width
  let maxY ← lastOn m.originY m.height
  match input with
  | .mouseMove x y =>
    let x ← clampTo x m.originX maxX
    let y ← clampTo y m.originY maxY
    some (.mouseMove x y)
  | other => some other

theorem clampAxis_toInt (value origin : Int32) (size : UInt32) :
    (clampAxis value origin size).toInt =
      max origin.toInt (min value.toInt (origin.toInt + size.toNat - 1)) := by
  have hlow := origin.le_toInt
  have hhigh := origin.toInt_lt
  have hvalue := value.toInt_lt
  apply Int32.toInt_ofInt_of_le
  · omega
  · omega

theorem lastOn_eq (origin : Int32) (size : UInt32) :
    lastOn origin size = some (origin.toInt + size.toNat - 1) := by
  have hlow := origin.le_toInt
  have hhigh := origin.toInt_lt
  have hsize := size.toNat_lt
  have hlimit : -2 ^ 63 ≤ origin.toInt + size.toNat ∧ origin.toInt + size.toNat < 2 ^ 63 := by omega
  have hlast : -2 ^ 63 ≤ origin.toInt + size.toNat - 1 ∧
      origin.toInt + size.toNat - 1 < 2 ^ 63 := by omega
  simp only [lastOn, i64_of_mem hlimit, Option.bind_eq_bind, Option.bind_some, i64_of_mem hlast]

/-- On an axis that is not empty the bounds are the right way round, and the result lies
between the value and the origin, so it is narrow enough even where the last coordinate is
not. -/
theorem clampTo_eq (value origin : Int32) (size : UInt32) (hsize : 0 < size) :
    clampTo value origin (origin.toInt + size.toNat - 1) = some (clampAxis value origin size) := by
  have hlow := origin.le_toInt
  have hhigh := origin.toInt_lt
  have hvlow := value.le_toInt
  have hvhigh := value.toInt_lt
  have hpos : 0 < size.toNat := UInt32.lt_iff_toNat_lt.mp hsize
  have hclamp : clamp value.toInt origin.toInt (origin.toInt + size.toNat - 1) =
      some (clampAxis value origin size).toInt := by
    rw [clampAxis_toInt, clamp, if_neg (by omega)]
    split
    · rw [Option.some.injEq]
      omega
    · split
      · rw [Option.some.injEq]
        omega
      · rw [Option.some.injEq]
        omega
  have hnarrow := And.intro (clampAxis value origin size).le_toInt
    (clampAxis value origin size).toInt_lt
  simp only [clampTo, hclamp, Option.bind_eq_bind, Option.bind_some, asI32, if_pos hnarrow,
    Int32.ofInt_toInt]

theorem clampToMonitorChecked_eq (input : InputEvent) (m : MonitorInfo) (h : m.validate = .ok ()) :
    clampToMonitorChecked input m = some (clampToMonitor input (bounds m h)) := by
  obtain ⟨hwidth, hheight⟩ := validate_dimensions m h
  cases input with
  | mouseMove x y =>
    simp [clampToMonitorChecked, lastOn_eq, clampTo_eq _ _ _ hwidth, clampTo_eq _ _ _ hheight,
      clampToMonitor, bounds]
  | key | text | mouseButton | mouseWheel =>
    simp [clampToMonitorChecked, lastOn_eq, clampToMonitor]

/-- A clamped point lies on the monitor. -/
theorem contains_clamp (m : MonitorInfo) (h : m.validate = .ok ()) (x y : Int32) :
    m.contains (clampAxis x m.originX m.width) (clampAxis y m.originY m.height) = true := by
  obtain ⟨hwidth, hheight⟩ := validate_dimensions m h
  have hw : 0 < m.width.toNat := UInt32.lt_iff_toNat_lt.mp hwidth
  have hh : 0 < m.height.toNat := UInt32.lt_iff_toNat_lt.mp hheight
  simp only [MonitorInfo.contains, clampAxis_toInt, Bool.not_eq_true', Bool.or_eq_false_iff,
    decide_eq_false_iff_not]
  omega

/-- A coordinate that is on the axis stays where it is. -/
theorem clampAxis_inside (value origin : Int32) (size : UInt32)
    (h : origin.toInt ≤ value.toInt ∧ value.toInt < origin.toInt + size.toNat) :
    clampAxis value origin size = value := by
  apply Int32.toInt_inj.mp
  rw [clampAxis_toInt]
  omega

theorem clampToMonitor_inside (m : MonitorInfo) (h : m.validate = .ok ()) (x y : Int32)
    (hinside : m.contains x y = true) :
    clampToMonitor (.mouseMove x y) (bounds m h) = .mouseMove x y := by
  simp only [MonitorInfo.contains, Bool.not_eq_true', Bool.or_eq_false_iff,
    decide_eq_false_iff_not, Int.not_lt, ge_iff_le, Int.not_le] at hinside
  obtain ⟨⟨⟨hx, hx'⟩, hy⟩, hy'⟩ := hinside
  simp only [clampToMonitor, bounds, clampAxis_inside _ _ _ ⟨hx, hx'⟩,
    clampAxis_inside _ _ _ ⟨hy, hy'⟩]

/-- On every monitor that passes its check, whatever its place and size, the pointer is
clamped without a panic and without a lossy cast, to a point that the cursor's own check
accepts; a point on the monitor stays, so clamping again changes nothing. -/
theorem clamp_to_monitor_safe (m : MonitorInfo) (h : m.validate = .ok ()) (x y : Int32) :
    ∃ x' y', clampToMonitorChecked (.mouseMove x y) m = some (.mouseMove x' y') ∧
      clampToMonitor (.mouseMove x y) (bounds m h) = .mouseMove x' y' ∧
      (∀ visible shapeId, validateCursorPosition (some m) ⟨x', y', visible, shapeId⟩ =
        .ok ⟨x', y', visible, shapeId⟩) ∧
      (m.contains x y = true → x' = x ∧ y' = y) ∧
      clampToMonitor (.mouseMove x' y') (bounds m h) = .mouseMove x' y' := by
  have hinside := contains_clamp m h x y
  refine ⟨_, _, clampToMonitorChecked_eq _ m h, rfl, ?_, ?_, clampToMonitor_inside m h _ _ hinside⟩
  · intro visible shapeId
    have hin : m.contains (clampAxis x (bounds m h).originX (bounds m h).width)
        (clampAxis y (bounds m h).originY (bounds m h).height) = true := hinside
    simp [validateCursorPosition, hin]
  · intro hin
    have hsame := clampToMonitor_inside m h x y hin
    simpa [clampToMonitor] using hsame

/-- The widest monitor at the far end of the coordinates. -/
def wideMonitor : MonitorInfo := ⟨2147483647, -2147483648, 4294967295, 1, F32.ofBits 0x3f800000⟩

theorem validate_wideMonitor : wideMonitor.validate = .ok () := by decide

theorem clamp_to_monitor_safe_wide :
    wideMonitor.validate = .ok () ∧
      clampToMonitorChecked (.mouseMove 5 5) wideMonitor =
        some (.mouseMove 2147483647 (-2147483648)) := by
  obtain ⟨x', y', hchecked, hclamped, -⟩ :=
    clamp_to_monitor_safe wideMonitor validate_wideMonitor 5 5
  rw [← hclamped] at hchecked
  exact ⟨validate_wideMonitor, hchecked.trans (by decide +kernel)⟩

/-! ## The calls -/

/-- The calls of the runtime, but for the one that drops what is pending on purpose. -/
inductive Call where
  | handleWindowEvent (event : WindowEvent) (now : Nat)
  | setFocused (focused : Bool)
  | tryNextControl
  | expire
  | shutdown

/-- What a call returns, with the input and its time when it took one. -/
inductive Output where
  | accepted (now : Nat) (input : InputEvent)
  | rejected (error : InputControllerError)
  | control (message : Option Bytes)
  | done

def tryNextControl (c : InputController) : Option Bytes × InputController :=
  (c.queue.head?, { c with queue := c.queue.tail })

def step (c : InputController) : Call → Output × InputController
  | .handleWindowEvent event now =>
    match c.handleWindowEvent event now with
    | (.error e, c) => (.rejected e, c)
    | (.ok (), c) =>
      match event with
      | .input input => (.accepted now input, c)
      | _ => (.done, c)
  | .setFocused focused => (.done, c.setFocused focused)
  | .tryNextControl =>
    match tryNextControl c with
    | (message, c) => (.control message, c)
  | .expire => (.done, c.expire)
  | .shutdown => (.done, c.expire)

/-- The clock as a call may read it. -/
def Call.reading : Call → Option Nat
  | .handleWindowEvent (.input _) now => some now
  | _ => none

/-- The window is closed or the session ends. -/
def Call.Ends : Call → Prop
  | .handleWindowEvent .closed _ => True
  | .expire => True
  | .shutdown => True
  | _ => False

/-- Everything a call can do. -/
inductive Does (c : InputController) : Call → Output → InputController → Prop where
  | taken (input : InputEvent) (now : Nat) (encoded : Bytes) (running : c.shutdown = false)
      (focused : c.focused = true) (accepts : c.Accepts input now)
      (sent : ClientInputSender.encode (clampToMonitor input c.monitor) = .ok encoded) :
      Does c (.handleWindowEvent (.input input) now) (.accepted now input)
        { c with recentEvents := c.recent now ++ [now], queue := c.queue ++ [encoded] }
  | refused (event : WindowEvent) (now : Nat) (error : InputControllerError)
      (reason : c.shutdown = true ∨ event.isInput = true) :
      Does c (.handleWindowEvent event now) (.rejected error) c
  | pruned (input : InputEvent) (now : Nat) (error : InputControllerError) :
      Does c (.handleWindowEvent (.input input) now) (.rejected error)
        { c with recentEvents := c.recent now }
  | told (call : Call) (focused : Bool) (goes : ¬call.Ends) : Does c call .done { c with focused }
  | ended (call : Call) (ends : call.Ends) : Does c call .done c.expire
  | popped : Does c .tryNextControl (.control c.queue.head?) { c with queue := c.queue.tail }

theorem enqueueInput_cases (c : InputController) (input : InputEvent) (now : Nat) :
    (∃ e, c.enqueueInput input now = (.error e, c)) ∨
      (∃ e, c.enqueueInput input now = (.error e, { c with recentEvents := c.recent now })) ∨
      ∃ encoded, c.focused = true ∧ c.Accepts input now ∧
        ClientInputSender.encode (clampToMonitor input c.monitor) = .ok encoded ∧
        c.enqueueInput input now = (.ok (),
          { c with recentEvents := c.recent now ++ [now], queue := c.queue ++ [encoded] }) := by
  by_cases hfocused : c.focused = true
  · by_cases hroom : c.queue.length ≥ c.queueCapacity
    · exact .inl ⟨.queueFull, by simp [InputController.enqueueInput, hfocused, hroom]⟩
    · by_cases hrate : (c.recent now).length ≥ c.maxEventsPerSecond
      · exact .inr (.inl ⟨.rateLimited, by
          simp [InputController.enqueueInput, hfocused, hroom, hrate]⟩)
      · cases hsent : ClientInputSender.encode (clampToMonitor input c.monitor) with
        | error e =>
          exact .inr (.inl ⟨.encode e, by
            simp [InputController.enqueueInput, hfocused, hroom, hrate, hsent]⟩)
        | ok encoded =>
          have hfits := Nat.not_lt.mpr (InputController.length_encoded _ _ hsent)
          have hvalid := ((encode_ok_iff _ _).mp hsent).1
          rw [InputController.validate_clampToMonitor] at hvalid
          refine .inr (.inr ⟨encoded, hfocused, ⟨by omega, by omega, hvalid⟩, rfl, ?_⟩)
          simp [InputController.enqueueInput, hfocused, hroom, hrate, hsent, hfits]
  · exact .inl ⟨.notFocused, by simp [InputController.enqueueInput, hfocused]⟩

theorem input_does (c : InputController) (input : InputEvent) (now : Nat)
    (hrunning : c.shutdown = false) :
    Does c (.handleWindowEvent (.input input) now)
      (step c (.handleWindowEvent (.input input) now)).1
      (step c (.handleWindowEvent (.input input) now)).2 := by
  have hhandled := c.handleWindowEvent_input input now hrunning
  rcases enqueueInput_cases c input now with ⟨e, h⟩ | ⟨e, h⟩ | ⟨encoded, hfocused, haccepts, hsent, h⟩
  · simp only [step, hhandled, h]
    exact .refused _ now e (.inr rfl)
  · simp only [step, hhandled, h]
    exact .pruned input now e
  · simp only [step, hhandled, h]
    exact .taken input now encoded hrunning hfocused haccepts hsent

theorem step_does (c : InputController) (call : Call) :
    Does c call (step c call).1 (step c call).2 := by
  cases call with
  | tryNextControl => exact .popped
  | expire => exact .ended .expire trivial
  | shutdown => exact .ended .shutdown trivial
  | setFocused focused =>
    simp only [step, InputController.setFocused]
    split
    · exact .told (.setFocused focused) c.focused id
    · exact .told (.setFocused focused) focused id
  | handleWindowEvent event now =>
    by_cases hrunning : c.shutdown = true
    · have hhandled : c.handleWindowEvent event now = (.error .shutdown, c) := by
        simp [InputController.handleWindowEvent, hrunning]
      simp only [step, hhandled]
      exact .refused event now .shutdown (.inl hrunning)
    · rw [Bool.not_eq_true] at hrunning
      by_cases hclosed : event = .closed
      · subst hclosed
        simp only [step, InputController.handleWindowEvent, hrunning, Bool.false_eq_true, if_false]
        exact .ended _ trivial
      · by_cases hinput : event.isInput = true
        · cases event <;> first | exact input_does c _ now hrunning | cases hinput
        · rw [Bool.not_eq_true] at hinput
          have hquiet := c.handleWindowEvent_quiet event now hrunning hinput hclosed
          have hdone : step c (.handleWindowEvent event now) =
              (.done, { c with focused := event.notice.getD c.focused }) := by
            simp only [step, hquiet]
            cases event <;> first | rfl | cases hinput
          rw [hdone]
          refine .told _ _ ?_
          intro hends
          cases event <;> first | exact absurd rfl hclosed | exact hends

/-! ## Whole runs -/

def Output.time : Output → Option Nat
  | accepted now _ => some now
  | _ => none

/-- The message of an accepted input. -/
def Output.message (monitor : Monitor) : Output → Option Bytes
  | accepted _ input => (ClientInputSender.encode (clampToMonitor input monitor)).toOption
  | _ => none

/-- The message that a call took out of the queue. -/
def Output.taken : Output → Option Bytes
  | control message => message
  | _ => none

/-- What holds of the controller at all times. -/
structure Sound (start c : InputController) : Prop where
  monitor : c.monitor = start.monitor
  capacity : c.queueCapacity = start.queueCapacity
  rate : c.maxEventsPerSecond = start.maxEventsPerSecond
  room : c.queue.length ≤ c.queueCapacity
  ended : c.shutdown = true → c.queue = []

section Steps

variable {c c' : InputController} {call : Call} {output : Output}

theorem Does.sound {start : InputController} (hdoes : Does c call output c') (h : Sound start c) :
    Sound start c' := by
  cases hdoes with
  | taken input now encoded running focused accepts sent =>
    refine ⟨h.monitor, h.capacity, h.rate, ?_, ?_⟩
    · simp only [List.length_append, List.length_singleton]
      exact accepts.room
    · intro hended
      simp only [running] at hended
      cases hended
  | refused => exact h
  | pruned => exact ⟨h.monitor, h.capacity, h.rate, h.room, h.ended⟩
  | told => exact ⟨h.monitor, h.capacity, h.rate, h.room, h.ended⟩
  | ended => exact ⟨h.monitor, h.capacity, h.rate, Nat.zero_le _, fun _ => rfl⟩
  | popped =>
    refine ⟨h.monitor, h.capacity, h.rate, ?_, ?_⟩
    · have hroom := h.room
      simp only [List.length_tail]
      omega
    · intro hended
      simp only [h.ended hended, List.tail_nil]

/-- Once ended, always ended; and the calls that end do end. -/
theorem Does.shutdown (hdoes : Does c call output c') (h : c.shutdown = true ∨ call.Ends) :
    c'.shutdown = true := by
  cases hdoes with
  | taken input now encoded running => simp [running, Call.Ends] at h
  | refused event now error reason =>
    rcases h with hended | hends
    · exact hended
    · apply reason.resolve_right
      intro hinput
      cases event <;> first | exact hends | cases hinput
  | pruned => simpa [Call.Ends] using h
  | told _ _ goes => exact h.resolve_right goes
  | ended => rfl
  | popped => simpa [Call.Ends] using h

theorem Does.accepted {now : Nat} {input : InputEvent} (hdoes : Does c call (.accepted now input) c') :
    c.focused = true ∧ c.shutdown = false := by
  cases hdoes with
  | taken input now encoded running focused => exact ⟨focused, running⟩

theorem Does.rejected {e : InputControllerError} (hdoes : Does c call (.rejected e) c') :
    c'.queue = c.queue := by
  cases hdoes with
  | refused => rfl
  | pruned => rfl

/-- Accepted times are forgotten only when they are a second old. -/
theorem Does.keeps {readings times : List Nat} (hdoes : Does c call output c')
    (h : Keeps (fromSecs 1) readings times c.recentEvents) :
    Keeps (fromSecs 1) (readings ++ call.reading.toList)
      (times ++ output.time.toList) c'.recentEvents := by
  have hquiet : Keeps (fromSecs 1) (readings ++ call.reading.toList) times
      c.recentEvents := h.read _
  have hsecond : 0 < fromSecs 1 := by decide
  cases hdoes with
  | taken input now => exact (h.prune now hsecond).add now
  | pruned input now =>
    simp only [Output.time, Option.toList_none, List.append_nil]
    exact h.prune now hsecond
  | refused | told | ended | popped =>
    simp only [Output.time, Option.toList_none, List.append_nil]
    exact hquiet

/-- No second sees more inputs than the limit, if the clock does not go back. -/
theorem Does.count_le {readings times : List Nat} {limit : Nat} (hdoes : Does c call output c')
    (hlimit : c.maxEventsPerSecond = limit)
    (h : Keeps (fromSecs 1) readings times c.recentEvents)
    (hclock : ∀ now ∈ call.reading, ∀ reading ∈ readings, reading ≤ now)
    (hcount : ∀ t, count (fromSecs 1) t times ≤ limit) (t : Nat) :
    count (fromSecs 1) t (times ++ output.time.toList) ≤ limit := by
  cases hdoes with
  | taken input now encoded running focused accepts =>
    have hkept := h.prune now (by decide)
    refine hkept.count_add ?_ (hlimit ▸ accepts.rate) hcount t
    intro reading hreading
    rcases List.mem_append.mp hreading with hearlier | hnow
    · exact hclock now rfl reading hearlier
    · rw [List.mem_singleton.mp hnow]
  | refused | pruned | told | ended | popped =>
    simp only [Output.time, Option.toList_none, List.append_nil]
    exact hcount t

/-- Messages leave the queue in the order in which they came; what an end leaves behind is
lost. -/
theorem Does.ordered {monitor : Monitor} {messages controls : List Bytes}
    (hdoes : Does c call output c') (hmonitor : c.monitor = monitor)
    (hended : c.shutdown = true → c.queue = [])
    (h : ∃ rest, messages = controls ++ rest ∧ (c.shutdown = false → rest = c.queue)) :
    ∃ rest, messages ++ (output.message monitor).toList =
        controls ++ output.taken.toList ++ rest ∧ (c'.shutdown = false → rest = c'.queue) := by
  obtain ⟨rest, rfl, hrest⟩ := h
  cases hdoes with
  | taken input now encoded running focused accepts sent =>
    refine ⟨c.queue ++ [encoded], ?_, fun _ => rfl⟩
    rw [hmonitor] at sent
    simp [Output.message, Output.taken, sent, hrest running, Except.toOption]
  | refused | pruned | told => exact ⟨rest, by simp [Output.message, Output.taken], hrest⟩
  | ended =>
    refine ⟨rest, by simp [Output.message, Output.taken], ?_⟩
    intro hrunning
    cases hrunning
  | popped =>
    cases hqueue : c.queue with
    | nil =>
      refine ⟨rest, by simp [Output.message, Output.taken], ?_⟩
      intro hrunning
      rw [hrest hrunning, hqueue]
      rfl
    | cons message queue =>
      have hrunning : c.shutdown = false := by
        by_contra hshut
        rw [hended (by simpa using hshut)] at hqueue
        cases hqueue
      refine ⟨queue, ?_, fun _ => rfl⟩
      simp [Output.message, Output.taken, hrest hrunning, hqueue]

end Steps

/-- All that is promised of a run of calls. -/
structure Limited (start : InputController) (rate capacity : Nat) (calls : List Call) : Prop where
  rate : ∀ t, count (fromSecs 1) t
    ((trace step start calls).filterMap Output.time) ≤ rate
  queue : (after step start calls).queue.length ≤ capacity
  focused : ∀ call now input, (step (after step start calls) call).1 = .accepted now input →
    (after step start calls).focused = true ∧
      (after step start calls).shutdown = false
  rejected : ∀ call e, (step (after step start calls) call).1 = .rejected e →
    (step (after step start calls) call).2.queue = (after step start calls).queue
  order : ((trace step start calls).filterMap Output.taken) <+:
    ((trace step start calls).filterMap (Output.message start.monitor))
  pending : (after step start calls).shutdown = false →
    (trace step start calls).filterMap (Output.message start.monitor) =
      (trace step start calls).filterMap Output.taken ++ (after step start calls).queue
  ended : ∀ before call rest, calls = before ++ call :: rest → call.Ends →
    (after step start calls).queue = []

section Runs

variable {start : InputController}

theorem filterMap_concat {α β : Type} (f : α → Option β) (xs : List α) (x : α) :
    (xs ++ [x]).filterMap f = xs.filterMap f ++ (f x).toList := by
  rw [List.filterMap_append]
  cases h : f x <;> simp [h]

theorem run_sound (h : Sound start start) (calls : List Call) :
    Sound start (after step start calls) :=
  Mealy.after_always (fun c call hc => (step_does c call).sound hc) start calls h

theorem run_keeps (hstart : start.recentEvents = []) (calls : List Call) :
    Keeps (fromSecs 1) (calls.filterMap Call.reading)
      ((trace step start calls).filterMap Output.time)
      (after step start calls).recentEvents := by
  induction calls using List.reverseRecOn with
  | nil =>
    rw [Mealy.trace_nil, Mealy.after_nil, hstart]
    exact Keeps.nil
  | append_singleton calls call ih =>
    rw [trace_concat, Mealy.after_concat, filterMap_concat, filterMap_concat]
    exact (step_does _ call).keeps ih

theorem run_count (hstart : start.recentEvents = []) (hsound : Sound start start)
    (calls : List Call) (hclock : (calls.filterMap Call.reading).Pairwise (· ≤ ·)) (t : Nat) :
    count (fromSecs 1) t ((trace step start calls).filterMap Output.time) ≤
      start.maxEventsPerSecond := by
  induction calls using List.reverseRecOn generalizing t with
  | nil => exact Nat.zero_le _
  | append_singleton calls call ih =>
    rw [filterMap_concat, List.pairwise_append] at hclock
    obtain ⟨hbefore, -, hcross⟩ := hclock
    rw [trace_concat, filterMap_concat]
    refine (step_does _ call).count_le (run_sound hsound calls).rate (run_keeps hstart calls) ?_
      (fun t => ih hbefore t) t
    intro now hnow reading hreading
    exact hcross reading hreading now (by rw [hnow]; simp)

theorem run_ordered (hqueue : start.queue = []) (hsound : Sound start start) (calls : List Call) :
    ∃ rest, (trace step start calls).filterMap (Output.message start.monitor) =
        (trace step start calls).filterMap Output.taken ++ rest ∧
      ((after step start calls).shutdown = false →
        rest = (after step start calls).queue) := by
  induction calls using List.reverseRecOn with
  | nil => exact ⟨[], rfl, fun _ => hqueue.symm⟩
  | append_singleton calls call ih =>
    have hc := run_sound hsound calls
    rw [trace_concat, Mealy.after_concat, filterMap_concat, filterMap_concat]
    exact (step_does _ call).ordered hc.monitor hc.ended ih

theorem run_ended (before rest : List Call) (call : Call) (hends : call.Ends) :
    (after step start (before ++ call :: rest)).shutdown = true := by
  rw [Mealy.after_append, Mealy.after_cons]
  have hfirst := (step_does (after step start before) call).shutdown (.inr hends)
  exact Mealy.after_always (fun c call hc => (step_does c call).shutdown (.inl hc)) _ rest hfirst

end Runs

/-- What a new controller starts with. -/
theorem withLimits_ok (monitor : Monitor) (rate capacity : Nat) (c : InputController)
    (h : InputController.withLimits monitor rate capacity = .ok c) :
    c = { monitor, focused := false, shutdown := false, queue := [], queueCapacity := capacity,
          maxEventsPerSecond := rate, recentEvents := [] } := by
  unfold InputController.withLimits at h
  split at h
  · cases h
  · split at h
    · cases h
    · exact (Except.ok.inj h).symm

/-- Whatever is called in whatever order, and whenever, as long as the clock does not go back:
the controller keeps its limits, takes input only while it has the focus and runs, passes
messages on in their order, and has nothing left once it has ended. -/
theorem input_limits (monitor : Monitor) (rate capacity : Nat) (start : InputController)
    (hstart : InputController.withLimits monitor rate capacity = .ok start) (calls : List Call)
    (hclock : (calls.filterMap Call.reading).Pairwise (· ≤ ·)) :
    Limited start rate capacity calls := by
  have hnew := withLimits_ok monitor rate capacity start hstart
  have hsound : Sound start start := by
    rw [hnew]
    exact ⟨rfl, rfl, rfl, Nat.zero_le _, fun _ => rfl⟩
  have hrun := run_sound hsound calls
  obtain ⟨rest, hmessages, hrest⟩ := run_ordered (by rw [hnew]) hsound calls
  have hrate : start.maxEventsPerSecond = rate := by rw [hnew]
  have hcapacity : start.queueCapacity = capacity := by rw [hnew]
  constructor
  · intro t
    rw [← hrate]
    exact run_count (by rw [hnew]) hsound calls hclock t
  · rw [← hcapacity, ← hrun.capacity]
    exact hrun.room
  · intro call now input haccepted
    exact (haccepted ▸ step_does (after step start calls) call).accepted
  · intro call e hrejected
    exact (hrejected ▸ step_does (after step start calls) call).rejected
  · exact ⟨rest, hmessages.symm⟩
  · intro hrunning
    rw [hmessages, hrest hrunning]
  · rintro before call rest rfl hends
    exact hrun.ended (run_ended before rest call hends)

/-- A controller that takes one input a second. -/
def slowController : InputController where
  monitor := bounds wideMonitor validate_wideMonitor
  focused := false
  shutdown := false
  queue := []
  queueCapacity := 4
  maxEventsPerSecond := 1
  recentEvents := []

/-- Two clicks in one second, of which the second is refused. -/
theorem input_limits_clicks :
    let calls : List Call := [.setFocused true,
      .handleWindowEvent (.input (.mouseButton .left true)) 1000,
      .handleWindowEvent (.input (.mouseButton .left false)) 2000, .tryNextControl]
    InputController.withLimits (bounds wideMonitor validate_wideMonitor) 1 4 = .ok slowController ∧
      (trace step slowController calls).filterMap Output.time = [1000] ∧
      Limited slowController 1 4 calls := by
  intro calls
  exact ⟨rfl, by decide +kernel, input_limits (bounds wideMonitor validate_wideMonitor) 1 4
    slowController rfl calls (by decide)⟩

end InputLimits
