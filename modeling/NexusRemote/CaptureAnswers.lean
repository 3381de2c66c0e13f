import NexusRemote.CaptureStops

/-!
# A frame answers the call that gets it

A call of `next_frame` that gave up may leave its command or its frame behind.
No later call can take that frame for its own: the owner gives up its sender
with the call.
-/

namespace CaptureWorker

open CursorControl DepthOne HostMedia Histories Mealy

variable {s s' : State} {events log : List Event}

def Event.callNumber : Event → Option Nat
  | called call => some call
  | _ => none

def lastCalled (log : List Event) : Option Nat := (log.filterMap Event.callNumber).getLast?

/-- Every call has its own number, the worker asks the session at most once for each, and a call
returns a frame only if the session gave it for that call. -/
def SameCall (past : List Event) : Event → Prop
  | .called call => .called call ∉ past
  | .captured call _ => .called call ∈ past ∧ ∀ result, .captured call result ∉ past
  | .returned call result => lastCalled past = some call ∧
      ∀ frame, result = .ok frame → ∃ raw, .captured call raw ∈ past ∧ checked raw = .ok frame
  | _ => True

structure Calls (log : List Event) (s : State) : Prop where
  same : Along SameCall log
  numbers : ∀ call, .called call ∈ log → call < s.calls
  current : ∀ call, s.owner = .awaitingFrame call → lastCalled log = some call
  captured : ∀ call raw, .captured call raw ∈ log → .called call ∈ log
  asked : ∀ call, Asked s call → .called call ∈ log ∧ ∀ raw, .captured call raw ∉ log
  answered : ∀ call result, Answered s call result →
    ∃ raw, .captured call raw ∈ log ∧ checked raw = result

theorem calls_initial : Calls [] initial where
  same := along_nil
  numbers := by simp
  current := by simp [initial]
  captured := by simp
  asked := by simp [initial, Asked]
  answered := by simp [initial, Answered]

theorem lastCalled_append (hevents : ∀ e ∈ events, e.isOther = true) :
    lastCalled (log ++ events) = lastCalled log := by
  have hnone : events.filterMap Event.callNumber = [] := by
    rw [List.filterMap_eq_nil_iff]
    intro e he
    have hother := hevents e he
    cases e <;> first | rfl | cases hother
  rw [lastCalled, List.filterMap_append, hnone, List.append_nil, lastCalled]

theorem Calls.inherit (h : Calls log s) (hs : Inherits s s')
    (hevents : ∀ e ∈ events, e.isOther = true) : Calls (log ++ events) s' := by
  have hmem : ∀ e, e.isOther = false → (e ∈ log ++ events ↔ e ∈ log) := by
    intro e he
    rw [List.mem_append, or_iff_left]
    intro hmem
    simp [hevents e hmem] at he
  refine ⟨?_, ?_, ?_, ?_, ?_, ?_⟩
  · refine along_append log events h.same fun past e he => ?_
    have hother := hevents e he
    cases e <;> trivial
  · intro call hcall
    rw [hs.calls]
    exact h.numbers call ((hmem _ rfl).mp hcall)
  · intro call ho
    rw [lastCalled_append hevents]
    exact h.current call (hs.current call ho)
  · intro call raw hraw
    exact (hmem _ rfl).mpr (h.captured call raw ((hmem _ rfl).mp hraw))
  · intro call hasked
    obtain ⟨hcall, hraw⟩ := h.asked call (hs.asked call hasked)
    exact ⟨(hmem _ rfl).mpr hcall, fun raw => (hmem _ rfl).not.mpr (hraw raw)⟩
  · intro call result hanswered
    obtain ⟨raw, hraw, hresult⟩ := h.answered call result (hs.answered call result hanswered)
    exact ⟨raw, (hmem _ rfl).mpr hraw, hresult⟩

theorem Calls.works (h : Calls log s) (hs : Orderly s) (hworks : Works s events s') :
    Calls (log ++ events) s' := by
  rcases hworks.inherits with ⟨hinherits, hevents⟩ | ⟨call, result, hw, rfl, rfl⟩
  · exact h.inherit hinherits hevents
  obtain ⟨hcommands, hresponses⟩ := hs.free (by simp [hw, owes])
  obtain ⟨hcalled, hfresh⟩ := h.asked call (.inr hw)
  refine ⟨(along_concat _ _).mpr ⟨h.same, hcalled, hfresh⟩, ?_, ?_, ?_, ?_, ?_⟩
  · simpa using h.numbers
  · simpa [lastCalled, Event.callNumber] using h.current
  · intro n raw hmem
    have hn : Event.captured n raw ∈ log ∨ n = call := by
      simp only [List.mem_append, List.mem_singleton, Event.captured.injEq] at hmem
      exact hmem.imp_right And.left
    rcases hn with hn | rfl
    · exact List.mem_append_left _ (h.captured n raw hn)
    · exact List.mem_append_left _ hcalled
  · rintro n (hn | hn)
    · simp [hcommands] at hn
    · cases hn
  · rintro n answer (hn | hn)
    · cases hn
      exact ⟨result, by simp, rfl⟩
    · simp [hresponses] at hn

/-- The owner calls `next_frame`. -/
theorem Calls.call (h : Calls log s) (hcalls : s'.calls = s.calls + 1)
    (howner : ∀ call, s'.owner = .awaitingFrame call → call = s.calls)
    (hasked : ∀ call, Asked s' call → Asked s call ∨ call = s.calls)
    (hanswered : ∀ call result, Answered s' call result → Answered s call result) :
    Calls (log ++ [.called s.calls]) s' := by
  have hfresh : Event.called s.calls ∉ log := fun hmem => Nat.lt_irrefl _ (h.numbers _ hmem)
  refine ⟨(along_concat _ _).mpr ⟨h.same, hfresh⟩, ?_, ?_, ?_, ?_, ?_⟩
  · intro call hmem
    rw [hcalls]
    rcases List.mem_append.mp hmem with hmem | hmem
    · exact Nat.lt_succ_of_lt (h.numbers call hmem)
    · obtain rfl : call = s.calls := by simpa using hmem
      exact Nat.lt_succ_self _
  · intro call ho
    obtain rfl := howner call ho
    simp [lastCalled, Event.callNumber]
  · intro call raw hmem
    exact List.mem_append_left _ (h.captured call raw (by simpa using hmem))
  · intro call hcall
    rcases hasked call hcall with hold | rfl
    · simpa using (h.asked call hold).imp_left (Or.inl (b := call = s.calls))
    · simpa using fun raw hmem => hfresh (h.captured s.calls raw hmem)
  · intro call result hanswer
    simpa using h.answered call result (hanswered call result hanswer)

/-- A call of `next_frame` returns; what it may leave behind is its command and its answer. -/
theorem Calls.return {call : Nat} {result : BackendResult CapturedFrame} (h : Calls log s)
    (hs : Inherits s s') (howner : ∀ call, s'.owner ≠ .awaitingFrame call)
    (hlast : lastCalled log = some call)
    (hframe : ∀ frame, result = .ok frame →
      ∃ raw, .captured call raw ∈ log ∧ checked raw = .ok frame) :
    Calls (log ++ [.returned call result]) s' := by
  refine ⟨(along_concat _ _).mpr ⟨h.same, hlast, hframe⟩, ?_, ?_, ?_, ?_, ?_⟩
  · simpa [hs.calls] using h.numbers
  · exact fun call ho => absurd ho (howner call)
  · simpa using h.captured
  · simpa using fun call hcall => h.asked call (hs.asked call hcall)
  · simpa using fun call answer hanswer => h.answered call answer (hs.answered call answer hanswer)

theorem Calls.asks (h : Calls log s) (hs : Orderly s) (hasks : Asks s events s') :
    Calls (log ++ events) s' := by
  cases hasks with
  | rests => exact h.inherit ⟨rfl, fun _ => id, fun _ => id, fun _ _ => id⟩ (by simp)
  | stoppedAlready =>
    exact h.inherit ⟨rfl, fun _ => id, fun _ => id, fun _ _ => id⟩ (by simp [Event.isOther])
  | startFails | joins | releases =>
    exact h.inherit ⟨rfl, by simp, fun _ => id, fun _ _ => id⟩ (by simp [Event.isOther])
  | spawns | spawnFails =>
    exact h.inherit (.of_unburdened ⟨by simp, by simp⟩ rfl (by simp) (fun _ => .inl)
      (fun _ _ => .inr)) (by simp [Event.isOther])
  | starts =>
    exact h.inherit ⟨rfl, by simp, fun _ => id, fun _ _ hw => hw.imp_right (by simp)⟩
      (by simp [Event.isOther])
  | asksStop =>
    exact h.inherit ⟨rfl, by simp, fun _ hw => hw.imp_left (by simp), fun _ _ => id⟩ (by simp)
  | drops ho commands hcommands =>
    refine h.inherit ⟨rfl, by simp, fun _ hw => hw.imp_left ?_, fun _ _ => id⟩ (by simp)
    rcases hcommands with rfl | ⟨rfl, -⟩
    · exact id
    · simp
  | endsRequest ho result responses hleft =>
    refine h.inherit ⟨rfl, by simp, fun _ => id, fun _ _ hw => hw.imp_right ?_⟩ (by simp)
    rcases hleft with rfl | rfl
    · exact id
    · simp
  | asks ho htx =>
    refine h.call rfl (by simp [eq_comm]) ?_ (fun _ _ => id)
    rintro call (hcommands | hw)
    · exact .inr (by simpa [eq_comm] using hcommands)
    · exact .inl (.inr hw)
  | refuses ho err state commandTx =>
    rw [List.append_cons]
    have hcall : Calls (log ++ [.called s.calls]) { s with calls := s.calls + 1 } :=
      h.call rfl (by simp [ho]) (fun _ => .inl) (fun _ _ => id)
    exact hcall.return ⟨rfl, by simp [ho], fun _ => id, fun _ _ => id⟩ (by simp [ho])
      (by simp [lastCalled, Event.callNumber]) (by simp)
  | abandons call ho err responses hleft state =>
    refine h.return ⟨rfl, by simp, fun _ => id, fun _ _ hw => hw.imp_right ?_⟩ (by simp)
      (h.current call ho) (by simp)
    rcases hleft with rfl | rfl
    · exact id
    · simp
  | returns call tag result ho hresponse state =>
    obtain rfl := (hs.tagged call ho).answered tag result (.inr hresponse)
    refine h.return ⟨rfl, by simp, fun _ => id, fun _ _ hw => hw.imp_right (by simp)⟩ (by simp)
      (h.current tag ho) ?_
    rintro frame rfl
    exact h.answered tag _ (.inr hresponse)

/-! ## The whole run -/

def runLog (config : CaptureConfig) (actions : List Action) : List Event :=
  (trace (step config) initial actions).flatten

def reached (config : CaptureConfig) (actions : List Action) : State :=
  after (step config) initial actions

structure Kept (log : List Event) (s : State) : Prop where
  orderly : Orderly s
  sessions : Sessions log s.worker.stage
  calls : Calls log s

theorem kept_initial : Kept [] initial where
  orderly := orderly_initial
  sessions := ⟨along_nil, by simp, by simp [initial, Worker.stage], by simp⟩
  calls := calls_initial

theorem Kept.step (config : CaptureConfig) (a : Action) (h : Kept events s) :
    Kept (events ++ (step config s a).1) (step config s a).2 := by
  rcases step_cases config s a with hworks | hasks
  · exact ⟨h.orderly.works hworks, h.sessions.works hworks, h.calls.works h.orderly hworks⟩
  · exact ⟨h.orderly.asks hasks, h.sessions.silent (hasks.silently h.orderly) hasks.aside,
      h.calls.asks h.orderly hasks⟩

theorem kept_run (config : CaptureConfig) (actions : List Action) :
    Kept (runLog config actions) (reached config actions) :=
  log_invariant (fun _ _ a h => Kept.step config a h) initial kept_initial actions

/-- A worker that has finished has stopped the session it had. -/
theorem Kept.stopped_once (h : Kept events s) (hw : s.worker = .finished)
    (hstarted : ∃ e ∈ events, e.isStart = true) : events.countP Event.isStop = 1 := by
  have hle := countP_isStop_le h.sessions.calls
  have hpos : 0 < events.countP Event.isStop :=
    List.countP_pos_iff.mpr (h.sessions.ended (by rw [hw]; rfl) hstarted)
  omega

/-- Whatever the threads and the platform do, a session is stopped once and not called after that,
and a call of `next_frame` returns no frame but its own. A worker without a session finishes too. -/
theorem session_stopped_once (config : CaptureConfig) (actions : List Action) :
    Along SessionCall (runLog config actions) ∧
    ((reached config actions).worker = .finished →
      (∃ e ∈ runLog config actions, e.isStart = true) →
      (runLog config actions).countP Event.isStop = 1) ∧
    ((reached config actions).owner = .gone → (reached config actions).commandTx = false) ∧
    ((reached config actions).commandTx = false →
      ∀ more : List Action, 7 ≤ more.countP Action.isWork →
        (reached config (actions ++ more)).worker = .finished) ∧
    Along SameCall (runLog config actions) := by
  have h := kept_run config actions
  refine ⟨h.sessions.calls, h.stopped_once, ?_, ?_, h.calls.same⟩
  · intro ho
    have hholds := h.orderly.holds
    rwa [ho] at hholds
  · intro hsender more hwork
    rw [reached, after_append]
    exact Released.finishes config ⟨h.orderly, hsender⟩ more hwork

def blackPixel : CapturedFrame := ⟨1, 0, 1, 1, .bgra8, [0, 0, 0, 255]⟩

def willing : Replies := ⟨.ok (), fun _ => .ok (), .ok blackPixel, .ok ()⟩

/-- The first call gives up before the worker has seen its command. -/
def lateRun : List Action :=
  [.spawn true, .work willing, .work willing, .work willing, .receive, .nextFrame, .timeout,
    .work willing, .work willing, .work willing, .nextFrame, .drop, .release,
    .work willing, .work willing]

-- the frame for the call 0 comes late, and the call 1 does not get it
example : runLog ⟨true⟩ lateRun =
    [.sessionStarted .wgc, .startReturned (.ok .wgc), .called 0, .returned 0 (.error .timeout),
      .captured 0 (.ok blackPixel), .called 1, .returned 1 (.error .stopped), .stopped (.ok ())] :=
  rfl

end CaptureWorker
