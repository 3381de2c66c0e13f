import NexusRemote.CaptureWorker
import NexusRemote.Histories

/-!
# Every capture session is stopped once

The owner has one question open at a time: a command on its way, the worker's
answer in the making and a response that waits are never more than one. So the
worker never finds the slot of the responses full, and a frame that the owner
receives can only answer the call that waits for it. The worker keeps a session
until it stops it, and then it never calls it again; once the owner has dropped
its sender, the worker gets there by itself.
-/

namespace CaptureWorker

open CursorControl DepthOne HostMedia Histories Mealy

variable {s s' : State} {events : List Event}

/-! ## Questions and answers -/

/-- The event does not belong to a call of `next_frame`. -/
def Event.isOther : Event → Bool
  | called _ | returned _ _ | captured _ _ => false
  | _ => true

/-- The command for this call waits, or the worker is about to capture the frame. -/
def Asked (s : State) (call : Nat) : Prop :=
  s.commands = some (.nextFrame call) ∨ s.worker = .capturing call

/-- The worker has the answer to this call, or the answer waits. -/
def Answered (s : State) (call : Nat) (result : BackendResult CapturedFrame) : Prop :=
  s.worker = .answering call result ∨ s.responses = some (.frame call result)

/-- What is asked, answered and waited for was so before. -/
structure Inherits (s s' : State) : Prop where
  calls : s'.calls = s.calls
  current : ∀ call, s'.owner = .awaitingFrame call → s.owner = .awaitingFrame call
  asked : ∀ call, Asked s' call → Asked s call
  answered : ∀ call result, Answered s' call result → Answered s call result

/-- The worker has no call in hand. -/
structure Worker.Unburdened (worker : Worker) : Prop where
  capturing : ∀ call, worker ≠ .capturing call
  answering : ∀ call result, worker ≠ .answering call result

theorem Sends.unburdened {worker sent lost : Worker} {response : CaptureResponse}
    (h : Sends worker response sent lost) : sent.Unburdened ∧ lost.Unburdened := by
  cases h <;> exact ⟨⟨by simp, by simp⟩, ⟨by simp, by simp⟩⟩

theorem Inherits.of_unburdened (hworker : s'.worker.Unburdened) (hcalls : s'.calls = s.calls)
    (howner : ∀ call, s'.owner = .awaitingFrame call → s.owner = .awaitingFrame call)
    (hcommands : ∀ call, s'.commands = some (.nextFrame call) → Asked s call)
    (hresponses : ∀ call result, s'.responses = some (.frame call result) →
      Answered s call result) : Inherits s s' where
  calls := hcalls
  current := howner
  asked := fun call hasked => hasked.elim (hcommands call) fun hw => absurd hw (hworker.capturing call)
  answered := fun call result hanswered => hanswered.elim
    (fun hw => absurd hw (hworker.answering call result)) (hresponses call result)

/-- Apart from a capture, the worker only passes questions and answers on. -/
theorem Works.inherits (h : Works s events s') :
    (Inherits s s' ∧ ∀ e ∈ events, e.isOther = true) ∨
      ∃ call result, s.worker = .capturing call ∧ events = [.captured call result] ∧
        s' = { s with worker := .answering call (checked result) } := by
  cases h with
  | captures call result hw => exact .inr ⟨call, result, hw, rfl, rfl⟩
  | rests | waits | blocks =>
    exact .inl ⟨⟨rfl, fun _ => id, fun _ => id, fun _ _ => id⟩, by simp⟩
  | initializes | turns | fails | hangsUp | opens | replies | ends =>
    refine .inl ⟨.of_unburdened ⟨by simp, by simp⟩ rfl (fun _ => id) (fun _ => .inl)
      (fun _ _ => .inr), by simp [Event.isOther]⟩
  | obeys hw hcommands =>
    exact .inl ⟨.of_unburdened ⟨by simp, by simp⟩ rfl (fun _ => id) (by simp) (fun _ _ => .inr),
      by simp⟩
  | loses response sent lost hw =>
    exact .inl ⟨.of_unburdened hw.unburdened.2 rfl (fun _ => id) (fun _ => .inl) (fun _ _ => .inr),
      by simp⟩
  | takes n hw hcommands =>
    refine .inl ⟨⟨rfl, fun _ => id, ?_, ?_⟩, by simp⟩
    · rintro call (hnone | hcapturing)
      · cases hnone
      · cases hcapturing
        exact .inl hcommands
    · rintro call result (hanswering | hresponses)
      · cases hanswering
      · exact .inr hresponses
  | sends response sent lost hw =>
    refine .inl ⟨.of_unburdened hw.unburdened.1 rfl (fun _ => id) (fun _ => .inl) ?_, by simp⟩
    intro call result hresponses
    obtain rfl : response = .frame call result := by simpa using hresponses
    generalize hworker : s.worker = worker at hw
    cases hw
    exact .inl hworker

/-! ## One question at a time -/

/-- The worker owes the owner a response. -/
def owes : Worker → Nat
  | .listening | .stopping false | .finished => 0
  | _ => 1

def openQuestions (s : State) : Nat := waiting s.commands + owes s.worker + waiting s.responses

/-- Every frame asked for or on its way is for this call. -/
structure Tagged (call : Nat) (s : State) : Prop where
  asked : ∀ n, Asked s n → n = call
  answered : ∀ n result, Answered s n result → n = call

/-- Whether the owner holds its sender, where that is certain. -/
def Owner.Holds (commandTx : Bool) : Owner → Prop
  | .spawning => commandTx = true
  | .joining _ | .gone => commandTx = false
  | _ => True

structure Orderly (s : State) : Prop where
  one : openQuestions s ≤ 1
  quiet : s.owner = .idle → s.commandTx = true → openQuestions s = 0
  tagged : ∀ call, s.owner = .awaitingFrame call → Tagged call s
  spawned : s.worker = .unspawned ↔ s.owner = .spawning
  holds : s.owner.Holds s.commandTx

theorem orderly_initial : Orderly initial where
  one := Nat.le_refl 1
  quiet := by simp [initial]
  tagged := by simp [initial]
  spawned := by simp [initial]
  holds := rfl

theorem Works.frame (h : Works s events s') :
    s'.owner = s.owner ∧ s'.commandTx = s.commandTx ∧ s'.calls = s.calls := by
  cases h <;> exact ⟨rfl, rfl, rfl⟩

theorem Sends.owes {worker sent lost : Worker} {response : CaptureResponse}
    (h : Sends worker response sent lost) : owes worker = 1 ∧ owes sent = 0 ∧ owes lost = 0 := by
  cases h <;> exact ⟨rfl, rfl, rfl⟩

theorem Works.openQuestions_le (h : Works s events s') : openQuestions s' ≤ openQuestions s := by
  cases h with
  | rests | waits | blocks => exact Nat.le_refl _
  | initializes hw | turns hw | captures _ _ hw | replies _ hw | ends _ hw =>
    simp [openQuestions, hw, CaptureWorker.owes]
  | fails err hw => rcases hw with hw | hw | hw <;> simp [openQuestions, hw, CaptureWorker.owes]
  | opens api hw => rcases hw with hw | hw <;> simp [openQuestions, hw, CaptureWorker.owes]
  | sends response sent lost hw hempty =>
    simp [openQuestions, hw.owes, hempty]
  | loses response sent lost hw => simp [openQuestions, hw.owes]
  | takes call hw hcommands | obeys hw hcommands | hangsUp hw hcommands =>
    simp [openQuestions, hw, hcommands, CaptureWorker.owes]

/-- The worker passes the number of a call on as it is. -/
theorem Works.tagged {call : Nat} (h : Works s events s') (ht : Tagged call s) : Tagged call s' := by
  rcases h.inherits with ⟨hs, -⟩ | ⟨n, result, hw, -, rfl⟩
  · exact ⟨fun n hn => ht.asked n (hs.asked n hn),
      fun n result hn => ht.answered n result (hs.answered n result hn)⟩
  constructor
  · rintro m (hcommands | hcapturing)
    · exact ht.asked m (.inl hcommands)
    · cases hcapturing
  · rintro m answer (hanswering | hresponses)
    · cases hanswering
      exact ht.asked n (.inr hw)
    · exact ht.answered m answer (.inr hresponses)

theorem Works.unspawned_iff (h : Works s events s') :
    s'.worker = .unspawned ↔ s.worker = .unspawned := by
  cases h with
  | rests | waits | blocks => rfl
  | fails err hw => rcases hw with hw | hw | hw <;> simp [hw]
  | opens api hw => rcases hw with hw | hw <;> simp [hw]
  | sends response sent lost hw | loses response sent lost hw =>
    generalize s.worker = worker at hw
    cases hw <;> simp
  | initializes hw | turns hw | takes _ hw | obeys hw | hangsUp hw | captures _ _ hw
  | replies _ hw | ends _ hw => simp [hw]

theorem Orderly.works (hs : Orderly s) (h : Works s events s') : Orderly s' := by
  obtain ⟨howner, htx, -⟩ := h.frame
  refine ⟨h.openQuestions_le.trans hs.one, ?_, ?_, ?_, ?_⟩
  · intro ho hsender
    have hzero := hs.quiet (howner ▸ ho) (htx ▸ hsender)
    have hle := h.openQuestions_le
    omega
  · intro call ho
    exact h.tagged (hs.tagged call (howner ▸ ho))
  · rw [h.unspawned_iff, howner]
    exact hs.spawned
  · rw [howner, htx]
    exact hs.holds

/-- With no question open, nothing is on its way. -/
theorem openQuestions_eq_zero (h : openQuestions s = 0) :
    s.commands = none ∧ owes s.worker = 0 ∧ s.responses = none := by
  simp only [openQuestions, Nat.add_eq_zero_iff, waiting_eq_zero] at h
  exact ⟨h.1.1, h.1.2, h.2⟩

/-- What the owner does once there is a worker leaves the worker where it is. -/
private theorem Orderly.asked (hs : Orderly s) (hworker : s'.worker = s.worker)
    (ho : s.owner ≠ .spawning) (ho' : s'.owner ≠ .spawning) (hone : openQuestions s' ≤ 1)
    (hquiet : s'.owner = .idle → s'.commandTx = true → openQuestions s' = 0)
    (htagged : ∀ call, s'.owner = .awaitingFrame call → Tagged call s')
    (hholds : s'.owner.Holds s'.commandTx) : Orderly s' := by
  refine ⟨hone, hquiet, htagged, ?_, hholds⟩
  rw [hworker, hs.spawned]
  exact iff_of_false ho ho'

/-- With the response taken, nothing is on its way. -/
theorem Orderly.received (hs : Orderly s) {response : CaptureResponse}
    (hresponse : s.responses = some response) : s.commands = none ∧ owes s.worker = 0 := by
  have hone := hs.one
  rw [openQuestions, hresponse, waiting_some] at hone
  exact ⟨waiting_eq_zero.mp (by omega), by omega⟩

theorem Left.waiting_le {responses : Option CaptureResponse} (h : Left s responses) :
    waiting responses ≤ waiting s.responses := by
  rcases h with rfl | rfl
  · exact Nat.le_refl _
  · exact Nat.zero_le _

theorem Orderly.asks (hs : Orderly s) (h : Asks s events s') : Orderly s' := by
  have hone := hs.one
  cases h with
  | rests => exact hs
  | stoppedAlready => exact hs
  | spawns ho =>
    have hw := hs.spawned.mpr ho
    rw [openQuestions, hw] at hone
    exact ⟨hone, by simp, by simp, by simp, trivial⟩
  | spawnFails ho =>
    rw [openQuestions] at hone
    refine ⟨?_, by simp, by simp, by simp, rfl⟩
    simp only [openQuestions, owes]
    omega
  | starts ho api hresponse =>
    obtain ⟨hcommands, howes⟩ := hs.received hresponse
    refine hs.asked rfl (by simp [ho]) (by simp) ?_ (fun _ _ => ?_) (by simp) trivial
    · simp [openQuestions, hcommands, howes]
    · simp [openQuestions, hcommands, howes]
  | startFails ho => exact hs.asked rfl (by simp [ho]) (by simp) hone (by simp) (by simp) trivial
  | refuses ho err state commandTx htx =>
    exact hs.asked rfl (by simp [ho]) (by simp [ho]) hone (fun _ hsender => hs.quiet ho (htx hsender))
      (by simp [ho]) (by simp [ho, Owner.Holds])
  | asks ho htx =>
    obtain ⟨-, howes, hresponses⟩ := openQuestions_eq_zero (hs.quiet ho htx)
    refine hs.asked rfl (by simp [ho]) (by simp) ?_ (by simp) ?_ trivial
    · simp [openQuestions, howes, hresponses]
    · rintro call heq
      obtain rfl : s.calls = call := by simpa using heq
      constructor
      · rintro n (hcommands | hw)
        · simpa [eq_comm] using hcommands
        · change s.worker = _ at hw
          simp [hw, owes] at howes
      · rintro n result (hw | hresponse)
        · change s.worker = _ at hw
          simp [hw, owes] at howes
        · simp [hresponses] at hresponse
  | returns call tag result ho hresponse state =>
    obtain ⟨hcommands, howes⟩ := hs.received hresponse
    refine hs.asked rfl (by simp [ho]) (by simp) ?_ (fun _ _ => ?_) (by simp) trivial
    · simp [openQuestions, hcommands, howes]
    · simp [openQuestions, hcommands, howes]
  | abandons call ho err responses hleft state =>
    have hle := hleft.waiting_le
    refine hs.asked rfl (by simp [ho]) (by simp) ?_ (by simp) (by simp) trivial
    simp only [openQuestions] at hone ⊢
    omega
  | asksStop ho htx =>
    obtain ⟨-, howes, hresponses⟩ := openQuestions_eq_zero (hs.quiet ho htx)
    refine hs.asked rfl (by simp [ho]) (by simp) ?_ (by simp) (by simp) trivial
    simp [openQuestions, howes, hresponses]
  | endsRequest ho result responses hleft =>
    have hle := hleft.waiting_le
    have ho' : s.owner ≠ .spawning := by rcases ho with ho | ho <;> simp [ho]
    refine hs.asked rfl ho' (by simp) ?_ (by simp) (by simp) rfl
    simp only [openQuestions] at hone ⊢
    omega
  | joins reason result ho =>
    have htx : s.commandTx = false := by
      have hholds := hs.holds
      rwa [ho] at hholds
    exact hs.asked rfl (by simp [ho]) (by simp) hone (by simp [htx]) (by simp) trivial
  | drops ho commands hcommands =>
    refine hs.asked rfl (by simp [ho]) (by simp) ?_ (by simp) (by simp) trivial
    rcases hcommands with rfl | ⟨rfl, htx⟩
    · exact hone
    · obtain ⟨-, howes, hresponses⟩ := openQuestions_eq_zero (hs.quiet ho htx)
      simp [openQuestions, howes, hresponses]
  | releases ho => exact hs.asked rfl (by simp [ho]) (by simp) hone (by simp) (by simp) rfl

/-! ## The session -/

inductive Stage where
  | before
  | opened
  | ended
  deriving DecidableEq, Repr

/-- A worker that reports an error or has finished may never have had a session. -/
def Worker.stage : Worker → Stage
  | .unspawned | .initializing | .selecting | .selectingDxgi | .reporting _ => .before
  | .announcing _ | .listening | .capturing _ | .answering _ _ | .stopping _ => .opened
  | .replying _ | .finished => .ended

namespace Event

def isStart : Event → Bool
  | sessionStarted _ => true
  | _ => false

def isStop : Event → Bool
  | stopped _ => true
  | _ => false

/-- A call on the session, its stop included. -/
def isSessionCall : Event → Bool
  | captured _ _ | stopped _ => true
  | _ => false

/-- The session has no part in the event. -/
def aside (e : Event) : Prop := e.isStart = false ∧ e.isSessionCall = false ∧ e.isStop = false

end Event

/-- There is one session; it is called after its start, and not after its stop. -/
def SessionCall (past : List Event) (e : Event) : Prop :=
  (e.isStart = true → ∀ x ∈ past, x.isStart = false) ∧
    (e.isSessionCall = true →
      (∃ x ∈ past, x.isStart = true) ∧ ∀ x ∈ past, x.isStop = false)

structure Sessions (log : List Event) (stage : Stage) : Prop where
  calls : Along SessionCall log
  before : stage = .before → ∀ e ∈ log, e.aside
  opened : stage = .opened → (∃ e ∈ log, e.isStart = true) ∧ ∀ e ∈ log, e.isStop = false
  ended : stage = .ended → (∃ e ∈ log, e.isStart = true) → ∃ e ∈ log, e.isStop = true

/-- A worker comes to its end without a session only if it never had one. -/
def Silently (stage stage' : Stage) : Prop :=
  stage' = stage ∨ (stage = .before ∧ stage' = .ended)

theorem Sessions.silent {log : List Event} {stage stage' : Stage} (h : Sessions log stage)
    (hstage : Silently stage stage') (hevents : ∀ e ∈ events, e.aside) :
    Sessions (log ++ events) stage' := by
  have hcalls : Along SessionCall (log ++ events) := by
    refine along_append log events h.calls fun past e he => ⟨?_, ?_⟩
    · simp [(hevents e he).1]
    · simp [(hevents e he).2.1]
  have hold : ∀ e ∈ log ++ events, e.isStart = true → e ∈ log := by
    intro e hmem he
    rcases List.mem_append.mp hmem with hmem | hmem
    · exact hmem
    · simp [(hevents e hmem).1] at he
  rcases hstage with rfl | ⟨rfl, rfl⟩
  · refine ⟨hcalls, fun hb => List.forall_mem_append.mpr ⟨h.before hb, hevents⟩, fun hopened => ?_,
      fun hended => ?_⟩
    · obtain ⟨⟨e, hmem, he⟩, hstop⟩ := h.opened hopened
      exact ⟨⟨e, List.mem_append_left _ hmem, he⟩,
        List.forall_mem_append.mpr ⟨hstop, fun e he => (hevents e he).2.2⟩⟩
    · rintro ⟨e, hmem, he⟩
      obtain ⟨stop, hstop, hs⟩ := h.ended hended ⟨e, hold e hmem he, he⟩
      exact ⟨stop, List.mem_append_left _ hstop, hs⟩
  · refine ⟨hcalls, by simp, by simp, ?_⟩
    rintro - ⟨e, hmem, he⟩
    simp [(h.before rfl e (hold e hmem he)).1] at he

/-- A call on the open session, which may be its last. -/
theorem Sessions.call {log : List Event} (h : Sessions log .opened) {e : Event}
    (hstart : e.isStart = false) {stage : Stage}
    (hstage : (stage = .opened ∧ e.isStop = false) ∨ (stage = .ended ∧ e.isStop = true)) :
    Sessions (log ++ [e]) stage := by
  obtain ⟨⟨start, hmem, hs⟩, hstop⟩ := h.opened rfl
  have hcalls : Along SessionCall (log ++ [e]) :=
    (along_concat log e).mpr ⟨h.calls, by simp [hstart], fun _ => ⟨⟨start, hmem, hs⟩, hstop⟩⟩
  rcases hstage with ⟨rfl, he⟩ | ⟨rfl, he⟩
  · refine ⟨hcalls, by simp, fun _ => ⟨⟨start, List.mem_append_left _ hmem, hs⟩, ?_⟩, by simp⟩
    exact List.forall_mem_append.mpr ⟨hstop, by simpa using he⟩
  · exact ⟨hcalls, by simp, by simp, fun _ _ => ⟨e, by simp, he⟩⟩

theorem Sends.silently {worker sent lost : Worker} {response : CaptureResponse}
    (h : Sends worker response sent lost) :
    Silently worker.stage sent.stage ∧ Silently worker.stage lost.stage := by
  cases h with
  | report => exact ⟨.inr ⟨rfl, rfl⟩, .inr ⟨rfl, rfl⟩⟩
  | _ => exact ⟨.inl rfl, .inl rfl⟩

theorem Sessions.works {log : List Event} (h : Sessions log s.worker.stage)
    (hworks : Works s events s') : Sessions (log ++ events) s'.worker.stage := by
  have hsilent : ∀ worker : Worker, Silently s.worker.stage worker.stage →
      Sessions (log ++ []) worker.stage := fun worker hstage => h.silent hstage (by simp)
  cases hworks with
  | rests | waits | blocks => exact hsilent s.worker (.inl rfl)
  | initializes hw | turns hw | takes _ hw | obeys hw | hangsUp hw =>
    exact hsilent _ (.inl (by rw [hw]; rfl))
  | fails err hw => exact hsilent _ (.inl (by rcases hw with hw | hw | hw <;> rw [hw] <;> rfl))
  | sends response sent lost hw => exact hsilent sent hw.silently.1
  | loses response sent lost hw => exact hsilent lost hw.silently.2
  | opens api hw =>
    have hnone := h.before (by rcases hw with hw | hw <;> rw [hw] <;> rfl)
    have hcalls := (along_concat log (.sessionStarted api)).mpr
      ⟨h.calls, fun _ e he => (hnone e he).1, by simp [Event.isSessionCall]⟩
    refine ⟨hcalls, by simp [Worker.stage], fun _ => ⟨⟨.sessionStarted api, by simp, rfl⟩, ?_⟩,
      by simp [Worker.stage]⟩
    exact List.forall_mem_append.mpr ⟨fun e he => (hnone e he).2.2, by simp [Event.isStop]⟩
  | captures call result hw =>
    rw [hw] at h
    exact h.call rfl (.inl ⟨rfl, rfl⟩)
  | replies result hw =>
    rw [hw] at h
    exact h.call rfl (.inr ⟨rfl, rfl⟩)
  | ends result hw =>
    rw [hw] at h
    exact h.call rfl (.inr ⟨rfl, rfl⟩)

theorem Asks.aside (h : Asks s events s') : ∀ e ∈ events, e.aside := by
  cases h <;> simp [Event.aside, Event.isStart, Event.isSessionCall, Event.isStop]

theorem Asks.silently (h : Asks s events s') (hs : Orderly s) :
    Silently s.worker.stage s'.worker.stage := by
  cases h with
  | spawns ho =>
    rw [hs.spawned.mpr ho]
    exact .inl rfl
  | spawnFails ho =>
    rw [hs.spawned.mpr ho]
    exact .inr ⟨rfl, rfl⟩
  | _ => exact .inl rfl

/-- In the log of a session there is at most one stop. -/
theorem countP_isStop_le {log : List Event} (h : Along SessionCall log) :
    log.countP Event.isStop ≤ 1 := by
  induction log using List.reverseRecOn with
  | nil => simp
  | append_singleton log e ih =>
    obtain ⟨hlog, he⟩ := (along_concat log e).mp h
    rw [List.countP_append, List.countP_singleton]
    cases hstop : e.isStop with
    | false => simpa using ih hlog
    | true =>
      have hcall : e.isSessionCall = true := by cases e <;> simp_all [Event.isStop, Event.isSessionCall]
      have hnone : log.countP Event.isStop = 0 := by
        rw [List.countP_eq_zero]
        intro x hx
        simp [(he.2 hcall).2 x hx]
      simp [hnone]

/-! ## The worker comes to its end -/

def Worker.rank : Worker → Nat
  | .unspawned | .finished => 0
  | .reporting _ | .replying _ | .stopping false => 1
  | .stopping true => 2
  | .listening => 3
  | .announcing _ | .answering _ _ => 4
  | .capturing _ | .selectingDxgi => 5
  | .selecting => 6
  | .initializing => 7

/-- How many steps the worker has left; a frame that is still asked for costs it three. -/
def rank (s : State) : Nat :=
  match s.worker, s.commands with
  | .listening, some (.nextFrame _) => 6
  | worker, _ => worker.rank

theorem rank_le (s : State) : rank s ≤ 7 := by
  unfold rank
  split
  · omega
  · cases s.worker with
    | stopping asked => cases asked <;> simp [Worker.rank]
    | _ => simp [Worker.rank]

theorem rank_of_no_command (hcommands : s.commands = none) : rank s = s.worker.rank := by
  rw [rank, hcommands]
  cases s.worker <;> rfl

theorem rank_of_busy (hw : s.worker ≠ .listening) : rank s = s.worker.rank := by
  unfold rank
  split
  · exact absurd ‹_› hw
  · rfl

/-- The owner has dropped its sender. -/
structure Released (s : State) : Prop where
  orderly : Orderly s
  sender : s.commandTx = false

theorem Released.spawned (hs : Released s) : s.owner ≠ .spawning := by
  intro ho
  have hholds := hs.orderly.holds
  rw [ho, Owner.Holds, hs.sender] at hholds
  exact Bool.noConfusion hholds

theorem Released.works (hs : Released s) (h : Works s events s') : Released s' :=
  ⟨hs.orderly.works h, h.frame.2.1.trans hs.sender⟩

/-- Without its sender the owner does not touch the worker or its commands. -/
theorem Released.asks (hs : Released s) (h : Asks s events s') :
    Released s' ∧ s'.worker = s.worker ∧ s'.commands = s.commands := by
  have horderly := hs.orderly.asks h
  have hsender := hs.sender
  cases h with
  | spawns ho => exact absurd ho hs.spawned
  | spawnFails ho => exact absurd ho hs.spawned
  | asks ho htx => simp [hsender] at htx
  | asksStop ho htx => simp [hsender] at htx
  | refuses ho err state commandTx htx =>
    refine ⟨⟨horderly, ?_⟩, rfl, rfl⟩
    exact Bool.eq_false_iff.mpr fun hcommandTx => by simpa [hsender] using htx hcommandTx
  | drops ho commands hcommands =>
    refine ⟨⟨horderly, rfl⟩, rfl, ?_⟩
    rcases hcommands with hcommands | ⟨-, htx⟩
    · exact hcommands
    · simp [hsender] at htx
  | _ => first | exact ⟨⟨horderly, hsender⟩, rfl, rfl⟩ | exact ⟨⟨horderly, rfl⟩, rfl, rfl⟩

/-- As long as the worker owes a response, no command waits and the slot is empty. -/
theorem Orderly.free (hs : Orderly s) (howes : owes s.worker = 1) :
    s.commands = none ∧ s.responses = none := by
  have hone := hs.one
  rw [openQuestions, howes] at hone
  constructor
  · exact waiting_eq_zero.mp (by omega)
  · exact waiting_eq_zero.mp (by omega)

theorem Sends.not_listening {sent lost : Worker} {response : CaptureResponse} :
    ¬ Sends .listening response sent lost := by
  intro h
  cases h

theorem Sends.rank_lt {worker sent lost : Worker} {response : CaptureResponse}
    (h : Sends worker response sent lost) : sent.rank < worker.rank ∧ lost.rank < worker.rank := by
  cases h <;> simp [Worker.rank]

/-- Every step of the worker is progress. -/
theorem Released.rank_works (hs : Released s) (h : Works s events s') : rank s' ≤ rank s - 1 := by
  have hbusy : ∀ worker : Worker, s.worker ≠ .listening → owes s.worker = 1 →
      worker.rank < s.worker.rank → rank { s with worker := worker } ≤ rank s - 1 := by
    intro worker hw howes hlt
    have hcommands := (hs.orderly.free howes).1
    rw [rank_of_no_command (s := { s with worker := worker }) hcommands, rank_of_busy hw]
    exact Nat.le_sub_one_of_lt hlt
  cases h with
  | rests hw =>
    rcases hw with hw | hw <;> simp [rank_of_busy, hw, Worker.rank]
  | waits hw hcommands htx => simp [hs.sender] at htx
  | blocks response sent lost hw hfull => simp [(hs.orderly.free hw.owes.1).2] at hfull
  | initializes hw | turns hw | captures _ _ hw | replies _ hw =>
    exact hbusy _ (by simp [hw]) (by simp [hw, owes]) (by simp [hw, Worker.rank])
  | fails err hw =>
    rcases hw with hw | hw | hw <;>
      exact hbusy _ (by simp [hw]) (by simp [hw, owes]) (by simp [hw, Worker.rank])
  | opens api hw =>
    rcases hw with hw | hw <;>
      exact hbusy _ (by simp [hw]) (by simp [hw, owes]) (by simp [hw, Worker.rank])
  | ends result hw =>
    rw [rank_of_busy (by simp), rank_of_busy (by simp [hw]), hw]
    simp [Worker.rank]
  | loses response sent lost hw =>
    have hlistening : s.worker ≠ .listening := fun heq => Sends.not_listening (heq ▸ hw)
    exact hbusy lost hlistening hw.owes.1 hw.rank_lt.2
  | sends response sent lost hw =>
    have hlistening : s.worker ≠ .listening := fun heq => Sends.not_listening (heq ▸ hw)
    exact hbusy sent hlistening hw.owes.1 hw.rank_lt.1
  | takes _ hw hcommands | obeys hw hcommands | hangsUp hw hcommands =>
    simp [rank, hw, hcommands, Worker.rank]

theorem rank_congr (hworker : s'.worker = s.worker) (hcommands : s'.commands = s.commands) :
    rank s' = rank s := by
  rw [rank, hworker, hcommands, rank]

def Action.isWork : Action → Bool
  | .work _ => true
  | _ => false

theorem Released.step (config : CaptureConfig) (a : Action) (hs : Released s) :
    Released (step config s a).2 := by
  rcases step_cases config s a with h | h
  · exact hs.works h
  · exact (hs.asks h).1

theorem Released.rank_step (config : CaptureConfig) (a : Action) (hs : Released s) :
    rank (CaptureWorker.step config s a).2 ≤ rank s - if a.isWork then 1 else 0 := by
  cases a with
  | work replies => exact hs.rank_works (workerStep_works config s replies)
  | _ =>
    obtain ⟨-, hworker, hcommands⟩ := hs.asks (ownerStep_asks s _)
    exact (rank_congr hworker hcommands).le

/-- Once the owner has dropped its sender, seven steps of the worker bring it to its end, whatever
the owner does meanwhile. -/
theorem Released.finishes (config : CaptureConfig) (hs : Released s) (actions : List Action)
    (hwork : 7 ≤ actions.countP Action.isWork) :
    (after (CaptureWorker.step config) s actions).worker = .finished := by
  have hrank := after_rank_le rank Action.isWork (fun s a hs => Released.step config a hs)
    (fun s a hs => Released.rank_step config a hs) s actions hs
  have hend : Released (after (CaptureWorker.step config) s actions) :=
    after_always (fun s a hs => Released.step config a hs) s actions hs
  generalize after (CaptureWorker.step config) s actions = t at hrank hend
  have hzero : rank t = 0 := by
    have hle := rank_le s
    omega
  unfold rank at hzero
  split at hzero
  · omega
  · cases hw : t.worker with
    | unspawned => exact absurd (hend.orderly.spawned.mp hw) hend.spawned
    | finished => rfl
    | stopping asked => cases asked <;> simp [hw, Worker.rank] at hzero
    | _ => simp [hw, Worker.rank] at hzero

end CaptureWorker
