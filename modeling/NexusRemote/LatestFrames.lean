import NexusRemote.ClientDecoder
import NexusRemote.DepthOne
import NexusRemote.HostMedia

/-!
# The two latest-frame queues

The host keeps the newest captured frame in a `LatestFrameQueue`
(`crates/nexus-capture/src/latest_queue.rs`), the client the newest access unit
in a `RenderQueue` (`apps/nexus-client/src/renderer.rs`). Every method holds the
queue's mutex for its whole body, so what threads do to a queue is a sequence of
calls, in whatever order they got the mutex. No method panics while it holds the
mutex; a poisoned one is not modelled.
-/

namespace LatestFrames

open ClientDecoder ClientReceiver DepthOne Histories HostMedia Mealy

/-! ## The host's queue -/

section
variable {α : Type}

inductive Request (α : Type) where
  | replace (frame : α)
  | take

def serve (q : LatestFrameQueue α) : Request α → Option α × LatestFrameQueue α
  | .replace frame => (none, q.replace frame)
  | .take => q.take

/-- The queue takes every frame it is given. -/
def requestEvent : Request α × Option α → Event α
  | (.replace frame, _) => .accepted frame
  | (.take, answer) => .took answer

/-- What the calls on a new queue came to. -/
def requestLog (requests : List (Request α)) : List (Event α) :=
  (history serve LatestFrameQueue.new requests).map requestEvent

def queueAfter (requests : List (Request α)) : LatestFrameQueue α :=
  after serve LatestFrameQueue.new requests

/-- The counter of the host's queue wraps around. -/
structure QueueShows (q : LatestFrameQueue α) (c : Cell α) : Prop where
  slot : q.slot = c.slot
  dropped : q.dropped = UInt64.ofNat c.displaced
  discarded : c.discarded = 0
  closed : c.closed = false

theorem serve_simulates (q : LatestFrameQueue α) (c : Cell α) (request : Request α)
    (h : QueueShows q c) :
    ∃ c', c.Step (requestEvent (request, (serve q request).1)) c' ∧
      QueueShows (serve q request).2 c' := by
  cases request with
  | replace frame =>
    refine ⟨_, .accept c frame h.closed, rfl, ?_, h.discarded, h.closed⟩
    change (if q.slot.isSome then q.dropped + 1 else q.dropped) = _
    rw [h.slot, h.dropped]
    cases c.slot <;> simp [UInt64.ofNat_add]
  | take =>
    have htook : q.take.1 = c.slot := h.slot
    refine ⟨{ c with slot := none }, ?_, rfl, h.dropped, h.discarded, h.closed⟩
    rw [serve, htook]
    exact .take c

theorem requestLog_accounts (requests : List (Request α)) :
    ∃ c, QueueShows (queueAfter requests) c ∧ Accounts (requestLog requests) c :=
  accounts_of_simulation requestEvent serve_simulates _ ⟨rfl, rfl, rfl, rfl⟩ requests

end

/-! ## The client's queue -/

def saturatingAdd (a b : UInt64) : UInt64 := UInt64.ofNat (min (a.toNat + b.toNat) (2 ^ 64 - 1))

structure RenderQueueState where
  latest : Option DecodedFrameJob
  droppedFrames : UInt64
  shutdown : Bool

namespace RenderQueue

def new : RenderQueueState := ⟨none, 0, false⟩

def pushLatest (state : RenderQueueState) (frame : DecodedFrameJob) :
    Except RenderQueueError Unit × RenderQueueState :=
  match validateFrame frame with
  | .error err => (.error err, state)
  | .ok () =>
    if state.shutdown then (.error .shutdown, state)
    else
      (.ok (),
        { state with
          latest := some frame
          droppedFrames :=
            if state.latest.isSome then saturatingAdd state.droppedFrames 1
            else state.droppedFrames })

def takeLatest (state : RenderQueueState) : Option DecodedFrameJob × RenderQueueState :=
  (state.latest, { state with latest := none })

def clear (state : RenderQueueState) : RenderQueueState := { state with latest := none }

def shutdown (state : RenderQueueState) : RenderQueueState :=
  { state with shutdown := true, latest := none }

end RenderQueue

inductive RenderCall where
  | pushLatest (frame : DecodedFrameJob)
  | takeLatest
  | clear
  | shutdown

inductive RenderAnswer where
  | pushed (result : Except RenderQueueError Unit)
  | taken (frame : Option DecodedFrameJob)
  | done

def answer (state : RenderQueueState) : RenderCall → RenderAnswer × RenderQueueState
  | .pushLatest frame =>
    (.pushed (RenderQueue.pushLatest state frame).1, (RenderQueue.pushLatest state frame).2)
  | .takeLatest => (.taken (RenderQueue.takeLatest state).1, (RenderQueue.takeLatest state).2)
  | .clear => (.done, RenderQueue.clear state)
  | .shutdown => (.done, RenderQueue.shutdown state)

/-- A frame is accepted if its push succeeds. -/
def renderEvent : RenderCall × RenderAnswer → Event DecodedFrameJob
  | (.pushLatest frame, .pushed (.ok ())) => .accepted frame
  | (.takeLatest, .taken frame) => .took frame
  | (.clear, _) => .cleared
  | (.shutdown, _) => .closed
  | _ => .refused

def renderLog (calls : List RenderCall) : List (Event DecodedFrameJob) :=
  (history answer RenderQueue.new calls).map renderEvent

def renderQueueAfter (calls : List RenderCall) : RenderQueueState :=
  after answer RenderQueue.new calls

/-- The counter of the client's queue stops at its largest value. -/
structure RenderShows (state : RenderQueueState) (c : Cell DecodedFrameJob) : Prop where
  latest : state.latest = c.slot
  droppedFrames : state.droppedFrames = UInt64.ofNat (min c.displaced (2 ^ 64 - 1))
  shutdown : state.shutdown = c.closed

theorem saturatingAdd_one (n : Nat) :
    saturatingAdd (UInt64.ofNat (min n (2 ^ 64 - 1))) 1 =
      UInt64.ofNat (min (n + 1) (2 ^ 64 - 1)) := by
  have hn : (UInt64.ofNat (min n (2 ^ 64 - 1))).toNat = min n (2 ^ 64 - 1) :=
    UInt64.toNat_ofNat_of_lt' (by simp only [UInt64.size]; omega)
  rw [saturatingAdd, hn]
  congr 1
  change min (min n (2 ^ 64 - 1) + 1) (2 ^ 64 - 1) = _
  omega

theorem answer_simulates (state : RenderQueueState) (c : Cell DecodedFrameJob) (call : RenderCall)
    (h : RenderShows state c) :
    ∃ c', c.Step (renderEvent (call, (answer state call).1)) c' ∧
      RenderShows (answer state call).2 c' := by
  cases call with
  | pushLatest frame =>
    rw [answer, RenderQueue.pushLatest]
    cases validateFrame frame with
    | error err => exact ⟨c, .refuse c, h⟩
    | ok =>
      cases hshutdown : state.shutdown with
      | true => exact ⟨c, .refuse c, h⟩
      | false =>
        have hopen : false = c.closed := hshutdown.symm.trans h.shutdown
        refine ⟨_, .accept c frame hopen.symm, rfl, ?_, hopen⟩
        change (if state.latest.isSome then saturatingAdd state.droppedFrames 1
          else state.droppedFrames) = _
        rw [h.latest, h.droppedFrames]
        cases c.slot with
        | none => rfl
        | some waiting => exact saturatingAdd_one c.displaced
  | takeLatest =>
    have htook : (RenderQueue.takeLatest state).1 = c.slot := h.latest
    refine ⟨{ c with slot := none }, ?_, rfl, h.droppedFrames, h.shutdown⟩
    rw [answer, htook]
    exact .take c
  | clear => exact ⟨_, .clear c, rfl, h.droppedFrames, h.shutdown⟩
  | shutdown => exact ⟨_, .close c, rfl, h.droppedFrames, rfl⟩

theorem renderLog_accounts (calls : List RenderCall) :
    ∃ c, RenderShows (renderQueueAfter calls) c ∧ Accounts (renderLog calls) c :=
  accounts_of_simulation renderEvent answer_simulates _ ⟨rfl, rfl, rfl⟩ calls

/-! ## Conservation -/

/-- Every frame accepted was taken, was counted as dropped, waits or is one of the discarded. -/
def Balances {α : Type} (log : List (Event α)) (dropped : UInt64) (slot : Option α)
    (discarded : Nat) : Prop :=
  (acceptedOf log).length = (takenOf log).length + dropped.toNat + waiting slot + discarded

theorem requestLog_balances {α : Type} (requests : List (Request α))
    (hfits : (acceptedOf (requestLog requests)).length <
      (takenOf (requestLog requests)).length + waiting (queueAfter requests).slot + 2 ^ 64) :
    Balances (requestLog requests) (queueAfter requests).dropped (queueAfter requests).slot 0 := by
  obtain ⟨c, hshows, haccounts⟩ := requestLog_accounts requests
  have hbalance := haccounts.balance
  rw [hshows.slot] at hfits
  have hdisplaced : (UInt64.ofNat c.displaced).toNat = c.displaced :=
    UInt64.toNat_ofNat_of_lt' (by simp only [UInt64.size]; omega)
  rw [Balances, hshows.slot, hshows.dropped, hdisplaced, hbalance, hshows.discarded]

/-- What `clear` discards comes on top of the one frame that a shutdown may find. -/
theorem renderLog_balances (calls : List RenderCall)
    (hcounts : (renderQueueAfter calls).droppedFrames ≠ UInt64.ofNat (2 ^ 64 - 1)) :
    ∃ discarded, Balances (renderLog calls) (renderQueueAfter calls).droppedFrames
        (renderQueueAfter calls).latest discarded ∧
      discarded ≤ (renderLog calls).countP Event.isCleared +
        if (renderQueueAfter calls).shutdown then 1 else 0 := by
  obtain ⟨c, hshows, haccounts⟩ := renderLog_accounts calls
  have hfits : c.displaced < 2 ^ 64 - 1 := by
    by_contra hle
    rw [hshows.droppedFrames, min_eq_right (by omega)] at hcounts
    exact hcounts rfl
  have hdisplaced : (UInt64.ofNat (min c.displaced (2 ^ 64 - 1))).toNat = c.displaced := by
    rw [min_eq_left hfits.le]
    exact UInt64.toNat_ofNat_of_lt' (by simp only [UInt64.size]; omega)
  refine ⟨c.discarded, ?_, ?_⟩
  · rw [Balances, hshows.latest, hshows.droppedFrames, hdisplaced, haccounts.balance]
  · rw [hshows.shutdown]
    exact haccounts.discarded

/-- Only `clear` clears. -/
theorem renderLog_uncleared (calls : List RenderCall) (hclear : RenderCall.clear ∉ calls) :
    (renderLog calls).countP Event.isCleared = 0 := by
  rw [List.countP_eq_zero, renderLog, List.forall_mem_map]
  rintro ⟨call, result⟩ hmem
  have hcall : call ∈ calls := (List.of_mem_zip hmem).1
  cases call with
  | clear => exact absurd hcall hclear
  | takeLatest => cases result <;> simp [renderEvent, Event.isCleared]
  | shutdown => simp [renderEvent, Event.isCleared]
  | pushLatest frame =>
    rcases result with (_ | ⟨⟩) | _ | _ <;> simp [renderEvent, Event.isCleared]

theorem latest_frames_conserved :
    (∀ (α : Type) (requests : List (Request α)),
      let log := requestLog requests
      let q := queueAfter requests
      ((acceptedOf log).length < (takenOf log).length + waiting q.slot + 2 ^ 64 →
        Balances log q.dropped q.slot 0) ∧
      (takenOf log).Sublist (acceptedOf log) ∧ Along TakesNewest log) ∧
    ∀ calls : List RenderCall, RenderCall.clear ∉ calls →
      let log := renderLog calls
      let q := renderQueueAfter calls
      (q.droppedFrames ≠ UInt64.ofNat (2 ^ 64 - 1) →
        ∃ discarded, Balances log q.droppedFrames q.latest discarded ∧
          discarded ≤ if q.shutdown then 1 else 0) ∧
      (takenOf log).Sublist (acceptedOf log) ∧ Along TakesNewest log ∧
      Along QuietOnceClosed log := by
  constructor
  · intro α requests
    obtain ⟨c, -, haccounts⟩ := requestLog_accounts requests
    exact ⟨requestLog_balances requests, haccounts.taken_sublist, haccounts.takes⟩
  · intro calls hclear
    obtain ⟨c, -, haccounts⟩ := renderLog_accounts calls
    refine ⟨fun hcounts => ?_, haccounts.taken_sublist, haccounts.takes, haccounts.quiet⟩
    simpa only [renderLog_uncleared calls hclear, Nat.zero_add] using
      renderLog_balances calls hcounts

/-- A frame of one byte. -/
def byteFrame (frameId : UInt32) : DecodedFrameJob := ⟨frameId, 0, false, [0]⟩

/-- Of three frames accepted, one is displaced, one taken and one found by the shutdown. -/
def shutdownRun : List RenderCall :=
  [.pushLatest (byteFrame 1), .pushLatest (byteFrame 2), .takeLatest, .pushLatest (byteFrame 3),
    .shutdown, .pushLatest (byteFrame 4), .takeLatest]

theorem latest_frames_conserved_shutdownRun :
    acceptedOf (renderLog shutdownRun) = [byteFrame 1, byteFrame 2, byteFrame 3] ∧
    takenOf (renderLog shutdownRun) = [byteFrame 2] ∧
    (renderQueueAfter shutdownRun).droppedFrames = 1 ∧
    ∃ discarded, Balances (renderLog shutdownRun) (renderQueueAfter shutdownRun).droppedFrames
      (renderQueueAfter shutdownRun).latest discarded ∧
      discarded ≤ if (renderQueueAfter shutdownRun).shutdown then 1 else 0 :=
  ⟨rfl, rfl, rfl,
    (latest_frames_conserved.2 shutdownRun (by simp [shutdownRun])).1 (by decide)⟩

end LatestFrames
