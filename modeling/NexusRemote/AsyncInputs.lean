import NexusRemote.CreditFlow
import NexusRemote.HostMedia
import NexusRemote.Raster

/-!
# Inputs of an asynchronous transform (`platform/windows/src/codec.rs`)

A hardware encoder asks for input by events, each of which is one credit, and
announces its output by other events. `AsyncInputScheduler` hands out a queued
input against a credit. The worker alone calls it, so what happens to it is a
sequence of calls.
-/

namespace AsyncInputs

open CreditFlow Histories HostMedia Mealy

def maxAsyncInputCredits : Nat := 8
def maxPendingOutputEvents : Nat := 8

inductive AsyncPumpEvent where
  | needInput
  | haveOutput
  | drainComplete
  deriving DecidableEq, Repr

structure AsyncPump where
  inputCredits : Nat
  pendingOutputEvents : Nat
  drainComplete : Bool
  deriving DecidableEq, Repr

/-! ## The counters -/

/-- `level.checked_add(1).filter(|level| *level <= limit)` -/
def raised (limit level : Nat) : Option Nat :=
  (Raster.add level 1).filter fun level => level ≤ limit

namespace AsyncPump

def new : AsyncPump := ⟨0, 0, false⟩

def observe (pump : AsyncPump) : AsyncPumpEvent → Except CodecError Unit × AsyncPump
  | .needInput =>
    match raised maxAsyncInputCredits pump.inputCredits with
    | some credits => (.ok (), { pump with inputCredits := credits })
    | none => (.error .backendLost, pump)
  | .haveOutput =>
    match raised maxPendingOutputEvents pump.pendingOutputEvents with
    | some events => (.ok (), { pump with pendingOutputEvents := events })
    | none => (.error .backendLost, pump)
  | .drainComplete => (.ok (), { pump with drainComplete := true })

def takeInputCredit (pump : AsyncPump) : Bool × AsyncPump :=
  match Raster.sub pump.inputCredits 1 with
  | some credits => (true, { pump with inputCredits := credits })
  | none => (false, pump)

def takeOutputEvent (pump : AsyncPump) : Bool × AsyncPump :=
  match Raster.sub pump.pendingOutputEvents 1 with
  | some events => (true, { pump with pendingOutputEvents := events })
  | none => (false, pump)

def takeDrainComplete (pump : AsyncPump) : Bool × AsyncPump :=
  (pump.drainComplete, { pump with drainComplete := false })

end AsyncPump

structure AsyncInputScheduler (α : Type) where
  pump : AsyncPump
  queuedInputs : List α
  deriving DecidableEq, Repr

variable {α : Type}

namespace AsyncInputScheduler

def new : AsyncInputScheduler α := ⟨AsyncPump.new, []⟩

def observe (s : AsyncInputScheduler α) (event : AsyncPumpEvent) :
    Except CodecError Unit × AsyncInputScheduler α :=
  ((s.pump.observe event).1, { s with pump := (s.pump.observe event).2 })

def enqueue (s : AsyncInputScheduler α) (input : α) :
    Except CodecError Unit × AsyncInputScheduler α :=
  if s.queuedInputs.length = maxAsyncInputCredits then (.error .backendLost, s)
  else (.ok (), { s with queuedInputs := s.queuedInputs ++ [input] })

def takeReadyInput (s : AsyncInputScheduler α) : Option α × AsyncInputScheduler α :=
  if s.queuedInputs.isEmpty then (none, s)
  else
    match s.pump.takeInputCredit with
    | (false, pump) => (none, { s with pump := pump })
    | (true, pump) => (s.queuedInputs.head?, ⟨pump, s.queuedInputs.tail⟩)

def takeOutputEvent (s : AsyncInputScheduler α) : Bool × AsyncInputScheduler α :=
  (s.pump.takeOutputEvent.1, { s with pump := s.pump.takeOutputEvent.2 })

def takeDrainComplete (s : AsyncInputScheduler α) : Bool × AsyncInputScheduler α :=
  (s.pump.takeDrainComplete.1, { s with pump := s.pump.takeDrainComplete.2 })

end AsyncInputScheduler

inductive Call (α : Type) where
  | observe (event : AsyncPumpEvent)
  | enqueue (input : α)
  | takeReadyInput
  | takeOutputEvent
  | takeDrainComplete

inductive Answer (α : Type) where
  | result (result : Except CodecError Unit)
  | input (input : Option α)
  | flag (taken : Bool)

def serve (s : AsyncInputScheduler α) : Call α → Answer α × AsyncInputScheduler α
  | .observe event => (.result (s.observe event).1, (s.observe event).2)
  | .enqueue input => (.result (s.enqueue input).1, (s.enqueue input).2)
  | .takeReadyInput => (.input s.takeReadyInput.1, s.takeReadyInput.2)
  | .takeOutputEvent => (.flag s.takeOutputEvent.1, s.takeOutputEvent.2)
  | .takeDrainComplete => (.flag s.takeDrainComplete.1, s.takeDrainComplete.2)

/-! ## What a call can do -/

theorem raised_cases {limit : Nat} (hlimit : limit < 2 ^ 64) (level : Nat) :
    (level < limit ∧ raised limit level = some (level + 1)) ∨
      (limit ≤ level ∧ raised limit level = none) := by
  unfold raised Raster.add
  by_cases hlevel : level < limit
  · have hsize : level + 1 < 2 ^ 64 := by omega
    have hfits : level + 1 ≤ limit := hlevel
    left
    rw [if_pos hsize, Option.filter_some, if_pos (decide_eq_true hfits)]
    exact ⟨hlevel, rfl⟩
  · have hover : limit ≤ level := Nat.not_lt.mp hlevel
    right
    refine ⟨hover, ?_⟩
    split
    · simpa using hover
    · rfl

theorem sub_one_cases (level : Nat) :
    (level = 0 ∧ Raster.sub level 1 = none) ∨
      ∃ rest, level = rest + 1 ∧ Raster.sub level 1 = some rest := by
  cases level with
  | zero => exact .inl ⟨rfl, rfl⟩
  | succ rest =>
    right
    exact ⟨rest, rfl, by simp [Raster.sub]⟩

/-- There is no room for what the call brings. -/
def Full (s : AsyncInputScheduler α) : Call α → Prop
  | .observe .needInput => 8 ≤ s.pump.inputCredits
  | .observe .haveOutput => 8 ≤ s.pump.pendingOutputEvents
  | .enqueue _ => s.queuedInputs.length = 8
  | _ => False

/-- Everything that a call may answer and change. -/
inductive Serves (s : AsyncInputScheduler α) : Call α → Answer α → AsyncInputScheduler α → Prop where
  | grants (hroom : s.pump.inputCredits < 8) :
      Serves s (.observe .needInput) (.result (.ok ()))
        ⟨{ s.pump with inputCredits := s.pump.inputCredits + 1 }, s.queuedInputs⟩
  | announces (hroom : s.pump.pendingOutputEvents < 8) :
      Serves s (.observe .haveOutput) (.result (.ok ()))
        ⟨{ s.pump with pendingOutputEvents := s.pump.pendingOutputEvents + 1 }, s.queuedInputs⟩
  | drains :
      Serves s (.observe .drainComplete) (.result (.ok ()))
        ⟨{ s.pump with drainComplete := true }, s.queuedInputs⟩
  | queues (input : α) (hroom : s.queuedInputs.length ≠ 8) :
      Serves s (.enqueue input) (.result (.ok ())) ⟨s.pump, s.queuedInputs ++ [input]⟩
  | refuses (call : Call α) (hfull : Full s call) : Serves s call (.result (.error .backendLost)) s
  | releases (input : α) (rest : List α) (credits : Nat) (hqueue : s.queuedInputs = input :: rest)
      (hcredits : s.pump.inputCredits = credits + 1) :
      Serves s .takeReadyInput (.input (some input)) ⟨{ s.pump with inputCredits := credits }, rest⟩
  | withholds (hnone : s.queuedInputs = [] ∨ s.pump.inputCredits = 0) :
      Serves s .takeReadyInput (.input none) s
  | takesOutput (events : Nat) (hevents : s.pump.pendingOutputEvents = events + 1) :
      Serves s .takeOutputEvent (.flag true)
        ⟨{ s.pump with pendingOutputEvents := events }, s.queuedInputs⟩
  | noOutput (hevents : s.pump.pendingOutputEvents = 0) :
      Serves s .takeOutputEvent (.flag false) s
  | takesDrain :
      Serves s .takeDrainComplete (.flag s.pump.drainComplete)
        ⟨{ s.pump with drainComplete := false }, s.queuedInputs⟩

theorem observe_serves (s : AsyncInputScheduler α) (event : AsyncPumpEvent) :
    Serves s (.observe event) (.result (s.observe event).1) (s.observe event).2 := by
  unfold AsyncInputScheduler.observe AsyncPump.observe
  cases event with
  | needInput =>
    have hlimit : maxAsyncInputCredits < 2 ^ 64 := by decide
    rcases raised_cases hlimit s.pump.inputCredits with
      ⟨hroom, hraised⟩ | ⟨hfull, hraised⟩
    · simp only [hraised]
      exact .grants hroom
    · simp only [hraised]
      exact .refuses _ hfull
  | haveOutput =>
    have hlimit : maxPendingOutputEvents < 2 ^ 64 := by decide
    rcases raised_cases hlimit s.pump.pendingOutputEvents with
      ⟨hroom, hraised⟩ | ⟨hfull, hraised⟩
    · simp only [hraised]
      exact .announces hroom
    · simp only [hraised]
      exact .refuses _ hfull
  | drainComplete => exact .drains

theorem enqueue_serves (s : AsyncInputScheduler α) (input : α) :
    Serves s (.enqueue input) (.result (s.enqueue input).1) (s.enqueue input).2 := by
  unfold AsyncInputScheduler.enqueue
  split
  · rename_i hfull
    exact .refuses _ hfull
  · rename_i hroom
    exact .queues input hroom

theorem takeReadyInput_serves (s : AsyncInputScheduler α) :
    Serves s .takeReadyInput (.input s.takeReadyInput.1) s.takeReadyInput.2 := by
  obtain ⟨pump, queue⟩ := s
  unfold AsyncInputScheduler.takeReadyInput AsyncPump.takeInputCredit
  cases queue with
  | nil => exact .withholds (.inl rfl)
  | cons input rest =>
    rcases sub_one_cases pump.inputCredits with ⟨hnone, hsub⟩ | ⟨credits, hcredits, hsub⟩
    · simp only [hsub]
      exact .withholds (.inr hnone)
    · simp only [hsub]
      exact .releases input rest credits rfl hcredits

theorem takeOutputEvent_serves (s : AsyncInputScheduler α) :
    Serves s .takeOutputEvent (.flag s.takeOutputEvent.1) s.takeOutputEvent.2 := by
  unfold AsyncInputScheduler.takeOutputEvent AsyncPump.takeOutputEvent
  rcases sub_one_cases s.pump.pendingOutputEvents with ⟨hnone, hsub⟩ | ⟨events, hevents, hsub⟩
  · simp only [hsub]
    exact .noOutput hnone
  · simp only [hsub]
    exact .takesOutput events hevents

theorem serve_serves (s : AsyncInputScheduler α) (call : Call α) :
    Serves s call (serve s call).1 (serve s call).2 := by
  cases call with
  | observe event => exact observe_serves s event
  | enqueue input => exact enqueue_serves s input
  | takeReadyInput => exact takeReadyInput_serves s
  | takeOutputEvent => exact takeOutputEvent_serves s
  | takeDrainComplete => exact .takesDrain

/-- A call that fails changes nothing. -/
theorem Serves.unchanged_of_error {s s' : AsyncInputScheduler α} {call : Call α} {err : CodecError}
    (h : Serves s call (.result (.error err)) s') : s' = s := by
  cases h
  rfl

/-- An input is withheld only if there is none or no credit for it, and then nothing changes. -/
theorem Serves.withheld_iff {s s' : AsyncInputScheduler α} {input : Option α}
    (h : Serves s .takeReadyInput (.input input) s') :
    (input = none ↔ s.queuedInputs = [] ∨ s.pump.inputCredits = 0) ∧ (input = none → s' = s) := by
  cases h with
  | releases input rest credits hqueue hcredits => simp [hqueue, hcredits]
  | withholds hnone => simp [hnone]

/-! ## Runs -/

def schedulerAfter (calls : List (Call α)) : AsyncInputScheduler α :=
  after serve AsyncInputScheduler.new calls

def runOf (calls : List (Call α)) : List (Call α × Answer α) :=
  history serve AsyncInputScheduler.new calls

structure Bounded (s : AsyncInputScheduler α) : Prop where
  credits : s.pump.inputCredits ≤ 8
  outputs : s.pump.pendingOutputEvents ≤ 8
  inputs : s.queuedInputs.length ≤ 8

theorem Bounded.serve {s s' : AsyncInputScheduler α} {call : Call α} {answer : Answer α}
    (hs : Bounded s) (h : Serves s call answer s') : Bounded s' := by
  have hcredits := hs.credits
  have houtputs := hs.outputs
  have hinputs := hs.inputs
  cases h with
  | grants hroom => exact ⟨hroom, houtputs, hinputs⟩
  | announces hroom => exact ⟨hcredits, hroom, hinputs⟩
  | drains => exact ⟨hcredits, houtputs, hinputs⟩
  | takesDrain => exact ⟨hcredits, houtputs, hinputs⟩
  | refuses => exact hs
  | withholds => exact hs
  | noOutput => exact hs
  | queues input hroom =>
    refine ⟨hcredits, houtputs, ?_⟩
    rw [List.length_append, List.length_singleton]
    omega
  | releases input rest credits hqueue hcount =>
    rw [hqueue, List.length_cons] at hinputs
    exact ⟨by simp only; omega, houtputs, by simp only; omega⟩
  | takesOutput events hevents => exact ⟨hcredits, by simp only; omega, hinputs⟩

theorem bounded_run (calls : List (Call α)) : Bounded (schedulerAfter calls) :=
  after_always (fun s call hs => Bounded.serve hs (serve_serves s call)) _ calls
    ⟨Nat.zero_le _, Nat.zero_le _, Nat.zero_le _⟩

/-! ### Inputs and credits -/

/-- The part of a call in the flow of inputs against credits. -/
def flowEvent : Call α × Answer α → Event α
  | (.observe .needInput, .result (.ok ())) => .granted
  | (.enqueue input, .result (.ok ())) => .arrived input
  | (.takeReadyInput, .input (some input)) => .released input
  | _ => .idle

def flow (s : AsyncInputScheduler α) : Flow α := ⟨s.queuedInputs, s.pump.inputCredits⟩

theorem Serves.flows {s s' : AsyncInputScheduler α} {call : Call α} {answer : Answer α}
    (h : Serves s call answer s') : (flow s).Step (flowEvent (call, answer)) (flow s') := by
  cases h with
  | grants => exact .grant _
  | queues input => exact .arrive _ input
  | releases input rest credits hqueue hcredits =>
    rw [flow, hqueue, hcredits]
    exact .release input rest credits
  | refuses call hfull =>
    have hidle : flowEvent (call, .result (.error .backendLost)) = .idle := by
      unfold flowEvent
      split <;> simp_all
    rw [hidle]
    exact .idle _
  | _ => exact .idle _

theorem flow_run (calls : List (Call α)) :
    Accounts ((runOf calls).map flowEvent) (flow (schedulerAfter calls)) :=
  accounts_of_flow flowEvent flow (fun s call => (serve_serves s call).flows) _ rfl calls

/-! ## The accounts -/

/-- The scheduler hands out the inputs in their order, one for each credit that is gone; it holds
inputs back only for want of a credit, and what it refuses leaves no trace. -/
theorem credits_accounted (calls : List (Call α)) :
    let log := (runOf calls).map flowEvent
    let s := schedulerAfter calls
    arrivedOf log = releasedOf log ++ s.queuedInputs ∧
    grantsOf log = (releasedOf log).length + s.pump.inputCredits ∧
    s.pump.inputCredits ≤ 8 ∧ s.pump.pendingOutputEvents ≤ 8 ∧ s.queuedInputs.length ≤ 8 ∧
    (s.takeReadyInput.1 = none ↔ s.queuedInputs = [] ∨ s.pump.inputCredits = 0) ∧
    (s.takeReadyInput.1 = none → s.takeReadyInput.2 = s) ∧
    ∀ call err, (serve s call).1 = .result (.error err) → (serve s call).2 = s := by
  have haccounts := flow_run calls
  have hbounded := bounded_run calls
  obtain ⟨hwithheld, hunchanged⟩ := (takeReadyInput_serves (schedulerAfter calls)).withheld_iff
  refine ⟨haccounts.inOrder, haccounts.paid, hbounded.credits, hbounded.outputs, hbounded.inputs,
    hwithheld, hunchanged, ?_⟩
  intro call err hanswer
  have hserves := serve_serves (schedulerAfter calls) call
  rw [hanswer] at hserves
  exact hserves.unchanged_of_error

-- two credits for three inputs, and a take too many
example : releasedOf ((runOf [.observe .needInput, .enqueue 1, .enqueue 2, .takeReadyInput,
    .takeReadyInput, .enqueue 3, .observe .needInput, .takeReadyInput, .takeReadyInput]).map
      flowEvent) = [1, 2] :=
  rfl

end AsyncInputs
