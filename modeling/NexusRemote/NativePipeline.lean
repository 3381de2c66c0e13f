import NexusRemote.ClientDecoder
import NexusRemote.Histories

/-!
# The native pipeline of the client (`apps/nexus-client/src/runtime.rs`)

The owner thread submits jobs and resets the pipeline for a reconnect; the
worker thread takes the pending job, decodes it and presents the picture. They
share a slot for one job and a generation counter. An action is one atomic
step of a thread, so a run is a list of actions in any order; an action whose
thread is not at that point does nothing. Memory is sequentially consistent.

The decoder is its gate and the jobs it has been given since its last reset:
what the platform answers is part of the action, and a surface it returns may
show any of these jobs. `epoch`, `begun` and `returned` count the calls of
`reset_for_reconnect`; they are not in the source and no decision reads them.
-/

namespace NativePipeline

open ClientDecoder ClientReceiver Histories Mealy

structure PendingNativeJob where
  generation : UInt64
  job : DecodedFrameJob
  /-- The resets that had begun when the job was submitted. -/
  epoch : Nat
  deriving DecidableEq, Repr

def staleNativeJob (jobGeneration currentGeneration workerGeneration : UInt64) : Bool :=
  jobGeneration < currentGeneration || jobGeneration < workerGeneration

/-- A decoded picture, as far as it matters here: the job that it shows. -/
structure DecodedSurface where
  source : PendingNativeJob
  deriving DecidableEq, Repr

structure Decoder where
  gate : DecoderGate
  given : List PendingNativeJob
  deriving DecidableEq, Repr

namespace Decoder

def start : Decoder := ⟨DecoderGate.default, []⟩

/-- The platform fails, or it returns the picture of one of the jobs it was given, or none. -/
abbrev Reply := Except DecoderError (Option Nat)

def decode (d : Decoder) (p : PendingNativeJob) (reply : Reply) :
    Except DecoderError (Option DecodedSurface) × Decoder :=
  match d.gate.accept p.job with
  | (.error err, gate) => (.error err, { d with gate := gate })
  | (.ok (), gate) =>
    let given := p :: d.given
    (reply.map fun choice => (choice.bind fun i => given[i]?).map DecodedSurface.mk, ⟨gate, given⟩)

def reset (d : Decoder) : Decoder := ⟨d.gate.reset, []⟩

end Decoder

inductive Owner where
  | idle
  /-- In `submit`, the generation has been loaded. -/
  | submitting (p : PendingNativeJob)
  /-- In `reset_for_reconnect`, the generation has been advanced. -/
  | resetting
  deriving DecidableEq, Repr

inductive Worker where
  | waiting
  | taken (p : PendingNativeJob)
  | resetting (p : PendingNativeJob)
  | decoding (p : PendingNativeJob)
  | decoded (p : PendingNativeJob) (surface : DecodedSurface)
  /-- The generations were equal; `present` comes next. -/
  | presenting (surface : DecodedSurface)
  | finished
  deriving DecidableEq, Repr

structure Pipeline where
  pending : Option PendingNativeJob
  generation : UInt64
  stop : Bool
  errors : Option DecoderError
  owner : Owner
  worker : Worker
  workerGeneration : UInt64
  decoder : Decoder
  begun : Nat
  returned : Nat
  deriving DecidableEq, Repr

/-- A pipeline whose decoder and renderer have started. -/
def start : Pipeline := ⟨none, 0, false, none, .idle, .waiting, 0, Decoder.start, 0, 0⟩

inductive Event where
  | submitted (result : Except DecoderError Unit)
  | resetReturned
  | decoderReset (result : Except DecoderError Unit)
  | decode (generation : UInt64) (job : DecodedFrameJob) (passed : Bool)
  | present (surface : DecodedSurface)
  deriving DecidableEq, Repr

inductive Action where
  | submit (job : DecodedFrameJob)
  | store
  | resetForReconnect
  | clear
  | shutdown
  | take
  | check
  | resetDecoder (result : Except DecoderError Unit)
  | decode (reply : Decoder.Reply)
  | compare
  | present (result : Except DecoderError Unit)
  deriving DecidableEq, Repr

/-- The worker leaves its loop; the error channel holds one error and drops a second. -/
def fail (s : Pipeline) (err : DecoderError) : Pipeline :=
  { s with worker := .finished, errors := some (s.errors.getD err) }

def ownerStep (s : Pipeline) : Action → List Event × Pipeline
  | .submit job =>
    match s.owner, s.errors with
    | .idle, some err => ([.submitted (.error err)], { s with errors := none })
    | .idle, none =>
      if s.worker = .finished then ([.submitted (.error .backendLost)], s)
      else ([], { s with owner := .submitting ⟨s.generation, job, s.begun⟩ })
    | _, _ => ([], s)
  | .store =>
    match s.owner with
    | .submitting p => ([.submitted (.ok ())], { s with pending := some p, owner := .idle })
    | _ => ([], s)
  | .resetForReconnect =>
    match s.owner with
    | .idle =>
      ([], { s with generation := s.generation + 1, owner := .resetting, begun := s.begun + 1 })
    | _ => ([], s)
  | .clear =>
    match s.owner with
    | .resetting =>
      ([.resetReturned], { s with pending := none, owner := .idle, returned := s.returned + 1 })
    | _ => ([], s)
  | .shutdown =>
    match s.owner with
    | .idle => ([], { s with stop := true })
    | _ => ([], s)
  | _ => ([], s)

def workerStep (s : Pipeline) : Action → List Event × Pipeline
  | .take =>
    match s.worker with
    | .waiting =>
      if s.stop then ([], { s with worker := .finished })
      else
        match s.pending with
        | some p => ([], { s with pending := none, worker := .taken p })
        | none => ([], s)
    | _ => ([], s)
  | .check =>
    match s.worker with
    | .taken p =>
      if staleNativeJob p.generation s.generation s.workerGeneration then
        ([], { s with worker := .waiting })
      else if p.generation > s.workerGeneration then ([], { s with worker := .resetting p })
      else ([], { s with worker := .decoding p })
    | _ => ([], s)
  | .resetDecoder result =>
    match s.worker with
    | .resetting p =>
      let s' := { s with decoder := s.decoder.reset }
      ([.decoderReset result],
        match result with
        | .error err => fail s' err
        | .ok () => { s' with workerGeneration := p.generation, worker := .decoding p })
    | _ => ([], s)
  | .decode reply =>
    match s.worker with
    | .decoding p =>
      let answer := s.decoder.decode p reply
      let s' := { s with decoder := answer.2 }
      ([.decode p.generation p.job (s.decoder.gate.accept p.job).1.toBool],
        match answer.1 with
        | .ok (some surface) => { s' with worker := .decoded p surface }
        | .ok none => { s' with worker := .waiting }
        -- deltas are dropped until the host supplies a keyframe
        | .error .missingSequenceHeader => { s' with worker := .waiting }
        | .error err => fail s' err)
    | _ => ([], s)
  | .compare =>
    match s.worker with
    | .decoded p surface =>
      ([], { s with worker := if p.generation = s.generation then .presenting surface else .waiting })
    | _ => ([], s)
  | .present result =>
    match s.worker with
    | .presenting surface =>
      ([.present surface],
        match result with
        | .error err => fail s err
        | .ok () => { s with worker := .waiting })
    | _ => ([], s)
  | _ => ([], s)

def step (s : Pipeline) (a : Action) : List Event × Pipeline :=
  match a with
  | .submit _ | .store | .resetForReconnect | .clear | .shutdown => ownerStep s a
  | _ => workerStep s a

/-! ## What a step can do -/

inductive Moves (s : Pipeline) : Action → List Event → Pipeline → Prop where
  | stays (a : Action) (hclear : a = .clear → s.owner ≠ .resetting)
      (hcompare : a = .compare → ∀ p surface, s.worker ≠ .decoded p surface) : Moves s a [] s
  | refuses (job : DecodedFrameJob) (err : DecoderError) (errors : Option DecoderError) :
      Moves s (.submit job) [.submitted (.error err)] { s with errors := errors }
  | loads (job : DecodedFrameJob) (ho : s.owner = .idle) :
      Moves s (.submit job) [] { s with owner := .submitting ⟨s.generation, job, s.begun⟩ }
  | stores (p : PendingNativeJob) (ho : s.owner = .submitting p) :
      Moves s .store [.submitted (.ok ())] { s with pending := some p, owner := .idle }
  | advances (ho : s.owner = .idle) :
      Moves s .resetForReconnect []
        { s with generation := s.generation + 1, owner := .resetting, begun := s.begun + 1 }
  | clears (ho : s.owner = .resetting) :
      Moves s .clear [.resetReturned]
        { s with pending := none, owner := .idle, returned := s.returned + 1 }
  | stops : Moves s .shutdown [] { s with stop := true }
  | ends : Moves s .take [] { s with worker := .finished }
  | takes (p : PendingNativeJob) (hp : s.pending = some p) :
      Moves s .take [] { s with pending := none, worker := .taken p }
  | drops : Moves s .check [] { s with worker := .waiting }
  | renews (p : PendingNativeJob) (hw : s.worker = .taken p)
      (hg : s.workerGeneration < p.generation) : Moves s .check [] { s with worker := .resetting p }
  | continues (p : PendingNativeJob) (hw : s.worker = .taken p)
      (hg : p.generation = s.workerGeneration) : Moves s .check [] { s with worker := .decoding p }
  | loses (err : DecoderError) (errors : Option DecoderError) :
      Moves s (.resetDecoder (.error err)) [.decoderReset (.error err)]
        { s with decoder := s.decoder.reset, worker := .finished, errors := errors }
  | recovers (p : PendingNativeJob) (hw : s.worker = .resetting p) :
      Moves s (.resetDecoder (.ok ())) [.decoderReset (.ok ())]
        { s with
          decoder := s.decoder.reset, workerGeneration := p.generation, worker := .decoding p }
  | decodes (p : PendingNativeJob) (reply : Decoder.Reply) (hw : s.worker = .decoding p)
      (worker : Worker) (errors : Option DecoderError)
      (hworker : worker = .waiting ∨ worker = .finished ∨
        ∃ surface, worker = .decoded p surface ∧
          surface.source ∈ (s.decoder.decode p reply).2.given) :
      Moves s (.decode reply) [.decode p.generation p.job (s.decoder.gate.accept p.job).1.toBool]
        { s with decoder := (s.decoder.decode p reply).2, worker := worker, errors := errors }
  | agrees (p : PendingNativeJob) (surface : DecodedSurface) (hw : s.worker = .decoded p surface)
      (hg : p.generation = s.generation) :
      Moves s .compare [] { s with worker := .presenting surface }
  | differs (p : PendingNativeJob) (surface : DecodedSurface) (hw : s.worker = .decoded p surface)
      (hg : p.generation ≠ s.generation) : Moves s .compare [] { s with worker := .waiting }
  | presents (surface : DecodedSurface) (result : Except DecoderError Unit)
      (hw : s.worker = .presenting surface) (worker : Worker) (errors : Option DecoderError)
      (hworker : worker = .waiting ∨ worker = .finished) :
      Moves s (.present result) [.present surface] { s with worker := worker, errors := errors }

/-- A surface shows one of the jobs given to the decoder. -/
theorem decode_source (d : Decoder) (p : PendingNativeJob) (reply : Decoder.Reply)
    (surface : DecodedSurface) (h : (d.decode p reply).1 = .ok (some surface)) :
    surface.source ∈ (d.decode p reply).2.given := by
  rw [Decoder.decode] at h ⊢
  rcases haccept : d.gate.accept p.job with ⟨result, gate⟩
  rw [haccept] at h
  cases result with
  | error err => cases h
  | ok u =>
    cases reply with
    | error err => cases h
    | ok choice =>
      simp only [Except.map, Except.ok.injEq, Option.map_eq_some_iff, Option.bind_eq_some_iff] at h ⊢
      obtain ⟨source, ⟨i, -, hi⟩, rfl⟩ := h
      exact List.mem_of_getElem? hi

theorem Moves.idles {s : Pipeline} {a : Action} (hclear : a ≠ .clear) (hcompare : a ≠ .compare) :
    Moves s a [] s :=
  .stays a (fun h => absurd h hclear) (fun h => absurd h hcompare)

theorem ownerStep_moves (s : Pipeline) (a : Action) (ha : a ≠ .compare) :
    Moves s a (ownerStep s a).1 (ownerStep s a).2 := by
  cases a with
  | submit job =>
    rw [ownerStep]
    split
    · exact .refuses job _ none
    · rename_i ho _
      split
      · exact .refuses job .backendLost s.errors
      · exact .loads job ho
    · exact .idles (by simp) (by simp)
  | store =>
    rw [ownerStep]
    split
    · exact .stores _ ‹_›
    · exact .idles (by simp) (by simp)
  | resetForReconnect =>
    rw [ownerStep]
    split
    · exact .advances ‹_›
    · exact .idles (by simp) (by simp)
  | clear =>
    rw [ownerStep]
    split
    · exact .clears ‹_›
    · rename_i hother
      exact .stays _ (fun _ ho => hother ho) (by simp)
  | shutdown =>
    rw [ownerStep]
    split
    · exact .stops
    · exact .idles (by simp) (by simp)
  | compare => exact absurd rfl ha
  | _ => exact .idles (by simp) (by simp)

/-- A job that is not stale and does not begin a new generation is of the worker's own. -/
theorem generation_of_not_stale (job current worker : UInt64)
    (hstale : ¬staleNativeJob job current worker = true) (hnew : ¬job > worker) : job = worker := by
  simp only [staleNativeJob, Bool.or_eq_true, decide_eq_true_eq, not_or] at hstale
  exact UInt64.le_antisymm (UInt64.not_lt.mp hnew) (UInt64.not_lt.mp hstale.2)

theorem workerStep_moves (s : Pipeline) (a : Action) (ha : a ≠ .clear) :
    Moves s a (workerStep s a).1 (workerStep s a).2 := by
  cases a with
  | take =>
    rw [workerStep]
    split
    · split
      · exact .ends
      · split
        · exact .takes _ ‹_›
        · exact .idles (by simp) (by simp)
    · exact .idles (by simp) (by simp)
  | check =>
    rw [workerStep]
    split
    · rename_i p hw
      split
      · exact .drops
      · rename_i hstale
        split
        · exact .renews p hw ‹_›
        · exact .continues p hw (generation_of_not_stale _ _ _ hstale ‹_›)
    · exact .idles (by simp) (by simp)
  | resetDecoder result =>
    rw [workerStep]
    split
    · cases result with
      | error err => exact .loses err _
      | ok u => exact .recovers _ ‹_›
    · exact .idles (by simp) (by simp)
  | decode reply =>
    rw [workerStep]
    split
    · rename_i p hw
      dsimp only
      split
      · rename_i surface hanswer
        exact .decodes p reply hw _ s.errors
          (Or.inr (Or.inr ⟨surface, rfl, decode_source _ _ _ _ hanswer⟩))
      · exact .decodes p reply hw _ s.errors (Or.inl rfl)
      · exact .decodes p reply hw _ s.errors (Or.inl rfl)
      · exact .decodes p reply hw _ _ (Or.inr (Or.inl rfl))
    · exact .idles (by simp) (by simp)
  | compare =>
    rw [workerStep]
    split
    · rename_i p surface hw
      by_cases hg : p.generation = s.generation
      · rw [if_pos hg]
        exact .agrees p surface hw hg
      · rw [if_neg hg]
        exact .differs p surface hw hg
    · rename_i hother
      exact .stays _ (by simp) (fun _ p surface hw => hother p surface hw)
  | present result =>
    unfold workerStep
    dsimp only
    split
    · rename_i surface hw
      cases result with
      | error err => exact .presents surface _ hw _ _ (Or.inr rfl)
      | ok u => exact .presents surface _ hw _ s.errors (Or.inl rfl)
    · exact .idles (by simp) (by simp)
  | clear => exact absurd rfl ha
  | _ => exact .idles (by simp) (by simp)

theorem step_moves (s : Pipeline) (a : Action) : Moves s a (step s a).1 (step s a).2 := by
  cases a <;> first | exact ownerStep_moves s _ (by simp) | exact workerStep_moves s _ (by simp)

/-! ## Epochs of the decoder -/

/-- A call of `decoder.reset`. -/
def Event.isReset : Event → Bool
  | .decoderReset _ => true
  | _ => false

def Event.isDecode : Event → Bool
  | .decode _ _ _ => true
  | _ => false

/-- What a call of `decoder.decode` owes to the events before it: no generation comes back, the
generation is that of all calls since the last reset, and the first job of its generation to pass
the gate is a keyframe with a sequence header. -/
def InEpoch (past : List Event) (e : Event) : Prop :=
  ∀ g job passed, e = .decode g job passed →
    (∀ g' job' passed', Event.decode g' job' passed' ∈ past → g' ≤ g) ∧
    (∀ g' job' passed', Event.decode g' job' passed' ∈ since Event.isReset past → g' = g) ∧
    (passed = true → (∀ job', Event.decode g job' true ∉ past) →
      job.keyframe = true ∧ containsH264SequenceHeader job.accessUnit = true)

/-- The worker's generation and its gate, as the log tells them. -/
structure Continuity (log : List Event) (workerGeneration : UInt64) (gate : DecoderGate) : Prop where
  inEpoch : Along InEpoch log
  below : ∀ g job passed, Event.decode g job passed ∈ log → g ≤ workerGeneration
  recent : ∀ g job passed, Event.decode g job passed ∈ since Event.isReset log → g = workerGeneration
  opened : gate.initialized = true → ∃ job, Event.decode workerGeneration job true ∈ log

variable {log : List Event} {workerGeneration : UInt64} {gate : DecoderGate}

theorem Continuity.start : Continuity [] 0 DecoderGate.default where
  inEpoch := along_nil
  below := by simp
  recent := by simp
  opened := by simp [DecoderGate.default]

theorem inEpoch_of_not_decode (past : List Event) (e : Event) (he : e.isDecode = false) :
    InEpoch past e := by
  rintro g job passed rfl
  cases he

theorem Continuity.quiet (h : Continuity log workerGeneration gate) (e : Event)
    (hdecode : e.isDecode = false) (hreset : e.isReset = false) :
    Continuity (log ++ [e]) workerGeneration gate := by
  have hold (g job passed) (l : List Event) (hmem : Event.decode g job passed ∈ l ++ [e]) :
      Event.decode g job passed ∈ l := by
    rcases List.mem_append.mp hmem with hmem | hmem
    · exact hmem
    · obtain rfl := List.mem_singleton.mp hmem
      cases hdecode
  refine ⟨(along_concat _ _).mpr ⟨h.inEpoch, inEpoch_of_not_decode _ _ hdecode⟩, ?_, ?_, ?_⟩
  · intro g job passed hmem
    exact h.below g job passed (hold g job passed log hmem)
  · intro g job passed hmem
    rw [since_concat, hreset] at hmem
    exact h.recent g job passed (hold g job passed _ hmem)
  · intro hopen
    obtain ⟨job, hmem⟩ := h.opened hopen
    exact ⟨job, List.mem_append_left _ hmem⟩

/-- A reset closes the gate, and the worker's generation may grow. -/
theorem Continuity.reset (h : Continuity log workerGeneration gate)
    (result : Except DecoderError Unit) (g' : UInt64) (hg : workerGeneration ≤ g') :
    Continuity (log ++ [.decoderReset result]) g' gate.reset := by
  refine ⟨(along_concat _ _).mpr ⟨h.inEpoch, inEpoch_of_not_decode _ _ rfl⟩, ?_, ?_, ?_⟩
  · intro g job passed hmem
    have hmem : Event.decode g job passed ∈ log := by simpa using hmem
    exact UInt64.le_trans (h.below g job passed hmem) hg
  · intro g job passed hmem
    simp [Event.isReset] at hmem
  · intro hopen
    cases hopen

/-- A call of `decode` in the worker's own generation. -/
theorem Continuity.decode (h : Continuity log workerGeneration gate) (job : DecodedFrameJob) :
    Continuity (log ++ [.decode workerGeneration job (gate.accept job).1.toBool]) workerGeneration
      (gate.accept job).2 := by
  have hepoch : InEpoch log (.decode workerGeneration job (gate.accept job).1.toBool) := by
    rintro g job' passed heq
    cases heq
    refine ⟨h.below, h.recent, ?_⟩
    intro hpassed hfirst
    have hclosed : ¬gate.initialized = true := by
      intro hopen
      obtain ⟨job', hmem⟩ := h.opened hopen
      exact hfirst job' hmem
    rcases gate.accept_cases job with ⟨-, hopen, -⟩ | ⟨-, err, heq⟩
    · have hopens := hopen.resolve_left hclosed
      exact ⟨hopens.2.1, (containsH264SequenceHeader_iff _).mpr hopens.2.2⟩
    · rw [heq] at hpassed
      cases hpassed
  refine ⟨(along_concat _ _).mpr ⟨h.inEpoch, hepoch⟩, ?_, ?_, ?_⟩
  · intro g job' passed hmem
    rcases List.mem_append.mp hmem with hmem | hmem
    · exact h.below g job' passed hmem
    · cases List.mem_singleton.mp hmem
      exact UInt64.le_refl _
  · intro g job' passed hmem
    rw [since_concat] at hmem
    rcases List.mem_append.mp hmem with hmem | hmem
    · exact h.recent g job' passed hmem
    · cases List.mem_singleton.mp hmem
      rfl
  · intro hopen
    rcases gate.accept_cases job with ⟨-, -, heq⟩ | ⟨-, err, heq⟩
    · exact ⟨job, by simp [heq, Except.toBool]⟩
    · rw [heq] at hopen
      obtain ⟨job', hmem⟩ := h.opened hopen
      exact ⟨job', List.mem_append_left _ hmem⟩

/-- The worker decodes jobs of its own generation and resets for newer ones. -/
structure Working (s : Pipeline) : Prop where
  decoding : ∀ p, s.worker = .decoding p → p.generation = s.workerGeneration
  resetting : ∀ p, s.worker = .resetting p → s.workerGeneration < p.generation

theorem Decoder.decode_gate (d : Decoder) (p : PendingNativeJob) (reply : Reply) :
    (d.decode p reply).2.gate = (d.gate.accept p.job).2 := by
  rw [Decoder.decode]
  rcases d.gate.accept p.job with ⟨result, gate⟩
  cases result <;> rfl

theorem Moves.working {s s' : Pipeline} {a : Action} {events : List Event}
    (h : Moves s a events s') (hw : Working s) : Working s' := by
  cases h with
  | renews p hp hg => exact ⟨by simp, by simp [hg]⟩
  | continues p hp hg => exact ⟨by simp [hg], by simp⟩
  | recovers p hp => exact ⟨by simp, by simp⟩
  | decodes p reply hp worker errors hworker =>
    rcases hworker with rfl | rfl | ⟨surface, rfl, -⟩ <;> exact ⟨by simp, by simp⟩
  | presents surface result hp worker errors hworker =>
    rcases hworker with rfl | rfl <;> exact ⟨by simp, by simp⟩
  | _ => first | exact ⟨hw.decoding, hw.resetting⟩ | exact ⟨by simp, by simp⟩

theorem Moves.continuity {s s' : Pipeline} {a : Action} {events : List Event}
    (h : Moves s a events s') (hw : Working s)
    (hc : Continuity log s.workerGeneration s.decoder.gate) :
    Continuity (log ++ events) s'.workerGeneration s'.decoder.gate := by
  cases h with
  | loses err errors => exact hc.reset _ _ (UInt64.le_refl _)
  | recovers p hp => exact hc.reset _ _ (UInt64.le_of_lt (hw.resetting p hp))
  | decodes p reply hp worker errors hworker =>
    rw [hw.decoding p hp]
    simp only [Decoder.decode_gate]
    exact hc.decode p.job
  | refuses job err errors => exact hc.quiet _ rfl rfl
  | stores p ho => exact hc.quiet _ rfl rfl
  | clears ho => exact hc.quiet _ rfl rfl
  | presents surface result hp worker errors hworker => exact hc.quiet _ rfl rfl
  | _ => simpa using hc

theorem start_working : Working start := ⟨by simp [start], by simp [start]⟩

theorem continuity_run (actions : List Action) :
    Along InEpoch (trace step start actions).flatten := by
  have hrun := log_invariant
    (R := fun log s => Working s ∧ Continuity log s.workerGeneration s.decoder.gate)
    (fun log s a h => ⟨(step_moves s a).working h.1, (step_moves s a).continuity h.1 h.2⟩)
    start ⟨start_working, Continuity.start⟩ actions
  exact hrun.2.inEpoch

/-- In every interleaving the generations given to the decoder never go back, a reset of the
decoder lies between any two jobs of different generations, and the first job of a generation to
pass the gate is a keyframe with a sequence header. -/
theorem decoder_epochs (actions : List Action) (past : List Event) (g : UInt64)
    (job : DecodedFrameJob) (passed : Bool)
    (h : past ++ [.decode g job passed] <+: (trace step start actions).flatten) :
    (∀ g' job' passed', Event.decode g' job' passed' ∈ past → g' ≤ g) ∧
    (∀ earlier g' job' passed' between,
      past = earlier ++ [Event.decode g' job' passed'] ++ between → g' ≠ g →
        ∃ result, Event.decoderReset result ∈ between) ∧
    (passed = true → (∀ job', Event.decode g job' true ∉ past) →
      job.keyframe = true ∧ containsH264SequenceHeader job.accessUnit = true) := by
  obtain ⟨hbelow, hrecent, hfirst⟩ := continuity_run actions past _ h g job passed rfl
  refine ⟨hbelow, ?_, hfirst⟩
  rintro earlier g' job' passed' between rfl hne
  by_contra hnone
  apply hne
  apply hrecent g' job' passed'
  have hquiet : ∀ e ∈ between, Event.isReset e = false := by
    intro e he
    cases e with
    | decoderReset result => exact absurd ⟨result, he⟩ hnone
    | _ => rfl
  rw [since_append_of_none _ between hquiet, since_concat]
  exact List.mem_append_left _ (List.mem_append_right _ (List.mem_singleton_self _))

def keyJob : DecodedFrameJob := ⟨1, 0, true, [0, 0, 0, 1, 0x67, 0x64]⟩

/-- A keyframe is decoded, the pipeline is reset, and another one is decoded. -/
def reconnect : List Action :=
  [.submit keyJob, .store, .take, .check, .decode (.ok none), .resetForReconnect, .clear,
    .submit keyJob, .store, .take, .check, .resetDecoder (.ok ()), .decode (.ok none)]

theorem decoder_epochs_reconnect :
    ∃ result, Event.decoderReset result ∈
      [Event.resetReturned, .submitted (.ok ()), .decoderReset (.ok ())] :=
  (decoder_epochs reconnect
    [.submitted (.ok ()), .decode 0 keyJob true, .resetReturned, .submitted (.ok ()),
      .decoderReset (.ok ())] 1 keyJob true (by decide)).2.1
    [.submitted (.ok ())] 0 keyJob true _ rfl (by decide)

end NativePipeline
