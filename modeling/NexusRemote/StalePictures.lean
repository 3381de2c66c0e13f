import NexusRemote.NativePipeline

/-!
# Pictures from before a reconnect

The worker compares the generation of its job with the shared one and then
presents the picture, without holding anything in between. A job of the epoch
`n` was submitted before the reset number `n + 1` began; so its picture is old
once more than `n` resets have returned. The stamps of all jobs in the
pipeline carry the argument: a generation is its epoch modulo 2^64.
-/

namespace StalePictures

open ClientDecoder ClientReceiver NativePipeline Mealy

def ownerJobs : Owner → List PendingNativeJob
  | .submitting p => [p]
  | _ => []

def workerJobs : Worker → List PendingNativeJob
  | .taken p => [p]
  | .resetting p => [p]
  | .decoding p => [p]
  | .decoded p surface => [p, surface.source]
  | .presenting surface => [surface.source]
  | _ => []

/-- All jobs in the pipeline, those inside the decoder included. -/
def jobs (s : Pipeline) : List PendingNativeJob :=
  s.pending.toList ++ ownerJobs s.owner ++ workerJobs s.worker ++ s.decoder.given

structure Stamped (s : Pipeline) : Prop where
  counts : s.begun = s.returned + if s.owner = .resetting then 1 else 0
  generation : s.generation = UInt64.ofNat s.begun
  stamps : ∀ p ∈ jobs s, p.generation = UInt64.ofNat p.epoch ∧ p.epoch ≤ s.returned
  given : ∀ p ∈ s.decoder.given, p.generation = s.workerGeneration
  decoded : ∀ p surface, s.worker = .decoded p surface →
    p.generation = s.workerGeneration ∧ surface.source ∈ s.decoder.given

theorem start_stamped : Stamped start where
  counts := rfl
  generation := rfl
  stamps := by simp [jobs, start, ownerJobs, workerJobs, Decoder.start]
  given := by simp [start, Decoder.start]
  decoded := by simp [start]

/-- What the decoder holds after a call: at most the new job in addition. -/
theorem mem_given (d : Decoder) (p q : PendingNativeJob) (reply : Decoder.Reply)
    (h : q ∈ (d.decode p reply).2.given) : q = p ∨ q ∈ d.given := by
  rw [Decoder.decode] at h
  rcases haccept : d.gate.accept p.job with ⟨result, gate⟩
  rw [haccept] at h
  cases result with
  | error err => exact Or.inr h
  | ok u => exact List.mem_cons.mp h

/-- A step of the worker: the counters and the owner stay, and the jobs were there before. -/
theorem Stamped.worker {s s' : Pipeline} (h : Stamped s) (hb : s'.begun = s.begun)
    (hr : s'.returned = s.returned) (hg : s'.generation = s.generation) (ho : s'.owner = s.owner)
    (hjobs : ∀ p ∈ jobs s', p ∈ jobs s)
    (hgiven : ∀ p ∈ s'.decoder.given, p.generation = s'.workerGeneration)
    (hdecoded : ∀ p surface, s'.worker = .decoded p surface →
      p.generation = s'.workerGeneration ∧ surface.source ∈ s'.decoder.given) : Stamped s' where
  counts := by rw [hb, hr, ho, h.counts]
  generation := by rw [hg, hb, h.generation]
  stamps := by
    intro p hp
    rw [hr]
    exact h.stamps p (hjobs p hp)
  given := hgiven
  decoded := hdecoded

/-- Only the worker moves on, with jobs that were there before. -/
theorem Stamped.withWorker {s : Pipeline} (h : Stamped s) (worker : Worker)
    (hjobs : ∀ p ∈ workerJobs worker, p ∈ jobs s)
    (hdecoded : ∀ p surface, worker ≠ .decoded p surface) :
    Stamped { s with worker := worker } := by
  refine h.worker rfl rfl rfl rfl ?_ h.given (fun p surface hw => absurd hw (hdecoded p surface))
  intro p hp
  simp only [jobs, List.mem_append] at hp
  rcases hp with ((hp | hp) | hp) | hp
  · simp [jobs, hp]
  · simp [jobs, hp]
  · exact hjobs p hp
  · simp [jobs, hp]

/-! ### The owner's steps -/

section
variable {s : Pipeline}

theorem Stamped.loads (h : Stamped s) (job : DecodedFrameJob) (ho : s.owner = .idle) :
    Stamped { s with owner := .submitting ⟨s.generation, job, s.begun⟩ } := by
  have hcounts : s.begun = s.returned := by simpa [ho] using h.counts
  refine ⟨by simpa using hcounts, h.generation, ?_, h.given, h.decoded⟩
  intro p hp
  simp only [jobs, ownerJobs, List.mem_append, List.mem_singleton] at hp
  rcases hp with ((hp | rfl) | hp) | hp
  · exact h.stamps p (by simp [jobs, hp])
  · exact ⟨h.generation, hcounts.le⟩
  · exact h.stamps p (by simp [jobs, hp])
  · exact h.stamps p (by simp [jobs, hp])

theorem Stamped.stores (h : Stamped s) (p : PendingNativeJob) (ho : s.owner = .submitting p) :
    Stamped { s with pending := some p, owner := .idle } := by
  refine ⟨by simpa [ho] using h.counts, h.generation, ?_, h.given, h.decoded⟩
  intro q hq
  apply h.stamps q
  simp only [jobs, ho, ownerJobs, Option.toList_some, List.mem_append, List.mem_singleton,
    List.append_nil] at hq ⊢
  tauto

theorem Stamped.advances (h : Stamped s) (ho : s.owner = .idle) :
    Stamped
      { s with generation := s.generation + 1, owner := .resetting, begun := s.begun + 1 } := by
  have hcounts : s.begun = s.returned := by simpa [ho] using h.counts
  refine ⟨by simp [hcounts], ?_, ?_, h.given, h.decoded⟩
  · rw [h.generation, UInt64.ofNat_add]
    rfl
  · intro p hp
    apply h.stamps p
    simpa [jobs, ownerJobs, ho] using hp

theorem Stamped.clears (h : Stamped s) (ho : s.owner = .resetting) :
    Stamped { s with pending := none, owner := .idle, returned := s.returned + 1 } := by
  have hcounts : s.begun = s.returned + 1 := by simpa [ho] using h.counts
  refine ⟨by simpa using hcounts, h.generation, ?_, h.given, h.decoded⟩
  intro p hp
  have hmem : p ∈ jobs s := by
    simp only [jobs, ownerJobs, Option.toList_none, List.nil_append, List.mem_append] at hp ⊢
    tauto
  exact ⟨(h.stamps p hmem).1, Nat.le_succ_of_le (h.stamps p hmem).2⟩

/-! ### The worker's steps -/

/-- The decoder takes in a job of the worker's generation, and may return a picture of it or of an
earlier one. -/
theorem Stamped.decodes (h : Stamped s) (p : PendingNativeJob) (reply : Decoder.Reply)
    (hp : s.worker = .decoding p) (hown : p.generation = s.workerGeneration) (worker : Worker)
    (errors : Option DecoderError)
    (hworker : worker = .waiting ∨ worker = .finished ∨
      ∃ surface, worker = .decoded p surface ∧ surface.source ∈ (s.decoder.decode p reply).2.given) :
    Stamped
      { s with decoder := (s.decoder.decode p reply).2, worker := worker, errors := errors } := by
  have hjob : p ∈ jobs s := by simp [jobs, hp, workerJobs]
  have hgiven : ∀ q ∈ (s.decoder.decode p reply).2.given,
      q.generation = s.workerGeneration ∧ q ∈ jobs s := by
    intro q hq
    rcases mem_given _ _ _ _ hq with rfl | hq
    · exact ⟨hown, hjob⟩
    · exact ⟨h.given q hq, by simp [jobs, hq]⟩
  refine h.worker rfl rfl rfl rfl ?_ (fun q hq => (hgiven q hq).1) ?_
  · intro q hq
    simp only [jobs, List.mem_append] at hq
    rcases hq with ((hq | hq) | hq) | hq
    · simp [jobs, hq]
    · simp [jobs, hq]
    · rcases hworker with rfl | rfl | ⟨surface, rfl, hsurface⟩
      · cases hq
      · cases hq
      · simp only [workerJobs, List.mem_cons, List.not_mem_nil, or_false] at hq
        rcases hq with rfl | rfl
        · exact hjob
        · exact (hgiven _ hsurface).2
    · exact (hgiven q hq).2
  · intro q surface hq
    rcases hworker with rfl | rfl | ⟨surface', rfl, hsurface⟩
    · cases hq
    · cases hq
    · cases hq
      exact ⟨hown, hsurface⟩

end

theorem stamped_moves {s s' : Pipeline} {a : Action} {events : List Event}
    (hmoves : Moves s a events s') (hw : Working s) (h : Stamped s) : Stamped s' := by
  cases hmoves with
  | stays a hclear hcompare => exact h
  | refuses job err errors => exact ⟨h.counts, h.generation, h.stamps, h.given, h.decoded⟩
  | stops => exact ⟨h.counts, h.generation, h.stamps, h.given, h.decoded⟩
  | loads job ho => exact h.loads job ho
  | stores p ho => exact h.stores p ho
  | advances ho => exact h.advances ho
  | clears ho => exact h.clears ho
  | ends => exact h.withWorker _ (by simp [workerJobs]) (by simp)
  | drops => exact h.withWorker _ (by simp [workerJobs]) (by simp)
  | renews p hp hg => exact h.withWorker _ (by simp [workerJobs, jobs, hp]) (by simp)
  | continues p hp hg => exact h.withWorker _ (by simp [workerJobs, jobs, hp]) (by simp)
  | agrees p surface hp hg => exact h.withWorker _ (by simp [workerJobs, jobs, hp]) (by simp)
  | differs p surface hp hg => exact h.withWorker _ (by simp [workerJobs]) (by simp)
  | takes p hp =>
    refine h.worker rfl rfl rfl rfl ?_ h.given (by simp)
    simp only [jobs, workerJobs, hp, Option.toList_none, Option.toList_some, List.mem_append,
      List.mem_singleton]
    tauto
  | loses err errors =>
    refine h.worker rfl rfl rfl rfl ?_ (by simp [Decoder.reset]) (by simp)
    simp only [jobs, workerJobs, Decoder.reset, List.mem_append]
    tauto
  | recovers p hp =>
    refine h.worker rfl rfl rfl rfl ?_ (by simp [Decoder.reset]) (by simp)
    simp only [jobs, workerJobs, hp, Decoder.reset, List.mem_append]
    tauto
  | decodes p reply hp worker errors hworker =>
    exact h.decodes p reply hp (hw.decoding p hp) worker errors hworker
  | presents surface result hp worker errors hworker =>
    have hnone : workerJobs worker = [] := by rcases hworker with rfl | rfl <;> rfl
    refine h.worker rfl rfl rfl rfl ?_ h.given (by rcases hworker with rfl | rfl <;> simp)
    intro q hq
    simp only [jobs, hnone, List.append_nil, List.mem_append] at hq ⊢
    tauto

/-- The worker is not about to present a picture from before a reset that has returned. -/
def NoOldPicture (s : Pipeline) : Prop :=
  ∀ surface, s.worker = .presenting surface → s.returned ≤ surface.source.epoch

/-- No reset returns between the comparison of the generations and `present`, and none of the
comparisons is made just when the counter has come round since the job was submitted. -/
def Timely (s : Pipeline) (a : Action) : Prop :=
  (a = .clear → s.owner = .resetting → ∀ surface, s.worker ≠ .presenting surface) ∧
    (a = .compare → ∀ p surface, s.worker = .decoded p surface →
      ∀ k, 0 < k → s.begun ≠ surface.source.epoch + k * 2 ^ 64)

theorem timely_of_ne (s : Pipeline) (a : Action) (hclear : a ≠ .clear) (hcompare : a ≠ .compare) :
    Timely s a :=
  ⟨fun h => absurd h hclear, fun h => absurd h hcompare⟩

theorem ofNat_eq_iff (m n : Nat) (h : m ≤ n) :
    UInt64.ofNat m = UInt64.ofNat n ↔ ∃ k, n = m + k * 2 ^ 64 := by
  rw [← UInt64.toNat_inj, UInt64.toNat_ofNat', UInt64.toNat_ofNat']
  constructor
  · intro heq
    exact ⟨n / 2 ^ 64 - m / 2 ^ 64, by omega⟩
  · rintro ⟨k, rfl⟩
    omega

/-- The generations agree exactly if as many resets as a multiple of 2^64 have begun since. -/
theorem Stamped.agrees_iff {s : Pipeline} (h : Stamped s) (p : PendingNativeJob)
    (surface : DecodedSurface) (hw : s.worker = .decoded p surface) :
    p.generation = s.generation ↔ ∃ k, s.begun = surface.source.epoch + k * 2 ^ 64 := by
  obtain ⟨hp, hgiven⟩ := h.decoded p surface hw
  obtain ⟨hstamp, hepoch⟩ := h.stamps surface.source (by simp [jobs, hgiven])
  have hcounts := h.counts
  rw [hp, ← h.given _ hgiven, hstamp, h.generation, ofNat_eq_iff]
  omega

theorem noOldPicture_iff {s s' : Pipeline} {a : Action} {events : List Event}
    (hmoves : Moves s a events s') (hs : Stamped s) (h : NoOldPicture s) :
    NoOldPicture s' ↔ Timely s a := by
  cases hmoves with
  | stays a hclear hcompare =>
    exact iff_of_true h ⟨fun ha ho => absurd ho (hclear ha),
      fun ha p surface hw => absurd hw (hcompare ha p surface)⟩
  | clears ho =>
    constructor
    · intro hno
      refine ⟨?_, by simp⟩
      intro _ _ surface hw
      have hlate : s.returned + 1 ≤ surface.source.epoch := hno surface hw
      have hstamp := (hs.stamps surface.source (by simp [jobs, hw, workerJobs])).2
      omega
    · intro htimely surface hw
      exact absurd hw (htimely.1 rfl ho surface)
  | agrees p surface hw hg =>
    obtain ⟨k, hk⟩ := (hs.agrees_iff p surface hw).mp hg
    have hcounts := hs.counts
    constructor
    · intro hno
      have hfresh : s.returned ≤ surface.source.epoch := hno surface rfl
      refine ⟨by simp, ?_⟩
      intro _ p' surface' hw' k' hk' hbegun
      obtain ⟨-, rfl⟩ : p = p' ∧ surface = surface' := by simpa [hw] using hw'
      split at hcounts <;> omega
    · intro htimely surface' hw'
      obtain rfl : surface = surface' := by simpa using hw'
      have hzero : k = 0 := by
        by_contra hpos
        exact htimely.2 rfl p surface hw k (by omega) hk
      subst hzero
      show s.returned ≤ surface.source.epoch
      omega
  | differs p surface hw hg =>
    refine iff_of_true (by simp [NoOldPicture]) ⟨by simp, ?_⟩
    intro _ p' surface' hw' k hk hbegun
    obtain ⟨rfl, rfl⟩ : p = p' ∧ surface = surface' := by simpa [hw] using hw'
    exact hg ((hs.agrees_iff p surface hw).mpr ⟨k, hbegun⟩)
  | decodes p reply hp worker errors hworker =>
    refine iff_of_true ?_ (timely_of_ne _ _ (by simp) (by simp))
    rcases hworker with rfl | rfl | ⟨surface, rfl, -⟩ <;> simp [NoOldPicture]
  | presents surface result hp worker errors hworker =>
    refine iff_of_true ?_ (timely_of_ne _ _ (by simp) (by simp))
    rcases hworker with rfl | rfl <;> simp [NoOldPicture]
  | _ =>
    refine iff_of_true ?_ (timely_of_ne _ _ (by simp) (by simp))
    first | exact h | simp [NoOldPicture]

theorem present_made {s s' : Pipeline} {a : Action} {events : List Event} (surface : DecodedSurface)
    (hmoves : Moves s a events s') (h : Event.present surface ∈ events) :
    s.worker = .presenting surface := by
  cases hmoves with
  | presents surface' result hw worker errors hworker =>
    obtain rfl : surface = surface' := by simpa using h
    exact hw
  | _ => simp at h

/-- In every interleaving: the worker is never about to present a picture from before a reset
that has returned, exactly if every step is timely; and then none is presented. -/
theorem old_pictures_iff (actions : List Action) :
    ((∀ ys, ys <+: actions → NoOldPicture (after step start ys)) ↔
      ∀ ys a, ys ++ [a] <+: actions → Timely (after step start ys) a) ∧
    ((∀ ys a, ys ++ [a] <+: actions → Timely (after step start ys) a) →
      ∀ ys a surface, ys ++ [a] <+: actions →
        Event.present surface ∈ (step (after step start ys) a).1 →
          (after step start ys).returned ≤ surface.source.epoch) := by
  have hiff := always_iff (P := NoOldPicture) (C := Timely)
    (fun s a (h : Working s ∧ Stamped s) =>
      ⟨(step_moves s a).working h.1, stamped_moves (step_moves s a) h.1 h.2⟩)
    (fun s a h hno => noOldPicture_iff (step_moves s a) h.2 hno) start actions
    ⟨start_working, start_stamped⟩ (by simp [NoOldPicture, start])
  refine ⟨hiff, ?_⟩
  intro htimely ys a surface hys hpresent
  exact hiff.mpr htimely ys ((List.prefix_append ys [a]).trans hys) surface
    (present_made surface (step_moves _ a) hpresent)

/-- The generations are equal, the pipeline is reset, and then the picture is presented. -/
def lateReset : List Action :=
  [.submit keyJob, .store, .take, .check, .decode (.ok (some 0)), .compare, .resetForReconnect,
    .clear]

theorem old_picture_presented :
    (step (after step start lateReset) (.present (.ok ()))).1 = [.present ⟨⟨0, keyJob, 0⟩⟩] ∧
      (after step start lateReset).returned = 1 := by
  decide

end StalePictures
