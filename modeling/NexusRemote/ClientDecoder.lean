import NexusRemote.AnnexB
import NexusRemote.ClientReceiver

/-!
# The gate of the client's decoder (`apps/nexus-client/src/decoder.rs`)

A decoder that starts or recovers needs a keyframe with an H.264 sequence
header; once it has had one, every frame of an allowed size may pass. The size
check is that of the render queue (`apps/nexus-client/src/renderer.rs`).
-/

namespace ClientDecoder

open AnnexB BigEndian ClientReceiver Mealy

def maxRenderAccessUnitSize : Nat := VideoTransport.maxFramePayloadSize

inductive RenderQueueError where
  | emptyAccessUnit
  | accessUnitTooLarge (actual limit : Nat)
  | shutdown
  | stateUnavailable
  deriving DecidableEq, Repr

inductive DecoderError where
  | frame (err : RenderQueueError)
  | missingSequenceHeader
  | invalidDimensions
  | invalidSurface
  | backendUnavailable
  | backendLost
  deriving DecidableEq, Repr

def validateFrame (frame : DecodedFrameJob) : Except RenderQueueError Unit :=
  if frame.accessUnit.isEmpty then .error .emptyAccessUnit
  else if frame.accessUnit.length > maxRenderAccessUnitSize then
    .error (.accessUnitTooLarge frame.accessUnit.length maxRenderAccessUnitSize)
  else .ok ()

def containsH264SequenceHeader (accessUnit : Bytes) : Bool :=
  (windows 5 accessUnit).any (fun nal => nal == [0, 0, 0, 1, 0x67]) ||
    (windows 4 accessUnit).any (fun nal => nal == [0, 0, 1, 0x67])

structure DecoderGate where
  initialized : Bool
  deriving DecidableEq, Repr

namespace DecoderGate

/-- The gate of a new decoder. -/
def default : DecoderGate := ⟨false⟩

def accept (g : DecoderGate) (job : DecodedFrameJob) : Except DecoderError Unit × DecoderGate :=
  match validateFrame job with
  | .error err => (.error (.frame err), g)
  | .ok () =>
    if g.initialized then (.ok (), g)
    else if !job.keyframe || !containsH264SequenceHeader job.accessUnit then
      (.error .missingSequenceHeader, g)
    else (.ok (), ⟨true⟩)

def reset (_ : DecoderGate) : DecoderGate := ⟨false⟩

end DecoderGate

/-- The frame is of a size that the render queue takes. -/
def Fits (job : DecodedFrameJob) : Prop :=
  job.accessUnit ≠ [] ∧ job.accessUnit.length ≤ maxRenderAccessUnitSize

theorem validateFrame_ok_iff (job : DecodedFrameJob) : validateFrame job = .ok () ↔ Fits job := by
  rw [validateFrame, Fits]
  split
  case isTrue hempty => simp [List.isEmpty_iff.mp hempty]
  case isFalse hsome =>
    have hne : job.accessUnit ≠ [] := fun h => hsome (List.isEmpty_iff.mpr h)
    split <;> simp_all

/-- The longer pattern contains the shorter one, so only that one matters. -/
theorem containsH264SequenceHeader_iff (accessUnit : Bytes) :
    containsH264SequenceHeader accessUnit = true ↔ [0, 0, 1, 0x67] <:+: accessUnit := by
  have hfive := any_windows_iff [0, 0, 0, 1, 0x67] accessUnit
  have hfour := any_windows_iff [0, 0, 1, 0x67] accessUnit
  rw [containsH264SequenceHeader, Bool.or_eq_true]
  constructor
  · rintro (h | h)
    · exact (List.suffix_cons 0 [0, 0, 1, 0x67]).isInfix.trans (hfive.mp h)
    · exact hfour.mp h
  · intro h
    exact Or.inr (hfour.mpr h)

/-- What makes a closed gate open. -/
def Opens (job : DecodedFrameJob) : Prop :=
  Fits job ∧ job.keyframe = true ∧ [0, 0, 1, 0x67] <:+: job.accessUnit

namespace DecoderGate

/-- The two outcomes of the gate: a frame that passes leaves it open, a frame that does not
leaves it as it was. -/
theorem accept_cases (g : DecoderGate) (job : DecodedFrameJob) :
    (Fits job ∧ (g.initialized = true ∨ Opens job) ∧ g.accept job = (.ok (), ⟨true⟩)) ∨
      (¬(Fits job ∧ (g.initialized = true ∨ Opens job)) ∧ ∃ err, g.accept job = (.error err, g)) := by
  cases hv : validateFrame job with
  | error err =>
    have hfits : ¬Fits job := by
      simp [← validateFrame_ok_iff, hv]
    exact Or.inr ⟨fun h => hfits h.1, .frame err, by rw [accept, hv]⟩
  | ok u =>
    have hfits : Fits job := (validateFrame_ok_iff job).mp hv
    rcases g with ⟨initialized⟩
    cases initialized with
    | true => exact Or.inl ⟨hfits, Or.inl rfl, by rw [accept, hv]; rfl⟩
    | false =>
      by_cases hopens : Opens job
      · have hheader := (containsH264SequenceHeader_iff job.accessUnit).mpr hopens.2.2
        refine Or.inl ⟨hfits, Or.inr hopens, ?_⟩
        simp [accept, hv, hopens.2.1, hheader]
      · have hmissing : (!job.keyframe || !containsH264SequenceHeader job.accessUnit) = true := by
          by_contra hnot
          apply hopens
          simp only [Bool.not_eq_true, Bool.or_eq_false_iff, Bool.not_eq_false'] at hnot
          exact ⟨hfits, hnot.1, (containsH264SequenceHeader_iff _).mp hnot.2⟩
        refine Or.inr ⟨by simp [hopens], .missingSequenceHeader, ?_⟩
        simp only [accept, hv, Bool.false_eq_true, if_false, hmissing, if_true]

theorem accept_ok_iff (g : DecoderGate) (job : DecodedFrameJob) :
    (g.accept job).1 = .ok () ↔ Fits job ∧ (g.initialized = true ∨ Opens job) := by
  rcases accept_cases g job with ⟨hfits, hopen, heq⟩ | ⟨hnot, err, heq⟩
  · simp [heq, hfits, hopen]
  · simp [heq, hnot]

/-- A frame that opens the gate passes it in any state. -/
theorem accept_of_opens (g : DecoderGate) (job : DecodedFrameJob) (h : Opens job) :
    g.accept job = (.ok (), ⟨true⟩) := by
  rcases accept_cases g job with ⟨-, -, heq⟩ | ⟨hnot, -⟩
  · exact heq
  · exact absurd ⟨h.1, Or.inr h⟩ hnot

theorem closed_rejects (job : DecodedFrameJob) (h : ¬Opens job) :
    ∃ err, accept ⟨false⟩ job = (.error err, ⟨false⟩) := by
  rcases accept_cases ⟨false⟩ job with ⟨-, hopen, -⟩ | ⟨-, hreject⟩
  · exact absurd (hopen.resolve_left Bool.false_ne_true) h
  · exact hreject

/-- As long as no frame opens it, a closed gate stays closed. -/
theorem closed_after (jobs : List DecodedFrameJob) (h : ∀ job ∈ jobs, ¬Opens job) :
    after accept ⟨false⟩ jobs = ⟨false⟩ := by
  induction jobs with
  | nil => rfl
  | cons job jobs ih =>
    obtain ⟨hfirst, hrest⟩ := List.forall_mem_cons.mp h
    obtain ⟨err, heq⟩ := closed_rejects job hfirst
    rw [after_cons, heq]
    exact ih hrest

end DecoderGate

end ClientDecoder
