import NexusRemote.ClientDecoder
import NexusRemote.Histories
import NexusRemote.HostMedia

/-!
# When the software encoder sends keyframes

The encoder forces a keyframe after a configuration or a request, and sends one
at every multiple of its interval. Which of these applies is told by the
history of its calls. The keyframes it sends are those that open the gate of
the client's decoder.
-/

namespace KeyframeSchedule

open HostMedia HostMedia.VideoEncoder HostMedia.SoftwareFallbackEncoder ClientDecoder ClientReceiver
  Histories Mealy

/-! ## Events of a run -/

abbrev Event := Call × Answer

/-- An `encode` that returned a frame. -/
def Event.encoded : Event → Bool
  | (.encode _, .ok _) => true
  | _ => false

/-- A successful `configure`. -/
def Event.configured : Event → Bool
  | (.configure _, .ok _) => true
  | _ => false

/-- A successful `configure` or `reconfigure`. -/
def Event.setUp : Event → Bool
  | (.configure _, .ok _) => true
  | (.reconfigure _, .ok _) => true
  | _ => false

def Event.requested : Event → Bool
  | (.requestKeyframe, _) => true
  | _ => false

/-- The next frame would be the first since the last configuration or since the last request. -/
def Fresh (h : List Event) : Prop :=
  QuietSince Event.encoded Event.setUp h ∨ QuietSince Event.encoded Event.requested h

/-- The frames since the last `configure`. -/
def earlier (h : List Event) : Nat := countSince Event.encoded Event.configured h

/-- What the state of an encoder says about its history. -/
structure Schedule (interval : UInt32) (h : List Event) (e : SoftwareFallbackEncoder) : Prop where
  interval : e.keyframeInterval = interval
  force : e.forceKeyframe = true ↔ Fresh h
  count : e.frameCount = UInt64.ofNat (earlier h)

theorem new_schedule (interval : UInt32) : Schedule interval [] (withKeyframeInterval interval) where
  interval := rfl
  force := by simp [withKeyframeInterval, Fresh]
  count := by simp [withKeyframeInterval, earlier]

/-- A call that fails is no event of any kind. -/
theorem failed_quiet (x : Call) (err : CodecError) (hx : x ≠ .requestKeyframe) :
    Event.encoded (x, .error err) = false ∧ Event.configured (x, .error err) = false ∧
      Event.setUp (x, .error err) = false ∧ Event.requested (x, .error err) = false := by
  cases x with
  | requestKeyframe => exact absurd rfl hx
  | configure config => exact ⟨rfl, rfl, rfl, rfl⟩
  | reconfigure config => exact ⟨rfl, rfl, rfl, rfl⟩
  | encode frame => exact ⟨rfl, rfl, rfl, rfl⟩

theorem Schedule.failed {interval : UInt32} {h : List Event} {e : SoftwareFallbackEncoder}
    (hs : Schedule interval h e) (x : Call) (err : CodecError) (hx : x ≠ .requestKeyframe) :
    Schedule interval (h ++ [(x, .error err)]) e := by
  obtain ⟨hencoded, hconfigured, hsetUp, hrequested⟩ := failed_quiet x err hx
  refine ⟨hs.interval, ?_, ?_⟩
  · rw [hs.force]
    simp [Fresh, hencoded, hsetUp, hrequested]
  · rw [hs.count]
    simp [earlier, hencoded, hconfigured]

theorem step_schedule (interval : UInt32) (h : List Event) (e : SoftwareFallbackEncoder) (x : Call)
    (hs : Schedule interval h e) :
    Schedule interval (h ++ [(x, (step e x).1)]) (step e x).2 := by
  cases x with
  | configure config =>
    rw [step_configure, SoftwareFallbackEncoder.configure]
    cases config.validate with
    | error err => exact hs.failed _ err (by simp)
    | ok validated =>
      exact ⟨hs.interval, by simp [Fresh, Event.setUp, Except.map],
        by simp [earlier, Event.configured, Except.map]⟩
  | reconfigure config =>
    rw [step_reconfigure, SoftwareFallbackEncoder.reconfigure]
    cases config.validate with
    | error err => exact hs.failed _ err (by simp)
    | ok validated =>
      refine ⟨hs.interval, by simp [Fresh, Event.setUp, Except.map], ?_⟩
      rw [hs.count]
      simp [earlier, Event.configured, Event.encoded, Except.map]
  | requestKeyframe =>
    rw [step_requestKeyframe]
    refine ⟨hs.interval, by simp [SoftwareFallbackEncoder.requestKeyframe, Fresh, Event.requested], ?_⟩
    rw [SoftwareFallbackEncoder.requestKeyframe, hs.count]
    simp [earlier, Event.configured, Event.encoded]
  | encode frame =>
    rw [step_encode, SoftwareFallbackEncoder.encode]
    cases e.config with
    | none => exact hs.failed _ .notConfigured (by simp)
    | some config =>
      simp only
      split
      · exact hs.failed _ .frameDimensionsMismatch (by simp)
      · refine ⟨hs.interval, ?_, ?_⟩
        · simp [Fresh, Event.setUp, Event.requested, Event.encoded, Except.map]
        · rw [hs.count]
          simp [earlier, Event.configured, Event.encoded, Except.map, UInt64.ofNat_add]

theorem run_schedule (interval : UInt32) (calls : List Call) :
    Schedule interval (history step (withKeyframeInterval interval) calls)
      (after step (withKeyframeInterval interval) calls) :=
  history_invariant (step_schedule interval) _ (new_schedule interval) calls

/-- The frame counter is a multiple of the interval. -/
theorem count_multiple_iff (interval : UInt32) (n : Nat) :
    (UInt64.ofNat n % interval.toUInt64 == 0) = true ↔ interval.toNat ∣ n % 2 ^ 64 := by
  rw [beq_iff_eq, ← UInt64.toNat_inj, UInt64.toNat_mod, Nat.dvd_iff_mod_eq_zero]
  simp

/-- What an `encode` that succeeds returns. -/
theorem encode_ok (e : SoftwareFallbackEncoder) (frame : CapturedFrame) (encoded : EncodedFrame)
    (h : (e.encode frame).1 = .ok encoded) :
    ∃ config, encoded.keyframe = (e.forceKeyframe ||
        (decide (e.keyframeInterval > 0) && e.frameCount % e.keyframeInterval.toUInt64 == 0)) ∧
      encoded.data = buildAnnexBPayload config encoded.keyframe frame.data := by
  rw [SoftwareFallbackEncoder.encode] at h
  cases hc : e.config with
  | none => simp [hc] at h
  | some config =>
    simp only [hc] at h
    split at h
    · cases h
    · cases h
      exact ⟨config, rfl, rfl⟩

/-- A frame is a keyframe if it is the first since a configuration or request, or if its number
is a multiple of the interval, as far as the counter reaches. -/
theorem Schedule.keyframe_iff {interval : UInt32} {h : List Event} {e : SoftwareFallbackEncoder}
    (hs : Schedule interval h e) (frame : CapturedFrame) (encoded : EncodedFrame)
    (henc : (e.encode frame).1 = .ok encoded) :
    encoded.keyframe = true ↔
      Fresh h ∨ (0 < interval ∧ interval.toNat ∣ earlier h % 2 ^ 64) := by
  obtain ⟨config, hkey, -⟩ := encode_ok e frame encoded henc
  rw [hkey, hs.interval, hs.count, Bool.or_eq_true, hs.force, Bool.and_eq_true, decide_eq_true_eq,
    count_multiple_iff]

/-- A call that fails leaves the encoder as it was. -/
theorem step_error (e : SoftwareFallbackEncoder) (x : Call) (err : CodecError)
    (h : (step e x).1 = .error err) : (step e x).2 = e := by
  cases x with
  | requestKeyframe => cases h
  | configure config =>
    rw [step_configure, SoftwareFallbackEncoder.configure] at h ⊢
    cases hv : config.validate with
    | error err => rfl
    | ok validated => simp [hv, Except.map] at h
  | reconfigure config =>
    rw [step_reconfigure, SoftwareFallbackEncoder.reconfigure] at h ⊢
    cases hv : config.validate with
    | error err => rfl
    | ok validated => simp [hv, Except.map] at h
  | encode frame =>
    rw [step_encode, SoftwareFallbackEncoder.encode] at h ⊢
    cases hc : e.config with
    | none => rfl
    | some config =>
      simp only [hc] at h ⊢
      by_cases hdim : frame.width ≠ config.width ∨ frame.height ≠ config.height
      · rw [if_pos hdim]
      · rw [if_neg hdim] at h
        cases h

/-- A keyframe of the encoder starts with what the gate looks for. -/
theorem keyframe_header (config : EncoderConfig) (frameData : BigEndian.Bytes) :
    [0, 0, 1, 0x67] <:+: buildAnnexBPayload config true frameData := by
  refine ⟨[0], BigEndian.toBytes 4 config.width.toNat ++ (BigEndian.toBytes 4 config.height.toNat ++
    (BigEndian.toBytes 4 config.maxFps.toNat ++ (nalStartCode ++ ([nalTypePps, 0x01] ++
      (nalStartCode ++ ([nalTypeIdr] ++ frameData)))))), ?_⟩
  simp [buildAnnexBPayload, nalStartCode, nalTypeSps]

theorem keyframe_opens (e : SoftwareFallbackEncoder) (frame : CapturedFrame)
    (encoded : EncodedFrame) (henc : (e.encode frame).1 = .ok encoded)
    (hkey : encoded.keyframe = true) (hsize : encoded.data.length ≤ maxRenderAccessUnitSize)
    (job : DecodedFrameJob) (hjob : job.keyframe = true) (hunit : job.accessUnit = encoded.data) :
    Opens job := by
  obtain ⟨config, -, hdata⟩ := encode_ok e frame encoded henc
  have hheader : [0, 0, 1, 0x67] <:+: job.accessUnit := by
    rw [hunit, hdata, hkey]
    exact keyframe_header config frame.data
  have hne : job.accessUnit ≠ [] := by
    intro hnil
    rw [hnil] at hheader
    exact absurd hheader.length_le (by simp)
  exact ⟨⟨hne, hunit ▸ hsize⟩, hjob, hheader⟩

/-- In every run a frame is a keyframe exactly when the schedule says so, a failed call changes
nothing, a keyframe of an allowed size opens the gate of the client in any state, and from a
reset of the gate on every other frame is turned away until one has come. -/
theorem schedule_opens_decoder (interval : UInt32) (calls : List Call) :
    (∀ frame encoded,
      ((after step (withKeyframeInterval interval) calls).encode frame).1 = .ok encoded →
        (encoded.keyframe = true ↔
          Fresh (history step (withKeyframeInterval interval) calls) ∨
            (0 < interval ∧ interval.toNat ∣
              earlier (history step (withKeyframeInterval interval) calls) % 2 ^ 64))) ∧
      (∀ call err, (step (after step (withKeyframeInterval interval) calls) call).1 = .error err →
        (step (after step (withKeyframeInterval interval) calls) call).2 =
          after step (withKeyframeInterval interval) calls) ∧
      (∀ frame encoded,
        ((after step (withKeyframeInterval interval) calls).encode frame).1 = .ok encoded →
        encoded.keyframe = true → encoded.data.length ≤ maxRenderAccessUnitSize →
        ∀ (gate : DecoderGate) (job : DecodedFrameJob), job.keyframe = true →
          job.accessUnit = encoded.data → gate.accept job = (.ok (), ⟨true⟩)) ∧
      ∀ (gate : DecoderGate) (jobs : List DecodedFrameJob) (job : DecodedFrameJob),
        (∀ past ∈ jobs, past.keyframe = true →
          maxRenderAccessUnitSize < past.accessUnit.length) →
        job.keyframe = false →
        ∃ err, (after DecoderGate.accept gate.reset jobs).accept job = (.error err, ⟨false⟩) := by
  refine ⟨?_, ?_, ?_, ?_⟩
  · intro frame encoded henc
    exact (run_schedule interval calls).keyframe_iff frame encoded henc
  · intro call err herr
    exact step_error _ call err herr
  · intro frame encoded henc hkey hsize gate job hjob hunit
    exact gate.accept_of_opens job (keyframe_opens _ frame encoded henc hkey hsize job hjob hunit)
  · intro gate jobs job hpast hjob
    have hclosed : ∀ past ∈ jobs, ¬Opens past := by
      intro past hmem hopens
      have hlarge := hpast past hmem hopens.2.1
      exact absurd hopens.1.2 (by omega)
    rw [DecoderGate.reset, DecoderGate.closed_after jobs hclosed]
    exact DecoderGate.closed_rejects job fun hopens =>
      Bool.false_ne_true (hjob.symm.trans hopens.2.1)

/-! ## Where the counter ends -/

theorem Event.encoded_only (e : Event) (h : e.encoded = true) :
    e.configured = false ∧ e.setUp = false ∧ e.requested = false := by
  rcases e with ⟨call, answer⟩
  cases call <;> cases answer <;> first | exact ⟨rfl, rfl, rfl⟩ | cases h

/-- Frames of the configured dimensions are encoded one after the other. -/
theorem encode_many (config : EncoderConfig) (frame : CapturedFrame)
    (hw : frame.width = config.width) (hh : frame.height = config.height) (n : Nat)
    (e : SoftwareFallbackEncoder) (hc : e.config = some config) :
    (after step e (List.replicate n (.encode frame))).config = some config ∧
      (history step e (List.replicate n (.encode frame))).length = n ∧
      ∀ event ∈ history step e (List.replicate n (.encode frame)),
        Event.encoded event = true := by
  induction n generalizing e with
  | zero => simp [hc]
  | succ n ih =>
    obtain ⟨encoded, hok, -, -, hnext⟩ := encode_configured e config frame hc hw hh
    obtain ⟨hend, hlength, hall⟩ := ih (step e (.encode frame)).2 hnext
    refine ⟨hend, ?_, ?_⟩
    · rw [List.replicate_succ, history_cons, List.length_cons, hlength]
    · rw [List.replicate_succ, history_cons, List.forall_mem_cons]
      refine ⟨?_, hall⟩
      rw [step_encode, hok]
      rfl

/-- A new encoder is configured and then gets the same frame `n` times. -/
def longStream (n : Nat) : List Call :=
  .configure smallConfig :: List.replicate n (.encode smallFrame)

theorem longStream_history (interval : UInt32) (n : Nat) (hn : 0 < n) :
    (after step (withKeyframeInterval interval) (longStream n)).config = some smallConfig ∧
      earlier (history step (withKeyframeInterval interval) (longStream n)) = n ∧
      ¬Fresh (history step (withKeyframeInterval interval) (longStream n)) := by
  have hmany := encode_many smallConfig smallFrame rfl rfl n
    (step (withKeyframeInterval interval) (.configure smallConfig)).2 rfl
  rw [longStream, after_cons, history_cons]
  generalize history step (step (withKeyframeInterval interval) (.configure smallConfig)).2
    (List.replicate n (.encode smallFrame)) = later at hmany ⊢
  obtain ⟨hconfig, hlength, hall⟩ := hmany
  have hsince (p : Event → Bool) (hp : ∀ e : Event, e.encoded = true → p e = false) (first : Event) :
      since p (first :: later) = since p [first] ++ later :=
    since_append_of_none [first] later fun e he => hp e (hall e he)
  have hloud (p : Event → Bool) (hp : ∀ e : Event, e.encoded = true → p e = false) (first : Event) :
      ¬QuietSince Event.encoded p (first :: later) := by
    intro hquiet
    obtain ⟨event, hevent⟩ : ∃ event, event ∈ later := List.exists_mem_of_length_pos (by omega)
    rw [QuietSince, hsince p hp first] at hquiet
    have hno := hquiet event (List.mem_append_right _ hevent)
    exact Bool.false_ne_true (hno.symm.trans (hall event hevent))
  refine ⟨hconfig, ?_, ?_⟩
  · rw [earlier, countSince, hsince _ fun e he => (e.encoded_only he).1]
    have hfirst : since Event.configured
        [(Call.configure smallConfig,
          (step (withKeyframeInterval interval) (.configure smallConfig)).1)] = [] := rfl
    rw [hfirst, List.nil_append, List.countP_eq_length.mpr hall, hlength]
  · rintro (hquiet | hquiet)
    · exact hloud _ (fun e he => (e.encoded_only he).2.1) _ hquiet
    · exact hloud _ (fun e he => (e.encoded_only he).2.2) _ hquiet

/-- After 2^64 frames the counter is zero again: the next frame is a keyframe although it is
neither the first nor is its number a multiple of the interval. -/
theorem counter_wraps :
    ∃ encoded,
      ((after step (withKeyframeInterval 3) (longStream (2 ^ 64))).encode smallFrame).1 =
        .ok encoded ∧ encoded.keyframe = true ∧
      ¬(Fresh (history step (withKeyframeInterval 3) (longStream (2 ^ 64))) ∨
        (0 < (3 : UInt32) ∧ (3 : UInt32).toNat ∣
          earlier (history step (withKeyframeInterval 3) (longStream (2 ^ 64))))) := by
  obtain ⟨hconfig, hcount, hfresh⟩ := longStream_history 3 (2 ^ 64) (by norm_num)
  obtain ⟨encoded, hok, -⟩ := encode_configured _ smallConfig smallFrame hconfig rfl rfl
  refine ⟨encoded, hok, ?_, ?_⟩
  · rw [(run_schedule 3 _).keyframe_iff smallFrame encoded hok, hcount]
    exact Or.inr ⟨by decide, by norm_num⟩
  · rintro (h | ⟨-, hdvd⟩)
    · exact hfresh h
    · rw [hcount] at hdvd
      exact absurd hdvd (by decide)

end KeyframeSchedule
