import NexusRemote.Histories
import NexusRemote.WindowsEncoder

/-!
# What the Windows encoder asks of its transform

The encoder works over any transform, so also over one that records the calls
it gets and what another transform, of any behaviour, answers to them. From the
record and the calls of the host it is seen which frames were forced to be
keyframes and in which configuration they were encoded.
-/

namespace TransformCalls

open HostMedia HostMedia.VideoEncoder WindowsEncoder WindowsH264Encoder Histories Mealy

inductive TransformCall where
  | configure (config : EncoderConfig) (result : Except CodecError Unit)
  | encode (frame : CapturedFrame) (forceKeyframe : Bool) (result : Except CodecError EncodedFrame)
  | drain (result : Except CodecError Unit)
  deriving DecidableEq, Repr

structure RecordingTransform (T : Type) where
  inner : T
  calls : List TransformCall

variable {T : Type} [EncoderTransform T]

instance : EncoderTransform (RecordingTransform T) where
  configure r config :=
    let answer := EncoderTransform.configure r.inner config
    (answer.1, ⟨answer.2, r.calls ++ [.configure config answer.1]⟩)
  encode r frame force :=
    let answer := EncoderTransform.encode r.inner frame force
    (answer.1, ⟨answer.2, r.calls ++ [.encode frame force answer.1]⟩)
  drain r :=
    let answer := EncoderTransform.drain r.inner
    (answer.1, ⟨answer.2, r.calls ++ [.drain answer.1]⟩)

/-- An encoder whose transform is recorded. -/
abbrev Recorded (T : Type) := WindowsH264Encoder (RecordingTransform T)

/-- A new encoder over the given transform, nothing recorded yet. -/
def started (transform : T) : Recorded T := withTransform ⟨transform, []⟩

theorem configure_eq (t : RecordingTransform T) (config : EncoderConfig) :
    EncoderTransform.configure t config =
      ((EncoderTransform.configure t.inner config).1,
        ⟨(EncoderTransform.configure t.inner config).2,
          t.calls ++ [.configure config (EncoderTransform.configure t.inner config).1]⟩) := rfl

theorem encode_eq (t : RecordingTransform T) (frame : CapturedFrame) (force : Bool) :
    EncoderTransform.encode t frame force =
      ((EncoderTransform.encode t.inner frame force).1,
        ⟨(EncoderTransform.encode t.inner frame force).2,
          t.calls ++ [.encode frame force (EncoderTransform.encode t.inner frame force).1]⟩) := rfl

theorem drain_eq (t : RecordingTransform T) :
    EncoderTransform.drain t =
      ((EncoderTransform.drain t.inner).1,
        ⟨(EncoderTransform.drain t.inner).2,
          t.calls ++ [.drain (EncoderTransform.drain t.inner).1]⟩) := rfl

/-- The transform has taken the frame in, now or for a later output. -/
def settles : Except CodecError EncodedFrame → Bool
  | .ok _ => true
  | .error err => err == .outputPending

/-- All that one call can do: the answer, the transform calls it makes, and the configuration and
the force flag it leaves. -/
inductive Effect (e : Recorded T) :
    Call → Answer → List TransformCall → Option EncoderConfig → Bool → Prop where
  | refused (x : Call) (err : CodecError) (hx : x ≠ .requestKeyframe)
      (hv : ∀ config, x = .configure config → config.validate ≠ .ok config) :
      Effect e x (.error err) [] e.config e.forceNextKeyframe
  | requested : Effect e .requestKeyframe (.ok none) [] e.config true
  | configured (x : Call) (config : EncoderConfig)
      (hx : x = .configure config ∨ x = .reconfigure config ∧ e.config = none)
      (ht : (EncoderTransform.configure e.transform config).1 = .ok ()) :
      Effect e x (.ok none) [.configure config (.ok ())] (some config) true
  | unconfigured (x : Call) (config : EncoderConfig) (err : CodecError)
      (hx : x = .configure config ∨ x = .reconfigure config ∧ e.config = none)
      (hv : config.validate = .ok config)
      (ht : (EncoderTransform.configure e.transform config).1 = .error err) :
      Effect e x (.error err) [.configure config (.error err)] e.config e.forceNextKeyframe
  | undrained (config previous : EncoderConfig) (err : CodecError) (he : e.config = some previous) :
      Effect e (.reconfigure config) (.error err) [.drain (.error err)] none e.forceNextKeyframe
  | lost (config previous : EncoderConfig) (err : CodecError) (he : e.config = some previous) :
      Effect e (.reconfigure config) (.error err)
        [.drain (.ok ()), .configure config (.error err)] none e.forceNextKeyframe
  | reconfigured (config previous : EncoderConfig) (he : e.config = some previous) :
      Effect e (.reconfigure config) (.ok none) [.drain (.ok ()), .configure config (.ok ())]
        (some config)
        (e.forceNextKeyframe || (previous.width != config.width || previous.height != config.height))
  | encoded (frame : CapturedFrame) (config : EncoderConfig)
      (result : Except CodecError EncodedFrame) (he : e.config = some config)
      (hw : frame.width = config.width) (hh : frame.height = config.height) :
      Effect e (.encode frame) (result.map some) [.encode frame e.forceNextKeyframe result]
        (some config) (if settles result then false else e.forceNextKeyframe)

/-- The state after a call that has made the given transform calls. -/
def Leads (e e' : Recorded T) (made : List TransformCall) (config : Option EncoderConfig)
    (force : Bool) : Prop :=
  e'.config = config ∧ e'.forceNextKeyframe = force ∧ e'.transform.calls = e.transform.calls ++ made

/-- A configuration that passes the check is used as it is. -/
theorem validate_ok (config validated : EncoderConfig) (h : config.validate = .ok validated) :
    validated = config := by
  rw [EncoderConfig.validate] at h
  split at h
  · cases h
  · cases h
    rfl

theorem configure_effect (e : Recorded T) (x : Call) (config : EncoderConfig)
    (hv : config.validate = .ok config)
    (hx : x = .configure config ∨ x = .reconfigure config ∧ e.config = none) :
    ∃ made next force, Effect e x ((e.configure config).1.map fun _ => none) made next force ∧
      Leads e (e.configure config).2 made next force := by
  rw [WindowsH264Encoder.configure, hv]
  simp only [configure_eq]
  cases ht : (EncoderTransform.configure e.transform.inner config).1 with
  | error err =>
    exact ⟨_, _, _, .unconfigured x config err hx hv ht, rfl, rfl, rfl⟩
  | ok u => exact ⟨_, _, _, .configured x config hx ht, rfl, rfl, rfl⟩

theorem reconfigure_effect (e : Recorded T) (config previous : EncoderConfig)
    (hv : config.validate = .ok config) (he : e.config = some previous) :
    ∃ made next force,
      Effect e (.reconfigure config) ((e.reconfigure config).1.map fun _ => none) made next force ∧
      Leads e (e.reconfigure config).2 made next force := by
  rw [WindowsH264Encoder.reconfigure, hv, he]
  simp only [configure_eq, drain_eq]
  cases (EncoderTransform.drain e.transform.inner).1 with
  | error err => exact ⟨_, _, _, .undrained config previous err he, rfl, rfl, rfl⟩
  | ok u =>
    simp only
    cases (EncoderTransform.configure (EncoderTransform.drain e.transform.inner).2 config).1 with
    | error err => exact ⟨_, _, _, .lost config previous err he, rfl, rfl, by simp⟩
    | ok u => exact ⟨_, _, _, .reconfigured config previous he, rfl, rfl, by simp⟩

theorem encode_effect (e : Recorded T) (frame : CapturedFrame) :
    ∃ made next force, Effect e (.encode frame) ((e.encode frame).1.map some) made next force ∧
      Leads e (e.encode frame).2 made next force := by
  rw [WindowsH264Encoder.encode]
  cases he : e.config with
  | none => exact ⟨_, _, _, .refused _ .notConfigured (by simp) (by simp), rfl, rfl, by simp⟩
  | some config =>
    simp only [encode_eq]
    split
    · exact ⟨_, _, _, .refused _ .frameDimensionsMismatch (by simp) (by simp), rfl, rfl, by simp⟩
    · rename_i hdim
      simp only [ne_eq, not_or, not_not] at hdim
      split
      · exact ⟨_, _, _, .refused _ .invalidFrame (by simp) (by simp), rfl, rfl, by simp⟩
      · cases (EncoderTransform.encode e.transform.inner frame e.forceNextKeyframe).1 with
        | ok output =>
          exact ⟨_, _, _, .encoded frame config (.ok output) he hdim.1 hdim.2, rfl, rfl, rfl⟩
        | error err =>
          cases err <;>
            exact ⟨_, _, _, .encoded frame config (.error _) he hdim.1 hdim.2, rfl, rfl, rfl⟩

/-- A call that only checks its argument and fails. -/
theorem refused_effect (e : Recorded T) (x : Call) (err : CodecError)
    (hstep : step e x = (.error err, e)) (hx : x ≠ .requestKeyframe)
    (hv : ∀ config, x = .configure config → config.validate ≠ .ok config) :
    ∃ made next force, Effect e x (step e x).1 made next force ∧
      Leads e (step e x).2 made next force := by
  rw [hstep]
  exact ⟨_, _, _, .refused x err hx hv, rfl, rfl, (List.append_nil _).symm⟩

theorem step_effect (e : Recorded T) (x : Call) :
    ∃ made next force, Effect e x (step e x).1 made next force ∧
      Leads e (step e x).2 made next force := by
  cases x with
  | requestKeyframe => exact ⟨_, _, _, .requested, rfl, rfl, (List.append_nil _).symm⟩
  | encode frame => exact encode_effect e frame
  | configure config =>
    cases hv : config.validate with
    | error err =>
      have heq : e.configure config = (.error err, e) := by rw [WindowsH264Encoder.configure, hv]
      refine refused_effect e _ err ?_ (by simp) (by rintro _ ⟨⟩; simp [hv])
      change ((e.configure config).1.map _, (e.configure config).2) = _
      rw [heq]
      rfl
    | ok validated =>
      obtain rfl := validate_ok config validated hv
      exact configure_effect e _ validated hv (Or.inl rfl)
  | reconfigure config =>
    cases hv : config.validate with
    | error err =>
      have heq : e.reconfigure config = (.error err, e) := by
        rw [WindowsH264Encoder.reconfigure, hv]
      refine refused_effect e _ err ?_ (by simp) (by simp)
      change ((e.reconfigure config).1.map _, (e.reconfigure config).2) = _
      rw [heq]
      rfl
    | ok validated =>
      obtain rfl := validate_ok config validated hv
      cases he : e.config with
      | none =>
        have heq : e.reconfigure validated = e.configure validated := by
          rw [WindowsH264Encoder.reconfigure, hv, he]
        have heffect := configure_effect e (.reconfigure validated) validated hv (Or.inr ⟨rfl, he⟩)
        rw [← heq] at heffect
        exact heffect
      | some previous => exact reconfigure_effect e validated previous hv he

/-! ## The calls of the host and of the transform together -/

/-- What is seen of one call: the configuration before it, the answer, and the transform calls
it made. -/
structure Seen where
  before : Option EncoderConfig
  answer : Answer
  made : List TransformCall
  deriving DecidableEq, Repr

def observe (e : Recorded T) (x : Call) : Seen × Recorded T :=
  (⟨e.config, (step e x).1, (step e x).2.transform.calls.drop e.transform.calls.length⟩, (step e x).2)

theorem observe_effect (e : Recorded T) (x : Call) :
    ∃ answer made next force, Effect e x answer made next force ∧
      (observe e x).1 = ⟨e.config, answer, made⟩ ∧ Leads e (observe e x).2 made next force := by
  obtain ⟨made, next, force, heffect, hleads⟩ := step_effect e x
  refine ⟨(step e x).1, made, next, force, heffect, ?_, hleads⟩
  rw [observe, hleads.2.2, List.drop_left]

abbrev Event := Call × Seen

/-- A keyframe is due: one was requested, or the encoder was set up anew, for other dimensions
or from nothing. -/
def Event.demands : Event → Bool
  | (.requestKeyframe, _) => true
  | (.configure _, ⟨_, .ok _, _⟩) => true
  | (.reconfigure _, ⟨none, .ok _, _⟩) => true
  | (.reconfigure config, ⟨some previous, .ok _, _⟩) =>
    previous.width != config.width || previous.height != config.height
  | _ => false

def TransformCall.settled : TransformCall → Bool
  | .encode _ _ result => settles result
  | _ => false

/-- The transform has taken a frame in. -/
def Event.served (event : Event) : Bool := event.2.made.any TransformCall.settled

/-- A call moves the force flag as its event says, and an encoder is configured only by a
demand. -/
theorem Effect.flag {e : Recorded T} {x : Call} {answer : Answer} {made : List TransformCall}
    {next : Option EncoderConfig} {force : Bool} (h : Effect e x answer made next force) :
    (force = (Event.demands (x, ⟨e.config, answer, made⟩) ||
      (!Event.served (x, ⟨e.config, answer, made⟩) && e.forceNextKeyframe))) ∧
    (next ≠ none → e.config ≠ none ∨ Event.demands (x, ⟨e.config, answer, made⟩) = true) := by
  cases h with
  | refused x err hx hv =>
    refine ⟨?_, Or.inl⟩
    cases x <;> first | exact absurd rfl hx | simp [Event.demands, Event.served]
  | requested => exact ⟨by simp [Event.demands], Or.inl⟩
  | configured x config hx ht =>
    have hdemands : Event.demands (x, ⟨e.config, .ok none, [.configure config (.ok ())]⟩) = true := by
      rcases hx with rfl | ⟨rfl, he⟩
      · rfl
      · rw [he]
        rfl
    exact ⟨by simp [hdemands], fun _ => Or.inr hdemands⟩
  | unconfigured x config err hx hv ht =>
    refine ⟨?_, Or.inl⟩
    rcases hx with rfl | ⟨rfl, -⟩ <;> simp [Event.demands, Event.served, TransformCall.settled]
  | undrained config previous err he =>
    simp [Event.demands, Event.served, TransformCall.settled]
  | lost config previous err he =>
    simp [Event.demands, Event.served, TransformCall.settled]
  | reconfigured config previous he =>
    refine ⟨?_, fun _ => Or.inl (by simp [he])⟩
    simp [he, Event.demands, Event.served, TransformCall.settled, Bool.or_comm]
  | encoded frame config result he hw hh =>
    refine ⟨?_, fun _ => Or.inl (by simp [he])⟩
    cases hs : settles result <;> simp [Event.demands, Event.served, TransformCall.settled, hs]

/-- What an encoder says about the history that led to it. -/
structure Armed (h : List Event) (e : Recorded T) : Prop where
  demanded : e.config ≠ none → ∃ event ∈ h, Event.demands event = true
  force : (∃ event ∈ h, Event.demands event = true) →
    (e.forceNextKeyframe = true ↔ QuietSince Event.served Event.demands h)

theorem armed_step (h : List Event) (e : Recorded T) (x : Call) (ha : Armed h e) :
    Armed (h ++ [(x, (observe e x).1)]) (observe e x).2 := by
  obtain ⟨answer, made, next, force, heffect, hseen, hnext, hforce, -⟩ := observe_effect e x
  obtain ⟨hflag, hconfig⟩ := heffect.flag
  rw [hseen]
  generalize (x, (⟨e.config, answer, made⟩ : Seen)) = event at hflag hconfig ⊢
  refine ⟨?_, ?_⟩
  · intro hsome
    rcases hconfig (hnext ▸ hsome) with hbefore | hdemands
    · obtain ⟨earlier, hmem, hdemands⟩ := ha.demanded hbefore
      exact ⟨earlier, List.mem_append_left _ hmem, hdemands⟩
    · exact ⟨event, by simp, hdemands⟩
  · rintro ⟨earlier, hmem, hdemands⟩
    rw [hforce, hflag]
    rcases List.mem_append.mp hmem with hmem | hmem
    · exact flag_concat _ _ h event _ (ha.force ⟨earlier, hmem, hdemands⟩)
    · obtain rfl := List.mem_singleton.mp hmem
      simp [hdemands]

theorem armed_run (transform : T) (calls : List Call) :
    Armed (history observe (started transform) calls) (after observe (started transform) calls) :=
  history_invariant armed_step _ ⟨fun h => absurd rfl h, by simp⟩ calls

/-- A transform call to encode comes of a configured encoder, from a frame of the configured
dimensions and with the force flag as it stands. -/
theorem encode_made (e : Recorded T) (x : Call) (frame : CapturedFrame) (force : Bool)
    (result : Except CodecError EncodedFrame)
    (h : TransformCall.encode frame force result ∈ (observe e x).1.made) :
    ∃ config, e.config = some config ∧ frame.width = config.width ∧ frame.height = config.height ∧
      force = e.forceNextKeyframe := by
  obtain ⟨answer, made, next, force', heffect, hseen, -⟩ := observe_effect e x
  rw [hseen] at h
  cases heffect with
  | encoded frame' config result' he hw hh =>
    obtain ⟨rfl, rfl, rfl⟩ : frame = frame' ∧ force = e.forceNextKeyframe ∧ result = result' := by
      simpa using h
    exact ⟨config, he, hw, hh, rfl⟩
  | _ => simp at h

/-- Whatever the transform answers: a frame it is given is forced to be a keyframe exactly if it
has taken no frame in since the last demand, and there has been one. -/
theorem forced_until_settled (transform : T) (calls : List Call) (x : Call) (frame : CapturedFrame)
    (force : Bool) (result : Except CodecError EncodedFrame)
    (h : TransformCall.encode frame force result ∈
      (observe (after observe (started transform) calls) x).1.made) :
    (∃ event ∈ history observe (started transform) calls, Event.demands event = true) ∧
      (force = true ↔
        QuietSince Event.served Event.demands (history observe (started transform) calls)) := by
  have harmed := armed_run transform calls
  obtain ⟨config, hconfig, -, -, rfl⟩ := encode_made _ x frame force result h
  have hdemanded := harmed.demanded (by simp [hconfig])
  exact ⟨hdemanded, harmed.force hdemanded⟩

/-- A transform that gives prepared answers, one list for `configure` and one for `encode`. -/
structure ScriptedTransform where
  configures : List (Except CodecError Unit)
  encodes : List (Except CodecError EncodedFrame)

instance : EncoderTransform ScriptedTransform where
  configure s _ := (s.configures.headD (.ok ()), { s with configures := s.configures.tail })
  encode s _ _ := (s.encodes.headD (.error .backendLost), { s with encodes := s.encodes.tail })
  drain s := (.ok (), s)

def wideConfig : EncoderConfig := ⟨.h264, 4, 2, 30, 1000⟩

/-- A transform that loses the first frame and holds the second one back. -/
def hesitant : ScriptedTransform := ⟨[], [.error .backendLost, .error .outputPending]⟩

theorem forced_until_settled_hesitant :
    QuietSince Event.served Event.demands
        (history observe (started hesitant) [.configure smallConfig, .encode smallFrame]) ∧
      ¬QuietSince Event.served Event.demands
        (history observe (started hesitant)
          [.configure smallConfig, .encode smallFrame, .encode smallFrame]) := by
  have hsecond := forced_until_settled hesitant [.configure smallConfig, .encode smallFrame]
    (.encode smallFrame) smallFrame true (.error .outputPending) (by decide)
  have hthird := forced_until_settled hesitant
    [.configure smallConfig, .encode smallFrame, .encode smallFrame]
    (.encode smallFrame) smallFrame false (.error .backendLost) (by decide)
  exact ⟨hsecond.2.mp rfl, fun h => Bool.false_ne_true (hthird.2.mpr h)⟩

/-! ## The configuration of the transform -/

def TransformCall.isEncode : TransformCall → Bool
  | .encode _ _ _ => true
  | _ => false

/-- The last call that was not about a frame: a `configure`, or a `drain` after it. -/
def lastSetting (calls : List TransformCall) : Option TransformCall :=
  (calls.filter fun call => !call.isEncode).getLast?

@[simp] theorem lastSetting_concat (calls : List TransformCall) (call : TransformCall) :
    lastSetting (calls ++ [call]) = if call.isEncode then lastSetting calls else some call := by
  rw [lastSetting, List.filter_append]
  cases hcall : call.isEncode <;> simp [hcall, lastSetting]

/-- The encoder is configured as its transform is. -/
def Agrees (e : Recorded T) : Prop :=
  ∀ config, e.config = some config →
    lastSetting e.transform.calls = some (.configure config (.ok ()))

/-- A configured encoder is not given a configuration that its transform refuses. -/
def Accepts (e : Recorded T) (x : Call) : Prop :=
  ∀ config, x = .configure config → config.validate = .ok config → e.config ≠ none →
    (EncoderTransform.configure e.transform config).1 = .ok ()

omit [EncoderTransform T] in
theorem Agrees.of_eq {e e' : Recorded T} (ha : Agrees e) (hconfig : e'.config = e.config)
    (hlast : lastSetting e'.transform.calls = lastSetting e.transform.calls) : Agrees e' := by
  intro config hc
  rw [hlast]
  exact ha config (hconfig ▸ hc)

omit [EncoderTransform T] in
theorem Agrees.of_none {e : Recorded T} (h : e.config = none) : Agrees e := by
  intro config hc
  rw [h] at hc
  cases hc

omit [EncoderTransform T] in
theorem agrees_of_configured {e : Recorded T} {config : EncoderConfig}
    {calls : List TransformCall} (hconfig : e.config = some config)
    (hcalls : e.transform.calls = calls ++ [.configure config (.ok ())]) : Agrees e := by
  intro config' hc
  obtain rfl : config = config' := by simpa [hconfig] using hc
  rw [hcalls, lastSetting_concat]
  rfl

/-- One call keeps encoder and transform in agreement, unless it is a `configure` that the
transform refuses while the encoder keeps its old configuration. -/
theorem agrees_step_iff (e : Recorded T) (x : Call) (ha : Agrees e) :
    Agrees (observe e x).2 ↔ Accepts e x := by
  obtain ⟨answer, made, next, force, heffect, -, hnext, -, hcalls⟩ := observe_effect e x
  cases heffect with
  | unconfigured x config err hx hv ht =>
    have hlast : lastSetting (observe e x).2.transform.calls =
        some (.configure config (.error err)) := by
      rw [hcalls, lastSetting_concat]
      rfl
    constructor
    · intro hagrees config' hcall hv' hsome
      obtain ⟨old, hold⟩ := Option.ne_none_iff_exists'.mp hsome
      have hboth := hlast.symm.trans (hagrees old (hnext.trans hold))
      simp at hboth
    · intro haccepts
      refine Agrees.of_none ?_
      by_contra hsome
      rcases hx with rfl | ⟨-, hnone⟩
      · have hok := haccepts config rfl hv (hnext ▸ hsome)
        rw [ht] at hok
        cases hok
      · exact hsome (hnext.trans hnone)
  | refused x err hx hv =>
    refine iff_of_true (ha.of_eq hnext (by rw [hcalls, List.append_nil])) ?_
    intro config hcall hok
    exact absurd hok (hv config hcall)
  | requested =>
    exact iff_of_true (ha.of_eq hnext (by rw [hcalls, List.append_nil])) (by rintro _ ⟨⟩)
  | configured x config hx ht =>
    refine iff_of_true (agrees_of_configured hnext hcalls) ?_
    rintro config' rfl - hsome
    rcases hx with hx | ⟨hx, -⟩
    · obtain rfl : config' = config := by simpa using hx
      exact ht
    · cases hx
  | undrained config previous err he =>
    exact iff_of_true (Agrees.of_none hnext) (by rintro _ ⟨⟩)
  | lost config previous err he =>
    exact iff_of_true (Agrees.of_none hnext) (by rintro _ ⟨⟩)
  | reconfigured config previous he =>
    have hcalls' : (observe e (.reconfigure config)).2.transform.calls =
        (e.transform.calls ++ [.drain (.ok ())]) ++ [.configure config (.ok ())] := by
      rw [hcalls, List.append_assoc]
      rfl
    exact iff_of_true (agrees_of_configured hnext hcalls') (by rintro _ ⟨⟩)
  | encoded frame config result he hw hh =>
    refine iff_of_true (ha.of_eq (hnext.trans he.symm) ?_) (by rintro _ ⟨⟩)
    rw [hcalls, lastSetting_concat]
    rfl

/-- As long as the transform refuses no configuration that a configured encoder is given, and no
longer, encoder and transform agree; and then every frame is encoded in the configuration that
its dimensions were checked against, which the transform has accepted and not drained since. -/
theorem configured_transform (transform : T) (calls : List Call) :
    ((∀ ys, ys <+: calls → Agrees (after observe (started transform) ys)) ↔
      ∀ ys x, ys ++ [x] <+: calls → Accepts (after observe (started transform) ys) x) ∧
    ((∀ ys x, ys ++ [x] <+: calls → Accepts (after observe (started transform) ys) x) →
      ∀ ys x, ys ++ [x] <+: calls → ∀ frame force result,
        TransformCall.encode frame force result ∈
          (observe (after observe (started transform) ys) x).1.made →
        ∃ config, (after observe (started transform) ys).config = some config ∧
          frame.width = config.width ∧ frame.height = config.height ∧
          lastSetting (after observe (started transform) ys).transform.calls =
            some (.configure config (.ok ()))) := by
  have hiff := always_iff (fun _ _ (_ : True) => trivial)
    (fun e x _ ha => agrees_step_iff e x ha) (started transform) calls trivial (Agrees.of_none rfl)
  refine ⟨hiff, ?_⟩
  intro haccepts ys x hys frame force result hmade
  obtain ⟨config, hconfig, hw, hh, -⟩ := encode_made _ x frame force result hmade
  have hagrees := hiff.mpr haccepts ys ((List.prefix_append ys [x]).trans hys)
  exact ⟨config, hconfig, hw, hh, hagrees config hconfig⟩

/-- A transform that takes its first configuration and refuses the second. -/
def fragile : ScriptedTransform :=
  ⟨[.ok (), .error .backendLost], [.ok ⟨1, 0, true, [0, 0, 1, 0x65]⟩]⟩

/-- The second `configure` fails in the transform, the encoder keeps the first configuration, and
the next frame is encoded by a transform whose last configuration failed. -/
theorem failed_configuration_used :
    (observe (after observe (started fragile) [.configure smallConfig, .configure wideConfig])
        (.encode smallFrame)).1.made =
      [.encode smallFrame true (.ok ⟨1, 0, true, [0, 0, 1, 0x65]⟩)] ∧
    lastSetting (after observe (started fragile)
        [.configure smallConfig, .configure wideConfig]).transform.calls =
      some (.configure wideConfig (.error .backendLost)) := by
  decide

end TransformCalls
