import NexusRemote.BigEndian

/-!
# Capture and software encoding (`crates/nexus-capture`, `crates/nexus-codec`)

The synthetic capture source, the depth-one frame queue and the software
fallback encoder that the desktop host runs. Counters are 64-bit and wrap.
-/

namespace HostMedia

open BigEndian

inductive PixelFormat where
  | native
  | bgra8
  deriving DecidableEq, Repr

structure CapturedFrame where
  frameId : UInt64
  timestampUs : UInt64
  width : UInt32
  height : UInt32
  format : PixelFormat
  data : Bytes
  deriving DecidableEq, Repr

inductive CaptureError where
  | invalidDimensions
  | frameSizeOverflow
  | invalidBgraPayload (actual expected : Nat)
  deriving DecidableEq, Repr

namespace CapturedFrame

/-- The size type of the platform has 64 bits; two 32-bit factors alone stay within it. -/
def expectedBgraLen (width height : UInt32) : Except CaptureError Nat :=
  let pixels := width.toNat * height.toNat
  if pixels * 4 < 2 ^ 64 then .ok (pixels * 4) else .error .frameSizeOverflow

def validate (f : CapturedFrame) : Except CaptureError Unit :=
  if f.width = 0 ∨ f.height = 0 then .error .invalidDimensions
  else if f.format = .bgra8 then
    match expectedBgraLen f.width f.height with
    | .error err => .error err
    | .ok expected =>
      if f.data.length ≠ expected then .error (.invalidBgraPayload f.data.length expected)
      else .ok ()
  else .ok ()

end CapturedFrame

/-- A capture backend; a failed capture carries the text of its error. -/
class CaptureSource (C : Type) where
  nextFrame : C → Except String CapturedFrame × C

structure SyntheticCaptureSource where
  width : UInt32
  height : UInt32
  fps : UInt32
  frameCount : UInt64
  deriving DecidableEq, Repr

namespace SyntheticCaptureSource

def new (width height fps : UInt32) : SyntheticCaptureSource :=
  ⟨width, height, max fps 1, 0⟩

def generateBgraPattern (s : SyntheticCaptureSource) (frameId : UInt64) : Bytes :=
  let shift := (frameId % 256).toUInt8
  (List.range s.height.toNat).flatMap fun y =>
    (List.range s.width.toNat).flatMap fun x =>
      [UInt8.ofNat x + shift, UInt8.ofNat y + shift, UInt8.ofNat (x + y) + shift, 255]

def nextFrame (s : SyntheticCaptureSource) : CapturedFrame × SyntheticCaptureSource :=
  let s' := { s with frameCount := s.frameCount + 1 }
  let frameId := s'.frameCount
  -- `saturating_sub` only matters for the id zero
  let elapsed := if frameId = 0 then 0 else frameId - 1
  ({ frameId := frameId
     timestampUs := elapsed * 1000000 / s.fps.toUInt64
     width := s.width
     height := s.height
     format := .bgra8
     data := s'.generateBgraPattern frameId }, s')

/-- Capturing from the synthetic source cannot fail. -/
instance : CaptureSource SyntheticCaptureSource where
  nextFrame s := (.ok s.nextFrame.1, s.nextFrame.2)

end SyntheticCaptureSource

/-- Depth-one queue where the newest frame replaces a stale queued frame. -/
structure LatestFrameQueue (α : Type) where
  slot : Option α
  dropped : UInt64

namespace LatestFrameQueue

variable {α : Type}

def new : LatestFrameQueue α := ⟨none, 0⟩

def replace (q : LatestFrameQueue α) (frame : α) : LatestFrameQueue α :=
  ⟨some frame, if q.slot.isSome then q.dropped + 1 else q.dropped⟩

def take (q : LatestFrameQueue α) : Option α × LatestFrameQueue α :=
  (q.slot, { q with slot := none })

end LatestFrameQueue

inductive CodecKind where
  | h264
  deriving DecidableEq, Repr

structure EncoderConfig where
  codec : CodecKind
  width : UInt32
  height : UInt32
  maxFps : UInt32
  bitrateBps : UInt32
  deriving DecidableEq, Repr

structure EncodedFrame where
  frameId : UInt64
  timestampUs : UInt64
  keyframe : Bool
  data : Bytes
  deriving DecidableEq, Repr

inductive CodecError where
  | invalidDimensions
  | invalidRateOrBitrate
  | frameDimensionsMismatch
  | notConfigured
  | invalidFrame
  | backendUnavailable
  | backendLost
  | outputPending
  deriving DecidableEq, Repr

def EncoderConfig.validate (c : EncoderConfig) : Except CodecError EncoderConfig :=
  if c.width = 0 ∨ c.height = 0 ∨ c.maxFps = 0 ∨ c.bitrateBps = 0 then
    .error (if c.width = 0 ∨ c.height = 0 then .invalidDimensions else .invalidRateOrBitrate)
  else .ok c

/-- What the host asks of an encoder. -/
class VideoEncoder (E : Type) where
  configure : E → EncoderConfig → Except CodecError Unit × E
  encode : E → CapturedFrame → Except CodecError EncodedFrame × E
  requestKeyframe : E → Except CodecError Unit × E
  reconfigure : E → EncoderConfig → Except CodecError Unit × E

namespace VideoEncoder

inductive Call where
  | configure (config : EncoderConfig)
  | reconfigure (config : EncoderConfig)
  | requestKeyframe
  | encode (frame : CapturedFrame)
  deriving DecidableEq, Repr

/-- A call that succeeds returns a frame if it is an `encode`, and nothing otherwise. -/
abbrev Answer := Except CodecError (Option EncodedFrame)

/-- One call of the trait, whichever it is. -/
def step {E : Type} [VideoEncoder E] (e : E) : Call → Answer × E
  | .configure config => ((configure e config).1.map fun _ => none, (configure e config).2)
  | .reconfigure config => ((reconfigure e config).1.map fun _ => none, (reconfigure e config).2)
  | .requestKeyframe => ((requestKeyframe e).1.map fun _ => none, (requestKeyframe e).2)
  | .encode frame => ((encode e frame).1.map some, (encode e frame).2)

end VideoEncoder

structure SoftwareFallbackEncoder where
  config : Option EncoderConfig
  keyframeInterval : UInt32
  frameCount : UInt64
  forceKeyframe : Bool
  deriving DecidableEq, Repr

namespace SoftwareFallbackEncoder

def defaultKeyframeInterval : UInt32 := 60

def nalStartCode : Bytes := [0x00, 0x00, 0x00, 0x01]
def nalTypeSps : UInt8 := 0x67
def nalTypePps : UInt8 := 0x68
def nalTypeIdr : UInt8 := 0x65
def nalTypeNonIdr : UInt8 := 0x41

def new : SoftwareFallbackEncoder := ⟨none, defaultKeyframeInterval, 0, true⟩

def withKeyframeInterval (keyframeInterval : UInt32) : SoftwareFallbackEncoder :=
  ⟨none, keyframeInterval, 0, true⟩

def buildAnnexBPayload (config : EncoderConfig) (isKeyframe : Bool) (frameData : Bytes) : Bytes :=
  if isKeyframe then
    nalStartCode ++ [nalTypeSps] ++ toBytes 4 config.width.toNat ++
      toBytes 4 config.height.toNat ++ toBytes 4 config.maxFps.toNat ++
      nalStartCode ++ [nalTypePps, 0x01] ++
      nalStartCode ++ [nalTypeIdr] ++ frameData
  else nalStartCode ++ [nalTypeNonIdr] ++ frameData

def configure (e : SoftwareFallbackEncoder) (config : EncoderConfig) :
    Except CodecError Unit × SoftwareFallbackEncoder :=
  match config.validate with
  | .error err => (.error err, e)
  | .ok validated =>
    (.ok (), { e with config := some validated, forceKeyframe := true, frameCount := 0 })

def encode (e : SoftwareFallbackEncoder) (frame : CapturedFrame) :
    Except CodecError EncodedFrame × SoftwareFallbackEncoder :=
  match e.config with
  | none => (.error .notConfigured, e)
  | some config =>
    if frame.width ≠ config.width ∨ frame.height ≠ config.height then
      (.error .frameDimensionsMismatch, e)
    else
      let isKeyframe := e.forceKeyframe ||
        (decide (e.keyframeInterval > 0) && e.frameCount % e.keyframeInterval.toUInt64 == 0)
      (.ok
        { frameId := frame.frameId
          timestampUs := frame.timestampUs
          keyframe := isKeyframe
          data := buildAnnexBPayload config isKeyframe frame.data },
        { e with forceKeyframe := false, frameCount := e.frameCount + 1 })

def requestKeyframe (e : SoftwareFallbackEncoder) : SoftwareFallbackEncoder :=
  { e with forceKeyframe := true }

/-- Unlike `configure` this goes on counting frames. -/
def reconfigure (e : SoftwareFallbackEncoder) (config : EncoderConfig) :
    Except CodecError Unit × SoftwareFallbackEncoder :=
  match config.validate with
  | .error err => (.error err, e)
  | .ok validated => (.ok (), { e with config := some validated, forceKeyframe := true })

instance : VideoEncoder SoftwareFallbackEncoder where
  configure := configure
  encode := encode
  requestKeyframe e := (.ok (), e.requestKeyframe)
  reconfigure := reconfigure

section
variable (e : SoftwareFallbackEncoder)

theorem step_configure (config : EncoderConfig) :
    VideoEncoder.step e (.configure config) =
      ((e.configure config).1.map fun _ => none, (e.configure config).2) := rfl

theorem step_reconfigure (config : EncoderConfig) :
    VideoEncoder.step e (.reconfigure config) =
      ((e.reconfigure config).1.map fun _ => none, (e.reconfigure config).2) := rfl

theorem step_requestKeyframe :
    VideoEncoder.step e .requestKeyframe = (.ok none, e.requestKeyframe) := rfl

theorem step_encode (frame : CapturedFrame) :
    VideoEncoder.step e (.encode frame) =
      ((e.encode frame).1.map some, (e.encode frame).2) := rfl

end

/-- A configured encoder never refuses a frame of its own dimensions, and keeps
the frame's id and time. -/
theorem encode_configured (e : SoftwareFallbackEncoder) (config : EncoderConfig)
    (frame : CapturedFrame) (hc : e.config = some config) (hw : frame.width = config.width)
    (hh : frame.height = config.height) :
    ∃ encoded, (e.encode frame).1 = .ok encoded ∧ encoded.frameId = frame.frameId ∧
      encoded.timestampUs = frame.timestampUs ∧ (e.encode frame).2.config = some config := by
  simp only [encode, hc, hw, hh, ne_eq, not_true_eq_false, or_self, ↓reduceIte]
  exact ⟨_, rfl, rfl, rfl, trivial⟩

end SoftwareFallbackEncoder

/-- An encoder of four pixels, and a frame for it. -/
def smallConfig : EncoderConfig := ⟨.h264, 2, 2, 30, 1000⟩
def smallFrame : CapturedFrame := ⟨1, 0, 2, 2, .bgra8, List.replicate 16 0⟩

end HostMedia
