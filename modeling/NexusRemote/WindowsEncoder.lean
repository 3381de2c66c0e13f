import NexusRemote.ClientDecoder
import NexusRemote.HostMedia

/-!
# The Windows H.264 encoder (`platform/windows/src/codec.rs`)

The state machine of the encoder around a platform transform, and the access
units that the Media Foundation worker makes of the sequence header and the
transform's output. What the platform answers is a parameter.
-/

namespace WindowsEncoder

open AnnexB BigEndian HostMedia ClientDecoder ClientReceiver

/-! ## Access units -/

/-- The answers of a media type to the two requests for its sequence header. `none` is a failure;
the second request fills the caller's buffer and tells how much of it counts. -/
structure MediaType where
  getBlobSize : Option UInt32
  getBlob : Bytes → Option (Bytes × UInt32)
  keepsLength : ∀ buffer filled actual, getBlob buffer = some (filled, actual) →
    filled.length = buffer.length

def sequenceHeaderFromType (mediaType : MediaType) : Except CodecError Bytes :=
  match mediaType.getBlobSize with
  | none => .error .backendUnavailable
  | some size =>
    if size = 0 then .error .backendUnavailable
    else
      match mediaType.getBlob (List.replicate size.toNat 0) with
      | none => .error .backendUnavailable
      | some (filled, actualSize) =>
        let sequenceHeader := filled.take actualSize.toNat
        if sequenceHeader.isEmpty ||
            !(windows 3 sequenceHeader).any fun bytes => bytes == [0, 0, 1] then
          .error .backendUnavailable
        else .ok sequenceHeader

def h264AccessUnit (sequenceHeader accessUnit : Bytes) (keyframe : Bool) : Except CodecError Bytes :=
  if accessUnit.isEmpty then .error .backendUnavailable
  else if !keyframe then .ok accessUnit
  else if sequenceHeader.isEmpty then .error .backendUnavailable
  else if sequenceHeader.length + accessUnit.length < 2 ^ 64 then .ok (sequenceHeader ++ accessUnit)
  else .error .backendUnavailable

theorem h264AccessUnit_keyframe (header unit payload : Bytes)
    (h : h264AccessUnit header unit true = .ok payload) : unit ≠ [] ∧ payload = header ++ unit := by
  simp only [h264AccessUnit, Bool.not_true, Bool.false_eq_true, if_false] at h
  split at h
  · cases h
  · rename_i hunit
    split at h
    · cases h
    · split at h
      · cases h
        exact ⟨fun hnil => hunit (List.isEmpty_iff.mpr hnil), rfl⟩
      · cases h

/-- A closed gate lets a keyframe of the encoder pass exactly if the bytes 00 00 01 67 occur in
the sequence header and access unit it was made of: of the four header bytes that a sequence
parameter set can have, the gate knows one. -/
theorem keyframe_unit_opens_iff (header unit payload : Bytes) (job : DecodedFrameJob)
    (hpayload : h264AccessUnit header unit true = .ok payload)
    (hsize : payload.length ≤ maxRenderAccessUnitSize) (hkey : job.keyframe = true)
    (hjob : job.accessUnit = payload) :
    (DecoderGate.default.accept job).1 = .ok () ↔ [0, 0, 1, 0x67] <:+: header ++ unit := by
  obtain ⟨hunit, rfl⟩ := h264AccessUnit_keyframe header unit payload hpayload
  have hfits : Fits job := ⟨by simp [hjob, hunit], hjob ▸ hsize⟩
  rw [DecoderGate.accept_ok_iff, ← hjob]
  constructor
  · rintro ⟨-, hopen⟩
    exact (hopen.resolve_left Bool.false_ne_true).2.2
  · intro hheader
    exact ⟨hfits, Or.inr ⟨hfits, hkey, hheader⟩⟩

def spsHeader : Bytes := [0, 0, 0, 1, 0x67, 0x64]
def idrUnit : Bytes := [0, 0, 0, 1, 0x65, 0x88]

theorem keyframe_unit_opens_spsHeader :
    (DecoderGate.default.accept ⟨1, 0, true, spsHeader ++ idrUnit⟩).1 = .ok () :=
  (keyframe_unit_opens_iff spsHeader idrUnit (spsHeader ++ idrUnit) ⟨1, 0, true, spsHeader ++ idrUnit⟩
    rfl (by decide) rfl rfl).mpr ⟨[0], [0x64] ++ idrUnit, rfl⟩

/-- A media type whose sequence header is the given one. -/
def mediaTypeOf (header : Bytes) : MediaType where
  getBlobSize := some (UInt32.ofNat header.length)
  getBlob buffer := some ((header ++ buffer).take buffer.length, UInt32.ofNat header.length)
  keepsLength := by
    rintro buffer filled actual h
    cases h
    rw [List.length_take, List.length_append]
    omega

/-- A sequence parameter set of low importance: its header byte is 27 instead of 67. -/
def lowHeader : Bytes := [0, 0, 0, 1, 0x27, 0x64]

/-- The encoder takes the header, it has a sequence parameter set, and the gate turns the
keyframe away. -/
theorem low_header_rejected :
    sequenceHeaderFromType (mediaTypeOf lowHeader) = .ok lowHeader ∧ HasUnit spsType lowHeader ∧
      h264AccessUnit lowHeader idrUnit true = .ok (lowHeader ++ idrUnit) ∧
      (lowHeader ++ idrUnit).length ≤ maxRenderAccessUnitSize ∧
      (DecoderGate.default.accept ⟨1, 0, true, lowHeader ++ idrUnit⟩).1 =
        .error .missingSequenceHeader := by
  refine ⟨by decide, ⟨0x27, by decide, by decide, [0], [0x64], rfl⟩, rfl, by decide, by decide⟩

/-! ## The state machine -/

/-- The platform's encoder, as far as the state machine uses it. -/
class EncoderTransform (T : Type) where
  configure : T → EncoderConfig → Except CodecError Unit × T
  encode : T → CapturedFrame → Bool → Except CodecError EncodedFrame × T
  drain : T → Except CodecError Unit × T

structure WindowsH264Encoder (T : Type) where
  config : Option EncoderConfig
  transform : T
  forceNextKeyframe : Bool

namespace WindowsH264Encoder

variable {T : Type} [EncoderTransform T]

def withTransform {T : Type} (transform : T) : WindowsH264Encoder T := ⟨none, transform, false⟩

def configure (e : WindowsH264Encoder T) (config : EncoderConfig) :
    Except CodecError Unit × WindowsH264Encoder T :=
  match config.validate with
  | .error err => (.error err, e)
  | .ok validated =>
    match EncoderTransform.configure e.transform validated with
    | (.error err, transform) => (.error err, { e with transform := transform })
    | (.ok (), transform) => (.ok (), ⟨some validated, transform, true⟩)

def encode (e : WindowsH264Encoder T) (frame : CapturedFrame) :
    Except CodecError EncodedFrame × WindowsH264Encoder T :=
  match e.config with
  | none => (.error .notConfigured, e)
  | some config =>
    if frame.width ≠ config.width ∨ frame.height ≠ config.height then
      (.error .frameDimensionsMismatch, e)
    else if frame.format ≠ .bgra8 ∨ frame.validate ≠ .ok () then (.error .invalidFrame, e)
    else
      match EncoderTransform.encode e.transform frame e.forceNextKeyframe with
      | (.ok output, transform) => (.ok output, ⟨some config, transform, false⟩)
      -- the worker has accepted the input, its output comes with a later call
      | (.error .outputPending, transform) =>
        (.error .outputPending, ⟨some config, transform, false⟩)
      | (.error err, transform) => (.error err, { e with transform := transform })

def requestKeyframe (e : WindowsH264Encoder T) : Except CodecError Unit × WindowsH264Encoder T :=
  (.ok (), { e with forceNextKeyframe := true })

def reconfigure (e : WindowsH264Encoder T) (config : EncoderConfig) :
    Except CodecError Unit × WindowsH264Encoder T :=
  match config.validate with
  | .error err => (.error err, e)
  | .ok validated =>
    match e.config with
    | none => e.configure validated
    | some previous =>
      let forceNextKeyframe := e.forceNextKeyframe ||
        (previous.width != validated.width || previous.height != validated.height)
      -- the configuration has been taken: it comes back only if all goes well
      match EncoderTransform.drain e.transform with
      | (.error err, transform) => (.error err, ⟨none, transform, e.forceNextKeyframe⟩)
      | (.ok (), transform) =>
        match EncoderTransform.configure transform validated with
        | (.error err, transform) => (.error err, ⟨none, transform, e.forceNextKeyframe⟩)
        | (.ok (), transform) => (.ok (), ⟨some validated, transform, forceNextKeyframe⟩)

instance : VideoEncoder (WindowsH264Encoder T) where
  configure := configure
  encode := encode
  requestKeyframe := requestKeyframe
  reconfigure := reconfigure

end WindowsH264Encoder

end WindowsEncoder
