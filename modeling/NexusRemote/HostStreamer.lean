import NexusRemote.HostMedia
import NexusRemote.VideoTransport

/-!
# The host's video pipeline (`apps/nexus-desktop-host/src/streamer.rs`)

Capture, encode, seal, packetize. A streamer always carries the nonce domain,
codec configuration and stream id that `new` gives it.
-/

namespace HostStreamer

open BigEndian FrameCrypto VideoPacket VideoTransport HostMedia

inductive StreamerError where
  | capture (message : String)
  | codec (error : CodecError)
  | seal (error : FrameSealError)
  | packetize (error : PacketizeError)
  | datagram (error : VideoDatagramError)
  | frameIdOutOfRange (frameId : UInt64)
  | channelClosed
  deriving DecidableEq, Repr

structure HostVideoStreamer (C : Type) where
  capture : C
  encoder : SoftwareFallbackEncoder
  queue : LatestFrameQueue CapturedFrame
  aeadKey : Octets 32
  nonceSeq : NonceSequence
  codecConfigId : UInt32
  streamId : UInt8
  domain_eq : nonceSeq.domain = 1
  config_eq : codecConfigId = 1
  stream_eq : streamId = 1

/-- What a packetizing call does: its result, the streamer it leaves behind, and
the nonce it handed to the cipher. -/
structure Outcome (C : Type) where
  result : Except StreamerError (List Bytes)
  streamer : HostVideoStreamer C
  spent : Option (Octets 12)

/-- Allocation stays in its domain. -/
theorem nextNonce_domain (s : NonceSequence) : s.nextNonce.2.domain = s.domain := by
  rcases h : s.nextNonce with ⟨e | nonce, s'⟩
  · rw [(nextNonce_error s s' e h).1]
  · exact (nextNonce_ok s s' nonce h).2.2.2

namespace HostVideoStreamer

variable {C : Type} (A : Aead)

/-- A streamer around a configured encoder. -/
def fresh (capture : C) (encoder : SoftwareFallbackEncoder) (aeadKey : Octets 32) :
    HostVideoStreamer C :=
  ⟨capture, encoder, .new, aeadKey, NonceSequence.new 1, 1, 1, rfl, rfl, rfl⟩

def new (capture : C) (aeadKey : Octets 32) (width height : UInt32) :
    Except StreamerError (HostVideoStreamer C) :=
  let encoderConfig : EncoderConfig := ⟨.h264, width, height, 30, 4000000⟩
  match SoftwareFallbackEncoder.new.configure encoderConfig with
  | (.error e, _) => .error (.codec e)
  | (.ok (), encoder) => .ok (fresh capture encoder aeadKey)

/-- The header all fragments of a frame start from, before it is sealed. -/
def baseHeader (s : HostVideoStreamer C) (encoded : EncodedFrame) (frameId : UInt32) :
    VideoPacketHeader where
  version := currentVersion
  flags := if encoded.keyframe then 0 ||| flagKeyframe else 0
  streamId := s.streamId.toUInt16
  frameId := frameId
  packetId := 0
  packetCount := 1
  timestampUs := encoded.timestampUs
  nonceSequence := 0
  payloadLen := 0

/-- Packetization and wire encoding of a sealed frame. -/
def encodeSealed (base : VideoPacketHeader) (encrypted : EncryptedFrame) :
    Except StreamerError (List Bytes) :=
  let base := { base with nonceSequence := sequenceSuffix encrypted.nonce }
  match packetizeVideoFrame base encrypted.ciphertext 1200 with
  | .error e => .error (.packetize e)
  | .ok packets =>
    match packets.mapM fun p => encodeVideoDatagram p.1 p.2 with
    | .error e => .error (.datagram e)
    | .ok datagrams => .ok datagrams

/-- The streamer with its allocator moved on. -/
def withNonceSeq (s : HostVideoStreamer C) (n : NonceSequence)
    (h : n.domain = s.nonceSeq.domain) : HostVideoStreamer C :=
  { s with nonceSeq := n, domain_eq := h.trans s.domain_eq }

def packetizeEncodedFrame (s : HostVideoStreamer C) (encoded : EncodedFrame) : Outcome C :=
  if encoded.frameId.toNat < 2 ^ 32 then
    let base := s.baseHeader encoded encoded.frameId.toUInt32
    let out := sealVideoFrame A s.aeadKey s.nonceSeq base s.codecConfigId encoded.data
    { result :=
        match out.result with
        | .error e => .error (.seal e)
        | .ok encrypted => encodeSealed base encrypted
      streamer := s.withNonceSeq out.sequence (by simp [out, sealVideoFrame, nextNonce_domain])
      spent := out.spent }
  else ⟨.error (.frameIdOutOfRange encoded.frameId), s, none⟩

def packetizeEncodeResult (s : HostVideoStreamer C)
    (encoded : Except CodecError EncodedFrame) : Outcome C :=
  match encoded with
  | .ok encoded => packetizeEncodedFrame A s encoded
  | .error .outputPending => ⟨.ok [], s, none⟩
  | .error e => ⟨.error (.codec e), s, none⟩

def processNextFrame [CaptureSource C] (s : HostVideoStreamer C) : Outcome C :=
  match CaptureSource.nextFrame s.capture with
  | (.error message, capture) => ⟨.error (.capture message), { s with capture := capture }, none⟩
  | (.ok frame, capture) =>
    match (s.queue.replace frame).take with
    | (none, queue) => ⟨.ok [], { s with capture := capture, queue := queue }, none⟩
    | (some latest, queue) =>
      let (encoded, encoder) := s.encoder.encode latest
      packetizeEncodeResult A { s with capture := capture, queue := queue, encoder := encoder }
        encoded

def requestKeyframe (s : HostVideoStreamer C) : HostVideoStreamer C :=
  { s with encoder := s.encoder.requestKeyframe }

@[simp] theorem withNonceSeq_nonceSeq (s : HostVideoStreamer C) (n : NonceSequence)
    (h : n.domain = s.nonceSeq.domain) : (s.withNonceSeq n h).nonceSeq = n := rfl

/-! ## What a packetizing call does -/

/-- The wire frame carries the encoded frame: its metadata in clear and its data
sealed under the key, the frame's own nonce and that metadata. -/
structure Carries (key : Octets 32) (X : WireFrame) (encoded : EncodedFrame) : Prop where
  frameId : X.base.frameId.toNat = encoded.frameId.toNat
  timestampUs : X.base.timestampUs = encoded.timestampUs
  keyframe : X.base.isKeyframe = encoded.keyframe
  encrypted : A.encrypt key (nonceFromSequence 1 X.base.nonceSequence)
    (frameMetadata X.base 1).aad.1 encoded.data = some X.pieces.flatten

/-- The packets name the frame by its identifier as a 32-bit word. -/
theorem Carries.frameId_eq {key : Octets 32} {X : WireFrame} {encoded : EncodedFrame}
    (h : Carries A key X encoded) : X.base.frameId = encoded.frameId.toUInt32 := by
  apply UInt32.toNat_inj.mp
  have hlt := X.base.frameId.toNat_lt
  have heq := h.frameId
  rw [UInt64.toNat_toUInt32]
  omega

@[simp] theorem baseHeader_isKeyframe (s : HostVideoStreamer C) (encoded : EncodedFrame)
    (frameId : UInt32) : (s.baseHeader encoded frameId).isKeyframe = encoded.keyframe := by
  cases h : encoded.keyframe <;>
    simp [baseHeader, VideoPacketHeader.isKeyframe, h, flagKeyframe]

/-- Every packet of a wire frame encodes. -/
theorem mapM_encode (X : WireFrame) :
    ((List.range X.count).map fun i => (X.header i, X.piece i)).mapM
      (fun p => encodeVideoDatagram p.1 p.2) = .ok X.datagrams := by
  have hall : ∀ is : List Nat, (∀ i ∈ is, i < X.count) →
      (is.map fun i => (X.header i, X.piece i)).mapM (fun p => encodeVideoDatagram p.1 p.2) =
        .ok (is.map X.datagram) := by
    intro is
    induction is with
    | nil => intro _; rfl
    | cons i is ih =>
      intro h
      have hi := X.encode_datagram i (h i (by simp))
      have hrest := ih fun j hj => h j (by simp [hj])
      rw [List.map_cons, List.mapM_cons, hi, hrest]
      rfl
  exact hall _ fun i hi => List.mem_range.mp hi

/-- What is sent of a sealed frame is a wire frame with its ciphertext. -/
theorem encodeSealed_ok (base : VideoPacketHeader) (encrypted : EncryptedFrame)
    (datagrams : List Bytes) (hv : base.version = currentVersion)
    (h : encodeSealed base encrypted = .ok datagrams) :
    ∃ X : WireFrame, X.base = { base with nonceSequence := sequenceSuffix encrypted.nonce } ∧
      X.pieces.flatten = encrypted.ciphertext ∧ datagrams = X.datagrams := by
  simp only [encodeSealed] at h
  split at h
  · cases h
  · rename_i packets hp
    obtain ⟨X, hbase, hflat, rfl⟩ :=
      packetize_ok { base with nonceSequence := sequenceSuffix encrypted.nonce } _ _ _ hv hp
    rw [mapM_encode] at h
    exact ⟨X, hbase, hflat, (Except.ok.inj h).symm⟩

theorem packetize_out_of_range (s : HostVideoStreamer C) (encoded : EncodedFrame)
    (h : ¬encoded.frameId.toNat < 2 ^ 32) :
    packetizeEncodedFrame A s encoded =
      ⟨.error (.frameIdOutOfRange encoded.frameId), s, none⟩ := if_neg h

/-- The call moves the allocator on and spends its nonce, whatever comes after. -/
theorem packetize_spent (s : HostVideoStreamer C) (encoded : EncodedFrame)
    (h : encoded.frameId.toNat < 2 ^ 32) :
    (packetizeEncodedFrame A s encoded).spent = s.nonceSeq.nextNonce.1.toOption ∧
      (packetizeEncodedFrame A s encoded).streamer.nonceSeq = s.nonceSeq.nextNonce.2 := by
  simp only [packetizeEncodedFrame, if_pos h, withNonceSeq_nonceSeq, sealVideoFrame,
    sealEncodedFrame_spent, sealEncodedFrame_sequence, and_self]

@[simp] theorem packetize_aeadKey (s : HostVideoStreamer C) (encoded : EncodedFrame) :
    (packetizeEncodedFrame A s encoded).streamer.aeadKey = s.aeadKey := by
  unfold packetizeEncodedFrame
  split <;> rfl

/-- A successful call sends a wire frame that carries the encoded frame under
the allocator's current position. -/
theorem packetize_sent (s : HostVideoStreamer C) (encoded : EncodedFrame) (datagrams : List Bytes)
    (h : (packetizeEncodedFrame A s encoded).result = .ok datagrams) :
    ∃ X : WireFrame, datagrams = X.datagrams ∧ Carries A s.aeadKey X encoded ∧
      X.base.nonceSequence.toNat = s.nonceSeq.position ∧
      (packetizeEncodedFrame A s encoded).streamer.nonceSeq.position = s.nonceSeq.position + 1 := by
  by_cases hid : encoded.frameId.toNat < 2 ^ 32
  · have hnext := (packetize_spent A s encoded hid).2
    simp only [packetizeEncodedFrame, if_pos hid] at h
    split at h
    · cases h
    · rename_i encrypted hseal
      obtain ⟨hn, henc⟩ := sealEncodedFrame_ok A _ _ _ _ _ hseal
      obtain ⟨hroom, hnonce, hpos, -⟩ :=
        nextNonce_ok s.nonceSeq s.nonceSeq.nextNonce.2 encrypted.nonce (Prod.ext hn rfl)
      obtain ⟨X, hbase, hflat, rfl⟩ := encodeSealed_ok _ _ _ rfl h
      have hseq : X.base.nonceSequence = UInt64.ofNat s.nonceSeq.position := by
        rw [hbase, hnonce]
        simp
      refine ⟨X, rfl, ⟨?_, ?_, ?_, ?_⟩, ?_, ?_⟩
      · rw [hbase]
        simp only [baseHeader, UInt64.toNat_toUInt32]
        omega
      · rw [hbase]
        rfl
      · rw [hbase]
        exact baseHeader_isKeyframe s encoded encoded.frameId.toUInt32
      · rw [hflat, hseq, ← henc, hbase, hnonce, s.domain_eq, s.config_eq]
        rfl
      · rw [hseq, UInt64.toNat_ofNat', Nat.mod_eq_of_lt hroom]
      · rw [hnext, hpos]
  · rw [packetize_out_of_range A s encoded hid] at h
    cases h

/-- A frame within the size limit is sent whenever it can be sealed. -/
theorem packetize_succeeds (s : HostVideoStreamer C) (encoded : EncodedFrame)
    (htag : A.TagAddsSixteen) (hid : encoded.frameId.toNat < 2 ^ 32)
    (hsize : encoded.data.length ≤ maxFramePayloadSize - 16) (hroom : s.nonceSeq.exhausted = false)
    (hcipher : ∀ nonce aad, (A.encrypt s.aeadKey nonce aad encoded.data).isSome) :
    ∃ datagrams, (packetizeEncodedFrame A s encoded).result = .ok datagrams := by
  have hseal : ∃ encrypted, (sealVideoFrame A s.aeadKey s.nonceSeq
      (s.baseHeader encoded encoded.frameId.toUInt32) s.codecConfigId encoded.data).result =
        .ok encrypted ∧ encrypted.ciphertext.length ≤ maxFramePayloadSize := by
    rcases hn : s.nonceSeq.nextNonce with ⟨e | nonce, n⟩
    · simp [NonceSequence.nextNonce, hroom] at hn
    · obtain ⟨ct, hct⟩ := Option.isSome_iff_exists.mp
        (hcipher nonce (frameMetadata (s.baseHeader encoded encoded.frameId.toUInt32)
          s.codecConfigId).aad.1)
      have hlen := htag _ _ _ _ _ hct
      refine ⟨⟨nonce, ct⟩, by simp [sealVideoFrame, sealEncodedFrame, hn, sealSessionPayload, hct], ?_⟩
      simp only [maxFramePayloadSize] at hsize ⊢
      omega
  obtain ⟨encrypted, hseal, hlen⟩ := hseal
  have hcount : Fragments.pieces 1200 encrypted.ciphertext.length ≤ maxPacketsPerFrame :=
    le_trans (Fragments.pieces_mono 1200 _ _ hlen) (by decide)
  obtain ⟨packets, hp⟩ := packetize_fits
    { s.baseHeader encoded encoded.frameId.toUInt32 with
      nonceSequence := sequenceSuffix encrypted.nonce } encrypted.ciphertext 1200 (by decide)
    (by decide) hlen hcount
  obtain ⟨X, -, -, rfl⟩ := packetize_ok _ _ _ _ rfl hp
  exact ⟨X.datagrams, by simp only [packetizeEncodedFrame, if_pos hid, hseal, encodeSealed, hp,
    mapM_encode]⟩

end HostVideoStreamer

end HostStreamer
