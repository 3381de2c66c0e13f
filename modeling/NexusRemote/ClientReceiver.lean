import NexusRemote.Mealy
import NexusRemote.Reassembly
import NexusRemote.ReplayWindow

/-!
# The client's video receive path (`apps/nexus-client/src/receiver.rs`)

A datagram is decoded, handed to the reassembler, and a complete frame is
opened with the frame key before the replay window and the frame watermark are
committed and the job is published in a depth-one slot. The cursor state of the
receiver takes no part in this path.
-/

namespace ClientReceiver

open BigEndian FrameCrypto VideoPacket VideoTransport Reassembly ReplayWindow

def codecConfigId : UInt32 := 1

structure DecodedFrameJob where
  frameId : UInt32
  timestampUs : UInt64
  keyframe : Bool
  accessUnit : Bytes
  deriving DecidableEq, Repr

/-- The errors of `accept_datagram`. -/
inductive ClientReceiverError where
  | datagram (error : VideoDatagramError)
  | trailingDatagramBytes
  | reassembly (error : ReassemblyError)
  | authentication (error : AeadError)
  | nonceReplay
  deriving DecidableEq, Repr

structure Receiver where
  frameKey : Octets 32
  nonceDomain : UInt32
  reassembler : VideoFrameReassembler
  nonceReplayWindow : NonceReplayWindow
  latestFrame : Option DecodedFrameJob

namespace Receiver

def new (frameKey : Octets 32) (nonceDomain : UInt32) : Receiver :=
  ⟨frameKey, nonceDomain, .default, .default, none⟩

variable (A : Aead)

/-- The job that is published for a complete frame with the given plaintext. -/
def job (header : VideoPacketHeader) (accessUnit : Bytes) : DecodedFrameJob :=
  ⟨header.frameId, header.timestampUs, header.isKeyframe, accessUnit⟩

/-- `accept_datagram` from the point where the reassembler returned a frame. -/
def acceptAssembled (c : Receiver) (assembled : AssembledFrame) :
    Except ClientReceiverError Unit × Receiver :=
  let encrypted : EncryptedFrame :=
    ⟨nonceFromSequence c.nonceDomain assembled.header.nonceSequence, assembled.payload⟩
  match openEncodedFrame A c.frameKey (frameMetadata assembled.header codecConfigId) encrypted with
  | .error e => (.error (.authentication e), c)
  | .ok accessUnit =>
    match c.nonceReplayWindow.commitAuthenticated assembled.header.nonceSequence with
    | (false, window) => (.error .nonceReplay, { c with nonceReplayWindow := window })
    | (true, window) =>
      match c.reassembler.commitAuthenticatedFrame assembled.header.frameId with
      | (false, reassembler) =>
        (.ok (), { c with nonceReplayWindow := window, reassembler := reassembler })
      | (true, reassembler) =>
        (.ok (), { c with
          nonceReplayWindow := window
          reassembler := reassembler
          latestFrame := some (job assembled.header accessUnit) })

def acceptDatagram (c : Receiver) (bytes : Bytes) : Except ClientReceiverError Unit × Receiver :=
  match decodeVideoDatagram bytes with
  | .error e => (.error (.datagram e), c)
  | .ok (header, payload) =>
    if bytes.length ≠ headerLen + payload.length then (.error .trailingDatagramBytes, c)
    else
      match c.reassembler.processPacket header payload with
      | (.error e, reassembler) => (.error (.reassembly e), { c with reassembler := reassembler })
      | (.ok none, reassembler) => (.ok (), { c with reassembler := reassembler })
      | (.ok (some assembled), reassembler) =>
        acceptAssembled A { c with reassembler := reassembler } assembled

def drainLatestFrame (c : Receiver) : Option DecodedFrameJob × Receiver :=
  (c.latestFrame, { c with latestFrame := none })

/-- The job that a call publishes: what it leaves in an empty handoff slot. -/
def publishedBy (c : Receiver) (bytes : Bytes) : Option DecodedFrameJob :=
  (acceptDatagram A c.drainLatestFrame.2 bytes).2.latestFrame

/-- One call as a step with output: its result and the job it publishes. -/
def receive (c : Receiver) (bytes : Bytes) :
    (Except ClientReceiverError Unit × Option DecodedFrameJob) × Receiver :=
  (((acceptDatagram A c bytes).1, publishedBy A c bytes), (acceptDatagram A c bytes).2)

/-- The frame that the call's packet completes, if any. -/
def completedBy (c : Receiver) (bytes : Bytes) : Option AssembledFrame :=
  match decodeVideoDatagram bytes with
  | .error _ => none
  | .ok (header, payload) =>
    if bytes.length ≠ headerLen + payload.length then none
    else
      match (c.reassembler.processPacket header payload).1 with
      | .error _ => none
      | .ok assembled => assembled

/-- States that calls of the public interface can reach. -/
inductive Reachable (frameKey : Octets 32) (nonceDomain : UInt32) : Receiver → Prop
  | new : Reachable frameKey nonceDomain (new frameKey nonceDomain)
  | accept (c : Receiver) (bytes : Bytes) : Reachable frameKey nonceDomain c →
      Reachable frameKey nonceDomain (acceptDatagram A c bytes).2
  | drain (c : Receiver) : Reachable frameKey nonceDomain c →
      Reachable frameKey nonceDomain c.drainLatestFrame.2

/-! ## What one call can do -/

/-- Everything that has happened when a call publishes a job. -/
structure Publishes (c : Receiver) (bytes : Bytes) (assembled : AssembledFrame)
    (accessUnit : Bytes) : Prop where
  completed : c.completedBy bytes = some assembled
  opened : A.decrypt c.frameKey (nonceFromSequence c.nonceDomain assembled.header.nonceSequence)
    (frameMetadata assembled.header codecConfigId).aad.1 assembled.payload = some accessUnit
  unspent : ¬c.nonceReplayWindow.Spent assembled.header.nonceSequence
  fresh : c.reassembler.isStale assembled.header.frameId = false
  outcome : (receive A c bytes).1 = (.ok (), some (job assembled.header accessUnit))
  window : (receive A c bytes).2.nonceReplayWindow =
    c.nonceReplayWindow.recorded assembled.header.nonceSequence
  watermark : (receive A c bytes).2.reassembler.lastAuthenticatedFrameId =
    some assembled.header.frameId

/-- Everything that a call which publishes nothing may have changed. -/
structure Silent (c : Receiver) (bytes : Bytes) : Prop where
  outcome : (receive A c bytes).1.2 = none
  window : (receive A c bytes).2.nonceReplayWindow = c.nonceReplayWindow ∨
    ∃ n, (receive A c bytes).2.nonceReplayWindow = c.nonceReplayWindow.recorded n
  watermark : (receive A c bytes).2.reassembler.lastAuthenticatedFrameId =
    c.reassembler.lastAuthenticatedFrameId

@[simp] theorem job_frameId (header : VideoPacketHeader) (accessUnit : Bytes) :
    (job header accessUnit).frameId = header.frameId := rfl

/-- A call that passes the slot through publishes nothing. -/
theorem silent_of_slot_kept (c c' : Receiver) (bytes : Bytes)
    (result : Except ClientReceiverError Unit)
    (h : ∀ slot, acceptDatagram A { c with latestFrame := slot } bytes =
      (result, { c' with latestFrame := slot }))
    (hwindow : c'.nonceReplayWindow = c.nonceReplayWindow ∨
      ∃ n, c'.nonceReplayWindow = c.nonceReplayWindow.recorded n)
    (hlast : c'.reassembler.lastAuthenticatedFrameId = c.reassembler.lastAuthenticatedFrameId) :
    Silent A c bytes := by
  have hself := h c.latestFrame
  have hdrained := h none
  refine ⟨?_, ?_, ?_⟩
  · simp [receive, publishedBy, drainLatestFrame, hdrained]
  · simpa [receive, hself] using hwindow
  · simp [receive, hself, hlast]

/-- A call on a complete frame either publishes it or is silent. -/
theorem receive_assembled (c : Receiver) (bytes payload : Bytes) (header : VideoPacketHeader)
    (reassembler : VideoFrameReassembler) (assembled : AssembledFrame)
    (hdec : decodeVideoDatagram bytes = .ok (header, payload))
    (hlen : bytes.length = headerLen + payload.length)
    (hproc : c.reassembler.processPacket header payload = (.ok (some assembled), reassembler)) :
    (∃ accessUnit, Publishes A c bytes assembled accessUnit) ∨ Silent A c bytes := by
  have hlast : reassembler.lastAuthenticatedFrameId = c.reassembler.lastAuthenticatedFrameId := by
    have h := c.reassembler.processPacket_last header payload
    rwa [hproc] at h
  have heq : ∀ slot, acceptDatagram A { c with latestFrame := slot } bytes =
      acceptAssembled A { c with latestFrame := slot, reassembler := reassembler } assembled := by
    intro slot
    simp [acceptDatagram, hdec, hlen, hproc]
  cases ho : openEncodedFrame A c.frameKey (frameMetadata assembled.header codecConfigId)
      ⟨nonceFromSequence c.nonceDomain assembled.header.nonceSequence, assembled.payload⟩ with
  | error e =>
    refine .inr (silent_of_slot_kept A c { c with reassembler := reassembler } bytes
      (.error (.authentication e)) (fun slot => ?_) (.inl rfl) hlast)
    simp only [heq, acceptAssembled, ho]
  | ok accessUnit =>
    rcases hc : c.nonceReplayWindow.commitAuthenticated assembled.header.nonceSequence with
      ⟨_ | _, window⟩
    · obtain rfl := NonceReplayWindow.commit_false _ _ _ hc
      refine .inr (silent_of_slot_kept A c { c with reassembler := reassembler } bytes
        (.error .nonceReplay) (fun slot => ?_) (.inl rfl) hlast)
      simp only [heq, acceptAssembled, ho, hc]
    · obtain ⟨hunspent, rfl⟩ := NonceReplayWindow.commit_true _ _ _ hc
      cases hs : reassembler.isStale assembled.header.frameId with
      | true =>
        refine .inr (silent_of_slot_kept A c { c with
            nonceReplayWindow := c.nonceReplayWindow.recorded assembled.header.nonceSequence
            reassembler := reassembler } bytes (.ok ()) (fun slot => ?_) (.inr ⟨_, rfl⟩) hlast)
        simp only [heq, acceptAssembled, ho, hc, VideoFrameReassembler.commitAuthenticatedFrame, hs,
          ↓reduceIte]
      | false =>
        have hstale : c.reassembler.isStale assembled.header.frameId = false := by
          simpa only [VideoFrameReassembler.isStale, hlast] using hs
        have hself := heq c.latestFrame
        have hdrained := heq none
        simp only [acceptAssembled, ho, hc, VideoFrameReassembler.commitAuthenticatedFrame, hs,
          Bool.false_eq_true, ↓reduceIte] at hself hdrained
        refine .inl ⟨accessUnit, ?_, (openEncodedFrame_ok A _ _ _ _).mp ho, hunspent, hstale,
          ?_, ?_, ?_⟩
        · simp [completedBy, hdec, hlen, hproc]
        · simp [receive, publishedBy, drainLatestFrame, hself, hdrained]
        · simp [receive, hself]
        · simp [receive, hself, VideoFrameReassembler.pruneStaleBefore]

/-- Inversion of a call on arbitrary bytes. -/
theorem receive_cases (c : Receiver) (bytes : Bytes) :
    (∃ assembled accessUnit, Publishes A c bytes assembled accessUnit) ∨ Silent A c bytes := by
  cases hdec : decodeVideoDatagram bytes with
  | error e =>
    refine .inr (silent_of_slot_kept A c c bytes (.error (.datagram e)) (fun slot => ?_)
      (.inl rfl) rfl)
    simp [acceptDatagram, hdec]
  | ok decoded =>
    obtain ⟨header, payload⟩ := decoded
    by_cases hlen : bytes.length = headerLen + payload.length
    · have hlast := c.reassembler.processPacket_last header payload
      rcases hproc : c.reassembler.processPacket header payload with ⟨e | _ | assembled, reassembler⟩
      · rw [hproc] at hlast
        refine .inr (silent_of_slot_kept A c { c with reassembler := reassembler } bytes
          (.error (.reassembly e)) (fun slot => ?_) (.inl rfl) hlast)
        simp [acceptDatagram, hdec, hlen, hproc]
      · rw [hproc] at hlast
        refine .inr (silent_of_slot_kept A c { c with reassembler := reassembler } bytes
          (.ok ()) (fun slot => ?_) (.inl rfl) hlast)
        simp [acceptDatagram, hdec, hlen, hproc]
      · rcases receive_assembled A c bytes payload header reassembler assembled hdec hlen hproc with
          ⟨accessUnit, h⟩ | h
        · exact .inl ⟨assembled, accessUnit, h⟩
        · exact .inr h
    · refine .inr (silent_of_slot_kept A c c bytes (.error .trailingDatagramBytes) (fun slot => ?_)
        (.inl rfl) rfl)
      simp [acceptDatagram, hdec, hlen]

/-- A frame id that is stale stays stale, whatever arrives. -/
theorem receive_keeps_stale (c : Receiver) (bytes : Bytes) (frameId : UInt32)
    (h : c.reassembler.isStale frameId = true) :
    (receive A c bytes).2.reassembler.isStale frameId = true := by
  rcases receive_cases A c bytes with ⟨assembled, accessUnit, hp⟩ | hs
  · have hlt := c.reassembler.lt_of_stale_fresh frameId _ h hp.fresh
    simp only [VideoFrameReassembler.isStale, hp.watermark, decide_eq_true_eq]
    exact UInt32.le_of_lt hlt
  · simp only [VideoFrameReassembler.isStale, hs.watermark]
    exact h

/-- The key, the nonce domain and the byte budget are fixed when the receiver is
created. -/
theorem acceptDatagram_config (c : Receiver) (bytes : Bytes) :
    (acceptDatagram A c bytes).2.frameKey = c.frameKey ∧
      (acceptDatagram A c bytes).2.nonceDomain = c.nonceDomain ∧
      (acceptDatagram A c bytes).2.reassembler.maxFrameBytes = c.reassembler.maxFrameBytes := by
  have hassembled : ∀ (c : Receiver) assembled,
      (acceptAssembled A c assembled).2.frameKey = c.frameKey ∧
        (acceptAssembled A c assembled).2.nonceDomain = c.nonceDomain ∧
        (acceptAssembled A c assembled).2.reassembler.maxFrameBytes =
          c.reassembler.maxFrameBytes := by
    intro c assembled
    have hcommit := c.reassembler.commitAuthenticatedFrame_maxFrameBytes assembled.header.frameId
    simp only [acceptAssembled]
    split
    · simp
    · split
      · simp
      · split <;> simp_all
  cases hdec : decodeVideoDatagram bytes with
  | error e => simp [acceptDatagram, hdec]
  | ok decoded =>
    obtain ⟨header, payload⟩ := decoded
    have hbytes := c.reassembler.processPacket_maxFrameBytes header payload
    by_cases hlen : bytes.length = headerLen + payload.length
    · rcases hproc : c.reassembler.processPacket header payload with ⟨e | _ | assembled, reassembler⟩
      · simp_all [acceptDatagram]
      · simp_all [acceptDatagram]
      · have h := hassembled { c with reassembler := reassembler } assembled
        simp_all [acceptDatagram]
    · simp [acceptDatagram, hdec, hlen]

/-- From a complete frame on, an error is reported before anything is committed. -/
theorem acceptAssembled_error (c : Receiver) (assembled : AssembledFrame) (e : ClientReceiverError)
    (h : (acceptAssembled A c assembled).1 = .error e) : (acceptAssembled A c assembled).2 = c := by
  unfold acceptAssembled at h ⊢
  simp only at h ⊢
  split at h
  · rfl
  · split at h
    · rename_i hc
      rw [c.nonceReplayWindow.commit_false _ _ hc]
    · split at h <;> cases h

/-- A datagram that is answered with an error leaves the frame slot, the watermark and the
replay window as they were; at most the frames in flight have changed. -/
theorem failed_datagram_keeps_freshness (c : Receiver) (bytes : Bytes) (e : ClientReceiverError)
    (h : (acceptDatagram A c bytes).1 = .error e) :
    (acceptDatagram A c bytes).2.latestFrame = c.latestFrame ∧
      (acceptDatagram A c bytes).2.reassembler.lastAuthenticatedFrameId =
        c.reassembler.lastAuthenticatedFrameId ∧
      (acceptDatagram A c bytes).2.nonceReplayWindow = c.nonceReplayWindow ∧
      ∃ frames, (acceptDatagram A c bytes).2 =
        { c with reassembler := { c.reassembler with frames := frames } } := by
  have hstate : ∃ frames, (acceptDatagram A c bytes).2 =
      { c with reassembler := { c.reassembler with frames := frames } } := by
    cases hdec : decodeVideoDatagram bytes with
    | error e => exact ⟨c.reassembler.frames, by simp [acceptDatagram, hdec]⟩
    | ok decoded =>
      obtain ⟨header, payload⟩ := decoded
      by_cases hlen : bytes.length = headerLen + payload.length
      · obtain ⟨frames, hframes⟩ := c.reassembler.processPacket_frame header payload
        rcases hproc : c.reassembler.processPacket header payload with
          ⟨e | _ | assembled, reassembler⟩
        · rw [hproc] at hframes
          obtain rfl : reassembler = { c.reassembler with frames := frames } := hframes
          exact ⟨frames, by simp [acceptDatagram, hdec, hlen, hproc]⟩
        · simp [acceptDatagram, hdec, hlen, hproc] at h
        · rw [hproc] at hframes
          obtain rfl : reassembler = { c.reassembler with frames := frames } := hframes
          have heq : acceptDatagram A c bytes =
              acceptAssembled A
                { c with reassembler := { c.reassembler with frames := frames } } assembled := by
            simp [acceptDatagram, hdec, hlen, hproc]
          rw [heq] at h ⊢
          exact ⟨frames, acceptAssembled_error A _ assembled e h⟩
      · exact ⟨c.reassembler.frames, by simp [acceptDatagram, hdec, hlen]⟩
  refine ⟨?_, ?_, ?_, hstate⟩
  · obtain ⟨frames, heq⟩ := hstate
    rw [heq]
  · obtain ⟨frames, heq⟩ := hstate
    rw [heq]
  · obtain ⟨frames, heq⟩ := hstate
    rw [heq]

/-- A forged frame in one packet, shorter than a tag. -/
theorem failed_datagram_forged :
    let rejecting : Aead := ⟨fun _ _ _ _ => none, fun _ _ _ _ => none⟩
    let c : Receiver := .new (List.Vector.replicate 32 7) 1
    let bytes := VideoPacketHeader.encode ⟨2, 7, 3, 9, 0, 1, 1000, 5, 1⟩ [8] []
    (acceptDatagram rejecting c bytes).1 = .error (.authentication .authenticationFailed) ∧
      (acceptDatagram rejecting c bytes).2.reassembler.lastAuthenticatedFrameId = none := by
  intro rejecting c bytes
  have herror : (acceptDatagram rejecting c bytes).1 =
      .error (.authentication .authenticationFailed) := by decide +kernel
  exact ⟨herror, (failed_datagram_keeps_freshness rejecting c bytes _ herror).2.1⟩

/-- What `new` fixed holds in every reachable state. -/
theorem Reachable.config {frameKey : Octets 32} {nonceDomain : UInt32} {c : Receiver}
    (h : Reachable A frameKey nonceDomain c) :
    c.frameKey = frameKey ∧ c.nonceDomain = nonceDomain ∧
      c.reassembler.maxFrameBytes = maxFramePayloadSize := by
  induction h with
  | new => exact ⟨rfl, rfl, rfl⟩
  | accept c bytes _ ih =>
    obtain ⟨hk, hd, hm⟩ := acceptDatagram_config A c bytes
    exact ⟨hk.trans ih.1, hd.trans ih.2.1, hm.trans ih.2.2⟩
  | drain c _ ih => exact ih

end Receiver

end ClientReceiver
