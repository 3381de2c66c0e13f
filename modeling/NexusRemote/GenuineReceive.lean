import NexusRemote.ClientReceiver
import NexusRemote.HostStreamer

/-!
# The receiver on datagrams of a genuine frame

The calls of `accept_datagram` on fragments that a host sent: a fragment of a
stale frame is ignored, any other is collected, and the one that completes the
frame publishes what the host encoded.
-/

namespace GenuineReceive

open BigEndian FrameCrypto VideoPacket VideoTransport Reassembly ReplayWindow ClientReceiver
open HostMedia HostStreamer.HostVideoStreamer ClientReceiver.Receiver

variable (A : Aead)

/-- The job that shows the encoded frame to the decoder. -/
def jobOf (encoded : EncodedFrame) : DecodedFrameJob :=
  ⟨encoded.frameId.toUInt32, encoded.timestampUs, encoded.keyframe, encoded.data⟩

/-- The receiver state with another table of incomplete frames. -/
def withFrames (c : Receiver) (frames : Std.TreeMap UInt32 InFlightFrame) : Receiver :=
  { c with reassembler := { c.reassembler with frames := frames } }

/-- The receiver state after a job was published from a frame. -/
def published (c : Receiver) (frames : Std.TreeMap UInt32 InFlightFrame) (X : WireFrame)
    (encoded : EncodedFrame) : Receiver :=
  { c with
    reassembler := { c.reassembler with
      frames := frames
      lastAuthenticatedFrameId := some X.base.frameId }
    nonceReplayWindow := c.nonceReplayWindow.recorded X.base.nonceSequence
    latestFrame := some (jobOf encoded) }

/-- Entries stay or are given up, apart from one frame's own. -/
def Thins (c : Receiver) (frames : Std.TreeMap UInt32 InFlightFrame) (X : WireFrame) : Prop :=
  ∀ k, k ≠ X.base.frameId → frames[k]? = c.reassembler.frames[k]? ∨ frames[k]? = none

theorem accept_genuine (c : Receiver) (X : WireFrame) (i : Nat) (hi : i < X.count)
    (assembled : Option AssembledFrame) (reassembler : VideoFrameReassembler)
    (hproc : c.reassembler.processPacket (X.header i) (X.piece i) = (.ok assembled, reassembler)) :
    acceptDatagram A c (X.datagram i) =
      match assembled with
      | none => (.ok (), { c with reassembler := reassembler })
      | some assembled => acceptAssembled A { c with reassembler := reassembler } assembled := by
  cases assembled <;> simp [acceptDatagram, X.decode_datagram i hi, hproc]

/-- A call whose packet completes nothing. -/
theorem receive_incomplete (c : Receiver) (X : WireFrame) (i : Nat) (hi : i < X.count)
    (h : (c.reassembler.processPacket (X.header i) (X.piece i)).1 = .ok none) :
    receive A c (X.datagram i) = ((.ok (), none),
      withFrames c (c.reassembler.processPacket (X.header i) (X.piece i)).2.frames) := by
  obtain ⟨frames, hframes⟩ := c.reassembler.processPacket_frame (X.header i) (X.piece i)
  have hproc : c.reassembler.processPacket (X.header i) (X.piece i) =
      (.ok none, { c.reassembler with frames := frames }) := Prod.ext h hframes
  have hself := accept_genuine A c X i hi none _ hproc
  have hdrained := accept_genuine A c.drainLatestFrame.2 X i hi none _ hproc
  simp only [receive, publishedBy, hself, hdrained, hproc]
  rfl

/-- Fragments of a frame at or below the watermark change nothing. -/
theorem receive_stale (c : Receiver) (X : WireFrame) (i : Nat) (hi : i < X.count)
    (hstale : c.reassembler.isStale X.base.frameId = true) :
    receive A c (X.datagram i) = ((.ok (), none), c) := by
  have hproc := c.reassembler.processPacket_stale X i hi hstale
  rw [receive_incomplete A c X i hi (by rw [hproc]), hproc]
  rfl

/-- A fragment that does not complete its frame is collected. -/
theorem receive_collects (c : Receiver) (X : WireFrame) (S : Finset Nat) (i : Nat)
    (hi : i < X.count) (hstale : c.reassembler.isStale X.base.frameId = false)
    (hbytes : maxFramePayloadSize ≤ c.reassembler.maxFrameBytes) (hp : c.reassembler.Progress X S)
    (hmore : insert i S ≠ Finset.range X.count) :
    ∃ frames, receive A c (X.datagram i) = ((.ok (), none), withFrames c frames) ∧
      (withFrames c frames).reassembler.Progress X (insert i S) ∧ Thins c frames X := by
  obtain ⟨-, hcollect, hother⟩ :=
    c.reassembler.processPacket_genuine X S i hi hstale (X.size_le.trans hbytes) hp
  obtain ⟨hout, hprogress⟩ := hcollect hmore
  exact ⟨_, receive_incomplete A c X i hi hout, hprogress, hother⟩

/-- The job of a frame that was sent keeps the whole identifier. -/
theorem jobOf_frameId_toNat {key : Octets 32} {X : WireFrame} {encoded : EncodedFrame}
    (h : Carries A key X encoded) : (jobOf encoded).frameId.toNat = encoded.frameId.toNat := by
  rw [← h.frameId, h.frameId_eq]
  rfl

/-- A reassembled frame opens to what the host encoded. -/
theorem restored_opens (hopen : A.OpensSealed) {key : Octets 32} {a : AssembledFrame} {X : WireFrame}
    {encoded : EncodedFrame} (hrestores : a.Restores X) (hcarries : Carries A key X encoded) :
    openEncodedFrame A key (frameMetadata a.header codecConfigId)
      ⟨nonceFromSequence 1 X.base.nonceSequence, a.payload⟩ = .ok encoded.data := by
  have hmeta : frameMetadata a.header codecConfigId = frameMetadata X.base 1 := by
    simp only [frameMetadata, hrestores.version, hrestores.streamId, hrestores.frameId,
      hrestores.timestampUs, hrestores.keyframe]
    rfl
  rw [openEncodedFrame_ok, hmeta, hrestores.payload]
  exact hopen _ _ _ _ _ hcarries.encrypted

/-- The job of a reassembled frame shows the frame that the host encoded. -/
theorem restored_job {key : Octets 32} {a : AssembledFrame} {X : WireFrame} {encoded : EncodedFrame}
    (hrestores : a.Restores X) (hcarries : Carries A key X encoded) :
    job a.header encoded.data = jobOf encoded := by
  simp only [job, jobOf, hrestores.frameId, hrestores.timestampUs, hrestores.keyframe,
    hcarries.frameId_eq, hcarries.timestampUs, hcarries.keyframe]

/-- The fragment that completes its frame publishes what the host encoded. -/
theorem receive_completes (hopen : A.OpensSealed) (c : Receiver) (X : WireFrame)
    (encoded : EncodedFrame) (S : Finset Nat) (i : Nat) (hi : i < X.count)
    (hstale : c.reassembler.isStale X.base.frameId = false)
    (hbytes : maxFramePayloadSize ≤ c.reassembler.maxFrameBytes) (hp : c.reassembler.Progress X S)
    (hall : insert i S = Finset.range X.count) (hcarries : Carries A c.frameKey X encoded)
    (hdomain : c.nonceDomain = 1)
    (hunspent : ¬c.nonceReplayWindow.Spent X.base.nonceSequence) :
    ∃ frames, receive A c (X.datagram i) =
        ((.ok (), some (jobOf encoded)), published c frames X encoded) ∧
      frames[X.base.frameId]? = none ∧ Thins c frames X := by
  obtain ⟨hcomplete, -, hother⟩ :=
    c.reassembler.processPacket_genuine X S i hi hstale (X.size_le.trans hbytes) hp
  obtain ⟨a, hout, hrestores, hgone⟩ := hcomplete hall
  obtain ⟨frames, hframes⟩ := c.reassembler.processPacket_frame (X.header i) (X.piece i)
  have hproc : c.reassembler.processPacket (X.header i) (X.piece i) =
      (.ok (some a), { c.reassembler with frames := frames }) := Prod.ext hout hframes
  rw [hframes] at hgone hother
  have hopened : openEncodedFrame A c.frameKey (frameMetadata a.header codecConfigId)
      ⟨nonceFromSequence c.nonceDomain X.base.nonceSequence, a.payload⟩ = .ok encoded.data := by
    rw [hdomain]
    exact restored_opens A hopen hrestores hcarries
  have hjob : job a.header encoded.data = jobOf encoded := restored_job A hrestores hcarries
  -- The commit also drops every older incomplete frame.
  let r : VideoFrameReassembler := { c.reassembler with frames := frames }
  let kept := (r.pruneStaleBefore X.base.frameId).frames
  have haccept : ∀ l, acceptDatagram A { c with latestFrame := l } (X.datagram i) =
      (.ok (), published c kept X encoded) := by
    intro l
    have hs : r.isStale X.base.frameId = false := hstale
    have hcommit := c.nonceReplayWindow.commit_eq X.base.nonceSequence hunspent
    rw [accept_genuine A { c with latestFrame := l } X i hi (some a) r hproc]
    simp only [acceptAssembled, hopened, hrestores.nonceSequence, hcommit, hrestores.frameId,
      VideoFrameReassembler.commitAuthenticatedFrame, hs, Bool.false_eq_true, ↓reduceIte, hjob]
    rfl
  have hself := haccept c.latestFrame
  have hdrained := haccept none
  refine ⟨kept, ?_, ?_, ?_⟩
  · simp only [receive, publishedBy, drainLatestFrame, hself, hdrained]
    rfl
  · rw [VideoFrameReassembler.pruneStaleBefore_get]
    split
    · rfl
    · exact hgone
  · intro k hk
    rw [VideoFrameReassembler.pruneStaleBefore_get]
    split
    · exact .inr rfl
    · exact hother k hk

end GenuineReceive
