import NexusRemote.ChaCha20Poly1305
import NexusRemote.GenuineReceive

/-!
# Delivery of one frame, end to end

The datagrams of one encoded frame reach a receiver in any order and with any
repetitions. The receiver is collecting while fragments are missing and settled
from the call that delivers the last missing one.
-/

namespace VideoDelivery

open BigEndian FrameCrypto VideoPacket VideoTransport Reassembly ReplayWindow ClientReceiver
open HostMedia HostStreamer HostStreamer.HostVideoStreamer ClientReceiver.Receiver GenuineReceive

variable (A : Aead)

/-- The fragments of `X` among the datagrams that have arrived. -/
def seen (X : WireFrame) (arrived : List Bytes) : Finset Nat :=
  (Finset.range X.count).filter fun i => X.datagram i ∈ arrived

theorem seen_eq (X : WireFrame) (arrived : List Bytes) :
    seen X arrived = Fragments.among X.datagram X.count arrived := by
  ext i
  simp [seen, Fragments.mem_among]

@[simp] theorem seen_nil (X : WireFrame) : seen X [] = ∅ := by simp [seen]

theorem seen_concat (X : WireFrame) (arrived : List Bytes) (i : Nat) (hi : i < X.count) :
    seen X (arrived ++ [X.datagram i]) = insert i (seen X arrived) := by
  rw [seen_eq, seen_eq]
  exact Fragments.among_concat X.datagram X.count arrived i hi
    fun j hj h => X.datagram_inj j i hj hi h

/-- Everything has been seen exactly when every datagram has arrived. -/
theorem seen_all_iff (X : WireFrame) (arrived : List Bytes) :
    seen X arrived = Finset.range X.count ↔ ∀ d ∈ X.datagrams, d ∈ arrived := by
  rw [seen_eq]
  exact Fragments.among_all_iff X.datagram X.count arrived

/-- The receiver lacks fragments of `X` and would publish it. -/
structure Collecting (c : Receiver) (X : WireFrame) (encoded : EncodedFrame)
    (S : Finset Nat) : Prop where
  fresh : c.reassembler.isStale X.base.frameId = false
  budget : maxFramePayloadSize ≤ c.reassembler.maxFrameBytes
  progress : c.reassembler.Progress X S
  carries : Carries A c.frameKey X encoded
  domain : c.nonceDomain = 1
  unspent : ¬c.nonceReplayWindow.Spent X.base.nonceSequence

/-- Where the receiver stands after some datagrams of `X` have arrived. -/
def Phase (c : Receiver) (X : WireFrame) (encoded : EncodedFrame) (arrived : List Bytes) : Prop :=
  if seen X arrived = Finset.range X.count then c.reassembler.isStale X.base.frameId = true
  else Collecting A c X encoded (seen X arrived)

/-- The output of a call that turns `arrived` into `arrived'`. -/
def expected (X : WireFrame) (encoded : EncodedFrame) (arrived arrived' : List Bytes) :
    Option DecodedFrameJob :=
  if seen X arrived ≠ Finset.range X.count ∧ seen X arrived' = Finset.range X.count then
    some (jobOf encoded)
  else none

/-- What two deliveries in a row publish. -/
theorem expected_append (X : WireFrame) (encoded : EncodedFrame) (arrived more rest : List Bytes) :
    (expected X encoded arrived (arrived ++ more)).toList ++
        (expected X encoded (arrived ++ more) (arrived ++ more ++ rest)).toList =
      (expected X encoded arrived (arrived ++ more ++ rest)).toList := by
  have hgrow : ∀ xs ys, seen X xs = Finset.range X.count →
      seen X (xs ++ ys) = Finset.range X.count := by
    intro xs ys h
    rw [seen_all_iff] at h ⊢
    intro d hd
    exact List.mem_append_left ys (h d hd)
  by_cases h₁ : seen X arrived = Finset.range X.count
  · have h₂ := hgrow arrived more h₁
    simp [expected, h₁, h₂]
  · by_cases h₂ : seen X (arrived ++ more) = Finset.range X.count
    · have h₃ := hgrow (arrived ++ more) rest h₂
      simp [expected, h₁, h₂, -List.append_assoc, h₃]
    · simp [expected, h₁, h₂, -List.append_assoc]

/-- One call: it succeeds, and it publishes exactly when it completes the set. -/
theorem receive_phase (hopen : A.OpensSealed) (c : Receiver) (X : WireFrame)
    (encoded : EncodedFrame) (arrived : List Bytes) (d : Bytes) (hd : d ∈ X.datagrams)
    (h : Phase A c X encoded arrived) :
    (receive A c d).1 = (.ok (), expected X encoded arrived (arrived ++ [d])) ∧
      Phase A (receive A c d).2 X encoded (arrived ++ [d]) := by
  obtain ⟨i, hi, rfl⟩ := List.mem_map.mp hd
  rw [List.mem_range] at hi
  simp only [Phase, expected, seen_concat X arrived i hi] at h ⊢
  by_cases hdone : seen X arrived = Finset.range X.count
  · have hins : insert i (seen X arrived) = Finset.range X.count := by
      rw [hdone, Finset.insert_eq_self, Finset.mem_range]
      exact hi
    rw [if_pos hdone] at h
    rw [receive_stale A c X i hi h]
    rw [if_pos hins]
    exact ⟨by simp [hdone], h⟩
  · rw [if_neg hdone] at h
    by_cases hins : insert i (seen X arrived) = Finset.range X.count
    · obtain ⟨frames, heq, -, -⟩ := receive_completes A hopen c X encoded (seen X arrived) i hi
        h.fresh h.budget h.progress hins h.carries h.domain h.unspent
      rw [heq]
      simp [hdone, hins, published, VideoFrameReassembler.isStale]
    · obtain ⟨frames, heq, hprogress, -⟩ := receive_collects A c X (seen X arrived) i hi
        h.fresh h.budget h.progress hins
      rw [heq]
      refine ⟨by simp [hins], ?_⟩
      rw [if_neg hins]
      exact ⟨h.fresh, h.budget, hprogress, h.carries, h.domain, h.unspent⟩

/-- A whole delivery, from any point of it: all calls succeed, and the job comes
out once if the delivery closes the gap. -/
theorem run_phase (hopen : A.OpensSealed) (X : WireFrame) (encoded : EncodedFrame)
    (arrivals : List Bytes) (hd : ∀ d ∈ arrivals, d ∈ X.datagrams) (c : Receiver)
    (arrived : List Bytes) (h : Phase A c X encoded arrived) :
    (∀ o ∈ Mealy.trace (receive A) c arrivals, o.1 = .ok ()) ∧
      (Mealy.trace (receive A) c arrivals).filterMap Prod.snd =
        (expected X encoded arrived (arrived ++ arrivals)).toList ∧
      Phase A (Mealy.after (receive A) c arrivals) X encoded (arrived ++ arrivals) := by
  induction arrivals generalizing c arrived with
  | nil =>
    refine ⟨by simp, ?_, by simpa using h⟩
    rw [List.append_nil, expected, if_neg (by tauto)]
    rfl
  | cons d arrivals ih =>
    obtain ⟨hout, hphase⟩ := receive_phase A hopen c X encoded arrived d (hd d (by simp)) h
    obtain ⟨hok, hjobs, hend⟩ :=
      ih (fun e he => hd e (by simp [he])) (receive A c d).2 (arrived ++ [d]) hphase
    have hsplit : arrived ++ d :: arrivals = arrived ++ [d] ++ arrivals := by simp
    rw [hsplit]
    refine ⟨?_, ?_, hend⟩
    · simp only [Mealy.trace_cons, List.forall_mem_cons]
      exact ⟨by rw [hout], hok⟩
    · rw [Mealy.trace_cons, List.filterMap_cons, hout, hjobs, ← expected_append]
      cases expected X encoded arrived (arrived ++ [d]) <;> rfl

/-- What the claimant of a delivery sees: every call returns `Ok`, one job comes
out, it shows the encoded frame, and the call that publishes it is the one that
delivers the last missing datagram. -/
structure DeliversOnce (c : Receiver) (encoded : EncodedFrame)
    (datagrams arrivals : List Bytes) : Prop where
  accepted : ∀ o ∈ Mealy.trace (receive A) c arrivals, o.1 = .ok ()
  once : ∃ job, (Mealy.trace (receive A) c arrivals).filterMap Prod.snd = [job] ∧
    job.frameId.toNat = encoded.frameId.toNat ∧ job.timestampUs = encoded.timestampUs ∧
    job.keyframe = encoded.keyframe ∧ job.accessUnit = encoded.data
  last : ∀ before d after, arrivals = before ++ d :: after →
    ((publishedBy A (Mealy.after (receive A) c before) d).isSome = true ↔
      (∃ d' ∈ datagrams, d' ∉ before) ∧ ∀ d' ∈ datagrams, d' ∈ before ++ [d])

/-- The sealed frame carries the allocator's counter. -/
theorem sent_next {C : Type} (s : HostVideoStreamer C) (X : WireFrame)
    (h : X.base.nonceSequence.toNat = s.nonceSeq.position) :
    X.base.nonceSequence = s.nonceSeq.next := by
  have hlt := X.base.nonceSequence.toNat_lt
  unfold NonceSequence.position at h
  split at h
  · omega
  · exact UInt64.toNat_inj.mp h

/-- A complete delivery of a wire frame to a receiver that still wants it. -/
theorem delivers_once (hopen : A.OpensSealed) (c : Receiver) (X : WireFrame)
    (encoded : EncodedFrame) (hc : Collecting A c X encoded ∅) (arrivals : List Bytes)
    (honly : ∀ d ∈ arrivals, d ∈ X.datagrams) (hall : ∀ d ∈ X.datagrams, d ∈ arrivals) :
    DeliversOnce A c encoded X.datagrams arrivals := by
  have hstart : seen X [] ≠ Finset.range X.count := by
    rw [seen_nil]
    exact hc.progress.ne_all
  have hphase : Phase A c X encoded [] := by
    rw [Phase, if_neg hstart, seen_nil]
    exact hc
  have hend := (seen_all_iff X arrivals).mpr hall
  obtain ⟨hok, hjobs, -⟩ := run_phase A hopen X encoded arrivals honly c [] hphase
  refine ⟨hok, ⟨jobOf encoded, ?_, ?_, rfl, rfl, rfl⟩, ?_⟩
  · rw [hjobs, List.nil_append, expected, if_pos ⟨hstart, hend⟩]
    rfl
  · exact jobOf_frameId_toNat A hc.carries
  · rintro before d after rfl
    obtain ⟨-, -, hmid⟩ := run_phase A hopen X encoded before
      (fun e he => honly e (by simp [he])) c [] hphase
    obtain ⟨hout, -⟩ := receive_phase A hopen _ X encoded _ d (honly d (by simp)) hmid
    have hpub : publishedBy A (Mealy.after (receive A) c before) d =
        expected X encoded ([] ++ before) ([] ++ before ++ [d]) := congrArg Prod.snd hout
    rw [hpub, expected, List.nil_append, ← seen_all_iff]
    have hmissing : (∃ d' ∈ X.datagrams, d' ∉ before) ↔ seen X before ≠ Finset.range X.count := by
      rw [Ne, seen_all_iff]
      push Not
      rfl
    rw [hmissing]
    split <;> simp_all

/-- End-to-end delivery of one frame. A frame whose id fits the wire header and
whose data fits the frame limit is sent whenever it can be sealed. Whatever
datagrams the streamer returned for it, every reachable receiver of the same key
and nonce domain that is below the frame, holds nothing of it, and whose window
has neither accepted nor aged out its nonce sequence, delivers it once, however
the datagrams are ordered and repeated. -/
theorem frame_delivery {C : Type} (hopen : A.OpensSealed) (htag : A.TagAddsSixteen)
    (s : HostVideoStreamer C) (encoded : EncodedFrame) (hid : encoded.frameId.toNat < 2 ^ 32)
    (hsize : encoded.data.length ≤ maxFramePayloadSize - 16) :
    (s.nonceSeq.exhausted = false →
      (∀ nonce aad, (A.encrypt s.aeadKey nonce aad encoded.data).isSome) →
      ∃ datagrams, (packetizeEncodedFrame A s encoded).result = .ok datagrams) ∧
    ∀ datagrams, (packetizeEncodedFrame A s encoded).result = .ok datagrams →
      ∀ c, Reachable A s.aeadKey 1 c →
        (∀ w, c.reassembler.lastAuthenticatedFrameId = some w → w < encoded.frameId.toUInt32) →
        c.reassembler.frames[encoded.frameId.toUInt32]? = none →
        s.nonceSeq.next ∉ c.nonceReplayWindow.acceptedSequences →
        c.nonceReplayWindow.agedOut s.nonceSeq.next = false →
        ∀ arrivals, (∀ d ∈ arrivals, d ∈ datagrams) → (∀ d ∈ datagrams, d ∈ arrivals) →
          DeliversOnce A c encoded datagrams arrivals := by
  refine ⟨packetize_succeeds A s encoded htag hid hsize, ?_⟩
  intro datagrams hsent c hreach hbelow hempty hnew haged arrivals honly hall
  obtain ⟨X, rfl, hcarries, hseq, -⟩ := packetize_sent A s encoded datagrams hsent
  obtain ⟨hkey, hdomain, hbudget⟩ := hreach.config
  have hframe := hcarries.frameId_eq
  have hfresh : c.reassembler.isStale X.base.frameId = false := by
    unfold VideoFrameReassembler.isStale
    split
    · rename_i w hw
      have hlt := hbelow w hw
      rw [← hframe] at hlt
      simpa using hlt
    · rfl
  have hunspent : ¬c.nonceReplayWindow.Spent X.base.nonceSequence := by
    rw [sent_next s X hseq]
    rintro (h | h)
    · exact hnew h
    · rw [haged] at h
      cases h
  refine delivers_once A hopen c X encoded ⟨hfresh, hbudget.ge, .inl ⟨?_, rfl⟩, ?_, hdomain, hunspent⟩
    arrivals honly hall
  · rw [hframe]
    exact hempty
  · rw [hkey]
    exact hcarries

/-- A frame of two datagrams from a new streamer, delivered backwards and then
once more to a new receiver. -/
theorem frame_delivery_reversed :
    let key : Octets 32 := ⟨List.replicate 32 9, rfl⟩
    let encoded : EncodedFrame := ⟨77, 123456, false, List.replicate 1500 7⟩
    ∃ s datagrams, HostVideoStreamer.new (SyntheticCaptureSource.new 2 2 30) key 2 2 = .ok s ∧
      (packetizeEncodedFrame ChaCha20Poly1305.cipher s encoded).result = .ok datagrams ∧
      DeliversOnce ChaCha20Poly1305.cipher (Receiver.new key 1) encoded datagrams
        (datagrams.reverse ++ datagrams) := by
  intro key encoded
  have hlen : encoded.data.length = 1500 := List.length_replicate
  obtain ⟨hsend, hdeliver⟩ := frame_delivery ChaCha20Poly1305.cipher
    ChaCha20Poly1305.cipher_opensSealed ChaCha20Poly1305.cipher_tagAddsSixteen
    (fresh (SyntheticCaptureSource.new 2 2 30)
      (SoftwareFallbackEncoder.new.configure ⟨.h264, 2, 2, 30, 4000000⟩).2 key)
    encoded (by decide) (by rw [hlen]; decide)
  obtain ⟨datagrams, hsent⟩ := hsend rfl fun nonce aad =>
    ChaCha20Poly1305.cipher_encrypts _ nonce aad _ (by rw [hlen]; decide)
  refine ⟨_, datagrams, rfl, hsent, ?_⟩
  exact hdeliver datagrams hsent (Receiver.new key 1) .new (by simp [Receiver.new,
    VideoFrameReassembler.default, VideoFrameReassembler.new]) (by simp [Receiver.new,
    VideoFrameReassembler.default, VideoFrameReassembler.new]) (by simp [Receiver.new,
    NonceReplayWindow.default]) rfl _ (by simp) (by simp)

end VideoDelivery
