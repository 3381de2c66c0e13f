import NexusRemote.ChaCha20Poly1305
import NexusRemote.GenuineReceive
import NexusRemote.VideoAuthenticity

/-!
# A genuine stream under network faults

One streamer packetizes frames with rising ids; the network loses, reorders and
repeats its datagrams at will. Host frame ids and nonce sequences rise together,
so the receiver's watermark and replay window always come from one host frame,
and every incomplete entry belongs to the one host frame of its id.
-/

namespace VideoStream

open BigEndian FrameCrypto VideoPacket VideoTransport Reassembly ReplayWindow ClientReceiver
open HostMedia HostStreamer HostStreamer.HostVideoStreamer ClientReceiver.Receiver GenuineReceive

variable (A : Aead) {C : Type}

/-! ## What one streamer sends -/

def packetizeStep (s : HostVideoStreamer C) (encoded : EncodedFrame) :
    Except StreamerError (List Bytes) × HostVideoStreamer C :=
  ((packetizeEncodedFrame A s encoded).result, (packetizeEncodedFrame A s encoded).streamer)

/-- The datagrams a call hands to the network. -/
def datagramsOf : Except StreamerError (List Bytes) → List Bytes
  | .ok datagrams => datagrams
  | .error _ => []

/-- All the datagrams a streamer produces for a sequence of frames. -/
def produced (s : HostVideoStreamer C) (frames : List EncodedFrame) : List Bytes :=
  (Mealy.trace (packetizeStep A) s frames).flatMap datagramsOf

/-- One frame comes before another. -/
def Before (p q : WireFrame × EncodedFrame) : Prop :=
  p.1.base.frameId < q.1.base.frameId ∧ p.1.base.nonceSequence < q.1.base.nonceSequence

/-- Frames in flight, each with what it carries, rising in id and nonce sequence. -/
structure Genuine (key : Octets 32) (stream : List (WireFrame × EncodedFrame)) : Prop where
  carries : ∀ p ∈ stream, Carries A key p.1 p.2
  rising : stream.Pairwise Before

theorem packetize_position_le (s : HostVideoStreamer C) (encoded : EncodedFrame) :
    s.nonceSeq.position ≤ (packetizeEncodedFrame A s encoded).streamer.nonceSeq.position := by
  by_cases hid : encoded.frameId.toNat < 2 ^ 32
  · rw [(packetize_spent A s encoded hid).2]
    rcases hn : s.nonceSeq.nextNonce with ⟨e | nonce, n⟩
    · have h := nextNonce_error _ _ _ hn
      exact le_of_eq (by rw [h.1])
    · have h := nextNonce_ok _ _ _ hn
      exact Nat.le_of_lt (by rw [h.2.2.1]; omega)
  · rw [packetize_out_of_range A s encoded hid]

/-- What a streamer produces for frames with rising ids is a genuine stream. -/
theorem produced_genuine (frames : List EncodedFrame)
    (hids : frames.Pairwise fun e f => e.frameId < f.frameId) (s : HostVideoStreamer C) :
    ∃ stream, Genuine A s.aeadKey stream ∧
      produced A s frames = stream.flatMap (fun p => p.1.datagrams) ∧
      ∀ p ∈ stream, p.2 ∈ frames ∧ s.nonceSeq.position ≤ p.1.base.nonceSequence.toNat := by
  induction frames generalizing s with
  | nil => exact ⟨[], ⟨by simp, .nil⟩, rfl, by simp⟩
  | cons encoded frames ih =>
    obtain ⟨hfirst, hrest⟩ := List.pairwise_cons.mp hids
    obtain ⟨stream, hgenuine, hproduced, hmem⟩ :=
      ih hrest (packetizeEncodedFrame A s encoded).streamer
    rw [packetize_aeadKey] at hgenuine
    have hle := packetize_position_le A s encoded
    have hcons : produced A s (encoded :: frames) =
        datagramsOf (packetizeEncodedFrame A s encoded).result ++
          produced A (packetizeEncodedFrame A s encoded).streamer frames := rfl
    cases hres : (packetizeEncodedFrame A s encoded).result with
    | error e =>
      refine ⟨stream, hgenuine, by rw [hcons, hres, hproduced]; rfl, ?_⟩
      intro p hp
      have h := hmem p hp
      exact ⟨List.mem_cons_of_mem _ h.1, by omega⟩
    | ok datagrams =>
      obtain ⟨X, rfl, hcarries, hseq, hnext⟩ := packetize_sent A s encoded datagrams hres
      refine ⟨(X, encoded) :: stream, ⟨?_, ?_⟩, by rw [hcons, hres, hproduced]; rfl, ?_⟩
      · simp only [List.forall_mem_cons]
        exact ⟨hcarries, hgenuine.carries⟩
      · refine List.pairwise_cons.mpr ⟨?_, hgenuine.rising⟩
        intro p hp
        have h := hmem p hp
        have hid := hfirst p.2 h.1
        rw [Before, UInt32.lt_iff_toNat_lt, UInt64.lt_iff_toNat_lt, hcarries.frameId,
          (hgenuine.carries p hp).frameId]
        rw [UInt64.lt_iff_toNat_lt] at hid
        refine ⟨hid, ?_⟩
        change X.base.nonceSequence.toNat < p.1.base.nonceSequence.toNat
        omega
      · simp only [List.forall_mem_cons]
        refine ⟨⟨by simp, hseq.ge⟩, ?_⟩
        intro p hp
        have h := hmem p hp
        exact ⟨List.mem_cons_of_mem _ h.1, by omega⟩

section

variable {A} {key : Octets 32} {stream : List (WireFrame × EncodedFrame)}
  {p q : WireFrame × EncodedFrame}

theorem Genuine.total (h : Genuine A key stream) (hp : p ∈ stream) (hq : q ∈ stream)
    (hne : p ≠ q) : Before p q ∨ Before q p := by
  have hsym : Std.Symm fun p q => Before p q ∨ Before q p := ⟨fun p q => Or.symm⟩
  have hpair : stream.Pairwise fun p q => Before p q ∨ Before q p := h.rising.imp Or.inl
  exact hpair.forall hp hq hne

/-- In a genuine stream the frame id orders the nonce sequences. -/
theorem Genuine.nonce_lt (h : Genuine A key stream) (hp : p ∈ stream) (hq : q ∈ stream)
    (hlt : p.1.base.frameId < q.1.base.frameId) :
    p.1.base.nonceSequence < q.1.base.nonceSequence := by
  have hne : p ≠ q := by
    rintro rfl
    exact UInt32.lt_irrefl _ hlt
  rcases h.total hp hq hne with hb | hb
  · exact hb.2
  · exact absurd hlt (UInt32.lt_asymm hb.1)

/-- In a genuine stream the frame id determines the frame. -/
theorem Genuine.eq_of_frameId (h : Genuine A key stream) (hp : p ∈ stream) (hq : q ∈ stream)
    (heq : p.1.base.frameId = q.1.base.frameId) : p = q := by
  by_contra hne
  rcases h.total hp hq hne with hb | hb
  · rw [Before, heq] at hb
    exact UInt32.lt_irrefl _ hb.1
  · rw [Before, heq] at hb
    exact UInt32.lt_irrefl _ hb.1

end

/-! ## What the receiver holds -/

/-- The receiver follows the stream: every incomplete entry belongs to a host
frame, and watermark and replay window come from one and the same host frame. -/
structure Follows (key : Octets 32) (stream : List (WireFrame × EncodedFrame))
    (c : Receiver) : Prop where
  frameKey : c.frameKey = key
  domain : c.nonceDomain = 1
  budget : maxFramePayloadSize ≤ c.reassembler.maxFrameBytes
  entries : ∀ (k : UInt32) f, c.reassembler.frames[k]? = some f →
    ∃ p ∈ stream, p.1.base.frameId = k ∧ ∃ S, c.reassembler.Progress p.1 S
  marks : (c.reassembler.lastAuthenticatedFrameId = none ∧
      c.nonceReplayWindow.highestSequence = none) ∨
    ∃ p ∈ stream, c.reassembler.lastAuthenticatedFrameId = some p.1.base.frameId ∧
      c.nonceReplayWindow.highestSequence = some p.1.base.nonceSequence

theorem follows_new (key : Octets 32) (stream : List (WireFrame × EncodedFrame)) :
    Follows key stream (Receiver.new key 1) where
  frameKey := rfl
  domain := rfl
  budget := le_rfl
  entries := by simp [Receiver.new, VideoFrameReassembler.default, VideoFrameReassembler.new]
  marks := .inl ⟨rfl, rfl⟩

section

variable {A} {key : Octets 32} {stream : List (WireFrame × EncodedFrame)} {c : Receiver}
  {p : WireFrame × EncodedFrame}

/-- Whatever is in flight under a host frame's id is a part of that frame. -/
theorem Follows.progress (hg : Genuine A key stream) (h : Follows key stream c)
    (hp : p ∈ stream) : ∃ S, c.reassembler.Progress p.1 S := by
  cases hf : c.reassembler.frames[p.1.base.frameId]? with
  | none => exact ⟨∅, .inl ⟨hf, rfl⟩⟩
  | some f =>
    obtain ⟨q, hq, hid, hprogress⟩ := h.entries _ f hf
    rw [hg.eq_of_frameId hq hp hid] at hprogress
    exact hprogress

/-- A host frame above the watermark is above the replay window. -/
theorem Follows.above (hg : Genuine A key stream) (h : Follows key stream c)
    (hp : p ∈ stream) (hfresh : c.reassembler.isStale p.1.base.frameId = false) :
    ∀ n, c.nonceReplayWindow.highestSequence = some n → n < p.1.base.nonceSequence := by
  intro n hn
  rcases h.marks with ⟨-, hnone⟩ | ⟨q, hq, hlast, hhigh⟩
  · rw [hnone] at hn
    cases hn
  · rw [hhigh, Option.some.injEq] at hn
    subst hn
    simp only [VideoFrameReassembler.isStale, hlast, decide_eq_false_iff_not,
      UInt32.not_le] at hfresh
    exact hg.nonce_lt hq hp hfresh

/-- Thinning the table keeps the entries that a frame other than `X` has. -/
theorem Follows.thinned (h : Follows key stream c) {X : WireFrame}
    {frames : Std.TreeMap UInt32 InFlightFrame} (hthin : Thins c frames X) (r : VideoFrameReassembler)
    (hr : r.frames = frames) (k : UInt32) (f : InFlightFrame) (hk : k ≠ X.base.frameId)
    (hf : frames[k]? = some f) :
    ∃ p ∈ stream, p.1.base.frameId = k ∧ ∃ S, r.Progress p.1 S := by
  rcases hthin k hk with hsame | hnone
  · rw [hsame] at hf
    obtain ⟨q, hq, rfl, S, hprogress⟩ := h.entries k f hf
    refine ⟨q, hq, rfl, S, ?_⟩
    simpa only [VideoFrameReassembler.Progress, hr, hsame] using hprogress
  · rw [hnone] at hf
    cases hf

end

/-- One call on a datagram of the stream: it succeeds, it publishes nothing or a
host frame, and the receiver still follows the stream. -/
theorem receive_follows (hopen : A.OpensSealed) {key : Octets 32}
    {stream : List (WireFrame × EncodedFrame)} (hg : Genuine A key stream) (c : Receiver) (d : Bytes)
    (h : Follows key stream c) (hd : d ∈ stream.flatMap fun p => p.1.datagrams) :
    (receive A c d).1.1 = .ok () ∧
      (∀ job, (receive A c d).1.2 = some job → ∃ p ∈ stream, job = jobOf p.2) ∧
      Follows key stream (receive A c d).2 := by
  obtain ⟨p, hp, hmem⟩ := List.mem_flatMap.mp hd
  obtain ⟨i, hi, rfl⟩ := List.mem_map.mp hmem
  rw [List.mem_range] at hi
  cases hstale : c.reassembler.isStale p.1.base.frameId with
  | true =>
    rw [receive_stale A c p.1 i hi hstale]
    exact ⟨rfl, by simp, h⟩
  | false =>
    obtain ⟨S, hprogress⟩ := h.progress hg hp
    by_cases hall : insert i S = Finset.range p.1.count
    · have hcarries := hg.carries p hp
      rw [← h.frameKey] at hcarries
      have habove := h.above hg hp hstale
      obtain ⟨frames, heq, hgone, hthin⟩ := receive_completes A hopen c p.1 p.2 S i hi hstale
        h.budget hprogress hall hcarries h.domain
        (c.nonceReplayWindow.not_spent_of_above _ habove)
      rw [heq]
      refine ⟨rfl, ?_, h.frameKey, h.domain, h.budget, ?_, .inr ⟨p, hp, rfl, ?_⟩⟩
      · intro job hjob
        exact ⟨p, hp, (Option.some.inj hjob).symm⟩
      · intro k f hf
        by_cases hk : k = p.1.base.frameId
        · subst hk
          rw [show (published c frames p.1 p.2).reassembler.frames = frames from rfl, hgone] at hf
          cases hf
        · exact h.thinned hthin _ rfl k f hk hf
      · exact congrArg some (c.nonceReplayWindow.raised_of_above _ habove)
    · obtain ⟨frames, heq, hnext, hthin⟩ :=
        receive_collects A c p.1 S i hi hstale h.budget hprogress hall
      rw [heq]
      refine ⟨rfl, by simp, h.frameKey, h.domain, h.budget, ?_, h.marks⟩
      intro k f hf
      by_cases hk : k = p.1.base.frameId
      · exact ⟨p, hp, hk.symm, _, hnext⟩
      · exact h.thinned hthin _ rfl k f hk hf

/-- Network faults never break a genuine stream. One streamer packetizes frames
with strictly increasing ids (an id beyond the wire header is refused and sends
nothing). Whatever is drawn from its datagrams and fed to a fresh receiver of the
same key, every call returns `Ok`, the published jobs rise in frame id, and each
shows one of the host's frames. -/
theorem genuine_stream_tolerates_faults (hopen : A.OpensSealed) (s : HostVideoStreamer C)
    (frames : List EncodedFrame) (hids : frames.Pairwise fun e f => e.frameId < f.frameId)
    (arrivals : List Bytes) (harrivals : ∀ d ∈ arrivals, d ∈ produced A s frames) :
    let outputs := Mealy.trace (receive A) (Receiver.new s.aeadKey 1) arrivals
    (∀ o ∈ outputs, o.1 = .ok ()) ∧
      (outputs.filterMap Prod.snd).Pairwise (fun j k => j.frameId < k.frameId) ∧
      ∀ job ∈ outputs.filterMap Prod.snd, ∃ e ∈ frames,
        job.frameId.toNat = e.frameId.toNat ∧ job.timestampUs = e.timestampUs ∧
          job.keyframe = e.keyframe ∧ job.accessUnit = e.data := by
  intro outputs
  obtain ⟨stream, hg, hproduced, hmem⟩ := produced_genuine A frames hids s
  rw [hproduced] at harrivals
  have hrun := Mealy.trace_forall
    (P := fun o => o.1 = .ok () ∧ ∀ job, o.2 = some job → ∃ p ∈ stream, job = jobOf p.2)
    (fun c d hc hd => (receive_follows A hopen hg c d hc hd).2.2)
    (fun c d hc hd => And.intro (receive_follows A hopen hg c d hc hd).1
      (receive_follows A hopen hg c d hc hd).2.1)
    (Receiver.new s.aeadKey 1) arrivals (follows_new s.aeadKey stream) harrivals
  refine ⟨fun o ho => (hrun o ho).1, ?_, ?_⟩
  · have hpair := VideoAuthenticity.publications_pairwise A (Receiver.new s.aeadKey 1) arrivals
    rw [show outputs.filterMap Prod.snd = _ from
      (VideoAuthenticity.publications_jobs A (Receiver.new s.aeadKey 1) arrivals).symm,
      List.pairwise_map]
    exact hpair.imp And.left
  · intro job hjob
    obtain ⟨o, ho, hsome⟩ := List.mem_filterMap.mp hjob
    obtain ⟨p, hp, rfl⟩ := (hrun o ho).2 job hsome
    exact ⟨p.2, (hmem p hp).1, jobOf_frameId_toNat A (hg.carries p hp), rfl, rfl, rfl⟩

/-- Two frames of a new streamer whose datagrams arrive in reverse. -/
theorem genuine_stream_reversed :
    let s := fresh (SyntheticCaptureSource.new 2 2 30)
      (SoftwareFallbackEncoder.new.configure ⟨.h264, 2, 2, 30, 4000000⟩).2
      ⟨List.replicate 32 9, rfl⟩
    let frames : List EncodedFrame := [⟨1, 0, true, [1, 2]⟩, ⟨5, 40, false, [3]⟩]
    let arrivals := (produced ChaCha20Poly1305.cipher s frames).reverse
    let outputs :=
      Mealy.trace (receive ChaCha20Poly1305.cipher) (Receiver.new s.aeadKey 1) arrivals
    arrivals.length = 2 ∧ (∀ o ∈ outputs, o.1 = .ok ()) ∧
      (outputs.filterMap Prod.snd).Pairwise (fun j k => j.frameId < k.frameId) ∧
      ∀ job ∈ outputs.filterMap Prod.snd, ∃ e ∈ frames,
        job.frameId.toNat = e.frameId.toNat ∧ job.timestampUs = e.timestampUs ∧
          job.keyframe = e.keyframe ∧ job.accessUnit = e.data := by
  intro s frames arrivals outputs
  exact ⟨by decide +kernel, genuine_stream_tolerates_faults ChaCha20Poly1305.cipher
    ChaCha20Poly1305.cipher_opensSealed s frames (by decide) arrivals (by simp [arrivals])⟩

end VideoStream
