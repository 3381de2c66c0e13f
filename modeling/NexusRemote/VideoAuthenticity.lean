import NexusRemote.ClientReceiver

/-!
# Authenticity and freshness against a hostile network

The inputs are arbitrary byte strings. What is published is fixed by two
freshness structures that are committed one after the other: the frame
watermark, which only rises, and the replay window, which never forgets a spent
sequence.
-/

namespace VideoAuthenticity

open BigEndian FrameCrypto VideoPacket VideoTransport Reassembly ReplayWindow ClientReceiver
open ClientReceiver.Receiver

variable (A : Aead)

/-- A publication: the complete frame a call worked on and the job it published. -/
def publication (c : Receiver) (bytes : Bytes) : Option (AssembledFrame × DecodedFrameJob) :=
  match c.completedBy bytes, publishedBy A c bytes with
  | some assembled, some job => some (assembled, job)
  | _, _ => none

def observe (c : Receiver) (bytes : Bytes) :
    Option (AssembledFrame × DecodedFrameJob) × Receiver :=
  (publication A c bytes, (acceptDatagram A c bytes).2)

/-- The publications of a receiver that is fed the given datagrams. -/
def publications (c : Receiver) (datagrams : List Bytes) : List (AssembledFrame × DecodedFrameJob) :=
  (Mealy.trace (observe A) c datagrams).filterMap id

/-- What the receiver remembers of a publication. -/
def Past (c : Receiver) (p : AssembledFrame × DecodedFrameJob) : Prop :=
  c.reassembler.isStale p.2.frameId = true ∧
    c.nonceReplayWindow.Spent p.1.header.nonceSequence

theorem publication_publishes {c : Receiver} {bytes accessUnit : Bytes} {assembled : AssembledFrame}
    (h : Publishes A c bytes assembled accessUnit) :
    publication A c bytes = some (assembled, job assembled.header accessUnit) := by
  have hout : publishedBy A c bytes = some (job assembled.header accessUnit) :=
    congrArg Prod.snd h.outcome
  simp [publication, h.completed, hout]

theorem publication_silent {c : Receiver} {bytes : Bytes} (h : Silent A c bytes) :
    publication A c bytes = none := by
  have hout : publishedBy A c bytes = none := h.outcome
  simp [publication, hout]

/-- A call publishes a job exactly when it makes a publication with that job. -/
theorem publication_job (c : Receiver) (bytes : Bytes) :
    (publication A c bytes).map Prod.snd = publishedBy A c bytes := by
  rcases receive_cases A c bytes with ⟨assembled, accessUnit, h⟩ | h
  · have hout : publishedBy A c bytes = some (job assembled.header accessUnit) :=
      congrArg Prod.snd h.outcome
    rw [publication_publishes A h, hout]
    rfl
  · have hout : publishedBy A c bytes = none := h.outcome
    rw [publication_silent A h, hout]
    rfl

theorem publications_jobs (c : Receiver) (datagrams : List Bytes) :
    (publications A c datagrams).map Prod.snd =
      (Mealy.trace (receive A) c datagrams).filterMap Prod.snd := by
  induction datagrams generalizing c with
  | nil => rfl
  | cons bytes datagrams ih =>
    have hjob := publication_job A c bytes
    have hrest := ih (acceptDatagram A c bytes).2
    simp only [publications, Mealy.trace_cons, observe, receive] at hrest ⊢
    rw [List.filterMap_cons, List.filterMap_cons, ← hjob]
    cases publication A c bytes with
    | none => exact hrest
    | some p => exact congrArg (List.cons p.2) hrest

/-- No call forgets a publication. -/
theorem past_keep (c : Receiver) (bytes : Bytes) (p : AssembledFrame × DecodedFrameJob)
    (h : Past c p) : Past (observe A c bytes).2 p := by
  refine ⟨receive_keeps_stale A c bytes _ h.1, ?_⟩
  change (receive A c bytes).2.nonceReplayWindow.Spent _
  rcases receive_cases A c bytes with ⟨assembled, accessUnit, hp⟩ | hs
  · rw [hp.window]
    exact c.nonceReplayWindow.recorded_keeps _ _ h.2
  · rcases hs.window with hsame | ⟨n, hrec⟩
    · rw [hsame]
      exact h.2
    · rw [hrec]
      exact c.nonceReplayWindow.recorded_keeps _ _ h.2

/-- A new publication enters the past and differs from everything in it. -/
theorem past_new (c : Receiver) (bytes : Bytes) (p : AssembledFrame × DecodedFrameJob)
    (h : publication A c bytes = some p) :
    Past (observe A c bytes).2 p ∧ ∀ q, Past c q →
      q.2.frameId < p.2.frameId ∧ q.1.header.nonceSequence ≠ p.1.header.nonceSequence := by
  rcases receive_cases A c bytes with ⟨assembled, accessUnit, hp⟩ | hs
  · rw [publication_publishes A hp, Option.some.injEq] at h
    subst h
    refine ⟨⟨?_, ?_⟩, ?_⟩
    · change (receive A c bytes).2.reassembler.isStale _ = true
      simp [VideoFrameReassembler.isStale, hp.watermark]
    · change (receive A c bytes).2.nonceReplayWindow.Spent _
      rw [hp.window]
      exact c.nonceReplayWindow.recorded_spends _
    · rintro q ⟨hstale, hspent⟩
      refine ⟨c.reassembler.lt_of_stale_fresh _ _ hstale hp.fresh, ?_⟩
      intro he
      rw [he] at hspent
      exact hp.unspent hspent
  · rw [publication_silent A hs] at h
    cases h

/-- The publication is the opening of the frame under its own metadata. -/
def Authentic (frameKey : Octets 32) (nonceDomain : UInt32)
    (p : AssembledFrame × DecodedFrameJob) : Prop :=
  let metadata : EncodedFrameMetadata :=
    { protocolVersion := p.1.header.version.toUInt32
      channel := p.1.header.streamId.toUInt32
      frameId := p.2.frameId
      codecConfigId := 1
      timestampUs := p.2.timestampUs
      keyframe := p.2.keyframe }
  A.decrypt frameKey (nonceFromSequence nonceDomain p.1.header.nonceSequence) metadata.aad.1
    p.1.payload = some p.2.accessUnit

theorem publication_authentic (c : Receiver) (bytes : Bytes) (p : AssembledFrame × DecodedFrameJob)
    (h : publication A c bytes = some p) : Authentic A c.frameKey c.nonceDomain p := by
  rcases receive_cases A c bytes with ⟨assembled, accessUnit, hp⟩ | hs
  · rw [publication_publishes A hp, Option.some.injEq] at h
    subst h
    exact hp.opened
  · rw [publication_silent A hs] at h
    cases h

/-- Whatever arrives, publications rise in frame id and never share a nonce
sequence. -/
theorem publications_pairwise (c : Receiver) (datagrams : List Bytes) :
    (publications A c datagrams).Pairwise fun p q =>
      p.2.frameId < q.2.frameId ∧ p.1.header.nonceSequence ≠ q.1.header.nonceSequence :=
  (Mealy.emitted_pairwise (fun _ _ (_ : True) (_ : True) => trivial)
    (fun c bytes p _ _ => past_keep A c bytes p)
    (fun c bytes p _ _ => past_new A c bytes p)
    c datagrams trivial (fun _ _ => trivial)).1

theorem publications_authentic (c : Receiver) (datagrams : List Bytes) :
    ∀ p ∈ publications A c datagrams, Authentic A c.frameKey c.nonceDomain p := by
  intro p hp
  obtain ⟨o, ho, hop⟩ := List.mem_filterMap.mp hp
  have hconfig : ∀ (c' : Receiver) bytes,
      c'.frameKey = c.frameKey ∧ c'.nonceDomain = c.nonceDomain →
        (observe A c' bytes).2.frameKey = c.frameKey ∧
          (observe A c' bytes).2.nonceDomain = c.nonceDomain := by
    intro c' bytes hc
    have h := acceptDatagram_config A c' bytes
    exact ⟨h.1.trans hc.1, h.2.1.trans hc.2⟩
  have hall := Mealy.trace_always
    (P := fun o => ∀ p, o = some p → Authentic A c.frameKey c.nonceDomain p) hconfig
    (fun c' bytes hc p h => by
      have ha := publication_authentic A c' bytes p h
      rwa [hc.1, hc.2] at ha)
    c datagrams ⟨rfl, rfl⟩
  exact hall o ho p hop

/-- For every sequence of byte strings that a fresh receiver is fed, the
published jobs have strictly increasing frame ids and pairwise different nonce
sequences, and each access unit is the opening of the assembled frame under the
frame key, the frame's nonce and the metadata published with it. -/
theorem hostile_network_authenticity (frameKey : Octets 32) (nonceDomain : UInt32)
    (datagrams : List Bytes) :
    let published := publications A (new frameKey nonceDomain) datagrams
    published.map Prod.snd =
        (Mealy.trace (receive A) (new frameKey nonceDomain) datagrams).filterMap Prod.snd ∧
      published.Pairwise (fun p q => p.2.frameId < q.2.frameId) ∧
      published.Pairwise (fun p q => p.1.header.nonceSequence ≠ q.1.header.nonceSequence) ∧
      ∀ p ∈ published, Authentic A frameKey nonceDomain p := by
  have hpair := publications_pairwise A (new frameKey nonceDomain) datagrams
  exact ⟨publications_jobs A _ datagrams, hpair.imp And.left, hpair.imp And.right,
    publications_authentic A (new frameKey nonceDomain) datagrams⟩

end VideoAuthenticity
