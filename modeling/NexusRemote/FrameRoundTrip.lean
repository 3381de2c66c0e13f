import NexusRemote.Mealy
import NexusRemote.Reassembly

/-!
# Packetization and reassembly

The packets of one frame, of whatever version and chunk size, reach a
reassembler in any order and with any repetitions. It collects them while one
is missing, and the last missing one returns the payload that was cut.
-/

namespace FrameRoundTrip

open BigEndian Fragments VideoPacket VideoTransport Reassembly

/-- A call of `process_packet`. -/
def feed (r : VideoFrameReassembler) (packet : VideoPacketHeader × Bytes) :
    Except ReassemblyError (Option AssembledFrame) × VideoFrameReassembler :=
  r.processPacket packet.1 packet.2

def packet (X : CutFrame) (i : Nat) : VideoPacketHeader × Bytes := (X.header i, X.piece i)

def packets (X : CutFrame) : List (VideoPacketHeader × Bytes) := (List.range X.count).map (packet X)

/-- The packet id tells the packets of one frame apart. -/
theorem packet_inj (X : CutFrame) (i j : Nat) (hi : i < X.count) (hj : j < X.count)
    (h : packet X i = packet X j) : i = j := by
  have hid := congrArg (fun p : VideoPacketHeader × Bytes => p.1.packetId.toNat) h
  simpa only [packet, X.header_packetId i hi, X.header_packetId j hj] using hid

theorem packets_ne_nil (X : CutFrame) : packets X ≠ [] := by
  have hpos := X.count_pos
  simp only [packets, ne_eq, List.map_eq_nil_iff, List.range_eq_nil, CutFrame.count]
  omega

/-- The fragments of `X` that have been fed. -/
def fed (X : CutFrame) (arrived : List (VideoPacketHeader × Bytes)) : Finset Nat :=
  among (packet X) X.count arrived

/-- The reassembler has some of the fragments and would take the others. -/
structure Collecting (r : VideoFrameReassembler) (X : CutFrame) (S : Finset Nat) : Prop where
  fresh : r.isStale X.base.frameId = false
  budget : X.pieces.flatten.length ≤ r.maxFrameBytes
  progress : r.Progress X S

/-- One more packet, while others are still missing. -/
theorem Collecting.feed {r : VideoFrameReassembler} {X : CutFrame} {S : Finset Nat}
    (h : Collecting r X S) (i : Nat) (hi : i < X.count) (hne : insert i S ≠ Finset.range X.count) :
    (feed r (packet X i)).1 = .ok none ∧
      Collecting (FrameRoundTrip.feed r (packet X i)).2 X (insert i S) := by
  obtain ⟨hresult, hprogress⟩ :=
    (r.processPacket_genuine X S i hi h.fresh h.budget h.progress).2.1 hne
  refine ⟨hresult, ⟨?_, ?_, hprogress⟩⟩
  · simpa only [FrameRoundTrip.feed, packet, VideoFrameReassembler.isStale,
      VideoFrameReassembler.processPacket_last] using h.fresh
  · simpa only [FrameRoundTrip.feed, packet, VideoFrameReassembler.processPacket_maxFrameBytes]
      using h.budget

/-- A run of packets that does not cover the frame returns nothing. -/
theorem feed_incomplete (r : VideoFrameReassembler) (X : CutFrame) (h : Collecting r X ∅)
    (arrived : List (VideoPacketHeader × Bytes)) (hmem : ∀ p ∈ arrived, p ∈ packets X)
    (hmissing : ∃ p ∈ packets X, p ∉ arrived) :
    Mealy.trace feed r arrived = List.replicate arrived.length (.ok none) ∧
      Collecting (Mealy.after feed r arrived) X (fed X arrived) := by
  -- From the right: what is missing at the end was missing all along.
  induction arrived using List.reverseRecOn with
  | nil => exact ⟨rfl, by simpa only [fed, among_nil, Mealy.after_nil] using h⟩
  | append_singleton arrived last ih =>
    obtain ⟨p, hp, hnot⟩ := hmissing
    obtain ⟨i, hi, rfl⟩ := List.mem_map.mp (hmem last (by simp))
    rw [List.mem_range] at hi
    obtain ⟨htrace, hcollecting⟩ := ih (fun q hq => hmem q (List.mem_append_left _ hq))
      ⟨p, hp, fun hin => hnot (List.mem_append_left _ hin)⟩
    have hfed : fed X (arrived ++ [packet X i]) = insert i (fed X arrived) :=
      among_concat (packet X) X.count arrived i hi fun j hj => packet_inj X j i hj hi
    have hne : insert i (fed X arrived) ≠ Finset.range X.count := by
      rw [← hfed]
      intro hall
      exact hnot ((among_all_iff (packet X) X.count _).mp hall p hp)
    obtain ⟨hresult, hnext⟩ := hcollecting.feed i hi hne
    rw [Mealy.trace_append, Mealy.after_append, htrace, hfed]
    refine ⟨?_, hnext⟩
    rw [Mealy.trace_cons, Mealy.trace_nil, hresult, List.length_append, List.replicate_add]
    rfl

/-- The packet that was missing last returns the frame. -/
theorem feed_complete (r : VideoFrameReassembler) (X : CutFrame) (h : Collecting r X ∅)
    (arrived : List (VideoPacketHeader × Bytes)) (last : VideoPacketHeader × Bytes)
    (hmem : ∀ p ∈ arrived ++ [last], p ∈ packets X) (hmissing : ∃ p ∈ packets X, p ∉ arrived)
    (hall : ∀ p ∈ packets X, p ∈ arrived ++ [last]) :
    ∃ a : AssembledFrame, (feed (Mealy.after feed r arrived) last).1 = .ok (some a) ∧
      a.Restores X := by
  obtain ⟨i, hi, rfl⟩ := List.mem_map.mp (hmem last (by simp))
  rw [List.mem_range] at hi
  have hcollecting :=
    (feed_incomplete r X h arrived (fun p hp => hmem p (List.mem_append_left _ hp)) hmissing).2
  have hfed : insert i (fed X arrived) = Finset.range X.count := by
    rw [fed, ← among_concat (packet X) X.count arrived i hi fun j hj => packet_inj X j i hj hi]
    exact (among_all_iff (packet X) X.count _).mpr hall
  obtain ⟨a, hresult, hrestores, -⟩ := (VideoFrameReassembler.processPacket_genuine _ X _ i hi
    hcollecting.fresh hcollecting.budget hcollecting.progress).1 hfed
  exact ⟨a, hresult, hrestores⟩

/-- Within the limits on the frame and the chunks, only the number of chunks can
make packetization fail. -/
theorem packetize_error_iff (base : VideoPacketHeader) (payload : Bytes) (chunkSize : Nat)
    (hsize : payload.length ≤ maxFramePayloadSize) (hmin : 1 ≤ chunkSize)
    (hmax : chunkSize ≤ maxPayloadLen) :
    (∃ e, packetizeVideoFrame base payload chunkSize = .error e) ↔
      maxPacketsPerFrame < pieces chunkSize payload.length := by
  constructor
  · rintro ⟨e, he⟩
    by_contra hcount
    obtain ⟨packets, hok⟩ :=
      packetize_fits base payload chunkSize hmin hmax hsize (Nat.not_lt.mp hcount)
    rw [he] at hok
    cases hok
  · intro hcount
    have hne : payload ≠ [] := by
      rintro rfl
      have hzero : pieces chunkSize 0 = 0 := by
        rw [pieces, Nat.div_eq_zero_iff]
        omega
      rw [List.length_nil, hzero] at hcount
      omega
    refine ⟨.tooManyPackets (pieces chunkSize payload.length) maxPacketsPerFrame, ?_⟩
    simp only [packetizeVideoFrame, length_chunks]
    rw [if_neg (by omega), if_neg (by omega), if_neg hne, if_pos (.inr hcount)]

/-- Packetization fails exactly when the payload needs too many chunks. Otherwise its
packets, in any order and with any repetitions, return nothing until the last missing one
and with it the payload, for every reassembler that would take the frame. -/
theorem reassembly_inverts_packetization (base : VideoPacketHeader) (payload : Bytes)
    (chunkSize : Nat) (hsize : payload.length ≤ maxFramePayloadSize) (hmin : 1 ≤ chunkSize)
    (hmax : chunkSize ≤ maxPayloadLen) :
    ((∃ e, packetizeVideoFrame base payload chunkSize = .error e) ↔
      maxPacketsPerFrame < pieces chunkSize payload.length) ∧
    ∀ packets, packetizeVideoFrame base payload chunkSize = .ok packets →
      ∀ r : VideoFrameReassembler, payload.length ≤ r.maxFrameBytes →
        r.isStale base.frameId = false → r.frames[base.frameId]? = none →
        ∀ arrivals, (∀ p, p ∈ arrivals ↔ p ∈ packets) →
          ∃ before last rest, arrivals = before ++ last :: rest ∧ last ∉ before ∧
            (∀ p ∈ packets, p ∈ before ++ [last]) ∧
            Mealy.trace feed r before = List.replicate before.length (.ok none) ∧
            ∃ a : AssembledFrame, (feed (Mealy.after feed r before) last).1 = .ok (some a) ∧
              a.payload = payload ∧ a.header.frameId = base.frameId ∧
              a.header.streamId = base.streamId ∧ a.header.version = base.version ∧
              a.header.timestampUs = base.timestampUs ∧
              a.header.nonceSequence = base.nonceSequence ∧
              a.header.isKeyframe = base.isKeyframe := by
  refine ⟨packetize_error_iff base payload chunkSize hsize hmin hmax, ?_⟩
  intro packets hpackets r hbudget hfresh hidle arrivals hmem
  obtain ⟨X, rfl, rfl, -, rfl⟩ := packetize_cut base payload chunkSize packets hpackets
  have hstart : Collecting r X ∅ := ⟨hfresh, hbudget, .inl ⟨hidle, rfl⟩⟩
  obtain ⟨before, last, rest, rfl, hmissing, hall⟩ :=
    exists_last_missing (FrameRoundTrip.packets X) arrivals (packets_ne_nil X)
      fun p hp => (hmem p).mpr hp
  have hsub : ∀ p ∈ before ++ [last], p ∈ FrameRoundTrip.packets X := by
    intro p hp
    refine (hmem p).mp ?_
    rw [List.append_cons]
    exact List.mem_append_left rest hp
  have htrace := (feed_incomplete r X hstart before
    (fun p hp => hsub p (List.mem_append_left _ hp)) hmissing).1
  obtain ⟨a, hresult, hrestores⟩ := feed_complete r X hstart before last hsub hmissing hall
  refine ⟨before, last, rest, rfl, ?_, hall, htrace, a, hresult, hrestores.payload,
    hrestores.frameId, hrestores.streamId, hrestores.version, hrestores.timestampUs,
    hrestores.nonceSequence, hrestores.keyframe⟩
  obtain ⟨p, hp, hnot⟩ := hmissing
  rcases List.mem_append.mp (hall p hp) with hin | hin
  · exact absurd hin hnot
  · rwa [← List.mem_singleton.mp hin]

/-- Three bytes in chunks of two, in a version of its own. -/
def sample : VideoPacketHeader := ⟨7, 1, 3, 9, 0, 0, 1000, 5, 0⟩

theorem reassembly_inverts_three_bytes :
    packetizeVideoFrame sample [1, 2, 3] 2 =
      .ok [(fragmentHeader sample 2 0 2, [1, 2]), (fragmentHeader sample 2 1 1, [3])] ∧
    ∃ before last rest,
      [(fragmentHeader sample 2 1 1, [3]), (fragmentHeader sample 2 1 1, [3]),
        (fragmentHeader sample 2 0 2, [1, 2])] = before ++ last :: rest ∧
      Mealy.trace feed .default before = List.replicate before.length (.ok none) ∧
      ∃ a : AssembledFrame, (feed (Mealy.after feed .default before) last).1 = .ok (some a) ∧
        a.payload = [1, 2, 3] ∧ a.header.version = 7 := by
  have hpackets : packetizeVideoFrame sample [1, 2, 3] 2 =
      .ok [(fragmentHeader sample 2 0 2, [1, 2]), (fragmentHeader sample 2 1 1, [3])] := rfl
  refine ⟨hpackets, ?_⟩
  have hround := reassembly_inverts_packetization sample [1, 2, 3] 2 (by decide) (by decide)
    (by decide)
  obtain ⟨before, last, rest, hsplit, -, -, htrace, a, hresult, hpayload, -, -, hversion, -⟩ :=
    hround.2 _ hpackets .default (by decide) (by decide) (by decide)
      [(fragmentHeader sample 2 1 1, [3]), (fragmentHeader sample 2 1 1, [3]),
        (fragmentHeader sample 2 0 2, [1, 2])]
      (by intro p; simp only [List.mem_cons, List.not_mem_nil, or_false]; tauto)
  exact ⟨before, last, rest, hsplit, htrace, a, hresult, hpayload, hversion⟩

end FrameRoundTrip
