import NexusRemote.Mealy
import NexusRemote.Reassembly
import NexusRemote.Tables

/-!
# Reassembly under arbitrary packets

Anything may be fed to a reassembler, in any order and between any commits. Every
filled slot of its table then holds the payload of a packet that was fed, with
the metadata of the entry, and the table stays within its limits.
-/

namespace ReassemblyRuns

open BigEndian Fragments VideoPacket VideoTransport Reassembly Tables

inductive Call where
  | processPacket (header : VideoPacketHeader) (payload : Bytes)
  | commitAuthenticatedFrame (frameId : UInt32)

inductive Reply where
  | processed (result : Except ReassemblyError (Option AssembledFrame))
  | committed (fresh : Bool)

def step (r : VideoFrameReassembler) : Call → Reply × VideoFrameReassembler
  | .processPacket header payload =>
    (.processed (r.processPacket header payload).1, (r.processPacket header payload).2)
  | .commitAuthenticatedFrame frameId =>
    (.committed (r.commitAuthenticatedFrame frameId).1, (r.commitAuthenticatedFrame frameId).2)

/-- The packets among the calls. -/
def fed (calls : List Call) : List (VideoPacketHeader × Bytes) :=
  calls.filterMap fun
    | .processPacket header payload => some (header, payload)
    | .commitAuthenticatedFrame _ => none

/-- What all fragments of one frame have in common. -/
structure SameFrame (p q : VideoPacketHeader) : Prop where
  frameId : p.frameId = q.frameId
  packetCount : p.packetCount = q.packetCount
  version : p.version = q.version
  streamId : p.streamId = q.streamId
  timestampUs : p.timestampUs = q.timestampUs
  nonceSequence : p.nonceSequence = q.nonceSequence
  keyframe : p.flags &&& flagKeyframe = q.flags &&& flagKeyframe

theorem sameFrame_refl (p : VideoPacketHeader) : SameFrame p p := ⟨rfl, rfl, rfl, rfl, rfl, rfl, rfl⟩

/-- The header that is handed out is still one of the frame. -/
theorem SameFrame.assemble {p : VideoPacketHeader} {f : InFlightFrame}
    (h : SameFrame p f.baseHeader) : SameFrame p f.assemble.header where
  frameId := h.frameId
  packetCount := h.packetCount
  version := h.version
  streamId := h.streamId
  timestampUs := h.timestampUs
  nonceSequence := h.nonceSequence
  keyframe := by
    have hmask : (flagFrameStart ||| flagFrameEnd) &&& flagKeyframe = 0 := by decide
    simp [InFlightFrame.assemble, or_and, hmask, h.keyframe]

/-! ## One entry of the table -/

/-- An entry of the table is made of packets that were fed. -/
structure Explained (packets : List (VideoPacketHeader × Bytes)) (maxFrameBytes : Nat)
    (frameId : UInt32) (f : InFlightFrame) : Prop where
  frameId : f.baseHeader.frameId = frameId
  count : f.packets.length = f.baseHeader.packetCount.toNat
  several : 2 ≤ f.packets.length
  limit : f.packets.length ≤ maxPacketsPerFrame
  received : f.receivedCount = filled f.packets
  bytes : f.totalBytes = stored f.packets
  budget : f.totalBytes ≤ maxFrameBytes
  sources : ∀ i payload, f.packets[i]? = some (some payload) →
    ∃ p : VideoPacketHeader × Bytes,
      (p ∈ packets ∧ p.1.packetId.toNat = i ∧ SameFrame p.1 f.baseHeader) ∧ p.2 = payload

variable {packets more : List (VideoPacketHeader × Bytes)} {maxFrameBytes : Nat}

theorem Explained.mono {frameId : UInt32} {f : InFlightFrame}
    (h : Explained packets maxFrameBytes frameId f) :
    Explained (packets ++ more) maxFrameBytes frameId f :=
  { h with
    sources := by
      intro i payload hi
      obtain ⟨p, ⟨hp, hid, hsame⟩, hpayload⟩ := h.sources i payload hi
      exact ⟨p, ⟨List.mem_append_left more hp, hid, hsame⟩, hpayload⟩ }

theorem explained_opened (r : VideoFrameReassembler) (header : VideoPacketHeader) (payload : Bytes)
    (h : r.Admitted header payload) :
    Explained packets maxFrameBytes header.frameId (.opened header) ∧
      (InFlightFrame.opened header).receivedCount < (InFlightFrame.opened header).packets.length := by
  obtain ⟨hzero, hlimit, -⟩ := checkFragment_ok header payload h.check
  have htwo : 2 ≤ header.packetCount.toNat := by
    have h0 : header.packetCount.toNat ≠ 0 := fun he => hzero (UInt16.toNat_inj.mp he)
    have h1 : header.packetCount.toNat ≠ 1 := fun he => h.several (UInt16.toNat_inj.mp he)
    omega
  constructor
  · exact {
      frameId := rfl
      count := List.length_replicate
      several := by simpa [InFlightFrame.opened] using htwo
      limit := by simpa [InFlightFrame.opened] using hlimit
      received := by simp [InFlightFrame.opened]
      bytes := by simp [InFlightFrame.opened]
      budget := Nat.zero_le _
      sources := by
        intro i payload hi
        have hmem := List.mem_of_getElem? hi
        simp [InFlightFrame.opened] at hmem }
  · simp only [InFlightFrame.opened, List.length_replicate]
    omega

/-- A packet that agrees with the entry is a fragment of its frame. -/
theorem sameFrame_of_consistent {f : InFlightFrame} {header : VideoPacketHeader}
    (h : Explained packets maxFrameBytes header.frameId f) (hc : f.inconsistent header = false) :
    f.packets.length = header.packetCount.toNat ∧ SameFrame header f.baseHeader := by
  simp only [InFlightFrame.inconsistent, Bool.or_eq_false_iff, bne_eq_false_iff_eq] at hc
  obtain ⟨⟨⟨⟨⟨hlen, hstream⟩, hversion⟩, htime⟩, hnonce⟩, hkey⟩ := hc
  exact ⟨hlen, h.frameId.symm, UInt16.toNat_inj.mp (hlen.symm.trans h.count), hversion.symm,
    hstream.symm, htime.symm, hnonce.symm, hkey.symm⟩

/-- Filling an empty slot. -/
theorem Explained.store {f : InFlightFrame} {header : VideoPacketHeader} {payload : Bytes}
    (h : Explained packets maxFrameBytes header.frameId f)
    (hcheck : checkFragment header payload = .ok ()) (hc : f.inconsistent header = false)
    (hempty : (f.packets.getD header.packetId.toNat none).isNone = true)
    (hfits : f.totalBytes + payload.length ≤ maxFrameBytes) (hmem : (header, payload) ∈ packets) :
    Explained packets maxFrameBytes header.frameId (f.store header.packetId.toNat payload) := by
  obtain ⟨hlen, hsame⟩ := sameFrame_of_consistent h hc
  have hid : header.packetId.toNat < f.packets.length := by
    rw [hlen]
    exact (checkFragment_ok header payload hcheck).2.2
  have hslot : f.packets[header.packetId.toNat]? = some none := by
    rw [List.getD_eq_getElem?_getD, List.getElem?_eq_getElem hid, Option.getD_some,
      Option.isNone_iff_eq_none] at hempty
    rw [List.getElem?_eq_getElem hid, hempty]
  exact {
    frameId := h.frameId
    count := by rw [InFlightFrame.store, List.length_set]; exact h.count
    several := by rw [InFlightFrame.store, List.length_set]; exact h.several
    limit := by rw [InFlightFrame.store, List.length_set]; exact h.limit
    received := by rw [InFlightFrame.store, filled_set _ _ _ hslot, ← h.received]
    bytes := by rw [InFlightFrame.store, stored_set _ _ _ hslot, ← h.bytes]
    budget := hfits
    sources := by
      intro i piece hi
      simp only [InFlightFrame.store, List.getElem?_set] at hi
      split at hi
      · rename_i heq
        rw [Option.some.injEq, Option.some.injEq] at hi
        exact ⟨(header, payload), ⟨hmem, heq, hsame⟩, hi⟩
      · exact h.sources i piece hi }

/-- A complete entry is the concatenation of one packet for each id. -/
theorem Explained.assemble {frameId : UInt32} {f : InFlightFrame}
    (h : Explained packets maxFrameBytes frameId f) (hall : f.receivedCount = f.packets.length) :
    ∃ ps : List (VideoPacketHeader × Bytes),
      ps.length = f.assemble.header.packetCount.toNat ∧
      (∀ i p, ps[i]? = some p →
        p ∈ packets ∧ p.1.packetId.toNat = i ∧ SameFrame p.1 f.assemble.header) ∧
      f.assemble.payload = (ps.map Prod.snd).flatten ∧ f.assemble.assembledLen ≤ maxFrameBytes := by
  obtain ⟨ps, hlen, hright, hmap⟩ :=
    exists_sources f.packets Prod.snd
      (fun i p => p ∈ packets ∧ p.1.packetId.toNat = i ∧ SameFrame p.1 f.baseHeader)
      (h.received.symm.trans hall) h.sources
  refine ⟨ps, hlen.trans h.count, ?_, ?_, ?_⟩
  · intro i p hp
    obtain ⟨hmem, hid, hsame⟩ := hright i p hp
    exact ⟨hmem, hid, hsame.assemble⟩
  · rw [← hmap]
    rfl
  · change (f.packets.filterMap id).flatten.length ≤ maxFrameBytes
    rw [length_flatten_stored, ← h.bytes]
    exact h.budget

/-! ## The table -/

/-- An entry that still lacks a packet. -/
def Pending (packets : List (VideoPacketHeader × Bytes)) (maxFrameBytes : Nat) (frameId : UInt32)
    (f : InFlightFrame) : Prop :=
  Explained packets maxFrameBytes frameId f ∧ f.receivedCount < f.packets.length

theorem all_makeRoom {P : UInt32 → InFlightFrame → Prop} (r : VideoFrameReassembler)
    (frameId : UInt32) (h : All P r.frames) : All P (r.makeRoom frameId) := by
  unfold VideoFrameReassembler.makeRoom
  split
  · split
    · exact h.erase _
    · exact h
  · exact h

theorem all_foldl_erase {P : UInt32 → InFlightFrame → Prop} (keys : List UInt32)
    (t : Std.TreeMap UInt32 InFlightFrame) (h : All P t) :
    All P (keys.foldl (fun frames key => frames.erase key) t) := by
  induction keys generalizing t with
  | nil => exact h
  | cons key keys ih => exact ih _ (h.erase key)

theorem size_foldl_erase (keys : List UInt32) (t : Std.TreeMap UInt32 InFlightFrame) :
    (keys.foldl (fun frames key => frames.erase key) t).size ≤ t.size := by
  induction keys generalizing t with
  | nil => exact Nat.le_refl _
  | cons key keys ih => exact (ih _).trans Std.TreeMap.size_erase_le

/-- A full table gives up its oldest entry before it takes a new one. -/
theorem size_entered (r : VideoFrameReassembler) (header : VideoPacketHeader)
    (hpos : 1 ≤ r.maxInFlight) (h : r.frames.size ≤ r.maxInFlight) :
    (r.entered header).size ≤ r.maxInFlight := by
  unfold VideoFrameReassembler.entered VideoFrameReassembler.makeRoom
  split
  · rename_i hfull
    cases hmin : r.frames.minKey? with
    | none =>
      rw [Std.TreeMap.minKey?_eq_none_iff, Std.TreeMap.isEmpty_eq_size_eq_zero, beq_iff_eq] at hmin
      omega
    | some oldest =>
      have hmem := (Std.TreeMap.minKey?_eq_some_iff_mem_and_forall.mp hmin).1
      have herase : (r.frames.erase oldest).size = r.frames.size - 1 := by
        rw [Std.TreeMap.size_erase, if_pos (Std.TreeMap.contains_iff_mem.mpr hmem)]
      have hinsert := Std.TreeMap.size_insertIfNew_le (t := r.frames.erase oldest)
        (k := header.frameId) (v := InFlightFrame.opened header)
      dsimp only
      omega
  · rename_i hroom
    rw [Std.TreeMap.size_insertIfNew]
    split
    · exact h
    · rename_i hnew
      have hlt : ¬r.frames.size ≥ r.maxInFlight := by
        intro hfull
        exact hroom ⟨hfull, by simpa using hnew⟩
      omega

theorem mem_entered (r : VideoFrameReassembler) (header : VideoPacketHeader) :
    (r.entered header).contains header.frameId = true := by
  simp [VideoFrameReassembler.entered]

/-- Everything that holds of a reassembler created with the limits `m` and `b`. -/
structure Bounded (m b : Nat) (packets : List (VideoPacketHeader × Bytes))
    (r : VideoFrameReassembler) : Prop where
  maxInFlight : r.maxInFlight = max m 1
  maxFrameBytes : r.maxFrameBytes = b
  size : r.frames.size ≤ max m 1
  entries : All (Pending packets b) r.frames

variable {m b : Nat} {r : VideoFrameReassembler}

theorem bounded_new (m b : Nat) : Bounded m b [] (.new m b) where
  maxInFlight := rfl
  maxFrameBytes := rfl
  size := Nat.zero_le _
  entries := all_empty

theorem Bounded.mono (h : Bounded m b packets r) : Bounded m b (packets ++ more) r :=
  { h with entries := h.entries.mono fun _ _ hf => ⟨hf.1.mono, hf.2⟩ }

theorem Bounded.entered (h : Bounded m b packets r) (header : VideoPacketHeader) (payload : Bytes)
    (hadmitted : r.Admitted header payload) :
    Bounded m b packets { r with frames := r.entered header } where
  maxInFlight := h.maxInFlight
  maxFrameBytes := h.maxFrameBytes
  size := by
    have hpos : 1 ≤ r.maxInFlight := by rw [h.maxInFlight]; exact Nat.le_max_right m 1
    have hsize := size_entered r header hpos (h.maxInFlight ▸ h.size)
    rwa [h.maxInFlight] at hsize
  entries := (all_makeRoom r header.frameId h.entries).insertIfNew _ _
    (explained_opened r header payload hadmitted)

theorem Bounded.entry (h : Bounded m b packets r) (header : VideoPacketHeader) (payload : Bytes)
    (hadmitted : r.Admitted header payload) :
    Pending packets b header.frameId (r.entry header) := by
  unfold VideoFrameReassembler.entry
  cases hf : r.frames[header.frameId]? with
  | none => exact explained_opened r header payload hadmitted
  | some f => exact h.entries header.frameId f hf

/-- What a packet leaves in its entry. -/
theorem Bounded.takes (h : Bounded m b packets r) (header : VideoPacketHeader) (payload : Bytes)
    (f : InFlightFrame) (hmem : (header, payload) ∈ packets)
    (hadmitted : r.Admitted header payload)
    (hconsistent : (r.entry header).inconsistent header = false)
    (htakes : r.Takes header payload f) : Explained packets b header.frameId f := by
  have hentry := (h.entry header payload hadmitted).1
  cases htakes with
  | fills hempty hfits =>
    rw [h.maxFrameBytes] at hfits
    exact hentry.store hadmitted.check hconsistent hempty hfits hmem
  | repeats => exact hentry

theorem Bounded.settle (h : Bounded m b packets r) (frameId : UInt32) (f : InFlightFrame)
    (hf : Explained packets b frameId f) (hmem : r.frames.contains frameId = true) :
    Bounded m b packets (r.settle frameId f).2 := by
  unfold VideoFrameReassembler.settle
  split
  · exact { h with
      size := Std.TreeMap.size_erase_le.trans h.size
      entries := h.entries.erase frameId }
  · rename_i hmissing
    have hle : f.receivedCount ≤ f.packets.length := by
      rw [hf.received]
      exact List.countP_le_length
    exact { h with
      size := by rw [Std.TreeMap.size_insert, if_pos hmem]; exact h.size
      entries := h.entries.insert frameId f ⟨hf, Nat.lt_of_le_of_ne hle hmissing⟩ }

/-- A packet keeps the table within its limits, whatever it is. -/
theorem Bounded.processPacket (h : Bounded m b packets r) (header : VideoPacketHeader)
    (payload : Bytes) :
    Bounded m b (packets ++ [(header, payload)]) (r.processPacket header payload).2 := by
  have hr : Bounded m b (packets ++ [(header, payload)]) r := h.mono
  have houtcome := r.processPacket_outcome header payload
  generalize r.processPacket header payload = out at houtcome ⊢
  cases houtcome with
  | refused e => exact hr
  | dropped => exact hr
  | single => exact hr
  | inconsistent hadmitted => exact hr.entered header payload hadmitted
  | overflows hadmitted =>
    have hentered := hr.entered header payload hadmitted
    exact { hentered with
      size := Std.TreeMap.size_erase_le.trans hentered.size
      entries := hentered.entries.erase header.frameId }
  | settles hadmitted f hconsistent htakes =>
    exact (hr.entered header payload hadmitted).settle header.frameId f
      (hr.takes header payload f (by simp) hadmitted hconsistent htakes) (mem_entered r header)

theorem Bounded.commit (h : Bounded m b packets r) (frameId : UInt32) :
    Bounded m b packets (r.commitAuthenticatedFrame frameId).2 := by
  unfold VideoFrameReassembler.commitAuthenticatedFrame
  split
  · exact h
  · exact { h with
      size := (size_foldl_erase _ _).trans h.size
      entries := all_foldl_erase _ _ h.entries }

/-- The invariant of every run. -/
theorem bounded_run (m b : Nat) (calls : List Call) :
    Bounded m b (fed calls) (Mealy.after step (.new m b) calls) := by
  -- From the right, since the packets that were fed grow at that end.
  induction calls using List.reverseRecOn with
  | nil => exact bounded_new m b
  | append_singleton calls call ih =>
    rw [Mealy.after_concat, fed, List.filterMap_append]
    cases call with
    | processPacket header payload => exact ih.processPacket header payload
    | commitAuthenticatedFrame frameId =>
      rw [List.filterMap_cons_none rfl, List.filterMap_nil, List.append_nil]
      exact ih.commit frameId

/-! ## The results -/

/-- A frame that comes out is the concatenation of packets that went in, one for each packet
id and all with the metadata of the frame; it is within the byte limit and above the
watermark. -/
theorem reassembly_never_mixes (m b : Nat) (calls : List Call) (header : VideoPacketHeader)
    (payload : Bytes) (frame : AssembledFrame)
    (h : ((Mealy.after step (.new m b) calls).processPacket header payload).1 = .ok (some frame)) :
    (∃ ps : List (VideoPacketHeader × Bytes), ps.length = frame.header.packetCount.toNat ∧
      (∀ i p, ps[i]? = some p → p ∈ fed (calls ++ [.processPacket header payload]) ∧
        p.1.packetId.toNat = i ∧ SameFrame p.1 frame.header) ∧
      frame.payload = (ps.map Prod.snd).flatten) ∧
    frame.assembledLen = frame.payload.length ∧ frame.assembledLen ≤ b ∧
    ∀ watermark, (Mealy.after step (.new m b) calls).lastAuthenticatedFrameId = some watermark →
      watermark < frame.header.frameId := by
  have hrun := bounded_run m b calls
  generalize Mealy.after step (.new m b) calls = r at h hrun ⊢
  have hfed : fed (calls ++ [.processPacket header payload]) = fed calls ++ [(header, payload)] := by
    simp [fed]
  have habove : ∀ frameId, r.isStale frameId = false →
      ∀ watermark, r.lastAuthenticatedFrameId = some watermark → watermark < frameId := by
    intro frameId hfresh watermark hlast
    simpa only [VideoFrameReassembler.isStale, hlast, decide_eq_false_iff_not, UInt32.not_le]
      using hfresh
  rw [hfed]
  have hr : Bounded m b (fed calls ++ [(header, payload)]) r := hrun.mono
  have houtcome := r.processPacket_outcome header payload
  generalize r.processPacket header payload = out at houtcome h
  cases houtcome with
  | refused e => cases h
  | dropped => cases h
  | inconsistent => cases h
  | overflows => cases h
  | single hcheck hfresh hone hfits =>
    obtain rfl : ⟨header, payload, payload.length⟩ = frame := Option.some.inj (Except.ok.inj h)
    refine ⟨⟨[(header, payload)], by simp [hone], ?_, by simp⟩, rfl, hr.maxFrameBytes ▸ hfits,
      habove _ hfresh⟩
    intro i p hp
    obtain ⟨rfl, rfl⟩ : i = 0 ∧ p = (header, payload) := by
      cases i with
      | zero => exact ⟨rfl, by simpa using hp.symm⟩
      | succ i => simp at hp
    have hid := (checkFragment_ok header payload hcheck).2.2
    rw [hone] at hid
    exact ⟨by simp, Nat.lt_one_iff.mp hid, sameFrame_refl header⟩
  | settles hadmitted f hconsistent htakes =>
    have hf := hr.takes header payload f (by simp) hadmitted hconsistent htakes
    unfold VideoFrameReassembler.settle at h
    split at h
    · rename_i hall
      obtain rfl : f.assemble = frame := Option.some.inj (Except.ok.inj h)
      obtain ⟨ps, hlen, hright, hpayload, hfits⟩ := hf.assemble hall
      refine ⟨⟨ps, hlen, hright, hpayload⟩, rfl, hfits, ?_⟩
      change ∀ watermark, _ → watermark < f.baseHeader.frameId
      rw [hf.frameId]
      exact habove _ hadmitted.fresh
    · cases h

/-- The second of two packets has been fed, then a packet of another frame; now comes the first. -/
theorem reassembly_never_mixes_two :
    let base : VideoPacketHeader := ⟨2, 1, 3, 9, 0, 0, 1000, 5, 0⟩
    let calls : List Call := [.processPacket (fragmentHeader base 2 1 1) [3],
      .processPacket (fragmentHeader { base with frameId := 4 } 2 0 1) [8]]
    let frame : AssembledFrame := ⟨{ fragmentHeader base 2 1 1 with flags := 7 }, [1, 2, 3], 3⟩
    ((Mealy.after step (.new 8 100) calls).processPacket (fragmentHeader base 2 0 2) [1, 2]).1 =
        .ok (some frame) ∧
      ∃ ps : List (VideoPacketHeader × Bytes), ps.length = 2 ∧
        frame.payload = (ps.map Prod.snd).flatten := by
  intro base calls frame
  have hsome : ((Mealy.after step (.new 8 100) calls).processPacket (fragmentHeader base 2 0 2)
      [1, 2]).1 = .ok (some frame) := by decide +kernel
  obtain ⟨⟨ps, hlen, -, hpayload⟩, -⟩ := reassembly_never_mixes 8 100 calls _ _ frame hsome
  exact ⟨hsome, ps, hlen, hpayload⟩

/-- The payload bytes in the table. -/
def storedBytes (r : VideoFrameReassembler) : Nat :=
  (r.frames.toList.map fun entry => stored entry.2.packets).sum

/-- Whatever is fed, the number of frames in flight and the bytes of each stay within the
limits that were given to `new`. -/
theorem reassembly_memory_bounded (m b : Nat) (calls : List Call) :
    (Mealy.after step (.new m b) calls).frames.size ≤ max m 1 ∧
    (∀ (frameId : UInt32) (f : InFlightFrame),
        (Mealy.after step (.new m b) calls).frames[frameId]? = some f →
      2 ≤ f.packets.length ∧ f.packets.length ≤ maxPacketsPerFrame ∧
      f.receivedCount = filled f.packets ∧ f.receivedCount < f.packets.length ∧
      f.totalBytes = stored f.packets ∧ f.totalBytes ≤ b) ∧
    storedBytes (Mealy.after step (.new m b) calls) ≤ max m 1 * b := by
  have hrun := bounded_run m b calls
  generalize Mealy.after step (.new m b) calls = r at hrun ⊢
  refine ⟨hrun.size, ?_, ?_⟩
  · intro frameId f hf
    obtain ⟨hexplained, hmissing⟩ := hrun.entries frameId f hf
    exact ⟨hexplained.several, hexplained.limit, hexplained.received, hmissing, hexplained.bytes,
      hexplained.budget⟩
  · have hentry : ∀ n ∈ r.frames.toList.map fun entry => stored entry.2.packets, n ≤ b := by
      intro n hn
      obtain ⟨⟨frameId, f⟩, hmem, rfl⟩ := List.mem_map.mp hn
      have hf := hrun.entries frameId f (Std.TreeMap.mem_toList_iff_getElem?_eq_some.mp hmem)
      rw [← hf.1.bytes]
      exact hf.1.budget
    calc storedBytes r ≤ (r.frames.toList.map fun entry => stored entry.2.packets).length * b := by
          simpa only [storedBytes, smul_eq_mul] using List.sum_le_card_nsmul _ b hentry
      _ = r.frames.size * b := by rw [List.length_map, Std.TreeMap.length_toList]
      _ ≤ max m 1 * b := Nat.mul_le_mul_right b hrun.size

end ReassemblyRuns
