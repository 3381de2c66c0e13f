import NexusRemote.ReassemblyRuns

/-!
# Who holds a slot of the reassembler

The table of incomplete frames is small, so every slot counts. A packet that is
refused changes nothing. A slot is lost to a frame that can never be completed
exactly when a frame is committed while fragments under its own id are still in
flight. A full table gives up its oldest frame, even for a packet that is older
than all of them.
-/

namespace ReassemblySlots

open BigEndian Fragments VideoPacket VideoTransport Reassembly ReassemblyRuns Tables

variable (r : VideoFrameReassembler) (header : VideoPacketHeader) (payload : Bytes)

/-! ## Refused packets -/

/-- The first fragment of a frame agrees with the entry that it opens. -/
theorem opened_consistent : (InFlightFrame.opened header).inconsistent header = false := by
  simp [InFlightFrame.inconsistent, InFlightFrame.opened]

/-- A packet can only disagree with a frame that was in flight before it. -/
theorem mem_of_conflict (h : (r.entry header).inconsistent header = true) :
    header.frameId ∈ r.frames := by
  by_contra hnew
  rw [VideoFrameReassembler.entry, Std.TreeMap.getElem?_eq_none hnew, Option.getD_none,
    opened_consistent] at h
  cases h

/-- Such a frame needs no room and is not entered again. -/
theorem entered_of_mem (h : header.frameId ∈ r.frames) : r.entered header = r.frames := by
  have hroom : r.makeRoom header.frameId = r.frames := by
    unfold VideoFrameReassembler.makeRoom
    rw [if_neg]
    rintro ⟨-, hnew⟩
    exact hnew (Std.TreeMap.contains_iff_mem.mpr h)
  rw [VideoFrameReassembler.entered, hroom, insertIfNew_of_mem _ _ _ h]

/-- Whatever the state, a packet that is refused leaves all of it as it was. -/
theorem refused_packet_unchanged (e : ReassemblyError)
    (h : (r.processPacket header payload).1 = .error e) :
    (r.processPacket header payload).2 = r := by
  have houtcome := r.processPacket_outcome header payload
  generalize r.processPacket header payload = out at houtcome h ⊢
  cases houtcome with
  | refused e hcheck => rfl
  | dropped => cases h
  | single => cases h
  | overflows => cases h
  | inconsistent hadmitted hconflict =>
    -- The check comes after the eviction and the new entry, but neither happened.
    rw [entered_of_mem r header (mem_of_conflict r header hconflict)]
  | settles hadmitted f =>
    unfold VideoFrameReassembler.settle at h
    split at h
    · cases h
    · cases h

/-- A fragment with another timestamp comes for a frame of a full table. -/
theorem refused_packet_unchanged_conflict :
    let base : VideoPacketHeader := ⟨2, 1, 3, 9, 0, 0, 1000, 5, 0⟩
    let r := Mealy.after step (.new 1 100) [.processPacket (fragmentHeader base 2 1 1) [3]]
    let late := fragmentHeader { base with timestampUs := 1001 } 2 0 1
    (r.processPacket late [4]).1 = .error .inconsistentFragmentMetadata ∧
      (r.processPacket late [4]).2 = r := by
  intro base r late
  have herror : (r.processPacket late [4]).1 = .error .inconsistentFragmentMetadata := by
    decide +kernel
  exact ⟨herror, refused_packet_unchanged r late [4] _ herror⟩

/-! ## Dead frames -/

/-- Every frame in flight is above the watermark. -/
def Live (r : VideoFrameReassembler) : Prop :=
  ∀ frameId ∈ r.frames, ∀ watermark, r.lastAuthenticatedFrameId = some watermark →
    watermark < frameId

theorem isStale_false_iff (frameId : UInt32) :
    r.isStale frameId = false ↔
      ∀ watermark, r.lastAuthenticatedFrameId = some watermark → watermark < frameId := by
  unfold VideoFrameReassembler.isStale
  cases r.lastAuthenticatedFrameId with
  | none => simp
  | some last => simp

theorem live_iff : Live r ↔ All (fun frameId _ => r.isStale frameId = false) r.frames := by
  constructor
  · intro h frameId f hf
    have hmem : frameId ∈ r.frames := Std.TreeMap.mem_iff_isSome_getElem?.mpr (by simp [hf])
    exact (isStale_false_iff r frameId).mpr (h frameId hmem)
  · intro h frameId hmem
    exact (isStale_false_iff r frameId).mp (h frameId _ (Std.TreeMap.getElem?_eq_some_getElem hmem))

/-- A packet opens at most an entry under its own id, and only if that id is fresh. -/
theorem all_processPacket {P : UInt32 → InFlightFrame → Prop} (h : All P r.frames)
    (hnew : r.isStale header.frameId = false → ∀ f, P header.frameId f) :
    All P (r.processPacket header payload).2.frames := by
  have hentered : r.Admitted header payload → All P (r.entered header) := by
    intro hadmitted
    exact (all_makeRoom r header.frameId h).insertIfNew _ _ (hnew hadmitted.fresh _)
  have houtcome := r.processPacket_outcome header payload
  generalize r.processPacket header payload = out at houtcome ⊢
  cases houtcome with
  | refused e hcheck => exact h
  | dropped => exact h
  | single => exact h
  | inconsistent hadmitted => exact hentered hadmitted
  | overflows hadmitted => exact (hentered hadmitted).erase _
  | settles hadmitted f =>
    unfold VideoFrameReassembler.settle
    split
    · exact (hentered hadmitted).erase _
    · exact (hentered hadmitted).insert _ _ (hnew hadmitted.fresh f)

theorem Live.processPacket {r : VideoFrameReassembler} (h : Live r) :
    Live (r.processPacket header payload).2 := by
  rw [live_iff] at h ⊢
  have hsame : ∀ frameId, (r.processPacket header payload).2.isStale frameId = r.isStale frameId := by
    intro frameId
    simp [VideoFrameReassembler.isStale]
  simp only [hsame]
  exact all_processPacket r header payload h fun hfresh _ => hfresh

theorem mem_pruneStaleBefore (frameId k : UInt32) :
    k ∈ (r.pruneStaleBefore frameId).frames ↔ frameId ≤ k ∧ k ∈ r.frames := by
  rw [Std.TreeMap.mem_iff_isSome_getElem?, r.pruneStaleBefore_get,
    Std.TreeMap.mem_iff_isSome_getElem?]
  by_cases hk : k < frameId
  · simp [hk]
  · simp [hk, UInt32.not_lt.mp hk]

/-- A commit that goes through keeps the entry under its own id, which is dead from then on. -/
theorem live_commit_iff {r : VideoFrameReassembler} (h : Live r) (frameId : UInt32) :
    Live (r.commitAuthenticatedFrame frameId).2 ↔
      (r.isStale frameId = false → frameId ∉ r.frames) := by
  unfold VideoFrameReassembler.commitAuthenticatedFrame
  cases hstale : r.isStale frameId with
  | true => simpa using h
  | false =>
    simp only [Bool.false_eq_true, if_false, forall_const]
    constructor
    · intro hlive hmem
      have hkept := (mem_pruneStaleBefore { r with lastAuthenticatedFrameId := some frameId }
        frameId frameId).mpr ⟨UInt32.le_refl frameId, hmem⟩
      exact UInt32.lt_irrefl frameId (hlive frameId hkept frameId rfl)
    · intro hidle k hk watermark hlast
      obtain rfl : frameId = watermark := Option.some.inj hlast
      obtain ⟨hle, hmem⟩ := (mem_pruneStaleBefore _ frameId k).mp hk
      refine UInt32.lt_of_le_of_ne hle ?_
      rintro rfl
      exact hidle hmem

/-- The commits after which every frame in flight is above the new watermark. -/
def CommitsIdle (r : VideoFrameReassembler) (call : Call) : Prop :=
  ∀ frameId, call = .commitAuthenticatedFrame frameId → r.isStale frameId = false →
    frameId ∉ r.frames

theorem live_step_iff (r : VideoFrameReassembler) (call : Call) (_ : True) (h : Live r) :
    Live (step r call).2 ↔ CommitsIdle r call := by
  cases call with
  | processPacket header payload =>
    refine iff_of_true (h.processPacket header payload) ?_
    intro frameId hcall
    cases hcall
  | commitAuthenticatedFrame id =>
    refine (live_commit_iff h id).trans ⟨?_, fun hidle => hidle id rfl⟩
    intro hidle frameId hcall
    cases hcall
    exact hidle

/-- All along a run every frame in flight is above the watermark exactly if no commit that goes
through is for an id under which fragments are in flight. -/
theorem slots_live_iff (m b : Nat) (calls : List Call) :
    (∀ ys, ys <+: calls → ∀ frameId ∈ (Mealy.after step (.new m b) ys).frames, ∀ watermark,
        (Mealy.after step (.new m b) ys).lastAuthenticatedFrameId = some watermark →
          watermark < frameId) ↔
      ∀ ys frameId, ys ++ [.commitAuthenticatedFrame frameId] <+: calls →
        (Mealy.after step (.new m b) ys).isStale frameId = false →
          frameId ∉ (Mealy.after step (.new m b) ys).frames := by
  have hnew : Live (.new m b) := by
    intro frameId hmem
    simp [VideoFrameReassembler.new] at hmem
  refine (Mealy.always_iff (fun _ _ _ => trivial) live_step_iff (.new m b) calls trivial
    hnew).trans ⟨?_, ?_⟩
  · intro hall ys frameId hys
    exact hall ys _ hys frameId rfl
  · rintro hall ys call hys frameId rfl
    exact hall ys frameId hys

/-- Fragment 0 of frame 5 is in flight when the whole of frame 5 comes in one packet. That
frame is handed out and committed, and the slot stays taken. -/
theorem committed_frame_keeps_slot :
    let base : VideoPacketHeader := ⟨2, 1, 3, 5, 0, 0, 1000, 5, 0⟩
    let calls : List Call := [.processPacket (fragmentHeader base 2 0 1) [1],
      .processPacket (fragmentHeader base 1 0 1) [2]]
    let r := Mealy.after step (.new 8 100) (calls ++ [.commitAuthenticatedFrame 5])
    ((Mealy.after step (.new 8 100) (calls.take 1)).processPacket (fragmentHeader base 1 0 1)
        [2]).1 = .ok (some ⟨fragmentHeader base 1 0 1, [2], 1⟩) ∧
      (fragmentHeader base 1 0 1).frameId = 5 ∧
      5 ∈ r.frames ∧ r.lastAuthenticatedFrameId = some 5 ∧ ¬(5 : UInt32) < 5 := by
  decide +kernel

/-! ## Eviction -/

/-- A frame in flight that a packet of another frame takes out of the table. -/
def GivenUp (k : UInt32) : Prop :=
  k ∈ r.frames ∧ k ≠ header.frameId ∧ k ∉ (r.processPacket header payload).2.frames

/-- The packet is the first of a frame of several for which there is no slot left. -/
structure NeedsRoom : Prop where
  admitted : r.Admitted header payload
  full : r.maxInFlight ≤ r.frames.size
  first : header.frameId ∉ r.frames

/-- The other entries are those that are left once there is room. -/
theorem processPacket_others (k : UInt32) (hk : k ≠ header.frameId) :
    (r.Admitted header payload ∧
      (r.processPacket header payload).2.frames[k]? = (r.makeRoom header.frameId)[k]?) ∨
    (¬r.Admitted header payload ∧
      (r.processPacket header payload).2.frames[k]? = r.frames[k]?) := by
  have hentered : (r.entered header)[k]? = (r.makeRoom header.frameId)[k]? := by
    simp [VideoFrameReassembler.entered, Std.TreeMap.getElem?_insertIfNew, hk.symm]
  have houtcome := r.processPacket_outcome header payload
  generalize r.processPacket header payload = out at houtcome ⊢
  cases houtcome with
  | refused e hcheck =>
    refine .inr ⟨fun hadmitted => ?_, rfl⟩
    rw [hadmitted.check] at hcheck
    cases hcheck
  | dropped hidle => exact .inr ⟨hidle, rfl⟩
  | single _ _ hone => exact .inr ⟨fun hadmitted => hadmitted.several hone, rfl⟩
  | inconsistent hadmitted => exact .inl ⟨hadmitted, hentered⟩
  | overflows hadmitted =>
    refine .inl ⟨hadmitted, ?_⟩
    exact (getElem?_erase_of_ne _ hk.symm).trans hentered
  | settles hadmitted f =>
    refine .inl ⟨hadmitted, ?_⟩
    rw [VideoFrameReassembler.settle_other _ _ _ _ hk]
    exact hentered

theorem mem_makeRoom (frameId k : UInt32) :
    k ∈ r.makeRoom frameId ↔ k ∈ r.frames ∧
      ¬(r.maxInFlight ≤ r.frames.size ∧ frameId ∉ r.frames ∧ r.frames.minKey? = some k) := by
  unfold VideoFrameReassembler.makeRoom
  by_cases hfull : r.frames.size ≥ r.maxInFlight ∧ ¬r.frames.contains frameId
  · have hfirst : frameId ∉ r.frames := fun h => hfull.2 (Std.TreeMap.contains_iff_mem.mpr h)
    rw [if_pos hfull]
    cases hmin : r.frames.minKey? with
    | none => simp
    | some oldest => simp [Std.TreeMap.mem_erase, hfull.1, hfirst, and_comm]
  · rw [if_neg hfull]
    refine ⟨fun h => ⟨h, ?_⟩, fun h => h.1⟩
    rintro ⟨hsize, hfirst, -⟩
    exact hfull ⟨hsize, fun h => hfirst (Std.TreeMap.contains_iff_mem.mp h)⟩

theorem minKey?_iff (t : Std.TreeMap UInt32 InFlightFrame) (k : UInt32) :
    t.minKey? = some k ↔ k ∈ t ∧ ∀ k' ∈ t, k ≤ k' := by
  rw [Std.TreeMap.minKey?_eq_some_iff_mem_and_forall]
  simp only [Std.isLE_compare]

/-- What is given up is the oldest frame in flight, for a new frame that finds no slot. -/
theorem givenUp_iff (k : UInt32) :
    GivenUp r header payload k ↔
      NeedsRoom r header payload ∧ k ∈ r.frames ∧ ∀ k' ∈ r.frames, k ≤ k' := by
  unfold GivenUp
  rw [← minKey?_iff]
  constructor
  · rintro ⟨hmem, hk, hgone⟩
    rcases processPacket_others r header payload k hk with ⟨hadmitted, hget⟩ | ⟨-, hget⟩
    · rw [Std.TreeMap.mem_iff_isSome_getElem?, hget, ← Std.TreeMap.mem_iff_isSome_getElem?,
        mem_makeRoom] at hgone
      obtain ⟨hfull, hfirst, hmin⟩ := not_not.mp fun hroom => hgone ⟨hmem, hroom⟩
      exact ⟨⟨hadmitted, hfull, hfirst⟩, hmin⟩
    · rw [Std.TreeMap.mem_iff_isSome_getElem?, hget, ← Std.TreeMap.mem_iff_isSome_getElem?] at hgone
      exact absurd hmem hgone
  · rintro ⟨⟨hadmitted, hfull, hfirst⟩, hmin⟩
    have hmem := ((minKey?_iff r.frames k).mp hmin).1
    have hk : k ≠ header.frameId := by
      rintro rfl
      exact hfirst hmem
    refine ⟨hmem, hk, ?_⟩
    rcases processPacket_others r header payload k hk with ⟨-, hget⟩ | ⟨hidle, -⟩
    · rw [Std.TreeMap.mem_iff_isSome_getElem?, hget, ← Std.TreeMap.mem_iff_isSome_getElem?,
        mem_makeRoom]
      rintro ⟨-, hroom⟩
      exact hroom ⟨hfull, hfirst, hmin⟩
    · exact absurd hadmitted hidle

/-- In every reachable state, the frames given up for a packet are the oldest of those in flight
and its own exactly if a packet that needs room finds an older frame in flight. -/
theorem eviction_fresh_iff (m b : Nat) (calls : List Call) (header : VideoPacketHeader)
    (payload : Bytes) :
    (∀ k, GivenUp (Mealy.after step (.new m b) calls) header payload k ↔
        NeedsRoom (Mealy.after step (.new m b) calls) header payload ∧
          k ∈ (Mealy.after step (.new m b) calls).frames ∧ k < header.frameId ∧
          ∀ k' ∈ (Mealy.after step (.new m b) calls).frames, k ≤ k') ↔
      (NeedsRoom (Mealy.after step (.new m b) calls) header payload →
        ∃ k ∈ (Mealy.after step (.new m b) calls).frames, k < header.frameId) := by
  have hrun := bounded_run m b calls
  generalize Mealy.after step (.new m b) calls = r at hrun ⊢
  simp only [givenUp_iff]
  constructor
  · intro hall hneeds
    have hsize : r.frames.size ≠ 0 := by
      have hfull := hneeds.full
      rw [hrun.maxInFlight] at hfull
      omega
    cases hmin : r.frames.minKey? with
    | none =>
      rw [Std.TreeMap.minKey?_eq_none_iff, Std.TreeMap.isEmpty_eq_size_eq_zero, beq_iff_eq] at hmin
      exact absurd hmin hsize
    | some oldest =>
      have holdest := (minKey?_iff r.frames oldest).mp hmin
      obtain ⟨-, hmem, hlt, -⟩ := (hall oldest).mp ⟨hneeds, holdest⟩
      exact ⟨oldest, hmem, hlt⟩
  · intro hroom k
    constructor
    · rintro ⟨hneeds, hmem, hleast⟩
      obtain ⟨older, holder, hlt⟩ := hroom hneeds
      exact ⟨hneeds, hmem, UInt32.lt_of_le_of_lt (hleast older holder) hlt, hleast⟩
    · rintro ⟨hneeds, hmem, -, hleast⟩
      exact ⟨hneeds, hmem, hleast⟩

/-- Eight frames, the oldest 9, fill the default table. A late fragment of frame 5 throws frame 9
out of it. -/
theorem late_fragment_evicts_newer :
    let base : VideoPacketHeader := ⟨2, 1, 3, 5, 0, 0, 1000, 5, 0⟩
    let newer : List Call := [9, 10, 11, 12, 13, 14, 15, 16].map fun frameId =>
      .processPacket (fragmentHeader { base with frameId := frameId } 2 0 1) [1]
    let r := Mealy.after step .default newer
    GivenUp r (fragmentHeader base 2 0 1) [2] 9 ∧ (fragmentHeader base 2 0 1).frameId < 9 := by
  intro base newer r
  have hkeys : r.frames.keys = [9, 10, 11, 12, 13, 14, 15, 16] := by decide +kernel
  have hadmitted : r.Admitted (fragmentHeader base 2 0 1) [2] :=
    ⟨by decide +kernel, by decide +kernel, by decide +kernel⟩
  have hleast : ∀ k ∈ r.frames, 9 ≤ k := by
    intro k hk
    rw [← Std.TreeMap.mem_keys, hkeys] at hk
    simp only [List.mem_cons, List.not_mem_nil, or_false] at hk
    rcases hk with rfl | rfl | rfl | rfl | rfl | rfl | rfl | rfl <;> decide
  refine ⟨(givenUp_iff r _ [2] 9).mpr ⟨⟨hadmitted, ?_, ?_⟩, ?_, hleast⟩, by decide⟩
  · decide +kernel
  · decide +kernel
  · decide +kernel

end ReassemblySlots
