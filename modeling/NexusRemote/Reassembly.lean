import NexusRemote.VideoTransport

/-!
# Frame reassembly (`crates/nexus-transport/src/video.rs`)

The receiver keeps a bounded table of incomplete frames, ordered by frame id.
A packet is validated, dropped when it is stale against the authenticated
watermark, and otherwise stored in its slot; the packet that fills the last
slot returns the whole frame. Only `commitAuthenticatedFrame` moves the
watermark.
-/

namespace Reassembly

open BigEndian Fragments VideoPacket VideoTransport

def maxInFlightFrames : Nat := 8

structure AssembledFrame where
  header : VideoPacketHeader
  payload : Bytes
  assembledLen : Nat
  deriving DecidableEq, Repr

inductive ReassemblyError where
  | invalidPacketId (packetId packetCount : UInt16)
  | tooManyPackets (count : UInt16) (max : Nat)
  | payloadLengthMismatch (declared : UInt16) (actual : Nat)
  | invalidBoundaryFlags
  | inconsistentFragmentMetadata
  deriving DecidableEq, Repr

structure InFlightFrame where
  baseHeader : VideoPacketHeader
  packets : List (Option Bytes)
  receivedCount : Nat
  totalBytes : Nat
  deriving DecidableEq, Repr

structure VideoFrameReassembler where
  frames : Std.TreeMap UInt32 InFlightFrame
  maxInFlight : Nat
  maxFrameBytes : Nat
  lastAuthenticatedFrameId : Option UInt32

def VideoFrameReassembler.new (maxInFlight maxFrameBytes : Nat) : VideoFrameReassembler :=
  ⟨∅, max maxInFlight 1, maxFrameBytes, none⟩

def VideoFrameReassembler.default : VideoFrameReassembler :=
  VideoFrameReassembler.new maxInFlightFrames maxFramePayloadSize

/-- The checks that look at the packet alone. -/
def checkFragment (header : VideoPacketHeader) (payload : Bytes) : Except ReassemblyError Unit :=
  if header.packetCount = 0 ∨ header.packetCount.toNat > maxPacketsPerFrame then
    .error (.tooManyPackets header.packetCount maxPacketsPerFrame)
  else if header.packetId ≥ header.packetCount then
    .error (.invalidPacketId header.packetId header.packetCount)
  else if header.payloadLen.toNat ≠ payload.length then
    .error (.payloadLengthMismatch header.payloadLen payload.length)
  else if header.packetId = 0 ∧ header.flags &&& flagFrameStart = 0 then
    .error .invalidBoundaryFlags
  else if header.packetId = header.packetCount - 1 ∧ header.flags &&& flagFrameEnd = 0 then
    .error .invalidBoundaryFlags
  else .ok ()

/-- What a packet that passes them says about itself. -/
theorem checkFragment_ok (header : VideoPacketHeader) (payload : Bytes)
    (h : checkFragment header payload = .ok ()) :
    header.packetCount ≠ 0 ∧ header.packetCount.toNat ≤ maxPacketsPerFrame ∧
      header.packetId.toNat < header.packetCount.toNat := by
  unfold checkFragment at h
  split at h
  · cases h
  · rename_i hcount
    split at h
    · cases h
    · rename_i hid
      rw [not_or, Nat.not_lt] at hcount
      rw [ge_iff_le, UInt16.le_iff_toNat_le, Nat.not_le] at hid
      exact ⟨hcount.1, hcount.2, hid⟩

/-- The slot table that `entry().or_insert_with` creates for a new frame. -/
def InFlightFrame.opened (header : VideoPacketHeader) : InFlightFrame :=
  ⟨header, List.replicate header.packetCount.toNat none, 0, 0⟩

/-- Disagreement with an earlier fragment of the same frame. -/
def InFlightFrame.inconsistent (f : InFlightFrame) (header : VideoPacketHeader) : Bool :=
  f.packets.length != header.packetCount.toNat
    || f.baseHeader.streamId != header.streamId
    || f.baseHeader.version != header.version
    || f.baseHeader.timestampUs != header.timestampUs
    || f.baseHeader.nonceSequence != header.nonceSequence
    || f.baseHeader.flags &&& flagKeyframe != header.flags &&& flagKeyframe

def InFlightFrame.store (f : InFlightFrame) (idx : Nat) (payload : Bytes) : InFlightFrame :=
  { f with
    packets := f.packets.set idx (some payload)
    receivedCount := f.receivedCount + 1
    totalBytes := f.totalBytes + payload.length }

def InFlightFrame.assemble (f : InFlightFrame) : AssembledFrame :=
  let fullPayload := (f.packets.filterMap id).flatten
  { header := { f.baseHeader with
      flags := f.baseHeader.flags ||| (flagFrameStart ||| flagFrameEnd) }
    payload := fullPayload
    assembledLen := fullPayload.length }

namespace VideoFrameReassembler

variable (r : VideoFrameReassembler)

def isStale (frameId : UInt32) : Bool :=
  match r.lastAuthenticatedFrameId with
  | some lastId => frameId ≤ lastId
  | none => false

/-- The table after the oldest frame gave way to a new one, if it was full. -/
def makeRoom (frameId : UInt32) : Std.TreeMap UInt32 InFlightFrame :=
  if r.frames.size ≥ r.maxInFlight ∧ ¬r.frames.contains frameId then
    match r.frames.minKey? with
    | some oldestKey => r.frames.erase oldestKey
    | none => r.frames
  else r.frames

/-- The table once the packet's frame has an entry (`entry().or_insert_with`). -/
def entered (header : VideoPacketHeader) : Std.TreeMap UInt32 InFlightFrame :=
  (r.makeRoom header.frameId).insertIfNew header.frameId (.opened header)

/-- The tail of `process_packet`: hand out a complete frame or keep collecting. -/
def settle (frameId : UInt32) (f : InFlightFrame) :
    Except ReassemblyError (Option AssembledFrame) × VideoFrameReassembler :=
  if f.receivedCount = f.packets.length then
    (.ok (some f.assemble), { r with frames := r.frames.erase frameId })
  else (.ok none, { r with frames := r.frames.insert frameId f })

def processPacket (header : VideoPacketHeader) (payload : Bytes) :
    Except ReassemblyError (Option AssembledFrame) × VideoFrameReassembler :=
  match checkFragment header payload with
  | .error e => (.error e, r)
  | .ok () =>
    if r.isStale header.frameId then (.ok none, r)
    else if header.packetCount = 1 then
      if payload.length > r.maxFrameBytes then (.ok none, r)
      else (.ok (some ⟨header, payload, payload.length⟩), r)
    else
      let r' := { r with frames := r.entered header }
      let inFlight := r'.frames.getD header.frameId (.opened header)
      if inFlight.inconsistent header then (.error .inconsistentFragmentMetadata, r')
      else
        let idx := header.packetId.toNat
        if (inFlight.packets.getD idx none).isNone then
          if inFlight.totalBytes + payload.length > r.maxFrameBytes then
            (.ok none, { r' with frames := r'.frames.erase header.frameId })
          else r'.settle header.frameId (inFlight.store idx payload)
        else r'.settle header.frameId inFlight

def pruneStaleBefore (frameId : UInt32) : VideoFrameReassembler :=
  let staleKeys := r.frames.keys.filter (· < frameId)
  { r with frames := staleKeys.foldl (fun frames key => frames.erase key) r.frames }

def commitAuthenticatedFrame (frameId : UInt32) : Bool × VideoFrameReassembler :=
  if r.isStale frameId then (false, r)
  else (true, { r with lastAuthenticatedFrameId := some frameId }.pruneStaleBefore frameId)

/-- The watermark separates stale from fresh ids. -/
theorem lt_of_stale_fresh (old new : UInt32) (hold : r.isStale old = true)
    (hnew : r.isStale new = false) : old < new := by
  cases hlast : r.lastAuthenticatedFrameId with
  | none => simp [isStale, hlast] at hold
  | some lastId =>
    simp only [isStale, hlast, decide_eq_true_eq, decide_eq_false_iff_not,
      UInt32.not_le] at hold hnew
    exact UInt32.lt_of_le_of_lt hold hnew

/-! ## What the table operations do to one entry -/

theorem foldl_erase_get (keys : List UInt32) (t : Std.TreeMap UInt32 InFlightFrame) (k : UInt32) :
    (keys.foldl (fun frames key => frames.erase key) t)[k]? = if k ∈ keys then none else t[k]? := by
  induction keys generalizing t with
  | nil => simp
  | cons key keys ih =>
    rw [List.foldl_cons, ih]
    by_cases hk : k ∈ keys
    · simp [hk]
    · simp [hk, Std.TreeMap.getElem?_erase, eq_comm (a := k)]

theorem pruneStaleBefore_get (frameId k : UInt32) :
    (r.pruneStaleBefore frameId).frames[k]? = if k < frameId then none else r.frames[k]? := by
  simp only [pruneStaleBefore, foldl_erase_get, List.mem_filter, Std.TreeMap.mem_keys,
    decide_eq_true_eq]
  by_cases hm : k ∈ r.frames
  · simp [hm]
  · simp [hm]

/-- Making room for a frame never touches that frame's own entry. -/
theorem makeRoom_self (frameId : UInt32) : (r.makeRoom frameId)[frameId]? = r.frames[frameId]? := by
  unfold makeRoom
  split
  · rename_i hfull
    have hn : r.frames[frameId]? = none := Std.TreeMap.getElem?_eq_none (by simpa using hfull.2)
    split
    · simp [Std.TreeMap.getElem?_erase, hn]
    · rfl
  · rfl

/-- Any other entry stays or is given up. -/
theorem makeRoom_other (frameId k : UInt32) :
    (r.makeRoom frameId)[k]? = r.frames[k]? ∨ (r.makeRoom frameId)[k]? = none := by
  unfold makeRoom
  split
  · split
    · rename_i oldestKey _
      by_cases hk : oldestKey = k
      · right; simp [hk]
      · left; simp [Std.TreeMap.getElem?_erase, hk]
    · exact .inl rfl
  · exact .inl rfl

theorem entered_getD (header : VideoPacketHeader) :
    (r.entered header).getD header.frameId (.opened header) =
      (r.frames[header.frameId]?).getD (.opened header) := by
  rw [entered, Std.TreeMap.getD_insertIfNew]
  have hself := r.makeRoom_self header.frameId
  split
  · rename_i hnew
    have hn := Std.TreeMap.getElem?_eq_none hnew.2
    rw [← hself, hn]
    rfl
  · rw [Std.TreeMap.getD_eq_getD_getElem?, hself]

theorem entered_other (header : VideoPacketHeader) (k : UInt32) (hk : k ≠ header.frameId) :
    (r.entered header)[k]? = r.frames[k]? ∨ (r.entered header)[k]? = none := by
  have h : (r.entered header)[k]? = (r.makeRoom header.frameId)[k]? := by
    simp [entered, Std.TreeMap.getElem?_insertIfNew, hk.symm]
  rw [h]
  exact r.makeRoom_other header.frameId k

theorem settle_other (frameId k : UInt32) (f : InFlightFrame) (hk : k ≠ frameId) :
    (r.settle frameId f).2.frames[k]? = r.frames[k]? := by
  unfold settle
  split
  · simp [Std.TreeMap.getElem?_erase, hk.symm]
  · simp [Std.TreeMap.getElem?_insert, hk.symm]

/-- The entry that a packet of several is put into. -/
def entry (header : VideoPacketHeader) : InFlightFrame :=
  (r.frames[header.frameId]?).getD (.opened header)

/-- What is known once a packet of several has passed the checks. -/
structure Admitted (header : VideoPacketHeader) (payload : Bytes) : Prop where
  check : checkFragment header payload = .ok ()
  fresh : r.isStale header.frameId = false
  several : header.packetCount ≠ 1

/-- The entry after the packet: it fills its slot if that is empty. -/
inductive Takes (header : VideoPacketHeader) (payload : Bytes) : InFlightFrame → Prop
  | fills (empty : ((r.entry header).packets.getD header.packetId.toNat none).isNone = true)
      (fits : (r.entry header).totalBytes + payload.length ≤ r.maxFrameBytes) :
      Takes header payload ((r.entry header).store header.packetId.toNat payload)
  | repeats : Takes header payload (r.entry header)

/-- Every way in which `process_packet` returns. -/
inductive Outcome (header : VideoPacketHeader) (payload : Bytes) :
    Except ReassemblyError (Option AssembledFrame) × VideoFrameReassembler → Prop
  | refused (e : ReassemblyError) (check : checkFragment header payload = .error e) :
      Outcome header payload (.error e, r)
  | dropped (idle : ¬r.Admitted header payload) : Outcome header payload (.ok none, r)
  | single (check : checkFragment header payload = .ok ())
      (fresh : r.isStale header.frameId = false) (one : header.packetCount = 1)
      (fits : payload.length ≤ r.maxFrameBytes) :
      Outcome header payload (.ok (some ⟨header, payload, payload.length⟩), r)
  | inconsistent (admitted : r.Admitted header payload)
      (conflict : (r.entry header).inconsistent header = true) :
      Outcome header payload (.error .inconsistentFragmentMetadata,
        { r with frames := r.entered header })
  | overflows (admitted : r.Admitted header payload) :
      Outcome header payload (.ok none,
        { r with frames := (r.entered header).erase header.frameId })
  | settles (admitted : r.Admitted header payload) (f : InFlightFrame)
      (consistent : (r.entry header).inconsistent header = false)
      (takes : r.Takes header payload f) :
      Outcome header payload ({ r with frames := r.entered header }.settle header.frameId f)

theorem processPacket_outcome (header : VideoPacketHeader) (payload : Bytes) :
    r.Outcome header payload (r.processPacket header payload) := by
  unfold processPacket
  cases hcheck : checkFragment header payload with
  | error e => exact .refused e hcheck
  | ok u =>
    dsimp only
    split
    · rename_i hstale
      exact .dropped fun hadmitted => Bool.false_ne_true (hadmitted.fresh.symm.trans hstale)
    · rename_i hstale
      have hfresh : r.isStale header.frameId = false := Bool.not_eq_true _ ▸ hstale
      split
      · rename_i hone
        split
        · exact .dropped fun hadmitted => hadmitted.several hone
        · rename_i hfits
          exact .single hcheck hfresh hone (Nat.not_lt.mp hfits)
      · rename_i hseveral
        have hadmitted : r.Admitted header payload := ⟨hcheck, hfresh, hseveral⟩
        rw [r.entered_getD header]
        change r.Outcome header payload (if (r.entry header).inconsistent header then _ else _)
        split
        · rename_i hconflict
          exact .inconsistent hadmitted hconflict
        · rename_i hconsistent
          have hconsistent := Bool.not_eq_true _ ▸ hconsistent
          split
          · rename_i hempty
            split
            · exact .overflows hadmitted
            · rename_i hfits
              exact .settles hadmitted _ hconsistent (.fills hempty (Nat.not_lt.mp hfits))
          · exact .settles hadmitted _ hconsistent .repeats

/-- A packet can only change the table of incomplete frames. -/
theorem processPacket_frame (header : VideoPacketHeader) (payload : Bytes) :
    ∃ frames, (r.processPacket header payload).2 = { r with frames := frames } := by
  have houtcome := r.processPacket_outcome header payload
  generalize r.processPacket header payload = out at houtcome ⊢
  cases houtcome with
  | refused e => exact ⟨r.frames, rfl⟩
  | dropped => exact ⟨r.frames, rfl⟩
  | single => exact ⟨r.frames, rfl⟩
  | inconsistent => exact ⟨_, rfl⟩
  | overflows => exact ⟨_, rfl⟩
  | settles _ f =>
    unfold settle
    split
    · exact ⟨_, rfl⟩
    · exact ⟨_, rfl⟩

/-- Only an authenticated commit moves the watermark. -/
@[simp] theorem processPacket_last (header : VideoPacketHeader) (payload : Bytes) :
    (r.processPacket header payload).2.lastAuthenticatedFrameId = r.lastAuthenticatedFrameId := by
  obtain ⟨frames, h⟩ := r.processPacket_frame header payload
  rw [h]

@[simp] theorem processPacket_maxFrameBytes (header : VideoPacketHeader) (payload : Bytes) :
    (r.processPacket header payload).2.maxFrameBytes = r.maxFrameBytes := by
  obtain ⟨frames, h⟩ := r.processPacket_frame header payload
  rw [h]

@[simp] theorem commitAuthenticatedFrame_maxFrameBytes (frameId : UInt32) :
    (r.commitAuthenticatedFrame frameId).2.maxFrameBytes = r.maxFrameBytes := by
  unfold commitAuthenticatedFrame
  split <;> rfl

end VideoFrameReassembler

/-! ## Fragments of a genuine frame -/

theorem checkFragment_genuine (X : CutFrame) (i : Nat) (hi : i < X.count) :
    checkFragment (X.header i) (X.piece i) = .ok () := by
  have hcount : (X.header i).packetCount.toNat = X.count := by simp
  have hid := X.header_packetId i hi
  have hpos := X.count_pos
  have hle : X.count ≤ maxPacketsPerFrame := X.count_le
  have hzero : (X.header i).packetCount ≠ 0 := by
    intro h
    rw [h] at hcount
    change 0 = X.pieces.length at hcount
    omega
  have hid' : ¬(X.header i).packetId ≥ (X.header i).packetCount := by
    rw [ge_iff_le, UInt16.le_iff_toNat_le]
    omega
  have hstart : ¬((X.header i).packetId = 0 ∧ (X.header i).flags &&& flagFrameStart = 0) := by
    rintro ⟨h0, hf⟩
    have : i = 0 := by rw [← hid, h0]; rfl
    subst this
    exact X.header_frameStart hf
  have hend : ¬((X.header i).packetId = (X.header i).packetCount - 1 ∧
      (X.header i).flags &&& flagFrameEnd = 0) := by
    rintro ⟨h1, hf⟩
    have hone : (1 : UInt16) ≤ (X.header i).packetCount := by
      rw [UInt16.le_iff_toNat_le, hcount]
      exact hpos
    have : i = X.count - 1 := by rw [← hid, h1, UInt16.toNat_sub_of_le _ _ hone, hcount]; rfl
    subst this
    exact X.header_frameEnd hf
  simp only [checkFragment, hzero, hcount, Nat.not_lt.mpr hle, or_self, ↓reduceIte, hid',
    X.header_payloadLen i hi, ne_eq, not_true_eq_false, hstart, hend]

/-- The entry holds exactly the fragments of `X` with index in `S`. -/
structure InFlightFrame.Tracks (f : InFlightFrame) (X : CutFrame) (S : Finset Nat) : Prop where
  subset : S ⊆ Finset.range X.count
  packets : f.packets = slots X.pieces S
  received : f.receivedCount = S.card
  bytes : f.totalBytes = held X.pieces S
  base : ∃ i, f.baseHeader = X.header i

/-- What the caller of `process_packet` reads off a complete frame. -/
structure AssembledFrame.Restores (a : AssembledFrame) (X : CutFrame) : Prop where
  payload : a.payload = X.pieces.flatten
  version : a.header.version = X.base.version
  streamId : a.header.streamId = X.base.streamId
  frameId : a.header.frameId = X.base.frameId
  timestampUs : a.header.timestampUs = X.base.timestampUs
  nonceSequence : a.header.nonceSequence = X.base.nonceSequence
  keyframe : a.header.isKeyframe = X.base.isKeyframe

namespace InFlightFrame

variable {f : InFlightFrame} {X : CutFrame} {S : Finset Nat}

theorem opened_tracks (X : CutFrame) (i : Nat) : (opened (X.header i)).Tracks X ∅ where
  subset := by simp
  packets := by simp [opened, slots_none, CutFrame.count]
  received := rfl
  bytes := by simp [opened]
  base := ⟨i, rfl⟩

theorem Tracks.consistent (h : f.Tracks X S) (i : Nat) : f.inconsistent (X.header i) = false := by
  obtain ⟨j, hj⟩ := h.base
  simp [inconsistent, h.packets, hj, CutFrame.count]

theorem Tracks.slot_isNone (h : f.Tracks X S) (i : Nat) (hi : i < X.count) :
    (f.packets.getD i none).isNone = decide (i ∉ S) := by
  rw [h.packets, List.getD_eq_getElem?_getD, slots_get X.pieces S i hi]
  by_cases hs : i ∈ S <;> simp [hs]

theorem Tracks.store (h : f.Tracks X S) (i : Nat) (hi : i < X.count) (hs : i ∉ S) :
    (f.store i (X.piece i)).Tracks X (insert i S) where
  subset := Finset.insert_subset (Finset.mem_range.mpr hi) h.subset
  packets := by
    rw [X.piece_eq i hi]
    simp only [InFlightFrame.store, h.packets, slots_insert X.pieces S i hi]
  received := by simp [InFlightFrame.store, h.received, Finset.card_insert_of_notMem hs]
  bytes := by
    rw [X.piece_eq i hi]
    simp only [InFlightFrame.store, h.bytes, held_insert X.pieces S i hi hs]
  base := h.base

/-- No more bytes are held than the whole frame has. -/
theorem Tracks.bytes_le (h : f.Tracks X S) (i : Nat) (hi : i < X.count) (hs : i ∉ S) :
    f.totalBytes + (X.piece i).length ≤ X.pieces.flatten.length := by
  have hstore := h.store i hi hs
  have hheld := held_le X.pieces (insert i S) hstore.subset
  have hbytes := hstore.bytes
  simp only [InFlightFrame.store] at hbytes
  omega

theorem Tracks.complete_iff (h : f.Tracks X S) :
    f.receivedCount = f.packets.length ↔ S = Finset.range X.count := by
  rw [h.received, h.packets, length_slots]
  exact card_eq_iff X.count S h.subset

theorem Tracks.assemble (h : f.Tracks X S) (hall : S = Finset.range X.count) :
    f.assemble.Restores X := by
  obtain ⟨j, hj⟩ := h.base
  have hmask : (flagFrameStart ||| flagFrameEnd) &&& flagKeyframe = 0 := by decide
  have hslots : (slots X.pieces S).filterMap id = X.pieces :=
    slots_all X.pieces S (by intro i hi; rw [hall]; exact Finset.mem_range.mpr hi)
  constructor
  · change (f.packets.filterMap id).flatten = X.pieces.flatten
    rw [h.packets, hslots]
  · simp [InFlightFrame.assemble, hj]
  · simp [InFlightFrame.assemble, hj]
  · simp [InFlightFrame.assemble, hj]
  · simp [InFlightFrame.assemble, hj]
  · simp [InFlightFrame.assemble, hj]
  · simp [InFlightFrame.assemble, hj, VideoPacketHeader.isKeyframe, or_and, hmask]

end InFlightFrame

namespace VideoFrameReassembler

/-- How far the table has got with `X`: no entry and nothing received, or an
entry with some but not all fragments. -/
def Progress (r : VideoFrameReassembler) (X : CutFrame) (S : Finset Nat) : Prop :=
  (r.frames[X.base.frameId]? = none ∧ S = ∅) ∨
    ∃ f, r.frames[X.base.frameId]? = some f ∧ f.Tracks X S ∧ S.Nonempty ∧ S ≠ Finset.range X.count

/-- In both cases the entry that `process_packet` works on tracks `S`. -/
theorem Progress.tracks {r : VideoFrameReassembler} {X : CutFrame} {S : Finset Nat}
    (h : r.Progress X S) (i : Nat) :
    ((r.frames[X.base.frameId]?).getD (.opened (X.header i))).Tracks X S := by
  rcases h with ⟨hn, rfl⟩ | ⟨f, hf, ht, -, -⟩
  · simpa [hn] using InFlightFrame.opened_tracks X i
  · simpa [hf] using ht

theorem Progress.ne_all {r : VideoFrameReassembler} {X : CutFrame} {S : Finset Nat}
    (h : r.Progress X S) : S ≠ Finset.range X.count := by
  rcases h with ⟨-, rfl⟩ | ⟨f, -, -, -, hne⟩
  · intro he
    have hc := congrArg Finset.card he
    have hp := X.count_pos
    simp only [Finset.card_empty, Finset.card_range, CutFrame.count] at hc
    omega
  · exact hne

/-- Settling an entry that tracks a nonempty set of fragments. -/
theorem settle_tracks (r : VideoFrameReassembler) (X : CutFrame) (S : Finset Nat)
    (f : InFlightFrame) (h : f.Tracks X S) (hs : S.Nonempty) :
    (S = Finset.range X.count → ∃ a : AssembledFrame,
      (r.settle X.base.frameId f).1 = .ok (some a) ∧ a.Restores X ∧
        (r.settle X.base.frameId f).2.frames[X.base.frameId]? = none) ∧
    (S ≠ Finset.range X.count →
      (r.settle X.base.frameId f).1 = .ok none ∧ (r.settle X.base.frameId f).2.Progress X S) := by
  constructor
  · intro hall
    refine ⟨f.assemble, ?_, h.assemble hall, ?_⟩
    · simp [settle, h.complete_iff.mpr hall]
    · simp [settle, h.complete_iff.mpr hall]
  · intro hne
    have hc : f.receivedCount ≠ f.packets.length := fun he => hne (h.complete_iff.mp he)
    refine ⟨by simp [settle, hc], .inr ⟨f, ?_, h, hs, hne⟩⟩
    simp [settle, hc]

/-- A fragment of a frame with several packets is stored and settled. -/
theorem processPacket_multi (r : VideoFrameReassembler) (X : CutFrame) (S : Finset Nat) (i : Nat)
    (hi : i < X.count) (hstale : r.isStale X.base.frameId = false)
    (hbytes : X.pieces.flatten.length ≤ r.maxFrameBytes) (hcount : X.count ≠ 1)
    (f : InFlightFrame) (hf : (r.frames[X.base.frameId]?).getD (.opened (X.header i)) = f)
    (ht : f.Tracks X S) :
    r.processPacket (X.header i) (X.piece i) =
      { r with frames := r.entered (X.header i) }.settle X.base.frameId
        (if i ∈ S then f else f.store i (X.piece i)) := by
  have hone : (X.header i).packetCount ≠ 1 := by
    intro h
    have hc := X.header_packetCount i
    rw [h] at hc
    exact hcount hc.symm
  have hget : (r.entered (X.header i)).getD X.base.frameId (.opened (X.header i)) = f := by
    rw [← hf]
    exact r.entered_getD (X.header i)
  simp only [processPacket, checkFragment_genuine X i hi, CutFrame.header_frameId, hstale,
    Bool.false_eq_true, ↓reduceIte, hone, hget, ht.consistent i, X.header_packetId i hi,
    ht.slot_isNone i hi, decide_eq_true_eq]
  by_cases hs : i ∈ S
  · simp [hs]
  · have hfit := ht.bytes_le i hi hs
    have hbudget : ¬f.totalBytes + (X.piece i).length > r.maxFrameBytes := by omega
    simp [hs, hbudget]

/-- A frame in one packet is never in flight. -/
theorem Progress.idle_of_single {r : VideoFrameReassembler} {X : CutFrame} {S : Finset Nat}
    (h : r.Progress X S) (hcount : X.count = 1) : r.frames[X.base.frameId]? = none ∧ S = ∅ := by
  rcases h with h | ⟨f, -, ht, hne, hall⟩
  · exact h
  · have hsub := ht.subset
    simp only [hcount, Finset.range_one, Finset.subset_singleton_iff] at hsub
    rcases hsub with rfl | rfl
    · exact absurd hne (by simp)
    · exact absurd (by simp [hcount]) hall

theorem pieces_of_single (X : CutFrame) (hcount : X.count = 1) : X.pieces = [X.piece 0] := by
  obtain ⟨p, hp⟩ := List.length_eq_one_iff.mp hcount
  simp [CutFrame.piece, hp]

/-- The packet of such a frame is handed on as it is. -/
theorem processPacket_single (r : VideoFrameReassembler) (X : CutFrame) (hcount : X.count = 1)
    (hstale : r.isStale X.base.frameId = false)
    (hbytes : X.pieces.flatten.length ≤ r.maxFrameBytes) :
    r.processPacket (X.header 0) (X.piece 0) =
      (.ok (some ⟨X.header 0, X.piece 0, (X.piece 0).length⟩), r) := by
  have hone : (X.header 0).packetCount = 1 := by
    apply UInt16.toNat_inj.mp
    rw [X.header_packetCount, hcount]
    rfl
  have hlen : ¬(X.piece 0).length > r.maxFrameBytes := by
    rw [pieces_of_single X hcount] at hbytes
    simp only [List.flatten_cons, List.flatten_nil, List.append_nil] at hbytes
    omega
  simp only [processPacket, checkFragment_genuine X 0 (by omega), CutFrame.header_frameId, hstale,
    Bool.false_eq_true, ↓reduceIte, hone, hlen]

/-- The specification of `process_packet` on a genuine, non-stale fragment: the
set of received fragments grows by it, the whole frame comes out exactly when
that set is complete, and other frames are at most given up. -/
theorem processPacket_genuine (r : VideoFrameReassembler) (X : CutFrame) (S : Finset Nat) (i : Nat)
    (hi : i < X.count) (hstale : r.isStale X.base.frameId = false)
    (hbytes : X.pieces.flatten.length ≤ r.maxFrameBytes) (hp : r.Progress X S) :
    (insert i S = Finset.range X.count → ∃ a : AssembledFrame,
      (r.processPacket (X.header i) (X.piece i)).1 = .ok (some a) ∧ a.Restores X ∧
        (r.processPacket (X.header i) (X.piece i)).2.frames[X.base.frameId]? = none) ∧
    (insert i S ≠ Finset.range X.count →
      (r.processPacket (X.header i) (X.piece i)).1 = .ok none ∧
        (r.processPacket (X.header i) (X.piece i)).2.Progress X (insert i S)) ∧
    ∀ k, k ≠ X.base.frameId →
      (r.processPacket (X.header i) (X.piece i)).2.frames[k]? = r.frames[k]? ∨
        (r.processPacket (X.header i) (X.piece i)).2.frames[k]? = none := by
  by_cases hcount : X.count = 1
  · -- The fast path leaves the table alone, so nothing can be in flight for `X`.
    have hi0 : i = 0 := by omega
    subst hi0
    obtain ⟨hnone, rfl⟩ := hp.idle_of_single hcount
    rw [r.processPacket_single X hcount hstale hbytes]
    refine ⟨fun _ => ⟨_, rfl, ⟨?_, rfl, rfl, rfl, rfl, rfl, X.header_isKeyframe 0⟩,
      hnone⟩, fun hne => absurd (by simp [hcount]) hne, fun _ _ => .inl rfl⟩
    simp [congrArg List.flatten (pieces_of_single X hcount)]
  · have ht := hp.tracks i
    have heq := r.processPacket_multi X S i hi hstale hbytes hcount _ rfl ht
    have htracks : (if i ∈ S then (r.frames[X.base.frameId]?).getD (.opened (X.header i)) else
        ((r.frames[X.base.frameId]?).getD (.opened (X.header i))).store i (X.piece i)).Tracks X
          (insert i S) := by
      by_cases hs : i ∈ S
      · simpa [hs] using ht
      · simpa [hs] using ht.store i hi hs
    have hset := settle_tracks { r with frames := r.entered (X.header i) } X (insert i S) _ htracks
      (Finset.insert_nonempty i S)
    rw [heq]
    refine ⟨hset.1, hset.2, fun k hk => ?_⟩
    rw [settle_other _ _ _ _ hk]
    exact r.entered_other (X.header i) k hk

/-- A stale packet of a genuine frame is dropped without any effect. -/
theorem processPacket_stale (r : VideoFrameReassembler) (X : CutFrame) (i : Nat) (hi : i < X.count)
    (hstale : r.isStale X.base.frameId = true) :
    r.processPacket (X.header i) (X.piece i) = (.ok none, r) := by
  simp only [processPacket, checkFragment_genuine X i hi, CutFrame.header_frameId, hstale,
    ↓reduceIte]

end VideoFrameReassembler

end Reassembly
