import NexusRemote.ChaCha20Poly1305
import NexusRemote.HostStreamer

/-!
# The host worker's streaming loop (`apps/nexus-desktop-host/src/worker.rs`)

Each call of `run_streamer` creates a capture source and a streamer of its own
and loops until it is stopped. A run is driven by a schedule with one entry for
every time the loop finds `running` set; the entry says whether the datagram
receiver is found dropped, and at which send. The sleep between two frames and
the back-pressure of the channel take no part in what is computed.
-/

namespace HostWorker

open BigEndian FrameCrypto VideoTransport HostMedia HostStreamer HostStreamer.HostVideoStreamer

variable (A : Aead)

/-- What a run leaves behind: its result, the datagrams of each frame, those that
went into the channel, and the nonces it handed to the cipher. -/
structure RunOutcome where
  result : Except StreamerError Unit
  frames : List (List Bytes)
  sent : List Bytes
  spent : List (Octets 12)

def streamLoop (s : HostVideoStreamer SyntheticCaptureSource) : List (Option Nat) → RunOutcome
  | [] => ⟨.ok (), [], [], []⟩
  | dropped :: schedule =>
    let out := processNextFrame A s
    match out.result with
    | .error e => ⟨.error e, [], [], out.spent.toList⟩
    | .ok datagrams =>
      let rest := streamLoop out.streamer schedule
      let continued : RunOutcome :=
        ⟨rest.result, datagrams :: rest.frames, datagrams ++ rest.sent,
          out.spent.toList ++ rest.spent⟩
      match dropped with
      | none => continued
      | some j =>
        -- A failed send stops the worker; datagrams after it are not sent.
        if j < datagrams.length then
          ⟨.ok (), [datagrams], datagrams.take j, out.spent.toList⟩
        else continued

def runStreamer (aeadKey : Octets 32) (width height : UInt32) (schedule : List (Option Nat)) :
    RunOutcome :=
  match HostVideoStreamer.new (SyntheticCaptureSource.new width height 30) aeadKey width height with
  | .error e => ⟨.error e, [], [], []⟩
  | .ok s => streamLoop A s schedule

/-! ## Nonces of one run -/

/-- The nonce at a position of the host-to-client domain. -/
def nonceAt (n : Nat) : Octets 12 := nonceFromSequence 1 (UInt64.ofNat n)

theorem nonceAt_inj (m n : Nat) (hm : m < 2 ^ 64) (hn : n < 2 ^ 64) (h : nonceAt m = nonceAt n) :
    m = n := by
  have heq := congrArg UInt64.toNat (nonceFromSequence_inj 1 _ _ h)
  simp only [UInt64.toNat_ofNat'] at heq
  omega

/-- A step hands out the next nonce, or none and the allocator stays. -/
def Spends (position : Nat) (spent : Option (Octets 12)) (position' : Nat) : Prop :=
  (spent = none ∧ position' = position) ∨
    (position < 2 ^ 64 ∧ spent = some (nonceAt position) ∧ position' = position + 1)

theorem packetize_spends {C : Type} (s : HostVideoStreamer C) (encoded : EncodedFrame) :
    Spends s.nonceSeq.position (packetizeEncodedFrame A s encoded).spent
      (packetizeEncodedFrame A s encoded).streamer.nonceSeq.position := by
  by_cases hid : encoded.frameId.toNat < 2 ^ 32
  · obtain ⟨hspent, hseq⟩ := packetize_spent A s encoded hid
    rw [hspent, hseq]
    rcases hn : s.nonceSeq.nextNonce with ⟨e | nonce, n⟩
    · obtain ⟨rfl, -⟩ := nextNonce_error _ _ _ hn
      exact .inl ⟨rfl, rfl⟩
    · obtain ⟨hroom, rfl, hpos, -⟩ := nextNonce_ok _ _ _ hn
      rw [s.domain_eq]
      exact .inr ⟨hroom, rfl, hpos⟩
  · rw [packetize_out_of_range A s encoded hid]
    exact .inl ⟨rfl, rfl⟩

theorem encodeResult_spends {C : Type} (s : HostVideoStreamer C)
    (encoded : Except CodecError EncodedFrame) :
    Spends s.nonceSeq.position (packetizeEncodeResult A s encoded).spent
      (packetizeEncodeResult A s encoded).streamer.nonceSeq.position := by
  unfold packetizeEncodeResult
  split
  · exact packetize_spends A s _
  · exact .inl ⟨rfl, rfl⟩
  · exact .inl ⟨rfl, rfl⟩

/-- The synthetic source always captures, so a step is an encoding step. -/
theorem process_synthetic (s : HostVideoStreamer SyntheticCaptureSource) :
    processNextFrame A s =
      packetizeEncodeResult A
        { s with
          capture := s.capture.nextFrame.2
          queue := ((s.queue.replace s.capture.nextFrame.1).take).2
          encoder := (s.encoder.encode s.capture.nextFrame.1).2 }
        (s.encoder.encode s.capture.nextFrame.1).1 := rfl

theorem process_spends (s : HostVideoStreamer SyntheticCaptureSource) :
    Spends s.nonceSeq.position (processNextFrame A s).spent
      (processNextFrame A s).streamer.nonceSeq.position := by
  rw [process_synthetic]
  exact encodeResult_spends A _ _

/-- One turn of the loop: the run ends with it or goes on with the new streamer. -/
theorem loop_spent_cons (s : HostVideoStreamer SyntheticCaptureSource) (dropped : Option Nat)
    (schedule : List (Option Nat)) :
    (streamLoop A s (dropped :: schedule)).spent = (processNextFrame A s).spent.toList ∨
      (streamLoop A s (dropped :: schedule)).spent = (processNextFrame A s).spent.toList ++
        (streamLoop A (processNextFrame A s).streamer schedule).spent := by
  simp only [streamLoop]
  split
  · exact .inl rfl
  · split
    · exact .inr rfl
    · split
      · exact .inl rfl
      · exact .inr rfl

/-- The nonces of a run are pairwise different positions, none below the point
where the allocator stood. -/
theorem loop_nonces (schedule : List (Option Nat)) (s : HostVideoStreamer SyntheticCaptureSource) :
    (streamLoop A s schedule).spent.Nodup ∧ ∀ x ∈ (streamLoop A s schedule).spent,
      ∃ n, s.nonceSeq.position ≤ n ∧ n < 2 ^ 64 ∧ x = nonceAt n := by
  induction schedule generalizing s with
  | nil => simp [streamLoop]
  | cons dropped schedule ih =>
    obtain ⟨hnodup, hpositions⟩ := ih (processNextFrame A s).streamer
    have hcons := loop_spent_cons A s dropped schedule
    rcases process_spends A s with ⟨hspent, hpos⟩ | ⟨hroom, hspent, hpos⟩
    · rw [hspent] at hcons
      rcases hcons with h | h
      · rw [h]
        simp
      · rw [h, Option.toList_none, List.nil_append]
        rw [hpos] at hpositions
        exact ⟨hnodup, hpositions⟩
    · rw [hspent, Option.toList_some] at hcons
      have hself : ∃ n, s.nonceSeq.position ≤ n ∧ n < 2 ^ 64 ∧
          nonceAt s.nonceSeq.position = nonceAt n := ⟨_, le_rfl, hroom, rfl⟩
      rcases hcons with h | h
      · rw [h]
        exact ⟨List.nodup_singleton _, by simpa using hself⟩
      · rw [h, List.singleton_append]
        refine ⟨List.nodup_cons.mpr ⟨?_, hnodup⟩, ?_⟩
        · intro hmem
          obtain ⟨n, hle, hlt, heq⟩ := hpositions _ hmem
          have := nonceAt_inj _ _ hroom hlt heq
          omega
        · intro x hx
          rcases List.mem_cons.mp hx with rfl | hx
          · exact hself
          · obtain ⟨n, hle, hlt, rfl⟩ := hpositions x hx
            exact ⟨n, by omega, hlt, rfl⟩

/-! ## Runs from `run_streamer` -/

/-- The encoder of a streamer that `new` created. -/
def configured (width height : UInt32) : SoftwareFallbackEncoder :=
  (SoftwareFallbackEncoder.new.configure ⟨.h264, width, height, 30, 4000000⟩).2

theorem new_ok (capture : SyntheticCaptureSource) (aeadKey : Octets 32) (width height : UInt32)
    (hw : width ≠ 0) (hh : height ≠ 0) :
    HostVideoStreamer.new capture aeadKey width height =
      .ok (fresh capture (configured width height) aeadKey) := by
  simp [HostVideoStreamer.new, configured, SoftwareFallbackEncoder.configure,
    EncoderConfig.validate, hw, hh]

theorem new_error (capture : SyntheticCaptureSource) (aeadKey : Octets 32) (width height : UInt32)
    (h : width = 0 ∨ height = 0) :
    HostVideoStreamer.new capture aeadKey width height = .error (.codec .invalidDimensions) := by
  rcases h with rfl | rfl <;>
    simp [HostVideoStreamer.new, SoftwareFallbackEncoder.configure, EncoderConfig.validate]

/-- The first frame of every run has id one and is encoded with the dimensions
of the run. -/
theorem first_encoded (aeadKey : Octets 32) (width height : UInt32) (hw : width ≠ 0)
    (hh : height ≠ 0) :
    ∃ (s : HostVideoStreamer SyntheticCaptureSource) (encoded : EncodedFrame),
      processNextFrame A (fresh (SyntheticCaptureSource.new width height 30)
        (configured width height) aeadKey) = packetizeEncodedFrame A s encoded ∧
      s.aeadKey = aeadKey ∧ s.nonceSeq = NonceSequence.new 1 ∧ encoded.frameId = 1 := by
  have hconfig : (configured width height).config = some ⟨.h264, width, height, 30, 4000000⟩ := by
    simp [configured, SoftwareFallbackEncoder.configure, EncoderConfig.validate, hw, hh]
  obtain ⟨encoded, hencoded, hid, -, -⟩ := SoftwareFallbackEncoder.encode_configured
    (configured width height) _ (SyntheticCaptureSource.new width height 30).nextFrame.1 hconfig
    rfl rfl
  rw [process_synthetic]
  simp only [fresh, hencoded]
  exact ⟨_, encoded, rfl, rfl, rfl, hid⟩

/-- A call that gets past the encoder's configuration and runs its loop. -/
def Seals (width height : UInt32) (schedule : List (Option Nat)) : Prop :=
  width ≠ 0 ∧ height ≠ 0 ∧ schedule ≠ []

instance (width height : UInt32) (schedule : List (Option Nat)) :
    Decidable (Seals width height schedule) := inferInstanceAs (Decidable (_ ∧ _ ∧ _))

theorem run_spent_nodup (aeadKey : Octets 32) (width height : UInt32)
    (schedule : List (Option Nat)) : (runStreamer A aeadKey width height schedule).spent.Nodup := by
  unfold runStreamer
  split
  · exact List.nodup_nil
  · exact (loop_nonces A schedule _).1

/-- Every run that seals anything starts with the nonce of position zero. -/
theorem run_spends_first (aeadKey : Octets 32) (width height : UInt32)
    (schedule : List (Option Nat)) (h : Seals width height schedule) :
    nonceAt 0 ∈ (runStreamer A aeadKey width height schedule).spent := by
  obtain ⟨hw, hh, hs⟩ := h
  obtain ⟨s, encoded, hprocess, -, hseq, hid⟩ := first_encoded A aeadKey width height hw hh
  have hfirst : (processNextFrame A (fresh (SyntheticCaptureSource.new width height 30)
      (configured width height) aeadKey)).spent = some (nonceAt 0) := by
    rw [hprocess, (packetize_spent A s encoded (by rw [hid]; decide)).1, hseq]
    rfl
  obtain ⟨dropped, schedule, rfl⟩ := List.exists_cons_of_ne_nil hs
  simp only [runStreamer, new_ok _ _ _ _ hw hh]
  rcases loop_spent_cons A _ dropped schedule with hrun | hrun
  · rw [hrun, hfirst]
    simp
  · rw [hrun, hfirst]
    simp

theorem run_spent_nil (aeadKey : Octets 32) (width height : UInt32)
    (schedule : List (Option Nat)) (h : ¬Seals width height schedule) :
    (runStreamer A aeadKey width height schedule).spent = [] := by
  by_cases hdim : width = 0 ∨ height = 0
  · simp only [runStreamer, new_error _ _ _ _ hdim]
  · have hs : schedule = [] := by
      by_contra hne
      push Not at hdim
      exact h ⟨hdim.1, hdim.2, hne⟩
    subst hs
    unfold runStreamer
    split
    · rfl
    · rfl

/-! ## Several runs under one key -/

/-- The arguments of one `run_streamer` call besides the key, and its schedule. -/
structure Call where
  width : UInt32
  height : UInt32
  schedule : List (Option Nat)
  deriving DecidableEq, Repr

def Call.seals (c : Call) : Bool := decide (Seals c.width c.height c.schedule)

def Call.spent (aeadKey : Octets 32) (c : Call) : List (Octets 12) :=
  (runStreamer A aeadKey c.width c.height c.schedule).spent

/-- All nonces handed to the cipher under one key by a sequence of calls. -/
def noncesUnder (aeadKey : Octets 32) (calls : List Call) : List (Octets 12) :=
  calls.flatMap (Call.spent A aeadKey)

/-- Two calls share a nonce exactly when both seal. -/
theorem disjoint_iff (aeadKey : Octets 32) (c d : Call) :
    (c.spent A aeadKey).Disjoint (d.spent A aeadKey) ↔ ¬(c.seals = true ∧ d.seals = true) := by
  simp only [Call.seals, decide_eq_true_eq]
  constructor
  · rintro h ⟨hc, hd⟩
    exact h (run_spends_first A aeadKey _ _ _ hc) (run_spends_first A aeadKey _ _ _ hd)
  · intro h
    by_cases hc : Seals c.width c.height c.schedule
    · have hd : ¬Seals d.width d.height d.schedule := fun hd => h ⟨hc, hd⟩
      rw [Call.spent, Call.spent, run_spent_nil A aeadKey _ _ _ hd]
      exact List.disjoint_nil_right _
    · rw [Call.spent, run_spent_nil A aeadKey _ _ _ hc]
      exact List.disjoint_nil_left _

/-- At most one entry of a list passes a test exactly when no two do. -/
theorem filter_length_le_one {α : Type} (l : List α) (p : α → Bool) :
    (l.filter p).length ≤ 1 ↔ l.Pairwise fun a b => ¬(p a = true ∧ p b = true) := by
  induction l with
  | nil => simp
  | cons a l ih =>
    rw [List.pairwise_cons]
    by_cases ha : p a = true
    · have hnone : (l.filter p).length + 1 ≤ 1 ↔ ∀ b ∈ l, ¬(p a = true ∧ p b = true) := by
        simp [ha, List.filter_eq_nil_iff]
      rw [List.filter_cons_of_pos ha, List.length_cons, hnone]
      constructor
      · intro h
        refine ⟨h, List.pairwise_of_forall_mem_list ?_⟩
        intro b hb c hc hbc
        exact h b hb ⟨ha, hbc.1⟩
      · exact And.left
    · rw [List.filter_cons_of_neg ha, ih]
      simp [ha]

/-- All nonces used under one key are pairwise different exactly when at most one
of the calls seals anything: every call starts its nonce sequence afresh. -/
theorem nonces_distinct_iff (aeadKey : Octets 32) (calls : List Call) :
    (noncesUnder A aeadKey calls).Nodup ↔ (calls.filter Call.seals).length ≤ 1 := by
  rw [noncesUnder, List.nodup_flatMap, filter_length_le_one]
  have hruns : ∀ c ∈ calls, (c.spent A aeadKey).Nodup := fun c _ => run_spent_nodup A aeadKey _ _ _
  constructor
  · rintro ⟨-, hpair⟩
    exact hpair.imp fun h => (disjoint_iff A aeadKey _ _).mp h
  · intro hpair
    exact ⟨hruns, hpair.imp fun h => (disjoint_iff A aeadKey _ _).mpr h⟩

/-- Two sealing calls use a nonce twice. -/
theorem repeated_call_reuses (aeadKey : Octets 32) (c : Call) (h : c.seals = true) :
    nonceAt 0 ∈ c.spent A aeadKey ∧ ¬(noncesUnder A aeadKey [c, c]).Nodup := by
  have hseals : Seals c.width c.height c.schedule := of_decide_eq_true h
  refine ⟨run_spends_first A aeadKey _ _ _ hseals, ?_⟩
  intro hnodup
  obtain ⟨-, hpair⟩ := List.nodup_flatMap.mp hnodup
  have hdisjoint := (List.pairwise_cons.mp hpair).1 c (by simp)
  exact (disjoint_iff A aeadKey c c).mp hdisjoint ⟨h, h⟩

/-- A restart under the same key: both runs seal one frame with the same nonce. -/
theorem restart_reuses_nonce :
    let key : Octets 32 := ⟨List.replicate 32 7, rfl⟩
    let call : Call := ⟨64, 64, [none]⟩
    nonceAt 0 ∈ call.spent ChaCha20Poly1305.cipher key ∧
      ¬(noncesUnder ChaCha20Poly1305.cipher key [call, call]).Nodup :=
  repeated_call_reuses ChaCha20Poly1305.cipher ⟨List.replicate 32 7, rfl⟩ ⟨64, 64, [none]⟩ (by decide)

end HostWorker
