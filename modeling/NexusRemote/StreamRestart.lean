import NexusRemote.HostWorker
import NexusRemote.VideoDelivery

/-!
# A restart of the host streamer

The client keeps its receiver across a reconnect, so the watermark of the first
run survives; the host numbers its frames from one again. Everything below is
about the first frame of the second run.
-/

namespace StreamRestart

open BigEndian FrameCrypto VideoPacket VideoTransport Reassembly ReplayWindow ClientReceiver
open HostMedia HostStreamer HostStreamer.HostVideoStreamer ClientReceiver.Receiver GenuineReceive
open HostWorker VideoDelivery
open ChaCha20Poly1305 (cipher)

variable (A : Aead)

/-- All datagrams of a frame arrive, in some order and with repetitions. -/
def Delivered (datagrams arrivals : List Bytes) : Prop :=
  (∀ d ∈ arrivals, d ∈ datagrams) ∧ ∀ d ∈ datagrams, d ∈ arrivals

/-- The receiver takes the arrivals without an error and publishes a frame. -/
def Resumes (c : Receiver) (arrivals : List Bytes) : Prop :=
  (∀ o ∈ Mealy.trace (receive A) c arrivals, o.1 = .ok ()) ∧
    (Mealy.trace (receive A) c arrivals).filterMap Prod.snd ≠ []

theorem loop_frames_cons (s : HostVideoStreamer SyntheticCaptureSource)
    (schedule : List (Option Nat)) (datagrams : List Bytes) (rest : List (List Bytes))
    (h : (streamLoop A s schedule).frames = datagrams :: rest) :
    (processNextFrame A s).result = .ok datagrams := by
  cases schedule with
  | nil => cases h
  | cons dropped schedule =>
    simp only [streamLoop] at h
    split at h
    · cases h
    · rename_i sent hres
      rw [hres]
      split at h
      · rw [(List.cons.inj h).1]
      · split at h
        · rw [(List.cons.inj h).1]
        · rw [(List.cons.inj h).1]

/-- The first frame of every run has frame id one and nonce sequence zero. -/
theorem first_frame (aeadKey : Octets 32) (width height : UInt32) (schedule : List (Option Nat))
    (datagrams : List Bytes)
    (h : (runStreamer A aeadKey width height schedule).frames.head? = some datagrams) :
    ∃ (X : WireFrame) (encoded : EncodedFrame), datagrams = X.datagrams ∧
      Carries A aeadKey X encoded ∧ X.base.frameId = 1 := by
  by_cases hdim : width = 0 ∨ height = 0
  · simp only [runStreamer, new_error _ _ _ _ hdim] at h
    cases h
  · push Not at hdim
    obtain ⟨rest, hframes⟩ := List.head?_eq_some_iff.mp h
    simp only [runStreamer, new_ok _ _ _ _ hdim.1 hdim.2] at hframes
    have hres := loop_frames_cons A _ _ _ _ hframes
    obtain ⟨s, encoded, hprocess, hkey, -, hid⟩ :=
      first_encoded A aeadKey width height hdim.1 hdim.2
    rw [hprocess] at hres
    obtain ⟨X, rfl, hcarries, -, -⟩ := packetize_sent A s encoded datagrams hres
    have hone : X.base.frameId = 1 := by
      apply UInt32.toNat_inj.mp
      rw [hcarries.frameId, hid]
      rfl
    rw [hkey] at hcarries
    exact ⟨X, encoded, rfl, hcarries, hone⟩

/-- A complete delivery to a new receiver leaves the frame behind the watermark. -/
theorem delivered_stale (hopen : A.OpensSealed) (key : Octets 32) (X : WireFrame)
    (encoded : EncodedFrame) (hcarries : Carries A key X encoded) (arrivals : List Bytes)
    (h : Delivered X.datagrams arrivals) :
    (Mealy.after (receive A) (Receiver.new key 1) arrivals).reassembler.isStale
      X.base.frameId = true := by
  have hcollecting : Collecting A (Receiver.new key 1) X encoded ∅ :=
    ⟨rfl, le_rfl, .inl ⟨by simp [Receiver.new, VideoFrameReassembler.default,
      VideoFrameReassembler.new], rfl⟩, hcarries, rfl, by
      rintro (hmem | haged)
      · simp [Receiver.new, NonceReplayWindow.default] at hmem
      · cases haged⟩
  have hphase : Phase A (Receiver.new key 1) X encoded [] := by
    rw [Phase, seen_nil, if_neg hcollecting.progress.ne_all]
    exact hcollecting
  obtain ⟨-, -, hend⟩ := run_phase A hopen X encoded arrivals h.1 _ [] hphase
  rw [Phase, List.nil_append, if_pos ((seen_all_iff X arrivals).mpr h.2)] at hend
  exact hend

/-- Datagrams of a stale frame are taken and ignored. -/
theorem stale_ignored (c : Receiver) (X : WireFrame) (arrivals : List Bytes)
    (hstale : c.reassembler.isStale X.base.frameId = true)
    (h : ∀ d ∈ arrivals, d ∈ X.datagrams) :
    ∀ o ∈ Mealy.trace (receive A) c arrivals, o = (.ok (), none) := by
  have hstep : ∀ (c' : Receiver) d, c = c' → d ∈ X.datagrams →
      receive A c' d = ((.ok (), none), c') := by
    rintro c' d rfl hd
    obtain ⟨i, hi, rfl⟩ := List.mem_map.mp hd
    exact receive_stale A c X i (List.mem_range.mp hi) hstale
  exact Mealy.trace_forall (fun c' d hc hd => by rw [hstep c' d hc hd, hc])
    (fun c' d hc hd => by rw [hstep c' d hc hd]) c arrivals rfl h

/-- Video never resumes after a restart in the same session. A first run under a
key has `k ≥ 1` of its frames delivered completely, one after the other, to a
receiver; a second run is started with the same key and dimensions, and all
datagrams of its first frame are delivered to that receiver. The receiver does
not publish it. -/
theorem restart_never_resumes (hopen : A.OpensSealed) (aeadKey : Octets 32) (width height : UInt32)
    (first second : List (Option Nat)) (k : Nat) (hk : 1 ≤ k)
    (hfirst : k ≤ (runStreamer A aeadKey width height first).frames.length)
    (deliveries : List (List Bytes))
    (hdelivered : List.Forall₂ Delivered
      ((runStreamer A aeadKey width height first).frames.take k) deliveries)
    (datagrams : List Bytes)
    (hsecond : (runStreamer A aeadKey width height second).frames.head? = some datagrams)
    (arrivals : List Bytes) (harrivals : Delivered datagrams arrivals) :
    ¬Resumes A (Mealy.after (receive A) (Receiver.new aeadKey 1) deliveries.flatten) arrivals := by
  obtain ⟨sent, frames, hframes⟩ : ∃ sent frames,
      (runStreamer A aeadKey width height first).frames = sent :: frames := by
    apply List.exists_cons_of_ne_nil
    intro hnil
    rw [hnil, List.length_nil] at hfirst
    omega
  obtain ⟨n, rfl⟩ : ∃ n, k = n + 1 := ⟨k - 1, by omega⟩
  rw [hframes, List.take_succ_cons] at hdelivered
  cases hdelivered with
  | cons harrived hrest =>
    rename_i arrived later
    obtain ⟨X, encoded, rfl, hcarries, hX⟩ :=
      first_frame A aeadKey width height first sent (by rw [hframes]; rfl)
    obtain ⟨Y, -, rfl, -, hY⟩ := first_frame A aeadKey width height second datagrams hsecond
    have hstale := delivered_stale A hopen aeadKey X encoded hcarries arrived harrived
    rw [hX.trans hY.symm] at hstale
    have hkept : (Mealy.after (receive A) (Receiver.new aeadKey 1)
        (arrived :: later).flatten).reassembler.isStale Y.base.frameId = true := by
      rw [List.flatten_cons, Mealy.after_append]
      exact Mealy.after_always (fun c d hc => receive_keeps_stale A c d _ hc) _ later.flatten hstale
    have hignored := stale_ignored A _ Y arrivals hkept harrivals.1
    rintro ⟨-, hpublished⟩
    apply hpublished
    rw [List.filterMap_eq_nil_iff]
    intro o ho
    rw [hignored o ho]

/-- The restart of a run that delivered one frame of one pixel. -/
theorem restart_never_resumes_one_pixel :
    let key : Octets 32 := ⟨List.replicate 32 7, rfl⟩
    ∃ datagrams, (runStreamer cipher key 1 1 [none]).frames = [datagrams] ∧
      ¬Resumes cipher
        (Mealy.after (receive cipher) (Receiver.new key 1) [datagrams].flatten)
        datagrams := by
  intro key
  have hlen : (runStreamer cipher key 1 1 [none]).frames.length = 1 := by
    decide +kernel
  obtain ⟨datagrams, hframes⟩ := List.length_eq_one_iff.mp hlen
  have hself : Delivered datagrams datagrams := ⟨fun _ h => h, fun _ h => h⟩
  refine ⟨datagrams, hframes, ?_⟩
  exact restart_never_resumes cipher ChaCha20Poly1305.cipher_opensSealed key 1 1
    [none] [none] 1 le_rfl hlen.ge [datagrams] (by rw [hframes]; exact .cons hself .nil) datagrams
    (by rw [hframes]; rfl) datagrams hself

/-- One frame of one pixel, delivered once by each of two runs: the first time it
is published, the second time it is not. -/
theorem restart_frame_lost :
    let key : Octets 32 := ⟨List.replicate 32 7, rfl⟩
    let run := runStreamer cipher key 1 1 [none]
    let once := Mealy.trace (receive cipher) (Receiver.new key 1) run.sent
    let again := Mealy.trace (receive cipher)
      (Mealy.after (receive cipher) (Receiver.new key 1) run.sent) run.sent
    (once.filterMap Prod.snd).map (·.frameId) = [1] ∧ again = [(.ok (), none)] := by
  decide +kernel

end StreamRestart
