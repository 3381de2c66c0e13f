import NexusRemote.FrameCrypto
import NexusRemote.Mealy

/-!
# Nonces of several sequences

Any number of allocators with different domains are used in turn, directly or by
sealing frames. Each counts its own domain up, and no nonce occurs twice.
-/

namespace NonceFamily

open BigEndian FrameCrypto

variable (A : Aead) {ι : Type} [DecidableEq ι]

inductive Use where
  | nextNonce
  | sealEncodedFrame (key : Octets 32) (metadata : EncodedFrameMetadata) (plaintext : Bytes)

/-- A use of one member of the family. -/
structure Call (ι : Type) where
  index : ι
  use : Use

/-- What a call returns; a sealing call also hands a nonce to the cipher. -/
inductive Reply where
  | nonce (result : Except NonceSequenceError (Octets 12))
  | sealed (result : Except FrameSealError EncryptedFrame) (spent : Option (Octets 12))

/-- The nonce that was returned or used. -/
def Reply.taken : Reply → Option (Octets 12)
  | .nonce result => result.toOption
  | .sealed _ spent => spent

inductive Reply.Exhausted : Reply → Prop
  | nonce : Exhausted (.nonce (.error .exhausted))
  | sealed : Exhausted (.sealed (.error (.nonce .exhausted)) none)

def step (family : ι → NonceSequence) (call : Call ι) : Reply × (ι → NonceSequence) :=
  match call.use with
  | .nextNonce =>
    (.nonce (family call.index).nextNonce.1,
      Function.update family call.index (family call.index).nextNonce.2)
  | .sealEncodedFrame key metadata plaintext =>
    let outcome := sealEncodedFrame A key (family call.index) metadata plaintext
    (.sealed outcome.result outcome.spent, Function.update family call.index outcome.sequence)

def start (domains : ι → UInt32) : ι → NonceSequence := fun i => .new (domains i)

/-- How often a member was called. -/
def uses (calls : List (Call ι)) (i : ι) : Nat := calls.countP fun call => call.index = i

/-! ## One call -/

theorem step_family (family : ι → NonceSequence) (call : Call ι) :
    (step A family call).2 =
      Function.update family call.index (family call.index).nextNonce.2 := by
  unfold step
  split
  · rfl
  · simp only [sealEncodedFrame_sequence]

/-- A call takes a nonce exactly when the allocator hands one out. -/
theorem step_taken (family : ι → NonceSequence) (call : Call ι) :
    (step A family call).1.taken = (family call.index).nextNonce.1.toOption := by
  unfold step
  split
  · rfl
  · exact sealEncodedFrame_spent A _ _ _ _

theorem step_exhausted (family : ι → NonceSequence) (call : Call ι)
    (h : (family call.index).nextNonce.1 = .error .exhausted) :
    (step A family call).1.Exhausted := by
  unfold step
  split
  · rw [h]
    exact .nonce
  · rcases hn : (family call.index).nextNonce with ⟨e | nonce, sequence⟩
    · rw [hn] at h
      obtain rfl := Except.error.inj h
      simp only [sealEncodedFrame, hn]
      exact .sealed
    · rw [hn] at h
      cases h

/-- A frame that was sealed carries the nonce that was used for it. -/
theorem step_frame (family : ι → NonceSequence) (call : Call ι) (frame : EncryptedFrame)
    (spent : Option (Octets 12)) (h : (step A family call).1 = .sealed (.ok frame) spent) :
    spent = some frame.nonce := by
  unfold step at h
  split at h
  · cases h
  · simp only [Reply.sealed.injEq] at h
    obtain ⟨hresult, rfl⟩ := h
    rw [sealEncodedFrame_spent, (sealEncodedFrame_ok A _ _ _ _ frame hresult).1]
    rfl

/-- No call changes the domain of a member. -/
theorem step_domain (family : ι → NonceSequence) (call : Call ι)
    (hle : (family call.index).position ≤ 2 ^ 64) (i : ι) :
    ((step A family call).2 i).domain = (family i).domain := by
  rw [step_family]
  by_cases hi : i = call.index
  · rw [hi, Function.update_self, (nextNonce_position _ hle).1]
  · rw [Function.update_of_ne hi]

/-- A call moves the member that it is made on, and no other. -/
theorem step_position (family : ι → NonceSequence) (call : Call ι)
    (hle : (family call.index).position ≤ 2 ^ 64) (i : ι) :
    ((step A family call).2 i).position =
      if i = call.index then min ((family i).position + 1) (2 ^ 64) else (family i).position := by
  rw [step_family]
  by_cases hi : i = call.index
  · rw [if_pos hi, hi, Function.update_self, (nextNonce_position _ hle).2.1]
  · rw [if_neg hi, Function.update_of_ne hi]

/-! ## Runs -/

/-- Every member has counted its calls, up to the end of its range. -/
structure Counts (domains : ι → UInt32) (calls : List (Call ι)) (family : ι → NonceSequence) :
    Prop where
  domain : ∀ i, (family i).domain = domains i
  position : ∀ i, (family i).position = min (uses calls i) (2 ^ 64)

theorem counts_start (domains : ι → UInt32) : Counts domains [] (start domains) where
  domain := fun _ => rfl
  position := fun _ => rfl

variable {A}

theorem Counts.position_le {domains : ι → UInt32} {calls : List (Call ι)}
    {family : ι → NonceSequence} (h : Counts domains calls family) (i : ι) :
    (family i).position ≤ 2 ^ 64 := by
  rw [h.position]
  exact Nat.min_le_right _ _

theorem uses_concat (calls : List (Call ι)) (call : Call ι) (i : ι) :
    uses (calls ++ [call]) i = if i = call.index then uses calls i + 1 else uses calls i := by
  unfold uses
  rw [List.countP_append, List.countP_singleton]
  by_cases hi : i = call.index
  · simp [hi]
  · simp [hi, Ne.symm hi]

theorem Counts.step {domains : ι → UInt32} {calls : List (Call ι)} {family : ι → NonceSequence}
    (h : Counts domains calls family) (call : Call ι) :
    Counts domains (calls ++ [call]) (step A family call).2 := by
  have hle := h.position_le call.index
  constructor
  · intro i
    rw [step_domain A family call hle, h.domain]
  · intro i
    rw [step_position A family call hle, h.position, uses_concat]
    split <;> omega

variable (A)

theorem counts_run (domains : ι → UInt32) (calls : List (Call ι)) :
    Counts domains calls (Mealy.after (step A) (start domains) calls) := by
  induction calls using List.reverseRecOn with
  | nil => exact counts_start domains
  | append_singleton calls call ih =>
    rw [Mealy.after_concat]
    exact ih.step call

/-- A nonce from a position that a member has passed. -/
def Past (family : ι → NonceSequence) (nonce : Octets 12) : Prop :=
  ∃ i n, n < (family i).position ∧
    nonce = nonceFromSequence (family i).domain (UInt64.ofNat n)

/-- The sequences with different domains, whatever they have handed out. -/
structure Apart (family : ι → NonceSequence) : Prop where
  domains : Function.Injective fun i => (family i).domain
  position_le : ∀ i, (family i).position ≤ 2 ^ 64

variable {A}

theorem Apart.step {family : ι → NonceSequence} (h : Apart family) (call : Call ι) :
    Apart (step A family call).2 := by
  have hle := h.position_le call.index
  constructor
  · simpa only [step_domain A family call hle] using h.domains
  · intro i
    have hi := h.position_le i
    rw [step_position A family call hle]
    split <;> omega

/-- What is past stays past. -/
theorem Apart.past {family : ι → NonceSequence} (h : Apart family) (call : Call ι)
    (nonce : Octets 12) (hpast : Past family nonce) : Past (NonceFamily.step A family call).2 nonce := by
  obtain ⟨i, n, hn, rfl⟩ := hpast
  have hle := h.position_le call.index
  have hi := h.position_le i
  refine ⟨i, n, ?_, by rw [step_domain A family call hle]⟩
  rw [step_position A family call hle]
  split <;> omega

/-- A nonce that is taken comes from the position of its member. -/
theorem Apart.taken {family : ι → NonceSequence} (h : Apart family) (call : Call ι)
    (nonce : Octets 12) (htaken : (NonceFamily.step A family call).1.taken = some nonce) :
    (family call.index).position < 2 ^ 64 ∧
      nonce = nonceFromSequence (family call.index).domain
        (UInt64.ofNat (family call.index).position) := by
  have hle := h.position_le call.index
  obtain ⟨-, -, hok, hexhausted⟩ := nextNonce_position (family call.index) hle
  rw [step_taken] at htaken
  by_cases hend : (family call.index).position = 2 ^ 64
  · rw [hexhausted hend] at htaken
    cases htaken
  · have hlt : (family call.index).position < 2 ^ 64 := by omega
    rw [hok hlt] at htaken
    exact ⟨hlt, (Option.some.inj htaken).symm⟩

/-- It is past from then on, and was not before. -/
theorem Apart.fresh {family : ι → NonceSequence} (h : Apart family) (call : Call ι)
    (nonce : Octets 12) (htaken : (NonceFamily.step A family call).1.taken = some nonce) :
    Past (NonceFamily.step A family call).2 nonce ∧ ∀ past, Past family past → past ≠ nonce := by
  have hle := h.position_le call.index
  obtain ⟨hlt, rfl⟩ := h.taken call nonce htaken
  constructor
  · refine ⟨call.index, (family call.index).position, ?_, by rw [step_domain A family call hle]⟩
    rw [step_position A family call hle, if_pos rfl]
    omega
  · -- The same domain means the same member, and that has counted on since.
    rintro past ⟨i, n, hn, rfl⟩ heq
    obtain rfl : i = call.index := h.domains (nonceFromSequence_domain _ _ _ _ heq)
    have hsequence := congrArg UInt64.toNat (nonceFromSequence_inj _ _ _ heq)
    rw [UInt64.toNat_ofNat', UInt64.toNat_ofNat', Nat.mod_eq_of_lt (hn.trans hlt),
      Nat.mod_eq_of_lt hlt] at hsequence
    omega

variable (A)

/-- However the members of a family with different domains are used, no nonce is taken
twice. The calls on each member take the nonces of its domain in order, from zero to the
last, and every later call reports that the sequence is exhausted. -/
theorem nonces_never_repeat (domains : ι → UInt32) (hdomains : Function.Injective domains)
    (calls : List (Call ι)) :
    ((Mealy.trace (step A) (start domains) calls).filterMap Reply.taken).Nodup ∧
    ∀ earlier call, earlier ++ [call] <+: calls →
      (uses earlier call.index < 2 ^ 64 →
        (step A (Mealy.after (step A) (start domains) earlier) call).1.taken =
          some (nonceFromSequence (domains call.index)
            (UInt64.ofNat (uses earlier call.index)))) ∧
      (2 ^ 64 ≤ uses earlier call.index →
        (step A (Mealy.after (step A) (start domains) earlier) call).1.Exhausted) ∧
      ∀ frame spent,
        (step A (Mealy.after (step A) (start domains) earlier) call).1 = .sealed (.ok frame) spent →
          spent = some frame.nonce := by
  constructor
  · have hstart : Apart (start domains) := ⟨hdomains, fun _ => Nat.zero_le _⟩
    exact (Mealy.emitted_pairwise (fun _ call h (_ : True) => h.step call)
      (fun _ call nonce h _ hpast => h.past call nonce hpast)
      (fun _ call nonce h _ htaken => h.fresh call nonce htaken)
      (start domains) calls hstart (fun _ _ => trivial)).1
  · intro earlier call _
    have hcounts := counts_run A domains earlier
    generalize Mealy.after (step A) (start domains) earlier = family at hcounts ⊢
    obtain ⟨-, -, hok, hexhausted⟩ :=
      nextNonce_position (family call.index) (hcounts.position_le call.index)
    rw [hcounts.position, hcounts.domain] at hok
    rw [hcounts.position] at hexhausted
    refine ⟨?_, ?_, fun frame spent => step_frame A family call frame spent⟩
    · intro hlt
      rw [Nat.min_eq_left (Nat.le_of_lt hlt)] at hok
      rw [step_taken, hok hlt]
      rfl
    · intro hge
      exact step_exhausted A family call (hexhausted (Nat.min_eq_right hge))

/-- Two sequences in turn, one of them sealing with a cipher that fails. -/
theorem nonces_never_repeat_two :
    let broken : Aead := ⟨fun _ _ _ _ => none, fun _ _ _ _ => none⟩
    let frame : Use := .sealEncodedFrame (List.Vector.replicate 32 0) ⟨2, 3, 9, 1, 1000, true⟩ [1]
    let calls : List (Call Bool) := [⟨false, .nextNonce⟩, ⟨true, frame⟩, ⟨true, frame⟩]
    let domains : Bool → UInt32 := fun i => if i then 1 else 2
    Function.Injective domains ∧
      ((Mealy.trace (step broken) (start domains) calls).filterMap Reply.taken).Nodup ∧
      (step broken (Mealy.after (step broken) (start domains) (calls.take 2))
        ⟨true, frame⟩).1.taken = some (nonceFromSequence 1 1) := by
  intro broken frame calls domains
  have hdomains : Function.Injective domains := by decide
  have hall := nonces_never_repeat broken domains hdomains calls
  exact ⟨hdomains, hall.1, (hall.2 (calls.take 2) ⟨true, frame⟩ (List.prefix_refl _)).1 (by decide)⟩

end NonceFamily
