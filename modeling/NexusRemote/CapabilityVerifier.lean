import NexusRemote.ControlEncoding
import NexusRemote.Mealy
import NexusRemote.UnixTime

/-!
# Verifying capabilities at the agent (`crates/nexus-auth/src/verifier.rs`, `replay.rs`)

The agent checks a capability against its schema, its own device, the time and
the negotiated protocol, then takes its nonce, and then checks the signature.
Instants are nanoseconds on the monotonic clock.
-/

namespace CapabilityVerifier

open BigEndian UnixTime RelayTokens SessionRequest Capabilities
open ControlEncoding (encoder matching_keys seed verifyingKey)

/-! ## The replay cache -/

/-- The nonces that were taken, with the instant of each. -/
@[ext]
structure NonceReplayCache where
  entries : List (Bytes × Nat)
  ttl : Duration
  capacity : Nat
  nodup : (entries.map Prod.fst).Nodup
  capacity_pos : 0 < capacity

def NonceReplayCache.new (ttl : Duration) (capacity : Nat) : NonceReplayCache where
  entries := []
  ttl := ttl
  capacity := max capacity 1
  nodup := List.nodup_nil
  capacity_pos := by omega

/-- `retain`: forgets the nonces whose time is up. -/
def NonceReplayCache.prune (cache : NonceReplayCache) (now : Nat) : NonceReplayCache :=
  { cache with
    entries := cache.entries.filter fun entry => now - entry.2 < cache.ttl
    nodup := cache.nodup.sublist (List.filter_sublist.map _) }

def NonceReplayCache.contains (cache : NonceReplayCache) (nonce : Bytes) : Prop :=
  nonce ∈ cache.entries.map Prod.fst

instance (cache : NonceReplayCache) (nonce : Bytes) : Decidable (cache.contains nonce) :=
  inferInstanceAs (Decidable (nonce ∈ cache.entries.map Prod.fst))

/-- `HashMap::insert` of a nonce that is not there. -/
def NonceReplayCache.insert (cache : NonceReplayCache) (nonce : Bytes) (now : Nat)
    (h : ¬cache.contains nonce) : NonceReplayCache :=
  { cache with
    entries := (nonce, now) :: cache.entries
    nodup := List.nodup_cons.mpr ⟨h, cache.nodup⟩ }

def NonceReplayCache.accept (cache : NonceReplayCache) (nonce : Bytes) (now : Nat) :
    Bool × NonceReplayCache :=
  let pruned := cache.prune now
  if h : pruned.contains nonce then (false, pruned)
  -- A full cache refuses rather than forget a nonce that could still be replayed.
  else if pruned.entries.length ≥ pruned.capacity then (false, pruned)
  else (true, pruned.insert nonce now h)

/-- The nonce can be taken: it is not remembered and there is room for it. -/
def NonceReplayCache.Free (cache : NonceReplayCache) (nonce : Bytes) (now : Nat) : Prop :=
  ¬(cache.prune now).contains nonce ∧ (cache.prune now).entries.length < cache.capacity

theorem accept_fst (cache : NonceReplayCache) (nonce : Bytes) (now : Nat) :
    (cache.accept nonce now).1 = true ↔ cache.Free nonce now := by
  unfold NonceReplayCache.accept NonceReplayCache.Free
  simp only
  split
  · rename_i h
    simp [h]
  · rename_i h
    split
    · rename_i hfull
      simp only [Bool.false_eq_true, false_iff, not_and]
      intro _
      exact Nat.not_lt.mpr hfull
    · rename_i hfull
      simp only [true_iff]
      exact ⟨h, Nat.not_le.mp hfull⟩

/-- A nonce that was never seen can be taken while the cache is not full. -/
theorem free_of_room (cache : NonceReplayCache) (nonce : Bytes) (now : Nat)
    (hseen : ¬cache.contains nonce) (hroom : cache.entries.length < cache.capacity) :
    cache.Free nonce now := by
  constructor
  · intro hmem
    exact hseen ((List.filter_sublist.map _).subset hmem)
  · exact lt_of_le_of_lt (List.length_filter_le _ _) hroom

/-- When the time of everything remembered is up, every nonce can be taken. -/
theorem free_of_old (cache : NonceReplayCache) (nonce : Bytes) (now : Nat)
    (h : ∀ entry ∈ cache.entries, cache.ttl ≤ now - entry.2) : cache.Free nonce now := by
  have hempty : (cache.prune now).entries = [] := by
    refine List.filter_eq_nil_iff.mpr ?_
    intro entry hentry
    simpa using h entry hentry
  constructor
  · simp [NonceReplayCache.contains, hempty]
  · rw [hempty]
    exact cache.capacity_pos

/-- A refused nonce leaves a pruned cache. -/
theorem accept_refused (cache : NonceReplayCache) (nonce : Bytes) (now : Nat)
    (h : (cache.accept nonce now).1 = false) : (cache.accept nonce now).2 = cache.prune now := by
  unfold NonceReplayCache.accept at h ⊢
  simp only at h ⊢
  split at h
  · rename_i hmem
    simp [hmem]
  · rename_i hmem
    split at h
    · rename_i hfull
      simp [hmem, hfull]
    · cases h

theorem accept_taken (cache : NonceReplayCache) (nonce : Bytes) (now : Nat)
    (h : (cache.accept nonce now).1 = true) :
    (cache.accept nonce now).2.entries = (nonce, now) :: (cache.prune now).entries := by
  unfold NonceReplayCache.accept at h ⊢
  simp only at h ⊢
  split at h
  · cases h
  · rename_i hmem
    split at h
    · cases h
    · rename_i hfull
      simp [hmem, hfull, NonceReplayCache.insert]

theorem accept_limits (cache : NonceReplayCache) (nonce : Bytes) (now : Nat) :
    (cache.accept nonce now).2.ttl = cache.ttl ∧
      (cache.accept nonce now).2.capacity = cache.capacity := by
  unfold NonceReplayCache.accept
  simp only
  split
  · exact ⟨rfl, rfl⟩
  · split <;> exact ⟨rfl, rfl⟩

/-- Pruning again later makes the earlier pruning unnoticed. -/
theorem prune_prune (cache : NonceReplayCache) (earlier now : Nat) (h : earlier ≤ now) :
    (cache.prune earlier).prune now = cache.prune now := by
  unfold NonceReplayCache.prune
  simp only [List.filter_filter, NonceReplayCache.mk.injEq, and_true]
  apply List.filter_congr
  intro entry _
  simp only [Bool.and_eq_left_iff_imp, decide_eq_true_eq]
  omega

/-- What a nonce meets is the pruned cache. -/
theorem accept_prune (cache : NonceReplayCache) (nonce : Bytes) (earlier now : Nat)
    (h : earlier ≤ now) : (cache.prune earlier).accept nonce now = cache.accept nonce now := by
  unfold NonceReplayCache.accept
  rw [prune_prune cache earlier now h]

/-! ## The verifier -/

/-- Why a signature was refused: its length, or the key's own check. -/
inductive SignatureFault where
  | length
  | verification
  deriving DecidableEq, Repr

inductive CapabilityVerificationError where
  | expired (expiredAt currentTime : UInt64)
  | notYetActive (notBefore currentTime : UInt64)
  | invalidSignature (fault : SignatureFault)
  | replayDetected
  | protocolRangeViolation (negotiated min max : UInt32)
  | targetDeviceMismatch (expected actual : String)
  | protocolValidation (text : String)
  deriving DecidableEq, Repr

abbrev Verdict := Except CapabilityVerificationError Unit

structure Verifier where
  controlPlaneVerifyingKey : VerifyingKey
  replayCache : NonceReplayCache
  targetDeviceId : Option String

def Verifier.new (key : VerifyingKey) (replayTtl : Duration) (replayCapacity : Nat) : Verifier :=
  ⟨key, .new replayTtl replayCapacity, none⟩

def Verifier.withTargetDeviceId (v : Verifier) (targetDeviceId : String) : Verifier :=
  { v with targetDeviceId := some targetDeviceId }

/-- The target is the device that the verifier was set up for, if it was. -/
def Verifier.targets (v : Verifier) (c : SessionCapability) : Verdict :=
  match v.targetDeviceId with
  | none => .ok ()
  | some expected =>
    if c.targetDeviceId ≠ expected then .error (.targetDeviceMismatch expected c.targetDeviceId)
    else .ok ()

/-- Everything that is checked before the nonce is taken. -/
def Verifier.precheck (v : Verifier) (c : SessionCapability) (negotiatedProtocol : UInt32)
    (now : UInt64) : Verdict :=
  match validate c with
  | .error e => .error (.protocolValidation e.message)
  | .ok () =>
    match v.targets c with
    | .error e => .error e
    | .ok () =>
      if now < c.notBefore then .error (.notYetActive c.notBefore now)
      else if now > c.expiresAt then .error (.expired c.expiresAt now)
      else if negotiatedProtocol < c.agentMinProtocol ∨ negotiatedProtocol > c.agentMaxProtocol then
        .error (.protocolRangeViolation negotiatedProtocol c.agentMinProtocol c.agentMaxProtocol)
      else .ok ()

theorem precheck_ok (v : Verifier) (c : SessionCapability) (negotiatedProtocol : UInt32)
    (now : UInt64) :
    v.precheck c negotiatedProtocol now = .ok () ↔
      validate c = .ok () ∧ v.targets c = .ok () ∧ c.notBefore ≤ now ∧ now ≤ c.expiresAt ∧
        c.agentMinProtocol ≤ negotiatedProtocol ∧ negotiatedProtocol ≤ c.agentMaxProtocol := by
  unfold Verifier.precheck
  constructor
  · intro h
    split at h
    · cases h
    · rename_i hschema
      split at h
      · cases h
      · rename_i htarget
        split at h
        · cases h
        · rename_i hactive
          split at h
          · cases h
          · rename_i hexpires
            split at h
            · cases h
            · rename_i hrange
              obtain ⟨hmin, hmax⟩ := not_or.mp hrange
              exact ⟨hschema, htarget, UInt64.not_lt.mp hactive, UInt64.not_lt.mp hexpires,
                UInt32.not_lt.mp hmin, UInt32.not_lt.mp hmax⟩
  · rintro ⟨hschema, htarget, hactive, hexpires, hmin, hmax⟩
    simp only [hschema, htarget]
    rw [if_neg (UInt64.not_lt.mpr hactive), if_neg (UInt64.not_lt.mpr hexpires),
      if_neg (not_or.mpr ⟨UInt32.not_lt.mpr hmin, UInt32.not_lt.mpr hmax⟩)]

/-- The signature over everything else. -/
def checkSignature (E : Encoder) (key : VerifyingKey) (c : SessionCapability) : Verdict :=
  match E.encode { c with signature := [] } with
  | .error e => .error (.protocolValidation e)
  | .ok rawBytes =>
    match signatureOf c.signature with
    | none => .error (.invalidSignature .length)
    | some signature =>
      if key rawBytes signature then .ok () else .error (.invalidSignature .verification)

def Verifier.verify (E : Encoder) (v : Verifier) (c : SessionCapability)
    (negotiatedProtocol : UInt32) (now : UInt64) (instantNow : Nat) : Verdict × Verifier :=
  match v.precheck c negotiatedProtocol now with
  | .error e => (.error e, v)
  | .ok () =>
    let taken := v.replayCache.accept c.nonce instantNow
    let next := { v with replayCache := taken.2 }
    if !taken.1 then (.error .replayDetected, next)
    else (checkSignature E v.controlPlaneVerifyingKey c, next)

theorem checkSignature_signed (E : Encoder) (signer : SigningKey) (key : VerifyingKey)
    (c : SessionCapability) (hkeys : Matching signer key)
    (hsigned : c.signature = (signer (signingBytes E c)).1) : checkSignature E key c = .ok () := by
  have hverified := hkeys (signingBytes E c)
  have hencode : E.encode { c with signature := [] } = .ok (signingBytes E c) := E.encode_eq _
  simp [checkSignature, hencode, hsigned, hverified]

theorem checkSignature_ne_replay (E : Encoder) (key : VerifyingKey) (c : SessionCapability) :
    checkSignature E key c ≠ .error .replayDetected := by
  unfold checkSignature
  split
  · simp
  · split
    · simp
    · split <;> simp

variable {E : Encoder} {v : Verifier} {c : SessionCapability} {negotiatedProtocol : UInt32}
  {now : UInt64} {instantNow : Nat}

theorem verify_precheck_error (e : CapabilityVerificationError)
    (h : v.precheck c negotiatedProtocol now = .error e) :
    v.verify E c negotiatedProtocol now instantNow = (.error e, v) := by
  simp only [Verifier.verify, h]

theorem verify_refused (h : v.precheck c negotiatedProtocol now = .ok ())
    (hfree : ¬v.replayCache.Free c.nonce instantNow) :
    v.verify E c negotiatedProtocol now instantNow =
      (.error .replayDetected, { v with replayCache := v.replayCache.prune instantNow }) := by
  have hrefused : (v.replayCache.accept c.nonce instantNow).1 = false := by
    rw [← Bool.not_eq_true, accept_fst]
    exact hfree
  simp only [Verifier.verify, h, hrefused, accept_refused _ _ _ hrefused]
  rfl

theorem verify_taken (h : v.precheck c negotiatedProtocol now = .ok ())
    (hfree : v.replayCache.Free c.nonce instantNow) :
    v.verify E c negotiatedProtocol now instantNow =
      (checkSignature E v.controlPlaneVerifyingKey c,
        { v with replayCache := (v.replayCache.accept c.nonce instantNow).2 }) := by
  have htaken := (accept_fst v.replayCache c.nonce instantNow).mpr hfree
  simp only [Verifier.verify, h, htaken]
  rfl

/-- What verification accepts. -/
theorem verify_ok :
    (v.verify E c negotiatedProtocol now instantNow).1 = .ok () ↔
      v.precheck c negotiatedProtocol now = .ok () ∧ v.replayCache.Free c.nonce instantNow ∧
        checkSignature E v.controlPlaneVerifyingKey c = .ok () := by
  cases hpre : v.precheck c negotiatedProtocol now with
  | error e => simp [verify_precheck_error e hpre]
  | ok _ =>
    by_cases hfree : v.replayCache.Free c.nonce instantNow
    · simp [verify_taken hpre hfree, hfree]
    · simp [verify_refused hpre hfree, hfree]

/-! ## What a rejected capability leaves behind -/

/-- A capability presented to the verifier. -/
structure Attempt where
  capability : SessionCapability
  protocol : UInt32
  now : UInt64
  instant : Nat

def step (E : Encoder) (v : Verifier) (a : Attempt) : Verdict × Verifier :=
  v.verify E a.capability a.protocol a.now a.instant

/-- What an attempt does to the nonces that are remembered. -/
theorem step_entries (v : Verifier) (a : Attempt) :
    (step E v a).2.replayCache.entries = v.replayCache.entries ∨
      (step E v a).2.replayCache.entries = (v.replayCache.prune a.instant).entries ∨
      (step E v a).2.replayCache.entries =
        (a.capability.nonce, a.instant) :: (v.replayCache.prune a.instant).entries := by
  cases hpre : v.precheck a.capability a.protocol a.now with
  | error e =>
    left
    rw [step, verify_precheck_error e hpre]
  | ok _ =>
    by_cases hfree : v.replayCache.Free a.capability.nonce a.instant
    · right; right
      rw [step, verify_taken hpre hfree]
      exact accept_taken _ _ _ ((accept_fst _ _ _).mpr hfree)
    · right; left
      rw [step, verify_refused hpre hfree]

/-- An attempt changes nothing else of the verifier. -/
theorem step_frame (v : Verifier) (a : Attempt) :
    (step E v a).2.controlPlaneVerifyingKey = v.controlPlaneVerifyingKey ∧
      (step E v a).2.targetDeviceId = v.targetDeviceId ∧
      (step E v a).2.replayCache.ttl = v.replayCache.ttl := by
  unfold step Verifier.verify
  split
  · exact ⟨rfl, rfl, rfl⟩
  · have hlimits := accept_limits v.replayCache a.capability.nonce a.instant
    simp only
    split
    · exact ⟨rfl, rfl, hlimits.1⟩
    · exact ⟨rfl, rfl, hlimits.1⟩

/-- A nonce is remembered as long as its time is not up. -/
theorem step_remembers (v : Verifier) (a : Attempt) (entry : Bytes × Nat)
    (h : entry ∈ v.replayCache.entries) (hyoung : a.instant - entry.2 < v.replayCache.ttl) :
    entry ∈ (step E v a).2.replayCache.entries := by
  have hpruned : entry ∈ (v.replayCache.prune a.instant).entries :=
    List.mem_filter.mpr ⟨h, by simpa using hyoung⟩
  rcases step_entries (E := E) v a with heq | heq | heq
  · rwa [heq]
  · rwa [heq]
  · rw [heq]
    exact List.mem_cons_of_mem _ hpruned

/-- The nonce of an accepted capability is remembered. -/
theorem step_enters (v : Verifier) (a : Attempt) (h : (step E v a).1 = .ok ()) :
    (a.capability.nonce, a.instant) ∈ (step E v a).2.replayCache.entries := by
  obtain ⟨hpre, hfree, -⟩ := verify_ok.mp h
  rw [step, verify_taken hpre hfree]
  simp [accept_taken _ _ _ ((accept_fst _ _ _).mpr hfree)]

/-- Nothing is remembered with a later instant than that of the latest attempt. -/
theorem step_entries_le (v : Verifier) (a : Attempt) (latest : Nat)
    (h : ∀ entry ∈ v.replayCache.entries, entry.2 ≤ latest) (ha : a.instant ≤ latest) :
    ∀ entry ∈ (step E v a).2.replayCache.entries, entry.2 ≤ latest := by
  have hpruned : ∀ entry ∈ (v.replayCache.prune a.instant).entries, entry.2 ≤ latest :=
    fun entry hentry => h entry (List.mem_of_mem_filter hentry)
  rcases step_entries (E := E) v a with heq | heq | heq
  · rwa [heq]
  · rwa [heq]
  · rw [heq, List.forall_mem_cons]
    exact ⟨ha, hpruned⟩

/-- Attempts one after the other, none before the given instant. -/
def FromOn (instant : Nat) (later : List Attempt) : Prop :=
  (instant :: later.map Attempt.instant).Pairwise (· ≤ ·)

/-- Nothing stops the attempt before its signature is looked at. -/
def ReachesSignature (v : Verifier) (a : Attempt) : Prop :=
  v.precheck a.capability a.protocol a.now = .ok () ∧ v.replayCache.Free a.capability.nonce a.instant

/-- From this instant on two verifiers cannot be told apart. -/
structure Alike (instant : Nat) (v w : Verifier) : Prop where
  key : v.controlPlaneVerifyingKey = w.controlPlaneVerifyingKey
  target : v.targetDeviceId = w.targetDeviceId
  cache : v.replayCache.prune instant = w.replayCache.prune instant

theorem targets_congr {v w : Verifier} (h : v.targetDeviceId = w.targetDeviceId)
    (c : SessionCapability) : v.targets c = w.targets c := by
  simp only [Verifier.targets, h]

theorem Alike.precheck_eq {instant : Nat} {v w : Verifier} (h : Alike instant v w)
    (c : SessionCapability) (protocol : UInt32) (now : UInt64) :
    v.precheck c protocol now = w.precheck c protocol now := by
  simp only [Verifier.precheck, targets_congr h.target]

theorem Alike.accept_eq {instant : Nat} {v w : Verifier} (h : Alike instant v w) (nonce : Bytes)
    (later : Nat) (hle : instant ≤ later) :
    v.replayCache.accept nonce later = w.replayCache.accept nonce later := by
  rw [← accept_prune v.replayCache nonce instant later hle, h.cache,
    accept_prune w.replayCache nonce instant later hle]

theorem Alike.later {instant later : Nat} {v w : Verifier} (h : Alike instant v w)
    (hle : instant ≤ later) : Alike later v w := by
  refine ⟨h.key, h.target, ?_⟩
  rw [← prune_prune v.replayCache instant later hle, h.cache,
    prune_prune w.replayCache instant later hle]

theorem step_alike {instant : Nat} {v w : Verifier} (a : Attempt) (h : Alike instant v w)
    (hle : instant ≤ a.instant) :
    (step E v a).1 = (step E w a).1 ∧ Alike a.instant (step E v a).2 (step E w a).2 := by
  have hpre := h.precheck_eq a.capability a.protocol a.now
  have haccept := h.accept_eq a.capability.nonce a.instant hle
  unfold step Verifier.verify
  rw [hpre, haccept, h.key]
  split
  · exact ⟨rfl, h.later hle⟩
  · simp only
    split
    · exact ⟨rfl, rfl, h.target, rfl⟩
    · exact ⟨rfl, rfl, h.target, rfl⟩

theorem trace_alike {instant : Nat} {v w : Verifier} (later : List Attempt)
    (h : Alike instant v w) (hlater : FromOn instant later) :
    Mealy.trace (step E) v later = Mealy.trace (step E) w later := by
  induction later generalizing instant v w with
  | nil => rfl
  | cons a later ih =>
    obtain ⟨hfirst, hrest⟩ := List.pairwise_cons.mp hlater
    obtain ⟨hverdict, halike⟩ := step_alike (E := E) a h (hfirst a.instant (by simp))
    rw [Mealy.trace_cons, Mealy.trace_cons, hverdict, ih halike hrest]

/-- An attempt that is stopped before its signature is looked at leaves no trace. -/
theorem alike_of_stopped (a : Attempt) (h : ¬ReachesSignature v a) :
    Alike a.instant (step E v a).2 v := by
  cases hpre : v.precheck a.capability a.protocol a.now with
  | error e =>
    rw [step, verify_precheck_error e hpre]
    exact ⟨rfl, rfl, rfl⟩
  | ok _ =>
    have hfree : ¬v.replayCache.Free a.capability.nonce a.instant := fun hfree => h ⟨hpre, hfree⟩
    rw [step, verify_refused hpre hfree]
    exact ⟨rfl, rfl, prune_prune _ _ _ (Nat.le_refl _)⟩

/-- Neither does any attempt when the cache remembers nothing. -/
theorem alike_of_ttl_zero (a : Attempt) (h : v.replayCache.ttl = 0) :
    Alike a.instant (step E v a).2 v := by
  by_cases hreach : ReachesSignature v a
  · rw [step, verify_taken hreach.1 hreach.2]
    refine ⟨rfl, rfl, ?_⟩
    obtain ⟨httl, hcapacity⟩ := accept_limits v.replayCache a.capability.nonce a.instant
    apply NonceReplayCache.ext
    · simp [NonceReplayCache.prune, httl, h]
    · exact httl
    · exact hcapacity
  · exact alike_of_stopped a hreach

/-- An attempt whose signature was looked at is refused when it is repeated. -/
theorem step_repeated (a : Attempt) (hreach : ReachesSignature v a)
    (httl : v.replayCache.ttl ≠ 0) :
    (step E (step E v a).2 a).1 = .error .replayDetected := by
  obtain ⟨hpre, hfree⟩ := hreach
  have htaken := (accept_fst v.replayCache a.capability.nonce a.instant).mpr hfree
  have hentries := accept_taken v.replayCache a.capability.nonce a.instant htaken
  obtain ⟨httl', -⟩ := accept_limits v.replayCache a.capability.nonce a.instant
  have hnext : (step E v a).2 =
      { v with replayCache := (v.replayCache.accept a.capability.nonce a.instant).2 } := by
    rw [step, verify_taken hpre hfree]
  have hseen : ¬((step E v a).2.replayCache).Free a.capability.nonce a.instant := by
    rintro ⟨hnot, -⟩
    apply hnot
    rw [hnext, NonceReplayCache.contains, NonceReplayCache.prune]
    simp only [hentries, httl']
    rw [List.filter_cons_of_pos (by simpa using Nat.pos_of_ne_zero httl)]
    exact List.mem_cons_self
  have hpre' : (step E v a).2.precheck a.capability a.protocol a.now = .ok () := by
    rw [hnext]
    exact hpre
  rw [step, verify_refused hpre' hseen]

/-- An attempt, rejected or not, goes unnoticed by everything later exactly if it was
stopped before its signature was looked at, or the cache remembers nothing. -/
theorem attempt_unnoticed_iff (E : Encoder) (v : Verifier) (a : Attempt) :
    (∀ later, FromOn a.instant later →
      Mealy.trace (step E) (step E v a).2 later = Mealy.trace (step E) v later) ↔
    v.replayCache.ttl = 0 ∨ ¬ReachesSignature v a := by
  constructor
  · intro hunnoticed
    by_contra hcond
    obtain ⟨httl, hreach⟩ := not_or.mp hcond
    have hreach := not_not.mp hreach
    -- Presented again at once, it is now taken for a replay.
    have hagain := hunnoticed [a] (by simp [FromOn])
    simp only [Mealy.trace_cons, Mealy.trace_nil, List.cons.injEq, and_true] at hagain
    rw [step_repeated a hreach httl, step, verify_taken hreach.1 hreach.2] at hagain
    exact checkSignature_ne_replay _ _ _ hagain.symm
  · rintro (httl | hstopped) later hlater
    · exact trace_alike later (alike_of_ttl_zero a httl) hlater
    · exact trace_alike later (alike_of_stopped a hstopped) hlater

/-- The agent of the host, before anything was presented to it. -/
def hostVerifier (key : VerifyingKey) : Verifier :=
  (Verifier.new key (fromSecs 120) 10000).withTargetDeviceId "dev-host-01"

/-- The sample capability, signed. -/
def signedShort (E : Encoder) (signer : SigningKey) : SessionCapability :=
  { shortCapability with signature := (signer (signingBytes E shortCapability)).1 }

/-- The agent accepts it, within its window, as soon as its nonce can be taken. -/
theorem signedShort_accepted (E : Encoder) (signer : SigningKey) (v : Verifier) (now : UInt64)
    (instantNow : Nat) (hkeys : Matching signer v.controlPlaneVerifyingKey)
    (htarget : v.targetDeviceId = some "dev-host-01") (hactive : 2000 ≤ now) (hnow : now ≤ 2120)
    (hfree : v.replayCache.Free shortCapability.nonce instantNow) :
    (v.verify E (signedShort E signer) 1 now instantNow).1 = .ok () := by
  have htargets : v.targets (signedShort E signer) = .ok () := by
    simp [Verifier.targets, htarget, signedShort, shortCapability]
  exact verify_ok.mpr ⟨(precheck_ok _ _ _ _).mpr ⟨shortCapability_valid, htargets, hactive, hnow,
    UInt32.le_refl 1, UInt32.le_refl 1⟩, hfree, checkSignature_signed E signer _ _ hkeys rfl⟩

/-- Somebody sends a copy of the capability without its signature first. The copy is
rejected, and then the capability itself is. -/
theorem unsigned_copy_blocks_genuine :
    let v := hostVerifier (verifyingKey seed)
    let copy : Attempt := ⟨shortCapability, 1, 2010, 0⟩
    let genuine : Attempt :=
      ⟨signedShort encoder (Ed25519.sign seed), 1, 2010, 1⟩
    (step encoder v copy).1 ≠ .ok () ∧ FromOn copy.instant [genuine] ∧
      (step encoder v genuine).1 = .ok () ∧
      (step encoder (step encoder v copy).2 genuine).1 ≠ .ok () := by
  refine ⟨by decide +kernel, by simp [FromOn], ?_, by decide +kernel⟩
  exact signedShort_accepted _ _ _ _ _ (matching_keys _) rfl (by decide) (by decide)
    (free_of_room _ _ _ List.not_mem_nil (Nat.zero_lt_succ 9999))

end CapabilityVerifier
