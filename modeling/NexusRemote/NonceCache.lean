import NexusRemote.CapabilityVerifier

/-!
# What the agent's replay cache guarantees

The cache forgets a nonce when its time is up and refuses new ones when it is
full. Over any sequence of offers in the order of time, what it remembers is what
it has accepted within its time to live.
-/

namespace NonceCache

open BigEndian UnixTime CapabilityVerifier

/-- A call of `accept`. -/
def offer (cache : NonceReplayCache) (call : Bytes × Nat) : Bool × NonceReplayCache :=
  cache.accept call.1 call.2

variable (ttl : Duration) (capacity : Nat)

/-- The offers that were accepted, in order. -/
def accepted (calls : List (Bytes × Nat)) : List (Bytes × Nat) :=
  Mealy.accepted offer (.new ttl capacity) calls

/-- The calls are made in the order of time. -/
def Ordered (calls : List (Bytes × Nat)) : Prop := calls.Pairwise fun a b => a.2 ≤ b.2

/-- Accepted so recently that it still counts. -/
def recent (now : Nat) (entry : Bytes × Nat) : Bool := now - entry.2 < ttl

/-- From `now` on, the cache remembers what was accepted within its time to live. -/
structure Remembers (cache : NonceReplayCache) (history : List (Bytes × Nat)) (now : Nat) :
    Prop where
  ttl_eq : cache.ttl = ttl
  capacity_eq : cache.capacity = max capacity 1
  size : cache.entries.length ≤ max capacity 1
  entries : ∀ later, now ≤ later →
    (cache.prune later).entries = (history.filter (recent ttl later)).reverse

theorem remembers_new : Remembers ttl capacity (.new ttl capacity) [] 0 where
  ttl_eq := rfl
  capacity_eq := rfl
  size := Nat.zero_le _
  entries := fun _ _ => rfl

variable {ttl capacity} {cache : NonceReplayCache} {history : List (Bytes × Nat)} {earlier : Nat}

theorem Remembers.contains_iff (h : Remembers ttl capacity cache history earlier) (nonce : Bytes)
    (now : Nat) (hle : earlier ≤ now) :
    (cache.prune now).contains nonce ↔ ∃ t, (nonce, t) ∈ history ∧ now - t < ttl := by
  simp [NonceReplayCache.contains, h.entries now hle, recent]

theorem Remembers.length_eq (h : Remembers ttl capacity cache history earlier) (now : Nat)
    (hle : earlier ≤ now) :
    (cache.prune now).entries.length = history.countP (recent ttl now) := by
  rw [h.entries now hle, List.length_reverse, List.countP_eq_length_filter]

/-- The decision on an offer, in terms of what was accepted before. -/
theorem Remembers.accept_iff (h : Remembers ttl capacity cache history earlier) (nonce : Bytes)
    (now : Nat) (hle : earlier ≤ now) :
    (cache.accept nonce now).1 = true ↔
      (∀ t, (nonce, t) ∈ history → ttl ≤ now - t) ∧
        history.countP (recent ttl now) < max capacity 1 := by
  rw [accept_fst, NonceReplayCache.Free, h.contains_iff nonce now hle, h.length_eq now hle,
    h.capacity_eq]
  simp only [not_exists, not_and, Nat.not_lt]

theorem Remembers.accept (h : Remembers ttl capacity cache history earlier) (nonce : Bytes)
    (now : Nat) (hle : earlier ≤ now) :
    Remembers ttl capacity (cache.accept nonce now).2
      (if (cache.accept nonce now).1 then history ++ [(nonce, now)] else history) now := by
  obtain ⟨httl, hcapacity⟩ := accept_limits cache nonce now
  have hlater : ∀ later, now ≤ later → (cache.prune now).prune later = cache.prune later :=
    fun later hnow => prune_prune cache now later hnow
  cases hc : (cache.accept nonce now).1 with
  | false =>
    have hrefused := accept_refused cache nonce now hc
    refine ⟨httl.trans h.ttl_eq, hcapacity.trans h.capacity_eq, ?_, ?_⟩
    · rw [hrefused]
      exact (List.length_filter_le _ _).trans h.size
    · intro later hnow
      rw [hrefused, hlater later hnow]
      exact h.entries later (hle.trans hnow)
  | true =>
    have htaken := accept_taken cache nonce now hc
    refine ⟨httl.trans h.ttl_eq, hcapacity.trans h.capacity_eq, ?_, ?_⟩
    · rw [htaken, List.length_cons, h.length_eq now hle]
      exact ((h.accept_iff nonce now hle).mp hc).2
    · intro later hnow
      have hpruned : (cache.prune now).entries.filter (fun entry => later - entry.2 < cache.ttl) =
          (cache.prune later).entries :=
        congrArg NonceReplayCache.entries (hlater later hnow)
      change (cache.accept nonce now).2.entries.filter
        (fun entry => later - entry.2 < (cache.accept nonce now).2.ttl) = _
      rw [htaken, httl, List.filter_cons, hpruned, h.entries later (hle.trans hnow)]
      simp only [if_true, List.filter_append, List.reverse_append, h.ttl_eq]
      by_cases hrecent : later - now < ttl
      · simp [recent, hrecent]
      · simp [recent, hrecent]

theorem Remembers.mono (h : Remembers ttl capacity cache history earlier) (now : Nat)
    (hle : earlier ≤ now) : Remembers ttl capacity cache history now :=
  { h with entries := fun later hnow => h.entries later (hle.trans hnow) }

variable (ttl capacity)

theorem remembers_run (calls : List (Bytes × Nat)) (now : Nat)
    (h : Ordered (calls ++ [([], now)])) :
    Remembers ttl capacity (Mealy.after offer (.new ttl capacity) calls)
      (accepted ttl capacity calls) now := by
  -- From the right: the last call is the latest.
  induction calls using List.reverseRecOn generalizing now with
  | nil => exact (remembers_new ttl capacity).mono now (Nat.zero_le _)
  | append_singleton calls call ih =>
    obtain ⟨hcalls, -, hlast⟩ := List.pairwise_append.mp h
    have hnow : call.2 ≤ now := hlast call (by simp) ([], now) (by simp)
    have hbefore : Ordered (calls ++ [([], call.2)]) := by
      obtain ⟨hinit, -, hcall⟩ := List.pairwise_append.mp hcalls
      refine List.pairwise_append.mpr ⟨hinit, List.pairwise_singleton _ _, ?_⟩
      intro a ha b hb
      rw [List.mem_singleton.mp hb]
      exact hcall a ha call (by simp)
    rw [Mealy.after_concat, accepted, Mealy.accepted_concat]
    exact ((ih call.2 hbefore).accept call.1 call.2 (Nat.le_refl _)).mono now hnow

/-- A nonce that was accepted is refused until its time to live is over, whatever is offered
in between; the cache never holds more than its capacity; and a nonce is accepted if neither
it nor as many nonces as the cache can hold were accepted within the time to live. -/
theorem replay_cache_guarantee (calls : List (Bytes × Nat)) (nonce : Bytes) (now : Nat)
    (h : Ordered (calls ++ [(nonce, now)])) :
    (∀ t, (nonce, t) ∈ accepted ttl capacity calls → now - t < ttl →
      ((Mealy.after offer (.new ttl capacity) calls).accept nonce now).1 = false) ∧
    (Mealy.after offer (.new ttl capacity) calls).entries.length ≤ max capacity 1 ∧
    ((∀ t, (nonce, t) ∈ accepted ttl capacity calls → ttl ≤ now - t) →
      (accepted ttl capacity calls).countP (recent ttl now) < max capacity 1 →
      ((Mealy.after offer (.new ttl capacity) calls).accept nonce now).1 = true) := by
  have hordered : Ordered (calls ++ [([], now)]) := by
    obtain ⟨hcalls, -, hlast⟩ := List.pairwise_append.mp h
    refine List.pairwise_append.mpr ⟨hcalls, List.pairwise_singleton _ _, ?_⟩
    intro a ha b hb
    rw [List.mem_singleton.mp hb]
    exact hlast a ha (nonce, now) (by simp)
  have hrun := remembers_run ttl capacity calls now hordered
  have hiff := hrun.accept_iff nonce now (Nat.le_refl _)
  refine ⟨?_, hrun.size, fun hold hroom => hiff.mpr ⟨hold, hroom⟩⟩
  intro t hmem hrecent
  rw [Bool.eq_false_iff]
  intro haccepted
  exact absurd hrecent (Nat.not_lt.mpr ((hiff.mp haccepted).1 t hmem))

/-- A cache for one nonce, offered it twice and then another one. -/
theorem replay_cache_guarantee_one :
    let calls : List (Bytes × Nat) := [([1], 0), ([1], 3), ([2], 4)]
    Ordered (calls ++ [([1], 5)]) ∧ accepted 5 1 calls = [([1], 0)] ∧
      ((Mealy.after offer (.new 5 1) calls).accept [1] 4).1 = false ∧
      ((Mealy.after offer (.new 5 1) calls).accept [1] 5).1 = true := by
  intro calls
  have hfour : Ordered (calls ++ [([1], 4)]) := by simp [Ordered, calls]
  have hfive : Ordered (calls ++ [([1], 5)]) := by simp [Ordered, calls]
  have haccepted : accepted 5 1 calls = [([1], 0)] := by decide
  refine ⟨hfive, haccepted, ?_, ?_⟩
  · exact (replay_cache_guarantee 5 1 calls [1] 4 hfour).1 0 (by simp [haccepted]) (by decide)
  · refine (replay_cache_guarantee 5 1 calls [1] 5 hfive).2.2 ?_ ?_
    · rw [haccepted]
      intro t ht
      obtain rfl : t = 0 := by simpa using ht
      decide
    · rw [haccepted]
      decide

end NonceCache
