import NexusRemote.AuditLog
import NexusRemote.Mealy

/-!
# Building a chain and verifying it

`AuditChain::append` and `verify_chain` are two loops over the same recurrence. A
list of chained events verifies exactly if appending the inner events to a new
chain gives that list back.
-/

namespace AuditRebuild

open AuditLog

variable (D : Digest)

/-- `append` on a mutable chain, which is left as it was when the event has no canonical text. -/
def step (chain : AuditChain) (event : AuditEvent) : Except ChainError ChainedAuditEvent × AuditChain :=
  match chain.append D event with
  | .error e => (.error e, chain)
  | .ok (chained, next) => (.ok chained, next)

/-- The chain after all these events were appended in order. -/
def built (seed : Option String) (events : List AuditEvent) : AuditChain :=
  Mealy.after (step D) (.new seed) events

/-- An append is refused and changes nothing, or it adds one event to a chain that stays valid. -/
theorem step_cases (chain : AuditChain) (event : AuditEvent) :
    (∃ e, step D chain event = (.error e, chain)) ∨
      ∃ chained next, step D chain event = (.ok chained, next) ∧
        chain.append D event = .ok (chained, next) := by
  unfold step
  cases happend : chain.append D event with
  | error e => exact .inl ⟨e, rfl⟩
  | ok result => exact .inr ⟨result.1, result.2, rfl, rfl⟩

/-- What every chain reached by appends satisfies, with the seed it was made with. -/
structure Built (seed : String) (chain : AuditChain) : Prop where
  seed : chain.genesisSeed = seed
  valid : chain.Valid D

theorem step_built (seed : String) (chain : AuditChain) (event : AuditEvent)
    (h : Built D seed chain) : Built D seed (step D chain event).2 := by
  rcases step_cases D chain event with ⟨e, heq⟩ | ⟨chained, next, heq, happend⟩
  · rw [heq]
    exact h
  · obtain ⟨hseed, -, -, hvalid⟩ := append_ok chain next event chained happend
    rw [heq]
    exact ⟨hseed.trans h.seed, hvalid h.valid⟩

theorem built_valid (seed : Option String) (events : List AuditEvent) :
    Built D (seed.getD genesisHash) (built D seed events) :=
  Mealy.after_always (step_built D _) _ events ⟨rfl, new_valid seed⟩

variable {D}

/-- Appending the inner event of one that continues the chain adds exactly that one. -/
theorem step_of_continues (chain : AuditChain) (chained : ChainedAuditEvent) (i : Nat)
    (hseq : chain.sequence = UInt64.ofNat i) (h : Continues D i chain.lastHash chained) :
    (step D chain chained.event).2 =
      { chain with
        sequence := UInt64.ofNat (i + 1)
        lastHash := chained.hash
        events := chain.events ++ [chained] } := by
  obtain ⟨hsequence, hprevious, hhash⟩ := h
  have hnext : chain.sequence + 1 = chained.sequence := by rw [hseq, hsequence]
  rw [hprevious] at hhash
  have hchained : (⟨chained.sequence, chained.event, chain.lastHash, chained.hash⟩ :
      ChainedAuditEvent) = chained := by rw [← hprevious]
  simp only [step, AuditChain.append, hnext, hhash, hchained, UInt64.ofNat_add]
  rw [hsequence]
  rfl

/-- Appending the inner events of a verified list to a chain that it continues. -/
theorem after_of_verified (chain : AuditChain) (list : List ChainedAuditEvent) (i : Nat)
    (hseq : chain.sequence = UInt64.ofNat i)
    (h : verifyFrom D i chain.lastHash list = .ok ()) :
    (Mealy.after (step D) chain (list.map ChainedAuditEvent.event)).events = chain.events ++ list := by
  induction list generalizing chain i with
  | nil => simp
  | cons first rest ih =>
    obtain ⟨hfirst, hrest⟩ := (verifyFrom_cons first rest).mp h
    rw [List.map_cons, Mealy.after_cons, step_of_continues chain first i hseq hfirst,
      ih _ (i + 1) rfl hrest]
    simp

variable (D)

/-- A list verifies exactly if it is rebuilt from its inner events. Every chain reached by appends
numbers its events, remembers the last hash, and is left alone by an append that fails. -/
theorem verify_iff_rebuilt (seed : Option String) (list : List ChainedAuditEvent)
    (events : List AuditEvent) :
    (verifyChain D list seed = .ok () ↔
      list = (built D seed (list.map ChainedAuditEvent.event)).events) ∧
    (built D seed events).sequence = UInt64.ofNat (built D seed events).events.length ∧
    ((built D seed events).events.length < 2 ^ 64 →
      (built D seed events).sequence.toNat = (built D seed events).events.length) ∧
    (built D seed events).lastHash =
      (((built D seed events).events.getLast?).map ChainedAuditEvent.hash).getD
        (seed.getD genesisHash) ∧
    ∀ event e, (step D (built D seed events) event).1 = .error e →
      (step D (built D seed events) event).2 = built D seed events := by
  obtain ⟨hseed, hvalid⟩ := built_valid D seed events
  refine ⟨⟨?_, ?_⟩, hvalid.sequence, ?_, ?_, ?_⟩
  · intro h
    exact (after_of_verified (.new seed) list 0 rfl h).symm
  · intro h
    obtain ⟨hseed, hvalid⟩ := built_valid D seed (list.map ChainedAuditEvent.event)
    have hverified := hvalid.verified
    rwa [← h, hseed] at hverified
  · intro hlength
    rw [hvalid.sequence, UInt64.toNat_ofNat', Nat.mod_eq_of_lt hlength]
  · rw [hvalid.lastHash, hseed]
    rfl
  · intro event e herror
    rcases step_cases D (built D seed events) event with ⟨e', heq⟩ | ⟨chained, next, heq, -⟩
    · rw [heq]
    · rw [heq] at herror
      cases herror

end AuditRebuild
