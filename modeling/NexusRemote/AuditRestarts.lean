import NexusRemote.AuditRecording

/-!
# The audit chain over restarts

A control plane starts with an empty chain in memory, whatever its database
holds. Here one instance after the other records events without interleaving and
without failures.
-/

namespace AuditRestarts

open AuditLog ControlStore SessionRequest AuditRecording

/-- Records events one after the other, as long as every call returns `Ok`. -/
def recordAll (D : Digest) (shared : Shared) : List AuditEvent → Option Shared
  | [] => some shared
  | event :: events =>
    match recordAlone D none none shared event with
    | (.returned (.ok ()), next) => recordAll D next events
    | _ => none

/-- The events that successive instances of `AppState` over one database record, in order.
The sink of an instance holds what that instance has recorded. -/
def lifetimes (D : Digest) (database : Database) :
    List (List AuditEvent) → Option (List ChainedAuditEvent)
  | [] => some []
  | events :: rest =>
    match recordAll D (opened database) events with
    | none => none
    | some shared => (lifetimes D shared.database rest).map (shared.auditSink ++ ·)

/-- What a call that returns `Ok` has done. -/
theorem recordAlone_ok (D : Digest) (shared next : Shared) (event : AuditEvent)
    (h : recordAlone D none none shared event = (.returned (.ok ()), next)) :
    ∃ chained, shared.auditChain.append D event = .ok (chained, next.auditChain) ∧
      shared.database.insertAuditEvent D chained = .ok next.database ∧
      next.auditSink = shared.auditSink ++ [chained] := by
  unfold recordAlone at h
  cases happend : shared.auditChain.append D event with
  | error e => simp [turn, happend] at h
  | ok appended =>
    obtain ⟨chained, chain⟩ := appended
    cases hinsert : shared.database.insertAuditEvent D chained with
    | error e => simp [turn, happend, outcome, hinsert] at h
    | ok database =>
      simp only [turn, happend, outcome, hinsert, Prod.mk.injEq, true_and] at h
      obtain rfl := h
      exact ⟨chained, rfl, hinsert, rfl⟩

/-- An instance whose sink holds its whole chain, all of it stored. -/
structure Settled (D : Digest) (shared : Shared) : Prop where
  chain : shared.auditChain.Valid D
  seed : shared.auditChain.genesisSeed = genesisHash
  sink : shared.auditSink = shared.auditChain.events
  fits : ∀ chained ∈ shared.auditSink, chained.sequence.toNat < 2 ^ 63

theorem settled_opened (D : Digest) (database : Database) : Settled D (opened database) :=
  ⟨new_valid none, rfl, rfl, by simp [opened]⟩

theorem recordAlone_settled (D : Digest) (shared next : Shared) (event : AuditEvent)
    (h : Settled D shared)
    (hcall : recordAlone D none none shared event = (.returned (.ok ()), next)) :
    Settled D next ∧
      next.auditSink.map ChainedAuditEvent.event =
        shared.auditSink.map ChainedAuditEvent.event ++ [event] := by
  obtain ⟨chained, happend, hinsert, hsink⟩ := recordAlone_ok D shared next event hcall
  obtain ⟨hseed, hevents, hevent, hvalid⟩ := append_ok _ _ _ _ happend
  obtain ⟨hfits, -⟩ := insertAuditEvent_ok D _ _ _ hinsert
  refine ⟨⟨hvalid h.chain, hseed.trans h.seed, ?_, ?_⟩, by simp [hsink, hevent]⟩
  · rw [hsink, hevents, h.sink]
  · intro chained' hmem
    rw [hsink, List.mem_append, List.mem_singleton] at hmem
    rcases hmem with hold | rfl
    · exact h.fits chained' hold
    · exact hfits

theorem recordAll_settled (D : Digest) (shared last : Shared) (events : List AuditEvent)
    (h : Settled D shared) (hall : recordAll D shared events = some last) :
    Settled D last ∧
      last.auditSink.map ChainedAuditEvent.event =
        shared.auditSink.map ChainedAuditEvent.event ++ events := by
  induction events generalizing shared with
  | nil =>
    obtain rfl := Option.some.inj hall
    exact ⟨h, by simp⟩
  | cons event events ih =>
    simp only [recordAll] at hall
    split at hall
    · rename_i next hcall
      obtain ⟨hnext, hone⟩ := recordAlone_settled D shared next event h hcall
      obtain ⟨hlast, hmore⟩ := ih next hnext hall
      exact ⟨hlast, by rw [hmore, hone, List.append_assoc, List.singleton_append]⟩
    · cases hall

/-- What one instance records is a chain of its own over the events that it was given. -/
theorem instance_chain (D : Digest) (database : Database) (shared : Shared)
    (events : List AuditEvent) (h : recordAll D (opened database) events = some shared) :
    verifyChain D shared.auditSink none = .ok () ∧
      shared.auditSink.map ChainedAuditEvent.event = events ∧
      shared.auditSink.length < 2 ^ 63 := by
  obtain ⟨hsettled, hevents⟩ := recordAll_settled D _ shared events (settled_opened D database) h
  have hverified : verifyChain D shared.auditSink none = .ok () := by
    rw [hsettled.sink, verifyChain, Option.getD_none, ← hsettled.seed]
    exact hsettled.chain.verified
  obtain ⟨hshort, -⟩ := sequence_toNat shared.auditSink hverified hsettled.fits
  exact ⟨hverified, by simpa [opened] using hevents, hshort⟩

/-- The first instance records its events, and the others go on with its database. -/
theorem lifetimes_cons (D : Digest) (database : Database) (events : List AuditEvent)
    (rest : List (List AuditEvent)) (recorded : List ChainedAuditEvent)
    (h : lifetimes D database (events :: rest) = some recorded) :
    ∃ shared later, recordAll D (opened database) events = some shared ∧
      lifetimes D shared.database rest = some later ∧ recorded = shared.auditSink ++ later := by
  simp only [lifetimes] at h
  split at h
  · cases h
  · rename_i shared hshared
    obtain ⟨later, hlater, rfl⟩ := Option.map_eq_some_iff.mp h
    exact ⟨shared, later, hshared, hlater, rfl⟩

/-- The instances together record the events that they were given, and the first of these has
number one. -/
theorem lifetimes_recorded (D : Digest) (database : Database) (instances : List (List AuditEvent))
    (recorded : List ChainedAuditEvent) (h : lifetimes D database instances = some recorded) :
    recorded.map ChainedAuditEvent.event = instances.flatten ∧
      ∀ first ∈ recorded.head?, first.sequence = 1 := by
  induction instances generalizing database recorded with
  | nil =>
    obtain rfl := Option.some.inj h
    simp
  | cons events rest ih =>
    obtain ⟨shared, later, hshared, hlater, rfl⟩ := lifetimes_cons D database events rest recorded h
    obtain ⟨hmore, hfirst⟩ := ih shared.database later hlater
    obtain ⟨hverified, hevents, -⟩ := instance_chain D database shared events hshared
    refine ⟨by rw [List.map_append, hevents, hmore, List.flatten_cons], ?_⟩
    cases hsink : shared.auditSink with
    | nil => simpa using hfirst
    | cons first more =>
      rw [hsink] at hverified
      simpa using ((verifyFrom_cons first more).mp hverified).1.sequence

/-- After a first nonempty chain nothing that starts again at number one is accepted. -/
theorem verify_restarted (D : Digest) (recorded later : List ChainedAuditEvent)
    (hchain : verifyChain D recorded none = .ok ()) (hne : recorded ≠ [])
    (hshort : recorded.length < 2 ^ 63) (hfirst : ∀ first ∈ later.head?, first.sequence = 1) :
    verifyChain D (recorded ++ later) none = .ok () ↔ later = [] := by
  constructor
  · intro h
    obtain ⟨-, hlater⟩ := (verifyFrom_append recorded later).mp h
    cases later with
    | nil => rfl
    | cons first more =>
      have hnumber := ((verifyFrom_cons first more).mp hlater).1.sequence
      rw [hfirst first rfl] at hnumber
      have hzero := congrArg UInt64.toNat hnumber
      have hpos := List.length_pos_iff.mpr hne
      simp only [Nat.zero_add, UInt64.toNat_add, UInt64.toNat_ofNat', UInt64.toNat_one] at hzero
      omega
  · rintro rfl
    rw [List.append_nil]
    exact hchain

theorem lifetimes_verify_iff (D : Digest) (database : Database) (instances : List (List AuditEvent))
    (recorded : List ChainedAuditEvent) (h : lifetimes D database instances = some recorded) :
    verifyChain D recorded none = .ok () ↔
      instances.countP (fun events => !events.isEmpty) ≤ 1 := by
  induction instances generalizing database recorded with
  | nil =>
    obtain rfl := Option.some.inj h
    simp [verifyChain]
  | cons events rest ih =>
    obtain ⟨shared, later, hshared, hlater, rfl⟩ := lifetimes_cons D database events rest recorded h
    obtain ⟨hverified, hevents, hshort⟩ := instance_chain D database shared events hshared
    obtain ⟨hmore, hfirst⟩ := lifetimes_recorded D shared.database rest later hlater
    cases events with
    | nil =>
      rw [List.map_eq_nil_iff.mp hevents, List.nil_append, ih shared.database later hlater]
      simp
    | cons event events =>
      have hne : shared.auditSink ≠ [] := by
        intro hnil
        simp [hnil] at hevents
      rw [verify_restarted D _ later hverified hne hshort hfirst]
      -- Nothing more may be recorded, so all the other instances are empty.
      have hnone : later = [] ↔ rest.countP (fun events => !events.isEmpty) = 0 := by
        rw [← List.map_eq_nil_iff (f := ChainedAuditEvent.event), hmore, List.flatten_eq_nil_iff,
          List.countP_eq_zero]
        simp
      rw [hnone, List.countP_cons_of_pos (by simp)]
      omega

/-- When all events belong to one organization, its stored events are all of them. -/
theorem filter_organization (D : Digest) (database : Database) (organization : EntityId.TenantId)
    (instances : List (List AuditEvent)) (recorded : List ChainedAuditEvent)
    (hone : ∀ events ∈ instances, ∀ event ∈ events, event.organizationId = organization)
    (h : lifetimes D database instances = some recorded) :
    recorded.filter (fun chained => chained.event.organizationId = organization) = recorded := by
  refine List.filter_eq_self.mpr ?_
  intro chained hmem
  have hevent : chained.event ∈ instances.flatten := by
    rw [← (lifetimes_recorded D database instances recorded h).1]
    exact List.mem_map_of_mem hmem
  obtain ⟨events, hevents, hevent⟩ := List.mem_flatten.mp hevent
  simpa using hone events hevents chained.event hevent

/-- The stored events of one organization make a valid chain exactly if at most one of the
successive instances has recorded any. -/
theorem restarts_verify_iff (D : Digest) (database : Database) (organization : EntityId.TenantId)
    (instances : List (List AuditEvent)) (recorded : List ChainedAuditEvent)
    (hone : ∀ events ∈ instances, ∀ event ∈ events, event.organizationId = organization)
    (h : lifetimes D database instances = some recorded) :
    verifyChain D (recorded.filter fun chained => chained.event.organizationId = organization)
        none = .ok () ↔
      instances.countP (fun events => !events.isEmpty) ≤ 1 := by
  rw [filter_organization D database organization instances recorded hone h]
  exact lifetimes_verify_iff D database instances recorded h

theorem logins_acme (instances : List (List String)) :
    ∀ events ∈ instances.map (List.map login), ∀ event ∈ events, event.organizationId = acme := by
  intro events hevents event hevent
  obtain ⟨ids, -, rfl⟩ := List.mem_map.mp hevents
  obtain ⟨eventId, -, rfl⟩ := List.mem_map.mp hevent
  rfl

/-- A control plane records a login, is restarted and records another one. -/
theorem restarted_chain_broken :
    ∃ recorded,
      lifetimes sampleDigest .empty ([["evt-a"], ["evt-b"]].map (List.map login)) = some recorded ∧
        verifyChain sampleDigest
          (recorded.filter fun chained => chained.event.organizationId = acme) none ≠ .ok () := by
  have hruns : (lifetimes sampleDigest .empty
      ([["evt-a"], ["evt-b"]].map (List.map login))).isSome = true := by
    decide +kernel
  obtain ⟨recorded, hrecorded⟩ := Option.isSome_iff_exists.mp hruns
  refine ⟨recorded, hrecorded, ?_⟩
  rw [filter_organization _ _ acme _ recorded (logins_acme _) hrecorded, Ne,
    lifetimes_verify_iff _ _ _ recorded hrecorded]
  decide

theorem restarts_verify_once :
    ∃ recorded,
      lifetimes sampleDigest .empty ([[], ["evt-a", "evt-b"], []].map (List.map login)) =
          some recorded ∧
        verifyChain sampleDigest
          (recorded.filter fun chained => chained.event.organizationId = acme) none = .ok () := by
  have hruns : (lifetimes sampleDigest .empty
      ([[], ["evt-a", "evt-b"], []].map (List.map login))).isSome = true := by
    decide +kernel
  obtain ⟨recorded, hrecorded⟩ := Option.isSome_iff_exists.mp hruns
  exact ⟨recorded, hrecorded,
    (restarts_verify_iff sampleDigest .empty acme _ recorded (logins_acme _) hrecorded).mpr
      (by decide)⟩

end AuditRestarts
