import NexusRemote.CapabilityVerifier

/-!
# Sessions at the agent (`apps/nexus-agent/src/session_manager.rs`)

The agent verifies a capability, registers its session and later removes it.
-/

namespace AgentSessions

open BigEndian EntityId UnixTime RelayTokens SessionRequest Capabilities CapabilityVerifier
open ControlEncoding (encoder matching_keys seed verifyingKey)

inductive SessionHandlerError where
  | capability (e : CapabilityVerificationError)
  | sessionAlreadyActive (sessionId : SessionId)
  | sessionNotFound (sessionId : SessionId)
  /-- The text says that the session id is invalid, and why. -/
  | protocol (e : IdError)
  deriving DecidableEq

/-- A session that the agent has accepted; its state is always active. -/
structure HostSession where
  sessionId : SessionId
  capability : SessionCapability
  negotiatedProtocol : UInt32
  establishedAt : UInt64
  deriving DecidableEq

structure Manager where
  verifier : Verifier
  activeSessions : Std.TreeMap String HostSession

def replayTtl : Duration := fromSecs 120
def replayCapacity : Nat := 10000

def Manager.new (key : VerifyingKey) (targetDeviceId : String) : Manager where
  verifier := (Verifier.new key replayTtl replayCapacity).withTargetDeviceId targetDeviceId
  activeSessions := ∅

/-- Registers a session whose capability has been verified. -/
def Manager.register (m : Manager) (c : SessionCapability) (negotiatedProtocol : UInt32)
    (now : UInt64) : Except SessionHandlerError HostSession × Manager :=
  match Id.new .session c.sessionId with
  | .error e => (.error (.protocol e), m)
  | .ok sessionId =>
    if m.activeSessions.contains sessionId.value then (.error (.sessionAlreadyActive sessionId), m)
    else
      let session : HostSession := ⟨sessionId, c, negotiatedProtocol, now⟩
      (.ok session, { m with activeSessions := m.activeSessions.insert sessionId.value session })

def Manager.verifyAndAcceptSession (E : Encoder) (m : Manager) (c : SessionCapability)
    (negotiatedProtocol : UInt32) (now : UInt64) (instantNow : Nat) :
    Except SessionHandlerError HostSession × Manager :=
  let verified := m.verifier.verify E c negotiatedProtocol now instantNow
  let m := { m with verifier := verified.2 }
  match verified.1 with
  | .error e => (.error (.capability e), m)
  | .ok () => m.register c negotiatedProtocol now

def Manager.terminateSession (m : Manager) (sessionId : SessionId) :
    Except SessionHandlerError HostSession × Manager :=
  match m.activeSessions[sessionId.value]? with
  | none => (.error (.sessionNotFound sessionId), m)
  | some session =>
    (.ok session, { m with activeSessions := m.activeSessions.erase sessionId.value })

/-! ## Runs -/

inductive Call where
  | verify (attempt : Attempt)
  | terminate (sessionId : SessionId)

inductive Reply where
  | verified (result : Except SessionHandlerError HostSession)
  | terminated (result : Except SessionHandlerError HostSession)
  deriving DecidableEq

def step (E : Encoder) (m : Manager) : Call → Reply × Manager
  | .verify a =>
    let r := m.verifyAndAcceptSession E a.capability a.protocol a.now a.instant
    (.verified r.1, r.2)
  | .terminate sessionId =>
    let r := m.terminateSession sessionId
    (.terminated r.1, r.2)

/-- The reply opens a session with this capability. -/
def opens (c : SessionCapability) : Reply → Bool
  | .verified (.ok session) => session.capability = c
  | _ => false

/-- How often a run opens a session with this capability. -/
def openings (E : Encoder) (m : Manager) (c : SessionCapability) (calls : List Call) : Nat :=
  (Mealy.trace (step E) m calls).countP (opens c)

/-- The attempts of a run. -/
def attempts (calls : List Call) : List Attempt :=
  calls.filterMap fun
    | .verify a => some a
    | .terminate _ => none

/-- Two clocks that advance together: the wall clock shows the whole seconds of a real
time, which was `boot` when the monotonic clock started. -/
structure Clocked (boot : Nat) (calls : List Call) : Prop where
  wall : ∀ a ∈ attempts calls, a.now.toNat = wallSecs (boot + a.instant)
  monotonic : ((attempts calls).map Attempt.instant).Pairwise (· ≤ ·)

variable {E : Encoder} {m : Manager}

/-! ## One call -/

@[simp] theorem register_verifier (c : SessionCapability) (protocol : UInt32) (now : UInt64) :
    (m.register c protocol now).2.verifier = m.verifier := by
  unfold Manager.register
  split
  · rfl
  · split <;> rfl

@[simp] theorem step_verify_verifier (a : Attempt) :
    (step E m (.verify a)).2.verifier =
      (m.verifier.verify E a.capability a.protocol a.now a.instant).2 := by
  simp only [step, Manager.verifyAndAcceptSession]
  split
  · rfl
  · simp

@[simp] theorem step_terminate_verifier (sessionId : SessionId) :
    (step E m (.terminate sessionId)).2.verifier = m.verifier := by
  simp only [step, Manager.terminateSession]
  split <;> rfl

/-- When a session is opened. -/
theorem opens_verify (c : SessionCapability) (a : Attempt) :
    opens c (step E m (.verify a)).1 = true ↔
      a.capability = c ∧
        (m.verifier.verify E a.capability a.protocol a.now a.instant).1 = .ok () ∧
        ∃ sessionId, Id.new .session a.capability.sessionId = .ok sessionId ∧
          m.activeSessions.contains sessionId.value = false := by
  simp only [step, Manager.verifyAndAcceptSession]
  cases hverdict : (m.verifier.verify E a.capability a.protocol a.now a.instant).1 with
  | error e => simp [opens]
  | ok _ =>
    simp only [Manager.register]
    cases hid : Id.new .session a.capability.sessionId with
    | error e => simp [opens]
    | ok sessionId =>
      cases hactive : m.activeSessions.contains sessionId.value <;> simp [opens, hactive]

/-- After it was terminated a session is not active, whether or not it had been. -/
theorem terminate_inactive (sessionId : SessionId) :
    (step E m (.terminate sessionId)).2.activeSessions.contains sessionId.value = false := by
  simp only [step, Manager.terminateSession]
  split
  · rename_i h
    simpa [← Std.TreeMap.isSome_getElem?_eq_contains] using h
  · simp

/-! ## Whole runs -/

/-- Nothing is remembered with a later instant than those of the attempts. -/
theorem after_entries_le (m : Manager) (calls : List Call) (latest : Nat)
    (h : ∀ entry ∈ m.verifier.replayCache.entries, entry.2 ≤ latest)
    (hcalls : ∀ a ∈ attempts calls, a.instant ≤ latest) :
    ∀ entry ∈ (Mealy.after (step E) m calls).verifier.replayCache.entries, entry.2 ≤ latest := by
  have hstep : ∀ (m : Manager) (call : Call),
      (∀ entry ∈ m.verifier.replayCache.entries, entry.2 ≤ latest) → call ∈ calls →
        ∀ entry ∈ (step E m call).2.verifier.replayCache.entries, entry.2 ≤ latest := by
    intro m call hm hcall
    cases call with
    | verify a =>
      rw [step_verify_verifier]
      exact step_entries_le m.verifier a latest hm
        (hcalls a (List.mem_filterMap.mpr ⟨.verify a, hcall, rfl⟩))
    | terminate sessionId => rwa [step_terminate_verifier]
  exact Mealy.after_invariant hstep m calls h (fun _ hcall => hcall)

/-- The setting of the replay cache stays. -/
theorem after_ttl (m : Manager) (calls : List Call) (h : m.verifier.replayCache.ttl = replayTtl) :
    (Mealy.after (step E) m calls).verifier.replayCache.ttl = replayTtl := by
  have hstep : ∀ (m : Manager) (call : Call), m.verifier.replayCache.ttl = replayTtl →
      (step E m call).2.verifier.replayCache.ttl = replayTtl := by
    intro m call hm
    cases call with
    | verify a =>
      rw [step_verify_verifier]
      exact (step_frame m.verifier a).2.2.trans hm
    | terminate sessionId => rwa [step_terminate_verifier]
  exact Mealy.after_always hstep m calls h

/-- While the nonce of a capability is remembered, or its window has passed, no attempt
opens a session with it. -/
theorem never_opens (c : SessionCapability) (first : Nat) (m : Manager) (calls : List Call)
    (httl : m.verifier.replayCache.ttl = replayTtl)
    (hstart : (c.nonce, first) ∈ m.verifier.replayCache.entries ∨
      ∀ a ∈ attempts calls, c.expiresAt < a.now)
    (hyoung : ∀ a ∈ attempts calls, a.now ≤ c.expiresAt → a.instant - first < replayTtl)
    (horder : (attempts calls).Pairwise fun a b => c.expiresAt < a.now → c.expiresAt < b.now) :
    ∀ reply ∈ Mealy.trace (step E) m calls, opens c reply = false := by
  induction calls generalizing m with
  | nil => simp
  | cons call calls ih =>
    rw [Mealy.trace_cons, List.forall_mem_cons]
    cases call with
    | terminate sessionId =>
      refine ⟨rfl, ih _ ?_ ?_ hyoung horder⟩
      · rwa [step_terminate_verifier]
      · rwa [step_terminate_verifier]
    | verify a =>
      have hattempts : attempts (.verify a :: calls) = a :: attempts calls := rfl
      rw [hattempts] at hstart hyoung horder
      rw [List.forall_mem_cons] at hstart hyoung
      rw [List.pairwise_cons] at horder
      constructor
      · rw [← Bool.not_eq_true, opens_verify]
        rintro ⟨rfl, hok, -⟩
        obtain ⟨hpre, ⟨hnot, -⟩, -⟩ := verify_ok.mp hok
        obtain ⟨-, -, -, hexpires, -, -⟩ := (precheck_ok _ _ _ _).mp hpre
        rcases hstart with hmem | ⟨hlate, -⟩
        · apply hnot
          exact List.mem_map.mpr ⟨_, List.mem_filter.mpr
            ⟨hmem, by simpa [httl] using hyoung.1 hexpires⟩, rfl⟩
        · exact absurd hlate (UInt64.not_lt.mpr hexpires)
      · refine ih _ ?_ ?_ hyoung.2 horder.2
        · rw [step_verify_verifier]
          exact (step_frame m.verifier a).2.2.trans httl
        · rw [step_verify_verifier]
          by_cases hlate : c.expiresAt < a.now
          · exact .inr fun b hb => horder.1 b hb hlate
          · rcases hstart with hmem | ⟨hlate', -⟩
            · left
              refine step_remembers m.verifier a _ hmem ?_
              rw [httl]
              exact hyoung.1 (UInt64.not_lt.mp hlate)
            · exact absurd hlate' hlate

/-! ## Single use -/

theorem wallSecs_mono {t u : Nat} (h : t ≤ u) : wallSecs t ≤ wallSecs u := Nat.div_le_div_right h

@[simp] theorem attempts_append (calls more : List Call) :
    attempts (calls ++ more) = attempts calls ++ attempts more := List.filterMap_append

@[simp] theorem attempts_verify (a : Attempt) (calls : List Call) :
    attempts (.verify a :: calls) = a :: attempts calls := rfl

@[simp] theorem attempts_terminate (sessionId : SessionId) (calls : List Call) :
    attempts (.terminate sessionId :: calls) = attempts calls := rfl

@[simp] theorem attempts_nil : attempts [] = [] := rfl

theorem openings_append (m : Manager) (c : SessionCapability) (calls more : List Call) :
    openings E m c (calls ++ more) =
      openings E m c calls + openings E (Mealy.after (step E) m calls) c more := by
  rw [openings, Mealy.trace_append, List.countP_append]
  rfl

theorem openings_cons (m : Manager) (c : SessionCapability) (call : Call) (calls : List Call) :
    openings E m c (call :: calls) =
      openings E (step E m call).2 c calls + if opens c (step E m call).1 then 1 else 0 := by
  rw [openings, Mealy.trace_cons, List.countP_cons]
  rfl

/-- Once it was accepted in a later second than that of its issue, a capability whose
window has two minutes opens no further session. -/
theorem openings_eq_zero (boot : Nat) (c : SessionCapability) (a : Attempt) (m : Manager)
    (rest : List Call) (hwindow : c.expiresAt.toNat = c.notBefore.toNat + 120)
    (hclock : Clocked boot (.verify a :: rest)) (httl : m.verifier.replayCache.ttl = replayTtl)
    (hentry : (c.nonce, a.instant) ∈ m.verifier.replayCache.entries)
    (hnow : c.notBefore < a.now) : openings E m c rest = 0 := by
  obtain ⟨hwall, hmono⟩ := hclock
  simp only [attempts_verify, List.forall_mem_cons, List.map_cons, List.pairwise_cons] at hwall hmono
  rw [openings, List.countP_eq_zero]
  intro reply hreply
  rw [Bool.not_eq_true]
  refine never_opens c a.instant m rest httl (.inl hentry) ?_ ?_ reply hreply
  · -- A second of the window has passed, so what is left of it is shorter than the memory.
    intro b hb hexpires
    have hfirst := hwall.1
    have hlater := hwall.2 b hb
    rw [UInt64.lt_iff_toNat_lt] at hnow
    rw [UInt64.le_iff_toNat_le] at hexpires
    simp only [wallSecs, nanosPerSec] at hfirst hlater
    simp only [replayTtl, fromSecs, nanosPerSec]
    omega
  · have hpair := List.pairwise_map.mp hmono.2
    refine hpair.imp_of_mem ?_
    intro b b' hb hb' hle hlate
    rw [UInt64.lt_iff_toNat_lt] at hlate ⊢
    rw [hwall.2 b hb] at hlate
    rw [hwall.2 b' hb']
    exact lt_of_lt_of_le hlate (wallSecs_mono (by omega))

/-- The same capability again, in the last second of its window. -/
def lastAttempt (a : Attempt) : Attempt :=
  ⟨a.capability, a.protocol, a.capability.expiresAt, a.instant + replayTtl⟩

theorem lastAttempt_wall (boot : Nat) (a : Attempt)
    (hwindow : a.capability.expiresAt.toNat = a.capability.notBefore.toNat + 120)
    (hwall : a.now.toNat = wallSecs (boot + a.instant)) (hnow : a.now = a.capability.notBefore) :
    (lastAttempt a).now.toNat = wallSecs (boot + (lastAttempt a).instant) := by
  rw [hnow] at hwall
  simp only [lastAttempt, wallSecs, replayTtl, fromSecs, nanosPerSec] at hwall ⊢
  omega

theorem Clocked.suffix {boot : Nat} {before rest : List Call} (h : Clocked boot (before ++ rest)) :
    Clocked boot rest := by
  obtain ⟨hwall, hmono⟩ := h
  rw [attempts_append] at hwall hmono
  rw [List.map_append, List.pairwise_append] at hmono
  exact ⟨fun b hb => hwall b (List.mem_append_right _ hb), hmono.2.1⟩

/-- The last attempt may follow a first one. -/
theorem clocked_lastAttempt (boot : Nat) (before : List Call) (a : Attempt) (sessionId : SessionId)
    (hwindow : a.capability.expiresAt.toNat = a.capability.notBefore.toNat + 120)
    (hclock : Clocked boot (before ++ [Call.verify a])) (hnow : a.now = a.capability.notBefore) :
    Clocked boot (before ++ Call.verify a :: [.terminate sessionId, .verify (lastAttempt a)]) := by
  obtain ⟨hwall, hmono⟩ := hclock
  simp only [attempts_append, attempts_verify, attempts_nil, List.map_append, List.map_cons,
    List.map_nil, List.pairwise_append] at hwall hmono
  constructor
  · simp only [attempts_append, attempts_verify, attempts_terminate, attempts_nil,
      List.mem_append, List.mem_cons, List.not_mem_nil, or_false]
    rintro d (hd | rfl | rfl)
    · exact hwall d (by simp [hd])
    · exact hwall d (by simp)
    · exact lastAttempt_wall boot a hwindow (hwall a (by simp)) hnow
  · simp only [attempts_append, attempts_verify, attempts_terminate, attempts_nil,
      List.map_append, List.map_cons, List.map_nil, List.pairwise_append]
    refine ⟨hmono.1, by simp [lastAttempt], ?_⟩
    intro i hi j hj
    have hle := hmono.2.2 i hi a.instant List.mem_cons_self
    simp only [List.mem_cons, List.not_mem_nil, or_false] at hj
    rcases hj with rfl | rfl
    · exact hle
    · exact le_trans hle (Nat.le_add_right _ _)

/-- Two minutes after it was accepted the agent has forgotten the nonce; when the session
has ended, the capability opens another. -/
theorem accepted_again (a : Attempt) (m : Manager) (sessionId : SessionId)
    (hwindow : a.capability.notBefore ≤ a.capability.expiresAt)
    (httl : m.verifier.replayCache.ttl = replayTtl)
    (hentries : ∀ entry ∈ m.verifier.replayCache.entries, entry.2 ≤ a.instant)
    (hok : (m.verifier.verify E a.capability a.protocol a.now a.instant).1 = .ok ())
    (hid : Id.new .session a.capability.sessionId = .ok sessionId) :
    openings E (step E m (.verify a)).2 a.capability
      [.terminate sessionId, .verify (lastAttempt a)] = 1 := by
  obtain ⟨hpre, -, hsignature⟩ := verify_ok.mp hok
  obtain ⟨hschema, htarget, -, -, hmin, hmax⟩ := (precheck_ok _ _ _ _).mp hpre
  have hagain : opens a.capability (step E (step E (step E m (.verify a)).2 (.terminate sessionId)).2
      (.verify (lastAttempt a))).1 = true := by
    refine (opens_verify _ _).mpr ⟨rfl, ?_, sessionId, hid, terminate_inactive sessionId⟩
    rw [step_terminate_verifier, step_verify_verifier]
    obtain ⟨hkey, hdevice, httl'⟩ := step_frame (E := E) m.verifier a
    have hle := step_entries_le (E := E) m.verifier a a.instant hentries (Nat.le_refl _)
    refine verify_ok.mpr ⟨(precheck_ok _ _ _ _).mpr
      ⟨hschema, (targets_congr hdevice a.capability).trans htarget, hwindow, UInt64.le_refl _,
        hmin, hmax⟩, free_of_old _ _ _ ?_, ?_⟩
    · -- All that is remembered was taken at the first acceptance or before.
      intro entry hentry
      have hold : replayTtl ≤ a.instant + replayTtl - entry.2 := by
        rw [Nat.add_comm]
        exact Nat.le_sub_of_add_le (Nat.add_le_add_left (hle entry hentry) _)
      exact (httl'.trans httl).trans_le hold
    · exact (congrArg (checkSignature E · a.capability) hkey).trans hsignature
  rw [openings_cons, openings_cons, hagain]
  rfl

/-- A capability with a window of two minutes that has just opened its first session opens
no other exactly if the second of its issue has passed. -/
theorem single_use_iff (E : Encoder) (key : VerifyingKey) (targetDeviceId : String) (boot : Nat)
    (c : SessionCapability) (before : List Call) (a : Attempt)
    (hwindow : c.expiresAt.toNat = c.notBefore.toNat + 120)
    (hclock : Clocked boot (before ++ [.verify a]))
    (hfirst : openings E (Manager.new key targetDeviceId) c before = 0)
    (hopen : openings E (Manager.new key targetDeviceId) c (before ++ [.verify a]) = 1) :
    (∀ rest, Clocked boot (before ++ .verify a :: rest) →
      openings E (Manager.new key targetDeviceId) c (before ++ .verify a :: rest) ≤ 1) ↔
    c.notBefore < a.now := by
  generalize hstart : Manager.new key targetDeviceId = start at hfirst hopen
  have httl : (Mealy.after (step E) start before).verifier.replayCache.ttl = replayTtl :=
    after_ttl start before (hstart ▸ rfl)
  generalize hm : Mealy.after (step E) start before = m at httl
  have hopens : opens c (step E m (.verify a)).1 = true := by
    rw [openings_append, hfirst, hm, openings_cons] at hopen
    by_contra hnot
    simp [hnot, openings] at hopen
  obtain ⟨rfl, hok, sessionId, hid, -⟩ := (opens_verify c a).mp hopens
  constructor
  · intro hall
    obtain ⟨hpre, -⟩ := verify_ok.mp hok
    obtain ⟨-, -, hactive, -⟩ := (precheck_ok _ _ _ _).mp hpre
    by_contra hnot
    have hnow : a.now = a.capability.notBefore := UInt64.le_antisymm (UInt64.not_lt.mp hnot) hactive
    have hbefore : ∀ b ∈ attempts before, b.instant ≤ a.instant := by
      have hmono := hclock.monotonic
      rw [attempts_append, List.map_append, List.pairwise_append] at hmono
      intro b hb
      exact hmono.2.2 _ (List.mem_map_of_mem hb) _ List.mem_cons_self
    have hentries : ∀ entry ∈ m.verifier.replayCache.entries, entry.2 ≤ a.instant := by
      rw [← hm, ← hstart]
      exact after_entries_le _ before a.instant (by simp [Manager.new, Verifier.new,
        Verifier.withTargetDeviceId, NonceReplayCache.new]) hbefore
    have hopening : a.capability.notBefore ≤ a.capability.expiresAt := by
      rw [UInt64.le_iff_toNat_le]
      omega
    have hagain := accepted_again a m sessionId hopening httl hentries hok hid
    have htwice := hall [.terminate sessionId, .verify (lastAttempt a)]
      (clocked_lastAttempt boot before a sessionId hwindow hclock hnow)
    rw [openings_append, hfirst, hm, openings_cons, hopens, hagain] at htwice
    simp at htwice
  · intro hnow rest hrest
    have hnone : openings E (step E m (.verify a)).2 a.capability rest = 0 := by
      refine openings_eq_zero boot a.capability a _ rest hwindow hrest.suffix ?_ ?_ hnow
      · rw [step_verify_verifier]
        exact (step_frame m.verifier a).2.2.trans httl
      · rw [step_verify_verifier]
        exact step_enters m.verifier a hok
    rw [openings_append, hfirst, hm, openings_cons, hopens, hnone]
    simp

/-! ## A capability that opens two sessions -/

section
variable (E : Encoder) (signer : SigningKey) (key : VerifyingKey)

/-- A capability is presented at once, its session ends, and it is presented again. -/
def presentedTwice : List Call :=
  [.verify ⟨signedShort E signer, 1, 2000, 0⟩, .terminate ⟨"sess-0001", by decide⟩,
    .verify ⟨signedShort E signer, 1, 2120, fromSecs 120⟩]

theorem presentedTwice_clocked : Clocked (fromSecs 2000) (presentedTwice E signer) := by
  constructor
  · simp only [presentedTwice, attempts_verify, attempts_terminate, attempts_nil,
      List.forall_mem_cons]
    exact ⟨by decide, by decide, by simp⟩
  · simp [presentedTwice]

/-- The first attempt is accepted by a new manager. -/
theorem firstAttempt_accepted (hkeys : Matching signer key) (now : UInt64) (instant : Nat)
    (hactive : 2000 ≤ now) (hnow : now ≤ 2120) :
    ((Manager.new key "dev-host-01").verifier.verify E (signedShort E signer) 1 now instant).1 =
      .ok () :=
  signedShort_accepted E signer _ now instant hkeys rfl hactive hnow
    (free_of_room _ _ _ List.not_mem_nil (Nat.zero_lt_succ 9999))

theorem firstAttempt_opens (hkeys : Matching signer key) (now : UInt64) (instant : Nat)
    (hactive : 2000 ≤ now) (hnow : now ≤ 2120) :
    opens (signedShort E signer)
      (step E (Manager.new key "dev-host-01") (.verify ⟨signedShort E signer, 1, now, instant⟩)).1 =
      true :=
  (opens_verify _ _).mpr ⟨rfl, firstAttempt_accepted E signer key hkeys now instant hactive hnow,
    ⟨"sess-0001", by decide⟩, (Id.new_ok _ _ _).mpr rfl, rfl⟩

theorem presentedTwice_openings (hkeys : Matching signer key) :
    openings E (Manager.new key "dev-host-01") (signedShort E signer)
      (presentedTwice E signer) = 2 := by
  have hfirst := firstAttempt_opens E signer key hkeys 2000 0 (by decide) (by decide)
  have hagain := accepted_again (E := E) ⟨signedShort E signer, 1, 2000, 0⟩
    (Manager.new key "dev-host-01") ⟨"sess-0001", by decide⟩
    (show shortCapability.notBefore ≤ shortCapability.expiresAt by decide) rfl (by intro entry h; cases h)
    (firstAttempt_accepted E signer key hkeys 2000 0 (by decide) (by decide))
    ((Id.new_ok _ _ _).mpr rfl)
  have hlast : lastAttempt ⟨signedShort E signer, 1, 2000, 0⟩ =
      ⟨signedShort E signer, 1, 2120, fromSecs 120⟩ := by
    rw [lastAttempt, Nat.zero_add]
    rfl
  rw [hlast] at hagain
  rw [presentedTwice, openings_cons, hfirst, hagain]
  rfl

end

/-- Presented at the very beginning and at the very end of its window, the capability is
accepted both times. -/
theorem capability_opens_twice :
    Clocked (fromSecs 2000)
        (presentedTwice encoder (Ed25519.sign seed)) ∧
      ¬openings encoder (Manager.new (verifyingKey seed) "dev-host-01")
        (signedShort encoder (Ed25519.sign seed))
        (presentedTwice encoder (Ed25519.sign seed)) ≤ 1 := by
  refine ⟨presentedTwice_clocked _ _, ?_⟩
  rw [presentedTwice_openings _ _ _ (matching_keys _)]
  decide

/-- Presented a second later, it opens one session whatever follows. -/
theorem single_use_next_second :
    let E := encoder
    let c := signedShort E (Ed25519.sign seed)
    let m := Manager.new (verifyingKey seed) "dev-host-01"
    let a : Attempt := ⟨c, 1, 2001, fromSecs 1⟩
    openings E m c [.verify a] = 1 ∧
      ∀ rest, Clocked (fromSecs 2000) (.verify a :: rest) → openings E m c (.verify a :: rest) ≤ 1 := by
  intro E c m a
  have hopens : opens c (step E m (.verify a)).1 = true := firstAttempt_opens E _ _
    (matching_keys _) 2001 (fromSecs 1) (by decide) (by decide)
  have hone : openings E m c [.verify a] = 1 := by
    rw [openings_cons, hopens]
    rfl
  have hwindow : shortCapability.expiresAt.toNat = shortCapability.notBefore.toNat + 120 := by decide
  have hlater : shortCapability.notBefore < 2001 := by decide
  have hclock : Clocked (fromSecs 2000) ([] ++ [.verify a]) := by
    constructor
    · simp only [List.nil_append, attempts_verify, attempts_nil, List.forall_mem_cons]
      exact ⟨by decide, by simp⟩
    · simp
  exact ⟨hone, (single_use_iff E _ "dev-host-01" (fromSecs 2000) c [] a hwindow hclock
    List.countP_nil hone).mpr hlater⟩

end AgentSessions
