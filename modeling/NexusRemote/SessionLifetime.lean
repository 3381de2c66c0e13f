import NexusRemote.ClientSession
import NexusRemote.ControlEncoding

/-!
# The lifetime of a client session

What holds over every sequence of calls on a fresh session: the bounds that the
duration policy and the reconnect window set, and when an established session
passes for active.
-/

namespace SessionLifetime

open UnixTime RelayTokens Capabilities ClientSession
open ControlEncoding (encoder matching_keys seed verifyingKey)

variable {E : Encoder} {s : Session}

/-! ## One call -/

/-- A call changes nothing of a session but its progress. -/
theorem step_frame (call : Call) :
    ∃ state deadline established, (step E s call).2 =
      { s with state := state, reconnectDeadline := deadline, establishedAt := established } := by
  have heffect := step_effect E s call
  generalize step E s call = r at heffect
  cases heffect with
  | refused e => exact ⟨_, _, _, rfl⟩
  | gaveUp e deadline h => exact ⟨_, _, _, rfl⟩
  | beginConnect now h claims => exact ⟨_, _, _, rfl⟩
  | connected now h deadline claims duration => exact ⟨_, _, _, rfl⟩
  | attemptFailed now deadline h duration hd => exact ⟨_, _, _, rfl⟩
  | transportLost now h duration => exact ⟨_, _, _, rfl⟩
  | ensureActive now h claims duration => exact ⟨_, _, _, rfl⟩
  | expire h => exact ⟨_, _, _, rfl⟩

/-- An expired session refuses every call and stays as it is. -/
theorem step_expired (call : Call) (h : s.state = .expired) :
    (step E s call).1 ≠ .ok () ∧ (step E s call).2.state = .expired := by
  have heffect := step_effect E s call
  generalize step E s call = r at heffect
  cases heffect <;> simp_all

theorem step_establishedAt (call : Call) (t : UInt64) (h : s.establishedAt = some t) :
    (step E s call).2.establishedAt = some t := by
  have heffect := step_effect E s call
  generalize step E s call = r at heffect
  cases heffect <;> simp_all

/-- The progress of a session fits together, and the claims held when it was established. -/
structure Inv (E : Encoder) (s : Session) : Prop where
  fresh : s.state = .disconnected → s.establishedAt = none
  established : s.state = .connected ∨ s.state = .reconnecting → s.establishedAt ≠ none
  deadline : s.reconnectDeadline ≠ none → s.establishedAt ≠ none
  claims : ∀ t, s.establishedAt = some t → s.validateClaims E t = .ok ()

theorem inv_new (capability : SessionRequest.SessionCapability) (relayToken : RelayTokenMetadata)
    (durationPolicy : SessionDurationPolicy) (reconnectPolicy : ReconnectPolicy)
    (verification : ClientVerification) :
    Inv E (Session.new capability relayToken durationPolicy reconnectPolicy verification) :=
  ⟨fun _ => rfl, by simp [Session.new], by simp [Session.new], by simp [Session.new]⟩

theorem step_inv (call : Call) (h : Inv E s) : Inv E (step E s call).2 := by
  have heffect := step_effect E s call
  generalize step E s call = r at heffect
  cases heffect with
  | refused e => exact h
  | gaveUp e deadline hstate hd =>
    refine ⟨by simp, by simp, ?_, h.claims⟩
    intro hdeadline
    rcases hd with rfl | rfl
    · exact absurd rfl hdeadline
    · exact h.deadline hdeadline
  | beginConnect now hstate claims => exact ⟨by simp, by simp, h.deadline, h.claims⟩
  | connected now hstate deadline claims duration =>
    refine ⟨by simp, by simp, by simp, ?_⟩
    intro t ht
    cases hold : s.establishedAt with
    | none =>
      -- The first connection: the claims have just been checked at this time.
      obtain rfl : now = t := by simpa [hold] using ht
      exact claims
    | some t' =>
      obtain rfl : t' = t := by simpa [hold] using ht
      exact h.claims t' hold
  | attemptFailed now deadline hstate duration hd =>
    exact ⟨by simp, fun _ => h.deadline (by simp [hd]), h.deadline, h.claims⟩
  | transportLost now hstate duration =>
    have hsome := h.established (.inl hstate)
    exact ⟨by simp, fun _ => hsome, fun _ => hsome, h.claims⟩
  | ensureActive now hstate claims duration => exact h
  | expire hstate => exact ⟨by simp, by simp, by simp, h.claims⟩

theorem within_of_not_expired (now t : UInt64) (ht : s.establishedAt = some t)
    (h : s.sessionDurationExpired now = false) :
    saturatingDurationSince now t < s.durationPolicy.maxDuration := by
  simpa [Session.sessionDurationExpired, ht] using h

/-- A call that succeeds on an established session is within the session's duration. -/
theorem step_within (call : Call) (now t : UInt64) (h : Inv E s) (hnow : call.now = some now)
    (ht : s.establishedAt = some t) (hok : (step E s call).1 = .ok ()) :
    saturatingDurationSince now t < s.durationPolicy.maxDuration := by
  have heffect := step_effect E s call
  generalize step E s call = r at heffect hok
  apply within_of_not_expired now t ht
  cases heffect with
  | refused e => cases hok
  | gaveUp e deadline hstate hd => cases hok
  | beginConnect now' hstate claims =>
    obtain rfl : now' = now := by simpa [Call.now] using hnow
    rcases hstate with hstate | ⟨-, hcan⟩
    · -- A session that was once established is never disconnected again.
      rw [h.fresh hstate] at ht
      cases ht
    · simp only [Session.canReconnect, Bool.and_eq_true, Bool.not_eq_true'] at hcan
      exact hcan.2
  | connected now' hstate deadline claims duration =>
    obtain rfl : now' = now := by simpa [Call.now] using hnow
    exact duration
  | attemptFailed now' deadline hstate duration hd =>
    obtain rfl : now' = now := by simpa [Call.now] using hnow
    exact duration
  | transportLost now' hstate duration =>
    obtain rfl : now' = now := by simpa [Call.now] using hnow
    exact duration
  | ensureActive now' hstate claims duration =>
    obtain rfl : now' = now := by simpa [Call.now] using hnow
    exact duration
  | expire hstate => cases hnow

/-- A lost transport that has not been replaced: the session waits for its deadline, or
has given up. -/
def Waiting (deadline : UInt64) (s : Session) : Prop :=
  s.state = .expired ∨
    (s.state = .reconnecting ∨ s.state = .connecting) ∧
      s.reconnectDeadline = some deadline ∧ s.establishedAt ≠ none

theorem waiting_of_lost (now : UInt64) (h : Inv E s)
    (hok : (step E s (.transportLost now)).1 = .ok ()) :
    Waiting (saturatingAdd now s.reconnectPolicy.window) (step E s (.transportLost now)).2 := by
  have heffect := step_effect E s (.transportLost now)
  generalize step E s (.transportLost now) = r at heffect hok
  cases heffect with
  | refused e => cases hok
  | gaveUp e deadline hstate hd => cases hok
  | transportLost now hstate duration =>
    exact .inr ⟨.inl rfl, rfl, h.established (.inl hstate)⟩

/-- While it waits the deadline stays, whatever is tried, until a connection succeeds. -/
theorem step_waiting (call : Call) (deadline : UInt64) (h : Waiting deadline s)
    (hnot : ∀ now, call = .connected now → (step E s call).1 ≠ .ok ()) :
    Waiting deadline (step E s call).2 := by
  rcases h with hexpired | ⟨hstate, hdeadline, hsome⟩
  · exact .inl (step_expired call hexpired).2
  · have heffect := step_effect E s call
    generalize step E s call = r at heffect hnot
    cases heffect with
    | refused e => exact .inr ⟨hstate, hdeadline, hsome⟩
    | gaveUp e deadline' hlive hd => exact .inl rfl
    | beginConnect now hstate claims => exact .inr ⟨.inr rfl, hdeadline, hsome⟩
    | connected now hstate deadline' claims duration => exact absurd rfl (hnot now rfl)
    | attemptFailed now deadline' hstate duration hd => exact .inr ⟨.inl rfl, hdeadline, hsome⟩
    | transportLost now hconnected duration => simp [hconnected] at hstate
    | ensureActive now hconnected claims duration => simp [hconnected] at hstate
    | expire hlive => exact .inl rfl

theorem connected_in_time (now deadline : UInt64) (h : Waiting deadline s)
    (hok : (step E s (.connected now)).1 = .ok ()) : now ≤ deadline := by
  have heffect := step_effect E s (.connected now)
  generalize step E s (.connected now) = r at heffect hok
  cases heffect with
  | refused e => cases hok
  | gaveUp e deadline' hlive hd => cases hok
  | connected now hstate hpassed claims duration =>
    rcases h with hexpired | ⟨-, hdeadline, hsome⟩
    · rw [hexpired] at hstate
      cases hstate
    · have hin : ¬now > deadline := by
        simpa [Session.deadlinePassed, hdeadline, Option.isSome_iff_ne_none, hsome] using hpassed
      exact UInt64.not_lt.mp hin

theorem claims_of_active (now : UInt64) (h : (s.ensureActive E now).1 = .ok ()) :
    s.validateClaims E now = .ok () := by
  have heffect := ensureActive_effect (E := E) (s := s) now
  generalize s.ensureActive E now = r at heffect h
  cases heffect with
  | refused e => cases h
  | gaveUp e deadline hlive hd => cases h
  | ensureActive now hstate claims duration => exact claims

/-! ## Sequences of calls -/

/-- The session after a sequence of calls. -/
def after (E : Encoder) (s : Session) (calls : List Call) : Session := Mealy.after (step E) s calls

/-- What a call returns after others. -/
def outcome (E : Encoder) (s : Session) (before : List Call) (call : Call) : Outcome :=
  (step E (after E s before) call).1

/-- The clock does not run backwards. -/
def Nondecreasing (calls : List Call) : Prop := (calls.filterMap Call.now).Pairwise (· ≤ ·)

instance (calls : List Call) : Decidable (Nondecreasing calls) :=
  inferInstanceAs (Decidable ((calls.filterMap Call.now).Pairwise (· ≤ ·)))

@[simp] theorem after_nil (s : Session) : after E s [] = s := rfl

@[simp] theorem after_cons (s : Session) (call : Call) (calls : List Call) :
    after E s (call :: calls) = after E (step E s call).2 calls := rfl

theorem after_append (s : Session) (before rest : List Call) :
    after E s (before ++ rest) = after E (after E s before) rest := Mealy.after_append _ _ _ _

theorem after_inv (s : Session) (calls : List Call) (h : Inv E s) : Inv E (after E s calls) :=
  Mealy.after_always (fun _ call hs => step_inv call hs) s calls h

theorem after_frame (s : Session) (calls : List Call) :
    ∃ state deadline established, after E s calls =
      { s with state := state, reconnectDeadline := deadline, establishedAt := established } := by
  induction calls generalizing s with
  | nil => exact ⟨_, _, _, rfl⟩
  | cons call calls ih =>
    obtain ⟨state, deadline, established, hstep⟩ := step_frame (E := E) (s := s) call
    rw [after_cons, hstep]
    exact ih _

theorem after_expired (s : Session) (calls : List Call) (h : s.state = .expired) :
    (after E s calls).state = .expired :=
  Mealy.after_always (fun s call (hs : s.state = .expired) => (step_expired call hs).2) s calls h

theorem trace_expired (s : Session) (calls : List Call) (h : s.state = .expired) :
    ∀ o ∈ Mealy.trace (step E) s calls, o ≠ .ok () :=
  Mealy.trace_always (fun s call (hs : s.state = .expired) => (step_expired call hs).2)
    (fun s call (hs : s.state = .expired) => (step_expired call hs).1) s calls h

theorem after_establishedAt (s : Session) (calls : List Call) (t : UInt64)
    (h : s.establishedAt = some t) : (after E s calls).establishedAt = some t :=
  Mealy.after_always (fun s call (hs : s.establishedAt = some t) => step_establishedAt call t hs)
    s calls h

/-- The time of establishment is the time of one of the calls. -/
theorem established_mem (s : Session) (calls : List Call) (t : UInt64)
    (hs : s.establishedAt = none) (h : (after E s calls).establishedAt = some t) :
    t ∈ calls.filterMap Call.now := by
  induction calls generalizing s with
  | nil =>
    rw [after_nil, hs] at h
    cases h
  | cons call calls ih =>
    have heffect := step_effect E s call
    rw [after_cons] at h
    generalize step E s call = r at heffect h
    cases hnew : r.2.establishedAt with
    | none =>
      have hmem := ih r.2 hnew h
      cases hcall : call.now <;> simp [hcall, hmem]
    | some t' =>
      rw [after_establishedAt r.2 calls t' hnew] at h
      cases heffect with
      | connected now hstate deadline claims duration =>
        obtain rfl : now = t' := by simpa [hs] using hnew
        obtain rfl := Option.some.inj h
        simp [Call.now]
      | _ => simp_all

/-- A session that waits goes on waiting while no connection succeeds. -/
theorem after_waiting (s : Session) (deadline : UInt64) (calls : List Call)
    (h : Waiting deadline s)
    (hnot : ∀ before now rest, calls = before ++ .connected now :: rest →
      outcome E s before (.connected now) ≠ .ok ()) :
    Waiting deadline (after E s calls) := by
  induction calls generalizing s with
  | nil => exact h
  | cons call calls ih =>
    refine ih (step E s call).2 (step_waiting call deadline h ?_) ?_
    · rintro now rfl
      exact hnot [] now calls rfl
    · rintro before now rest rfl
      exact hnot (call :: before) now rest rfl

/-! ## A session of two minutes -/

def shortToken : RelayTokenMetadata where
  relayId := "relay-nexus-primary"
  sessionId := "sess-0001"
  clientDeviceId := "dev-client-01"
  targetDeviceId := "dev-host-01"
  expiresAt := 2120
  signature := []

def halfHour : SessionDurationPolicy := ⟨fromSecs 1800, by decide⟩
def oneMinute : ReconnectPolicy := ⟨fromSecs 60, by decide⟩

section
variable (E : Encoder) (signer : SigningKey) (verifier : VerifyingKey)

/-- A session of at most half an hour with the two, signed. -/
def shortSession : Session :=
  Session.new { shortCapability with signature := (signer (signingBytes E shortCapability)).1 }
    { shortToken with signature := (signer shortToken.signingBytes).1 } halfHour oneMinute
    ⟨verifier, verifier, "relay-nexus-primary"⟩

theorem shortSession_claims (hkeys : Matching signer verifier) (now : UInt64)
    (hactive : 2000 ≤ now) (hnow : now < 2120) :
    (shortSession E signer verifier).validateClaims E now = .ok () := by
  refine (validateClaims_ok _ _ now).mpr ⟨⟨?_, shortCapability_valid, ?_⟩, hactive, hnow, hnow⟩
  · simp [shortSession, Session.new, Session.validateIdentity, shortCapability, shortToken]
  · exact validateSignatures_signed E _ signer signer hkeys hkeys rfl rfl rfl

/-- The session after it has connected at once. -/
theorem shortSession_connects (hkeys : Matching signer verifier) :
    after E (shortSession E signer verifier) [.beginConnect 2000, .connected 2000] =
      { shortSession E signer verifier with state := .connected, establishedAt := some 2000 } := by
  have hclaims := shortSession_claims E signer verifier hkeys 2000 (by decide) (by decide)
  have hbegin := beginConnect_fresh E (shortSession E signer verifier) 2000 rfl hclaims
  have hconnect := connected_fresh E { shortSession E signer verifier with state := .connecting }
    2000 rfl rfl hclaims
  simp only [after_cons, step, hbegin, hconnect, after_nil]
  rfl

end

/-! ## The bounds -/

/-- The bounds on the lifetime of a session, over one sequence of calls. -/
structure LifetimeBounds (E : Encoder) (s : Session) (calls : List Call) : Prop where
  expired_forever : ∀ before rest, calls = before ++ rest → (after E s before).state = .expired →
    (after E s calls).state = .expired ∧
      ∀ o ∈ Mealy.trace (step E) (after E s before) rest, o ≠ .ok ()
  established_once : ∀ before rest t, calls = before ++ rest →
    (after E s before).establishedAt = some t → (after E s calls).establishedAt = some t
  within_duration : ∀ before call rest now t, calls = before ++ call :: rest →
    call.now = some now → (after E s before).establishedAt = some t →
    outcome E s before call = .ok () →
    t ≤ now ∧ fromSecs (now.toNat - t.toNat) < s.durationPolicy.maxDuration
  /-- The next successful `connected` after a successful `transport_lost`. -/
  reconnect_in_window : ∀ before lost middle now rest,
    calls = before ++ .transportLost lost :: (middle ++ .connected now :: rest) →
    outcome E s before (.transportLost lost) = .ok () →
    (∀ middle₁ now' middle₂, middle = middle₁ ++ .connected now' :: middle₂ →
      outcome E s (before ++ .transportLost lost :: middle₁) (.connected now') ≠ .ok ()) →
    outcome E s (before ++ .transportLost lost :: middle) (.connected now) = .ok () →
    now ≤ saturatingAdd lost s.reconnectPolicy.window

/-- Every sequence of calls on a fresh session keeps within its lifetime. -/
theorem lifetime_bounds (E : Encoder) (capability : SessionRequest.SessionCapability)
    (relayToken : RelayTokenMetadata) (durationPolicy : SessionDurationPolicy)
    (reconnectPolicy : ReconnectPolicy) (verification : ClientVerification) (calls : List Call)
    (hclock : Nondecreasing calls) :
    LifetimeBounds E
      (Session.new capability relayToken durationPolicy reconnectPolicy verification) calls := by
  generalize hs : Session.new capability relayToken durationPolicy reconnectPolicy verification = s
  have hinv : Inv E s := hs ▸ inv_new capability relayToken durationPolicy reconnectPolicy verification
  have hnone : s.establishedAt = none := hs ▸ rfl
  constructor
  · rintro before rest rfl hexpired
    rw [after_append]
    exact ⟨after_expired _ rest hexpired, trace_expired _ rest hexpired⟩
  · rintro before rest t rfl ht
    rw [after_append]
    exact after_establishedAt _ rest t ht
  · rintro before call rest now t rfl hnow ht hok
    have hwithin := step_within call now t (after_inv s before hinv) hnow ht hok
    obtain ⟨state, deadline, established, hframe⟩ := after_frame (E := E) s before
    rw [hframe] at hwithin
    refine ⟨?_, hwithin⟩
    -- The session was established by an earlier call.
    have hmem := established_mem s before t hnone ht
    rw [Nondecreasing, List.filterMap_append, List.filterMap_cons_some hnow,
      List.pairwise_append] at hclock
    exact hclock.2.2 t hmem now List.mem_cons_self
  · rintro before lost middle now rest rfl hlost hnot hok
    have hbefore := after_inv s before hinv
    have hwaiting := waiting_of_lost lost hbefore hlost
    obtain ⟨state, deadline, established, hframe⟩ := after_frame (E := E) s before
    have hwindow : (after E s before).reconnectPolicy = s.reconnectPolicy := by rw [hframe]
    rw [hwindow] at hwaiting
    unfold outcome at hnot hok
    rw [after_append, after_cons] at hok
    refine connected_in_time now _ (after_waiting _ _ middle hwaiting ?_) hok
    rintro middle₁ now' middle₂ rfl
    have hrefused := hnot middle₁ now' middle₂ rfl
    rwa [after_append, after_cons] at hrefused

/-- A session that is lost and found again within its window. -/
theorem lifetime_bounds_reconnect :
    outcome encoder (shortSession encoder (Ed25519.sign seed) (verifyingKey seed))
        [.beginConnect 2000, .connected 2000] (.transportLost 2010) = .ok () ∧
      LifetimeBounds encoder (shortSession encoder (Ed25519.sign seed) (verifyingKey seed))
        [.beginConnect 2000, .connected 2000, .transportLost 2010, .beginConnect 2020,
          .connected 2021, .expire] := by
  refine ⟨?_, lifetime_bounds _ _ _ _ _ _ _ (by decide)⟩
  rw [outcome, shortSession_connects encoder _ _ (matching_keys seed)]
  rfl

/-! ## Sessions that outlive their capability -/

/-- An established session within its duration passes for active exactly until the
capability or the relay token, which were to admit it, expire. -/
theorem ensure_active_iff (E : Encoder) (capability : SessionRequest.SessionCapability)
    (relayToken : RelayTokenMetadata) (durationPolicy : SessionDurationPolicy)
    (reconnectPolicy : ReconnectPolicy) (verification : ClientVerification) (calls : List Call)
    (s : Session) (t now : UInt64)
    (hs : after E (Session.new capability relayToken durationPolicy reconnectPolicy verification)
      calls = s)
    (hstate : s.state = .connected) (ht : s.establishedAt = some t) (hle : t ≤ now)
    (hduration : fromSecs (now.toNat - t.toNat) < durationPolicy.maxDuration) :
    (s.ensureActive E now).1 = .ok () ↔
      now < capability.expiresAt ∧ now < relayToken.expiresAt := by
  have hinv : Inv E s := hs ▸ after_inv _ calls (inv_new _ _ _ _ _)
  obtain ⟨state, deadline, established, hframe⟩ := after_frame (E := E)
    (Session.new capability relayToken durationPolicy reconnectPolicy verification) calls
  rw [hs] at hframe
  have hcapability : s.capability = capability := by rw [hframe]; rfl
  have hrelay : s.relayToken = relayToken := by rw [hframe]; rfl
  have hpolicy : s.durationPolicy = durationPolicy := by rw [hframe]; rfl
  -- The claims held at establishment; only their expiry can have changed since.
  obtain ⟨hgenuine, hactive, -, -⟩ := (validateClaims_ok E s t).mp (hinv.claims t ht)
  have hclaims := validateClaims_ok E s now
  rw [hcapability, hrelay] at hclaims
  rw [hcapability] at hactive
  have hlive : s.sessionDurationExpired now = false := by
    simpa [Session.sessionDurationExpired, ht, hpolicy, saturatingDurationSince] using hduration
  have hiff : s.validateClaims E now = .ok () ↔
      now < capability.expiresAt ∧ now < relayToken.expiresAt := by
    rw [hclaims]
    exact ⟨fun h => h.2.2, fun h => ⟨hgenuine, UInt64.le_trans hactive hle, h⟩⟩
  rw [← hiff]
  cases hresult : s.validateClaims E now with
  | error e => simp [Session.ensureActive, hstate, hresult]
  | ok _ => simp [Session.ensureActive, hstate, hresult, hlive]

/-- Two minutes later the connected session is not active. -/
theorem shortSession_inactive (signer : SigningKey) (verifier : VerifyingKey)
    (hkeys : Matching signer verifier) :
    ((after E (shortSession E signer verifier) [.beginConnect 2000, .connected 2000]).ensureActive
      E 2120).1 ≠ .ok () := by
  rw [shortSession_connects E signer verifier hkeys]
  intro hok
  obtain ⟨-, -, hexpires, -⟩ := (validateClaims_ok E _ 2120).mp (claims_of_active 2120 hok)
  have hover : ¬(2120 : UInt64) < shortCapability.expiresAt := by decide
  exact hover hexpires

/-- The session is two minutes old, of thirty that it may last, and is no longer active. -/
theorem short_session_ends_early :
    let s := after encoder (shortSession encoder (Ed25519.sign seed) (verifyingKey seed))
      [.beginConnect 2000, .connected 2000]
    s.state = .connected ∧ s.establishedAt = some 2000 ∧
      fromSecs ((2120 : UInt64).toNat - (2000 : UInt64).toNat) < s.durationPolicy.maxDuration ∧
      (s.ensureActive encoder 2120).1 ≠ .ok () := by
  have hkeys := matching_keys seed
  have hs := shortSession_connects encoder _ _ hkeys
  refine ⟨by rw [hs], by rw [hs], by rw [hs]; decide, ?_⟩
  exact shortSession_inactive _ _ hkeys

/-- In time the same session is active. -/
theorem ensure_active_in_time :
    let s := after encoder (shortSession encoder (Ed25519.sign seed) (verifyingKey seed))
      [.beginConnect 2000, .connected 2000]
    (s.ensureActive encoder 2119).1 = .ok () := by
  have hs := shortSession_connects encoder _ _ (matching_keys seed)
  refine (ensure_active_iff encoder _ _ _ _ _ _ _ 2000 2119 rfl ?_ ?_ ?_ ?_).mpr ?_
  · rw [shortSession] at hs
    rw [hs]
  · rw [shortSession] at hs
    rw [hs]
  · decide
  · decide
  · exact ⟨by decide, by decide⟩

end SessionLifetime
