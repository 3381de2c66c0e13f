import NexusRemote.SessionLifetime

/-!
# The reconnect deadline of a client session

A client session has a deadline while it waits for its connection to come back.
Most ways in which it gives up clear the deadline, but not all of them do.
-/

namespace ReconnectDeadline

open UnixTime RelayTokens Capabilities ClientSession SessionLifetime
open ControlEncoding (encoder matching_keys seed verifyingKey)

variable {E : Encoder} {s : Session}

/-- There is a deadline exactly while the session waits for its connection to come back. -/
def Matches (s : Session) : Prop :=
  s.reconnectDeadline.isSome = true ↔
    s.state = .reconnecting ∨ s.state = .connecting ∧ s.establishedAt.isSome = true

/-- The session gives up in this call and does not clear its deadline. -/
def Forgets (E : Encoder) (s : Session) : Call → Prop
  | .beginConnect now => s.state = .reconnecting ∧ s.canReconnect now = false
  | .connected now => s.state = .connecting ∧ s.establishedAt.isSome = true ∧
    (s.deadlinePassed now = true ∨
      s.validateClaims E now = .ok () ∧ s.sessionDurationExpired now = true)
  | .reconnectAttemptFailed _ | .transportLost _ | .ensureActive _ | .expire => False

/-- An expired session that still has a deadline. -/
def Stuck (s : Session) : Prop := s.state = .expired ∧ s.reconnectDeadline.isSome = true

/-! ## One call -/

theorem not_matches_of_stuck (h : Stuck s) : ¬Matches s := by
  intro hmatches
  have hwaits := hmatches.mp h.2
  simp [h.1] at hwaits

theorem step_stuck (call : Call) (h : Stuck s) : (step E s call).2 = s := by
  have hexpired := h.1
  have heffect := step_effect E s call
  generalize step E s call = r at heffect
  cases heffect with
  | refused e => rfl
  | gaveUp e deadline hlive | expire hlive => exact absurd hexpired hlive
  | beginConnect now hstate | connected now hstate | attemptFailed now deadline hstate
  | transportLost now hstate | ensureActive now hstate => simp [hexpired] at hstate

theorem step_forgets (call : Call) (hmatches : Matches s) (h : Forgets E s call) :
    Stuck (step E s call).2 := by
  cases call with
  | beginConnect now =>
    obtain ⟨hstate, hcan⟩ := h
    have hdeadline := hmatches.mpr (.inl hstate)
    simp only [step, Session.beginConnect, hstate, hcan, Bool.not_false, if_true]
    exact ⟨rfl, hdeadline⟩
  | connected now =>
    obtain ⟨hstate, hestablished, hgives⟩ := h
    have hdeadline := hmatches.mpr (.inr ⟨hstate, hestablished⟩)
    by_cases hpassed : s.deadlinePassed now = true
    · simp only [step, Session.connected, hstate, hpassed, reduceCtorEq, if_false, ne_eq,
        not_true_eq_false, if_true]
      exact ⟨rfl, hdeadline⟩
    · obtain ⟨hclaims, hduration⟩ := hgives.resolve_left hpassed
      simp only [step, Session.connected, hstate, hpassed, hclaims, hduration, reduceCtorEq,
        if_false, ne_eq, not_true_eq_false, if_true]
      exact ⟨rfl, hdeadline⟩
  | reconnectAttemptFailed | transportLost | ensureActive | expire => exact h.elim

theorem matches_of_none (hdeadline : s.reconnectDeadline = none)
    (hstate : s.state = .connected ∨ s.state = .expired) : Matches s := by
  rcases hstate with hstate | hstate <;> simp [Matches, hdeadline, hstate]

/-- Entering the first connection, or the next one while there is a deadline. -/
theorem enterConnecting_matches (now : UInt64) (h : Matches s) (hinv : Inv E s)
    (hstate : s.state = .disconnected ∨ s.state = .reconnecting) :
    Matches (s.enterConnecting E now).2 := by
  unfold Session.enterConnecting
  split
  · exact h
  · rcases hstate with hstate | hstate
    · have hfresh := hinv.fresh hstate
      simp only [Matches, hstate, hfresh] at h ⊢
      simpa using h
    · have hestablished := Option.ne_none_iff_isSome.mp (hinv.established (.inr hstate))
      have hdeadline := h.mpr (.inl hstate)
      simp [Matches, hdeadline, hestablished]

theorem beginConnect_matches (now : UInt64) (h : Matches s) (hinv : Inv E s)
    (hnot : ¬Forgets E s (.beginConnect now)) : Matches (s.beginConnect E now).2 := by
  unfold Session.beginConnect
  split
  · exact h
  · rename_i hstate
    have hcan : s.canReconnect now = true := by
      by_contra hcan
      exact hnot ⟨hstate, by simpa using hcan⟩
    simp only [hcan, Bool.not_true, Bool.false_eq_true, if_false]
    exact enterConnecting_matches now h hinv (.inr hstate)
  · rename_i hstate
    exact enterConnecting_matches now h hinv (.inl hstate)
  · exact h
  · exact h

theorem connected_matches (now : UInt64) (h : Matches s)
    (hnot : ¬Forgets E s (.connected now)) : Matches (s.connected E now).2 := by
  unfold Session.connected
  split
  · exact h
  split
  · exact h
  rename_i _ hstate
  have hstate := not_not.mp hstate
  -- a session that was never established has neither a deadline nor a duration
  have hnone : s.establishedAt.isSome = false → s.reconnectDeadline = none := by
    intro hnever
    simp only [Matches, hstate, hnever, Bool.false_eq_true, and_false, or_false, reduceCtorEq,
      iff_false, Bool.not_eq_true, Option.isSome_eq_false_iff, Option.isNone_iff_eq_none] at h
    exact h
  split
  · rename_i hpassed
    by_cases hestablished : s.establishedAt.isSome = true
    · exact absurd ⟨hstate, hestablished, .inl hpassed⟩ hnot
    · simp [Session.deadlinePassed, hestablished] at hpassed
  split
  · exact h
  rename_i hclaims
  split
  · rename_i hduration
    by_cases hestablished : s.establishedAt.isSome = true
    · exact absurd ⟨hstate, hestablished, .inr ⟨hclaims, hduration⟩⟩ hnot
    · exact matches_of_none (hnone (by simpa using hestablished)) (.inr rfl)
  · exact matches_of_none rfl (.inl rfl)

theorem reconnectAttemptFailed_matches (now : UInt64) (h : Matches s) :
    Matches (s.reconnectAttemptFailed now).2 := by
  unfold Session.reconnectAttemptFailed
  split
  · exact h
  split
  · exact matches_of_none rfl (.inr rfl)
  split
  · rename_i hnone
    exact matches_of_none hnone (.inr rfl)
  · rename_i deadline hdeadline
    split
    · exact matches_of_none rfl (.inr rfl)
    · simp [Matches, hdeadline]

theorem transportLost_matches (now : UInt64) (h : Matches s) :
    Matches (s.transportLost now).2 := by
  unfold Session.transportLost
  split
  · exact h
  split
  · exact h
  rename_i _ hstate
  have hstate := not_not.mp hstate
  have hnone : s.reconnectDeadline = none := by
    simpa [Matches, hstate] using h
  split
  · exact matches_of_none hnone (.inr rfl)
  · simp [Matches]

theorem ensureActive_matches (now : UInt64) (h : Matches s) :
    Matches (s.ensureActive E now).2 := by
  unfold Session.ensureActive
  split
  · exact h
  split
  · exact h
  split
  · exact h
  split
  · exact matches_of_none rfl (.inr rfl)
  · exact h

theorem step_keeps (call : Call) (h : Matches s) (hinv : Inv E s) (hnot : ¬Forgets E s call) :
    Matches (step E s call).2 := by
  cases call with
  | beginConnect now => exact beginConnect_matches now h hinv hnot
  | connected now => exact connected_matches now h hnot
  | reconnectAttemptFailed now => exact reconnectAttemptFailed_matches now h
  | transportLost now => exact transportLost_matches now h
  | ensureActive now => exact ensureActive_matches now h
  | expire =>
    simp only [step, Session.expire]
    split
    · exact h
    · exact matches_of_none rfl (.inr rfl)

/-! ## Sequences of calls -/

/-- A session either has the deadline that it should have, or is stuck with an old one. -/
theorem matches_or_stuck (s : Session) (calls : List Call) (hinv : Inv E s) (h : Matches s) :
    Matches (after E s calls) ∨ Stuck (after E s calls) := by
  have hstep : ∀ (s : Session) (call : Call), Inv E s ∧ (Matches s ∨ Stuck s) →
      Inv E (step E s call).2 ∧ (Matches (step E s call).2 ∨ Stuck (step E s call).2) := by
    rintro s call ⟨hinv, hmatches | hstuck⟩
    · refine ⟨step_inv call hinv, ?_⟩
      by_cases hforgets : Forgets E s call
      · exact .inr (step_forgets call hmatches hforgets)
      · exact .inl (step_keeps call hmatches hinv hforgets)
    · rw [step_stuck call hstuck]
      exact ⟨hinv, .inr hstuck⟩
  exact (Mealy.after_always hstep s calls ⟨hinv, .inl h⟩).2

theorem after_stuck (s : Session) (calls : List Call) (h : Stuck s) : after E s calls = s := by
  induction calls with
  | nil => rfl
  | cons call calls ih => rw [after_cons, step_stuck call h, ih]

/-- A session that has the right deadline at the end has had it all along. -/
theorem matches_all_along (s : Session) (calls before : List Call) (hinv : Inv E s) (h : Matches s)
    (hend : Matches (after E s calls)) (hbefore : before <+: calls) :
    Matches (after E s before) := by
  refine (matches_or_stuck s before hinv h).resolve_right ?_
  intro hstuck
  obtain ⟨rest, rfl⟩ := hbefore
  rw [after_append, after_stuck _ rest hstuck] at hend
  exact not_matches_of_stuck hstuck hend

/-- The deadline matches the state after exactly the sequences in which no call gives up and
leaves the deadline behind. -/
theorem deadline_matches_iff (E : Encoder) (capability : SessionRequest.SessionCapability)
    (relayToken : RelayTokenMetadata) (durationPolicy : SessionDurationPolicy)
    (reconnectPolicy : ReconnectPolicy) (verification : ClientVerification) (calls : List Call) :
    let s := Session.new capability relayToken durationPolicy reconnectPolicy verification
    Matches (after E s calls) ↔
      ∀ before call, before ++ [call] <+: calls → ¬Forgets E (after E s before) call := by
  intro s
  have hinv : Inv E s := inv_new capability relayToken durationPolicy reconnectPolicy verification
  have hnew : Matches s := by simp [s, Matches, Session.new]
  have hstep : ∀ (s : Session) (call : Call), Inv E s → Matches s →
      (Matches (step E s call).2 ↔ ¬Forgets E s call) := by
    intro s call hinv hmatches
    constructor
    · intro hnext hforgets
      exact not_matches_of_stuck (step_forgets call hmatches hforgets) hnext
    · exact step_keeps call hmatches hinv
  have hall := Mealy.always_iff (fun s call h => step_inv call h) hstep s calls hinv hnew
  constructor
  · intro hend
    exact hall.mp fun before hbefore => matches_all_along s calls before hinv hnew hend hbefore
  · intro hnot
    exact hall.mpr hnot calls (List.prefix_refl calls)

/-- A session that is lost in the tenth second and tries to come back a minute and a second
later is expired and keeps its deadline. -/
theorem expired_with_deadline :
    let s := shortSession encoder (Ed25519.sign seed) (verifyingKey seed)
    let calls : List Call := [.transportLost 2010, .beginConnect 2071]
    (after encoder s
        ([Call.beginConnect 2000, Call.connected 2000] ++ calls)).state = .expired ∧
      (after encoder s
        ([Call.beginConnect 2000, Call.connected 2000] ++ calls)).reconnectDeadline = some 2070 ∧
      ¬Matches (after encoder s
        ([Call.beginConnect 2000, Call.connected 2000] ++ calls)) := by
  intro s calls
  have hconnects := shortSession_connects encoder _ _ (matching_keys seed)
  rw [after_append, hconnects]
  have hwithin : Session.sessionDurationExpired
      { s with state := .connected, establishedAt := some 2000 } 2010 = false := by decide
  have hdeadline : saturatingAdd 2010 s.reconnectPolicy.window = 2070 := by decide
  have hlost : step encoder
      { s with state := .connected, establishedAt := some 2000 } (.transportLost 2010) =
        (.ok (), { s with
          state := .reconnecting, establishedAt := some 2000, reconnectDeadline := some 2070 }) := by
    simp [step, Session.transportLost, hwithin, hdeadline]
  have hlate : Session.canReconnect { s with
      state := .reconnecting, establishedAt := some 2000, reconnectDeadline := some 2070 } 2071 =
        false := rfl
  have hexpired : after encoder
      { s with state := .connected, establishedAt := some 2000 } calls =
        { s with
          state := .expired, establishedAt := some 2000, reconnectDeadline := some 2070 } := by
    rw [after_cons, hlost, after_cons, after_nil]
    simp only [step, Session.beginConnect, hlate, Bool.not_false, if_true]
  rw [hexpired]
  exact ⟨rfl, rfl, not_matches_of_stuck ⟨rfl, rfl⟩⟩

end ReconnectDeadline
