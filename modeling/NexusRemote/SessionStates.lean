import NexusRemote.Mealy
import NexusRemote.UnixTime

/-!
# The session state machine (`crates/nexus-session/src/state.rs`)

A session moves along a fixed table of transitions, and may always stay where it
is. Two of its calls keep times beside the state: when a lost connection may come
back, and since when the session is established. Instants are those of the
monotonic clock, which ends at `limit`; adding a duration beyond it panics.
-/

namespace SessionStates

open UnixTime

abbrev Instant := Nat

structure ReconnectPolicy where
  window : Duration
  deriving DecidableEq

structure SessionDurationPolicy where
  maxDuration : Duration
  deriving DecidableEq

inductive SessionPolicyError where
  | zeroReconnectWindow
  | zeroSessionDuration
  deriving DecidableEq

def ReconnectPolicy.new (window : Duration) : Except SessionPolicyError ReconnectPolicy :=
  if window = 0 then .error .zeroReconnectWindow else .ok ⟨window⟩

def SessionDurationPolicy.new (maxDuration : Duration) :
    Except SessionPolicyError SessionDurationPolicy :=
  if maxDuration = 0 then .error .zeroSessionDuration else .ok ⟨maxDuration⟩

inductive SessionState where
  | requested
  | authorized
  | connecting
  | established
  | active
  | disconnected
  | ended
  | denied
  | expired
  | failed
  | revoked
  deriving DecidableEq, Repr

namespace SessionState

def canTransitionTo (state next : SessionState) : Bool :=
  match state with
  | .requested => next ∈ [authorized, denied, expired, failed]
  | .authorized => next ∈ [connecting, denied, expired, revoked]
  | .connecting => next ∈ [established, failed, expired, revoked]
  | .established => next ∈ [active, failed, revoked]
  | .active => next ∈ [disconnected, revoked, ended, expired]
  | .disconnected => next ∈ [connecting, ended]
  | .ended | .denied | .expired | .failed | .revoked => false

/-- The states that end a session. -/
def isFinal (state : SessionState) : Prop :=
  state ∈ [ended, denied, expired, failed, revoked]

instance (state : SessionState) : Decidable state.isFinal :=
  inferInstanceAs (Decidable (state ∈ [ended, denied, expired, failed, revoked]))

end SessionState

structure InvalidTransition where
  source : SessionState
  target : SessionState
  deriving DecidableEq, Repr

structure SessionStateMachine where
  state : SessionState
  reconnectDeadline : Option Instant
  establishedAt : Option Instant
  maxDuration : Option Duration
  deriving DecidableEq

/-- What a call returns, or `none` if it panics. -/
abbrev Outcome := Option (Except InvalidTransition Unit)

namespace SessionStateMachine

def new : SessionStateMachine := ⟨.requested, none, none, none⟩

/-- The machine in its next state; only a disconnected one has a deadline to keep. -/
def moved (m : SessionStateMachine) (next : SessionState) : SessionStateMachine :=
  { m with
    state := next
    reconnectDeadline := if next ≠ .disconnected then none else m.reconnectDeadline }

def transition (m : SessionStateMachine) (next : SessionState) :
    Except InvalidTransition Unit × SessionStateMachine :=
  if next = m.state ∨ m.state.canTransitionTo next then (.ok (), m.moved next)
  else (.error ⟨m.state, next⟩, m)

def markDisconnected (limit : Instant) (m : SessionStateMachine) (policy : ReconnectPolicy)
    (now : Instant) : Outcome × SessionStateMachine :=
  match m.transition .disconnected with
  | (.error e, m) => (some (.error e), m)
  | (.ok (), m) =>
    -- the sum panics when the state has already changed
    if now + policy.window ≤ limit then
      (some (.ok ()), { m with reconnectDeadline := some (now + policy.window) })
    else (none, m)

def reconnectAllowed (m : SessionStateMachine) (now : Instant) : Bool :=
  m.state = .disconnected && m.reconnectDeadline.any fun deadline => now ≤ deadline

def markEstablishedAt (m : SessionStateMachine) (now : Instant) (policy : SessionDurationPolicy) :
    Outcome × SessionStateMachine :=
  match m.transition .established with
  | (.error e, m) => (some (.error e), m)
  | (.ok (), m) =>
    (some (.ok ()),
      if m.establishedAt.isNone then
        { m with establishedAt := some now, maxDuration := some policy.maxDuration }
      else m)

def durationExpired (m : SessionStateMachine) (now : Instant) : Bool :=
  (m.state = .established || m.state = .active) &&
    match m.establishedAt, m.maxDuration with
    | some since, some max => decide (now - since ≥ max)
    | _, _ => false

end SessionStateMachine

inductive Call where
  | transition (next : SessionState)
  | markDisconnected (policy : ReconnectPolicy) (now : Instant)
  | markEstablishedAt (now : Instant) (policy : SessionDurationPolicy)
  deriving DecidableEq

/-- The time that a call is given. -/
def Call.now : Call → Option Instant
  | .transition _ => none
  | .markDisconnected _ now | .markEstablishedAt now _ => some now

def step (limit : Instant) (m : SessionStateMachine) : Call → Outcome × SessionStateMachine
  | .transition next => (some (m.transition next).1, (m.transition next).2)
  | .markDisconnected policy now => m.markDisconnected limit policy now
  | .markEstablishedAt now policy => m.markEstablishedAt now policy

/-- A fresh machine after some calls. -/
def after (limit : Instant) (calls : List Call) : SessionStateMachine :=
  Mealy.after (step limit) .new calls

/-! ## What a call can do -/

/-- The effects of a call. -/
inductive Effect (limit : Instant) (m : SessionStateMachine) :
    Call → Outcome × SessionStateMachine → Prop where
  | refused {call : Call} (e : InvalidTransition) : Effect limit m call (some (.error e), m)
  | moved (next : SessionState) (allowed : next = m.state ∨ m.state.canTransitionTo next) :
      Effect limit m (.transition next) (some (.ok ()), m.moved next)
  | lost (policy : ReconnectPolicy) (now : Instant)
      (allowed : .disconnected = m.state ∨ m.state.canTransitionTo .disconnected)
      (fits : now + policy.window ≤ limit) :
      Effect limit m (.markDisconnected policy now) (some (.ok ()),
        { m with state := .disconnected, reconnectDeadline := some (now + policy.window) })
  | panicked (policy : ReconnectPolicy) (now : Instant)
      (allowed : .disconnected = m.state ∨ m.state.canTransitionTo .disconnected)
      (overflows : ¬now + policy.window ≤ limit) :
      Effect limit m (.markDisconnected policy now) (none, { m with state := .disconnected })
  | established (now : Instant) (policy : SessionDurationPolicy)
      (allowed : .established = m.state ∨ m.state.canTransitionTo .established)
      (first : m.establishedAt = none) :
      Effect limit m (.markEstablishedAt now policy) (some (.ok ()),
        { state := .established, reconnectDeadline := none, establishedAt := some now,
          maxDuration := some policy.maxDuration })
  | reestablished (now : Instant) (policy : SessionDurationPolicy) (since : Instant)
      (allowed : .established = m.state ∨ m.state.canTransitionTo .established)
      (again : m.establishedAt = some since) :
      Effect limit m (.markEstablishedAt now policy) (some (.ok ()),
        { m with state := .established, reconnectDeadline := none })

theorem transition_allowed (m : SessionStateMachine) (next : SessionState)
    (h : next = m.state ∨ m.state.canTransitionTo next) :
    m.transition next = (.ok (), m.moved next) := by
  rw [SessionStateMachine.transition, if_pos h]

theorem transition_refused (m : SessionStateMachine) (next : SessionState)
    (h : ¬(next = m.state ∨ m.state.canTransitionTo next)) :
    m.transition next = (.error ⟨m.state, next⟩, m) := by
  rw [SessionStateMachine.transition, if_neg h]

theorem step_effect (limit : Instant) (m : SessionStateMachine) (call : Call) :
    Effect limit m call (step limit m call) := by
  cases call with
  | transition next =>
    by_cases h : next = m.state ∨ m.state.canTransitionTo next
    · rw [step, transition_allowed m next h]
      exact .moved next h
    · rw [step, transition_refused m next h]
      exact .refused _
  | markDisconnected policy now =>
    rw [step, SessionStateMachine.markDisconnected]
    by_cases h : .disconnected = m.state ∨ m.state.canTransitionTo .disconnected
    · rw [transition_allowed m _ h]
      by_cases hfits : now + policy.window ≤ limit
      · simp only [hfits, if_true]
        exact .lost policy now h hfits
      · simp only [hfits, if_false]
        exact .panicked policy now h hfits
    · rw [transition_refused m _ h]
      exact .refused _
  | markEstablishedAt now policy =>
    rw [step, SessionStateMachine.markEstablishedAt]
    by_cases h : .established = m.state ∨ m.state.canTransitionTo .established
    · rw [transition_allowed m _ h]
      cases hfirst : m.establishedAt with
      | none =>
        simp only [SessionStateMachine.moved, hfirst]
        exact .established now policy h hfirst
      | some since =>
        have hagain : ¬(m.moved .established).establishedAt.isNone = true := by
          simp [SessionStateMachine.moved, hfirst]
        simp only [hagain]
        exact .reestablished now policy since h hfirst
    · rw [transition_refused m _ h]
      exact .refused _

/-! ## Invariants of a machine -/

theorem canTransitionTo_final (state next : SessionState) (h : state.isFinal) :
    state.canTransitionTo next = false := by
  revert h
  cases state <;> simp [SessionState.isFinal, SessionState.canTransitionTo]

/-- What holds of a machine at any time. -/
structure Sound (m : SessionStateMachine) : Prop where
  together : m.establishedAt.isSome = m.maxDuration.isSome
  deadline : m.reconnectDeadline ≠ none → m.state = .disconnected

section Step

variable {limit : Instant} {m : SessionStateMachine} {call : Call}
  {r : Outcome × SessionStateMachine}

theorem Effect.sound (heffect : Effect limit m call r) (h : Sound m) : Sound r.2 := by
  cases heffect with
  | refused e => exact h
  | moved next allowed =>
    refine ⟨h.together, ?_⟩
    intro hdeadline
    simp only [SessionStateMachine.moved] at hdeadline ⊢
    by_contra hnext
    rw [if_pos hnext] at hdeadline
    exact hdeadline rfl
  | lost | panicked => exact ⟨h.together, fun _ => rfl⟩
  | established => exact ⟨rfl, fun hdeadline => absurd rfl hdeadline⟩
  | reestablished => exact ⟨h.together, fun hdeadline => absurd rfl hdeadline⟩

theorem Effect.final (heffect : Effect limit m call r) (h : m.state.isFinal) :
    r.2.state = m.state := by
  have hstays : ∀ next, next = m.state ∨ m.state.canTransitionTo next = true → next = m.state := by
    intro next hallowed
    rw [canTransitionTo_final m.state next h] at hallowed
    simpa using hallowed
  cases heffect with
  | refused e => rfl
  | moved next allowed => exact hstays next allowed
  | lost policy now allowed | panicked policy now allowed => exact hstays _ allowed
  | established now policy allowed | reestablished now policy since allowed => exact hstays _ allowed

/-- The time of establishment and the limit that came with it are kept. -/
theorem Effect.established_kept {since : Instant} {max : Duration} (heffect : Effect limit m call r)
    (h : m.establishedAt = some since ∧ m.maxDuration = some max) :
    r.2.establishedAt = some since ∧ r.2.maxDuration = some max := by
  cases heffect with
  | refused | moved | lost | panicked | reestablished => exact h
  | established now policy allowed first =>
    rw [first] at h
    cases h.1

theorem Effect.error_unchanged {e : InvalidTransition} (heffect : Effect limit m call r)
    (h : r.1 = some (.error e)) : r.2 = m := by
  cases heffect with
  | refused => rfl
  | moved | lost | established | reestablished | panicked => cases h

end Step

theorem after_sound (limit : Instant) (calls : List Call) : Sound (after limit calls) :=
  Mealy.after_always (fun m call h => (step_effect limit m call).sound h) .new calls
    ⟨rfl, fun hdeadline => absurd rfl hdeadline⟩

theorem after_append (limit : Instant) (before rest : List Call) :
    after limit (before ++ rest) = Mealy.after (step limit) (after limit before) rest :=
  Mealy.after_append _ _ _ _

/-- All that is promised of a sequence of calls on a fresh machine. -/
structure Invariants (limit : Instant) (calls : List Call) : Prop where
  final : ∀ before rest, calls = before ++ rest → (after limit before).state.isFinal →
    (after limit calls).state = (after limit before).state
  together : (after limit calls).establishedAt.isSome = (after limit calls).maxDuration.isSome
  once : ∀ before rest since max, calls = before ++ rest →
    (after limit before).establishedAt = some since → (after limit before).maxDuration = some max →
    (after limit calls).establishedAt = some since ∧ (after limit calls).maxDuration = some max
  deadline : (after limit calls).reconnectDeadline ≠ none →
    (after limit calls).state = .disconnected
  unchanged : ∀ call e, (step limit (after limit calls) call).1 = some (.error e) →
    (step limit (after limit calls) call).2 = after limit calls

/-- Whatever is called with whatever arguments. -/
theorem machine_invariants (limit : Instant) (calls : List Call) : Invariants limit calls := by
  have hsound := after_sound limit calls
  refine ⟨?_, hsound.together, ?_, hsound.deadline, ?_⟩
  · rintro before rest rfl hfinal
    rw [after_append]
    have hstays : ∀ m call, m.state = (after limit before).state →
        (step limit m call).2.state = (after limit before).state := by
      intro m call hm
      rw [(step_effect limit m call).final (hm ▸ hfinal), hm]
    exact Mealy.after_always hstays _ rest rfl
  · rintro before rest since max rfl hsince hmax
    rw [after_append]
    exact Mealy.after_always (fun m call h => (step_effect limit m call).established_kept h)
      _ rest ⟨hsince, hmax⟩
  · intro call e herror
    exact (step_effect limit _ call).error_unchanged herror

/-! ## Expiring a session that has lasted too long -/

/-- A session that has lasted too long can be expired exactly when it is no longer in the
state in which it was established. -/
theorem expire_overlong_iff (limit : Instant) (calls : List Call) (now : Instant) :
    ((after limit calls).durationExpired now = true →
        ((after limit calls).transition .expired).1 = .ok ()) ↔
      ¬((after limit calls).durationExpired now = true ∧
        (after limit calls).state = .established) := by
  generalize after limit calls = m
  constructor
  · rintro hexpires ⟨hover, hstate⟩
    have hok := hexpires hover
    have hno : ¬(SessionState.expired = m.state ∨ m.state.canTransitionTo .expired = true) := by
      rw [hstate]
      decide
    rw [transition_refused m _ hno] at hok
    cases hok
  · intro hnot hover
    have hstate : m.state = .active := by
      simp only [SessionStateMachine.durationExpired, Bool.and_eq_true, Bool.or_eq_true,
        decide_eq_true_eq] at hover
      exact hover.1.resolve_left fun hestablished =>
        hnot ⟨by simp [SessionStateMachine.durationExpired, hover], hestablished⟩
    rw [transition_allowed m .expired (.inr (by rw [hstate]; rfl))]

/-- A session of at most half a minute that is not taken up. -/
def idleSession : List Call :=
  [.transition .authorized, .transition .connecting, .markEstablishedAt 0 ⟨fromSecs 30⟩]

/-- After a minute it has lasted too long, and cannot be expired. -/
theorem established_cannot_expire :
    (after (2 ^ 64) idleSession).durationExpired (fromSecs 60) = true ∧
      ((after (2 ^ 64) idleSession).transition .expired).1 =
        .error ⟨.established, .expired⟩ := by
  decide

/-! ## The deadline of a disconnection -/

/-- The clock does not run backwards. -/
def Nondecreasing (calls : List Call) : Prop := (calls.filterMap Call.now).Pairwise (· ≤ ·)

instance (calls : List Call) : Decidable (Nondecreasing calls) :=
  inferInstanceAs (Decidable ((calls.filterMap Call.now).Pairwise (· ≤ ·)))

/-- The call after `before` takes the machine to `disconnected`, where the calls of `stay`
leave it. -/
structure Stays (limit : Instant) (before : List Call) (entry : Call) (stay : List Call) : Prop where
  enters : (after limit before).state ≠ .disconnected
  stays : ∀ mid, mid <+: stay → (after limit (before ++ entry :: mid)).state = .disconnected

/-- A machine that stays disconnected may not come back after the deadline that it was given
when it was lost. -/
def DeadlineFixed (limit : Instant) (calls : List Call) : Prop :=
  ∀ before policy lost stay, before ++ Call.markDisconnected policy lost :: stay <+: calls →
    Stays limit before (.markDisconnected policy lost) stay →
    ∀ now, (∀ call ∈ before ++ Call.markDisconnected policy lost :: stay,
        ∀ t ∈ call.now, t ≤ now) →
      (after limit (before ++ Call.markDisconnected policy lost :: stay)).reconnectAllowed now = true →
      now ≤ lost + policy.window

/-- No further report that the connection is lost carries a later deadline. -/
def NotExtended (limit : Instant) (calls : List Call) : Prop :=
  ∀ before policy lost stay policy' lost',
    before ++ Call.markDisconnected policy lost :: (stay ++ [Call.markDisconnected policy' lost']) <+:
      calls →
    Stays limit before (.markDisconnected policy lost) stay →
    lost' + policy'.window ≤ limit → lost' + policy'.window ≤ lost + policy.window

theorem after_concat (limit : Instant) (calls : List Call) (call : Call) :
    after limit (calls ++ [call]) = (step limit (after limit calls) call).2 :=
  Mealy.after_concat _ _ _ _

/-- The calls up to one of the stay, with that call in front. -/
theorem after_entry_concat (limit : Instant) (before stay : List Call) (entry call : Call) :
    after limit (before ++ entry :: (stay ++ [call])) =
      (step limit (after limit (before ++ entry :: stay)) call).2 := by
  rw [← after_concat, List.append_assoc, List.cons_append]

theorem Stays.init {limit : Instant} {before stay : List Call} {entry call : Call}
    (h : Stays limit before entry (stay ++ [call])) : Stays limit before entry stay :=
  ⟨h.enters, fun mid hmid => h.stays mid (hmid.trans (List.prefix_append stay [call]))⟩

theorem allowed_iff (m : SessionStateMachine) (now : Instant) :
    m.reconnectAllowed now = true ↔
      m.state = .disconnected ∧ ∃ deadline ∈ m.reconnectDeadline, now ≤ deadline := by
  simp [SessionStateMachine.reconnectAllowed, Option.any_eq_true]

/-- The report that enters the state sets the deadline, or none. -/
theorem entry_deadline (limit : Instant) (before : List Call) (policy : ReconnectPolicy)
    (lost deadline : Instant) (h : Stays limit before (.markDisconnected policy lost) [])
    (hdeadline : (after limit (before ++ [Call.markDisconnected policy lost])).reconnectDeadline =
      some deadline) : deadline = lost + policy.window := by
  have hentered := h.stays [] (List.prefix_refl [])
  rw [after_concat] at hdeadline hentered
  have heffect := step_effect limit (after limit before) (.markDisconnected policy lost)
  generalize step limit (after limit before) (.markDisconnected policy lost) = r
    at heffect hdeadline hentered
  cases heffect with
  | refused e => exact absurd hentered h.enters
  | lost => exact (Option.some.inj hdeadline).symm
  | panicked =>
    -- nothing was left to keep
    have hold := (after_sound limit before).deadline (by rw [hdeadline]; simp)
    exact absurd hold h.enters

/-- While nothing extends it the deadline is that of the entry, at most. -/
theorem stay_deadline (limit : Instant) (before stay : List Call) (policy : ReconnectPolicy)
    (lost deadline : Instant) (h : Stays limit before (.markDisconnected policy lost) stay)
    (hextended : ∀ mid policy' lost', mid ++ [Call.markDisconnected policy' lost'] <+: stay →
      lost' + policy'.window ≤ limit → lost' + policy'.window ≤ lost + policy.window)
    (hdeadline : (after limit (before ++ Call.markDisconnected policy lost :: stay)).reconnectDeadline =
      some deadline) : deadline ≤ lost + policy.window := by
  induction stay using List.reverseRecOn generalizing deadline with
  | nil => exact (entry_deadline limit before policy lost deadline h hdeadline).le
  | append_singleton stay call ih =>
    have hbefore : ∀ deadline,
        (after limit (before ++ Call.markDisconnected policy lost :: stay)).reconnectDeadline =
          some deadline → deadline ≤ lost + policy.window := by
      intro deadline hdeadline
      refine ih deadline h.init ?_ hdeadline
      intro mid policy' lost' hmid
      exact hextended mid policy' lost' (hmid.trans (List.prefix_append stay [call]))
    have hstate := h.stays _ (List.prefix_refl (stay ++ [call]))
    rw [after_entry_concat] at hdeadline hstate
    have heffect := step_effect limit
      (after limit (before ++ Call.markDisconnected policy lost :: stay)) call
    generalize step limit (after limit (before ++ Call.markDisconnected policy lost :: stay)) call = r
      at heffect hdeadline hstate
    cases heffect with
    | refused | panicked => exact hbefore deadline hdeadline
    | moved next allowed =>
      obtain rfl : next = .disconnected := hstate
      exact hbefore deadline hdeadline
    | lost policy' lost' allowed fits =>
      obtain rfl := Option.some.inj hdeadline
      exact hextended stay policy' lost' (List.prefix_refl _) fits
    | established | reestablished => cases hstate

/-- A further report sets the deadline anew. -/
theorem lost_again (limit : Instant) (m : SessionStateMachine) (policy : ReconnectPolicy)
    (now : Instant) (hstate : m.state = .disconnected) (hfits : now + policy.window ≤ limit) :
    (step limit m (.markDisconnected policy now)).2 =
      { m with state := .disconnected, reconnectDeadline := some (now + policy.window) } := by
  rw [step, SessionStateMachine.markDisconnected, transition_allowed m _ (.inl hstate.symm)]
  simp only [hfits, if_true]
  rfl

/-- In a run that ends at a time, that time is the latest. -/
theorem times_le (calls : List Call) (last : Call) (now : Instant) (hlast : last.now = some now)
    (hclock : Nondecreasing (calls ++ [last])) :
    ∀ call ∈ calls ++ [last], ∀ t ∈ call.now, t ≤ now := by
  rw [Nondecreasing, List.filterMap_append, List.pairwise_append] at hclock
  intro call hcall t ht
  rcases List.mem_append.mp hcall with hearlier | hsame
  · have hmem : t ∈ calls.filterMap Call.now := List.mem_filterMap.mpr ⟨call, hearlier, ht⟩
    exact hclock.2.2 t hmem now (by simp [hlast])
  · rw [List.mem_singleton.mp hsame, hlast] at ht
    exact (Option.some.inj ht).ge

/-- A machine that stays disconnected keeps its deadline in exactly the runs in which no
later report extends it. -/
theorem deadline_fixed_iff (limit : Instant) (calls : List Call) (hclock : Nondecreasing calls) :
    DeadlineFixed limit calls ↔ NotExtended limit calls := by
  constructor
  · intro hfixed before policy lost stay policy' lost' hrun hstays hfits
    have hlost := lost_again limit _ policy' lost' (hstays.stays stay (List.prefix_refl stay)) hfits
    rw [← after_entry_concat] at hlost
    -- the later deadline, at its last moment
    refine hfixed before policy lost _ hrun ⟨hstays.enters, ?_⟩ (lost' + policy'.window) ?_ ?_
    · intro mid hmid
      rcases List.prefix_concat_iff.mp hmid with rfl | hearlier
      · rw [hlost]
      · exact hstays.stays mid hearlier
    · intro call hcall t ht
      have hpart : Nondecreasing (before ++ Call.markDisconnected policy lost :: stay ++
          [Call.markDisconnected policy' lost']) := by
        rw [List.append_assoc, List.cons_append]
        exact List.Pairwise.sublist (hrun.sublist.filterMap Call.now) hclock
      have hle := times_le _ _ lost' rfl hpart call (by simpa using hcall) t ht
      exact hle.trans (Nat.le_add_right lost' policy'.window)
    · rw [allowed_iff, hlost]
      exact ⟨rfl, _, rfl, Nat.le_refl _⟩
  · intro hextended before policy lost stay hrun hstays now _ hallowed
    obtain ⟨-, deadline, hdeadline, hnow⟩ := (allowed_iff _ now).mp hallowed
    refine hnow.trans (stay_deadline limit before stay policy lost deadline hstays ?_ hdeadline)
    intro mid policy' lost' hmid hfits
    refine hextended before policy lost mid policy' lost' ?_ ?_ hfits
    · have hpart : Call.markDisconnected policy lost :: (mid ++ [.markDisconnected policy' lost']) <+:
          Call.markDisconnected policy lost :: stay := List.cons_prefix_cons.mpr ⟨rfl, hmid⟩
      exact ((List.prefix_append_right_inj before).mpr hpart).trans hrun
    · refine ⟨hstays.enters, ?_⟩
      intro mid' hmid'
      exact hstays.stays mid' (hmid'.trans ((List.prefix_append mid _).trans hmid))

/-- A session that becomes active and is lost. -/
def lost : List Call :=
  [.transition .authorized, .transition .connecting, .markEstablishedAt 0 ⟨fromSecs 60⟩,
    .transition .active, .markDisconnected ⟨fromSecs 5⟩ (fromSecs 10)]

/-- It has until the fifteenth second; it is reported lost again four seconds later, and in the
eighteenth it may still come back. -/
theorem deadline_extended :
    Nondecreasing (lost ++ [Call.markDisconnected ⟨fromSecs 5⟩ (fromSecs 14)]) ∧
      (after (2 ^ 64) (lost ++ [Call.markDisconnected ⟨fromSecs 5⟩ (fromSecs 14)])).reconnectAllowed
        (fromSecs 18) = true ∧
      ¬DeadlineFixed (2 ^ 64) (lost ++ [Call.markDisconnected ⟨fromSecs 5⟩ (fromSecs 14)]) := by
  refine ⟨by decide, by decide, ?_⟩
  intro hfixed
  have hlate := hfixed (lost.take 4) ⟨fromSecs 5⟩ (fromSecs 10)
    [.markDisconnected ⟨fromSecs 5⟩ (fromSecs 14)] (by decide) ⟨by decide, ?_⟩ (fromSecs 18)
    (by decide) (by decide)
  · exact absurd hlate (by decide)
  · intro mid hmid
    cases mid with
    | nil => decide
    | cons call mid =>
      obtain ⟨rfl, hnil⟩ := List.cons_prefix_cons.mp hmid
      rw [List.prefix_nil.mp hnil]
      decide

/-- A second report that gives no more time. -/
theorem deadline_fixed_iff_once :
    let calls := lost ++ [Call.markDisconnected ⟨fromSecs 1⟩ (fromSecs 14)]
    Nondecreasing calls ∧ NotExtended (2 ^ 64) calls ∧ DeadlineFixed (2 ^ 64) calls := by
  intro calls
  have hdeadline : ∀ call ∈ calls, ∀ policy since, call = .markDisconnected policy since →
      since + policy.window = fromSecs 15 := by
    simp only [calls, lost, List.cons_append, List.nil_append, List.forall_mem_cons]
    -- Only the last two calls are reports.
    refine ⟨?_, ?_, ?_, ?_, ?_, ?_, by simp⟩ <;> rintro _ _ ⟨⟩
    all_goals rfl
  have hsame : NotExtended (2 ^ 64) calls := by
    intro before policy since stay policy' since' hrun _ _
    rw [hdeadline _ (hrun.subset (by simp)) policy' since' rfl,
      hdeadline _ (hrun.subset (by simp)) policy since rfl]
  exact ⟨by decide, hsame, (deadline_fixed_iff (2 ^ 64) calls (by decide)).mpr hsame⟩

end SessionStates
