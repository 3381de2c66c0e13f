import NexusRemote.Mealy
import NexusRemote.Tables

/-!
# Calls that run at the same time on one database

A call works on the database as it was when the call began, and returns later;
other calls may return in between. What a call writes is committed only if
nothing has been committed since the call began. If something has, the engine
refuses one of its statements, and the call returns without having written.
-/

namespace Snapshots

variable {σ κ φ ρ : Type}

/-- What a call replies and what it commits, if it does, on the database that it has seen and with
the engine's answers to its statements. -/
structure Engine (σ κ φ ρ : Type) where
  exec : κ → φ → σ → ρ × Option σ
  /-- The answers to a call that is behind the last commit. -/
  refused : φ → φ
  refused_writes : ∀ call answers seen, (exec call (refused answers) seen).2 = none

/-- A call that has not returned. The version is the number of commits before it began. -/
structure Pending (σ κ : Type) where
  call : κ
  seen : σ
  version : Nat

structure Store (σ κ : Type) where
  db : σ
  version : Nat
  pending : Std.TreeMap Nat (Pending σ κ)

/-- No call is under way. -/
def Store.quiet (db : σ) : Store σ κ := ⟨db, 0, ∅⟩

/-- A client that begins a call drops the one that it has under way. -/
inductive Event (κ φ : Type) where
  | begins (client : Nat) (call : κ)
  | returns (client : Nat) (answers : φ)

namespace Engine

variable (engine : Engine σ κ φ ρ)

def answer (s : Store σ κ) (p : Pending σ κ) (answers : φ) : ρ × Option σ :=
  engine.exec p.call (if p.version = s.version then answers else engine.refused answers) p.seen

def step (s : Store σ κ) : Event κ φ → Option (κ × ρ) × Store σ κ
  | .begins client call =>
    (none, { s with pending := s.pending.insert client ⟨call, s.db, s.version⟩ })
  | .returns client answers =>
    match s.pending[client]? with
    | none => (none, s)
    | some p =>
      match engine.answer s p answers with
      | (reply, none) => (some (p.call, reply), { s with pending := s.pending.erase client })
      | (reply, some db) => (some (p.call, reply), ⟨db, s.version + 1, s.pending.erase client⟩)

/-- The calls that have returned, with their replies. -/
def replies (s : Store σ κ) (events : List (Event κ φ)) : List (κ × ρ) :=
  (Mealy.trace engine.step s events).reduceOption

/-- Everything that an event can do. -/
inductive Outcome (s : Store σ κ) : Event κ φ → Option (κ × ρ) → Store σ κ → Prop
  | began (client call) :
    Outcome s (.begins client call) none
      { s with pending := s.pending.insert client ⟨call, s.db, s.version⟩ }
  | idle (client answers) (unknown : s.pending[client]? = none) :
    Outcome s (.returns client answers) none s
  | failed (client answers) (p : Pending σ κ) (reply : ρ) (found : s.pending[client]? = some p)
      (answer : engine.answer s p answers = (reply, none)) :
    Outcome s (.returns client answers) (some (p.call, reply))
      { s with pending := s.pending.erase client }
  | committed (client answers) (p : Pending σ κ) (reply : ρ) (db : σ)
      (found : s.pending[client]? = some p) (current : p.version = s.version)
      (answer : engine.exec p.call answers p.seen = (reply, some db)) :
    Outcome s (.returns client answers) (some (p.call, reply))
      ⟨db, s.version + 1, s.pending.erase client⟩

/-- A call that is behind commits nothing. -/
theorem current_of_commits (s : Store σ κ) (p : Pending σ κ) (answers : φ) (reply : ρ) (db : σ)
    (h : engine.answer s p answers = (reply, some db)) :
    p.version = s.version ∧ engine.exec p.call answers p.seen = (reply, some db) := by
  unfold answer at h
  split at h
  · rename_i hcurrent
    exact ⟨hcurrent, h⟩
  · have hnone := engine.refused_writes p.call answers p.seen
    rw [h] at hnone
    cases hnone

theorem step_outcome (s : Store σ κ) (event : Event κ φ) :
    engine.Outcome s event (engine.step s event).1 (engine.step s event).2 := by
  cases event with
  | begins client call => exact .began client call
  | returns client answers =>
    cases hfound : s.pending[client]? with
    | none =>
      simp only [step, hfound]
      exact .idle client answers hfound
    | some p =>
      rcases hanswer : engine.answer s p answers with ⟨reply, _ | db⟩
      · simp only [step, hfound, hanswer]
        exact .failed client answers p reply hfound hanswer
      · obtain ⟨hcurrent, hexec⟩ := engine.current_of_commits s p answers reply db hanswer
        simp only [step, hfound, hanswer]
        exact .committed client answers p reply db hfound hcurrent hexec

/-- A reply is that of a call under way. -/
theorem reply_iff (s : Store σ κ) (event : Event κ φ) (call : κ) (reply : ρ) :
    (engine.step s event).1 = some (call, reply) ↔
      ∃ client answers p, event = .returns client answers ∧ s.pending[client]? = some p ∧
        p.call = call ∧ (engine.answer s p answers).1 = reply := by
  cases event with
  | begins client call' => simp [step]
  | returns client answers =>
    cases hfound : s.pending[client]? with
    | none => simp [step, hfound]
    | some p =>
      rcases hanswer : engine.answer s p answers with ⟨reply', _ | db⟩
      · simp [step, hfound, hanswer]
      · simp [step, hfound, hanswer]

/-! ## What a call has seen

It is the database as it was after a first part of the run.
-/

/-- `t` comes after `s`, and as long as the version is the same, the database is. -/
def Later (s t : Store σ κ) : Prop := s.version ≤ t.version ∧ (s.version = t.version → s.db = t.db)

theorem step_later (s t : Store σ κ) (event : Event κ φ) (h : Later s t) :
    Later s (engine.step t event).2 := by
  generalize hstep : engine.step t event = next
  have houtcome := engine.step_outcome t event
  rw [hstep] at houtcome
  obtain ⟨output, u⟩ := next
  cases houtcome with
  | began => exact h
  | idle => exact h
  | failed => exact h
  | committed =>
    obtain ⟨hle, -⟩ := h
    refine ⟨Nat.le_succ_of_le hle, ?_⟩
    intro heq
    simp only at heq
    omega

theorem after_later (s : Store σ κ) (events : List (Event κ φ)) :
    Later s (Mealy.after engine.step s events) :=
  Mealy.after_always (engine.step_later s) s events ⟨le_rfl, fun _ => rfl⟩

/-- The call has seen what a first part of the run had committed. -/
def SeenAfter (s : Store σ κ) (events : List (Event κ φ)) (p : Pending σ κ) : Prop :=
  ∃ earlier, earlier <+: events ∧ p.seen = (Mealy.after engine.step s earlier).db ∧
    p.version = (Mealy.after engine.step s earlier).version

theorem SeenAfter.append {s : Store σ κ} {events : List (Event κ φ)} {p : Pending σ κ}
    (h : engine.SeenAfter s events p) (more : List (Event κ φ)) :
    engine.SeenAfter s (events ++ more) p := by
  obtain ⟨earlier, hearlier, hseen⟩ := h
  exact ⟨earlier, hearlier.trans (List.prefix_append events more), hseen⟩

theorem pending_seen (db : σ) (events : List (Event κ φ)) :
    Tables.All (fun _ p => engine.SeenAfter (.quiet db) events p)
      (Mealy.after engine.step (.quiet db) events).pending := by
  induction events using List.reverseRecOn with
  | nil =>
    intro client p hp
    simp [Store.quiet] at hp
  | append_singleton events event ih =>
    rw [Mealy.after_concat]
    generalize hs : Mealy.after engine.step (.quiet db) events = s at ih ⊢
    have hkept := ih.mono fun _ p h => SeenAfter.append engine h [event]
    have houtcome := engine.step_outcome s event
    generalize (engine.step s event).1 = output, (engine.step s event).2 = t at houtcome ⊢
    cases houtcome with
    | began client call =>
      refine hkept.insert client _ ?_
      exact ⟨events, List.prefix_append events _, by rw [hs], by rw [hs]⟩
    | idle => exact hkept
    | failed => exact hkept.erase _
    | committed => exact hkept.erase _

/-- A call that is not behind has seen the database as it is. -/
theorem seen_current (db : σ) (events : List (Event κ φ)) (client : Nat) (p : Pending σ κ)
    (hp : (Mealy.after engine.step (.quiet db) events).pending[client]? = some p)
    (hcurrent : p.version = (Mealy.after engine.step (.quiet db) events).version) :
    p.seen = (Mealy.after engine.step (.quiet db) events).db := by
  obtain ⟨earlier, ⟨rest, rfl⟩, hseen, hversion⟩ := engine.pending_seen db events client p hp
  rw [Mealy.after_append] at hcurrent ⊢
  rw [hseen]
  exact (engine.after_later _ rest).2 (hversion.symm.trans hcurrent)

/-! ## One after the other -/

theorem replies_concat (s : Store σ κ) (events : List (Event κ φ)) (event : Event κ φ) :
    engine.replies s (events ++ [event]) =
      engine.replies s events ++
        (engine.step (Mealy.after engine.step s events) event).1.toList := by
  unfold replies
  rw [Mealy.trace_concat, List.reduceOption_append]
  cases (engine.step (Mealy.after engine.step s events) event).1 <;> simp

theorem replies_prefix (s : Store σ κ) {earlier events : List (Event κ φ)} (h : earlier <+: events) :
    engine.replies s earlier <+: engine.replies s events := by
  obtain ⟨rest, rfl⟩ := h
  unfold replies
  rw [Mealy.trace_append, List.reduceOption_append]
  exact List.prefix_append _ _

/-- What calls keep that run one after the other, calls keep that run at the same time. -/
theorem after_serial {Inv : σ → List (κ × ρ) → Prop}
    (hfailed : ∀ db replies call reply answers seen, Inv db replies →
      engine.exec call answers seen = (reply, none) → Inv db (replies ++ [(call, reply)]))
    (hcommitted : ∀ db db' replies call reply answers, Inv db replies →
      engine.exec call answers db = (reply, some db') → Inv db' (replies ++ [(call, reply)]))
    (db : σ) (hstart : Inv db []) (events : List (Event κ φ)) :
    Inv (Mealy.after engine.step (.quiet db) events).db (engine.replies (.quiet db) events) := by
  induction events using List.reverseRecOn with
  | nil => exact hstart
  | append_singleton events event ih =>
    rw [replies_concat, Mealy.after_concat]
    have hcurrent := engine.seen_current db events
    generalize Mealy.after engine.step (.quiet db) events = s at ih hcurrent ⊢
    have houtcome := engine.step_outcome s event
    generalize (engine.step s event).1 = output, (engine.step s event).2 = t at houtcome ⊢
    cases houtcome with
    | began => simpa using ih
    | idle => simpa using ih
    | failed client answers p reply _ hanswer => exact hfailed _ _ _ _ _ _ ih hanswer
    | committed client answers p reply db' hfound hversion hexec =>
      rw [hcurrent client p hfound hversion] at hexec
      exact hcommitted _ _ _ _ _ _ ih hexec

end Engine

end Snapshots
