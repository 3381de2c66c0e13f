import NexusRemote.InputEvents
import NexusRemote.Mealy

/-!
# The control queue between the window and the runtime (`apps/nexus-client/src/window.rs`)

Focus changes, the close and diagnostics wait in a queue of four. A full queue
makes room by what it holds: a focus change gives way first, then whatever is not
a close. So a close is never lost; a focus change may be, to a diagnostic. What a
push can do is said once, by `Pushes`.
-/

namespace WindowInput

open InputEvents

/-! ## The events of the window and their queue -/

inductive WindowEvent where
  | focusChanged (focused : Bool)
  | focused (focused : Bool)
  | resized (width height : UInt32)
  | closed
  | input (event : InputEvent)
  | renderRequested
  | renderRejected
  deriving DecidableEq

namespace WindowEvent

/-- What a focus notice says. -/
def notice : WindowEvent → Option Bool
  | .focusChanged hasFocus => some hasFocus
  | .focused hasFocus => some hasFocus
  | _ => none

def isInput : WindowEvent → Bool
  | .input _ => true
  | _ => false

/-- The events that the window thread pushes to the control queue; it sends the others. -/
def isControl : WindowEvent → Bool
  | .focusChanged _ | .focused _ | .closed | .renderRejected => true
  | .resized .. | .input _ | .renderRequested => false

end WindowEvent

def controlEventCapacity : Nat := 4

/-- A focus notice replaces the pending one. -/
def retained (events : List WindowEvent) (event : WindowEvent) : List WindowEvent :=
  if event.notice.isSome then events.filter (fun existing => !existing.notice.isSome) else events

/-- What is left of the queue when there is room for the event. In a full queue a pending notice
gives way to anything, and a diagnostic to a notice or a close. -/
def makeRoom (events : List WindowEvent) (event : WindowEvent) : Option (List WindowEvent) :=
  let isClosed := decide (event = .closed)
  if events.length ≥ controlEventCapacity then
    match events.findIdx? (fun existing => existing.notice.isSome) with
    | some index => some (events.eraseIdx index)
    | none =>
      if event.notice.isSome || isClosed then
        -- an existing close is coalesced
        if isClosed && events.any (fun existing => existing = .closed) then none
        else (events.findIdx? (fun existing => existing ≠ .closed)).map events.eraseIdx
      else none
  else some events

/-- `ControlEventQueue::push`. -/
def push (events : List WindowEvent) (event : WindowEvent) : List WindowEvent :=
  match makeRoom (retained events event) event with
  | some events => events ++ [event]
  | none => retained events event

theorem retained_sublist (events : List WindowEvent) (event : WindowEvent) :
    (retained events event).Sublist events := by
  unfold retained
  split
  · exact List.filter_sublist
  · exact List.Sublist.refl _

end WindowInput

namespace ControlQueue

open WindowInput

inductive Op where
  | push (event : WindowEvent)
  | pop

/-- One operation under the lock; a pop returns what it takes. -/
def step (queue : List WindowEvent) : Op → Option WindowEvent × List WindowEvent
  | .push event => (none, push queue event)
  | .pop => (queue.head?, queue.tail)

/-- A focus change. -/
def isFocus (event : WindowEvent) : Prop := event.notice.isSome = true

instance (event : WindowEvent) : Decidable (isFocus event) :=
  inferInstanceAs (Decidable (event.notice.isSome = true))

/-- Neither a focus change nor the close: what the queue may do without. -/
def isDiagnostic (event : WindowEvent) : Prop := ¬isFocus event ∧ event ≠ .closed

instance (event : WindowEvent) : Decidable (isDiagnostic event) :=
  inferInstanceAs (Decidable (¬isFocus event ∧ event ≠ .closed))

/-! ## What a push can do -/

/-- Everything a push can leave behind. What is evicted is cut out of its place. -/
inductive Pushes (queue : List WindowEvent) (event : WindowEvent) : List WindowEvent → Prop where
  | room (short : (retained queue event).length < 4) :
      Pushes queue event (retained queue event ++ [event])
  | overFocus (front back : List WindowEvent) (victim : WindowEvent)
      (full : 4 ≤ (retained queue event).length)
      (found : retained queue event = front ++ victim :: back) (focus : isFocus victim) :
      Pushes queue event (front ++ back ++ [event])
  | overOther (front back : List WindowEvent) (victim : WindowEvent)
      (found : retained queue event = front ++ victim :: back) (spared : victim ≠ .closed)
      (unfocused : ∀ e ∈ retained queue event, ¬isFocus e) (lifecycle : ¬isDiagnostic event) :
      Pushes queue event (front ++ back ++ [event])
  | dropped (full : 4 ≤ (retained queue event).length)
      (unfocused : ∀ e ∈ retained queue event, ¬isFocus e)
      (reason : isDiagnostic event ∨ WindowEvent.closed ∈ retained queue event) :
      Pushes queue event (retained queue event)

/-- An element that was found, and the list without it. -/
theorem erase_found {α : Type} (p : α → Bool) (l : List α) (i : Nat) (h : l.findIdx? p = some i) :
    ∃ front x back, l = front ++ x :: back ∧ p x = true ∧ l.eraseIdx i = front ++ back := by
  obtain ⟨hi, hp, -⟩ := List.findIdx?_eq_some_iff_getElem.mp h
  refine ⟨l.take i, l[i], l.drop (i + 1), ?_, hp, List.eraseIdx_eq_take_drop_succ l i⟩
  rw [List.getElem_cons_drop, List.take_append_drop]

/-- A focus change or a close at a full queue without a focus change: a diagnostic goes, if
there is one, and a second close is not needed. -/
theorem push_lifecycle (queue : List WindowEvent) (event : WindowEvent)
    (hfull : controlEventCapacity ≤ (retained queue event).length)
    (hfocus : (retained queue event).findIdx? (fun existing => existing.notice.isSome) = none)
    (hunfocused : ∀ e ∈ retained queue event, ¬isFocus e) (hlifecycle : ¬isDiagnostic event) :
    Pushes queue event (push queue event) := by
  have hkind : (event.notice.isSome || decide (event = .closed)) = true := by
    rw [Bool.or_eq_true, decide_eq_true_iff]
    by_contra hneither
    exact hlifecycle (not_or.mp hneither)
  by_cases hcoalesced : event = .closed ∧ WindowEvent.closed ∈ retained queue event
  · have hpending : (decide (event = .closed) &&
        (retained queue event).any fun existing => existing = .closed) = true := by
      rw [Bool.and_eq_true, decide_eq_true_iff, List.any_eq_true]
      exact ⟨hcoalesced.1, _, hcoalesced.2, by simp⟩
    have hpush : push queue event = retained queue event := by
      simp only [push, makeRoom, ge_iff_le, hfull, if_true, hfocus, hkind, hpending]
    rw [hpush]
    exact .dropped hfull hunfocused (.inr hcoalesced.2)
  · have hnew : (decide (event = .closed) &&
        (retained queue event).any fun existing => existing = .closed) = false := by
      rw [Bool.and_eq_false_iff, decide_eq_false_iff_not, List.any_eq_false]
      by_cases hclosed : event = .closed
      · right
        intro e he hsame
        rw [of_decide_eq_true hsame] at he
        exact hcoalesced ⟨hclosed, he⟩
      · exact .inl hclosed
    cases hother : (retained queue event).findIdx? (fun existing => existing ≠ .closed) with
    | some i =>
      obtain ⟨front, victim, back, hfound, hvictim, herased⟩ := erase_found _ _ i hother
      have hpush : push queue event = front ++ back ++ [event] := by
        simp only [push, makeRoom, ge_iff_le, hfull, if_true, hfocus, hkind, hnew,
          Bool.false_eq_true, if_false, hother, Option.map_some, herased]
      rw [hpush]
      exact .overOther front back victim hfound (of_decide_eq_true hvictim) hunfocused hlifecycle
    | none =>
      have hpush : push queue event = retained queue event := by
        simp only [push, makeRoom, ge_iff_le, hfull, if_true, hfocus, hkind, hnew,
          Bool.false_eq_true, if_false, hother, Option.map_none]
      rw [hpush]
      -- the queue is not empty, and holds nothing but closes
      obtain ⟨e, rest, hqueue⟩ :=
        List.exists_cons_of_length_pos (Nat.lt_of_lt_of_le (by decide) hfull)
      have he : e ∈ retained queue event := by
        rw [hqueue]
        exact List.mem_cons_self
      have hclosed := List.findIdx?_eq_none_iff.mp hother e he
      rw [decide_eq_false_iff_not, not_not] at hclosed
      exact .dropped hfull hunfocused (.inr (hclosed ▸ he))

theorem push_does (queue : List WindowEvent) (event : WindowEvent) :
    Pushes queue event (push queue event) := by
  by_cases hfull : controlEventCapacity ≤ (retained queue event).length
  · cases hfocus : (retained queue event).findIdx? (fun existing => existing.notice.isSome) with
    | some i =>
      obtain ⟨front, victim, back, hfound, hvictim, herased⟩ := erase_found _ _ i hfocus
      have hpush : push queue event = front ++ back ++ [event] := by
        simp [push, makeRoom, hfull, hfocus, herased]
      rw [hpush]
      exact .overFocus front back victim hfull hfound hvictim
    | none =>
      have hunfocused : ∀ e ∈ retained queue event, ¬isFocus e := by
        intro e he hfound
        have hnone := List.findIdx?_eq_none_iff.mp hfocus e he
        rw [isFocus, hnone] at hfound
        cases hfound
      by_cases hdiagnostic : isDiagnostic event
      · have hpush : push queue event = retained queue event := by
          obtain ⟨hnotice, hclosed⟩ := hdiagnostic
          simp only [isFocus, Bool.not_eq_true] at hnotice
          simp [push, makeRoom, hfull, hfocus, hnotice, hclosed]
        rw [hpush]
        exact .dropped hfull hunfocused (.inl hdiagnostic)
      · exact push_lifecycle queue event hfull hfocus hunfocused hdiagnostic
  · have hpush : push queue event = retained queue event ++ [event] := by
      simp [push, makeRoom, hfull]
    rw [hpush]
    exact .room (Nat.lt_of_not_le hfull)

theorem closed_mem_retained (queue : List WindowEvent) (event : WindowEvent) :
    WindowEvent.closed ∈ retained queue event ↔ WindowEvent.closed ∈ queue := by
  unfold retained
  split
  · simp [WindowEvent.notice]
  · rfl

theorem retained_unfocused (queue : List WindowEvent) (event : WindowEvent) (h : isFocus event) :
    ∀ e ∈ retained queue event, ¬isFocus e := by
  intro e he
  have hfocus : event.notice.isSome = true := h
  simp only [retained, hfocus, if_true, List.mem_filter, Bool.not_eq_true'] at he
  simp [isFocus, he.2]

theorem retained_other (queue : List WindowEvent) (event : WindowEvent) (h : ¬isFocus event) :
    retained queue event = queue := by
  have hfocus : ¬event.notice.isSome = true := h
  rw [retained, if_neg hfocus]

/-! ## Invariants of the queue -/

def focusCount (queue : List WindowEvent) : Nat := queue.countP (fun e => isFocus e)

theorem focusCount_eq_zero (queue : List WindowEvent) :
    focusCount queue = 0 ↔ ∀ e ∈ queue, ¬isFocus e := by
  simp [focusCount, List.countP_eq_zero]

section Pushed

variable {queue queue' : List WindowEvent} {event : WindowEvent}

theorem Pushes.length_le (h : Pushes queue event queue') (hqueue : queue.length ≤ 4) :
    queue'.length ≤ 4 := by
  have hretained := (retained_sublist queue event).length_le
  cases h with
  | room short =>
    rw [List.length_append, List.length_singleton]
    omega
  | overFocus front back victim full found | overOther front back victim found =>
    rw [found, List.length_append, List.length_cons] at hretained
    simp only [List.length_append, List.length_singleton]
    omega
  | dropped => omega

/-- A focus change is alone; anything else brings none. -/
theorem Pushes.focusCount_le (h : Pushes queue event queue') (hqueue : focusCount queue ≤ 1) :
    focusCount queue' ≤ 1 := by
  have hretained : focusCount (retained queue event) + (if isFocus event then 1 else 0) ≤ 1 := by
    by_cases hfocus : isFocus event
    · rw [if_pos hfocus, (focusCount_eq_zero _).mpr (retained_unfocused queue event hfocus)]
    · rw [if_neg hfocus, retained_other queue event hfocus]
      omega
  have hconcat : ∀ l, focusCount (l ++ [event]) =
      focusCount l + (if isFocus event then 1 else 0) := by
    intro l
    simp [focusCount, List.countP_append, List.countP_cons]
  cases h with
  | room =>
    rw [hconcat]
    exact hretained
  | overFocus front back victim full found | overOther front back victim found =>
    have hless : focusCount (front ++ back) ≤ focusCount (retained queue event) := by
      rw [found]
      simp only [focusCount, List.countP_append, List.countP_cons]
      omega
    rw [hconcat]
    omega
  | dropped => omega

/-- What is not cut out stays. -/
theorem mem_cut {α : Type} {front back : List α} {victim x : α} (h : x ∈ front ++ victim :: back)
    (hne : x ≠ victim) : x ∈ front ++ back := by
  rw [List.mem_append, List.mem_cons] at h
  rw [List.mem_append]
  exact h.imp_right fun h => h.resolve_left hne

/-- The close is there, before or after. -/
theorem Pushes.closed (h : Pushes queue event queue')
    (hclosed : event = .closed ∨ WindowEvent.closed ∈ queue) : WindowEvent.closed ∈ queue' := by
  rw [← closed_mem_retained queue event] at hclosed
  rcases hclosed with rfl | hclosed
  · cases h with
    | room | overFocus | overOther => simp
    | dropped full unfocused reason => exact reason.resolve_left fun hdiagnostic => hdiagnostic.2 rfl
  · cases h with
    | room => exact List.mem_append_left _ hclosed
    | overFocus front back victim full found focus =>
      have hvictim : .closed ≠ victim := by
        rintro rfl
        exact absurd focus (by decide)
      exact List.mem_append_left _ (mem_cut (found ▸ hclosed) hvictim)
    | overOther front back victim found spared =>
      exact List.mem_append_left _ (mem_cut (found ▸ hclosed) spared.symm)
    | dropped => exact hclosed

/-- A focus change gets in, unless a close is in its way. -/
theorem Pushes.focus (h : Pushes queue event queue') (hfocus : isFocus event)
    (hopen : WindowEvent.closed ∉ queue) : event ∈ queue' := by
  cases h with
  | room | overFocus | overOther => simp
  | dropped full unfocused reason =>
    rcases reason with hdiagnostic | hpending
    · exact absurd hfocus hdiagnostic.1
    · exact absurd ((closed_mem_retained queue event).mp hpending) hopen

/-- A diagnostic takes nothing away but, in a full queue, the focus change. -/
theorem Pushes.spares (h : Pushes queue event queue') (hdiagnostic : isDiagnostic event)
    (hroom : ¬(4 ≤ queue.length ∧ ∃ e ∈ queue, isFocus e)) : ∀ e ∈ queue, e ∈ queue' := by
  have hsame := retained_other queue event hdiagnostic.1
  cases h with
  | room =>
    intro e he
    rw [hsame]
    exact List.mem_append_left _ he
  | overFocus front back victim full found focus =>
    rw [hsame] at full found
    exact absurd ⟨full, victim, by simp [found], focus⟩ hroom
  | overOther front back victim found spared unfocused lifecycle =>
    exact absurd hdiagnostic lifecycle
  | dropped =>
    rw [hsame]
    exact fun e he => he

/-- A diagnostic at a full queue puts itself in the place of the focus change. -/
theorem Pushes.evicts (h : Pushes queue event queue') (hdiagnostic : isDiagnostic event)
    (hcount : focusCount queue ≤ 1) (hfull : 4 ≤ queue.length) (hfocus : ∃ e ∈ queue, isFocus e) :
    ∀ e ∈ queue', ¬isFocus e := by
  have hsame := retained_other queue event hdiagnostic.1
  cases h with
  | room short =>
    rw [hsame] at short
    omega
  | overFocus front back victim full found focus =>
    rw [hsame] at found
    have hnone : focusCount (front ++ back) = 0 := by
      have hone : focusCount queue = focusCount (front ++ back) + 1 := by
        rw [found]
        simp only [focusCount, List.countP_append, List.countP_cons, focus, decide_true, if_true]
        omega
      omega
    intro e he
    rcases List.mem_append.mp he with he | he
    · exact (focusCount_eq_zero _).mp hnone e he
    · rw [List.mem_singleton.mp he]
      exact hdiagnostic.1
  | overOther front back victim found spared unfocused lifecycle =>
    exact absurd hdiagnostic lifecycle
  | dropped full unfocused =>
    obtain ⟨e, he, hfound⟩ := hfocus
    rw [hsame] at unfocused
    exact absurd hfound (unfocused e he)

end Pushed

/-! ## Whole runs -/

/-- What every queue is like. -/
structure Sound (queue : List WindowEvent) : Prop where
  length : queue.length ≤ 4
  focus : focusCount queue ≤ 1

theorem step_sound (queue : List WindowEvent) (op : Op) (h : Sound queue) :
    Sound (step queue op).2 := by
  cases op with
  | push event => exact ⟨(push_does queue event).length_le h.length,
      (push_does queue event).focusCount_le h.focus⟩
  | pop =>
    have htail := List.tail_sublist queue
    exact ⟨htail.length_le.trans h.length, htail.countP_le.trans h.focus⟩

/-- The queue after the operations, from the empty one. -/
def after (ops : List Op) : List WindowEvent := Mealy.after step [] ops

theorem after_concat (ops : List Op) (op : Op) : after (ops ++ [op]) = (step (after ops) op).2 :=
  Mealy.after_concat step [] ops op

theorem after_sound (ops : List Op) : Sound (after ops) :=
  Mealy.after_always step_sound [] ops ⟨Nat.zero_le _, Nat.zero_le _⟩

theorem step_closed (queue : List WindowEvent) (op : Op) (h : WindowEvent.closed ∈ queue)
    (hpop : (step queue op).1 ≠ some .closed) : WindowEvent.closed ∈ (step queue op).2 := by
  cases op with
  | push event => exact (push_does queue event).closed (.inr h)
  | pop =>
    cases queue with
    | nil => cases h
    | cons e queue =>
      have hne : .closed ≠ e := by
        rintro rfl
        exact hpop rfl
      exact (List.mem_cons.mp h).resolve_left hne

/-- A pending close stays until a pop returns one. -/
theorem run_closed (queue : List WindowEvent) (ops : List Op) (h : WindowEvent.closed ∈ queue)
    (hpops : some WindowEvent.closed ∉ Mealy.trace step queue ops) :
    WindowEvent.closed ∈ Mealy.after step queue ops := by
  induction ops generalizing queue with
  | nil => exact h
  | cons op ops ih =>
    rw [Mealy.trace_cons, List.mem_cons, not_or] at hpops
    exact ih _ (step_closed queue op h (Ne.symm hpops.1)) hpops.2

/-- Whatever is pushed and popped: the queue stays small, has one focus change at most, and
a close that was pushed waits in it until a pop returns one. -/
theorem close_never_lost (ops : List Op) :
    (after ops).length ≤ 4 ∧ focusCount (after ops) ≤ 1 ∧
      ∀ before rest, ops = before ++ Op.push .closed :: rest →
        some WindowEvent.closed ∉ Mealy.trace step (after (before ++ [Op.push .closed])) rest →
        WindowEvent.closed ∈ after ops := by
  refine ⟨(after_sound ops).length, (after_sound ops).focus, ?_⟩
  rintro before rest rfl hpops
  have hpushed : WindowEvent.closed ∈ after (before ++ [Op.push .closed]) := by
    rw [after_concat]
    exact (push_does (after before) .closed).closed (.inl rfl)
  have hwhole : after (before ++ Op.push .closed :: rest) =
      Mealy.after step (after (before ++ [Op.push .closed])) rest := by
    rw [after, after, ← Mealy.after_append, List.append_assoc, List.singleton_append]
  rw [hwhole]
  exact run_closed _ rest hpushed hpops

/-! ## The latest focus change -/

/-- The focus change that was pushed last. -/
def latestFocus (ops : List Op) : Option WindowEvent :=
  (ops.filterMap fun
    | .push event => if isFocus event then some event else none
    | .pop => none).getLast?

/-- The latest focus change waits in the queue until a pop returns it, another one replaces
it or a close is pending; no diagnostic takes a focus change away. -/
structure FocusKept (ops : List Op) : Prop where
  entered : ∀ before event, before ++ [Op.push event] <+: ops → isFocus event →
    WindowEvent.closed ∉ after before → event ∈ after (before ++ [Op.push event])
  stays : ∀ before op event, before ++ [op] <+: ops → latestFocus before = some event →
    event ∈ after before → event ∉ after (before ++ [op]) →
    (step (after before) op).1 = some event ∨ (∃ later, op = .push later ∧ isFocus later) ∨
      WindowEvent.closed ∈ after (before ++ [op])
  diagnostics : ∀ before event, before ++ [Op.push event] <+: ops → isDiagnostic event →
    ∀ e ∈ after before, isFocus e → e ∈ after (before ++ [Op.push event])

/-- No diagnostic is pushed while the queue is full and holds a focus change. -/
def Uncrowded (ops : List Op) : Prop :=
  ∀ before event, before ++ [Op.push event] <+: ops → isDiagnostic event →
    ¬(4 ≤ (after before).length ∧ ∃ e ∈ after before, isFocus e)

theorem head_of_popped (queue : List WindowEvent) (event : WindowEvent) (h : event ∈ queue)
    (hgone : event ∉ queue.tail) : queue.head? = some event := by
  cases queue with
  | nil => cases h
  | cons e queue =>
    rw [(List.mem_cons.mp h).resolve_right hgone]
    rfl

/-- The latest focus change is kept in exactly the runs in which no diagnostic finds the
queue full and a focus change in it. -/
theorem focus_kept_iff (ops : List Op) : FocusKept ops ↔ Uncrowded ops := by
  constructor
  · intro hkept before event hrun hdiagnostic hcrowded
    obtain ⟨hfull, e, he, hfocus⟩ := hcrowded
    have hstays := hkept.diagnostics before event hrun hdiagnostic e he hfocus
    rw [after_concat] at hstays
    exact (push_does (after before) event).evicts hdiagnostic (after_sound before).focus hfull
      ⟨e, he, hfocus⟩ e hstays hfocus
  · intro huncrowded
    refine ⟨?_, ?_, ?_⟩
    · intro before event _ hfocus hopen
      rw [after_concat]
      exact (push_does (after before) event).focus hfocus hopen
    · intro before op event hrun _ hwaiting hgone
      rw [after_concat] at hgone ⊢
      cases op with
      | pop => exact .inl (head_of_popped _ _ hwaiting hgone)
      | push later =>
        by_cases hfocus : isFocus later
        · exact .inr (.inl ⟨later, rfl, hfocus⟩)
        · by_cases hclosed : later = .closed
          · exact .inr (.inr ((push_does (after before) later).closed (.inl hclosed)))
          · exact absurd ((push_does (after before) later).spares ⟨hfocus, hclosed⟩
              (huncrowded before later hrun ⟨hfocus, hclosed⟩) event hwaiting) hgone
    · intro before event hrun hdiagnostic e he _
      rw [after_concat]
      exact (push_does (after before) event).spares hdiagnostic
        (huncrowded before event hrun hdiagnostic) e he

/-- The window gets the focus and three frames are refused before the runtime looks. -/
def refusedFrames : List Op :=
  [.push (.focusChanged true), .push .renderRejected, .push .renderRejected, .push .renderRejected]

/-- The fourth diagnostic takes the place of the focus change. -/
theorem focus_lost_to_diagnostic :
    after refusedFrames =
        [.focusChanged true, .renderRejected, .renderRejected, .renderRejected] ∧
      after (refusedFrames ++ [Op.push .renderRejected]) =
        [.renderRejected, .renderRejected, .renderRejected, .renderRejected] ∧
      ¬FocusKept (refusedFrames ++ [Op.push .renderRejected]) := by
  refine ⟨by decide, by decide, ?_⟩
  intro hkept
  have hstays := hkept.diagnostics refusedFrames .renderRejected (List.prefix_refl _) (by decide)
    (.focusChanged true) (by decide) (by decide)
  exact absurd hstays (by decide)

end ControlQueue
