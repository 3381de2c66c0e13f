import NexusRemote.CursorControl
import NexusRemote.Raster

/-!
# Captured surfaces (`platform/windows/src/capture.rs`)

The capture driver maps a surface with padded rows, of which the content is the
upper left part; `copyBgraRows` cuts it out. The driver's frame pool hands out
native frames that have to be given back; of those that are ready only the
newest is kept.
-/

namespace CaptureSurfaces

open BigEndian CursorControl Raster

/-! ## The content of a mapped surface -/

/-- One round of the loop over the rows; `none` is a panic, an error has left the loop. -/
def copyRow (source : Bytes) (rowPitch contentRowBytes row : Nat) :
    Except BackendErrorKind Bytes → Option (Except BackendErrorKind Bytes)
  | .error err => some (.error err)
  | .ok output =>
    match mul row rowPitch with
    | none => some (.error .invalidFrame)
    | some start => do
      let finish ← add start contentRowBytes
      let bytes ← Raster.slice source start (finish - start)
      return .ok (output ++ bytes)

def copyBgraRows (source : Bytes)
    (allocationWidth allocationHeight contentWidth contentHeight : UInt32) (rowPitch : Nat) :
    Option (Except BackendErrorKind Bytes) :=
  if allocationWidth = 0 ∨ allocationHeight = 0 ∨ contentWidth = 0 ∨ contentHeight = 0 ∨
      contentWidth > allocationWidth ∨ contentHeight > allocationHeight then
    some (.error .invalidFrame)
  else
    match mul allocationWidth.toNat 4 with
    | none => some (.error .invalidFrame)
    | some allocationRowBytes =>
      if rowPitch < allocationRowBytes then some (.error .invalidFrame)
      else
        match mul contentWidth.toNat 4 with
        | none => some (.error .invalidFrame)
        | some contentRowBytes =>
          match mul (contentHeight.toNat - 1) rowPitch with
          | none => some (.error .invalidFrame)
          | some precedingRows =>
            match add precedingRows contentRowBytes with
            | none => some (.error .invalidFrame)
            | some requiredSourceLen =>
              if source.length < requiredSourceLen then some (.error .invalidFrame)
              else
                match mul contentRowBytes contentHeight.toNat with
                | none => some (.error .invalidFrame)
                | some _ =>
                  loop contentHeight.toNat (copyRow source rowPitch contentRowBytes) (.ok [])

/-- The content lies in the allocation, the pitch covers a row of it, and the source reaches
the end of the last row of the content, which 64 bits can address. -/
structure Croppable (source : Bytes)
    (allocationWidth allocationHeight contentWidth contentHeight : UInt32) (rowPitch : Nat) :
    Prop where
  width_pos : 0 < contentWidth.toNat
  height_pos : 0 < contentHeight.toNat
  width_le : contentWidth.toNat ≤ allocationWidth.toNat
  height_le : contentHeight.toNat ≤ allocationHeight.toNat
  pitch_ge : 4 * allocationWidth.toNat ≤ rowPitch
  source_ge : (contentHeight.toNat - 1) * rowPitch + 4 * contentWidth.toNat ≤ source.length
  addressable : (contentHeight.toNat - 1) * rowPitch + 4 * contentWidth.toNat < 2 ^ 64

/-- The rows before the last one end before it starts. -/
theorem row_reach {row rows pitch width required : Nat} (hrow : row < rows)
    (hrequired : (rows - 1) * pitch + width ≤ required) : row * pitch + width ≤ required := by
  have : row * pitch ≤ (rows - 1) * pitch := Nat.mul_le_mul_right pitch (by omega)
  omega

/-- Past the checks every round appends its row. -/
theorem loop_copyRow {source : Bytes} {pitch width rows : Nat}
    (hsource : (rows - 1) * pitch + width ≤ source.length)
    (haddress : (rows - 1) * pitch + width < 2 ^ 64) {n : Nat} (hn : n ≤ rows) :
    loop n (copyRow source pitch width) (.ok []) =
      some (.ok (blocks n fun row => (source.drop (row * pitch)).take width)) := by
  induction n with
  | zero => rfl
  | succ n ih =>
    have hinside := row_reach (show n < rows by omega) hsource
    have hlarge : n * pitch + width ≤ (rows - 1) * pitch + width :=
      row_reach (by omega) (Nat.le_refl _)
    rw [loop, ih (by omega), Option.bind_some, copyRow, mul_of_lt (by omega)]
    simp only [Option.bind_eq_bind]
    rw [add_of_lt (by omega), Option.bind_some, Nat.add_sub_cancel_left, slice_of_le (by omega),
      blocks_succ]
    rfl

section

variable {source : Bytes} {aw ah cw ch : UInt32} {pitch : Nat}

theorem copyBgraRows_of_croppable (h : Croppable source aw ah cw ch pitch) :
    copyBgraRows source aw ah cw ch pitch =
      some (.ok (blocks ch.toNat fun row => (source.drop (row * pitch)).take (4 * cw.toNat))) := by
  obtain ⟨hcw, hch, hcwl, hchl, hpitch, hsource, haddress⟩ := h
  have haw := aw.toNat_lt
  -- the output is no longer than the part of the source that is read
  have houtput : cw.toNat * 4 * ch.toNat < 2 ^ 64 := by
    have hrows : cw.toNat * 4 * (ch.toNat - 1) ≤ (ch.toNat - 1) * pitch := by
      rw [Nat.mul_comm _ (ch.toNat - 1)]
      exact Nat.mul_le_mul_left _ (by omega)
    have hsplit : cw.toNat * 4 * ch.toNat = cw.toNat * 4 * (ch.toNat - 1) + cw.toNat * 4 := by
      rw [← Nat.mul_succ, Nat.succ_eq_add_one, Nat.sub_add_cancel hch]
    omega
  rw [copyBgraRows, if_neg, mul_of_lt (by omega)]
  · simp only
    rw [if_neg (by omega), mul_of_lt (by omega), mul_of_lt (by omega)]
    simp only
    rw [add_of_lt (by omega)]
    simp only
    rw [if_neg (by omega), mul_of_lt houtput]
    simp only
    rw [Nat.mul_comm cw.toNat 4]
    exact loop_copyRow hsource haddress (Nat.le_refl _)
  · simp only [← UInt32.toNat_inj, gt_iff_lt, UInt32.lt_iff_toNat_lt, UInt32.toNat_zero]
    omega

/-- Everything else is refused before anything is read. -/
theorem copyBgraRows_of_not_croppable (h : ¬Croppable source aw ah cw ch pitch) :
    copyBgraRows source aw ah cw ch pitch = some (.error .invalidFrame) := by
  rw [copyBgraRows]
  split
  case isTrue => rfl
  case isFalse hsides =>
    simp only [← UInt32.toNat_inj, gt_iff_lt, UInt32.lt_iff_toNat_lt, UInt32.toNat_zero] at hsides
    split
    case h_1 => rfl
    case h_2 allocationRowBytes hallocation =>
      obtain ⟨_, rfl⟩ := (mul_eq_some_iff _ _ _).mp hallocation
      split
      case isTrue => rfl
      case isFalse hpitch =>
        split
        case h_1 => rfl
        case h_2 contentRowBytes hcontent =>
          obtain ⟨_, rfl⟩ := (mul_eq_some_iff _ _ _).mp hcontent
          split
          case h_1 => rfl
          case h_2 precedingRows hpreceding =>
            obtain ⟨_, rfl⟩ := (mul_eq_some_iff _ _ _).mp hpreceding
            split
            case h_1 => rfl
            case h_2 required hrequired =>
              obtain ⟨hlt, rfl⟩ := (add_eq_some_iff _ _ _).mp hrequired
              rw [if_pos]
              by_contra hlength
              exact h ⟨by omega, by omega, by omega, by omega, by omega, by omega, by omega⟩

end

/-- Cropping never reads outside the source, succeeds exactly on croppable surfaces, and then
takes byte `c` of row `r` from byte `c` of that row of the surface. -/
theorem copyBgraRows_exact (source : Bytes) (aw ah cw ch : UInt32) (pitch : Nat) :
    copyBgraRows source aw ah cw ch pitch ≠ none ∧
    ((∃ output, copyBgraRows source aw ah cw ch pitch = some (.ok output)) ↔
      Croppable source aw ah cw ch pitch) ∧
    ∀ output, copyBgraRows source aw ah cw ch pitch = some (.ok output) →
      output.length = 4 * cw.toNat * ch.toNat ∧
      ∀ r < ch.toNat, ∀ c < 4 * cw.toNat,
        pitch * r + c < source.length ∧
          output[4 * cw.toNat * r + c]? = source[pitch * r + c]? := by
  by_cases h : Croppable source aw ah cw ch pitch
  · rw [copyBgraRows_of_croppable h]
    refine ⟨by simp, ⟨fun _ => h, fun _ => ⟨_, rfl⟩⟩, ?_⟩
    rintro output ⟨⟩
    have hrow : ∀ r < ch.toNat, r * pitch + 4 * cw.toNat ≤ source.length :=
      fun r hr => row_reach hr h.source_ge
    have hlen : ∀ r < ch.toNat,
        ((source.drop (r * pitch)).take (4 * cw.toNat)).length = 4 * cw.toNat := by
      intro r hr
      have := hrow r hr
      rw [List.length_take, List.length_drop]
      omega
    refine ⟨by rw [length_blocks hlen, Nat.mul_comm], ?_⟩
    intro r hr c hc
    have := hrow r hr
    rw [Nat.mul_comm pitch r, Nat.mul_comm (4 * cw.toNat) r, getElem?_blocks hlen hr hc,
      List.getElem?_take_of_lt hc, List.getElem?_drop]
    exact ⟨by omega, rfl⟩
  · rw [copyBgraRows_of_not_croppable h]
    simp [h]

/-! ## The newest of the native frames -/

/-- The two callbacks, over whatever they read and change. -/
structure Pool (σ τ : Type) where
  next : σ → Except BackendErrorKind (Option τ) × σ
  discard : τ → σ → Except BackendErrorKind Unit × σ

/-- The state of the callbacks, with the frames that `next` has produced and those that were
passed to `discard`; no decision reads the two lists. -/
structure World (σ τ : Type) where
  inner : σ
  produced : List τ
  discarded : List τ

namespace Pool

variable {σ τ : Type} (pool : Pool σ τ)

def callNext (w : World σ τ) : Except BackendErrorKind (Option τ) × World σ τ :=
  match pool.next w.inner with
  | (.ok (some frame), s) => (.ok (some frame), { w with inner := s, produced := w.produced ++ [frame] })
  | (.ok none, s) => (.ok none, { w with inner := s })
  | (.error err, s) => (.error err, { w with inner := s })

def callDiscard (frame : τ) (w : World σ τ) : Except BackendErrorKind Unit × World σ τ :=
  ((pool.discard frame w.inner).1,
    { w with inner := (pool.discard frame w.inner).2, discarded := w.discarded ++ [frame] })

/-- The way out of the loop with an error: a frame that is still held goes back, and what
`discard` says to it is ignored. -/
def giveUp (newest : Option τ) (err : BackendErrorKind) (w : World σ τ) :
    Except BackendErrorKind τ × World σ τ :=
  match newest with
  | some frame => (.error err, (pool.callDiscard frame w).2)
  | none => (.error err, w)

/-- The loop, for at most `fuel` rounds; `none` if it has not ended by then. -/
def drainLoop : Nat → Option τ → World σ τ → Option (Except BackendErrorKind τ × World σ τ)
  | 0, _, _ => none
  | fuel + 1, newest, w =>
    match pool.callNext w with
    | (.ok (some frame), w) =>
      match newest with
      | none => drainLoop fuel (some frame) w
      | some stale =>
        match pool.callDiscard stale w with
        | (.ok (), w) => drainLoop fuel (some frame) w
        | (.error err, w) => some (pool.giveUp (some frame) err w)
    | (.ok none, w) =>
      match newest with
      | some frame => some (.ok frame, w)
      | none => some (.error .frameUnavailable, w)
    | (.error err, w) => some (pool.giveUp newest err w)

def drainNewestAvailableFrame (fuel notifications : Nat) (w : World σ τ) :
    Option (Except BackendErrorKind τ × World σ τ) :=
  if notifications = 0 then some (.error .frameUnavailable, w) else pool.drainLoop fuel none w

/-- However often `next` is called, with or without a `discard` in between, it will at some
point have no frame. -/
def RunsOut (s : σ) : Prop :=
  ∀ states : Nat → σ, states 0 = s →
    (∀ k, states (k + 1) = (pool.next (states k)).2 ∨
      ∃ stale, states (k + 1) = (pool.discard stale (pool.next (states k)).2).2) →
    ∃ k, ∀ frame, (pool.next (states k)).1 ≠ .ok (some frame)

variable {pool}

/-- The frames produced are those given back and the one that is held, in this order. -/
def Balanced (held : Option τ) (w : World σ τ) : Prop := w.produced = w.discarded ++ held.toList

def Settled : Except BackendErrorKind τ × World σ τ → Prop
  | (.ok frame, w) => Balanced (some frame) w
  | (.error _, w) => Balanced none w

theorem Balanced.giveUp {newest : Option τ} {w : World σ τ} (h : Balanced newest w)
    (err : BackendErrorKind) : Settled (pool.giveUp newest err w) := by
  cases newest with
  | none => exact h
  | some frame => simpa [Pool.giveUp, Settled, Balanced, callDiscard] using h

theorem Balanced.discards {frame stale : τ} {w : World σ τ}
    (h : w.produced = w.discarded ++ [stale] ++ [frame]) :
    Balanced (some frame) (pool.callDiscard stale w).2 := h

/-- The balance is kept from round to round, so it holds on every way out of the loop. -/
theorem drainLoop_settled {fuel : Nat} {newest : Option τ} {w : World σ τ}
    (hbalanced : Balanced newest w) :
    ∀ out ∈ pool.drainLoop fuel newest w, Settled out := by
  induction fuel generalizing newest w with
  | zero => simp [drainLoop]
  | succ fuel ih =>
    rw [drainLoop]
    rcases hnext : pool.next w.inner with ⟨⟨err⟩ | ⟨_ | frame⟩, s⟩
    case error =>
      rw [callNext, hnext]
      simp only [Option.mem_some_iff, forall_eq']
      exact Balanced.giveUp (w := { w with inner := s }) hbalanced err
    case ok.none =>
      rw [callNext, hnext]
      cases newest with
      | none =>
        simp only [Option.mem_some_iff, forall_eq']
        exact hbalanced
      | some frame =>
        simp only [Option.mem_some_iff, forall_eq']
        exact hbalanced
    case ok.some =>
      rw [callNext, hnext]
      have hproduced : w.produced ++ [frame] = w.discarded ++ newest.toList ++ [frame] := by
        rw [← hbalanced]
      cases newest with
      | none => exact ih (by simpa [Balanced] using hproduced)
      | some stale =>
        have hgiven : Balanced (some frame) (pool.callDiscard stale
            { w with inner := s, produced := w.produced ++ [frame] }).2 :=
          Balanced.discards hproduced
        simp only
        split
        case h_1 w' hw' =>
          rw [hw'] at hgiven
          exact ih hgiven
        case h_2 err w' hw' =>
          rw [hw'] at hgiven
          simp only [Option.mem_some_iff, forall_eq']
          exact Balanced.giveUp hgiven err

variable (pool) in
/-- The frame held and the state of the callbacks after a round that goes on. -/
def advance (c : Option τ × σ) : Option τ × σ :=
  match pool.next c.2, c.1 with
  | (.ok (some frame), s), some stale => (some frame, (pool.discard stale s).2)
  | (.ok (some frame), s), none => (some frame, s)
  | (_, s), newest => (newest, s)

theorem advance_follows (c : Option τ × σ) :
    (pool.advance c).2 = (pool.next c.2).2 ∨
      ∃ stale, (pool.advance c).2 = (pool.discard stale (pool.next c.2).2).2 := by
  rcases c with ⟨newest, s⟩
  rcases hnext : pool.next s with ⟨⟨err⟩ | ⟨_ | frame⟩, s'⟩
  case error => exact Or.inl (by simp [advance, hnext])
  case ok.none => exact Or.inl (by simp [advance, hnext])
  case ok.some =>
    cases newest with
    | none => exact Or.inl (by simp [advance, hnext])
    | some stale => exact Or.inr ⟨stale, by simp [advance, hnext]⟩

/-- The loop ends with the first round in which `next` has no frame. -/
theorem drainLoop_stops {fuel : Nat} {newest : Option τ} {w : World σ τ}
    (h : ∀ frame, (pool.next w.inner).1 ≠ .ok (some frame)) :
    pool.drainLoop (fuel + 1) newest w ≠ none := by
  rw [drainLoop]
  rcases hnext : pool.next w.inner with ⟨⟨err⟩ | ⟨_ | frame⟩, s⟩
  case error => simp [callNext, hnext]
  case ok.none =>
    rw [callNext, hnext]
    cases newest <;> simp
  case ok.some => exact absurd (by rw [hnext]) (h frame)

/-- If `next` has no frame after `k` rounds, the loop ends within one round more. -/
theorem drainLoop_ends {k : Nat} {newest : Option τ} {w : World σ τ}
    (h : ∀ frame, (pool.next (pool.advance^[k] (newest, w.inner)).2).1 ≠ .ok (some frame)) :
    pool.drainLoop (k + 1) newest w ≠ none := by
  induction k generalizing newest w with
  | zero => exact drainLoop_stops h
  | succ k ih =>
    rw [Function.iterate_succ_apply] at h
    rcases hnext : pool.next w.inner with ⟨⟨err⟩ | ⟨_ | frame⟩, s⟩
    case error => exact drainLoop_stops (by simp [hnext])
    case ok.none => exact drainLoop_stops (by simp [hnext])
    case ok.some =>
      rw [drainLoop, callNext, hnext]
      cases newest with
      | none =>
        rw [show pool.advance (none, w.inner) = (some frame, s) by rw [advance, hnext]] at h
        exact ih h
      | some stale =>
        rw [show pool.advance (some stale, w.inner) = (some frame, (pool.discard stale s).2) by
          rw [advance, hnext]] at h
        simp only [callDiscard]
        cases hdiscard : (pool.discard stale s).1 with
        | error err => simp
        | ok u => exact ih h

theorem drainLoop_mono {fuel more : Nat} (hle : fuel ≤ more) {newest : Option τ} {w : World σ τ}
    {out : Except BackendErrorKind τ × World σ τ} (h : pool.drainLoop fuel newest w = some out) :
    pool.drainLoop more newest w = some out := by
  induction fuel generalizing more newest w with
  | zero => cases h
  | succ fuel ih =>
    obtain ⟨more, rfl⟩ : ∃ m, more = m + 1 := ⟨more - 1, by omega⟩
    rw [drainLoop] at h ⊢
    split at h
    case h_1 frame w' hw' =>
      cases newest with
      | none => exact ih (by omega) h
      | some stale =>
        simp only at h ⊢
        split at h
        case h_1 w'' hw'' =>
          exact ih (by omega) h
        case h_2 err w'' hw'' =>
          exact h
    case h_2 => exact h
    case h_3 => exact h

theorem drainLoop_terminates {newest : Option τ} {w : World σ τ} (h : pool.RunsOut w.inner) :
    ∃ fuel out, ∀ more ≥ fuel, pool.drainLoop more newest w = some out := by
  obtain ⟨k, hk⟩ := h (fun k => (pool.advance^[k] (newest, w.inner)).2) rfl (by
    intro k
    simp only [Function.iterate_succ_apply']
    exact advance_follows _)
  obtain ⟨out, hout⟩ := Option.ne_none_iff_exists'.mp (drainLoop_ends hk)
  exact ⟨k + 1, out, fun more hmore => drainLoop_mono hmore hout⟩

/-- Draining ends, and no frame is lost or given back twice: the frames produced are those given
back, in order, and on success the one returned behind them. -/
theorem drain_balanced {σ τ : Type} (pool : Pool σ τ) (notifications : Nat) (s : σ)
    (hends : pool.RunsOut s) :
    ∃ fuel result w, (∀ more ≥ fuel,
        pool.drainNewestAvailableFrame more notifications ⟨s, [], []⟩ = some (result, w)) ∧
      (∀ frame, result = .ok frame → w.produced = w.discarded ++ [frame]) ∧
      (∀ err, result = .error err → w.produced = w.discarded) ∧
      (notifications = 0 → result = .error .frameUnavailable ∧ w = ⟨s, [], []⟩) := by
  rcases Nat.eq_zero_or_pos notifications with rfl | hpos
  · refine ⟨0, .error .frameUnavailable, ⟨s, [], []⟩, ?_, ?_, ?_, ?_⟩
    · intro more _
      exact if_pos rfl
    · intro frame h
      cases h
    · intro err _
      rfl
    · exact fun _ => ⟨rfl, rfl⟩
  · have hempty : Balanced none (⟨s, [], []⟩ : World σ τ) := rfl
    have hterminates : ∃ fuel out, ∀ more ≥ fuel,
        pool.drainLoop more none ⟨s, [], []⟩ = some out := drainLoop_terminates hends
    obtain ⟨fuel, ⟨result, w⟩, hout⟩ := hterminates
    have hsettled := drainLoop_settled hempty _ (hout fuel (Nat.le_refl fuel))
    refine ⟨fuel, result, w, ?_, ?_, ?_, ?_⟩
    · intro more hmore
      rw [drainNewestAvailableFrame, if_neg (by omega)]
      exact hout more hmore
    · rintro frame rfl
      exact hsettled
    · rintro err rfl
      simpa [Settled, Balanced] using hsettled
    · omega

/-- A pool with two ready frames whose `discard` fails. -/
def twoFrames : Pool Nat Nat where
  next ready := if ready = 0 then (.ok none, 0) else (.ok (some ready), ready - 1)
  discard _ ready := (.error .nativeFailure, ready)

theorem twoFrames_runsOut : twoFrames.RunsOut 2 := by
  intro states hstart hsteps
  have hready : ∀ k, states (k + 1) = states k - 1 := by
    intro k
    have hnext : (twoFrames.next (states k)).2 = states k - 1 := by
      simp only [twoFrames]
      split
      case isTrue hzero => simp [hzero]
      case isFalse => rfl
    rcases hsteps k with h | ⟨stale, h⟩
    · rw [h, hnext]
    · rw [h, ← hnext]
      rfl
  refine ⟨2, ?_⟩
  rw [hready, hready, hstart]
  simp [twoFrames]

/-- The second frame displaces the first, whose `discard` fails, so both are given back. -/
theorem drain_balanced_failing_discard :
    ∃ fuel result w, (∀ more ≥ fuel,
        twoFrames.drainNewestAvailableFrame more 1 ⟨2, [], []⟩ = some (result, w)) ∧
      w.produced = [2, 1] ∧ w.discarded = [2, 1] := by
  obtain ⟨fuel, result, w, hout, -, herr, -⟩ := drain_balanced twoFrames 1 2 twoFrames_runsOut
  have hrun := hout (fuel + 2) (by omega)
  have hthis : twoFrames.drainNewestAvailableFrame (fuel + 2) 1 ⟨2, [], []⟩ =
      some (.error .nativeFailure, ⟨0, [2, 1], [2, 1]⟩) := rfl
  rw [hthis] at hrun
  cases hrun
  exact ⟨fuel, _, _, hout, (herr _ rfl).trans rfl, rfl⟩

end Pool

end CaptureSurfaces
