import Mathlib

/-!
# Cutting a list into fragments and collecting them again

`chunks k xs` cuts a list into consecutive pieces of length `k`, the last one
possibly shorter. `slots xs S` is the table of a collector that has received
the pieces with index in `S`: one optional entry per piece, in order, whatever
the order of arrival was. `held` is the total size of what it has received.
`among` is the set of indices that some arrivals cover.
-/

namespace Fragments

variable {α : Type}

/-- Number of pieces of length `k` that cover `n` elements. -/
def pieces (k n : Nat) : Nat := (n + k - 1) / k

def chunks (k : Nat) (xs : List α) : List (List α) :=
  (List.range (pieces k xs.length)).map fun i => (xs.drop (i * k)).take k

@[simp] theorem length_chunks (k : Nat) (xs : List α) :
    (chunks k xs).length = pieces k xs.length := by simp [chunks]

theorem pieces_cover (k n : Nat) (hk : 0 < k) : n ≤ pieces k n * k := by
  have h := Nat.div_add_mod (n + k - 1) k
  have hm := Nat.mod_lt (n + k - 1) hk
  have hc : k * ((n + k - 1) / k) = pieces k n * k := by rw [pieces, Nat.mul_comm]
  omega

theorem pieces_pos (k n : Nat) (hk : 0 < k) (hn : 0 < n) : 0 < pieces k n := by
  rw [pieces, Nat.div_pos_iff]
  omega

theorem pieces_mono (k m n : Nat) (h : m ≤ n) : pieces k m ≤ pieces k n :=
  Nat.div_le_div_right (by omega)

/-- The first `m` windows of width `k` are together the first `m * k` elements. -/
theorem windows_flatten (k m : Nat) (xs : List α) :
    ((List.range m).map fun i => (xs.drop (i * k)).take k).flatten = xs.take (m * k) := by
  induction m with
  | zero => simp
  | succ m ih =>
    rw [List.range_succ, List.map_append, List.flatten_append, ih, Nat.succ_mul, List.take_add]
    simp

/-- Nothing is lost or repeated by cutting. -/
theorem flatten_chunks (k : Nat) (xs : List α) (hk : 0 < k) : (chunks k xs).flatten = xs := by
  rw [chunks, windows_flatten]
  exact List.take_of_length_le (pieces_cover k xs.length hk)

theorem length_le_of_mem_chunks (k : Nat) (xs c : List α) (h : c ∈ chunks k xs) : c.length ≤ k := by
  obtain ⟨i, _, rfl⟩ := List.mem_map.mp h
  simp [List.length_take]

/-- The collector's table after the pieces in `S` have arrived. -/
def slots (xs : List α) (S : Finset Nat) : List (Option α) :=
  xs.mapIdx fun i x => if i ∈ S then some x else none

@[simp] theorem length_slots (xs : List α) (S : Finset Nat) : (slots xs S).length = xs.length := by
  simp [slots]

theorem slots_get (xs : List α) (S : Finset Nat) (i : Nat) (h : i < xs.length) :
    (slots xs S)[i]? = some (if i ∈ S then some xs[i] else none) := by
  simp [slots, h]

theorem slots_none (xs : List α) : slots xs ∅ = List.replicate xs.length none := by
  apply List.ext_getElem <;> simp [slots]

theorem slots_insert (xs : List α) (S : Finset Nat) (i : Nat) (h : i < xs.length) :
    (slots xs S).set i (some xs[i]) = slots xs (insert i S) := by
  apply List.ext_getElem
  · simp
  · intro j hj hj'
    by_cases he : i = j
    · subst he; simp [slots]
    · simp [slots, he, Ne.symm he]

/-- Once every piece is there, the table holds the pieces in their order. -/
theorem slots_all (xs : List α) (S : Finset Nat) (h : ∀ i < xs.length, i ∈ S) :
    (slots xs S).filterMap id = xs := by
  have hs : slots xs S = xs.map some := by
    apply List.ext_getElem
    · simp
    · intro i hi hi'
      simp [slots, h i (by simpa using hi')]
  rw [hs, List.filterMap_map]
  simp

/-- Total length of the pieces in `S`. -/
def held (xs : List (List α)) (S : Finset Nat) : Nat := ∑ i ∈ S, (xs.getD i []).length

@[simp] theorem held_none (xs : List (List α)) : held xs ∅ = 0 := by simp [held]

theorem held_insert (xs : List (List α)) (S : Finset Nat) (i : Nat) (h : i < xs.length)
    (hi : i ∉ S) : held xs (insert i S) = held xs S + xs[i].length := by
  simp [held, Finset.sum_insert hi, h, Nat.add_comm]

theorem held_range (xs : List (List α)) : held xs (Finset.range xs.length) = xs.flatten.length := by
  induction xs with
  | nil => simp [held]
  | cons x xs ih =>
    rw [held, List.length_cons, Finset.sum_range_succ']
    simp only [List.getD_cons_succ, List.getD_cons_zero, List.flatten_cons, List.length_append]
    rw [held] at ih
    omega

/-- A collector never holds more than the whole list. -/
theorem held_le (xs : List (List α)) (S : Finset Nat) (h : S ⊆ Finset.range xs.length) :
    held xs S ≤ xs.flatten.length := by
  rw [← held_range xs]
  exact Finset.sum_le_sum_of_subset h

/-- A set of indices below `n` is everything exactly when it has `n` members. -/
theorem card_eq_iff (n : Nat) (S : Finset Nat) (h : S ⊆ Finset.range n) :
    S.card = n ↔ S = Finset.range n := by
  constructor
  · intro hc
    exact Finset.eq_of_subset_of_card_le h (by simp [hc])
  · rintro rfl
    simp

/-! ## A table of optional pieces -/

/-- The number of slots that hold a piece. -/
def filled (slots : List (Option α)) : Nat := slots.countP Option.isSome

/-- The total length of the pieces that are held. -/
def stored (slots : List (Option (List α))) : Nat := ((slots.filterMap id).map List.length).sum

@[simp] theorem filled_none (n : Nat) : filled (List.replicate n (none : Option α)) = 0 := by
  simp [filled, List.countP_replicate]

@[simp] theorem stored_none (n : Nat) : stored (List.replicate n (none : Option (List α))) = 0 := by
  simp [stored, List.filterMap_replicate_of_none]

theorem filled_set (slots : List (Option α)) (i : Nat) (x : α) (h : slots[i]? = some none) :
    filled (slots.set i (some x)) = filled slots + 1 := by
  obtain ⟨hi, hnone⟩ := List.getElem?_eq_some_iff.mp h
  simp [filled, List.countP_set hi, hnone]

theorem stored_set (slots : List (Option (List α))) (i : Nat) (x : List α)
    (h : slots[i]? = some none) : stored (slots.set i (some x)) = stored slots + x.length := by
  obtain ⟨hi, hnone⟩ := List.getElem?_eq_some_iff.mp h
  have hslots : slots = slots.take i ++ none :: slots.drop (i + 1) := by
    rw [← hnone, ← List.drop_eq_getElem_cons hi, List.take_append_drop]
  rw [List.set_eq_take_append_cons_drop, if_pos hi]
  nth_rewrite 3 [hslots]
  simp only [stored, List.filterMap_append, List.filterMap_cons, id_eq, List.map_append,
    List.map_cons, List.sum_append, List.sum_cons]
  omega

theorem length_flatten_stored (slots : List (Option (List α))) :
    (slots.filterMap id).flatten.length = stored slots := by
  rw [List.length_flatten, stored]

/-- If every slot is filled, and the piece in slot `i` comes from something that is right for
`i`, then the whole table comes from a list of such things. -/
theorem exists_sources {β : Type} (slots : List (Option α)) (piece : β → α) (Right : Nat → β → Prop)
    (hall : filled slots = slots.length)
    (hright : ∀ i x, slots[i]? = some (some x) → ∃ y, Right i y ∧ piece y = x) :
    ∃ ys : List β, ys.length = slots.length ∧ (∀ i y, ys[i]? = some y → Right i y) ∧
      slots.filterMap id = ys.map piece := by
  induction slots generalizing Right with
  | nil => exact ⟨[], rfl, by simp, rfl⟩
  | cons slot slots ih =>
    simp only [filled, List.countP_eq_length, List.forall_mem_cons] at hall
    obtain ⟨x, rfl⟩ := Option.isSome_iff_exists.mp hall.1
    obtain ⟨y, hy, rfl⟩ := hright 0 x rfl
    obtain ⟨ys, hlen, hys, hmap⟩ := ih (fun i => Right (i + 1))
      (by simpa only [filled, List.countP_eq_length] using hall.2)
      (fun i x hx => hright (i + 1) x (by simpa using hx))
    refine ⟨y :: ys, by simp [hlen], ?_, ?_⟩
    · intro i z hz
      cases i with
      | zero =>
        obtain rfl : y = z := by simpa using hz
        exact hy
      | succ i => exact hys i z (by simpa using hz)
    · rw [List.map_cons, ← hmap]
      rfl

/-! ## What has arrived -/

section
variable {β : Type} [DecidableEq β]

/-- The indices below `n` whose item is among the arrivals. -/
def among (item : Nat → β) (n : Nat) (arrived : List β) : Finset Nat :=
  (Finset.range n).filter fun i => item i ∈ arrived

theorem mem_among (item : Nat → β) (n : Nat) (arrived : List β) (i : Nat) :
    i ∈ among item n arrived ↔ i < n ∧ item i ∈ arrived := by simp [among]

@[simp] theorem among_nil (item : Nat → β) (n : Nat) : among item n [] = ∅ := by simp [among]

/-- One more arrival adds its own index. -/
theorem among_concat (item : Nat → β) (n : Nat) (arrived : List β) (i : Nat) (hi : i < n)
    (hinj : ∀ j < n, item j = item i → j = i) :
    among item n (arrived ++ [item i]) = insert i (among item n arrived) := by
  ext j
  simp only [mem_among, Finset.mem_insert, List.mem_append, List.mem_singleton]
  constructor
  · rintro ⟨hj, h | h⟩
    · exact .inr ⟨hj, h⟩
    · exact .inl (hinj j hj h)
  · rintro (rfl | ⟨hj, h⟩)
    · exact ⟨hi, .inr rfl⟩
    · exact ⟨hj, .inl h⟩

/-- Every index is covered exactly when every item has arrived. -/
theorem among_all_iff (item : Nat → β) (n : Nat) (arrived : List β) :
    among item n arrived = Finset.range n ↔ ∀ x ∈ (List.range n).map item, x ∈ arrived := by
  rw [among, Finset.filter_eq_self]
  simp only [Finset.mem_range, List.mem_map, List.mem_range]
  constructor
  · rintro h x ⟨i, hi, rfl⟩
    exact h i hi
  · intro h i hi
    exact h _ ⟨i, hi, rfl⟩

end

/-- A list that contains some items has a point at which the last missing one arrives. -/
theorem exists_last_missing {β : Type} (items arrivals : List β) (hne : items ≠ [])
    (h : ∀ x ∈ items, x ∈ arrivals) :
    ∃ before last rest, arrivals = before ++ last :: rest ∧ (∃ x ∈ items, x ∉ before) ∧
      ∀ x ∈ items, x ∈ before ++ [last] := by
  induction arrivals using List.reverseRecOn with
  | nil =>
    obtain ⟨x, hx⟩ := List.exists_mem_of_ne_nil items hne
    exact absurd (h x hx) (by simp)
  | append_singleton arrivals last ih =>
    by_cases hall : ∀ x ∈ items, x ∈ arrivals
    · obtain ⟨before, last', rest, rfl, hmissing, hcomplete⟩ := ih hall
      exact ⟨before, last', rest ++ [last], by simp, hmissing, hcomplete⟩
    · push Not at hall
      exact ⟨arrivals, last, [], rfl, hall, h⟩

end Fragments
