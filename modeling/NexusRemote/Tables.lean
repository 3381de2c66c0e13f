import Mathlib

/-!
# Entries of ordered tables

What an entry of an updated table was before the update, the rules for a
property that every entry of a table has, and the table of a list of pairs, where
a later value replaces an earlier one.
-/

namespace Tables

variable {κ α : Type} {cmp : κ → κ → Ordering} {P Q : κ → α → Prop} {t : Std.TreeMap κ α cmp}

/-- Every entry has the property. -/
def All (P : κ → α → Prop) (t : Std.TreeMap κ α cmp) : Prop := ∀ k v, t[k]? = some v → P k v

theorem All.mono (h : All P t) (himp : ∀ k v, P k v → Q k v) : All Q t :=
  fun k v hv => himp k v (h k v hv)

/-- A key that is present keeps its entry, and nothing else changes. -/
theorem insertIfNew_of_mem (t : Std.TreeMap κ α cmp) (k : κ) (v : α) (h : k ∈ t) :
    t.insertIfNew k v = t := by
  obtain ⟨⟨impl, wf⟩⟩ := t
  have hc : @Std.DTreeMap.Internal.Impl.contains κ (fun _ => α) ⟨cmp⟩ k impl = true := h
  simp only [Std.TreeMap.insertIfNew, Std.DTreeMap.insertIfNew,
    Std.DTreeMap.Internal.Impl.insertIfNew, hc, if_true]

theorem values_eq (t : Std.TreeMap κ α cmp) : t.values = t.toList.map Prod.snd := by
  change Std.DTreeMap.Internal.Impl.values t.inner.inner =
    (Std.DTreeMap.Internal.Impl.Const.toList t.inner.inner).map Prod.snd
  rw [Std.DTreeMap.Internal.Impl.values_eq_map_snd,
    Std.DTreeMap.Internal.Impl.Const.toList_eq_toListModel_map, List.map_map]
  rfl

/-- The table of the pairs, inserted in their order. -/
def collect (pairs : List (κ × α)) : Std.TreeMap κ α cmp :=
  pairs.foldl (fun t p => t.insert p.1 p.2) ∅

/-- The last pair with the key has the value. -/
def LastFor (pairs : List (κ × α)) (k : κ) (v : α) : Prop :=
  ∃ before after, pairs = before ++ (k, v) :: after ∧ ∀ p ∈ after, p.1 ≠ k

theorem LastFor.mem {pairs : List (κ × α)} {k : κ} {v : α} (h : LastFor pairs k v) :
    (k, v) ∈ pairs := by
  obtain ⟨before, after, rfl, -⟩ := h
  simp

theorem lastFor_cons (p : κ × α) (pairs : List (κ × α)) (k : κ) (v : α) :
    LastFor (p :: pairs) k v ↔ LastFor pairs k v ∨ (p = (k, v) ∧ ∀ q ∈ pairs, q.1 ≠ k) := by
  constructor
  · rintro ⟨before, after, heq, hlast⟩
    cases before with
    | nil =>
      obtain ⟨rfl, rfl⟩ := List.cons.inj heq
      exact .inr ⟨rfl, hlast⟩
    | cons q before =>
      obtain ⟨rfl, rfl⟩ := List.cons.inj heq
      exact .inl ⟨before, after, rfl, hlast⟩
  · rintro (⟨before, after, rfl, hlast⟩ | ⟨rfl, hlast⟩)
    · exact ⟨p :: before, after, rfl, hlast⟩
    · exact ⟨[], pairs, rfl, hlast⟩

/-- A key that occurs has a last value. -/
theorem exists_lastFor (pairs : List (κ × α)) (k : κ) (h : ∃ p ∈ pairs, p.1 = k) :
    ∃ v, LastFor pairs k v := by
  induction pairs with
  | nil =>
    obtain ⟨p, hp, -⟩ := h
    cases hp
  | cons p pairs ih =>
    simp only [lastFor_cons]
    by_cases hlater : ∃ q ∈ pairs, q.1 = k
    · obtain ⟨v, hv⟩ := ih hlater
      exact ⟨v, .inl hv⟩
    · obtain ⟨q, hq, rfl⟩ := h
      rcases List.mem_cons.mp hq with rfl | hq
      · exact ⟨q.2, .inr ⟨rfl, fun q' hq' heq => hlater ⟨q', hq', heq⟩⟩⟩
      · exact absurd ⟨q, hq, rfl⟩ hlater

variable [Std.TransCmp cmp]

theorem all_empty : All P (∅ : Std.TreeMap κ α cmp) := by
  intro k v h
  simp at h

variable [Std.LawfulEqCmp cmp]

theorem getElem?_of_erase (t : Std.TreeMap κ α cmp) (k k' : κ) (v : α)
    (h : (t.erase k)[k']? = some v) : k ≠ k' ∧ t[k']? = some v := by
  rw [Std.TreeMap.getElem?_erase] at h
  split at h
  · cases h
  · rename_i hne
    rw [Std.LawfulEqCmp.compare_eq_iff_eq] at hne
    exact ⟨hne, h⟩

theorem getElem?_insert_cases (t : Std.TreeMap κ α cmp) (k k' : κ) (v w : α)
    (h : (t.insert k v)[k']? = some w) : (k = k' ∧ v = w) ∨ (k ≠ k' ∧ t[k']? = some w) := by
  rw [Std.TreeMap.getElem?_insert] at h
  split at h
  · rename_i hk
    exact .inl ⟨Std.LawfulEqCmp.compare_eq_iff_eq.mp hk, Option.some.inj h⟩
  · rename_i hk
    rw [Std.LawfulEqCmp.compare_eq_iff_eq] at hk
    exact .inr ⟨hk, h⟩

theorem getElem?_insert_of_ne (t : Std.TreeMap κ α cmp) {k k' : κ} (v : α) (h : k ≠ k') :
    (t.insert k v)[k']? = t[k']? := by
  rw [Std.TreeMap.getElem?_insert, if_neg]
  rwa [Std.LawfulEqCmp.compare_eq_iff_eq]

theorem getElem?_erase_of_ne (t : Std.TreeMap κ α cmp) {k k' : κ} (h : k ≠ k') :
    (t.erase k)[k']? = t[k']? := by
  rw [Std.TreeMap.getElem?_erase, if_neg]
  rwa [Std.LawfulEqCmp.compare_eq_iff_eq]

theorem getElem?_insertIfNew_cases (t : Std.TreeMap κ α cmp) (k k' : κ) (v w : α)
    (h : (t.insertIfNew k v)[k']? = some w) : (k = k' ∧ v = w) ∨ t[k']? = some w := by
  rw [Std.TreeMap.getElem?_insertIfNew] at h
  split at h
  · rename_i hnew
    exact .inl ⟨Std.LawfulEqCmp.compare_eq_iff_eq.mp hnew.1, Option.some.inj h⟩
  · exact .inr h

theorem mem_values (t : Std.TreeMap κ α cmp) (v : α) :
    v ∈ t.values ↔ ∃ k : κ, t[k]? = some v := by
  rw [values_eq, List.mem_map]
  constructor
  · rintro ⟨⟨k, v⟩, hmem, rfl⟩
    exact ⟨k, Std.TreeMap.mem_toList_iff_getElem?_eq_some.mp hmem⟩
  · rintro ⟨k, hk⟩
    exact ⟨(k, v), Std.TreeMap.mem_toList_iff_getElem?_eq_some.mpr hk, rfl⟩

theorem getElem?_foldl_insert (pairs : List (κ × α)) (t : Std.TreeMap κ α cmp) (k : κ) (v : α) :
    (pairs.foldl (fun t p => t.insert p.1 p.2) t)[k]? = some v ↔
      LastFor pairs k v ∨ ((∀ p ∈ pairs, p.1 ≠ k) ∧ t[k]? = some v) := by
  induction pairs generalizing t with
  | nil =>
    have hnil : ¬LastFor ([] : List (κ × α)) k v := fun h => List.not_mem_nil h.mem
    simp [hnil]
  | cons p pairs ih =>
    rw [List.foldl_cons, ih, lastFor_cons]
    by_cases hk : p.1 = k
    · subst hk
      have hnot : ¬((∀ q ∈ p :: pairs, q.1 ≠ p.1) ∧ t[p.1]? = some v) :=
        fun h => h.1 p List.mem_cons_self rfl
      rw [or_iff_left hnot, Std.TreeMap.getElem?_insert_self, Option.some.injEq, Prod.ext_iff,
        and_iff_right rfl, and_comm]
    · have hp : ¬p = (k, v) := fun h => hk (congrArg Prod.fst h)
      simp [getElem?_insert_of_ne t p.2 hk, hk, hp]

theorem getElem?_collect (pairs : List (κ × α)) (k : κ) (v : α) :
    (collect pairs : Std.TreeMap κ α cmp)[k]? = some v ↔ LastFor pairs k v := by
  rw [collect, getElem?_foldl_insert]
  simp

theorem All.erase (h : All P t) (k : κ) : All P (t.erase k) :=
  fun k' v hv => h k' v (getElem?_of_erase t k k' v hv).2

theorem All.insert (h : All P t) (k : κ) (v : α) (hv : P k v) : All P (t.insert k v) := by
  intro k' w hw
  rcases getElem?_insert_cases t k k' v w hw with ⟨rfl, rfl⟩ | ⟨-, hw⟩
  · exact hv
  · exact h k' w hw

theorem All.insertIfNew (h : All P t) (k : κ) (v : α) (hv : P k v) : All P (t.insertIfNew k v) := by
  intro k' w hw
  rcases getElem?_insertIfNew_cases t k k' v w hw with ⟨rfl, rfl⟩ | hw
  · exact hv
  · exact h k' w hw

end Tables
