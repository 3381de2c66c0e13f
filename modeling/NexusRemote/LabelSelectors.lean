import NexusRemote.PolicyModel

/-!
# Label selectors made from pairs (`crates/nexus-policy/src/model.rs`)

`match_all` collects its pairs into a map, so of several pairs with one key only
the last one is left. Whether the selector still requires every pair depends on
the pairs alone.
-/

namespace LabelSelectors

open PolicyModel Tables

/-- The test of one pair, by what it requires of the labels. -/
theorem labelMatches_iff (labels : Labels) (key value : String) :
    labelMatches labels key value = true ↔
      if value = "*" then key = "*" ∨ key ∈ labels
      else if key = "*" then ∃ k : String, labels[k]? = some value
      else labels[key]? = some value := by
  unfold labelMatches
  by_cases hvalue : value = "*"
  · by_cases hkey : key = "*"
    · simp [hvalue, hkey]
    · simp [hvalue, hkey]
  · by_cases hkey : key = "*"
    · simp [hvalue, hkey, ← mem_values]
    · simp [hvalue, hkey]

/-- The selector tests the last pair of each key. -/
theorem matchAllOf_matches (pairs : List (String × String)) (labels : Labels) :
    (DeviceLabelSelector.matchAllOf pairs).matches labels = true ↔
      ∀ key value, LastFor pairs key value → labelMatches labels key value = true := by
  simp only [DeviceLabelSelector.matchAllOf, DeviceLabelSelector.matches, List.all_eq_true,
    Prod.forall, Std.TreeMap.mem_toList_iff_getElem?_eq_some, getElem?_collect]

/-- What a pair requires follows from the last pairs of the keys. -/
def Kept (pairs : List (String × String)) (key value : String) : Prop :=
  value = "*" ∨ LastFor pairs key value ∨ (key = "*" ∧ ∃ k ≠ "*", LastFor pairs k value)

theorem Kept.matches {pairs : List (String × String)} {labels : Labels} {key value : String}
    (h : Kept pairs key value) (hmem : (key, value) ∈ pairs)
    (hall : ∀ k v, LastFor pairs k v → labelMatches labels k v = true) :
    labelMatches labels key value = true := by
  rcases h with rfl | hlast | ⟨rfl, k, hk, hlast⟩
  · obtain ⟨last, hlast⟩ := exists_lastFor pairs key ⟨_, hmem, rfl⟩
    have hmatch := hall key last hlast
    rw [labelMatches_iff] at hmatch ⊢
    rw [if_pos rfl]
    by_cases hkey : key = "*"
    · exact .inl hkey
    · by_cases hstar : last = "*"
      · rwa [if_pos hstar] at hmatch
      · rw [if_neg hstar, if_neg hkey] at hmatch
        exact .inr (Std.TreeMap.mem_iff_isSome_getElem?.mpr (by simp [hmatch]))
  · exact hall key value hlast
  · have hmatch := hall k value hlast
    rw [labelMatches_iff] at hmatch ⊢
    by_cases hstar : value = "*"
    · simp [hstar]
    · rw [if_neg hstar, if_neg hk] at hmatch
      rw [if_neg hstar, if_pos rfl]
      exact ⟨k, hmatch⟩

/-! ## Labels that tell the two apart -/

/-- A value that is not the given one. -/
def otherThan (value : String) : String := if value = "" then "x" else ""

theorem otherThan_ne (value : String) : otherThan value ≠ value := by
  unfold otherThan
  split
  · rename_i h
    rw [h]
    decide
  · rename_i h
    exact Ne.symm h

/-- Labels with the last value of each key, and nothing of `value` for a wildcard. -/
def lastLabels (pairs : List (String × String)) (value : String) : Labels :=
  (collect pairs : Labels).map fun _ last => if last = "*" then otherThan value else last

theorem lastLabels_get (pairs : List (String × String)) (value key v : String) :
    (lastLabels pairs value)[key]? = some v ↔
      ∃ last, LastFor pairs key last ∧ (if last = "*" then otherThan value else last) = v := by
  simp only [lastLabels, Std.TreeMap.getElem?_map, Option.map_eq_some_iff, getElem?_collect]

theorem lastLabels_matches (pairs : List (String × String)) (value key last : String)
    (h : LastFor pairs key last) : labelMatches (lastLabels pairs value) key last = true := by
  have hget := (lastLabels_get pairs value key _).mpr ⟨last, h, rfl⟩
  rw [labelMatches_iff]
  by_cases hstar : last = "*"
  · rw [if_pos hstar]
    exact .inr (Std.TreeMap.mem_iff_isSome_getElem?.mpr (by simp [hget]))
  · rw [if_neg hstar] at hget ⊢
    split
    · exact ⟨key, hget⟩
    · exact hget

/-- They do not satisfy a pair whose requirement was lost. -/
theorem kept_of_lastLabels (pairs : List (String × String)) (key value : String)
    (h : labelMatches (lastLabels pairs value) key value = true) : Kept pairs key value := by
  by_cases hstar : value = "*"
  · exact .inl hstar
  · have hlast : ∀ k, (lastLabels pairs value)[k]? = some value → LastFor pairs k value := by
      intro k hk
      obtain ⟨last, hlast, heq⟩ := (lastLabels_get pairs value k value).mp hk
      split at heq
      · exact absurd heq (otherThan_ne value)
      · rwa [heq] at hlast
    rw [labelMatches_iff, if_neg hstar] at h
    split at h
    · rename_i hkey
      obtain ⟨k, hk⟩ := h
      by_cases hk' : k = "*"
      · rw [hkey, ← hk']
        exact .inr (.inl (hlast k hk))
      · exact .inr (.inr ⟨hkey, k, hk', hlast k hk⟩)
    · exact .inr (.inl (hlast key h))

/-- `match_all` requires every pair, on all labels, exactly if each pair has the value `*`, or is
the last one of its key, or is for any key a value that is the last one of some key. -/
theorem matchAll_every_pair_iff (pairs : List (String × String)) :
    (∀ labels, (DeviceLabelSelector.matchAllOf pairs).matches labels = true ↔
        ∀ p ∈ pairs, (DeviceLabelSelector.exact p.1 p.2).matches labels = true) ↔
      ∀ p ∈ pairs, p.2 = "*" ∨ LastFor pairs p.1 p.2 ∨
        (p.1 = "*" ∧ ∃ k ≠ "*", LastFor pairs k p.2) := by
  simp only [matchAllOf_matches]
  constructor
  · intro hall p hp
    exact kept_of_lastLabels pairs p.1 p.2
      ((hall (lastLabels pairs p.2)).mp (lastLabels_matches pairs p.2) p hp)
  · intro hkept labels
    constructor
    · intro hmatch p hp
      exact Kept.matches (hkept p hp) hp hmatch
    · intro hexact key value hlast
      exact hexact (key, value) hlast.mem

/-- Of two values for one key the first one is forgotten. -/
theorem matchAll_forgets_pair :
    let pairs := [("env", "staging"), ("env", "production")]
    let labels : Labels := collect [("env", "production")]
    (DeviceLabelSelector.matchAllOf pairs).matches labels = true ∧
      ¬∀ p ∈ pairs, (DeviceLabelSelector.exact p.1 p.2).matches labels = true := by
  decide +kernel

end LabelSelectors
