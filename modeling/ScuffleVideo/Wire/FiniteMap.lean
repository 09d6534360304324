import Mathlib.Data.List.AList

/-!
# Counting the keys of a finite map

Insertion adds a key unless it is present, and removal takes one away.  A map
all of whose keys lie in a finite set has no more keys than the set.
-/

namespace ScuffleVideo.Wire.FiniteMap

variable {α : Type} {β : α → Type} [DecidableEq α]

theorem length_keys_insert_of_mem {map : AList β} {key : α} (value : β key)
    (held : key ∈ map) : (map.insert key value).keys.length = map.keys.length := by
  have member := AList.mem_keys.mp held
  have positive := List.length_pos_of_mem member
  rw [AList.keys_insert, List.length_cons, List.length_erase_of_mem member]
  omega

theorem length_keys_insert_of_notMem {map : AList β} {key : α} (value : β key)
    (absent : key ∉ map) : (map.insert key value).keys.length = map.keys.length + 1 := by
  have missing := fun member => absent (AList.mem_keys.mpr member)
  rw [AList.keys_insert, List.length_cons, List.erase_of_not_mem missing]

theorem length_keys_erase_le (map : AList β) (key : α) :
    (map.erase key).keys.length ≤ map.keys.length := by
  rw [AList.keys_erase]
  exact List.length_erase_le

theorem lookup_erase_eq_some {map : AList β} {removed key : α} {value : β key}
    (found : (map.erase removed).lookup key = some value) :
    key ≠ removed ∧ map.lookup key = some value := by
  have different : key ≠ removed := by
    rintro rfl
    rw [AList.lookup_erase] at found
    cases found
  exact ⟨different, by rwa [AList.lookup_erase_ne different] at found⟩

omit [DecidableEq α] in
/-- A map whose keys are told apart by their images in a list has no more keys
than the list has entries. -/
theorem length_keys_le {γ : Type} (map : AList β) (image : α → γ) (list : List γ)
    (inside : ∀ key ∈ map, image key ∈ list)
    (apart : ∀ key ∈ map, ∀ other ∈ map, image key = image other → key = other) :
    map.keys.length ≤ list.length := by
  have nodup : (map.keys.map image).Nodup := by
    refine List.Nodup.map_on ?_ map.keys_nodup
    intro key member other otherMember same
    exact apart key (AList.mem_keys.mpr member) other (AList.mem_keys.mpr otherMember) same
  have subset : map.keys.map image ⊆ list := by
    intro value member
    obtain ⟨key, held, rfl⟩ := List.mem_map.mp member
    exact inside key (AList.mem_keys.mpr held)
  rw [← List.length_map image]
  exact (List.subperm_of_subset nodup subset).length_le

theorem eq_empty_of_lookup {map : AList β} (absent : ∀ key, map.lookup key = none) : map = ∅ := by
  apply AList.ext
  cases entries : map.entries with
  | nil => rfl
  | cons entry rest =>
      have held : entry.1 ∈ map := by
        rw [AList.mem_keys, AList.keys, entries]
        exact List.mem_cons_self
      exact absurd held (AList.lookup_eq_none.mp (absent entry.1))

end ScuffleVideo.Wire.FiniteMap
