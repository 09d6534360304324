import Mathlib.Data.Finset.Sort
import Mathlib.Data.Finset.Union
import ScuffleVideo.Search.DepthFirst

/-!
# Feature permutations

The power set of a package's features is searched with a stack of sets and the number of
features that each may still add.  A feature that is added takes the features it depends on
out of the set.  The search is a depth-first search of the sets that no skip set is a part
of, in which the alphabetically last feature is tried first.
-/

namespace ScuffleVideo.Features

/-- A `BTreeMap` with features for keys, its entries in their order. -/
structure FeatureMap (Feature : Type) [LinearOrder Feature] (Value : Type) where
  entries : List (Feature × Value)
  sorted : entries.Pairwise (·.1 < ·.1)

/-- What comes of `find_permutations`. -/
inductive Outcome (Feature : Type) where
  | returned (permutations : Finset (Finset Feature))
  | panicked
  deriving DecidableEq

variable {Feature : Type} [LinearOrder Feature]

namespace FeatureMap

section Entries

variable {Value : Type}

def keys (features : FeatureMap Feature Value) : Finset Feature :=
  (features.entries.map Prod.fst).toFinset

def get? (features : FeatureMap Feature Value) (feature : Feature) : Option Value :=
  (features.entries.find? (·.1 = feature)).map Prod.snd

theorem mem_keys {features : FeatureMap Feature Value} {feature : Feature} :
    feature ∈ features.keys ↔ ∃ value, (feature, value) ∈ features.entries := by
  simp [keys]

theorem get?_of_mem {features : FeatureMap Feature Value} {feature : Feature} {value : Value}
    (entry : (feature, value) ∈ features.entries) : features.get? feature = some value := by
  obtain ⟨front, back, split⟩ := List.append_of_mem entry
  have sorted := features.sorted
  rw [split, List.pairwise_append] at sorted
  have passed : ∀ other ∈ front, ¬decide (other.1 = feature) = true := by
    intro other member same
    have less := sorted.2.2 other member (feature, value) List.mem_cons_self
    exact less.ne (of_decide_eq_true same)
  rw [get?, split, List.find?_append, List.find?_eq_none.mpr passed]
  simp

theorem get?_of_notMem {features : FeatureMap Feature Value} {feature : Feature}
    (absent : feature ∉ features.keys) : features.get? feature = none := by
  have none : features.entries.find? (·.1 = feature) = none := by
    rw [List.find?_eq_none]
    rintro ⟨other, value⟩ entry same
    exact absent (mem_keys.mpr ⟨value, of_decide_eq_true same ▸ entry⟩)
  rw [get?, none]
  rfl

end Entries

/-- The dependencies of a feature, none for what is no feature of the map. -/
def deps (features : FeatureMap Feature (Finset Feature)) (feature : Feature) :
    Finset Feature :=
  (features.get? feature).getD ∅

theorem deps_of_mem {features : FeatureMap Feature (Finset Feature)} {feature : Feature}
    {deps : Finset Feature} (entry : (feature, deps) ∈ features.entries) :
    features.deps feature = deps := by
  rw [FeatureMap.deps, get?_of_mem entry]
  rfl

theorem deps_of_notMem {features : FeatureMap Feature (Finset Feature)} {feature : Feature}
    (absent : feature ∉ features.keys) : features.deps feature = ∅ := by
  rw [FeatureMap.deps, get?_of_notMem absent]
  rfl

/-- The features of a set and what they depend on. -/
def closure (features : FeatureMap Feature (Finset Feature)) (start : Finset Feature) :
    Finset Feature :=
  start.biUnion fun feature => insert feature (features.deps feature)

/-- The set `flattened`.  There is none where a feature is not in the map, which the code
indexes by it. -/
def flattened (features : FeatureMap Feature (Finset Feature)) (start : Finset Feature) :
    Option (Finset Feature) :=
  if start ⊆ features.keys then some (features.closure start) else none

theorem mem_closure {features : FeatureMap Feature (Finset Feature)} {start : Finset Feature}
    {feature : Feature} :
    feature ∈ features.closure start ↔
      ∃ member ∈ start, feature = member ∨ feature ∈ features.deps member := by
  simp [closure]

/-- `new_start`: a feature is added and its dependencies are removed. -/
def adding (features : FeatureMap Feature (Finset Feature)) (start : Finset Feature)
    (feature : Feature) : Finset Feature :=
  insert feature start \ features.deps feature

end FeatureMap

/-- The sets that are pushed for one set, in the order of the features. -/
def newStarts (viableFeatures : FeatureMap Feature (Finset Feature))
    (skipFeatureSets permutations : Finset (Finset Feature)) (start flattened : Finset Feature) :
    List (Finset Feature) :=
  viableFeatures.entries.filterMap fun (feature, deps) =>
    if feature ∈ flattened then none
    else
      let newStart := insert feature start \ deps
      if newStart ∈ permutations ∨ newStart ∈ skipFeatureSets then none else some newStart

namespace findPermutations

/-- The loop of `find_permutations`, the top of its stack in front. -/
def loop (viableFeatures : FeatureMap Feature (Finset Feature))
    (skipFeatureSets : Finset (Finset Feature)) :
    ℕ → List (Finset Feature × ℕ) → Finset (Finset Feature) → Option (Outcome Feature)
  | 0, _, _ => none
  | _ + 1, [], permutations => some (.returned permutations)
  | fuel + 1, (start, rem) :: stack, permutations =>
      if (∃ skipped ∈ skipFeatureSets, skipped ⊆ start) ∨ start ∈ permutations then
        loop viableFeatures skipFeatureSets fuel stack permutations
      else
        let permutations := insert start permutations
        if rem = 0 then loop viableFeatures skipFeatureSets fuel stack permutations
        else
          match viableFeatures.flattened start with
          | none => some .panicked
          | some flattened =>
              let pushed := newStarts viableFeatures skipFeatureSets permutations start flattened
              loop viableFeatures skipFeatureSets fuel
                ((pushed.map fun newStart => (newStart, rem - 1)).reverse ++ stack) permutations

/-- A loop that has ended is not changed by more fuel. -/
theorem loop_add {viableFeatures : FeatureMap Feature (Finset Feature)}
    {skipFeatureSets : Finset (Finset Feature)} {fuel : ℕ} {stack : List (Finset Feature × ℕ)}
    {permutations : Finset (Finset Feature)} {outcome : Outcome Feature} (more : ℕ)
    (ended : loop viableFeatures skipFeatureSets fuel stack permutations = some outcome) :
    loop viableFeatures skipFeatureSets (fuel + more) stack permutations = some outcome := by
  fun_induction loop viableFeatures skipFeatureSets fuel stack permutations with
  | case1 => cases ended
  | case2 => rw [Nat.succ_add, loop, ended]
  | case3 fuel start rem stack permutations passed ih =>
      rw [Nat.succ_add, loop, if_pos passed]
      exact ih ended
  | case4 fuel start stack permutations fresh added ih =>
      rw [Nat.succ_add, loop, if_neg fresh]
      exact ih ended
  | case5 fuel start rem stack permutations fresh left unknown =>
      rw [Nat.succ_add, loop, if_neg fresh]
      simp only [if_neg left, unknown]
      exact ended
  | case6 fuel start rem stack permutations fresh added left flattened known pushed ih =>
      rw [Nat.succ_add, loop, if_neg fresh]
      simp only [if_neg left, known]
      exact ih ended

end findPermutations

/-- `find_permutations`; without fuel enough there is no outcome. -/
def findPermutations (fuel : ℕ) (initialStart : Finset Feature) (remaining : ℕ)
    (permutations : Finset (Finset Feature)) (viableFeatures : FeatureMap Feature (Finset Feature))
    (skipFeatureSets : Finset (Finset Feature)) : Option (Outcome Feature) :=
  findPermutations.loop viableFeatures skipFeatureSets fuel [(initialStart, remaining)]
    permutations

theorem findPermutations_unique {fuel enough : ℕ} {initialStart : Finset Feature}
    {remaining : ℕ} {permutations skipFeatureSets : Finset (Finset Feature)}
    {viableFeatures : FeatureMap Feature (Finset Feature)} {outcome other : Outcome Feature}
    (ended : findPermutations fuel initialStart remaining permutations viableFeatures
      skipFeatureSets = some outcome)
    (also : findPermutations enough initialStart remaining permutations viableFeatures
      skipFeatureSets = some other) : outcome = other := by
  have first := findPermutations.loop_add enough ended
  have second := findPermutations.loop_add fuel also
  rw [Nat.add_comm] at second
  exact Option.some.inj (first.symm.trans second)

end ScuffleVideo.Features
