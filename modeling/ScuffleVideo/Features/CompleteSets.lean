import Mathlib.Data.String.Basic
import ScuffleVideo.Features.PowerSet
import ScuffleVideo.Search.ClosedSets

/-!
# Complete power sets

Where each skip set has one feature at most, a skip set only takes a feature out of the
search, and how many features the leading order to a combination has can be read off it:
they are the features that the combination covers and on which no alphabetically later one
depends.  A dependency that comes later in the alphabet is tried before the feature that
replaces it, and takes a step that is then missing.
-/

namespace ScuffleVideo.Features

variable {Feature : Type} [LinearOrder Feature]

section Excluded

variable (viableFeatures : DependencyMap Feature) (skipFeatureSets : Finset (Finset Feature))

/-- The features that are not excluded. -/
def usable : Finset Feature :=
  viableFeatures.keys.filter fun feature => {feature} ∉ skipFeatureSets

/-- What a combination covers of the features that are not excluded. -/
def covered (start : Finset Feature) : Finset Feature :=
  viableFeatures.closure start ∩ usable viableFeatures skipFeatureSets

/-- The covered features on which no alphabetically later one depends. -/
def exposed (start : Finset Feature) : Finset Feature :=
  (covered viableFeatures skipFeatureSets start).filter fun feature =>
    ∀ later ∈ covered viableFeatures skipFeatureSets start, feature < later →
      feature ∉ viableFeatures.deps later

variable {viableFeatures skipFeatureSets}

theorem Combination.usable {start : Finset Feature}
    (combination : Combination viableFeatures skipFeatureSets start) {feature : Feature}
    (member : feature ∈ start) : feature ∈ usable viableFeatures skipFeatureSets := by
  refine Finset.mem_filter.mpr ⟨combination.viable member, fun excluded => ?_⟩
  exact combination.unskipped {feature} excluded (Finset.singleton_subset_iff.mpr member)

/-- A combination is told by what it covers: its members are the features on which no other
covered feature depends. -/
theorem Combination.subset_of_covered {start other : Finset Feature}
    (combination : Combination viableFeatures skipFeatureSets start)
    (also : Combination viableFeatures skipFeatureSets other)
    (same : covered viableFeatures skipFeatureSets start =
      covered viableFeatures skipFeatureSets other) : start ⊆ other := by
  intro feature member
  have inside : feature ∈ covered viableFeatures skipFeatureSets start :=
    Finset.mem_inter.mpr ⟨FeatureMap.mem_closure.mpr ⟨feature, member, .inl rfl⟩,
      combination.usable member⟩
  rw [same, covered, Finset.mem_inter, FeatureMap.mem_closure] at inside
  obtain ⟨⟨above, chosen, rfl | dependency⟩, _⟩ := inside
  · exact chosen
  · have covers : above ∈ covered viableFeatures skipFeatureSets other :=
      Finset.mem_inter.mpr ⟨FeatureMap.mem_closure.mpr ⟨above, chosen, .inl rfl⟩,
        also.usable chosen⟩
    rw [← same, covered, Finset.mem_inter, FeatureMap.mem_closure] at covers
    obtain ⟨⟨top, topMember, equal⟩, _⟩ := covers
    have under : feature ∈ viableFeatures.deps top := by
      obtain rfl | below := equal
      · exact dependency
      · exact viableFeatures.deps_subset below dependency
    refine absurd under (combination.independent top topMember feature member ?_)
    rintro rfl
    exact viableFeatures.notMem_deps top under

theorem unskipped_adding (single : ∀ skipped ∈ skipFeatureSets, skipped.card ≤ 1)
    {start : Finset Feature} (unskipped : Unskipped skipFeatureSets start) {feature : Feature}
    (included : feature ∈ usable viableFeatures skipFeatureSets) :
    Unskipped skipFeatureSets (viableFeatures.adding start feature) := by
  intro skipped member part
  refine unskipped skipped member fun other inside => ?_
  obtain ⟨rfl | old, _⟩ := viableFeatures.mem_adding.mp (part inside)
  · have alone : skipped = {other} :=
      Finset.eq_singleton_iff_unique_mem.mpr ⟨inside, fun another within =>
        Finset.card_le_one.mp (single skipped member) another within other inside⟩
    exact absurd (alone ▸ member) (Finset.mem_filter.mp included).2
  · exact old

/-- The search of the combinations is a search of the sets that they cover. -/
def growth (viableFeatures : DependencyMap Feature)
    {skipFeatureSets : Finset (Finset Feature)}
    (single : ∀ skipped ∈ skipFeatureSets, skipped.card ≤ 1)
    (unskipped : Unskipped skipFeatureSets ∅) : Search.Growth (Finset Feature) Feature where
  toLabelledGraph := viableFeatures.combinations skipFeatureSets
  start := ∅
  content := covered viableFeatures skipFeatureSets
  below feature := viableFeatures.deps feature ∩ usable viableFeatures skipFeatureSets
  usable := usable viableFeatures skipFeatureSets
  valid := Combination viableFeatures skipFeatureSets
  before_iff := Iff.rfl
  below_trans _ lower :=
    Finset.inter_subset_inter_right (viableFeatures.deps_subset (Finset.mem_inter.mp lower).1)
  start_valid := combination_empty unskipped
  content_start := rfl
  content_usable _ := Finset.inter_subset_right
  content_closed := by
    intro start feature _ member
    refine Finset.inter_subset_inter_right fun dep below => ?_
    obtain ⟨top, chosen, equal⟩ := FeatureMap.mem_closure.mp (Finset.mem_inter.mp member).1
    refine FeatureMap.mem_closure.mpr ⟨top, chosen, .inr ?_⟩
    obtain rfl | under := equal
    · exact below
    · exact viableFeatures.deps_subset under below
  ext_content combination also same :=
    Finset.Subset.antisymm (combination.subset_of_covered also same)
      (also.subset_of_covered combination same.symm)
  exists_step := by
    intro start feature combination included fresh
    refine ⟨_, viableFeatures.next_eq_some_iff.mpr ⟨(Finset.mem_filter.mp included).1, ?_,
      unskipped_adding single combination.unskipped included, rfl⟩⟩
    exact fun member => fresh (Finset.mem_inter.mpr ⟨member, included⟩)
  of_step := by
    intro start target feature combination added
    have reached := (combination.step added).1
    obtain ⟨_, fresh, _, rfl⟩ := viableFeatures.next_eq_some_iff.mp added
    have included := reached.usable
      (viableFeatures.mem_adding.mpr ⟨.inl rfl, viableFeatures.notMem_deps feature⟩)
    refine ⟨reached, included, fun member => fresh (Finset.mem_inter.mp member).1, ?_⟩
    rw [covered, covered, viableFeatures.closure_adding, Finset.union_inter_distrib_right,
      Finset.insert_inter_of_mem included]

theorem exposed_eq (single : ∀ skipped ∈ skipFeatureSets, skipped.card ≤ 1)
    (unskipped : Unskipped skipFeatureSets ∅) (start : Finset Feature) :
    (growth viableFeatures single unskipped).exposed
        (covered viableFeatures skipFeatureSets start) =
      exposed viableFeatures skipFeatureSets start := by
  refine Finset.filter_congr fun feature member => ?_
  refine forall₃_congr fun later _ _ => not_congr ?_
  exact Finset.mem_inter.trans (and_iff_left (Finset.mem_inter.mp member).2)

/-- The sets that are one feature away from a combination with fewer exposed features than
the limit. -/
def WithinReach (viableFeatures : DependencyMap Feature)
    (skipFeatureSets : Finset (Finset Feature)) (limit : ℕ) (target : Finset Feature) : Prop :=
  ∃ start feature, Combination viableFeatures skipFeatureSets start ∧
    (viableFeatures.combinations skipFeatureSets).next start feature = some target ∧
      (exposed viableFeatures skipFeatureSets start).card < limit

theorem reachedInTime_iff_withinReach
    (single : ∀ skipped ∈ skipFeatureSets, skipped.card ≤ 1)
    (unskipped : Unskipped skipFeatureSets ∅) {limit : ℕ} {target : Finset Feature} :
    ReachedInTime viableFeatures skipFeatureSets limit target ↔
      WithinReach viableFeatures skipFeatureSets limit target := by
  have short {start : Finset Feature}
      (combination : Combination viableFeatures skipFeatureSets start) :
      (∃ order, (viableFeatures.combinations skipFeatureSets).Leading limit ∅ start order ∧
        order.length < limit) ↔ (exposed viableFeatures skipFeatureSets start).card < limit := by
    rw [← exposed_eq single unskipped]
    exact (growth viableFeatures single unskipped).exists_short_leading_iff combination
  constructor
  · rintro ⟨start, feature, order, added, leading, room⟩
    have combination := (admissible_of_arrives unskipped leading.1).2
    exact ⟨start, feature, combination, added, (short combination).mp ⟨order, leading, room⟩⟩
  · rintro ⟨start, feature, combination, added, few⟩
    obtain ⟨order, leading, room⟩ := (short combination).mpr few
    exact ⟨start, feature, order, added, leading, room⟩

/-- The power set is complete exactly when each of its sets but the empty one is one feature
away from a combination to which the leading order has fewer features than the limit.  Where
each skip set has one feature at most, these are the combinations with fewer exposed features
than the limit. -/
theorem enumerates_iff (viableFeatures : DependencyMap Feature)
    (skipFeatureSets : Finset (Finset Feature)) (limit : ℕ) :
    (Enumerates viableFeatures skipFeatureSets limit ↔
      ∀ target, Admissible viableFeatures skipFeatureSets limit target → target ≠ ∅ →
        ReachedInTime viableFeatures skipFeatureSets limit target) ∧
    ((∀ skipped ∈ skipFeatureSets, skipped.card ≤ 1) →
      (Enumerates viableFeatures skipFeatureSets limit ↔
        ∀ target, Admissible viableFeatures skipFeatureSets limit target → target ≠ ∅ →
          WithinReach viableFeatures skipFeatureSets limit target)) := by
  refine ⟨enumerates_iff_reachedInTime, fun single => ?_⟩
  rw [enumerates_iff_reachedInTime]
  refine forall₂_congr fun target admissible => imp_congr_right fun _ => ?_
  exact reachedInTime_iff_withinReach single admissible.unskipped_empty

end Excluded

/-- Two features with one dependency each, which come later in the alphabet. -/
def crossed : DependencyMap String where
  entries := [("a", {"y"}), ("b", {"z"}), ("y", ∅), ("z", ∅)]
  sorted := by decide +kernel
  closed := by decide +kernel
  acyclic := by decide +kernel

/-- Sets of one feature are one step from the empty set. -/
theorem crossed_singles : Enumerates crossed ∅ 1 := by
  refine ((enumerates_iff crossed ∅ 1).2 (by simp)).mpr fun target admissible filled => ?_
  obtain ⟨feature, rfl⟩ : ∃ feature, target = {feature} :=
    Finset.card_eq_one.mp
      (le_antisymm admissible.1 (Finset.card_pos.mpr (Finset.nonempty_iff_ne_empty.mpr filled)))
  have known := admissible.2.viable (Finset.mem_singleton_self feature)
  have steps : ∀ feature ∈ crossed.keys,
      (crossed.combinations ∅).next ∅ feature = some {feature} := by decide +kernel
  exact ⟨∅, feature, combination_empty (by decide), steps feature known, by decide +kernel⟩

/-- Both are first met with no step left, behind the dependency of the other, and the set of
the two is not returned. -/
theorem crossed_pair_missing : ¬Enumerates crossed ∅ 2 := by
  rintro ⟨permutations, ⟨fuel, ended⟩, contents⟩
  have ran : findPermutations 100 ∅ 2 ∅ crossed.toFeatureMap ∅ =
      some (.returned {{"a"}, {"b", "y"}, {"y"}, {"a", "z"}, {"b"}, {"y", "z"}, {"z"}, ∅}) := rfl
  cases findPermutations_unique ended ran
  have admissible : Admissible crossed ∅ 2 {"a", "b"} :=
    ⟨by decide, ⟨by decide +kernel, by decide +kernel, by decide⟩⟩
  have missing : ({"a", "b"} : Finset String) ∉
      ({{"a"}, {"b", "y"}, {"y"}, {"a", "z"}, {"b"}, {"y", "z"}, {"z"}, ∅} :
        Finset (Finset String)) := by decide +kernel
  exact missing ((contents _).mpr admissible)

end ScuffleVideo.Features
