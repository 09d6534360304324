import ScuffleVideo.Features.Permutations

/-!
# The power set of features

Of the features of a package the combinations are wanted in which no feature depends on
another and that no skip set is a part of, up to a number of features.  `find_permutations`
returns combinations only, and it ends.  It returns all of them where each can be built by
one more feature from a combination that the search comes to with a feature to spare.
-/

namespace ScuffleVideo.Features

open Search (LabelledGraph)

/-- Sets of dependencies that contain the dependencies of their members and never the feature
itself. -/
structure DependencyMap (Feature : Type) [LinearOrder Feature] extends
    FeatureMap Feature (Finset Feature) where
  closed : ∀ feature ∈ toFeatureMap.keys, ∀ dep ∈ toFeatureMap.deps feature,
    toFeatureMap.deps dep ⊆ toFeatureMap.deps feature
  acyclic : ∀ feature ∈ toFeatureMap.keys, feature ∉ toFeatureMap.deps feature

variable {Feature : Type} [LinearOrder Feature]

/-- No skip set is a part of the set. -/
def Unskipped (skipFeatureSets : Finset (Finset Feature)) (start : Finset Feature) : Prop :=
  ∀ skipped ∈ skipFeatureSets, ¬skipped ⊆ start

instance (skipFeatureSets : Finset (Finset Feature)) (start : Finset Feature) :
    Decidable (Unskipped skipFeatureSets start) :=
  inferInstanceAs (Decidable (∀ skipped ∈ skipFeatureSets, ¬skipped ⊆ start))

/-- Features of the package that are not skipped and of which none depends on another. -/
structure Combination (viableFeatures : DependencyMap Feature)
    (skipFeatureSets : Finset (Finset Feature)) (start : Finset Feature) : Prop where
  viable : start ⊆ viableFeatures.keys
  independent : ∀ feature ∈ start, ∀ other ∈ start, feature ≠ other →
    other ∉ viableFeatures.deps feature
  unskipped : Unskipped skipFeatureSets start

/-- What a power set with a limit is to contain. -/
def Admissible (viableFeatures : DependencyMap Feature)
    (skipFeatureSets : Finset (Finset Feature)) (limit : ℕ) (start : Finset Feature) : Prop :=
  start.card ≤ limit ∧ Combination viableFeatures skipFeatureSets start

/-- The search from the empty set ends and returns the admissible sets and no others. -/
def Enumerates (viableFeatures : DependencyMap Feature)
    (skipFeatureSets : Finset (Finset Feature)) (limit : ℕ) : Prop :=
  ∃ permutations,
    (∃ fuel, findPermutations fuel ∅ limit ∅ viableFeatures.toFeatureMap skipFeatureSets =
      some (.returned permutations)) ∧
    ∀ start, start ∈ permutations ↔ Admissible viableFeatures skipFeatureSets limit start

namespace DependencyMap

variable (viableFeatures : DependencyMap Feature)

theorem deps_subset {feature dep : Feature} (member : dep ∈ viableFeatures.deps feature) :
    viableFeatures.deps dep ⊆ viableFeatures.deps feature := by
  by_cases known : feature ∈ viableFeatures.keys
  · exact viableFeatures.closed feature known dep member
  · rw [FeatureMap.deps_of_notMem known] at member
    exact absurd member (Finset.notMem_empty dep)

theorem notMem_deps (feature : Feature) : feature ∉ viableFeatures.deps feature := by
  by_cases known : feature ∈ viableFeatures.keys
  · exact viableFeatures.acyclic feature known
  · rw [FeatureMap.deps_of_notMem known]
    exact Finset.notMem_empty feature

theorem mem_adding {start : Finset Feature} {feature other : Feature} :
    other ∈ viableFeatures.adding start feature ↔
      (other = feature ∨ other ∈ start) ∧ other ∉ viableFeatures.deps feature := by
  rw [FeatureMap.adding, Finset.mem_sdiff, Finset.mem_insert]

/-- What is removed is still covered: it is among the dependencies of what is added. -/
theorem closure_adding (start : Finset Feature) (feature : Feature) :
    viableFeatures.closure (viableFeatures.adding start feature) =
      viableFeatures.closure start ∪ insert feature (viableFeatures.deps feature) := by
  have added : feature ∈ viableFeatures.adding start feature :=
    viableFeatures.mem_adding.mpr ⟨.inl rfl, viableFeatures.notMem_deps feature⟩
  ext other
  rw [Finset.mem_union, Finset.mem_insert, FeatureMap.mem_closure, FeatureMap.mem_closure]
  constructor
  · rintro ⟨member, chosen, covered⟩
    obtain ⟨rfl | old, _⟩ := viableFeatures.mem_adding.mp chosen
    · exact .inr covered
    · exact .inl ⟨member, old, covered⟩
  · rintro (⟨member, old, covered⟩ | covered)
    · by_cases removed : member ∈ viableFeatures.deps feature
      · refine ⟨feature, added, .inr ?_⟩
        obtain rfl | below := covered
        · exact removed
        · exact viableFeatures.deps_subset removed below
      · exact ⟨member, viableFeatures.mem_adding.mpr ⟨.inr old, removed⟩, covered⟩
    · exact ⟨feature, added, covered⟩

/-- The sets that are not skipped, with an edge from each set for each feature that can be
added to it.  The stack of the search is emptied from the alphabetically last feature on. -/
def combinations (skipFeatureSets : Finset (Finset Feature)) :
    LabelledGraph (Finset Feature) Feature where
  next start feature :=
    if feature ∈ viableFeatures.keys ∧ feature ∉ viableFeatures.closure start ∧
        Unskipped skipFeatureSets (viableFeatures.adding start feature) then
      some (viableFeatures.adding start feature)
    else none
  labels := (viableFeatures.entries.map Prod.fst).reverse
  before first second := second < first
  ordered := List.pairwise_reverse.mpr (List.pairwise_map.mpr viableFeatures.sorted)
  asymm := lt_asymm
  trans first second := second.trans first
  covers step := by
    split at step
    next possible => simpa [FeatureMap.keys] using possible.1
    next => cases step
  rank start := (viableFeatures.keys ∩ viableFeatures.closure start).card
  climbs := by
    intro source target feature step
    split at step
    next possible =>
      obtain ⟨known, fresh, _⟩ := possible
      cases step
      rw [closure_adding]
      refine Finset.card_lt_card (Finset.ssubset_iff_of_subset ?_ |>.mpr ⟨feature, ?_, ?_⟩)
      · exact Finset.inter_subset_inter_left Finset.subset_union_left
      · exact Finset.mem_inter.mpr
          ⟨known, Finset.mem_union_right _ (Finset.mem_insert_self feature _)⟩
      · exact fun member => fresh (Finset.mem_inter.mp member).2
    next => cases step

theorem next_eq_some_iff {skipFeatureSets : Finset (Finset Feature)}
    {start target : Finset Feature} {feature : Feature} :
    (viableFeatures.combinations skipFeatureSets).next start feature = some target ↔
      feature ∈ viableFeatures.keys ∧ feature ∉ viableFeatures.closure start ∧
        Unskipped skipFeatureSets target ∧ viableFeatures.adding start feature = target := by
  unfold combinations
  dsimp only
  split
  next possible =>
    rw [Option.some_inj]
    constructor
    · rintro rfl
      exact ⟨possible.1, possible.2.1, possible.2.2, rfl⟩
    · exact fun reached => reached.2.2.2
  next impossible =>
    constructor
    · exact fun none => by cases none
    · rintro ⟨known, fresh, unskipped, rfl⟩
      exact absurd ⟨known, fresh, unskipped⟩ impossible

end DependencyMap

section Refinement

variable {viableFeatures : DependencyMap Feature} {skipFeatureSets : Finset (Finset Feature)}

/-- The sets that are pushed are, from the top of the stack down, the next sets of the graph
and sets that are skipped when they are popped. -/
theorem newStarts_eq (permutations : Finset (Finset Feature)) (start : Finset Feature) :
    ((newStarts viableFeatures.toFeatureMap skipFeatureSets permutations start
        (viableFeatures.closure start)).reverse).filter (Unskipped skipFeatureSets ·) =
      ((viableFeatures.combinations skipFeatureSets).labels.filterMap
        ((viableFeatures.combinations skipFeatureSets).next start)).filter (· ∉ permutations) := by
  unfold newStarts DependencyMap.combinations
  dsimp only
  rw [← List.filterMap_reverse, ← List.map_reverse, List.filterMap_map, List.filter_filterMap,
    List.filter_filterMap]
  refine List.filterMap_congr fun entry member => ?_
  obtain ⟨feature, deps⟩ := entry
  have listed := List.mem_reverse.mp member
  have known : feature ∈ viableFeatures.keys := FeatureMap.mem_keys.mpr ⟨deps, listed⟩
  have same : insert feature start \ deps = viableFeatures.adding start feature := by
    rw [FeatureMap.adding, FeatureMap.deps_of_mem listed]
  dsimp only [Function.comp]
  rw [same]
  by_cases covered : feature ∈ viableFeatures.closure start
  · rw [if_pos covered, if_neg (fun possible => possible.2.1 covered)]
    rfl
  rw [if_neg covered]
  by_cases unskipped : Unskipped skipFeatureSets (viableFeatures.adding start feature)
  · have different : viableFeatures.adding start feature ∉ skipFeatureSets :=
      fun skipped => unskipped _ skipped (Finset.Subset.refl _)
    have possible := And.intro known (And.intro covered unskipped)
    by_cases old : viableFeatures.adding start feature ∈ permutations
    · rw [if_pos (Or.inl old), if_pos possible]
      simp [Option.filter_some, old]
    · rw [if_neg (not_or.mpr ⟨old, different⟩), if_pos possible]
      simp [Option.filter_some, old, unskipped]
  · have impossible : ¬(feature ∈ viableFeatures.keys ∧
        feature ∉ viableFeatures.closure start ∧
          Unskipped skipFeatureSets (viableFeatures.adding start feature)) :=
      fun possible => unskipped possible.2.2
    rw [if_neg impossible]
    split
    · rfl
    · simp [Option.filter_some, unskipped]

theorem subset_keys_of_mem_newStarts {permutations : Finset (Finset Feature)}
    {start flattened target : Finset Feature} (known : start ⊆ viableFeatures.keys)
    (pushed : target ∈ newStarts viableFeatures.toFeatureMap skipFeatureSets permutations start
      flattened) : target ⊆ viableFeatures.keys := by
  obtain ⟨⟨feature, deps⟩, entry, reached⟩ := List.mem_filterMap.mp pushed
  dsimp only at reached
  split at reached
  · cases reached
  · split at reached
    · cases reached
    · cases reached
      refine Finset.sdiff_subset.trans (Finset.insert_subset ?_ known)
      exact FeatureMap.mem_keys.mpr ⟨deps, entry⟩

open findPermutations (loop)

/-- A set that is skipped or was found before is popped and nothing more. -/
theorem loop_passed {fuel rem : ℕ} {start : Finset Feature} {stack : List (Finset Feature × ℕ)}
    {permutations : Finset (Finset Feature)}
    (passed : ¬Unskipped skipFeatureSets start ∨ start ∈ permutations) :
    loop viableFeatures.toFeatureMap skipFeatureSets (fuel + 1) ((start, rem) :: stack)
      permutations = loop viableFeatures.toFeatureMap skipFeatureSets fuel stack permutations := by
  rw [loop, if_pos]
  refine passed.imp (fun skipped => ?_) id
  simpa [Unskipped] using skipped

/-- Popping the sets that are on top of a stack searches the graph from those that are not
skipped. -/
theorem exists_loop_exploreAll {rem : ℕ}
    (single : ∀ (start : Finset Feature) (permutations : Finset (Finset Feature)),
      start ⊆ viableFeatures.keys → Unskipped skipFeatureSets start →
        ∃ steps, ∀ fuel stack,
          loop viableFeatures.toFeatureMap skipFeatureSets (steps + fuel) ((start, rem) :: stack)
              permutations =
            loop viableFeatures.toFeatureMap skipFeatureSets fuel stack
              ((viableFeatures.combinations skipFeatureSets).explore rem start permutations))
    (starts : List (Finset Feature)) (known : ∀ start ∈ starts, start ⊆ viableFeatures.keys)
    (permutations : Finset (Finset Feature)) :
    ∃ steps, ∀ fuel stack,
      loop viableFeatures.toFeatureMap skipFeatureSets (steps + fuel)
          (starts.map (fun start => (start, rem)) ++ stack) permutations =
        loop viableFeatures.toFeatureMap skipFeatureSets fuel stack
          ((viableFeatures.combinations skipFeatureSets).exploreAll rem
            (starts.filter (Unskipped skipFeatureSets ·)) permutations) := by
  induction starts generalizing permutations with
  | nil => exact ⟨0, fun fuel stack => by rw [Nat.zero_add]; rfl⟩
  | cons start starts ih =>
      have others := fun other member => known other (List.mem_cons_of_mem start member)
      by_cases unskipped : Unskipped skipFeatureSets start
      · obtain ⟨first, searched⟩ :=
          single start permutations (known start List.mem_cons_self) unskipped
        obtain ⟨rest, more⟩ := ih others
          ((viableFeatures.combinations skipFeatureSets).explore rem start permutations)
        refine ⟨first + rest, fun fuel stack => ?_⟩
        rw [List.filter_cons_of_pos (by simpa using unskipped), LabelledGraph.exploreAll_cons,
          Nat.add_assoc, List.map_cons, List.cons_append, searched, more]
      · obtain ⟨rest, more⟩ := ih others permutations
        refine ⟨rest + 1, fun fuel stack => ?_⟩
        rw [List.filter_cons_of_neg (by simpa using unskipped), Nat.add_right_comm, List.map_cons,
          List.cons_append, loop_passed (.inl unskipped), more]

/-- Popping a set searches the graph from there. -/
theorem exists_loop_explore (rem : ℕ) (start : Finset Feature)
    (permutations : Finset (Finset Feature)) (known : start ⊆ viableFeatures.keys)
    (unskipped : Unskipped skipFeatureSets start) :
    ∃ steps, ∀ fuel stack,
      loop viableFeatures.toFeatureMap skipFeatureSets (steps + fuel) ((start, rem) :: stack)
          permutations =
        loop viableFeatures.toFeatureMap skipFeatureSets fuel stack
          ((viableFeatures.combinations skipFeatureSets).explore rem start permutations) := by
  induction rem generalizing start permutations with
  | zero =>
      refine ⟨1, fun fuel stack => ?_⟩
      rw [Nat.add_comm]
      by_cases visited : start ∈ permutations
      · rw [loop_passed (.inr visited), LabelledGraph.explore_of_found _ visited]
      · rw [loop, if_neg]
        · rfl
        · rintro (⟨skipped, member, part⟩ | old)
          · exact unskipped skipped member part
          · exact visited old
  | succ rem ih =>
      by_cases visited : start ∈ permutations
      · refine ⟨1, fun fuel stack => ?_⟩
        rw [Nat.add_comm, loop_passed (.inr visited), LabelledGraph.explore_of_found _ visited]
      · let pushed := newStarts viableFeatures.toFeatureMap skipFeatureSets
          (insert start permutations) start (viableFeatures.closure start)
        obtain ⟨steps, searched⟩ := exists_loop_exploreAll ih pushed.reverse
          (fun target member => subset_keys_of_mem_newStarts known (List.mem_reverse.mp member))
          (insert start permutations)
        refine ⟨steps + 1, fun fuel stack => ?_⟩
        have flattened : viableFeatures.flattened start = some (viableFeatures.closure start) :=
          if_pos known
        rw [Nat.add_right_comm, loop, if_neg]
        · simp only [if_neg (Nat.succ_ne_zero rem), flattened]
          rw [Nat.add_sub_cancel, ← List.map_reverse, searched, newStarts_eq,
            LabelledGraph.exploreAll_filter _ _ _ (Finset.Subset.refl _),
            LabelledGraph.explore_succ_of_fresh _ visited]
        · rintro (⟨skipped, member, part⟩ | old)
          · exact unskipped skipped member part
          · exact visited old

end Refinement

section Enumeration

variable {viableFeatures : DependencyMap Feature} {skipFeatureSets : Finset (Finset Feature)}
variable {limit : ℕ}

/-- A step from a combination leads to a combination with at most one feature more. -/
theorem Combination.step {start target : Finset Feature} {feature : Feature}
    (combination : Combination viableFeatures skipFeatureSets start)
    (added : (viableFeatures.combinations skipFeatureSets).next start feature = some target) :
    Combination viableFeatures skipFeatureSets target ∧ target.card ≤ start.card + 1 := by
  obtain ⟨known, fresh, unskipped, rfl⟩ := viableFeatures.next_eq_some_iff.mp added
  refine ⟨⟨?_, ?_, unskipped⟩, ?_⟩
  · exact Finset.sdiff_subset.trans (Finset.insert_subset known combination.viable)
  · intro member chosen other also different
    obtain ⟨rfl | old, _⟩ := viableFeatures.mem_adding.mp chosen
    · exact (viableFeatures.mem_adding.mp also).2
    · obtain ⟨rfl | oldAlso, _⟩ := viableFeatures.mem_adding.mp also
      · exact fun dependency =>
          fresh (FeatureMap.mem_closure.mpr ⟨member, old, .inr dependency⟩)
      · exact combination.independent member old other oldAlso different
  · exact (Finset.card_le_card Finset.sdiff_subset).trans (Finset.card_insert_le feature start)

theorem combination_empty (unskipped : Unskipped skipFeatureSets ∅) :
    Combination viableFeatures skipFeatureSets ∅ :=
  ⟨Finset.empty_subset _, fun _ impossible => absurd impossible (Finset.notMem_empty _),
    unskipped⟩

/-- The search comes to admissible sets only. -/
theorem admissible_of_arrives (unskipped : Unskipped skipFeatureSets ∅)
    {start : Finset Feature} {order : List Feature}
    (arrives : (viableFeatures.combinations skipFeatureSets).Arrives limit ∅ start order) :
    Admissible viableFeatures skipFeatureSets limit start := by
  obtain ⟨few, combination⟩ := arrives.preserves (motive := fun start steps =>
      start.card ≤ steps ∧ Combination viableFeatures skipFeatureSets start)
    ⟨Nat.le_refl 0, combination_empty unskipped⟩
    (fun source feature target steps added reached =>
      have further := reached.2.step added
      ⟨further.2.trans (Nat.succ_le_succ reached.1), further.1⟩)
  exact ⟨few.trans arrives.length_le, combination⟩

/-- The sets that `find_permutations` returns. -/
def found (viableFeatures : DependencyMap Feature) (skipFeatureSets : Finset (Finset Feature))
    (limit : ℕ) : Finset (Finset Feature) :=
  if Unskipped skipFeatureSets ∅ then
    (viableFeatures.combinations skipFeatureSets).explore limit ∅ ∅
  else ∅

/-- The search ends without a panic. -/
theorem findPermutations_returns (viableFeatures : DependencyMap Feature)
    (skipFeatureSets : Finset (Finset Feature)) (limit : ℕ) :
    ∃ fuel, findPermutations fuel ∅ limit ∅ viableFeatures.toFeatureMap skipFeatureSets =
      some (.returned (found viableFeatures skipFeatureSets limit)) := by
  unfold findPermutations found
  by_cases unskipped : Unskipped skipFeatureSets ∅
  · obtain ⟨steps, searched⟩ := @exists_loop_explore _ _ viableFeatures _ limit ∅ ∅
      (Finset.empty_subset _) unskipped
    refine ⟨steps + 1, ?_⟩
    rw [if_pos unskipped, searched]
    rfl
  · refine ⟨2, ?_⟩
    rw [if_neg unskipped, loop_passed (.inl unskipped)]
    rfl

theorem enumerates_iff_found :
    Enumerates viableFeatures skipFeatureSets limit ↔
      ∀ start, Admissible viableFeatures skipFeatureSets limit start →
        start ∈ found viableFeatures skipFeatureSets limit := by
  obtain ⟨enough, returned⟩ := findPermutations_returns viableFeatures skipFeatureSets limit
  constructor
  · rintro ⟨permutations, ⟨fuel, ended⟩, contents⟩ start admissible
    cases findPermutations_unique ended returned
    exact (contents start).mpr admissible
  · intro complete
    refine ⟨_, ⟨enough, returned⟩, fun start => ⟨fun member => ?_, complete start⟩⟩
    unfold found at member
    split at member
    next unskipped =>
      obtain ⟨order, arrives⟩ := (LabelledGraph.mem_explore_iff _ limit ∅).mp member
      exact admissible_of_arrives unskipped arrives
    next => exact absurd member (Finset.notMem_empty start)

/-- The sets that can be built by one more feature from the end of a leading order that is
shorter than the limit. -/
def ReachedInTime (viableFeatures : DependencyMap Feature)
    (skipFeatureSets : Finset (Finset Feature)) (limit : ℕ) (target : Finset Feature) : Prop :=
  ∃ start feature order,
    (viableFeatures.combinations skipFeatureSets).next start feature = some target ∧
      (viableFeatures.combinations skipFeatureSets).Leading limit ∅ start order ∧
        order.length < limit

theorem mem_found_iff (unskipped : Unskipped skipFeatureSets ∅) {target : Finset Feature} :
    target ∈ found viableFeatures skipFeatureSets limit ↔
      target = ∅ ∨ ReachedInTime viableFeatures skipFeatureSets limit target := by
  rw [found, if_pos unskipped, LabelledGraph.mem_explore_iff]
  constructor
  · rintro ⟨path, arrives⟩
    obtain ⟨same, _⟩ | ⟨start, feature, order, added, _, short, leading⟩ :=
      LabelledGraph.arrives_iff.mp arrives
    · exact .inl same
    · exact .inr ⟨start, feature, order, added, leading, short⟩
  · rintro (rfl | ⟨start, feature, order, added, leading, short⟩)
    · exact ⟨[], LabelledGraph.arrives_nil.mpr rfl⟩
    · exact ⟨order ++ [feature], LabelledGraph.arrives_concat.mpr ⟨start, added, short, leading⟩⟩

theorem Admissible.unskipped_empty {start : Finset Feature}
    (admissible : Admissible viableFeatures skipFeatureSets limit start) :
    Unskipped skipFeatureSets ∅ :=
  fun skipped member empty =>
    admissible.2.unskipped skipped member (empty.trans (Finset.empty_subset start))

theorem enumerates_iff_reachedInTime :
    Enumerates viableFeatures skipFeatureSets limit ↔
      ∀ target, Admissible viableFeatures skipFeatureSets limit target → target ≠ ∅ →
        ReachedInTime viableFeatures skipFeatureSets limit target := by
  rw [enumerates_iff_found]
  refine forall₂_congr fun target admissible => ?_
  rw [mem_found_iff admissible.unskipped_empty, or_iff_not_imp_left]

/-- The last member of a combination can be added to the others. -/
theorem Combination.of_insert {start : Finset Feature} {feature : Feature}
    (combination : Combination viableFeatures skipFeatureSets (insert feature start))
    (absent : feature ∉ start) :
    Combination viableFeatures skipFeatureSets start ∧
      (viableFeatures.combinations skipFeatureSets).next start feature =
        some (insert feature start) := by
  have part := Finset.subset_insert feature start
  have inside := Finset.mem_insert_self feature start
  have same : viableFeatures.adding start feature = insert feature start := by
    refine Finset.sdiff_eq_self_of_disjoint (Finset.disjoint_left.mpr fun other member => ?_)
    by_cases alike : feature = other
    · exact alike ▸ viableFeatures.notMem_deps feature
    · exact combination.independent feature inside other member alike
  constructor
  · exact
      { viable := part.trans combination.viable
        independent := fun member chosen other also =>
          combination.independent member (part chosen) other (part also)
        unskipped := fun skipped member inside =>
          combination.unskipped skipped member (inside.trans part) }
  · refine viableFeatures.next_eq_some_iff.mpr
      ⟨combination.viable inside, fun covered => ?_, combination.unskipped, same⟩
    obtain ⟨member, chosen, alike | dependency⟩ := FeatureMap.mem_closure.mp covered
    · exact absent (alike ▸ chosen)
    · refine combination.independent member (part chosen) feature inside ?_ dependency
      exact fun alike => absent (alike ▸ chosen)

/-- A combination can be built from the empty set by its own features. -/
theorem Combination.reachable {start : Finset Feature}
    (combination : Combination viableFeatures skipFeatureSets start) :
    Relation.ReflTransGen
      (fun source target => ∃ feature,
        (viableFeatures.combinations skipFeatureSets).next source feature = some target)
      ∅ start := by
  induction start using Finset.induction_on with
  | empty => exact .refl
  | insert feature start absent ih =>
      obtain ⟨fewer, added⟩ := combination.of_insert absent
      exact (ih fewer).tail ⟨feature, added⟩

/-- With as many steps as there are features nothing is left out.  Without a limit of its own
a package is searched with one step more. -/
theorem enumerates_of_card_le (wide : viableFeatures.keys.card ≤ limit) :
    Enumerates viableFeatures skipFeatureSets limit := by
  rw [enumerates_iff_found]
  intro target admissible
  rw [found, if_pos admissible.unskipped_empty, LabelledGraph.mem_explore_iff]
  refine LabelledGraph.exists_arrives_of_reachable (fun start feature next added => ?_)
    admissible.2.reachable
  have climbed := (viableFeatures.combinations skipFeatureSets).climbs added
  have bounded : (viableFeatures.combinations skipFeatureSets).rank next ≤
      viableFeatures.keys.card := by
    change (viableFeatures.keys ∩ viableFeatures.closure next).card ≤ _
    exact Finset.card_le_card Finset.inter_subset_left
  omega

end Enumeration

end ScuffleVideo.Features
