import Mathlib.Data.String.Basic
import Mathlib.Logic.Relation
import ScuffleVideo.Features.PowerSet

/-!
# Viable features

A package lists for each feature what it turns on.  `flatten_features` follows the lists and
keeps what has an entry of its own.  In a package in which no feature turns itself on, the
sets that it finds for the viable features contain the dependencies of their members, so that
the power set of a package without a limit of its own is complete.
-/

namespace ScuffleVideo.Features

open Relation (ReflTransGen TransGen)

variable {Feature : Type} [LinearOrder Feature]

/-- A feature of the package turns on another, directly. -/
def TurnsOn (packageFeatures : FeatureMap Feature (List Feature)) (feature other : Feature) :
    Prop :=
  ∃ deps, packageFeatures.get? feature = some deps ∧ other ∈ deps

namespace FeatureMap

variable {Value : Type} {features : FeatureMap Feature Value} {feature : Feature}

theorem mem_keys_of_get? {value : Value} (found : features.get? feature = some value) :
    feature ∈ features.keys := by
  by_contra absent
  rw [get?_of_notMem absent] at found
  cases found

theorem notMem_keys_of_get? (missing : features.get? feature = none) :
    feature ∉ features.keys := by
  intro known
  obtain ⟨value, entry⟩ := mem_keys.mp known
  rw [get?_of_mem entry] at missing
  cases missing

end FeatureMap

namespace flattenFeatures

/-- The loop of `flatten_features`, the end of `next` in front.  Each turn either takes a
feature from `next` or finds one that has an entry. -/
def loop (packageFeatures : FeatureMap Feature (List Feature)) (next : List Feature)
    (features : Finset Feature) : Finset Feature :=
  match next with
  | [] => features
  | dep :: next =>
      match _found : packageFeatures.get? dep with
      | none => loop packageFeatures next features
      | some deps =>
          if dep ∈ features then loop packageFeatures next features
          else loop packageFeatures (deps.reverse ++ next) (insert dep features)
termination_by ((packageFeatures.keys \ features).card, next.length)
decreasing_by
  · exact Prod.Lex.right _ (Nat.lt_succ_self _)
  · exact Prod.Lex.right _ (Nat.lt_succ_self _)
  · refine Prod.Lex.left _ _ (Finset.card_lt_card ?_)
    rw [Finset.sdiff_insert]
    exact Finset.erase_ssubset (Finset.mem_sdiff.mpr ⟨FeatureMap.mem_keys_of_get? _found, ‹_›⟩)

variable {packageFeatures : FeatureMap Feature (List Feature)} {next : List Feature}
variable {features : Finset Feature}

/-- What holds of the features given and is kept where one turns on another holds of what is
found. -/
theorem loop_sound {motive : Feature → Prop}
    (kept : ∀ feature other, TurnsOn packageFeatures feature other → motive feature → motive other)
    (given : ∀ feature ∈ next, motive feature)
    (old : ∀ feature ∈ features, feature ∈ packageFeatures.keys ∧ motive feature) :
    ∀ feature ∈ loop packageFeatures next features,
      feature ∈ packageFeatures.keys ∧ motive feature := by
  fun_induction loop packageFeatures next features with
  | case1 features => exact old
  | case2 features dep next missing ih =>
      exact ih (fun feature member => given feature (List.mem_cons_of_mem dep member)) old
  | case3 features dep next deps found visited ih =>
      exact ih (fun feature member => given feature (List.mem_cons_of_mem dep member)) old
  | case4 features dep next deps found fresh ih =>
      have holds := given dep List.mem_cons_self
      refine ih (fun feature member => ?_) (fun feature member => ?_)
      · obtain listed | later := List.mem_append.mp member
        · exact kept dep feature ⟨deps, found, List.mem_reverse.mp listed⟩ holds
        · exact given feature (List.mem_cons_of_mem dep later)
      · obtain rfl | member := Finset.mem_insert.mp member
        · exact ⟨FeatureMap.mem_keys_of_get? found, holds⟩
        · exact old feature member

/-- What a found feature turns on is found or still to come. -/
def Pending (packageFeatures : FeatureMap Feature (List Feature)) (next : List Feature)
    (features : Finset Feature) : Prop :=
  ∀ feature ∈ features, ∀ other ∈ packageFeatures.keys, TurnsOn packageFeatures feature other →
    other ∈ features ∨ other ∈ next

/-- A feature that was found before or has no entry need not be looked at. -/
theorem Pending.drop {dep : Feature} (pending : Pending packageFeatures (dep :: next) features)
    (settled : dep ∈ packageFeatures.keys → dep ∈ features) :
    Pending packageFeatures next features := by
  intro feature member other known turnsOn
  obtain found | later := pending feature member other known turnsOn
  · exact .inl found
  · obtain rfl | later := List.mem_cons.mp later
    · exact .inl (settled known)
    · exact .inr later

/-- Once a feature is found, what it turns on is to come. -/
theorem Pending.push {dep : Feature} {deps : List Feature}
    (pending : Pending packageFeatures (dep :: next) features)
    (found : packageFeatures.get? dep = some deps) :
    Pending packageFeatures (deps.reverse ++ next) (insert dep features) := by
  intro feature member other known turnsOn
  obtain rfl | member := Finset.mem_insert.mp member
  · obtain ⟨listed, same, among⟩ := turnsOn
    cases found.symm.trans same
    exact .inr (List.mem_append_left next (List.mem_reverse.mpr among))
  · obtain old | later := pending feature member other known turnsOn
    · exact .inl (Finset.mem_insert_of_mem old)
    · obtain rfl | later := List.mem_cons.mp later
      · exact .inl (Finset.mem_insert_self other features)
      · exact .inr (List.mem_append_right _ later)

/-- What is found is closed, and nothing given or found before is lost. -/
theorem loop_complete (pending : Pending packageFeatures next features) :
    features ⊆ loop packageFeatures next features ∧
      (∀ feature ∈ next, feature ∈ packageFeatures.keys →
        feature ∈ loop packageFeatures next features) ∧
      Pending packageFeatures [] (loop packageFeatures next features) := by
  fun_induction loop packageFeatures next features with
  | case1 features =>
      exact ⟨Finset.Subset.refl _, fun _ impossible => absurd impossible List.not_mem_nil, pending⟩
  | case2 features dep next missing ih =>
      have absent := FeatureMap.notMem_keys_of_get? missing
      obtain ⟨kept, reached, closed⟩ := ih (pending.drop fun known => absurd known absent)
      refine ⟨kept, fun feature member known => ?_, closed⟩
      obtain rfl | member := List.mem_cons.mp member
      · exact absurd known absent
      · exact reached feature member known
  | case3 features dep next deps found visited ih =>
      obtain ⟨kept, reached, closed⟩ := ih (pending.drop fun _ => visited)
      refine ⟨kept, fun feature member known => ?_, closed⟩
      obtain rfl | member := List.mem_cons.mp member
      · exact kept visited
      · exact reached feature member known
  | case4 features dep next deps found fresh ih =>
      obtain ⟨kept, reached, closed⟩ := ih (pending.push found)
      have wider := Finset.subset_insert dep features
      refine ⟨wider.trans kept, fun feature member known => ?_, closed⟩
      obtain rfl | member := List.mem_cons.mp member
      · exact kept (Finset.mem_insert_self feature features)
      · exact reached feature (List.mem_append_right _ member) known

end flattenFeatures

/-- `flatten_features`. -/
def flattenFeatures (deps : List Feature) (packageFeatures : FeatureMap Feature (List Feature)) :
    Finset Feature :=
  flattenFeatures.loop packageFeatures deps.reverse ∅

/-- The features with an entry to which the lists lead. -/
theorem mem_flattenFeatures {deps : List Feature}
    {packageFeatures : FeatureMap Feature (List Feature)} {feature : Feature} :
    feature ∈ flattenFeatures deps packageFeatures ↔
      feature ∈ packageFeatures.keys ∧
        ∃ dep ∈ deps, ReflTransGen (TurnsOn packageFeatures) dep feature := by
  constructor
  · refine flattenFeatures.loop_sound
      (motive := fun feature => ∃ dep ∈ deps, ReflTransGen (TurnsOn packageFeatures) dep feature)
      ?_ ?_ ?_ feature
    · rintro feature other turnsOn ⟨dep, given, reached⟩
      exact ⟨dep, given, reached.tail turnsOn⟩
    · exact fun dep member => ⟨dep, List.mem_reverse.mp member, .refl⟩
    · exact fun _ impossible => absurd impossible (Finset.notMem_empty _)
  · rintro ⟨known, dep, given, reached⟩
    obtain ⟨_, taken, closed⟩ :=
      @flattenFeatures.loop_complete _ _ packageFeatures deps.reverse ∅
        fun _ impossible => absurd impossible (Finset.notMem_empty _)
    induction reached with
    | refl => exact taken dep (List.mem_reverse.mpr given) known
    | tail _ turnsOn ih =>
        obtain ⟨listed, found, among⟩ := turnsOn
        have before := ih (FeatureMap.mem_keys_of_get? found)
        obtain inside | impossible := closed _ before _ known ⟨listed, found, among⟩
        · exact inside
        · exact absurd impossible List.not_mem_nil

section Viable

variable (allowList denyList additiveFeatures : Finset Feature)

/-- A feature that the allow list lacks or the deny list has is left out. -/
def Listed (feature : Feature) : Prop :=
  ¬((allowList ≠ ∅ ∧ feature ∉ allowList) ∨ (denyList ≠ ∅ ∧ feature ∈ denyList))

instance (feature : Feature) : Decidable (Listed allowList denyList feature) :=
  inferInstanceAs (Decidable ¬_)

/-- The map `viable_features`: the features that are neither left out nor additive. -/
def viableFeatures (packageFeatures : FeatureMap Feature (List Feature)) :
    FeatureMap Feature (Finset Feature) where
  entries := packageFeatures.entries.filterMap fun (feature, deps) =>
    if Listed allowList denyList feature ∧ feature ∉ additiveFeatures then
      some (feature, flattenFeatures deps packageFeatures)
    else none
  sorted := by
    rw [List.pairwise_filterMap]
    refine packageFeatures.sorted.imp fun {first second} less one oneOf two twoOf => ?_
    dsimp only at oneOf twoOf
    split at oneOf
    next =>
      split at twoOf
      next =>
        cases oneOf
        cases twoOf
        exact less
      next => cases twoOf
    next => cases oneOf

variable {allowList denyList additiveFeatures}
variable {packageFeatures : FeatureMap Feature (List Feature)}

/-- The dependencies of a viable feature are what it turns on in the package. -/
theorem mem_deps_viableFeatures {feature dep : Feature} :
    dep ∈ (viableFeatures allowList denyList additiveFeatures packageFeatures).deps feature ↔
      feature ∈ (viableFeatures allowList denyList additiveFeatures packageFeatures).keys ∧
        dep ∈ packageFeatures.keys ∧ TransGen (TurnsOn packageFeatures) feature dep := by
  by_cases viable : feature ∈
      (viableFeatures allowList denyList additiveFeatures packageFeatures).keys
  · obtain ⟨flattened, entry⟩ := FeatureMap.mem_keys.mp viable
    obtain ⟨⟨name, deps⟩, listed, chosen⟩ := List.mem_filterMap.mp entry
    dsimp only at chosen
    split at chosen
    next =>
      cases chosen
      have found := FeatureMap.get?_of_mem listed
      rw [FeatureMap.deps_of_mem entry, mem_flattenFeatures, and_iff_right viable,
        TransGen.head'_iff]
      refine and_congr_right fun _ => ⟨?_, ?_⟩
      · exact fun ⟨dep, member, reached⟩ => ⟨dep, ⟨deps, found, member⟩, reached⟩
      · rintro ⟨dep, ⟨also, same, member⟩, reached⟩
        cases found.symm.trans same
        exact ⟨dep, member, reached⟩
    next => cases chosen
  · rw [FeatureMap.deps_of_notMem viable]
    simp [viable]

/-- In a package in which no feature turns itself on the viable features have closed sets of
dependencies. -/
def viableDependencies (allowList denyList additiveFeatures : Finset Feature)
    (packageFeatures : FeatureMap Feature (List Feature))
    (acyclic : ∀ feature, ¬TransGen (TurnsOn packageFeatures) feature feature) :
    DependencyMap Feature where
  toFeatureMap := viableFeatures allowList denyList additiveFeatures packageFeatures
  closed feature viable dep member further below := by
    obtain ⟨_, _, reached⟩ := mem_deps_viableFeatures.mp member
    obtain ⟨_, known, onward⟩ := mem_deps_viableFeatures.mp below
    exact mem_deps_viableFeatures.mpr ⟨viable, known, reached.trans onward⟩
  acyclic feature _ member := acyclic feature (mem_deps_viableFeatures.mp member).2.2

/-- Without a limit of its own the power set of a package is complete. -/
theorem viableDependencies_enumerates
    (acyclic : ∀ feature, ¬TransGen (TurnsOn packageFeatures) feature feature)
    (skipFeatureSets : Finset (Finset Feature)) :
    let viable := viableFeatures allowList denyList additiveFeatures packageFeatures
    Enumerates (viableDependencies allowList denyList additiveFeatures packageFeatures acyclic)
      skipFeatureSets (viable.entries.length + 1) := by
  refine enumerates_of_card_le (Nat.le_succ_of_le ?_)
  refine (List.toFinset_card_le _).trans (Nat.le_of_eq ?_)
  exact List.length_map Prod.fst

end Viable

/-- A package with two features that turn on one each, later in the alphabet. -/
def crossedPackage : FeatureMap String (List String) where
  entries := [("a", ["y"]), ("b", ["z"]), ("y", []), ("z", [])]
  sorted := by decide +kernel

theorem leads_crossedPackage {feature other : String}
    (leads : TransGen (TurnsOn crossedPackage) feature other) :
    feature ∈ ["a", "b"] ∧ other ∈ ["y", "z"] := by
  have ends : ∀ entry ∈ crossedPackage.entries, ∀ other ∈ entry.2,
      entry.1 ∈ ["a", "b"] ∧ other ∈ ["y", "z"] := by decide
  have step {feature other : String} (turnsOn : TurnsOn crossedPackage feature other) :
      feature ∈ ["a", "b"] ∧ other ∈ ["y", "z"] := by
    obtain ⟨deps, found, among⟩ := turnsOn
    obtain ⟨listed, entry⟩ := FeatureMap.mem_keys.mp (FeatureMap.mem_keys_of_get? found)
    cases found.symm.trans (FeatureMap.get?_of_mem entry)
    exact ends (feature, deps) entry other among
  induction leads with
  | single turnsOn => exact step turnsOn
  | tail _ turnsOn ih => exact ⟨ih.1, (step turnsOn).2⟩

theorem crossedPackage_acyclic (feature : String) :
    ¬TransGen (TurnsOn crossedPackage) feature feature := by
  intro leads
  obtain ⟨first, last⟩ := leads_crossedPackage leads
  have apart : ∀ name ∈ ["a", "b"], name ∉ ["y", "z"] := by decide
  exact apart feature first last

/-- With a limit of two the set of the two features would be missing. -/
theorem viableDependencies_enumerates_crossed :
    ∃ permutations, {"a", "b"} ∈ permutations ∧
      ∃ fuel, findPermutations fuel ∅ 5 ∅ (viableFeatures ∅ ∅ ∅ crossedPackage) ∅ =
        some (.returned permutations) := by
  have enumerated : Enumerates (viableDependencies ∅ ∅ ∅ crossedPackage crossedPackage_acyclic)
      ∅ 5 := viableDependencies_enumerates crossedPackage_acyclic ∅
  obtain ⟨permutations, ended, contents⟩ := enumerated
  refine ⟨permutations, (contents _).mpr ⟨by decide, ?_⟩, ended⟩
  have apart : ∀ name ∈ ({"a", "b"} : Finset String), name ∉ ["y", "z"] := by decide
  exact
    { viable := by decide +kernel
      independent := fun _ _ other member _ dependency =>
        apart other member (leads_crossedPackage (mem_deps_viableFeatures.mp dependency).2.2).2
      unskipped := by decide }

end ScuffleVideo.Features
