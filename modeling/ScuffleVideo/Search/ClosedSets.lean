import Mathlib.Data.Finset.Lattice.Fold
import Mathlib.Data.Finset.Max
import ScuffleVideo.Search.DepthFirst

/-!
# Searching closed sets

A graph whose nodes stand for sets of labels closed downwards: a step adds a label and all
that is below it, and the largest label is tried first.  The leading path to a node then
takes, from the largest to the smallest, the exposed labels of its set: those that do not
come with a larger label of the set.
-/

namespace ScuffleVideo.Search

/-- A graph of sets closed downwards.  Only valid nodes matter, and they are told apart by
their sets. -/
structure Growth (Node Label : Type*) [LinearOrder Label] extends LabelledGraph Node Label where
  start : Node
  content : Node → Finset Label
  below : Label → Finset Label
  usable : Finset Label
  valid : Node → Prop
  before_iff : ∀ {first second : Label}, before first second ↔ second < first
  below_trans : ∀ {label lower : Label}, label ∈ usable → lower ∈ below label →
    below lower ⊆ below label
  start_valid : valid start
  content_start : content start = ∅
  content_usable : ∀ {node : Node}, valid node → content node ⊆ usable
  content_closed : ∀ {node : Node} {label : Label}, valid node → label ∈ content node →
    below label ⊆ content node
  ext_content : ∀ {node other : Node}, valid node → valid other →
    content node = content other → node = other
  exists_step : ∀ {node : Node} {label : Label}, valid node → label ∈ usable →
    label ∉ content node → ∃ target, next node label = some target
  of_step : ∀ {node target : Node} {label : Label}, valid node →
    next node label = some target → valid target ∧ label ∈ usable ∧ label ∉ content node ∧
      content target = content node ∪ insert label (below label)

variable {Node Label : Type*} [LinearOrder Label]

namespace Growth

variable (growth : Growth Node Label)

/-- The labels of a set that are not below a larger label of it. -/
def exposed (labels : Finset Label) : Finset Label :=
  labels.filter fun label => ∀ larger ∈ labels, label < larger → label ∉ growth.below larger

theorem mem_exposed {labels : Finset Label} {label : Label} :
    label ∈ growth.exposed labels ↔
      label ∈ labels ∧ ∀ larger ∈ labels, label < larger → label ∉ growth.below larger :=
  Finset.mem_filter

theorem exposed_subset (labels : Finset Label) : growth.exposed labels ⊆ labels :=
  Finset.filter_subset _ _

/-- The exposed labels of a node, the largest first. -/
def greedy (node : Node) : List Label :=
  growth.labels.filter (· ∈ growth.exposed (growth.content node))

section Sets

variable {growth}

/-- What is not exposed is below a larger exposed label. -/
theorem exists_exposed {labels : Finset Label} (known : labels ⊆ growth.usable) {label : Label}
    (member : label ∈ labels) :
    label ∈ growth.exposed labels ∨
      ∃ larger ∈ growth.exposed labels, label < larger ∧ label ∈ growth.below larger := by
  by_cases covering :
      (labels.filter fun larger => label < larger ∧ label ∈ growth.below larger).Nonempty
  · obtain ⟨largest, chosen, most⟩ := Finset.exists_max_image _ id covering
    obtain ⟨inside, less, below⟩ := Finset.mem_filter.mp chosen
    refine .inr ⟨largest, growth.mem_exposed.mpr ⟨inside, ?_⟩, less, below⟩
    intro larger also above under
    have through := growth.below_trans (known also) under below
    exact absurd (most larger (Finset.mem_filter.mpr ⟨also, less.trans above, through⟩))
      (not_le.mpr above)
  · refine .inl (growth.mem_exposed.mpr ⟨member, fun larger inside less below => ?_⟩)
    exact covering ⟨larger, Finset.mem_filter.mpr ⟨inside, less, below⟩⟩

/-- `top` is the largest label that one set has more than another. -/
structure Tops (growth : Growth Node Label) (fewer more : Finset Label) (top : Label) :
    Prop where
  subset : fewer ⊆ more
  closed : ∀ label ∈ fewer, growth.below label ⊆ fewer
  mem : top ∈ more
  fresh : top ∉ fewer
  largest : ∀ label ∈ more, label ∉ fewer → label ≤ top

namespace Tops

variable {fewer more : Finset Label} {top : Label}

theorem mem_iff_of_lt (tops : Tops growth fewer more top) {label : Label} (above : top < label) :
    label ∈ more ↔ label ∈ fewer := by
  constructor
  · intro member
    by_contra absent
    exact absurd (tops.largest label member absent) (not_le.mpr above)
  · exact fun member => tops.subset member

theorem top_exposed (tops : Tops growth fewer more top) : top ∈ growth.exposed more := by
  refine growth.mem_exposed.mpr ⟨tops.mem, fun larger member above below => ?_⟩
  exact tops.fresh (tops.closed larger ((tops.mem_iff_of_lt above).mp member) below)

/-- Above the largest new label the same labels are exposed. -/
theorem exposed_iff_of_lt (tops : Tops growth fewer more top) {label : Label}
    (above : top < label) : label ∈ growth.exposed more ↔ label ∈ growth.exposed fewer := by
  rw [growth.mem_exposed, growth.mem_exposed, tops.mem_iff_of_lt above]
  refine and_congr_right fun _ => forall_congr' fun larger => ?_
  constructor
  · exact fun free member less => free (tops.subset member) less
  · exact fun free member less => free ((tops.mem_iff_of_lt (above.trans less)).mp member) less

/-- Where all new labels come with the largest one, it is the only one newly exposed. -/
theorem exposed_subset_insert (tops : Tops growth fewer more top)
    (with_top : more = fewer ∪ insert top (growth.below top)) :
    growth.exposed more ⊆ insert top (growth.exposed fewer) := by
  intro label member
  obtain ⟨inside, free⟩ := growth.mem_exposed.mp member
  by_cases old : label ∈ fewer
  · refine Finset.mem_insert_of_mem (growth.mem_exposed.mpr ⟨old, ?_⟩)
    exact fun larger also less => free larger (tops.subset also) less
  · rw [with_top, Finset.mem_union, Finset.mem_insert] at inside
    obtain inside | same | below := inside
    · exact absurd inside old
    · exact Finset.mem_insert.mpr (.inl same)
    · obtain less | same := lt_or_eq_of_le (tops.largest label (with_top ▸
        Finset.mem_union_right fewer (Finset.mem_insert_of_mem below)) old)
      · exact absurd below (free top tops.mem less)
      · exact Finset.mem_insert.mpr (.inl same)

end Tops

end Sets

section Orders

variable {growth} {node target : Node} {label : Label}

theorem mem_labels (known : label ∈ growth.usable) : label ∈ growth.labels := by
  have outside : label ∉ growth.content growth.start := by
    rw [growth.content_start]
    exact Finset.notMem_empty label
  obtain ⟨_, step⟩ := growth.exists_step growth.start_valid known outside
  exact growth.covers step

theorem length_greedy (valid : growth.valid node) :
    (growth.greedy node).length = (growth.exposed (growth.content node)).card := by
  have distinct : (growth.greedy node).Nodup :=
    (growth.ordered.imp fun before same =>
      absurd (same ▸ before) fun loop => growth.asymm loop loop).filter _
  rw [← List.toFinset_card_of_nodup distinct]
  congr 1
  ext label
  rw [List.mem_toFinset, greedy, List.mem_filter, decide_eq_true_iff]
  refine and_iff_right_of_imp fun member => mem_labels ?_
  exact growth.content_usable valid (growth.exposed_subset _ member)

/-- The labels tried before a label are larger, those tried after it smaller. -/
theorem split_labels (known : label ∈ growth.usable) :
    ∃ front back, growth.labels = front ++ label :: back ∧
      (∀ larger ∈ front, label < larger) ∧ ∀ smaller ∈ back, smaller < label := by
  obtain ⟨front, back, split⟩ := List.append_of_mem (mem_labels known)
  have ordered := growth.ordered
  rw [split, List.pairwise_append, List.pairwise_cons] at ordered
  obtain ⟨_, ⟨behind, _⟩, ahead⟩ := ordered
  refine ⟨front, back, split, ?_, ?_⟩
  · exact fun larger member =>
      growth.before_iff.mp (ahead larger member label List.mem_cons_self)
  · exact fun smaller member => growth.before_iff.mp (behind smaller member)

/-- The greedy path of a larger set leaves that of a smaller one at the largest new label. -/
theorem Tops.greedy_eq {top : Label}
    (tops : Tops growth (growth.content node) (growth.content target) top)
    (valid : growth.valid target) :
    ∃ common after behind, growth.greedy target = common ++ top :: after ∧
      growth.greedy node = common ++ behind ∧
      (∀ label ∈ behind, label < top) ∧
      (∀ label ∈ after, label < top ∧ label ∈ growth.exposed (growth.content target)) ∧
      ∀ label ∈ growth.exposed (growth.content node), label < top → label ∈ behind := by
  obtain ⟨front, back, split, larger, smaller⟩ :=
    split_labels (growth.content_usable valid tops.mem)
  refine ⟨front.filter (· ∈ growth.exposed (growth.content node)),
    back.filter (· ∈ growth.exposed (growth.content target)),
    back.filter (· ∈ growth.exposed (growth.content node)), ?_, ?_, ?_, ?_, ?_⟩
  · have same : front.filter (· ∈ growth.exposed (growth.content target)) =
        front.filter (· ∈ growth.exposed (growth.content node)) :=
      List.filter_congr fun label member =>
        decide_eq_decide.mpr (tops.exposed_iff_of_lt (larger label member))
    rw [greedy, split, List.filter_append, same,
      List.filter_cons_of_pos (by simpa using tops.top_exposed)]
  · have hidden : top ∉ growth.exposed (growth.content node) :=
      fun member => tops.fresh (growth.exposed_subset _ member)
    rw [greedy, split, List.filter_append,
      List.filter_cons_of_neg (by simpa using hidden)]
  · exact fun label member => smaller label (List.mem_of_mem_filter member)
  · intro label member
    rw [List.mem_filter, decide_eq_true_iff] at member
    exact ⟨smaller label member.1, member.2⟩
  · intro label member less
    rw [List.mem_filter, decide_eq_true_iff]
    refine ⟨?_, member⟩
    have outside : label ∈ growth.content target :=
      tops.subset (growth.exposed_subset _ member)
    have listed := mem_labels (growth.content_usable valid outside)
    rw [split] at listed
    obtain front | cons := List.mem_append.mp listed
    · exact absurd less (lt_asymm (larger label front))
    · obtain rfl | behind := List.mem_cons.mp cons
      · exact absurd less (lt_irrefl label)
      · exact behind

/-- Whatever a step adds has a largest label. -/
theorem exists_tops (valid : growth.valid node) (step : growth.next node label = some target) :
    ∃ top, Tops growth (growth.content node) (growth.content target) top ∧ label ≤ top := by
  obtain ⟨_, _, fresh, grown⟩ := growth.of_step valid step
  have added : label ∈ growth.content target := by
    rw [grown]
    exact Finset.mem_union_right _ (Finset.mem_insert_self label _)
  obtain ⟨top, chosen, most⟩ :=
    Finset.exists_max_image (growth.content target \ growth.content node) id
      ⟨label, Finset.mem_sdiff.mpr ⟨added, fresh⟩⟩
  obtain ⟨mem, outside⟩ := Finset.mem_sdiff.mp chosen
  refine ⟨top, ⟨?_, fun _ => growth.content_closed valid, mem, outside, ?_⟩, ?_⟩
  · rw [grown]
    exact Finset.subset_union_left
  · exact fun other member absent => most other (Finset.mem_sdiff.mpr ⟨member, absent⟩)
  · exact most label (Finset.mem_sdiff.mpr ⟨added, fresh⟩)

theorem greedy_of_empty (empty : growth.content node = ∅) : growth.greedy node = [] := by
  rw [greedy, List.filter_eq_nil_iff]
  intro label _ exposed
  have member := growth.exposed_subset _ (of_decide_eq_true exposed)
  rw [empty] at member
  exact absurd member (Finset.notMem_empty label)

theorem eq_start_of_empty (valid : growth.valid node) (empty : growth.content node = ∅) :
    node = growth.start :=
  growth.ext_content valid growth.start_valid (empty.trans growth.content_start.symm)

/-- Every set of usable labels and what is below them belongs to a node. -/
theorem exists_node (labels : Finset Label) (known : labels ⊆ growth.usable) :
    ∃ node, growth.valid node ∧
      ∀ label, label ∈ growth.content node ↔
        ∃ chosen ∈ labels, label = chosen ∨ label ∈ growth.below chosen := by
  induction labels using Finset.induction_on with
  | empty =>
      refine ⟨growth.start, growth.start_valid, fun label => ?_⟩
      rw [growth.content_start]
      simp
  | insert added labels _ ih =>
      obtain ⟨node, valid, members⟩ := ih ((Finset.subset_insert added labels).trans known)
      by_cases inside : added ∈ growth.content node
      · refine ⟨node, valid, fun label => ?_⟩
        rw [members label, Finset.exists_mem_insert]
        refine (or_iff_right_of_imp fun found => ?_).symm
        rw [← members label]
        obtain rfl | below := found
        · exact inside
        · exact growth.content_closed valid inside below
      · have usable := known (Finset.mem_insert_self added labels)
        obtain ⟨target, step⟩ := growth.exists_step valid usable inside
        obtain ⟨validTarget, _, _, grown⟩ := growth.of_step valid step
        refine ⟨target, validTarget, fun label => ?_⟩
        rw [grown, Finset.mem_union, members label, Finset.exists_mem_insert,
          Finset.mem_insert, or_comm]

/-- The node before has what comes with the exposed labels of a node but the smallest. -/
structure Trims (growth : Growth Node Label) (node : Node) (least : Label) (target : Node) :
    Prop where
  valid : growth.valid node
  validTarget : growth.valid target
  exposed : least ∈ growth.exposed (growth.content target)
  smallest : ∀ label ∈ growth.exposed (growth.content target), least ≤ label
  mem_content : ∀ label, label ∈ growth.content node ↔
    ∃ larger ∈ (growth.exposed (growth.content target)).erase least,
      label = larger ∨ label ∈ growth.below larger

namespace Trims

variable {least : Label}

theorem mem_of_exposed (trims : Trims growth node least target)
    (exposed : label ∈ growth.exposed (growth.content target)) (other : label ≠ least) :
    label ∈ growth.content node :=
  (trims.mem_content label).mpr ⟨label, Finset.mem_erase.mpr ⟨other, exposed⟩, .inl rfl⟩

theorem subset (trims : Trims growth node least target) :
    growth.content node ⊆ growth.content target := by
  intro label member
  obtain ⟨larger, exposed, same | below⟩ := (trims.mem_content label).mp member
  · rw [same]
    exact growth.exposed_subset _ (Finset.mem_of_mem_erase exposed)
  · exact growth.content_closed trims.validTarget
      (growth.exposed_subset _ (Finset.mem_of_mem_erase exposed)) below

theorem fresh (trims : Trims growth node least target) : least ∉ growth.content node := by
  intro member
  obtain ⟨larger, chosen, same | below⟩ := (trims.mem_content least).mp member
  · exact Finset.ne_of_mem_erase chosen same.symm
  · obtain ⟨different, exposed⟩ := Finset.mem_erase.mp chosen
    have less := lt_of_le_of_ne (trims.smallest larger exposed) different.symm
    exact (growth.mem_exposed.mp trims.exposed).2 larger (growth.exposed_subset _ exposed) less
      below

theorem grows (trims : Trims growth node least target) :
    growth.content node ∪ insert least (growth.below least) = growth.content target := by
  have inside := growth.exposed_subset _ trims.exposed
  apply Finset.Subset.antisymm
  · refine Finset.union_subset trims.subset (Finset.insert_subset inside ?_)
    exact growth.content_closed trims.validTarget inside
  · intro label member
    rw [Finset.mem_union, Finset.mem_insert]
    obtain exposed | ⟨larger, exposed, _, below⟩ :=
      exists_exposed (growth.content_usable trims.validTarget) member
    · by_cases same : label = least
      · exact .inr (.inl same)
      · exact .inl (trims.mem_of_exposed exposed same)
    · by_cases same : larger = least
      · exact .inr (.inr (same ▸ below))
      · exact .inl (growth.content_closed trims.valid (trims.mem_of_exposed exposed same) below)

theorem next_eq (trims : Trims growth node least target) :
    growth.next node least = some target := by
  have usable := growth.content_usable trims.validTarget (growth.exposed_subset _ trims.exposed)
  obtain ⟨reached, step⟩ := growth.exists_step trims.valid usable trims.fresh
  obtain ⟨valid, _, _, grown⟩ := growth.of_step trims.valid step
  rw [step, growth.ext_content valid trims.validTarget (grown.trans trims.grows)]

theorem mem_exposed_iff (trims : Trims growth node least target) :
    label ∈ growth.exposed (growth.content node) ↔
      label ∈ growth.exposed (growth.content target) ∧ label ≠ least := by
  constructor
  · intro exposed
    obtain ⟨member, free⟩ := growth.mem_exposed.mp exposed
    refine ⟨?_, fun same => trims.fresh (same ▸ member)⟩
    obtain also | ⟨larger, above, less, below⟩ :=
      exists_exposed (growth.content_usable trims.validTarget) (trims.subset member)
    · exact also
    · by_cases same : larger = least
      · -- Below the smallest exposed label it came with another, which is larger still.
        obtain ⟨higher, chosen, alike | under⟩ := (trims.mem_content label).mp member
        · rw [alike]
          exact Finset.mem_of_mem_erase chosen
        · obtain ⟨different, exposedHigher⟩ := Finset.mem_erase.mp chosen
          have further := less.trans_le (same ▸ trims.smallest higher exposedHigher)
          exact absurd under (free higher (trims.mem_of_exposed exposedHigher different) further)
      · exact absurd below (free larger (trims.mem_of_exposed above same) less)
  · rintro ⟨exposed, other⟩
    refine growth.mem_exposed.mpr ⟨trims.mem_of_exposed exposed other, fun larger member less => ?_⟩
    exact (growth.mem_exposed.mp exposed).2 larger (trims.subset member) less

theorem greedy_eq (trims : Trims growth node least target) :
    growth.greedy target = growth.greedy node ++ [least] := by
  obtain ⟨front, back, split, larger, smaller⟩ := split_labels
    (growth.content_usable trims.validTarget (growth.exposed_subset _ trims.exposed))
  have hidden : least ∉ growth.exposed (growth.content node) :=
    fun exposed => (trims.mem_exposed_iff.mp exposed).2 rfl
  have behind : ∀ label ∈ back, label ∉ growth.exposed (growth.content target) :=
    fun label member exposed =>
      absurd (trims.smallest label exposed) (not_le.mpr (smaller label member))
  have nothing : back.filter (· ∈ growth.exposed (growth.content target)) = [] :=
    List.filter_eq_nil_iff.mpr fun label member => by simpa using behind label member
  have nothingBefore : back.filter (· ∈ growth.exposed (growth.content node)) = [] :=
    List.filter_eq_nil_iff.mpr fun label member => by
      simpa [trims.mem_exposed_iff] using fun exposed => absurd exposed (behind label member)
  rw [greedy, greedy, split, List.filter_append, List.filter_append,
    List.filter_cons_of_pos (by simpa using trims.exposed),
    List.filter_cons_of_neg (by simpa using hidden), nothing, nothingBefore, List.append_nil]
  congr 1
  refine List.filter_congr fun label member => decide_eq_decide.mpr ?_
  rw [trims.mem_exposed_iff, and_iff_left (larger label member).ne']

end Trims

theorem exists_trims (valid : growth.valid target) (filled : (growth.content target).Nonempty) :
    ∃ node least, Trims growth node least target := by
  have known := growth.content_usable valid
  have someExposed : (growth.exposed (growth.content target)).Nonempty := by
    obtain ⟨label, member⟩ := filled
    obtain exposed | ⟨larger, exposed, _⟩ := exists_exposed known member
    · exact ⟨label, exposed⟩
    · exact ⟨larger, exposed⟩
  obtain ⟨least, exposed, smallest⟩ := Finset.exists_min_image _ id someExposed
  obtain ⟨node, validNode, members⟩ := exists_node
    ((growth.exposed (growth.content target)).erase least)
    ((Finset.erase_subset _ _).trans ((growth.exposed_subset _).trans known))
  exact ⟨node, least, validNode, valid, exposed, smallest, members⟩

end Orders

section Leading

variable {growth} {limit : ℕ} {node target : Node} {path : List Label}

theorem valid_of_arrives (arrives : growth.Arrives limit growth.start node path) :
    growth.valid node :=
  arrives.preserves (motive := fun node _ => growth.valid node) growth.start_valid
    fun _ _ _ _ step valid => (growth.of_step valid step).1

theorem earlier_iff {first second : List Label} :
    growth.Earlier first second ↔ List.Lex (· > ·) first second := by
  have same : growth.before = (· > ·) := by
    funext first second
    exact propext growth.before_iff
  rw [LabelledGraph.Earlier, same]

theorem earlier_cons {first second : Label} {rest more : List Label} :
    growth.Earlier (first :: rest) (second :: more) ↔
      second < first ∨ first = second ∧ growth.Earlier rest more := by
  rw [earlier_iff, List.cons_lex_cons_iff, ← earlier_iff]

theorem earlier_append {common first second : List Label} :
    growth.Earlier (common ++ first) (common ++ second) ↔ growth.Earlier first second := by
  induction common with
  | nil => exact Iff.rfl
  | cons label common ih =>
      rw [List.cons_append, List.cons_append, earlier_cons, ih]
      simp

theorem leading_unique {other : List Label}
    (leading : growth.Leading limit growth.start node path)
    (also : growth.Leading limit growth.start node other) : path = other := by
  have neither := leading.2 other also.1
  have nor := also.2 path leading.1
  rw [earlier_iff] at neither nor
  exact Std.Trichotomous.trichotomous (r := List.Lex (· > ·)) path other nor neither

/-- Going on greedily from the node before is never tried before the greedy path. -/
theorem not_earlier_greedy {label : Label} (valid : growth.valid node)
    (step : growth.next node label = some target) :
    ¬growth.Earlier (growth.greedy node ++ [label]) (growth.greedy target) := by
  obtain ⟨validTarget, _, fresh, grown⟩ := growth.of_step valid step
  obtain ⟨top, tops, below⟩ := exists_tops valid step
  obtain ⟨common, after, behind, ofTarget, ofNode, smaller, new, kept⟩ := tops.greedy_eq validTarget
  rw [ofTarget, ofNode, List.append_assoc, earlier_append]
  cases behind with
  | cons head behind =>
      have less := smaller head List.mem_cons_self
      rw [List.cons_append, earlier_cons]
      rintro (more | ⟨same, _⟩)
      · exact lt_asymm less more
      · exact less.ne same
  | nil =>
      rw [List.nil_append, earlier_cons]
      rintro (more | ⟨rfl, shorter⟩)
      · exact absurd more (not_lt.mpr below)
      · -- The last label is the largest new one, so nothing smaller is newly exposed.
        cases after with
        | nil => exact List.not_lex_nil shorter
        | cons head after =>
            obtain ⟨less, exposed⟩ := new head List.mem_cons_self
            obtain same | old :=
              Finset.mem_insert.mp (tops.exposed_subset_insert grown exposed)
            · exact less.ne same
            · exact absurd (kept head old less) List.not_mem_nil

theorem card_content_lt {label : Label} (valid : growth.valid node)
    (step : growth.next node label = some target) :
    (growth.content node).card < (growth.content target).card := by
  obtain ⟨_, _, fresh, grown⟩ := growth.of_step valid step
  refine Finset.card_lt_card (Finset.ssubset_iff_of_subset ?_ |>.mpr ⟨label, ?_, fresh⟩)
  · exact grown ▸ Finset.subset_union_left
  · exact grown ▸ Finset.mem_union_right _ (Finset.mem_insert_self label _)

/-- As far as the steps go the greedy path is the leading one, and a leading path that could
go on is greedy. -/
structure LeadsGreedily (growth : Growth Node Label) (limit : ℕ) (node : Node) : Prop where
  leading : (growth.greedy node).length ≤ limit →
    growth.Leading limit growth.start node (growth.greedy node)
  greedy : ∀ path, growth.Leading limit growth.start node path → path.length < limit →
    path = growth.greedy node

/-- It is so for the nodes with fewer labels than a node. -/
def LeadsBelow (growth : Growth Node Label) (limit : ℕ) (target : Node) : Prop :=
  ∀ node, growth.valid node → (growth.content node).card < (growth.content target).card →
    growth.LeadsGreedily limit node

theorem leading_greedy_of_smaller (valid : growth.valid target)
    (smaller : LeadsBelow growth limit target)
    (short : (growth.greedy target).length ≤ limit) :
    growth.Leading limit growth.start target (growth.greedy target) := by
  constructor
  · obtain empty | filled := (growth.content target).eq_empty_or_nonempty
    · rw [greedy_of_empty empty]
      exact LabelledGraph.arrives_nil.mpr (eq_start_of_empty valid empty)
    · obtain ⟨node, least, trims⟩ := exists_trims valid filled
      rw [trims.greedy_eq, List.length_append, List.length_singleton] at short
      have fewer := card_content_lt trims.valid trims.next_eq
      have leading := (smaller node trims.valid fewer).leading (by omega)
      rw [trims.greedy_eq]
      exact LabelledGraph.arrives_concat.mpr ⟨node, trims.next_eq, by omega, leading⟩
  · intro other comes
    obtain ⟨rfl, rfl⟩ | ⟨node, label, path, step, rfl, room, leading⟩ :=
      LabelledGraph.arrives_iff.mp comes
    · rw [greedy_of_empty growth.content_start]
      exact List.not_lex_nil
    · have validNode := valid_of_arrives leading.1
      rw [(smaller node validNode (card_content_lt validNode step)).greedy path leading room]
      exact not_earlier_greedy validNode step

/-- A step along `label` adds `top` as well, and `taken` is where `top` leads to by itself. -/
structure Detour (growth : Growth Node Label) (node : Node) (label top : Label)
    (taken target : Node) : Prop where
  valid : growth.valid node
  step : growth.next node label = some target
  tops : Tops growth (growth.content node) (growth.content target) top
  le_top : label ≤ top
  first : growth.next node top = some taken

theorem exists_detour {label : Label} (valid : growth.valid node)
    (step : growth.next node label = some target) :
    ∃ top taken, Detour growth node label top taken target := by
  obtain ⟨top, tops, below⟩ := exists_tops valid step
  have usable := growth.content_usable (growth.of_step valid step).1 tops.mem
  obtain ⟨taken, first⟩ := growth.exists_step valid usable tops.fresh
  exact ⟨top, taken, valid, step, tops, below, first⟩

namespace Detour

variable {label top : Label} {taken : Node}

theorem validTarget (detour : Detour growth node label top taken target) : growth.valid target :=
  (growth.of_step detour.valid detour.step).1

theorem validTaken (detour : Detour growth node label top taken target) : growth.valid taken :=
  (growth.of_step detour.valid detour.first).1

theorem content_taken (detour : Detour growth node label top taken target) :
    growth.content taken = growth.content node ∪ insert top (growth.below top) :=
  (growth.of_step detour.valid detour.first).2.2.2

theorem content_target (detour : Detour growth node label top taken target) :
    growth.content target = growth.content node ∪ insert label (growth.below label) :=
  (growth.of_step detour.valid detour.step).2.2.2

theorem subset (detour : Detour growth node label top taken target) :
    growth.content taken ⊆ growth.content target := by
  rw [detour.content_taken]
  refine Finset.union_subset detour.tops.subset (Finset.insert_subset detour.tops.mem ?_)
  exact growth.content_closed detour.validTarget detour.tops.mem

theorem topsTaken (detour : Detour growth node label top taken target) :
    Tops growth (growth.content node) (growth.content taken) top where
  subset := detour.content_taken ▸ Finset.subset_union_left
  closed := detour.tops.closed
  mem := detour.content_taken ▸ Finset.mem_union_right _ (Finset.mem_insert_self top _)
  fresh := detour.tops.fresh
  largest := fun other member absent => detour.tops.largest other (detour.subset member) absent

theorem length_greedy_le (detour : Detour growth node label top taken target) :
    (growth.greedy taken).length ≤ (growth.greedy node).length + 1 := by
  rw [length_greedy detour.validTaken, length_greedy detour.valid]
  exact (Finset.card_le_card (detour.topsTaken.exposed_subset_insert detour.content_taken)).trans
    (Finset.card_insert_le top _)

/-- The larger label may bring everything that the step adds. -/
theorem eq_target (detour : Detour growth node label top taken target)
    (covered : label ∈ growth.content taken) : taken = target := by
  refine growth.ext_content detour.validTaken detour.validTarget ?_
  refine Finset.Subset.antisymm detour.subset ?_
  rw [detour.content_target]
  refine Finset.union_subset detour.topsTaken.subset (Finset.insert_subset covered ?_)
  exact growth.content_closed detour.validTaken covered

/-- Otherwise the step can still be made behind the larger label. -/
theorem next_taken (detour : Detour growth node label top taken target)
    (uncovered : label ∉ growth.content taken) : growth.next taken label = some target := by
  have usable := (growth.of_step detour.valid detour.step).2.1
  obtain ⟨reached, second⟩ := growth.exists_step detour.validTaken usable uncovered
  obtain ⟨validReached, _, _, grown⟩ := growth.of_step detour.validTaken second
  rw [second, growth.ext_content validReached detour.validTarget]
  rw [grown]
  apply Finset.Subset.antisymm
  · refine Finset.union_subset detour.subset ?_
    exact detour.content_target ▸ Finset.subset_union_right
  · rw [detour.content_target]
    exact Finset.union_subset_union_left detour.topsTaken.subset

/-- The way over the larger label is tried before the step. -/
theorem earlier (detour : Detour growth node label top taken target) (less : label < top) :
    growth.Earlier (growth.greedy taken ++ [label]) (growth.greedy node ++ [label]) := by
  obtain ⟨common, after, behind, ofTaken, ofNode, lower, _⟩ :=
    detour.topsTaken.greedy_eq detour.validTaken
  rw [ofTaken, ofNode, List.append_assoc, List.append_assoc, earlier_append, List.cons_append]
  cases behind with
  | nil => exact earlier_cons.mpr (.inl less)
  | cons head behind => exact earlier_cons.mpr (.inl (lower head List.mem_cons_self))

end Detour

/-- A leading path to which a step goes on from the end of a greedy path is not too short to
be greedy. -/
theorem length_greedy_le_of_leading {label : Label} (valid : growth.valid node)
    (step : growth.next node label = some target) (smaller : LeadsBelow growth limit target)
    (short : (growth.greedy node).length + 1 < limit)
    (leading : growth.Leading limit growth.start target (growth.greedy node ++ [label])) :
    (growth.greedy target).length ≤ limit := by
  obtain ⟨top, taken, detour⟩ := exists_detour valid step
  have shortTaken := detour.length_greedy_le
  by_cases covered : label ∈ growth.content taken
  · rw [← detour.eq_target covered]
    omega
  · exfalso
    have less : label < top :=
      lt_of_le_of_ne detour.le_top fun same => covered (same ▸ detour.topsTaken.mem)
    have second := detour.next_taken covered
    have leadingTaken := (smaller taken detour.validTaken
      (card_content_lt detour.validTaken second)).leading (by omega)
    have comes := LabelledGraph.arrives_concat.mpr ⟨taken, second, by omega, leadingTaken⟩
    exact leading.2 _ comes (detour.earlier less)

theorem eq_greedy_of_smaller (valid : growth.valid target)
    (smaller : LeadsBelow growth limit target)
    (leading : growth.Leading limit growth.start target path) (short : path.length < limit) :
    path = growth.greedy target := by
  have enough : (growth.greedy target).length ≤ limit := by
    obtain ⟨rfl, rfl⟩ | ⟨node, label, before, step, rfl, room, first⟩ :=
      LabelledGraph.arrives_iff.mp leading.1
    · rw [greedy_of_empty growth.content_start]
      exact Nat.zero_le limit
    · have validNode := valid_of_arrives first.1
      obtain rfl :=
        (smaller node validNode (card_content_lt validNode step)).greedy before first room
      rw [List.length_append, List.length_singleton] at short
      exact length_greedy_le_of_leading validNode step smaller short leading
  exact leading_unique leading (leading_greedy_of_smaller valid smaller enough)

theorem leadsGreedily (valid : growth.valid node) : growth.LeadsGreedily limit node := by
  induction card : (growth.content node).card using Nat.strong_induction_on generalizing node with
  | _ size ih =>
      have smaller : LeadsBelow growth limit node :=
        fun other validOther fewer => ih _ (card ▸ fewer) validOther rfl
      exact ⟨leading_greedy_of_smaller valid smaller,
        fun _ leading short => eq_greedy_of_smaller valid smaller leading short⟩

/-- The search can go on from a node exactly when the node has fewer exposed labels than the
search has steps. -/
theorem exists_short_leading_iff (valid : growth.valid node) :
    (∃ path, growth.Leading limit growth.start node path ∧ path.length < limit) ↔
      (growth.exposed (growth.content node)).card < limit := by
  rw [← length_greedy valid]
  constructor
  · rintro ⟨path, leading, short⟩
    rwa [← (leadsGreedily valid).greedy path leading short]
  · exact fun short => ⟨_, (leadsGreedily valid).leading short.le, short⟩

end Leading

end Growth

end ScuffleVideo.Search
