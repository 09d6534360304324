import Mathlib.Data.Finset.Insert
import Mathlib.Data.List.Lex
import Mathlib.Data.Set.Finite.List
import Mathlib.Order.WellFoundedSet

/-!
# Depth-first search with a step limit

A search that never expands a node twice and that may take only so many steps from its
start expands a node with what is left of the steps when it first comes there.  Along which
path that happens depends on the order of the labels: among the paths that arrive at a
node the first one in the order of words is the leading path, and only what one more step
reaches from the end of a leading path is found.
-/

namespace ScuffleVideo.Search

/-- A graph with labelled edges and no cycle, its labels listed in the order in which a
search tries them. -/
structure LabelledGraph (Node Label : Type*) where
  next : Node → Label → Option Node
  labels : List Label
  before : Label → Label → Prop
  ordered : labels.Pairwise before
  asymm : ∀ {first second : Label}, before first second → ¬before second first
  trans : ∀ {first second third : Label},
    before first second → before second third → before first third
  covers : ∀ {source target : Node} {label : Label},
    next source label = some target → label ∈ labels
  rank : Node → ℕ
  climbs : ∀ {source target : Node} {label : Label},
    next source label = some target → rank source < rank target

variable {Node Label : Type*}

namespace LabelledGraph

variable (graph : LabelledGraph Node Label)

section Paths

/-- `first` is tried before `second`; a path is tried before its continuations. -/
def Earlier (first second : List Label) : Prop := List.Lex graph.before first second

theorem earlier_irrefl (path : List Label) : ¬graph.Earlier path path :=
  List.lex_irrefl (fun _ loop => graph.asymm loop loop) path

/-- What is tried before a continuation by one label. -/
theorem earlier_concat {other path : List Label} {label : Label} :
    graph.Earlier other (path ++ [label]) ↔
      graph.Earlier other path ∨ other = path ∨
        ∃ sibling, graph.before sibling label ∧ path ++ [sibling] <+: other := by
  unfold Earlier
  induction path generalizing other with
  | nil =>
      cases other with
      | nil => simp
      | cons head rest => simp [List.cons_lex_cons_iff, List.prefix_cons_iff]
  | cons first path ih =>
      cases other with
      | nil => simp
      | cons head rest =>
          simp only [List.cons_append, List.cons_lex_cons_iff, List.cons.injEq,
            List.cons_prefix_cons, ih]
          constructor
          · rintro (ahead | ⟨rfl, ahead | rfl | ⟨sibling, earlier, continued⟩⟩)
            · exact .inl (.inl ahead)
            · exact .inl (.inr ⟨rfl, ahead⟩)
            · exact .inr (.inl ⟨rfl, rfl⟩)
            · exact .inr (.inr ⟨sibling, earlier, rfl, continued⟩)
          · rintro ((ahead | ⟨rfl, ahead⟩) | ⟨rfl, rfl⟩ | ⟨sibling, earlier, rfl, continued⟩)
            · exact .inl ahead
            · exact .inr ⟨rfl, .inl ahead⟩
            · exact .inr ⟨rfl, .inr (.inl rfl)⟩
            · exact .inr ⟨rfl, .inr (.inr ⟨sibling, earlier, continued⟩)⟩

/-- The search with `limit` steps from `start` comes to `node` along `path`: the last step
goes out from the end of a path of fewer steps that no other path to the same node is
tried before. -/
def Arrives (limit : ℕ) (start node : Node) (path : List Label) : Prop :=
  (node = start ∧ path = []) ∨
    ∃ source label earlier, ∃ _ : graph.next source label = some node,
      path = earlier ++ [label] ∧ earlier.length < limit ∧
        Arrives limit start source earlier ∧
        ∀ other, Arrives limit start source other → ¬graph.Earlier other earlier
termination_by graph.rank node
decreasing_by all_goals exact graph.climbs ‹_›

/-- The path along which the search first comes to a node. -/
def Leading (limit : ℕ) (start node : Node) (path : List Label) : Prop :=
  graph.Arrives limit start node path ∧
    ∀ other, graph.Arrives limit start node other → ¬graph.Earlier other path

variable {graph} {limit : ℕ} {start node : Node} {path : List Label}

theorem arrives_iff :
    graph.Arrives limit start node path ↔
      (node = start ∧ path = []) ∨
        ∃ source label earlier, graph.next source label = some node ∧
          path = earlier ++ [label] ∧ earlier.length < limit ∧
            graph.Leading limit start source earlier := by
  rw [Arrives]
  simp only [Leading, exists_prop]

theorem arrives_nil : graph.Arrives limit start node [] ↔ node = start := by
  rw [arrives_iff]
  simp

theorem arrives_concat {label : Label} :
    graph.Arrives limit start node (path ++ [label]) ↔
      ∃ source, graph.next source label = some node ∧ path.length < limit ∧
        graph.Leading limit start source path := by
  rw [arrives_iff]
  constructor
  · rintro (⟨_, impossible⟩ | ⟨source, last, earlier, step, same, short, leading⟩)
    · simp at impossible
    · obtain ⟨rfl, rfl⟩ := List.append_singleton_inj.mp same
      exact ⟨source, step, short, leading⟩
  · rintro ⟨source, step, short, leading⟩
    exact .inr ⟨source, label, path, step, rfl, short, leading⟩

/-- What holds of the start and is kept by each step holds wherever the search comes to. -/
theorem Arrives.preserves {motive : Node → ℕ → Prop} (initial : motive start 0)
    (kept : ∀ source label target steps, graph.next source label = some target →
      motive source steps → motive target (steps + 1))
    (arrives : graph.Arrives limit start node path) : motive node path.length := by
  induction path using List.reverseRecOn generalizing node with
  | nil =>
      rw [arrives_nil.mp arrives]
      exact initial
  | append_singleton path label ih =>
      obtain ⟨source, step, _, leading⟩ := arrives_concat.mp arrives
      rw [List.length_append]
      exact kept source label node path.length step (ih leading.1)

theorem Arrives.length_le (arrives : graph.Arrives limit start node path) :
    path.length ≤ limit := by
  obtain ⟨_, rfl⟩ | ⟨_, _, earlier, _, rfl, short, _⟩ := arrives_iff.mp arrives
  · exact Nat.zero_le _
  · rw [List.length_append]
    exact short

/-- A path ends in one node. -/
theorem Arrives.node_unique {other : Node} (arrives : graph.Arrives limit start node path)
    (also : graph.Arrives limit start other path) : node = other := by
  induction path using List.reverseRecOn generalizing node other with
  | nil => rw [arrives_nil.mp arrives, arrives_nil.mp also]
  | append_singleton path label ih =>
      obtain ⟨source, step, _, leading⟩ := arrives_concat.mp arrives
      obtain ⟨second, stepAlso, _, leadingAlso⟩ := arrives_concat.mp also
      obtain rfl := ih leading.1 leadingAlso.1
      exact Option.some.inj (step.symm.trans stepAlso)

/-- Every part that a path starts with is a path that the search goes along. -/
theorem Arrives.of_prefix {target : Node} {longer : List Label}
    (arrives : graph.Arrives limit start target longer) (begins : path <+: longer) :
    ∃ node, graph.Arrives limit start node path := by
  induction longer using List.reverseRecOn generalizing target with
  | nil =>
      rw [List.prefix_nil.mp begins]
      exact ⟨start, arrives_nil.mpr rfl⟩
  | append_singleton longer label ih =>
      obtain rfl | inner := List.prefix_concat_iff.mp begins
      · exact ⟨target, arrives⟩
      · obtain ⟨source, _, _, leading⟩ := arrives_concat.mp arrives
        exact ih leading.1 inner

/-- A path that the search continues is the leading path to where it ends. -/
theorem Arrives.continued {target : Node} {longer : List Label}
    (arrives : graph.Arrives limit start node path)
    (further : graph.Arrives limit start target longer) (begins : path <+: longer) :
    (longer = path ∧ target = node) ∨
      (graph.Leading limit start node path ∧ path.length < limit ∧
        ∃ child label, graph.next node label = some child ∧ path ++ [label] <+: longer) := by
  obtain ⟨rest, rfl⟩ := begins
  cases rest with
  | nil =>
      rw [List.append_nil] at further ⊢
      exact .inl ⟨rfl, further.node_unique arrives⟩
  | cons label rest =>
      have begins : path ++ [label] <+: path ++ label :: rest := ⟨rest, by simp⟩
      obtain ⟨child, toChild⟩ := further.of_prefix begins
      obtain ⟨source, step, short, leading⟩ := arrives_concat.mp toChild
      obtain rfl := leading.1.node_unique arrives
      exact .inr ⟨leading, short, child, label, step, begins⟩

theorem Arrives.labels (arrives : graph.Arrives limit start node path) :
    ∀ label ∈ path, label ∈ graph.labels := by
  induction path using List.reverseRecOn generalizing node with
  | nil => exact fun _ impossible => absurd impossible List.not_mem_nil
  | append_singleton path last ih =>
      obtain ⟨source, step, _, leading⟩ := arrives_concat.mp arrives
      intro label member
      obtain member | last := List.mem_append.mp member
      · exact ih leading.1 label member
      · rw [List.mem_singleton.mp last]
        exact graph.covers step

theorem Arrives.length_le_rank (arrives : graph.Arrives limit start node path) :
    path.length ≤ graph.rank node := by
  refine arrives.preserves (motive := fun node steps => steps ≤ graph.rank node)
    (Nat.zero_le _) ?_
  intro source label target steps step bounded
  exact Nat.succ_le_of_lt (Nat.lt_of_le_of_lt bounded (graph.climbs step))

end Paths

section Completeness

theorem finite_paths (limit : ℕ) :
    {path : List Label | (∀ label ∈ path, label ∈ graph.labels) ∧ path.length ≤ limit}.Finite := by
  induction limit with
  | zero =>
      refine (Set.finite_singleton []).subset ?_
      rintro path ⟨_, empty⟩
      exact List.length_eq_zero_iff.mp (Nat.le_zero.mp empty)
  | succ limit ih =>
      refine ((Set.finite_singleton []).union
        ((List.finite_toSet graph.labels).image2 List.cons ih)).subset ?_
      rintro path ⟨known, short⟩
      cases path with
      | nil => exact .inl rfl
      | cons label path =>
          refine .inr ⟨label, known label List.mem_cons_self, path, ⟨?_, ?_⟩, rfl⟩
          · exact fun other member => known other (List.mem_cons_of_mem label member)
          · exact Nat.le_of_succ_le_succ short

variable {graph} {limit : ℕ} {start node : Node} {path : List Label}

/-- There is a first path to each node to which the search comes. -/
theorem Arrives.exists_leading (arrives : graph.Arrives limit start node path) :
    ∃ first, graph.Leading limit start node first := by
  have strict : IsStrictOrder (List Label) graph.Earlier :=
    { irrefl := graph.earlier_irrefl
      trans := fun _ _ _ first second => List.lex_trans graph.trans first second }
  have finite : {path | graph.Arrives limit start node path}.Finite :=
    (graph.finite_paths limit).subset fun _ comes => ⟨comes.labels, comes.length_le⟩
  have founded : Set.WellFoundedOn _ graph.Earlier := finite.wellFoundedOn
  obtain ⟨first, comes, least⟩ :=
    (Set.wellFoundedOn_iff.mp founded).has_min _ ⟨path, arrives⟩
  exact ⟨first, comes, fun other also earlier => least other also ⟨earlier, also, comes⟩⟩

/-- With steps enough for every node that has an edge the search comes wherever edges lead. -/
theorem exists_arrives_of_reachable
    (wide : ∀ source label target, graph.next source label = some target →
      graph.rank source < limit)
    (reachable : Relation.ReflTransGen
      (fun source target => ∃ label, graph.next source label = some target) start node) :
    ∃ path, graph.Arrives limit start node path := by
  induction reachable with
  | refl => exact ⟨[], arrives_nil.mpr rfl⟩
  | tail _ edge ih =>
      obtain ⟨path, arrives⟩ := ih
      obtain ⟨label, step⟩ := edge
      obtain ⟨first, leading⟩ := arrives.exists_leading
      have short := Nat.lt_of_le_of_lt leading.1.length_le_rank (wide _ label _ step)
      exact ⟨first ++ [label], arrives_concat.mpr ⟨_, step, short, leading⟩⟩

end Completeness

section Found

variable {graph} {limit : ℕ} {start : Node}

/-- What the search has found when it comes to the end of a path: the nodes to which it
came along a path that it tries before this one. -/
def FoundBefore (graph : LabelledGraph Node Label) (limit : ℕ) (start : Node) (path : List Label)
    (found : Finset Node) : Prop :=
  ∀ node, node ∈ found ↔
    ∃ other, graph.Arrives limit start node other ∧ graph.Earlier other path

/-- What the search has found when it goes back from the end of a path. -/
def FoundThrough (graph : LabelledGraph Node Label) (limit : ℕ) (start : Node) (path : List Label)
    (found : Finset Node) : Prop :=
  ∀ node, node ∈ found ↔
    ∃ other, graph.Arrives limit start node other ∧
      (graph.Earlier other path ∨ path <+: other)

/-- What the search has found when some of the labels have been tried at the end of a path. -/
def FoundBehind (graph : LabelledGraph Node Label) (limit : ℕ) (start : Node) (path : List Label)
    (tried : List Label) (found : Finset Node) : Prop :=
  ∀ node, node ∈ found ↔
    ∃ other, graph.Arrives limit start node other ∧
      (graph.Earlier other path ∨ other = path ∨
        ∃ label ∈ tried, path ++ [label] <+: other)

variable {node : Node} {path : List Label} {found : Finset Node}

theorem mem_found_iff_not_leading (before : graph.FoundBefore limit start path found)
    (arrives : graph.Arrives limit start node path) :
    node ∈ found ↔ ¬graph.Leading limit start node path := by
  rw [before node]
  constructor
  · rintro ⟨other, comes, earlier⟩ leading
    exact leading.2 other comes earlier
  · intro follows
    by_contra none
    exact follows ⟨arrives, fun other comes earlier => none ⟨other, comes, earlier⟩⟩

/-- Nothing is found behind a node that was found before. -/
theorem foundThrough_of_found (before : graph.FoundBefore limit start path found)
    (arrives : graph.Arrives limit start node path) (visited : node ∈ found) :
    graph.FoundThrough limit start path found := by
  intro target
  constructor
  · intro member
    obtain ⟨other, comes, earlier⟩ := (before target).mp member
    exact ⟨other, comes, .inl earlier⟩
  · rintro ⟨other, comes, earlier | begins⟩
    · exact (before target).mpr ⟨other, comes, earlier⟩
    · obtain ⟨_, rfl⟩ | ⟨leading, _⟩ := arrives.continued comes begins
      · exact visited
      · exact absurd leading ((mem_found_iff_not_leading before arrives).mp visited)

/-- When every label has been tried, the search goes back. -/
theorem FoundBehind.finish (behind : graph.FoundBehind limit start path graph.labels found)
    (arrives : graph.Arrives limit start node path) :
    graph.FoundThrough limit start path found := by
  intro target
  rw [behind target]
  constructor
  · rintro ⟨other, comes, earlier | rfl | ⟨label, _, begins⟩⟩
    · exact ⟨other, comes, .inl earlier⟩
    · exact ⟨other, comes, .inr (List.prefix_refl other)⟩
    · exact ⟨other, comes, .inr ((List.prefix_append path [label]).trans begins)⟩
  · rintro ⟨other, comes, earlier | begins⟩
    · exact ⟨other, comes, .inl earlier⟩
    · obtain ⟨rfl, _⟩ | ⟨_, _, child, label, step, further⟩ := arrives.continued comes begins
      · exact ⟨other, comes, .inr (.inl rfl)⟩
      · exact ⟨other, comes, .inr (.inr ⟨label, graph.covers step, further⟩)⟩

/-- A label that leads nowhere adds nothing. -/
theorem FoundBehind.skip {tried : List Label} {label : Label}
    (behind : graph.FoundBehind limit start path tried found)
    (arrives : graph.Arrives limit start node path) (blocked : graph.next node label = none) :
    graph.FoundBehind limit start path (tried ++ [label]) found := by
  intro target
  rw [behind target]
  constructor
  · rintro ⟨other, comes, earlier | same | ⟨sibling, member, begins⟩⟩
    · exact ⟨other, comes, .inl earlier⟩
    · exact ⟨other, comes, .inr (.inl same)⟩
    · exact ⟨other, comes, .inr (.inr ⟨sibling, List.mem_append_left _ member, begins⟩)⟩
  · rintro ⟨other, comes, earlier | same | ⟨sibling, member, begins⟩⟩
    · exact ⟨other, comes, .inl earlier⟩
    · exact ⟨other, comes, .inr (.inl same)⟩
    · obtain member | last := List.mem_append.mp member
      · exact ⟨other, comes, .inr (.inr ⟨sibling, member, begins⟩)⟩
      · obtain rfl := List.mem_singleton.mp last
        obtain ⟨child, toChild⟩ := comes.of_prefix begins
        obtain ⟨source, step, _, leading⟩ := arrives_concat.mp toChild
        obtain rfl := leading.1.node_unique arrives
        exact absurd (step.symm.trans blocked) (Option.some_ne_none child)

/-- Where a label leads, the search comes with what was found behind the labels in front of
it. -/
theorem FoundBehind.foundBefore {tried rest : List Label} {label : Label}
    (behind : graph.FoundBehind limit start path tried found)
    (split : graph.labels = tried ++ label :: rest) :
    graph.FoundBefore limit start (path ++ [label]) found := by
  have ordered := graph.ordered
  rw [split, List.pairwise_append, List.pairwise_cons] at ordered
  obtain ⟨_, ⟨after, _⟩, front⟩ := ordered
  intro target
  rw [behind target]
  constructor
  · rintro ⟨other, comes, found⟩
    refine ⟨other, comes, graph.earlier_concat.mpr ?_⟩
    obtain earlier | same | ⟨sibling, member, begins⟩ := found
    · exact .inl earlier
    · exact .inr (.inl same)
    · exact .inr (.inr ⟨sibling, front sibling member label List.mem_cons_self, begins⟩)
  · rintro ⟨other, comes, ahead⟩
    refine ⟨other, comes, ?_⟩
    obtain earlier | same | ⟨sibling, first, begins⟩ := graph.earlier_concat.mp ahead
    · exact .inl earlier
    · exact .inr (.inl same)
    · refine .inr (.inr ⟨sibling, ?_, begins⟩)
      obtain ⟨child, toChild⟩ := comes.of_prefix begins
      obtain ⟨source, step, _⟩ := arrives_concat.mp toChild
      have member := graph.covers step
      rw [split] at member
      obtain member | member := List.mem_append.mp member
      · exact member
      · obtain rfl | behindLabel := List.mem_cons.mp member
        · exact absurd first (graph.asymm first)
        · exact absurd first (graph.asymm (after sibling behindLabel))

/-- What is found behind a label adds to what was found behind those in front of it. -/
theorem FoundThrough.foundBehind {tried : List Label} {label : Label} {more : Finset Node}
    (through : graph.FoundThrough limit start (path ++ [label]) more)
    (before : graph.FoundBefore limit start (path ++ [label]) found)
    (behind : graph.FoundBehind limit start path tried found) :
    graph.FoundBehind limit start path (tried ++ [label]) more := by
  intro target
  rw [through target]
  constructor
  · rintro ⟨other, comes, ahead | begins⟩
    · obtain ⟨other, comes, earlier | same | ⟨sibling, member, begins⟩⟩ :=
        (behind target).mp ((before target).mpr ⟨other, comes, ahead⟩)
      · exact ⟨other, comes, .inl earlier⟩
      · exact ⟨other, comes, .inr (.inl same)⟩
      · exact ⟨other, comes, .inr (.inr ⟨sibling, List.mem_append_left _ member, begins⟩)⟩
    · exact ⟨other, comes, .inr (.inr ⟨label, by simp, begins⟩)⟩
  · rintro ⟨other, comes, ahead⟩
    have old : target ∈ found →
        ∃ other, graph.Arrives limit start target other ∧
          (graph.Earlier other (path ++ [label]) ∨ path ++ [label] <+: other) := by
      intro member
      obtain ⟨other, comes, earlier⟩ := (before target).mp member
      exact ⟨other, comes, .inl earlier⟩
    obtain earlier | same | ⟨sibling, member, begins⟩ := ahead
    · exact old ((behind target).mpr ⟨other, comes, .inl earlier⟩)
    · exact old ((behind target).mpr ⟨other, comes, .inr (.inl same)⟩)
    · obtain member | last := List.mem_append.mp member
      · exact old ((behind target).mpr ⟨other, comes, .inr (.inr ⟨sibling, member, begins⟩)⟩)
      · obtain rfl := List.mem_singleton.mp last
        exact ⟨other, comes, .inr begins⟩

end Found

section Exploring

variable [DecidableEq Node]

/-- The nodes found when the search comes to `node` with a number of steps left and goes on
from there, having found some nodes before. -/
def explore : ℕ → Node → Finset Node → Finset Node
  | 0, node, found => insert node found
  | steps + 1, node, found =>
      if node ∈ found then found
      else (graph.labels.filterMap (graph.next node)).foldl
        (fun found child => explore steps child found) (insert node found)

theorem explore_of_found {steps : ℕ} {node : Node} {found : Finset Node}
    (visited : node ∈ found) : graph.explore steps node found = found := by
  cases steps with
  | zero => exact Finset.insert_eq_of_mem visited
  | succ steps => rw [explore, if_pos visited]

/-- The search from several nodes, one after the other. -/
def exploreAll (steps : ℕ) (nodes : List Node) (found : Finset Node) : Finset Node :=
  nodes.foldl (fun found node => graph.explore steps node found) found

@[simp] theorem exploreAll_cons (steps : ℕ) (node : Node) (nodes : List Node)
    (found : Finset Node) :
    graph.exploreAll steps (node :: nodes) found =
      graph.exploreAll steps nodes (graph.explore steps node found) := rfl

theorem explore_succ_of_fresh {steps : ℕ} {node : Node} {found : Finset Node}
    (fresh : node ∉ found) :
    graph.explore (steps + 1) node found =
      graph.exploreAll steps (graph.labels.filterMap (graph.next node)) (insert node found) := by
  rw [explore, if_neg fresh, exploreAll]

/-- Nothing found is lost. -/
theorem subset_explore (steps : ℕ) (node : Node) (found : Finset Node) :
    found ⊆ graph.explore steps node found := by
  induction steps generalizing node found with
  | zero => exact Finset.subset_insert node found
  | succ steps ih =>
      by_cases visited : node ∈ found
      · rw [graph.explore_of_found visited]
      · rw [graph.explore_succ_of_fresh visited]
        have kept : ∀ (nodes : List Node) (found : Finset Node),
            found ⊆ graph.exploreAll steps nodes found := by
          intro nodes
          induction nodes with
          | nil => exact fun found => Finset.Subset.refl found
          | cons child nodes more => exact fun found => (ih child found).trans (more _)
        exact (Finset.subset_insert node found).trans (kept _ _)

/-- Nodes that were found before need not be searched from. -/
theorem exploreAll_filter (steps : ℕ) (nodes : List Node) {known found : Finset Node}
    (old : known ⊆ found) :
    graph.exploreAll steps (nodes.filter (· ∉ known)) found =
      graph.exploreAll steps nodes found := by
  induction nodes generalizing found with
  | nil => rfl
  | cons node nodes ih =>
      rw [exploreAll_cons]
      by_cases visited : node ∈ known
      · rw [List.filter_cons_of_neg (by simpa using visited),
          graph.explore_of_found (old visited)]
        exact ih old
      · rw [List.filter_cons_of_pos (by simpa using visited), exploreAll_cons]
        exact ih (old.trans (graph.subset_explore steps node found))

variable {graph} {limit : ℕ} {start node : Node} {path : List Label} {found : Finset Node}

/-- With no step left the node itself is all that is found. -/
theorem foundThrough_of_limit (before : graph.FoundBefore limit start path found)
    (arrives : graph.Arrives limit start node path) (full : path.length = limit) :
    graph.FoundThrough limit start path (insert node found) := by
  intro target
  rw [Finset.mem_insert, before target]
  constructor
  · rintro (rfl | ⟨other, comes, earlier⟩)
    · exact ⟨path, arrives, .inr (List.prefix_refl path)⟩
    · exact ⟨other, comes, .inl earlier⟩
  · rintro ⟨other, comes, earlier | begins⟩
    · exact .inr ⟨other, comes, earlier⟩
    · obtain ⟨_, rfl⟩ | ⟨_, short, _⟩ := arrives.continued comes begins
      · exact .inl rfl
      · exact absurd short (by omega)

theorem foundBehind_nil (before : graph.FoundBefore limit start path found)
    (arrives : graph.Arrives limit start node path) :
    graph.FoundBehind limit start path [] (insert node found) := by
  intro target
  rw [Finset.mem_insert, before target]
  constructor
  · rintro (rfl | ⟨other, comes, earlier⟩)
    · exact ⟨path, arrives, .inr (.inl rfl)⟩
    · exact ⟨other, comes, .inl earlier⟩
  · rintro ⟨other, comes, earlier | rfl | ⟨_, impossible, _⟩⟩
    · exact .inr ⟨other, comes, earlier⟩
    · exact .inl (comes.node_unique arrives)
    · exact absurd impossible List.not_mem_nil

/-- One label after the other is tried from the end of a leading path, if the search behind
each of them finds what is found through it. -/
theorem exploreAll_foundBehind {steps : ℕ}
    (search : ∀ (node : Node) (path : List Label) (found : Finset Node),
      graph.FoundBefore limit start path found → graph.Arrives limit start node path →
        path.length + steps = limit →
          graph.FoundThrough limit start path (graph.explore steps node found))
    (leading : graph.Leading limit start node path) (left : path.length + (steps + 1) = limit)
    {rest tried : List Label} (split : graph.labels = tried ++ rest)
    (behind : graph.FoundBehind limit start path tried found) :
    graph.FoundBehind limit start path graph.labels
      (graph.exploreAll steps (rest.filterMap (graph.next node)) found) := by
  induction rest generalizing tried found with
  | nil =>
      rw [split, List.append_nil]
      exact behind
  | cons label rest ih =>
      have further : graph.labels = (tried ++ [label]) ++ rest := by
        rw [split, List.append_assoc, List.singleton_append]
      cases step : graph.next node label with
      | none =>
          rw [List.filterMap_cons_none step]
          exact ih further (behind.skip leading.1 step)
      | some child =>
          rw [List.filterMap_cons_some step, exploreAll_cons]
          have toChild : graph.Arrives limit start child (path ++ [label]) :=
            arrives_concat.mpr ⟨node, step, by omega, leading⟩
          have beforeChild := behind.foundBefore split
          have throughChild := search child _ found beforeChild toChild (by simp; omega)
          exact ih further (throughChild.foundBehind beforeChild behind)

/-- Coming to the end of a path with what was found before it, the search goes back with
what is found through it. -/
theorem explore_foundThrough (steps : ℕ) (node : Node) (path : List Label)
    (found : Finset Node) (before : graph.FoundBefore limit start path found)
    (arrives : graph.Arrives limit start node path) (left : path.length + steps = limit) :
    graph.FoundThrough limit start path (graph.explore steps node found) := by
  induction steps generalizing node path found with
  | zero => exact foundThrough_of_limit before arrives left
  | succ steps ih =>
      by_cases visited : node ∈ found
      · rw [graph.explore_of_found visited]
        exact foundThrough_of_found before arrives visited
      · rw [graph.explore_succ_of_fresh visited]
        have leading : graph.Leading limit start node path := by
          by_contra follows
          exact visited ((mem_found_iff_not_leading before arrives).mpr follows)
        have behind := exploreAll_foundBehind ih leading left (List.nil_append _).symm
          (foundBehind_nil before arrives)
        exact behind.finish arrives

/-- The search finds the nodes to which it comes along some path. -/
theorem mem_explore_iff (graph : LabelledGraph Node Label) (limit : ℕ) (start : Node) :
    node ∈ graph.explore limit start ∅ ↔ ∃ path, graph.Arrives limit start node path := by
  have before : graph.FoundBefore limit start [] ∅ := by
    intro target
    simp [Earlier]
  have through := explore_foundThrough limit start [] ∅ before (arrives_nil.mpr rfl)
    (Nat.zero_add limit)
  rw [through node]
  simp [Earlier]

end Exploring

end LabelledGraph

end ScuffleVideo.Search
