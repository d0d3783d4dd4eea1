import Stringify.Proofs.Host.Classify

/-!
# The order of constituents

Two hosts may list the constituents of their nodes in another order and with other repetitions. Runs
then visit other nodes first, leave others out and know other verdicts on the way. On a graph
without cycles the verdict of every node is nevertheless the same: the rules say the same of it up
to the listing, and no merge depends on the listing.
-/

namespace Stringify

namespace Host

variable {Node : Type} {host other : Host Node} {settings : Settings} {nodes : Set Node}
variable {label labelled : Node → Verdict} {node part : Node}

/-! ## Decompositions -/

/-- Two decompositions into the same constituents, in whatever order and number. -/
abbrev SameParts : (parts others : Option (List Node)) → Prop :=
  Option.Rel fun parts others => ∀ part, part ∈ parts ↔ part ∈ others

/-- Two hosts answer alike about some nodes, up to the listing of constituents. -/
structure SameUpToListing (host other : Host Node) (nodes : Set Node) : Prop where
  callSignatures : ∀ node ∈ nodes, host.hasCallSignatures node = other.hasCallSignatures node
  declarations : ∀ node ∈ nodes, host.declarations node = other.declarations node
  booleanLike : ∀ node ∈ nodes, host.isBooleanLike node = other.isBooleanLike node
  name : ∀ node ∈ nodes, host.name node = other.name node
  root : host.isRoot = other.isRoot
  union : ∀ node ∈ nodes, SameParts (host.union? node) (other.union? node)
  intersection : ∀ node ∈ nodes, SameParts (host.intersection? node) (other.intersection? node)

namespace SameUpToListing

theorem decomposition? (same : SameUpToListing host other nodes) (inside : node ∈ nodes) :
    Option.Rel (fun found others => found.1 = others.1 ∧ ∀ part, part ∈ found.2 ↔ part ∈ others.2)
      (host.decomposition? node) (other.decomposition? node) := by
  have union := same.union node inside
  have intersection := same.intersection node inside
  unfold Host.decomposition?
  generalize host.intersection? node = parts, other.intersection? node = others at intersection ⊢
  cases intersection with
  | some sameParts => exact .some ⟨rfl, sameParts⟩
  | none =>
      generalize host.union? node = parts, other.union? node = others at union ⊢
      cases union with
      | some sameParts => exact .some ⟨rfl, sameParts⟩
      | none => exact .none

theorem isPart_iff (same : SameUpToListing host other nodes) (inside : node ∈ nodes) :
    host.IsPart part node ↔ other.IsPart part node := by
  have decomposed := same.decomposition? inside
  unfold IsPart
  generalize host.decomposition? node = found, other.decomposition? node = others at decomposed ⊢
  cases decomposed with
  | none => simp
  | @some found others agree =>
      obtain ⟨composition, found⟩ := found
      obtain ⟨_, others⟩ := others
      obtain ⟨rfl, agree⟩ := agree
      simp [agree]

/-! ## Graphs -/

variable {graph : host.Graph}

/-- The nodes are a graph of the other host as well. -/
def otherGraph (same : SameUpToListing host other graph.nodes) : other.Graph where
  nodes := graph.nodes
  closed node inside part isPart :=
    graph.closed node inside part ((same.isPart_iff inside).mpr isPart)

theorem path (same : SameUpToListing host other graph.nodes) {last : Node}
    (member : node ∈ graph.nodes)
    (path : Relation.TransGen (fun node part => other.IsPart part node) node last) :
    Relation.TransGen (fun node part => host.IsPart part node) node last := by
  induction path with
  | single isPart => exact .single ((same.isPart_iff member).mpr isPart)
  | tail _ isPart ih =>
      have inside := graph.mem_of_reaches member ih.to_reflTransGen
      exact ih.tail ((same.isPart_iff inside).mpr isPart)

theorem acyclic (same : SameUpToListing host other graph.nodes) (member : node ∈ graph.nodes)
    (acyclic : host.Acyclic node) : other.Acyclic node := by
  intro reached path cycle
  have inside : reached ∈ graph.nodes := same.otherGraph.mem_of_reaches member path
  refine acyclic reached ?_ (same.path inside cycle)
  rcases Relation.reflTransGen_iff_eq_or_transGen.mp path with rfl | path
  · exact .refl
  · exact (same.path member path).to_reflTransGen

/-! ## Verdicts -/

/-- The outcome of the rules for a node is the same when its constituents have the same labels. -/
theorem outcome_eq (same : SameUpToListing host other nodes) (inside : node ∈ nodes)
    (labels : ∀ part, host.IsPart part node → label part = labelled part) :
    (host.ruling settings node).outcome label = (other.ruling settings node).outcome labelled := by
  have decomposed := same.decomposition? inside
  have parts : ∀ composition found, host.decomposition? node = some (composition, found) →
      ∀ part ∈ found, label part = labelled part := fun composition found decomposed part member =>
    labels part ⟨composition, found, decomposed, member⟩
  rw [ruling, ruling, textRuling, textRuling, same.callSignatures node inside,
    same.declarations node inside, same.booleanLike node inside, same.name node inside, same.root]
  generalize host.decomposition? node = found, other.decomposition? node = others
    at decomposed parts ⊢
  split_ifs
  · rfl
  · rfl
  · rfl
  · rfl
  · rfl
  · cases decomposed with
    | none => rfl
    | @some found others agree =>
        obtain ⟨composition, found⟩ := found
        obtain ⟨_, others⟩ := others
        obtain ⟨rfl, agree⟩ := agree
        apply composition.merge_congr
        intro verdict
        rw [List.map_congr_left (parts composition found rfl)]
        simp only [List.mem_map, agree]

end SameUpToListing

variable [DecidableEq Node]

/-- Without cycles a classification does not depend on the order in which constituents are listed,
nor on how often. -/
theorem classify_eq_of_sameUpToListing (host other : Host Node) (graph : host.Graph)
    (same : SameUpToListing host other graph.nodes) {node : Node} (member : node ∈ graph.nodes)
    (acyclic : host.Acyclic node) (settings : Settings) {size otherSize : Nat}
    (large : graph.nodes.card ≤ size) (otherLarge : graph.nodes.card ≤ otherSize) :
    host.classify settings size node = other.classify settings otherSize node := by
  obtain ⟨label, consistent⟩ := host.exists_consistent settings
  obtain ⟨labelled, consistentToo⟩ := other.exists_consistent settings
  have inside : ∀ reached, host.Reaches node reached → reached ∈ graph.nodes :=
    fun reached path => graph.mem_of_reaches member path
  have insideToo : ∀ reached, other.Reaches node reached → reached ∈ graph.nodes :=
    fun reached path => same.otherGraph.mem_of_reaches member path
  rw [(judge_of_acyclic consistent acyclic inside large).classify,
    (judge_of_acyclic consistentToo (same.acyclic member acyclic) insideToo otherLarge).classify]
  -- The runs have nothing in common, but both give the labels, and these agree from below.
  refine Acyclic.induction
    (motive := fun _ node => node ∈ graph.nodes → label node = labelled node)
    ?_ acyclic inside large member
  intro _ node _ ih member
  rw [consistent node trivial, consistentToo node trivial]
  exact same.outcome_eq member fun part isPart =>
    ih part isPart (graph.closed node member part isPart)

/-- The diamond with its constituents in reverse order, those of the union twice. -/
def twistedDiamond : Host (Fin 5) :=
  { diamond with
    union? := fun node => (diamond.union? node).map fun parts => parts.reverse ++ parts
    intersection? := fun node => (diamond.intersection? node).map List.reverse }

theorem classify_eq_of_sameUpToListing_diamond :
    diamond.SameUpToListing twistedDiamond (Graph.full diamond).nodes ∧
      diamond.Acyclic 0 ∧ diamond.classify .default 5 0 = .sometimes ∧
      diamond.classify .default 5 0 = twistedDiamond.classify .default 8 0 := by
  have mapped (relist : List (Fin 5) → List (Fin 5))
      (same : ∀ parts part, part ∈ parts ↔ part ∈ relist parts) :
      ∀ parts : Option (List (Fin 5)), SameParts parts (parts.map relist)
    | none => .none
    | some parts => .some (same parts)
  have same : diamond.SameUpToListing twistedDiamond (Graph.full diamond).nodes :=
    { callSignatures := fun _ _ => rfl
      declarations := fun _ _ => rfl
      booleanLike := fun _ _ => rfl
      name := fun _ _ => rfl
      root := rfl
      union := fun _ _ => mapped _ (by simp) _
      intersection := fun _ _ => mapped _ (by simp) _ }
  exact ⟨same, acyclic_diamond 0, by decide, classify_eq_of_sameUpToListing diamond twistedDiamond
    (.full diamond) same (Finset.mem_univ 0) (acyclic_diamond 0) .default (by decide) (by decide)⟩

end Host

end Stringify
