import Mathlib.Data.Fintype.Basic
import Mathlib.Data.Finset.Card
import Mathlib.Logic.Relation
import Stringify.Proofs.Host.Ruling

/-!
# Graphs of types

The constituents of its nodes make a host a graph. Below a node that reaches no cycle, an argument
may go from the constituents to the composed node, and as deep as there are nodes.
-/

namespace Stringify

namespace Host

variable {Node : Type} {host : Host Node} {settings : Settings} {label : Node → Verdict}

/-- One node is a constituent of another. -/
def IsPart (host : Host Node) (part node : Node) : Prop :=
  ∃ composition parts, host.decomposition? node = some (composition, parts) ∧ part ∈ parts

/-- A node is reached from another through constituents, in any number of steps. -/
def Reaches (host : Host Node) : Node → Node → Prop :=
  Relation.ReflTransGen fun node part => host.IsPart part node

/-- A node is met again below itself. -/
def OnCycle (host : Host Node) (node : Node) : Prop :=
  Relation.TransGen (fun node part => host.IsPart part node) node node

/-- No cycle is reached from a node. -/
def Acyclic (host : Host Node) (node : Node) : Prop :=
  ∀ other, host.Reaches node other → ¬host.OnCycle other

/-- Finitely many nodes, with the constituents of each among them. -/
structure Graph (host : Host Node) where
  nodes : Finset Node
  closed : ∀ node ∈ nodes, ∀ part, host.IsPart part node → part ∈ nodes

/-- The graph of every node, when there are finitely many. -/
def Graph.full [Fintype Node] (host : Host Node) : Graph host where
  nodes := Finset.univ
  closed _ _ part _ := Finset.mem_univ part

/-- A merge is over constituents. -/
theorem isPart_of_ruling {node : Node} {composition : Composition}
    {parts : List Node} (ruled : host.ruling settings node = .merged composition parts)
    {part : Node} (member : part ∈ parts) : host.IsPart part node :=
  ⟨composition, parts, decomposition?_of_ruling ruled, member⟩

theorem Graph.mem_of_reaches (graph : Graph host) {node other : Node}
    (member : node ∈ graph.nodes) (reached : host.Reaches node other) :
    other ∈ graph.nodes := by
  induction reached with
  | refl => exact member
  | tail _ part ih => exact graph.closed _ ih _ part

theorem Graph.card_pos (graph : Graph host) {node : Node} (member : node ∈ graph.nodes) :
    0 < graph.nodes.card :=
  Finset.card_pos.mpr ⟨node, member⟩

theorem Reaches.part {node part other : Node} (isPart : host.IsPart part node)
    (reached : host.Reaches part other) : host.Reaches node other :=
  .head isPart reached

theorem Acyclic.part {node part : Node} (acyclic : host.Acyclic node)
    (isPart : host.IsPart part node) : host.Acyclic part :=
  fun other reached => acyclic other (reached.part isPart)

/-- What a constituent reaches is not the composed node again. -/
theorem Acyclic.ne_of_reaches {node part other : Node} (acyclic : host.Acyclic node)
    (isPart : host.IsPart part node) (reached : host.Reaches part other) : other ≠ node := by
  rintro rfl
  exact acyclic other .refl (.head' isPart reached)

/-- A host whose constituents go down some rank has no cycle. -/
theorem acyclic_of_rank (rank : Node → Nat)
    (down : ∀ node part, host.IsPart part node → rank part < rank node) (node : Node) :
    host.Acyclic node := by
  intro other _ cycle
  have below : ∀ last, Relation.TransGen (fun node part => host.IsPart part node) other last →
      rank last < rank other := by
    intro last path
    induction path with
    | single part => exact down _ _ part
    | tail _ part ih => exact lt_trans (down _ _ part) ih
  exact lt_irrefl _ (below other cycle)

/-- Induction from the constituents to the composed node. Each step down leaves one node of the
scope behind, so the depth need not be more than the number of nodes. -/
theorem Acyclic.induction {motive : Nat → Node → Prop}
    (step : ∀ depth node, host.Acyclic node →
      (∀ part, host.IsPart part node → motive depth part) → motive (depth + 1) node)
    {depth : Nat} {node : Node} {scope : Finset Node} (acyclic : host.Acyclic node)
    (inside : ∀ other, host.Reaches node other → other ∈ scope) (enough : scope.card ≤ depth) :
    motive depth node := by
  classical
  induction depth generalizing node scope with
  | zero =>
      have empty := Finset.card_eq_zero.mp (Nat.le_zero.mp enough)
      have member := inside node .refl
      simp [empty] at member
  | succ depth ih =>
      have smaller : (scope.erase node).card ≤ depth := by
        rw [Finset.card_erase_of_mem (inside node .refl)]
        omega
      refine step depth node acyclic fun part isPart => ?_
      refine ih (acyclic.part isPart) (fun other reached => ?_) smaller
      exact Finset.mem_erase.mpr
        ⟨acyclic.ne_of_reaches isPart reached, inside other (reached.part isPart)⟩

/-! ## The plain recursion -/

theorem mapM_eq_some {read : Node → Option Verdict} {parts : List Node}
    (reads : ∀ part ∈ parts, read part = some (label part)) :
    parts.mapM read = some (parts.map label) := by
  induction parts with
  | nil => rfl
  | cons part rest ih =>
      have first := reads part List.mem_cons_self
      have others := ih fun other member => reads other (List.mem_cons_of_mem part member)
      simp [List.mapM_cons, first, others]

/-- Without cycles the plain recursion gives the label of the node. -/
theorem plain_of_acyclic (consistent : host.Consistent settings Set.univ label) {depth : Nat}
    {node : Node} {scope : Finset Node} (acyclic : host.Acyclic node)
    (inside : ∀ other, host.Reaches node other → other ∈ scope) (enough : scope.card ≤ depth) :
    host.plain? settings depth node = some (label node) := by
  refine Acyclic.induction
    (motive := fun depth node => host.plain? settings depth node = some (label node))
    ?_ acyclic inside enough
  intro depth node acyclic ih
  rw [plain?, consistent node trivial]
  cases ruled : host.ruling settings node with
  | settled verdict => rfl
  | merged composition parts =>
      have reads : parts.mapM (host.plain? settings depth) = some (parts.map label) :=
        mapM_eq_some fun part isPart => ih part (isPart_of_ruling ruled isPart)
      simp only [reads, Option.map_some, Ruling.outcome]

end Host

end Stringify
