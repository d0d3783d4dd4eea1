import Mathlib.Order.FixedPoints
import Stringify.Host.Classify
import Stringify.Proofs.Verdict

/-!
# Rulings

What the seven rules say of a node, without a run: a verdict, or a merge of the verdicts of its
constituents. A labelling of the nodes is consistent when it agrees with the rulings, and since
rulings are monotone in the labels, every host has a consistent labelling.
-/

namespace Stringify

/-- What the rules say of a node. -/
inductive Ruling (Node : Type) where
  /-- One of the rules gives the verdict. -/
  | settled (verdict : Verdict)
  /-- The verdict is a merge of the constituents' verdicts. -/
  | merged (composition : Composition) (parts : List Node)

namespace Ruling

variable {Node : Type}

/-- The verdict when the constituents have the verdicts of a labelling. -/
def outcome (label : Node → Verdict) : Ruling Node → Verdict
  | settled verdict => verdict
  | merged composition parts => composition.merge (parts.map label)

theorem outcome_mono (ruling : Ruling Node) {lower upper : Node → Verdict}
    (below : lower ≤ upper) : ruling.outcome lower ≤ ruling.outcome upper := by
  cases ruling with
  | settled verdict => exact le_refl verdict
  | merged composition parts =>
      apply composition.merge_mono
      rw [List.forall₂_map_left_iff, List.forall₂_map_right_iff]
      exact List.forall₂_same.mpr fun part _ => below part

/-- Merges make no callable, so a callable is one by a rule of its own. -/
theorem outcome_eq_function_iff (ruling : Ruling Node) (label : Node → Verdict) :
    ruling.outcome label = .function ↔ ruling = settled .function := by
  cases ruling with
  | settled verdict => simp [outcome]
  | merged composition parts =>
      simp only [outcome, reduceCtorEq, iff_false]
      exact composition.merge_ne_function _

end Ruling

namespace Host

variable {Node : Type}

/-- The constituents of a node with the way they are composed, of an intersection before a union. -/
def decomposition? (host : Host Node) (node : Node) : Option (Composition × List Node) :=
  match host.intersection? node, host.union? node with
  | some parts, _ => some (.intersection, parts)
  | none, some parts => some (.union, parts)
  | none, none => none

/-- The rules after the first, in order. -/
def textRuling (host : Host Node) (settings : Settings) (node : Node) : Ruling Node :=
  if (host.declarations node).isEmpty then .settled .always
  else if host.isBooleanLike node then .settled .always
  else if settings.ignores (host.name node) then .settled .always
  else if !(host.declarations node).any host.isRoot then .settled .always
  else
    match host.decomposition? node with
    | some (composition, parts) => .merged composition parts
    | none => .settled .never

/-- The seven rules, in order. -/
def ruling (host : Host Node) (settings : Settings) (node : Node) : Ruling Node :=
  if settings.rejectFunctions && host.hasCallSignatures node then .settled .function
  else host.textRuling settings node

/-- A merge is over the constituents of the node. -/
theorem decomposition?_of_ruling {host : Host Node} {settings : Settings} {node : Node}
    {composition : Composition} {parts : List Node}
    (ruled : host.ruling settings node = .merged composition parts) :
    host.decomposition? node = some (composition, parts) := by
  simp only [ruling, textRuling] at ruled
  split_ifs at ruled
  split at ruled
  · next found =>
      cases ruled
      exact found
  · cases ruled

/-- A labelling gives each of the nodes the verdict that the rules give it under the labelling. -/
def Consistent (host : Host Node) (settings : Settings) (nodes : Set Node)
    (label : Node → Verdict) : Prop :=
  ∀ node ∈ nodes, label node = (host.ruling settings node).outcome label

/-- The labelling after one more round of the rules. -/
def relabel (host : Host Node) (settings : Settings) :
    (Node → Verdict) →o (Node → Verdict) where
  toFun label node := (host.ruling settings node).outcome label
  monotone' _ _ below node := (host.ruling settings node).outcome_mono below

/-- The least labelling that the rules do not change is consistent. -/
theorem exists_consistent (host : Host Node) (settings : Settings) :
    ∃ label, host.Consistent settings Set.univ label := by
  refine ⟨(host.relabel settings).lfp, fun node _ => ?_⟩
  exact congrFun (host.relabel settings).map_lfp.symm node

/-- The rules as a plain recursion: nothing is remembered, every constituent is judged, and there
is no verdict when more than `depth` nodes lie inside one another. -/
def plain? (host : Host Node) (settings : Settings) : (depth : Nat) → Node → Option Verdict
  | 0, _ => none
  | depth + 1, node =>
    match host.ruling settings node with
    | .settled verdict => some verdict
    | .merged composition parts =>
      (parts.mapM (plain? host settings depth)).map composition.merge

end Host

end Stringify
