import Stringify.Host.Basic
import Stringify.Settings.Basic
import Stringify.Verdict

/-!
# Classification

`Host.classify` decides whether values of a type convert to useful text. Seven rules apply in order,
and the first that fits decides:

1. a callable is a finding when the settings reject functions,
2. a type without a declared conversion is useful,
3. a boolean is useful,
4. a type whose name the settings ignore is useful,
5. a type with no declaration on the root is useful,
6. an intersection or a union merges the verdicts of its constituents,
7. anything else is useless.

Each node is examined at most once in a run. A node met again while it is being examined counts as
useful, so cyclic graphs are settled too. A run records the questions it asks.
-/

namespace Stringify

namespace Host

variable {Node α : Type} [DecidableEq Node]

/-- The state of a run: the verdicts known so far and the questions asked, the latest first. -/
structure Log (Node : Type) where
  known : Node → Option Verdict
  asked : List (Question Node)

/-- The state before the first question. -/
def Log.empty : Log Node :=
  ⟨fun _ => none, []⟩

/-- A step of a run. -/
abbrev Run (Node : Type) := StateM (Log Node)

/-- Record the verdict of a node, over any earlier one. -/
def settle (node : Node) (verdict : Verdict) : Run Node Unit :=
  modify fun log =>
    { log with known := fun other => if other = node then some verdict else log.known other }

/-- Put a question, whose answer is at hand, to the host. -/
def ask (question : Question Node) (answer : α) : Run Node α := do
  modify fun log => { log with asked := question :: log.asked }
  return answer

/-- Ask of each context whether it is the root, up to the first that is. -/
def anyRoot (host : Host Node) : List (Option String) → Run Node Bool
  | [] => return false
  | context :: rest => do
    if ← ask (.root context) (host.isRoot context) then return true
    anyRoot host rest

/-- The verdict of a node by the rules after the first. -/
def examineText (host : Host Node) (settings : Settings) (visit : Node → Run Node Verdict)
    (node : Node) : Run Node Verdict := do
  let declarations ← ask (.declarations node) (host.declarations node)
  if declarations.isEmpty then return .always
  if ← ask (.booleanLike node) (host.isBooleanLike node) then return .always
  if settings.ignores (← ask (.name node) (host.name node)) then return .always
  if !(← anyRoot host declarations) then return .always
  if let some parts ← ask (.intersection node) (host.intersection? node) then
    return ← Verdict.drawIntersection visit parts
  if let some parts ← ask (.union node) (host.union? node) then
    return ← Verdict.drawUnion visit parts
  return .never

/-- The verdict of a node by the seven rules; `visit` gives the verdicts of its constituents. -/
def examine (host : Host Node) (settings : Settings) (visit : Node → Run Node Verdict)
    (node : Node) : Run Node Verdict := do
  if settings.rejectFunctions then
    if ← ask (.callSignatures node) (host.hasCallSignatures node) then return .function
  examineText host settings visit node

/-- The verdict of a node, from the log if it is there. While the node is being examined the log
has it as useful. At most `depth` nodes are examined inside one another. -/
def judge (host : Host Node) (settings : Settings) : (depth : Nat) → Node → Run Node Verdict
  | 0, _ => return .always
  | depth + 1, node => do
    match (← get).known node with
    | some verdict => return verdict
    | none =>
      settle node .always
      let verdict ← examine host settings (judge host settings depth) node
      settle node verdict
      return verdict

/-- The constituents of a node, of an intersection before a union; any other node is its own. -/
def constituents (host : Host Node) (node : Node) : Run Node (List Node) := do
  if let some parts ← ask (.intersection node) (host.intersection? node) then return parts
  if let some parts ← ask (.union node) (host.union? node) then return parts
  return [node]

/-- The nodes whose verdict is a finding. -/
def findings (visit : Node → Run Node Verdict) : List Node → Run Node (List Node)
  | [] => return []
  | node :: rest => do
    let verdict ← visit node
    let others ← findings visit rest
    return if verdict.isFinding then node :: others else others

/-- The run that finds the constituents to blame for a finding. -/
def blame (host : Host Node) (settings : Settings) (depth : Nat) (node : Node) :
    Run Node (List Node) := do
  if (← judge host settings depth node) = .always then return []
  findings (judge host settings depth) (← constituents host node)

/-- The outcome of a run from the empty log, with the questions in the order asked. -/
def traced (run : Run Node α) : α × List (Question Node) :=
  let (outcome, log) := run.run Log.empty
  (outcome, log.asked.reverse)

/-- The verdict of a node of a graph with at most `size` nodes. -/
def classify (host : Host Node) (settings : Settings) (size : Nat) (node : Node) : Verdict :=
  (traced (judge host settings size node)).1

/-- The constituents to blame for a finding: for a composed node those that are findings
themselves, otherwise the node; none for a useful node. -/
def offending (host : Host Node) (settings : Settings) (size : Nat) (node : Node) : List Node :=
  (traced (blame host settings size node)).1

end Host

end Stringify
