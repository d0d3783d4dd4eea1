import Stringify.Proofs.Host.Classify

/-!
# The constituents to blame

A run that explains a finding asks its own log for the verdicts of the constituents. Below a node
that reaches no cycle the log has the verdict that each constituent has on its own. With cycles the
log may have a verdict that was found while another node counted as useful, so a constituent may be
left out. One that is blamed is a finding by every consistent labelling.
-/

namespace Stringify

namespace Host

variable {Node : Type} {host : Host Node} {settings : Settings} {label : Node → Verdict}

/-! ## Constituents -/

/-- What a verdict breaks down into: the constituents of an intersection, else those of a union,
else the node itself. -/
def breakdown (host : Host Node) (node : Node) : List Node :=
  match host.decomposition? node with
  | some (_, parts) => parts
  | none => [node]

theorem reaches_of_mem_breakdown {node part : Node} (member : part ∈ host.breakdown node) :
    host.Reaches node part := by
  unfold breakdown at member
  split at member
  · next composition parts found => exact .single ⟨composition, parts, found, member⟩
  · obtain rfl := List.mem_singleton.mp member
    exact .refl

/-- The questions about the constituents of a node, that about a union only if it is no
intersection. -/
def breakdownQuestions (host : Host Node) (node : Node) : List (Question Node) :=
  .intersection node :: if (host.intersection? node).isSome then [] else [.union node]

/-- To ask for the constituents changes nothing that is known. -/
theorem run_constituents (host : Host Node) (node : Node) (log : Log Node) :
    (constituents host node).run log =
      (host.breakdown node, log.noting (host.breakdownQuestions node)) := by
  unfold constituents breakdown decomposition? breakdownQuestions
  rw [Run.run_bind_of (Run.run_ask ..)]
  cases host.intersection? node with
  | some parts => rfl
  | none =>
      simp only
      rw [Run.run_bind_of (Run.run_ask ..), Log.noting_noting]
      cases host.union? node with
      | some parts | none => rfl

/-! ## Findings -/

/-- Of the nodes, those that stand beside a finding. -/
def blamed (nodes : List Node) (verdicts : List Verdict) : List Node :=
  ((nodes.zip verdicts).filter (·.2.isFinding)).map Prod.fst

/-- Every node is visited, and those whose verdict is a finding are blamed. -/
theorem run_findings (visit : Node → Run Node Verdict) (nodes : List Node) (log : Log Node) :
    (findings visit nodes).run log =
      let drawn := (Verdict.drawAll visit nodes).run log
      (blamed nodes drawn.1, drawn.2) := by
  induction nodes generalizing log with
  | nil => rfl
  | cons node rest ih =>
      have later := ih ((visit node).run log).2
      rw [findings, Verdict.drawAll, Run.run_bind, Run.run_bind, Run.run_bind, Run.run_bind]
      simp only [Run.run_pure, blamed, List.zip_cons_cons, List.filter_cons] at later ⊢
      rw [later]
      split <;> rfl

theorem blamed_sublist {nodes : List Node} {verdicts : List Verdict}
    (same : nodes.length = verdicts.length) : (blamed nodes verdicts).Sublist nodes := by
  have all : (nodes.zip verdicts).map Prod.fst = nodes := List.map_fst_zip (le_of_eq same)
  calc blamed nodes verdicts
      |>.Sublist ((nodes.zip verdicts).map Prod.fst) := List.filter_sublist.map Prod.fst
    _ = nodes := all

/-- A blamed node has a right verdict that is a finding. -/
theorem exists_of_mem_blamed {right : Node → Verdict → Prop} {nodes : List Node}
    {verdicts : List Verdict} (each : List.Forall₂ right nodes verdicts) {node : Node}
    (member : node ∈ blamed nodes verdicts) :
    ∃ verdict, right node verdict ∧ verdict.isFinding = true := by
  obtain ⟨⟨other, verdict⟩, inside, rfl⟩ := List.mem_map.mp member
  obtain ⟨pair, finding⟩ := List.mem_filter.mp inside
  exact ⟨verdict, List.forall₂_zip each pair, finding⟩

/-- With the verdicts of a labelling, the nodes labelled as findings are blamed. -/
theorem blamed_of_labels {nodes : List Node} {verdicts : List Verdict}
    (each : List.Forall₂ (fun node verdict => label node = verdict) nodes verdicts) :
    blamed nodes verdicts = nodes.filter fun node => (label node).isFinding := by
  have labels : nodes.map label = verdicts := by
    rw [← List.forall₂_eq_eq_eq]
    exact List.forall₂_map_left_iff.mpr each
  rw [← labels, blamed, ← List.map_prod_left_eq_zip, List.filter_map, List.map_map]
  exact List.map_id _

variable [DecidableEq Node]

/-! ## Explanations -/

/-- Nothing is blamed for a useful verdict; for a finding the constituents are visited with the log
that its own run has left. -/
theorem run_blame (host : Host Node) (settings : Settings) (size : Nat) (node : Node)
    (log : Log Node) :
    (blame host settings size node).run log =
      let judged := (judge host settings size node).run log
      if judged.1 = .always then ([], judged.2)
      else (findings (judge host settings size) (host.breakdown node)).run
        (judged.2.noting (host.breakdownQuestions node)) := by
  rw [blame, Run.run_bind]
  by_cases useful : ((judge host settings size node).run log).1 = .always
  · simp only [if_pos useful, Run.run_pure]
  · simp only [if_neg useful, Run.run_bind_of (run_constituents ..)]

theorem offending_eq (host : Host Node) (settings : Settings) (size : Nat) (node : Node) :
    ∃ questions, host.offending settings size node =
      if host.classify settings size node = .always then []
      else blamed (host.breakdown node)
        ((Verdict.drawAll (judge host settings size) (host.breakdown node)).run
          (((judge host settings size node).run Log.empty).2.noting questions)).1 := by
  refine ⟨host.breakdownQuestions node, ?_⟩
  show ((blame host settings size node).run Log.empty).1 = _
  rw [run_blame]
  by_cases useful : ((judge host settings size node).run Log.empty).1 = .always
  · simp only [if_pos useful, if_pos (show host.classify settings size node = .always from useful)]
  · simp only [if_neg useful, run_findings,
      if_neg (show ¬host.classify settings size node = .always from useful)]

/-- Every constituent is blamed by a verdict that a visit from the log gives. -/
theorem offending_of_upholds {invariant : Log Node → Prop} {right : Node → Verdict → Prop}
    {size : Nat} {node : Node} (noting : ∀ log questions, invariant log →
      invariant (Log.noting log questions))
    (holds : invariant ((judge host settings size node).run Log.empty).2)
    (upholds : Upholds (judge host settings size) invariant right (host.breakdown node))
    (finding : host.classify settings size node ≠ .always) :
    ∃ verdicts, List.Forall₂ right (host.breakdown node) verdicts ∧
      host.offending settings size node = blamed (host.breakdown node) verdicts := by
  obtain ⟨questions, explained⟩ := offending_eq host settings size node
  rw [if_neg finding] at explained
  exact ⟨_, (upholds.drawAll (noting _ questions holds)).2, explained⟩

theorem offending_of_useful {size : Nat} {node : Node}
    (useful : host.classify settings size node = .always) :
    host.offending settings size node = [] := by
  obtain ⟨questions, explained⟩ := offending_eq host settings size node
  rw [explained, if_pos useful]

/-- The constituents that are blamed are constituents, in their order. -/
theorem offending_sublist (host : Host Node) (settings : Settings) (size : Nat) (node : Node) :
    (host.offending settings size node).Sublist (host.breakdown node) := by
  by_cases useful : host.classify settings size node = .always
  · rw [offending_of_useful useful]
    exact List.nil_sublist _
  · have upholds : Upholds (judge host settings size) (fun _ => True) (fun _ _ => True)
        (host.breakdown node) := ⟨fun _ _ _ _ => trivial, fun _ _ _ _ => trivial⟩
    obtain ⟨verdicts, each, explained⟩ :=
      offending_of_upholds (fun _ _ _ => trivial) trivial upholds useful
    rw [explained]
    exact blamed_sublist each.length_eq

/-- No constituent is blamed that is useful by a consistent labelling. -/
theorem ne_always_of_mem_offending (graph : Graph host)
    (consistent : host.Consistent settings graph.nodes label) {size : Nat} {node part : Node}
    (member : node ∈ graph.nodes) (blamed : part ∈ host.offending settings size node) :
    label part ≠ .always := by
  have finding : host.classify settings size node ≠ .always := by
    intro useful
    rw [offending_of_useful useful] at blamed
    cases blamed
  have empty : (Log.empty : Log Node).Above graph.nodes label := by
    intro other _ verdict known
    cases known
  have inside : ∀ part ∈ host.breakdown node, part ∈ graph.nodes := fun part isPart =>
    graph.mem_of_reaches member (reaches_of_mem_breakdown isPart)
  have upholds : Upholds (judge host settings size) (fun log => log.Above graph.nodes label)
      (fun part verdict => label part ≤ verdict) (host.breakdown node) :=
    ⟨fun part isPart log above => (judge_above graph consistent size (inside part isPart) above).1,
      fun part isPart log above => (judge_above graph consistent size (inside part isPart) above).2⟩
  obtain ⟨verdicts, each, explained⟩ := offending_of_upholds (fun _ _ above => above)
    (judge_above graph consistent size member empty).1 upholds finding
  rw [explained] at blamed
  obtain ⟨verdict, below, isFinding⟩ := exists_of_mem_blamed each blamed
  intro useful
  rw [useful, Verdict.always_le_iff] at below
  simp [below, Verdict.isFinding] at isFinding

/-- Where visits give the labels, the constituents to blame are those labelled as findings. -/
theorem offending_of_labels {size : Nat} {node : Node}
    (ofNode : Labels host settings label size node)
    (ofParts : ∀ part ∈ host.breakdown node, Labels host settings label size part)
    (finding : host.classify settings size node ≠ .always) :
    host.offending settings size node =
      (host.breakdown node).filter fun part => (label part).isFinding := by
  -- What the log knows after the run of the node are labels, so it is honest about every part.
  have honest : ∀ (log : Log Node) (part : Node), log.Extends Log.empty label →
      log.Honest host label part := by
    intro log part held other _ verdict known
    rcases held other verdict known with known | labelled
    · cases known
    · exact labelled
  have upholds : Upholds (judge host settings size) (fun log => log.Extends Log.empty label)
      (fun part verdict => label part = verdict) (host.breakdown node) := by
    constructor
    · intro part isPart log held
      have visited := ofParts part isPart log (honest log part held)
      exact visited.1.trans held
    · intro part isPart log held
      exact (ofParts part isPart log (honest log part held)).2
  have visited := ofNode Log.empty (Log.honest_empty host label node)
  obtain ⟨verdicts, each, explained⟩ :=
    offending_of_upholds (fun _ _ held => held) visited.1 upholds finding
  rw [explained, blamed_of_labels each]

/-- Below a node that reaches no cycle the log has the verdicts that constituents have alone. -/
theorem offending_of_acyclic (graph : Graph host) {size : Nat} {node : Node}
    (member : node ∈ graph.nodes) (acyclic : host.Acyclic node) (large : graph.nodes.card ≤ size)
    (finding : host.classify settings size node ≠ .always) :
    host.offending settings size node =
      (host.breakdown node).filter fun part => (host.classify settings size part).isFinding := by
  obtain ⟨label, consistent⟩ := exists_consistent host settings
  have labels : ∀ part, host.Reaches node part → Labels host settings label size part := by
    intro part reached
    refine judge_of_acyclic consistent (fun other further => acyclic other (reached.trans further))
      (fun other further => ?_) large
    exact graph.mem_of_reaches member (reached.trans further)
  rw [offending_of_labels (labels node .refl)
    (fun part isPart => labels part (reaches_of_mem_breakdown isPart)) finding]
  apply List.filter_congr
  intro part isPart
  rw [(labels part (reaches_of_mem_breakdown isPart)).classify]

/-- Nothing is blamed for a useful verdict. Below a node that reaches no cycle the constituents to
blame for a finding are those that are findings when classified alone. With cycles they are some of
the constituents, in their order, and no consistent labelling has one of them as useful. -/
theorem offending_eq_filter_of_acyclic (host : Host Node) (settings : Settings)
    (graph : Graph host) {node : Node} (member : node ∈ graph.nodes) {size : Nat}
    (large : graph.nodes.card ≤ size) :
    (host.classify settings size node = .always → host.offending settings size node = []) ∧
    (host.classify settings size node ≠ .always → host.Acyclic node →
      host.offending settings size node =
        (host.breakdown node).filter fun part => (host.classify settings size part).isFinding) ∧
    (host.offending settings size node).Sublist (host.breakdown node) ∧
    ∀ label, host.Consistent settings graph.nodes label →
      ∀ part ∈ host.offending settings size node, label part ≠ .always :=
  ⟨offending_of_useful,
    fun finding acyclic => offending_of_acyclic graph member acyclic large finding,
    offending_sublist host settings size node,
    fun _ consistent _ blamed => ne_always_of_mem_offending graph consistent member blamed⟩

/-- Constituents that come later than the composed node make no cycle. -/
theorem acyclic_of_later {size : Nat} {host : Host (Fin size)}
    (later : ∀ node, ∀ found ∈ host.decomposition? node, ∀ part ∈ found.2, node < part)
    (node : Fin size) : host.Acyclic node := by
  apply acyclic_of_rank fun node => size - node.val
  rintro node part ⟨composition, parts, found, member⟩
  have below := later node _ found part member
  omega

/-- Of the two intersections in the diamond the first one is to blame, and only it is a finding when
classified alone and by the labelling that has every verdict. -/
theorem offending_eq_filter_of_acyclic_diamond :
    diamond.classify .default 5 0 = .sometimes ∧
      diamond.offending .default 5 0 = (diamond.breakdown 0).filter (fun part =>
        (diamond.classify .default 5 part).isFinding) ∧
      diamond.offending .default 5 0 = [1] ∧
      (diamond.offending .default 5 0).Sublist (diamond.breakdown 0) ∧
      diamond.classify .default 5 1 ≠ .always := by
  have finding : diamond.classify .default 5 0 ≠ .always := by decide
  have consistent : diamond.Consistent .default (Graph.full diamond).nodes
      fun node => diamond.classify .default 5 node := by
    intro node _
    revert node
    decide
  obtain ⟨-, alone, sublist, never⟩ := offending_eq_filter_of_acyclic diamond .default
    (.full diamond) (Finset.mem_univ 0) (show _ ≤ 5 by decide)
  exact ⟨by decide, alone finding (acyclic_of_later (by decide) 0), by decide, sublist,
    never _ consistent 1 (by decide)⟩

/-- A union of an intersection that leads back to it and of a placeholder. -/
def backEdge : Host (Fin 3) where
  hasCallSignatures _ := false
  declarations _ := [some "object"]
  isBooleanLike _ := false
  name _ := "Shape"
  union? node := if node = 0 then some [1, 2] else none
  intersection? node := if node = 1 then some [0] else none
  isRoot context := context == some "object"

/-- A union of a placeholder and two intersections, the second of which has the first and another
union as parts. The first intersection and that other union lead to one another. -/
def crossEdges : Host (Fin 6) where
  hasCallSignatures _ := false
  declarations _ := [some "object"]
  isBooleanLike _ := false
  name _ := "Shape"
  union? node := if node = 0 then some [1, 2, 5] else if node = 3 then some [1, 4] else none
  intersection? node := if node = 1 then some [3] else if node = 2 then some [3, 1] else none
  isRoot context := context == some "object"

/-- With cycles a constituent may be left out that is a finding when classified alone, and one may
be blamed that is useful then. -/
theorem offending_ne_filter_of_cycle :
    (backEdge.classify .default 3 0 = .sometimes ∧ backEdge.offending .default 3 0 = [2] ∧
      (backEdge.breakdown 0).filter (fun part => (backEdge.classify .default 3 part).isFinding) =
        [1, 2]) ∧
    crossEdges.classify .default 6 0 = .never ∧ crossEdges.offending .default 6 0 = [1, 2, 5] ∧
      (crossEdges.breakdown 0).filter (fun part =>
        (crossEdges.classify .default 6 part).isFinding) = [1, 5] := by
  decide

end Host

end Stringify
