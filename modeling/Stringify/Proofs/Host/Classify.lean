import Stringify.Proofs.Host.Run

/-!
# The verdicts of graphs

A classification remembers what it has found, counts a node that is still being examined as useful,
and leaves constituents out. On a graph without cycles none of this is seen: the verdict is the one
of the plain recursion. With cycles it is never less useful than any consistent labelling says.
-/

namespace Stringify

namespace Host

variable {Node : Type} {host : Host Node} {settings : Settings} {label : Node → Verdict}

/-! ## Logs and labellings -/

/-- What a log knows of some nodes is at least as useful as a labelling says. -/
def Log.Above (log : Log Node) (nodes : Set Node) (label : Node → Verdict) : Prop :=
  ∀ node ∈ nodes, ∀ verdict, log.known node = some verdict → label node ≤ verdict

/-- A log has only what a labelling says, of the nodes that are reached from a node. -/
def Log.Honest (log : Log Node) (host : Host Node) (label : Node → Verdict) (node : Node) : Prop :=
  ∀ other, host.Reaches node other → ∀ verdict, log.known other = some verdict →
    label other = verdict

/-- What a log has over an earlier one is what a labelling says. -/
def Log.Extends (later earlier : Log Node) (label : Node → Verdict) : Prop :=
  ∀ node verdict, later.known node = some verdict →
    earlier.known node = some verdict ∨ label node = verdict

theorem Log.honest_empty (host : Host Node) (label : Node → Verdict) (node : Node) :
    (Log.empty : Log Node).Honest host label node := by
  intro other _ verdict known
  cases known

theorem Log.Extends.refl (log : Log Node) (label : Node → Verdict) : log.Extends log label :=
  fun _ _ known => .inl known

theorem Log.Extends.trans {last later earlier : Log Node} (second : last.Extends later label)
    (first : later.Extends earlier label) : last.Extends earlier label := by
  intro node verdict known
  rcases second node verdict known with known | labelled
  · exact first node verdict known
  · exact .inr labelled

/-- No merge makes a callable, whatever is drawn. -/
theorem draw_eq_function_iff (ruling : Ruling Node) (visit : Node → Run Node Verdict)
    (log : Log Node) :
    ((ruling.draw visit).run log).1 = .function ↔ ruling = .settled .function := by
  cases ruling with
  | settled verdict => simp only [Ruling.draw, Run.run_pure, Ruling.settled.injEq]
  | merged composition parts =>
      have upholds : Upholds visit (fun _ => True) (fun _ _ => True) parts :=
        ⟨fun _ _ _ _ => trivial, fun _ _ _ _ => trivial⟩
      obtain ⟨-, verdicts, -, merged⟩ : True ∧ ∃ verdicts, List.Forall₂ _ parts verdicts ∧
          ((composition.drawMerge visit parts).run log).1 = composition.merge verdicts :=
        upholds.drawMerge composition trivial
      simp only [Ruling.draw, merged, reduceCtorEq, iff_false]
      exact composition.merge_ne_function verdicts

variable [DecidableEq Node]

/-! ## Graphs with cycles -/

theorem Log.Above.settling {log : Log Node} {nodes : Set Node} {node : Node} {verdict : Verdict}
    (above : log.Above nodes label) (bound : label node ≤ verdict) :
    (log.settling node verdict).Above nodes label := by
  intro other member found known
  rcases known_of_settling known with ⟨rfl, rfl⟩ | ⟨_, known⟩
  · exact bound
  · exact above other member found known

/-- No visit brings a verdict below a consistent labelling into the log. -/
theorem judge_above (graph : Graph host) (consistent : host.Consistent settings graph.nodes label)
    (depth : Nat) {node : Node} (member : node ∈ graph.nodes) {log : Log Node}
    (above : log.Above graph.nodes label) :
    ((judge host settings depth node).run log).2.Above graph.nodes label ∧
      label node ≤ ((judge host settings depth node).run log).1 := by
  induction depth generalizing node log with
  | zero => exact ⟨above, Verdict.le_always _⟩
  | succ depth ih =>
      cases known : log.known node with
      | some verdict =>
          rw [run_judge_of_known known]
          exact ⟨above, above node member verdict known⟩
      | none =>
          rw [run_judge_of_fresh known]
          -- The provisional verdict is the greatest, so it is above every label.
          have opened : (host.opening settings node log).Above graph.nodes label :=
            above.settling (Verdict.le_always _)
          have upholds : ∀ composition parts,
              host.ruling settings node = .merged composition parts →
              Upholds (judge host settings depth) (fun later => later.Above graph.nodes label)
                (fun part verdict => label part ≤ verdict) parts := by
            intro composition parts ruled
            have inside : ∀ part ∈ parts, part ∈ graph.nodes := fun part isPart =>
              graph.closed node member part (isPart_of_ruling ruled isPart)
            constructor
            · intro part isPart later held
              exact (ih (inside part isPart) held).1
            · intro part isPart later held
              exact (ih (inside part isPart) held).2
          obtain ⟨kept, bound⟩ :=
            run_draw le_refl (fun composition _ _ => composition.merge_mono) upholds opened
          rw [← consistent node member] at bound
          exact ⟨kept.settling bound, bound⟩

theorem classify_eq_draw (host : Host Node) (settings : Settings) (size : Nat) (node : Node) :
    host.classify settings (size + 1) node =
      (((host.ruling settings node).draw (judge host settings size)).run
        (host.opening settings node Log.empty)).1 := by
  have fresh : (Log.empty : Log Node).known node = none := rfl
  show ((judge host settings (size + 1) node).run Log.empty).1 = _
  rw [run_judge_of_fresh fresh]

/-- A host whose graph has cycles has a consistent labelling, and by no consistent labelling is a
node more useful than its verdict. Whether it is a callable that is reported is never in doubt. -/
theorem classify_above_consistent (host : Host Node) (settings : Settings) (graph : Graph host) :
    (∃ label, host.Consistent settings graph.nodes label) ∧
      ∀ label, host.Consistent settings graph.nodes label →
        ∀ node ∈ graph.nodes, ∀ size ≥ graph.nodes.card,
          (host.classify settings size node = .function ↔ label node = .function) ∧
          (host.classify settings size node = .never → label node = .never) ∧
          (host.classify settings size node = .sometimes →
            label node = .never ∨ label node = .sometimes) := by
  constructor
  · obtain ⟨label, consistent⟩ := exists_consistent host settings
    exact ⟨label, fun node _ => consistent node trivial⟩
  · intro label consistent node member size large
    have empty : (Log.empty : Log Node).Above graph.nodes label := by
      intro other _ verdict known
      cases known
    have bound : label node ≤ host.classify settings size node :=
      (judge_above graph consistent size member empty).2
    refine ⟨?_, fun never => ?_, fun sometimes => ?_⟩
    · obtain ⟨rest, rfl⟩ : ∃ rest, size = rest + 1 :=
        Nat.exists_eq_add_one.mpr (lt_of_lt_of_le (graph.card_pos member) large)
      rw [classify_eq_draw, draw_eq_function_iff, consistent node member,
        Ruling.outcome_eq_function_iff]
    · exact Verdict.le_never_iff.mp (never ▸ bound)
    · exact Verdict.le_sometimes_iff.mp (sometimes ▸ bound)

/-- A union of itself and a placeholder. -/
def selfUnion : Host (Fin 2) where
  hasCallSignatures _ := false
  declarations _ := [some "Object"]
  isBooleanLike _ := false
  name _ := "Shape"
  union? node := if node = 0 then some [0, 1] else none
  intersection? _ := none
  isRoot context := context == some "Object"

/-- Neither node is useful by a labelling that is consistent, and no verdict is a finding that the
labelling has not. -/
theorem classify_above_consistent_selfUnion :
    selfUnion.classify .default 2 0 = .sometimes ∧
      (selfUnion.classify .default 2 0 = .function ↔ Verdict.never = .function) ∧
      (selfUnion.classify .default 2 0 = .never → Verdict.never = .never) ∧
      (selfUnion.classify .default 2 0 = .sometimes →
        Verdict.never = .never ∨ Verdict.never = .sometimes) := by
  have consistent : selfUnion.Consistent .default (Graph.full selfUnion).nodes
      fun _ => .never := by
    intro node _
    revert node
    decide
  exact ⟨by decide, (classify_above_consistent selfUnion .default (.full selfUnion)).2 _ consistent
    0 (Finset.mem_univ 0) 2 (by decide)⟩

/-! ## Graphs without cycles -/

/-- While a node is being examined, its constituents do not see that it is. -/
theorem Log.Honest.part {log later : Log Node} {node part : Node}
    (honest : log.Honest host label node) (acyclic : host.Acyclic node)
    (isPart : host.IsPart part node)
    (held : later.Extends (host.opening settings node log) label) :
    later.Honest host label part := by
  intro other reached verdict known
  rcases held other verdict known with known | labelled
  · rw [opening, known_noting] at known
    rcases known_of_settling known with ⟨same, _⟩ | ⟨_, known⟩
    · exact absurd same (acyclic.ne_of_reaches isPart reached)
    · exact honest other (reached.part isPart) verdict known
  · exact labelled

/-- The provisional verdict of a node is gone once its own is recorded. -/
theorem Log.Extends.settling {log later : Log Node} {node : Node} {verdict : Verdict}
    (held : later.Extends (host.opening settings node log) label)
    (labelled : label node = verdict) :
    (later.settling node verdict).Extends log label := by
  intro other found known
  rcases known_of_settling known with ⟨rfl, rfl⟩ | ⟨differs, known⟩
  · exact .inr labelled
  · rcases held other found known with known | labelled
    · rw [opening, known_noting] at known
      rcases known_of_settling known with ⟨same, _⟩ | ⟨_, known⟩
      · exact absurd same differs
      · exact .inl known
    · exact .inr labelled

/-- A visit of a node, with at most `depth` nodes inside one another, gives the label of the node
and leaves labels in the log. -/
def Labels (host : Host Node) (settings : Settings) (label : Node → Verdict) (depth : Nat)
    (node : Node) : Prop :=
  ∀ log : Log Node, log.Honest host label node →
    ((judge host settings depth node).run log).2.Extends log label ∧
      label node = ((judge host settings depth node).run log).1

/-- Without cycles, when visits of the constituents give their labels the visit of the node does. -/
theorem Labels.step (consistent : host.Consistent settings Set.univ label) {depth : Nat}
    {node : Node} (acyclic : host.Acyclic node)
    (ih : ∀ part, host.IsPart part node → Labels host settings label depth part) :
    Labels host settings label (depth + 1) node := by
  intro log honest
  cases known : log.known node with
  | some verdict =>
      rw [run_judge_of_known known]
      exact ⟨.refl log label, honest node .refl verdict known⟩
  | none =>
      rw [run_judge_of_fresh known]
      -- The log may hold a provisional verdict of this node, but no constituent reaches it.
      have upholds : ∀ composition parts,
          host.ruling settings node = .merged composition parts →
          Upholds (judge host settings depth)
            (fun later => later.Extends (host.opening settings node log) label)
            (fun part verdict => label part = verdict) parts := by
        intro composition parts ruled
        constructor
        · intro part isPart later held
          have isPart := isPart_of_ruling ruled isPart
          exact (ih part isPart later (honest.part acyclic isPart held)).1.trans held
        · intro part isPart later held
          have isPart := isPart_of_ruling ruled isPart
          exact (ih part isPart later (honest.part acyclic isPart held)).2
      have respects : ∀ (composition : Composition) lower upper,
          List.Forall₂ (· = ·) lower upper →
          composition.merge lower = composition.merge upper := by
        intro composition lower upper same
        rw [List.forall₂_eq_eq_eq] at same
        rw [same]
      obtain ⟨kept, drawn⟩ := run_draw (fun _ => rfl) respects upholds
        (.refl (host.opening settings node log) label)
      rw [← consistent node trivial] at drawn
      exact ⟨kept.settling drawn, drawn⟩

/-- Without cycles a visit gives the label of the node, and leaves labels in the log. -/
theorem judge_of_acyclic (consistent : host.Consistent settings Set.univ label) {depth : Nat}
    {node : Node} {scope : Finset Node} (acyclic : host.Acyclic node)
    (inside : ∀ other, host.Reaches node other → other ∈ scope) (enough : scope.card ≤ depth) :
    Labels host settings label depth node :=
  Acyclic.induction (fun _ _ acyclic ih => Labels.step consistent acyclic ih) acyclic inside enough

/-- From the empty log, a visit that gives the label classifies the node by it. -/
theorem Labels.classify {depth : Nat} {node : Node}
    (labels : Labels host settings label depth node) :
    host.classify settings depth node = label node :=
  (labels Log.empty (Log.honest_empty host label node)).2.symm

/-- Below a node that reaches no cycle, neither what a classification remembers nor what it leaves
out is seen: the verdict is the one of the plain recursion. -/
theorem classify_eq_plain (host : Host Node) (settings : Settings) (graph : Graph host)
    {node : Node} (member : node ∈ graph.nodes) (acyclic : host.Acyclic node) {depth size : Nat}
    (deep : graph.nodes.card ≤ depth) (large : graph.nodes.card ≤ size) :
    host.plain? settings depth node = some (host.classify settings size node) := by
  obtain ⟨label, consistent⟩ := exists_consistent host settings
  have inside : ∀ other, host.Reaches node other → other ∈ graph.nodes :=
    fun other reached => graph.mem_of_reaches member reached
  have honest : (Log.empty : Log Node).Honest host label node := by
    intro other _ verdict known
    cases known
  have judged := (judge_of_acyclic consistent acyclic inside large Log.empty honest).2
  rw [plain_of_acyclic consistent acyclic inside deep, judged]
  rfl

/-- A union of two intersections that share a placeholder. The second one is useful before it comes
to the placeholder. -/
def diamond : Host (Fin 5) where
  hasCallSignatures _ := false
  declarations node := if node = 4 then [some "Date"] else [some "Object"]
  isBooleanLike _ := false
  name _ := "Shape"
  union? node := if node = 0 then some [1, 2] else none
  intersection? node := if node = 1 then some [3] else if node = 2 then some [4, 3] else none
  isRoot context := context == some "Object"

theorem acyclic_diamond (node : Fin 5) : diamond.Acyclic node := by
  have down : ∀ node, ∀ found ∈ diamond.decomposition? node, ∀ part ∈ found.2, node < part := by
    decide
  apply acyclic_of_rank fun node => 5 - node.val
  rintro node part ⟨composition, parts, found, member⟩
  have later := down node _ found part member
  omega

theorem classify_eq_plain_diamond :
    diamond.classify .default 5 0 = .sometimes ∧
      diamond.plain? .default 5 0 = some (diamond.classify .default 5 0) :=
  ⟨by decide, classify_eq_plain diamond .default (.full diamond) (Finset.mem_univ 0)
    (acyclic_diamond 0) (by decide) (by decide)⟩

end Host

end Stringify
