import Stringify.Proofs.Host.Offending

/-!
# The questions of a run

A run interviews one node after the other. The interview with a node puts the questions of the rules
in their order, up to the rule that decides, and no node is interviewed twice, however often and on
whatever paths it is reached. So the examinations inside one another come to an end: there are no
more of them than nodes.
-/

namespace Stringify

universe u

/-- The node that a question is about; a question about the root is about a context instead. -/
def Question.node? {Node : Type u} : Question Node → Option Node
  | .callSignatures node | .declarations node | .booleanLike node | .name node
  | .intersection node | .union node => some node
  | .root _ => none

namespace Host

variable {Node : Type} {host : Host Node} {settings : Settings} {node other : Node}
variable {questions again : List (Question Node)} {question : Question Node}

/-! ## Interviews -/

/-- The questions about one node, each at most once and in the order of the rules. -/
structure IsInterview (host : Host Node) (settings : Settings) (node : Node)
    (questions : List (Question Node)) : Prop where
  /-- The root is asked about for the declarations from the first one on, and for none after one
  that is on it. -/
  inOrder : ∃ contexts, contexts <+: host.declarations node ∧
    (∀ context ∈ contexts.dropLast, host.isRoot context = false) ∧
    questions <+: (if settings.rejectFunctions then [.callSignatures node] else []) ++
      ([.declarations node, .booleanLike node, .name node] ++ contexts.map .root ++
        [.intersection node, .union node])
  /-- The parts of a union are asked for only when there are none of an intersection. -/
  unionLast : .union node ∈ questions → host.intersection? node = none

theorem exists_rootQuestions (host : Host Node) (contexts : List (Option String)) :
    ∃ asked, asked <+: contexts ∧ (∀ context ∈ asked.dropLast, host.isRoot context = false) ∧
      rootQuestions host contexts = asked.map .root := by
  induction contexts with
  | nil => exact ⟨[], by simp [rootQuestions]⟩
  | cons context rest ih =>
      cases root : host.isRoot context with
      | true => exact ⟨[context], by simp [rootQuestions, root]⟩
      | false =>
          rcases ih with ⟨asked, opens, unrooted, same⟩
          refine ⟨context :: asked, by simpa using opens, ?_, by simp [rootQuestions, root, same]⟩
          cases asked with
          | nil => simp
          | cons first others => simpa [root] using unrooted

theorem textInterview_isPrefix {contexts : List (Option String)}
    (roots : rootQuestions host (host.declarations node) = contexts.map .root) :
    host.textInterview settings node <+:
      [.declarations node, .booleanLike node, .name node] ++ contexts.map .root ++
        [.intersection node, .union node] := by
  unfold textInterview
  rw [roots]
  split
  · simp
  · split
    · simp
    · split
      · simp
      · split
        · simp
        · split <;> simp

theorem isInterview (host : Host Node) (settings : Settings) (node : Node) :
    host.IsInterview settings node (host.interview settings node) := by
  constructor
  · rcases exists_rootQuestions host (host.declarations node) with ⟨contexts, opens, unrooted, same⟩
    have textPrefix : host.textInterview settings node <+: _ := textInterview_isPrefix same
    refine ⟨contexts, opens, unrooted, ?_⟩
    unfold interview
    cases settings.rejectFunctions with
    | false => simpa using textPrefix
    | true =>
        cases host.hasCallSignatures node with
        | true => simp
        | false => simpa using textPrefix
  · intro asked
    cases found : host.intersection? node with
    | none => rfl
    | some parts =>
        rcases exists_rootQuestions host (host.declarations node) with ⟨contexts, _, _, same⟩
        simp only [interview, textInterview, same, found, Option.isSome_some, if_true] at asked
        split_ifs at asked <;> simp at asked

/-- The questions of an interview are about its node, those about the root apart. -/
theorem IsInterview.node_eq (interview : host.IsInterview settings node questions)
    (asked : question ∈ questions) (about : question.node? = some other) : other = node := by
  rcases interview.inOrder with ⟨contexts, _, _, inOrder⟩
  have listed := inOrder.subset asked
  simp only [List.mem_append, List.mem_cons, List.mem_map, List.not_mem_nil, or_false] at listed
  rcases listed with opening | ((rfl | rfl | rfl) | ⟨context, _, rfl⟩) | rfl | rfl
  · split at opening
    · rw [List.mem_singleton] at opening
      subst opening
      exact (Option.some.inj about).symm
    · cases opening
  · exact (Option.some.inj about).symm
  · exact (Option.some.inj about).symm
  · exact (Option.some.inj about).symm
  · cases about
  · exact (Option.some.inj about).symm
  · exact (Option.some.inj about).symm

theorem IsInterview.not_mem_callSignatures (interview : host.IsInterview settings node questions)
    (accepted : settings.rejectFunctions = false) : .callSignatures other ∉ questions := by
  rcases interview.inOrder with ⟨contexts, _, _, inOrder⟩
  intro asked
  simpa [accepted] using inOrder.subset asked

/-- A question about a node is put at most once in an interview. -/
theorem IsInterview.count_le_one [DecidableEq Node]
    (interview : host.IsInterview settings node questions)
    (about : question.node?.isSome = true) : questions.count question ≤ 1 := by
  rcases interview.inOrder with ⟨contexts, _, _, inOrder⟩
  refine (inOrder.sublist.count_le question).trans ?_
  have noRoot : (contexts.map Question.root).count question = 0 := by
    rw [List.count_eq_zero, List.mem_map]
    rintro ⟨context, _, rfl⟩
    simp [Question.node?] at about
  have single : ((if settings.rejectFunctions then [.callSignatures node] else []) ++
      ([.declarations node, .booleanLike node, .name node] ++
        [.intersection node, .union node]) : List (Question Node)).Nodup := by
    split <;> simp
  have once := List.nodup_iff_count_le_one.mp single question
  simp only [List.count_append, noRoot, Nat.add_zero] at once ⊢
  exact once

/-! ## Rows of interviews -/

/-- The questions of interviews with several nodes. -/
def interviews (host : Host Node) (settings : Settings) (visited : List Node) :
    List (Question Node) :=
  visited.flatMap (host.interview settings)

theorem mem_of_mem_interviews {visited : List Node}
    (asked : question ∈ host.interviews settings visited) (about : question.node? = some other) :
    other ∈ visited := by
  rcases List.mem_flatMap.mp asked with ⟨node, member, inside⟩
  rw [(isInterview host settings node).node_eq inside about]
  exact member

/-- In interviews with different nodes no question about a node is put twice. -/
theorem count_interviews_le_one [DecidableEq Node] {visited : List Node} (nodup : visited.Nodup)
    (about : question.node?.isSome = true) :
    (host.interviews settings visited).count question ≤ 1 := by
  induction visited with
  | nil => simp [interviews]
  | cons node rest ih =>
      have here := (isInterview host settings node).count_le_one about
      have later := ih nodup.tail
      rw [interviews, List.flatMap_cons, List.count_append]
      by_cases asked : question ∈ host.interview settings node
      · -- The question is about this node, which is not met again.
        have never : (host.interviews settings rest).count question = 0 := by
          rw [List.count_eq_zero]
          intro again
          rcases Option.isSome_iff_exists.mp about with ⟨other, found⟩
          have same := (isInterview host settings node).node_eq asked found
          exact (List.nodup_cons.mp nodup).1 (same ▸ mem_of_mem_interviews again found)
        rw [interviews] at never
        omega
      · rw [List.count_eq_zero.mpr asked, Nat.zero_add]
        exact later

/-! ## What a run asks -/

/-- A later log has the interviews with some nodes over an earlier one. These are the nodes that it
knows and the earlier one does not. -/
structure Log.Visits (host : Host Node) (settings : Settings) (earlier later : Log Node)
    (visited : List Node) : Prop where
  asked : later.asked.reverse = earlier.asked.reverse ++ host.interviews settings visited
  nodup : visited.Nodup
  fresh : ∀ other ∈ visited, earlier.known other = none
  found : ∀ other ∈ visited, later.known other ≠ none
  kept : ∀ other ∉ visited, later.known other = earlier.known other

namespace Log.Visits

variable {earlier log later : Log Node} {first second visited : List Node} {verdict : Verdict}

theorem refl (host : Host Node) (settings : Settings) (log : Log Node) :
    Log.Visits host settings log log [] where
  asked := by simp [interviews]
  nodup := .nil
  fresh := by simp
  found := by simp
  kept := by simp

/-- What is known once stays known. -/
theorem known (visits : Log.Visits host settings earlier later visited)
    (found : earlier.known other = some verdict) : later.known other = some verdict := by
  have outside : other ∉ visited := by
    intro member
    simp [visits.fresh other member] at found
  rw [visits.kept other outside, found]

variable [DecidableEq Node]

theorem trans (before : Log.Visits host settings earlier log first)
    (after : Log.Visits host settings log later second) :
    Log.Visits host settings earlier later (first ++ second) where
  asked := by simp [after.asked, before.asked, interviews]
  nodup := by
    refine List.nodup_append.mpr ⟨before.nodup, after.nodup, fun node member other again => ?_⟩
    rintro rfl
    exact before.found node member (after.fresh node again)
  fresh := by
    intro other member
    rcases List.mem_append.mp member with member | member
    · exact before.fresh other member
    · by_cases already : other ∈ first
      · exact before.fresh other already
      · rw [← before.kept other already]
        exact after.fresh other member
  found := by
    intro other member
    rcases List.mem_append.mp member with member | member
    · rcases Option.ne_none_iff_exists'.mp (before.found other member) with ⟨verdict, found⟩
      simp [after.known found]
    · exact after.found other member
  kept := by
    intro other outside
    rw [List.mem_append, not_or] at outside
    rw [after.kept other outside.2, before.kept other outside.1]

/-- To open a node that is not known is to interview it. -/
theorem opening (fresh : log.known node = none) :
    Log.Visits host settings log (host.opening settings node log) [node] where
  asked := by simp [Host.opening, Log.settling, Log.noting, interviews]
  nodup := by simp
  fresh := by simpa using fresh
  found := by simp [Host.opening, Log.settling, Log.noting]
  kept := by
    intro other outside
    have differs : other ≠ node := by simpa using outside
    simp [Host.opening, Log.settling, Log.noting, differs]

/-- The verdict of a node that was visited may change. -/
theorem settling (visits : Log.Visits host settings earlier later visited)
    (member : node ∈ visited) :
    Log.Visits host settings earlier (later.settling node verdict) visited where
  asked := visits.asked
  nodup := visits.nodup
  fresh := visits.fresh
  found := by
    intro other inside
    by_cases same : other = node
    · simp [Log.settling, same]
    · simpa [Log.settling, same] using visits.found other inside
  kept := by
    intro other outside
    have differs : other ≠ node := fun same => outside (same ▸ member)
    simpa [Log.settling, differs] using visits.kept other outside

end Log.Visits

/-- A log is what an earlier one becomes by visits of nodes that a node reaches. -/
def Log.Explores (host : Host Node) (settings : Settings) (node : Node)
    (earlier later : Log Node) : Prop :=
  ∃ visited, Log.Visits host settings earlier later visited ∧
    ∀ other ∈ visited, host.Reaches node other

namespace Log.Explores

variable {earlier log later : Log Node} {part : Node}

theorem refl (host : Host Node) (settings : Settings) (node : Node) (log : Log Node) :
    Log.Explores host settings node log log :=
  ⟨[], .refl host settings log, by simp⟩

theorem trans [DecidableEq Node] (before : Log.Explores host settings node earlier log)
    (after : Log.Explores host settings node log later) :
    Log.Explores host settings node earlier later := by
  rcases before with ⟨first, visits, reached⟩
  rcases after with ⟨second, others, reachedOthers⟩
  exact ⟨first ++ second, visits.trans others, List.forall_mem_append.mpr ⟨reached, reachedOthers⟩⟩

theorem of_reaches (reached : host.Reaches node part)
    (explores : Log.Explores host settings part earlier later) :
    Log.Explores host settings node earlier later := by
  rcases explores with ⟨visited, visits, further⟩
  exact ⟨visited, visits, fun other member => reached.trans (further other member)⟩

end Log.Explores

/-- What the visits of the constituents keep, the drawing of a ruling keeps. -/
theorem run_draw_keeps {visit : Node → Run Node Verdict} {invariant : Log Node → Prop}
    {ruling : Ruling Node} {log : Log Node}
    (keeps : ∀ composition parts, ruling = .merged composition parts →
      ∀ part ∈ parts, ∀ log, invariant log → invariant ((visit part).run log).2)
    (holds : invariant log) : invariant ((ruling.draw visit).run log).2 := by
  cases ruling with
  | settled verdict => exact holds
  | merged composition parts =>
      have upholds : Upholds visit invariant (fun _ _ => True) parts :=
        ⟨keeps composition parts rfl, fun _ _ _ _ => trivial⟩
      exact (upholds.drawMerge composition holds).1

variable [DecidableEq Node]

/-- A visit interviews nodes that the visited one reaches, each of them for the first time. -/
theorem judge_explores (depth : Nat) (node : Node) (log : Log Node) :
    Log.Explores host settings node log ((judge host settings depth node).run log).2 := by
  induction depth generalizing node log with
  | zero => exact .refl host settings node log
  | succ depth ih =>
      cases known : log.known node with
      | some verdict =>
          rw [run_judge_of_known known]
          exact .refl host settings node log
      | none =>
          rw [run_judge_of_fresh known]
          have keeps : ∀ composition parts,
              host.ruling settings node = .merged composition parts →
              ∀ part ∈ parts, ∀ later,
                Log.Explores host settings node (host.opening settings node log) later →
                Log.Explores host settings node (host.opening settings node log)
                  ((judge host settings depth part).run later).2 := by
            intro composition parts ruled part isPart later explored
            have reached : host.Reaches node part := .single (isPart_of_ruling ruled isPart)
            exact explored.trans ((ih part later).of_reaches reached)
          have drawn := run_draw_keeps keeps (.refl host settings node _)
          rcases drawn with ⟨visited, visits, reached⟩
          refine ⟨node :: visited, ((Log.Visits.opening known).trans visits).settling ?_, ?_⟩
          · exact List.mem_cons_self
          · exact List.forall_mem_cons.mpr ⟨.refl, reached⟩

/-! ## Termination -/

/-- `judge` where the visits inside more than `depth` examinations are anything at all. -/
def judgeBelow (host : Host Node) (settings : Settings) (beyond : Node → Run Node Verdict) :
    (depth : Nat) → Node → Run Node Verdict
  | 0, node => beyond node
  | depth + 1, node => do
    match (← get).known node with
    | some verdict => return verdict
    | none =>
      settle node .always
      let verdict ← examine host settings (judgeBelow host settings beyond depth) node
      settle node verdict
      return verdict

/-- `blame` where the verdicts come from any visits. -/
def blameBy (host : Host Node) (visit : Node → Run Node Verdict) (node : Node) :
    Run Node (List Node) := do
  if (← visit node) = .always then return []
  findings visit (← constituents host node)

theorem judge_eq_judgeBelow (host : Host Node) (settings : Settings) (depth : Nat) :
    judge host settings depth = judgeBelow host settings (fun _ => return .always) depth := by
  induction depth with
  | zero => rfl
  | succ depth ih =>
      funext node
      rw [judgeBelow, ← ih]
      rfl

theorem blame_eq_blameBy (host : Host Node) (settings : Settings) (size : Nat) :
    blame host settings size = blameBy host (judge host settings size) := rfl

variable {beyond : Node → Run Node Verdict}

theorem run_judgeBelow_of_known {depth : Nat} {log : Log Node} {verdict : Verdict}
    (known : log.known node = some verdict) :
    (judgeBelow host settings beyond (depth + 1) node).run log = (verdict, log) := by
  rw [judgeBelow, Run.run_bind_of (Run.run_get log), known]
  rfl

theorem run_judgeBelow_of_fresh {depth : Nat} {log : Log Node} (fresh : log.known node = none) :
    (judgeBelow host settings beyond (depth + 1) node).run log =
      let drawn := ((host.ruling settings node).draw (judgeBelow host settings beyond depth)).run
        (host.opening settings node log)
      (drawn.1, drawn.2.settling node drawn.1) := by
  rw [judgeBelow, Run.run_bind_of (Run.run_get log), fresh]
  simp only
  rw [Run.run_bind_of (run_settle ..), Run.run_bind_of (run_examine ..)]
  rfl

section Agreement

omit [DecidableEq Node]

variable {visit again : Node → Run Node Verdict} {invariant : Log Node → Prop}
  {parts : List Node} {log : Log Node}

/-- Two ways to visit some nodes do the same to every log with an invariant, and keep it. -/
structure Agree (visit again : Node → Run Node Verdict) (invariant : Log Node → Prop)
    (parts : List Node) : Prop where
  same : ∀ part ∈ parts, ∀ log, invariant log → (visit part).run log = (again part).run log
  keeps : ∀ part ∈ parts, ∀ log, invariant log → invariant ((visit part).run log).2

namespace Agree

theorem tail {part : Node} (agree : Agree visit again invariant (part :: parts)) :
    Agree visit again invariant parts where
  same other member := agree.same other (List.mem_cons_of_mem part member)
  keeps other member := agree.keeps other (List.mem_cons_of_mem part member)

theorem drawAll (agree : Agree visit again invariant parts) (holds : invariant log) :
    (Verdict.drawAll visit parts).run log = (Verdict.drawAll again parts).run log := by
  induction parts generalizing log with
  | nil => rfl
  | cons part rest ih =>
      have here := agree.same part List.mem_cons_self log holds
      have later := ih agree.tail (agree.keeps part List.mem_cons_self log holds)
      simp only [Verdict.drawAll, Run.run_bind, ← here, later]

theorem drawIntersection (agree : Agree visit again invariant parts) (holds : invariant log) :
    (Verdict.drawIntersection visit parts).run log =
      (Verdict.drawIntersection again parts).run log := by
  induction parts generalizing log with
  | nil => rfl
  | cons part rest ih =>
      have here := agree.same part List.mem_cons_self log holds
      have later := ih agree.tail (agree.keeps part List.mem_cons_self log holds)
      simp only [Verdict.drawIntersection, Run.run_bind, ← here]
      split
      · rfl
      · exact later

theorem drawMerge (agree : Agree visit again invariant parts) (composition : Composition)
    (holds : invariant log) :
    (composition.drawMerge visit parts).run log = (composition.drawMerge again parts).run log := by
  cases composition with
  | union =>
      simp only [Composition.drawMerge, Verdict.drawUnion, Run.run_bind, agree.drawAll holds]
  | intersection => exact agree.drawIntersection holds

theorem draw {ruling : Ruling Node}
    (agree : ∀ composition parts, ruling = .merged composition parts →
      Agree visit again invariant parts) (holds : invariant log) :
    (ruling.draw visit).run log = (ruling.draw again).run log := by
  cases ruling with
  | settled verdict => rfl
  | merged composition parts => exact (agree composition parts rfl).drawMerge composition holds

theorem findings (agree : Agree visit again invariant parts) (holds : invariant log) :
    (findings visit parts).run log = (Host.findings again parts).run log := by
  rw [run_findings, run_findings, agree.drawAll holds]

end Agree

end Agreement

/-- Some nodes of a graph are being examined: a log has a provisional verdict of each. -/
structure Log.Examines (log : Log Node) (graph : Graph host) (examined : Finset Node) : Prop where
  inside : examined ⊆ graph.nodes
  provisional : ∀ other ∈ examined, log.known other = some .always

namespace Log.Examines

variable {graph : Graph host} {examined : Finset Node} {log : Log Node}

/-- A node that is not known is opened in addition to those being examined. -/
theorem opening (examines : log.Examines graph examined) (member : node ∈ graph.nodes) :
    (host.opening settings node log).Examines graph (insert node examined) where
  inside := Finset.insert_subset member examines.inside
  provisional := by
    intro other examinedToo
    by_cases same : other = node
    · simp [Host.opening, Log.settling, Log.noting, same]
    · have already := Finset.mem_of_mem_insert_of_ne examinedToo same
      simpa [Host.opening, Log.settling, Log.noting, same] using
        examines.provisional other already

/-- The nodes being examined are so after a visit too. -/
theorem visited (examines : log.Examines graph examined) (settings : Settings) (depth : Nat)
    (part : Node) : ((judge host settings depth part).run log).2.Examines graph examined where
  inside := examines.inside
  provisional := by
    have explores : Log.Explores host settings part log _ := judge_explores depth part log
    rcases explores with ⟨visited, visits, _⟩
    intro other member
    exact visits.known (examines.provisional other member)

end Log.Examines

/-- Examinations inside one another are of different nodes, so with as many as there are nodes
nothing is left to examine, and it does not matter what is done beyond. -/
theorem run_judge_eq_judgeBelow {graph : Graph host} {depth more : Nat} {examined : Finset Node}
    {log : Log Node} (examines : log.Examines graph examined) (member : node ∈ graph.nodes)
    (enough : graph.nodes.card ≤ examined.card + depth)
    (deeper : graph.nodes.card < examined.card + more) :
    (judge host settings depth node).run log =
      (judgeBelow host settings beyond more node).run log := by
  have fewer := Finset.card_le_card examines.inside
  rcases Nat.exists_eq_add_one.mpr (show 0 < more by omega) with ⟨less, rfl⟩
  induction depth generalizing less examined node log with
  | zero =>
      have all : examined = graph.nodes :=
        Finset.eq_of_subset_of_card_le examines.inside (by omega)
      rw [run_judgeBelow_of_known (examines.provisional node (all ▸ member))]
      rfl
  | succ depth ih =>
      cases known : log.known node with
      | some verdict => rw [run_judge_of_known known, run_judgeBelow_of_known known]
      | none =>
          have fresh : node ∉ examined := by
            intro already
            simp [examines.provisional node already] at known
          have opened : (host.opening settings node log).Examines graph (insert node examined) :=
            examines.opening member
          have card := Finset.card_insert_of_notMem fresh
          have fewerToo := Finset.card_le_card opened.inside
          have agree : ∀ composition parts, host.ruling settings node = .merged composition parts →
              Agree (judge host settings depth) (judgeBelow host settings beyond less)
                (fun later => later.Examines graph (insert node examined)) parts := by
            intro composition parts ruled
            refine ⟨fun part isPart later examinesToo => ?_, fun part _ later examinesToo => ?_⟩
            · have partMember := graph.closed node member part (isPart_of_ruling ruled isPart)
              rcases Nat.exists_eq_add_one.mpr (show 0 < less by omega) with ⟨least, rfl⟩
              exact ih examinesToo partMember (by omega) fewerToo least (by omega)
            · exact examinesToo.visited settings depth part
          rw [run_judge_of_fresh known, run_judgeBelow_of_fresh known, Agree.draw agree opened]

/-- A visit does not depend on what is done beyond as many examinations as there are nodes. -/
theorem run_judge_eq (graph : Graph host) {size : Nat} (member : node ∈ graph.nodes)
    (large : graph.nodes.card ≤ size) (log : Log Node) :
    (judge host settings size node).run log =
      (judgeBelow host settings beyond (graph.nodes.card + 1) node).run log :=
  run_judge_eq_judgeBelow ⟨Finset.empty_subset graph.nodes, by simp⟩ member (by simpa using large)
    (by simp)

/-- Nor does the run that explains a finding. -/
theorem run_blame_eq (graph : Graph host) {size : Nat} (member : node ∈ graph.nodes)
    (large : graph.nodes.card ≤ size) (log : Log Node) :
    (blame host settings size node).run log =
      (blameBy host (judgeBelow host settings beyond (graph.nodes.card + 1)) node).run log := by
  have agree : Agree (judge host settings size)
      (judgeBelow host settings beyond (graph.nodes.card + 1)) (fun _ => True)
      (host.breakdown node) := by
    refine ⟨fun part isPart later _ => ?_, fun _ _ _ _ => trivial⟩
    exact run_judge_eq graph (graph.mem_of_reaches member (reaches_of_mem_breakdown isPart)) large
      later
  rw [blame_eq_blameBy, blameBy, blameBy, Run.run_bind, Run.run_bind, ← run_judge_eq graph member
    large]
  split
  · rfl
  · rw [Run.run_bind_of (run_constituents ..), Run.run_bind_of (run_constituents ..),
      agree.findings trivial]

/-! ## All questions of a run -/

/-- What holds of the questions that a run with a node asks. Those in `again` it asks once more. -/
structure Inquires (host : Host Node) (settings : Settings) (node : Node)
    (again questions : List (Question Node)) : Prop where
  /-- Different nodes, which the node reaches, are interviewed one after the other. -/
  inRow : ∃ first second, (first ++ second).Nodup ∧
    (∀ other ∈ first ++ second, host.Reaches node other) ∧
    questions = host.interviews settings first ++ again ++ host.interviews settings second
  reached : ∀ question ∈ questions, ∀ other, question.node? = some other →
    host.Reaches node other
  once : ∀ question, question.node?.isSome = true →
    questions.count question ≤ 1 + again.count question
  /-- Without the rule on callables nothing is asked about calls. -/
  accepted : settings.rejectFunctions = false → ∀ other, .callSignatures other ∉ questions

omit [DecidableEq Node] in
theorem not_mem_interviews (accepted : settings.rejectFunctions = false) (visited : List Node) :
    .callSignatures other ∉ host.interviews settings visited := by
  intro asked
  rcases List.mem_flatMap.mp asked with ⟨node, _, inside⟩
  exact (isInterview host settings node).not_mem_callSignatures accepted inside

/-- Interviews with different nodes, between which some more is asked about the constituents of the
node, are such a row of questions. -/
theorem Inquires.of_nodup {first second : List Node} (nodup : (first ++ second).Nodup)
    (reached : ∀ other ∈ first ++ second, host.Reaches node other)
    (parts : again ⊆ [.intersection node, .union node]) :
    host.Inquires settings node again
      (host.interviews settings first ++ again ++ host.interviews settings second) where
  inRow := ⟨first, second, nodup, reached, rfl⟩
  reached := by
    intro question asked other about
    rw [List.mem_append, List.mem_append] at asked
    rcases asked with (asked | asked) | asked
    · exact reached other (List.mem_append_left _ (mem_of_mem_interviews asked about))
    · have listed := parts asked
      simp only [List.mem_cons, List.not_mem_nil, or_false] at listed
      rcases listed with rfl | rfl
      · cases about
        exact .refl
      · cases about
        exact .refl
    · exact reached other (List.mem_append_right _ (mem_of_mem_interviews asked about))
  once := by
    intro question about
    have single : (host.interviews settings (first ++ second)).count question ≤ 1 :=
      count_interviews_le_one nodup about
    simp only [interviews, List.flatMap_append, List.count_append] at single ⊢
    omega
  accepted := by
    intro accepted other asked
    rw [List.mem_append, List.mem_append] at asked
    rcases asked with (asked | asked) | asked
    · exact not_mem_interviews accepted first asked
    · simpa using parts asked
    · exact not_mem_interviews accepted second asked

theorem inquires_judge (host : Host Node) (settings : Settings) (size : Nat) (node : Node) :
    host.Inquires settings node [] (traced (judge host settings size node)).2 := by
  have explores : Log.Explores host settings node Log.empty _ := judge_explores size node Log.empty
  rcases explores with ⟨visited, visits, reached⟩
  have asked : (traced (judge host settings size node)).2 =
      host.interviews settings visited ++ [] ++ host.interviews settings [] := by
    show ((judge host settings size node).run Log.empty).2.asked.reverse = _
    rw [visits.asked]
    simp [Log.empty, interviews]
  rw [asked]
  exact .of_nodup (by simpa using visits.nodup) (by simpa using reached) (List.nil_subset _)

/-- To visit several nodes that a node reaches is to explore from it. -/
theorem drawAll_explores (size : Nat) {parts : List Node}
    (reached : ∀ part ∈ parts, host.Reaches node part) (log : Log Node) :
    Log.Explores host settings node log
      ((Verdict.drawAll (judge host settings size) parts).run log).2 := by
  have upholds : Upholds (judge host settings size) (Log.Explores host settings node log)
      (fun _ _ => True) parts := by
    refine ⟨fun part isPart later explored => ?_, fun _ _ _ _ => trivial⟩
    exact explored.trans ((judge_explores size part later).of_reaches (reached part isPart))
  exact (upholds.drawAll (.refl host settings node log)).1

omit [DecidableEq Node] in
theorem breakdownQuestions_isPrefix (host : Host Node) (node : Node) :
    host.breakdownQuestions node <+: [.intersection node, .union node] := by
  unfold breakdownQuestions
  split <;> simp

omit [DecidableEq Node] in
theorem intersection?_of_mem_breakdownQuestions
    (asked : .union node ∈ host.breakdownQuestions node) : host.intersection? node = none := by
  cases found : host.intersection? node with
  | none => rfl
  | some parts => simp [breakdownQuestions, found] at asked

/-- The run that explains a verdict asks again for the constituents if the verdict is a finding. -/
theorem inquires_blame (host : Host Node) (settings : Settings) (size : Nat) (node : Node) :
    ∃ again, (again = [] ∨ again = host.breakdownQuestions node) ∧
      host.Inquires settings node again (traced (blame host settings size node)).2 := by
  by_cases useful : ((judge host settings size node).run Log.empty).1 = .always
  · refine ⟨[], .inl rfl, ?_⟩
    have same : (traced (blame host settings size node)).2 =
        (traced (judge host settings size node)).2 := by
      show ((blame host settings size node).run Log.empty).2.asked.reverse = _
      simp only [run_blame, if_pos useful]
      rfl
    rw [same]
    exact inquires_judge host settings size node
  · refine ⟨host.breakdownQuestions node, .inr rfl, ?_⟩
    have explores : Log.Explores host settings node Log.empty _ :=
      judge_explores size node Log.empty
    rcases explores with ⟨first, visits, reached⟩
    -- What is known after the further questions is what was known before them.
    have exploresToo : Log.Explores host settings node
        (((judge host settings size node).run Log.empty).2.noting
          (host.breakdownQuestions node)) _ :=
      drawAll_explores size (fun part => reaches_of_mem_breakdown) _
    rcases exploresToo with ⟨second, others, reachedOthers⟩
    have nodup : (first ++ second).Nodup := by
      refine List.nodup_append.mpr ⟨visits.nodup, others.nodup, fun found member other again => ?_⟩
      rintro rfl
      exact visits.found found member (others.fresh found again)
    have asked : (traced (blame host settings size node)).2 =
        host.interviews settings first ++ host.breakdownQuestions node ++
          host.interviews settings second := by
      show ((blame host settings size node).run Log.empty).2.asked.reverse = _
      simp only [run_blame, if_neg useful, run_findings]
      rw [others.asked]
      simp [Log.noting, visits.asked]
      rfl
    rw [asked]
    exact .of_nodup nodup (List.forall_mem_append.mpr ⟨reached, reachedOthers⟩)
      (breakdownQuestions_isPrefix host node).subset

/-- Every run ends: whatever is done beyond as many examinations inside one another as there are
nodes, it is never done. A run asks only about nodes that its node reaches, interviews each of them
at most once, and asks each question about one of them at most once; only an explanation asks for
the constituents of its node a second time. -/
theorem asks_each_node_once (host : Host Node) (settings : Settings) (graph : Graph host)
    {node : Node} (member : node ∈ graph.nodes) {size : Nat} (large : graph.nodes.card ≤ size) :
    (∀ beyond : Node → Run Node Verdict,
      (judge host settings size node).run Log.empty =
        (judgeBelow host settings beyond (graph.nodes.card + 1) node).run Log.empty ∧
      (blame host settings size node).run Log.empty =
        (blameBy host (judgeBelow host settings beyond (graph.nodes.card + 1)) node).run
          Log.empty) ∧
    (∀ other, host.IsInterview settings other (host.interview settings other)) ∧
    host.Inquires settings node [] (traced (judge host settings size node)).2 ∧
    ∃ again, again <+: [.intersection node, .union node] ∧
      (.union node ∈ again → host.intersection? node = none) ∧
      host.Inquires settings node again (traced (blame host settings size node)).2 := by
  refine ⟨fun beyond => ⟨run_judge_eq graph member large _, run_blame_eq graph member large _⟩,
    isInterview host settings, inquires_judge host settings size node, ?_⟩
  rcases inquires_blame host settings size node with ⟨again, rfl | rfl, inquires⟩
  · exact ⟨[], List.nil_prefix, by simp, inquires⟩
  · exact ⟨_, breakdownQuestions_isPrefix host node, intersection?_of_mem_breakdownQuestions,
      inquires⟩

/-- The union at the top of a graph with cycles is asked for its parts a second time by the
explanation. The other union, which two intersections lead to, is asked for them once. -/
theorem asks_each_node_once_crossEdges :
    (Graph.full crossEdges).nodes.card ≤ 6 ∧
    crossEdges.Inquires .default 0 [] (traced (judge crossEdges .default 6 0)).2 ∧
    (∃ again, again <+: [.intersection 0, .union 0] ∧
      (.union 0 ∈ again → crossEdges.intersection? 0 = none) ∧
      crossEdges.Inquires .default 0 again (traced (blame crossEdges .default 6 0)).2) ∧
    (traced (blame crossEdges .default 6 0)).2.count (.union 0) = 2 ∧
    (traced (blame crossEdges .default 6 0)).2.count (.union 3) = 1 := by
  have large : (Graph.full crossEdges).nodes.card ≤ 6 := by decide
  rcases asks_each_node_once crossEdges .default (.full crossEdges) (Finset.mem_univ 0) large with
    ⟨-, -, judged, blamed⟩
  exact ⟨large, judged, blamed, by decide, by decide⟩

end Host

end Stringify
