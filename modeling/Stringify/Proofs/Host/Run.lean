import Stringify.Proofs.Host.Graph

/-!
# Runs

A run examines a node by putting to the host the questions that its ruling rests on, and then draws
the verdicts of the constituents. So the step of a run is its ruling, and what a visit of one
constituent keeps true of the log, the merge of them all keeps true.
-/

namespace Stringify

namespace Host

variable {Node α β : Type}

/-- The log after more questions. -/
def Log.noting (log : Log Node) (questions : List (Question Node)) : Log Node :=
  { log with asked := questions.reverse ++ log.asked }

theorem Log.noting_noting (log : Log Node) (first second : List (Question Node)) :
    (log.noting first).noting second = log.noting (first ++ second) := by
  simp [noting]

theorem Log.known_noting (log : Log Node) (questions : List (Question Node)) :
    (log.noting questions).known = log.known := rfl

/-! ## Steps -/

namespace Run

theorem run_pure (value : α) (log : Log Node) :
    (pure value : Run Node α).run log = (value, log) := rfl

theorem run_bind (first : Run Node α) (next : α → Run Node β) (log : Log Node) :
    (first >>= next).run log = (next (first.run log).1).run (first.run log).2 := rfl

theorem run_bind_of {first : Run Node α} {log after : Log Node} {value : α}
    (ran : first.run log = (value, after)) (next : α → Run Node β) :
    (first >>= next).run log = (next value).run after := by
  rw [run_bind, ran]

theorem run_get (log : Log Node) : (get : Run Node (Log Node)).run log = (log, log) := rfl

theorem run_ask (question : Question Node) (answer : α) (log : Log Node) :
    (ask question answer).run log = (answer, log.noting [question]) := rfl

end Run

/-- The questions about the root, up to the first answered with yes. -/
def rootQuestions (host : Host Node) : List (Option String) → List (Question Node)
  | [] => []
  | context :: rest =>
    .root context :: if host.isRoot context then [] else rootQuestions host rest

theorem run_anyRoot (host : Host Node) (contexts : List (Option String)) (log : Log Node) :
    (anyRoot host contexts).run log =
      (contexts.any host.isRoot, log.noting (rootQuestions host contexts)) := by
  induction contexts generalizing log with
  | nil => rfl
  | cons context rest ih =>
      rw [anyRoot, Run.run_bind_of (Run.run_ask ..), List.any_cons, rootQuestions]
      cases host.isRoot context with
      | true => rfl
      | false =>
          simp only [Bool.false_eq_true, if_false, Bool.false_or, ih, Log.noting_noting,
            List.singleton_append]

/-- The questions of the rules after the first, up to the rule that decides. -/
def textInterview (host : Host Node) (settings : Settings) (node : Node) : List (Question Node) :=
  .declarations node ::
    if (host.declarations node).isEmpty then []
    else .booleanLike node ::
      if host.isBooleanLike node then []
      else .name node ::
        if settings.ignores (host.name node) then []
        else rootQuestions host (host.declarations node) ++
          if !(host.declarations node).any host.isRoot then []
          else .intersection node ::
            if (host.intersection? node).isSome then [] else [.union node]

/-- The questions of the seven rules, up to the rule that decides. -/
def interview (host : Host Node) (settings : Settings) (node : Node) : List (Question Node) :=
  if settings.rejectFunctions then
    .callSignatures node ::
      if host.hasCallSignatures node then [] else textInterview host settings node
  else textInterview host settings node

end Host

/-- The verdict of a ruling, with the verdicts of the constituents drawn from visits. -/
def Ruling.draw {Node : Type} (visit : Node → Host.Run Node Verdict) :
    Ruling Node → Host.Run Node Verdict
  | settled verdict => return verdict
  | merged composition parts => composition.drawMerge visit parts

namespace Host

variable {Node : Type}

variable (host : Host Node) (settings : Settings) (visit : Node → Run Node Verdict) (node : Node)

theorem run_examineText (log : Log Node) :
    (examineText host settings visit node).run log =
      ((host.textRuling settings node).draw visit).run
        (log.noting (host.textInterview settings node)) := by
  -- Either a rule decides and nothing more is asked, or the next question is.
  unfold examineText textRuling textInterview
  rw [Run.run_bind_of (Run.run_ask ..)]
  by_cases empty : (host.declarations node).isEmpty
  · rw [empty]
    rfl
  simp only [Bool.eq_false_of_not_eq_true empty, Bool.false_eq_true, if_false]
  rw [Run.run_bind_of (Run.run_ask ..), Log.noting_noting]
  by_cases boolean : host.isBooleanLike node
  · rw [boolean]
    rfl
  simp only [Bool.eq_false_of_not_eq_true boolean, Bool.false_eq_true, if_false]
  rw [Run.run_bind_of (Run.run_ask ..), Log.noting_noting]
  by_cases ignored : settings.ignores (host.name node)
  · rw [ignored]
    rfl
  simp only [Bool.eq_false_of_not_eq_true ignored, Bool.false_eq_true, if_false]
  rw [Run.run_bind_of (run_anyRoot ..), Log.noting_noting]
  by_cases root : (host.declarations node).any host.isRoot
  · simp only [root, Bool.not_true, Bool.false_eq_true, if_false]
    rw [Run.run_bind_of (Run.run_ask ..), Log.noting_noting]
    unfold decomposition?
    cases host.intersection? node with
    | some parts =>
        simp only [List.append_assoc]
        rfl
    | none =>
        simp only
        rw [Run.run_bind_of (Run.run_ask ..), Log.noting_noting]
        cases host.union? node with
        | some parts | none =>
            simp only [List.append_assoc]
            rfl
  · simp only [Bool.eq_false_of_not_eq_true root, Bool.not_false, if_true, List.append_nil]
    rfl

/-- To examine a node is to put the questions and then to draw its ruling. -/
theorem run_examine (log : Log Node) :
    (examine host settings visit node).run log =
      ((host.ruling settings node).draw visit).run
        (log.noting (host.interview settings node)) := by
  unfold examine ruling interview
  cases settings.rejectFunctions with
  | false => exact run_examineText host settings visit node log
  | true =>
      rw [if_pos rfl, if_pos rfl, Bool.true_and, Run.run_bind_of (Run.run_ask ..)]
      cases host.hasCallSignatures node with
      | true => rfl
      | false =>
          simp only [Bool.false_eq_true, if_false, run_examineText, Log.noting_noting,
            List.singleton_append]

variable [DecidableEq Node]

/-- The log after the verdict of a node is recorded. -/
def Log.settling (log : Log Node) (node : Node) (verdict : Verdict) : Log Node :=
  { log with known := fun other => if other = node then some verdict else log.known other }

/-- What a log knows after a verdict is recorded is that verdict or was known before. -/
theorem Log.known_of_settling {log : Log Node} {node other : Node} {verdict found : Verdict}
    (known : (log.settling node verdict).known other = some found) :
    other = node ∧ verdict = found ∨ other ≠ node ∧ log.known other = some found := by
  by_cases same : other = node
  · simp only [settling, if_pos same, Option.some.injEq] at known
    exact .inl ⟨same, known⟩
  · simp only [settling, if_neg same] at known
    exact .inr ⟨same, known⟩

theorem run_settle (node : Node) (verdict : Verdict) (log : Log Node) :
    (settle node verdict).run log = ((), log.settling node verdict) := rfl

/-- A node with a verdict in the log is not examined again. -/
theorem run_judge_of_known {host : Host Node} {settings : Settings} {depth : Nat} {node : Node}
    {log : Log Node} {verdict : Verdict} (known : log.known node = some verdict) :
    (judge host settings (depth + 1) node).run log = (verdict, log) := by
  rw [judge, Run.run_bind_of (Run.run_get log), known]
  rfl

/-- The log in which the constituents of a node are visited first. -/
def opening (host : Host Node) (settings : Settings) (node : Node) (log : Log Node) : Log Node :=
  (log.settling node .always).noting (host.interview settings node)

/-- A node without a verdict in the log is examined, and the log has its verdict then. -/
theorem run_judge_of_fresh {host : Host Node} {settings : Settings} {depth : Nat} {node : Node}
    {log : Log Node} (fresh : log.known node = none) :
    (judge host settings (depth + 1) node).run log =
      let drawn := ((host.ruling settings node).draw (judge host settings depth)).run
        (host.opening settings node log)
      (drawn.1, drawn.2.settling node drawn.1) := by
  rw [judge, Run.run_bind_of (Run.run_get log), fresh]
  simp only
  rw [Run.run_bind_of (run_settle ..), Run.run_bind_of (run_examine ..)]
  rfl

/-! ## Merges -/

omit [DecidableEq Node]

/-- A visit of any of the parts keeps an invariant of the log, and gives a verdict that is right for
the part. -/
structure Upholds (visit : Node → Run Node Verdict) (invariant : Log Node → Prop)
    (right : Node → Verdict → Prop) (parts : List Node) : Prop where
  keeps : ∀ part ∈ parts, ∀ log, invariant log → invariant ((visit part).run log).2
  gives : ∀ part ∈ parts, ∀ log, invariant log → right part ((visit part).run log).1

namespace Upholds

variable {visit : Node → Run Node Verdict} {invariant : Log Node → Prop}
  {right : Node → Verdict → Prop} {part : Node} {parts : List Node} {log : Log Node}

theorem tail (upholds : Upholds visit invariant right (part :: parts)) :
    Upholds visit invariant right parts where
  keeps other member := upholds.keeps other (List.mem_cons_of_mem part member)
  gives other member := upholds.gives other (List.mem_cons_of_mem part member)

/-- Right verdicts for parts that are not drawn are the ones that visits would give. -/
theorem exists_right (upholds : Upholds visit invariant right parts) (holds : invariant log) :
    ∃ verdicts, List.Forall₂ right parts verdicts := by
  refine ⟨parts.map fun part => ((visit part).run log).1, ?_⟩
  rw [List.forall₂_map_right_iff]
  exact List.forall₂_same.mpr fun part member => upholds.gives part member log holds

theorem drawAll (upholds : Upholds visit invariant right parts) (holds : invariant log) :
    invariant ((Verdict.drawAll visit parts).run log).2 ∧
      List.Forall₂ right parts ((Verdict.drawAll visit parts).run log).1 := by
  induction parts generalizing log with
  | nil => exact ⟨holds, .nil⟩
  | cons part rest ih =>
      have kept := upholds.keeps part List.mem_cons_self log holds
      obtain ⟨keptRest, rightRest⟩ := ih upholds.tail kept
      exact ⟨keptRest, .cons (upholds.gives part List.mem_cons_self log holds) rightRest⟩

/-- The parts after the first useful one are not drawn, but their verdicts do not matter then. -/
theorem drawIntersection (upholds : Upholds visit invariant right parts)
    (holds : invariant log) :
    invariant ((Verdict.drawIntersection visit parts).run log).2 ∧
      ∃ verdicts, List.Forall₂ right parts verdicts ∧
        ((Verdict.drawIntersection visit parts).run log).1 =
          Verdict.mergeIntersection verdicts := by
  induction parts generalizing log with
  | nil => exact ⟨holds, [], .nil, rfl⟩
  | cons part rest ih =>
      have kept := upholds.keeps part List.mem_cons_self log holds
      have first := upholds.gives part List.mem_cons_self log holds
      rw [Verdict.drawIntersection, Run.run_bind]
      by_cases useful : ((visit part).run log).1 = .always
      · obtain ⟨others, rightOthers⟩ := upholds.tail.exists_right holds
        rw [if_pos useful, Run.run_pure]
        refine ⟨kept, .always :: others, .cons (useful ▸ first) rightOthers, ?_⟩
        simp [Verdict.mergeIntersection]
      · obtain ⟨keptRest, verdicts, rightRest, merged⟩ := ih upholds.tail kept
        rw [if_neg useful]
        refine ⟨keptRest, _ :: verdicts, .cons first rightRest, merged.trans ?_⟩
        simp [Verdict.mergeIntersection, Ne.symm useful]

theorem drawMerge (upholds : Upholds visit invariant right parts) (composition : Composition)
    (holds : invariant log) :
    invariant ((composition.drawMerge visit parts).run log).2 ∧
      ∃ verdicts, List.Forall₂ right parts verdicts ∧
        ((composition.drawMerge visit parts).run log).1 = composition.merge verdicts := by
  cases composition with
  | union =>
      obtain ⟨kept, rightAll⟩ := upholds.drawAll holds
      exact ⟨kept, _, rightAll, rfl⟩
  | intersection => exact upholds.drawIntersection holds

end Upholds

/-- When every part is drawn as its label says, up to a relation that merges respect, the node is
drawn as the outcome of its ruling says. -/
theorem run_draw {visit : Node → Run Node Verdict} {invariant : Log Node → Prop}
    {agrees : Verdict → Verdict → Prop} {label : Node → Verdict} {ruling : Ruling Node}
    {log : Log Node} (refl : ∀ verdict, agrees verdict verdict)
    (respects : ∀ (composition : Composition) lower upper, List.Forall₂ agrees lower upper →
      agrees (composition.merge lower) (composition.merge upper))
    (upholds : ∀ composition parts, ruling = .merged composition parts →
      Upholds visit invariant (fun part verdict => agrees (label part) verdict) parts)
    (holds : invariant log) :
    invariant ((ruling.draw visit).run log).2 ∧
      agrees (ruling.outcome label) ((ruling.draw visit).run log).1 := by
  cases ruling with
  | settled verdict => exact ⟨holds, refl verdict⟩
  | merged composition parts =>
      obtain ⟨kept, verdicts, agreed, merged⟩ :=
        (upholds composition parts rfl).drawMerge composition holds
      refine ⟨kept, ?_⟩
      rw [Ruling.draw, merged]
      exact respects composition _ _ (List.forall₂_map_left_iff.mpr agreed)

end Host

end Stringify
