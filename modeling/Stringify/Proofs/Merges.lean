import Stringify.Proofs.Outcome
import Stringify.Proofs.Verdict

/-!
# Merges of merges

Verdicts are merged in one go or group by group, and in any order. A feed of verdicts is drawn from
item by item, and an item may fail. The merge of an intersection draws up to the first useful
verdict, which settles it whatever comes later; the merge of a union draws every item.
-/

namespace Stringify

universe u

/-! ## Groups -/

namespace Verdict

variable {verdicts first second : List Verdict}

/-- A union is useless when every constituent is. -/
theorem mergeUnion_eq_never_iff :
    mergeUnion verdicts = .never ↔ ∀ verdict ∈ verdicts, verdict = .never := by
  unfold mergeUnion
  split
  · next some =>
      obtain ⟨verdict, member, useful⟩ := List.any_eq_true.mp some
      have unlike : ¬∀ verdict ∈ verdicts, verdict = .never :=
        fun useless => bne_iff_ne.mp useful (useless verdict member)
      split <;> simpa using unlike
  · next none => simpa using none

end Verdict

namespace Composition

/-- Two merges agree when they are useful together and useless together. -/
theorem merge_ext (composition : Composition) {left right : List Verdict}
    (useful : composition.merge left = .always ↔ composition.merge right = .always)
    (useless : composition.merge left = .never ↔ composition.merge right = .never) :
    composition.merge left = composition.merge right := by
  have ofLeft := composition.merge_ne_function left
  have ofRight := composition.merge_ne_function right
  cases first : composition.merge left <;> cases second : composition.merge right <;> simp_all

end Composition

namespace Verdict

variable {verdicts first second : List Verdict}

/-- Two groups of a union may be merged on their own. An empty group would count as useless. -/
theorem mergeUnion_append (some : first ≠ []) (others : second ≠ []) :
    mergeUnion (first ++ second) = mergeUnion [mergeUnion first, mergeUnion second] := by
  refine Composition.union.merge_ext ?_ ?_
  · simp only [Composition.merge, mergeUnion_eq_always_iff]
    simp [mergeUnion_eq_always_iff, some, others, or_imp, forall_and]
  · simp only [Composition.merge, mergeUnion_eq_never_iff]
    simp [mergeUnion_eq_never_iff, or_imp, forall_and]

/-- Two groups of an intersection may be merged on their own. -/
theorem mergeIntersection_append (first second : List Verdict) :
    mergeIntersection (first ++ second) =
      mergeIntersection [mergeIntersection first, mergeIntersection second] := by
  have useful : .always ∈ first ++ second ↔
      .always ∈ [mergeIntersection first, mergeIntersection second] := by
    simp [eq_comm (a := Verdict.always), mergeIntersection_eq_always_iff]
  exact if_congr useful rfl rfl

end Verdict

/-! ## Draws -/

namespace Verdict

variable {m : Type → Type u} [Monad m] [LawfulMonad m] {α : Type}

/-- The second group of an intersection is drawn from only if the first one is not useful. -/
theorem drawIntersection_append (draw : α → m Verdict) (first second : List α) :
    drawIntersection draw (first ++ second) = (do
      if (← drawIntersection draw first) = .always then pure .always
      else drawIntersection draw second) := by
  induction first with
  | nil => simp [drawIntersection]
  | cons source rest ih =>
      simp only [List.cons_append, drawIntersection, bind_assoc, ih]
      refine bind_congr fun verdict => ?_
      split <;> simp

/-- Nothing after an item that turns out useful is drawn, whatever drawing that one does. -/
theorem drawIntersection_append_useful {draw : α → m Verdict} {source : α} {effect : m Unit}
    (useful : draw source = (do effect; pure .always)) (first later : List α) :
    drawIntersection draw (first ++ source :: later) = (do
      if (← drawIntersection draw first) = .always then pure .always
      else draw source) := by
  simp [drawIntersection_append, drawIntersection, useful]

end Verdict

/-! ## Feeds -/

section Feeds

variable {ε : Type} {feed before after : List (Except ε Verdict)}

/-- Draw an item of a feed: it is counted, and then it is a verdict or it fails. -/
def drawItem (item : Except ε Verdict) : StateT Nat (Except ε) Verdict := do
  modify (· + 1)
  match item with
  | .ok verdict => pure verdict
  | .error problem => throw problem

theorem Composition.mergeFeed_eq (composition : Composition) (feed : List (Except ε Verdict)) :
    composition.mergeFeed feed = (composition.drawMerge drawItem feed).run 0 := rfl

theorem run_drawItem (item : Except ε Verdict) (count : Nat) :
    (drawItem item).run count = item.map (·, count + 1) := by
  cases item <;> rfl

/-- Every item of a union is drawn, up to one that fails. -/
theorem run_drawAll (feed : List (Except ε Verdict)) (count : Nat) :
    (Verdict.drawAll drawItem feed).run count = (feed.mapM id).map (·, count + feed.length) := by
  induction feed generalizing count with
  | nil => rfl
  | cons item rest ih =>
      cases item with
      | error problem => rfl
      | ok verdict =>
          simp only [Verdict.drawAll, StateT.run_bind, run_drawItem, List.mapM_cons, id]
          simp only [Except.map, bind, Except.bind, ih]
          cases rest.mapM id with
          | error problem => rfl
          | ok verdicts =>
              simp only [StateT.run_pure]
              simp [pure, Except.pure]
              omega

/-- Every item of an intersection is drawn, up to one that fails, if none is useful. -/
theorem run_drawIntersection (useless : .ok .always ∉ feed) (count : Nat) :
    (Verdict.drawIntersection drawItem feed).run count =
      (feed.mapM id).map fun _ => (.never, count + feed.length) := by
  induction feed generalizing count with
  | nil => rfl
  | cons item rest ih =>
      obtain ⟨other, later⟩ := not_or.mp (List.mem_cons.not.mp useless)
      cases item with
      | error problem => rfl
      | ok verdict =>
          have unlike : verdict ≠ .always := fun same => other (by rw [same])
          simp only [Verdict.drawIntersection, StateT.run_bind, run_drawItem, List.mapM_cons, id]
          simp only [Except.map, bind, Except.bind, unlike, if_false, ih later]
          cases rest.mapM id with
          | error problem => rfl
          | ok verdicts =>
              simp [pure, Except.pure]
              omega

theorem mergeFeed_union (feed : List (Except ε Verdict)) :
    Composition.union.mergeFeed feed =
      (feed.mapM id).map fun verdicts => (Verdict.mergeUnion verdicts, feed.length) := by
  rw [Composition.mergeFeed_eq, Composition.drawMerge, Verdict.drawUnion, StateT.run_bind,
    run_drawAll, Nat.zero_add]
  cases feed.mapM id with
  | error problem => rfl
  | ok verdicts => rfl

theorem mergeFeed_useless (useless : .ok .always ∉ feed) :
    Composition.intersection.mergeFeed feed =
      (feed.mapM id).map fun _ => (.never, feed.length) := by
  rw [Composition.mergeFeed_eq, Composition.drawMerge, run_drawIntersection useless, Nat.zero_add]

/-- The first useful verdict of an intersection settles it, also if something later would fail. -/
theorem mergeFeed_useful (first : .ok .always ∉ before) (after : List (Except ε Verdict)) :
    Composition.intersection.mergeFeed (before ++ .ok .always :: after) =
      (before.mapM id).map fun _ => (.always, before.length + 1) := by
  have useful : drawItem (Except.ok (ε := ε) .always) = (do modify (· + 1); pure .always) := rfl
  rw [Composition.mergeFeed_eq, Composition.drawMerge,
    Verdict.drawIntersection_append_useful useful, StateT.run_bind, run_drawIntersection first]
  cases before.mapM id with
  | error problem => rfl
  | ok verdicts => simp [Except.map, bind, Except.bind, run_drawItem]

theorem mapM_id_map_ok (verdicts : List Verdict) :
    (verdicts.map (Except.ok (ε := ε))).mapM id = .ok verdicts := by
  rw [List.mapM_map]
  exact List.mapM_pure.trans (congrArg Except.ok (List.map_id verdicts))

/-- Drawn from verdicts that are at hand, a merge is that of their list. -/
theorem mergeFeed_map_ok (composition : Composition) (verdicts : List Verdict) :
    (composition.mergeFeed (verdicts.map (Except.ok (ε := ε)))).map Prod.fst =
      .ok (composition.merge verdicts) := by
  cases composition with
  | union =>
      rw [mergeFeed_union, mapM_id_map_ok]
      rfl
  | intersection =>
      by_cases useful : .always ∈ verdicts
      · obtain ⟨before, after, rfl, first⟩ := List.eq_append_cons_of_mem useful
        rw [List.map_append, List.map_cons, mergeFeed_useful (by simpa using first),
          mapM_id_map_ok, Composition.merge, Verdict.mergeIntersection, if_pos useful]
        rfl
      · rw [mergeFeed_useless (by simpa using useful), mapM_id_map_ok, Composition.merge,
          Verdict.mergeIntersection, if_neg useful]
        rfl

/-- Both merges may be done group by group and depend on which verdicts there are only. An
intersection draws the items up to its first useful verdict, all of them if there is none, and a
union draws all of its items. -/
theorem merges_regroup_and_draw {ε : Type} :
    (∀ first second : List Verdict, first ≠ [] → second ≠ [] →
      Verdict.mergeUnion (first ++ second) =
        Verdict.mergeUnion [Verdict.mergeUnion first, Verdict.mergeUnion second]) ∧
    (∀ first second : List Verdict, Verdict.mergeIntersection (first ++ second) =
      Verdict.mergeIntersection
        [Verdict.mergeIntersection first, Verdict.mergeIntersection second]) ∧
    (∀ (composition : Composition) (left right : List Verdict),
      (∀ verdict, verdict ∈ left ↔ verdict ∈ right) →
        composition.merge left = composition.merge right) ∧
    (∀ (composition : Composition) (verdicts : List Verdict),
      (composition.mergeFeed (verdicts.map (Except.ok (ε := ε)))).map Prod.fst =
        .ok (composition.merge verdicts)) ∧
    (∀ before after : List (Except ε Verdict), .ok .always ∉ before →
      Composition.intersection.mergeFeed (before ++ .ok .always :: after) =
        (before.mapM id).map fun _ => (.always, before.length + 1)) ∧
    (∀ feed : List (Except ε Verdict), .ok .always ∉ feed →
      Composition.intersection.mergeFeed feed =
        (feed.mapM id).map fun _ => (.never, feed.length)) ∧
    ∀ feed : List (Except ε Verdict), Composition.union.mergeFeed feed =
      (feed.mapM id).map fun verdicts => (Verdict.mergeUnion verdicts, feed.length) :=
  ⟨fun _ _ some others => Verdict.mergeUnion_append some others,
    Verdict.mergeIntersection_append,
    fun composition _ _ same => composition.merge_congr same,
    mergeFeed_map_ok,
    fun _ after first => mergeFeed_useful first after,
    fun _ useless => mergeFeed_useless useless,
    mergeFeed_union⟩

/-- A callable beside a useful and a useless verdict, in two groups and in another order; feeds with
a failing item, with and without a useful verdict before it. -/
theorem merges_regroup_and_draw_mixed :
    Verdict.mergeUnion ([.always, .never] ++ [.function]) =
      Verdict.mergeUnion [Verdict.mergeUnion [.always, .never], Verdict.mergeUnion [.function]] ∧
    Composition.intersection.merge [.never, .function, .never] =
      Composition.intersection.merge [.function, .never] ∧
    Composition.intersection.mergeFeed [.ok .never, .ok .always, .error "late"] =
      .ok (.always, 2) ∧
    Composition.intersection.mergeFeed [.ok .never, .error "early", .ok .always] =
      .error "early" ∧
    Composition.intersection.mergeFeed [.ok (ε := String) .never, .ok .sometimes] =
      .ok (.never, 2) := by
  obtain ⟨grouped, -, listed, -, useful, useless, -⟩ := @merges_regroup_and_draw String
  refine ⟨grouped _ _ (by simp) (by simp), listed _ _ _ (by simp), ?_, ?_, ?_⟩
  · exact useful [.ok .never] [.error "late"] (by simp)
  · exact useful [.ok .never, .error "early"] [] (by simp)
  · exact useless [.ok .never, .ok .sometimes] (by simp)

end Feeds

end Stringify
