import Stringify.Proofs.Ty.Classify

/-!
# Verdicts under two settings

Settings may ignore more names than others do, or report callables where others do not. The rules
then say of a node what they say under the other settings, unless they decide at once. Going up
from the constituents, the verdicts under both settings stay related: to ignore more names hides
findings and makes none, and to report callables hides none.
-/

namespace Stringify

/-! ## Relations between verdicts -/

/-- What may become of a verdict when more names are ignored: it gets no worse, and a callable is
reported as before. -/
structure Verdict.Widened (verdict wider : Verdict) : Prop where
  function : verdict = .function ↔ wider = .function
  always : verdict = .always → wider = .always
  never : wider = .never → verdict = .never

/-- What may become of a verdict when callables are reported: no finding is hidden. -/
def Verdict.Tightened (verdict tighter : Verdict) : Prop :=
  tighter = .always → verdict = .always

theorem Verdict.Widened.of_le {verdict wider : Verdict} (below : verdict ≤ wider)
    (function : verdict = .function ↔ wider = .function) : verdict.Widened wider where
  function := function
  always := by
    rintro rfl
    exact always_le_iff.mp below
  never := by
    rintro rfl
    exact le_never_iff.mp below

theorem Verdict.Widened.le {verdict wider : Verdict} (widened : verdict.Widened wider) :
    verdict ≤ wider := by
  rcases widened with ⟨function, always, never⟩
  revert function always never
  cases verdict <;> cases wider <;> decide

/-- Both merges respect a relation between verdicts. -/
def Composition.Respects (relation : Verdict → Verdict → Prop) : Prop :=
  ∀ (composition : Composition) (lower upper : List Verdict), List.Forall₂ relation lower upper →
    relation (composition.merge lower) (composition.merge upper)

theorem Composition.respects_le : Composition.Respects (· ≤ ·) :=
  fun composition _ _ below => composition.merge_mono below

theorem Composition.respects_tightened : Composition.Respects Verdict.Tightened := by
  intro composition lower upper related useful
  cases composition with
  | union =>
      rcases Verdict.mergeUnion_eq_always_iff.mp useful with ⟨nonempty, all⟩
      apply Verdict.mergeUnion_eq_always_iff.mpr
      constructor
      · rintro rfl
        exact nonempty (List.forall₂_nil_left_iff.mp related)
      · intro verdict member
        rcases Verdict.exists_mem_above related member with ⟨other, given, kept⟩
        exact kept (all other given)
  | intersection =>
      have given := Verdict.mergeIntersection_eq_always_iff.mp useful
      rcases Verdict.exists_mem_below related given with ⟨verdict, member, kept⟩
      exact Verdict.mergeIntersection_eq_always_iff.mpr (kept rfl ▸ member)

/-! ## Rules under two settings -/

namespace Host

variable {Node : Type} {host : Host Node} {settings other : Settings} {node : Node}
variable {relation : Verdict → Verdict → Prop} {label labelled : Node → Verdict}

/-- Under other settings the rules say the same of each node, or decide on a verdict to which every
verdict is related. -/
def Follows (host : Host Node) (settings other : Settings) (relation : Verdict → Verdict → Prop) :
    Prop :=
  ∀ node, host.ruling other node = host.ruling settings node ∨
    ∃ decided, host.ruling other node = .settled decided ∧ ∀ verdict, relation verdict decided

/-- When the labels of the constituents are related those of the node are. -/
theorem Follows.step (follows : host.Follows settings other relation) (refl : ∀ v, relation v v)
    (respects : Composition.Respects relation)
    (consistent : host.Consistent settings Set.univ label)
    (consistentToo : host.Consistent other Set.univ labelled)
    (ih : ∀ part, host.IsPart part node → relation (label part) (labelled part)) :
    relation (label node) (labelled node) := by
  rw [consistent node trivial, consistentToo node trivial]
  rcases follows node with same | ⟨decided, settled, above⟩
  · rw [same]
    cases ruled : host.ruling settings node with
    | settled verdict => exact refl verdict
    | merged composition parts =>
        apply respects composition
        rw [List.forall₂_map_left_iff, List.forall₂_map_right_iff]
        exact List.forall₂_same.mpr fun part member => ih part (isPart_of_ruling ruled member)
  · rw [settled]
    exact above _

theorem textRuling_of_ignores (ignored : settings.ignores (host.name node) = true) :
    host.textRuling settings node = .settled .always := by
  simp [textRuling, ignored]

/-- The rules depend on the ignored names only through the name of the node. -/
theorem textRuling_congr
    (same : other.ignores (host.name node) = settings.ignores (host.name node)) :
    host.textRuling other node = host.textRuling settings node := by
  unfold textRuling
  rw [same]

/-- To ignore more names is to call some nodes useful that the rules look into otherwise. -/
theorem follows_of_ignored_subset (ignored : settings.ignored ⊆ other.ignored)
    (reject : settings.rejectFunctions = other.rejectFunctions) :
    host.Follows settings other (· ≤ ·) := by
  intro node
  unfold ruling
  rw [reject]
  split
  · exact .inl rfl
  · cases now : other.ignores (host.name node) with
    | true => exact .inr ⟨.always, textRuling_of_ignores now, Verdict.le_always⟩
    | false =>
        refine .inl (textRuling_congr ?_)
        rw [now]
        cases before : settings.ignores (host.name node) with
        | false => rfl
        | true =>
            have listed := ignored (List.contains_iff_mem.mp before)
            rw [← now]
            exact List.contains_iff_mem.mpr listed

/-- To report callables is to decide on some nodes that the rules look into otherwise. -/
theorem follows_of_rejectFunctions (ignored : settings.ignored = other.ignored)
    (accepted : settings.rejectFunctions = false) :
    host.Follows settings other Verdict.Tightened := by
  intro node
  have same : host.textRuling other node = host.textRuling settings node := by
    apply textRuling_congr
    rw [Settings.ignores, Settings.ignores, ignored]
  unfold ruling
  rw [same, accepted]
  split
  · refine .inr ⟨.function, rfl, fun verdict useful => ?_⟩
    cases useful
  · exact .inl rfl

/-- Callables are reported by the first rule, or not at all. -/
theorem label_eq_function_iff (consistent : host.Consistent settings Set.univ label) :
    label node = .function ↔
      settings.rejectFunctions = true ∧ host.hasCallSignatures node = true := by
  rw [consistent node trivial, Ruling.outcome_eq_function_iff]
  unfold ruling
  split
  · next rejected => simpa using rejected
  · next accepted =>
      rw [Bool.and_eq_true] at accepted
      simp only [accepted, iff_false]
      unfold textRuling
      split_ifs
      · simp
      · simp
      · simp
      · simp
      · split <;> simp

end Host

/-! ## Verdicts under two settings -/

/-- The verdicts under two settings are related, of every node that reaches no cycle and of every
type. -/
structure Settings.Relates (settings other : Settings) (relation : Verdict → Verdict → Prop) :
    Prop where
  node : ∀ {Node : Type} [DecidableEq Node] (host : Host Node) (graph : host.Graph),
    ∀ node ∈ graph.nodes, host.Acyclic node → ∀ size ≥ graph.nodes.card,
      relation (host.classify settings size node) (host.classify other size node)
  type : ∀ type : Ty, relation (type.classify settings) (type.classify other)

namespace Settings.Relates

variable {settings other : Settings} {relation stronger : Verdict → Verdict → Prop}

/-- When the rules follow each other under two settings, the verdicts are related. -/
theorem of_labels
    (related : ∀ {Node : Type} (host : Host Node) (label labelled : Node → Verdict),
      host.Consistent settings Set.univ label → host.Consistent other Set.univ labelled →
      ∀ node, (∀ part, host.IsPart part node → relation (label part) (labelled part)) →
        relation (label node) (labelled node)) :
    settings.Relates other relation where
  node := by
    intro Node _ host graph node member acyclic size large
    rcases host.exists_consistent settings with ⟨label, consistent⟩
    rcases host.exists_consistent other with ⟨labelled, consistentToo⟩
    have inside : ∀ reached, host.Reaches node reached → reached ∈ graph.nodes :=
      fun reached path => graph.mem_of_reaches member path
    rw [(Host.judge_of_acyclic consistent acyclic inside large).classify,
      (Host.judge_of_acyclic consistentToo acyclic inside large).classify]
    refine Host.Acyclic.induction (motive := fun _ node => relation (label node) (labelled node))
      ?_ acyclic inside large
    intro _ node _ ih
    exact related host label labelled consistent consistentToo node ih
  type := by
    intro type
    have consistent := Ty.classify_consistent settings
    have consistentToo := Ty.classify_consistent other
    induction deep : type.depth using Nat.strong_induction_on generalizing type with
    | _ depth ih =>
        subst deep
        refine related Ty.host _ _ consistent consistentToo type fun part isPart => ?_
        exact ih part.depth (Ty.depth_lt_of_isPart isPart) part rfl

theorem of_follows
    (follows : ∀ {Node : Type} (host : Host Node), host.Follows settings other relation)
    (refl : ∀ verdict, relation verdict verdict) (respects : Composition.Respects relation) :
    settings.Relates other relation :=
  of_labels fun host _ _ consistent consistentToo _ ih =>
    (follows host).step refl respects consistent consistentToo ih

end Settings.Relates

/-- To ignore more names makes no verdict worse and leaves the reported callables as they are. To
report callables as well hides no finding. -/
theorem relates_of_widening (settings other : Settings) :
    (settings.rejectFunctions = other.rejectFunctions → settings.ignored ⊆ other.ignored →
      settings.Relates other Verdict.Widened) ∧
    (settings.ignored = other.ignored → settings.rejectFunctions = false →
      other.rejectFunctions = true → settings.Relates other Verdict.Tightened) := by
  constructor
  · intro reject ignored
    refine .of_labels fun host label labelled consistent consistentToo node ih => ?_
    apply Verdict.Widened.of_le
    · exact (Host.follows_of_ignored_subset ignored reject).step le_refl Composition.respects_le
        consistent consistentToo fun part isPart => (ih part isPart).le
    · rw [Host.label_eq_function_iff consistent, Host.label_eq_function_iff consistentToo, reject]
  · intro ignored accepted _
    refine .of_follows (fun _ => Host.follows_of_rejectFunctions ignored accepted) ?_
      Composition.respects_tightened
    exact fun _ useful => useful

/-- Values that cannot be told from one another by their text, of which the first can be called. -/
def handlerOrShape : Ty :=
  .composite .union [.ofInstance "Handler" (some "object") 1, .ofInstance "Shape" (some "object") 0]

/-- A useless union is useful at times both when the name of a part is ignored and when the other
part is reported as a callable. -/
theorem relates_of_widening_handlerOrShape :
    (handlerOrShape.classify .default = .never ∧
      handlerOrShape.classify (Settings.default.ignoring [.ofString "Shape"]) = .sometimes ∧
      handlerOrShape.classify (Settings.default.rejecting true) = .sometimes) ∧
    Settings.default.Relates (Settings.default.ignoring [.ofString "Shape"]) Verdict.Widened ∧
    Settings.default.Relates (Settings.default.rejecting true) Verdict.Tightened := by
  refine ⟨⟨by decide, by decide, by decide⟩, ?_, ?_⟩
  · exact (relates_of_widening .default (Settings.default.ignoring [.ofString "Shape"])).1
      rfl (by decide)
  · exact (relates_of_widening .default (Settings.default.rejecting true)).2 rfl rfl rfl

end Stringify
