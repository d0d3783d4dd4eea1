/-!
# Verdicts

A verdict says what converting a value to text gives: meaningful text, the default placeholder, one
or the other depending on the branch of a union taken, or the placeholder of a callable. The
verdicts of the constituents of a union or an intersection merge into one, and both merges look only
at who is certainly useful and who is certainly useless.

Merges draw their constituents from a monadic source, so that laziness is part of their meaning: the
merge of an intersection draws nothing after the first useful constituent.
-/

namespace Stringify

universe u

/-- What converting a value to text gives. -/
inductive Verdict where
  /-- The text is useful. -/
  | always
  /-- The text is the default placeholder. -/
  | never
  /-- The text is useful on some branches of a union only. -/
  | sometimes
  /-- The value is a callable that should not be converted. -/
  | function
  deriving DecidableEq, Repr

/-- The two ways to compose a type from constituents. -/
inductive Composition where
  | union
  | intersection
  deriving DecidableEq, Repr

namespace Verdict

/-- The name of the verdict. -/
def label : Verdict → String
  | .always => "always"
  | .never => "never"
  | .sometimes => "sometimes"
  | .function => "function"

/-- Everything but useful text is a finding. -/
def isFinding (verdict : Verdict) : Bool :=
  verdict != .always

/-- An intersection is useful as soon as one constituent is, and useless otherwise. -/
def mergeIntersection (verdicts : List Verdict) : Verdict :=
  if .always ∈ verdicts then .always else .never

/-- A union is useful when every constituent is, useless when every one is, and useful at times
otherwise. The empty union is useless. -/
def mergeUnion (verdicts : List Verdict) : Verdict :=
  if verdicts.any (· != .never) then
    if verdicts.all (· == .always) then .always else .sometimes
  else .never

variable {m : Type → Type u} [Monad m] {α : Type}

/-- The intersection merge of verdicts drawn one by one, up to the first useful one. -/
def drawIntersection (draw : α → m Verdict) : List α → m Verdict
  | [] => pure .never
  | source :: rest => do
    if (← draw source) = .always then pure .always else drawIntersection draw rest

/-- Draw every verdict in order. -/
def drawAll (draw : α → m Verdict) : List α → m (List Verdict)
  | [] => pure []
  | source :: rest => do
    let verdict ← draw source
    return verdict :: (← drawAll draw rest)

/-- The union merge of verdicts drawn one by one, all of them. -/
def drawUnion (draw : α → m Verdict) (sources : List α) : m Verdict := do
  return mergeUnion (← drawAll draw sources)

end Verdict

namespace Composition

/-- The merge of the constituents' verdicts. -/
def merge : Composition → List Verdict → Verdict
  | .union => Verdict.mergeUnion
  | .intersection => Verdict.mergeIntersection

/-- The merge of verdicts drawn one by one. -/
def drawMerge {m : Type → Type u} [Monad m] {α : Type} (draw : α → m Verdict) :
    Composition → List α → m Verdict
  | .union, sources => Verdict.drawUnion draw sources
  | .intersection, sources => Verdict.drawIntersection draw sources

/-- The merge of a feed whose items may fail, together with the number of items drawn. -/
def mergeFeed {ε : Type} (composition : Composition) (feed : List (Except ε Verdict)) :
    Except ε (Verdict × Nat) :=
  let draw (item : Except ε Verdict) : StateT Nat (Except ε) Verdict := do
    modify (· + 1)
    match item with
    | .ok verdict => pure verdict
    | .error problem => throw problem
  (composition.drawMerge draw feed).run 0

end Composition

namespace Verdict

@[simp] theorem drawAll_pure {α : Type} (verdict : α → Verdict) (sources : List α) :
    drawAll (m := Id) (fun source => pure (verdict source)) sources =
      pure (sources.map verdict) := by
  induction sources with
  | nil => rfl
  | cons source rest ih => simp [drawAll, ih]

/-- Drawn from verdicts that are at hand, the union merge is the merge of the list. -/
theorem drawUnion_pure (verdicts : List Verdict) :
    drawUnion (m := Id) pure verdicts = pure (mergeUnion verdicts) := by
  have drawn : drawAll (m := Id) pure verdicts = pure verdicts := by
    simpa using drawAll_pure id verdicts
  simp [drawUnion, drawn]

/-- Drawn from verdicts that are at hand, the intersection merge is the merge of the list. -/
theorem drawIntersection_pure (verdicts : List Verdict) :
    drawIntersection (m := Id) pure verdicts = pure (mergeIntersection verdicts) := by
  induction verdicts with
  | nil => rfl
  | cons verdict rest ih =>
    by_cases useful : verdict = .always
    · simp [drawIntersection, mergeIntersection, useful]
    · have other : ¬Verdict.always = verdict := fun equal => useful equal.symm
      simp [drawIntersection, mergeIntersection, useful, ih, other]

end Verdict

end Stringify
