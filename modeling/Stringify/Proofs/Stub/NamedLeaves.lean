import Stringify.Proofs.Source.WrittenStatements
import Stringify.Proofs.Stub.Annotations
import Stringify.Proofs.Stub.References
import Stringify.Proofs.Ty.Names

/-!
# Where leaves get their names

Each leaf in a type of a stub is what a bare name stands for, or what a subscript builds under its
printed form, or the type of a literal. So its name says what it is, but for literals that are named
like something else.
-/

namespace Stringify

/-- Whether a leaf is the type of one literal. -/
def Leaf.isLiteral : Leaf → Bool
  | .scalar type => type.isLiteral
  | .object _ => false

namespace Stub

open Source (Expr IsClosed IsLegible IsWord Stmt compositionStops)

variable {classes : ClassTable} {shape other : Leaf} {display name : String} {form : Form}
variable {scope : Scope} {reference : Nat → Text → Work Ty} {hint value index argument : Expr}
variable {type : Ty} {types : List Ty} {arguments : List Expr} {line : Nat}

/-! ## What subscripts build -/

namespace ClassTable

/-- What a subscript builds under a name of its own, whatever its arguments are. -/
inductive Builds (classes : ClassTable) : Form → String → Leaf → Prop where
  | callable {display : String} :
      Builds classes .callable display (.object ⟨display, [some Ty.functionContext], 1⟩)
  | instanceOf {className display context : String} {count : Int}
      (answer : classes.stringifierContext className = .ok context)
      (counted : classes.callSignatures className = .ok count) :
      Builds classes (.instanceOf className) display (.object ⟨display, [some context], count⟩)
  | container {name display : String} :
      Builds classes (.container name) display (.object ⟨display, [some name], 0⟩)

theorem Builds.name_eq (builds : classes.Builds form display shape) : shape.name = display := by
  cases builds <;> rfl

theorem Builds.isLiteral_eq (builds : classes.Builds form display shape) :
    shape.isLiteral = false := by
  cases builds <;> rfl

theorem Builds.unique (builds : classes.Builds form display shape)
    (again : classes.Builds form display other) : shape = other := by
  cases builds with
  | instanceOf answer counted =>
      cases again with
      | instanceOf answerToo countedToo =>
          rw [answer] at answerToo
          rw [counted] at countedToo
          cases answerToo
          cases countedToo
          rfl
  | _ => cases again; rfl

end ClassTable

theorem Scope.exists_of_instanceOf {className : String}
    (built : scope.instanceOf className display = .ok type) : ∃ context count,
      scope.classes.stringifierContext className = .ok context ∧
      scope.classes.callSignatures className = .ok count ∧
      type = .ofInstance display (some context) count := by
  simp only [Scope.instanceOf, bind_eq_ok_iff, pure_eq_ok_iff, Work.ofFault,
    mapError_eq_ok_iff] at built
  obtain ⟨context, answer, count, counted, rfl⟩ := built
  exact ⟨context, count, answer, counted, rfl⟩

/-- A bare name that is no alias stands for a leaf of that name. -/
theorem Scope.exists_leaf_of_named
    (named : Scope.named ⟨classes, []⟩ line name = .ok type) : ∃ shape, type = .leaf shape ∧
      shape.name = name ∧ shape.isLiteral = false := by
  unfold Scope.named at named
  dsimp only [Entries.get?_nil] at named
  split at named
  · cases named
    exact ⟨_, rfl, rfl, rfl⟩
  · split at named
    · next isNone =>
        cases named
        exact ⟨_, rfl, isNone.symm, rfl⟩
    · split at named
      · next isAny =>
          cases named
          exact ⟨_, rfl, isAny.symm, rfl⟩
      · split at named
        · obtain ⟨context, count, -, -, rfl⟩ := exists_of_instanceOf named
          exact ⟨_, rfl, rfl, rfl⟩
        · split at named
          · cases named
            exact ⟨_, rfl, rfl, rfl⟩
          · split at named
            · cases named
              exact ⟨_, rfl, rfl, rfl⟩
            · cases named

/-- A bare name is resolved to the same on all lines. -/
theorem Scope.named_unique {otherLine : Nat} {otherType : Ty}
    (named : scope.named line name = .ok type)
    (again : scope.named otherLine name = .ok otherType) : type = otherType := by
  unfold Scope.named at named again
  split at named
  · next found =>
      simp only [found] at again
      exact Except.ok.inj (named.symm.trans again)
  · next absent =>
      simp only [absent] at again
      split_ifs at named again <;> first
        | exact Except.ok.inj (named.symm.trans again)
        | cases named

/-- All literals are useful, and cannot be called. -/
theorem outline_of_literal {literal : Literal} (typed : literal.type? = some (.leaf shape))
    (settings : Settings) : Ty.outline settings (.leaf shape) = ⟨false, false, false, .always⟩ := by
  obtain ⟨display, -, same⟩ := Option.map_eq_some_iff.mp typed
  cases same
  have unrooted : (Ty.ofLiteral display literal.kind).isRooted = false := by
    cases literal <;> rfl
  have useful : (Ty.ofLiteral display literal.kind).classify settings = .always := by
    rw [Ty.ofLiteral] at unrooted ⊢
    rw [Ty.classify_leaf, unrooted]
    simp [Leaf.hasCallSignatures]
  rw [Ty.ofLiteral] at unrooted useful
  rw [Ty.outline, unrooted, useful]
  rfl

theorem isLiteral_of_type? {value : Literal} (typed : value.type? = some (.leaf shape)) :
    shape.isLiteral = true := by
  obtain ⟨_, -, same⟩ := Option.map_eq_some_iff.mp typed
  cases same
  rfl

theorem ClassTable.Builds.exists_root {root : Option String}
    (builds : classes.Builds (scope.form root) display shape) : ∃ name, root = some name := by
  cases root with
  | none => cases builds
  | some name => exact ⟨name, rfl⟩

theorem isWritten_of_mem_argumentsOf (written : index.IsWritten)
    (member : argument ∈ argumentsOf index) : argument.IsWritten := by
  revert member
  fun_cases argumentsOf index with
  | case1 line items =>
      intro member
      cases written with
      | tuple each => exact each argument member
  | case2 =>
      intro member
      obtain rfl := List.mem_singleton.mp member
      exact written

theorem isWritten_of_pendingOf? {stmt : Stmt} {pending : Pending} (written : stmt.IsWritten)
    (kept : pendingOf? stmt = some pending) : pending.hint.IsWritten := by
  revert kept
  fun_cases pendingOf? stmt with
  | case1 span line name hint value marked =>
      intro kept
      obtain ⟨inner, given, rfl⟩ := Option.map_eq_some_iff.mp kept
      exact written.2.2 inner given
  | case2 span line name hint value unmarked =>
      intro kept
      cases kept
      exact written.2.1
  | case3 => simp

/-! ## Names of leaves -/

variable [Release]

namespace ClassTable

/-- A leaf is named by a bare name, by a printed subscript, or by a literal. -/
inductive Names (classes : ClassTable) : Leaf → Prop where
  | bare {line : Nat} {name : String} {shape : Leaf} (word : IsWord name)
      (named : Scope.named ⟨classes, []⟩ line name = .ok (.leaf shape)) : Names classes shape
  | generic {line : Nat} {value index : Expr} {display : String} {shape : Leaf}
      (written : (Expr.subscript line value index).IsWritten)
      (printed : Work.print (.subscript line value index) = .ok display)
      (builds : classes.Builds (Scope.form ⟨classes, []⟩ value.rootName?) display shape) :
      Names classes shape
  | literal {literal : Literal} {shape : Leaf} (typed : literal.type? = some (.leaf shape)) :
      Names classes shape

namespace Names

/-- The names of leaves are closed. -/
theorem isClosed (names : classes.Names shape) : IsClosed compositionStops shape.name := by
  cases names with
  | bare word named =>
      obtain ⟨_, same, rfl, -⟩ := Scope.exists_leaf_of_named named
      cases same
      exact word.continues.isClosed
  | generic written printed builds =>
      rw [builds.name_eq]
      rw [Work.print, mapError_eq_ok_iff, Expr.print, Source.printAt_subscript] at printed
      refine written.printsClosed.tight rfl _ ?_
      rwa [Source.printAt_subscript]
  | literal typed =>
      obtain ⟨display, shown, same⟩ := Option.map_eq_some_iff.mp typed
      cases same
      exact Literal.isClosed_display? shown

theorem exists_literal (names : classes.Names shape) (isLiteral : shape.isLiteral = true) :
    ∃ value : Literal, value.type? = some (.leaf shape) := by
  cases names with
  | bare word named =>
      obtain ⟨_, same, -, notLiteral⟩ := Scope.exists_leaf_of_named named
      cases same
      simp [isLiteral] at notLiteral
  | generic written printed builds => simp [builds.isLiteral_eq] at isLiteral
  | literal typed => exact ⟨_, typed⟩

end Names

end ClassTable

/-- A word is not how a subscript is printed. -/
theorem ne_of_isWord (word : IsWord name) (written : (Expr.subscript line value index).IsWritten)
    (printed : Work.print (.subscript line value index) = .ok display)
    (legible : IsLegible display) : name ≠ display := by
  rintro rfl
  rw [Work.print, mapError_eq_ok_iff] at printed
  cases written with
  | subscript ofValue compact ofIndex =>
      obtain ⟨front, inner, -, chars, -⟩ := Source.exists_print_subscript ofValue.printsClosed
        compact ofIndex.printsClosed printed legible
      exact Source.append_word_ne_append_bracket word [] _ chars

/-- Subscripts that are printed alike have the same root. -/
theorem rootName?_eq_of_subscript {otherLine : Nat} {otherValue otherIndex : Expr}
    {root otherRoot : String} (written : (Expr.subscript line value index).IsWritten)
    (writtenToo : (Expr.subscript otherLine otherValue otherIndex).IsWritten)
    (printed : Work.print (.subscript line value index) = .ok display)
    (printedToo : Work.print (.subscript otherLine otherValue otherIndex) = .ok display)
    (legible : IsLegible display) (rooted : value.rootName? = some root)
    (rootedToo : otherValue.rootName? = some otherRoot) : root = otherRoot := by
  rw [Work.print, mapError_eq_ok_iff, Expr.print, Source.printAt_subscript] at printed printedToo
  exact Source.rootName?_eq_of_print written writtenToo
    (by rwa [Source.printAt_subscript]) (by rwa [Source.printAt_subscript]) legible
    (by rwa [Expr.rootName?]) (by rwa [Expr.rootName?])

namespace ClassTable.Names

/-- Leaves that are no literals are what their names say. -/
theorem eq_of_name_eq (names : classes.Names shape) (namesToo : classes.Names other)
    (same : shape.name = other.name) (legible : IsLegible shape.name)
    (notLiteral : shape.isLiteral = false) (notLiteralToo : other.isLiteral = false) :
    shape = other := by
  cases names with
  | literal typed => simp [isLiteral_of_type? typed] at notLiteral
  | bare word named =>
      obtain ⟨_, leaf, rfl, -⟩ := Scope.exists_leaf_of_named named
      cases leaf
      cases namesToo with
      | literal typed => simp [isLiteral_of_type? typed] at notLiteralToo
      | bare wordToo namedToo =>
          obtain ⟨_, leaf, rfl, -⟩ := Scope.exists_leaf_of_named namedToo
          cases leaf
          rw [same] at named
          exact Ty.leaf.inj (Scope.named_unique named namedToo)
      | generic written printed builds =>
          rw [builds.name_eq] at same
          exact absurd same (ne_of_isWord word written printed (same ▸ legible))
  | generic written printed builds =>
      rw [builds.name_eq] at same legible
      cases namesToo with
      | literal typed => simp [isLiteral_of_type? typed] at notLiteralToo
      | bare wordToo namedToo =>
          obtain ⟨_, leaf, rfl, -⟩ := Scope.exists_leaf_of_named namedToo
          cases leaf
          exact absurd same.symm (ne_of_isWord wordToo written printed legible)
      | generic writtenToo printedToo buildsToo =>
          rw [buildsToo.name_eq] at same
          subst same
          obtain ⟨root, rooted⟩ := builds.exists_root
          obtain ⟨otherRoot, rootedToo⟩ := buildsToo.exists_root
          obtain rfl := rootName?_eq_of_subscript written writtenToo printed printedToo legible
            rooted rootedToo
          rw [rooted] at builds
          rw [rootedToo] at buildsToo
          exact builds.unique buildsToo

/-- Two leaves with the same name look alike, if both are literals or none is. -/
theorem looksLike (names : classes.Names shape) (namesToo : classes.Names other)
    (same : shape.name = other.name) (legible : IsLegible shape.name)
    (kinds : shape.isLiteral = other.isLiteral) : Ty.LooksLike (.leaf shape) (.leaf other) := by
  cases isLiteral : shape.isLiteral with
  | true =>
      obtain ⟨_, typed⟩ := names.exists_literal isLiteral
      obtain ⟨_, typedToo⟩ := namesToo.exists_literal (kinds ▸ isLiteral)
      exact ⟨same, fun settings => (outline_of_literal typed settings).trans
        (outline_of_literal typedToo settings).symm⟩
  | false =>
      obtain rfl := names.eq_of_name_eq namesToo same legible isLiteral (kinds ▸ isLiteral)
      exact ⟨rfl, fun _ => rfl⟩

end ClassTable.Names

/-! ## Leaves of what hints stand for -/

/-- All leaves of a type are named. -/
def ClassTable.NamesAll (classes : ClassTable) (type : Ty) : Prop :=
  ∀ shape ∈ type.leaves, classes.Names shape

/-- The aliases of a scope have named leaves. -/
def Scope.IsNamed (scope : Scope) : Prop :=
  ∀ name type, scope.aliases.get? name = some type → scope.classes.NamesAll type

namespace ClassTable

theorem Names.all (names : classes.Names shape) : classes.NamesAll (.leaf shape) := by
  intro inner member
  obtain rfl := List.mem_singleton.mp member
  exact names

theorem namesAll_nothing : classes.NamesAll .nothing := by
  have word : IsWord "None" := ⟨by simp, List.all_eq_true.mp (by rfl)⟩
  have named : Scope.named ⟨classes, []⟩ 1 "None" = .ok .nothing := rfl
  exact (Names.bare word named).all

theorem NamesAll.of_compose? {composition : Composition}
    (each : ∀ part ∈ types, classes.NamesAll part)
    (composed : Ty.compose? composition types = some type) : classes.NamesAll type := by
  intro shape inside
  obtain ⟨part, given, inside⟩ := Ty.exists_mem_leaves_of_compose? composed inside
  exact each part given shape inside

theorem namesAll_of_literalType (resolved : literalType argument = .ok type) :
    classes.NamesAll type := by
  unfold literalType at resolved
  split at resolved
  · simp [bind_eq_ok_iff] at resolved
  · cases resolved
  · cases resolved
    exact namesAll_nothing
  · simp [bind_eq_ok_iff] at resolved
  · split at resolved
    · next type typed =>
        cases resolved
        obtain ⟨_, _, rfl⟩ := Option.map_eq_some_iff.mp typed
        exact (Names.literal typed).all
    · cases resolved

end ClassTable

theorem Scope.namesAll_of_named (known : scope.IsNamed) (word : IsWord name)
    (named : scope.named line name = .ok type) : scope.classes.NamesAll type := by
  cases found : scope.aliases.get? name with
  | some stored =>
      rw [Scope.named, found] at named
      cases named
      exact known name _ found
  | none =>
      have bare : Scope.named ⟨scope.classes, []⟩ line name = .ok type := by
        rw [Scope.named, found] at named
        exact named
      obtain ⟨shape, rfl, -⟩ := Scope.exists_leaf_of_named bare
      exact (ClassTable.Names.bare word bare).all

/-- A subscript that ignores its arguments has named leaves. -/
theorem Scope.Ignores.namesAll (ignores : scope.Ignores line value index type)
    (written : (Expr.subscript line value index).IsWritten) : scope.classes.NamesAll type := by
  cases (Scope.ignores_iff.mp ignores).2 with
  | literals form typed composed =>
      refine .of_compose? (forall_of_mapM_eq_ok ?_ typed) composed
      exact fun _ _ _ => ClassTable.namesAll_of_literalType
  | instanceOf form printed built =>
      obtain ⟨context, count, answer, counted, rfl⟩ := Scope.exists_of_instanceOf built
      refine (ClassTable.Names.generic written printed ?_).all
      exact form ▸ .instanceOf answer counted
  | callable form printed =>
      exact (ClassTable.Names.generic written printed (form ▸ .callable)).all
  | container form printed =>
      exact (ClassTable.Names.generic written printed (form ▸ .container)).all

/-- The leaves of what a hint stands for are named, if those of texts and of aliases are. -/
theorem StandsFor.namesAll (known : scope.IsNamed)
    (texts : ∀ line text type, reference line text = .ok type → scope.classes.NamesAll type)
    (stands : StandsFor scope reference hint type) (written : hint.IsWritten) :
    scope.classes.NamesAll type := by
  induction stands with
  | nothing => exact ClassTable.namesAll_nothing
  | text read => exact texts _ _ _ read
  | name named =>
      cases written with
      | name word => exact Scope.namesAll_of_named known word named
  | field named =>
      cases written with
      | «attribute» _ _ word => exact Scope.namesAll_of_named known word named
  | either _ _ composed ihLeft ihRight =>
      cases written with
      | binary ofLeft ofRight =>
          exact .of_compose? (by simp [ihLeft ofLeft, ihRight ofRight]) composed
  | composed form lengths _ composed ih =>
      cases written with
      | subscript _ _ ofIndex =>
          refine .of_compose? (fun part member => ?_) composed
          obtain ⟨argument, paired⟩ := exists_zip_of_mem_right lengths member
          exact ih argument part paired
            (isWritten_of_mem_argumentsOf ofIndex (List.of_mem_zip paired).1)
  | optional form alone _ composed ih =>
      cases written with
      | subscript _ _ ofIndex =>
          have named := ih (isWritten_of_mem_argumentsOf ofIndex (by simp [alone]))
          exact .of_compose? (by simp [named, ClassTable.namesAll_nothing]) composed
  | annotated form first _ ih =>
      cases written with
      | subscript _ _ ofIndex =>
          exact ih (isWritten_of_mem_argumentsOf ofIndex (by simp [first]))
  | ignored ignores => exact ignores.namesAll written

/-- Every hint that is read in a text is well-written, so a well-written hint stands for a type of
named leaves. -/
theorem namesAll_of_resolveWithin {readings : Nat} (known : scope.IsNamed)
    (resolved : resolveWithin scope readings hint = .ok type) (written : hint.IsWritten) :
    scope.classes.NamesAll type := by
  refine resolveWithin_induction
    (motive := fun hint type => hint.IsWritten → scope.classes.NamesAll type)
    (fun reference texts hint type stands written => ?_) resolved written
  refine stands.namesAll known (fun line text type found => ?_) written
  obtain ⟨expression, read, named⟩ := texts line text type found
  obtain ⟨chars, -, read⟩ := exists_of_readReference read
  exact named (Source.isWritten_of_readExpression read)

/-! ## Leaves of the types of a stub -/

/-- In a module of well-written statements all leaves are named. -/
theorem Module.namesAll_of_ofStmts {file : Text} {stmts : List Stmt} {module : Module}
    (written : ∀ stmt ∈ stmts, stmt.IsWritten) (made : Module.ofStmts file stmts = .ok module) :
    ∀ name type, module.values.get? name = some type → module.classes.NamesAll type := by
  obtain ⟨aliases, every, rest⟩ := exists_aliases_of_ofStmts made
  have hints : ∀ pending ∈ stmts.filterMap pendingOf?, pending.hint.IsWritten := by
    intro pending member
    obtain ⟨stmt, inside, kept⟩ := List.mem_filterMap.mp member
    exact isWritten_of_pendingOf? (written stmt inside) kept
  have named : Scope.IsNamed ⟨module.classes, aliases⟩ := by
    refine forall_of_resolveAliases (fun pending member aliases type known found => ?_) (by simp)
      every
    have earlier : Scope.IsNamed ⟨module.classes, aliases⟩ := known
    have leaves := namesAll_of_resolveWithin earlier found (hints pending member)
    exact leaves
  refine forall_of_resolveValues (fun pending member type found => ?_) (by simp) rest
  exact namesAll_of_resolveWithin named found (hints pending member)

end Stub

end Stringify
