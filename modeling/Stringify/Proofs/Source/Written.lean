import Stringify.Proofs.Source.Reading
import Stringify.Proofs.Source.Words

/-!
# Well-written trees

In a tree that is read from a source every name is a word, and what an attribute, an index or
arguments follow is neither starred nor a slice. Readers are put together from others so that the
trees that they make and remember stay well-written.
-/

namespace Stringify.Source

/-! ## Trees -/

/-- Whether an expression stands only among others: a starred one, or a slice. -/
def Expr.isSpread : Expr → Bool
  | .starred _ _ | .slice _ _ _ _ => true
  | _ => false

/-- The name of an argument, if it is passed by name. -/
def Argument.name? : Argument → Option String
  | .named name _ => some name
  | _ => none

/-- The operand of a link in a chain of comparisons. -/
def Link.operand : Link → Expr
  | .mk _ operand => operand

/-- The name of an item in a list of parameters, if it is no mark. -/
def Parameter.name? : Parameter → Option String
  | .required name | .optional name _ | .rest name | .namedRest name => some name
  | .endPositional | .startNamed => none

/-- The default of a parameter. -/
def Parameter.default? : Parameter → Option Expr
  | .optional _ default => some default
  | _ => none

/-- The expressions in an entry. -/
def Entry.parts : Entry → List Expr
  | .pair key value => [key, value]
  | .unpacked value => [value]

/-- The expressions in a clause. -/
def Clause.parts : Clause → List Expr
  | .mk _ target iterable conditions => target :: iterable :: conditions

/-- Whether a piece of a formatted text is no field. -/
def Piece.isText : Piece → Bool
  | .text _ => true
  | _ => false

/-- Texts do not stand side by side. -/
def AreMerged (pieces : List Piece) : Prop :=
  pieces.IsChain fun former latter => former.isText = false ∨ latter.isText = false

/-- The names in an expression are words, and what an attribute, an index or arguments follow is not
spread. The texts in a formatted text are merged, but what stands in its fields does not matter. -/
inductive Expr.IsWritten : Expr → Prop where
  | name {line : Nat} {text : String} (word : IsWord text) : IsWritten (.name line text)
  | constant {line : Nat} {value : Constant} : IsWritten (.constant line value)
  | attribute {line : Nat} {value : Expr} {field : String} (ofValue : IsWritten value)
      (compact : value.isSpread = false) (word : IsWord field) :
      IsWritten (.attribute line value field)
  | subscript {line : Nat} {value index : Expr} (ofValue : IsWritten value)
      (compact : value.isSpread = false) (ofIndex : IsWritten index) :
      IsWritten (.subscript line value index)
  | call {line : Nat} {function : Expr} {arguments : List Argument}
      (ofFunction : IsWritten function) (compact : function.isSpread = false)
      (words : ∀ argument ∈ arguments, ∀ name ∈ argument.name?, IsWord name)
      (values : ∀ argument ∈ arguments, IsWritten argument.value) :
      IsWritten (.call line function arguments)
  | unary {line : Nat} {operator : UnaryOp} {operand : Expr} (ofOperand : IsWritten operand) :
      IsWritten (.unary line operator operand)
  | binary {line : Nat} {left right : Expr} {operator : BinaryOp} (ofLeft : IsWritten left)
      (ofRight : IsWritten right) : IsWritten (.binary line left operator right)
  | logical {line : Nat} {operator : LogicalOp} {operands : List Expr}
      (each : ∀ operand ∈ operands, IsWritten operand) : IsWritten (.logical line operator operands)
  | comparison {line : Nat} {first : Expr} {links : List Link} (ofFirst : IsWritten first)
      (each : ∀ link ∈ links, IsWritten link.operand) : IsWritten (.comparison line first links)
  | conditional {line : Nat} {body test orElse : Expr} (ofBody : IsWritten body)
      (ofTest : IsWritten test) (ofOrElse : IsWritten orElse) :
      IsWritten (.conditional line body test orElse)
  | lambda {line : Nat} {parameters : List Parameter} {body : Expr}
      (words : ∀ parameter ∈ parameters, ∀ name ∈ parameter.name?, IsWord name)
      (defaults : ∀ parameter ∈ parameters, ∀ value ∈ parameter.default?, IsWritten value)
      (ofBody : IsWritten body) : IsWritten (.lambda line parameters body)
  | assignment {line : Nat} {target value : Expr} (ofTarget : IsWritten target)
      (ofValue : IsWritten value) : IsWritten (.assignment line target value)
  | await {line : Nat} {value : Expr} (ofValue : IsWritten value) : IsWritten (.await line value)
  | yield {line : Nat} {value : Option Expr} (ofValue : ∀ inner ∈ value, IsWritten inner) :
      IsWritten (.yield line value)
  | yieldFrom {line : Nat} {value : Expr} (ofValue : IsWritten value) :
      IsWritten (.yieldFrom line value)
  | starred {line : Nat} {value : Expr} (ofValue : IsWritten value) :
      IsWritten (.starred line value)
  | tuple {line : Nat} {items : List Expr} (each : ∀ item ∈ items, IsWritten item) :
      IsWritten (.tuple line items)
  | list {line : Nat} {items : List Expr} (each : ∀ item ∈ items, IsWritten item) :
      IsWritten (.list line items)
  | set {line : Nat} {items : List Expr} (each : ∀ item ∈ items, IsWritten item) :
      IsWritten (.set line items)
  | dictionary {line : Nat} {entries : List Entry}
      (each : ∀ entry ∈ entries, ∀ part ∈ entry.parts, IsWritten part) :
      IsWritten (.dictionary line entries)
  | comprehension {line : Nat} {collection : Collection} {element : Expr} {clauses : List Clause}
      (ofElement : IsWritten element)
      (each : ∀ clause ∈ clauses, ∀ part ∈ clause.parts, IsWritten part) :
      IsWritten (.comprehension line collection element clauses)
  | dictionaryOf {line : Nat} {key value : Expr} {clauses : List Clause} (ofKey : IsWritten key)
      (ofValue : IsWritten value)
      (each : ∀ clause ∈ clauses, ∀ part ∈ clause.parts, IsWritten part) :
      IsWritten (.dictionaryOf line key value clauses)
  | slice {line : Nat} {lower upper step : Option Expr} (ofLower : ∀ inner ∈ lower, IsWritten inner)
      (ofUpper : ∀ inner ∈ upper, IsWritten inner) (ofStep : ∀ inner ∈ step, IsWritten inner) :
      IsWritten (.slice line lower upper step)
  | formatted {line : Nat} {pieces : List Piece} (merged : AreMerged pieces) :
      IsWritten (.formatted line pieces)

/-- An expression that may stand alone is well-written. -/
structure Expr.IsCompact (value : Expr) : Prop where
  written : value.IsWritten
  compact : value.isSpread = false

/-- An argument is well-written. -/
structure Argument.IsWritten (argument : Argument) : Prop where
  word : ∀ name ∈ argument.name?, IsWord name
  value : argument.value.IsWritten

/-- A parameter is well-written. -/
structure Parameter.IsWritten (parameter : Parameter) : Prop where
  word : ∀ name ∈ parameter.name?, IsWord name
  default : ∀ value ∈ parameter.default?, value.IsWritten

/-- What a stub can mean by a statement is well-written: the name of a class, or what is annotated,
its hint and its value. -/
def Stmt.IsWritten : Stmt → Prop
  | .classDef _ name _ _ => IsWord name
  | .annotated _ target hint value =>
    target.IsWritten ∧ hint.IsWritten ∧ ∀ inner ∈ value, inner.IsWritten
  | _ => True

/-- Whether a rule also reads starred expressions. -/
def Rule.mayStar : Rule → Bool
  | .starExpression | .target => true
  | _ => false

/-- What a rule reads is well-written, and stands alone unless the rule reads starred
expressions. -/
structure Rule.Makes (rule : Rule) (value : Expr) : Prop where
  written : value.IsWritten
  compact : rule.mayStar = false → value.isSpread = false

theorem Expr.IsCompact.makes {value : Expr} (compact : value.IsCompact) (rule : Rule) :
    rule.Makes value :=
  ⟨compact.written, fun _ => compact.compact⟩

/-! ## What is remembered -/

/-- All that is remembered is well-written. -/
structure Memory.IsWritten (memory : Memory) : Prop where
  expressions : Tells memory.expressions fun key _ value => key.1.Makes value
  arguments : Tells memory.arguments fun _ _ value => ∀ argument ∈ value, argument.IsWritten
  stmts : Tells memory.stmts fun _ _ value => value.IsWritten

theorem Memory.isWritten_empty : Memory.empty.IsWritten :=
  ⟨tells_empty, tells_empty, tells_empty⟩

namespace Reading

variable {α β : Type} {stream : TokenStream} {reader first second : Reading α}
variable {next : α → Reading β} {good better : α → Prop} {later : β → Prop}

/-- A value of some kind is made, or none, and what is remembered is well-written. -/
def Leaves (good : α → Prop) : EStateM.Result Failure Progress α → Prop
  | .ok value progress => good value ∧ progress.memory.IsWritten
  | .error _ progress => progress.memory.IsWritten

/-- In the first reading of a source, a reader makes values of some kind, and what is remembered
stays well-written. -/
def Makes (stream : TokenStream) (reader : Reading α) (good : α → Prop) : Prop :=
  ∀ progress : Progress, progress.memory.IsWritten → Leaves good (reader ⟨stream, false⟩ progress)

/-- A reader leaves what is remembered well-written. -/
class Spares (stream : TokenStream) (reader : Reading α) : Prop where
  makes : Makes stream reader fun _ => True

theorem Makes.mono (makes : Makes stream reader good)
    (weaker : ∀ value, good value → better value) : Makes stream reader better := by
  intro progress written
  have leaves := makes progress written
  cases ran : reader ⟨stream, false⟩ progress with
  | ok value progress =>
      rw [ran] at leaves
      exact ⟨weaker _ leaves.1, leaves.2⟩
  | error failure progress =>
      rw [ran] at leaves
      exact leaves

theorem Makes.spares (makes : Makes stream reader good) : Spares stream reader :=
  ⟨makes.mono fun _ _ => trivial⟩

/-! ## Sequences and alternatives -/

theorem Makes.pure {value : α} (holds : good value) :
    Makes stream (pure value : Reading α) good :=
  fun _ written => ⟨holds, written⟩

/-- A reader that only fails makes values of any kind. -/
theorem Makes.throw (failure : Failure) : Makes stream (throw failure : Reading α) good :=
  fun _ written => written

theorem Makes.bind (makes : Makes stream reader good)
    (rest : ∀ value, good value → Makes stream (next value) later) :
    Makes stream (reader >>= next) later := by
  intro progress written
  have leaves := makes progress written
  rw [run_bind]
  cases ran : reader ⟨stream, false⟩ progress with
  | error failure progress =>
      rw [ran] at leaves
      exact leaves
  | ok value progress =>
      rw [ran] at leaves
      exact rest value leaves.1 progress leaves.2

/-- Go on after something whose value does not matter. -/
theorem Makes.after [spares : Spares stream reader]
    (rest : ∀ value, Makes stream (next value) later) : Makes stream (reader >>= next) later :=
  spares.makes.bind fun value _ => rest value

theorem Makes.orElse (former : Makes stream first good) (latter : Makes stream second good) :
    Makes stream (Reading.orElse first second) good := by
  intro progress written
  have leaves := former progress written
  unfold Reading.orElse
  cases ran : first ⟨stream, false⟩ progress with
  | ok value progress =>
      rw [ran] at leaves
      exact leaves
  | error failure later =>
      rw [ran] at leaves
      cases failure with
      | mismatch => exact latter { later with place := progress.place } leaves
      | refusal line => exact leaves
      | exhausted => exact leaves

theorem Makes.firstOf {readers : List (Reading α)}
    (each : readers.Forall fun reader => Makes stream reader good) :
    Makes stream (Reading.firstOf readers) good := by
  induction readers with
  | nil => exact .throw _
  | cons reader rest ih =>
      rw [List.forall_cons] at each
      exact .orElse each.1 (ih each.2)

theorem Makes.map {image : α → β} (makes : Makes stream reader good)
    (holds : ∀ value, good value → later (image value)) : Makes stream (image <$> reader) later :=
  makes.bind fun value given => .pure (holds value given)

/-- Something is read, or nothing is. -/
theorem Makes.perhaps (makes : Makes stream reader good) :
    Makes stream (Reading.perhaps reader) fun found => ∀ value ∈ found, good value :=
  .orElse (makes.map fun value given => by simpa using given) (.pure (by simp))

/-- Read in one way if the opening fits, and in another one otherwise. -/
theorem Makes.commit {rest : α → Reading β} {otherwise : Reading β}
    (opens : Makes stream reader good)
    (each : ∀ value, good value → Makes stream (rest value) later)
    (others : Makes stream otherwise later) :
    Makes stream (commit reader rest otherwise) later := by
  unfold Reading.commit
  refine opens.perhaps.bind fun found given => ?_
  cases found with
  | none => exact others
  | some value => exact each value (given value rfl)

theorem Makes.manyUpTo (makes : Makes stream reader good) (steps : Nat) :
    Makes stream (Reading.manyUpTo reader steps) fun found => ∀ value ∈ found, good value := by
  induction steps with
  | zero => exact .pure (by simp)
  | succ steps ih =>
      refine makes.perhaps.bind fun found given => ?_
      cases found with
      | none => exact .pure (by simp)
      | some first =>
          refine ih.bind fun others rest => .pure ?_
          exact List.forall_mem_cons.mpr ⟨given first rfl, rest⟩

/-- No mistakes are looked for in the first reading. -/
theorem Makes.explaining : Makes stream (Reading.explaining reader) good :=
  fun _ written => written

/-! ## What spares the memory -/

section Sparing

variable {condition : Prop} [Decidable condition] [Spares stream reader] [Spares stream first]
variable [Spares stream second] [∀ value, Spares stream (next value)]

instance (value : α) : Spares stream (pure value : Reading α) := ⟨.pure trivial⟩

instance : Spares stream (mismatch : Reading α) := ⟨.throw _⟩

instance (line : Nat) : Spares stream (refuse line : Reading α) := ⟨.throw _⟩

instance : Spares stream (reader >>= next) := ⟨.after fun _ => Spares.makes⟩

instance (image : α → β) : Spares stream (image <$> reader) :=
  ⟨Spares.makes.map fun _ _ => trivial⟩

instance : Spares stream (discard reader) := ⟨Spares.makes.map fun _ _ => trivial⟩

instance : Spares stream (if condition then first else second) := by
  split <;> infer_instance

instance : Spares stream (Reading.orElse first second) := ⟨.orElse Spares.makes Spares.makes⟩

instance : Spares stream (Reading.firstOf ([] : List (Reading α))) := ⟨.throw _⟩

instance {readers : List (Reading α)} [Spares stream (Reading.firstOf readers)] :
    Spares stream (Reading.firstOf (reader :: readers)) := ⟨.orElse Spares.makes Spares.makes⟩

instance : Spares stream (Reading.perhaps reader) :=
  ⟨Spares.makes.perhaps.mono fun _ _ => trivial⟩

instance (steps : Nat) : Spares stream (Reading.manyUpTo reader steps) :=
  (Spares.makes.manyUpTo steps).spares

end Sparing

/-! ## Tokens -/

instance : Spares stream (read : Reading Setting) := ⟨fun _ written => ⟨trivial, written⟩⟩

instance : Spares stream (get : Reading Progress) := ⟨fun _ written => ⟨trivial, written⟩⟩

instance : Spares stream place := by
  unfold place
  infer_instance

instance (target : Nat) : Spares stream (moveTo target) := ⟨fun _ written => ⟨trivial, written⟩⟩

instance : Spares stream advance := ⟨fun _ written => ⟨trivial, written⟩⟩

instance (place : Nat) : Spares stream (tokenAt? place) := by
  unfold tokenAt?
  infer_instance

instance : Spares stream furthestLine := by
  unfold furthestLine
  infer_instance

instance : Spares stream (refuseFurthest : Reading α) := by
  unfold refuseFurthest
  infer_instance

instance : Spares stream bound := by
  unfold bound
  infer_instance

/-- Nothing comes after the refusal of a source. -/
theorem Makes.refused : Makes stream (refuseFurthest >>= next) later := by
  have none : Makes stream (refuseFurthest : Reading α) fun _ => False :=
    .after fun _ => .throw _
  exact none.bind fun _ impossible => impossible.elim

theorem makes_peek :
    Makes stream peek fun token => ∃ place : Nat, stream.tokens[place]? = some token := by
  intro progress written
  rw [run_peek]
  dsimp only
  cases found : stream.tokens[progress.place]? with
  | none => exact written
  | some token => exact ⟨⟨_, found⟩, written⟩

instance : Spares stream peek := makes_peek.spares

instance : Spares stream currentLine := by
  unfold currentLine
  infer_instance

instance (lexeme : Lexeme) : Spares stream (expect lexeme) := by
  unfold expect
  infer_instance

instance (text : String) : Spares stream (symbol text) := by
  unfold symbol
  infer_instance

instance (text : String) : Spares stream (word text) := by
  unfold word
  infer_instance

instance (texts : List String) : Spares stream (anySymbol texts) := by
  unfold anySymbol
  infer_instance

instance (text : String) : Spares stream (symbolLine text) := by
  unfold symbolLine
  infer_instance

instance (text : String) : Spares stream (wordLine text) := by
  unfold wordLine
  infer_instance

instance (text : String) : Spares stream (requireSymbol text) := by
  unfold requireSymbol
  infer_instance

theorem makes_identifier [stream.IsSpelled] : Makes stream identifier IsWord := by
  refine makes_peek.bind fun token here => ?_
  obtain ⟨place, found⟩ := here
  split
  · next text named => exact .after fun _ => .pure (stream.isWord_of_identifier? found named)
  · exact .throw _

instance [stream.IsSpelled] : Spares stream identifier := makes_identifier.spares

instance [stream.IsSpelled] : Spares stream identifierLine := by
  unfold identifierLine
  infer_instance

/-! ## Repetitions, looking ahead and mistakes -/

section Sparing

variable [Spares stream reader]

instance : Spares stream (fits reader) := by
  unfold fits
  infer_instance

instance : Spares stream (many reader) := by
  unfold many
  infer_instance

instance : Spares stream (oneOrMore reader) := by
  unfold oneOrMore
  infer_instance

instance (separator : String) : Spares stream (separated separator reader) := by
  unfold separated
  infer_instance

instance : Spares stream (skip reader) := by
  unfold skip
  infer_instance

instance : Spares stream (follows reader) := by
  unfold follows
  infer_instance

instance : Spares stream (followsNot reader) := by
  unfold followsNot
  infer_instance

instance : Spares stream (explaining first) := ⟨.explaining⟩

instance {rest : α → Reading β} {otherwise : Reading β} [∀ value, Spares stream (rest value)]
    [Spares stream otherwise] : Spares stream (commit reader rest otherwise) :=
  ⟨Spares.makes.commit (fun _ _ => Spares.makes) Spares.makes⟩

instance {alternatives : List (Reading Unit)} [Spares stream (firstOf alternatives)] :
    Spares stream (mistakes alternatives : Reading α) := by
  unfold mistakes
  infer_instance

end Sparing

/-- A mistake that is looked for is found, or nothing is read. -/
theorem Makes.mistakes {alternatives : List (Reading Unit)}
    [Spares stream (Reading.firstOf alternatives)] :
    Makes stream (Reading.mistakes alternatives : Reading α) good :=
  .after fun _ => .throw _

theorem Makes.many (makes : Makes stream reader good) :
    Makes stream (many reader) fun found => ∀ value ∈ found, good value :=
  .after fun steps => makes.manyUpTo steps

/-- What is read behind something else is made in the same way. -/
theorem Makes.behind (makes : Makes stream reader good) (before : Reading Unit)
    [Spares stream before] : Makes stream (do before; reader) good :=
  .after fun _ => makes

theorem Makes.oneOrMore (makes : Makes stream reader good) :
    Makes stream (oneOrMore reader) fun found => ∀ value ∈ found, good value :=
  makes.bind fun _ given => makes.many.bind fun _ rest =>
    .pure (List.forall_mem_cons.mpr ⟨given, rest⟩)

theorem Makes.separated (separator : String) (makes : Makes stream reader good) :
    Makes stream (separated separator reader) fun found => ∀ value ∈ found, good value :=
  makes.bind fun _ given => (makes.behind (symbol separator)).many.bind fun _ rest =>
    .pure (List.forall_mem_cons.mpr ⟨given, rest⟩)

/-! ## Memory -/

/-- What a slot recalls is of some kind, and to keep something of that kind leaves all that is
remembered well-written. -/
structure IsWrittenSlot (slot : Slot α) (good : α → Prop) : Prop where
  recalled : ∀ memory : Memory, memory.IsWritten → ∀ place value after,
    slot.result? memory place = some (some (value, after)) → good value
  kept : ∀ memory : Memory, memory.IsWritten → ∀ place result,
    (∀ value after, result = some (value, after) → good value) →
    (slot.keep memory place result).IsWritten

theorem isWrittenSlot_expressionSlot (rule : Rule) :
    IsWrittenSlot (Memory.expressionSlot rule) rule.Makes where
  recalled _ written place value after := written.expressions (rule, place) value after
  kept _ written _ _ given := { written with expressions := written.expressions.insert given }

theorem isWrittenSlot_argumentsSlot :
    IsWrittenSlot Memory.argumentsSlot fun found => ∀ argument ∈ found, argument.IsWritten where
  recalled _ written := written.arguments
  kept _ written _ _ given := { written with arguments := written.arguments.insert given }

theorem isWrittenSlot_stmtSlot : IsWrittenSlot Memory.stmtSlot Stmt.IsWritten where
  recalled _ written := written.stmts
  kept _ written _ _ given := { written with stmts := written.stmts.insert given }

theorem isWrittenSlot_blockSlot : IsWrittenSlot Memory.blockSlot fun _ => True where
  recalled _ _ _ _ _ _ := trivial
  kept _ written _ _ _ := { written with }

theorem isWrittenSlot_patternSlot (rule : PatternRule) :
    IsWrittenSlot (Memory.patternSlot rule) fun _ => True where
  recalled _ _ _ _ _ _ := trivial
  kept _ written _ _ _ := { written with }

theorem Makes.remembered {slot : Slot α} (sound : IsWrittenSlot slot good)
    (makes : Makes stream reader good) : Makes stream (remembered slot reader) good := by
  intro progress written
  have leaves := makes progress written
  unfold Reading.remembered
  dsimp only
  cases found : slot.result? progress.memory progress.place with
  | some result =>
      cases result with
      | some pair => exact ⟨sound.recalled _ written _ _ _ found, written⟩
      | none => exact written
  | none =>
      cases ran : reader ⟨stream, false⟩ progress with
      | ok value later =>
          rw [ran] at leaves
          refine ⟨leaves.1, sound.kept _ leaves.2 _ _ fun other after same => ?_⟩
          cases same
          exact leaves.1
      | error failure later =>
          rw [ran] at leaves
          cases failure with
          | mismatch =>
              apply sound.kept later.memory leaves
              intro other after same
              cases same
          | refusal line => exact leaves
          | exhausted => exact leaves

/-- What a source is found to be is what the first reading of it makes. -/
theorem Makes.of_run {value : α} (makes : Makes stream reader good)
    (ran : Reading.run reader stream = .ok value) : good value := by
  have leaves := makes ⟨0, 0, .empty⟩ Memory.isWritten_empty
  unfold Reading.run at ran
  cases first : reader ⟨stream, false⟩ ⟨0, 0, .empty⟩ with
  | ok found progress =>
      rw [first] at ran leaves
      cases ran
      exact leaves.1
  | error failure progress =>
      rw [first] at ran
      cases failure with
      | exhausted => cases ran
      | refusal line => cases ran
      | mismatch =>
          dsimp only at ran
          split at ran <;> cases ran

end Reading

end Stringify.Source
