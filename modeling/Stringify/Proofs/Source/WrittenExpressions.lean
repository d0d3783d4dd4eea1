import Stringify.Proofs.Source.Written
import Stringify.Source.Document

/-!
# The expressions of a source are well-written

Whatever a rule of the grammar makes is well-written, if what the rules that it refers to make is.
Rules that refer to one another are unfolded only finitely often, so all expressions that are read
from a source are well-written.
-/

set_option linter.unusedSectionVars false

namespace Stringify.Source

variable {stream : TokenStream}

/-- The expressions in a clause are well-written. -/
def Clause.IsWritten (clause : Clause) : Prop :=
  ∀ part ∈ clause.parts, part.IsWritten

/-- The expressions in an entry are well-written. -/
def Entry.IsWritten (entry : Entry) : Prop :=
  ∀ part ∈ entry.parts, part.IsWritten

theorem Expr.isWritten_getD_nil {items : Option (List Expr)}
    (each : ∀ found ∈ items, ∀ item ∈ found, item.IsWritten) :
    ∀ item ∈ items.getD [], item.IsWritten := by
  cases items with
  | none => simp
  | some found => exact each found rfl

namespace Nested

open Reading

/-- The rules that a rule refers to make well-written trees. -/
class MakesTrees (stream : TokenStream) (nested : Nested) : Prop where
  makes : ∀ rule, Makes stream (nested.read rule) rule.Makes

variable {nested : Nested} {reader : Reading Expr} [nested.MakesTrees stream] [stream.IsSpelled]

theorem makes_written (rule : Rule) : Makes stream (nested.read rule) Expr.IsWritten :=
  (MakesTrees.makes rule).mono fun _ made => made.written

theorem makes_compact (rule : Rule) (plain : rule.mayStar = false) :
    Makes stream (nested.read rule) Expr.IsCompact :=
  (MakesTrees.makes rule).mono fun _ made => ⟨made.written, made.compact plain⟩

theorem spares_read (rule : Rule) : Spares stream (nested.read rule) :=
  (MakesTrees.makes rule).spares

attribute [instance] spares_read

/-! ## Items and tuples -/

theorem makes_starred (operand : Rule) : Makes stream (nested.starred operand) Expr.IsWritten :=
  .after fun _ => (makes_written operand).bind fun _ written => .pure (.starred written)

theorem makes_assignment : Makes stream nested.assignment Expr.IsCompact :=
  .after fun _ => makes_identifier.bind fun _ word => .after fun _ =>
    (makes_written .expression).bind fun _ written => .pure ⟨.assignment (.name word) written, rfl⟩

theorem makes_unassigned : Makes stream nested.unassigned Expr.IsCompact :=
  (makes_compact .expression rfl).bind fun _ compact => .after fun _ => .pure compact

theorem makes_named : Makes stream nested.named Expr.IsCompact :=
  .firstOf ⟨makes_assignment, .explaining, makes_unassigned⟩

theorem makes_item : Makes stream nested.item Expr.IsWritten :=
  .firstOf ⟨makes_starred _, makes_named.mono fun _ compact => compact.written⟩

theorem makes_items : Makes stream nested.items fun items => ∀ item ∈ items, item.IsWritten :=
  (makes_item.separated ",").bind fun _ each => .after fun _ => .pure each

omit [nested.MakesTrees stream] in
theorem makes_tupleOr {good : Expr → Prop} (written : ∀ item, good item → item.IsWritten)
    (tuple : ∀ value, value.IsCompact → good value) (makes : Makes stream reader good) :
    Makes stream (tupleOr reader) good := by
  refine .after fun line => makes.bind fun first ofFirst => ?_
  refine (makes.behind (symbol ",")).many.bind fun rest each => ?_
  have compact (rest : List Expr) (each : ∀ item ∈ rest, good item) :
      (Expr.tuple line (first :: rest)).IsCompact := by
    refine ⟨.tuple fun item member => ?_, rfl⟩
    rcases List.mem_cons.mp member with rfl | member
    · exact written _ ofFirst
    · exact written _ (each item member)
  cases rest with
  | nil => exact .firstOf ⟨.after fun _ => .pure (tuple _ (compact [] each)), .pure ofFirst⟩
  | cons second later => exact .after fun _ => .pure (tuple _ (compact _ each))

theorem makes_expressions : Makes stream nested.expressions Expr.IsCompact :=
  makes_tupleOr (fun _ compact => compact.written) (fun _ compact => compact)
    (makes_compact _ rfl)

theorem makes_starExpressions : Makes stream nested.starExpressions Expr.IsWritten :=
  makes_tupleOr (fun _ written => written) (fun _ compact => compact.written) (makes_written _)

theorem makes_targets : Makes stream nested.targets Expr.IsWritten :=
  makes_tupleOr (fun _ written => written) (fun _ compact => compact.written) (makes_written _)

theorem makes_yielded : Makes stream nested.yielded Expr.IsCompact :=
  .after fun _ => .firstOf
    ⟨.after fun _ => .after fun _ => (makes_written .expression).bind fun _ written =>
      .pure ⟨.yieldFrom written, rfl⟩,
      .after fun _ => makes_starExpressions.perhaps.bind fun _ written =>
        .pure ⟨.yield written, rfl⟩⟩

theorem makes_assignedValue : Makes stream nested.assignedValue Expr.IsWritten :=
  .firstOf ⟨makes_yielded.mono fun _ compact => compact.written, makes_starExpressions⟩

/-! ## Operators -/

theorem makes_leftGrouped (operators : List BinaryOp) (operand : Rule) (line steps : Nat)
    {left : Expr} (compact : left.IsCompact) :
    Makes stream (nested.leftGrouped operators operand line steps left) Expr.IsCompact := by
  induction steps generalizing left with
  | zero => exact .pure compact
  | succ steps ih =>
      have step : Makes stream (firstOf (operators.map fun operator => do
          symbol operator.symbol
          return Expr.binary line left operator (← nested.read operand))) Expr.IsCompact := by
        apply Makes.firstOf
        rw [List.forall_map_iff, List.forall_iff_forall_mem]
        exact fun operator _ => .after fun _ => (makes_written operand).bind fun _ written =>
          .pure ⟨.binary compact.written written, rfl⟩
      rw [leftGrouped]
      refine step.perhaps.bind fun found given => ?_
      cases found with
      | none => exact .pure compact
      | some grouped => exact ih (given grouped rfl)

theorem makes_binary (operators : List BinaryOp) (operand : Rule)
    (plain : operand.mayStar = false) :
    Makes stream (nested.binary operators operand) Expr.IsCompact :=
  .after fun line => (makes_compact operand plain).bind fun _ compact => .after fun steps =>
    makes_leftGrouped operators operand line steps compact

theorem makes_logical (operator : LogicalOp) (operand : Rule) (plain : operand.mayStar = false) :
    Makes stream (nested.logical operator operand) Expr.IsCompact := by
  refine .after fun line => (makes_compact operand plain).bind fun first compact => ?_
  refine ((makes_written operand).behind (word operator.symbol)).many.bind fun rest each => ?_
  cases rest with
  | nil => exact .pure compact
  | cons second later =>
      exact .pure ⟨.logical (List.forall_mem_cons.mpr ⟨compact.written, each⟩), rfl⟩

theorem makes_link : Makes stream nested.link fun link => link.operand.IsWritten := by
  have linkBy (spelled : Reading Unit) [Spares stream spelled] (comparator : Comparator) :
      Makes stream (do
        spelled
        return Link.mk comparator (← nested.read .bitOr)) fun link => link.operand.IsWritten :=
    .after fun _ => (makes_written .bitOr).bind fun _ written => .pure written
  exact .firstOf ⟨linkBy _ _, linkBy _ _, linkBy _ _, linkBy _ _, linkBy _ _, linkBy _ _,
    linkBy _ _, linkBy _ _, linkBy _ _, linkBy _ _⟩

theorem makes_comparison : Makes stream nested.comparison Expr.IsCompact := by
  refine .after fun line => (makes_compact .bitOr rfl).bind fun first compact => ?_
  refine makes_link.many.bind fun links each => ?_
  cases links with
  | nil => exact .pure compact
  | cons second later => exact .pure ⟨.comparison compact.written each, rfl⟩

theorem makes_inversion : Makes stream nested.inversion Expr.IsCompact :=
  .firstOf ⟨.after fun _ => (makes_written .inversion).bind fun _ written =>
    .pure ⟨.unary written, rfl⟩, makes_comparison⟩

theorem makes_power : Makes stream nested.power Expr.IsCompact :=
  .after fun _ => (makes_compact .awaited rfl).bind fun _ compact => .firstOf
    ⟨.after fun _ => (makes_written .factor).bind fun _ written =>
      .pure ⟨.binary compact.written written, rfl⟩, .pure compact⟩

theorem makes_factor : Makes stream nested.factor Expr.IsCompact := by
  have signed (operator : UnaryOp) : Makes stream (do
      let line ← symbolLine operator.symbol
      return Expr.unary line operator (← nested.read .factor)) Expr.IsCompact :=
    .after fun _ => (makes_written .factor).bind fun _ written => .pure ⟨.unary written, rfl⟩
  exact .firstOf ⟨signed .plus, signed .minus, signed .invert, makes_power⟩

theorem makes_awaited : Makes stream nested.awaited Expr.IsCompact :=
  .firstOf ⟨.after fun _ => (makes_written .primary).bind fun _ written =>
    .pure ⟨.await written, rfl⟩, makes_compact _ rfl⟩

/-! ## Displays -/

theorem makes_clauseRest (isAsync : Bool) {target : Expr} (ofTarget : target.IsWritten) :
    Makes stream (nested.clauseRest isAsync target) Clause.IsWritten :=
  (makes_written .disjunction).bind fun _ ofIterable =>
    ((makes_written .disjunction).behind (word "if")).many.bind fun _ each =>
      .pure (List.forall_mem_cons.mpr ⟨ofTarget, List.forall_mem_cons.mpr ⟨ofIterable, each⟩⟩)

theorem makes_clauses :
    Makes stream nested.clauses fun clauses => ∀ clause ∈ clauses, clause.IsWritten := by
  have opening : Makes stream (do
      word "for"
      let target ← nested.targets
      word "in"
      return target) Expr.IsWritten :=
    .after fun _ => makes_targets.bind fun _ written => .after fun _ => .pure written
  exact .oneOrMore ((opening.behind (word "async")).commit (fun _ => makes_clauseRest true)
    (opening.commit (fun _ => makes_clauseRest false) .explaining))

theorem makes_comprehension (collection : Collection) {element : Reading Expr}
    (makes : Makes stream element Expr.IsWritten) :
    Makes stream (nested.comprehension collection element) Expr.IsCompact :=
  .firstOf ⟨.after fun _ => makes.bind fun _ ofElement => makes_clauses.bind fun _ each =>
    .after fun _ => .pure ⟨.comprehension ofElement each, rfl⟩, .explaining⟩

theorem makes_generator : Makes stream nested.generator Expr.IsCompact :=
  makes_comprehension _ (.firstOf ⟨makes_assignment.mono fun _ compact => compact.written,
    makes_unassigned.mono fun _ compact => compact.written⟩)

theorem makes_tuple : Makes stream nested.tuple Expr.IsCompact := by
  have several : Makes stream (do
      let first ← nested.item
      symbol ","
      return first :: (← perhaps nested.items).getD []) fun items => ∀ item ∈ items,
        item.IsWritten :=
    makes_item.bind fun _ ofFirst => .after fun _ => makes_items.perhaps.bind fun _ rest =>
      .pure (List.forall_mem_cons.mpr ⟨ofFirst, Expr.isWritten_getD_nil rest⟩)
  exact .after fun _ => several.perhaps.bind fun _ each => .after fun _ =>
    .pure ⟨.tuple (Expr.isWritten_getD_nil each), rfl⟩

theorem makes_group : Makes stream nested.group Expr.IsCompact := by
  have inside : Makes stream (firstOf [nested.yielded, nested.named]) Expr.IsCompact :=
    .firstOf ⟨makes_yielded, makes_named⟩
  exact .firstOf ⟨.after fun _ => inside.bind fun _ compact => .after fun _ => .pure compact,
    .explaining⟩

theorem makes_parenthesized : Makes stream nested.parenthesized Expr.IsCompact :=
  .firstOf ⟨makes_tuple, makes_group, makes_generator⟩

theorem makes_list : Makes stream nested.list Expr.IsCompact :=
  .after fun _ => makes_items.perhaps.bind fun _ each => .after fun _ =>
    .pure ⟨.list (Expr.isWritten_getD_nil each), rfl⟩

theorem makes_listDisplay : Makes stream nested.listDisplay Expr.IsCompact :=
  .firstOf ⟨makes_list, makes_comprehension _ (makes_named.mono fun _ compact => compact.written)⟩

theorem makes_keyedValue :
    Makes stream nested.keyedValue fun pair => pair.1.IsWritten ∧ pair.2.IsWritten :=
  (makes_written .expression).bind fun _ ofKey => .after fun _ =>
    (makes_written .expression).bind fun _ ofValue => .pure ⟨ofKey, ofValue⟩

theorem makes_entry : Makes stream nested.entry Entry.IsWritten :=
  .firstOf ⟨.after fun _ => (makes_written .bitOr).bind fun _ written =>
      .pure (List.forall_mem_singleton.mpr written),
    makes_keyedValue.bind fun _ both => .pure
      (List.forall_mem_cons.mpr ⟨both.1, List.forall_mem_singleton.mpr both.2⟩)⟩

instance : Spares stream nested.entry := makes_entry.spares

instance : Spares stream (firstOf nested.entryValueMistakes) := by
  unfold entryValueMistakes
  infer_instance

instance : Spares stream (firstOf nested.entryMistakes) := by
  unfold entryMistakes
  infer_instance

instance : Spares stream (firstOf nested.dictionaryMistakes) := by
  unfold dictionaryMistakes
  infer_instance

theorem makes_dictionary : Makes stream nested.dictionary Expr.IsCompact := by
  have entries : Makes stream (do
      let entries ← separated "," nested.entry
      skip (symbol ",")
      return entries) fun entries => ∀ entry ∈ entries, entry.IsWritten :=
    (makes_entry.separated ",").bind fun _ each => .after fun _ => .pure each
  refine .firstOf ⟨.after fun _ => entries.perhaps.bind fun found each => .after fun _ =>
    .pure ⟨.dictionary ?_, rfl⟩, .after fun _ => .mistakes⟩
  cases found with
  | none => simp
  | some entries => exact each entries rfl

theorem makes_set : Makes stream nested.set Expr.IsCompact :=
  .after fun _ => makes_items.bind fun _ each => .after fun _ => .pure ⟨.set each, rfl⟩

theorem makes_dictionaryOf : Makes stream nested.dictionaryOf Expr.IsCompact :=
  .firstOf ⟨.after fun _ => makes_keyedValue.bind fun _ both => makes_clauses.bind fun _ each =>
    .after fun _ => .pure ⟨.dictionaryOf both.1 both.2 each, rfl⟩, .explaining⟩

theorem makes_braced : Makes stream nested.braced Expr.IsCompact :=
  .firstOf ⟨makes_dictionary, makes_set, makes_dictionaryOf,
    makes_comprehension _ (makes_named.mono fun _ compact => compact.written)⟩

/-! ## Arguments -/

theorem makes_starredArgument : Makes stream nested.starredArgument Argument.IsWritten :=
  (makes_starred _).bind fun _ written => .pure ⟨by simp [Argument.name?], written⟩

theorem makes_namedArgument : Makes stream nested.namedArgument Argument.IsWritten :=
  makes_identifier.bind fun _ word => .after fun _ => (makes_written .expression).bind
    fun _ written => .pure ⟨by simpa [Argument.name?] using word, written⟩

theorem makes_unpackedArgument : Makes stream nested.unpackedArgument Argument.IsWritten :=
  .after fun _ => (makes_written .expression).bind fun _ written =>
    .pure ⟨by simp [Argument.name?], written⟩

theorem makes_positionalArgument : Makes stream nested.positionalArgument Argument.IsWritten := by
  have value : Makes stream (firstOf [nested.assignment, nested.unassigned]) Expr.IsCompact :=
    .firstOf ⟨makes_assignment, makes_unassigned⟩
  exact .firstOf ⟨makes_starredArgument, value.bind fun _ compact => .after fun _ =>
    .pure ⟨by simp [Argument.name?], compact.written⟩⟩

theorem makes_namedArguments : Makes stream nested.namedArguments fun arguments =>
    ∀ argument ∈ arguments, argument.IsWritten := by
  have several (argument : Reading Argument) (makes : Makes stream argument Argument.IsWritten) :
      Makes stream (separated "," (firstOf [explaining (mistakes nested.namedArgumentMistakes),
        nested.namedArgument, argument])) fun arguments =>
          ∀ argument ∈ arguments, argument.IsWritten :=
    .separated "," (.firstOf ⟨.explaining, makes_namedArgument, makes⟩)
  have named := several nested.starredArgument makes_starredArgument
  have unpacked := several nested.unpackedArgument makes_unpackedArgument
  exact .firstOf ⟨named.bind fun _ former => .after fun _ => unpacked.bind fun _ latter =>
    .pure (List.forall_mem_append.mpr ⟨former, latter⟩), named, unpacked⟩

theorem makes_argumentList : Makes stream nested.argumentList fun arguments =>
    ∀ argument ∈ arguments, argument.IsWritten := by
  refine .firstOf ⟨(makes_positionalArgument.separated ",").bind fun positional former => ?_,
    makes_namedArguments⟩
  refine (makes_namedArguments.behind (symbol ",")).perhaps.bind fun named latter => .pure ?_
  refine List.forall_mem_append.mpr ⟨former, ?_⟩
  cases named with
  | none => simp
  | some arguments => exact latter arguments rfl

theorem makes_arguments : Makes stream nested.arguments fun arguments =>
    ∀ argument ∈ arguments, argument.IsWritten := by
  refine .remembered isWrittenSlot_argumentsSlot (.firstOf ⟨?_, .explaining⟩)
  refine makes_argumentList.bind fun items each => .after fun _ => .after fun _ => .pure ?_
  exact List.forall_mem_append.mpr ⟨fun argument member => each argument
    (List.mem_of_mem_filter member), fun argument member => each argument
    (List.mem_of_mem_filter member)⟩

/-! ## Parameters -/

section Parameters

variable {style : ParameterStyle}

theorem makes_parameterName :
    Makes stream (nested.parameterName style) fun named => IsWord named.2 := by
  refine .after fun _ => makes_identifier.bind fun _ word => ?_
  dsimp only
  split
  · exact .after fun _ => .pure word
  · exact .pure word

theorem makes_starAnnotatedName :
    Makes stream (nested.starAnnotatedName style) fun named => IsWord named.2 := by
  have annotated : Makes stream (do
      let line ← currentLine
      let name ← identifier
      symbol ":"
      discard (nested.read .starExpression)
      return (line, name)) fun named => IsWord named.2 :=
    .after fun _ => makes_identifier.bind fun _ word => .after fun _ => .after fun _ => .pure word
  unfold starAnnotatedName
  dsimp only
  split
  · exact .after fun _ => annotated
  · exact annotated

theorem spares_parameterEnd : Spares stream (parameterEnd style) := by
  unfold parameterEnd
  infer_instance

attribute [instance] spares_parameterEnd

theorem makes_defaultValue : Makes stream nested.defaultValue Expr.IsWritten :=
  .firstOf ⟨.after fun _ => makes_written _, .explaining⟩

theorem isWritten_required {name : String} (word : IsWord name) :
    (Parameter.required name).IsWritten :=
  ⟨by simpa [Parameter.name?] using word, by simp [Parameter.default?]⟩

theorem isWritten_optional {name : String} {value : Expr} (word : IsWord name)
    (written : value.IsWritten) : (Parameter.optional name value).IsWritten :=
  ⟨by simpa [Parameter.name?] using word, by simpa [Parameter.default?] using written⟩

theorem makes_requiredParameter :
    Makes stream (nested.requiredParameter style) fun found => found.2.IsWritten :=
  makes_parameterName.bind fun _ word => .after fun _ => .pure (isWritten_required word)

theorem makes_optionalParameter :
    Makes stream (nested.optionalParameter style) fun found => found.2.IsWritten :=
  makes_parameterName.bind fun _ word => makes_defaultValue.bind fun _ written => .after fun _ =>
    .pure (isWritten_optional word written)

theorem makes_anyParameter :
    Makes stream (nested.anyParameter style) fun found => found.2.IsWritten := by
  refine makes_parameterName.bind fun named word => ?_
  refine makes_defaultValue.perhaps.bind fun value written => .after fun _ => .pure ?_
  cases value with
  | none => exact isWritten_required word
  | some value => exact isWritten_optional word (written value rfl)

theorem isWritten_map_snd {found : List LinedParameter}
    (each : ∀ item ∈ found, item.2.IsWritten) :
    ∀ parameter ∈ found.map Prod.snd, parameter.IsWritten :=
  List.forall_mem_map.mpr each

theorem isWritten_getD_parameters {found : Option (List Parameter)}
    (each : ∀ parameters ∈ found, ∀ parameter ∈ parameters, parameter.IsWritten) :
    ∀ parameter ∈ found.getD [], parameter.IsWritten := by
  cases found with
  | none => simp
  | some parameters => exact each parameters rfl

/-- A mark in a list of parameters has no name and no default. -/
theorem isWritten_mark {parameter : Parameter} (nameless : parameter.name? = none)
    (valueless : parameter.default? = none) : parameter.IsWritten :=
  ⟨by simp [nameless], by simp [valueless]⟩

theorem makes_requiredBeforeSlash : Makes stream (nested.requiredBeforeSlash style)
    fun parameters => ∀ parameter ∈ parameters, parameter.IsWritten :=
  makes_requiredParameter.oneOrMore.bind fun _ each => .after fun _ => .after fun _ => .pure
    (List.forall_mem_append.mpr ⟨isWritten_map_snd each,
      List.forall_mem_singleton.mpr (isWritten_mark rfl rfl)⟩)

theorem makes_optionalBeforeSlash : Makes stream (nested.optionalBeforeSlash style)
    fun parameters => ∀ parameter ∈ parameters, parameter.IsWritten :=
  makes_requiredParameter.many.bind fun _ former => makes_optionalParameter.oneOrMore.bind
    fun _ latter => .after fun _ => .after fun _ => .pure (List.forall_mem_append.mpr
      ⟨isWritten_map_snd (List.forall_mem_append.mpr ⟨former, latter⟩),
        List.forall_mem_singleton.mpr (isWritten_mark rfl rfl)⟩)

theorem makes_namedRest : Makes stream (nested.namedRest style)
    fun parameters => ∀ parameter ∈ parameters, parameter.IsWritten := by
  refine .firstOf ⟨.explaining, .after fun _ =>
    makes_requiredParameter.bind fun found written => ?_⟩
  split
  · refine .pure (List.forall_mem_singleton.mpr ⟨written.word, by simp [Parameter.default?]⟩)
  · exact .pure (List.forall_mem_singleton.mpr written)

/-- What follows some parameters with a star is well-written, and so is the whole list. -/
theorem makes_starEnding {items : List LinedParameter} {first : Parameter}
    (written : first.IsWritten) (each : ∀ item ∈ items, item.2.IsWritten) :
    Makes stream (do
      return first :: (← (do
        let rest ← perhaps (nested.namedRest style)
        return items.map Prod.snd ++ rest.getD [])))
      fun parameters => ∀ parameter ∈ parameters, parameter.IsWritten :=
  (makes_namedRest.perhaps.bind fun _ rest => .pure (List.forall_mem_append.mpr
    ⟨isWritten_map_snd each, isWritten_getD_parameters rest⟩)).bind fun _ others =>
      .pure (List.forall_mem_cons.mpr ⟨written, others⟩)

theorem makes_starParameters : Makes stream (nested.starParameters style)
    fun parameters => ∀ parameter ∈ parameters, parameter.IsWritten := by
  have named (name : Reading (Nat × String))
      (makes : Makes stream name fun named => IsWord named.2) : Makes stream (do
        symbol "*"
        let named ← name
        parameterEnd style
        let items ← many (nested.anyParameter style)
        return Parameter.rest named.2 :: (← (do
          let rest ← perhaps (nested.namedRest style)
          return items.map Prod.snd ++ rest.getD [])))
        fun parameters => ∀ parameter ∈ parameters, parameter.IsWritten :=
    .after fun _ => makes.bind fun named word => .after fun _ => makes_anyParameter.many.bind
      fun _ each => makes_starEnding
        ⟨by simpa [Parameter.name?] using word, by simp [Parameter.default?]⟩ each
  exact .firstOf ⟨.explaining, named _ makes_parameterName, named _ makes_starAnnotatedName,
    .after fun _ => .after fun _ => makes_anyParameter.oneOrMore.bind fun _ each =>
      makes_starEnding (isWritten_mark rfl rfl) each, makes_namedRest⟩

theorem makes_parameters : Makes stream (nested.parameters style)
    fun parameters => ∀ parameter ∈ parameters, parameter.IsWritten := by
  have ending {before : List Parameter} {items : List LinedParameter}
      (former : ∀ parameter ∈ before, parameter.IsWritten)
      (each : ∀ item ∈ items, item.2.IsWritten) : Makes stream (do
        let rest ← perhaps (nested.starParameters style)
        return before ++ items.map Prod.snd ++ rest.getD [])
        fun parameters => ∀ parameter ∈ parameters, parameter.IsWritten :=
    makes_starParameters.perhaps.bind fun _ rest => .pure (List.forall_mem_append.mpr
      ⟨List.forall_mem_append.mpr ⟨former, isWritten_map_snd each⟩,
        isWritten_getD_parameters rest⟩)
  have optional : Makes stream (many (nested.optionalParameter style)) fun found =>
      ∀ item ∈ found, item.2.IsWritten := makes_optionalParameter.many
  exact .firstOf ⟨.explaining,
    makes_requiredBeforeSlash.bind fun _ former => makes_requiredParameter.many.bind
      fun _ required => optional.bind fun _ optional =>
        ending former (List.forall_mem_append.mpr ⟨required, optional⟩),
    makes_optionalBeforeSlash.bind fun _ former => optional.bind fun _ optional =>
      ending former optional,
    makes_requiredParameter.oneOrMore.bind fun _ required => optional.bind fun _ optional =>
      ending (by simp) (List.forall_mem_append.mpr ⟨required, optional⟩),
    makes_optionalParameter.oneOrMore.bind fun _ optional => ending (by simp) optional,
    makes_starParameters⟩

end Parameters

/-! ## Atoms and what follows them -/

theorem makes_slice : Makes stream nested.slice Expr.IsWritten := by
  have stepped : Makes stream (do
      symbol ":"
      perhaps (nested.read .expression)) fun found => ∀ inner ∈ found, inner.IsWritten :=
    (makes_written .expression).perhaps.behind _
  refine .firstOf ⟨.after fun _ => (makes_written .expression).perhaps.bind fun lower ofLower =>
    .after fun _ => (makes_written .expression).perhaps.bind fun upper ofUpper =>
      stepped.perhaps.bind fun step ofStep => .pure (.slice ofLower ofUpper ?_),
    makes_named.mono fun _ compact => compact.written⟩
  cases step with
  | none => simp
  | some inner => exact ofStep inner rfl

theorem makes_index : Makes stream nested.index Expr.IsWritten := by
  have item : Makes stream (firstOf [nested.slice, nested.starred .expression]) Expr.IsWritten :=
    .firstOf ⟨makes_slice, makes_starred _⟩
  exact .firstOf ⟨makes_slice.bind fun _ written => .after fun _ => .pure written,
    .after fun _ => (item.separated ",").bind fun _ each => .after fun _ => .pure (.tuple each)⟩

theorem makes_bracketedIndex : Makes stream nested.bracketedIndex Expr.IsWritten :=
  .after fun _ => makes_index.bind fun _ written => .after fun _ => .pure written

omit [nested.MakesTrees stream] in
theorem makes_number : Makes stream number Expr.IsCompact := by
  refine .after fun token => ?_
  split
  · refine .after fun _ => ?_
    split
    · exact .pure ⟨.constant, rfl⟩
    · exact .throw _
  · exact .throw _

theorem makes_atom : Makes stream nested.atom Expr.IsCompact := by
  have constant (line : Nat) (value : Constant) : Makes stream (do
      advance
      return Expr.constant line value) Expr.IsCompact :=
    .after fun _ => .pure ⟨.constant, rfl⟩
  refine .after fun token => ?_
  dsimp only
  split
  · exact constant _ _
  · exact constant _ _
  · exact constant _ _
  · exact makes_identifier.bind fun _ word => .pure ⟨.name word, rfl⟩
  · exact makes_number
  · exact makes_compact _ rfl
  · exact makes_parenthesized
  · exact makes_listDisplay
  · exact makes_braced
  · exact constant _ _
  · exact .throw _

theorem makes_trailer (line : Nat) {value : Expr} (compact : value.IsCompact) :
    Makes stream (nested.trailer line value) Expr.IsCompact := by
  refine .firstOf ⟨?field, ?generator, ?call, ?subscript⟩
  case field =>
    exact .after fun _ => makes_identifier.bind fun _ word =>
      .pure ⟨.attribute compact.written compact.compact word, rfl⟩
  case generator =>
    refine makes_generator.bind fun _ only => .pure ⟨?_, rfl⟩
    exact .call compact.written compact.compact (by simp [Argument.name?])
      (List.forall_mem_singleton.mpr only.written)
  case call =>
    refine .after fun _ => makes_arguments.perhaps.bind fun found each => .after fun _ =>
      .pure ⟨?_, rfl⟩
    cases found with
    | none => exact .call compact.written compact.compact (by simp) (by simp)
    | some arguments =>
        exact .call compact.written compact.compact
          (fun argument member => (each arguments rfl argument member).word)
          (fun argument member => (each arguments rfl argument member).value)
  case subscript =>
    exact makes_bracketedIndex.bind fun _ ofIndex =>
      .pure ⟨.subscript compact.written compact.compact ofIndex, rfl⟩

omit [nested.MakesTrees stream] in
theorem makes_trailers {trailer : Expr → Reading Expr}
    (each : ∀ value, value.IsCompact → Makes stream (trailer value) Expr.IsCompact) (steps : Nat)
    {value : Expr} (compact : value.IsCompact) :
    Makes stream (trailers trailer steps value) Expr.IsCompact := by
  induction steps generalizing value with
  | zero => exact .pure compact
  | succ steps ih =>
      rw [trailers]
      refine (each value compact).perhaps.bind fun found given => ?_
      cases found with
      | none => exact .pure compact
      | some longer => exact ih (given longer rfl)

theorem makes_primary : Makes stream nested.primary Expr.IsCompact :=
  .after fun line => .after fun steps => makes_atom.bind fun _ compact =>
    makes_trailers (fun _ => makes_trailer line) steps compact

omit [nested.MakesTrees stream] in
theorem spares_trailerFollows : Spares stream trailerFollows := by
  unfold trailerFollows
  infer_instance

attribute [instance] spares_trailerFollows

theorem makes_targetPrimary : Makes stream nested.targetPrimary Expr.IsCompact :=
  .after fun line => makes_atom.bind fun _ compact => .after fun _ => .after fun steps =>
    makes_trailers (fun _ compact => (makes_trailer line compact).bind fun _ longer =>
      .after fun _ => .pure longer) steps compact

/-! ## Text literals -/

/-- A field may stand before any pieces. -/
theorem AreMerged.cons_field {piece : Piece} {pieces : List Piece} (field : piece.isText = false)
    (merged : AreMerged pieces) : AreMerged (piece :: pieces) :=
  List.isChain_cons.mpr ⟨fun _ _ => .inl field, merged⟩

theorem areMerged_mergePieces (pieces : List Piece) : AreMerged (mergePieces pieces) := by
  fun_induction mergePieces pieces with
  | case1 => exact .nil
  | case2 value rest other later merged ih =>
      rw [merged] at ih
      obtain ⟨apart, later⟩ := List.isChain_cons.mp ih
      exact List.isChain_cons.mpr ⟨apart, later⟩
  | case3 value rest merged empty ih => exact ih
  | case4 value rest nonempty alone ih =>
      refine List.isChain_cons.mpr ⟨fun second head => .inr ?_, ih⟩
      cases second with
      | text other =>
          obtain ⟨later, merged⟩ := List.head?_eq_some_iff.mp head
          exact absurd merged (alone other later)
      | _ => rfl
  | case5 piece rest field ih =>
      refine AreMerged.cons_field ?_ ih
      cases piece with
      | text value => exact absurd rfl (field value)
      | _ => rfl

section TextLiterals

omit [nested.MakesTrees stream] [stream.IsSpelled]

theorem spares_quotation : Spares stream quotation := by
  refine ⟨.after fun token => ?_⟩
  split
  · exact .after fun _ => .pure trivial
  · exact .throw _

attribute [instance] spares_quotation

theorem spares_fieldExpression (line : Nat) (source : List Char) :
    Spares stream (nested.fieldExpression line source) := by
  constructor
  unfold fieldExpression
  dsimp only
  split
  · exact .pure trivial
  · exact .throw _

attribute [instance] spares_fieldExpression

mutual

theorem spares_readPiece (line : Nat) (piece : RawPiece) :
    Spares stream (nested.readPiece line piece) := by
  cases piece with
  | laidOut source lines conversion layout =>
      have ofLayout := spares_readPieces line layout
      unfold readPiece
      infer_instance
  | _ =>
      unfold readPiece
      infer_instance

theorem spares_readPieces (line : Nat) (pieces : List RawPiece) :
    Spares stream (nested.readPieces line pieces) := by
  cases pieces with
  | nil =>
      unfold readPieces
      infer_instance
  | cons piece rest =>
      have ofPiece := spares_readPiece line piece
      have ofRest := spares_readPieces line rest
      unfold readPieces
      infer_instance

end

attribute [instance] spares_readPieces

instance spares_bytesOf (literals : List (Nat × Quotation)) : Spares stream (bytesOf literals) := by
  induction literals with
  | nil =>
      unfold bytesOf
      infer_instance
  | cons literal rest ih =>
      have bytes : Spares stream (match literal.2.bytes? with
          | some bytes => do return bytes ++ (← bytesOf rest)
          | none => refuseFurthest) := by
        split <;> infer_instance
      unfold bytesOf
      infer_instance

instance spares_piecesOf (literals : List (Nat × Quotation)) :
    Spares stream (nested.piecesOf literals) := by
  induction literals with
  | nil =>
      unfold piecesOf
      infer_instance
  | cons literal rest ih =>
      have followed (pieces : List Piece) :
          Makes stream (do return pieces ++ (← nested.piecesOf rest)) fun _ => True :=
        ih.makes.bind fun _ _ => .pure trivial
      constructor
      unfold piecesOf
      dsimp only
      split
      · exact .refused
      · split
        · exact .after fun pieces => followed pieces
        · split
          · exact followed _
          · exact .refused

theorem makes_textLiteral : Makes stream nested.textLiteral Expr.IsCompact := by
  refine .after fun line => .after fun literals => ?_
  dsimp only
  split
  · exact .after fun _ => .pure ⟨.constant, rfl⟩
  · refine .after fun pieces => ?_
    split
    · exact .pure ⟨.formatted (areMerged_mergePieces _), rfl⟩
    · split <;> exact .pure ⟨.constant, rfl⟩

end TextLiterals

/-! ## Targets -/

omit [nested.MakesTrees stream] in
theorem makes_plainName : Makes stream plainName Expr.IsCompact :=
  .after fun _ => makes_identifier.bind fun _ word => .pure ⟨.name word, rfl⟩

theorem makes_partTarget : Makes stream nested.partTarget Expr.IsCompact := by
  have alone {target : Reading Expr} (makes : Makes stream target Expr.IsCompact) :
      Makes stream (do
        let target ← target
        followsNot trailerFollows
        return target) Expr.IsCompact :=
    makes.bind fun _ compact => .after fun _ => .pure compact
  refine .firstOf ⟨alone ?field, alone ?item⟩
  case field =>
    exact .after fun _ => (makes_compact .targetPrimary rfl).bind fun _ compact => .after fun _ =>
      makes_identifier.bind fun _ word =>
        .pure ⟨.attribute compact.written compact.compact word, rfl⟩
  case item =>
    exact .after fun _ => (makes_compact .targetPrimary rfl).bind fun _ compact =>
      makes_bracketedIndex.bind fun _ ofIndex =>
        .pure ⟨.subscript compact.written compact.compact ofIndex, rfl⟩

section Brackets

omit [nested.MakesTrees stream] [stream.IsSpelled]

variable {α : Type} {good : α → Prop} {inner : Reading α}

theorem makes_between (opening closing : String) (makes : Makes stream inner good) :
    Makes stream (between opening closing inner) fun found => good found.2 :=
  .after fun _ => makes.bind fun _ given => .after fun _ => .pure given

theorem makes_grouped (makes : Makes stream inner good) :
    Makes stream (Prod.snd <$> between "(" ")" inner) good :=
  (makes_between "(" ")" makes).map fun _ given => given

theorem makes_targetList (makes : Makes stream reader Expr.IsWritten) :
    Makes stream (targetList reader) fun targets => ∀ target ∈ targets, target.IsWritten :=
  (makes.separated ",").bind fun _ each => .after fun _ => .pure each

theorem makes_targetTuple (makes : Makes stream reader Expr.IsWritten) :
    Makes stream (targetTuple reader) fun targets => ∀ target ∈ targets, target.IsWritten := by
  refine makes.bind fun first ofFirst => (makes.behind (symbol ",")).many.bind fun rest each => ?_
  dsimp only
  split
  · exact .after fun _ => .pure (List.forall_mem_cons.mpr ⟨ofFirst, each⟩)
  · exact .after fun _ => .pure (List.forall_mem_cons.mpr ⟨ofFirst, each⟩)

/-- Items in brackets make a tuple or a list. -/
theorem makes_bracketedItems (opening closing : String) {items : Reading (List Expr)}
    {build : Nat → List Expr → Expr}
    (built : ∀ line items, (∀ item ∈ items, item.IsWritten) → (build line items).IsCompact)
    (makes : Makes stream items fun items => ∀ item ∈ items, item.IsWritten) :
    Makes stream (do
      let (line, items) ← between opening closing (perhaps items)
      return build line (items.getD [])) Expr.IsCompact :=
  (makes_between _ _ makes.perhaps).bind fun _ each =>
    .pure (built _ _ (Expr.isWritten_getD_nil each))

end Brackets

theorem makes_unstarredTarget : Makes stream nested.unstarredTarget Expr.IsCompact :=
  .firstOf ⟨makes_partTarget, makes_plainName, makes_grouped (makes_compact _ rfl),
    makes_bracketedItems _ _ (fun _ _ each => ⟨.tuple each, rfl⟩)
      (makes_targetTuple (makes_written _)),
    makes_bracketedItems _ _ (fun _ _ each => ⟨.list each, rfl⟩)
      (makes_targetList (makes_written _))⟩

theorem makes_target : Makes stream nested.target Expr.IsWritten :=
  .firstOf ⟨.after fun _ => .after fun _ => (makes_written .target).bind fun _ written =>
    .pure (.starred written), makes_written _⟩

theorem makes_singleTarget : Makes stream nested.singleTarget Expr.IsCompact :=
  .firstOf ⟨makes_partTarget, makes_plainName, makes_grouped (makes_compact _ rfl)⟩

theorem makes_deletedTarget : Makes stream nested.deletedTarget Expr.IsCompact :=
  .firstOf ⟨makes_partTarget, makes_plainName, makes_grouped (makes_compact _ rfl),
    makes_bracketedItems _ _ (fun _ _ each => ⟨.tuple each, rfl⟩)
      (makes_targetList (makes_written _)),
    makes_bracketedItems _ _ (fun _ _ each => ⟨.list each, rfl⟩)
      (makes_targetList (makes_written _))⟩

theorem makes_bracketed : Makes stream nested.bracketed Expr.IsCompact :=
  .firstOf ⟨makes_list, makes_tuple, makes_grouped (makes_compact _ rfl)⟩

/-! ## Expressions -/

theorem makes_conditional : Makes stream nested.conditional Expr.IsCompact :=
  .after fun _ => (makes_written .disjunction).bind fun _ ofBody => .after fun _ =>
    (makes_written .disjunction).bind fun _ ofTest => .after fun _ =>
      (makes_written .expression).bind fun _ ofOrElse =>
        .pure ⟨.conditional ofBody ofTest ofOrElse, rfl⟩

theorem makes_lambda : Makes stream nested.lambda Expr.IsCompact :=
  .after fun _ => makes_parameters.perhaps.bind fun _ found => .after fun _ =>
    (makes_written .expression).bind fun _ ofBody =>
      have each := isWritten_getD_parameters found
      .pure ⟨.lambda (fun parameter member => (each parameter member).word)
        (fun parameter member => (each parameter member).default) ofBody, rfl⟩

theorem makes_expression : Makes stream nested.expression Expr.IsCompact :=
  .firstOf ⟨.explaining, .explaining,
    .firstOf ⟨makes_conditional, makes_compact _ rfl, makes_lambda⟩⟩

instance : Spares stream nested.list := makes_list.spares

instance : Spares stream nested.tuple := makes_tuple.spares

instance : Spares stream nested.generator := makes_generator.spares

theorem makes_misplacedAssignment : Makes stream nested.misplacedAssignment Expr.IsCompact := by
  have equals : Spares stream (do
      symbol "="
      discard (nested.read .bitOr)
      followsNot (anySymbol ["=", ":="])) := inferInstance
  have other : Spares stream (firstOf [discard nested.list, discard nested.tuple,
      discard nested.generator, firstOf [word "True", word "None", word "False"]]) := inferInstance
  exact .mistakes

/-- Each rule makes well-written trees if those that it refers to do. -/
theorem makes_rule (rule : Rule) : Makes stream (nested.rule rule) rule.Makes := by
  have ofCompact {reader : Reading Expr} (makes : Makes stream reader Expr.IsCompact) :
      Makes stream reader rule.Makes := makes.mono fun _ compact => compact.makes rule
  cases rule with
  | starExpression =>
      have both : Makes stream (firstOf [nested.starred .bitOr, nested.read .expression])
          Expr.IsWritten := .firstOf ⟨makes_starred _, makes_written _⟩
      exact both.mono fun _ written => ⟨written, fun never => by cases never⟩
  | target => exact makes_target.mono fun _ written => ⟨written, fun never => by cases never⟩
  | expression => exact ofCompact makes_expression
  | misplacedAssignment => exact ofCompact makes_misplacedAssignment
  | disjunction => exact ofCompact (makes_logical _ _ rfl)
  | conjunction => exact ofCompact (makes_logical _ _ rfl)
  | inversion => exact ofCompact makes_inversion
  | bitOr => exact ofCompact (makes_binary _ _ rfl)
  | bitXor => exact ofCompact (makes_binary _ _ rfl)
  | bitAnd => exact ofCompact (makes_binary _ _ rfl)
  | shift => exact ofCompact (makes_binary _ _ rfl)
  | sum => exact ofCompact (makes_binary _ _ rfl)
  | product => exact ofCompact (makes_binary _ _ rfl)
  | factor => exact ofCompact makes_factor
  | awaited => exact ofCompact makes_awaited
  | primary => exact ofCompact makes_primary
  | textLiteral => exact ofCompact makes_textLiteral
  | unstarredTarget => exact ofCompact makes_unstarredTarget
  | singleTarget => exact ofCompact makes_singleTarget
  | deletedTarget => exact ofCompact makes_deletedTarget
  | targetPrimary => exact ofCompact makes_targetPrimary
  | bracketed => exact ofCompact makes_bracketed

end Nested

open Reading

theorem makes_readExpr [stream.IsSpelled] (steps : Nat) (rule : Rule) :
    Makes stream (readExpr steps rule) rule.Makes := by
  induction steps generalizing rule with
  | zero => exact .throw _
  | succ steps ih =>
      have trees : Nested.MakesTrees stream ⟨readExpr steps⟩ := ⟨ih⟩
      rw [readExpr]
      split
      · exact .remembered (isWrittenSlot_expressionSlot rule) (Nested.makes_rule rule)
      · exact Nested.makes_rule rule

instance [stream.IsSpelled] (length : Nat) : (nestedFor length).MakesTrees stream :=
  ⟨makes_readExpr _⟩

/-- The expression that a source consists of is well-written. -/
theorem isWritten_of_readExpression {chars : List Char} {value : Expr}
    (read : readExpression chars = .ok value) : value.IsWritten := by
  have compact : value.IsCompact := by
    refine Makes.of_run ?_ read
    exact Nested.makes_expressions.bind fun _ compact => .after fun _ => .after fun _ =>
      .pure compact
  exact compact.written

end Stringify.Source
