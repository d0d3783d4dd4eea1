import Stringify.Proofs.Source.Reading
import Stringify.Source.Expr.Reader

/-!
# The grammar of expressions

Whatever a rule of the grammar reads is read between the places before and after it, if what the
rules that it refers to read is.
-/

namespace Stringify.Source

variable {stream : TokenStream} {line start stop : Nat} {left value : Expr}

namespace Reading

/-- An expression that keeps no line but that of its opening is read from there on. -/
theorem reads_alone {opening : Reading Nat} {rest : Nat → Reading Expr}
    (lines : Reads stream opening stream.Covers)
    (each : ∀ line start, Gives stream start (rest line) fun _ value => value.IsAlone line) :
    Reads stream (opening >>= rest) (Expr.IsRead stream) :=
  fun start => (lines start).bind fun line place _ covers => (each line place).mono
    fun _ _ le alone => alone.isRead (covers.upTo le)

/-- So is one that keeps the line that it starts in. -/
theorem reads_alone_here {rest : Nat → Reading Expr} [∀ line, Writes stream (rest line)]
    (each : ∀ line start, Gives stream start (rest line) fun _ value => value.IsAlone line) :
    Reads stream (currentLine >>= rest) (Expr.IsRead stream) :=
  fun start => .atLine fun line lined => ((Writes.reads start).and (each line start)).mono
    fun _ _ _ both => both.2.isRead (lined.covers both.1)

end Reading

namespace Nested

open Reading

/-- The rules that a rule refers to read expressions between the places before and after these. -/
class IsSound (stream : TokenStream) (nested : Nested) : Prop where
  read : ∀ rule, Reads stream (nested.read rule) (Expr.IsRead stream)

variable {nested : Nested} {reader : Reading Expr} [nested.IsSound stream]

instance (rule : Rule) : Keeps stream (nested.read rule) := (IsSound.read rule).keeps

instance (rule : Rule) : Writes stream (nested.read rule) :=
  (IsSound.read rule).writes fun _ _ _ => Expr.IsRead.hasContent

/-! ## Items and tuples -/

theorem reads_starred (operand : Rule) :
    Reads stream (nested.starred operand) (Expr.IsRead stream) :=
  reads_alone (reads_symbolLine "*") fun _ _ => .after fun _ _ _ => .pure ⟨rfl, rfl⟩

theorem reads_assignment : Reads stream nested.assignment (Expr.IsRead stream) :=
  reads_alone_here fun _ _ => .after fun _ _ _ => .after fun _ _ _ => .after fun _ _ _ =>
    .pure ⟨rfl, rfl⟩

theorem reads_unassigned : Reads stream nested.unassigned (Expr.IsRead stream) :=
  fun start => (IsSound.read _ start).bind fun _ _ _ read => .after fun _ _ le =>
    .pure (Widens.upTo read le)

theorem reads_named : Reads stream nested.named (Expr.IsRead stream) :=
  .firstOf ⟨reads_assignment, .explaining, reads_unassigned⟩

theorem reads_item : Reads stream nested.item (Expr.IsRead stream) :=
  .firstOf ⟨reads_starred _, reads_named⟩

theorem reads_items : Reads stream nested.items (Each (Expr.IsRead stream)) :=
  fun start => (reads_item.separated "," start).bind fun _ _ _ given => .after fun _ _ le =>
    .pure (Widens.upTo given.2 le)

theorem reads_tupleOr (reads : Reads stream reader (Expr.IsRead stream)) :
    Reads stream (tupleOr reader) (Expr.IsRead stream) := by
  refine fun start => .atLine fun line lined => (reads start).bind fun first place _ read => ?_
  refine ((reads.behind (symbol ",")).many place).bind fun rest further le givenRest => ?_
  have covers : stream.Covers start further line := lined.covers (read.hasContent.upTo le)
  have readFirst : first.IsRead stream start further := Widens.upTo read le
  cases rest with
  | nil =>
      have single : Each (Expr.IsRead stream) start further [first] := by
        simpa [Each] using readFirst
      exact .firstOf ⟨.after fun _ _ more => .pure
        (Widens.upTo (Expr.IsRead.tuple covers single) more), .pure readFirst⟩
  | cons second later =>
      have each : Each (Expr.IsRead stream) start further (first :: second :: later) :=
        each_cons_iff.mpr ⟨readFirst, Widens.since givenRest (by omega)⟩
      exact .after fun _ _ more => .pure (Widens.upTo (Expr.IsRead.tuple covers each) more)

theorem reads_expressions : Reads stream nested.expressions (Expr.IsRead stream) :=
  reads_tupleOr (IsSound.read _)

theorem reads_starExpressions : Reads stream nested.starExpressions (Expr.IsRead stream) :=
  reads_tupleOr (IsSound.read _)

theorem reads_targets : Reads stream nested.targets (Expr.IsRead stream) :=
  reads_tupleOr (IsSound.read _)

instance : Keeps stream nested.starExpressions := reads_starExpressions.keeps

instance : Writes stream nested.starExpressions :=
  reads_starExpressions.writes fun _ _ _ => Expr.IsRead.hasContent

theorem reads_yielded : Reads stream nested.yielded (Expr.IsRead stream) :=
  reads_alone_here fun _ _ => .firstOf
    ⟨.after fun _ _ _ => .after fun _ _ _ => .after fun _ _ _ => .pure ⟨rfl, rfl⟩,
      .after fun _ _ _ => .after fun _ _ _ => .pure ⟨rfl, rfl⟩⟩

theorem reads_assignedValue : Reads stream nested.assignedValue (Expr.IsRead stream) :=
  .firstOf ⟨reads_yielded, reads_starExpressions⟩

instance : Keeps stream nested.yielded := reads_yielded.keeps

instance : Writes stream nested.yielded := reads_yielded.writes fun _ _ _ => Expr.IsRead.hasContent

instance : Keeps stream nested.assignedValue := reads_assignedValue.keeps

/-! ## Operators -/

theorem gives_leftGrouped (operators : List BinaryOp) (operand : Rule) (steps : Nat) {place : Nat}
    (le : start ≤ place) (covers : stream.Covers start place line)
    (read : left.IsRead stream start place) :
    Gives stream place (nested.leftGrouped operators operand line steps left) fun stop value =>
      value.IsRead stream start stop := by
  induction steps generalizing left place with
  | zero => exact .pure read
  | succ steps ih =>
      have step : Gives stream place (firstOf (operators.map fun operator => do
          symbol operator.symbol
          return Expr.binary line left operator (← nested.read operand))) fun stop value =>
            stream.Covers start stop line ∧ value.IsRead stream start stop := by
        apply Gives.firstOf
        rw [List.forall_map_iff, List.forall_iff_forall_mem]
        intro operator _
        refine .after fun _ further more => ?_
        refine (IsSound.read operand further).bind fun right stop last readRight => .pure ?_
        have whole : stream.Covers start stop line := covers.upTo (Nat.le_trans more last)
        exact ⟨whole, .binary whole (Widens.upTo read (Nat.le_trans more last))
          (Widens.since readRight (Nat.le_trans le more))⟩
      rw [leftGrouped]
      refine step.perhaps.bind fun found further more given => ?_
      cases found with
      | none => exact .pure (Widens.upTo read more)
      | some grouped =>
          obtain ⟨covers, read⟩ := given grouped rfl
          exact ih (Nat.le_trans le more) covers read

theorem reads_binary (operators : List BinaryOp) (operand : Rule) :
    Reads stream (nested.binary operators operand) (Expr.IsRead stream) := by
  refine fun start => .atLine fun line lined => ?_
  refine (IsSound.read operand start).bind fun first place le read => .after fun steps _ more => ?_
  exact gives_leftGrouped operators operand steps (Nat.le_trans le more)
    (lined.covers (read.hasContent.upTo more)) (Widens.upTo read more)

theorem reads_logical (operator : LogicalOp) (operand : Rule) :
    Reads stream (nested.logical operator operand) (Expr.IsRead stream) := by
  refine fun start => .atLine fun line lined => ?_
  refine (IsSound.read operand start).bind fun first place _ read => .after fun rest _ le => ?_
  cases rest with
  | nil => exact .pure (Widens.upTo read le)
  | cons second later =>
      have alone : (Expr.logical line operator (first :: second :: later)).IsAlone line :=
        ⟨rfl, rfl⟩
      exact .pure (alone.isRead (lined.covers (read.hasContent.upTo le)))

instance : Keeps stream nested.link := by
  unfold link
  infer_instance

theorem reads_comparison : Reads stream nested.comparison (Expr.IsRead stream) := by
  refine fun start => .atLine fun line lined => ?_
  refine (IsSound.read _ start).bind fun first place _ read => .after fun links _ le => ?_
  cases links with
  | nil => exact .pure (Widens.upTo read le)
  | cons second later =>
      have alone : (Expr.comparison line first (second :: later)).IsAlone line := ⟨rfl, rfl⟩
      exact .pure (alone.isRead (lined.covers (read.hasContent.upTo le)))

theorem reads_inversion : Reads stream nested.inversion (Expr.IsRead stream) :=
  .firstOf ⟨reads_alone (reads_wordLine "not") fun _ _ => .after fun _ _ _ => .pure ⟨rfl, rfl⟩,
    reads_comparison⟩

theorem reads_power : Reads stream nested.power (Expr.IsRead stream) := by
  refine fun start => .atLine fun line lined => ?_
  refine (IsSound.read _ start).bind fun base place le read => .firstOf ⟨?raised, .pure read⟩
  refine .after fun _ further more => ?_
  refine (IsSound.read _ further).bind fun exponent stop last readToo => .pure ?_
  have readBase : base.IsRead stream start stop := Widens.upTo read (Nat.le_trans more last)
  exact .binary (lined.covers readBase.hasContent) readBase
    (Widens.since readToo (Nat.le_trans le more))

theorem reads_factor : Reads stream nested.factor (Expr.IsRead stream) := by
  have signed (operator : UnaryOp) : Reads stream (do
      let line ← symbolLine operator.symbol
      return Expr.unary line operator (← nested.read .factor)) (Expr.IsRead stream) :=
    reads_alone (reads_symbolLine _) fun _ _ => .after fun _ _ _ => .pure ⟨rfl, rfl⟩
  exact .firstOf ⟨signed .plus, signed .minus, signed .invert, reads_power⟩

theorem reads_awaited : Reads stream nested.awaited (Expr.IsRead stream) :=
  .firstOf ⟨reads_alone (reads_wordLine "await") fun _ _ => .after fun _ _ _ => .pure ⟨rfl, rfl⟩,
    IsSound.read _⟩

/-! ## Displays -/

instance : Keeps stream nested.targets := reads_targets.keeps

instance : Keeps stream nested.named := reads_named.keeps

instance : Keeps stream nested.item := reads_item.keeps

instance : Keeps stream nested.items := reads_items.keeps

instance : Keeps stream nested.assignment := reads_assignment.keeps

instance : Keeps stream nested.unassigned := reads_unassigned.keeps

instance (isAsync : Bool) (target : Expr) : Keeps stream (nested.clauseRest isAsync target) := by
  unfold clauseRest
  infer_instance

instance {α : Type} : Keeps stream (nested.loopTargetMistake : Reading α) := ⟨.explaining⟩

instance {α : Type} : Writes stream (nested.loopTargetMistake : Reading α) := ⟨.explaining⟩

instance : Keeps stream nested.clauses := by
  unfold clauses clause
  infer_instance

theorem reads_comprehension (collection : Collection) {element : Reading Expr}
    [Keeps stream element] :
    Reads stream (nested.comprehension collection element) (Expr.IsRead stream) :=
  .firstOf ⟨reads_alone (reads_symbolLine _) fun _ _ => .after fun _ _ _ => .after fun _ _ _ =>
    .after fun _ _ _ => .pure ⟨rfl, rfl⟩, .explaining⟩

theorem reads_generator : Reads stream nested.generator (Expr.IsRead stream) :=
  reads_comprehension _

/-- A tuple has the line of the bracket before its items. -/
theorem reads_tupleIn {opening : Reading Nat} (closing : Reading Unit) [Keeps stream closing]
    {items : Reading (List Expr)} (lines : Reads stream opening stream.Covers)
    (reads : Reads stream items (Each (Expr.IsRead stream))) :
    Reads stream (do
      let line ← opening
      let items ← perhaps items
      closing
      return Expr.tuple line (items.getD [])) (Expr.IsRead stream) := by
  refine fun start => (lines start).bind fun line place le covers => ?_
  refine (reads place).perhaps.bind fun found further more given => .after fun _ stop last => ?_
  refine .pure (.tuple (covers.upTo (Nat.le_trans more last)) ?_)
  cases found with
  | none => simp [Each]
  | some items => exact Widens.widen (given items rfl) le last

theorem reads_tuple : Reads stream nested.tuple (Expr.IsRead stream) := by
  refine reads_tupleIn _ (reads_symbolLine "(") fun start => ?_
  refine (reads_item start).bind fun first place le read => .after fun _ further more => ?_
  refine (reads_items further).perhaps.bind fun rest stop last given => .pure ?_
  refine each_cons_iff.mpr ⟨Widens.upTo read (Nat.le_trans more last), ?_⟩
  cases rest with
  | none => simp [Each]
  | some items => exact Widens.since (given items rfl) (Nat.le_trans le more)

theorem reads_group : Reads stream nested.group (Expr.IsRead stream) := by
  have inside : Reads stream (firstOf [nested.yielded, nested.named]) (Expr.IsRead stream) :=
    .firstOf ⟨reads_yielded, reads_named⟩
  refine .firstOf ⟨fun start => .after fun _ place le => ?_, .explaining⟩
  exact (inside place).bind fun value _ _ read => .after fun _ _ more =>
    .pure (Widens.widen read le more)

theorem reads_parenthesized : Reads stream nested.parenthesized (Expr.IsRead stream) :=
  .firstOf ⟨reads_tuple, reads_group, reads_generator⟩

theorem reads_list : Reads stream nested.list (Expr.IsRead stream) :=
  reads_alone (reads_symbolLine "[") fun _ _ => .after fun _ _ _ => .after fun _ _ _ =>
    .pure ⟨rfl, rfl⟩

theorem reads_listDisplay : Reads stream nested.listDisplay (Expr.IsRead stream) :=
  .firstOf ⟨reads_list, reads_comprehension _⟩

instance : Keeps stream nested.keyedValue := by
  unfold keyedValue
  infer_instance

instance : Keeps stream nested.entry := by
  unfold entry
  infer_instance

instance : Keeps stream (firstOf nested.entryValueMistakes) := by
  unfold entryValueMistakes
  infer_instance

instance : Keeps stream (firstOf nested.entryMistakes) := by
  unfold entryMistakes
  infer_instance

instance : Keeps stream (firstOf nested.dictionaryMistakes) := by
  unfold dictionaryMistakes
  infer_instance

theorem reads_dictionary : Reads stream nested.dictionary (Expr.IsRead stream) :=
  .firstOf ⟨reads_alone (reads_symbolLine _) fun _ _ => .after fun _ _ _ => .after fun _ _ _ =>
    .pure ⟨rfl, rfl⟩, fun _ => .after fun _ _ _ => .mistakes⟩

theorem reads_set : Reads stream nested.set (Expr.IsRead stream) :=
  reads_alone (reads_symbolLine _) fun _ _ => .after fun _ _ _ => .after fun _ _ _ =>
    .pure ⟨rfl, rfl⟩

theorem reads_dictionaryOf : Reads stream nested.dictionaryOf (Expr.IsRead stream) :=
  .firstOf ⟨reads_alone (reads_symbolLine _) fun _ _ => .after fun _ _ _ => .after fun _ _ _ =>
    .after fun _ _ _ => .pure ⟨rfl, rfl⟩, .explaining⟩

theorem reads_braced : Reads stream nested.braced (Expr.IsRead stream) :=
  .firstOf ⟨reads_dictionary, reads_set, reads_dictionaryOf, reads_comprehension _⟩

/-! ## Arguments -/

instance : Keeps stream nested.generator := reads_generator.keeps

theorem reads_starredArgument : Reads stream nested.starredArgument (Argument.IsRead stream) :=
  fun start => (reads_starred _ start).bind fun _ _ _ read => .pure read

theorem reads_namedArgument : Reads stream nested.namedArgument (Argument.IsRead stream) :=
  fun _ => .after fun _ _ le => .after fun _ place more => (IsSound.read _ place).bind
    fun _ _ _ read => .pure (Widens.since read (Nat.le_trans le more))

theorem reads_unpackedArgument : Reads stream nested.unpackedArgument (Argument.IsRead stream) :=
  fun _ => .after fun _ place le => (IsSound.read _ place).bind fun _ _ _ read =>
    .pure (Widens.since read le)

theorem reads_positionalArgument :
    Reads stream nested.positionalArgument (Argument.IsRead stream) := by
  have value : Reads stream (firstOf [nested.assignment, nested.unassigned])
      (Expr.IsRead stream) := .firstOf ⟨reads_assignment, reads_unassigned⟩
  exact .firstOf ⟨reads_starredArgument, fun start => (value start).bind fun _ _ _ read =>
    .after fun _ _ le => .pure (Widens.upTo read le)⟩

/-- Arguments of two sorts, the former before the latter. -/
theorem reads_namedArguments :
    Reads stream nested.namedArguments (Each (Argument.IsRead stream)) := by
  have several (argument : Reading Argument)
      (reads : Reads stream argument (Argument.IsRead stream)) :
      Reads stream (separated "," (firstOf [explaining (mistakes nested.namedArgumentMistakes),
        nested.namedArgument, argument])) (Each (Argument.IsRead stream)) := by
    have item : Reads stream (firstOf [explaining (mistakes nested.namedArgumentMistakes),
        nested.namedArgument, argument]) (Argument.IsRead stream) :=
      .firstOf ⟨.explaining, reads_namedArgument, reads⟩
    exact fun start => (item.separated "," start).mono fun _ _ _ given => given.2
  have named := several nested.starredArgument reads_starredArgument
  have unpacked := several nested.unpackedArgument reads_unpackedArgument
  refine .firstOf ⟨fun start => ?_, named, unpacked⟩
  refine (named start).bind fun former place le given => .after fun _ further more => ?_
  refine (unpacked further).bind fun latter stop last givenToo => .pure ?_
  exact List.forall_mem_append.mpr ⟨Widens.upTo given (Nat.le_trans more last),
    Widens.since givenToo (Nat.le_trans le more)⟩

theorem reads_argumentList :
    Reads stream nested.argumentList (Each (Argument.IsRead stream)) := by
  refine .firstOf ⟨fun start => ?_, reads_namedArguments⟩
  refine (reads_positionalArgument.separated "," start).bind fun positional place le given => ?_
  refine ((reads_namedArguments.behind (symbol ",")) place).perhaps.bind
    fun named stop more givenToo => .pure ?_
  refine List.forall_mem_append.mpr ⟨Widens.upTo given.2 more, ?_⟩
  cases named with
  | none => simp
  | some arguments => exact Widens.since (givenToo arguments rfl) le

theorem reads_arguments : Reads stream nested.arguments (Each (Argument.IsRead stream)) := by
  refine .remembered isSound_argumentsSlot (.firstOf ⟨fun start => ?_, .explaining⟩)
  refine (reads_argumentList start).bind fun items place _ given => .after fun _ further le => ?_
  refine .after fun _ stop more => .pure ?_
  have whole : Each (Argument.IsRead stream) start stop items :=
    Widens.upTo given (Nat.le_trans le more)
  refine List.forall_mem_append.mpr ⟨fun argument member => ?_, fun argument member => ?_⟩
  · exact whole argument (List.mem_of_mem_filter member)
  · exact whole argument (List.mem_of_mem_filter member)

instance : Keeps stream nested.arguments := reads_arguments.keeps

/-! ## Parameters -/

section Parameters

variable {style : ParameterStyle}

instance : Keeps stream (nested.parameterName style) := by
  unfold parameterName
  infer_instance

instance : Keeps stream (nested.starAnnotatedName style) := by
  unfold starAnnotatedName
  infer_instance

instance : Keeps stream (parameterEnd style) := by
  unfold parameterEnd
  infer_instance

instance : Keeps stream nested.defaultValue := by
  unfold defaultValue
  infer_instance

instance : Keeps stream (nested.requiredParameter style) := by
  unfold requiredParameter
  infer_instance

instance : Keeps stream (nested.optionalParameter style) := by
  unfold optionalParameter
  infer_instance

instance : Keeps stream (nested.anyParameter style) := by
  unfold anyParameter
  infer_instance

instance : Keeps stream (nested.requiredBeforeSlash style) := by
  unfold requiredBeforeSlash
  infer_instance

instance : Keeps stream (nested.optionalBeforeSlash style) := by
  unfold optionalBeforeSlash
  infer_instance

instance : Keeps stream (nested.namedRest style) := by
  have rest : Reads stream (do
      symbol "**"
      match ← nested.requiredParameter style with
      | (_, .required name) => return [Parameter.namedRest name]
      | (_, parameter) => return [parameter]) fun _ _ _ => True := by
    refine fun _ => .after fun _ _ _ => .after fun found _ _ => ?_
    split
    · exact .pure trivial
    · exact .pure trivial
  exact ⟨.firstOf ⟨.explaining, rest⟩⟩

instance : Keeps stream (nested.starParameters style) := by
  have named (name : Reading (Nat × String)) [Keeps stream name] : Keeps stream (do
      symbol "*"
      let (_, name) ← name
      parameterEnd style
      let items ← many (nested.anyParameter style)
      return Parameter.rest name :: (← (do
        let rest ← perhaps (nested.namedRest style)
        return items.map Prod.snd ++ rest.getD []))) := by
    infer_instance
  exact ⟨.firstOf ⟨.explaining, (named _).reads, (named _).reads,
    fun _ => .after fun _ _ _ => .after fun _ _ _ => .after fun _ _ _ => .after fun _ _ _ =>
      .pure trivial, Keeps.reads⟩⟩

instance : Keeps stream (nested.parameters style) := by
  unfold parameters
  infer_instance

end Parameters

/-! ## Atoms and what follows them -/

theorem reads_slice : Reads stream nested.slice (Expr.IsRead stream) :=
  .firstOf ⟨reads_alone_here fun _ _ => .after fun _ _ _ => .after fun _ _ _ => .after fun _ _ _ =>
    .after fun _ _ _ => .pure ⟨rfl, rfl⟩, reads_named⟩

theorem reads_index : Reads stream nested.index (Expr.IsRead stream) := by
  have item : Reads stream (firstOf [nested.slice, nested.starred .expression])
      (Expr.IsRead stream) := .firstOf ⟨reads_slice, reads_starred _⟩
  refine .firstOf ⟨fun start => (reads_slice start).bind fun item _ _ read => .after fun _ _ le =>
    .pure (Widens.upTo read le), fun start => .atLine fun line lined => ?_⟩
  refine (item.separated "," start).bind fun items place _ given => .after fun _ stop le => ?_
  have each : Each (Expr.IsRead stream) start stop items := Widens.upTo given.2 le
  obtain ⟨first, rest, rfl⟩ := List.exists_cons_of_ne_nil given.1
  exact .pure (.tuple (lined.covers (each_cons_iff.mp each).1.hasContent) each)

theorem reads_bracketedIndex : Reads stream nested.bracketedIndex (Expr.IsRead stream) :=
  fun _ => .after fun _ place le => (reads_index place).bind fun _ _ _ read =>
    .after fun _ _ more => .pure (Widens.widen read le more)

/-- A number is no text. -/
theorem isAlone_of_constant? {written : List Char} {constant : Constant}
    (found : Number.constant? written = some constant) :
    (Expr.constant line constant).IsAlone line := by
  unfold Number.constant? at found
  split at found
  · rcases Option.map_eq_some_iff.mp found with ⟨value, _, rfl⟩
    exact ⟨rfl, rfl⟩
  · rcases Option.map_eq_some_iff.mp found with ⟨value, _, rfl⟩
    exact ⟨rfl, rfl⟩
  · rcases Option.map_eq_some_iff.mp found with ⟨value, _, rfl⟩
    exact ⟨rfl, rfl⟩
  · split_ifs at found <;> cases found <;> exact ⟨rfl, rfl⟩

/-- A token that is taken stands between the places before and after it. -/
theorem gives_advance_covers {token : Token} (found : stream.tokens[start]? = some token)
    (written : token.isLayout = false) :
    Gives stream start advance fun stop _ => stream.Covers start stop token.line :=
  (gives_advance_of_token found written).mono fun _ _ _ content =>
    TokenStream.HasLine.covers ⟨token, found, rfl⟩ content

theorem reads_number : Reads stream number (Expr.IsRead stream) := by
  refine fun start => .atToken fun token found => ?_
  split
  · next written same =>
      refine (gives_advance_covers found (by simp [Token.isLayout, same])).bind
        fun _ _ _ covers => ?_
      split
      · next constant found => exact .pure ((isAlone_of_constant? found).isRead covers)
      · exact .throw _
  · exact .throw _

theorem reads_atom : Reads stream nested.atom (Expr.IsRead stream) := by
  intro start
  have constant (token : Token) (found : stream.tokens[start]? = some token)
      (written : token.isLayout = false) (value : Constant)
      (alone : (Expr.constant token.line value).IsAlone token.line) :
      Gives stream start (do advance; return Expr.constant token.line value)
        fun stop value => value.IsRead stream start stop :=
    (gives_advance_covers found written).bind fun _ _ _ covers => .pure (alone.isRead covers)
  refine .atToken fun token found => ?_
  dsimp only
  split
  · next same => exact constant token found (by simp [Token.isLayout, same]) _ ⟨rfl, rfl⟩
  · next same => exact constant token found (by simp [Token.isLayout, same]) _ ⟨rfl, rfl⟩
  · next same => exact constant token found (by simp [Token.isLayout, same]) _ ⟨rfl, rfl⟩
  · refine .written fun name _ _ content => .pure ?_
    have alone : (Expr.name token.line name).IsAlone token.line := ⟨rfl, rfl⟩
    exact alone.isRead (TokenStream.HasLine.covers ⟨token, found, rfl⟩ content)
  · exact reads_number start
  · exact IsSound.read _ start
  · exact reads_parenthesized start
  · exact reads_listDisplay start
  · exact reads_braced start
  · next same => exact constant token found (by simp [Token.isLayout, same]) _ ⟨rfl, rfl⟩
  · exact .throw _

/-- What follows a value makes an expression that starts where the value does. -/
theorem gives_trailer {place : Nat} (le : start ≤ place) (covers : stream.Covers start place line) :
    Gives stream place (nested.trailer line value) fun stop longer =>
      stream.Covers start stop line ∧ longer.IsRead stream start stop := by
  have alone {stop : Nat} {longer : Expr} (more : place ≤ stop) (alone : longer.IsAlone line) :
      stream.Covers start stop line ∧ longer.IsRead stream start stop :=
    ⟨covers.upTo more, alone.isRead (covers.upTo more)⟩
  refine .firstOf ⟨?field, ?generator, ?call, ?subscript⟩
  case field =>
    exact .after fun _ _ more => .after fun _ _ last => .pure
      (alone (Nat.le_trans more last) ⟨rfl, rfl⟩)
  case generator => exact .after fun _ _ more => .pure (alone more ⟨rfl, rfl⟩)
  case call =>
    exact .after fun _ _ more => .after fun _ _ further => .after fun _ _ last => .pure
      (alone (Nat.le_trans more (Nat.le_trans further last)) ⟨rfl, rfl⟩)
  case subscript =>
    refine (reads_bracketedIndex place).bind fun index _ more read => .pure ?_
    exact ⟨covers.upTo more, .subscript (covers.upTo more) (Widens.since read le)⟩

theorem gives_trailers {trailer : Expr → Reading Expr}
    (each : ∀ value place, start ≤ place → stream.Covers start place line →
      Gives stream place (trailer value) fun stop longer =>
        stream.Covers start stop line ∧ longer.IsRead stream start stop)
    (steps : Nat) {place : Nat} (le : start ≤ place) (covers : stream.Covers start place line)
    (read : value.IsRead stream start place) :
    Gives stream place (trailers trailer steps value) fun stop longer =>
      longer.IsRead stream start stop := by
  induction steps generalizing value place with
  | zero => exact .pure read
  | succ steps ih =>
      rw [trailers]
      refine (each value place le covers).perhaps.bind fun found further more given => ?_
      cases found with
      | none => exact .pure (Widens.upTo read more)
      | some longer =>
          obtain ⟨covers, read⟩ := given longer rfl
          exact ih (Nat.le_trans le more) covers read

theorem reads_primary : Reads stream nested.primary (Expr.IsRead stream) := by
  refine fun start => .atLine fun line lined => .after fun steps place le => ?_
  refine (reads_atom place).bind fun value further more read => ?_
  have within : value.IsRead stream start further := Widens.since read le
  exact gives_trailers (fun _ _ le covers => gives_trailer le covers) steps (Nat.le_trans le more)
    (lined.covers within.hasContent) within

instance : Keeps stream trailerFollows := by
  unfold trailerFollows
  infer_instance

theorem reads_targetPrimary : Reads stream nested.targetPrimary (Expr.IsRead stream) := by
  refine fun start => .atLine fun line lined => ?_
  refine (reads_atom start).bind fun value place le read => ?_
  refine .after fun _ further more => .after fun steps last most => ?_
  have within : value.IsRead stream start last := Widens.upTo read (Nat.le_trans more most)
  refine gives_trailers (fun value place le covers => ?_) steps (by omega)
    (lined.covers within.hasContent) within
  refine (gives_trailer le covers).bind fun longer _ _ read => .after fun _ _ le => .pure ?_
  exact ⟨read.1.upTo le, Widens.upTo read.2 le⟩

/-! ## Targets -/

theorem reads_plainName : Reads stream plainName (Expr.IsRead stream) :=
  reads_alone_here fun _ _ => .after fun _ _ _ => .pure ⟨rfl, rfl⟩

theorem reads_partTarget : Reads stream nested.partTarget (Expr.IsRead stream) := by
  have alone {target : Reading Expr} (reads : Reads stream target (Expr.IsRead stream)) :
      Reads stream (do
        let target ← target
        followsNot trailerFollows
        return target) (Expr.IsRead stream) :=
    fun start => (reads start).bind fun _ _ _ read => .after fun _ _ le =>
      .pure (Widens.upTo read le)
  refine .firstOf ⟨alone ?field, alone ?item⟩
  case field =>
    exact reads_alone_here fun _ _ => .after fun _ _ _ => .after fun _ _ _ => .after fun _ _ _ =>
      .pure ⟨rfl, rfl⟩
  case item =>
    refine fun start => .atLine fun line lined => .written fun _ place le content => ?_
    refine (reads_bracketedIndex place).bind fun index _ more read => .pure ?_
    exact .subscript (lined.covers (content.upTo more)) (Widens.since read le)

/-- What stands in round brackets alone is read like itself. -/
theorem reads_grouped (reads : Reads stream reader (Expr.IsRead stream)) :
    Reads stream (Prod.snd <$> between "(" ")" reader) (Expr.IsRead stream) := by
  have inside : Reads stream (between "(" ")" reader) fun start stop found =>
      found.2.IsRead stream start stop :=
    fun _ => .after fun _ place le => (reads place).bind fun _ _ _ read => .after fun _ _ more =>
      .pure (Widens.widen read le more)
  exact fun start => (inside start).map fun _ _ read => read

theorem reads_targetList (reads : Reads stream reader (Expr.IsRead stream)) :
    Reads stream (targetList reader) (Each (Expr.IsRead stream)) :=
  fun start => (reads.separated "," start).bind fun _ _ _ given => .after fun _ _ le =>
    .pure (Widens.upTo given.2 le)

instance [Keeps stream reader] : Keeps stream (targetList reader) := by
  unfold targetList
  infer_instance

theorem reads_targetTuple (reads : Reads stream reader (Expr.IsRead stream)) :
    Reads stream (targetTuple reader) (Each (Expr.IsRead stream)) := by
  refine fun start => (reads start).bind fun first place le read => ?_
  refine ((reads.behind (symbol ",")).many place).bind fun rest further more given => ?_
  have both : Each (Expr.IsRead stream) start further (first :: rest) :=
    each_cons_iff.mpr ⟨Widens.upTo read more, Widens.since given le⟩
  dsimp only
  split
  · exact .after fun _ _ last => .pure (Widens.upTo both last)
  · exact .after fun _ _ last => .pure (Widens.upTo both last)

section Bracketed

variable {targets : Reading (List Expr)}

theorem reads_tupleOf (reads : Reads stream targets (Each (Expr.IsRead stream))) :
    Reads stream (do
      let (line, targets) ← between "(" ")" (perhaps targets)
      return Expr.tuple line (targets.getD [])) (Expr.IsRead stream) := by
  have bracketed := reads_tupleIn (symbol ")") (reads_symbolLine "(") reads
  unfold between
  simpa only [bind_assoc, pure_bind] using bracketed

theorem reads_listOf [Keeps stream targets] :
    Reads stream (do
      let (line, targets) ← between "[" "]" (perhaps targets)
      return Expr.list line (targets.getD [])) (Expr.IsRead stream) := by
  have bracketed : Reads stream (do
      let line ← symbolLine "["
      let targets ← perhaps targets
      symbol "]"
      return Expr.list line (targets.getD [])) (Expr.IsRead stream) :=
    reads_alone (reads_symbolLine "[") fun _ _ => .after fun _ _ _ => .after fun _ _ _ =>
      .pure ⟨rfl, rfl⟩
  unfold between
  simpa only [bind_assoc, pure_bind] using bracketed

end Bracketed

theorem reads_unstarredTarget : Reads stream nested.unstarredTarget (Expr.IsRead stream) :=
  .firstOf ⟨reads_partTarget, reads_plainName, reads_grouped (IsSound.read _),
    reads_tupleOf (reads_targetTuple (IsSound.read _)), reads_listOf⟩

theorem reads_target : Reads stream nested.target (Expr.IsRead stream) :=
  .firstOf ⟨reads_alone (reads_symbolLine "*") fun _ _ => .after fun _ _ _ => .after fun _ _ _ =>
    .pure ⟨rfl, rfl⟩, IsSound.read _⟩

theorem reads_singleTarget : Reads stream nested.singleTarget (Expr.IsRead stream) :=
  .firstOf ⟨reads_partTarget, reads_plainName, reads_grouped (IsSound.read _)⟩

theorem reads_deletedTarget : Reads stream nested.deletedTarget (Expr.IsRead stream) :=
  .firstOf ⟨reads_partTarget, reads_plainName, reads_grouped (IsSound.read _),
    reads_tupleOf (reads_targetList (IsSound.read _)), reads_listOf⟩

theorem reads_bracketed : Reads stream nested.bracketed (Expr.IsRead stream) :=
  .firstOf ⟨reads_list, reads_tuple, reads_grouped (IsSound.read _)⟩

end Nested

end Stringify.Source
