import Stringify.Proofs.Outcome
import Stringify.Proofs.Source.ClosedConstants
import Stringify.Proofs.Source.Lines
import Stringify.Proofs.Source.Written

/-!
# Printed expressions are closed

Where operands stand, a printed expression goes into parentheses if it binds more loosely. So what
is printed of a well-written tree is closed, and at the tightest level it has no operator outside
of brackets and quotes. A formatted text is one where the scanner gives up.
-/

namespace Stringify

open Source

/-! ## Formatted texts -/

theorem Text.isBraced_ofString (inner : String) (layout : Text) :
    IsBraced (ofString ("\x7b" ++ inner) ++ layout ++ ofString "\x7d") :=
  ⟨ofString inner ++ layout, by simp [ofString]⟩

theorem isBraced_fieldText {value : String} {conversion : Option Char} {layout text : Text}
    (written : fieldText value conversion layout = .ok text) : Text.IsBraced text := by
  unfold fieldText at written
  dsimp only at written
  split at written
  · cases written
  · cases written
    rw [String.append_assoc, String.append_assoc]
    exact Text.isBraced_ofString _ _

namespace Source

variable {stops : List Char} {text first inner opening closing : String} {value : Expr}

section Formatted

variable [Release] {pieces : List Piece} {parts : List (Text × Bool)}

/-- Fields are printed in braces. -/
theorem isBraced_of_printPieces (printed : printPieces pieces = .ok parts) :
    List.Forall₂ (fun piece part => piece.isText = false → Text.IsBraced part.1) pieces parts := by
  induction pieces generalizing parts with
  | nil =>
      cases printed
      exact .nil
  | cons piece rest ih =>
      cases piece with
      | text value =>
          simp only [printPieces, bind_eq_ok_iff, pure_eq_ok_iff] at printed
          obtain ⟨others, later, rfl⟩ := printed
          exact .cons (fun field => by cases field) (ih later)
      | field value conversion =>
          simp only [printPieces, bind_eq_ok_iff, pure_eq_ok_iff] at printed
          obtain ⟨_, -, text, written, others, later, rfl⟩ := printed
          exact .cons (fun _ => isBraced_fieldText written) (ih later)
      | laidOut value conversion layout =>
          simp only [printPieces, bind_eq_ok_iff, pure_eq_ok_iff] at printed
          obtain ⟨_, -, _, -, text, written, others, later, rfl⟩ := printed
          exact .cons (fun _ => isBraced_fieldText written) (ih later)

theorem alternates_of_printPieces (merged : AreMerged pieces)
    (printed : printPieces pieces = .ok parts) : Text.Alternates parts := by
  have braced := isBraced_of_printPieces printed
  clear printed
  induction braced with
  | nil => exact .nil
  | cons here later ih =>
      obtain ⟨apart, others⟩ := List.isChain_cons.mp merged
      refine List.isChain_cons.mpr ⟨?_, ih others⟩
      intro second head
      cases later with
      | nil => cases head
      | cons there _ =>
          cases head
          exact (apart _ rfl).imp here there

/-- Where releases fall back, the scanner comes to the end of a formatted text. -/
theorem scan?_formattedText (fallsBack : Release.fallsBack = true) {fence body : List Char}
    {quote : Char} {length : Nat} (quotes : Text.AreQuotes fence quote length)
    (fills : Text.Fills quote length 0 body 0) :
    ∃ trail, Spot.scan? stops (.outside 0 .mark) (fence ++ body ++ fence) =
      some (.outside 0 trail) := by
  have isQuote := quotes.isQuote
  have inside : Spot.scan? stops (.inside 0 quote length 0) (body ++ fence) =
      some (.outside 0 .clear) := by
    rw [Spot.scan?_append_of (Text.scan?_of_fills isQuote fills), quotes.scan?_inside]
  have first : Spot.next? stops (.outside 0 .mark) quote = some (.opened 0 quote) := by
    rw [Spot.next?, if_pos isQuote, Spot.enter, if_pos fallsBack]
  have second : Spot.next? stops (.opened 0 quote) quote = some (.outside 0 (.pair quote)) := by
    rw [Spot.next?, if_pos rfl]
  have third : Spot.next? stops (.outside 0 (.pair quote)) quote = some (.inside 0 quote 3 0) := by
    rw [Spot.next?, if_pos isQuote, Spot.enter, if_pos rfl]
  obtain ⟨rfl, -, rfl | rfl⟩ := quotes
  · -- A second quote right behind the first one ends the text only if there is nothing in it.
    cases body with
    | nil => exact ⟨.pair quote, by simp [Spot.scan?_cons, first, second]⟩
    | cons c rest =>
        have opened : Spot.next? stops (.opened 0 quote) c =
            Spot.next? stops (.inside 0 quote 1 0) c := by
          rw [Spot.next?, if_neg (fills.ne_of_single isQuote), Spot.next?]
        refine ⟨.clear, ?_⟩
        rw [← inside]
        simp [Spot.scan?_cons, first, opened]
  · refine ⟨.clear, ?_⟩
    rw [← inside]
    simp [List.replicate_succ, Spot.scan?_cons, first, second, third]

/-- A formatted text is closed where releases fall back to other quotes. In others the scanner gives
up where it begins. -/
theorem isClosed_formatted (alternates : Text.Alternates parts) :
    IsClosed compositionStops ("f" ++ Text.fencedParts parts) := by
  obtain ⟨fence, body, quote, length, quotes, written, fills⟩ := Text.exists_fencedParts parts
  have marked : Spot.scan? compositionStops (.outside 0 .clear) "f".toList =
      some (.outside 0 .mark) := rfl
  rw [IsClosed, String.toList_append, Spot.scan?_append_of marked, written]
  cases fallsBack : Release.fallsBack with
  | true =>
      obtain ⟨trail, scanned⟩ := scan?_formattedText fallsBack quotes (fills fallsBack alternates)
      exact ⟨_, scanned, .outside trail⟩
  | false =>
      obtain ⟨rest, rfl⟩ := List.head?_eq_some_iff.mp quotes.head?_eq
      have begun : Spot.next? compositionStops (.outside 0 .mark) quote = some .formatted := by
        rw [Spot.next?, if_pos quotes.isQuote, Spot.enter, if_neg (by simp [fallsBack])]
      refine ⟨.formatted, ?_, .formatted⟩
      rw [List.cons_append, List.cons_append, Spot.scan?_cons, begun, Option.bind_some,
        Spot.scan?_formatted]

end Formatted

/-! ## Parts of expressions -/

variable [Release]

theorem IsClosed.enclosing (former : IsClosed stops first) (brackets : AreBrackets opening closing)
    (closed : IsClosed [] inner) : IsClosed stops (first ++ opening ++ inner ++ closing) := by
  have behind : Continues stops (opening ++ inner ++ closing) := brackets.continues closed
  have whole := former.append behind
  rwa [← String.append_assoc, ← String.append_assoc] at whole

theorem isClosed_enclosedIf (closed : IsClosed [] inner) (condition : Bool) :
    IsClosed [] (enclosedIf condition inner) := by
  cases condition with
  | false => exact closed
  | true => exact (areBrackets_round.continues closed).isClosed

/-- What is printed of an expression is closed, and if it may stand alone, there is no operator on
the outside of it at the tightest level. -/
structure Expr.PrintsClosed (value : Expr) : Prop where
  loose : ∀ level text, printAt false level value = .ok text → IsClosed [] text
  tight : value.isSpread = false → ∀ text, printAt false .atom value = .ok text →
    IsClosed compositionStops text

namespace Expr.PrintsClosed

theorem of_tight (printed : ∀ level text, printAt false level value = .ok text →
    IsClosed compositionStops text) : value.PrintsClosed where
  loose level text found := (printed level text found).mono (List.nil_subset _)
  tight _ := printed .atom

/-- An operation is printed in parentheses at the tightest level. -/
theorem of_enclosed {content : Except PrintError String} {condition : Level → Bool}
    (printed : ∀ level, printAt false level value = do
      return enclosedIf (condition level) (← content))
    (enclosed : condition .atom = true) (closed : ∀ text, content = .ok text → IsClosed [] text) :
    value.PrintsClosed where
  loose level text found := by
    rw [printed, bind_eq_ok_iff] at found
    obtain ⟨inner, written, same⟩ := found
    cases same
    exact isClosed_enclosedIf (closed inner written) _
  tight _ text found := by
    rw [printed, enclosed, bind_eq_ok_iff] at found
    obtain ⟨inner, written, same⟩ := found
    cases same
    exact (areBrackets_round.continues (closed inner written)).isClosed

end Expr.PrintsClosed

section Lists

variable {texts : List String}

theorem isClosed_of_printOptional {value : Option Expr} {level : Level}
    (each : ∀ inner ∈ value, inner.PrintsClosed)
    (printed : printOptional false level value = .ok text) : IsClosed [] text := by
  cases value with
  | none =>
      cases printed
      exact isClosed_empty
  | some value => exact (each value rfl).loose level text printed

theorem isClosed_of_printItems {items : List Expr} (each : ∀ item ∈ items, item.PrintsClosed)
    (printed : printItems false items = .ok texts) : ∀ text ∈ texts, IsClosed [] text := by
  induction items generalizing texts with
  | nil =>
      cases printed
      simp
  | cons item rest ih =>
      obtain ⟨ofItem, ofRest⟩ := List.forall_mem_cons.mp each
      simp only [printItems, bind_eq_ok_iff, pure_eq_ok_iff] at printed
      obtain ⟨text, here, others, later, rfl⟩ := printed
      exact List.forall_mem_cons.mpr ⟨ofItem.loose _ text here, ih ofRest later⟩

theorem isClosed_of_printRising {operands : List Expr} {level : Level}
    (each : ∀ operand ∈ operands, operand.PrintsClosed)
    (printed : printRising false level operands = .ok texts) :
    ∀ text ∈ texts, IsClosed [] text := by
  induction operands generalizing texts level with
  | nil =>
      cases printed
      simp
  | cons operand rest ih =>
      obtain ⟨ofOperand, ofRest⟩ := List.forall_mem_cons.mp each
      simp only [printRising, bind_eq_ok_iff, pure_eq_ok_iff] at printed
      obtain ⟨text, here, others, later, rfl⟩ := printed
      exact List.forall_mem_cons.mpr ⟨ofOperand.loose _ text here, ih ofRest later⟩

theorem isClosed_word (word : IsWord text) : IsClosed [] text :=
  word.continues.isClosed.mono (List.nil_subset _)

theorem isClosed_of_printArguments {arguments : List Argument}
    (words : ∀ argument ∈ arguments, ∀ name ∈ argument.name?, IsWord name)
    (values : ∀ argument ∈ arguments, argument.value.PrintsClosed)
    (printed : printArguments false arguments = .ok texts) : ∀ text ∈ texts, IsClosed [] text := by
  induction arguments generalizing texts with
  | nil =>
      cases printed
      simp
  | cons argument rest ih =>
      obtain ⟨word, ofWords⟩ := List.forall_mem_cons.mp words
      obtain ⟨ofValue, ofValues⟩ := List.forall_mem_cons.mp values
      have stars : IsGap [] "**" := fun _ => rfl
      cases argument with
      | positional value =>
          simp only [printArguments, bind_eq_ok_iff, pure_eq_ok_iff] at printed
          obtain ⟨text, here, others, later, rfl⟩ := printed
          exact List.forall_mem_cons.mpr ⟨ofValue.loose _ text here, ih ofWords ofValues later⟩
      | named name value =>
          simp only [printArguments, bind_eq_ok_iff, pure_eq_ok_iff] at printed
          obtain ⟨text, here, others, later, rfl⟩ := printed
          refine List.forall_mem_cons.mpr ⟨?_, ih ofWords ofValues later⟩
          exact (isClosed_word (word name rfl)).joined (fun _ => rfl) (ofValue.loose _ text here)
      | unpacked value =>
          simp only [printArguments, bind_eq_ok_iff, pure_eq_ok_iff] at printed
          obtain ⟨text, here, others, later, rfl⟩ := printed
          refine List.forall_mem_cons.mpr ⟨?_, ih ofWords ofValues later⟩
          exact (stars.append (ofValue.loose _ text here)).isClosed

theorem continues_of_printLinks {links : List Link}
    (each : ∀ link ∈ links, link.operand.PrintsClosed)
    (printed : printLinks false links = .ok text) : Continues [] text := by
  induction links generalizing text with
  | nil =>
      cases printed
      exact continues_empty
  | cons link rest ih =>
      obtain ⟨ofLink, ofRest⟩ := List.forall_mem_cons.mp each
      obtain ⟨comparator, operand⟩ := link
      simp only [printLinks, bind_eq_ok_iff, pure_eq_ok_iff] at printed
      obtain ⟨middle, here, others, later, rfl⟩ := printed
      have gap : IsGap [] s!" {comparator.symbol} " := by
        cases comparator <;> exact fun _ => rfl
      exact (gap.append (ofLink.loose _ middle here)).append (ih ofRest later)

theorem isClosed_of_printParameters {parameters : List Parameter}
    (words : ∀ parameter ∈ parameters, ∀ name ∈ parameter.name?, IsWord name)
    (defaults : ∀ parameter ∈ parameters, ∀ value ∈ parameter.default?, value.PrintsClosed)
    (printed : printParameters false parameters = .ok texts) :
    ∀ text ∈ texts, IsClosed [] text := by
  induction parameters generalizing texts with
  | nil =>
      cases printed
      simp
  | cons parameter rest ih =>
      obtain ⟨word, ofWords⟩ := List.forall_mem_cons.mp words
      obtain ⟨ofDefault, ofDefaults⟩ := List.forall_mem_cons.mp defaults
      have star : IsGap [] "*" := fun _ => rfl
      have stars : IsGap [] "**" := fun _ => rfl
      have slash : IsGap [] "/" := fun _ => rfl
      cases parameter with
      | required name =>
          simp only [printParameters, bind_eq_ok_iff, pure_eq_ok_iff] at printed
          obtain ⟨others, later, rfl⟩ := printed
          exact List.forall_mem_cons.mpr
            ⟨isClosed_word (word name rfl), ih ofWords ofDefaults later⟩
      | optional name default =>
          simp only [printParameters, bind_eq_ok_iff, pure_eq_ok_iff] at printed
          obtain ⟨text, here, others, later, rfl⟩ := printed
          refine List.forall_mem_cons.mpr ⟨?_, ih ofWords ofDefaults later⟩
          exact (isClosed_word (word name rfl)).joined (fun _ => rfl)
            ((ofDefault default rfl).loose _ text here)
      | endPositional =>
          simp only [printParameters, bind_eq_ok_iff, pure_eq_ok_iff] at printed
          obtain ⟨others, later, rfl⟩ := printed
          exact List.forall_mem_cons.mpr
            ⟨slash.isSettled.isClosed, ih ofWords ofDefaults later⟩
      | startNamed =>
          simp only [printParameters, bind_eq_ok_iff, pure_eq_ok_iff] at printed
          obtain ⟨others, later, rfl⟩ := printed
          exact List.forall_mem_cons.mpr
            ⟨star.isSettled.isClosed, ih ofWords ofDefaults later⟩
      | rest name =>
          simp only [printParameters, bind_eq_ok_iff, pure_eq_ok_iff] at printed
          obtain ⟨others, later, rfl⟩ := printed
          exact List.forall_mem_cons.mpr
            ⟨(star.append (isClosed_word (word name rfl))).isClosed, ih ofWords ofDefaults later⟩
      | namedRest name =>
          simp only [printParameters, bind_eq_ok_iff, pure_eq_ok_iff] at printed
          obtain ⟨others, later, rfl⟩ := printed
          exact List.forall_mem_cons.mpr
            ⟨(stars.append (isClosed_word (word name rfl))).isClosed, ih ofWords ofDefaults later⟩

theorem isClosed_of_printEntries {entries : List Entry}
    (each : ∀ entry ∈ entries, ∀ part ∈ entry.parts, part.PrintsClosed)
    (printed : printEntries false entries = .ok texts) : ∀ text ∈ texts, IsClosed [] text := by
  induction entries generalizing texts with
  | nil =>
      cases printed
      simp
  | cons entry rest ih =>
      obtain ⟨ofEntry, ofRest⟩ := List.forall_mem_cons.mp each
      have stars : IsGap [] "**" := fun _ => rfl
      cases entry with
      | pair key value =>
          simp only [printEntries, bind_eq_ok_iff, pure_eq_ok_iff] at printed
          obtain ⟨front, ofKey, back, ofValue, others, later, rfl⟩ := printed
          refine List.forall_mem_cons.mpr ⟨?_, ih ofRest later⟩
          exact ((ofEntry key (by simp [Entry.parts])).loose _ front ofKey).joined (fun _ => rfl)
            ((ofEntry value (by simp [Entry.parts])).loose _ back ofValue)
      | unpacked value =>
          simp only [printEntries, bind_eq_ok_iff, pure_eq_ok_iff] at printed
          obtain ⟨text, here, others, later, rfl⟩ := printed
          refine List.forall_mem_cons.mpr ⟨?_, ih ofRest later⟩
          exact (stars.append ((ofEntry value (by simp [Entry.parts])).loose _ text here)).isClosed

theorem continues_of_printConditions {conditions : List Expr}
    (each : ∀ condition ∈ conditions, condition.PrintsClosed)
    (printed : printConditions false conditions = .ok text) : Continues [] text := by
  induction conditions generalizing text with
  | nil =>
      cases printed
      exact continues_empty
  | cons condition rest ih =>
      obtain ⟨ofCondition, ofRest⟩ := List.forall_mem_cons.mp each
      simp only [printConditions, bind_eq_ok_iff, pure_eq_ok_iff] at printed
      obtain ⟨middle, here, others, later, rfl⟩ := printed
      have gap : IsGap [] " if " := fun _ => rfl
      exact (gap.append (ofCondition.loose _ middle here)).append (ih ofRest later)

theorem continues_of_printClauses {clauses : List Clause}
    (each : ∀ clause ∈ clauses, ∀ part ∈ clause.parts, part.PrintsClosed)
    (printed : printClauses false clauses = .ok text) : Continues [] text := by
  induction clauses generalizing text with
  | nil =>
      cases printed
      exact continues_empty
  | cons clause rest ih =>
      obtain ⟨ofClause, ofRest⟩ := List.forall_mem_cons.mp each
      obtain ⟨isAsync, target, iterable, conditions⟩ := clause
      obtain ⟨ofTarget, ofIterable, ofConditions⟩ : target.PrintsClosed ∧ iterable.PrintsClosed ∧
          ∀ condition ∈ conditions, condition.PrintsClosed := by
        simpa [Clause.parts] using ofClause
      simp only [printClauses, bind_eq_ok_iff, pure_eq_ok_iff] at printed
      obtain ⟨front, here, middle, further, back, tested, others, later, rfl⟩ := printed
      have mark : IsGap [] (if isAsync then " async for " else " for ") := by
        cases isAsync <;> exact fun _ => rfl
      have head : Continues [] ((if isAsync then " async for " else " for ") ++ front ++ " in " ++
          middle) := by
        have whole := mark.append ((ofTarget.loose _ front here).joined
          (fun _ => rfl : IsGap [] " in ") (ofIterable.loose _ middle further))
        rwa [← String.append_assoc, ← String.append_assoc] at whole
      exact (head.append (continues_of_printConditions ofConditions tested)).append
        (ih ofRest later)

theorem isClosed_tupleItems (each : ∀ text ∈ texts, IsClosed [] text) :
    IsClosed [] (tupleItems texts) := by
  fun_cases tupleItems texts with
  | case1 item => exact ((each item (by simp)).append_gap fun _ => rfl).isClosed
  | case2 items single => exact isClosed_intercalate (fun _ => rfl) each

theorem isClosed_commas (each : ∀ text ∈ texts, IsClosed [] text) :
    IsClosed [] (", ".intercalate texts) :=
  isClosed_intercalate (fun _ => rfl) each

end Lists

/-! ## The forms of expressions -/

namespace Expr

variable {line : Nat} {left right index function body test orElse target element key : Expr}
variable {items operands : List Expr} {clauses : List Clause}

theorem printsClosed_name {name : String} (word : IsWord name) :
    (Expr.name line name).PrintsClosed := by
  refine .of_tight fun level text printed => ?_
  cases printed
  exact word.continues.isClosed

theorem printsClosed_constant {constant : Constant} :
    (Expr.constant line constant).PrintsClosed :=
  .of_tight fun _ _ printed => Constant.isClosed_print printed

theorem printsClosed_attribute {field : String} (closed : value.PrintsClosed)
    (compact : value.isSpread = false) (word : IsWord field) :
    (Expr.attribute line value field).PrintsClosed := by
  refine .of_tight fun level text printed => ?_
  simp only [printAt, bind_eq_ok_iff, pure_eq_ok_iff] at printed
  obtain ⟨front, here, rfl⟩ := printed
  have ofFront := closed.tight compact front here
  cases value.isInteger with
  | true => exact ((ofFront.append_gap fun _ => rfl).isClosed.joined (fun _ => rfl)
      word.continues.isClosed)
  | false =>
      have whole := ofFront.joined (fun _ => rfl : IsGap compositionStops ".")
        word.continues.isClosed
      simpa using whole

theorem printsClosed_subscript (closed : value.PrintsClosed) (compact : value.isSpread = false)
    (ofIndex : index.PrintsClosed) : (Expr.subscript line value index).PrintsClosed := by
  refine .of_tight fun level text printed => ?_
  simp only [printAt_subscript, bind_eq_ok_iff, pure_eq_ok_iff] at printed
  obtain ⟨front, here, inner, inside, rfl⟩ := printed
  exact (closed.tight compact front here).enclosing areBrackets_square
    (ofIndex.loose _ inner inside)

theorem printsClosed_call {arguments : List Argument} (closed : function.PrintsClosed)
    (compact : function.isSpread = false)
    (words : ∀ argument ∈ arguments, ∀ name ∈ argument.name?, IsWord name)
    (values : ∀ argument ∈ arguments, argument.value.PrintsClosed) :
    (Expr.call line function arguments).PrintsClosed := by
  refine .of_tight fun level text printed => ?_
  simp only [printAt, bind_eq_ok_iff, pure_eq_ok_iff] at printed
  obtain ⟨front, here, texts, inside, rfl⟩ := printed
  exact (closed.tight compact front here).enclosing areBrackets_round
    (isClosed_commas (isClosed_of_printArguments words values inside))

/-- An operation that is printed by a mark before its operand. -/
theorem printsClosed_of_gap {mark : String} {operation : Expr} {level operandLevel : Level}
    (gap : IsGap [] mark) (printed : ∀ outer, printAt false outer operation = do
      return enclosedIf (level.isBelow outer) (mark ++ (← printAt false operandLevel value)))
    (enclosed : level.isBelow .atom = true) (closed : value.PrintsClosed) :
    operation.PrintsClosed := by
  refine @PrintsClosed.of_enclosed _ _ (do
    return mark ++ (← printAt false operandLevel value)) level.isBelow
    (fun outer => by rw [printed]; simp only [bind_assoc, pure_bind]) enclosed ?_
  intro text found
  simp only [bind_eq_ok_iff, pure_eq_ok_iff] at found
  obtain ⟨inner, here, rfl⟩ := found
  exact (gap.append (closed.loose _ inner here)).isClosed

theorem printsClosed_unary {operator : UnaryOp} (closed : value.PrintsClosed) :
    (Expr.unary line operator value).PrintsClosed := by
  have gap : IsGap [] operator.symbol := by
    cases operator <;> exact fun _ => rfl
  exact printsClosed_of_gap gap (fun _ => rfl) (by cases operator <;> rfl) closed

theorem printsClosed_binary {operator : BinaryOp} (ofLeft : left.PrintsClosed)
    (ofRight : right.PrintsClosed) : (Expr.binary line left operator right).PrintsClosed := by
  have gap : IsGap [] s!" {operator.symbol} " := by
    cases operator <;> exact fun _ => rfl
  refine @PrintsClosed.of_enclosed _ _ (do
    let former ← printAt false operator.operandLevels.1 left
    let latter ← printAt false operator.operandLevels.2 right
    return former ++ s!" {operator.symbol} " ++ latter) operator.level.isBelow
    (fun level => by simp only [printAt, bind_assoc, pure_bind]) (by cases operator <;> rfl) ?_
  intro text printed
  simp only [bind_eq_ok_iff, pure_eq_ok_iff] at printed
  obtain ⟨former, here, latter, there, rfl⟩ := printed
  exact (ofLeft.loose _ former here).joined gap (ofRight.loose _ latter there)

theorem printsClosed_logical {operator : LogicalOp}
    (each : ∀ operand ∈ operands, operand.PrintsClosed) :
    (Expr.logical line operator operands).PrintsClosed := by
  have gap : IsGap [] s!" {operator.symbol} " := by
    cases operator <;> exact fun _ => rfl
  refine @PrintsClosed.of_enclosed _ _ (do
    let texts ← printRising false operator.level.next operands
    return s!" {operator.symbol} ".intercalate texts) operator.level.isBelow
    (fun level => by simp only [printAt, bind_assoc, pure_bind]) (by cases operator <;> rfl) ?_
  intro text printed
  simp only [bind_eq_ok_iff, pure_eq_ok_iff] at printed
  obtain ⟨texts, here, rfl⟩ := printed
  exact isClosed_intercalate gap (isClosed_of_printRising each here)

theorem printsClosed_comparison {links : List Link} (closed : value.PrintsClosed)
    (each : ∀ link ∈ links, link.operand.PrintsClosed) :
    (Expr.comparison line value links).PrintsClosed := by
  refine @PrintsClosed.of_enclosed _ _ (do
    let first ← printAt false Level.comparison.next value
    return first ++ (← printLinks false links)) Level.comparison.isBelow
    (fun level => by simp only [printAt, bind_assoc, pure_bind]) rfl ?_
  intro text printed
  simp only [bind_eq_ok_iff, pure_eq_ok_iff] at printed
  obtain ⟨first, here, rest, later, rfl⟩ := printed
  exact (closed.loose _ first here).append (continues_of_printLinks each later)

theorem printsClosed_conditional (ofBody : body.PrintsClosed) (ofTest : test.PrintsClosed)
    (ofOrElse : orElse.PrintsClosed) : (Expr.conditional line body test orElse).PrintsClosed := by
  refine @PrintsClosed.of_enclosed _ _ (do
    let body ← printAt false Level.test.next body
    let test ← printAt false Level.test.next test
    let orElse ← printAt false .test orElse
    return s!"{body} if {test} else {orElse}") Level.test.isBelow
    (fun level => by simp only [printAt, bind_assoc, pure_bind]) rfl ?_
  intro text printed
  simp only [bind_eq_ok_iff, pure_eq_ok_iff] at printed
  obtain ⟨front, here, middle, there, back, last, rfl⟩ := printed
  exact ((ofBody.loose _ front here).joined (fun _ => rfl) (ofTest.loose _ middle there)).joined
    (fun _ => rfl) (ofOrElse.loose _ back last)

theorem printsClosed_lambda {parameters : List Parameter}
    (words : ∀ parameter ∈ parameters, ∀ name ∈ parameter.name?, IsWord name)
    (defaults : ∀ parameter ∈ parameters, ∀ value ∈ parameter.default?, value.PrintsClosed)
    (ofBody : body.PrintsClosed) : (Expr.lambda line parameters body).PrintsClosed := by
  refine @PrintsClosed.of_enclosed _ _ (do
    let parameters ← printParameters false parameters
    let gap := if parameters.isEmpty then "" else " "
    let body ← printAt false .test body
    return "lambda" ++ gap ++ ", ".intercalate parameters ++ ": " ++ body) Level.test.isBelow
    (fun level => by simp only [printAt, bind_assoc, pure_bind]) rfl ?_
  intro text printed
  simp only [bind_eq_ok_iff, pure_eq_ok_iff] at printed
  obtain ⟨texts, here, inner, there, rfl⟩ := printed
  have head : IsGap [] ("lambda" ++ if texts.isEmpty then "" else " ") := by
    cases texts.isEmpty <;> exact fun _ => rfl
  have list := isClosed_commas (isClosed_of_printParameters words defaults here)
  exact (head.append list).isClosed.joined (fun _ => rfl) (ofBody.loose _ inner there)

theorem printsClosed_assignment (ofTarget : target.PrintsClosed) (closed : value.PrintsClosed) :
    (Expr.assignment line target value).PrintsClosed := by
  refine @PrintsClosed.of_enclosed _ _ (do
    let target ← printAt false .atom target
    let value ← printAt false .atom value
    return s!"{target} := {value}") Level.named.isBelow
    (fun level => by simp only [printAt, bind_assoc, pure_bind]) rfl ?_
  intro text printed
  simp only [bind_eq_ok_iff, pure_eq_ok_iff] at printed
  obtain ⟨front, here, back, there, rfl⟩ := printed
  exact (ofTarget.loose _ front here).joined (fun _ => rfl) (closed.loose _ back there)

theorem printsClosed_await (closed : value.PrintsClosed) : (Expr.await line value).PrintsClosed :=
  printsClosed_of_gap (fun _ => rfl) (fun _ => rfl) rfl closed

theorem printsClosed_yieldFrom (closed : value.PrintsClosed) :
    (Expr.yieldFrom line value).PrintsClosed :=
  printsClosed_of_gap (fun _ => rfl) (fun _ => rfl) rfl closed

theorem printsClosed_yield {value : Option Expr} (each : ∀ inner ∈ value, inner.PrintsClosed) :
    (Expr.yield line value).PrintsClosed := by
  refine @PrintsClosed.of_enclosed _ _ (do
    let value ← printOptional false .atom value
    return "yield" ++ (if value.isEmpty then "" else " ") ++ value) Level.yield.isBelow
    (fun level => by simp only [printAt, bind_assoc, pure_bind]) rfl ?_
  intro text printed
  simp only [bind_eq_ok_iff, pure_eq_ok_iff] at printed
  obtain ⟨inner, here, rfl⟩ := printed
  have head : IsGap [] ("yield" ++ if inner.isEmpty then "" else " ") := by
    cases inner.isEmpty <;> exact fun _ => rfl
  exact (head.append (isClosed_of_printOptional each here)).isClosed

theorem printsClosed_starred (closed : value.PrintsClosed) :
    (Expr.starred line value).PrintsClosed where
  loose level text printed := by
    simp only [printAt, bind_eq_ok_iff, pure_eq_ok_iff] at printed
    obtain ⟨inner, here, rfl⟩ := printed
    have star : IsGap [] "*" := fun _ => rfl
    exact (star.append (closed.loose _ inner here)).isClosed
  tight compact := by cases compact

theorem printsClosed_tuple (each : ∀ item ∈ items, item.PrintsClosed) :
    (Expr.tuple line items).PrintsClosed := by
  refine @PrintsClosed.of_enclosed _ _ (do
    return tupleItems (← printItems false items))
    (fun level => items.isEmpty || Level.tuple.isBelow level)
    (fun level => by simp only [printAt, bind_assoc, pure_bind]) (Bool.or_true _) ?_
  intro text printed
  simp only [bind_eq_ok_iff, pure_eq_ok_iff] at printed
  obtain ⟨texts, here, rfl⟩ := printed
  exact isClosed_tupleItems (isClosed_of_printItems each here)

theorem printsClosed_list (each : ∀ item ∈ items, item.PrintsClosed) :
    (Expr.list line items).PrintsClosed := by
  refine .of_tight fun level text printed => ?_
  simp only [printAt, bind_eq_ok_iff, pure_eq_ok_iff] at printed
  obtain ⟨texts, here, rfl⟩ := printed
  exact (areBrackets_square.continues (isClosed_commas (isClosed_of_printItems each here))).isClosed

theorem printsClosed_set (each : ∀ item ∈ items, item.PrintsClosed) :
    (Expr.set line items).PrintsClosed := by
  refine .of_tight fun level text printed => ?_
  simp only [printAt, bind_eq_ok_iff, pure_eq_ok_iff] at printed
  obtain ⟨texts, here, rfl⟩ := printed
  refine (areBrackets_curly.continues ?_).isClosed
  cases texts.isEmpty with
  | true =>
      have unpacked : IsGap [] "*()" := fun _ => rfl
      exact unpacked.isSettled.isClosed
  | false => exact isClosed_commas (isClosed_of_printItems each here)

theorem printsClosed_dictionary {entries : List Entry}
    (each : ∀ entry ∈ entries, ∀ part ∈ entry.parts, part.PrintsClosed) :
    (Expr.dictionary line entries).PrintsClosed := by
  refine .of_tight fun level text printed => ?_
  simp only [printAt, bind_eq_ok_iff, pure_eq_ok_iff] at printed
  obtain ⟨texts, here, rfl⟩ := printed
  exact (areBrackets_curly.continues
    (isClosed_commas (isClosed_of_printEntries each here))).isClosed

theorem areBrackets_brackets (collection : Collection) :
    AreBrackets collection.brackets.1 collection.brackets.2 := by
  cases collection
  · exact areBrackets_square
  · exact areBrackets_curly
  · exact areBrackets_round

theorem printsClosed_comprehension {collection : Collection} (closed : element.PrintsClosed)
    (each : ∀ clause ∈ clauses, ∀ part ∈ clause.parts, part.PrintsClosed) :
    (Expr.comprehension line collection element clauses).PrintsClosed := by
  refine .of_tight fun level text printed => ?_
  simp only [printAt, bind_eq_ok_iff, pure_eq_ok_iff] at printed
  obtain ⟨front, here, back, there, rfl⟩ := printed
  have inner := (closed.loose _ front here).append (continues_of_printClauses each there)
  have whole : Continues compositionStops _ := (areBrackets_brackets collection).continues inner
  rw [← String.append_assoc] at whole
  exact whole.isClosed

theorem printsClosed_dictionaryOf (ofKey : key.PrintsClosed) (closed : value.PrintsClosed)
    (each : ∀ clause ∈ clauses, ∀ part ∈ clause.parts, part.PrintsClosed) :
    (Expr.dictionaryOf line key value clauses).PrintsClosed := by
  refine .of_tight fun level text printed => ?_
  simp only [printAt, bind_eq_ok_iff, pure_eq_ok_iff] at printed
  obtain ⟨front, here, middle, there, back, last, rfl⟩ := printed
  have inner := ((ofKey.loose _ front here).joined (fun _ => rfl : IsGap [] ": ")
    (closed.loose _ middle there)).append (continues_of_printClauses each last)
  have whole : Continues compositionStops _ := areBrackets_curly.continues inner
  simp only [← String.append_assoc] at whole
  exact whole.isClosed

theorem printsClosed_slice {lower upper step : Option Expr}
    (ofLower : ∀ inner ∈ lower, inner.PrintsClosed) (ofUpper : ∀ inner ∈ upper, inner.PrintsClosed)
    (ofStep : ∀ inner ∈ step, inner.PrintsClosed) :
    (Expr.slice line lower upper step).PrintsClosed where
  loose level text printed := by
    simp only [printAt, bind_eq_ok_iff, pure_eq_ok_iff] at printed
    obtain ⟨front, here, middle, there, back, last, rfl⟩ := printed
    have head := (isClosed_of_printOptional ofLower here).joined (fun _ => rfl : IsGap [] ":")
      (isClosed_of_printOptional ofUpper there)
    cases empty : back.isEmpty with
    | true =>
        obtain rfl := String.isEmpty_iff.mp empty
        simpa using head
    | false => exact head.joined (fun _ => rfl) (isClosed_of_printOptional ofStep last)
  tight compact := by cases compact

theorem printsClosed_formatted {pieces : List Piece} (merged : AreMerged pieces) :
    (Expr.formatted line pieces).PrintsClosed := by
  refine .of_tight fun level text printed => ?_
  simp only [printAt, bind_eq_ok_iff, pure_eq_ok_iff] at printed
  obtain ⟨parts, here, rfl⟩ := printed
  exact isClosed_formatted (alternates_of_printPieces merged here)

/-- What is printed of a well-written tree is closed. -/
theorem IsWritten.printsClosed (written : value.IsWritten) : value.PrintsClosed := by
  induction written with
  | name word => exact printsClosed_name word
  | constant => exact printsClosed_constant
  | «attribute» _ compact word ih => exact printsClosed_attribute ih compact word
  | subscript _ compact _ ihValue ihIndex => exact printsClosed_subscript ihValue compact ihIndex
  | call _ compact words _ ihFunction ihValues =>
      exact printsClosed_call ihFunction compact words ihValues
  | unary _ ih => exact printsClosed_unary ih
  | binary _ _ ihLeft ihRight => exact printsClosed_binary ihLeft ihRight
  | logical _ ih => exact printsClosed_logical ih
  | comparison _ _ ihFirst ihLinks => exact printsClosed_comparison ihFirst ihLinks
  | conditional _ _ _ ihBody ihTest ihOrElse =>
      exact printsClosed_conditional ihBody ihTest ihOrElse
  | lambda words _ _ ihDefaults ihBody => exact printsClosed_lambda words ihDefaults ihBody
  | assignment _ _ ihTarget ihValue => exact printsClosed_assignment ihTarget ihValue
  | await _ ih => exact printsClosed_await ih
  | yield _ ih => exact printsClosed_yield ih
  | yieldFrom _ ih => exact printsClosed_yieldFrom ih
  | starred _ ih => exact printsClosed_starred ih
  | tuple _ ih => exact printsClosed_tuple ih
  | list _ ih => exact printsClosed_list ih
  | set _ ih => exact printsClosed_set ih
  | dictionary _ ih => exact printsClosed_dictionary ih
  | comprehension _ _ ihElement ihClauses => exact printsClosed_comprehension ihElement ihClauses
  | dictionaryOf _ _ _ ihKey ihValue ihClauses =>
      exact printsClosed_dictionaryOf ihKey ihValue ihClauses
  | slice _ _ _ ihLower ihUpper ihStep => exact printsClosed_slice ihLower ihUpper ihStep
  | formatted merged => exact printsClosed_formatted merged

end Expr

end Source

end Stringify
