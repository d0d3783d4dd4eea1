import Stringify.Proofs.Source.TokenLines
import Stringify.Proofs.Source.Tokens
import Stringify.Source.Stmt.Simple
import Stringify.Stub.Draft

/-!
# What is read between two places

An expression that is read between two places of a source has its lines from the tokens there, and
no text in it is longer than the room for quotations allows. The lines in a statement are those of
the statement itself, of its bases, hints and values, and of the classes inside it.
-/

namespace Stringify.Source

open Stub (basesOf longestText)

variable {stream : TokenStream} {start stop first last line : Nat}

/-! ## Lines of tokens -/

namespace TokenStream

/-- The token at a place starts in the given line. -/
def HasLine (stream : TokenStream) (place line : Nat) : Prop :=
  ∃ token, stream.tokens[place]? = some token ∧ token.line = line

/-- Between two places stands a token that is not there for the layout alone. -/
def HasContent (stream : TokenStream) (start stop : Nat) : Prop :=
  ∃ place token, start ≤ place ∧ place < stop ∧ stream.tokens[place]? = some token ∧
    token.isLayout = false

/-- A line is that of a token between two places, and between that token and the latter place there
is content. -/
def Covers (stream : TokenStream) (start stop line : Nat) : Prop :=
  ∃ place, start ≤ place ∧ stream.HasLine place line ∧ stream.HasContent place stop

theorem HasContent.widen (content : stream.HasContent first last) (low : start ≤ first)
    (high : last ≤ stop) : stream.HasContent start stop := by
  obtain ⟨place, token, after, before, found, written⟩ := content
  exact ⟨place, token, Nat.le_trans low after, Nat.lt_of_lt_of_le before high, found, written⟩

theorem Covers.widen (covers : stream.Covers first last line) (low : start ≤ first)
    (high : last ≤ stop) : stream.Covers start stop line := by
  obtain ⟨place, after, lined, content⟩ := covers
  exact ⟨place, Nat.le_trans low after, lined, content.widen (Nat.le_refl _) high⟩

theorem HasContent.upTo (content : stream.HasContent start last) (le : last ≤ stop) :
    stream.HasContent start stop :=
  content.widen (Nat.le_refl _) le

theorem Covers.upTo (covers : stream.Covers start last line) (le : last ≤ stop) :
    stream.Covers start stop line :=
  covers.widen (Nat.le_refl _) le

theorem Covers.hasContent (covers : stream.Covers start stop line) :
    stream.HasContent start stop := by
  obtain ⟨place, after, _, content⟩ := covers
  exact content.widen after (Nat.le_refl _)

theorem HasLine.covers (lined : stream.HasLine start line)
    (content : stream.HasContent start stop) : stream.Covers start stop line :=
  ⟨start, Nat.le_refl _, lined, content⟩

end TokenStream

/-! ## Properties of what is read -/

/-- What holds of something between two places holds of it between any places around them. -/
class Widens {α : Type} (good : Nat → Nat → α → Prop) : Prop where
  widen : ∀ {start stop first last : Nat} {value : α}, good first last value → start ≤ first →
    last ≤ stop → good start stop value

section

variable {α : Type} {good : Nat → Nat → α → Prop} [Widens good] {value : α}

theorem Widens.upTo (holds : good start last value) (le : last ≤ stop) : good start stop value :=
  widen holds (Nat.le_refl _) le

theorem Widens.since (holds : good first stop value) (le : start ≤ first) :
    good start stop value :=
  widen holds le (Nat.le_refl _)

end

/-- Something holds of each of several values. -/
def Each {α : Type} (good : Nat → Nat → α → Prop) (start stop : Nat) (values : List α) : Prop :=
  ∀ value ∈ values, good start stop value

instance {α : Type} {good : Nat → Nat → α → Prop} [Widens good] : Widens (Each good) where
  widen each low high value member := Widens.widen (each value member) low high

theorem each_cons_iff {α : Type} {good : Nat → Nat → α → Prop} {value : α} {values : List α} :
    Each good start stop (value :: values) ↔
      good start stop value ∧ Each good start stop values :=
  List.forall_mem_cons

/-! ## Expressions -/

namespace Expr

mutual

/-- The lines in a hint: those of its operands and arguments, and its own. -/
def hintLines : Expr → List Nat
  | .binary line left _ right => line :: (hintLines left ++ hintLines right)
  | .subscript line _ index => line :: hintLines index
  | .tuple line items => line :: hintLinesOf items
  | other => [other.line]

/-- The lines in several hints. -/
def hintLinesOf : List Expr → List Nat
  | [] => []
  | item :: rest => hintLines item ++ hintLinesOf rest

end

theorem line_mem_hintLines (hint : Expr) : hint.line ∈ hint.hintLines := by
  cases hint <;> simp [hintLines, Expr.line]

theorem mem_hintLinesOf_iff {hints : List Expr} :
    line ∈ hintLinesOf hints ↔ ∃ hint ∈ hints, line ∈ hint.hintLines := by
  induction hints with
  | nil => simp [hintLinesOf]
  | cons hint rest ih => simp [hintLinesOf, ih]

/-- An expression is read between two places: the texts in it are no longer than what the quotations
of the source leave between their quotes, and the lines in it are those of tokens there. -/
structure IsRead (stream : TokenStream) (start stop : Nat) (value : Expr) : Prop where
  brief : longestText value ≤ room stream.tokens.toList - 2
  placed : ∀ line ∈ value.hintLines, stream.Covers start stop line

instance : Widens (IsRead stream) where
  widen read low high :=
    ⟨read.brief, fun line member => (read.placed line member).widen low high⟩

variable {left right index value : Expr} {items : List Expr}

theorem IsRead.covers (read : value.IsRead stream start stop) :
    stream.Covers start stop value.line :=
  read.placed _ value.line_mem_hintLines

theorem IsRead.hasContent (read : value.IsRead stream start stop) :
    stream.HasContent start stop :=
  read.covers.hasContent

/-- There is no text and no line in an expression but its own. -/
structure IsAlone (line : Nat) (value : Expr) : Prop where
  textless : longestText value = 0
  lines : value.hintLines = [line]

theorem IsAlone.isRead (alone : value.IsAlone line) (covers : stream.Covers start stop line) :
    value.IsRead stream start stop where
  brief := alone.textless ▸ Nat.zero_le _
  placed other member := by
    rw [alone.lines, List.mem_singleton] at member
    exact member ▸ covers

theorem IsRead.binary {operator : BinaryOp} (covers : stream.Covers start stop line)
    (ofLeft : left.IsRead stream start stop) (ofRight : right.IsRead stream start stop) :
    (Expr.binary line left operator right).IsRead stream start stop where
  brief := by
    rw [longestText]
    exact Nat.max_le.mpr ⟨ofLeft.brief, ofRight.brief⟩
  placed := by
    rw [hintLines, List.forall_mem_cons, List.forall_mem_append]
    exact ⟨covers, ofLeft.placed, ofRight.placed⟩

theorem IsRead.subscript (covers : stream.Covers start stop line)
    (ofIndex : index.IsRead stream start stop) :
    (Expr.subscript line value index).IsRead stream start stop where
  brief := by
    rw [longestText]
    exact ofIndex.brief
  placed := by
    rw [hintLines, List.forall_mem_cons]
    exact ⟨covers, ofIndex.placed⟩

theorem IsRead.tuple (covers : stream.Covers start stop line)
    (each : Each (IsRead stream) start stop items) :
    (Expr.tuple line items).IsRead stream start stop where
  brief := by
    rw [longestText]
    exact Stub.longestTextOf_le_iff.mpr fun item member => (each item member).brief
  placed := by
    rw [hintLines, List.forall_mem_cons]
    refine ⟨covers, fun line member => ?_⟩
    obtain ⟨item, inside, member⟩ := mem_hintLinesOf_iff.mp member
    exact (each item inside).placed line member

end Expr

/-- The value of an argument. -/
def Argument.value : Argument → Expr
  | .positional value | .named _ value | .unpacked value => value

/-- The value of an argument is read between two places. -/
def Argument.IsRead (stream : TokenStream) (start stop : Nat) (argument : Argument) : Prop :=
  argument.value.IsRead stream start stop

instance : Widens (Argument.IsRead stream) where
  widen read low high :=
    (inferInstance : Widens (Expr.IsRead stream)).widen read low high

/-! ## Statements -/

/-- A line belongs to a statement with the given span. -/
def Span.Contains (span : Span) (line : Nat) : Prop :=
  span.first ≤ line ∧ line ≤ span.last

namespace Stmt

/-- The line of a class. -/
def classLine? : Stmt → Option Nat
  | .classDef span _ _ _ => some span.first
  | _ => none

/-- The lines in a statement: of a class, those of its bases and of the classes in its body; of an
annotation, those in the hint and in the value; and its own. -/
def lines : Stmt → List Nat
  | .classDef span _ arguments body =>
    span.first :: ((basesOf arguments).map Expr.line ++ body.filterMap classLine?)
  | .annotated span _ hint value =>
    span.first :: (hint.hintLines ++ (value.map Expr.hintLines).getD [])
  | stmt => [stmt.span.first]

theorem first_mem_lines (stmt : Stmt) : stmt.span.first ∈ stmt.lines := by
  cases stmt <;> simp [lines, span]

/-- A statement is read between two places: it starts there, and its span contains the lines in
it. -/
structure IsRead (stream : TokenStream) (start stop : Nat) (stmt : Stmt) : Prop where
  begins : stream.Covers start stop stmt.span.first
  contains : ∀ line ∈ stmt.lines, stmt.span.Contains line

instance : Widens (IsRead stream) where
  widen read low high := ⟨read.begins.widen low high, read.contains⟩

end Stmt

end Stringify.Source
