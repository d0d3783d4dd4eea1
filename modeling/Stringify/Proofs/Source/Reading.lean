import Mathlib.Data.List.Basic
import Std.Data.TreeMap.Lemmas
import Stringify.Proofs.Source.Places
import Stringify.Source.Reading

/-!
# Readers and what they read

In the first reading of a source, a reader passes over tokens from its place on, and what it reads
and remembers is read between two places of the source. Readers are put together from others so that
this stays so.
-/

namespace Stringify.Source

/-! ## What is remembered -/

instance : Std.TransOrd Rule := inferInstanceAs (Std.TransCmp (compareOn Rule.ctorIdx))

instance : Std.LawfulEqOrd Rule where
  eq_of_compare {first second} same := by
    have places : first.ctorIdx = second.ctorIdx := Std.LawfulEqOrd.eq_of_compare same
    cases first <;> cases second <;> first | rfl | cases places

instance : Std.TransOrd PatternRule :=
  inferInstanceAs (Std.TransCmp (compareOn PatternRule.ctorIdx))

instance : Std.LawfulEqOrd PatternRule where
  eq_of_compare {first second} same := by
    have places : first.ctorIdx = second.ctorIdx := Std.LawfulEqOrd.eq_of_compare same
    cases first <;> cases second <;> first | rfl | cases places

section

variable {κ α : Type} [Ord κ] [Std.TransOrd κ]

/-- All results in a table, with the places that they were tried at, are of some kind. -/
def Tells (table : Std.TreeMap κ (Recollection α)) (good : κ → Nat → α → Prop) : Prop :=
  ∀ key value stop, table[key]? = some (some (value, stop)) → good key stop value

variable {table : Std.TreeMap κ (Recollection α)} {good : κ → Nat → α → Prop}

theorem tells_empty : Tells (∅ : Std.TreeMap κ (Recollection α)) good := by
  intro key value stop found
  simp at found

theorem Tells.insert [Std.LawfulEqOrd κ] {key : κ} {result : Recollection α}
    (tells : Tells table good)
    (given : ∀ value stop, result = some (value, stop) → good key stop value) :
    Tells (table.insert key result) good := by
  intro other value stop found
  rw [Std.TreeMap.getElem?_insert] at found
  split at found
  · next same =>
      obtain rfl := Std.LawfulEqOrd.eq_of_compare same
      exact given value stop (Option.some.inj found)
  · exact tells other value stop found

end

/-- All that is remembered was read in a source. -/
structure Memory.IsRead (stream : TokenStream) (memory : Memory) : Prop where
  expressions : Tells memory.expressions fun key stop value =>
    key.2 ≤ stop ∧ value.IsRead stream key.2 stop
  arguments : Tells memory.arguments fun start stop value =>
    start ≤ stop ∧ Each (Argument.IsRead stream) start stop value
  stmts : Tells memory.stmts fun start stop value => start ≤ stop ∧ value.IsRead stream start stop
  blocks : Tells memory.blocks fun start stop value =>
    start ≤ stop ∧ Each (Stmt.IsRead stream) start stop value
  patterns : Tells memory.patterns fun key stop _ => key.2 ≤ stop

theorem Memory.isRead_empty (stream : TokenStream) : Memory.empty.IsRead stream :=
  ⟨tells_empty, tells_empty, tells_empty, tells_empty, tells_empty⟩

namespace Reading

variable {α β : Type} {stream : TokenStream} {start : Nat} {reader first second : Reading α}
variable {next : α → Reading β} {good better : Nat → α → Prop} {later : Nat → β → Prop}
variable {kind : Nat → Nat → α → Prop}

/-- A value of some kind is read behind a place, or none, and what is remembered was read. -/
def Ends (stream : TokenStream) (start : Nat) (good : Nat → α → Prop) :
    EStateM.Result Failure Progress α → Prop
  | .ok value progress =>
    start ≤ progress.place ∧ good progress.place value ∧ progress.memory.IsRead stream
  | .error _ progress => progress.memory.IsRead stream

/-- In the first reading of a source, a reader gives values of some kind from a place on, and what
is remembered was read. The kind may depend on the place after the value. -/
def Gives (stream : TokenStream) (start : Nat) (reader : Reading α) (good : Nat → α → Prop) :
    Prop :=
  ∀ progress : Progress, progress.place = start → progress.memory.IsRead stream →
    Ends stream start good (reader ⟨stream, false⟩ progress)

/-- From each place on, a reader gives values of a kind that depends on the places before and
after. -/
def Reads (stream : TokenStream) (reader : Reading α) (kind : Nat → Nat → α → Prop) : Prop :=
  ∀ start, Gives stream start reader (kind start)

/-- A reader only passes over tokens, and what is remembered was read. -/
class Keeps (stream : TokenStream) (reader : Reading α) : Prop where
  reads : Reads stream reader fun _ _ _ => True

/-- Besides, a reader passes over a token that is not there for the layout alone. -/
class Writes (stream : TokenStream) (reader : Reading α) : Prop where
  reads : Reads stream reader fun start stop _ => stream.HasContent start stop

theorem Gives.mono (gives : Gives stream start reader good)
    (weaker : ∀ stop value, start ≤ stop → good stop value → better stop value) :
    Gives stream start reader better := by
  intro progress here read
  have ends := gives progress here read
  cases ran : reader ⟨stream, false⟩ progress with
  | ok value progress =>
      rw [ran] at ends
      exact ⟨ends.1, weaker _ _ ends.1 ends.2.1, ends.2.2⟩
  | error failure progress =>
      rw [ran] at ends
      exact ends

/-- A value of two kinds is one of both. -/
theorem Gives.and (gives : Gives stream start reader good)
    (givesToo : Gives stream start reader better) :
    Gives stream start reader fun stop value => good stop value ∧ better stop value := by
  intro progress here read
  have ends := gives progress here read
  have endsToo := givesToo progress here read
  cases ran : reader ⟨stream, false⟩ progress with
  | ok value progress =>
      rw [ran] at ends endsToo
      exact ⟨ends.1, ⟨ends.2.1, endsToo.2.1⟩, ends.2.2⟩
  | error failure progress =>
      rw [ran] at ends
      exact ends

theorem Reads.keeps (reads : Reads stream reader kind) : Keeps stream reader :=
  ⟨fun start => (reads start).mono fun _ _ _ _ => trivial⟩

theorem Reads.writes (reads : Reads stream reader kind)
    (written : ∀ start stop value, kind start stop value → stream.HasContent start stop) :
    Writes stream reader :=
  ⟨fun start => (reads start).mono fun stop value _ => written start stop value⟩

/-! ## Sequences and alternatives -/

theorem Gives.pure {value : α} (holds : good start value) :
    Gives stream start (pure value : Reading α) good := by
  rintro progress rfl read
  exact ⟨Nat.le_refl _, holds, read⟩

/-- A reader that only fails gives no value of any kind. -/
theorem Gives.throw (failure : Failure) : Gives stream start (throw failure : Reading α) good :=
  fun _ _ read => read

theorem run_bind (setting : Setting) (progress : Progress) :
    (reader >>= next) setting progress =
      match reader setting progress with
      | .ok value progress => next value setting progress
      | .error failure progress => .error failure progress := by
  show EStateM.bind (reader setting) (fun value => next value setting) progress = _
  unfold EStateM.bind
  cases reader setting progress <;> rfl

theorem Gives.bind (gives : Gives stream start reader good)
    (rest : ∀ value place, start ≤ place → good place value →
      Gives stream place (next value) later) :
    Gives stream start (reader >>= next) later := by
  intro progress here read
  have ends := gives progress here read
  rw [run_bind]
  cases ran : reader ⟨stream, false⟩ progress with
  | error failure progress =>
      rw [ran] at ends
      exact ends
  | ok value progress =>
      rw [ran] at ends
      have endsToo := rest value progress.place ends.1 ends.2.1 progress rfl ends.2.2
      dsimp only
      cases ranToo : next value ⟨stream, false⟩ progress with
      | error failure last =>
          rw [ranToo] at endsToo
          exact endsToo
      | ok other last =>
          rw [ranToo] at endsToo
          exact ⟨Nat.le_trans ends.1 endsToo.1, endsToo.2⟩

/-- Go on after something whose value does not matter. -/
theorem Gives.after [keeps : Keeps stream reader]
    (rest : ∀ value place, start ≤ place → Gives stream place (next value) later) :
    Gives stream start (reader >>= next) later :=
  (keeps.reads start).bind fun value place le _ => rest value place le

/-- Go on after something that counts for what it passes over. -/
theorem Gives.written [writes : Writes stream reader]
    (rest : ∀ value place, start ≤ place → stream.HasContent start place →
      Gives stream place (next value) later) :
    Gives stream start (reader >>= next) later :=
  (writes.reads start).bind rest

theorem Gives.orElse (former : Gives stream start first good)
    (latter : Gives stream start second good) :
    Gives stream start (Reading.orElse first second) good := by
  intro progress here read
  have ends := former progress here read
  unfold Reading.orElse
  cases ran : first ⟨stream, false⟩ progress with
  | ok value progress =>
      rw [ran] at ends
      exact ends
  | error failure later =>
      rw [ran] at ends
      cases failure with
      | mismatch => exact latter { later with place := progress.place } here ends
      | refusal line => exact ends
      | exhausted => exact ends

theorem Gives.firstOf {readers : List (Reading α)}
    (each : readers.Forall fun reader => Gives stream start reader good) :
    Gives stream start (Reading.firstOf readers) good := by
  induction readers with
  | nil => exact .throw _
  | cons reader rest ih =>
      rw [List.forall_cons] at each
      exact .orElse each.1 (ih each.2)

theorem Reads.firstOf {readers : List (Reading α)}
    (each : readers.Forall fun reader => Reads stream reader kind) :
    Reads stream (Reading.firstOf readers) kind := by
  intro start
  apply Gives.firstOf
  rw [List.forall_iff_forall_mem] at each ⊢
  exact fun reader member => each reader member start

theorem Gives.map {image : α → β} (gives : Gives stream start reader good)
    (holds : ∀ stop value, good stop value → later stop (image value)) :
    Gives stream start (image <$> reader) later :=
  gives.bind fun value place _ given => .pure (holds place value given)

/-- Something is read, or nothing is. -/
theorem Gives.perhaps (gives : Gives stream start reader good) :
    Gives stream start (Reading.perhaps reader) fun stop found =>
      ∀ value ∈ found, good stop value :=
  .orElse (gives.map fun stop value given => by simpa using given) (.pure (by simp))

/-- Read in one way if the opening fits, and in another one otherwise. -/
theorem Gives.commit {rest : α → Reading β} {otherwise : Reading β}
    (opens : Gives stream start reader good)
    (each : ∀ value place, start ≤ place → good place value → Gives stream place (rest value) later)
    (others : ∀ place, start ≤ place → Gives stream place otherwise later) :
    Gives stream start (commit reader rest otherwise) later := by
  unfold Reading.commit
  refine opens.perhaps.bind fun found place le given => ?_
  cases found with
  | none => exact others place le
  | some value => exact each value place le (given value rfl)

theorem Reads.manyUpTo [Widens kind] (reads : Reads stream reader kind) (steps : Nat) :
    Reads stream (Reading.manyUpTo reader steps) (Each kind) := by
  induction steps with
  | zero => exact fun start => .pure (by simp [Each])
  | succ steps ih =>
      refine fun start => (reads start).perhaps.bind fun found place le given => ?_
      cases found with
      | none => exact .pure (by simp [Each])
      | some first =>
          refine (ih place).bind fun others stop more rest => .pure ?_
          exact each_cons_iff.mpr ⟨Widens.upTo (given first rfl) more, Widens.since rest le⟩

/-! ## What keeps the memory -/

section Keeping

variable {condition : Prop} [Decidable condition] [Keeps stream reader] [Keeps stream first]
variable [Keeps stream second] [∀ value, Keeps stream (next value)]

instance (value : α) : Keeps stream (pure value : Reading α) := ⟨fun _ => .pure trivial⟩

instance : Keeps stream (mismatch : Reading α) := ⟨fun _ => .throw _⟩

instance (line : Nat) : Keeps stream (refuse line : Reading α) := ⟨fun _ => .throw _⟩

instance : Keeps stream (reader >>= next) := ⟨fun _ => .after fun _ _ _ => Keeps.reads _⟩

instance (image : α → β) : Keeps stream (image <$> reader) :=
  ⟨fun _ => (Keeps.reads _).map fun _ _ _ => trivial⟩

instance : Keeps stream (discard reader) := ⟨fun _ => (Keeps.reads _).map fun _ _ _ => trivial⟩

instance : Keeps stream (if condition then first else second) := by
  split <;> infer_instance

instance : Keeps stream (Reading.orElse first second) :=
  ⟨fun _ => .orElse (Keeps.reads _) (Keeps.reads _)⟩

instance : Keeps stream (Reading.firstOf ([] : List (Reading α))) := ⟨fun _ => .throw _⟩

instance {readers : List (Reading α)} [Keeps stream (Reading.firstOf readers)] :
    Keeps stream (Reading.firstOf (reader :: readers)) :=
  ⟨fun _ => .orElse (Keeps.reads _) (Keeps.reads _)⟩

instance : Keeps stream (Reading.perhaps reader) :=
  ⟨fun _ => (Keeps.reads _).perhaps.mono fun _ _ _ _ => trivial⟩

instance : Widens (fun _ _ (_ : α) => True) := ⟨fun _ _ _ => trivial⟩

instance (steps : Nat) : Keeps stream (Reading.manyUpTo reader steps) :=
  (Keeps.reads.manyUpTo steps).keeps

end Keeping

/-! ## Tokens -/

instance : Keeps stream (read : Reading Setting) where
  reads := by
    rintro _ progress rfl read
    exact ⟨Nat.le_refl _, trivial, read⟩

instance : Keeps stream (get : Reading Progress) where
  reads := by
    rintro _ progress rfl read
    exact ⟨Nat.le_refl _, trivial, read⟩

/-- Go on with the place that is reached. -/
theorem Gives.atPlace {rest : Nat → Reading β} (each : Gives stream start (rest start) later) :
    Gives stream start (place >>= rest) later := by
  rintro progress rfl read
  exact each progress rfl read

theorem gives_advance : Gives stream start advance fun stop _ => stop = start + 1 := by
  rintro progress rfl read
  exact ⟨Nat.le_succ _, rfl, read⟩

instance : Keeps stream advance := ⟨fun _ => gives_advance.mono fun _ _ _ _ => trivial⟩

/-- Go on with the token at some place. -/
theorem Gives.atTokenOf {rest : Option Token → Reading β} (place : Nat)
    (each : Gives stream start (rest stream.tokens[place]?) later) :
    Gives stream start (tokenAt? place >>= rest) later := by
  rintro progress rfl read
  exact each progress rfl read

instance (place : Nat) : Keeps stream (tokenAt? place) := by
  unfold tokenAt?
  infer_instance

instance : Keeps stream furthestLine := by
  unfold furthestLine
  infer_instance

instance : Keeps stream (refuseFurthest : Reading α) := by
  unfold refuseFurthest
  infer_instance

instance : Keeps stream bound := by
  unfold bound
  infer_instance

/-- Nothing comes after the refusal of a source. -/
theorem Gives.refused : Gives stream start (refuseFurthest >>= next) later := by
  have none : Gives stream start (refuseFurthest : Reading α) fun _ _ => False :=
    .after fun _ _ _ => .throw _
  exact none.bind fun _ _ _ impossible => impossible.elim

/-- The next token is looked at. -/
theorem run_peek (setting : Setting) (progress : Progress) :
    peek setting progress =
      match setting.stream.tokens[progress.place]? with
      | some token =>
        .ok token { progress with reached := max progress.reached (progress.place + 1) }
      | none => .error .exhausted progress := by
  have found : tokenAt? progress.place setting progress =
    .ok setting.stream.tokens[progress.place]? progress := rfl
  unfold peek
  rw [run_bind]
  show ((tokenAt? progress.place >>= _) setting progress) = _
  rw [run_bind, found]
  cases setting.stream.tokens[progress.place]? with
  | some token => rfl
  | none => rfl

theorem gives_peek :
    Gives stream start peek fun stop token =>
      stop = start ∧ stream.tokens[start]? = some token := by
  rintro progress rfl read
  rw [run_peek]
  dsimp only
  cases found : stream.tokens[progress.place]? with
  | none => exact read
  | some token => exact ⟨Nat.le_refl _, ⟨rfl, rfl⟩, read⟩

instance : Keeps stream peek := ⟨fun _ => gives_peek.mono fun _ _ _ _ => trivial⟩

/-- Go on with the next token. -/
theorem Gives.atToken {rest : Token → Reading β}
    (each : ∀ token, stream.tokens[start]? = some token → Gives stream start (rest token) later) :
    Gives stream start (peek >>= rest) later := by
  refine gives_peek.bind fun token place _ => ?_
  rintro ⟨rfl, found⟩
  exact each token found

/-- Go on with the line of the next token. -/
theorem Gives.atLine {rest : Nat → Reading β}
    (each : ∀ line, stream.HasLine start line → Gives stream start (rest line) later) :
    Gives stream start (currentLine >>= rest) later := by
  unfold currentLine
  rw [bind_assoc]
  exact .atToken fun token found => by
    rw [pure_bind]
    exact each token.line ⟨token, found, rfl⟩

instance : Keeps stream currentLine := by
  unfold currentLine
  infer_instance

/-- To move on is to pass over the next token. -/
theorem gives_advance_of_token {token : Token} (found : stream.tokens[start]? = some token)
    (written : token.isLayout = false) :
    Gives stream start advance fun stop _ => stream.HasContent start stop :=
  gives_advance.mono fun _ _ _ moved =>
    ⟨start, token, Nat.le_refl _, moved ▸ Nat.lt_succ_self _, found, written⟩

instance (lexeme : Lexeme) : Keeps stream (expect lexeme) := by
  unfold expect
  infer_instance

theorem writes_expect {lexeme : Lexeme} (written : ∀ token : Token, token.lexeme = lexeme →
    token.isLayout = false) : Writes stream (expect lexeme) := by
  refine ⟨fun start => .atToken fun token found => ?_⟩
  split
  · next same => exact gives_advance_of_token found (written token (eq_of_beq same))
  · exact .throw _

instance (text : String) : Writes stream (symbol text) :=
  writes_expect fun token same => by simp [Token.isLayout, same]

instance (text : String) : Writes stream (word text) :=
  writes_expect fun token same => by simp [Token.isLayout, same]

instance (texts : List String) : Writes stream (anySymbol texts) := by
  refine ⟨fun start => .atToken fun token found => ?_⟩
  split
  · next fits =>
      obtain ⟨text, _, same⟩ := List.any_eq_true.mp fits
      apply gives_advance_of_token found
      simp [Token.isLayout, eq_of_beq same]
  · exact .throw _

instance : Writes stream identifier := by
  refine ⟨fun start => .atToken fun token found => ?_⟩
  split
  · next text named =>
      refine (gives_advance_of_token found ?_).bind fun _ _ _ content => .pure content
      unfold Token.identifier? at named
      split at named
      · next same => simp [Token.isLayout, same]
      · cases named
  · exact .throw _

instance (text : String) : Keeps stream (symbol text) := Writes.reads.keeps

instance (text : String) : Keeps stream (word text) := Writes.reads.keeps

instance (texts : List String) : Keeps stream (anySymbol texts) := Writes.reads.keeps

instance : Keeps stream identifier := Writes.reads.keeps

theorem reads_symbolLine (text : String) :
    Reads stream (symbolLine text) stream.Covers :=
  fun _ => .atLine fun _ lined => .written fun _ _ _ content => .pure (lined.covers content)

theorem reads_wordLine (text : String) : Reads stream (wordLine text) stream.Covers :=
  fun _ => .atLine fun _ lined => .written fun _ _ _ content => .pure (lined.covers content)

instance (text : String) : Writes stream (symbolLine text) :=
  (reads_symbolLine text).writes fun _ _ _ covers => covers.hasContent

instance (text : String) : Writes stream (wordLine text) :=
  (reads_wordLine text).writes fun _ _ _ covers => covers.hasContent

instance (text : String) : Keeps stream (symbolLine text) := Writes.reads.keeps

instance : Keeps stream identifierLine := by
  unfold identifierLine
  infer_instance

instance (text : String) : Keeps stream (requireSymbol text) := by
  unfold requireSymbol
  infer_instance

/-! ## Repetitions, looking ahead and mistakes -/

/-- To look whether something fits passes over nothing. -/
instance [keeps : Keeps stream reader] : Keeps stream (fits reader) := by
  constructor
  rintro start progress rfl read
  have looked : Keeps stream (Reading.orElse (do discard reader; pure true) (pure false)) :=
    inferInstance
  have ends := looked.reads progress.place progress rfl read
  have here : place ⟨stream, false⟩ progress = .ok progress.place progress := rfl
  unfold fits
  rw [run_bind, here]
  dsimp only
  rw [run_bind]
  cases ran : Reading.orElse (do discard reader; pure true) (pure false) ⟨stream, false⟩
    progress with
  | ok found later =>
      rw [ran] at ends
      exact ⟨Nat.le_refl _, trivial, ends.2.2⟩
  | error failure later =>
      rw [ran] at ends
      exact ends

section Keeping

variable [Keeps stream reader]

instance : Keeps stream (many reader) := by
  unfold many
  infer_instance

instance : Keeps stream (oneOrMore reader) := by
  unfold oneOrMore
  infer_instance

instance (separator : String) : Keeps stream (separated separator reader) := by
  unfold separated
  infer_instance

instance : Keeps stream (skip reader) := by
  unfold skip
  infer_instance

instance : Keeps stream (follows reader) := by
  unfold follows
  infer_instance

instance : Keeps stream (followsNot reader) := by
  unfold followsNot
  infer_instance

instance {rest : α → Reading β} {otherwise : Reading β} [∀ value, Keeps stream (rest value)]
    [Keeps stream otherwise] : Keeps stream (commit reader rest otherwise) where
  reads start := (Keeps.reads start).commit (fun _ _ _ _ => Keeps.reads _) fun _ _ => Keeps.reads _

instance {alternatives : List (Reading Unit)} [Keeps stream (firstOf alternatives)] :
    Keeps stream (mistakes alternatives : Reading α) := by
  unfold mistakes
  infer_instance

end Keeping

/-- A mistake that is looked for is found, or nothing is read. -/
theorem Gives.mistakes {alternatives : List (Reading Unit)}
    [Keeps stream (Reading.firstOf alternatives)] :
    Gives stream start (Reading.mistakes alternatives : Reading α) good :=
  .after fun _ _ _ => .throw _

/-- No mistakes are looked for in the first reading. -/
theorem Gives.explaining : Gives stream start (Reading.explaining reader) good :=
  fun _ _ read => read

theorem Reads.explaining : Reads stream (Reading.explaining reader) kind :=
  fun _ => .explaining

instance : Keeps stream (explaining reader) := ⟨.explaining⟩

theorem Reads.many [Widens kind] (reads : Reads stream reader kind) :
    Reads stream (many reader) (Each kind) :=
  fun _ => .after fun steps place le => (reads.manyUpTo steps place).mono fun _ _ _ each =>
    Widens.since each le

/-- What is read behind something else is read from that on, too. -/
theorem Reads.behind [Widens kind] (reads : Reads stream reader kind) (before : Reading Unit)
    [Keeps stream before] : Reads stream (do before; reader) kind :=
  fun _ => .after fun _ place le => (reads place).mono fun _ _ _ given => Widens.since given le

/-- At least one item is read, and each is of the kind of an item. -/
theorem Reads.oneOrMore [Widens kind] (reads : Reads stream reader kind) :
    Reads stream (oneOrMore reader) fun start stop found =>
      found ≠ [] ∧ Each kind start stop found := by
  refine fun start => (reads start).bind fun first place le given => ?_
  refine (reads.many place).bind fun rest stop more givenRest => .pure ⟨List.cons_ne_nil _ _, ?_⟩
  exact each_cons_iff.mpr ⟨Widens.upTo given more, Widens.since givenRest le⟩

theorem Reads.separated [Widens kind] (separator : String) (reads : Reads stream reader kind) :
    Reads stream (separated separator reader) fun start stop found =>
      found ≠ [] ∧ Each kind start stop found := by
  refine fun start => (reads start).bind fun first place le given => ?_
  refine ((reads.behind (symbol separator)).many place).bind fun rest stop more givenRest =>
    .pure ⟨List.cons_ne_nil _ _, ?_⟩
  exact each_cons_iff.mpr ⟨Widens.upTo given more, Widens.since givenRest le⟩

/-! ## What is written -/

instance [Writes stream reader] [∀ value, Keeps stream (next value)] :
    Writes stream (reader >>= next) where
  reads _ := .written fun _ place _ content => (Keeps.reads place).mono fun _ _ le _ =>
    content.upTo le

instance [Keeps stream reader] [∀ value, Writes stream (next value)] :
    Writes stream (reader >>= next) where
  reads _ := .after fun _ place le => (Writes.reads place).mono fun _ _ _ content =>
    content.widen le (Nat.le_refl _)

instance : Writes stream (mismatch : Reading α) := ⟨fun _ => .throw _⟩

instance : Writes stream (explaining reader) := ⟨.explaining⟩

instance [writes : Writes stream reader] : Writes stream (discard reader) where
  reads start := (writes.reads start).map fun _ _ content => content

instance {condition : Prop} [Decidable condition] [Writes stream first] [Writes stream second] :
    Writes stream (if condition then first else second) := by
  split <;> infer_instance

instance [Writes stream first] [Writes stream second] :
    Writes stream (Reading.orElse first second) where
  reads start := .orElse (Writes.reads start) (Writes.reads start)

instance : Writes stream (Reading.firstOf ([] : List (Reading α))) := ⟨fun _ => .throw _⟩

instance {readers : List (Reading α)} [Writes stream first]
    [Writes stream (Reading.firstOf readers)] :
    Writes stream (Reading.firstOf (first :: readers)) where
  reads start := .orElse (Writes.reads start) (Writes.reads start)

instance [Keeps stream reader] [Writes stream reader] : Writes stream (oneOrMore reader) := by
  unfold oneOrMore
  infer_instance

instance (separator : String) [Keeps stream reader] [Writes stream reader] :
    Writes stream (separated separator reader) := by
  unfold separated
  infer_instance

instance {rest : α → Reading β} {otherwise : Reading β} [Writes stream reader]
    [∀ value, Keeps stream (rest value)] [Writes stream otherwise] :
    Writes stream (commit reader rest otherwise) where
  reads start := by
    unfold commit
    refine ((Writes.reads start).perhaps).bind fun found place le given => ?_
    cases found with
    | none =>
        exact (Writes.reads place).mono fun _ _ _ content => content.widen le (Nat.le_refl _)
    | some value =>
        have content := given value rfl
        exact (Keeps.reads place).mono fun _ _ more _ => content.upTo more

/-! ## Memory -/

/-- What a slot recalls was read, and to keep something that was read keeps all of it so. -/
structure IsSound (stream : TokenStream) (slot : Slot α) (kind : Nat → Nat → α → Prop) : Prop where
  recalled : ∀ memory : Memory, memory.IsRead stream → ∀ place value after,
    slot.result? memory place = some (some (value, after)) → place ≤ after ∧ kind place after value
  kept : ∀ memory : Memory, memory.IsRead stream → ∀ place result,
    (∀ value after, result = some (value, after) → place ≤ after ∧ kind place after value) →
    (slot.keep memory place result).IsRead stream

theorem isSound_expressionSlot (rule : Rule) :
    IsSound stream (Memory.expressionSlot rule) (Expr.IsRead stream) where
  recalled _ read place value after := read.expressions (rule, place) value after
  kept _ read _ _ given := { read with expressions := read.expressions.insert given }

theorem isSound_argumentsSlot :
    IsSound stream Memory.argumentsSlot (Each (Argument.IsRead stream)) where
  recalled _ read := read.arguments
  kept _ read _ _ given := { read with arguments := read.arguments.insert given }

theorem isSound_stmtSlot : IsSound stream Memory.stmtSlot (Stmt.IsRead stream) where
  recalled _ read := read.stmts
  kept _ read _ _ given := { read with stmts := read.stmts.insert given }

theorem isSound_blockSlot : IsSound stream Memory.blockSlot (Each (Stmt.IsRead stream)) where
  recalled _ read := read.blocks
  kept _ read _ _ given := { read with blocks := read.blocks.insert given }

theorem isSound_patternSlot (rule : PatternRule) :
    IsSound stream (Memory.patternSlot rule) fun _ _ _ => True where
  recalled _ read place value after found :=
    ⟨read.patterns (rule, place) value after found, trivial⟩
  kept _ read _ _ given :=
    { read with patterns := read.patterns.insert fun value stop same => (given value stop same).1 }

theorem Reads.remembered {slot : Slot α} (sound : IsSound stream slot kind)
    (reads : Reads stream reader kind) : Reads stream (remembered slot reader) kind := by
  rintro start progress rfl read
  have ends := reads progress.place progress rfl read
  unfold Reading.remembered
  dsimp only
  cases found : slot.result? progress.memory progress.place with
  | some result =>
      cases result with
      | some pair =>
          obtain ⟨le, holds⟩ := sound.recalled _ read _ _ _ found
          exact ⟨le, holds, read⟩
      | none => exact read
  | none =>
      cases ran : reader ⟨stream, false⟩ progress with
      | ok value later =>
          rw [ran] at ends
          refine ⟨ends.1, ends.2.1, sound.kept _ ends.2.2 _ _ fun other after same => ?_⟩
          cases same
          exact ⟨ends.1, ends.2.1⟩
      | error failure later =>
          rw [ran] at ends
          cases failure with
          | mismatch =>
              apply sound.kept later.memory ends
              intro other after same
              cases same
          | refusal line => exact ends
          | exhausted => exact ends

end Reading

end Stringify.Source
