import Mathlib.Data.List.Basic
import Stringify.Proofs.Source.Words
import Stringify.Proofs.Text.Fenced
import Stringify.Source.Expr.Printer

/-!
# Closed texts

A scanner passes over a printed text, counts brackets and tells what stands between quotes. It may
be told to stop at some characters wherever it is in no brackets and no quotes. A text is closed if
the scanner comes to its end, has stopped nowhere, and is back where it started. The quotes of a
formatted text may be tripled ones, so the scanner keeps what it saw of them. In a release that does
not fall back to other quotes they may end too early, and the scanner gives up where they begin.
-/

namespace Stringify.Source

open Text (isQuote)

/-! ## The scanner -/

/-- What the scanner saw right before a place outside of quotes. -/
inductive Trail where
  | clear
  /-- An `f`, which marks a formatted text if a quote follows. -/
  | mark
  /-- Two quotes of a formatted text, which is empty unless a third one follows. -/
  | pair (quote : Char)
  deriving DecidableEq

/-- Where the scanner is in a text. -/
inductive Spot where
  /-- Outside of quotes, in some brackets. -/
  | outside (depth : Nat) (trail : Trail)
  /-- Right behind the first quote of a formatted text. -/
  | opened (depth : Nat) (quote : Char)
  /-- Between quotes of the given length, right behind a number of them. -/
  | inside (depth : Nat) (quote : Char) (length count : Nat)
  /-- Between quotes, right behind a backslash. -/
  | escaped (depth : Nat) (quote : Char) (length : Nat)
  /-- Anywhere behind the first quote of a formatted text that the scanner gives up at. -/
  | formatted
  deriving DecidableEq

def isOpening (c : Char) : Bool := c = '(' || c = '[' || c = '\x7b'

def isClosing (c : Char) : Bool := c = ')' || c = ']' || c = '\x7d'

/-- The trail of a character outside of quotes. -/
def Trail.behind (c : Char) : Trail := if c = 'f' then .mark else .clear

namespace Spot

/-- Where the scanner is after a closing bracket; nowhere if there was none to be closed. -/
def closed? : (depth : Nat) → Option Spot
  | 0 => none
  | depth + 1 => some (.outside depth .clear)

/-- Where the scanner is after a character between quotes. -/
def within (depth : Nat) (quote : Char) (length count : Nat) (c : Char) : Spot :=
  if c = quote then
    if count + 1 = length then .outside depth .clear else .inside depth quote length (count + 1)
  else if c = '\\' then .escaped depth quote length
  else .inside depth quote length 0

section Scanner

variable [Release]

/-- Where the scanner is after a quote on the outside. -/
def enter (depth : Nat) (quote : Char) : Trail → Spot
  | .clear => .inside depth quote 1 0
  | .mark => if Release.fallsBack then .opened depth quote else .formatted
  | .pair other => .inside depth quote (if quote = other then 3 else 1) 0

/-- Where the scanner is after a character; nowhere if it stops there, or if the character closes a
bracket that is not open. -/
def next? (stops : List Char) : Spot → Char → Option Spot
  | .outside depth trail, c =>
    if isQuote c then some (enter depth c trail)
    else if isOpening c then some (.outside (depth + 1) .clear)
    else if isClosing c then closed? depth
    else if depth = 0 && stops.contains c then none
    else some (.outside depth (.behind c))
  | .opened depth quote, c =>
    some (if c = quote then .outside depth (.pair quote) else within depth quote 1 0 c)
  | .inside depth quote length count, c => some (within depth quote length count c)
  | .escaped depth quote length, _ => some (.inside depth quote length 0)
  | .formatted, _ => some .formatted

/-- Where the scanner is after some characters. -/
def scan? (stops : List Char) (spot : Spot) (chars : List Char) : Option Spot :=
  chars.foldlM (next? stops) spot

end Scanner

/-- The same spot in one more bracket. -/
def deeper : Spot → Spot
  | .outside depth trail => .outside (depth + 1) trail
  | .opened depth quote => .opened (depth + 1) quote
  | .inside depth quote length count => .inside (depth + 1) quote length count
  | .escaped depth quote length => .escaped (depth + 1) quote length
  | .formatted => .formatted

/-- The scanner is in no brackets and no quotes, or has given up. -/
inductive IsFree : Spot → Prop where
  | outside (trail : Trail) : IsFree (.outside 0 trail)
  | formatted : IsFree .formatted

theorem deeper_within (depth : Nat) (quote : Char) (length count : Nat) (c : Char) :
    (within depth quote length count c).deeper = within (depth + 1) quote length count c := by
  unfold within
  split_ifs <;> rfl

variable [Release] {stops fewer : List Char} {spot stop : Spot} {chars more : List Char} {c : Char}

theorem deeper_enter (depth : Nat) (quote : Char) (trail : Trail) :
    (enter depth quote trail).deeper = enter (depth + 1) quote trail := by
  cases trail with
  | mark =>
      unfold enter
      dsimp only
      split_ifs <;> rfl
  | _ => rfl

@[simp] theorem scan?_nil : scan? stops spot [] = some spot := rfl

theorem scan?_cons :
    scan? stops spot (c :: chars) = (next? stops spot c).bind (scan? stops · chars) := rfl

theorem scan?_append :
    scan? stops spot (chars ++ more) = (scan? stops spot chars).bind (scan? stops · more) :=
  List.foldlM_append

theorem scan?_append_of (scanned : scan? stops spot chars = some stop) :
    scan? stops spot (chars ++ more) = scan? stops stop more := by
  rw [scan?_append, scanned, Option.bind_some]

@[simp] theorem scan?_formatted : scan? stops .formatted chars = some .formatted := by
  induction chars with
  | nil => rfl
  | cons c rest ih => rw [scan?_cons, next?, Option.bind_some, ih]

/-- In brackets the scanner goes on as it does outside of them, and stops nowhere. -/
theorem next?_deeper (given : next? stops spot c = some stop) :
    next? fewer spot.deeper c = some stop.deeper := by
  cases spot with
  | outside depth trail =>
      simp only [next?, deeper] at given ⊢
      split_ifs at given ⊢ with quote opening closing stopped <;>
        try obtain rfl := Option.some.inj given
      · exact congrArg some (deeper_enter _ _ _).symm
      · rfl
      · cases depth with
        | zero => cases given
        | succ depth =>
            obtain rfl := Option.some.inj given
            rfl
      · cases stopped
      · rfl
  | opened depth quote =>
      obtain rfl := Option.some.inj given
      simp only [next?, deeper]
      split_ifs
      · rfl
      · exact congrArg some (deeper_within _ _ _ _ _).symm
  | inside depth quote length count =>
      obtain rfl := Option.some.inj given
      rw [deeper_within]
      rfl
  | escaped depth quote length =>
      obtain rfl := Option.some.inj given
      rfl
  | formatted =>
      obtain rfl := Option.some.inj given
      rfl

theorem scan?_deeper (given : scan? stops spot chars = some stop) :
    scan? fewer spot.deeper chars = some stop.deeper := by
  induction chars generalizing spot with
  | nil =>
      obtain rfl := Option.some.inj given
      rfl
  | cons c rest ih =>
      rw [scan?_cons, Option.bind_eq_some_iff] at given
      obtain ⟨between, here, later⟩ := given
      rw [scan?_cons, next?_deeper here, Option.bind_some]
      exact ih later

theorem next?_mono (subset : fewer ⊆ stops) (given : next? stops spot c = some stop) :
    next? fewer spot c = some stop := by
  cases spot with
  | outside depth trail =>
      have passes : (depth = 0 && stops.contains c) = false →
          (depth = 0 && fewer.contains c) = false := by
        simp only [Bool.and_eq_false_iff, List.contains_eq_mem, decide_eq_false_iff_not]
        exact Or.imp_right fun absent member => absent (subset member)
      simp only [next?] at given ⊢
      split at given
      · simp_all
      · split at given
        · simp_all
        · split at given
          · simp_all
          · split at given
            · cases given
            · next passed =>
                rw [passes (by simpa using passed)]
                simp_all
  | _ => exact given

theorem scan?_mono (subset : fewer ⊆ stops) (given : scan? stops spot chars = some stop) :
    scan? fewer spot chars = some stop := by
  induction chars generalizing spot with
  | nil => exact given
  | cons c rest ih =>
      rw [scan?_cons, Option.bind_eq_some_iff] at given ⊢
      obtain ⟨between, here, later⟩ := given
      exact ⟨between, next?_mono subset here, ih later⟩

end Spot

open Spot

/-! ## Plain characters -/

/-- The scanner only passes over the character. -/
def isPlain (stops : List Char) (c : Char) : Bool :=
  !isQuote c && !isOpening c && !isClosing c && !stops.contains c

/-- The characters at which printed operators that compose types are told from one another. -/
def compositionStops : List Char := ['|', '&']

theorem isPlain_of_mayExtendWord {c : Char} (goesOn : Number.mayExtendWord c = true) :
    isPlain compositionStops c = true := by
  cases plain : isPlain compositionStops c with
  | true => rfl
  | false =>
      simp only [isPlain, isQuote, isOpening, isClosing, compositionStops, Bool.and_eq_false_iff,
        Bool.not_eq_false', Bool.or_eq_true, decide_eq_true_eq, List.contains_iff_mem,
        List.mem_cons, List.not_mem_nil, or_false] at plain
      rcases plain with ((quote | bracket) | bracket) | stop
      · rcases quote with rfl | rfl <;> cases goesOn
      · rcases bracket with (rfl | rfl) | rfl <;> cases goesOn
      · rcases bracket with (rfl | rfl) | rfl <;> cases goesOn
      · rcases stop with rfl | rfl <;> cases goesOn

/-! ## Texts that are closed -/

variable [Release]

/-- The scanner leaves the text free, having stopped nowhere. -/
def IsClosed (stops : List Char) (text : String) : Prop :=
  ∃ spot, scan? stops (.outside 0 .clear) text.toList = some spot ∧ spot.IsFree

/-- The text is closed and does not end in an `f`, so that a quote may follow. -/
def IsSettled (stops : List Char) (text : String) : Prop :=
  ∃ spot, scan? stops (.outside 0 .clear) text.toList = some spot ∧
    (spot = .outside 0 .clear ∨ spot = .formatted)

/-- The text is closed wherever it stands, behind an `f` as well. -/
def Continues (stops : List Char) (text : String) : Prop :=
  ∀ trail, ∃ spot, scan? stops (.outside 0 trail) text.toList = some spot ∧ spot.IsFree

/-- Wherever the text stands, it is passed over without a trace. -/
def IsGap (stops : List Char) (text : String) : Prop :=
  ∀ trail, scan? stops (.outside 0 trail) text.toList = some (.outside 0 .clear)

variable {stops fewer : List Char} {first second text inner opening closing separator : String}

theorem IsClosed.mono (subset : fewer ⊆ stops) (closed : IsClosed stops text) :
    IsClosed fewer text := by
  obtain ⟨spot, scanned, free⟩ := closed
  exact ⟨spot, scan?_mono subset scanned, free⟩

theorem Continues.isClosed (continues : Continues stops text) : IsClosed stops text :=
  continues .clear

theorem IsSettled.isClosed (settled : IsSettled stops text) : IsClosed stops text := by
  obtain ⟨spot, scanned, rfl | rfl⟩ := settled
  · exact ⟨_, scanned, .outside .clear⟩
  · exact ⟨_, scanned, .formatted⟩

theorem IsGap.isSettled (gap : IsGap stops text) : IsSettled stops text :=
  ⟨_, gap .clear, .inl rfl⟩

theorem continues_empty : Continues stops "" :=
  fun trail => ⟨_, rfl, .outside trail⟩

theorem isClosed_empty : IsClosed stops "" :=
  continues_empty.isClosed

/-! ## Texts one after the other -/

theorem IsClosed.append (former : IsClosed stops first) (latter : Continues stops second) :
    IsClosed stops (first ++ second) := by
  obtain ⟨spot, scanned, free⟩ := former
  rw [IsClosed, String.toList_append, scan?_append_of scanned]
  cases free with
  | outside trail => exact latter trail
  | formatted => exact ⟨_, scan?_formatted, .formatted⟩

theorem Continues.append (former : Continues stops first) (latter : Continues stops second) :
    Continues stops (first ++ second) := by
  intro trail
  obtain ⟨spot, scanned, free⟩ := former trail
  rw [String.toList_append, scan?_append_of scanned]
  cases free with
  | outside trail => exact latter trail
  | formatted => exact ⟨_, scan?_formatted, .formatted⟩

theorem IsSettled.append (former : IsSettled stops first) (latter : IsClosed stops second) :
    IsClosed stops (first ++ second) := by
  obtain ⟨spot, scanned, rfl | rfl⟩ := former
  · rwa [IsClosed, String.toList_append, scan?_append_of scanned]
  · rw [IsClosed, String.toList_append, scan?_append_of scanned]
    exact ⟨_, scan?_formatted, .formatted⟩

theorem IsClosed.append_gap (closed : IsClosed stops text) (gap : IsGap stops separator) :
    IsSettled stops (text ++ separator) := by
  obtain ⟨spot, scanned, free⟩ := closed
  rw [IsSettled, String.toList_append, scan?_append_of scanned]
  cases free with
  | outside trail => exact ⟨_, gap trail, .inl rfl⟩
  | formatted => exact ⟨_, scan?_formatted, .inr rfl⟩

theorem IsGap.append (gap : IsGap stops separator) (closed : IsClosed stops text) :
    Continues stops (separator ++ text) := by
  intro trail
  rw [String.toList_append, scan?_append_of (gap trail)]
  exact closed

/-- Closed texts around a gap make a closed text. -/
theorem IsClosed.joined (former : IsClosed stops first) (gap : IsGap stops separator)
    (latter : IsClosed stops second) : IsClosed stops (first ++ separator ++ second) :=
  (former.append_gap gap).append latter

theorem isClosed_intercalate (gap : IsGap stops separator) {texts : List String}
    (each : ∀ text ∈ texts, IsClosed stops text) :
    IsClosed stops (separator.intercalate texts) := by
  induction texts with
  | nil =>
      rw [String.intercalate_nil]
      exact isClosed_empty
  | cons first rest ih =>
      obtain ⟨ofFirst, ofRest⟩ := List.forall_mem_cons.mp each
      cases rest with
      | nil => rwa [String.intercalate_singleton]
      | cons second rest =>
          rw [String.intercalate_cons_cons]
          exact ofFirst.joined gap (ih ofRest)

/-! ## Brackets -/

/-- The texts are an opening and a closing bracket. -/
structure AreBrackets (opening closing : String) : Prop where
  opens : ∀ stops depth trail,
    scan? stops (.outside depth trail) opening.toList = some (.outside (depth + 1) .clear)
  closes : ∀ stops depth trail,
    scan? stops (.outside (depth + 1) trail) closing.toList = some (.outside depth .clear)

theorem areBrackets_round : AreBrackets "(" ")" := ⟨fun _ _ _ => rfl, fun _ _ _ => rfl⟩

theorem areBrackets_square : AreBrackets "[" "]" := ⟨fun _ _ _ => rfl, fun _ _ _ => rfl⟩

theorem areBrackets_curly : AreBrackets "\x7b" "\x7d" := ⟨fun _ _ _ => rfl, fun _ _ _ => rfl⟩

/-- In brackets a text that is closed without stops is closed whatever the stops are. -/
theorem AreBrackets.continues (brackets : AreBrackets opening closing)
    (closed : IsClosed [] inner) : Continues stops (opening ++ inner ++ closing) := by
  intro trail
  obtain ⟨spot, scanned, free⟩ := closed
  have inside : scan? stops (.outside 1 .clear) inner.toList = some spot.deeper :=
    scan?_deeper scanned
  rw [String.toList_append, String.toList_append, List.append_assoc,
    scan?_append_of (brackets.opens _ _ _), scan?_append_of inside]
  cases free with
  | outside trail => exact ⟨_, brackets.closes _ _ _, .outside .clear⟩
  | formatted => exact ⟨_, scan?_formatted, .formatted⟩

/-! ## Plain texts -/

theorem Spot.next?_of_isPlain {c : Char} (plain : isPlain stops c = true) (depth : Nat)
    (trail : Trail) : next? stops (.outside depth trail) c = some (.outside depth (.behind c)) := by
  simp only [isPlain, Bool.and_eq_true, Bool.not_eq_true'] at plain
  rw [next?, plain.1.1.1, plain.1.1.2, plain.1.2, plain.2, Bool.and_false]
  rfl

theorem Spot.scan?_of_isPlain {chars : List Char} (plain : ∀ c ∈ chars, isPlain stops c = true)
    (depth : Nat) (trail : Trail) :
    ∃ behind, scan? stops (.outside depth trail) chars = some (.outside depth behind) := by
  induction chars generalizing trail with
  | nil => exact ⟨_, rfl⟩
  | cons c rest ih =>
      obtain ⟨here, later⟩ := List.forall_mem_cons.mp plain
      rw [scan?_cons, next?_of_isPlain here, Option.bind_some]
      exact ih later _

theorem continues_of_isPlain (plain : ∀ c ∈ text.toList, isPlain stops c = true) :
    Continues stops text := by
  intro trail
  obtain ⟨behind, scanned⟩ := scan?_of_isPlain plain 0 trail
  exact ⟨_, scanned, .outside behind⟩

theorem IsWord.continues (word : IsWord text) : Continues compositionStops text :=
  continues_of_isPlain fun c member => isPlain_of_mayExtendWord (word.chars c member)

end Stringify.Source
