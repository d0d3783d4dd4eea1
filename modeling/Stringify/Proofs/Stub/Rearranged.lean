import Stringify.Proofs.Stub.Annotations
import Stringify.Proofs.Ty.Outline

/-!
# The order of operands in annotations

An annotation is rearranged by changing the order of the operands of alternatives and of the
arguments of unions and intersections, at any depth where hints are resolved; the arguments of
generic classes are only printed. The order is kept in the types that are built, but no verdict
depends on it, with one exception: equal parts of an intersection collapse, and unions of the same
types in another order are not equal.
-/

namespace Stringify.Stub

open Source (Expr Stmt)
open Ty (Alike Matched)

variable {scope : Scope} {allowed : Expr → Expr → Prop} {hint other argument : Expr}
variable {hints others : List Expr} {readings : Nat} {type : Ty} {settings : Settings}

/-! ## Operands -/

/-- The operands of a chain of alternatives. -/
def operands : Expr → List Expr
  | .binary _ left .bitOr right => operands left ++ operands right
  | hint => [hint]

theorem longestTextOf_eq_of_matched
    (matched : Matched (fun hint other => longestText other = longestText hint) (· ∈ hints)
      (· ∈ others)) : longestTextOf others = longestTextOf hints := by
  refine Nat.le_antisymm (longestTextOf_le_iff.mpr fun partner member => ?_)
    (longestTextOf_le_iff.mpr fun element member => ?_)
  · obtain ⟨element, given, same⟩ := matched.2 partner member
    exact same ▸ longestTextOf_le_iff.mp (Nat.le_refl _) element given
  · obtain ⟨partner, taken, same⟩ := matched.1 element member
    exact same ▸ longestTextOf_le_iff.mp (Nat.le_refl _) partner taken

theorem longestTextOf_append (first second : List Expr) :
    longestTextOf (first ++ second) = max (longestTextOf first) (longestTextOf second) := by
  induction first with
  | nil => simp [longestTextOf]
  | cons hint rest ih => simp [longestTextOf, ih, Nat.max_assoc]

theorem longestTextOf_operands (hint : Expr) :
    longestTextOf (operands hint) = longestText hint := by
  fun_induction operands hint with
  | case1 line left right ihLeft ihRight =>
      rw [longestTextOf_append, ihLeft, ihRight, longestText]
  | case2 => simp [longestTextOf]

/-- Lists whose elements are related in some order are related as collections. -/
theorem matched_of_zip {α : Type} {related : α → α → Prop} {first middle second : List α}
    (lengths : first.length = middle.length)
    (each : ∀ element partner, (element, partner) ∈ first.zip middle → related element partner)
    (order : middle.Perm second) : Matched related (· ∈ first) (· ∈ second) := by
  constructor
  · intro element member
    obtain ⟨partner, paired⟩ := exists_zip_of_mem_left lengths member
    exact ⟨partner, order.subset (List.of_mem_zip paired).2, each element partner paired⟩
  · intro partner member
    obtain ⟨element, paired⟩ := exists_zip_of_mem_right lengths (order.symm.subset member)
    exact ⟨element, (List.of_mem_zip paired).1, each element partner paired⟩

/-! ## Rearranging -/

section

variable [Release]

/-- The second hint is the first one in another order. An intersection may only be rearranged into
one for which it is allowed. -/
inductive Rearranged (scope : Scope) (allowed : Expr → Expr → Prop) : Expr → Expr → Prop where
  /-- The order stays, though the lines may be others. -/
  | same {hint other : Expr} (longest : longestText other = longestText hint)
      (equal : ∀ readings type, resolveWithin scope readings hint = .ok type →
        resolveWithin scope readings other = .ok type) :
      Rearranged scope allowed hint other
  /-- The hint that a text writes is rearranged. -/
  | text {line otherLine : Nat} {value otherValue : Text} {isMarked otherIsMarked : Bool}
      {inner otherInner : Expr} (length : otherValue.length = value.length)
      (read : readReference line value = .ok inner)
      (otherRead : readReference otherLine otherValue = .ok otherInner)
      (inside : Rearranged scope allowed inner otherInner) :
      Rearranged scope allowed (.constant line (.text value isMarked))
        (.constant otherLine (.text otherValue otherIsMarked))
  /-- The operands of alternatives are rearranged and then change places. -/
  | alternatives {hint other : Expr} {middle : List Expr}
      (lengths : (operands hint).length = middle.length)
      (each : ∀ operand partner, (operand, partner) ∈ (operands hint).zip middle →
        Rearranged scope allowed operand partner)
      (order : middle.Perm (operands other)) : Rearranged scope allowed hint other
  /-- The arguments of a union or an intersection are rearranged and then change places. -/
  | composed {composition : Composition} {line otherLine : Nat}
      {value otherValue index otherIndex : Expr} {middle : List Expr}
      (form : scope.form value.rootName? = .composing composition)
      (otherForm : scope.form otherValue.rootName? = .composing composition)
      (lengths : (argumentsOf index).length = middle.length)
      (each : ∀ argument partner, (argument, partner) ∈ (argumentsOf index).zip middle →
        Rearranged scope allowed argument partner)
      (order : middle.Perm (argumentsOf otherIndex))
      (permitted : composition = .intersection →
        allowed (.subscript line value index) (.subscript otherLine otherValue otherIndex)) :
      Rearranged scope allowed (.subscript line value index)
        (.subscript otherLine otherValue otherIndex)
  /-- The argument of an optional type is rearranged. -/
  | optional {line otherLine : Nat} {value otherValue index otherIndex argument partner : Expr}
      (form : scope.form value.rootName? = .optional)
      (otherForm : scope.form otherValue.rootName? = .optional)
      (alone : argumentsOf index = [argument]) (otherAlone : argumentsOf otherIndex = [partner])
      (inside : Rearranged scope allowed argument partner) :
      Rearranged scope allowed (.subscript line value index)
        (.subscript otherLine otherValue otherIndex)
  /-- The first argument of an annotated type, which alone is resolved, is rearranged. -/
  | annotated {line otherLine : Nat} {value otherValue index otherIndex argument partner : Expr}
      {rest otherRest : List Expr} (form : scope.form value.rootName? = .annotated)
      (otherForm : scope.form otherValue.rootName? = .annotated)
      (first : argumentsOf index = argument :: rest)
      (otherFirst : argumentsOf otherIndex = partner :: otherRest)
      (longest : longestTextOf otherRest = longestTextOf rest)
      (inside : Rearranged scope allowed argument partner) :
      Rearranged scope allowed (.subscript line value index)
        (.subscript otherLine otherValue otherIndex)

theorem Rearranged.refl (hint : Expr) : Rearranged scope allowed hint hint :=
  .same rfl fun _ _ resolved => resolved

/-- Two alternatives may change places. -/
theorem Rearranged.swap (line otherLine : Nat) (left right : Expr) :
    Rearranged scope allowed (.binary line left .bitOr right)
      (.binary otherLine right .bitOr left) := by
  have each : List.Forall₂ (Rearranged scope allowed) (operands left ++ operands right)
      (operands left ++ operands right) := List.forall₂_same.mpr fun operand _ => .refl operand
  exact .alternatives rfl (fun _ _ => (List.forall₂_iff_zip.mp each).2) List.perm_append_comm

/-- A union or an intersection of two arguments, each of them rearranged, may be written in any
order. -/
theorem Rearranged.pair {composition : Composition} {line : Nat} {value index otherIndex : Expr}
    {first second partner otherPartner : Expr}
    (form : scope.form value.rootName? = .composing composition)
    (arguments : argumentsOf index = [first, second])
    (ofFirst : Rearranged scope allowed first partner)
    (ofSecond : Rearranged scope allowed second otherPartner)
    (order : [partner, otherPartner].Perm (argumentsOf otherIndex))
    (permitted : composition = .intersection →
      allowed (.subscript line value index) (.subscript line value otherIndex)) :
    Rearranged scope allowed (.subscript line value index) (.subscript line value otherIndex) := by
  have each : List.Forall₂ (Rearranged scope allowed) (argumentsOf index)
      [partner, otherPartner] := by
    rw [arguments]
    exact .cons ofFirst (.cons ofSecond .nil)
  obtain ⟨lengths, paired⟩ := List.forall₂_iff_zip.mp each
  exact .composed form form lengths (fun _ _ => paired) order permitted

/-- The longest text of a rearranged hint is as long as before. -/
theorem Rearranged.longestText_eq (rearranged : Rearranged scope allowed hint other) :
    longestText other = longestText hint := by
  induction rearranged with
  | same longest _ => exact longest
  | text length _ _ _ _ => simp [longestText, length]
  | alternatives lengths _ order ih =>
      rw [← longestTextOf_operands, longestTextOf_eq_of_matched (matched_of_zip lengths ih order),
        longestTextOf_operands]
  | composed _ _ lengths _ order _ ih =>
      rw [longestText, longestText, ← longestTextOf_argumentsOf,
        longestTextOf_eq_of_matched (matched_of_zip lengths ih order), longestTextOf_argumentsOf]
  | optional _ _ alone otherAlone _ ih =>
      rw [longestText, longestText, ← longestTextOf_argumentsOf, ← longestTextOf_argumentsOf, alone,
        otherAlone]
      simp [longestTextOf, ih]
  | annotated _ _ first otherFirst longest _ ih =>
      rw [longestText, longestText, ← longestTextOf_argumentsOf, ← longestTextOf_argumentsOf, first,
        otherFirst]
      simp [longestTextOf, ih, longest]

/-! ## Several hints -/

/-- Every one of several hints stands for a type. -/
def AllResolve (scope : Scope) (readings : Nat) (hints : List Expr) : Prop :=
  ∀ hint ∈ hints, ∃ type, resolveWithin scope readings hint = .ok type

/-- One of several hints stands for the type. -/
def Found (scope : Scope) (readings : Nat) (hints : List Expr) (type : Ty) : Prop :=
  ∃ hint ∈ hints, resolveWithin scope readings hint = .ok type

/-- The second hint stands for a type like that of the first one. -/
def Follows (scope : Scope) (settings : Settings) (readings : Nat) (hint other : Expr) : Prop :=
  ∀ type, resolveWithin scope readings hint = .ok type →
    ∃ otherType, resolveWithin scope readings other = .ok otherType ∧ Alike settings type otherType

/-- The types of matched hints are alike. -/
theorem matched_found (resolve : AllResolve scope readings hints)
    (matched : Matched (Follows scope settings readings) (· ∈ hints) (· ∈ others)) :
    AllResolve scope readings others ∧
      Matched (Alike settings) (Found scope readings hints) (Found scope readings others) := by
  refine ⟨fun partner member => ?_, fun type found => ?_, fun type found => ?_⟩
  · obtain ⟨hint, given, follows⟩ := matched.2 partner member
    obtain ⟨type, resolved⟩ := resolve hint given
    obtain ⟨otherType, otherResolved, _⟩ := follows type resolved
    exact ⟨otherType, otherResolved⟩
  · obtain ⟨hint, given, resolved⟩ := found
    obtain ⟨partner, member, follows⟩ := matched.1 hint given
    obtain ⟨otherType, otherResolved, alike⟩ := follows type resolved
    exact ⟨otherType, ⟨partner, member, otherResolved⟩, alike⟩
  · obtain ⟨partner, member, otherResolved⟩ := found
    obtain ⟨hint, given, follows⟩ := matched.2 partner member
    obtain ⟨ofHint, resolved⟩ := resolve hint given
    obtain ⟨again, foundAgain, alike⟩ := follows ofHint resolved
    obtain rfl := resolveWithin_unique otherResolved foundAgain
    exact ⟨ofHint, ⟨hint, given, resolved⟩, alike⟩

/-- The types of a list of hints, as they are resolved one by one. -/
theorem exists_types (resolve : AllResolve scope readings hints) :
    ∃ types, hints.length = types.length ∧ ∀ hint type, (hint, type) ∈ hints.zip types →
      resolveWithin scope readings hint = .ok type := by
  induction hints with
  | nil => exact ⟨[], rfl, by simp⟩
  | cons hint rest ih =>
      obtain ⟨type, resolved⟩ := resolve hint List.mem_cons_self
      obtain ⟨types, lengths, each⟩ := ih fun other member =>
        resolve other (List.mem_cons_of_mem _ member)
      refine ⟨type :: types, by simp [lengths], fun other part paired => ?_⟩
      rw [List.zip_cons_cons, List.mem_cons] at paired
      rcases paired with same | paired
      · cases same
        exact resolved
      · exact each other part paired

section Types

variable {types : List Ty}

theorem mem_types_iff (lengths : hints.length = types.length)
    (each : ∀ hint type, (hint, type) ∈ hints.zip types →
      resolveWithin scope readings hint = .ok type) (type : Ty) :
    type ∈ types ↔ Found scope readings hints type := by
  constructor
  · intro member
    obtain ⟨hint, paired⟩ := exists_zip_of_mem_right lengths member
    exact ⟨hint, (List.of_mem_zip paired).1, each hint type paired⟩
  · rintro ⟨hint, given, resolved⟩
    obtain ⟨again, paired⟩ := exists_zip_of_mem_left lengths given
    obtain rfl := resolveWithin_unique resolved (each hint again paired)
    exact (List.of_mem_zip paired).2

theorem allResolve_of_types (lengths : hints.length = types.length)
    (each : ∀ hint type, (hint, type) ∈ hints.zip types →
      resolveWithin scope readings hint = .ok type) : AllResolve scope readings hints := by
  intro hint given
  obtain ⟨type, paired⟩ := exists_zip_of_mem_left lengths given
  exact ⟨type, each hint type paired⟩

theorem normal_of_types (normal : scope.IsNormal) (lengths : hints.length = types.length)
    (each : ∀ hint type, (hint, type) ∈ hints.zip types →
      resolveWithin scope readings hint = .ok type) : ∀ part ∈ types, part.Normal := by
  intro part member
  obtain ⟨_, _, found⟩ := (mem_types_iff lengths each part).mp member
  exact normal_of_resolveWithin normal found

/-- What matched hints stand for is matched. -/
theorem exists_matched_types (lengths : hints.length = types.length)
    (each : ∀ hint type, (hint, type) ∈ hints.zip types →
      resolveWithin scope readings hint = .ok type)
    (matched : Matched (Follows scope settings readings) (· ∈ hints) (· ∈ others)) :
    ∃ otherTypes, others.length = otherTypes.length ∧
      (∀ other type, (other, type) ∈ others.zip otherTypes →
        resolveWithin scope readings other = .ok type) ∧
      Matched (Alike settings) (· ∈ types) (· ∈ otherTypes) := by
  obtain ⟨otherResolve, found⟩ := matched_found (allResolve_of_types lengths each) matched
  obtain ⟨otherTypes, otherLengths, otherEach⟩ := exists_types otherResolve
  refine ⟨otherTypes, otherLengths, otherEach, ?_⟩
  simpa only [Matched, mem_types_iff lengths each, mem_types_iff otherLengths otherEach] using found

end Types

/-! ## Alternatives -/

theorem normal_pair {first second : Ty} (normal : scope.IsNormal) {left right : Expr}
    (ofLeft : resolveWithin scope readings left = .ok first)
    (ofRight : resolveWithin scope readings right = .ok second) :
    ∀ part ∈ [first, second], part.Normal := by
  simp [normal_of_resolveWithin normal ofLeft, normal_of_resolveWithin normal ofRight]

/-- Alternatives are the union of their operands, however they are grouped. -/
theorem operands_of_resolveWithin (normal : scope.IsNormal)
    (resolved : resolveWithin scope readings hint = .ok type) :
    AllResolve scope readings (operands hint) ∧
      ∀ member, member ∈ Ty.members .union type ↔
        ∃ part, Found scope readings (operands hint) part ∧ member ∈ Ty.members .union part := by
  fun_induction operands hint generalizing type with
  | case1 line left right ihLeft ihRight =>
      obtain ⟨first, second, ofLeft, ofRight, composed⟩ := resolveWithin_either_iff.mp resolved
      obtain ⟨eachLeft, membersLeft⟩ := ihLeft ofLeft
      obtain ⟨eachRight, membersRight⟩ := ihRight ofRight
      refine ⟨List.forall_mem_append.mpr ⟨eachLeft, eachRight⟩, fun member => ?_⟩
      rw [Ty.mem_members_of_compose? (normal_pair normal ofLeft ofRight) composed]
      simp only [List.mem_cons, List.not_mem_nil, or_false, exists_eq_left,
        membersLeft, membersRight, Found, List.mem_append, or_and_right, exists_or]
  | case2 hint _ =>
      refine ⟨by simpa [AllResolve] using ⟨type, resolved⟩, fun member => ?_⟩
      simp [Found, resolved]

theorem exists_of_operands (normal : scope.IsNormal)
    (resolve : AllResolve scope readings (operands hint)) :
    ∃ type, resolveWithin scope readings hint = .ok type := by
  fun_induction operands hint with
  | case1 line left right ihLeft ihRight =>
      obtain ⟨eachLeft, eachRight⟩ := List.forall_mem_append.mp resolve
      obtain ⟨first, ofLeft⟩ := ihLeft eachLeft
      obtain ⟨second, ofRight⟩ := ihRight eachRight
      obtain ⟨type, composed⟩ : ∃ type, Ty.compose? .union [first, second] = some type :=
        Ty.exists_compose? (List.cons_ne_nil first [second]) (normal_pair normal ofLeft ofRight)
      exact ⟨type, resolveWithin_either_iff.mpr ⟨first, second, ofLeft, ofRight, composed⟩⟩
  | case2 hint _ => exact resolve hint (by simp)

/-! ## Rearranged hints -/

/-- Both or none of two hints stand for a union. -/
def CollapseTogether (scope : Scope) (hint other : Expr) : Prop :=
  (∃ readings parts, resolveWithin scope readings hint = .ok (.composite .union parts)) ↔
    ∃ readings parts, resolveWithin scope readings other = .ok (.composite .union parts)

theorem parts?_eq_none_iff_of_collapseTogether {otherType : Ty}
    (together : CollapseTogether scope hint other)
    (resolved : resolveWithin scope readings hint = .ok type)
    (otherResolved : resolveWithin scope readings other = .ok otherType) :
    type.parts? .union = none ↔ otherType.parts? .union = none := by
  have isUnion {hint : Expr} {type : Ty} (resolved : resolveWithin scope readings hint = .ok type) :
      (∃ readings parts, resolveWithin scope readings hint = .ok (.composite .union parts)) ↔
        ∃ parts, type.parts? .union = some parts := by
    simp only [Ty.parts?_eq_some_iff]
    constructor
    · rintro ⟨_, parts, again⟩
      exact ⟨parts, resolveWithin_unique resolved again⟩
    · rintro ⟨parts, rfl⟩
      exact ⟨readings, parts, resolved⟩
  have same := together
  rw [CollapseTogether, isUnion resolved, isUnion otherResolved] at same
  simpa [Option.eq_none_iff_forall_ne_some] using not_congr same

theorem follows_alternatives (normal : scope.IsNormal)
    (matched : Matched (Follows scope settings readings) (· ∈ operands hint)
      (· ∈ operands other)) : Follows scope settings readings hint other := by
  intro type resolved
  obtain ⟨resolve, membersOf⟩ := operands_of_resolveWithin normal resolved
  obtain ⟨otherResolve, found⟩ := matched_found resolve matched
  obtain ⟨otherType, otherResolved⟩ := exists_of_operands normal otherResolve
  obtain ⟨_, otherMembersOf⟩ := operands_of_resolveWithin normal otherResolved
  exact ⟨otherType, otherResolved, .of_members found membersOf otherMembersOf⟩

section Subscripts

variable {line otherLine : Nat} {value otherValue index otherIndex partner : Expr}

theorem follows_composed {composition : Composition} (normal : scope.IsNormal)
    (form : scope.form value.rootName? = .composing composition)
    (otherForm : scope.form otherValue.rootName? = .composing composition)
    (matched : Matched (Follows scope settings readings) (· ∈ argumentsOf index)
      (· ∈ argumentsOf otherIndex))
    (together : composition = .intersection → CollapseTogether scope
      (.subscript line value index) (.subscript otherLine otherValue otherIndex)) :
    Follows scope settings readings (.subscript line value index)
      (.subscript otherLine otherValue otherIndex) := by
  intro type resolved
  obtain ⟨types, lengths, each, composed⟩ := (resolveWithin_composed_iff form).mp resolved
  obtain ⟨otherTypes, otherLengths, otherEach, matched⟩ := exists_matched_types lengths each matched
  have eachNormal := normal_of_types normal lengths each
  have otherNormal := normal_of_types normal otherLengths otherEach
  have nonempty : otherTypes ≠ [] := by
    obtain ⟨part, member⟩ := List.exists_mem_of_ne_nil types (Ty.ne_nil_of_compose? composed)
    obtain ⟨other, otherMember, _⟩ := matched.1 part member
    exact List.ne_nil_of_mem otherMember
  obtain ⟨otherType, otherComposed⟩ : ∃ otherType,
      Ty.compose? composition otherTypes = some otherType :=
    Ty.exists_compose? nonempty otherNormal
  have otherResolved : resolveWithin scope readings
      (.subscript otherLine otherValue otherIndex) = .ok otherType :=
    (resolveWithin_composed_iff otherForm).mpr ⟨otherTypes, otherLengths, otherEach, otherComposed⟩
  refine ⟨otherType, otherResolved, ?_⟩
  cases composition with
  | union => exact .compose_union matched eachNormal otherNormal composed otherComposed
  | intersection =>
      exact .compose_intersection matched eachNormal otherNormal composed otherComposed
        (parts?_eq_none_iff_of_collapseTogether (together rfl) resolved otherResolved)

theorem follows_optional (normal : scope.IsNormal)
    (form : scope.form value.rootName? = .optional)
    (otherForm : scope.form otherValue.rootName? = .optional)
    (alone : argumentsOf index = [argument]) (otherAlone : argumentsOf otherIndex = [partner])
    (follows : Follows scope settings readings argument partner) :
    Follows scope settings readings (.subscript line value index)
      (.subscript otherLine otherValue otherIndex) := by
  intro type resolved
  obtain ⟨inner, ofArgument, composed⟩ := (resolveWithin_optional_iff form alone).mp resolved
  obtain ⟨otherInner, ofPartner, alike⟩ := follows inner ofArgument
  have pairNormal {inner : Ty} {argument : Expr}
      (resolved : resolveWithin scope readings argument = .ok inner) :
      ∀ part ∈ [inner, Ty.nothing], part.Normal := by
    simp [normal_of_resolveWithin normal resolved, Ty.nothing, Ty.Normal.leaf]
  obtain ⟨otherType, otherComposed⟩ : ∃ otherType,
      Ty.compose? .union [otherInner, .nothing] = some otherType :=
    Ty.exists_compose? (List.cons_ne_nil _ _) (pairNormal ofPartner)
  have matched : Matched (Alike settings) (· ∈ [inner, Ty.nothing])
      (· ∈ [otherInner, Ty.nothing]) := by
    simp [Matched, alike, Alike.refl]
  exact ⟨otherType,
    (resolveWithin_optional_iff otherForm otherAlone).mpr ⟨_, ofPartner, otherComposed⟩,
    .compose_union matched (pairNormal ofArgument) (pairNormal ofPartner) composed otherComposed⟩

end Subscripts

/-- A rearranged hint stands for a type like that of the hint, if its intersections collapse
together. -/
theorem Rearranged.follows (normal : scope.IsNormal)
    (rearranged : Rearranged scope (CollapseTogether scope) hint other) (readings : Nat) :
    Follows scope settings readings hint other := by
  induction rearranged generalizing readings with
  | same _ equal => exact fun type resolved => ⟨type, equal _ _ resolved, .refl settings type⟩
  | text _ read otherRead _ ih =>
      intro type resolved
      obtain ⟨fewer, inner, rfl, again, resolved⟩ := resolveWithin_text_iff.mp resolved
      obtain rfl := Except.ok.inj (read.symm.trans again)
      obtain ⟨otherType, otherResolved, alike⟩ := ih fewer type resolved
      exact ⟨otherType, resolveWithin_text_iff.mpr ⟨fewer, _, rfl, otherRead, otherResolved⟩, alike⟩
  | alternatives lengths _ order ih =>
      exact follows_alternatives normal
        (matched_of_zip lengths (fun _ _ paired => ih _ _ paired readings) order)
  | composed form otherForm lengths _ order together ih =>
      exact follows_composed normal form otherForm
        (matched_of_zip lengths (fun _ _ paired => ih _ _ paired readings) order) together
  | optional form otherForm alone otherAlone _ ih =>
      exact follows_optional normal form otherForm alone otherAlone (ih readings)
  | annotated form otherForm first otherFirst _ _ ih =>
      intro type resolved
      obtain ⟨otherType, otherResolved, alike⟩ :=
        ih readings type ((resolveWithin_annotated_iff form first).mp resolved)
      exact ⟨otherType, (resolveWithin_annotated_iff otherForm otherFirst).mpr otherResolved, alike⟩

end

/-- In a stub that makes a module, a rearranged annotation has the verdict of the annotation under
all settings that ignore no composed type in either of them, if its intersections collapse
together. -/
theorem verdict_of_rearranged [Release] {file : Text} {stmts : List Stmt} {module : Module}
    (loaded : Module.ofStmts file stmts = .ok module)
    (annotates : Annotates module.classes stmts scope hint)
    (rearranged : Rearranged scope (CollapseTogether scope) hint other) :
    ∃ type otherType, resolve scope hint = .ok type ∧ resolve scope other = .ok otherType ∧
      ∀ settings, Ty.SparesComposed settings type → Ty.SparesComposed settings otherType →
        type.classify settings = otherType.classify settings := by
  obtain ⟨normal, type, resolved⟩ := exists_resolve_of_annotates loaded annotates
  have follows (settings : Settings) :
      ∃ otherType, resolve scope other = .ok otherType ∧ Alike settings type otherType := by
    rw [resolve, rearranged.longestText_eq]
    exact rearranged.follows normal _ type resolved
  obtain ⟨otherType, otherResolved, _⟩ := follows ⟨[], [], false⟩
  refine ⟨type, otherType, resolved, otherResolved, fun settings spares otherSpares => ?_⟩
  obtain ⟨again, found, alike⟩ := follows settings
  obtain rfl := Except.ok.inj (otherResolved.symm.trans found)
  exact alike.classify_eq (normal_of_resolveWithin normal resolved)
    (normal_of_resolveWithin normal otherResolved) spares otherSpares

/-- The arguments of an intersection change places, and so do alternatives in one of them. -/
theorem verdict_of_rearranged_nested :
    let _release : Release := .late
    let scope : Scope := ⟨.builtin, []⟩
    let root : Expr := .name 1 "object"
    let text : Expr := .name 1 "str"
    let number : Expr := .name 1 "int"
    let intersection (arguments : List Expr) : Expr :=
      .subscript 1 (.name 1 "Intersection") (.tuple 1 arguments)
    let hint := intersection [number, .binary 1 root .bitOr text]
    let other := intersection [.binary 1 text .bitOr root, number]
    let stmts : List Stmt := [.annotated ⟨1, 1⟩ (.name 1 "x") hint none]
    ∃ module, Module.ofStmts "stub.pyi" stmts = .ok module ∧
      Annotates module.classes stmts scope hint ∧
      Rearranged scope (CollapseTogether scope) hint other ∧
      ∃ type otherType, resolve scope hint = .ok type ∧ resolve scope other = .ok otherType ∧
        type.classify ⟨[], [], false⟩ = otherType.classify ⟨[], [], false⟩ := by
  intro release scope root text number intersection hint other stmts
  let either : Ty := .composite .union [.object, .ofScalar "str"]
  let swapped : Ty := .composite .union [.ofScalar "str", .object]
  have loaded : Module.ofStmts "stub.pyi" stmts =
      .ok ⟨"stub.pyi", .builtin, [("x", .composite .intersection [.ofScalar "int", either])]⟩ := by
    rfl
  have annotates : Annotates .builtin stmts scope hint :=
    annotates_singleton _ _ _ _ _ (by decide)
  have together : CollapseTogether scope hint other := by
    have resolved : resolveWithin scope 1 hint =
        .ok (.composite .intersection [.ofScalar "int", either]) := by rfl
    have otherResolved : resolveWithin scope 1 other =
        .ok (.composite .intersection [swapped, .ofScalar "int"]) := by rfl
    constructor
    · rintro ⟨_, _, again⟩
      cases resolveWithin_unique resolved again
    · rintro ⟨_, _, again⟩
      cases resolveWithin_unique otherResolved again
  have rearranged : Rearranged scope (CollapseTogether scope) hint other := by
    have form : scope.form (Expr.name 1 "Intersection").rootName? = .composing .intersection := by
      rfl
    exact .pair form rfl (.refl number) (.swap 1 1 root text) (.swap ..) fun _ => together
  obtain ⟨type, otherType, resolved, otherResolved, same⟩ :=
    verdict_of_rearranged loaded annotates rearranged
  exact ⟨_, loaded, annotates, rearranged, type, otherType, resolved, otherResolved,
    same _ (.of_none (fun _ => rfl) _) (.of_none (fun _ => rfl) _)⟩

/-- If every intersection may be rearranged, a verdict can change: alternatives written twice
collapse to one union, and written once in each order they do not. -/
theorem verdict_ne_of_rearranged_intersection :
    let _release : Release := .late
    let scope : Scope := ⟨.builtin, []⟩
    let root : Expr := .name 1 "object"
    let number : Expr := .name 1 "int"
    let intersection (arguments : List Expr) : Expr :=
      .subscript 1 (.name 1 "Intersection") (.tuple 1 arguments)
    let hint := intersection [.binary 1 root .bitOr number, .binary 1 root .bitOr number]
    let other := intersection [.binary 1 root .bitOr number, .binary 1 number .bitOr root]
    let stmts : List Stmt := [.annotated ⟨1, 1⟩ (.name 1 "x") hint none]
    ∃ module, Module.ofStmts "stub.pyi" stmts = .ok module ∧
      Annotates module.classes stmts scope hint ∧ Rearranged scope (fun _ _ => True) hint other ∧
      ∃ type otherType settings, resolve scope hint = .ok type ∧
        resolve scope other = .ok otherType ∧ (∀ name, settings.ignores name = false) ∧
        type.classify settings = .sometimes ∧ otherType.classify settings = .never := by
  intro release scope root number intersection hint other stmts
  let either : Ty := .composite .union [.object, .ofScalar "int"]
  let swapped : Ty := .composite .union [.ofScalar "int", .object]
  have loaded : Module.ofStmts "stub.pyi" stmts = .ok ⟨"stub.pyi", .builtin, [("x", either)]⟩ := by
    rfl
  have annotates : Annotates .builtin stmts scope hint :=
    annotates_singleton _ _ _ _ _ (by decide)
  have rearranged : Rearranged scope (fun _ _ => True) hint other := by
    have form : scope.form (Expr.name 1 "Intersection").rootName? = .composing .intersection := by
      rfl
    exact .pair form rfl (.refl _) (.swap 1 1 root number) (.refl _) fun _ => trivial
  exact ⟨_, loaded, annotates, rearranged, either, .composite .intersection [either, swapped],
    ⟨[], [], false⟩, by rfl, by rfl, fun _ => rfl, by rfl, by rfl⟩

end Stringify.Stub
