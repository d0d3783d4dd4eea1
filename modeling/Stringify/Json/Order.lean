import Stringify.Json.Basic

/-!
# The order of scalars

Truth values, integers and reals are compared by their numerical values, exactly, whatever their
kinds: a truth value counts as one or zero. Null stands before all numbers.
-/

namespace Stringify.Scalar

/-- Where a scalar stands among scalars that are no finite numbers. -/
inductive Region where
  | null
  | negativeInfinity
  /-- The finite number `mantissa * 2 ^ exponent`. -/
  | finite (mantissa exponent : Int)
  | positiveInfinity
  | notANumber

namespace Region

/-- The place of a region in the order. -/
def rank : Region → Nat
  | .null => 0
  | .negativeInfinity => 1
  | .finite _ _ => 2
  | .positiveInfinity => 3
  | .notANumber => 4

end Region

/-- Where a scalar stands. -/
def region : Scalar → Region
  | .null => .null
  | .bool value => .finite (if value then 1 else 0) 0
  | .int value => .finite value 0
  | .real (.finite negative mantissa exponent) =>
    .finite (if negative then -(mantissa : Int) else mantissa) exponent
  | .real (.infinite true) => .negativeInfinity
  | .real (.infinite false) => .positiveInfinity
  | .real .nan => .notANumber

/-- The order of two scalars. -/
def order (left right : Scalar) : Ordering :=
  match left.region, right.region with
  | .finite leftMantissa leftExponent, .finite rightMantissa rightExponent =>
    let least := min leftExponent rightExponent
    let scaled (mantissa exponent : Int) : Int :=
      mantissa * Int.ofNat (Nat.pow 2 (exponent - least).toNat)
    compare (scaled leftMantissa leftExponent) (scaled rightMantissa rightExponent)
  | left, right => compare left.rank right.rank

/-- Two scalars count as one member of a set; what is not a number never does. -/
def isSame (left right : Scalar) : Bool :=
  left != .real .nan && left.order right == .eq

/-- Insert a scalar into an increasing list, unless one that counts as the same is there already. -/
def insert (value : Scalar) : List Scalar → List Scalar
  | [] => [value]
  | other :: rest =>
    if value.isSame other then other :: rest
    else if value.order other == .lt then value :: other :: rest
    else other :: insert value rest

/-- Insert several scalars into an increasing list. -/
def insertAll (sorted values : List Scalar) : List Scalar :=
  values.foldl (fun sorted value => value.insert sorted) sorted

/-- Whether two increasing lists have the same members. -/
def areSame : List Scalar → List Scalar → Bool
  | [], [] => true
  | left :: lefts, right :: rights => left.isSame right && areSame lefts rights
  | _, _ => false

end Stringify.Scalar
