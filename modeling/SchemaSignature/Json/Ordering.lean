import SchemaSignature.Json.Comparison
import SchemaSignature.Sorting

/-!
The order of JSON values, as far as they have one: numbers by size, texts by their characters,
arrays by the first items that differ. The undefined number precedes nothing and nothing precedes
it. Whether the items of an array are all different is decided on the sorted array, where only
neighbours are compared; the items of an array that cannot be sorted are compared pair by pair.
-/

namespace SchemaSignature.Json

/-- A quantity in units of the smallest positive double, if it is finite. -/
def Quantity.units? : Quantity → Option Int
  | .whole value => some (value * (Nat.pow 2 1074 : Nat))
  | .other (.finite negative significand exponent) =>
      let magnitude : Int := (significand * Nat.pow 2 (exponent + 1074).toNat : Nat)
      some (if negative then -magnitude else magnitude)
  | .other _ => none

/-- Where a quantity stands: infinities are below and above all others. -/
def Quantity.side : Quantity → Int
  | .other (.infinite negative) => if negative then -1 else 1
  | _ => 0

def Quantity.isBelow (left right : Quantity) : Bool :=
  match left.units?, right.units? with
  | some leftUnits, some rightUnits => leftUnits < rightUnits
  | _, _ =>
      left != .other .notANumber && right != .other .notANumber && left.side < right.side

mutual

/-- The first value precedes the second one, if they have an order. Truth values count as one and
zero. -/
def precedes? : Json → Json → Option Bool
  | .str left, .str right => some (left < right)
  | .arr left, .arr right => itemsPrecede? left right
  | left, right =>
      match left.quantity?, right.quantity? with
      | some leftQuantity, some rightQuantity => some (leftQuantity.isBelow rightQuantity)
      | _, _ => none

/-- The first array precedes the second one, if they have an order: the first items that are not
equal decide, and else the lengths. -/
def itemsPrecede? : List Json → List Json → Option Bool
  | [], right => some !right.isEmpty
  | _ :: _, [] => some false
  | left :: leftRest, right :: rightRest =>
      if equal left right then itemsPrecede? leftRest rightRest else precedes? left right

end

/-- The order of the items of an array that is searched for repetitions. A truth value has none
among them. -/
def itemPrecedes? : Json → Json → Option Bool
  | .bool _, _ => none
  | _, .bool _ => none
  | left, right => precedes? left right

def neighboursDiffer : List Json → Bool
  | first :: second :: rest => !strictEqual first second && neighboursDiffer (second :: rest)
  | _ => true

def pairwiseDifferent : List Json → Bool
  | [] => true
  | first :: rest => !rest.any (strictEqual first) && pairwiseDifferent rest

/-- The items of an array count as all different. -/
def allDistinct (items : List Json) : Bool :=
  match Sorting.sort? itemPrecedes? items with
  | some sorted => neighboursDiffer sorted
  | none => pairwiseDifferent items

end SchemaSignature.Json
