import QuerySchema.Decimal.Binary64
import QuerySchema.Keyed

/-!
JSON values with ordered objects.

The members of an object keep the order in which their names were first written. Integers have any
size and are kept apart from binary64 numbers, so that neither loses digits to the other.
-/

namespace QuerySchema

open Decimal

/-- A JSON value. -/
inductive Json where
  | null
  | bool (value : Bool)
  | int (value : Int)
  | float (value : Binary64)
  | string (text : String)
  | array (items : List Json)
  | object (members : List (String × Json))
  deriving Repr

namespace Json

/-- The member of an object under a name. -/
def member? (name : String) : Json → Option Json
  | .object members => Keyed.get? members name
  | _ => none

mutual
/-- The first number, in reading order, that is not finite. -/
def firstNonFinite : Json → Option Binary64
  | .float x => if x.isFinite then none else some x
  | .array items => firstNonFiniteItem items
  | .object members => firstNonFiniteMember members
  | _ => none
/-- The first number that is not finite among the items of an array. -/
def firstNonFiniteItem : List Json → Option Binary64
  | [] => none
  | item :: rest => (firstNonFinite item).or (firstNonFiniteItem rest)
/-- The first number that is not finite among the members of an object. -/
def firstNonFiniteMember : List (String × Json) → Option Binary64
  | [] => none
  | (_, value) :: rest => (firstNonFinite value).or (firstNonFiniteMember rest)
end

end Json

end QuerySchema
