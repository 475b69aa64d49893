import BookingNotices.Numeric.Double
import BookingNotices.Table

/-!
# JSON values

* `Json`        : a value; the fields of an object are kept in increasing order of their names, each
  name once;
* `Json.ofFields` : the object with these fields, the last of a repeated name winning;
* `Json.get?`   : the value of a field.
-/

namespace BookingNotices

open Numeric

/-- A JSON value. Integers are kept exactly; a number written with a point or an exponent, or too
large for a machine word, is a float. -/
inductive Json where
  | null
  | bool (b : Bool)
  | integer (n : Int)
  | float (x : Double)
  | text (s : String)
  | array (items : List Json)
  | object (fields : List (String × Json))
  deriving Inhabited

namespace Json

/-- The object with these fields. -/
def ofFields (fields : List (String × Json)) : Json := .object (Table.ofList fields)

/-- The value of a field of an object. -/
def get? (name : String) : Json → Option Json
  | .object fields => Table.find? name fields
  | _ => none

/-- A natural number. -/
def ofNat (n : Nat) : Json := .integer n

end Json

end BookingNotices
