/-! # JSON values

What a JSON text denotes. A number is kept as it is written, since nothing here
computes with it, and an object keeps its members in order.
-/

namespace Placeholder.Json

/-- A JSON value. -/
inductive Value where
  | null
  | bool (b : Bool)
  | number (text : String)
  | string (s : String)
  | array (elements : List Value)
  | object (members : List (String × Value))
deriving Repr, Inhabited

/-- The word for the kind of a value. -/
def Value.kind : Value → String
  | .null => "null"
  | .bool _ => "bool"
  | .number _ => "number"
  | .string _ => "string"
  | .array _ => "array"
  | .object _ => "object"

end Placeholder.Json
