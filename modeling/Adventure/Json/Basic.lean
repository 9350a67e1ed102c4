/-!
# JSON values
-/

namespace Adventure

/-- A JSON value. An object lists its members; no name occurs twice. -/
inductive Json
  | null
  | bool (b : Bool)
  | number (n : Int)
  | string (s : String)
  | array (items : List Json)
  | object (members : List (String × Json))
  deriving Inhabited

end Adventure
