/-!
# RON

The notation in which stories are written and worlds are saved. A value is a flag, a text, an
optional value, a bare name, a list, a map, a tuple or a record; tuples and records may have a
name. Numbers, characters and bytes can be written too, but nothing here is made of them.
-/

namespace Adventure

/-- A value in the notation. -/
inductive Ron
  | bool (value : Bool)
  | string (value : String)
  /-- A number, a character or bytes. -/
  | other
  | absent
  | present (value : Ron)
  | identifier (name : String)
  | list (items : List Ron)
  | map (entries : List (Ron × Ron))
  | tuple (name : Option String) (items : List Ron)
  | record (name : Option String) (fields : List (String × Ron))

/-- Extensions that a document may ask for. -/
structure Ron.Extensions where
  /-- A value that is present may be written without saying so. -/
  implicitPresent : Bool := false
  /-- Records have to be written with their names. -/
  explicitNames : Bool := false
  deriving DecidableEq, Repr

end Adventure
