import Adventure.Json.Basic
import Adventure.Schema.Basic

/-!
# JSON by schema

Records are objects and choices are tagged by name: a case without data is its name, any other one
is an object with a single member. Reading also takes a record as the array of its fields, in
order and without those at the end that have defaults; it ignores members that are no fields.
-/

namespace Adventure

mutual

/-- The JSON form of a value. -/
def Schema.toJson {α : Type} : Schema α → α → Json
  | .flag, b => .bool b
  | .text, s => .string s
  | .uuid, id => .string id.toString
  | .optional _, none => .null
  | .optional schema, some a => schema.toJson a
  | .list schema, as => .array (as.map schema.toJson)
  | .table schema, entries => .object (entries.map fun e => (e.1.toString, schema.toJson e.2))
  | .record _ fields, a => .object (fields.toMembers a)
  | .choice cases, a => cases.toJson a
  | .via schema _ parts _, a => schema.toJson (parts a)

/-- The members of the object that stands for a record. -/
def Fields.toMembers {α : Type} : Fields α → α → List (String × Json)
  | .done, () => []
  | .field name schema _ rest, (a, b) => (name, schema.toJson a) :: rest.toMembers b

/-- The JSON form of a choice. -/
def Cases.toJson {α : Type} : Cases α → α → Json
  | .done, e => nomatch e
  | .bare name _, .inl () => .string name
  | .bare _ rest, .inr b => rest.toJson b
  | .holding name schema _, .inl a => .object [(name, schema.toJson a)]
  | .holding _ _ rest, .inr b => rest.toJson b
  | .record name fields _, .inl a => .object [(name, .object (fields.toMembers a))]
  | .record _ _ rest, .inr b => rest.toJson b

end

/-- The name of a case with its data, if there are any. -/
def Json.tagged? : Json → Option (String × Option Json)
  | .string name => some (name, none)
  | .object [(name, json)] => some (name, some json)
  | _ => none

mutual

/-- The value that has a given JSON form. -/
def Schema.ofJson? {α : Type} : Schema α → Json → Option α
  | .flag, json => match json with
    | .bool b => some b
    | _ => none
  | .text, json => match json with
    | .string s => some s
    | _ => none
  | .uuid, json => match json with
    | .string s => Uuid.ofString? s
    | _ => none
  | .optional schema, json => match json with
    | .null => some none
    | json => (schema.ofJson? json).map some
  | .list schema, json => match json with
    | .array items => items.mapM schema.ofJson?
    | _ => none
  | .table schema, json => match json with
    | .object members => members.mapM fun m => do
      return (← Uuid.ofString? m.1, ← schema.ofJson? m.2)
    | _ => none
  | .record _ fields, json => match json with
    | .object members => fields.ofMembers? members
    | .array items => fields.ofItems? items
    | _ => none
  | .choice cases, json => json.tagged?.bind fun (name, data) => cases.ofTagged? name data
  | .via schema make _ _, json => (schema.ofJson? json).map make

/-- The fields of a record among the members of an object. -/
def Fields.ofMembers? {α : Type} : Fields α → List (String × Json) → Option α
  | .done, _ => some ()
  | .field name schema default rest, members => do
    let a ← match members.lookup name with
      | some json => schema.ofJson? json
      | none => default
    return (a, ← rest.ofMembers? members)

/-- The fields of a record in order. -/
def Fields.ofItems? {α : Type} : Fields α → List Json → Option α
  | .done, items => if items.isEmpty then some () else none
  | .field _ schema default rest, items => do
    let a ← match items with
      | json :: _ => schema.ofJson? json
      | [] => default
    return (a, ← rest.ofItems? (items.drop 1))

/-- The case with a given name and data. -/
def Cases.ofTagged? {α : Type} : Cases α → String → Option Json → Option α
  | .done, _, _ => none
  | .bare name rest, tag, data =>
    if tag = name then match data with
      | none => some (.inl ())
      | some .null => some (.inl ())
      | _ => none
    else (rest.ofTagged? tag data).map .inr
  | .holding name schema rest, tag, data =>
    if tag = name then (data.bind schema.ofJson?).map .inl
    else (rest.ofTagged? tag data).map .inr
  | .record name fields rest, tag, data =>
    if tag = name then match data with
      | some (.object members) => (fields.ofMembers? members).map .inl
      | _ => none
    else (rest.ofTagged? tag data).map .inr

end

end Adventure
