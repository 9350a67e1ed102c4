import Adventure.Ron.Basic
import Adventure.Schema.Basic

/-!
# RON by schema

Records are written without their names and may be read with them; the cases of a choice are
written by name. Reading ignores fields that the schema does not know, but a field that it knows
must not occur twice.
-/

namespace Adventure

mutual

/-- The RON form of a value. -/
def Schema.toRon {α : Type} : Schema α → α → Ron
  | .flag, b => .bool b
  | .text, s => .string s
  | .uuid, id => .string id.toString
  | .optional _, none => .absent
  | .optional schema, some a => .present (schema.toRon a)
  | .list schema, as => .list (as.map schema.toRon)
  | .table schema, entries => .map (entries.map fun e => (.string e.1.toString, schema.toRon e.2))
  | .record _ fields, a => .record none (fields.toRon a)
  | .choice cases, a => cases.toRon a
  | .via schema _ parts _, a => schema.toRon (parts a)

/-- The fields of a record with their names. -/
def Fields.toRon {α : Type} : Fields α → α → List (String × Ron)
  | .done, () => []
  | .field name schema _ rest, (a, b) => (name, schema.toRon a) :: rest.toRon b

/-- The RON form of a choice. -/
def Cases.toRon {α : Type} : Cases α → α → Ron
  | .done, e => nomatch e
  | .bare name _, .inl () => .identifier name
  | .bare _ rest, .inr b => rest.toRon b
  | .holding name schema _, .inl a => .tuple (some name) [schema.toRon a]
  | .holding _ _ rest, .inr b => rest.toRon b
  | .record name fields _, .inl a => .record (some name) (fields.toRon a)
  | .record _ _ rest, .inr b => rest.toRon b

end

namespace Ron

/-- Whether a record may be written with the given name or without one. -/
def Extensions.allows (e : Extensions) (recordName : String) : Option String → Bool
  | none => !e.explicitNames
  | some name => name == recordName

/-- The name and the fields of a record; empty brackets are a record without fields. -/
def recordParts? : Ron → Option (Option String × List (String × Ron))
  | .record name fields => some (name, fields)
  | .tuple name [] => some (name, [])
  | _ => none

/-- The case that a value is: its name and what it holds. -/
def case? : Ron → Option (String × Option Ron)
  | .identifier name => some (name, none)
  | .tuple (some name) items => some (name, some (.tuple none items))
  | .record (some name) fields => some (name, some (.record none fields))
  | _ => none

end Ron

mutual

/-- The value that has a given RON form in a document with the given extensions. -/
def Schema.ofRon? {α : Type} (e : Ron.Extensions) : Schema α → Ron → Option α
  | .flag, v => match v with
    | .bool b => some b
    | _ => none
  | .text, v => match v with
    | .string s => some s
    | _ => none
  | .uuid, v => match v with
    | .string s => Uuid.ofString? s
    | _ => none
  | .optional schema, v => match v with
    | .absent => some none
    | .present v => (schema.ofRon? e v).map some
    | v => if e.implicitPresent then (schema.ofRon? e v).map some else none
  | .list schema, v => match v with
    | .list items => items.mapM (schema.ofRon? e)
    | _ => none
  | .table schema, v => match v with
    | .map entries => entries.mapM fun
      | (.string key, v) => do return (← Uuid.ofString? key, ← schema.ofRon? e v)
      | _ => none
    | _ => none
  | .record recordName fields, v => do
    let (name, given) ← v.recordParts?
    if e.allows recordName name then fields.ofRon? e given else none
  | .choice cases, v => v.case?.bind fun (name, data) => cases.ofRon? e name data
  | .via schema make _ _, v => (schema.ofRon? e v).map make

/-- The fields of a record among those that are given. -/
def Fields.ofRon? {α : Type} (e : Ron.Extensions) :
    Fields α → List (String × Ron) → Option α
  | .done, _ => some ()
  | .field name schema default rest, given => do
    let a ← match given.filter (·.1 == name) with
      | [] => default
      | [(_, v)] => schema.ofRon? e v
      | _ => none
    return (a, ← rest.ofRon? e given)

/-- The case with a given name and data. -/
def Cases.ofRon? {α : Type} (e : Ron.Extensions) :
    Cases α → String → Option Ron → Option α
  | .done, _, _ => none
  | .bare name rest, tag, data =>
    if tag = name then match data with
      | none => some (.inl ())
      | some _ => none
    else (rest.ofRon? e tag data).map .inr
  | .holding name schema rest, tag, data =>
    if tag = name then match data with
      | some (.tuple _ [v]) => (schema.ofRon? e v).map .inl
      | _ => none
    else (rest.ofRon? e tag data).map .inr
  | .record name fields rest, tag, data =>
    if tag = name then
      ((data.bind Ron.recordParts?).bind fun (_, given) => fields.ofRon? e given).map .inl
    else (rest.ofRon? e tag data).map .inr

end

end Adventure
