import Adventure.Text.Sorted
import Adventure.World.Basic

/-!
# Objects of a world

What all objects that the player can name have in common, and the phrasings that objects add to
the verbs.
-/

namespace Adventure

/-- What can be said of any object. -/
structure Object where
  uuid : Uuid
  symbol : String
  name : String
  description : String
  identifiers : List String

namespace World

/-- The object that a reference leads to (`World::object`). -/
def object (w : World) : ObjectRef → Except Failure Object
  | .location id => do
    let e ← w.find id
    return ⟨e.id.uuid, e.symbol, e.name, e.description, []⟩
  | .way id => do
    let e ← w.find id
    return ⟨e.id.uuid, e.symbol, e.name, e.description, e.identifiers⟩
  | .item id => do
    let e ← w.find id
    return ⟨e.id.uuid, e.symbol, e.name, e.description, e.identifiers⟩
  | .inventoryItem id => do
    let e ← w.find id
    return ⟨e.id.uuid, e.symbol, e.name, e.description, e.identifiers⟩
  | .person id => do
    let e ← w.find id
    return ⟨e.id.uuid, e.symbol, e.name, e.description, e.identifiers⟩

/-- What an object shows when it is inspected (`World::inspection`); locations cannot be inspected.
-/
def inspection (w : World) : ObjectRef → Except Failure (Option (Inspection EntityId))
  | .location _ => .ok none
  | .way id => (w.find id).map fun e => some e.inspection
  | .item id => (w.find id).map fun e => some e.inspection
  | .inventoryItem id => (w.find id).map fun e => some e.inspection
  | .person id => (w.find id).map fun e => some e.inspection

/-- The name of an object, or its identifier if it does not exist (`object_name`). -/
def objectName (w : World) (ref : ObjectRef) : String :=
  match w.object ref with
  | .ok o => o.name
  | .error _ => ref.uuid.toString

/-- The symbol of an object, or its identifier if it does not exist. -/
def objectSymbol (w : World) (ref : ObjectRef) : String :=
  match w.object ref with
  | .ok o => o.symbol
  | .error _ => ref.uuid.toString

/-- The interaction of an inventory item with a partner (`interaction_with`). -/
def InventoryItem.interactionWith (item : InventoryItem) (partner : ObjectRef) :
    Option (Interaction EntityId ObjectRef) :=
  item.interactions.find? fun i => i.partner = partner

/-- Whether an interaction combines two inventory items (`is_combination`). -/
def isCombination (i : Interaction EntityId ObjectRef) : Bool := i.partner.kind = .inventoryItem

/-- The phrasings that objects add to a verb, with the object that adds them
(`custom_command_sources`). Each interaction of an inventory item adds its own. -/
def phrasingSources (w : World) : Verb → List (ObjectRef × List String)
  | .inspect =>
    w.items.values.map (fun i => (.item i.id, i.inspection.phrasings))
      ++ w.inventoryItems.values.map (fun i => (.inventoryItem i.id, i.inspection.phrasings))
      ++ w.persons.values.map (fun p => (.person p.id, p.inspection.phrasings))
      ++ w.ways.values.map (fun v => (.way v.id, v.inspection.phrasings))
  | .take => w.items.values.map fun i => (.item i.id, i.takePhrasings)
  | .talkTo => w.persons.values.map fun p => (.person p.id, p.talk.phrasings)
  | .move => w.ways.values.map fun v => (.way v.id, v.movePhrasings)
  | .use =>
    w.items.values.map (fun i => (.item i.id, i.usage.phrasings))
      ++ w.inventoryItems.values.map (fun i => (.inventoryItem i.id, i.usage.phrasings))
  | .useWith =>
    w.inventoryItems.values.flatMap fun i =>
      i.interactions.map fun x => (.inventoryItem i.id, x.phrasings)
  | .exit | .help | .lookAround | .inventory => []

/-- All phrasings that objects add to a verb, as a set (`custom_commands`). -/
def customPhrasings (w : World) (verb : Verb) : List String :=
  Text.sortedSet ((w.phrasingSources verb).flatMap (·.2))

/-- Whether anything the player types could be a command with the verb (`kind_available`). -/
def understands (w : World) (verb : Verb) : Bool :=
  !(w.game.phrasings.of verb).isEmpty || !(w.customPhrasings verb).isEmpty

end World

end Adventure
