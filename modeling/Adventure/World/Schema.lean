import Adventure.Entity.Schema
import Adventure.Game.Schema
import Adventure.World.Basic

/-!
# Layout of worlds

A saved world holds every part of every entity; only what may be absent anyway may be left out.
-/

namespace Adventure

open Cases Fields

def ObjectRef.schema : Schema ObjectRef :=
  .via
    (.choice <| .holding "Location" (EntityId.schema .location)
      <| .holding "Way" (EntityId.schema .way) <| .holding "Item" (EntityId.schema .item)
      <| .holding "InventoryItem" (EntityId.schema .inventoryItem)
      <| .holding "Person" (EntityId.schema .person) .done)
    (fun
      | at0 id => .location id
      | at1 id => .way id
      | at2 id => .item id
      | at3 id => .inventoryItem id
      | at4 id => .person id)
    (fun
      | .location id => at0 id
      | .way id => at1 id
      | .item id => at2 id
      | .inventoryItem id => at3 id
      | .person id => at4 id)
    (fun r => by cases r <;> rfl)

namespace World

/-- Saved worlds refer to entities by identifiers. -/
def dialect : Dialect EntityId ObjectRef := ⟨EntityId.schema, ObjectRef.schema, false⟩

def inspectionSchema : Schema (Inspection EntityId) := Inspection.schema dialect "Inspection"

def usageSchema : Schema (Usage EntityId) := Usage.schema dialect "Usage"

/-- Lists of identifiers of a kind. -/
def idList (kind : EntityKind) : Schema (List (EntityId kind)) := .list (EntityId.schema kind)

def Location.schema : Schema Location :=
  .via
    (.record "Location"
      <| required "id" (EntityId.schema .location)
      <| required "symbol" .text
      <| required "name" .text
      <| required "description" .text
      <| required "items" (idList .item)
      <| required "persons" (idList .person)
      <| required "ways_out" (idList .way) .done)
    (fun (id, symbol, name, description, items, persons, waysOut, ()) =>
      ⟨id, symbol, name, description, items, persons, waysOut⟩)
    (fun l => (l.id, l.symbol, l.name, l.description, l.items, l.persons, l.waysOut, ()))
    (fun _ => rfl)

def Way.schema : Schema Way :=
  .via
    (.record "Way"
      <| required "id" (EntityId.schema .way)
      <| required "symbol" .text
      <| required "name" .text
      <| required "description" .text
      <| required "from" (EntityId.schema .location)
      <| required "to" (EntityId.schema .location)
      <| required "identifiers" (.list .text)
      <| required "move_action" (EntityId.schema .action)
      <| optional "move_successful_text" .text
      <| required "custom_move_commands" (.list .text)
      <| required "move_actions" (idList .action)
      <| required "inspection" inspectionSchema .done)
    (fun (id, symbol, name, description, origin, destination, identifiers, moveAction, success,
        phrasings, actions, inspection, ()) =>
      ⟨id, symbol, name, description, origin, destination, identifiers, moveAction, success,
        phrasings, actions, inspection⟩)
    (fun w => (w.id, w.symbol, w.name, w.description, w.origin, w.destination, w.identifiers,
      w.moveAction, w.moveSuccessText, w.movePhrasings, w.moveActions, w.inspection, ()))
    (fun _ => rfl)

def Item.schema : Schema Item :=
  .via
    (.record "Item"
      <| required "id" (EntityId.schema .item)
      <| required "symbol" .text
      <| required "name" .text
      <| required "description" .text
      <| optional "location" (EntityId.schema .location)
      <| required "identifiers" (.list .text)
      <| required "take_action" (EntityId.schema .action)
      <| optional "take_successful_text" .text
      <| required "custom_take_commands" (.list .text)
      <| required "take_actions" (idList .action)
      <| required "usage" usageSchema
      <| required "inspection" inspectionSchema .done)
    (fun (id, symbol, name, description, location, identifiers, takeAction, success, phrasings,
        actions, usage, inspection, ()) =>
      ⟨id, symbol, name, description, location, identifiers, takeAction, success, phrasings,
        actions, usage, inspection⟩)
    (fun i => (i.id, i.symbol, i.name, i.description, i.location, i.identifiers, i.takeAction,
      i.takeSuccessText, i.takePhrasings, i.takeActions, i.usage, i.inspection, ()))
    (fun _ => rfl)

def InventoryItem.schema : Schema InventoryItem :=
  .via
    (.record "InventoryItem"
      <| required "id" (EntityId.schema .inventoryItem)
      <| required "symbol" .text
      <| required "name" .text
      <| required "description" .text
      <| required "identifiers" (.list .text)
      <| required "usage" usageSchema
      <| required "inspection" inspectionSchema
      <| required "interactions" (.list (Interaction.schema dialect "Interaction")) .done)
    (fun (id, symbol, name, description, identifiers, usage, inspection, interactions, ()) =>
      ⟨id, symbol, name, description, identifiers, usage, inspection, interactions⟩)
    (fun i => (i.id, i.symbol, i.name, i.description, i.identifiers, i.usage, i.inspection,
      i.interactions, ()))
    (fun _ => rfl)

def Person.schema : Schema Person :=
  .via
    (.record "Person"
      <| required "id" (EntityId.schema .person)
      <| required "symbol" .text
      <| required "name" .text
      <| required "description" .text
      <| optional "location" (EntityId.schema .location)
      <| required "identifiers" (.list .text)
      <| required "talk" (Talk.schema dialect "Talk")
      <| required "inspection" inspectionSchema .done)
    (fun (id, symbol, name, description, location, identifiers, talk, inspection, ()) =>
      ⟨id, symbol, name, description, location, identifiers, talk, inspection⟩)
    (fun p => (p.id, p.symbol, p.name, p.description, p.location, p.identifiers, p.talk,
      p.inspection, ()))
    (fun _ => rfl)

def Conversation.schema : Schema Conversation :=
  .via
    (.record "Conversation"
      <| required "id" (EntityId.schema .conversation)
      <| required "symbol" .text
      <| optional "greeting" .text
      <| optional "farewell" .text
      <| optional "start_layer" (EntityId.schema .layer)
      <| required "layers" (idList .layer) .done)
    (fun (id, symbol, greeting, farewell, startLayer, layers, ()) =>
      ⟨id, symbol, greeting, farewell, startLayer, layers⟩)
    (fun c => (c.id, c.symbol, c.greeting, c.farewell, c.startLayer, c.layers, ()))
    (fun _ => rfl)

def Layer.schema : Schema Layer :=
  .via
    (.record "ConversationLayer"
      <| required "id" (EntityId.schema .layer)
      <| required "symbol" .text
      <| required "conversation" (EntityId.schema .conversation)
      <| required "options" (idList .choice) .done)
    (fun (id, symbol, conversation, choices, ()) => ⟨id, symbol, conversation, choices⟩)
    (fun l => (l.id, l.symbol, l.conversation, l.choices, ()))
    (fun _ => rfl)

def Choice.schema : Schema Choice :=
  .via
    (.record "ConversationOption"
      <| required "id" (EntityId.schema .choice)
      <| required "symbol" .text
      <| required "conversation" (EntityId.schema .conversation)
      <| required "layer" (EntityId.schema .layer)
      <| required "text" .text
      <| required "answer" .text
      <| required "enabled" .flag
      <| required "disable_after_chosen" .flag
      <| optional "target" (EntityId.schema .layer)
      <| required "actions" (idList .action) .done)
    (fun (id, symbol, conversation, layer, text, answer, enabled, disableAfterChosen, target,
        actions, ()) =>
      ⟨id, symbol, conversation, layer, text, answer, enabled, disableAfterChosen, target,
        actions⟩)
    (fun c => (c.id, c.symbol, c.conversation, c.layer, c.text, c.answer, c.enabled,
      c.disableAfterChosen, c.target, c.actions, ()))
    (fun _ => rfl)

def Action.schema : Schema Action :=
  .via
    (.record "Action"
      <| required "id" (EntityId.schema .action)
      <| required "symbol" .text
      <| required "name" .text
      <| required "enabled" .flag
      <| optional "forbidden_text" .text
      <| optional "owner" ObjectRef.schema
      <| required "kind" (Effect.schema dialect fun name => name) .done)
    (fun (id, symbol, name, enabled, forbidden, owner, effect, ()) =>
      ⟨id, symbol, name, enabled, forbidden, owner, effect⟩)
    (fun a => (a.id, a.symbol, a.name, a.enabled, a.forbiddenText, a.owner, a.effect, ()))
    (fun _ => rfl)

def Player.schema : Schema Player :=
  .via
    (.record "Player"
      <| required "name" .text
      <| required "location" (EntityId.schema .location)
      <| required "inventory" (idList .inventoryItem) .done)
    (fun (name, location, inventory, ()) => ⟨name, location, inventory⟩)
    (fun p => (p.name, p.location, p.inventory, ()))
    (fun _ => rfl)

/-- The layout of a saved world. -/
def schema : Schema World :=
  .via
    (.record "World"
      <| required "game" (Game.schema "Game" false)
      <| required "player" Player.schema
      <| required "locations" (Arena.schema Location.schema)
      <| required "ways" (Arena.schema Way.schema)
      <| required "items" (Arena.schema Item.schema)
      <| required "inventory_items" (Arena.schema InventoryItem.schema)
      <| required "persons" (Arena.schema Person.schema)
      <| required "conversations" (Arena.schema Conversation.schema)
      <| required "layers" (Arena.schema Layer.schema)
      <| required "options" (Arena.schema Choice.schema)
      <| required "actions" (Arena.schema Action.schema)
      <| required "version" .text .done)
    (fun (game, player, locations, ways, items, inventoryItems, persons, conversations, layers,
        choices, actions, version, ()) =>
      ⟨game, player, locations, ways, items, inventoryItems, persons, conversations, layers,
        choices, actions, version⟩)
    (fun w => (w.game, w.player, w.locations, w.ways, w.items, w.inventoryItems, w.persons,
      w.conversations, w.layers, w.choices, w.actions, w.version, ()))
    (fun _ => rfl)

end World

end Adventure
