import Adventure.Entity.Schema
import Adventure.Game.Schema
import Adventure.Story.Basic

/-!
# Layout of stories

An author names entities by symbols and leaves out whatever is as usual: only symbols, names, the
ends of a way and the targets of effects have to be there.
-/

namespace Adventure.Story

open Cases Fields

def Partner.schema : Schema Partner :=
  .via
    (.choice <| .holding "InventoryItem" .text <| .holding "Item" .text
      <| .holding "Person" .text .done)
    (fun
      | at0 symbol => .inventoryItem symbol
      | at1 symbol => .item symbol
      | at2 symbol => .person symbol)
    (fun
      | .inventoryItem symbol => at0 symbol
      | .item symbol => at1 symbol
      | .person symbol => at2 symbol)
    (fun p => by cases p <;> rfl)

/-- Stories refer to entities by symbols. -/
def dialect : Dialect Symbol Partner := ⟨fun _ => .text, Partner.schema, true⟩

def Player.schema : Schema Player :=
  .via
    (.record "PlayerDef"
      <| withDefault "name" .text ""
      <| required "start_location" .text
      <| list "inventory" .text .done)
    (fun (name, startLocation, inventory, ()) => ⟨name, startLocation, inventory⟩)
    (fun p => (p.name, p.startLocation, p.inventory, ()))
    (fun _ => rfl)

def Location.schema : Schema Location :=
  .via
    (.record "LocationDef"
      <| required "id" .text
      <| required "name" .text
      <| withDefault "description" .text "" .done)
    (fun (symbol, name, description, ()) => ⟨symbol, name, description⟩)
    (fun l => (l.symbol, l.name, l.description, ()))
    (fun _ => rfl)

def Moving.schema : Schema Moving :=
  .via
    (.record "MoveDef"
      <| withDefault "enabled" .flag true
      <| optional "forbidden_text" .text
      <| optional "successful_text" .text
      <| list "custom_commands" .text
      <| list "actions" .text .done)
    (fun (enabled, forbidden, success, phrasings, actions, ()) =>
      ⟨enabled, forbidden, success, phrasings, actions⟩)
    (fun m => (m.enabled, m.forbiddenText, m.successText, m.phrasings, m.actions, ()))
    (fun _ => rfl)

def inspectionSchema : Schema (Inspection Symbol) := Inspection.schema dialect "InspectDef"

def usageSchema : Schema (Usage Symbol) := Usage.schema dialect "UsageDef"

def Way.schema : Schema Way :=
  .via
    (.record "WayDef"
      <| required "id" .text
      <| required "name" .text
      <| withDefault "description" .text ""
      <| required "from" .text
      <| required "to" .text
      <| list "identifiers" .text
      <| withDefault "moving" Moving.schema {}
      <| withDefault "inspect" inspectionSchema {} .done)
    (fun (symbol, name, description, origin, destination, identifiers, moving, inspection, ()) =>
      ⟨symbol, name, description, origin, destination, identifiers, moving, inspection⟩)
    (fun w => (w.symbol, w.name, w.description, w.origin, w.destination, w.identifiers, w.moving,
      w.inspection, ()))
    (fun _ => rfl)

def Taking.schema : Schema Taking :=
  .via
    (.record "TakeDef"
      <| withDefault "enabled" .flag false
      <| optional "forbidden_text" .text
      <| optional "successful_text" .text
      <| withDefault "remove_item" .flag true
      <| list "add_inventory_items" .text
      <| list "custom_commands" .text
      <| list "actions" .text .done)
    (fun (enabled, forbidden, success, removeItem, grants, phrasings, actions, ()) =>
      ⟨enabled, forbidden, success, removeItem, grants, phrasings, actions⟩)
    (fun t => (t.enabled, t.forbiddenText, t.successText, t.removeItem, t.grants, t.phrasings,
      t.actions, ()))
    (fun _ => rfl)

def Item.schema : Schema Item :=
  .via
    (.record "ItemDef"
      <| required "id" .text
      <| required "name" .text
      <| withDefault "description" .text ""
      <| optional "location" .text
      <| list "identifiers" .text
      <| withDefault "take" Taking.schema {}
      <| withDefault "usage" usageSchema {}
      <| withDefault "inspect" inspectionSchema {} .done)
    (fun (symbol, name, description, location, identifiers, taking, usage, inspection, ()) =>
      ⟨symbol, name, description, location, identifiers, taking, usage, inspection⟩)
    (fun i => (i.symbol, i.name, i.description, i.location, i.identifiers, i.taking, i.usage,
      i.inspection, ()))
    (fun _ => rfl)

def InventoryItem.schema : Schema InventoryItem :=
  .via
    (.record "InventoryItemDef"
      <| required "id" .text
      <| required "name" .text
      <| withDefault "description" .text ""
      <| list "identifiers" .text
      <| withDefault "usage" usageSchema {}
      <| withDefault "inspect" inspectionSchema {}
      <| list "interactions" (Interaction.schema dialect "InteractionDef") .done)
    (fun (symbol, name, description, identifiers, usage, inspection, interactions, ()) =>
      ⟨symbol, name, description, identifiers, usage, inspection, interactions⟩)
    (fun i => (i.symbol, i.name, i.description, i.identifiers, i.usage, i.inspection,
      i.interactions, ()))
    (fun _ => rfl)

def Person.schema : Schema Person :=
  .via
    (.record "PersonDef"
      <| required "id" .text
      <| required "name" .text
      <| withDefault "description" .text ""
      <| optional "location" .text
      <| list "identifiers" .text
      <| withDefault "talk" (Talk.schema dialect "TalkDef") {}
      <| withDefault "inspect" inspectionSchema {} .done)
    (fun (symbol, name, description, location, identifiers, talk, inspection, ()) =>
      ⟨symbol, name, description, location, identifiers, talk, inspection⟩)
    (fun p => (p.symbol, p.name, p.description, p.location, p.identifiers, p.talk, p.inspection,
      ()))
    (fun _ => rfl)

def Choice.schema : Schema Choice :=
  .via
    (.record "OptionDef"
      <| required "id" .text
      <| required "text" .text
      <| withDefault "answer" .text ""
      <| withDefault "enabled" .flag true
      <| withDefault "disable_after_chosen" .flag false
      <| optional "target" .text
      <| list "actions" .text .done)
    (fun (symbol, text, answer, enabled, disableAfterChosen, target, actions, ()) =>
      ⟨symbol, text, answer, enabled, disableAfterChosen, target, actions⟩)
    (fun c => (c.symbol, c.text, c.answer, c.enabled, c.disableAfterChosen, c.target, c.actions,
      ()))
    (fun _ => rfl)

def Layer.schema : Schema Layer :=
  .via (.record "LayerDef" <| required "id" .text <| list "options" Choice.schema .done)
    (fun (symbol, choices, ()) => ⟨symbol, choices⟩)
    (fun l => (l.symbol, l.choices, ()))
    (fun _ => rfl)

def Conversation.schema : Schema Conversation :=
  .via
    (.record "ConversationDef"
      <| required "id" .text
      <| optional "greeting" .text
      <| optional "farewell" .text
      <| optional "start_layer" .text
      <| list "layers" Layer.schema .done)
    (fun (symbol, greeting, farewell, startLayer, layers, ()) =>
      ⟨symbol, greeting, farewell, startLayer, layers⟩)
    (fun c => (c.symbol, c.greeting, c.farewell, c.startLayer, c.layers, ()))
    (fun _ => rfl)

def Action.schema : Schema Action :=
  .via
    (.record "ActionDef"
      <| required "id" .text
      <| withDefault "name" .text ""
      <| withDefault "enabled" .flag true
      <| optional "forbidden_text" .text
      <| required "kind" (Effect.schema dialect (· ++ "Def")) .done)
    (fun (symbol, name, enabled, forbidden, effect, ()) =>
      ⟨symbol, name, enabled, forbidden, effect⟩)
    (fun a => (a.symbol, a.name, a.enabled, a.forbiddenText, a.effect, ()))
    (fun _ => rfl)

/-- The layout of a whole story. -/
def schema : Schema Story :=
  .via
    (.record "WorldDef"
      <| withDefault "game" (Game.schema "GameDef" true) {}
      <| required "player" Player.schema
      <| list "locations" Location.schema
      <| list "ways" Way.schema
      <| list "items" Item.schema
      <| list "inventory_items" InventoryItem.schema
      <| list "persons" Person.schema
      <| list "conversations" Conversation.schema
      <| list "actions" Action.schema .done)
    (fun (game, player, locations, ways, items, inventoryItems, persons, conversations, actions,
        ()) =>
      ⟨game, player, locations, ways, items, inventoryItems, persons, conversations, actions⟩)
    (fun s => (s.game, s.player, s.locations, s.ways, s.items, s.inventoryItems, s.persons,
      s.conversations, s.actions, ()))
    (fun _ => rfl)

end Adventure.Story
