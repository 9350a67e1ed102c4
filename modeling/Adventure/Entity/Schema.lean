import Adventure.Entity.Arena
import Adventure.Entity.Behavior
import Adventure.Entity.Effect
import Adventure.Schema.Basic

/-!
# Layout of behaviors and effects

A story and a saved world lay out behaviors and effects alike. They differ in how they refer to
entities, in what a record is called and in what may be left out; a dialect says which way it is.
-/

namespace Adventure

open Cases Fields

/-- How data refers to entities and whether it may leave out what has a default. -/
structure Dialect (Ref : EntityKind → Type) (Partner : Type) where
  ref : (kind : EntityKind) → Schema (Ref kind)
  partner : Schema Partner
  lenient : Bool

/-- Identifiers are laid out as they are. -/
def EntityId.schema (kind : EntityKind) : Schema (EntityId kind) :=
  .via .uuid (fun u => ⟨u⟩) (fun id => id.uuid) (fun _ => rfl)

/-- An arena is a table of its entities; of two with one identifier the later one counts. -/
def Arena.schema {kind : EntityKind} {α : Type} (entity : Schema α) : Schema (Arena kind α) :=
  .via (.table entity)
    (fun entries => .ofList (entries.map fun e => (⟨e.1⟩, e.2)))
    (fun arena => arena.entries.map fun e => (e.1.uuid, e.2))
    (fun arena => by simp [Function.comp_def, Arena.ofList_entries])

variable {Ref : EntityKind → Type} {Partner : Type}

/-- The default of a field, in a dialect where the field may be left out. -/
def Dialect.orElse (d : Dialect Ref Partner) {α : Type} (default : α) : Option α :=
  if d.lenient then some default else none

/-- Lists of references to actions. -/
def Dialect.actions (d : Dialect Ref Partner) : Schema (List (Ref .action)) := .list (d.ref .action)

namespace Inspection

def schema (d : Dialect Ref Partner) (name : String) : Schema (Inspection Ref) :=
  .via
    (.record name
      <| optional "text" .text
      <| .field "custom_commands" (.list .text) (d.orElse [])
      <| .field "actions" d.actions (d.orElse []) .done)
    (fun (text, phrasings, actions, ()) => ⟨text, phrasings, actions⟩)
    (fun b => (b.text, b.phrasings, b.actions, ()))
    (fun _ => rfl)

end Inspection

namespace Usage

def schema (d : Dialect Ref Partner) (name : String) : Schema (Usage Ref) :=
  .via
    (.record name
      <| .field "enabled" .flag (d.orElse false)
      <| optional "forbidden_text" .text
      <| optional "successful_text" .text
      <| .field "custom_commands" (.list .text) (d.orElse [])
      <| .field "actions" d.actions (d.orElse []) .done)
    (fun (enabled, forbidden, success, phrasings, actions, ()) =>
      ⟨enabled, forbidden, success, phrasings, actions⟩)
    (fun b => (b.enabled, b.forbiddenText, b.successText, b.phrasings, b.actions, ()))
    (fun _ => rfl)

end Usage

namespace Talk

def schema (d : Dialect Ref Partner) (name : String) : Schema (Talk Ref) :=
  .via
    (.record name
      <| .field "enabled" .flag (d.orElse true)
      <| optional "forbidden_text" .text
      <| optional "conversation" (d.ref .conversation)
      <| .field "custom_commands" (.list .text) (d.orElse [])
      <| .field "actions" d.actions (d.orElse []) .done)
    (fun (enabled, forbidden, conversation, phrasings, actions, ()) =>
      ⟨enabled, forbidden, conversation, phrasings, actions⟩)
    (fun b => (b.enabled, b.forbiddenText, b.conversation, b.phrasings, b.actions, ()))
    (fun _ => rfl)

end Talk

namespace Interaction

def schema (d : Dialect Ref Partner) (name : String) : Schema (Interaction Ref Partner) :=
  .via
    (.record name
      <| required "partner" d.partner
      <| .field "enabled" .flag (d.orElse true)
      <| optional "forbidden_text" .text
      <| optional "successful_text" .text
      <| .field "custom_commands" (.list .text) (d.orElse [])
      <| .field "actions" d.actions (d.orElse []) .done)
    (fun (partner, enabled, forbidden, success, phrasings, actions, ()) =>
      ⟨partner, enabled, forbidden, success, phrasings, actions⟩)
    (fun b =>
      (b.partner, b.enabled, b.forbiddenText, b.successText, b.phrasings, b.actions, ()))
    (fun _ => rfl)

end Interaction

/-! ## Patches -/

def Toggle.schema : Schema Toggle :=
  .via (.choice <| .bare "DoNotChange" <| .bare "Enable" <| .bare "Disable" .done)
    (fun | at0 _ => .keep | at1 _ => .enable | at2 _ => .disable)
    (fun | .keep => at0 () | .enable => at1 () | .disable => at2 ())
    (fun t => by cases t <;> rfl)

def Relocation.schema (d : Dialect Ref Partner) : Schema (Relocation Ref) :=
  .via (.choice <| .holding "To" (d.ref .location) <| .bare "Remove" .done)
    (fun | at0 location => .to location | at1 _ => .remove)
    (fun | .to location => at0 location | .remove => at1 ())
    (fun r => by cases r <;> rfl)

def ItemPatch.schema (d : Dialect Ref Partner) (name : String) : Schema (ItemPatch Ref) :=
  .via
    (.record name
      <| optional "name" .text
      <| optional "description" .text
      <| .field "taking" Toggle.schema (d.orElse .keep)
      <| optional "take_forbidden_text" .text
      <| optional "take_successful_text" .text
      <| .field "using" Toggle.schema (d.orElse .keep)
      <| optional "use_forbidden_text" .text
      <| optional "use_successful_text" .text
      <| optional "inspection_text" .text
      <| optional "relocation" (Relocation.schema d) .done)
    (fun (name, description, taking, takeForbidden, takeSuccess, usage, useForbidden, useSuccess,
        inspection, relocation, ()) =>
      ⟨name, description, taking, takeForbidden, takeSuccess, usage, useForbidden, useSuccess,
        inspection, relocation⟩)
    (fun p => (p.name, p.description, p.taking, p.takeForbiddenText, p.takeSuccessText, p.usage,
      p.useForbiddenText, p.useSuccessText, p.inspectionText, p.relocation, ()))
    (fun _ => rfl)

def InventoryItemPatch.schema : Schema InventoryItemPatch :=
  .via
    (.record "InventoryItemPatchDef"
      <| optional "name" .text
      <| optional "description" .text
      <| withDefault "using" Toggle.schema .keep
      <| optional "use_forbidden_text" .text
      <| optional "use_successful_text" .text
      <| optional "inspection_text" .text .done)
    (fun (name, description, usage, forbidden, success, inspection, ()) =>
      ⟨name, description, usage, forbidden, success, inspection⟩)
    (fun p => (p.name, p.description, p.usage, p.useForbiddenText, p.useSuccessText,
      p.inspectionText, ()))
    (fun _ => rfl)

def PersonPatch.schema (d : Dialect Ref Partner) (name : String) : Schema (PersonPatch Ref) :=
  .via
    (.record name
      <| optional "name" .text
      <| optional "description" .text
      <| .field "talking" Toggle.schema (d.orElse .keep)
      <| optional "talk_forbidden_text" .text
      <| optional "conversation" (d.ref .conversation)
      <| optional "relocation" (Relocation.schema d)
      <| optional "inspection_text" .text .done)
    (fun (name, description, talking, forbidden, conversation, relocation, inspection, ()) =>
      ⟨name, description, talking, forbidden, conversation, relocation, inspection⟩)
    (fun p => (p.name, p.description, p.talking, p.talkForbiddenText, p.conversation,
      p.relocation, p.inspectionText, ()))
    (fun _ => rfl)

def LocationPatch.schema : Schema LocationPatch :=
  .via
    (.record "LocationPatchDef"
      <| optional "name" .text
      <| optional "description" .text .done)
    (fun (name, description, ()) => ⟨name, description⟩)
    (fun p => (p.name, p.description, ()))
    (fun _ => rfl)

def WayPatch.schema : Schema WayPatch :=
  .via
    (.record "WayPatchDef"
      <| optional "name" .text
      <| optional "description" .text
      <| withDefault "moving" Toggle.schema .keep
      <| optional "move_forbidden_text" .text
      <| optional "move_successful_text" .text
      <| optional "inspection_text" .text .done)
    (fun (name, description, moving, forbidden, success, inspection, ()) =>
      ⟨name, description, moving, forbidden, success, inspection⟩)
    (fun p => (p.name, p.description, p.moving, p.moveForbiddenText, p.moveSuccessText,
      p.inspectionText, ()))
    (fun _ => rfl)

def ConversationPatch.schema (d : Dialect Ref Partner) (name : String) :
    Schema (ConversationPatch Ref) :=
  .via
    (.record name
      <| optional "greeting" .text
      <| optional "farewell" .text
      <| optional "start_layer" (d.ref .layer) .done)
    (fun (greeting, farewell, startLayer, ()) => ⟨greeting, farewell, startLayer⟩)
    (fun p => (p.greeting, p.farewell, p.startLayer, ()))
    (fun _ => rfl)

def ChoicePatch.schema (d : Dialect Ref Partner) (name : String) : Schema (ChoicePatch Ref) :=
  .via
    (.record name
      <| .field "enabling" Toggle.schema (d.orElse .keep)
      <| .field "disable_after_chosen" Toggle.schema (d.orElse .keep)
      <| optional "text" .text
      <| optional "answer" .text
      <| optional "target" (d.ref .layer) .done)
    (fun (enabling, disabling, text, answer, target, ()) =>
      ⟨enabling, disabling, text, answer, target⟩)
    (fun p => (p.enabling, p.disabling, p.text, p.answer, p.target, ()))
    (fun _ => rfl)

def InteractionPatch.schema : Schema InteractionPatch :=
  .via
    (.record "InteractionPatchDef"
      <| withDefault "enabling" Toggle.schema .keep
      <| optional "forbidden_text" .text
      <| optional "successful_text" .text .done)
    (fun (enabling, forbidden, success, ()) => ⟨enabling, forbidden, success⟩)
    (fun p => (p.enabling, p.forbiddenText, p.successText, ()))
    (fun _ => rfl)

/-! ## Effects -/

/-- Effects; `patch` completes the name of a record of changes. -/
def Effect.schema (d : Dialect Ref Partner) (patch : String → String) :
    Schema (Effect Ref Partner) :=
  .via
    (.choice
      <| .record "AddInventoryItems"
        (required "items" (.list (d.ref .inventoryItem)) .done)
      <| .record "RemoveInventoryItem" (required "item" (d.ref .inventoryItem) .done)
      <| .record "RemoveItem" (required "item" (d.ref .item) .done)
      <| .record "Move" (required "way" (d.ref .way) .done)
      <| .record "Take"
        (required "item" (d.ref .item)
          <| .field "remove_item" .flag (d.orElse true)
          <| .field "add_inventory_items" (.list (d.ref .inventoryItem)) (d.orElse []) .done)
      <| .record "Multi" (required "actions" d.actions .done)
      <| .record "ChangeAction"
        (required "action" (d.ref .action) <| required "enabling" Toggle.schema .done)
      <| .record "ChangeItem"
        (required "item" (d.ref .item)
          <| required "patch" (ItemPatch.schema d (patch "ItemPatch")) .done)
      <| .record "ChangeInventoryItem"
        (required "item" (d.ref .inventoryItem)
          <| required "patch" InventoryItemPatch.schema .done)
      <| .record "ChangePerson"
        (required "person" (d.ref .person)
          <| required "patch" (PersonPatch.schema d (patch "PersonPatch")) .done)
      <| .record "ChangeLocation"
        (required "location" (d.ref .location)
          <| required "patch" LocationPatch.schema .done)
      <| .record "ChangeWay"
        (required "way" (d.ref .way) <| required "patch" WayPatch.schema .done)
      <| .record "ChangeConversation"
        (required "conversation" (d.ref .conversation)
          <| required "patch" (ConversationPatch.schema d (patch "ConversationPatch")) .done)
      <| .record "ChangeConversationOption"
        (required "option" (d.ref .choice)
          <| required "patch" (ChoicePatch.schema d (patch "OptionPatch")) .done)
      <| .record "ChangeInteraction"
        (required "item" (d.ref .inventoryItem)
          <| required "partner" d.partner
          <| required "patch" InteractionPatch.schema .done)
      <| .record "EndGame" (optional "text" .text .done) .done)
    (fun
      | at0 (items, ()) => .addInventoryItems items
      | at1 (item, ()) => .removeInventoryItem item
      | at2 (item, ()) => .removeItem item
      | at3 (way, ()) => .move way
      | past4 (at0 (item, remove, grants, ())) => .take item remove grants
      | past4 (at1 (actions, ())) => .sequence actions
      | past4 (at2 (action, enabling, ())) => .changeAction action enabling
      | past4 (at3 (item, patch, ())) => .changeItem item patch
      | past4 (past4 (at0 (item, patch, ()))) => .changeInventoryItem item patch
      | past4 (past4 (at1 (person, patch, ()))) => .changePerson person patch
      | past4 (past4 (at2 (location, patch, ()))) => .changeLocation location patch
      | past4 (past4 (at3 (way, patch, ()))) => .changeWay way patch
      | past4 (past4 (past4 (at0 (conversation, patch, ())))) =>
        .changeConversation conversation patch
      | past4 (past4 (past4 (at1 (choice, patch, ())))) => .changeChoice choice patch
      | past4 (past4 (past4 (at2 (item, partner, patch, ())))) =>
        .changeInteraction item partner patch
      | past4 (past4 (past4 (at3 (text, ())))) => .endGame text)
    (fun
      | .addInventoryItems items => at0 (items, ())
      | .removeInventoryItem item => at1 (item, ())
      | .removeItem item => at2 (item, ())
      | .move way => at3 (way, ())
      | .take item remove grants => past4 (at0 (item, remove, grants, ()))
      | .sequence actions => past4 (at1 (actions, ()))
      | .changeAction action enabling => past4 (at2 (action, enabling, ()))
      | .changeItem item patch => past4 (at3 (item, patch, ()))
      | .changeInventoryItem item patch => past4 (past4 (at0 (item, patch, ())))
      | .changePerson person patch => past4 (past4 (at1 (person, patch, ())))
      | .changeLocation location patch => past4 (past4 (at2 (location, patch, ())))
      | .changeWay way patch => past4 (past4 (at3 (way, patch, ())))
      | .changeConversation conversation patch =>
        past4 (past4 (past4 (at0 (conversation, patch, ()))))
      | .changeChoice choice patch => past4 (past4 (past4 (at1 (choice, patch, ()))))
      | .changeInteraction item partner patch =>
        past4 (past4 (past4 (at2 (item, partner, patch, ()))))
      | .endGame text => past4 (past4 (past4 (at3 (text, ())))))
    (fun e => by cases e <;> rfl)

end Adventure
