import Adventure.World.Actions

/-!
# Applying effects

What each effect changes in a world (`execute_action`, with one function for each kind of effect).
Patches overwrite the parts that they name (`change_item`, `change_person`, `change_way` and so on).
An item or a person that moves leaves the list of the old location and enters that of the new one.
The effects that make an action run others or end the game change nothing here.
-/

namespace Adventure.Edit

/-- The new text if there is one, otherwise the old one (`overwrite_string`). -/
def overwrite (old : String) (new : Option String) : String := new.getD old

/-! ## Player and inventory -/

/-- The player receives inventory items, each at most once (`add_inventory_items`). -/
def addInventoryItems : List (EntityId .inventoryItem) → Edit Unit
  | [] => pure ()
  | id :: ids => do
    let _ ← find id
    changePlayer fun p => { p with inventory := addOnce id p.inventory }
    addInventoryItems ids

/-- The player loses an inventory item (`remove_inventory_item`). -/
def removeInventoryItem (id : EntityId .inventoryItem) : Edit Unit := do
  let _ ← find id
  changePlayer fun p => { p with inventory := remove id p.inventory }

/-- The player goes through a way, wherever they are (`move_player`). -/
def movePlayer (id : EntityId .way) : Edit Unit := do
  let way ← find id
  let _ ← find way.destination
  changePlayer fun p => { p with location := way.destination }

/-! ## Places of items and persons -/

/-- An item leaves its location but stays in the world (`remove_item`). -/
def removeItem (id : EntityId .item) : Edit Unit := do
  let item ← find id
  change id fun i => { i with location := none }
  match item.location with
  | none => pure ()
  | some old => change old fun l => { l with items := remove id l.items }

/-- The player takes an item (`take_item`). -/
def takeItem (id : EntityId .item) (leave : Bool) (grants : List (EntityId .inventoryItem)) :
    Edit Unit := do
  let _ ← find id
  if leave then removeItem id
  addInventoryItems grants

/-- Where a relocation leads, which has to exist. -/
def destination : Relocation EntityId → Edit (Option (EntityId .location))
  | .to location => do
    let _ ← find location
    return some location
  | .remove => return none

/-- Puts an item into another location or out of play (`relocate_item`). -/
def relocateItem (id : EntityId .item) (relocation : Relocation EntityId) : Edit Unit := do
  let target ← destination relocation
  let item ← find id
  change id fun i => { i with location := target }
  match item.location with
  | none => pure ()
  | some old => change old fun l => { l with items := remove id l.items }
  match target with
  | none => pure ()
  | some new => change new fun l => { l with items := addOnce id l.items }

/-- Puts a person into another location or out of play. -/
def relocatePerson (id : EntityId .person) (relocation : Relocation EntityId) : Edit Unit := do
  let target ← destination relocation
  let person ← find id
  change id fun p => { p with location := target }
  match person.location with
  | none => pure ()
  | some old => change old fun l => { l with persons := remove id l.persons }
  match target with
  | none => pure ()
  | some new => change new fun l => { l with persons := addOnce id l.persons }

/-! ## Patches -/

/-- Enables or disables an action and all it contains (`change_action`). -/
def changeAction (id : EntityId .action) (enabling : Toggle) : Edit Unit := do
  let _ ← find id
  match enabling.target? with
  | none => pure ()
  | some value => setEnabled id value

/-- Changes the flag and the text of an action that belongs to an object. -/
def changeOwnAction (id : EntityId .action) (enabling : Toggle) (forbidden : Option String) :
    Edit Unit := do
  match enabling.target? with
  | none => pure ()
  | some value => setEnabled id value
  change id fun a => { a with forbiddenText := forbidden.or a.forbiddenText }

def changeItem (id : EntityId .item) (patch : ItemPatch EntityId) : Edit Unit := do
  let item ← find id
  change id fun i => { i with
    name := overwrite i.name patch.name
    description := overwrite i.description patch.description
    takeSuccessText := patch.takeSuccessText.or i.takeSuccessText
    usage := { i.usage with
      enabled := patch.usage.apply i.usage.enabled
      forbiddenText := patch.useForbiddenText.or i.usage.forbiddenText
      successText := patch.useSuccessText.or i.usage.successText }
    inspection := { i.inspection with text := patch.inspectionText.or i.inspection.text } }
  changeOwnAction item.takeAction patch.taking patch.takeForbiddenText
  match patch.relocation with
  | none => pure ()
  | some relocation => relocateItem id relocation

def changeInventoryItem (id : EntityId .inventoryItem) (patch : InventoryItemPatch) :
    Edit Unit :=
  change id fun i => { i with
    name := overwrite i.name patch.name
    description := overwrite i.description patch.description
    usage := { i.usage with
      enabled := patch.usage.apply i.usage.enabled
      forbiddenText := patch.useForbiddenText.or i.usage.forbiddenText
      successText := patch.useSuccessText.or i.usage.successText }
    inspection := { i.inspection with text := patch.inspectionText.or i.inspection.text } }

def changePerson (id : EntityId .person) (patch : PersonPatch EntityId) : Edit Unit := do
  match patch.conversation with
  | none => pure ()
  | some conversation =>
    let _ ← find conversation
  change id fun p => { p with
    name := overwrite p.name patch.name
    description := overwrite p.description patch.description
    talk := { p.talk with
      enabled := patch.talking.apply p.talk.enabled
      forbiddenText := patch.talkForbiddenText.or p.talk.forbiddenText
      conversation := patch.conversation.or p.talk.conversation }
    inspection := { p.inspection with text := patch.inspectionText.or p.inspection.text } }
  match patch.relocation with
  | none => pure ()
  | some relocation => relocatePerson id relocation

def changeLocation (id : EntityId .location) (patch : LocationPatch) : Edit Unit :=
  change id fun l => { l with
    name := overwrite l.name patch.name
    description := overwrite l.description patch.description }

def changeWay (id : EntityId .way) (patch : WayPatch) : Edit Unit := do
  let way ← find id
  change id fun w => { w with
    name := overwrite w.name patch.name
    description := overwrite w.description patch.description
    moveSuccessText := patch.moveSuccessText.or w.moveSuccessText
    inspection := { w.inspection with text := patch.inspectionText.or w.inspection.text } }
  changeOwnAction way.moveAction patch.moving patch.moveForbiddenText

/-- A new start layer has to belong to the conversation (`change_conversation`); if it does not,
greeting and farewell have changed all the same. -/
def changeConversation (id : EntityId .conversation) (patch : ConversationPatch EntityId) :
    Edit Unit := do
  change id fun c => { c with
    greeting := patch.greeting.or c.greeting
    farewell := patch.farewell.or c.farewell }
  match patch.startLayer with
  | none => pure ()
  | some layer =>
    let conversation ← find id
    if conversation.layers.contains layer then
      change id fun c => { c with startLayer := some layer }
    else fail (.foreignStartLayer layer conversation.symbol)

/-- A new target has to be a layer of the choice's conversation (`change_option`). -/
def changeChoice (id : EntityId .choice) (patch : ChoicePatch EntityId) : Edit Unit := do
  match patch.target with
  | none => pure ()
  | some target =>
    let choice ← find id
    let layer ← find target
    if layer.conversation ≠ choice.conversation then
      fail (.foreignTarget layer.symbol choice.symbol)
  change id fun c => { c with
    enabled := patch.enabling.apply c.enabled
    disableAfterChosen := patch.disabling.apply c.disableAfterChosen
    text := overwrite c.text patch.text
    answer := overwrite c.answer patch.answer
    target := patch.target.or c.target }

/-- The interaction after a patch. -/
def patchInteraction (patch : InteractionPatch) (i : Interaction EntityId ObjectRef) :
    Interaction EntityId ObjectRef :=
  { i with
    enabled := patch.enabling.apply i.enabled
    forbiddenText := patch.forbiddenText.or i.forbiddenText
    successText := patch.successText.or i.successText }

/-- Changes the first element that satisfies `p`. -/
def changeFirst {α : Type} (p : α → Bool) (f : α → α) : List α → List α
  | [] => []
  | a :: as => if p a then f a :: as else a :: changeFirst p f as

def changeInteraction (id : EntityId .inventoryItem) (partner : ObjectRef)
    (patch : InteractionPatch) : Edit Unit := do
  let item ← find id
  if (World.InventoryItem.interactionWith item partner).isNone then
    look fun w => .error (.noInteraction item.symbol (w.objectSymbol partner))
  else
    change id fun i => { i with
      interactions :=
        changeFirst (fun x => decide (x.partner = partner)) (patchInteraction patch)
          i.interactions }

/-- What an effect changes in the world (`execute_action`). -/
def apply : Effect EntityId ObjectRef → Edit Unit
  | .addInventoryItems items => addInventoryItems items
  | .removeInventoryItem item => removeInventoryItem item
  | .removeItem item => removeItem item
  | .move way => movePlayer way
  | .take item leave grants => takeItem item leave grants
  | .sequence _ => pure ()
  | .changeAction action enabling => changeAction action enabling
  | .changeItem item patch => changeItem item patch
  | .changeInventoryItem item patch => changeInventoryItem item patch
  | .changePerson person patch => changePerson person patch
  | .changeLocation location patch => changeLocation location patch
  | .changeWay way patch => changeWay way patch
  | .changeConversation conversation patch => changeConversation conversation patch
  | .changeChoice choice patch => changeChoice choice patch
  | .changeInteraction item partner patch => changeInteraction item partner patch
  | .endGame _ => pure ()

end Adventure.Edit
