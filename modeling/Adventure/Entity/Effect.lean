import Adventure.Entity.Id

/-!
# Effects of actions

Everything that an action can do to a world. Most effects patch one entity: a patch names the
parts that change and leaves the others alone. Effects refer to entities by `Ref` and to the
partner of an interaction by `Partner`, since an author writes symbols where a running world has
identifiers.
-/

namespace Adventure

/-- What a patch does to a flag. -/
inductive Toggle
  | keep | enable | disable
  deriving DecidableEq, Repr, Inhabited

namespace Toggle

/-- The value that a flag is set to, if it is set. -/
def target? : Toggle → Option Bool
  | keep => none
  | enable => some true
  | disable => some false

/-- The flag after the patch. -/
def apply (toggle : Toggle) (flag : Bool) : Bool := toggle.target?.getD flag

end Toggle

/-- Where a patch puts an item or a person. -/
inductive Relocation (Ref : EntityKind → Type)
  | to (location : Ref .location)
  | remove

/-- Changes to an item and its take action. -/
structure ItemPatch (Ref : EntityKind → Type) where
  name : Option String := none
  description : Option String := none
  taking : Toggle := .keep
  takeForbiddenText : Option String := none
  takeSuccessText : Option String := none
  usage : Toggle := .keep
  useForbiddenText : Option String := none
  useSuccessText : Option String := none
  inspectionText : Option String := none
  relocation : Option (Relocation Ref) := none

/-- Changes to an inventory item. -/
structure InventoryItemPatch where
  name : Option String := none
  description : Option String := none
  usage : Toggle := .keep
  useForbiddenText : Option String := none
  useSuccessText : Option String := none
  inspectionText : Option String := none
  deriving DecidableEq, Repr

/-- Changes to a person. -/
structure PersonPatch (Ref : EntityKind → Type) where
  name : Option String := none
  description : Option String := none
  talking : Toggle := .keep
  talkForbiddenText : Option String := none
  conversation : Option (Ref .conversation) := none
  relocation : Option (Relocation Ref) := none
  inspectionText : Option String := none

/-- Changes to a location. -/
structure LocationPatch where
  name : Option String := none
  description : Option String := none
  deriving DecidableEq, Repr

/-- Changes to a way and its move action. -/
structure WayPatch where
  name : Option String := none
  description : Option String := none
  moving : Toggle := .keep
  moveForbiddenText : Option String := none
  moveSuccessText : Option String := none
  inspectionText : Option String := none
  deriving DecidableEq, Repr

/-- Changes to a conversation. -/
structure ConversationPatch (Ref : EntityKind → Type) where
  greeting : Option String := none
  farewell : Option String := none
  startLayer : Option (Ref .layer) := none

/-- Changes to a choice of a conversation. -/
structure ChoicePatch (Ref : EntityKind → Type) where
  enabling : Toggle := .keep
  disabling : Toggle := .keep
  text : Option String := none
  answer : Option String := none
  target : Option (Ref .layer) := none

/-- Changes to an interaction. -/
structure InteractionPatch where
  enabling : Toggle := .keep
  forbiddenText : Option String := none
  successText : Option String := none
  deriving DecidableEq, Repr

/-- What an action does. -/
inductive Effect (Ref : EntityKind → Type) (Partner : Type)
  /-- The player receives inventory items. -/
  | addInventoryItems (items : List (Ref .inventoryItem))
  /-- The player loses an inventory item. -/
  | removeInventoryItem (item : Ref .inventoryItem)
  /-- An item leaves its location. -/
  | removeItem (item : Ref .item)
  /-- The player goes through a way. -/
  | move (way : Ref .way)
  /-- The player takes an item: it leaves its location if `remove` says so, and the player
  receives inventory items. -/
  | take (item : Ref .item) (remove : Bool) (grants : List (Ref .inventoryItem))
  /-- Other actions run one after the other. -/
  | sequence (actions : List (Ref .action))
  /-- An action and those it contains are enabled or disabled. -/
  | changeAction (action : Ref .action) (enabling : Toggle)
  | changeItem (item : Ref .item) (patch : ItemPatch Ref)
  | changeInventoryItem (item : Ref .inventoryItem) (patch : InventoryItemPatch)
  | changePerson (person : Ref .person) (patch : PersonPatch Ref)
  | changeLocation (location : Ref .location) (patch : LocationPatch)
  | changeWay (way : Ref .way) (patch : WayPatch)
  | changeConversation (conversation : Ref .conversation) (patch : ConversationPatch Ref)
  | changeChoice (choice : Ref .choice) (patch : ChoicePatch Ref)
  /-- An inventory item's interaction with a partner changes. -/
  | changeInteraction (item : Ref .inventoryItem) (partner : Partner) (patch : InteractionPatch)
  /-- The game ends, with closing words of its own if there is a text. -/
  | endGame (text : Option String)

variable {Ref Ref' : EntityKind → Type} {Partner Partner' : Type}

/-- The relocation with another reference. -/
def Relocation.map (ref : ∀ {k}, Ref k → Ref' k) : Relocation Ref → Relocation Ref'
  | .to location => .to (ref location)
  | .remove => .remove

/-- The patch with other references. -/
def ItemPatch.map (ref : ∀ {k}, Ref k → Ref' k) (p : ItemPatch Ref) : ItemPatch Ref' :=
  ⟨p.name, p.description, p.taking, p.takeForbiddenText, p.takeSuccessText, p.usage,
   p.useForbiddenText, p.useSuccessText, p.inspectionText, p.relocation.map (·.map ref)⟩

/-- The patch with other references. -/
def PersonPatch.map (ref : ∀ {k}, Ref k → Ref' k) (p : PersonPatch Ref) : PersonPatch Ref' :=
  ⟨p.name, p.description, p.talking, p.talkForbiddenText, p.conversation.map ref,
   p.relocation.map (·.map ref), p.inspectionText⟩

/-- The patch with other references. -/
def ConversationPatch.map (ref : ∀ {k}, Ref k → Ref' k) (p : ConversationPatch Ref) :
    ConversationPatch Ref' :=
  ⟨p.greeting, p.farewell, p.startLayer.map ref⟩

/-- The patch with other references. -/
def ChoicePatch.map (ref : ∀ {k}, Ref k → Ref' k) (p : ChoicePatch Ref) : ChoicePatch Ref' :=
  ⟨p.enabling, p.disabling, p.text, p.answer, p.target.map ref⟩

/-- The effect with other references and partners. -/
def Effect.map (ref : ∀ {k}, Ref k → Ref' k) (partner : Partner → Partner') :
    Effect Ref Partner → Effect Ref' Partner'
  | .addInventoryItems items => .addInventoryItems (items.map ref)
  | .removeInventoryItem item => .removeInventoryItem (ref item)
  | .removeItem item => .removeItem (ref item)
  | .move way => .move (ref way)
  | .take item remove grants => .take (ref item) remove (grants.map ref)
  | .sequence actions => .sequence (actions.map ref)
  | .changeAction action enabling => .changeAction (ref action) enabling
  | .changeItem item patch => .changeItem (ref item) (patch.map ref)
  | .changeInventoryItem item patch => .changeInventoryItem (ref item) patch
  | .changePerson person patch => .changePerson (ref person) (patch.map ref)
  | .changeLocation location patch => .changeLocation (ref location) patch
  | .changeWay way patch => .changeWay (ref way) patch
  | .changeConversation conversation patch =>
    .changeConversation (ref conversation) (patch.map ref)
  | .changeChoice choice patch => .changeChoice (ref choice) (patch.map ref)
  | .changeInteraction item p patch => .changeInteraction (ref item) (partner p) patch
  | .endGame text => .endGame text

end Adventure
