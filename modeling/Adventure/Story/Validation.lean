import Adventure.Story.Basic
import Adventure.Unicode.Property

/-!
# Validation of stories

A story is sound as far as its symbols go if no two entities of a kind share one, every reference
leads to an entity of the right kind and conversations keep to their own layers. Validation lists
all faults: first the symbols that occur twice, kind by kind, then the faults of the player and of
each entity in the order in which they are defined.
-/

namespace Adventure

namespace Story

/-- The symbols of all entities of a kind, in the order of their definitions. -/
def symbols (s : Story) : EntityKind → List String
  | .location => s.locations.map (·.symbol)
  | .way => s.ways.map (·.symbol)
  | .item => s.items.map (·.symbol)
  | .inventoryItem => s.inventoryItems.map (·.symbol)
  | .person => s.persons.map (·.symbol)
  | .conversation => s.conversations.map (·.symbol)
  | .layer => s.conversations.flatMap fun c => c.layers.map (·.symbol)
  | .choice => s.conversations.flatMap fun c => c.layers.flatMap fun l => l.choices.map (·.symbol)
  | .action => s.actions.map (·.symbol)

/-- All kinds in the order in which symbols are checked. -/
def kindsInOrder : List EntityKind :=
  [.location, .way, .item, .inventoryItem, .person, .conversation, .layer, .choice, .action]

/-- The layers with the conversations they belong to. -/
def layerOwners (s : Story) : List (String × String) :=
  s.conversations.flatMap fun c => c.layers.map fun l => (l.symbol, c.symbol)

/-- The choices with the conversations they belong to. -/
def choiceOwners (s : Story) : List (String × String) :=
  s.conversations.flatMap fun c => c.layers.flatMap fun l => l.choices.map fun o =>
    (o.symbol, c.symbol)

/-- The conversation that a layer belongs to (`check_layer_owner`); of several the last one. -/
def layerOwner? (s : Story) (layer : String) : Option String :=
  s.layerOwners.reverse.lookup layer

/-- The conversation that a choice belongs to; of several the last one. -/
def choiceOwner? (s : Story) (choice : String) : Option String :=
  s.choiceOwners.reverse.lookup choice

/-- Where in a story a fault is. -/
inductive Place
  | startLocation
  | inventory
  | entity (kind : EntityKind) (symbol : String)
  deriving DecidableEq, Repr

/-- What is wrong with a story. -/
inductive Fault
  /-- Two entities of a kind have one symbol. -/
  | duplicate (kind : EntityKind) (symbol : String)
  /-- A reference leads to no entity of its kind. -/
  | missing (kind : EntityKind) (symbol : String) (place : Place)
  /-- A choice leads to a layer of another conversation. -/
  | foreignTarget (choice layer conversation : String)
  /-- A conversation begins in a layer of another one. -/
  | foreignStart (place : Place) (layer owner : String)
  /-- The player has no place to begin. -/
  | noStartLocation
  /-- An inventory item has two interactions with one partner. -/
  | partnerTwice (place : Place) (partner : String)
  /-- An inventory item has an interaction with itself. -/
  | ownPartner (place : Place)
  /-- An action lists itself. -/
  | containsItself (place : Place)
  deriving DecidableEq, Repr

/-- How a place is described. -/
def Place.describe : Place → String
  | startLocation => "player start location"
  | inventory => "player inventory"
  | entity kind symbol =>
    (if kind = .choice then "option" else kind.label) ++ " '" ++ symbol ++ "'"

/-- How a fault is reported. -/
def Fault.message : Fault → String
  | duplicate kind symbol => "duplicate " ++ kind.label ++ " id '" ++ symbol ++ "'"
  | missing kind symbol place =>
    "missing " ++ kind.label ++ " '" ++ symbol ++ "' (" ++ place.describe ++ ")"
  | foreignTarget choice layer conversation =>
    "option '" ++ choice ++ "' targets layer '" ++ layer ++ "' outside of conversation '"
      ++ conversation ++ "'"
  | foreignStart place layer owner =>
    "invalid value (" ++ place.describe ++ ": start layer '" ++ layer
      ++ "' belongs to conversation '" ++ owner ++ "')"
  | noStartLocation => "invalid value (player start location missing)"
  | partnerTwice place partner =>
    "invalid value (" ++ place.describe ++ " lists partner '" ++ partner ++ "' twice)"
  | ownPartner place =>
    "invalid value (" ++ place.describe ++ " cannot be combined with itself)"
  | containsItself place => "invalid value (" ++ place.describe ++ " contains itself)"

/-! ## Rules -/

/-- The elements that occur before in the list or in `seen`. -/
def repeated {α : Type} [BEq α] (seen : List α) : List α → List α
  | [] => []
  | a :: as => if seen.contains a then a :: repeated seen as else repeated (a :: seen) as

/-- A reference has to lead to an entity of its kind (`check_ref`). -/
def checkRef (s : Story) (kind : EntityKind) (place : Place) (symbol : String) : List Fault :=
  if (s.symbols kind).contains symbol then [] else [.missing kind symbol place]

/-- The actions that a list names have to exist (`check_actions`). -/
def checkActions (s : Story) (place : Place) (actions : List String) : List Fault :=
  actions.flatMap (s.checkRef .action place)

/-- A partner has to exist (`check_partner`). -/
def checkPartner (s : Story) (place : Place) : Partner → List Fault
  | .inventoryItem symbol => s.checkRef .inventoryItem place symbol
  | .item symbol => s.checkRef .item place symbol
  | .person symbol => s.checkRef .person place symbol

/-- A start layer has to be a layer of its conversation. -/
def checkStart (s : Story) (conversation : String) (place : Place) (layer : String) :
    List Fault :=
  match s.layerOwner? layer with
  | none => [.missing .layer layer place]
  | some owner => if owner = conversation then [] else [.foreignStart place layer owner]

/-- The target of a choice has to be a layer of the same conversation (`check_option_target`). -/
def checkTarget (s : Story) (choice conversation : String) (place : Place) (target : String) :
    List Fault :=
  match s.layerOwner? target with
  | none => [.missing .layer target place]
  | some owner =>
    if owner = conversation then [] else [.foreignTarget choice target conversation]

def checkPlayer (s : Story) : List Fault :=
  (if s.player.startLocation.toList.all Unicode.isWhitespace then [.noStartLocation]
    else s.checkRef .location .startLocation s.player.startLocation)
    ++ s.player.inventory.flatMap (s.checkRef .inventoryItem .inventory)

def checkWay (s : Story) (w : Way) : List Fault :=
  let place := Place.entity .way w.symbol
  s.checkRef .location place w.origin ++ s.checkRef .location place w.destination
    ++ s.checkActions place w.moving.actions ++ s.checkActions place w.inspection.actions

def checkItem (s : Story) (i : Item) : List Fault :=
  let place := Place.entity .item i.symbol
  i.location.toList.flatMap (s.checkRef .location place)
    ++ i.taking.grants.flatMap (s.checkRef .inventoryItem place)
    ++ s.checkActions place i.taking.actions ++ s.checkActions place i.usage.actions
    ++ s.checkActions place i.inspection.actions

/-- `seen` are the partners of the interactions before. -/
def checkInteractions (s : Story) (owner : String) (place : Place) (seen : List Partner) :
    List (Interaction Symbol Partner) → List Fault
  | [] => []
  | x :: rest =>
    s.checkPartner place x.partner
      ++ (if seen.contains x.partner then [.partnerTwice place x.partner.symbol] else [])
      ++ (if x.partner = .inventoryItem owner then [.ownPartner place] else [])
      ++ s.checkActions place x.actions
      ++ s.checkInteractions owner place (x.partner :: seen) rest

def checkInventoryItem (s : Story) (i : InventoryItem) : List Fault :=
  let place := Place.entity .inventoryItem i.symbol
  s.checkActions place i.usage.actions ++ s.checkActions place i.inspection.actions
    ++ s.checkInteractions i.symbol place [] i.interactions

def checkPerson (s : Story) (p : Person) : List Fault :=
  let place := Place.entity .person p.symbol
  p.location.toList.flatMap (s.checkRef .location place)
    ++ p.talk.conversation.toList.flatMap (s.checkRef .conversation place)
    ++ s.checkActions place p.talk.actions ++ s.checkActions place p.inspection.actions

def checkChoice (s : Story) (conversation : String) (o : Choice) : List Fault :=
  let place := Place.entity .choice o.symbol
  o.target.toList.flatMap (s.checkTarget o.symbol conversation place)
    ++ s.checkActions place o.actions

def checkConversation (s : Story) (c : Conversation) : List Fault :=
  c.startLayer.toList.flatMap
      (s.checkStart c.symbol (.entity .conversation c.symbol))
    ++ c.layers.flatMap fun l => l.choices.flatMap (s.checkChoice c.symbol)

/-- The location that a patch moves to has to exist. -/
def checkRelocation (s : Story) (place : Place) : Option (Relocation Symbol) → List Fault
  | some (.to location) => s.checkRef .location place location
  | _ => []

def checkEffect (s : Story) (owner : String) (place : Place) :
    Effect Symbol Partner → List Fault
  | .addInventoryItems items => items.flatMap (s.checkRef .inventoryItem place)
  | .removeInventoryItem item => s.checkRef .inventoryItem place item
  | .removeItem item => s.checkRef .item place item
  | .move way => s.checkRef .way place way
  | .take item _ grants =>
    s.checkRef .item place item ++ grants.flatMap (s.checkRef .inventoryItem place)
  | .sequence actions =>
    s.checkActions place actions
      ++ if actions.contains owner then [.containsItself place] else []
  | .changeAction action _ => s.checkRef .action place action
  | .changeItem item patch =>
    s.checkRef .item place item ++ s.checkRelocation place patch.relocation
  | .changeInventoryItem item _ => s.checkRef .inventoryItem place item
  | .changePerson person patch =>
    s.checkRef .person place person ++ s.checkRelocation place patch.relocation
      ++ patch.conversation.toList.flatMap (s.checkRef .conversation place)
  | .changeLocation location _ => s.checkRef .location place location
  | .changeWay way _ => s.checkRef .way place way
  | .changeConversation conversation patch =>
    s.checkRef .conversation place conversation
      ++ patch.startLayer.toList.flatMap (s.checkStart conversation place)
  | .changeChoice choice patch =>
    s.checkRef .choice place choice
      ++ patch.target.toList.flatMap fun target =>
        match s.choiceOwner? choice with
        | some conversation => s.checkTarget choice conversation place target
        | none => if (s.layerOwner? target).isSome then [] else [.missing .layer target place]
  | .changeInteraction item partner _ =>
    s.checkRef .inventoryItem place item ++ s.checkPartner place partner
  | .endGame _ => []

def checkAction (s : Story) (a : Action) : List Fault :=
  s.checkEffect a.symbol (.entity .action a.symbol) a.effect

/-- The symbols that occur twice (`track_ids`). -/
def duplicates (s : Story) : List Fault :=
  kindsInOrder.flatMap fun kind => (repeated [] (s.symbols kind)).map (.duplicate kind)

/-- All faults of a story (`validate_world`). -/
def faults (s : Story) : List Fault :=
  s.duplicates ++ s.checkPlayer ++ s.ways.flatMap s.checkWay ++ s.items.flatMap s.checkItem
    ++ s.inventoryItems.flatMap s.checkInventoryItem ++ s.persons.flatMap s.checkPerson
    ++ s.conversations.flatMap s.checkConversation ++ s.actions.flatMap s.checkAction

end Story

end Adventure
