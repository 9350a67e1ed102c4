import Adventure.Entity.Arena
import Adventure.Entity.Behavior
import Adventure.Entity.Effect
import Adventure.Failure
import Adventure.Game.Basic

/-!
# Worlds

A world is the complete state of a game: the game's settings, the player and one arena for each
kind of entity. Entities refer to each other by identifiers, and `World.find` reports one that
leads nowhere.
-/

namespace Adventure

/-- An object that the player can name. -/
inductive ObjectRef
  | location (id : EntityId .location)
  | way (id : EntityId .way)
  | item (id : EntityId .item)
  | inventoryItem (id : EntityId .inventoryItem)
  | person (id : EntityId .person)
  deriving DecidableEq

namespace ObjectRef

/-- The kind of the object. -/
def kind : ObjectRef → EntityKind
  | location _ => .location
  | way _ => .way
  | item _ => .item
  | inventoryItem _ => .inventoryItem
  | person _ => .person

/-- The bits of the object's identifier. -/
def uuid : ObjectRef → Uuid
  | location id => id.uuid
  | way id => id.uuid
  | item id => id.uuid
  | inventoryItem id => id.uuid
  | person id => id.uuid

end ObjectRef

namespace World

/-- A place the player can be in. Items, persons and ways are listed in the order in which they
came. -/
structure Location where
  id : EntityId .location
  symbol : String
  name : String
  description : String
  items : List (EntityId .item)
  persons : List (EntityId .person)
  waysOut : List (EntityId .way)

/-- A connection from one location to another. Its own action moves the player. -/
structure Way where
  id : EntityId .way
  symbol : String
  name : String
  description : String
  origin : EntityId .location
  destination : EntityId .location
  identifiers : List String
  moveAction : EntityId .action
  moveSuccessText : Option String
  movePhrasings : List String
  moveActions : List (EntityId .action)
  inspection : Inspection EntityId

/-- An object that lies in a location. Its own action lets the player take it. -/
structure Item where
  id : EntityId .item
  symbol : String
  name : String
  description : String
  location : Option (EntityId .location)
  identifiers : List String
  takeAction : EntityId .action
  takeSuccessText : Option String
  takePhrasings : List String
  takeActions : List (EntityId .action)
  usage : Usage EntityId
  inspection : Inspection EntityId

/-- An object that the player can carry. -/
structure InventoryItem where
  id : EntityId .inventoryItem
  symbol : String
  name : String
  description : String
  identifiers : List String
  usage : Usage EntityId
  inspection : Inspection EntityId
  interactions : List (Interaction EntityId ObjectRef)

/-- A person the player can talk to. -/
structure Person where
  id : EntityId .person
  symbol : String
  name : String
  description : String
  location : Option (EntityId .location)
  identifiers : List String
  talk : Talk EntityId
  inspection : Inspection EntityId

/-- A conversation; without a start layer it ends after the greeting. -/
structure Conversation where
  id : EntityId .conversation
  symbol : String
  greeting : Option String
  farewell : Option String
  startLayer : Option (EntityId .layer)
  layers : List (EntityId .layer)

/-- A layer of a conversation: the choices that are open at the same time. -/
structure Layer where
  id : EntityId .layer
  symbol : String
  conversation : EntityId .conversation
  choices : List (EntityId .choice)

/-- Something the player can say. Without a target the conversation ends with it. -/
structure Choice where
  id : EntityId .choice
  symbol : String
  conversation : EntityId .conversation
  layer : EntityId .layer
  text : String
  answer : String
  enabled : Bool
  disableAfterChosen : Bool
  target : Option (EntityId .layer)
  actions : List (EntityId .action)

/-- An action; one that belongs to an item or a way names it as its owner. -/
structure Action where
  id : EntityId .action
  symbol : String
  name : String
  enabled : Bool
  forbiddenText : Option String
  owner : Option ObjectRef
  effect : Effect EntityId ObjectRef

/-- Where the player is and what they carry, in the order in which they received it. -/
structure Player where
  name : String
  location : EntityId .location
  inventory : List (EntityId .inventoryItem)

/-- The entities of a kind. -/
@[reducible] def Entity : EntityKind → Type
  | .location => Location
  | .way => Way
  | .item => Item
  | .inventoryItem => InventoryItem
  | .person => Person
  | .conversation => Conversation
  | .layer => Layer
  | .choice => Choice
  | .action => Action

/-- The name that the author gave an entity. -/
def Entity.symbol : {kind : EntityKind} → Entity kind → String
  | .location, e => Location.symbol e
  | .way, e => Way.symbol e
  | .item, e => Item.symbol e
  | .inventoryItem, e => InventoryItem.symbol e
  | .person, e => Person.symbol e
  | .conversation, e => Conversation.symbol e
  | .layer, e => Layer.symbol e
  | .choice, e => Choice.symbol e
  | .action, e => Action.symbol e

end World

/-- The state of a game. -/
structure World where
  game : Game
  player : World.Player
  locations : Arena .location World.Location
  ways : Arena .way World.Way
  items : Arena .item World.Item
  inventoryItems : Arena .inventoryItem World.InventoryItem
  persons : Arena .person World.Person
  conversations : Arena .conversation World.Conversation
  layers : Arena .layer World.Layer
  choices : Arena .choice World.Choice
  actions : Arena .action World.Action
  version : String

namespace World

/-- The entities of one kind. -/
def arena (w : World) : (kind : EntityKind) → Arena kind (Entity kind)
  | .location => w.locations
  | .way => w.ways
  | .item => w.items
  | .inventoryItem => w.inventoryItems
  | .person => w.persons
  | .conversation => w.conversations
  | .layer => w.layers
  | .choice => w.choices
  | .action => w.actions

/-- The world with other entities of one kind. -/
def setArena (w : World) : (kind : EntityKind) → Arena kind (Entity kind) → World
  | .location, a => { w with locations := a }
  | .way, a => { w with ways := a }
  | .item, a => { w with items := a }
  | .inventoryItem, a => { w with inventoryItems := a }
  | .person, a => { w with persons := a }
  | .conversation, a => { w with conversations := a }
  | .layer, a => { w with layers := a }
  | .choice, a => { w with choices := a }
  | .action, a => { w with actions := a }

@[simp] theorem arena_setArena (w : World) (kind : EntityKind) (a : Arena kind (Entity kind)) :
    (w.setArena kind a).arena kind = a := by cases kind <;> rfl

theorem arena_setArena_of_ne {w : World} {kind other : EntityKind}
    {a : Arena kind (Entity kind)} (h : other ≠ kind) :
    (w.setArena kind a).arena other = w.arena other := by
  cases kind <;> cases other <;> simp_all [arena, setArena]

variable {kind : EntityKind}

/-- The entity with a given identifier, if there is one. -/
def get? (w : World) (id : EntityId kind) : Option (Entity kind) := (w.arena kind).get? id

/-- The entity with a given identifier, which has to exist. -/
def find (w : World) (id : EntityId kind) : Except Failure (Entity kind) :=
  match w.get? id with
  | some e => .ok e
  | none => .error (.unknownEntity kind id.uuid)

/-- The world with an entity put in, in the place of one with the same identifier. -/
def put (w : World) (id : EntityId kind) (e : Entity kind) : World :=
  w.setArena kind ((w.arena kind).insert id e)

/-- The world without the entity that has a given identifier. -/
def drop (w : World) (id : EntityId kind) : World := w.setArena kind ((w.arena kind).erase id)

/-- The location the player is in. -/
def playerLocation (w : World) : Except Failure Location := w.find w.player.location

/-- A world without entities. -/
def empty (game : Game) (version : String) : World :=
  { game, version, player := ⟨"", default, []⟩
    locations := .empty, ways := .empty, items := .empty, inventoryItems := .empty
    persons := .empty, conversations := .empty, layers := .empty, choices := .empty
    actions := .empty }

end World

end Adventure
