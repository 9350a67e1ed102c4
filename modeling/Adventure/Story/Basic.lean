import Adventure.Entity.Behavior
import Adventure.Entity.Effect
import Adventure.Game.Basic

/-!
# Stories

A story is what an author writes: the game's settings, the player's beginnings and the
definitions of all entities. Entities have symbols and refer to each other by them.
-/

namespace Adventure

/-- An author refers to an entity of any kind by its symbol. -/
abbrev Symbol (_ : EntityKind) : Type := String

namespace Story

/-- What an inventory item can be used with. -/
inductive Partner
  | inventoryItem (symbol : String)
  | item (symbol : String)
  | person (symbol : String)
  deriving DecidableEq, Repr

/-- The symbol of a partner. -/
def Partner.symbol : Partner → String
  | inventoryItem symbol => symbol
  | item symbol => symbol
  | person symbol => symbol

/-- Where the player begins and what they carry then. -/
structure Player where
  name : String := ""
  startLocation : String
  inventory : List String := []
  deriving DecidableEq, Repr

/-- A place the player can be in. -/
structure Location where
  symbol : String
  name : String
  description : String := ""
  deriving DecidableEq, Repr

/-- What happens when the player goes through a way. -/
structure Moving where
  enabled : Bool := true
  forbiddenText : Option String := none
  successText : Option String := none
  phrasings : List String := []
  actions : List String := []
  deriving DecidableEq, Repr

/-- A connection from one location to another. -/
structure Way where
  symbol : String
  name : String
  description : String := ""
  origin : String
  destination : String
  identifiers : List String := []
  moving : Moving := {}
  inspection : Inspection Symbol := {}

/-- What happens when the player takes an item. -/
structure Taking where
  enabled : Bool := false
  forbiddenText : Option String := none
  successText : Option String := none
  removeItem : Bool := true
  grants : List String := []
  phrasings : List String := []
  actions : List String := []
  deriving DecidableEq, Repr

/-- An object that lies in a location. -/
structure Item where
  symbol : String
  name : String
  description : String := ""
  location : Option String := none
  identifiers : List String := []
  taking : Taking := {}
  usage : Usage Symbol := {}
  inspection : Inspection Symbol := {}

/-- An object that the player can carry. -/
structure InventoryItem where
  symbol : String
  name : String
  description : String := ""
  identifiers : List String := []
  usage : Usage Symbol := {}
  inspection : Inspection Symbol := {}
  interactions : List (Interaction Symbol Partner) := []

/-- A person the player can talk to. -/
structure Person where
  symbol : String
  name : String
  description : String := ""
  location : Option String := none
  identifiers : List String := []
  talk : Talk Symbol := {}
  inspection : Inspection Symbol := {}

/-- Something the player can say. Without a target the conversation ends with it. -/
structure Choice where
  symbol : String
  text : String
  answer : String := ""
  enabled : Bool := true
  disableAfterChosen : Bool := false
  target : Option String := none
  actions : List String := []
  deriving DecidableEq, Repr

/-- A layer of a conversation: the choices that are open at the same time. -/
structure Layer where
  symbol : String
  choices : List Choice := []
  deriving DecidableEq, Repr

/-- A conversation; without a start layer it ends after the greeting. -/
structure Conversation where
  symbol : String
  greeting : Option String := none
  farewell : Option String := none
  startLayer : Option String := none
  layers : List Layer := []
  deriving DecidableEq, Repr

/-- An action that lists of actions can name. -/
structure Action where
  symbol : String
  name : String := ""
  enabled : Bool := true
  forbiddenText : Option String := none
  effect : Effect Symbol Partner

end Story

/-- Everything an author writes. -/
structure Story where
  game : Game := {}
  player : Story.Player
  locations : List Story.Location := []
  ways : List Story.Way := []
  items : List Story.Item := []
  inventoryItems : List Story.InventoryItem := []
  persons : List Story.Person := []
  conversations : List Story.Conversation := []
  actions : List Story.Action := []

end Adventure
