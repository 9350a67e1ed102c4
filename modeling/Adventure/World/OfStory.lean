import Adventure.Command.Template
import Adventure.Story.Basic
import Adventure.World.Basic

/-!
# Worlds of stories

The world at the beginning of a game (`build_world_from_def`). Each kind of definition has a
function that makes entities of it (`location_from_def`, `way_from_def`, `item_from_def` and so on;
in a conversation `add_conversation`, `add_layer` and `option_from_def`). Symbols become
identifiers, phrasings are put into the form in which they are read, and each location lists what
the story puts there, in the order of the definitions. Every way and every item comes with an action
of its own, which moves the player or takes the item.
-/

namespace Adventure.World

/-- The version of the format of worlds. -/
def currentVersion : String := "0.3.0"

/-- The identifier that a symbol of a story stands for. -/
def idOf {kind : EntityKind} (symbol : Symbol kind) : EntityId kind := .ofSymbol kind symbol

/-- The object that a partner in a story is (`partner_from_def`). -/
def partnerOf : Story.Partner → ObjectRef
  | .inventoryItem symbol => .inventoryItem (idOf symbol)
  | .item symbol => .item (idOf symbol)
  | .person symbol => .person (idOf symbol)

def inspectionOf (b : Inspection Symbol) : Inspection EntityId := b.map idOf Template.normalize

def usageOf (b : Usage Symbol) : Usage EntityId := b.map idOf Template.normalize

/-- The identifier of the action that moves the player through a way. -/
def moveActionId (w : Story.Way) : EntityId .action := .owned w.symbol "move"

/-- The identifier of the action that takes an item. -/
def takeActionId (i : Story.Item) : EntityId .action := .owned i.symbol "take"

def locationOf (s : Story) (l : Story.Location) : Location where
  id := idOf l.symbol
  symbol := l.symbol
  name := l.name
  description := l.description
  items := (s.items.filter fun i => i.location = some l.symbol).map fun i => idOf i.symbol
  persons := (s.persons.filter fun p => p.location = some l.symbol).map fun p => idOf p.symbol
  waysOut := (s.ways.filter fun w => w.origin = l.symbol).map fun w => idOf w.symbol

def wayOf (w : Story.Way) : Way where
  id := idOf w.symbol
  symbol := w.symbol
  name := w.name
  description := w.description
  origin := idOf w.origin
  destination := idOf w.destination
  identifiers := w.identifiers
  moveAction := moveActionId w
  moveSuccessText := w.moving.successText
  movePhrasings := w.moving.phrasings.map Template.normalize
  moveActions := w.moving.actions.map idOf
  inspection := inspectionOf w.inspection

def itemOf (i : Story.Item) : Item where
  id := idOf i.symbol
  symbol := i.symbol
  name := i.name
  description := i.description
  location := i.location.map idOf
  identifiers := i.identifiers
  takeAction := takeActionId i
  takeSuccessText := i.taking.successText
  takePhrasings := i.taking.phrasings.map Template.normalize
  takeActions := i.taking.actions.map idOf
  usage := usageOf i.usage
  inspection := inspectionOf i.inspection

def inventoryItemOf (i : Story.InventoryItem) : InventoryItem where
  id := idOf i.symbol
  symbol := i.symbol
  name := i.name
  description := i.description
  identifiers := i.identifiers
  usage := usageOf i.usage
  inspection := inspectionOf i.inspection
  interactions := i.interactions.map (·.map idOf partnerOf Template.normalize)

def personOf (p : Story.Person) : Person where
  id := idOf p.symbol
  symbol := p.symbol
  name := p.name
  description := p.description
  location := p.location.map idOf
  identifiers := p.identifiers
  talk := p.talk.map idOf Template.normalize
  inspection := inspectionOf p.inspection

def conversationOf (c : Story.Conversation) : Conversation where
  id := idOf c.symbol
  symbol := c.symbol
  greeting := c.greeting
  farewell := c.farewell
  startLayer := c.startLayer.map idOf
  layers := c.layers.map fun l => idOf l.symbol

def layerOf (c : Story.Conversation) (l : Story.Layer) : Layer where
  id := idOf l.symbol
  symbol := l.symbol
  conversation := idOf c.symbol
  choices := l.choices.map fun o => idOf o.symbol

def choiceOf (c : Story.Conversation) (l : Story.Layer) (o : Story.Choice) : Choice where
  id := idOf o.symbol
  symbol := o.symbol
  conversation := idOf c.symbol
  layer := idOf l.symbol
  text := o.text
  answer := o.answer
  enabled := o.enabled
  disableAfterChosen := o.disableAfterChosen
  target := o.target.map idOf
  actions := o.actions.map idOf

/-- An action without a name goes by its symbol (`action_from_def`). -/
def actionOf (a : Story.Action) : Action where
  id := idOf a.symbol
  symbol := a.symbol
  name := if a.name.isEmpty then a.symbol else a.name
  enabled := a.enabled
  forbiddenText := a.forbiddenText
  owner := none
  effect := a.effect.map idOf partnerOf

/-- The action that moves the player through a way. -/
def moveActionOf (w : Story.Way) : Action where
  id := moveActionId w
  symbol := EntityId.ownedSymbol w.symbol "move"
  name := "move through " ++ w.name
  enabled := w.moving.enabled
  forbiddenText := w.moving.forbiddenText
  owner := some (.way (idOf w.symbol))
  effect := .move (idOf w.symbol)

/-- The action that takes an item. -/
def takeActionOf (i : Story.Item) : Action where
  id := takeActionId i
  symbol := EntityId.ownedSymbol i.symbol "take"
  name := "take " ++ i.name
  enabled := i.taking.enabled
  forbiddenText := i.taking.forbiddenText
  owner := some (.item (idOf i.symbol))
  effect := .take (idOf i.symbol) i.taking.removeItem (i.taking.grants.map idOf)

def playerOf (p : Story.Player) : Player where
  name := p.name
  location := idOf p.startLocation
  inventory := p.inventory.foldl (fun carried symbol =>
    if carried.contains (idOf symbol) then carried else carried ++ [idOf symbol]) []

def gameOf (g : Game) : Game := { g with phrasings := g.phrasings.map Template.normalize }

/-- All actions of a story, with those of ways and items. -/
def actionsOf (s : Story) : List Action :=
  s.actions.map actionOf ++ s.ways.map moveActionOf ++ s.items.map takeActionOf

/-- The world of a story (`build_world_from_def`). -/
def ofStory (s : Story) : World where
  game := gameOf s.game
  player := playerOf s.player
  locations := .ofList (s.locations.map fun l => (idOf l.symbol, locationOf s l))
  ways := .ofList (s.ways.map fun w => (idOf w.symbol, wayOf w))
  items := .ofList (s.items.map fun i => (idOf i.symbol, itemOf i))
  inventoryItems := .ofList (s.inventoryItems.map fun i => (idOf i.symbol, inventoryItemOf i))
  persons := .ofList (s.persons.map fun p => (idOf p.symbol, personOf p))
  conversations := .ofList (s.conversations.map fun c => (idOf c.symbol, conversationOf c))
  layers := .ofList (s.conversations.flatMap fun c => c.layers.map fun l =>
    (idOf l.symbol, layerOf c l))
  choices := .ofList (s.conversations.flatMap fun c => c.layers.flatMap fun l =>
    l.choices.map fun o => (idOf o.symbol, choiceOf c l o))
  actions := .ofList ((actionsOf s).map fun a => (a.id, a))
  version := currentVersion

end Adventure.World
