import Adventure.World.Objects

/-!
# Facts of a world

The parts of a world that can change in a game, as a flat list of names and values. Entities are
named by their symbols, or by their identifiers where these lead nowhere.
-/

namespace Adventure.World

/-- The value of a fact. -/
inductive Fact
  | absent
  | flag (value : Bool)
  | text (value : String)
  | texts (values : List String)
  deriving DecidableEq, Repr

/-- A text that may be absent. -/
def Fact.ofOption : Option String → Fact
  | none => .absent
  | some s => .text s

/-- The symbol of an entity, or its identifier if it does not exist. -/
def symbolOf {kind : EntityKind} (w : World) (id : EntityId kind) : String :=
  match w.get? id with
  | some e => Entity.symbol e
  | none => id.uuid.toString

/-- The symbols of entities. -/
def symbolsOf {kind : EntityKind} (w : World) (ids : List (EntityId kind)) : Fact :=
  .texts (ids.map w.symbolOf)

/-- Facts about one subject. -/
def about (subject : String) (facts : List (String × Fact)) : List (String × Fact) :=
  facts.map fun (name, fact) => (subject ++ name, fact)

def usageFacts (b : Usage EntityId) : List (String × Fact) :=
  [(".use.enabled", .flag b.enabled), (".use.forbidden", .ofOption b.forbiddenText),
   (".use.successful", .ofOption b.successText)]

/-- What the kind of a partner is called in the name of a fact. -/
def partnerLabel (ref : ObjectRef) : String :=
  match ref.kind with
  | .inventoryItem => "inventory_item"
  | kind => kind.label

def interactionFacts (w : World) (b : Interaction EntityId ObjectRef) : List (String × Fact) :=
  about (".with." ++ partnerLabel b.partner ++ "." ++ w.objectSymbol b.partner)
    [(".enabled", .flag b.enabled), (".forbidden", .ofOption b.forbiddenText),
     (".successful", .ofOption b.successText)]

def locationFacts (w : World) (l : Location) : List (String × Fact) :=
  about ("location." ++ l.symbol)
    [(".name", .text l.name), (".description", .text l.description),
     (".items", w.symbolsOf l.items), (".persons", w.symbolsOf l.persons),
     (".ways", w.symbolsOf l.waysOut)]

def wayFacts (v : Way) : List (String × Fact) :=
  about ("way." ++ v.symbol)
    [(".name", .text v.name), (".description", .text v.description),
     (".inspect.text", .ofOption v.inspection.text),
     (".move.successful", .ofOption v.moveSuccessText)]

def itemFacts (w : World) (i : Item) : List (String × Fact) :=
  about ("item." ++ i.symbol)
    ([(".name", .text i.name), (".description", .text i.description),
      (".inspect.text", .ofOption i.inspection.text)] ++ usageFacts i.usage
      ++ [(".location", .ofOption (i.location.map w.symbolOf)),
        (".take.successful", .ofOption i.takeSuccessText)])

def inventoryItemFacts (w : World) (i : InventoryItem) : List (String × Fact) :=
  about ("inventory_item." ++ i.symbol)
    ([(".name", .text i.name), (".description", .text i.description),
      (".inspect.text", .ofOption i.inspection.text)] ++ usageFacts i.usage
      ++ i.interactions.flatMap w.interactionFacts)

def personFacts (w : World) (p : Person) : List (String × Fact) :=
  about ("person." ++ p.symbol)
    [(".name", .text p.name), (".description", .text p.description),
     (".inspect.text", .ofOption p.inspection.text),
     (".location", .ofOption (p.location.map w.symbolOf)),
     (".talk.enabled", .flag p.talk.enabled),
     (".talk.forbidden", .ofOption p.talk.forbiddenText),
     (".talk.conversation", .ofOption (p.talk.conversation.map w.symbolOf))]

def conversationFacts (w : World) (c : Conversation) : List (String × Fact) :=
  about ("conversation." ++ c.symbol)
    [(".greeting", .ofOption c.greeting), (".farewell", .ofOption c.farewell),
     (".start", .ofOption (c.startLayer.map w.symbolOf))]

def choiceFacts (w : World) (o : Choice) : List (String × Fact) :=
  about ("option." ++ o.symbol)
    [(".enabled", .flag o.enabled), (".disable_after_chosen", .flag o.disableAfterChosen),
     (".text", .text o.text), (".answer", .text o.answer),
     (".target", .ofOption (o.target.map w.symbolOf))]

def actionFacts (a : Action) : List (String × Fact) :=
  about ((if a.owner.isSome then "owned." else "action.") ++ a.symbol)
    [(".enabled", .flag a.enabled), (".forbidden", .ofOption a.forbiddenText)]

/-- All facts of a world. -/
def facts (w : World) : List (String × Fact) :=
  [("player.location", .text (w.symbolOf w.player.location)),
   ("player.inventory", w.symbolsOf w.player.inventory)]
    ++ w.locations.values.flatMap w.locationFacts ++ w.ways.values.flatMap wayFacts
    ++ w.items.values.flatMap w.itemFacts
    ++ w.inventoryItems.values.flatMap w.inventoryItemFacts
    ++ w.persons.values.flatMap w.personFacts
    ++ w.conversations.values.flatMap w.conversationFacts
    ++ w.choices.values.flatMap w.choiceFacts ++ w.actions.values.flatMap actionFacts

/-- What became of a fact that changed. -/
inductive Change
  | now (value : Fact)
  | gone
  deriving DecidableEq, Repr

/-- The facts that differ between two worlds. -/
def changes (before after : World) : List (String × Change) :=
  let old := before.facts
  let new := after.facts
  new.filterMap (fun (name, fact) =>
      if old.lookup name = some fact then none else some (name, .now fact))
    ++ old.filterMap fun (name, _) => if (new.lookup name).isNone then some (name, .gone) else none

end Adventure.World
