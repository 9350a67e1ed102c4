import Adventure.Entity.Identifier
import Adventure.World.Objects

/-!
# Searching the player's surroundings

A word that the player typed is looked up in scopes. Scopes are searched in the order in which
they are given, each in the order of its list, and the first object that the word names is found.
-/

namespace Adventure

/-- Where an object is looked for (`SearchScope`). -/
inductive Scope
  /-- The items in the player's location. -/
  | itemsHere
  /-- The inventory items that the player carries. -/
  | inventory
  /-- The persons in the player's location. -/
  | personsHere
  /-- The ways out of the player's location. -/
  | waysOut
  deriving DecidableEq, Repr

namespace World

/-- The objects in a scope, for a player in a given location (`scope_refs`). -/
def scopeAt (w : World) (location : Location) : Scope → List ObjectRef
  | .itemsHere => location.items.map .item
  | .inventory => w.player.inventory.map .inventoryItem
  | .personsHere => location.persons.map .person
  | .waysOut => location.waysOut.map .way

/-- The objects in several scopes. -/
def inScopes (w : World) (scopes : List Scope) : Except Failure (List ObjectRef) := do
  let location ← w.playerLocation
  return scopes.flatMap (w.scopeAt location)

/-- The first of the candidates that a word names (`find_by_identifier`). -/
def findNamed (w : World) (word : String) : List ObjectRef → Except Failure (Option ObjectRef)
  | [] => .ok none
  | candidate :: rest => do
    let object ← w.object candidate
    if ← Identifier.accepts object.identifiers word then return some candidate
    else w.findNamed word rest

/-- The first object in the scopes that a word names (`find_in_scopes`). -/
def search (w : World) (scopes : List Scope) (word : String) :
    Except Failure (Option ObjectRef) := do
  w.findNamed word (← w.inScopes scopes)

end World

end Adventure
