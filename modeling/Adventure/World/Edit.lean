import Adventure.World.Objects

/-!
# Changing a world

An edit changes a world step by step and may fail at any step; what it has changed by then stays
changed.
-/

namespace Adventure

/-- A change of a world that may fail. -/
abbrev Edit := ExceptT Failure (StateM World)

namespace Edit

variable {kind : EntityKind}

/-- Stops with a failure. -/
def fail {α : Type} (failure : Failure) : Edit α := fun w => (.error failure, w)

/-- The result of looking at the world. -/
def look {α : Type} (f : World → Except Failure α) : Edit α := fun w => (f w, w)

/-- The entity with a given identifier, which has to exist. -/
def find (id : EntityId kind) : Edit (World.Entity kind) := look (·.find id)

/-- Changes the entity with a given identifier, which has to exist. -/
def change (id : EntityId kind) (f : World.Entity kind → World.Entity kind) : Edit Unit :=
  fun w => match w.find id with
    | .ok e => (.ok (), w.put id (f e))
    | .error failure => (.error failure, w)

/-- Changes the player. -/
def changePlayer (f : World.Player → World.Player) : Edit Unit :=
  fun w => (.ok (), { w with player := f w.player })

end Edit

/-- The list with an element at its end, unless it is in the list already. -/
def addOnce {α : Type} [BEq α] (a : α) (as : List α) : List α :=
  if as.contains a then as else as ++ [a]

/-- The list without an element. -/
def remove {α : Type} [BEq α] (a : α) (as : List α) : List α := as.filter (· != a)

end Adventure
