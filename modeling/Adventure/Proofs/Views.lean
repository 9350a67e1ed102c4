import Adventure.Proofs.Arenas
import Adventure.World.Edit

/-!
# Views of a world

A view shows of each entity only a part. Changing an entity in a way that a view does not show
leaves the view as it is (`view_put`), so what an edit keeps can be read off the parts of the
entities that it writes.

The view `frame` hides all that play may change: names, descriptions, texts, flags, places and the
references that patches rewrite. What remains, with the game's settings, is the skeleton of the
world (`skeleton`). The view `link` shows the references between persons, conversations and choices
that patches rewrite.
-/

namespace Adventure.World

variable {kind other : EntityKind}

/-! ## Entities by identifier -/

@[simp] theorem get?_empty (game : Game) (version : String) (id : EntityId kind) :
    (empty game version).get? id = none := by
  cases kind <;> rfl

theorem get?_put (w : World) (id id' : EntityId kind) (e : Entity kind) :
    (w.put id e).get? id' = if id' = id then some e else w.get? id' := by
  simp [get?, put, Arena.get?_insert]

@[simp] theorem get?_put_self (w : World) (id : EntityId kind) (e : Entity kind) :
    (w.put id e).get? id = some e := by
  simp [get?_put]

/-- Putting an entity in its own place changes nothing. -/
theorem put_eq_self {w : World} {id : EntityId kind} {e : Entity kind} (he : w.get? id = some e) :
    w.put id e = w := by
  have harena : (w.arena kind).insert id e = w.arena kind := by
    refine Arena.eq_of_get? fun id' => ?_
    rw [Arena.get?_insert]
    split
    · rename_i heq
      rw [heq]
      exact he.symm
    · rfl
  rw [put, harena]
  cases kind <;> rfl

theorem get?_put_of_ne {w : World} {id id' : EntityId kind} {e : Entity kind} (h : id' ≠ id) :
    (w.put id e).get? id' = w.get? id' := by
  simp [get?_put, h]

theorem get?_put_of_kind_ne (h : other ≠ kind) (w : World) (id : EntityId kind) (e : Entity kind)
    (id' : EntityId other) : (w.put id e).get? id' = w.get? id' := by
  simp [get?, put, arena_setArena_of_ne h]

@[simp] theorem get?_player (w : World) (p : Player) (id : EntityId kind) :
    ({ w with player := p } : World).get? id = w.get? id := by
  cases kind <;> rfl

@[simp] theorem player_put (w : World) (id : EntityId kind) (e : Entity kind) :
    (w.put id e).player = w.player := by
  cases kind <;> rfl

@[simp] theorem game_put (w : World) (id : EntityId kind) (e : Entity kind) :
    (w.put id e).game = w.game := by
  cases kind <;> rfl

@[simp] theorem version_put (w : World) (id : EntityId kind) (e : Entity kind) :
    (w.put id e).version = w.version := by
  cases kind <;> rfl

theorem find_eq_ok {w : World} {id : EntityId kind} {e : Entity kind} :
    w.find id = .ok e ↔ w.get? id = some e := by
  cases h : w.get? id <;> simp [find, h]

theorem find_of_get? {w : World} {id : EntityId kind} {e : Entity kind}
    (h : w.get? id = some e) : w.find id = .ok e :=
  find_eq_ok.2 h

/-! ## Views -/

section
variable {V : EntityKind → Type} (f : ∀ kind, Entity kind → V kind)

/-- What `f` shows of the entities of each kind. -/
def view (w : World) (kind : EntityKind) : Arena kind (V kind) := (w.arena kind).map (f kind)

@[simp] theorem get?_view (w : World) (id : EntityId kind) :
    (w.view f kind).get? id = (w.get? id).map (f kind) := by
  simp [view, get?]

@[simp] theorem view_player (w : World) (p : Player) :
    ({ w with player := p } : World).view f = w.view f := by
  funext kind
  cases kind <;> rfl

variable {f}

/-- An entity that looks like the one in whose place it is put does not change a view. -/
theorem view_put {w : World} {id : EntityId kind} {e e' : Entity kind} (he : w.get? id = some e)
    (heq : f kind e' = f kind e) : (w.put id e').view f = w.view f := by
  funext other
  by_cases h : other = kind
  · subst h
    simp only [view, put, arena_setArena]
    exact Arena.map_insert_of_eq he heq
  · simp [view, put, arena_setArena_of_ne h]

/-- In two worlds of one view an identifier leads to entities that look the same. -/
theorem get?_of_view_eq {w w' : World} (h : w'.view f = w.view f) {id : EntityId kind}
    {e' : Entity kind} (he : w'.get? id = some e') :
    ∃ e, w.get? id = some e ∧ f kind e' = f kind e := by
  have hmap : (w'.get? id).map (f kind) = (w.get? id).map (f kind) := by
    rw [← get?_view, ← get?_view, h]
  rw [he, Option.map_some] at hmap
  obtain ⟨e, he, heq⟩ := Option.map_eq_some_iff.1 hmap.symm
  exact ⟨e, he, heq.symm⟩

theorem isSome_of_view_eq {w w' : World} (h : w'.view f = w.view f) (id : EntityId kind) :
    (w'.get? id).isSome = (w.get? id).isSome := by
  have hmap : (w'.get? id).map (f kind) = (w.get? id).map (f kind) := by
    rw [← get?_view, ← get?_view, h]
  simpa using congrArg Option.isSome hmap

end

/-! ## The skeleton -/

/-- An entity without what play may change. -/
def frame : (kind : EntityKind) → Entity kind → Entity kind
  | .location, l =>
    { (l : Location) with name := "", description := "", items := [], persons := [] }
  | .way, v =>
    { (v : Way) with
      name := "", description := "", moveSuccessText := none
      inspection := { Way.inspection v with text := none } }
  | .item, i =>
    { (i : Item) with
      name := "", description := "", location := none, takeSuccessText := none
      usage := { Item.usage i with enabled := false, forbiddenText := none, successText := none }
      inspection := { Item.inspection i with text := none } }
  | .inventoryItem, i =>
    { (i : InventoryItem) with
      name := "", description := ""
      usage := { InventoryItem.usage i with
        enabled := false, forbiddenText := none, successText := none }
      inspection := { InventoryItem.inspection i with text := none }
      interactions := (InventoryItem.interactions i).map fun x =>
        { x with enabled := false, forbiddenText := none, successText := none } }
  | .person, p =>
    { (p : Person) with
      name := "", description := "", location := none
      talk := { Person.talk p with enabled := false, forbiddenText := none, conversation := none }
      inspection := { Person.inspection p with text := none } }
  | .conversation, c =>
    { (c : Conversation) with greeting := none, farewell := none, startLayer := none }
  | .layer, l => l
  | .choice, c =>
    { (c : Choice) with
      text := "", answer := "", enabled := false, disableAfterChosen := false, target := none }
  | .action, a => { (a : Action) with enabled := false, forbiddenText := none }

/-- What play never changes: the game's settings, the player's name and all entities without their
names, texts, flags, places and replaceable references. -/
structure Skeleton where
  game : Game
  version : String
  playerName : String
  entities : (kind : EntityKind) → Arena kind (Entity kind)

/-- The skeleton of a world. -/
def skeleton (w : World) : Skeleton := ⟨w.game, w.version, w.player.name, w.view frame⟩

namespace Skeleton

/-- The frame of the entity with a given identifier. -/
def get? (sk : Skeleton) (id : EntityId kind) : Option (Entity kind) := (sk.entities kind).get? id

end Skeleton

@[simp] theorem get?_skeleton (w : World) (id : EntityId kind) :
    w.skeleton.get? id = (w.get? id).map (frame kind) := by
  simp [skeleton, Skeleton.get?]

theorem skeleton_put {w : World} {id : EntityId kind} {e e' : Entity kind}
    (he : w.get? id = some e) (heq : frame kind e' = frame kind e) :
    (w.put id e').skeleton = w.skeleton := by
  simp [skeleton, view_put he heq]

/-! ## Links -/

/-- What a view of links shows of an entity of each kind. -/
@[reducible] def Link : EntityKind → Type
  | .person => Option (EntityId .conversation)
  | .conversation => Option (EntityId .layer)
  | .choice => Option (EntityId .layer)
  | _ => Unit

/-- The reference of a person to a conversation, of a conversation to its start or of a choice to
its target. -/
def link : (kind : EntityKind) → Entity kind → Link kind
  | .person, p => (Person.talk p).conversation
  | .conversation, c => Conversation.startLayer c
  | .choice, c => Choice.target c
  | .location, _ | .way, _ | .item, _ | .inventoryItem, _ | .layer, _ | .action, _ => ()

end Adventure.World
