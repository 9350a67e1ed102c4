import Adventure.Proofs.Steps
import Adventure.Proofs.Views
import Adventure.World.Apply

/-!
# Single edits

What the elementary edits do to a world: a look leaves it as it is, a change of an entity puts
another one in its place, and flags of actions are set by changes along the graph of actions
(`Edit.moves_setEnabled`). Two worlds are compared by what a view shows of them (`Alike`) or by
their skeletons (`SameSkeleton`).
-/

namespace Adventure

namespace World

variable {V : EntityKind → Type} {f : ∀ kind, Entity kind → V kind}

/-- Two worlds that look the same and have the same player and settings. -/
structure Alike (f : ∀ kind, Entity kind → V kind) (w w' : World) : Prop where
  view : w'.view f = w.view f
  player : w'.player = w.player
  game : w'.game = w.game
  version : w'.version = w.version

instance : Std.Refl (Alike f) := ⟨fun _ => ⟨rfl, rfl, rfl, rfl⟩⟩

instance : IsTrans World (Alike f) :=
  ⟨fun _ _ _ h h' => ⟨h'.view.trans h.view, h'.player.trans h.player, h'.game.trans h.game,
    h'.version.trans h.version⟩⟩

theorem Alike.put {w : World} {kind : EntityKind} {id : EntityId kind} {e e' : Entity kind}
    (he : w.get? id = some e) (heq : f kind e' = f kind e) : Alike f w (w.put id e') :=
  ⟨view_put he heq, player_put .., game_put .., version_put ..⟩

/-- Two worlds with the same skeleton. -/
def SameSkeleton (w w' : World) : Prop := w'.skeleton = w.skeleton

instance : Std.Refl SameSkeleton := ⟨fun _ => rfl⟩

instance : IsTrans World SameSkeleton := ⟨fun _ _ _ h h' => Eq.trans h' h⟩

theorem Alike.sameSkeleton {w w' : World} (h : Alike frame w w') : SameSkeleton w w' := by
  rw [SameSkeleton, skeleton, skeleton, h.game, h.version, h.player, h.view]

theorem exists_of_sameSkeleton {w w' : World} {kind : EntityKind} (h : SameSkeleton w w')
    {id : EntityId kind} (he : ∃ e, w.get? id = some e) : ∃ e, w'.get? id = some e := by
  have hsome : (w'.get? id).isSome = (w.get? id).isSome :=
    isSome_of_view_eq (congrArg Skeleton.entities h) id
  rwa [← Option.isSome_iff_exists, hsome, Option.isSome_iff_exists]

/-- The actions that an action contains can be read off its frame. -/
theorem parts?_of_frame_eq {a b : Action} (h : frame .action a = frame .action b) :
    a.parts? = b.parts? := by
  have := congrArg Action.effect h
  rw [Action.parts?, Action.parts?, show a.effect = b.effect from this]

theorem depth_of_skeleton_eq {w w' : World} (h : SameSkeleton w w') : w'.depth = w.depth := by
  have hids : (w'.skeleton.entities .action).ids = (w.skeleton.entities .action).ids := by rw [h]
  simp only [skeleton, view, Arena.ids_map] at hids
  have hsize : ∀ arena : Arena .action Action, arena.size = arena.ids.length := by
    intro arena
    simp [Arena.size, Arena.ids]
  have := congrArg List.length hids
  simp only [depth, hsize]
  exact congrArg (· + 1) this

end World

namespace Edit

open Steps World

variable {kind : EntityKind} {V : EntityKind → Type} {f : ∀ kind, Entity kind → V kind}

/-! ## Single edits -/

theorem find_present {w : World} {id : EntityId kind} {e : Entity kind} (he : w.get? id = some e) :
    find id w = (.ok e, w) := by
  simp [find, look, find_of_get? he]

theorem find_absent {w : World} {id : EntityId kind} (he : w.get? id = none) :
    (find id : Edit (Entity kind)) w = (.error (.unknownEntity kind id.uuid), w) := by
  simp [find, look, World.find, he]

theorem change_eq {w : World} {id : EntityId kind} {g : Entity kind → Entity kind}
    {e : Entity kind} (he : w.get? id = some e) : change id g w = (.ok (), w.put id (g e)) := by
  simp [change, World.find, he]

theorem change_absent {w : World} {id : EntityId kind} (g : Entity kind → Entity kind)
    (he : w.get? id = none) : change id g w = (.error (.unknownEntity kind id.uuid), w) := by
  simp [change, World.find, he]

theorem find_bind_eq {α : Type} {w : World} {id : EntityId kind} {e : Entity kind}
    (f : Entity kind → Edit α) (he : w.get? id = some e) : (find id >>= f) w = f e w :=
  bind_of_ok (find_present he)

theorem find_bind_of_none {α : Type} {w : World} {id : EntityId kind} (f : Entity kind → Edit α)
    (he : w.get? id = none) :
    (find id >>= f) w = (.error (.unknownEntity kind id.uuid), w) :=
  bind_of_error (find_absent he)

/-- What follows a look for an entity succeeds only where the entity exists. -/
theorem exists_of_find_bind {α : Type} {w w' : World} {id : EntityId kind}
    {f : Entity kind → Edit α} {a : α} (h : (find id >>= f) w = (.ok a, w')) :
    ∃ e, w.get? id = some e ∧ f e w = (.ok a, w') := by
  cases he : w.get? id with
  | none =>
    rw [find_bind_of_none f he] at h
    cases h
  | some e => exact ⟨e, rfl, (find_bind_eq f he).symm.trans h⟩

theorem exists_of_change {w w' : World} {id : EntityId kind} {g : Entity kind → Entity kind}
    (h : change id g w = (.ok (), w')) : ∃ e, w.get? id = some e ∧ w.put id (g e) = w' := by
  cases he : w.get? id with
  | none =>
    rw [change_absent g he] at h
    cases h
  | some e =>
    rw [change_eq he] at h
    exact ⟨e, rfl, (Prod.mk.inj h).2⟩

section
variable {R : World → World → Prop} [Std.Refl R]

theorem moves_look {α : Type} (g : World → Except Failure α) : Moves R (look g) :=
  fun w => refl_of R w

theorem moves_find (id : EntityId kind) : Moves R (find id) := moves_look _

theorem moves_fail {α : Type} (failure : Failure) : Moves R (fail failure : Edit α) :=
  fun w => refl_of R w

theorem moves_cycle {α : Type} (id : EntityId .action) : Moves R (cycle id : Edit α) :=
  moves_look _

/-- What follows a look for an entity matters only where the entity exists. -/
theorem find_bind_at {α : Type} {w : World} {id : EntityId kind} {f : Entity kind → Edit α}
    (h : ∀ e, w.get? id = some e → R w (f e w).2) : R w ((find id >>= f) w).2 := by
  cases he : w.get? id with
  | none => rw [find_bind_of_none f he]; exact refl_of R w
  | some e => rw [find_bind_eq f he]; exact h e he

theorem moves_find_bind {α : Type} {id : EntityId kind} {f : Entity kind → Edit α}
    (h : ∀ w e, w.get? id = some e → R w (f e w).2) : Moves R (find id >>= f) :=
  fun w => find_bind_at (h w)

/-- A change passes where it passes for every world that has the entity. -/
theorem moves_change {id : EntityId kind} {g : Entity kind → Entity kind}
    (h : ∀ w e, w.get? id = some e → R w (w.put id (g e))) : Moves R (change id g) := by
  intro w
  cases he : w.get? id with
  | none => rw [change_absent g he]; exact refl_of R w
  | some e => rw [change_eq he]; exact h w e he

end

theorem alike_change {id : EntityId kind} {g : Entity kind → Entity kind}
    (h : ∀ e, f kind (g e) = f kind e) : Moves (Alike f) (change id g) :=
  moves_change fun _ e he => .put he (h e)

/-! ## Flags of actions -/

section
variable {R : World → World → Prop} [Std.Refl R] [IsTrans World R]

theorem moves_setEnabledFrom {value : Bool}
    (h : ∀ id : EntityId .action, Moves R (change id fun a => { a with enabled := value })) :
    ∀ (depth : Nat) (path : List (EntityId .action)) (id : EntityId .action),
      Moves R (setEnabledFrom value depth path id)
  | 0, _, id => moves_cycle id
  | depth + 1, path, id => by
    refine .ite (moves_cycle id) ?_
    refine (h id).bind fun _ => (moves_find id).bind fun action => ?_
    split
    · exact .pure _
    · exact .forM _ fun part _ => moves_setEnabledFrom h depth (id :: path) part

theorem moves_setEnabled {value : Bool}
    (h : ∀ id : EntityId .action, Moves R (change id fun a => { a with enabled := value }))
    (id : EntityId .action) : Moves R (setEnabled id value) :=
  Moves.get.bind fun w => moves_setEnabledFrom h w.depth [] id

theorem moves_changeOwnAction {forbidden : Option String}
    (hflag : ∀ (value : Bool) (id : EntityId .action),
      Moves R (change id fun a => { a with enabled := value }))
    (htext : ∀ id : EntityId .action,
      Moves R (change id fun a => { a with forbiddenText := forbidden.or a.forbiddenText }))
    (id : EntityId .action) (enabling : Toggle) :
    Moves R (changeOwnAction id enabling forbidden) := by
  unfold changeOwnAction
  cases enabling.target? with
  | none => exact htext id
  | some value => exact (moves_setEnabled (hflag value) id).bind fun _ => htext id

theorem moves_disableParts
    (h : ∀ id : EntityId .action, Moves R (change id fun a => { a with enabled := false })) :
    Moves R disableParts :=
  Moves.get.bind fun _ => .forM _ fun a _ => moves_setEnabled h a.id

end

/-! ## Relocations and interactions -/

/-- A patched interaction differs from the old one in its flag and its texts only. -/
theorem map_changeFirst {α β : Type} {p : α → Bool} {g : α → α} {view : α → β}
    (h : ∀ a, view (g a) = view a) :
    ∀ as : List α, (changeFirst p g as).map view = as.map view
  | [] => rfl
  | a :: as => by
    unfold changeFirst
    split
    · simp [h]
    · simp [map_changeFirst h as]

end Edit

end Adventure
