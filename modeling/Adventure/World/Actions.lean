import Adventure.World.Edit

/-!
# The graph of actions

An action may contain others, which may contain others in turn. Actions must not contain
themselves. A walk through the graph keeps the path that leads to where it is; since no action is
on the path twice, the number of actions bounds its length.
-/

namespace Adventure

namespace World

/-- The failure that reports an action which contains itself. -/
def cycle (w : World) (id : EntityId .action) : Failure :=
  match w.get? id with
  | some action => .cyclicActions (Action.symbol action)
  | none => .cyclicActions id.uuid.toString

/-- The actions that an action contains, if it is made up of others (`multi_children`). -/
def Action.parts? (action : Action) : Option (List (EntityId .action)) :=
  match action.effect with
  | .sequence actions => some actions
  | _ => none

/-- A depth that no path through the graph reaches. -/
def depth (w : World) : Nat := w.actions.size + 1

/-! ## Looking for cycles -/

/-- Walks through an action and all it contains (`visit`). `path` leads to the action and `clear`
are the actions that are known to contain no cycle; those that turn out so are added. -/
def visit (w : World) :
    Nat → List (EntityId .action) → List (EntityId .action) → EntityId .action →
    Except Failure (List (EntityId .action))
  | 0, _, _, id => .error (w.cycle id)
  | depth + 1, path, clear, id =>
    if clear.contains id then .ok clear
    else if path.contains id then .error (w.cycle id)
    else do
      let action ← w.find id
      match Action.parts? action with
      | none => return id :: clear
      | some parts =>
        let clear ← parts.foldlM (fun clear part => visit w depth (id :: path) clear part) clear
        return id :: clear

/-- Checks that every action contained in another one exists and that none contains itself
(`check_action_graph`). -/
def checkActions (w : World) : Except Failure Unit := do
  let _ ← w.actions.ids.foldlM (fun clear id => w.visit w.depth [] clear id) []

end World

namespace Edit

/-- Stops because an action contains itself. -/
def cycle {α : Type} (id : EntityId .action) : Edit α := look fun w => .error (w.cycle id)

/-- Sets the flag of an action and of all it contains (`propagate_enabled`). `path` leads to the
action. -/
def setEnabledFrom (value : Bool) : Nat → List (EntityId .action) → EntityId .action → Edit Unit
  | 0, _, id => cycle id
  | depth + 1, path, id => do
    if path.contains id then cycle id
    else
      change id fun action => { action with enabled := value }
      let action ← find id
      match World.Action.parts? action with
      | none => pure ()
      | some parts => parts.forM fun part => setEnabledFrom value depth (id :: path) part

/-- Sets the flag of an action and of all it contains (`set_action_enabled`). -/
def setEnabled (id : EntityId .action) (value : Bool) : Edit Unit := do
  setEnabledFrom value (← get).depth [] id

/-- Disables whatever a disabled action contains (`propagate_disabled_multis`). -/
def disableParts : Edit Unit := do
  let disabled := (← get).actions.values.filter fun action =>
    !action.enabled && (World.Action.parts? action).isSome
  disabled.forM fun action => setEnabled action.id false

end Edit

end Adventure
