import Adventure.Play.Basic
import Adventure.World.Apply

/-!
# Triggering actions

An action that is made up of others runs them in order, whether it is enabled or not; any other
action takes effect only if it is enabled, and the store is told at once. Each action sees what
those before it have changed.
-/

namespace Adventure.Act

/-- Says how the game ends: with the text of the action, of the game or the general one
(`end_game`). -/
def closingText (game : Game) (text : Option String) : String :=
  (text.or game.endText).getD game.texts.gameOver

/-- Lets an effect happen (`execute_action`). -/
def perform (effect : Effect EntityId ObjectRef) : Act Unit := do
  edit (Edit.apply effect)
  match effect with
  | .endGame text =>
    push (.gameEnded (closingText (← world).game text))
    finish .gameOver
  | _ => pure ()

/-- Notes that an action has taken effect in a world. -/
def note (action : World.Action) (before : World) : Act Unit := fun p =>
  (.ok (), { p with deeds := ⟨action, before, p.log.length⟩ :: p.deeds })

/-- Lets an action take effect. -/
def enact (action : World.Action) : Act Unit := do
  let before ← world
  perform action.effect
  note action before

/-- Runs an action that is not made up of others. -/
def runSingle (action : World.Action) : Act Unit :=
  if action.enabled then do
    enact action
    tell .flush
  else pure ()

/-- Runs an action and all it contains (`trigger_nested`). `path` leads to the action and `depth`
bounds how much further a path can lead. -/
def triggerFrom : Nat → List (EntityId .action) → EntityId .action → Act Unit
  | 0, _, id => look fun w => .error (w.cycle id)
  | depth + 1, path, id => do
    if path.contains id then look fun w => .error (w.cycle id)
    else
      let action ← find id
      match World.Action.parts? action with
      | some parts => parts.forM fun part => triggerFrom depth (id :: path) part
      | none => runSingle action

/-- Runs an action and all it contains (`trigger_action`). -/
def trigger (id : EntityId .action) : Act Unit := do
  triggerFrom (← world).depth [] id

/-- Runs actions in order (`trigger_actions`). -/
def triggerAll (ids : List (EntityId .action)) : Act Unit := ids.forM trigger

@[simp] theorem triggerAll_nil : triggerAll [] = pure () := rfl

@[simp] theorem triggerAll_cons (id : EntityId .action) (ids : List (EntityId .action)) :
    triggerAll (id :: ids) = (do trigger id; triggerAll ids) := rfl

end Adventure.Act
