import Adventure.Play.Trigger
import Adventure.Text.Words

/-!
# Conversations

A conversation leads from layer to layer. The choices of a layer that are enabled are offered; the
player chooses one by its number, the other side answers, the actions of the choice run and the
conversation goes on in the target of the choice. It ends where no choice is offered, where a
choice has no target, with the game or when the player breaks it off. The farewell comes last, and
the actions of the talk follow. `Dialogue` holds what `run_conversation` has at hand while it waits
for the player: `Dialogue.begin` goes to the first wait and `Dialogue.hear` from one to the next.
-/

namespace Adventure

/-- Where in a conversation the player is (`ConversationPlayer`); without a layer the conversation
has ended. -/
structure Thread where
  conversation : EntityId .conversation
  layer : Option (EntityId .layer)
  deriving DecidableEq

namespace Thread

/-- The beginning of a conversation (`ConversationPlayer::start`). -/
def start (conversation : EntityId .conversation) (w : World) : Except Failure Thread := do
  let c ← w.find conversation
  return ⟨conversation, World.Conversation.startLayer c⟩

/-- Breaks the conversation off (`end`). -/
def stop (t : Thread) : Thread := { t with layer := none }

/-- The enabled ones of some choices. -/
def enabledChoices (w : World) :
    List (EntityId .choice) → Except Failure (List (EntityId .choice))
  | [] => .ok []
  | id :: ids => do
    let choice ← w.find id
    let rest ← enabledChoices w ids
    return if World.Choice.enabled choice then id :: rest else rest

/-- The choices that are offered at present (`offered_options`). -/
def offered (t : Thread) (w : World) : Except Failure (List (EntityId .choice)) :=
  match t.layer with
  | none => .ok []
  | some id => do
    let layer ← w.find id
    enabledChoices w (World.Layer.choices layer)

/-- Chooses one of the offered choices (`ConversationPlayer::choose`). What the choice was before
its actions ran decides where the conversation goes on. -/
def choose (t : Thread) (speaker : String) (id : EntityId .choice) : Act Thread := do
  let choice ← Act.find id
  if some choice.layer ≠ t.layer ∨ choice.enabled = false then
    Act.fail (.notOffered choice.symbol)
  Act.push (.speech (← Act.world).player.name choice.text)
  unless choice.answer.isEmpty do Act.push (.speech speaker choice.answer)
  Act.triggerAll choice.actions
  if choice.disableAfterChosen then
    Act.edit (Edit.change id fun c => { c with enabled := false })
  return { t with layer := choice.target }

end Thread

/-- The number that a line holds: digits, perhaps after a plus sign and between blanks. -/
def choiceNumber? (line : String) : Option Nat :=
  let digits := match Text.trim line.toList with
    | '+' :: rest => rest
    | cs => cs
  if digits ≠ [] ∧ digits.all Char.isDigit then
    some (digits.foldl (fun n d => 10 * n + (d.toNat - 48)) 0)
  else none

/-- The choice that a line names by its number, counted from one (`pick_option`). -/
def chosen? (offered : List (EntityId .choice)) (line : String) : Option (EntityId .choice) :=
  match choiceNumber? line with
  | some (n + 1) => offered[n]?
  | _ => none

/-- A conversation that waits for the player's choice. -/
structure Dialogue where
  thread : Thread
  /-- The name of the other side. -/
  speaker : String
  farewell : Option String
  offered : List (EntityId .choice)
  /-- The actions that follow the conversation. -/
  after : List (EntityId .action)

namespace Dialogue

/-- Ends a conversation. -/
def close (d : Dialogue) : Act (Option Dialogue) := do
  match d.farewell with
  | some farewell => Act.push (.speech d.speaker farewell)
  | none => pure ()
  Act.triggerAll d.after
  return none

/-- The texts of choices. -/
def choiceTexts (w : World) : List (EntityId .choice) → Except Failure (List String)
  | [] => .ok []
  | id :: ids => do
    let choice ← w.find id
    return World.Choice.text choice :: (← choiceTexts w ids)

/-- Offers the choices of the present layer, or ends the conversation if there is nothing to
choose. -/
def proceed (d : Dialogue) : Act (Option Dialogue) := do
  if (← get).isOver then d.close
  else
    let offered ← Act.look d.thread.offered
    if offered.isEmpty then d.close
    else
      let texts ← Act.look fun w => choiceTexts w offered
      Act.push (.conversationOptions (← Act.texts).chooseOption texts)
      Act.display
      return some { d with offered }

/-- Begins a conversation with a speaker, followed by actions. -/
def begin (conversation : EntityId .conversation) (speaker : String)
    (after : List (EntityId .action)) : Act (Option Dialogue) := do
  let c ← Act.find conversation
  match c.greeting with
  | some greeting => Act.push (.speech speaker greeting)
  | none => pure ()
  let thread ← Act.look (Thread.start conversation)
  proceed ⟨thread, speaker, c.farewell, [], after⟩

/-- Goes on with what the player sends. -/
def answer (d : Dialogue) : Input → Act (Option Dialogue)
  | .broken text => Act.fail (.input text)
  | .ended | .interrupt => d.close
  | .line line =>
    match chosen? d.offered line with
    | some choice => do
      let thread ← d.thread.choose d.speaker choice
      proceed { d with thread }
    | none => do
      Act.push (.actionFailure (← Act.texts).invalidChoice)
      d.proceed

/-- Logs what the player sends and goes on with it. -/
def hear (d : Dialogue) (input : Input) : Act (Option Dialogue) := do
  Act.log (.read .choice input)
  d.answer input

/-- Goes through a conversation with what the player sends, after which the input ends
(`run_conversation`). -/
def settle : Option Dialogue → List Input → Act Unit
  | none, _ => pure ()
  | some d, [] => do
    let _ ← d.hear .ended
  | some d, input :: inputs => do settle (← d.hear input) inputs

end Dialogue

end Adventure
