import Adventure.Play.Handlers

/-!
# Sessions

A session is a play together with what it waits for: a command, a choice in a conversation, or
nothing more. `Session.start` opens the game, `Session.step` takes one input and carries the play
on to the next wait, and `Session.run` takes all inputs in order, after which the input ends. So the
loop of `run_repl` is cut at each `read_line`, in the loop itself and in `run_conversation`. A
command is done when all its actions have run and, if it began one, its conversation is over; then
the messages are shown and the store commits.
-/

namespace Adventure

/-- What a session waits for. -/
inductive Phase
  | command
  | choice (dialogue : Dialogue)
  /-- The session is over, perhaps because of a failure. -/
  | over (failure : Option Failure)

/-- A play and what it waits for. -/
structure Session where
  play : Play
  phase : Phase

namespace Session

/-- Ends a command. -/
def finishCommand : Act Phase := do
  Act.display
  Act.tell .commit
  return if (← get).isOver then .over none else .command

/-- Waits for a choice, or ends the command if there is none to make. -/
def continueCommand : Option Dialogue → Act Phase
  | some d => return .choice d
  | none => finishCommand

/-- Goes on with a command that the player sends. Blank lines are no commands. -/
def takeCommand : Input → Act Phase
  | .broken _ => Act.fail .commandInput
  | .ended => do
    Act.exit
    Act.display
    Act.tell .commit
    return .over none
  | .interrupt => do
    Act.push (.engineMessage "Command canceled.")
    Act.display
    return .command
  | .line line =>
    if line.toList.all Unicode.isWhitespace then return .command
    else do continueCommand (← Act.execute line)

/-- Goes on with what the player sends. -/
def takeInput (input : Input) : Phase → Act Phase
  | .command => do
    Act.log (.read .command input)
    takeCommand input
  | .choice d => do continueCommand (← d.hear input)
  | .over failure => return .over failure

/-- The session after an act; a failure ends it. -/
def ofAct (act : Act Phase) (play : Play) : Session :=
  match act play with
  | (.ok phase, play) => ⟨play, phase⟩
  | (.error failure, play) => ⟨play, .over (some failure)⟩

/-- Opens the game: its first words and the place where the player is. -/
def opening : Act Phase := do
  let w ← Act.world
  unless w.game.startText.isEmpty do Act.push (.engineMessage w.game.startText)
  Act.describe
  Act.display
  return .command

/-- The session at the beginning of a game. -/
def start (world : World) (store : Store) : Session := ofAct opening { world, store }

/-- The session after an input. -/
def step (s : Session) (input : Input) : Session :=
  match s.phase with
  | .over _ => s
  | phase => ofAct (takeInput input phase) s.play

/-- Each step is the act of taking the input, also where the session is over: there the act does
nothing. -/
theorem step_eq (s : Session) (input : Input) :
    s.step input = ofAct (takeInput input s.phase) s.play := by
  obtain ⟨play, _ | d | failure⟩ := s <;> rfl

theorem step_over {s : Session} {failure : Option Failure} (h : s.phase = .over failure)
    (input : Input) : s.step input = s := by
  rw [step, h]

/-- The session after all inputs (`run_repl`). The end of the input ends a conversation and then the
game. -/
def run (s : Session) (inputs : List Input) : Session :=
  (inputs ++ [Input.ended, Input.ended]).foldl step s

/-- The failure that ended the session. -/
def failure? (s : Session) : Option Failure :=
  match s.phase with
  | .over failure => failure
  | _ => none

/-- What has happened in the session, in order. -/
def events (s : Session) : List Event := s.play.log.reverse

end Session

end Adventure
