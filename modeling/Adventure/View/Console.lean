import Adventure.Play.Basic
import Adventure.Text.Wrap
import Adventure.View.Style

/-!
# Consoles

What a terminal shows of a play: prompts in their style, and messages wrapped and in the colors of
their category, line by line.
-/

namespace Adventure.Console

/-- The lines of a text. A line ends with a line feed, perhaps after a carriage return; nothing
follows the last line end. -/
def textLines (cs : List Char) : List (List Char) :=
  match Text.splitWhen (· = '\n') cs with
  | [] => []
  | parts =>
    let ended := parts.dropLast.map fun line =>
      if line.getLast? = some '\r' then line.dropLast else line
    match parts.getLast? with
    | some [] | none => ended
    | some last => ended ++ [last]

/-- The width of lines where the terminal does not say how wide it is. -/
def defaultWidth : Nat := 80

/-- A message as it is shown. -/
def messageText (width : Nat) (color : Bool) (pair : ColorPair) (text : String) : String :=
  String.join ((textLines (Text.wrap width text).toList).map fun line =>
    (Style.message pair).paint color (String.ofList line) ++ "\n")

/-- A prompt as it is shown. -/
def promptText (color : Bool) : Prompt → String
  | .command => Style.prompt.paint color Prompt.command.text
  | .choice => Prompt.choice.text

/-- What a terminal shows of an event. -/
def eventText (width : Nat) (color : Bool) (colors : Colors) : Event → String
  | .read prompt _ => promptText color prompt
  | .line tone text => messageText width color (colors.of tone) text
  | .store .. => ""

/-- What a terminal shows of events in order. -/
def transcript (width : Nat) (color : Bool) (colors : Colors) (events : List Event) : String :=
  String.join (events.map (eventText width color colors))

/-- What is shown before a game begins, on a terminal that is cleared. -/
def opening (color : Bool) (game : Game) : String :=
  "\x1b[2J\x1b[H" ++ Style.banner color game.title game.author ++ "\n\n"

end Adventure.Console
