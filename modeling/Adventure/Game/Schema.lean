import Adventure.Game.Basic
import Adventure.Schema.Basic

/-!
# Layout of the game's settings

Phrasings, texts and colors may be left out one by one. A story may leave out any setting, a saved
world holds them all.
-/

namespace Adventure

open Cases Fields

/-- Colors go by their names. -/
def Color.schema : Schema Color :=
  .via
    (.choice <| .bare "Plain" <| .bare "Black" <| .bare "Red" <| .bare "Green"
      <| .bare "Yellow" <| .bare "Blue" <| .bare "Magenta" <| .bare "Cyan"
      <| .bare "White" <| .bare "BrightBlack" <| .bare "BrightRed" <| .bare "BrightGreen"
      <| .bare "BrightYellow" <| .bare "BrightBlue" <| .bare "BrightMagenta"
      <| .bare "BrightCyan" <| .bare "BrightWhite" .done)
    (fun
      | at0 _ => .plain | at1 _ => .black | at2 _ => .red | at3 _ => .green
      | past4 (at0 _) => .yellow | past4 (at1 _) => .blue | past4 (at2 _) => .magenta
      | past4 (at3 _) => .cyan
      | past4 (past4 (at0 _)) => .white | past4 (past4 (at1 _)) => .brightBlack
      | past4 (past4 (at2 _)) => .brightRed | past4 (past4 (at3 _)) => .brightGreen
      | past4 (past4 (past4 (at0 _))) => .brightYellow
      | past4 (past4 (past4 (at1 _))) => .brightBlue
      | past4 (past4 (past4 (at2 _))) => .brightMagenta
      | past4 (past4 (past4 (at3 _))) => .brightCyan
      | past4 (past4 (past4 (past4 (at0 _)))) => .brightWhite)
    (fun
      | .plain => at0 () | .black => at1 () | .red => at2 () | .green => at3 ()
      | .yellow => past4 (at0 ()) | .blue => past4 (at1 ()) | .magenta => past4 (at2 ())
      | .cyan => past4 (at3 ())
      | .white => past4 (past4 (at0 ())) | .brightBlack => past4 (past4 (at1 ()))
      | .brightRed => past4 (past4 (at2 ())) | .brightGreen => past4 (past4 (at3 ()))
      | .brightYellow => past4 (past4 (past4 (at0 ())))
      | .brightBlue => past4 (past4 (past4 (at1 ())))
      | .brightMagenta => past4 (past4 (past4 (at2 ())))
      | .brightCyan => past4 (past4 (past4 (at3 ())))
      | .brightWhite => past4 (past4 (past4 (past4 (at0 ())))))
    (fun c => by cases c <;> rfl)

def ColorPair.schema : Schema ColorPair :=
  .via
    (.record "ColorPairDef"
      <| withDefault "foreground" Color.schema .plain
      <| withDefault "background" Color.schema .plain .done)
    (fun (foreground, background, ()) => ⟨foreground, background⟩)
    (fun p => (p.foreground, p.background, ()))
    (fun _ => rfl)

def Colors.schema : Schema Colors :=
  let d : Colors := {}
  .via
    (.record "ColorsDef"
      <| withDefault "success" ColorPair.schema d.success
      <| withDefault "neutral" ColorPair.schema d.neutral
      <| withDefault "failure" ColorPair.schema d.failure .done)
    (fun (success, neutral, failure, ()) => ⟨success, neutral, failure⟩)
    (fun c => (c.success, c.neutral, c.failure, ()))
    (fun _ => rfl)

def Phrasings.schema : Schema Phrasings :=
  let d : Phrasings := {}
  let templates : Schema (List String) := .list .text
  .via
    (.record "CommandsDef"
      <| withDefault "exit" templates d.exit
      <| withDefault "help" templates d.help
      <| withDefault "look_around" templates d.lookAround
      <| withDefault "inventory" templates d.inventory
      <| withDefault "inspect" templates d.inspect
      <| withDefault "take" templates d.take
      <| withDefault "talk_to" templates d.talkTo
      <| withDefault "move_to" templates d.move
      <| withDefault "use_item" templates d.use
      <| withDefault "use_with_combine" templates d.useWith .done)
    (fun (exit, help, look, inventory, inspect, take, talk, move, use, useWith, ()) =>
      ⟨exit, help, look, inventory, inspect, take, talk, move, use, useWith⟩)
    (fun p => (p.exit, p.help, p.lookAround, p.inventory, p.inspect, p.take, p.talkTo, p.move,
      p.use, p.useWith, ()))
    (fun _ => rfl)

def Texts.schema : Schema Texts :=
  let d : Texts := {}
  .via
    (.record "TextsDef"
      <| withDefault "no_valid_command" .text d.noValidCommand
      <| withDefault "invalid_command" .text d.invalidCommand
      <| withDefault "no_such_item" .text d.noSuchItem
      <| withDefault "no_such_inventory_item" .text d.noSuchInventoryItem
      <| withDefault "no_such_person" .text d.noSuchPerson
      <| withDefault "no_such_way" .text d.noSuchWay
      <| withDefault "no_such_inspectable" .text d.noSuchInspectable
      <| withDefault "no_such_usable" .text d.noSuchUsable
      <| withDefault "no_such_partner" .text d.noSuchPartner
      <| withDefault "not_takeable" .text d.notTakeable
      <| withDefault "taken" .text d.taken
      <| withDefault "not_usable" .text d.notUsable
      <| withDefault "used" .text d.used
      <| withDefault "not_travelable" .text d.notTravelable
      <| withDefault "moved" .text d.moved
      <| withDefault "inspection" .text d.inspection
      <| withDefault "not_talking" .text d.notTalking
      <| withDefault "no_conversation" .text d.noConversation
      <| withDefault "not_usable_with" .text d.notUsableWith
      <| withDefault "used_with" .text d.usedWith
      <| withDefault "inventory_header" .text d.inventoryHeader
      <| withDefault "inventory_empty" .text d.inventoryEmpty
      <| withDefault "help_header" .text d.helpHeader
      <| withDefault "exit" .text d.exit
      <| withDefault "game_over" .text d.gameOver
      <| withDefault "items_here" .text d.itemsHere
      <| withDefault "persons_here" .text d.personsHere
      <| withDefault "ways_out" .text d.waysOut
      <| withDefault "choose_option" .text d.chooseOption
      <| withDefault "invalid_choice" .text d.invalidChoice .done)
    (fun (noValidCommand, invalidCommand, noSuchItem, noSuchInventoryItem, noSuchPerson,
        noSuchWay, noSuchInspectable, noSuchUsable, noSuchPartner, notTakeable, taken, notUsable,
        used, notTravelable, moved, inspection, notTalking, noConversation, notUsableWith,
        usedWith, inventoryHeader, inventoryEmpty, helpHeader, exit, gameOver, itemsHere,
        personsHere, waysOut, chooseOption, invalidChoice, ()) =>
      ⟨noValidCommand, invalidCommand, noSuchItem, noSuchInventoryItem, noSuchPerson,
        noSuchWay, noSuchInspectable, noSuchUsable, noSuchPartner, notTakeable, taken, notUsable,
        used, notTravelable, moved, inspection, notTalking, noConversation, notUsableWith,
        usedWith, inventoryHeader, inventoryEmpty, helpHeader, exit, gameOver, itemsHere,
        personsHere, waysOut, chooseOption, invalidChoice⟩)
    (fun t => (t.noValidCommand, t.invalidCommand, t.noSuchItem, t.noSuchInventoryItem,
      t.noSuchPerson, t.noSuchWay, t.noSuchInspectable, t.noSuchUsable, t.noSuchPartner,
      t.notTakeable, t.taken, t.notUsable, t.used, t.notTravelable, t.moved, t.inspection,
      t.notTalking, t.noConversation, t.notUsableWith, t.usedWith, t.inventoryHeader,
      t.inventoryEmpty, t.helpHeader, t.exit, t.gameOver, t.itemsHere, t.personsHere, t.waysOut,
      t.chooseOption, t.invalidChoice, ()))
    (fun _ => rfl)

/-- The layout of a record of settings with a given name; where `lenient` each may be left out. -/
def Game.schema (name : String) (lenient : Bool) : Schema Game :=
  let orElse {α : Type} (default : α) : Option α := if lenient then some default else none
  .via
    (.record name
      <| .field "title" .text (orElse "")
      <| .field "author" .text (orElse "")
      <| .field "start_text" .text (orElse "")
      <| optional "end_text" .text
      <| .field "commands" Phrasings.schema (orElse {})
      <| .field "texts" Texts.schema (orElse {})
      <| .field "colors" Colors.schema (orElse {}) .done)
    (fun (title, author, startText, endText, phrasings, texts, colors, ()) =>
      ⟨title, author, startText, endText, phrasings, texts, colors⟩)
    (fun g => (g.title, g.author, g.startText, g.endText, g.phrasings, g.texts, g.colors, ()))
    (fun _ => rfl)

end Adventure
