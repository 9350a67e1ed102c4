import Adventure.Game.Colors

/-!
# View items

What a command has to tell the player, before it is put into lines. An item belongs to a category
of messages, which decides its colors, and has at least one line.
-/

namespace Adventure

/-- One message to the player (`ViewItem`). -/
inductive ViewItem
  | actionSuccess (text : String)
  | actionFailure (text : String)
  /-- A word led to nothing within reach. -/
  | entityNotFound (text : String)
  | unknownCommand (text : String)
  | locationDescription (name description : String)
  | objectDescription (name text : String)
  | listing (header : String) (entries : List String)
  /-- What can be typed, by the labels of the verbs. -/
  | help (header : String) (commands : List (String × List String))
  | speech (speaker text : String)
  | conversationOptions (question : String) (choices : List String)
  | engineMessage (text : String)
  | gameEnded (text : String)
  | error (text : String)
  deriving DecidableEq, Repr

namespace ViewItem

/-- The category of the message (`ViewItem::kind`). -/
def tone : ViewItem → Tone
  | actionSuccess _ => .success
  | actionFailure _ | entityNotFound _ | unknownCommand _ | error _ => .failure
  | locationDescription .. | objectDescription .. | listing .. | help .. | speech ..
  | conversationOptions .. | engineMessage _ | gameEnded _ => .neutral

/-- Texts with their numbers, which begin with `n`. -/
def numbered (n : Nat) : List String → List String
  | [] => []
  | text :: rest => ("  " ++ toString n ++ ". " ++ text) :: numbered (n + 1) rest

/-- The lines of the message (`ViewItem::lines`). -/
def lines : ViewItem → List String
  | actionSuccess text | actionFailure text | entityNotFound text | unknownCommand text
  | engineMessage text | gameEnded text | error text => [text]
  | locationDescription name description =>
    ("[" ++ name ++ "]") :: if description.isEmpty then [] else [description]
  | objectDescription _ text => [text]
  | listing header entries => header :: entries.map ("  - " ++ ·)
  | help header commands =>
    header :: commands.map fun (label, templates) =>
      "  " ++ label ++ ": " ++ " | ".intercalate templates
  | speech speaker text => [speaker ++ ": " ++ text]
  | conversationOptions question choices => question :: numbered 1 choices

end ViewItem

end Adventure
