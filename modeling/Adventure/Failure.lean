import Adventure.Command.Template
import Adventure.Game.Verb
import Adventure.Entity.Id

/-!
# Failures

What can go wrong while a game is played. A failure means that the world is not sound, that the
store refuses to work or that the input broke; mistakes of the player are answered in the game and
are no failures.
-/

namespace Adventure

/-- The causes for which play stops. -/
inductive Failure
  /-- An identifier that no entity of its kind has. -/
  | unknownEntity (kind : EntityKind) (id : Uuid)
  /-- An action that contains itself. -/
  | cyclicActions (symbol : String)
  /-- A line that matches a pattern without a word for one of its captures. -/
  | missingCapture (verb : Verb) (line group : String)
  /-- A phrasing that is no template for its verb. -/
  | badTemplate (verb : Verb) (template : String) (cause : TemplateError)
  /-- The templates of a verb make up an expression that the engine refuses. -/
  | badPattern (verb : Verb)
  /-- A fragment that does not identify anything. -/
  | badIdentifier (identifier : String)
  /-- A choice that the conversation does not offer at present. -/
  | notOffered (choice : String)
  /-- A start layer that belongs to another conversation. -/
  | foreignStartLayer (layer : EntityId .layer) (conversation : String)
  /-- A target layer that belongs to another conversation. -/
  | foreignTarget (layer choice : String)
  /-- An inventory item that has no interaction with a given partner. -/
  | noInteraction (item partner : String)
  /-- The store did not accept the world. -/
  | store (text : String)
  /-- The input broke while a line of a conversation was awaited. -/
  | input (text : String)
  /-- The input broke while a command was awaited. -/
  | commandInput
  deriving DecidableEq

/-- How a failure is reported. -/
def Failure.message : Failure → String
  | unknownEntity kind id =>
    "no " ++ kind.label ++ " with id " ++ id.toString ++ " exists in the world"
  | cyclicActions symbol => "action graph contains a cycle through '" ++ symbol ++ "'"
  | missingCapture verb line group =>
    verb.label ++ " pattern matched '" ++ line ++ "' but capture group '" ++ group
      ++ "' is missing"
  | badTemplate verb template cause =>
    verb.label ++ " template '" ++ template ++ "' is invalid: " ++ cause.message
  | badPattern verb =>
    "compiled " ++ verb.label ++ " pattern was rejected by the regex engine: <regex error>"
  | badIdentifier identifier =>
    "identifier '" ++ identifier ++ "' is not a valid pattern: <regex error>"
  | notOffered choice => "option '" ++ choice ++ "' is not offered right now"
  | foreignStartLayer layer conversation =>
    "layer " ++ layer.uuid.toString ++ " does not belong to conversation '" ++ conversation ++ "'"
  | foreignTarget layer choice =>
    "layer '" ++ layer ++ "' does not belong to the conversation of option '" ++ choice ++ "'"
  | noInteraction item partner =>
    "inventory item '" ++ item ++ "' has no interaction with '" ++ partner ++ "'"
  | store text => text
  | input text => text
  | commandInput => "while reading player input"

end Adventure
