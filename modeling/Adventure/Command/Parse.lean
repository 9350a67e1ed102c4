import Adventure.Command.Cache
import Adventure.Game.Phrasings

/-!
# Commands

A line of input is put into normal form and tried on the verbs in order, on the game's own
phrasings of a verb before those that objects add. The first match is the command.
-/

namespace Adventure

/-- A line of input as a command (`ParsedCommand`). -/
structure Command where
  verb : Verb
  /-- Whether one of the game's own phrasings matched. -/
  common : Bool
  /-- The line in normal form. -/
  input : String
  parameters : List Parameter
  deriving DecidableEq, Repr

namespace Command

/-- The word for the first object, empty if the verb names none. -/
def first (command : Command) : String := (command.parameters[0]?.map (·.value)).getD ""

/-- The word for the second object, empty if the verb names fewer than two. -/
def second (command : Command) : String := (command.parameters[1]?.map (·.value)).getD ""

/-- The parameters that a line has for a pattern, if there is one and the line matches. -/
def readOff (pattern : Option Pattern) (input : String) :
    Except Failure (Option (List Parameter)) :=
  match pattern with
  | some pattern => pattern.read input
  | none => .ok none

/-- The command that a line in normal form is for a verb with given patterns. -/
def ofPatterns? (verb : Verb) (patterns : PatternSet) (input : String) :
    Except Failure (Option Command) := do
  match ← readOff patterns.builtin input with
  | some parameters => return some ⟨verb, true, input, parameters⟩
  | none =>
    let parameters ← readOff patterns.custom input
    return parameters.map fun parameters => ⟨verb, false, input, parameters⟩

/-- Tries a line in normal form on the given verbs in turn. -/
def parseFrom (phrasings : Phrasings) (custom : Verb → List String) (input : String) :
    List Verb → PatternCache → Except Failure (Option Command) × PatternCache
  | [], cache => (.ok none, cache)
  | verb :: verbs, cache =>
    match cache.patterns verb (phrasings.of verb) (custom verb) with
    | (.error failure, cache) => (.error failure, cache)
    | (.ok patterns, cache) =>
      match ofPatterns? verb patterns input with
      | .error failure => (.error failure, cache)
      | .ok (some command) => (.ok (some command), cache)
      | .ok none => parseFrom phrasings custom input verbs cache

/-- The command that a line is, if it is one, and the cache after the call (`parse_input`). `custom`
are the phrasings that objects add to a verb. -/
def parse (phrasings : Phrasings) (custom : Verb → List String) (line : String)
    (cache : PatternCache) : Except Failure (Option Command) × PatternCache :=
  let input := Text.normalize line
  if input.isEmpty then (.ok none, cache)
  else parseFrom phrasings custom input Verb.inOrder cache

/-- Whether an object with phrasings of its own answers to the command (`object_accepts`). The
game's own phrasings hold for every object; another phrasing has to be one of the object's. -/
def acceptedBy (command : Command) (phrasings : List String) : Except Failure Bool :=
  if command.common then .ok true
  else (Pattern.build command.verb phrasings).map fun pattern =>
    (pattern.bind (·.match? command.input)).isSome

end Command

end Adventure
