import Adventure.Game.Verb

/-!
# Phrasings of a game

The phrasings that a game understands for every object, one list for each verb.
-/

namespace Adventure

/-- One list of templates for each verb; the defaults are plain English. -/
structure Phrasings where
  exit : List String := ["exit", "quit"]
  help : List String := ["help", "commands"]
  lookAround : List String := ["look around", "look"]
  inventory : List String := ["inventory", "inv"]
  inspect : List String := ["inspect [the ]<A>", "look at [the ]<A>", "examine [the ]<A>"]
  take : List String := ["take [the ]<A>", "pick up [the ]<A>", "get [the ]<A>"]
  talkTo : List String := ["talk to <A>", "talk with <A>", "speak with <A>"]
  move : List String := ["go to [the ]<A>", "go through [the ]<A>", "enter [the ]<A>", "go <A>"]
  use : List String := ["use [the ]<A>"]
  useWith : List String :=
    ["use [the ]<A> with [the ]<B>", "use [the ]<A> on [the ]<B>",
     "combine [the ]<A> with [the ]<B>", "combine [the ]<A> and [the ]<B>"]
  deriving DecidableEq, Repr, Inhabited

namespace Phrasings

/-- The templates of a verb (`builtin_templates`). -/
def of (p : Phrasings) : Verb → List String
  | .exit => p.exit
  | .help => p.help
  | .lookAround => p.lookAround
  | .inventory => p.inventory
  | .inspect => p.inspect
  | .take => p.take
  | .talkTo => p.talkTo
  | .move => p.move
  | .use => p.use
  | .useWith => p.useWith

/-- The phrasings with the templates of a given verb put in the place of the old ones. -/
def set (p : Phrasings) (verb : Verb) (templates : List String) : Phrasings :=
  match verb with
  | .exit => { p with exit := templates }
  | .help => { p with help := templates }
  | .lookAround => { p with lookAround := templates }
  | .inventory => { p with inventory := templates }
  | .inspect => { p with inspect := templates }
  | .take => { p with take := templates }
  | .talkTo => { p with talkTo := templates }
  | .move => { p with move := templates }
  | .use => { p with use := templates }
  | .useWith => { p with useWith := templates }

/-- The phrasings with every template changed by `f`. -/
def map (p : Phrasings) (f : String → String) : Phrasings :=
  ⟨p.exit.map f, p.help.map f, p.lookAround.map f, p.inventory.map f, p.inspect.map f,
   p.take.map f, p.talkTo.map f, p.move.map f, p.use.map f, p.useWith.map f⟩

@[simp] theorem of_set (p : Phrasings) (v : Verb) (templates : List String) :
    (p.set v templates).of v = templates := by cases v <;> rfl

@[simp] theorem of_map (p : Phrasings) (f : String → String) (v : Verb) :
    (p.map f).of v = (p.of v).map f := by cases v <;> rfl

end Phrasings

end Adventure
