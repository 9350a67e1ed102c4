import Adventure.Entity.Identifier
import Adventure.Story.Text
import Adventure.Story.Validation
import Adventure.World.Actions
import Adventure.World.OfStory

/-!
# Loading stories

A story becomes a world if it passes three gates: its symbols are sound, its phrasings,
identifiers and changes of interactions can be read, and no action contains itself. Whatever a
disabled action contains is disabled in the world.
-/

namespace Adventure

/-- What is wrong with the texts that an author wrote. -/
inductive AuthoringFault
  /-- One of the game's own phrasings is no template. -/
  | phrasing (verb : Verb) (template : String) (cause : TemplateError)
  /-- A phrasing of the object with the given name is no template. -/
  | objectPhrasing (verb : Verb) (template : String) (cause : TemplateError) (owner : String)
  /-- The identifiers of the object with the given symbol cannot be read. -/
  | identifiers (cause : Failure) (owner : String)
  /-- An action changes an interaction that the inventory item does not have. -/
  | undeclaredInteraction (action item partner : String)
  deriving DecidableEq

/-- How a fault is reported. -/
def AuthoringFault.message : AuthoringFault → String
  | phrasing verb template cause => (Failure.badTemplate verb template cause).message
  | objectPhrasing verb template cause owner =>
    (Failure.badTemplate verb template cause).message ++ " (on '" ++ owner ++ "')"
  | identifiers cause owner => cause.message ++ " (on '" ++ owner ++ "')"
  | undeclaredInteraction action item partner =>
    "action '" ++ action ++ "' changes an interaction of '" ++ item ++ "' with '" ++ partner
      ++ "' that is not declared"

/-- Why a story does not become a world. -/
inductive LoadError
  /-- There is no text, or it does not write a story. -/
  | unreadable
  | story (faults : List Story.Fault)
  | authoring (faults : List AuthoringFault)
  | actions (cause : Failure)
  | disabling (cause : Failure)
  | start (cause : Failure)
  deriving DecidableEq

namespace LoadError

/-- The texts as a list with hyphens. -/
def itemize (texts : List String) : String := "\n".intercalate (texts.map ("- " ++ ·))

/-- How the error is reported. -/
def message : LoadError → String
  | unreadable => "while loading worlddef from file"
  | story faults => "worlddef validation failed:\n" ++ itemize (faults.map (·.message))
  | authoring faults =>
    "world authoring check failed:\n" ++ itemize (Text.sorted (faults.map (·.message)))
  | actions _ => "while checking action graph"
  | disabling _ => "while propagating disabled actions"
  | start cause => cause.message

/-- The failure behind the error, if one is. -/
def cause? : LoadError → Option Failure
  | actions cause => some cause
  | disabling cause => some cause
  | start cause => some cause
  | _ => none

end LoadError

namespace World

/-- Faults of templates of a verb. -/
def badTemplates (verb : Verb) (fault : String → TemplateError → AuthoringFault)
    (templates : List String) : List AuthoringFault :=
  templates.filterMap fun template =>
    match Template.parse? verb.arity template with
    | .ok _ => none
    | .error cause => some (fault template cause)

/-- Faults in the phrasings of a verb. -/
def phrasingFaults (w : World) (verb : Verb) : List AuthoringFault :=
  badTemplates verb (.phrasing verb) (w.game.phrasings.of verb)
    ++ (w.phrasingSources verb).flatMap fun (owner, templates) =>
      badTemplates verb (fun t cause => .objectPhrasing verb t cause (w.objectName owner)) templates

/-- All objects that have identifiers, with their symbols. -/
def namedObjects (w : World) : List (String × List String) :=
  w.items.values.map (fun i => (i.symbol, i.identifiers))
    ++ w.inventoryItems.values.map (fun i => (i.symbol, i.identifiers))
    ++ w.persons.values.map (fun p => (p.symbol, p.identifiers))
    ++ w.ways.values.map (fun v => (v.symbol, v.identifiers))

/-- Faults in the identifiers of objects. -/
def identifierFaults (w : World) : List AuthoringFault :=
  w.namedObjects.filterMap fun (symbol, identifiers) =>
    match Identifier.compile identifiers with
    | .ok _ => none
    | .error cause => some (.identifiers cause symbol)

end World

namespace Story

/-- Whether an inventory item is defined with an interaction with a partner. -/
def declares (s : Story) (item : String) (partner : Partner) : Bool :=
  match s.inventoryItems.find? fun i => i.symbol = item with
  | some i => i.interactions.any fun x => x.partner = partner
  | none => false

/-- Changes of interactions that are not defined. -/
def interactionFaults (s : Story) : List AuthoringFault :=
  s.actions.filterMap fun a =>
    match a.effect with
    | .changeInteraction item partner _ =>
      if s.declares item partner then none
      else some (.undeclaredInteraction a.symbol item partner.symbol)
    | _ => none

end Story

namespace World

/-- All faults in what an author wrote, given the world of the story (`check_authoring`). -/
def authoringFaults (w : World) (s : Story) : List AuthoringFault :=
  Verb.inOrder.flatMap w.phrasingFaults ++ w.identifierFaults ++ s.interactionFaults

/-- The world of a story that passes all gates (`build_world`). -/
def load (s : Story) : Except LoadError World := do
  let faults := s.faults
  if faults ≠ [] then throw (.story faults)
  let w := ofStory s
  let faults := w.authoringFaults s
  if faults ≠ [] then throw (.authoring faults)
  match w.checkActions with
  | .error cause => throw (.actions cause)
  | .ok () => pure ()
  match Edit.disableParts w with
  | (.error cause, _) => throw (.disabling cause)
  | (.ok (), w) =>
    match w.playerLocation with
    | .error cause => throw (.start cause)
    | .ok _ => return w

/-- The world of the story that a text writes. -/
def ofText? (text : String) : Except LoadError World :=
  match Story.ofText? text with
  | some story => load story
  | none => .error .unreadable

end World

end Adventure
