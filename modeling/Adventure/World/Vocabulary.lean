import Adventure.Text.Words
import Adventure.World.Objects

/-!
# Vocabulary

The words with which commands begin: of each template the part before its first group or marker,
unless this is a mere particle.
-/

namespace Adventure

/-- What a template begins with, before its first group or marker (`lead_in`). -/
def Template.leadIn (template : String) : String :=
  String.ofList (Text.trim (template.toList.takeWhile fun c => c != '[' && c != '<'))

/-- Words that say nothing about a command. -/
def particles : List String := ["", "a", "an", "and", "at", "on", "the", "to", "with"]

/-- The templates of a verb, the game's own before those that objects add. -/
def World.templates (w : World) (verb : Verb) : List String :=
  w.game.phrasings.of verb ++ w.customPhrasings verb

/-- The words with which commands begin, as a set (`command_terms`). -/
def World.vocabulary (w : World) : List String :=
  Text.sortedSet (((Verb.inOrder.flatMap w.templates).map Template.leadIn).filter
    fun word => !particles.contains word)

end Adventure
