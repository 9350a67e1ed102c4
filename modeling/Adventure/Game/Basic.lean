import Adventure.Game.Colors
import Adventure.Game.Phrasings
import Adventure.Game.Texts

/-!
# Games

What a game brings besides its world: its title, its opening and closing words, the phrasings it
understands, its texts and its colors.
-/

namespace Adventure

/-- The game-wide settings. -/
structure Game where
  title : String := ""
  author : String := ""
  startText : String := ""
  endText : Option String := none
  phrasings : Phrasings := {}
  texts : Texts := {}
  colors : Colors := {}
  deriving DecidableEq, Repr, Inhabited

end Adventure
