/-!
# Texts of a game

What the game says when an object brings no text of its own. A text may hold placeholders for the
objects of the command.
-/

namespace Adventure

/-- The game-wide texts; the defaults are plain English. -/
structure Texts where
  noValidCommand : String := "I don't understand what you want to do."
  invalidCommand : String := "You can't do that with the <name>."
  noSuchItem : String := "There is no <identifier> here."
  noSuchInventoryItem : String := "You don't carry any <identifier>."
  noSuchPerson : String := "There is nobody called <identifier> here."
  noSuchWay : String := "You can't go to <identifier> from here."
  noSuchInspectable : String := "There is no <identifier> to look at."
  noSuchUsable : String := "There is no <identifier> you could use."
  noSuchPartner : String := "There is no <identifier2> here."
  notTakeable : String := "You can't take the <name>."
  taken : String := "You take the <name>."
  notUsable : String := "You can't use the <name>."
  used : String := "You use the <name>. Nothing happens."
  notTravelable : String := "You can't go through the <name> right now."
  moved : String := "You go through the <name>."
  inspection : String := "There is nothing special about the <name>."
  notTalking : String := "<Name> does not want to talk to you."
  noConversation : String := "<Name> has nothing to say."
  notUsableWith : String := "You can't use the <name> with the <name2>."
  usedWith : String := "You use the <name> with the <name2>. Nothing happens."
  inventoryHeader : String := "You are carrying:"
  inventoryEmpty : String := "You are not carrying anything."
  helpHeader : String := "You can use the following commands:"
  exit : String := "Goodbye!"
  gameOver : String := "The game is over."
  itemsHere : String := "You see:"
  personsHere : String := "People here:"
  waysOut : String := "Ways out:"
  chooseOption : String := "Choose an option by its number."
  invalidChoice : String := "That is not one of the options."
  deriving DecidableEq, Repr, Inhabited

end Adventure
