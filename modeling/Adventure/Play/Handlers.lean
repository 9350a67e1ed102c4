import Adventure.Command.Parse
import Adventure.Play.Conversation
import Adventure.Text.Placeholder
import Adventure.World.Search

/-!
# Handling commands

What each verb does. A handler first looks for the object that the player named. If there is none,
or if the phrasing is one that other objects added, it says so and changes nothing. Otherwise it
says what comes of the attempt and then runs the actions that belong to it; these run whether the
attempt succeeds or not.
-/

namespace Adventure.Act

open Text (Subject fillPlaceholders)

/-! ## Messages -/

/-- Says that a word leads to nothing (`entity_not_found`). -/
def notFound (text : Texts → String) (word : String) : Act Unit := do
  push (.entityNotFound (fillPlaceholders (text (← texts)) (some (.unresolved word)) none))

/-- Says that an object does not answer to a phrasing that others have added
(`capability_mismatch`). -/
def refuse (subject : Subject) : Act Unit := do
  push (.actionFailure (fillPlaceholders (← texts).invalidCommand (some subject) none))

/-- Says what comes of an attempt (`push_outcome`). -/
def report (allowed : Bool) (text : String) (first : Subject) (second : Option Subject) :
    Act Unit :=
  let filled := fillPlaceholders text (some first) second
  push (if allowed then .actionSuccess filled else .actionFailure filled)

/-- What to say of an attempt: the object's own text if it has one, otherwise the game's
(`own_or_default`). -/
def outcomeText (allowed : Bool) (success forbidden : Option String)
    (generalSuccess generalFailure : String) : String :=
  if allowed then success.getD generalSuccess else forbidden.getD generalFailure

/-- Whether an object with phrasings of its own answers to the command (`object_accepts`). -/
def accepts (command : Command) (phrasings : List String) : Act Bool :=
  look fun _ => command.acceptedBy phrasings

/-! ## Looking -/

/-- The names of entities. -/
def namesOf {kind : EntityKind} (name : World.Entity kind → String) (w : World) :
    List (EntityId kind) → Except Failure (List String)
  | [] => .ok []
  | id :: ids => do
    let e ← w.find id
    return name e :: (← namesOf name w ids)

/-- Lists names under a header, unless there are none. -/
def list (header : String) (names : List String) : Act Unit :=
  if names.isEmpty then pure () else push (.listing header names)

/-- Describes the place where the player is and what is in it (`describe_location`). -/
def describe : Act Unit := do
  let location ← look World.playerLocation
  push (.locationDescription location.name location.description)
  let items ← look fun w => namesOf World.Item.name w location.items
  let persons ← look fun w => namesOf World.Person.name w location.persons
  let ways ← look fun w => namesOf World.Way.name w location.waysOut
  let texts ← texts
  list texts.itemsHere items
  list texts.personsHere persons
  list texts.waysOut ways

/-- Lists what the player carries (`inventory_handler`). -/
def inventory : Act Unit := do
  let carried := (← world).player.inventory
  if carried.isEmpty then push (.engineMessage (← texts).inventoryEmpty)
  else
    let names ← look fun w => namesOf World.InventoryItem.name w carried
    push (.listing (← texts).inventoryHeader names)

/-- Lists the verbs that are understood, each with the game's own phrasings (`help_handler`). -/
def help : Act Unit := do
  let w ← world
  push (.help w.game.texts.helpHeader
    ((Verb.inOrder.filter w.understands).map fun v => (v.label, w.game.phrasings.of v)))

/-- Leaves the game (`exit_handler`). -/
def exit : Act Unit := do
  push (.engineMessage (← texts).exit)
  finish .quit

/-- Looks at an object closely (`inspect_handler`). -/
def inspect (command : Command) : Act Unit := do
  let word := command.first
  match ← look (·.search [.itemsHere, .inventory, .personsHere, .waysOut] word) with
  | none => notFound Texts.noSuchInspectable word
  | some ref =>
    let object ← look (·.object ref)
    let inspection := (← look (·.inspection ref)).getD {}
    let subject : Subject := ⟨word, object.name⟩
    if ← accepts command inspection.phrasings then
      unless object.description.isEmpty do
        push (.objectDescription object.name object.description)
      let text := inspection.text.getD (← texts).inspection
      push (.objectDescription object.name (fillPlaceholders text (some subject) none))
      triggerAll inspection.actions
    else refuse subject

/-! ## Doing -/

/-- Takes an item. -/
def takeItem (command : Command) (id : EntityId .item) : Act Unit := do
  let item ← find id
  let subject : Subject := ⟨command.first, item.name⟩
  if ← accepts command item.takePhrasings then
    let action ← find item.takeAction
    let texts ← texts
    report action.enabled (outcomeText action.enabled item.takeSuccessText action.forbiddenText
      texts.taken texts.notTakeable) subject none
    trigger item.takeAction
    triggerAll item.takeActions
  else refuse subject

/-- Takes an item that lies where the player is (`take_handler`). -/
def take (command : Command) : Act Unit := do
  match ← look (·.search [.itemsHere] command.first) with
  | some (.item id) => takeItem command id
  | _ => notFound Texts.noSuchItem command.first

/-- Goes through a way. The new place is described if the player comes to another one. -/
def moveThrough (command : Command) (id : EntityId .way) : Act Unit := do
  let way ← find id
  let subject : Subject := ⟨command.first, way.name⟩
  if ← accepts command way.movePhrasings then
    let action ← find way.moveAction
    let texts ← texts
    report action.enabled (outcomeText action.enabled way.moveSuccessText action.forbiddenText
      texts.moved texts.notTravelable) subject none
    let origin := (← world).player.location
    trigger way.moveAction
    if (← world).player.location ≠ origin then describe
    triggerAll way.moveActions
  else refuse subject

/-- Goes through a way that leads out of where the player is (`move_handler`). -/
def move (command : Command) : Act Unit := do
  match ← look (·.search [.waysOut] command.first) with
  | some (.way id) => moveThrough command id
  | _ => notFound Texts.noSuchWay command.first

/-- Uses an object that has the given name and usage. -/
def useObject (command : Command) (name : String) (usage : Usage EntityId) : Act Unit := do
  let subject : Subject := ⟨command.first, name⟩
  if ← accepts command usage.phrasings then
    let texts ← texts
    report usage.enabled (outcomeText usage.enabled usage.successText usage.forbiddenText
      texts.used texts.notUsable) subject none
    triggerAll usage.actions
  else refuse subject

/-- Uses an item that lies where the player is or that they carry (`use_handler`). -/
def use (command : Command) : Act Unit := do
  match ← look (·.search [.itemsHere, .inventory] command.first) with
  | some (.item id) => do
    let item ← find id
    useObject command item.name item.usage
  | some (.inventoryItem id) => do
    let item ← find id
    useObject command item.name item.usage
  | _ => notFound Texts.noSuchUsable command.first

/-! ## Using one object with another -/

/-- The first of some interactions that answers to the command (`find_interaction`). -/
def firstAccepting (command : Command) :
    List (Interaction EntityId ObjectRef) →
    Except Failure (Option (Interaction EntityId ObjectRef))
  | [] => .ok none
  | i :: rest => do
    if ← command.acceptedBy i.phrasings then return some i else firstAccepting command rest

/-- The interactions between an inventory item and another object: that of the first one and, if
the other is an inventory item, that of the other one. -/
def interactionsBetween (w : World) (first : EntityId .inventoryItem) (second : ObjectRef) :
    Except Failure (List (Interaction EntityId ObjectRef)) := do
  let item ← w.find first
  let own := (World.InventoryItem.interactionWith item second).toList
  match second with
  | .inventoryItem id =>
    let other ← w.find id
    return own ++ (World.InventoryItem.interactionWith other (.inventoryItem first)).toList
  | _ => return own

/-- What an inventory item can be used with: the others that the player carries, then the items
and persons where the player is. -/
def partners (w : World) (first : EntityId .inventoryItem) : Except Failure (List ObjectRef) := do
  let carried ← w.inScopes [.inventory]
  let here ← w.inScopes [.itemsHere, .personsHere]
  return carried.filter (· ≠ .inventoryItem first) ++ here

/-- Uses an inventory item with another object. -/
def usePair (command : Command) (first : EntityId .inventoryItem) (second : ObjectRef) :
    Act Unit := do
  let w ← world
  let subjects : Subject × Subject :=
    (⟨command.first, w.objectName (.inventoryItem first)⟩, ⟨command.second, w.objectName second⟩)
  let interaction ← look fun w => do
    firstAccepting command (← interactionsBetween w first second)
  let texts ← texts
  match interaction with
  | none => report false texts.notUsableWith subjects.1 subjects.2
  | some i =>
    report i.enabled (outcomeText i.enabled i.successText i.forbiddenText texts.usedWith
      texts.notUsableWith) subjects.1 subjects.2
    triggerAll i.actions

/-- Uses an inventory item that the player carries with another object (`use_with_handler`). -/
def useWith (command : Command) : Act Unit := do
  match ← look (·.search [.inventory] command.first) with
  | some (.inventoryItem first) =>
    let candidates ← look (partners · first)
    match ← look (·.findNamed command.second candidates) with
    | some second => usePair command first second
    | none =>
      push (.entityNotFound (fillPlaceholders (← texts).noSuchPartner
        (some (.unresolved command.first)) (some (.unresolved command.second))))
  | _ => notFound Texts.noSuchInventoryItem command.first

/-! ## Talking -/

/-- Talks to a person; without a conversation there is nothing to wait for. -/
def talkWith (command : Command) (id : EntityId .person) : Act (Option Dialogue) := do
  let person ← find id
  let subject : Subject := ⟨command.first, person.name⟩
  if ← accepts command person.talk.phrasings then
    let texts ← texts
    if person.talk.enabled then
      match person.talk.conversation with
      | some conversation => Dialogue.begin conversation person.name person.talk.actions
      | none =>
        push (.engineMessage (fillPlaceholders texts.noConversation (some subject) none))
        triggerAll person.talk.actions
        return none
    else
      report false (person.talk.forbiddenText.getD texts.notTalking) subject none
      triggerAll person.talk.actions
      return none
  else
    refuse subject
    return none

/-- Talks to a person who is where the player is (`talk_to_handler`). -/
def talkTo (command : Command) : Act (Option Dialogue) := do
  match ← look (·.search [.personsHere] command.first) with
  | some (.person id) => talkWith command id
  | _ =>
    notFound Texts.noSuchPerson command.first
    return none

/-! ## Lines -/

/-- The command that a line is, if it is one (`parse_input`). -/
def parse (line : String) : Act (Option Command) := fun p =>
  let r := Command.parse p.world.game.phrasings p.world.customPhrasings line p.cache
  (r.1, { p with cache := r.2 })

/-- Carries out a command. The result is the conversation that waits for the player, if the
command has begun one. -/
def carryOut (command : Command) : Act (Option Dialogue) :=
  match command.verb with
  | .exit => do exit; return none
  | .help => do help; return none
  | .lookAround => do describe; return none
  | .inventory => do inventory; return none
  | .inspect => do inspect command; return none
  | .take => do take command; return none
  | .talkTo => talkTo command
  | .move => do move command; return none
  | .useWith => do useWith command; return none
  | .use => do use command; return none

/-- Carries out the command that a line is (`execute_command`). -/
def execute (line : String) : Act (Option Dialogue) := do
  match ← parse line with
  | none =>
    push (.unknownCommand (← texts).noValidCommand)
    return none
  | some command => carryOut command

end Adventure.Act
