import Adventure.Proofs.Atomicity
import Adventure.Proofs.DisabledParts
import Adventure.Proofs.Histories
import Adventure.Proofs.Offers
import Adventure.Proofs.SafeCommands
import Adventure.Proofs.SoundStories

/-!
# Taking and going

An item is taken and a way is gone through by an action that belongs to it. Its flag is read twice,
once for what is said and once when the action is triggered, and nothing comes between that could
set it (`Act.trigger_say`). In a world that has come from a story the action is still the one that
the item or the way was made with, so what is said agrees with what is done, and the additional
actions run on what has come of it (`Act.carryOut_attempt`).
-/

namespace Adventure

open World Steps

/-! ## Attempts -/

namespace Play

/-- The play after an attempt that an action decides, with what is said of it. If the action is
enabled, it has taken effect and the store has been told of the world. -/
def attempted (p : Play) (action : World.Action) (text : String) : Play :=
  if action.enabled then
    { p.say [.actionSuccess text] with
      world := (Edit.apply action.effect p.world).2
      log := .store .flush (Edit.apply action.effect p.world).2 none :: p.log
      deeds := ⟨action, p.world, p.log.length⟩ :: p.deeds }
  else p.say [.actionFailure text]

theorem world_attempted (p : Play) (action : World.Action) (text : String) :
    (p.attempted action text).world =
      if action.enabled then (Edit.apply action.effect p.world).2 else p.world := by
  unfold attempted
  split <;> rfl

theorem store_attempted (p : Play) (action : World.Action) (text : String) :
    (p.attempted action text).store = p.store := by
  unfold attempted
  split <;> rfl

theorem intact_attempted {base : World} {p : Play} (hw : Intact base p.world)
    (action : World.Action) (text : String) : Intact base (p.attempted action text).world := by
  rw [world_attempted]
  split
  · exact hw.keeps (Edit.keeps_apply action.effect p.world)
  · exact hw

end Play

namespace Act

variable {p : Play}

/-- What is said of an attempt. -/
def verdict (allowed : Bool) (text : String) : ViewItem :=
  if allowed then .actionSuccess text else .actionFailure text

/-- An action that is not made up of others runs on its own. -/
theorem trigger_eq_runSingle {id : EntityId .action} {action : World.Action}
    (hfound : p.world.get? id = some action) (hsingle : action.parts? = none) :
    trigger id p = runSingle action p := by
  change triggerFrom (p.world.actions.size + 1) [] id p = _
  rw [triggerFrom, if_neg (by simp), bind_of_ok (find_present hfound)]
  simp [hsingle]

/-- What has been said of an attempt comes true when the action is triggered. -/
theorem trigger_say {id : EntityId .action} {action : World.Action}
    (hfound : p.world.get? id = some action) (hsingle : action.parts? = none)
    (hends : ∀ text, action.effect ≠ .endGame text)
    (happly : action.enabled = true → (Edit.apply action.effect p.world).1 = .ok ())
    (haccepts : ∀ calls call, p.store.refusal? calls call = none) (text : String) :
    trigger id (p.say [verdict action.enabled text]) = (.ok (), p.attempted action text) := by
  have hsaid : (p.say [verdict action.enabled text]).world.get? id = some action := hfound
  rw [trigger_eq_runSingle hsaid hsingle, runSingle]
  cases henabled : action.enabled with
  | false =>
    rw [Play.attempted, henabled]
    rfl
  | true =>
    have hwords : closingWords p.world.game action.effect = [] := by
      cases heffect : action.effect with
      | endGame text => exact absurd heffect (hends text)
      | _ => rfl
    have hstatus : p.status.after action.effect = p.status := by
      cases heffect : action.effect with
      | endGame text => exact absurd heffect (hends text)
      | _ => rfl
    have henact := enact_of_ok (p := p.say [.actionSuccess text]) (happly henabled)
    rw [if_pos rfl, Play.attempted, henabled, if_pos rfl]
    refine (bind_of_ok henact).trans ?_
    simp [Play.say, hwords, hstatus, tell, haccepts]

end Act

/-! ## What the actions of items and ways do -/

namespace Edit

variable {base w : World}

/-- Whoever receives inventory items has them then, besides what they had before. -/
theorem addInventoryItems_spec :
    ∀ {ids : List (EntityId .inventoryItem)} {w w' : World},
      addInventoryItems ids w = (.ok (), w') →
      (∀ id : EntityId .item, w'.get? id = w.get? id) ∧
        ∀ id, id ∈ w'.player.inventory ↔ id ∈ w.player.inventory ∨ id ∈ ids
  | [], w, w', h => by
    cases h
    simp
  | first :: ids, w, w', h => by
    obtain ⟨i, hi⟩ := addInventoryItems_ok_iff.1 ⟨w', h⟩ first (by simp)
    rw [addInventoryItems_cons hi] at h
    obtain ⟨hitems, hcarried⟩ := addInventoryItems_spec h
    refine ⟨fun id => by rw [hitems, get?_player], fun id => ?_⟩
    rw [hcarried, mem_addOnce, List.mem_cons, or_assoc]

/-- An item that is removed is nowhere. -/
theorem removeItem_spec {id : EntityId .item} {item : Item} (h : Placed .items w)
    (hitem : w.get? id = some item) :
    ∃ w', removeItem id w = (.ok (), w') ∧ w'.get? id = some { item with location := none } := by
  obtain ⟨w₁, hlift, -, hget, -⟩ := lift_spec h hitem (Seating.items.setPlace item none)
  refine ⟨w₁, ?_, hget⟩
  rw [removeItem_eq, relocate, find_bind_eq _ hitem, bind_of_ok (change_eq hitem),
    bind_of_ok hlift]
  rfl

/-- An item that is taken leaves its location, if it is to, and the player has what it grants. -/
theorem takeItem_spec {id : EntityId .item} {grants : List (EntityId .inventoryItem)}
    (hw : Intact base w) (hid : base.Has id) (hgrants : base.HasAll grants) (leave : Bool) :
    ∃ w', takeItem id leave grants w = (.ok (), w') ∧
      (leave = true → ∃ item : Item, w'.get? id = some item ∧ item.location = none) ∧
      ∀ grant ∈ grants, grant ∈ w'.player.inventory := by
  obtain ⟨item, hitem⟩ := hw.has hid
  obtain ⟨_, w', htake, -⟩ := safe_takeItem hid hgrants leave w hw
  obtain ⟨w₁, hadd, hgone⟩ : ∃ w₁, addInventoryItems grants w₁ = (.ok (), w') ∧
      (leave = true → w₁.get? id = some { item with location := none }) := by
    rw [takeItem, find_bind_eq _ hitem] at htake
    cases leave with
    | false => exact ⟨w, htake, nofun⟩
    | true =>
      obtain ⟨w₁, hremove, hgone⟩ := removeItem_spec hw.placed.items hitem
      exact ⟨w₁, (bind_of_ok hremove).symm.trans htake, fun _ => hgone⟩
  obtain ⟨hitems, hcarried⟩ := addInventoryItems_spec hadd
  refine ⟨w', htake, fun hleave => ⟨_, (hitems id).trans (hgone hleave), rfl⟩,
    fun grant hgrant => ?_⟩
  exact (hcarried grant).2 (.inr hgrant)

theorem movePlayer_spec {id : EntityId .way} {way : Way} {l : Location}
    (hway : w.get? id = some way) (hl : w.get? way.destination = some l) :
    movePlayer id w
      = (.ok (), { w with player := { w.player with location := way.destination } }) := by
  rw [movePlayer, find_bind_eq _ hway, find_bind_eq _ hl]
  rfl

end Edit

namespace World

variable {s : Story} {w : World} (hs : s.Sound) (hd : s.DistinctIds) (hw : Intact (ofStory s) w)
include hs hd hw

/-- An item is still taken as it was defined. -/
theorem exists_itemOf {id : EntityId .item} {item : Item} (hitem : w.get? id = some item) :
    ∃ d ∈ s.items, id = idOf d.symbol ∧ item.takeAction = takeActionId d ∧
      item.takeActions = d.taking.actions.map idOf := by
  have hhas : w.Has id := ⟨item, hitem⟩
  obtain ⟨item₀, hitem₀⟩ := hw.has_base hhas
  obtain ⟨d, hmem, heq⟩ := List.mem_map.1 ((get?_ofStory hs hd).1 hitem₀)
  obtain ⟨hid, he⟩ := Prod.mk.inj heq
  have hframe := hw.frame_eq hitem₀ hitem
  rw [← he] at hframe
  have haction := congrArg Item.takeAction hframe
  have hactions := congrArg Item.takeActions hframe
  exact ⟨d, hmem, hid.symm, haction, hactions⟩

/-- A way is still gone through as it was defined. -/
theorem exists_wayOf {id : EntityId .way} {way : Way} (hway : w.get? id = some way) :
    ∃ d ∈ s.ways, id = idOf d.symbol ∧ way.moveAction = moveActionId d ∧
      way.moveActions = d.moving.actions.map idOf := by
  have hhas : w.Has id := ⟨way, hway⟩
  obtain ⟨way₀, hway₀⟩ := hw.has_base hhas
  obtain ⟨d, hmem, heq⟩ := List.mem_map.1 ((get?_ofStory hs hd).1 hway₀)
  obtain ⟨hid, he⟩ := Prod.mk.inj heq
  have hframe := hw.frame_eq hway₀ hway
  rw [← he] at hframe
  have haction := congrArg Way.moveAction hframe
  have hactions := congrArg Way.moveActions hframe
  exact ⟨d, hmem, hid.symm, haction, hactions⟩

/-- An action that belongs to a story still has the effect that it was made with. -/
theorem exists_action {a : Action} (ha : a ∈ actionsOf s) :
    ∃ action : Action, w.get? a.id = some action ∧ action.effect = a.effect := by
  have hget : (ofStory s).get? a.id = some a := get?_action hs hd ha
  have hhas : (ofStory s).Has a.id := ⟨a, hget⟩
  obtain ⟨action, haction⟩ := hw.has hhas
  have heffect := congrArg Action.effect (hw.frame_eq hget haction)
  exact ⟨action, haction, heffect⟩

end World

/-- The item is where taking it leaves it, and the player has what it grants. -/
structure World.Taken (d : Story.Item) (w : World) : Prop where
  left : d.taking.removeItem = true →
    ∃ item : Item, w.get? (idOf d.symbol : EntityId .item) = some item ∧ item.location = none
  unlisted : d.taking.removeItem = true → ∀ at', ¬Seating.items.Lists w at' (idOf d.symbol)
  granted : ∀ symbol ∈ d.taking.grants, idOf symbol ∈ w.player.inventory

section

variable {s : Story} {w : World} (hs : s.Sound) (hd : s.DistinctIds) (hbase : (ofStory s).Sound)
  (hw : Intact (ofStory s) w)
include hs hd hbase hw

theorem Edit.apply_take {d : Story.Item} (hmem : d ∈ s.items) :
    ∃ w', apply (takeActionOf d).effect w = (.ok (), w') ∧ Intact (ofStory s) w' ∧ Taken d w' := by
  have hget : (ofStory s).get? (takeActionOf d).id = some (takeActionOf d) :=
    get?_action hs hd (mem_actionsOf.2 (.inr (.inr ⟨d, hmem, rfl⟩)))
  have hfits : (ofStory s).EffectFits (takeActionOf d).effect :=
    hbase.entities .action _ (takeActionOf d) hget
  obtain ⟨w', htake, hleft, hgranted⟩ := takeItem_spec hw hfits.1 hfits.2 d.taking.removeItem
  have hkeeps := keeps_apply (takeActionOf d).effect w
  have happly : apply (takeActionOf d).effect w = (.ok (), w') := htake
  rw [happly] at hkeeps
  have hw' : Intact (ofStory s) w' := hw.keeps hkeeps
  refine ⟨w', happly, hw', hleft, fun hleave at' hlists => ?_, fun symbol hsymbol => ?_⟩
  · obtain ⟨item, hitem, hnone⟩ := hleft hleave
    cases hnone.symm.trans ((hw'.placed.items.lists_iff hitem at').1 hlists)
  · exact hgranted _ (List.mem_map.2 ⟨symbol, hsymbol, rfl⟩)

theorem Edit.apply_move {d : Story.Way} (hmem : d ∈ s.ways) :
    apply (moveActionOf d).effect w
      = (.ok (), { w with player := { w.player with location := idOf d.destination } }) := by
  have hhas : (ofStory s).Has (idOf d.symbol : EntityId .way) := ⟨wayOf d, get?_way hs hd hmem⟩
  obtain ⟨way, hway⟩ := hw.has hhas
  have hdestination := congrArg Way.destination (hw.frame_eq (get?_way hs hd hmem) hway)
  replace hdestination : Way.destination way = idOf d.destination := hdestination
  have hfits : WayFits (ofStory s) (frame .way way) := hw.fits hbase hway
  obtain ⟨l, hl⟩ := hw.has hfits.destination
  rw [← hdestination]
  exact movePlayer_spec hway hl

end

/-! ## What is said of a place -/

namespace Act

variable {base : World} {p : Play}

/-- The message that lists names, unless there are none. -/
def listed (header : String) (names : List String) : List ViewItem :=
  if names.isEmpty then [] else [.listing header names]

theorem list_eq (header : String) (names : List String) (p : Play) :
    list header names p = (.ok (), p.say (listed header names)) := by
  unfold list listed
  split
  · simp [Play.say]
  · rfl

/-- In an intact world the place where the player is can be described. -/
theorem describe_ok (hs : base.Sound) (hw : Intact base p.world) :
    ∃ l lists, p.world.get? p.world.player.location = some l ∧
      describe p = (.ok (), p.say (.locationDescription l.name l.description :: lists)) := by
  obtain ⟨l, hl⟩ := hw.placed.here
  have hways : p.world.HasAll (Location.waysOut l) := fun id hid => hw.has (hw.waysOut hs hl id hid)
  obtain ⟨items, hitems⟩ := namesOf_ok Item.name (hw.placed.items.has hl)
  obtain ⟨persons, hpersons⟩ := namesOf_ok Person.name (hw.placed.persons.has hl)
  obtain ⟨ways, hways⟩ := namesOf_ok Way.name hways
  refine ⟨l, listed p.world.game.texts.itemsHere items ++
    listed p.world.game.texts.personsHere persons ++ listed p.world.game.texts.waysOut ways, hl, ?_⟩
  replace hitems : namesOf Item.name p.world (Location.items l) = .ok items := hitems
  replace hpersons : namesOf Person.name p.world (Location.persons l) = .ok persons := hpersons
  simp only [describe, bind_eq, look, playerLocation_eq hl, push, texts, list_eq, hitems, hpersons,
    hways, Play.say, List.append_assoc, List.cons_append, List.nil_append]

/-! ## Handlers -/

/-- What is said when the player takes an item whose action is the given one. -/
def takeText (w : World) (command : Command) (item : Item) (action : Action) : String :=
  Text.fillPlaceholders (outcomeText action.enabled item.takeSuccessText action.forbiddenText
    w.game.texts.taken w.game.texts.notTakeable) (some ⟨command.first, item.name⟩) none

/-- What is said when the player goes through a way whose action is the given one. -/
def moveText (w : World) (command : Command) (way : Way) (action : Action) : String :=
  Text.fillPlaceholders (outcomeText action.enabled way.moveSuccessText action.forbiddenText
    w.game.texts.moved w.game.texts.notTravelable) (some ⟨command.first, way.name⟩) none

variable {command : Command}

theorem takeItem_eq {id : EntityId .item} {item : Item} {action : Action}
    (hitem : p.world.get? id = some item)
    (hanswers : command.acceptedBy item.takePhrasings = .ok true)
    (haction : p.world.get? item.takeAction = some action) :
    takeItem command id p = (do trigger item.takeAction; triggerAll item.takeActions)
      (p.say [verdict action.enabled (takeText p.world command item action)]) := by
  have haccepts : accepts command item.takePhrasings p = (.ok true, p) := by
    rw [accepts, look, hanswers]
  rw [takeItem, bind_of_ok (find_present hitem), bind_of_ok haccepts, if_pos rfl,
    bind_of_ok (find_present haction)]
  rfl

theorem moveThrough_eq {id : EntityId .way} {way : Way} {action : Action}
    (hway : p.world.get? id = some way)
    (hanswers : command.acceptedBy way.movePhrasings = .ok true)
    (haction : p.world.get? way.moveAction = some action) :
    moveThrough command id p = (do
        trigger way.moveAction
        if (← world).player.location ≠ p.world.player.location then describe
        triggerAll way.moveActions)
      (p.say [verdict action.enabled (moveText p.world command way action)]) := by
  have haccepts : accepts command way.movePhrasings p = (.ok true, p) := by
    rw [accepts, look, hanswers]
  rw [moveThrough, bind_of_ok (find_present hway), bind_of_ok haccepts, if_pos rfl,
    bind_of_ok (find_present haction)]
  rfl

theorem carryOut_take {id : EntityId .item} (hverb : command.verb = .take)
    (hfound : p.world.search [.itemsHere] command.first = .ok (some (.item id))) :
    carryOut command p = (do takeItem command id; return none : Act (Option Dialogue)) p := by
  have hlook : look (·.search [.itemsHere] command.first) p = (.ok (some (.item id)), p) := by
    rw [look, hfound]
  have htake : take command p = takeItem command id p := bind_of_ok hlook
  simp only [carryOut, hverb, bind_eq, htake]

theorem carryOut_move {id : EntityId .way} (hverb : command.verb = .move)
    (hfound : p.world.search [.waysOut] command.first = .ok (some (.way id))) :
    carryOut command p = (do moveThrough command id; return none : Act (Option Dialogue)) p := by
  have hlook : look (·.search [.waysOut] command.first) p = (.ok (some (.way id)), p) := by
    rw [look, hfound]
  have hmove : move command p = moveThrough command id p := bind_of_ok hlook
  simp only [carryOut, hverb, bind_eq, hmove]

/-- What is said of the place to which the player has come, if it is another one than before. -/
def Arrives (p q : Play) (items : List ViewItem) : Prop :=
  if q.world.player.location = p.world.player.location then items = []
  else ∃ l lists, q.world.get? q.world.player.location = some l ∧
    items = .locationDescription l.name l.description :: lists ∧
    describe q = (.ok (), q.say items)

/-- The place to which the player has come is described before anything else happens. -/
theorem exists_arrives {base : World} (hs : base.Sound) (p : Play) {q : Play}
    (hw : Intact base q.world) (rest : Act Unit) : ∃ items, Arrives p q items ∧
      (do
        if (← world).player.location ≠ p.world.player.location then describe
        rest : Act Unit) q = rest (q.say items) := by
  by_cases hstays : q.world.player.location = p.world.player.location
  · refine ⟨[], by simp [Arrives, hstays], ?_⟩
    refine (bind_of_ok (show world q = (.ok q.world, q) from rfl)).trans ?_
    simp [hstays, Play.say]
  · obtain ⟨l, lists, hl, hdescribe⟩ := describe_ok hs hw
    refine ⟨.locationDescription l.name l.description :: lists, ?_, ?_⟩
    · rw [Arrives, if_neg hstays]
      exact ⟨l, lists, hl, rfl, hdescribe⟩
    · refine (bind_of_ok (show world q = (.ok q.world, q) from rfl)).trans ?_
      rw [if_pos hstays]
      exact bind_of_ok hdescribe

/-! ## Commands -/

section

variable {s : Story} (hs : s.Sound) (hd : s.DistinctIds) (hbase : (ofStory s).Sound)
  (hw : Intact (ofStory s) p.world) (haccepts : ∀ calls call, p.store.refusal? calls call = none)
include hs hd hw haccepts

/-- Whatever is said of an attempt, the action of the story that is triggered then does what it was
made to do if it is enabled, and nothing otherwise. -/
theorem trigger_own {a : Action} (ha : a ∈ actionsOf s) (hsingle : a.parts? = none)
    (hends : ∀ text, a.effect ≠ .endGame text) {w' : World}
    (happly : Edit.apply a.effect p.world = (.ok (), w')) :
    ∃ action : Action, p.world.get? a.id = some action ∧ action.effect = a.effect ∧ ∀ text,
      (action.enabled = true → (p.attempted action text).world = w') ∧
      trigger a.id (p.say [verdict action.enabled text]) = (.ok (), p.attempted action text) := by
  obtain ⟨action, haction, heffect⟩ := exists_action hs hd hw ha
  rw [← heffect] at happly hends
  have hown : action.parts? = none := by rwa [Action.parts?, heffect]
  refine ⟨action, haction, heffect, fun text => ⟨fun henabled => ?_, ?_⟩⟩
  · rw [Play.world_attempted, if_pos henabled, happly]
  · exact trigger_say haction hown hends (fun _ => congrArg Prod.fst happly) haccepts text

include hbase in
/-- What is said of an item that the player takes agrees with what happens to it. -/
theorem takeItem_attempt {id : EntityId .item} {item : Item} (hitem : p.world.get? id = some item)
    (hanswers : command.acceptedBy item.takePhrasings = .ok true) :
    ∃ d ∈ s.items, ∃ action q p', id = idOf d.symbol ∧
      p.world.get? item.takeAction = some action ∧
      Action.effect action = .take id d.taking.removeItem (d.taking.grants.map idOf) ∧
      q = p.attempted action (takeText p.world command item action) ∧
      (Action.enabled action = true →
        Edit.apply (Action.effect action) p.world = (.ok (), q.world) ∧ Taken d q.world) ∧
      triggerAll (d.taking.actions.map idOf) q = (.ok (), p') ∧
      takeItem command id p = (.ok (), p') := by
  obtain ⟨d, hmem, rfl, hown, hactions⟩ := exists_itemOf hs hd hw hitem
  obtain ⟨w', happly, -, htaken⟩ := Edit.apply_take hs hd hbase hw hmem
  obtain ⟨action, haction, heffect, hattempt⟩ := trigger_own hs hd hw haccepts
    (mem_actionsOf.2 (.inr (.inr ⟨d, hmem, rfl⟩))) rfl nofun happly
  obtain ⟨hdone, hsaid⟩ := hattempt (takeText p.world command item action)
  rw [show (takeActionOf d).id = item.takeAction from hown.symm] at haction hsaid
  have hfits : ItemFits (ofStory s) (frame .item item) := hw.fits hbase hitem
  have hstore := p.store_attempted action (takeText p.world command item action)
  obtain ⟨p', hrun, -⟩ := triggerAll_ok hbase hfits.takeActions
    (Play.intact_attempted hw action _) (hstore ▸ haccepts)
  refine ⟨d, hmem, action, _, p', rfl, haction, heffect, rfl, fun henabled => ?_,
    hactions ▸ hrun, ?_⟩
  · rw [hdone henabled, heffect]
    exact ⟨happly, htaken⟩
  · rw [takeItem_eq hitem hanswers haction, bind_of_ok hsaid]
    exact hrun

include hbase in
/-- What is said of a way that the player goes through agrees with where they are then. -/
theorem moveThrough_attempt {id : EntityId .way} {way : Way} (hway : p.world.get? id = some way)
    (hanswers : command.acceptedBy way.movePhrasings = .ok true) :
    ∃ d ∈ s.ways, ∃ action q items p', id = idOf d.symbol ∧
      p.world.get? way.moveAction = some action ∧
      Action.effect action = .move id ∧
      q = p.attempted action (moveText p.world command way action) ∧
      (Action.enabled action = true →
        Edit.apply (Action.effect action) p.world = (.ok (), q.world) ∧
          q.world.player.location = idOf d.destination) ∧
      Arrives p q items ∧
      triggerAll (d.moving.actions.map idOf) (q.say items) = (.ok (), p') ∧
      moveThrough command id p = (.ok (), p') := by
  obtain ⟨d, hmem, rfl, hown, hactions⟩ := exists_wayOf hs hd hw hway
  have happly := Edit.apply_move hs hd hbase hw hmem
  obtain ⟨action, haction, heffect, hattempt⟩ := trigger_own hs hd hw haccepts
    (mem_actionsOf.2 (.inr (.inl ⟨d, hmem, rfl⟩))) rfl nofun happly
  obtain ⟨hdone, hsaid⟩ := hattempt (moveText p.world command way action)
  rw [show (moveActionOf d).id = way.moveAction from hown.symm] at haction hsaid
  have hfits : WayFits (ofStory s) (frame .way way) := hw.fits hbase hway
  have hstore := p.store_attempted action (moveText p.world command way action)
  have hq := Play.intact_attempted hw action (moveText p.world command way action)
  obtain ⟨items, harrives, hdescribe⟩ :=
    exists_arrives hbase p hq (triggerAll way.moveActions)
  obtain ⟨p', hrun, -⟩ := triggerAll_ok hbase hfits.moveActions
    (p := Play.say _ items) hq (hstore ▸ haccepts)
  refine ⟨d, hmem, action, _, items, p', rfl, haction, heffect, rfl, fun henabled => ?_, harrives,
    hactions ▸ hrun, ?_⟩
  · rw [hdone henabled, heffect]
    exact ⟨happly, rfl⟩
  · rw [moveThrough_eq hway hanswers haction, bind_of_ok hsaid]
    exact hdescribe.trans hrun

end

/-- In a world that has come from a story, what is said when the player takes an item or goes
through a way agrees with what happens. -/
theorem carryOut_attempt {s : Story} {w : World} (hd : s.DistinctIds) (hload : load s = .ok w)
    {p : Play} (hreached : Develops w p.world)
    (haccepts : ∀ calls call, p.store.refusal? calls call = none) (command : Command) :
    (∀ id item, command.verb = .take →
      p.world.search [.itemsHere] command.first = .ok (some (.item id)) →
      p.world.get? id = some item → command.acceptedBy (Item.takePhrasings item) = .ok true →
      ∃ d ∈ s.items, ∃ action q p', id = idOf d.symbol ∧
        p.world.get? (Item.takeAction item) = some action ∧
        Action.effect action = .take id d.taking.removeItem (d.taking.grants.map idOf) ∧
        q = p.attempted action (takeText p.world command item action) ∧
        (Action.enabled action = true →
          Edit.apply (Action.effect action) p.world = (.ok (), q.world) ∧ Taken d q.world) ∧
        triggerAll (d.taking.actions.map idOf) q = (.ok (), p') ∧
        carryOut command p = (.ok none, p')) ∧
    ∀ id way, command.verb = .move →
      p.world.search [.waysOut] command.first = .ok (some (.way id)) →
      p.world.get? id = some way → command.acceptedBy (Way.movePhrasings way) = .ok true →
      ∃ d ∈ s.ways, ∃ action q items p', id = idOf d.symbol ∧
        p.world.get? (Way.moveAction way) = some action ∧
        Action.effect action = .move id ∧
        q = p.attempted action (moveText p.world command way action) ∧
        (Action.enabled action = true →
          Edit.apply (Action.effect action) p.world = (.ok (), q.world) ∧
            q.world.player.location = idOf d.destination) ∧
        Arrives p q items ∧
        triggerAll (d.moving.actions.map idOf) (q.say items) = (.ok (), p') ∧
        carryOut command p = (.ok none, p') := by
  have hloaded := loaded_of_load hload
  have hs := hloaded.sound
  have hbase := hloaded.sound_ofStory hd
  have hw : Intact (ofStory s) p.world := (hloaded.intact hd).keeps hreached.keeps
  refine ⟨fun id item hverb hfound hitem hanswers => ?_,
    fun id way hverb hfound hway hanswers => ?_⟩
  · obtain ⟨d, hmem, action, q, p', hid, haction, heffect, hq, hdone, hrun, htakes⟩ :=
      takeItem_attempt hs hd hbase hw haccepts hitem hanswers
    refine ⟨d, hmem, action, q, p', hid, haction, heffect, hq, hdone, hrun, ?_⟩
    rw [carryOut_take hverb hfound, bind_of_ok htakes]
    rfl
  · obtain ⟨d, hmem, action, q, items, p', hid, haction, heffect, hq, hdone, harrives, hrun,
      hmoves⟩ := moveThrough_attempt hs hd hbase hw haccepts hway hanswers
    refine ⟨d, hmem, action, q, items, p', hid, haction, heffect, hq, hdone, harrives, hrun, ?_⟩
    rw [carryOut_move hverb hfound, bind_of_ok hmoves]
    rfl

end Act

/-! ### A story -/

/-- A cellar with a lamp that the player may take and stairs that lead to an attic. The player
carries matches and oil, which can be used with each other as far as the oil is concerned. Whatever
the player does lets the dust in the attic rise, or lets it rise twice. -/
def Story.cellarStory : Story where
  game :=
    { phrasings :=
        ⟨["exit"], [], [], [], [], ["take <A>"], [], ["go <A>"], [], ["use <A> with <B>"]⟩ }
  player := { startLocation := "cellar", inventory := ["matches", "oil"] }
  locations := [{ symbol := "cellar", name := "Cellar" }, { symbol := "attic", name := "Attic" }]
  ways :=
    [{ symbol := "stairs", name := "stairs", origin := "cellar", destination := "attic"
       identifiers := ["stairs"], moving := { actions := ["dust"] } }]
  items :=
    [{ symbol := "lamp", name := "lamp", location := some "cellar", identifiers := ["lamp"]
       taking := { enabled := true, grants := ["light"], actions := ["storm", "dust"] } }]
  inventoryItems :=
    [{ symbol := "light", name := "light", identifiers := ["light"] },
     { symbol := "matches", name := "matches", identifiers := ["matches"] },
     { symbol := "oil", name := "oil", identifiers := ["oil"]
       interactions := [{ partner := .inventoryItem "matches", actions := ["dust"] }] }]
  actions :=
    [{ symbol := "dust", effect := .changeLocation "attic" { description := some "Dust rises." } },
     { symbol := "storm", effect := .sequence ["dust", "dust"] }]

theorem Story.distinctIds_cellarStory : cellarStory.DistinctIds := by
  intro kind
  cases kind <;> decide +kernel

/-- The commands to take the lamp and to go up the stairs. -/
def takeLamp : Command := ⟨.take, true, "take lamp", [⟨"o0", "lamp"⟩]⟩

def goStairs : Command := ⟨.move, true, "go stairs", [⟨"o0", "stairs"⟩]⟩

namespace World

theorem load_cellarStory : load .cellarStory = .ok (ofStory .cellarStory) := by
  have hrun : (load .cellarStory).isOk = true := by decide +kernel
  obtain ⟨w, hload⟩ := exists_ok_of_isOk hrun
  rw [hload, (loaded_of_load hload).eq_ofStory (List.isEmpty_iff.1 (by decide +kernel))]

theorem search_takeLamp : (ofStory .cellarStory).search [.itemsHere] takeLamp.first
    = .ok (some (.item (idOf "lamp"))) := by
  decide +kernel

theorem search_goStairs : (ofStory .cellarStory).search [.waysOut] goStairs.first
    = .ok (some (.way (idOf "stairs"))) := by
  decide +kernel

end World

/-- In the cellar both the lamp and the stairs are there, and both commands are carried out, with
the actions that follow them. -/
theorem Act.carryOut_attempt_cellarStory : ∃ w item way, load .cellarStory = .ok w ∧
    w.get? (idOf "lamp" : EntityId .item) = some item ∧
    w.get? (idOf "stairs" : EntityId .way) = some way ∧
    (∃ action q p', w.get? (Item.takeAction item) = some action ∧
      q = Play.attempted { world := w } action (takeText w takeLamp item action) ∧
      triggerAll [idOf "storm", idOf "dust"] q = (.ok (), p') ∧
      carryOut takeLamp { world := w } = (.ok none, p')) ∧
    ∃ action q items p', w.get? (Way.moveAction way) = some action ∧
      q = Play.attempted { world := w } action (moveText w goStairs way action) ∧
      Arrives { world := w } q items ∧ triggerAll [idOf "dust"] (q.say items) = (.ok (), p') ∧
      carryOut goStairs { world := w } = (.ok none, p') := by
  have hd := Story.distinctIds_cellarStory
  have hs := (loaded_of_load load_cellarStory).sound
  have hitem := get?_item hs hd (List.mem_singleton.2 rfl)
  have hway := get?_way hs hd (List.mem_singleton.2 rfl)
  have hattempt := carryOut_attempt hd load_cellarStory
    (p := { world := ofStory .cellarStory }) .refl (fun _ _ => rfl)
  refine ⟨_, _, _, load_cellarStory, hitem, hway, ?_, ?_⟩
  · obtain ⟨d, hmem, action, q, p', -, haction, -, hq, -, hrun, hresult⟩ :=
      (hattempt takeLamp).1 _ _ rfl search_takeLamp hitem rfl
    obtain rfl := List.mem_singleton.1 hmem
    exact ⟨action, q, p', haction, hq, hrun, hresult⟩
  · obtain ⟨d, hmem, action, q, items, p', -, haction, -, hq, -, harrives, hrun, hresult⟩ :=
      (hattempt goStairs).2 _ _ rfl search_goStairs hway rfl
    obtain rfl := List.mem_singleton.1 hmem
    exact ⟨action, q, items, p', haction, hq, harrives, hrun, hresult⟩

end Adventure
