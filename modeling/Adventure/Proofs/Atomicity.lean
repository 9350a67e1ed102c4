import Adventure.Proofs.Placement

/-!
# Effects that fail

An effect that looks for all that it needs before it changes anything leaves the world as it was
where it fails (`Edit.Atomic`). Some effects write first: they remove an item and look for its
location then, or write texts and look for the action that belongs to the object then. Which effects
have all their checks in front depends on their kind and on what they are to change
(`Effect.ChecksFirst`).
-/

namespace Adventure

open World Steps

/-! ## What patches write -/

/-- A patch that says nothing of the item itself. -/
structure ItemPatch.Blank (patch : ItemPatch EntityId) : Prop where
  name : patch.name = none
  description : patch.description = none
  takeSuccessText : patch.takeSuccessText = none
  usage : patch.usage = .keep
  useForbiddenText : patch.useForbiddenText = none
  useSuccessText : patch.useSuccessText = none
  inspectionText : patch.inspectionText = none

/-- A patch that says nothing of the way itself. -/
structure WayPatch.Blank (patch : WayPatch) : Prop where
  name : patch.name = none
  description : patch.description = none
  moveSuccessText : patch.moveSuccessText = none
  inspectionText : patch.inspectionText = none

/-- The effect has made all its checks before it changes anything. -/
def Effect.ChecksFirst : Effect EntityId ObjectRef → Prop
  -- Each item is looked for when those before it have been received.
  | .addInventoryItems items => ∀ a ∈ items, ∀ b ∈ items, a = b
  -- An item has lost its place when its old location is looked for.
  | .removeItem _ => False
  | .take _ leave grants => leave = false ∧ ∀ a ∈ grants, ∀ b ∈ grants, a = b
  | .changeAction _ enabling => enabling = .keep
  | .changeItem _ patch => patch.Blank ∧ patch.taking = .keep ∧ patch.relocation = none
  | .changePerson _ patch => patch.relocation = none
  | .changeWay _ patch => patch.Blank ∧ patch.moving = .keep
  | .changeConversation _ patch =>
    patch.startLayer = none ∨ patch.greeting = none ∧ patch.farewell = none
  | .removeInventoryItem _ | .move _ | .sequence _ | .changeInventoryItem .. | .changeLocation ..
  | .changeChoice .. | .changeInteraction .. | .endGame _ => True

namespace Edit

variable {α β : Type} {kind : EntityKind}

/-- An edit that changes nothing where it fails. -/
def Atomic (e : Edit α) : Prop := ∀ w failure w', e w = (.error failure, w') → w' = w

/-- An edit changes nothing, whether it fails or not. -/
abbrev Looks (e : Edit α) : Prop := Moves Eq e

namespace Atomic

theorem of_looks {e : Edit α} (h : Looks e) : Atomic e := by
  intro w failure w' heq
  have hw := h w
  rw [heq] at hw
  exact hw.symm

/-- An atomic edit may follow edits that only look. -/
theorem bind {e : Edit α} {f : α → Edit β} (he : Looks e) (hf : ∀ a, Atomic (f a)) :
    Atomic (e >>= f) := by
  intro w failure w' heq
  have hw := he w
  rcases hrun : e w with ⟨failure' | a, w₁⟩
  · rw [bind_of_error hrun] at heq
    obtain ⟨-, rfl⟩ := Prod.mk.inj heq
    rw [hrun] at hw
    exact hw.symm
  · rw [bind_of_ok hrun] at heq
    rw [hrun] at hw
    obtain rfl : w = w₁ := hw
    exact hf a w failure w' heq

/-- What comes first in an atomic edit is atomic itself. -/
theorem of_bind {e : Edit α} {f : α → Edit β} (h : Atomic (e >>= f)) : Atomic e := by
  intro w failure w' heq
  exact h w failure w' (bind_of_error heq)

theorem pure (a : α) : Atomic (Pure.pure a : Edit α) := of_looks (.pure a)

theorem change (id : EntityId kind) (g : Entity kind → Entity kind) :
    Atomic (Edit.change id g) := by
  intro w failure w' heq
  cases he : w.get? id with
  | none =>
    rw [change_absent g he] at heq
    exact (Prod.mk.inj heq).2.symm
  | some e =>
    rw [change_eq he] at heq
    cases heq

theorem changePlayer (g : Player → Player) : Atomic (Edit.changePlayer g) := fun _ _ _ => nofun

end Atomic

/-- A change that leaves entities of the kind as they are is none. -/
theorem looks_change {id : EntityId kind} {g : Entity kind → Entity kind} (hg : ∀ e, g e = e) :
    Looks (change id g) :=
  moves_change fun w e he => by rw [hg, put_eq_self he]

/-! ## Player and inventory -/

theorem addInventoryItems_cons {id : EntityId .inventoryItem} {i : InventoryItem} {w : World}
    (hi : w.get? id = some i) (ids : List (EntityId .inventoryItem)) :
    addInventoryItems (id :: ids) w = addInventoryItems ids
      { w with player := { w.player with inventory := addOnce id w.player.inventory } } := by
  rw [addInventoryItems, find_bind_eq _ hi]
  rfl

/-- Receiving inventory items succeeds exactly if all of them exist. -/
theorem addInventoryItems_ok_iff : ∀ {ids : List (EntityId .inventoryItem)} {w : World},
    (∃ w', addInventoryItems ids w = (.ok (), w')) ↔ ∀ id ∈ ids, ∃ i, w.get? id = some i
  | [], w => by simp [addInventoryItems]
  | id :: ids, w => by
    rw [List.forall_mem_cons]
    cases hi : w.get? id with
    | none =>
      rw [addInventoryItems, find_bind_of_none _ hi]
      refine ⟨fun ⟨_, h⟩ => ?_, fun ⟨⟨_, h⟩, _⟩ => nomatch h⟩
      exact nomatch congrArg Prod.fst h
    | some i =>
      rw [addInventoryItems_cons hi, addInventoryItems_ok_iff]
      simp

theorem atomic_addInventoryItems {ids : List (EntityId .inventoryItem)}
    (h : ∀ a ∈ ids, ∀ b ∈ ids, a = b) : Atomic (addInventoryItems ids) := by
  cases ids with
  | nil => exact .pure ()
  | cons id ids =>
    intro w failure w' heq
    cases hi : w.get? id with
    | none =>
      rw [addInventoryItems, find_bind_of_none _ hi] at heq
      exact (Prod.mk.inj heq).2.symm
    | some i =>
      -- All that is to be received is the one item that exists, so nothing fails.
      have hall : ∀ id' ∈ id :: ids, ∃ i, w.get? id' = some i := fun id' hid' =>
        ⟨i, h id' hid' id (by simp) ▸ hi⟩
      obtain ⟨w₁, hok⟩ := addInventoryItems_ok_iff.2 hall
      rw [hok] at heq
      cases heq

/-! ## Patches -/

theorem changeOwnAction_keep (id : EntityId .action) (forbidden : Option String) :
    changeOwnAction id .keep forbidden =
      change id fun a => { a with forbiddenText := forbidden.or a.forbiddenText } := rfl

/-- The item itself after a patch. -/
def patchItem (patch : ItemPatch EntityId) (i : Item) : Item :=
  { i with
    name := overwrite i.name patch.name
    description := overwrite i.description patch.description
    takeSuccessText := patch.takeSuccessText.or i.takeSuccessText
    usage := { i.usage with
      enabled := patch.usage.apply i.usage.enabled
      forbiddenText := patch.useForbiddenText.or i.usage.forbiddenText
      successText := patch.useSuccessText.or i.usage.successText }
    inspection := { i.inspection with text := patch.inspectionText.or i.inspection.text } }

/-- The way itself after a patch. -/
def patchWay (patch : WayPatch) (v : Way) : Way :=
  { v with
    name := overwrite v.name patch.name
    description := overwrite v.description patch.description
    moveSuccessText := patch.moveSuccessText.or v.moveSuccessText
    inspection := { v.inspection with text := patch.inspectionText.or v.inspection.text } }

/-- Changes an object and then the action that belongs to it. -/
def changeOwner (id : EntityId kind) (g : Entity kind → Entity kind)
    (own : Entity kind → EntityId .action) (enabling : Toggle) (forbidden : Option String) :
    Edit Unit := do
  let e ← find id
  change id g
  changeOwnAction (own e) enabling forbidden

theorem changeItem_eq (id : EntityId .item) (patch : ItemPatch EntityId) :
    changeItem id patch = (do
      changeOwner id (patchItem patch) Item.takeAction patch.taking patch.takeForbiddenText
      match patch.relocation with
      | none => pure ()
      | some relocation => relocateItem id relocation) := by
  simp only [changeItem, changeOwner, bind_assoc]
  rfl

theorem changeWay_eq (id : EntityId .way) (patch : WayPatch) : changeWay id patch =
    changeOwner id (patchWay patch) Way.moveAction patch.moving patch.moveForbiddenText := rfl

theorem atomic_changeOwner {id : EntityId kind} {g : Entity kind → Entity kind}
    {own : Entity kind → EntityId .action} {forbidden : Option String} (hg : ∀ e, g e = e) :
    Atomic (changeOwner id g own .keep forbidden) :=
  .bind (moves_find id) fun e => .bind (looks_change hg) fun _ =>
    changeOwnAction_keep (own e) forbidden ▸ .change (own e) _

theorem patchItem_eq_self {patch : ItemPatch EntityId} (h : patch.Blank) (i : Item) :
    patchItem patch i = i := by
  simp [patchItem, overwrite, Toggle.apply, Toggle.target?, h.name, h.description,
    h.takeSuccessText, h.usage, h.useForbiddenText, h.useSuccessText, h.inspectionText]

theorem patchWay_eq_self {patch : WayPatch} (h : patch.Blank) (v : Way) : patchWay patch v = v := by
  simp [patchWay, overwrite, h.name, h.description, h.moveSuccessText, h.inspectionText]

theorem atomic_changePerson {id : EntityId .person} {patch : PersonPatch EntityId}
    (h : patch.relocation = none) : Atomic (changePerson id patch) := by
  unfold changePerson
  simp only [h, bind_pure_unit]
  cases patch.conversation with
  | none => exact .change id _
  | some conversation => exact .bind (moves_find conversation) fun _ => .change id _

theorem atomic_changeConversation {id : EntityId .conversation} {patch : ConversationPatch EntityId}
    (h : patch.startLayer = none ∨ patch.greeting = none ∧ patch.farewell = none) :
    Atomic (changeConversation id patch) := by
  unfold changeConversation
  rcases h with hlayer | ⟨hgreeting, hfarewell⟩
  · simp only [hlayer, bind_pure_unit]
    exact .change id _
  · simp only [hgreeting, hfarewell]
    refine .bind (looks_change fun _ => rfl) fun _ => ?_
    cases patch.startLayer with
    | none => exact .pure ()
    | some layer =>
      refine .bind (moves_find id) fun c => ?_
      split
      · exact .change id _
      · exact .of_looks (moves_fail _)

theorem atomic_changeChoice (id : EntityId .choice) (patch : ChoicePatch EntityId) :
    Atomic (changeChoice id patch) := by
  unfold changeChoice
  cases patch.target with
  | none => exact .change id _
  | some target =>
    refine .bind (moves_find id) fun c => .bind (moves_find target) fun l => ?_
    split
    · exact .of_looks (moves_fail _)
    · exact .change id _

theorem atomic_changeInteraction (id : EntityId .inventoryItem) (partner : ObjectRef)
    (patch : InteractionPatch) : Atomic (changeInteraction id partner patch) := by
  refine .bind (moves_find id) fun i => ?_
  split
  · exact .of_looks (moves_look _)
  · exact .change id _

/-- An effect that checks first changes nothing where it fails. -/
theorem atomic_apply {effect : Effect EntityId ObjectRef} (h : effect.ChecksFirst) :
    Atomic (apply effect) := by
  cases effect with
  | addInventoryItems items => exact atomic_addInventoryItems h
  | removeInventoryItem item => exact .bind (moves_find item) fun _ => .changePlayer _
  | removeItem item => exact h.elim
  | move way =>
    exact .bind (moves_find way) fun v => .bind (moves_find _) fun _ => .changePlayer _
  | take item leave grants =>
    obtain ⟨rfl, hgrants⟩ := h
    exact .bind (moves_find item) fun _ => atomic_addInventoryItems hgrants
  | sequence actions => exact .pure ()
  | changeAction action enabling =>
    obtain rfl := h
    exact .bind (moves_find action) fun _ => .pure ()
  | changeItem item patch =>
    obtain ⟨hblank, htaking, hrelocation⟩ := h
    have hpatch : ∀ i : Entity .item, patchItem patch i = i := patchItem_eq_self hblank
    simp only [apply, changeItem_eq, htaking, hrelocation, bind_pure_unit]
    exact atomic_changeOwner hpatch
  | changeInventoryItem item patch => exact .change item _
  | changePerson person patch => exact atomic_changePerson h
  | changeLocation location patch => exact .change location _
  | changeWay way patch =>
    obtain ⟨hblank, hmoving⟩ := h
    have hpatch : ∀ v : Entity .way, patchWay patch v = v := patchWay_eq_self hblank
    rw [apply, changeWay_eq, hmoving]
    exact atomic_changeOwner hpatch
  | changeConversation conversation patch => exact atomic_changeConversation h
  | changeChoice choice patch => exact atomic_changeChoice choice patch
  | changeInteraction item partner patch => exact atomic_changeInteraction item partner patch
  | endGame text => exact .pure ()

end Edit

end Adventure
