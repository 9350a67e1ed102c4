import Adventure.Proofs.Atomicity
import Adventure.Proofs.Flags
import Adventure.Proofs.Histories

/-!
# Checks that come too late

Each effect that does not make all its checks first leaves some world half changed: an item has lost
its place before its old location turns out to be missing, the first of several inventory items has
been received before another one is looked for, texts have been written before the action of their
object, the destination or the first layer is checked, and a flag has been set before the action
turns out to contain itself. So exactly the effects that check first change nothing where they fail
(`Act.unchanged_iff_checksFirst`).
-/

namespace Adventure

open World Steps

namespace Edit

variable {α β : Type} {kind : EntityKind}

/-- The edit fails in the first world and leaves the second one behind. -/
def FailsTo (e : Edit α) (w w' : World) : Prop := ∃ failure, e w = (.error failure, w')

theorem FailsTo.bind {e : Edit α} {w w' : World} (h : FailsTo e w w') (f : α → Edit β) :
    FailsTo (e >>= f) w w' := by
  obtain ⟨failure, heq⟩ := h
  exact ⟨failure, bind_of_error heq⟩

/-- What has succeeded so far does not keep an edit from failing. -/
theorem FailsTo.of_bind {e : Edit α} {w w₁ w' : World} {a : α} {f : α → Edit β}
    (he : e w = (.ok a, w₁)) (h : FailsTo (f a) w₁ w') : FailsTo (e >>= f) w w' := by
  rw [FailsTo, bind_of_ok he]
  exact h

/-- An edit that fails where it has changed an entity is not atomic. -/
theorem FailsTo.not_atomic {e : Edit α} {w w' : World} (h : FailsTo e w w') (id : EntityId kind)
    (hne : w'.get? id ≠ w.get? id) : ¬Atomic e := by
  intro hatomic
  obtain ⟨failure, heq⟩ := h
  obtain rfl := hatomic w failure w' heq
  exact hne rfl

theorem failsTo_change {w : World} {id : EntityId kind} (h : w.get? id = none)
    (g : Entity kind → Entity kind) : FailsTo (change id g) w w :=
  ⟨_, change_absent g h⟩

theorem exists_target? {toggle : Toggle} (h : toggle ≠ .keep) :
    ∃ value, toggle.target? = some value := by
  cases toggle with
  | keep => exact absurd rfl h
  | enable => exact ⟨true, rfl⟩
  | disable => exact ⟨false, rfl⟩

/-! ## Inventory items -/

/-- The player has at least what they had before. -/
theorem moves_addInventoryItems : ∀ ids : List (EntityId .inventoryItem),
    Moves (fun w w' => w.player.inventory ⊆ w'.player.inventory) (addInventoryItems ids)
  | [] => fun w => List.Subset.refl w.player.inventory
  | id :: ids => by
    have : Std.Refl fun w w' : World => w.player.inventory ⊆ w'.player.inventory :=
      ⟨fun w => List.Subset.refl w.player.inventory⟩
    refine moves_find_bind fun w i hi => ?_
    have hrest := moves_addInventoryItems ids
      { w with player := { w.player with inventory := addOnce id w.player.inventory } }
    exact fun x hx => hrest (mem_addOnce.2 (.inl hx))

theorem mem_inventory_of_first {id : EntityId .inventoryItem} {i : InventoryItem} {w : World}
    (hi : w.get? id = some i) (ids : List (EntityId .inventoryItem)) :
    id ∈ (addInventoryItems (id :: ids) w).2.player.inventory := by
  rw [addInventoryItems_cons hi]
  refine moves_addInventoryItems ids
    { w with player := { w.player with inventory := addOnce id w.player.inventory } } ?_
  exact mem_addOnce.2 (.inr rfl)

/-- Of different inventory items the first one is received before another one turns out to be
missing. -/
theorem exists_partly_received {ids : List (EntityId .inventoryItem)}
    (h : ¬∀ a ∈ ids, ∀ b ∈ ids, a = b) {w : World}
    (hw : ∀ id : EntityId .inventoryItem, w.get? id = none) (hnone : w.player.inventory = []) :
    ∃ (id : EntityId .inventoryItem) (i : InventoryItem) (w' : World),
      FailsTo (addInventoryItems ids) (w.put id i) w' ∧ w' ≠ w.put id i := by
  cases ids with
  | nil => simp at h
  | cons first rest =>
    let i : InventoryItem := ⟨first, "", "", "", [], {}, {}, []⟩
    have hfirst : (w.put first i).get? first = some i := get?_put_self w first i
    have honly : ∀ id : EntityId .inventoryItem, (∃ i', (w.put first i).get? id = some i') →
        id = first := by
      intro id hid
      by_contra hne
      simp [get?_put_of_ne hne, hw] at hid
    rcases hrun : addInventoryItems (first :: rest) (w.put first i) with ⟨failure | u, w'⟩
    · refine ⟨first, i, w', ⟨failure, hrun⟩, fun heq => ?_⟩
      have hmem := mem_inventory_of_first hfirst rest
      rw [hrun, heq] at hmem
      simp [hnone] at hmem
    · have hall := addInventoryItems_ok_iff.1 ⟨w', hrun⟩
      refine absurd (fun a ha b hb => ?_) h
      rw [honly a (hall a ha), honly b (hall b hb)]

/-! ## Places -/

/-- An item or a person has its new place before its old location turns out to be missing. -/
theorem failsTo_relocate {s : Seating kind} {w : World} {id : EntityId kind} {e : Entity kind}
    {old : EntityId .location} (he : w.get? id = some e) (hplace : s.place e = some old)
    (hold : w.get? old = none) (target : Option (EntityId .location)) :
    FailsTo (relocate s id target) w (w.put id (s.setPlace e target)) := by
  refine .of_bind (find_present he) (.of_bind (change_eq he) (.bind ?_ _))
  rw [hplace]
  refine failsTo_change ?_ _
  rw [get?_put_entity s, hold]

/-- Wherever a relocation leads, it may start from a location that does not exist. -/
theorem exists_missing (relocation : Relocation EntityId) :
    ∃ (new old : EntityId .location) (target : Option (EntityId .location)), old ≠ new ∧
      target ≠ some old ∧
      ∀ w l, w.get? new = some l → destination relocation w = (.ok target, w) := by
  match relocation with
  | .remove => exact ⟨⟨⟨0⟩⟩, ⟨⟨1⟩⟩, none, by decide, by decide, fun _ _ _ => rfl⟩
  | .to new =>
    obtain ⟨old, hne⟩ : ∃ old : EntityId .location, old ≠ new := by
      by_cases h : (⟨⟨0⟩⟩ : EntityId .location) = new
      · exact ⟨⟨⟨1⟩⟩, h ▸ by decide⟩
      · exact ⟨_, h⟩
    refine ⟨new, old, some new, hne, fun h => hne (Option.some.inj h).symm, fun w l hl => ?_⟩
    exact find_bind_eq _ hl

/-! ## Objects and their actions -/

/-- An action that contains itself. -/
def selfContained (id : EntityId .action) (enabled : Bool) : Action :=
  ⟨id, "", "", enabled, none, none, .sequence [id]⟩

theorem failsTo_setEnabled_of_missing {id : EntityId .action} {w : World} (h : w.get? id = none)
    (value : Bool) : FailsTo (setEnabled id value) w w := by
  refine .of_bind (get_eq w) ⟨.unknownEntity .action id.uuid, ?_⟩
  rw [depth, setEnabledFrom_new List.not_mem_nil, h]

/-- The flag of an action that contains itself is set before that is found out. -/
theorem failsTo_setEnabled {id : EntityId .action} {flag : Bool} {w : World}
    (h : w.get? id = some (selfContained id flag)) (value : Bool) :
    FailsTo (setEnabled id value) w (w.put id (selfContained id value)) := by
  refine .of_bind (get_eq w) ?_
  rw [FailsTo, ← setEnabledFrom_of_le (Nat.le_succ _), depth,
    setEnabledFrom_new List.not_mem_nil, h]
  exact FailsTo.bind ⟨_, setEnabledFrom_back List.mem_cons_self⟩ _

theorem failsTo_changeOwnAction_of_missing {id : EntityId .action} {w : World}
    (h : w.get? id = none) (enabling : Toggle) (forbidden : Option String) :
    FailsTo (changeOwnAction id enabling forbidden) w w := by
  unfold changeOwnAction
  cases enabling.target? with
  | none => exact failsTo_change h _
  | some value => exact (failsTo_setEnabled_of_missing h value).bind _

section
variable {id : EntityId kind} {g : Entity kind → Entity kind} {own : Entity kind → EntityId .action}
  {enabling : Toggle} {forbidden : Option String}

/-- What is written of an object itself is written before its action is looked for. -/
theorem failsTo_changeOwner {w w' : World} {e : Entity kind} (he : w.get? id = some e)
    (h : FailsTo (changeOwnAction (own e) enabling forbidden) (w.put id (g e)) w') :
    FailsTo (changeOwner id g own enabling forbidden) w w' :=
  .of_bind (find_present he) (.of_bind (change_eq he) h)

variable (hkind : EntityKind.action ≠ kind)
include hkind

/-- Where the flag of the action stays, an object and its action are changed one after the other. -/
theorem changeOwner_keep {w : World} {e : Entity kind} {a : Action} (he : w.get? id = some e)
    (ha : w.get? (own e) = some a) : changeOwner id g own .keep forbidden w =
      (.ok (), (w.put id (g e)).put (own e)
        { a with forbiddenText := forbidden.or a.forbiddenText }) := by
  have ha' : (w.put id (g e)).get? (own e) = some a := by rw [get?_put_of_kind_ne hkind, ha]
  rw [changeOwner, bind_of_ok (find_present he), bind_of_ok (change_eq he), changeOwnAction_keep,
    change_eq ha']

theorem not_atomic_of_patch {e : Entity kind} (hg : g e ≠ e) :
    ¬Atomic (changeOwner id g own enabling forbidden) := by
  let w := (World.empty {} "").put id e
  have hmissing : (w.put id (g e)).get? (own e) = none := by
    rw [get?_put_of_kind_ne hkind, get?_put_of_kind_ne hkind, get?_empty]
  have hown := failsTo_changeOwnAction_of_missing hmissing enabling forbidden
  refine (failsTo_changeOwner (get?_put_self _ _ _) hown).not_atomic id ?_
  simpa [w] using hg

theorem not_atomic_of_toggle (e : Entity kind) (h : enabling ≠ .keep) :
    ¬Atomic (changeOwner id g own enabling forbidden) := by
  obtain ⟨value, hvalue⟩ := exists_target? h
  let w := ((World.empty {} "").put (own e) (selfContained (own e) !value)).put id e
  have haction : (w.put id (g e)).get? (own e) = some (selfContained (own e) !value) := by
    rw [get?_put_of_kind_ne hkind, get?_put_of_kind_ne hkind, get?_put_self]
  have hown := (failsTo_setEnabled haction value).bind fun _ =>
    change (own e) fun a => { a with forbiddenText := forbidden.or a.forbiddenText }
  have hrun : FailsTo (changeOwner id g own enabling forbidden) w _ :=
    failsTo_changeOwner (get?_put_self _ _ _) (by rw [changeOwnAction, hvalue]; exact hown)
  refine hrun.not_atomic (own e) ?_
  rw [get?_put_self, get?_put_of_kind_ne hkind, get?_put_self]
  simp [selfContained]

end

/-! ### Objects that a patch changes -/

/-- A text that differs from the one that is to be written. -/
def otherText (new : Option String) : String := new.getD "" ++ "."

theorem eq_none_of_overwrite {new : Option String}
    (h : overwrite (otherText new) new = otherText new) : new = none := by
  cases new with
  | none => rfl
  | some text => exact absurd (congrArg String.length h) (by simp [overwrite, otherText])

theorem eq_keep_of_apply {toggle : Toggle}
    (h : toggle.apply (toggle == .disable) = (toggle == .disable)) : toggle = .keep := by
  cases toggle with
  | keep => rfl
  | enable | disable => cases h

/-- An item that a patch changes if it says anything of the item itself. -/
def otherItem (patch : ItemPatch EntityId) (id : EntityId .item)
    (location : Option (EntityId .location)) : Item where
  id := id
  symbol := ""
  name := otherText patch.name
  description := otherText patch.description
  location := location
  identifiers := []
  takeAction := default
  takeSuccessText := none
  takePhrasings := []
  takeActions := []
  usage := { enabled := patch.usage == .disable }
  inspection := {}

theorem blank_of_patchItem {patch : ItemPatch EntityId} {id : EntityId .item}
    {location : Option (EntityId .location)}
    (h : patchItem patch (otherItem patch id location) = otherItem patch id location) :
    patch.Blank where
  name := eq_none_of_overwrite (congrArg Item.name h)
  description := eq_none_of_overwrite (congrArg Item.description h)
  takeSuccessText := by simpa [patchItem, otherItem] using congrArg Item.takeSuccessText h
  usage := eq_keep_of_apply (congrArg (fun i => (Item.usage i).enabled) h)
  useForbiddenText := by
    simpa [patchItem, otherItem] using congrArg (fun i => (Item.usage i).forbiddenText) h
  useSuccessText := by
    simpa [patchItem, otherItem] using congrArg (fun i => (Item.usage i).successText) h
  inspectionText := by
    simpa [patchItem, otherItem] using congrArg (fun i => (Item.inspection i).text) h

/-- A way that a patch changes if it says anything of the way itself. -/
def otherWay (patch : WayPatch) (id : EntityId .way) : Way where
  id := id
  symbol := ""
  name := otherText patch.name
  description := otherText patch.description
  origin := default
  destination := default
  identifiers := []
  moveAction := default
  moveSuccessText := none
  movePhrasings := []
  moveActions := []
  inspection := {}

theorem blank_of_patchWay {patch : WayPatch} {id : EntityId .way}
    (h : patchWay patch (otherWay patch id) = otherWay patch id) : patch.Blank where
  name := eq_none_of_overwrite (congrArg Way.name h)
  description := eq_none_of_overwrite (congrArg Way.description h)
  moveSuccessText := by simpa [patchWay, otherWay] using congrArg Way.moveSuccessText h
  inspectionText := by
    simpa [patchWay, otherWay] using congrArg (fun v => (Way.inspection v).text) h

/-! ## Each kind of effect -/

theorem not_atomic_addInventoryItems {ids : List (EntityId .inventoryItem)}
    (h : ¬∀ a ∈ ids, ∀ b ∈ ids, a = b) : ¬Atomic (addInventoryItems ids) := by
  obtain ⟨_, _, _, ⟨failure, hrun⟩, hne⟩ := exists_partly_received h (get?_empty {} "") rfl
  exact fun hatomic => hne (hatomic _ failure _ hrun)

theorem failsTo_removeItem {w : World} {id : EntityId .item} {item : Item}
    {old : EntityId .location} (hitem : w.get? id = some item)
    (hlocation : item.location = some old) (hold : w.get? old = none) :
    FailsTo (removeItem id) w (w.put id (Seating.items.setPlace item none)) := by
  rw [removeItem_eq]
  exact failsTo_relocate hitem hlocation hold none

theorem not_atomic_removeItem (id : EntityId .item) : ¬Atomic (removeItem id) := by
  let w := (World.empty {} "").put id (otherItem {} id (some default))
  have hold : w.get? (default : EntityId .location) = none := by
    rw [get?_put_of_kind_ne (by decide), get?_empty]
  refine (failsTo_removeItem (get?_put_self _ _ _) rfl hold).not_atomic id ?_
  rw [get?_put_self, get?_put_self]
  exact fun h => nomatch congrArg Item.location (Option.some.inj h)

theorem not_atomic_takeItem (id : EntityId .item) {leave : Bool}
    {grants : List (EntityId .inventoryItem)}
    (h : ¬(leave = false ∧ ∀ a ∈ grants, ∀ b ∈ grants, a = b)) :
    ¬Atomic (takeItem id leave grants) := by
  let w := (World.empty {} "").put id (otherItem {} id (some default))
  have hitem : w.get? id = some (otherItem {} id (some default)) := get?_put_self _ _ _
  cases leave with
  | true =>
    have hold : w.get? (default : EntityId .location) = none := by
      rw [get?_put_of_kind_ne (by decide), get?_empty]
    have hrun : FailsTo (takeItem id true grants) w _ :=
      .of_bind (find_present hitem) ((failsTo_removeItem hitem rfl hold).bind _)
    refine hrun.not_atomic id ?_
    rw [get?_put_self, hitem]
    exact fun h => nomatch congrArg Item.location (Option.some.inj h)
  | false =>
    have hgrants : ¬∀ a ∈ grants, ∀ b ∈ grants, a = b := fun heq => h ⟨rfl, heq⟩
    have hnone : ∀ id : EntityId .inventoryItem, w.get? id = none := fun id' => by
      rw [get?_put_of_kind_ne (by decide), get?_empty]
    obtain ⟨first, i, w', hadd, hne⟩ := exists_partly_received hgrants hnone rfl
    have hfound : (w.put first i).get? id = some (otherItem {} id (some default)) := by
      rw [get?_put_of_kind_ne (by decide), hitem]
    obtain ⟨failure, hrun⟩ : FailsTo (takeItem id false grants) (w.put first i) w' :=
      .of_bind (find_present hfound) hadd
    exact fun hatomic => hne (hatomic _ failure _ hrun)

theorem not_atomic_changeAction (id : EntityId .action) {enabling : Toggle} (h : enabling ≠ .keep) :
    ¬Atomic (changeAction id enabling) := by
  obtain ⟨value, hvalue⟩ := exists_target? h
  let w := (World.empty {} "").put id (selfContained id !value)
  have haction : w.get? id = some (selfContained id !value) := get?_put_self _ _ _
  have hrun : FailsTo (changeAction id enabling) w (w.put id (selfContained id value)) := by
    refine .of_bind (find_present haction) ?_
    simp only [hvalue]
    exact failsTo_setEnabled haction value
  refine hrun.not_atomic id ?_
  rw [get?_put_self, haction]
  simp [selfContained]

/-- A relocation comes last, and the old location is looked for when the item has left it. -/
theorem not_atomic_changeItem_of_relocation (id : EntityId .item) {patch : ItemPatch EntityId}
    {relocation : Relocation EntityId} (htaking : patch.taking = .keep)
    (hrelocation : patch.relocation = some relocation) : ¬Atomic (changeItem id patch) := by
  obtain ⟨new, old, target, hne, htarget, hdestination⟩ := exists_missing relocation
  let l : Location := ⟨new, "", "", "", [], [], []⟩
  let item := otherItem patch id (some old)
  let a := selfContained item.takeAction true
  let w := (((World.empty {} "").put new l).put item.takeAction a).put id item
  have hitem : w.get? id = some item := get?_put_self _ _ _
  have haction : w.get? item.takeAction = some a := by
    rw [get?_put_of_kind_ne (by decide), get?_put_self]
  -- By now the item and its action have been patched, and the locations are as before.
  obtain ⟨w₁, howner, hpatched, hplaces⟩ : ∃ w₁,
      changeOwner id (patchItem patch) Item.takeAction .keep patch.takeForbiddenText w
        = (.ok (), w₁) ∧ w₁.get? id = some (patchItem patch item) ∧
      ∀ at' : EntityId .location, w₁.get? at' = ((World.empty {} "").put new l).get? at' := by
    refine ⟨_, changeOwner_keep (by decide) hitem haction, ?_, fun at' => ?_⟩
    · rw [get?_put_of_kind_ne (by decide), get?_put_self]
    · rw [get?_put_of_kind_ne (by decide), get?_put_of_kind_ne (by decide),
        get?_put_of_kind_ne (by decide), get?_put_of_kind_ne (by decide)]
  have hnew : w₁.get? new = some l := by rw [hplaces, get?_put_self]
  have hold : w₁.get? old = none := by rw [hplaces, get?_put_of_ne hne, get?_empty]
  have hrun : FailsTo (changeItem id patch) w
      (w₁.put id (Seating.items.setPlace (patchItem patch item) target)) := by
    rw [changeItem_eq, htaking, hrelocation]
    refine .of_bind howner ?_
    simp only [relocateItem_eq]
    exact .of_bind (hdestination w₁ l hnew) (failsTo_relocate hpatched rfl hold target)
  refine hrun.not_atomic id ?_
  rw [get?_put_self, hitem]
  exact fun heq => htarget (congrArg Item.location (Option.some.inj heq))

theorem not_atomic_changeItem (id : EntityId .item) {patch : ItemPatch EntityId}
    (h : ¬(patch.Blank ∧ patch.taking = .keep ∧ patch.relocation = none)) :
    ¬Atomic (changeItem id patch) := by
  by_cases htaking : patch.taking = .keep
  · by_cases hblank : patch.Blank
    · obtain ⟨relocation, hrelocation⟩ := Option.ne_none_iff_exists'.1 fun hnone =>
        h ⟨hblank, htaking, hnone⟩
      exact not_atomic_changeItem_of_relocation id htaking hrelocation
    · rw [changeItem_eq]
      have hpatch : patchItem patch (otherItem patch id none) ≠ otherItem patch id none :=
        fun heq => hblank (blank_of_patchItem heq)
      exact fun hatomic => not_atomic_of_patch (by decide) hpatch hatomic.of_bind
  · rw [changeItem_eq]
    exact fun hatomic =>
      not_atomic_of_toggle (by decide) (otherItem patch id none) htaking hatomic.of_bind

theorem not_atomic_changePerson (id : EntityId .person) {patch : PersonPatch EntityId}
    (h : patch.relocation ≠ none) : ¬Atomic (changePerson id patch) := by
  obtain ⟨relocation, hrelocation⟩ := Option.ne_none_iff_exists'.1 h
  obtain ⟨new, old, target, hne, htarget, hdestination⟩ := exists_missing relocation
  let l : Location := ⟨new, "", "", "", [], [], []⟩
  let p : Person := ⟨id, "", "", "", some old, [], {}, {}⟩
  let talk (c : EntityId .conversation) : Conversation := ⟨c, "", none, none, none, []⟩
  let w := (((World.empty {} "").put new l).put (patch.conversation.getD default)
    (talk default)).put id p
  have hp : w.get? id = some p := get?_put_self _ _ _
  have hplaces : ∀ (p' : Person) (at' : EntityId .location),
      (w.put id p').get? at' = ((World.empty {} "").put new l).get? at' := fun p' at' => by
    rw [get?_put_of_kind_ne (by decide), get?_put_of_kind_ne (by decide),
      get?_put_of_kind_ne (by decide)]
  have hrelocate : ∀ p' : Person, p'.location = some old →
      FailsTo (relocatePerson id relocation) (w.put id p')
        ((w.put id p').put id (Seating.persons.setPlace p' target)) := fun p' hplace => by
    have hnew : (w.put id p').get? new = some l := by rw [hplaces, get?_put_self]
    have hold : (w.put id p').get? old = none := by rw [hplaces, get?_put_of_ne hne, get?_empty]
    rw [relocatePerson_eq]
    exact .of_bind (hdestination _ l hnew)
      (failsTo_relocate (get?_put_self _ _ _) hplace hold target)
  obtain ⟨w', hrun, p', hp', hlocation⟩ : ∃ w', FailsTo (changePerson id patch) w w' ∧
      ∃ p' : Person, w'.get? id = some p' ∧ p'.location = target := by
    unfold changePerson
    simp only [hrelocation]
    cases hconversation : patch.conversation with
    | none =>
      exact ⟨_, .of_bind (change_eq hp) (hrelocate _ rfl), _, get?_put_self _ _ _, rfl⟩
    | some c =>
      have hc : w.get? c = some (talk default) := by
        rw [get?_put_of_kind_ne (by decide), hconversation]
        exact get?_put_self _ _ _
      exact ⟨_, .of_bind (find_present hc) (.of_bind (change_eq hp) (hrelocate _ rfl)), _,
        get?_put_self _ _ _, rfl⟩
  refine hrun.not_atomic id fun heq => htarget ?_
  rw [hp', hp] at heq
  rw [← hlocation, Option.some.inj heq]

theorem not_atomic_changeWay (id : EntityId .way) {patch : WayPatch}
    (h : ¬(patch.Blank ∧ patch.moving = .keep)) : ¬Atomic (changeWay id patch) := by
  rw [changeWay_eq]
  by_cases hmoving : patch.moving = .keep
  · have hpatch : patchWay patch (otherWay patch id) ≠ otherWay patch id := fun heq =>
      h ⟨blank_of_patchWay heq, hmoving⟩
    exact not_atomic_of_patch (by decide) hpatch
  · exact not_atomic_of_toggle (by decide) (otherWay patch id) hmoving

/-- Greeting and farewell are written before the layer that is to come first is checked. -/
theorem failsTo_changeConversation {w : World} {id : EntityId .conversation} {c : Conversation}
    {patch : ConversationPatch EntityId} {layer : EntityId .layer} (hc : w.get? id = some c)
    (hlayer : patch.startLayer = some layer) (hforeign : layer ∉ c.layers) :
    FailsTo (changeConversation id patch) w (w.put id { c with
      greeting := patch.greeting.or c.greeting
      farewell := patch.farewell.or c.farewell }) := by
  refine .of_bind (change_eq hc) ?_
  simp only [hlayer]
  refine .of_bind (find_present (get?_put_self _ _ _)) ⟨.foreignStartLayer layer c.symbol, ?_⟩
  have hcontains : c.layers.contains layer = false := by simpa using hforeign
  simp only [hcontains]
  rfl

theorem not_atomic_changeConversation (id : EntityId .conversation)
    {patch : ConversationPatch EntityId}
    (h : ¬(patch.startLayer = none ∨ patch.greeting = none ∧ patch.farewell = none)) :
    ¬Atomic (changeConversation id patch) := by
  obtain ⟨hlayer, htexts⟩ := not_or.1 h
  obtain ⟨layer, hlayer⟩ := Option.ne_none_iff_exists'.1 hlayer
  let c : Conversation := ⟨id, "", none, none, none, []⟩
  have hc : ((World.empty {} "").put id c).get? id = some c := get?_put_self _ _ _
  refine (failsTo_changeConversation hc hlayer List.not_mem_nil).not_atomic id fun heq => ?_
  rw [get?_put_self, hc] at heq
  refine htexts ⟨?_, ?_⟩
  · simpa [c] using congrArg Conversation.greeting (Option.some.inj heq)
  · simpa [c] using congrArg Conversation.farewell (Option.some.inj heq)

/-- An effect that does not check first changes something in some world where it fails. -/
theorem not_atomic_apply {effect : Effect EntityId ObjectRef} (h : ¬effect.ChecksFirst) :
    ¬Atomic (apply effect) := by
  cases effect with
  | addInventoryItems items => exact not_atomic_addInventoryItems h
  | removeItem item => exact not_atomic_removeItem item
  | take item leave grants => exact not_atomic_takeItem item h
  | changeAction action enabling => exact not_atomic_changeAction action h
  | changeItem item patch => exact not_atomic_changeItem item h
  | changePerson person patch => exact not_atomic_changePerson person h
  | changeWay way patch => exact not_atomic_changeWay way h
  | changeConversation conversation patch => exact not_atomic_changeConversation conversation h
  | removeInventoryItem | move | sequence | changeInventoryItem | changeLocation | changeChoice
  | changeInteraction | endGame => exact absurd trivial h

end Edit

namespace Act

/-- The effects that leave the world as it is wherever they fail are those that check first. -/
theorem unchanged_iff_checksFirst (effect : Effect EntityId ObjectRef) :
    (∀ p failure p', perform effect p = (.error failure, p') → p'.world = p.world) ↔
      effect.ChecksFirst := by
  constructor
  · intro h
    by_contra hlate
    refine Edit.not_atomic_apply hlate fun w failure w' happly => ?_
    have hrun := perform_of_error (p := { world := w }) (congrArg Prod.fst happly)
    have hworld := h _ _ _ hrun
    rwa [happly] at hworld
  · intro h p failure p' hrun
    rcases perform_eq effect p with ⟨_, hok, -⟩ | ⟨failure', happly, hfails⟩
    · rw [hok] at hrun
      cases hrun
    · obtain ⟨-, rfl⟩ := Prod.mk.inj (hfails.symm.trans hrun)
      exact Edit.atomic_apply h p.world failure' _ (Prod.ext happly rfl)

/-- A chat and a song, each with a layer of its own. -/
def songWorld : World :=
  { World.empty {} "" with
    conversations := .ofList
      [(⟨⟨1⟩⟩, ⟨⟨⟨1⟩⟩, "chat", some "Who goes?", none, some ⟨⟨3⟩⟩, [⟨⟨3⟩⟩]⟩),
       (⟨⟨2⟩⟩, ⟨⟨⟨2⟩⟩, "song", none, none, some ⟨⟨4⟩⟩, [⟨⟨4⟩⟩]⟩)]
    layers := .ofList
      [(⟨⟨3⟩⟩, ⟨⟨⟨3⟩⟩, "main", ⟨⟨1⟩⟩, []⟩), (⟨⟨4⟩⟩, ⟨⟨⟨4⟩⟩, "verse", ⟨⟨2⟩⟩, []⟩)] }

/-- The chat cannot begin with the song, but it has a new greeting when that is found out. -/
theorem changed_songWorld : ∃ (chat : EntityId .conversation) (p' : Play),
    perform (.changeConversation chat { greeting := some "Begone.", startLayer := some ⟨⟨4⟩⟩ })
      { world := songWorld } = (.error (.foreignStartLayer ⟨⟨4⟩⟩ "chat"), p') ∧
    (songWorld.get? chat).bind Conversation.greeting = some "Who goes?" ∧
    (p'.world.get? chat).bind Conversation.greeting = some "Begone." ∧ p'.world ≠ songWorld := by
  refine ⟨⟨⟨1⟩⟩, _, rfl, rfl, rfl, fun h => ?_⟩
  have hgreeting := congrArg
    (fun w => (World.get? w (⟨⟨1⟩⟩ : EntityId .conversation)).bind Conversation.greeting) h
  exact absurd hgreeting (by decide)

end Act

end Adventure
