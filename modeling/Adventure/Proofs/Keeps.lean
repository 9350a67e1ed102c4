import Adventure.Proofs.Links
import Adventure.Proofs.Placement

/-!
# What effects keep

No effect touches the skeleton of a world or harms its places and links, whichever identifiers it
is given and whether it succeeds or fails (`Edit.keeps_apply`). A change of an entity keeps all
this if its outline stays the same and its link, if it has one, still fits; relocations go through
worlds in which the places disagree, but do not stop there.
-/

namespace Adventure

namespace World

variable {kind : EntityKind}

/-- What of an entity shows neither in texts and flags nor in links. -/
def outline (kind : EntityKind) (e : Entity kind) : Entity kind ×
    (List (EntityId .item) × Option (EntityId .location)) ×
    (List (EntityId .person) × Option (EntityId .location)) :=
  (frame kind e, Seating.items.shown kind e, Seating.persons.shown kind e)

/-- The second world has the skeleton of the first one, and its places and the links of each kind
are in order if those of the first one are. -/
structure Keeps (w w' : World) : Prop where
  skeleton : SameSkeleton w w'
  places : WellPlaced w → WellPlaced w'
  links : ∀ kind, LinkedOf w kind → LinkedOf w' kind

instance : Std.Refl Keeps := ⟨fun w => ⟨refl_of SameSkeleton w, id, fun _ => id⟩⟩

instance : IsTrans World Keeps :=
  ⟨fun _ _ _ h h' => ⟨trans_of _ h.skeleton h'.skeleton, fun hw => h'.places (h.places hw),
    fun kind hw => h'.links kind (h.links kind hw)⟩⟩

namespace Keeps

variable {w : World}

theorem put {id : EntityId kind} {e e' : Entity kind} (he : w.get? id = some e)
    (ho : outline kind e' = outline kind e) (hl : LinkFits w kind e → LinkFits w kind e') :
    Keeps w (w.put id e') := by
  obtain ⟨hframe, hshown⟩ := Prod.mk.inj ho
  obtain ⟨hitems, hpersons⟩ := Prod.mk.inj hshown
  exact ⟨skeleton_put he hframe,
    fun h => h.of_alike (.put he hitems) (.put he hpersons) (skeleton_put he hframe),
    fun _ h => h.put he hframe hl⟩

/-- A player who stays in order: whatever is new about them exists. -/
theorem player {p : Player} (hname : p.name = w.player.name)
    (honce : w.player.inventory.Nodup → p.inventory.Nodup)
    (hcarried : ∀ id ∈ p.inventory, id ∈ w.player.inventory ∨ ∃ e, w.get? id = some e)
    (hhere : p.location = w.player.location ∨ ∃ l, w.get? p.location = some l) :
    Keeps w { w with player := p } where
  skeleton := by simp [SameSkeleton, World.skeleton, hname]
  places h := by
    refine h.of_player (honce h.carriedOnce) (fun id hid => ?_) ?_
    · exact (hcarried id hid).elim (h.carried id) fun he => he
    · exact hhere.elim (fun heq => heq ▸ h.here) fun hl => hl
  links _ h := h.of_player p

end Keeps

end World

namespace Edit

open World Steps

variable {kind : EntityKind}

/-! ## Changes -/

/-- A change of texts and flags. -/
theorem keeps_change {id : EntityId kind} {g : Entity kind → Entity kind}
    (ho : ∀ e, outline kind (g e) = outline kind e) (hl : ∀ e, link kind (g e) = link kind e) :
    Moves Keeps (change id g) :=
  moves_change fun _ e he => .put he (ho e) fun h => h.of_link_eq (Prod.mk.inj (ho e)).1 (hl e)

/-- A link is written where it fits. -/
theorem keeps_change_of_fits {w : World} {id : EntityId kind} {g : Entity kind → Entity kind}
    (ho : ∀ e, outline kind (g e) = outline kind e)
    (hfits : ∀ e, w.get? id = some e → LinkFits w kind (g e)) : Keeps w (change id g w).2 := by
  cases he : w.get? id with
  | none => simpa [change, World.find, he] using refl_of Keeps w
  | some e =>
    rw [change_eq he]
    exact .put he (ho e) fun _ => hfits e he

theorem keeps_enable {value : Bool} (id : EntityId .action) :
    Moves Keeps (change id fun a => { a with enabled := value }) :=
  keeps_change (fun _ => by rfl) fun _ => by rfl

theorem keeps_setEnabled (id : EntityId .action) (value : Bool) :
    Moves Keeps (setEnabled id value) :=
  moves_setEnabled keeps_enable id

theorem keeps_disableParts : Moves Keeps disableParts := moves_disableParts keeps_enable

theorem keeps_changeOwnAction (id : EntityId .action) (enabling : Toggle)
    (forbidden : Option String) : Moves Keeps (changeOwnAction id enabling forbidden) :=
  moves_changeOwnAction (fun _ => keeps_enable)
    (fun _ => keeps_change (fun _ => by rfl) fun _ => by rfl) id enabling

/-! ## Player and inventory -/

theorem keeps_receive {w : World} {id : EntityId .inventoryItem} {i : InventoryItem}
    (hi : w.get? id = some i) :
    Keeps w { w with player := { w.player with inventory := addOnce id w.player.inventory } } := by
  refine .player rfl nodup_addOnce (fun id' hmem => ?_) (.inl rfl)
  rcases mem_addOnce.1 hmem with hmem | rfl
  · exact .inl hmem
  · exact .inr ⟨i, hi⟩

theorem keeps_addInventoryItems :
    ∀ ids : List (EntityId .inventoryItem), Moves Keeps (addInventoryItems ids)
  | [] => .pure _
  | _ :: ids =>
    moves_find_bind fun _ _ hi => trans_of Keeps (keeps_receive hi) (keeps_addInventoryItems ids _)

theorem keeps_removeInventoryItem (id : EntityId .inventoryItem) :
    Moves Keeps (removeInventoryItem id) :=
  moves_find_bind fun _ _ _ => .player rfl (fun h => h.filter _)
    (fun _ hmem => .inl (mem_remove.1 hmem).1) (.inl rfl)

theorem keeps_movePlayer (id : EntityId .way) : Moves Keeps (movePlayer id) :=
  moves_find_bind fun _ _ _ => find_bind_at fun l hl =>
    .player rfl (fun h => h) (fun _ hmem => .inl hmem) (.inr ⟨l, hl⟩)

/-! ## Places of items and persons -/

section
variable {w : World} {target : Option (EntityId .location)}
  (htarget : ∀ new, target = some new → ∃ l, w.get? new = some l)
include htarget

theorem keeps_relocate_items (id : EntityId .item) : Keeps w (relocate .items id target w).2 := by
  have hframe : Alike frame w (relocate .items id target w).2 :=
    alike_relocate (fun _ _ => rfl) (fun _ _ => rfl) target w
  have hpersons : Alike Seating.persons.shown w (relocate .items id target w).2 :=
    alike_relocate (fun _ _ => rfl) (fun _ _ => rfl) target w
  have hlink : Alike link w (relocate .items id target w).2 :=
    alike_relocate (fun _ _ => rfl) (fun _ _ => rfl) target w
  exact ⟨hframe.sameSkeleton, fun h => h.of_placed (placed_relocate h.items htarget)
    (h.persons.of_alike hpersons) hpersons.player hframe.sameSkeleton,
    fun _ h => h.of_alike hlink hframe.sameSkeleton⟩

theorem keeps_relocate_persons (id : EntityId .person) :
    Keeps w (relocate .persons id target w).2 := by
  have hframe : Alike frame w (relocate .persons id target w).2 :=
    alike_relocate (fun _ _ => rfl) (fun _ _ => rfl) target w
  have hitems : Alike Seating.items.shown w (relocate .persons id target w).2 :=
    alike_relocate (fun _ _ => rfl) (fun _ _ => rfl) target w
  have hlink : Alike link w (relocate .persons id target w).2 :=
    alike_relocate (fun _ _ => rfl) (fun _ _ => rfl) target w
  exact ⟨hframe.sameSkeleton, fun h => h.of_placed (h.items.of_alike hitems)
    (placed_relocate h.persons htarget) hitems.player hframe.sameSkeleton,
    fun _ h => h.of_alike hlink hframe.sameSkeleton⟩

end

theorem keeps_removeItem (id : EntityId .item) : Moves Keeps (removeItem id) := by
  intro w
  rw [removeItem_eq]
  exact keeps_relocate_items (by nofun) id

/-- What follows a look for a destination matters only where there is one. -/
theorem destination_bind_at {w : World} {relocation : Relocation EntityId}
    {f : Option (EntityId .location) → Edit Unit}
    (h : ∀ target, (∀ new, target = some new → ∃ l, w.get? new = some l) → Keeps w (f target w).2) :
    Keeps w ((destination relocation >>= f) w).2 := by
  rcases destination_spec w relocation with ⟨target, hdest, htarget⟩ | ⟨failure, hdest⟩
  · rw [bind_of_ok hdest]
    exact h target htarget
  · rw [bind_of_error hdest]
    exact refl_of Keeps w

theorem keeps_relocateItem (id : EntityId .item) (relocation : Relocation EntityId) :
    Moves Keeps (relocateItem id relocation) := by
  intro w
  rw [relocateItem_eq]
  exact destination_bind_at fun target htarget => keeps_relocate_items htarget id

theorem keeps_relocatePerson (id : EntityId .person) (relocation : Relocation EntityId) :
    Moves Keeps (relocatePerson id relocation) := by
  intro w
  rw [relocatePerson_eq]
  exact destination_bind_at fun target htarget => keeps_relocate_persons htarget id

/-! ## Patches -/

theorem keeps_changeItem (id : EntityId .item) (patch : ItemPatch EntityId) :
    Moves Keeps (changeItem id patch) := by
  refine (moves_find id).bind fun item => Moves.bind ?_ fun _ =>
    (keeps_changeOwnAction _ _ _).bind fun _ => ?_
  · exact keeps_change (fun _ => by rfl) fun _ => by rfl
  · split
    · exact .pure _
    · exact keeps_relocateItem id _

theorem keeps_changeInventoryItem (id : EntityId .inventoryItem) (patch : InventoryItemPatch) :
    Moves Keeps (changeInventoryItem id patch) :=
  keeps_change (fun _ => by rfl) fun _ => by rfl

theorem keeps_changePerson (id : EntityId .person) (patch : PersonPatch EntityId) :
    Moves Keeps (changePerson id patch) := by
  unfold changePerson
  cases patch.conversation with
  | none =>
    refine Moves.bind ?_ fun _ => ?_
    · exact keeps_change (fun _ => by rfl) fun _ => by rfl
    · split
      · exact .pure _
      · exact keeps_relocatePerson id _
  | some conversation =>
    refine moves_find_bind fun w c hc => Moves.bind_at ?_ fun _ => ?_
    · refine keeps_change_of_fits (fun _ => by rfl) fun p _ => ?_
      rintro id' ⟨⟩
      exact ⟨c, hc⟩
    · split
      · exact .pure _
      · exact keeps_relocatePerson id _

theorem keeps_changeLocation (id : EntityId .location) (patch : LocationPatch) :
    Moves Keeps (changeLocation id patch) :=
  keeps_change (fun _ => by rfl) fun _ => by rfl

theorem keeps_changeWay (id : EntityId .way) (patch : WayPatch) :
    Moves Keeps (changeWay id patch) := by
  refine (moves_find id).bind fun way => Moves.bind ?_ fun _ => keeps_changeOwnAction _ _ _
  exact keeps_change (fun _ => by rfl) fun _ => by rfl

theorem keeps_changeConversation (id : EntityId .conversation)
    (patch : ConversationPatch EntityId) : Moves Keeps (changeConversation id patch) := by
  refine Moves.bind ?_ fun _ => ?_
  · exact keeps_change (fun _ => by rfl) fun _ => by rfl
  · cases patch.startLayer with
    | none => exact .pure _
    | some layer =>
      refine moves_find_bind fun w c hc => ?_
      by_cases hmem : (Conversation.layers c).contains layer = true
      · simp only [if_pos hmem]
        refine keeps_change_of_fits (fun _ => by rfl) fun c' hc' => ?_
        obtain rfl := Option.some.inj (hc.symm.trans hc')
        rintro id' ⟨⟩
        exact List.contains_iff_mem.1 hmem
      · simp only [if_neg hmem]
        exact moves_fail _ w

theorem keeps_changeChoice (id : EntityId .choice) (patch : ChoicePatch EntityId) :
    Moves Keeps (changeChoice id patch) := by
  unfold changeChoice
  cases patch.target with
  | none => exact keeps_change (fun _ => by rfl) fun _ => by rfl
  | some target =>
    refine moves_find_bind fun w c hc => find_bind_at fun l hl => ?_
    by_cases hforeign : Layer.conversation l ≠ Choice.conversation c
    · simp only [if_pos hforeign]
      exact refl_of Keeps w
    · simp only [if_neg hforeign]
      refine keeps_change_of_fits (fun _ => by rfl) fun c' hc' => ?_
      obtain rfl := Option.some.inj (hc.symm.trans hc')
      rintro id' ⟨⟩
      exact ⟨l, hl, not_not.1 hforeign⟩

theorem keeps_changeInteraction (id : EntityId .inventoryItem) (partner : ObjectRef)
    (patch : InteractionPatch) : Moves Keeps (changeInteraction id partner patch) := by
  refine (moves_find id).bind fun item => .ite (moves_look _) ?_
  refine keeps_change (fun i => ?_) fun _ => by rfl
  simp only [outline, frame]
  rw [map_changeFirst (g := patchInteraction patch) fun _ => rfl]
  rfl

/-- No effect, with whatever identifiers and whether it succeeds or fails, touches the skeleton or
harms places and links. -/
theorem keeps_apply (effect : Effect EntityId ObjectRef) : Moves Keeps (apply effect) := by
  cases effect with
  | addInventoryItems items => exact keeps_addInventoryItems items
  | removeInventoryItem item => exact keeps_removeInventoryItem item
  | removeItem item => exact keeps_removeItem item
  | move way => exact keeps_movePlayer way
  | take item leave grants =>
    have hgrants := keeps_addInventoryItems grants
    exact (moves_find item).bind fun _ =>
      .ite ((keeps_removeItem item).bind fun _ => hgrants) hgrants
  | sequence actions => exact .pure _
  | changeAction action enabling =>
    refine (moves_find action).bind fun _ => ?_
    split
    · exact .pure _
    · exact keeps_setEnabled action _
  | changeItem item patch => exact keeps_changeItem item patch
  | changeInventoryItem item patch => exact keeps_changeInventoryItem item patch
  | changePerson person patch => exact keeps_changePerson person patch
  | changeLocation location patch => exact keeps_changeLocation location patch
  | changeWay way patch => exact keeps_changeWay way patch
  | changeConversation conversation patch => exact keeps_changeConversation conversation patch
  | changeChoice choice patch => exact keeps_changeChoice choice patch
  | changeInteraction item partner patch => exact keeps_changeInteraction item partner patch
  | endGame text => exact .pure _

end Edit

end Adventure
