import Adventure.Entity.Identifier
import Adventure.Proofs.ActionGraph
import Adventure.Proofs.Commands
import Adventure.Proofs.Keeps

/-!
# Sound worlds

In a sound world (`Sound`) every reference of an entity leads to an entity, phrasings are templates
and identifiers expressions, effects name what they need and every action has finitely many walks.
Soundness is a matter of the skeleton: what is sound at the beginning of a game, `base`, stays so.
A world in which besides places and links are in order is called intact (`Intact`). An
intact world still has all that the entities of `base` need (`Intact.fits`).
-/

namespace Adventure

namespace World

variable {kind : EntityKind}

/-- There is an entity with a given identifier. -/
def Has (w : World) (id : EntityId kind) : Prop := ∃ e, w.get? id = some e

/-- There is an entity for each of some identifiers. -/
def HasAll (w : World) (ids : List (EntityId kind)) : Prop := ∀ id ∈ ids, w.Has id

/-- Texts that are templates for a verb. -/
def Phrased (verb : Verb) (texts : List String) : Prop := ∀ t ∈ texts, ValidPhrasing verb t

/-- Fragments that make up an expression. -/
def Identified (fragments : List String) : Prop := ∃ r, Identifier.compile fragments = .ok r

/-! ## What entities need -/

structure WayFits (w : World) (v : Way) : Prop where
  destination : w.Has v.destination
  identifiers : Identified v.identifiers
  movePhrasings : Phrased .move v.movePhrasings
  inspectPhrasings : Phrased .inspect v.inspection.phrasings
  moveAction : w.Has v.moveAction
  moveActions : w.HasAll v.moveActions
  inspectActions : w.HasAll v.inspection.actions

structure ItemFits (w : World) (i : Item) : Prop where
  identifiers : Identified i.identifiers
  takePhrasings : Phrased .take i.takePhrasings
  usePhrasings : Phrased .use i.usage.phrasings
  inspectPhrasings : Phrased .inspect i.inspection.phrasings
  takeAction : w.Has i.takeAction
  takeActions : w.HasAll i.takeActions
  useActions : w.HasAll i.usage.actions
  inspectActions : w.HasAll i.inspection.actions

structure InventoryItemFits (w : World) (i : InventoryItem) : Prop where
  identifiers : Identified i.identifiers
  usePhrasings : Phrased .use i.usage.phrasings
  inspectPhrasings : Phrased .inspect i.inspection.phrasings
  useActions : w.HasAll i.usage.actions
  inspectActions : w.HasAll i.inspection.actions
  interactions : ∀ x ∈ i.interactions, Phrased .useWith x.phrasings ∧ w.HasAll x.actions

structure PersonFits (w : World) (p : Person) : Prop where
  identifiers : Identified p.identifiers
  talkPhrasings : Phrased .talkTo p.talk.phrasings
  inspectPhrasings : Phrased .inspect p.inspection.phrasings
  talkActions : w.HasAll p.talk.actions
  inspectActions : w.HasAll p.inspection.actions

/-- A relocation leads to an existing location. -/
def RelocationFits (w : World) : Option (Relocation EntityId) → Prop
  | some (.to location) => w.Has location
  | _ => True

/-- What an effect names exists, and what it wants to write fits. -/
def EffectFits (w : World) : Effect EntityId ObjectRef → Prop
  | .addInventoryItems items => w.HasAll items
  | .removeInventoryItem item => w.Has item
  | .removeItem item => w.Has item
  | .move way => w.Has way
  | .take item _ grants => w.Has item ∧ w.HasAll grants
  | .sequence _ => True
  | .changeAction action _ => w.Has action
  | .changeItem item patch => w.Has item ∧ w.RelocationFits patch.relocation
  | .changeInventoryItem item _ => w.Has item
  | .changePerson person patch =>
    w.Has person ∧ w.RelocationFits patch.relocation ∧
      ∀ conversation, patch.conversation = some conversation → w.Has conversation
  | .changeLocation location _ => w.Has location
  | .changeWay way _ => w.Has way
  | .changeConversation conversation patch =>
    ∃ c, w.get? conversation = some c ∧
      ∀ layer, patch.startLayer = some layer → layer ∈ Conversation.layers c
  | .changeChoice choice patch =>
    ∃ c, w.get? choice = some c ∧ ∀ target, patch.target = some target →
      ∃ l, w.get? target = some l ∧ Layer.conversation l = Choice.conversation c
  | .changeInteraction item partner _ =>
    ∃ i, w.get? item = some i ∧ partner ∈ (InventoryItem.interactions i).map (·.partner)
  | .endGame _ => True

/-- What an entity needs for play not to fail. -/
def EntityFits (w : World) : (kind : EntityKind) → EntityId kind → Entity kind → Prop
  | .location, _, l => w.HasAll (Location.waysOut l)
  | .way, _, v => WayFits w v
  | .item, _, i => ItemFits w i
  | .inventoryItem, _, i => InventoryItemFits w i
  | .person, _, p => PersonFits w p
  | .conversation, _, c => w.HasAll (Conversation.layers c)
  | .layer, id, l => ∀ choice ∈ Layer.choices l,
      ∃ c, w.get? choice = some c ∧ Choice.layer c = id
  | .choice, _, c => w.HasAll (Choice.actions c)
  | .action, _, a => w.EffectFits (Action.effect a)

/-- A world in which entities have all that they need. -/
structure Sound (w : World) : Prop where
  entities : ∀ (kind : EntityKind) (id : EntityId kind) (e : Entity kind),
    w.get? id = some e → EntityFits w kind id (frame kind e)
  phrasings : ∀ verb, Phrased verb (w.game.phrasings.of verb)
  finite : ∀ id, w.Has id → w.Finite id

/-- A world that has come from `base` and in which places and links are in order. -/
structure Intact (base w : World) : Prop where
  skeleton : SameSkeleton base w
  placed : WellPlaced w
  linked : Linked w

namespace Intact

variable {base w : World}

theorem has (h : Intact base w) {id : EntityId kind} (hid : base.Has id) : w.Has id :=
  exists_of_sameSkeleton h.skeleton hid

theorem has_base (h : Intact base w) {id : EntityId kind} (hid : w.Has id) : base.Has id := by
  obtain ⟨e, he⟩ := hid
  obtain ⟨e', he', -⟩ := get?_of_view_eq (congrArg Skeleton.entities h.skeleton) he
  exact ⟨e', he'⟩

/-- An entity has the frame that it has had in the beginning. -/
theorem frame_eq (h : Intact base w) {id : EntityId kind} {e e₀ : Entity kind}
    (he₀ : base.get? id = some e₀) (he : w.get? id = some e) : frame kind e = frame kind e₀ := by
  obtain ⟨e', he', heq⟩ := get?_of_view_eq (congrArg Skeleton.entities h.skeleton) he
  obtain rfl := Option.some.inj (he₀.symm.trans he')
  exact heq

/-- An entity has what it needs, now as in the beginning. -/
theorem fits (h : Intact base w) (hs : base.Sound) {id : EntityId kind} {e : Entity kind}
    (he : w.get? id = some e) : EntityFits base kind id (frame kind e) := by
  obtain ⟨e₀, he₀⟩ := h.has_base ⟨e, he⟩
  rw [h.frame_eq he₀ he]
  exact hs.entities kind id e₀ he₀

theorem keeps {w' : World} (h : Intact base w) (hw : Keeps w w') : Intact base w' :=
  ⟨trans_of _ h.skeleton hw.skeleton, hw.places h.placed,
    fun kind => hw.links kind (h.linked kind)⟩

theorem depth_eq (h : Intact base w) : w.depth = base.depth := depth_of_skeleton_eq h.skeleton

end Intact

end World

end Adventure
