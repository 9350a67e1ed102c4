import Adventure.Proofs.Frames

/-!
# Links that patches rewrite

A person refers to a conversation, a conversation to its start layer and a choice to its target
layer, and patches rewrite these references. In a linked world (`Linked`) they lead to an existing
conversation, to a layer that the conversation lists and to an existing layer of the choice's
conversation.
-/

namespace Adventure

namespace World

variable {kind : EntityKind}

/-- The reference that a patch of the entity may rewrite leads somewhere sensible. -/
def LinkFits (w : World) : (kind : EntityKind) → Entity kind → Prop
  | .person, p => ∀ id, (Person.talk p).conversation = some id → ∃ c, w.get? id = some c
  | .conversation, c => ∀ id, Conversation.startLayer c = some id → id ∈ Conversation.layers c
  | .choice, c => ∀ id, Choice.target c = some id →
      ∃ l, w.get? id = some l ∧ Layer.conversation l = Choice.conversation c
  | .location, _ | .way, _ | .item, _ | .inventoryItem, _ | .layer, _ | .action, _ => True

/-- The references of all entities of a kind that patches may rewrite lead somewhere sensible. -/
def LinkedOf (w : World) (kind : EntityKind) : Prop :=
  ∀ (id : EntityId kind) (e : Entity kind), w.get? id = some e → LinkFits w kind e

/-- All references that patches may rewrite lead somewhere sensible. -/
def Linked (w : World) : Prop :=
  ∀ (kind : EntityKind) (id : EntityId kind) (e : Entity kind), w.get? id = some e →
    LinkFits w kind e

theorem LinkFits.of_sameSkeleton {w w' : World} (h : SameSkeleton w w') {e : Entity kind}
    (he : LinkFits w kind e) : LinkFits w' kind e := by
  cases kind with
  | person => exact fun id hid => exists_of_sameSkeleton h (he id hid)
  | conversation => exact he
  | choice =>
    intro id hid
    obtain ⟨l, hl, hconversation⟩ := he id hid
    obtain ⟨l', hl', heq⟩ := get?_of_view_eq (congrArg Skeleton.entities h).symm hl
    refine ⟨l', hl', ?_⟩
    rw [← hconversation]
    exact (congrArg Layer.conversation heq).symm
  | location | way | item | inventoryItem | layer | action => trivial

/-- Whether the reference fits depends on what neither patches nor anything else may change, and on
the reference itself. -/
theorem LinkFits.of_link_eq {w : World} {e e' : Entity kind} (he : LinkFits w kind e)
    (hframe : frame kind e' = frame kind e) (hlink : link kind e' = link kind e) :
    LinkFits w kind e' := by
  cases kind with
  | person =>
    have hlink : (Person.talk e').conversation = (Person.talk e).conversation := hlink
    exact fun id hid => he id (hlink ▸ hid)
  | conversation =>
    have hlink : Conversation.startLayer e' = Conversation.startLayer e := hlink
    have hlayers := congrArg Conversation.layers hframe
    intro id hid
    change id ∈ (frame .conversation e').layers
    rw [hlayers]
    exact he id (hlink ▸ hid)
  | choice =>
    have hlink : Choice.target e' = Choice.target e := hlink
    have hconversation := congrArg Choice.conversation hframe
    intro id hid
    change ∃ l, w.get? id = some l ∧ Layer.conversation l = (frame .choice e').conversation
    rw [hconversation]
    exact he id (hlink ▸ hid)
  | location | way | item | inventoryItem | layer | action => trivial

theorem LinkedOf.put {other : EntityKind} {w : World} (h : LinkedOf w other) {id : EntityId kind}
    {e e' : Entity kind} (he : w.get? id = some e) (hframe : frame kind e' = frame kind e)
    (hfits : LinkFits w kind e → LinkFits w kind e') : LinkedOf (w.put id e') other := by
  have hskeleton : SameSkeleton w (w.put id e') := skeleton_put he hframe
  intro id' e'' he''
  refine LinkFits.of_sameSkeleton hskeleton ?_
  by_cases hkind : other = kind
  · subst hkind
    rw [get?_put] at he''
    split at he''
    · obtain rfl := Option.some.inj he''
      exact hfits (h id e he)
    · exact h id' e'' he''
  · rw [get?_put_of_kind_ne hkind] at he''
    exact h id' e'' he''

theorem LinkedOf.of_alike {w w' : World} (h : LinkedOf w kind) (hlink : Alike link w w')
    (hs : SameSkeleton w w') : LinkedOf w' kind := by
  intro id e' he'
  obtain ⟨e, he, hlinkeq⟩ := get?_of_view_eq hlink.view he'
  obtain ⟨e₁, he₁, hframe⟩ := get?_of_view_eq (congrArg Skeleton.entities hs) he'
  obtain rfl := Option.some.inj (he.symm.trans he₁)
  exact ((h id e he).of_sameSkeleton hs).of_link_eq hframe hlinkeq

theorem LinkedOf.of_player {w : World} (h : LinkedOf w kind) (p : Player) :
    LinkedOf { w with player := p } kind := by
  intro id e he
  have hfits : LinkFits w kind e := h id e (by simpa using he)
  cases kind with
  | person => simpa [LinkFits] using hfits
  | conversation => exact hfits
  | choice => simpa [LinkFits] using hfits
  | location | way | item | inventoryItem | layer | action => trivial

end World

end Adventure
