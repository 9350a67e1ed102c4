import Adventure.Proofs.Developments

/-!
# What play never changes

The design of a world is what its author has laid down for good: the game's settings, which entities
there are and what they are called, how places, conversations and interactions hang together, the
phrasings that objects add and the actions that everything triggers. Worlds with one design are
compared here field by field (`World.SameDesign`). Play changes names, descriptions, texts, flags,
places and the references that patches rewrite, and nothing of the design, whatever is asked of the
engine and whether it fails or not (`World.keeps_design`).
-/

namespace Adventure

open Steps

namespace World

/-- Two worlds have entities of a kind with the same identifiers, and what is read of the entities
with one identifier is the same. -/
def Agree (kind : EntityKind) {β : Type} (read : Entity kind → β) (w w' : World) : Prop :=
  ∀ id : EntityId kind, (w'.get? id).map read = (w.get? id).map read

/-- Two worlds with one design. -/
structure SameDesign (w w' : World) : Prop where
  game : w'.game = w.game
  version : w'.version = w.version
  playerName : w'.player.name = w.player.name
  ids : ∀ kind, (w'.arena kind).ids = (w.arena kind).ids
  locations : Agree .location (fun l : Location => (l.id, l.symbol, l.waysOut)) w w'
  ways : Agree .way (fun v : Way =>
    (v.id, v.symbol, v.identifiers, v.origin, v.destination, v.moveAction, v.movePhrasings,
      v.moveActions, v.inspection.phrasings, v.inspection.actions)) w w'
  items : Agree .item (fun i : Item =>
    (i.id, i.symbol, i.identifiers, i.takeAction, i.takePhrasings, i.takeActions,
      i.usage.phrasings, i.usage.actions, i.inspection.phrasings, i.inspection.actions)) w w'
  inventoryItems : Agree .inventoryItem (fun i : InventoryItem =>
    (i.id, i.symbol, i.identifiers, i.usage.phrasings, i.usage.actions, i.inspection.phrasings,
      i.inspection.actions, i.interactions.map fun x => (x.partner, x.phrasings, x.actions))) w w'
  persons : Agree .person (fun p : Person =>
    (p.id, p.symbol, p.identifiers, p.talk.phrasings, p.talk.actions, p.inspection.phrasings,
      p.inspection.actions)) w w'
  conversations : Agree .conversation (fun c : Conversation => (c.id, c.symbol, c.layers)) w w'
  layers : Agree .layer (fun l => l) w w'
  choices : Agree .choice (fun c : Choice =>
    (c.id, c.symbol, c.conversation, c.layer, c.actions)) w w'
  actions : Agree .action (fun a : Action =>
    (a.id, a.symbol, a.name, a.owner, a.effect)) w w'

/-- Worlds of one skeleton agree in what is read off the frames of entities. -/
theorem Agree.of_sameSkeleton {w w' : World} {kind : EntityKind} {β : Type}
    {read : Entity kind → β} (hread : ∀ e, read (frame kind e) = read e)
    (h : SameSkeleton w w') : Agree kind read w w' := by
  intro id
  have hframe : ∀ w : World, (w.skeleton.get? id).map read = (w.get? id).map read := by
    intro w
    simp [Function.comp_def, hread]
  rw [← hframe w', ← hframe w, h]

theorem SameDesign.of_sameSkeleton {w w' : World} (h : SameSkeleton w w') : SameDesign w w' where
  game := congrArg Skeleton.game h
  version := congrArg Skeleton.version h
  playerName := congrArg Skeleton.playerName h
  ids kind := by
    have hids := congrArg (fun sk => (sk.entities kind).ids) h
    simpa [skeleton, view] using hids
  locations := .of_sameSkeleton (fun _ => rfl) h
  ways := .of_sameSkeleton (fun _ => rfl) h
  items := .of_sameSkeleton (fun _ => rfl) h
  inventoryItems := .of_sameSkeleton (fun i => by simp [frame]) h
  persons := .of_sameSkeleton (fun _ => rfl) h
  conversations := .of_sameSkeleton (fun _ => rfl) h
  layers := .of_sameSkeleton (fun _ => rfl) h
  choices := .of_sameSkeleton (fun _ => rfl) h
  actions := .of_sameSkeleton (fun _ => rfl) h

theorem Develops.sameDesign {w w' : World} (h : Develops w w') : SameDesign w w' :=
  .of_sameSkeleton h.keeps.skeleton

end World

theorem Dialogue.later_settle : ∀ (dialogue : Option Dialogue) (inputs : List Input),
    Moves Later (settle dialogue inputs)
  | none, _ => by
    unfold settle
    exact .pure _
  | some d, [] => (Act.later_hear d .ended).bind fun _ => .pure _
  | some d, input :: inputs =>
    (Act.later_hear d input).bind fun next => later_settle next inputs

open World

/-- Whatever the engine is asked to do, with whatever identifiers, lines and store and whether it
fails or not, the design of the world stays as it is: an action is triggered, its flag is set, a
choice is made, a conversation or a command is carried through, or a session goes on. -/
theorem World.keeps_design (p : Play) :
    (∀ id, SameDesign p.world (Act.trigger id p).2.world) ∧
    (∀ id value, SameDesign p.world (Edit.setEnabled id value p.world).2) ∧
    (∀ (t : Thread) speaker id, SameDesign p.world (t.choose speaker id p).2.world) ∧
    (∀ conversation speaker after (inputs : List Input), SameDesign p.world
      ((do Dialogue.settle (← Dialogue.begin conversation speaker after) inputs) p).2.world) ∧
    (∀ line (inputs : List Input), SameDesign p.world
      ((do Dialogue.settle (← Act.execute line) inputs) p).2.world) ∧
    ∀ phase (inputs : List Input), SameDesign p.world
      (inputs.foldl Session.step (⟨p, phase⟩ : Session)).play.world := by
  refine ⟨fun id => ?_, fun id value => ?_, fun t speaker id => ?_,
    fun conversation speaker after inputs => ?_, fun line inputs => ?_, fun phase inputs => ?_⟩
  · exact ((Act.made_trigger trivial id).later p).sameDesign
  · exact .of_sameSkeleton (Edit.keeps_setEnabled id value p.world).skeleton
  · exact ((Dialogue.made_choose t speaker id).later p).sameDesign
  · have hlater : Moves Later (do
        Dialogue.settle (← Dialogue.begin conversation speaker after) inputs : Act Unit) :=
      (Dialogue.made_begin trivial conversation speaker after).later.bind fun dialogue =>
        Dialogue.later_settle dialogue inputs
    exact (hlater p).sameDesign
  · have hlater : Moves Later (do Dialogue.settle (← Act.execute line) inputs : Act Unit) :=
      (Act.made_execute trivial line).later.bind fun dialogue =>
        Dialogue.later_settle dialogue inputs
    exact (hlater p).sameDesign
  · exact (Session.develops_foldl ⟨p, phase⟩ inputs).sameDesign

end Adventure
