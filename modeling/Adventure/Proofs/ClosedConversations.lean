import Adventure.Proofs.SoundStories
import Adventure.Proofs.Threads

/-!
# Conversations are closed

Which conversation a layer belongs to is written down three times: the layer says so, the
conversation lists its layers, and each choice names the conversation, the layer it is offered in
and the layer it leads to. In a closed world (`World.Closed`) all this agrees, so that nobody gets
from one conversation into another.

Stories make closed worlds (`World.Loaded.closed`), and nothing that happens in play opens them
(`World.Closed.keeps`), although patches rewrite start layers and targets, also while a
conversation is under way. A thread therefore stays within the conversation in which it has begun,
whatever happens between its choices (`Thread.Within.foldl`).
-/

namespace Adventure

open World

namespace World

/-- The layer exists and belongs to the conversation. -/
def Owns (w : World) (conversation : EntityId .conversation) (layer : EntityId .layer) : Prop :=
  ∃ l, w.get? layer = some l ∧ Layer.conversation l = conversation

/-- Conversations, layers and choices agree on what belongs together. -/
structure Closed (w : World) : Prop where
  layer : ∀ (id : EntityId .choice) (c : Choice), w.get? id = some c →
    w.Owns c.conversation c.layer
  target : ∀ (id : EntityId .choice) (c : Choice) (target : EntityId .layer),
    w.get? id = some c → c.target = some target → w.Owns c.conversation target
  startLayer : ∀ (id : EntityId .conversation) (c : Conversation) (layer : EntityId .layer),
    w.get? id = some c → c.startLayer = some layer → layer ∈ c.layers
  layers : ∀ (id : EntityId .conversation) (c : Conversation), w.get? id = some c →
    ∀ layer ∈ c.layers, w.Owns id layer

variable {w w' : World}

/-- To whom a layer belongs is part of the skeleton. -/
theorem Owns.of_sameSkeleton {conversation : EntityId .conversation} {layer : EntityId .layer}
    (h : w.Owns conversation layer) (hs : SameSkeleton w w') : w'.Owns conversation layer := by
  obtain ⟨l, hl, howner⟩ := h
  obtain ⟨l', hl', hframe⟩ := get?_of_view_eq (congrArg Skeleton.entities hs).symm hl
  have hconversation : Layer.conversation l = Layer.conversation l' :=
    congrArg Layer.conversation hframe
  exact ⟨l', hl', hconversation ▸ howner⟩

/-- Start layers and targets are links, which fit as before; all else is part of the skeleton. -/
theorem Closed.keeps (h : Closed w) (hk : Keeps w w') : Closed w' := by
  have hchoices : LinkedOf w' .choice :=
    hk.links .choice fun id c hc target htarget => h.target id c target hc htarget
  have hconversations : LinkedOf w' .conversation :=
    hk.links .conversation fun id c hc layer hlayer => h.startLayer id c layer hc hlayer
  have hview := congrArg Skeleton.entities hk.skeleton
  refine ⟨fun id c' hc' => ?_, fun id c' target hc' => hchoices id c' hc' target,
    fun id c' layer hc' => hconversations id c' hc' layer, fun id c' hc' layer hlayer => ?_⟩
  · obtain ⟨c, hc, hframe⟩ := get?_of_view_eq hview hc'
    have hconversation := congrArg Choice.conversation hframe
    have hlayer := congrArg Choice.layer hframe
    change w'.Owns (frame .choice c').conversation (frame .choice c').layer
    rw [hconversation, hlayer]
    exact (h.layer id c hc).of_sameSkeleton hk.skeleton
  · obtain ⟨c, hc, hframe⟩ := get?_of_view_eq hview hc'
    have hlayers := congrArg Conversation.layers hframe
    have hmem : layer ∈ Conversation.layers (frame .conversation c) := hlayers ▸ hlayer
    exact (h.layers id c hc layer hmem).of_sameSkeleton hk.skeleton

/-! ## Worlds of stories -/

section
variable {s : Story} (hs : s.Sound) (hd : s.DistinctIds)
include hs hd

theorem owns_ofStory {c : Story.Conversation} (hc : c ∈ s.conversations) {l : Story.Layer}
    (hl : l ∈ c.layers) : (ofStory s).Owns (idOf c.symbol) (idOf l.symbol) :=
  ⟨layerOf c l, get?_layer hs hd hc hl, rfl⟩

/-- Each layer is listed where it is defined and each choice is offered there; validation has seen
to start layers and targets. -/
theorem closed_ofStory : Closed (ofStory s) where
  layer id c hc := by
    rw [get?_ofStory hs hd] at hc
    obtain ⟨d, hconversation, hmem⟩ := List.mem_flatMap.1 hc
    obtain ⟨l, hlayer, hmem⟩ := List.mem_flatMap.1 hmem
    obtain ⟨o, -, heq⟩ := List.mem_map.1 hmem
    obtain ⟨-, rfl⟩ := Prod.mk.inj heq
    exact owns_ofStory hs hd hconversation hlayer
  target id c target hc htarget := linked_ofStory hs hd .choice id c hc target htarget
  startLayer id c layer hc hlayer := linked_ofStory hs hd .conversation id c hc layer hlayer
  layers id c hc layer hlayer := by
    rw [get?_ofStory hs hd] at hc
    obtain ⟨d, hconversation, heq⟩ := List.mem_map.1 hc
    obtain ⟨rfl, rfl⟩ := Prod.mk.inj heq
    obtain ⟨l, hl, rfl⟩ := List.mem_map.1 hlayer
    exact owns_ofStory hs hd hconversation hl

end

theorem Loaded.closed {s : Story} (h : Loaded s w) (hd : s.DistinctIds) : Closed w :=
  (closed_ofStory h.sound hd).keeps h.keeps

/-- Every conversation of a story can be begun. -/
theorem Loaded.exists_start {s : Story} (h : Loaded s w) (hd : s.DistinctIds)
    {c : Story.Conversation} (hc : c ∈ s.conversations) :
    ∃ t, Thread.start (idOf c.symbol) w = .ok t := by
  obtain ⟨c', hc'⟩ := h.has_conversation hd hc
  exact ⟨⟨_, Conversation.startLayer c'⟩, bind_eq_ok.2 ⟨c', find_of_get? hc', rfl⟩⟩

/-- No effect opens a closed world, whether it succeeds or fails. -/
theorem Closed.perform {p : Play} (h : Closed p.world) (effect : Effect EntityId ObjectRef) :
    Closed (Act.perform effect p).2.world :=
  h.keeps (Act.later_perform effect p).keeps

end World

/-! ## Threads -/

namespace Thread

open Steps

/-- What may happen while a conversation is under way. -/
inductive Move
  | perform (effect : Effect EntityId ObjectRef)
  | trigger (action : EntityId .action)
  | choose (speaker : String) (choice : EntityId .choice)
  | stop

/-- The thread and the play after a move. A choice that fails leaves the thread where it is, with
whatever its actions have done by then. -/
def move (t : Thread × Play) : Move → Thread × Play
  | .perform effect => (t.1, (Act.perform effect t.2).2)
  | .trigger action => (t.1, (Act.trigger action t.2).2)
  | .choose speaker choice => match t.1.choose speaker choice t.2 with
    | (.ok t', p') => (t', p')
    | (.error _, p') => (t.1, p')
  | .stop => (t.1.stop, t.2)

/-- The thread is at a layer of the conversation in a closed world, or has ended there. -/
structure Within (conversation : EntityId .conversation) (t : Thread × Play) : Prop where
  closed : Closed t.2.world
  conversation_eq : t.1.conversation = conversation
  layer : ∀ layer, t.1.layer = some layer → t.2.world.Owns conversation layer

variable {conversation : EntityId .conversation} {t : Thread × Play}

/-- Whatever happens to the world, the thread stays where it is and its layer with its owner. -/
theorem Within.keeps (h : Within conversation t) {p : Play} (hk : Keeps t.2.world p.world) :
    Within conversation (t.1, p) :=
  ⟨h.closed.keeps hk, h.conversation_eq, fun layer hlayer =>
    (h.layer layer hlayer).of_sameSkeleton hk.skeleton⟩

/-- A choice leads on from the layer that it is offered in, and its target, which was read before
its actions ran, belongs to the same conversation. -/
theorem Within.choose (h : Within conversation t) {speaker : String} {id : EntityId .choice}
    {t' : Thread} {p' : Play} (hchoose : t.1.choose speaker id t.2 = (.ok t', p')) :
    Within conversation (t', p') := by
  have hkeeps : Keeps t.2.world p'.world := by
    have hlater := (Dialogue.made_choose t.1 speaker id).later t.2
    rw [hchoose] at hlater
    exact hlater.keeps
  obtain ⟨c, hc, hlayer, rfl⟩ := of_choose_ok hchoose
  have howner : Choice.conversation c = conversation := by
    obtain ⟨l, hl, hl'⟩ := h.layer _ hlayer
    obtain ⟨l', hl'', hown⟩ := h.closed.layer id c hc
    obtain rfl := Option.some.inj (hl.symm.trans hl'')
    exact hown.symm.trans hl'
  refine ⟨h.closed.keeps hkeeps, h.conversation_eq, fun target htarget => ?_⟩
  rw [← howner]
  exact (h.closed.target id c target hc htarget).of_sameSkeleton hkeeps.skeleton

theorem Within.move (h : Within conversation t) (m : Move) : Within conversation (move t m) := by
  cases m with
  | perform effect => exact h.keeps (Act.later_perform effect t.2).keeps
  | trigger action => exact h.keeps ((Act.made_trigger trivial action).later t.2).keeps
  | stop => exact ⟨h.closed, h.conversation_eq, nofun⟩
  | choose speaker id =>
    unfold Thread.move
    dsimp only
    split
    · rename_i hchoose
      exact h.choose hchoose
    · rename_i p' hchoose
      have hlater := (Dialogue.made_choose t.1 speaker id).later t.2
      rw [hchoose] at hlater
      exact h.keeps hlater.keeps

theorem Within.foldl (h : Within conversation t) (moves : List Move) :
    Within conversation (moves.foldl Thread.move t) := by
  induction moves generalizing t with
  | nil => exact h
  | cons m moves ih => exact ih (h.move m)

/-- A thread begins at the start layer, which the conversation lists. -/
theorem within_of_start {p : Play} {t : Thread} (h : Closed p.world)
    (hstart : start conversation p.world = .ok t) : Within conversation (t, p) := by
  obtain ⟨c, hfind, ht⟩ := bind_eq_ok.1 hstart
  obtain rfl := Except.ok.inj ht
  have hc := find_eq_ok.1 hfind
  exact ⟨h, rfl, fun layer hlayer =>
    h.layers conversation c hc layer (h.startLayer conversation c layer hc hlayer)⟩

end Thread

/-! ## Closed for good -/

/-- Stories make closed worlds; no effect, whatever it names and whether it succeeds or fails, opens
a closed world; and in a closed world a thread is only ever at layers of the conversation in which
it has begun, whatever effects, actions and choices follow each other.

Layers and choices are found by digests of their symbols. If two symbols had the same digest one
layer would take the place of another, which might belong to another conversation: hence
`Story.DistinctIds`. -/
theorem World.conversations_closed :
    (∀ (s : Story) (w : World), s.DistinctIds → load s = .ok w → Closed w) ∧
    (∀ (p : Play) (effect : Effect EntityId ObjectRef), Closed p.world →
      Closed (Act.perform effect p).2.world) ∧
    ∀ (p : Play) (conversation : EntityId .conversation) (t : Thread) (moves : List Thread.Move),
      Closed p.world → Thread.start conversation p.world = .ok t →
      ∀ t' p', (t', p') = moves.foldl Thread.move (t, p) →
        t'.conversation = conversation ∧
        ∀ layer, t'.layer = some layer → p'.world.Owns conversation layer := by
  refine ⟨fun s w hd hload => (loaded_of_load hload).closed hd, fun p effect h => h.perform effect,
    fun p conversation t moves hclosed hstart t' p' heq => ?_⟩
  have hwithin := (Thread.within_of_start hclosed hstart).foldl moves
  rw [← heq] at hwithin
  exact ⟨hwithin.conversation_eq, hwithin.layer⟩

/-- The lamp is taken before the guard is asked their only question. -/
theorem World.conversations_closed_gateStory : ∃ w t,
    load Story.gateStory = .ok w ∧ Thread.start (idOf "chat") w = .ok t ∧
      Closed (Act.perform (.move (idOf "gate")) ({ world := w } : Play)).2.world ∧
      ∀ t' p', (t', p') = [Thread.Move.trigger (.owned "lamp" "take"),
          .choose "Guard" (idOf "ask")].foldl Thread.move (t, { world := w }) →
        t'.conversation = idOf "chat" ∧
        ∀ layer, t'.layer = some layer → p'.world.Owns (idOf "chat") layer := by
  obtain ⟨w, hload⟩ := load_gateStory
  have hd := Story.distinctIds_gateStory
  obtain ⟨t, hstart⟩ := (loaded_of_load hload).exists_start hd (List.mem_singleton.2 rfl)
  obtain ⟨hclosed, hperform, hthreads⟩ := conversations_closed
  have hw := hclosed Story.gateStory w hd hload
  exact ⟨w, t, hload, hstart, hperform { world := w } _ hw,
    hthreads { world := w } _ t _ hw hstart⟩

end Adventure
