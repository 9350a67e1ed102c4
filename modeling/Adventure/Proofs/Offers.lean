import Adventure.Proofs.Surroundings

/-!
# What conversations offer

A conversation goes on as long as the game is running and the layer where it is has an open choice
(`Play.GoesOn`). Then the open choices, and no others, are shown in the order of the layer and
numbered from one, and the player is asked (`Dialogue.proceed_of_goesOn`); otherwise the
conversation ends (`Dialogue.proceed_of_not_goesOn`). In an intact world none of this fails.
-/

namespace Adventure

open World

/-! ## Open choices -/

namespace World

variable {base w : World}

/-- Those of some choices that are enabled at present, in order. -/
def enabledOf (w : World) (ids : List (EntityId .choice)) : List (EntityId .choice × Choice) :=
  (ids.filterMap fun id => (w.get? id).map fun c => (id, c)).filter fun x => x.2.enabled

/-- The choices of a layer that are enabled at present, in the order of the layer. -/
def openChoices (w : World) : Option (EntityId .layer) → List (EntityId .choice × Choice)
  | some layer => match w.get? layer with
    | some l => w.enabledOf (Layer.choices l)
    | none => []
  | none => []

theorem of_mem_enabledOf {ids : List (EntityId .choice)} {x : EntityId .choice × Choice}
    (h : x ∈ w.enabledOf ids) : x.1 ∈ ids ∧ w.get? x.1 = some x.2 ∧ x.2.enabled = true := by
  obtain ⟨hmem, henabled⟩ := List.mem_filter.1 h
  obtain ⟨id, hid, hx⟩ := List.mem_filterMap.1 hmem
  obtain ⟨c, hc, rfl⟩ := Option.map_eq_some_iff.1 hx
  exact ⟨hid, hc, henabled⟩

theorem enabledOf_cons {id : EntityId .choice} {ids : List (EntityId .choice)} {c : Choice}
    (hc : w.get? id = some c) : w.enabledOf (id :: ids)
      = if c.enabled then (id, c) :: w.enabledOf ids else w.enabledOf ids := by
  rw [enabledOf, List.filterMap_cons_some (by rw [hc]; rfl), List.filter_cons]
  rfl

theorem enabledChoices_eq : ∀ {ids : List (EntityId .choice)}, w.HasAll ids →
    Thread.enabledChoices w ids = .ok ((w.enabledOf ids).map (·.1))
  | [], _ => rfl
  | id :: ids, h => by
    obtain ⟨c, hc⟩ := h id (by simp)
    have hrest := enabledChoices_eq fun id' hid' => h id' (List.mem_cons_of_mem _ hid')
    refine bind_eq_ok.2 ⟨c, find_of_get? hc, bind_eq_ok.2 ⟨_, hrest, ?_⟩⟩
    rw [enabledOf_cons hc]
    cases Choice.enabled c <;> rfl

theorem choiceTexts_eq : ∀ {choices : List (EntityId .choice × Choice)},
    (∀ x ∈ choices, w.get? x.1 = some x.2) →
    Dialogue.choiceTexts w (choices.map (·.1)) = .ok (choices.map (·.2.text))
  | [], _ => rfl
  | x :: choices, h => by
    have hrest := choiceTexts_eq fun y hy => h y (List.mem_cons_of_mem _ hy)
    rw [List.map_cons, Dialogue.choiceTexts, find_of_get? (h x (by simp)), hrest]
    rfl

/-- An open choice is enabled and belongs to the layer. -/
theorem of_mem_openChoices (hw : Intact base w) (hs : base.Sound)
    {layer : Option (EntityId .layer)} {x : EntityId .choice × Choice}
    (hx : x ∈ w.openChoices layer) :
    w.get? x.1 = some x.2 ∧ layer = some x.2.layer ∧ x.2.enabled = true := by
  unfold openChoices at hx
  split at hx
  · rename_i layer
    split at hx
    · rename_i l hl
      obtain ⟨hid, hc, henabled⟩ := of_mem_enabledOf hx
      obtain ⟨c₀, hc₀, hlayer⟩ := hw.fits hs hl x.1 hid
      have hframe := hw.frame_eq hc₀ hc
      have hown := (congrArg Choice.layer hframe).trans hlayer
      exact ⟨hc, congrArg some hown.symm, henabled⟩
    · cases hx
  · cases hx

end World

/-! ## Threads -/

namespace Thread

variable {base w : World}

/-- A thread whose layer exists. -/
def Fits (w : World) (t : Thread) : Prop := ∀ layer, t.layer = some layer → w.Has layer

theorem offered_eq (hw : Intact base w) (hs : base.Sound) {t : Thread} (ht : t.Fits base) :
    t.offered w = .ok ((w.openChoices t.layer).map (·.1)) := by
  unfold offered openChoices
  cases hlayer : t.layer with
  | none => rfl
  | some layer =>
    obtain ⟨l, hl⟩ := hw.has (ht layer hlayer)
    have hall : w.HasAll (Layer.choices l) := by
      intro id hid
      obtain ⟨c, hc, -⟩ := hw.fits hs hl id hid
      exact hw.has ⟨c, hc⟩
    refine bind_eq_ok.2 ⟨l, find_of_get? hl, ?_⟩
    simp only [hl]
    exact enabledChoices_eq hall

/-- A conversation begins in a layer that exists. -/
theorem fits_start (hw : Intact base w) (hs : base.Sound) {id : EntityId .conversation}
    {c : Conversation} (hc : w.get? id = some c) : Fits base ⟨id, c.startLayer⟩ := by
  have hlayers : base.HasAll c.layers := hw.fits hs hc
  exact fun layer hlayer => hlayers layer (hw.linked .conversation id c hc layer hlayer)

end Thread

/-! ## Plays -/

namespace Play

/-- The choices that are open where a conversation is. -/
def offers (p : Play) (layer : Option (EntityId .layer)) : List (EntityId .choice × Choice) :=
  p.world.openChoices layer

/-- The game is running and there is something to choose from. -/
def GoesOn (p : Play) (layer : Option (EntityId .layer)) : Prop :=
  p.status = .running ∧ p.offers layer ≠ []

/-- The question and the open choices, numbered from one. -/
def questions (p : Play) (layer : Option (EntityId .layer)) : List String :=
  p.world.game.texts.chooseOption ::
    (p.offers layer).mapIdx fun i x => "  " ++ toString (i + 1) ++ ". " ++ x.2.text

/-- The message that asks for a choice. -/
def question (p : Play) (layer : Option (EntityId .layer)) : ViewItem :=
  .conversationOptions p.world.game.texts.chooseOption ((p.offers layer).map (·.2.text))

/-- The play after what has been said before, the question and the open choices have been shown. -/
def offer (p : Play) (layer : Option (EntityId .layer)) : Play :=
  { p with
    view := []
    log := (Act.printed p.view ++ (p.questions layer).map (Event.line .neutral)).reverse ++ p.log
    said := p.said ++ [p.question layer] }

theorem numbered_map {α : Type} (f : α → String) (n : Nat) (as : List α) :
    ViewItem.numbered n (as.map f)
      = as.mapIdx fun i a => "  " ++ toString (n + i) ++ ". " ++ f a := by
  induction as generalizing n with
  | nil => rfl
  | cons a as ih =>
    rw [List.map_cons, ViewItem.numbered, ih, List.mapIdx_cons]
    simp only [Nat.add_zero, Nat.add_assoc, Nat.add_comm 1]

theorem printed_questions (p : Play) (layer : Option (EntityId .layer)) :
    Act.printed (p.view ++ [p.question layer])
      = Act.printed p.view ++ (p.questions layer).map (Event.line .neutral) := by
  rw [question, Act.printed, List.flatMap_append, List.flatMap_singleton, ViewItem.lines,
    numbered_map]
  simp only [Nat.add_comm 1]
  rfl

end Play

/-! ## Conversations -/

namespace Dialogue

open Steps

variable {base : World} {p : Play}

/-- The layer where a conversation goes on and the actions that follow it exist. -/
structure Fits (base : World) (d : Dialogue) : Prop where
  thread : d.thread.Fits base
  after : base.HasAll d.after

/-- Where the conversation goes on, the open choices are shown and one is waited for. -/
theorem proceed_of_goesOn (hw : Intact base p.world) (hs : base.Sound) {d : Dialogue}
    (hd : d.Fits base) (hgoes : p.GoesOn d.thread.layer) :
    d.proceed p = (.ok (some { d with offered := (p.offers d.thread.layer).map (·.1) }),
      p.offer d.thread.layer) := by
  obtain ⟨hrunning, hoffers⟩ := hgoes
  have hover : ¬p.isOver = true := by simp [Play.isOver, hrunning]
  have hlook : Act.look d.thread.offered p = (.ok ((p.offers d.thread.layer).map (·.1)), p) := by
    rw [Act.look, Thread.offered_eq hw hs hd.thread]
    rfl
  have hsome : ¬((p.offers d.thread.layer).map (·.1)).isEmpty = true := by simpa using hoffers
  have htexts : Act.look (fun w => choiceTexts w ((p.offers d.thread.layer).map (·.1))) p
      = (.ok ((p.offers d.thread.layer).map (·.2.text)), p) := by
    rw [Act.look, Play.offers, choiceTexts_eq fun x hx => (of_mem_openChoices hw hs hx).1]
  rw [proceed, bind_of_ok (get_eq p)]
  simp only [if_neg hover]
  rw [bind_of_ok hlook]
  simp only [if_neg hsome]
  rw [bind_of_ok htexts, Play.offer, ← Play.printed_questions]
  rfl

/-- Where it does not go on, it ends. -/
theorem proceed_of_not_goesOn (hw : Intact base p.world) (hs : base.Sound) {d : Dialogue}
    (hd : d.Fits base) (hgoes : ¬p.GoesOn d.thread.layer) :
    d.proceed p = d.close p := by
  rw [proceed, bind_of_ok (get_eq p)]
  by_cases hover : p.isOver = true
  · rw [if_pos hover]
  · have hrunning : p.status = .running := by simpa [Play.isOver] using hover
    have hoffers : p.offers d.thread.layer = [] := by
      by_contra hne
      exact hgoes ⟨hrunning, hne⟩
    have hlook : Act.look d.thread.offered p = (.ok [], p) := by
      rw [Act.look, Thread.offered_eq hw hs hd.thread, ← Play.offers, hoffers]
      rfl
    rw [if_neg hover, bind_of_ok hlook]
    rfl

/-- A conversation begins with the greeting, in its start layer. -/
theorem begin_eq {conversation : EntityId .conversation} {c : Conversation}
    (hc : p.world.get? conversation = some c) (speaker : String)
    (after : List (EntityId .action)) :
    begin conversation speaker after p =
      proceed ⟨⟨conversation, c.startLayer⟩, speaker, c.farewell, [], after⟩
        (p.say (c.greeting.toList.map (.speech speaker))) := by
  have hstart : ∀ q : Play, q.world = p.world →
      Act.look (Thread.start conversation) q = (.ok ⟨conversation, c.startLayer⟩, q) := by
    intro q hq
    have hok : Thread.start conversation p.world = .ok ⟨conversation, c.startLayer⟩ :=
      bind_eq_ok.2 ⟨c, find_of_get? hc, rfl⟩
    rw [Act.look, hq, hok]
  rw [begin, bind_of_ok (Act.find_present hc)]
  cases c.greeting with
  | none =>
    refine (bind_of_ok (hstart p rfl)).trans ?_
    rw [Option.toList_none, List.map_nil, Play.say_nil]
  | some greeting => exact bind_of_ok (hstart (p.say [.speech speaker greeting]) rfl)

end Dialogue

end Adventure
