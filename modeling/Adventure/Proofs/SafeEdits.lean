import Adventure.Proofs.Soundness

/-!
# Edits that do not fail

An edit is safe (`Safe`) if it does not fail in an intact world and leaves one. What the effects of
a sound world name exists, so each finds what it looks for and all of them are safe (`safe_apply`).
Flags are set along walks through the graph of actions; the walks of an action that has finitely
many of them meet no cycle (`safe_setEnabledFrom`).
-/

namespace Adventure

namespace Edit

open World Steps

variable {kind : EntityKind} {base : World}

/-- An edit does not fail in an intact world and leaves one. -/
def Safe (base : World) (m : Edit Unit) : Prop := Succeeds (Intact base) m fun _ => Intact base

theorem Safe.of_keeps {m : Edit Unit} (h : Moves Keeps m)
    (hok : ∀ w, Intact base w → ∃ w', m w = (.ok (), w')) : Safe base m := by
  intro w hw
  obtain ⟨w', heq⟩ := hok w hw
  have hkeeps := h w
  rw [heq] at hkeeps
  exact ⟨(), w', heq, hw.keeps hkeeps⟩

theorem succeeds_find {id : EntityId kind} (hid : base.Has id) :
    Succeeds (Intact base) (find id) fun e w => Intact base w ∧ w.get? id = some e := by
  intro w hw
  obtain ⟨e, he⟩ := hw.has hid
  exact ⟨e, w, find_present he, hw, he⟩

/-- What follows a look for an entity that exists may rely on having found it. -/
theorem succeeds_find_bind {α : Type} {Q : α → World → Prop} {id : EntityId kind}
    {f : Entity kind → Edit α} (hid : base.Has id)
    (hf : ∀ w e, Intact base w → w.get? id = some e → ∃ a w', f e w = (.ok a, w') ∧ Q a w') :
    Succeeds (Intact base) (find id >>= f) Q := by
  intro w hw
  obtain ⟨e, he⟩ := hw.has hid
  obtain ⟨a, w', heq, hq⟩ := hf w e hw he
  exact ⟨a, w', by rw [find_bind_eq f he, heq], hq⟩

theorem safe_pure : Safe base (pure ()) := .pure fun _ => id

theorem Safe.bind {m m' : Edit Unit} (h : Safe base m) (h' : Safe base m') :
    Safe base (m >>= fun _ => m') := Succeeds.bind h fun _ => h'

/-- A change of texts and flags of an entity that exists. -/
theorem safe_change {id : EntityId kind} {g : Entity kind → Entity kind} (hid : base.Has id)
    (ho : ∀ e, outline kind (g e) = outline kind e) (hl : ∀ e, link kind (g e) = link kind e) :
    Safe base (change id g) :=
  .of_keeps (keeps_change ho hl) fun w hw => by
    obtain ⟨e, he⟩ := hw.has hid
    exact ⟨_, change_eq he⟩

/-! ### Flags of actions -/

/-- Flags can be set along the walks of an action. -/
theorem safe_setEnabledFrom (value : Bool) {depth : Nat} {path : List (EntityId .action)}
    {id : EntityId .action} (hpath : base.Path path id) (hc : base.Cascading id)
    (hdepth : base.depth ≤ path.length + depth) :
    Safe base (setEnabledFrom value depth path id) := by
  induction hpath, hdepth using Path.induction with
  | step depth path id hpath _ ih =>
    rw [setEnabledFrom, hpath.contains_eq_false hc, if_neg Bool.false_ne_true]
    refine Safe.bind (safe_change hc.get? (fun _ => by rfl) fun _ => by rfl) ?_
    refine Succeeds.bind (succeeds_find hc.get?) fun action w hw => ?_
    obtain ⟨hw, haction⟩ := hw
    have hparts := partsOf_of_get?_of_sameSkeleton hw.skeleton haction
    cases heq : action.parts? with
    | none => exact safe_pure w hw
    | some parts =>
      refine Succeeds.forM parts (fun part hpart => ?_) w hw
      have hcontains : base.Contains id part := ⟨parts, hparts.trans heq, hpart⟩
      exact ih part (hpath.cons hc hcontains) (hc.of_contains hcontains)

theorem safe_setEnabled (hs : base.Sound) {id : EntityId .action} (hid : base.Has id)
    (value : Bool) : Safe base (setEnabled id value) := by
  intro w hw
  have hwalk : Safe base (setEnabledFrom value base.depth [] id) :=
    safe_setEnabledFrom value .nil (hs.finite id hid).cascading (by simp)
  rw [setEnabled, bind_of_ok (get_eq w), hw.depth_eq]
  exact hwalk w hw

/-- Own flag and own text of an object's action can be changed. -/
theorem safe_changeOwnAction (hs : base.Sound) {id : EntityId .action} (hid : base.Has id)
    (enabling : Toggle) (forbidden : Option String) :
    Safe base (changeOwnAction id enabling forbidden) := by
  have htext : Safe base
      (change id fun a => { a with forbiddenText := forbidden.or a.forbiddenText }) :=
    safe_change hid (fun _ => by rfl) fun _ => by rfl
  unfold changeOwnAction
  cases enabling.target? with
  | none => exact htext
  | some value => exact (safe_setEnabled hs hid value).bind htext

/-! ### Player and inventory -/

theorem safe_addInventoryItems :
    ∀ {ids : List (EntityId .inventoryItem)}, base.HasAll ids → Safe base (addInventoryItems ids)
  | [], _ => safe_pure
  | id :: ids, hids => by
    have hrest : Safe base (addInventoryItems ids) :=
      safe_addInventoryItems fun id' hmem => hids id' (List.mem_cons_of_mem _ hmem)
    exact succeeds_find_bind (hids id (by simp)) fun w i hw hi =>
      hrest _ (hw.keeps (keeps_receive hi))

theorem safe_removeInventoryItem {id : EntityId .inventoryItem} (hid : base.Has id) :
    Safe base (removeInventoryItem id) :=
  .of_keeps (keeps_removeInventoryItem id) fun w hw => by
    obtain ⟨i, hi⟩ := hw.has hid
    exact ⟨_, find_bind_eq _ hi⟩

theorem safe_movePlayer (hs : base.Sound) {id : EntityId .way} (hid : base.Has id) :
    Safe base (movePlayer id) :=
  .of_keeps (keeps_movePlayer id) fun w hw => by
    obtain ⟨way, hway⟩ := hw.has hid
    have hdestination : base.Has (Way.destination way) := (hw.fits hs hway).destination
    obtain ⟨l, hl⟩ := hw.has hdestination
    exact ⟨_, by rw [movePlayer, find_bind_eq _ hway, find_bind_eq _ hl]; rfl⟩

/-! ### Places of items and persons -/

theorem safe_removeItem {id : EntityId .item} (hid : base.Has id) : Safe base (removeItem id) := by
  refine .of_keeps (keeps_removeItem id) fun w hw => ?_
  obtain ⟨e, he⟩ := hw.has hid
  have hnowhere : ∀ new, (none : Option (EntityId .location)) = some new → w.Has new := nofun
  obtain ⟨w', heq, -⟩ := relocate_spec hw.placed.items he hnowhere
  exact ⟨w', by rw [removeItem_eq, heq]⟩

theorem safe_takeItem {id : EntityId .item} {grants : List (EntityId .inventoryItem)}
    (hid : base.Has id) (hgrants : base.HasAll grants) (leave : Bool) :
    Safe base (takeItem id leave grants) := by
  have hadd := safe_addInventoryItems hgrants
  refine succeeds_find_bind hid fun w e hw he => ?_
  cases leave with
  | false => exact hadd w hw
  | true => exact (safe_removeItem hid).bind hadd w hw

/-- A relocation that fits leads somewhere. -/
theorem destination_eq {w : World} {relocation : Relocation EntityId} (hw : Intact base w)
    (hfits : base.RelocationFits (some relocation)) :
    ∃ target, destination relocation w = (.ok target, w) ∧
      ∀ new, target = some new → ∃ l, w.get? new = some l := by
  match relocation, hfits with
  | .remove, _ => exact ⟨none, rfl, nofun⟩
  | .to location, hfits =>
    have hlocation : base.Has location := hfits
    obtain ⟨l, hl⟩ := hw.has hlocation
    exact ⟨some location, find_bind_eq _ hl, fun _ hnew => Option.some.inj hnew ▸ ⟨l, hl⟩⟩

theorem safe_relocateItem {id : EntityId .item} {relocation : Relocation EntityId}
    (hid : base.Has id) (hfits : base.RelocationFits (some relocation)) :
    Safe base (relocateItem id relocation) := by
  refine .of_keeps (keeps_relocateItem id relocation) fun w hw => ?_
  obtain ⟨target, htarget, hfound⟩ := destination_eq hw hfits
  obtain ⟨e, he⟩ := hw.has hid
  obtain ⟨w', heq, -⟩ := relocate_spec hw.placed.items he hfound
  exact ⟨w', by rw [relocateItem_eq, bind_of_ok htarget, heq]⟩

theorem safe_relocatePerson {id : EntityId .person} {relocation : Relocation EntityId}
    (hid : base.Has id) (hfits : base.RelocationFits (some relocation)) :
    Safe base (relocatePerson id relocation) := by
  refine .of_keeps (keeps_relocatePerson id relocation) fun w hw => ?_
  obtain ⟨target, htarget, hfound⟩ := destination_eq hw hfits
  obtain ⟨e, he⟩ := hw.has hid
  obtain ⟨w', heq, -⟩ := relocate_spec hw.placed.persons he hfound
  exact ⟨w', by rw [relocatePerson_eq, bind_of_ok htarget, heq]⟩

/-! ### Patches -/

/-- A link is safely written where it fits. -/
theorem change_of_fits {w : World} {id : EntityId kind} {e : Entity kind}
    {g : Entity kind → Entity kind} (hw : Intact base w) (he : w.get? id = some e)
    (ho : ∀ e, outline kind (g e) = outline kind e) (hfits : LinkFits w kind (g e)) :
    ∃ u w', change id g w = (.ok u, w') ∧ Intact base w' :=
  ⟨(), _, change_eq he, hw.keeps (.put he (ho e) fun _ => hfits)⟩

theorem safe_changeAction (hs : base.Sound) {id : EntityId .action} (hid : base.Has id)
    (enabling : Toggle) : Safe base (changeAction id enabling) := by
  refine succeeds_find_bind hid fun w _ hw _ => ?_
  cases enabling.target? with
  | none => exact safe_pure w hw
  | some value => exact safe_setEnabled hs hid value w hw

theorem safe_changeItem (hs : base.Sound) {id : EntityId .item} {patch : ItemPatch EntityId}
    (hid : base.Has id) (hfits : base.RelocationFits patch.relocation) :
    Safe base (changeItem id patch) := by
  refine succeeds_find_bind hid fun w item hw hitem => ?_
  have htake : base.Has (Item.takeAction item) := (hw.fits hs hitem).takeAction
  refine Safe.bind (safe_change hid (fun _ => by rfl) fun _ => by rfl)
    ((safe_changeOwnAction hs htake _ _).bind ?_) w hw
  cases hrelocation : patch.relocation with
  | none => exact safe_pure
  | some relocation =>
    rw [hrelocation] at hfits
    exact safe_relocateItem hid hfits

theorem safe_changePerson {id : EntityId .person} {patch : PersonPatch EntityId}
    (hid : base.Has id) (hfits : base.RelocationFits patch.relocation)
    (hconversation : ∀ conversation, patch.conversation = some conversation →
      base.Has conversation) :
    Safe base (changePerson id patch) := by
  unfold changePerson
  cases hpatch : patch.conversation with
  | none =>
    refine Safe.bind (safe_change hid (fun _ => by rfl) fun _ => by rfl) ?_
    split
    · exact safe_pure
    · rename_i relocation heq
      exact safe_relocatePerson hid (heq ▸ hfits)
  | some conversation =>
    refine succeeds_find_bind (hconversation conversation hpatch) fun w c hw hc => ?_
    obtain ⟨e, he⟩ := hw.has hid
    refine Succeeds.bind_at (change_of_fits hw he (fun _ => by rfl) ?_) fun _ => ?_
    · rintro id' ⟨⟩
      exact ⟨c, hc⟩
    · split
      · exact safe_pure
      · rename_i relocation heq
        exact safe_relocatePerson hid (heq ▸ hfits)

theorem safe_changeWay (hs : base.Sound) {id : EntityId .way} (hid : base.Has id)
    (patch : WayPatch) : Safe base (changeWay id patch) := by
  refine succeeds_find_bind hid fun w way hw hway => ?_
  have hmove : base.Has (Way.moveAction way) := (hw.fits hs hway).moveAction
  exact Safe.bind (safe_change hid (fun _ => by rfl) fun _ => by rfl)
    (safe_changeOwnAction hs hmove _ _) w hw

theorem safe_changeConversation {id : EntityId .conversation} {patch : ConversationPatch EntityId}
    {c₀ : Conversation} (hc₀ : base.get? id = some c₀)
    (hlayer : ∀ layer, patch.startLayer = some layer → layer ∈ Conversation.layers c₀) :
    Safe base (changeConversation id patch) := by
  refine Safe.bind (safe_change ⟨c₀, hc₀⟩ (fun _ => by rfl) fun _ => by rfl) ?_
  cases hpatch : patch.startLayer with
  | none => exact safe_pure
  | some layer =>
    refine succeeds_find_bind ⟨c₀, hc₀⟩ fun w c hw hc => ?_
    have hframe := hw.frame_eq hc₀ hc
    have hlayers := congrArg Conversation.layers hframe
    have hmem : layer ∈ Conversation.layers c := hlayers ▸ hlayer layer hpatch
    simp only [if_pos (List.contains_iff_mem.2 hmem)]
    refine change_of_fits hw hc (fun _ => by rfl) ?_
    rintro id' ⟨⟩
    exact hmem

theorem safe_changeChoice {id : EntityId .choice} {patch : ChoicePatch EntityId} {c₀ : Choice}
    (hc₀ : base.get? id = some c₀)
    (htarget : ∀ target, patch.target = some target →
      ∃ l, base.get? target = some l ∧ Layer.conversation l = Choice.conversation c₀) :
    Safe base (changeChoice id patch) := by
  unfold changeChoice
  cases hpatch : patch.target with
  | none => exact safe_change ⟨c₀, hc₀⟩ (fun _ => by rfl) fun _ => by rfl
  | some target =>
    obtain ⟨l₀, hl₀, heq⟩ := htarget target hpatch
    refine succeeds_find_bind ⟨c₀, hc₀⟩ fun w c hw hc => ?_
    have hlayer : base.Has target := ⟨l₀, hl₀⟩
    obtain ⟨l, hl⟩ := hw.has hlayer
    have hchoice := hw.frame_eq hc₀ hc
    have hframe := hw.frame_eq hl₀ hl
    have hown : Layer.conversation l = Choice.conversation c :=
      (congrArg Layer.conversation hframe).trans
        (heq.trans (congrArg Choice.conversation hchoice).symm)
    rw [find_bind_eq _ hl]
    simp only [if_neg (not_not.2 hown)]
    refine change_of_fits hw hc (fun _ => by rfl) ?_
    rintro id' ⟨⟩
    exact ⟨l, hl, hown⟩

theorem partners_frame (i : InventoryItem) :
    (InventoryItem.interactions (frame .inventoryItem i)).map (·.partner) =
      (InventoryItem.interactions i).map (·.partner) := by
  simp only [frame, List.map_map]
  rfl

/-- An item that interacts with a partner finds the interaction. -/
theorem interactionWith_isSome {i : InventoryItem} {partner : ObjectRef}
    (h : partner ∈ (InventoryItem.interactions i).map (·.partner)) :
    (InventoryItem.interactionWith i partner).isSome := by
  obtain ⟨x, hx, heq⟩ := List.mem_map.1 h
  simp only [InventoryItem.interactionWith, List.find?_isSome, decide_eq_true_eq]
  exact ⟨x, hx, heq⟩

theorem safe_changeInteraction {id : EntityId .inventoryItem} {partner : ObjectRef}
    {i₀ : InventoryItem} (hi₀ : base.get? id = some i₀)
    (hpartner : partner ∈ (InventoryItem.interactions i₀).map (·.partner))
    (patch : InteractionPatch) : Safe base (changeInteraction id partner patch) := by
  refine .of_keeps (keeps_changeInteraction id partner patch) fun w hw => ?_
  have hid : base.Has id := ⟨i₀, hi₀⟩
  obtain ⟨i, hi⟩ := hw.has hid
  have hframe := hw.frame_eq hi₀ hi
  have hpartners : (InventoryItem.interactions i).map (·.partner) =
      (InventoryItem.interactions i₀).map (·.partner) := by
    rw [← partners_frame, hframe, partners_frame]
  have hsome : (InventoryItem.interactionWith i partner).isSome :=
    interactionWith_isSome (hpartners ▸ hpartner)
  rw [changeInteraction, find_bind_eq _ hi]
  simp only [Option.isNone_iff_eq_none, Option.isSome_iff_ne_none.1 hsome, if_false]
  exact ⟨_, change_eq hi⟩

/-- No effect that names what exists fails, and the world is intact after it. -/
theorem safe_apply (hs : base.Sound) {effect : Effect EntityId ObjectRef}
    (hfits : base.EffectFits effect) : Safe base (apply effect) := by
  cases effect with
  | addInventoryItems items => exact safe_addInventoryItems hfits
  | removeInventoryItem item => exact safe_removeInventoryItem hfits
  | removeItem item => exact safe_removeItem hfits
  | move way => exact safe_movePlayer hs hfits
  | take item leave grants => exact safe_takeItem hfits.1 hfits.2 leave
  | sequence actions => exact safe_pure
  | changeAction action enabling => exact safe_changeAction hs hfits enabling
  | changeItem item patch => exact safe_changeItem hs hfits.1 hfits.2
  | changeInventoryItem item patch => exact safe_change hfits (fun _ => by rfl) fun _ => by rfl
  | changePerson person patch => exact safe_changePerson hfits.1 hfits.2.1 hfits.2.2
  | changeLocation location patch => exact safe_change hfits (fun _ => by rfl) fun _ => by rfl
  | changeWay way patch => exact safe_changeWay hs hfits patch
  | changeConversation conversation patch =>
    obtain ⟨c, hc, hlayer⟩ := hfits
    exact safe_changeConversation hc hlayer
  | changeChoice choice patch =>
    obtain ⟨c, hc, htarget⟩ := hfits
    exact safe_changeChoice hc htarget
  | changeInteraction item partner patch =>
    obtain ⟨i, hi, hpartner⟩ := hfits
    exact safe_changeInteraction hi hpartner patch
  | endGame text => exact safe_pure

end Edit

end Adventure
