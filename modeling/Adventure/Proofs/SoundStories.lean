import Adventure.Proofs.Beginnings
import Adventure.Proofs.CoherentStories
import Adventure.Proofs.CycleCheck
import Adventure.Proofs.Soundness

/-!
# The worlds of stories are sound

The three gates of loading together see to it that the world of a story is sound (`sound_ofStory`):
validation that references lead to entities and conversations keep to their own layers, the check
of what the author wrote that phrasings and identifiers can be read and changed interactions are
declared, and the search for cycles that every action has finitely many walks. The loaded world,
in which parts of disabled actions are disabled, is intact (`Loaded.intact`).
-/

namespace Adventure

open World Story

namespace Story

variable {s : Story}

/-! ## What validation establishes -/

theorem has_of_checkRef {kind : EntityKind} {place : Place} {symbol : Symbol kind}
    (h : s.checkRef kind place symbol = []) : (ofStory s).Has (idOf symbol) :=
  exists_get?_ofStory (checkRef_eq_nil.1 h)

theorem hasAll_of_checkRefs {kind : EntityKind} {place : Place} {symbols : List (Symbol kind)}
    (h : symbols.flatMap (s.checkRef kind place) = []) :
    (ofStory s).HasAll (symbols.map fun x => (idOf x : EntityId kind)) := by
  intro id hid
  obtain ⟨symbol, hmem, rfl⟩ := List.mem_map.1 hid
  exact has_of_checkRef (List.flatMap_eq_nil_iff.1 h symbol hmem)

theorem hasAll_of_checkActions {place : Place} {actions : List (Symbol .action)}
    (h : s.checkActions place actions = []) : (ofStory s).HasAll (actions.map idOf) :=
  hasAll_of_checkRefs h

theorem checkChoice_eq_nil (hs : s.Sound) {c : Conversation} (hc : c ∈ s.conversations) {l : Layer}
    (hl : l ∈ c.layers) {o : Choice} (ho : o ∈ l.choices) : s.checkChoice c.symbol o = [] := by
  have hcheck := hs.conversations c hc
  simp only [checkConversation, List.append_eq_nil_iff, List.flatMap_eq_nil_iff] at hcheck
  exact hcheck.2 l hl o ho

/-- Of inventory items with one symbol there is only one. -/
theorem declares_iff (hs : s.Sound) {item : String} {partner : Partner} :
    s.declares item partner = true ↔
      ∃ i ∈ s.inventoryItems, i.symbol = item ∧ ∃ x ∈ i.interactions, x.partner = partner := by
  unfold declares
  cases hfound : s.inventoryItems.find? fun i => i.symbol = item with
  | none =>
    simp only [List.find?_eq_none, decide_eq_true_eq] at hfound
    simp only [Bool.false_eq_true, false_iff]
    rintro ⟨i, hi, hsymbol, -⟩
    exact hfound i hi hsymbol
  | some i =>
    have hi := List.mem_of_find?_eq_some hfound
    have hsymbol : i.symbol = item := by simpa using List.find?_some hfound
    simp only [List.any_eq_true, decide_eq_true_eq]
    refine ⟨fun hx => ⟨i, hi, hsymbol, hx⟩, fun ⟨i', hi', hsymbol', hx⟩ => ?_⟩
    rwa [← List.inj_on_of_nodup_map (hs.nodup .inventoryItem) hi' hi (hsymbol'.trans hsymbol.symm)]

theorem interactionFaults_eq_nil (hs : s.Sound) : s.interactionFaults = [] ↔
    ∀ a ∈ s.actions, ∀ item partner patch, a.effect = .changeInteraction item partner patch →
      ∃ i ∈ s.inventoryItems, i.symbol = item ∧ ∃ x ∈ i.interactions, x.partner = partner := by
  rw [interactionFaults, List.filterMap_eq_nil_iff]
  refine forall₂_congr fun a _ => ?_
  cases a.effect with
  | changeInteraction item partner patch =>
    simp only [ite_eq_left_iff, reduceCtorEq, imp_false, not_not, declares_iff hs,
      Effect.changeInteraction.injEq]
    refine ⟨?_, fun h => h item partner patch ⟨rfl, rfl, rfl⟩⟩
    rintro h _ _ _ ⟨rfl, rfl, rfl⟩
    exact h
  | _ => simp

end Story

namespace World

variable {w : World}

/-! ## What the check of the author's texts establishes -/

/-- All phrasings are templates and all identifiers are expressions. -/
structure Readable (w : World) : Prop where
  own : ∀ verb, Phrased verb (w.game.phrasings.of verb)
  added : ∀ verb, ∀ source ∈ w.phrasingSources verb, Phrased verb source.2
  named : ∀ x ∈ w.namedObjects, Identified x.2

theorem badTemplates_eq_nil {verb : Verb} {fault : String → TemplateError → AuthoringFault}
    {templates : List String} :
    badTemplates verb fault templates = [] ↔ Phrased verb templates := by
  rw [badTemplates, List.filterMap_eq_nil_iff]
  refine forall₂_congr fun t _ => ?_
  cases h : Template.parse? verb.arity t <;> simp [ValidPhrasing, h]

theorem phrasingFaults_eq_nil {verb : Verb} : w.phrasingFaults verb = [] ↔
    Phrased verb (w.game.phrasings.of verb) ∧
      ∀ source ∈ w.phrasingSources verb, Phrased verb source.2 := by
  simp only [phrasingFaults, List.append_eq_nil_iff, List.flatMap_eq_nil_iff, badTemplates_eq_nil]

theorem identifierFaults_eq_nil :
    w.identifierFaults = [] ↔ ∀ x ∈ w.namedObjects, Identified x.2 := by
  rw [identifierFaults, List.filterMap_eq_nil_iff]
  refine forall₂_congr fun x _ => ?_
  dsimp only
  cases h : Identifier.compile x.2 <;> simp [Identified, h]

/-- The check of the author's texts passes where all of them can be read and all changed
interactions are declared. -/
theorem authoringFaults_eq_nil {s : Story} :
    w.authoringFaults s = [] ↔ w.Readable ∧ s.interactionFaults = [] := by
  simp only [authoringFaults, List.append_eq_nil_iff, List.flatMap_eq_nil_iff,
    phrasingFaults_eq_nil, identifierFaults_eq_nil]
  constructor
  · rintro ⟨⟨hphrasings, hidentifiers⟩, hinteractions⟩
    have hverb := fun verb => hphrasings verb (Verb.mem_inOrder verb)
    exact ⟨⟨fun verb => (hverb verb).1, fun verb => (hverb verb).2, hidentifiers⟩, hinteractions⟩
  · rintro ⟨hreadable, hinteractions⟩
    exact ⟨⟨fun verb _ => ⟨hreadable.own verb, hreadable.added verb⟩, hreadable.named⟩,
      hinteractions⟩

section
variable (h : w.Readable)
include h

theorem Readable.way {id : EntityId .way} {v : Way} (hv : w.get? id = some v) :
    Identified v.identifiers ∧ Phrased .move v.movePhrasings ∧
      Phrased .inspect v.inspection.phrasings := by
  have hmem : v ∈ w.ways.values := Arena.mem_values.2 ⟨id, hv⟩
  refine ⟨h.named (v.symbol, v.identifiers) ?_, h.added .move (.way v.id, v.movePhrasings) ?_,
    h.added .inspect (.way v.id, v.inspection.phrasings) ?_⟩
  · exact List.mem_append_right _ (List.mem_map.2 ⟨v, hmem, rfl⟩)
  · exact List.mem_map.2 ⟨v, hmem, rfl⟩
  · exact List.mem_append_right _ (List.mem_map.2 ⟨v, hmem, rfl⟩)

theorem Readable.item {id : EntityId .item} {i : Item} (hi : w.get? id = some i) :
    Identified i.identifiers ∧ Phrased .take i.takePhrasings ∧ Phrased .use i.usage.phrasings ∧
      Phrased .inspect i.inspection.phrasings := by
  have hmem : i ∈ w.items.values := Arena.mem_values.2 ⟨id, hi⟩
  refine ⟨h.named (i.symbol, i.identifiers) ?_, h.added .take (.item i.id, i.takePhrasings) ?_,
    h.added .use (.item i.id, i.usage.phrasings) ?_,
    h.added .inspect (.item i.id, i.inspection.phrasings) ?_⟩
  · simp only [namedObjects, List.mem_append]
    exact .inl (.inl (.inl (List.mem_map.2 ⟨i, hmem, rfl⟩)))
  · exact List.mem_map.2 ⟨i, hmem, rfl⟩
  · exact List.mem_append_left _ (List.mem_map.2 ⟨i, hmem, rfl⟩)
  · simp only [phrasingSources, List.mem_append]
    exact .inl (.inl (.inl (List.mem_map.2 ⟨i, hmem, rfl⟩)))

theorem Readable.inventoryItem {id : EntityId .inventoryItem} {i : InventoryItem}
    (hi : w.get? id = some i) :
    Identified i.identifiers ∧ Phrased .use i.usage.phrasings ∧
      Phrased .inspect i.inspection.phrasings ∧
      ∀ x ∈ i.interactions, Phrased .useWith x.phrasings := by
  have hmem : i ∈ w.inventoryItems.values := Arena.mem_values.2 ⟨id, hi⟩
  refine ⟨h.named (i.symbol, i.identifiers) ?_,
    h.added .use (.inventoryItem i.id, i.usage.phrasings) ?_,
    h.added .inspect (.inventoryItem i.id, i.inspection.phrasings) ?_, fun x hx =>
    h.added .useWith (.inventoryItem i.id, x.phrasings) ?_⟩
  · simp only [namedObjects, List.mem_append]
    exact .inl (.inl (.inr (List.mem_map.2 ⟨i, hmem, rfl⟩)))
  · exact List.mem_append_right _ (List.mem_map.2 ⟨i, hmem, rfl⟩)
  · simp only [phrasingSources, List.mem_append]
    exact .inl (.inl (.inr (List.mem_map.2 ⟨i, hmem, rfl⟩)))
  · exact List.mem_flatMap.2 ⟨i, hmem, List.mem_map.2 ⟨x, hx, rfl⟩⟩

theorem Readable.person {id : EntityId .person} {p : Person} (hp : w.get? id = some p) :
    Identified p.identifiers ∧ Phrased .talkTo p.talk.phrasings ∧
      Phrased .inspect p.inspection.phrasings := by
  have hmem : p ∈ w.persons.values := Arena.mem_values.2 ⟨id, hp⟩
  refine ⟨h.named (p.symbol, p.identifiers) ?_, h.added .talkTo (.person p.id, p.talk.phrasings) ?_,
    h.added .inspect (.person p.id, p.inspection.phrasings) ?_⟩
  · simp only [namedObjects, List.mem_append]
    exact .inl (.inr (List.mem_map.2 ⟨p, hmem, rfl⟩))
  · exact List.mem_map.2 ⟨p, hmem, rfl⟩
  · simp only [phrasingSources, List.mem_append]
    exact .inl (.inr (List.mem_map.2 ⟨p, hmem, rfl⟩))

end

/-! ## Entities and their definitions -/

section
variable {s : Story} (hs : s.Sound) (hd : s.DistinctIds)
include hs hd

/-- The entity that a definition makes is found under its identifier. -/
theorem get?_of_def {kind : EntityKind} {id : EntityId kind} {e : Entity kind}
    (h : (id, e) ∈ entriesOf s kind) : (ofStory s).get? id = some e :=
  (get?_ofStory hs hd).2 h

theorem get?_item {i : Story.Item} (hi : i ∈ s.items) :
    (ofStory s).get? (idOf i.symbol : EntityId .item) = some (itemOf i) :=
  get?_of_def hs hd (List.mem_map.2 ⟨i, hi, rfl⟩)

theorem get?_way {v : Story.Way} (hv : v ∈ s.ways) :
    (ofStory s).get? (idOf v.symbol : EntityId .way) = some (wayOf v) :=
  get?_of_def hs hd (List.mem_map.2 ⟨v, hv, rfl⟩)

theorem get?_inventoryItem {i : Story.InventoryItem} (hi : i ∈ s.inventoryItems) :
    (ofStory s).get? (idOf i.symbol : EntityId .inventoryItem) = some (inventoryItemOf i) :=
  get?_of_def hs hd (List.mem_map.2 ⟨i, hi, rfl⟩)

theorem get?_conversation {c : Story.Conversation} (hc : c ∈ s.conversations) :
    (ofStory s).get? (idOf c.symbol : EntityId .conversation) = some (conversationOf c) :=
  get?_of_def hs hd (List.mem_map.2 ⟨c, hc, rfl⟩)

theorem get?_layer {c : Story.Conversation} (hc : c ∈ s.conversations) {l : Story.Layer}
    (hl : l ∈ c.layers) : (ofStory s).get? (idOf l.symbol : EntityId .layer) = some (layerOf c l) :=
  get?_of_def hs hd (List.mem_flatMap.2 ⟨c, hc, List.mem_map.2 ⟨l, hl, rfl⟩⟩)

theorem get?_choice {c : Story.Conversation} (hc : c ∈ s.conversations) {l : Story.Layer}
    (hl : l ∈ c.layers) {o : Story.Choice} (ho : o ∈ l.choices) :
    (ofStory s).get? (idOf o.symbol : EntityId .choice) = some (choiceOf c l o) :=
  get?_of_def hs hd (List.mem_flatMap.2 ⟨c, hc, List.mem_flatMap.2 ⟨l, hl,
    List.mem_map.2 ⟨o, ho, rfl⟩⟩⟩)

theorem get?_action {a : Action} (ha : a ∈ actionsOf s) : (ofStory s).get? a.id = some a :=
  get?_of_def hs hd (List.mem_map.2 ⟨a, ha, rfl⟩)

/-- The identifier under which an action is found is its own. -/
theorem mem_actionsOf_of_get? {id : EntityId .action} {a : Action}
    (h : (ofStory s).get? id = some a) : a.id = id ∧ a ∈ actionsOf s := by
  obtain ⟨a', hmem, heq⟩ := List.mem_map.1 ((get?_ofStory hs hd).1 h)
  obtain ⟨rfl, rfl⟩ := Prod.mk.inj heq
  exact ⟨rfl, hmem⟩

theorem has_moveAction {v : Story.Way} (hv : v ∈ s.ways) : (ofStory s).Has (moveActionId v) :=
  have hmem := mem_actionsOf.2 (.inr (.inl ⟨v, hv, rfl⟩))
  ⟨moveActionOf v, get?_action hs hd (a := moveActionOf v) hmem⟩

theorem has_takeAction {i : Story.Item} (hi : i ∈ s.items) : (ofStory s).Has (takeActionId i) :=
  have hmem := mem_actionsOf.2 (.inr (.inr ⟨i, hi, rfl⟩))
  ⟨takeActionOf i, get?_action hs hd (a := takeActionOf i) hmem⟩

omit hd in
/-- A start layer that passes the check is a layer of its conversation. -/
theorem mem_layers_of_checkStart {c : Story.Conversation} (hc : c ∈ s.conversations)
    {place : Place} {layer : String} (h : s.checkStart c.symbol place layer = []) :
    (idOf layer : EntityId .layer) ∈ (conversationOf c).layers := by
  have howner := (layerOwner?_eq_some (hs.nodup .layer)).1 (checkStart_eq_nil.1 h)
  obtain ⟨l, hl, rfl⟩ := (defines_iff hs.nodup hc).1 howner
  exact List.mem_map.2 ⟨l, hl, rfl⟩

/-- A target that passes the check is a layer of the choice's conversation. -/
theorem get?_of_checkTarget {choice conversation target : String} {place : Place}
    (h : s.checkTarget choice conversation place target = []) :
    ∃ l, (ofStory s).get? (idOf target : EntityId .layer) = some l ∧
      Layer.conversation l = idOf conversation := by
  obtain ⟨c, hc, rfl, l, hl, rfl⟩ :=
    (layerOwner?_eq_some (hs.nodup .layer)).1 (checkTarget_eq_nil.1 h)
  exact ⟨layerOf c l, get?_layer hs hd hc hl, rfl⟩

/-! ## What each entity needs is there -/

section
variable (hr : (ofStory s).Readable)
include hr

theorem wayFits_ofStory {v : Story.Way} (hv : v ∈ s.ways) :
    WayFits (ofStory s) (frame .way (wayOf v)) := by
  obtain ⟨hidentifiers, hmove, hinspect⟩ := hr.way (get?_way hs hd hv)
  have hcheck := hs.ways v hv
  simp only [checkWay, List.append_eq_nil_iff] at hcheck
  obtain ⟨⟨⟨-, hdestination⟩, hmoving⟩, hinspection⟩ := hcheck
  exact ⟨has_of_checkRef hdestination, hidentifiers, hmove, hinspect, has_moveAction hs hd hv,
    hasAll_of_checkActions hmoving, hasAll_of_checkActions hinspection⟩

theorem itemFits_ofStory {i : Story.Item} (hi : i ∈ s.items) :
    ItemFits (ofStory s) (frame .item (itemOf i)) := by
  obtain ⟨hidentifiers, htake, huse, hinspect⟩ := hr.item (get?_item hs hd hi)
  have hcheck := hs.items i hi
  simp only [checkItem, List.append_eq_nil_iff] at hcheck
  obtain ⟨⟨⟨-, htaking⟩, husage⟩, hinspection⟩ := hcheck
  exact ⟨hidentifiers, htake, huse, hinspect, has_takeAction hs hd hi,
    hasAll_of_checkActions htaking, hasAll_of_checkActions husage,
    hasAll_of_checkActions hinspection⟩

omit hs hd hr in
theorem actions_of_checkInteractions {owner : String} {place : Place} :
    ∀ {xs : List (Interaction Symbol Partner)} {seen : List Partner},
      s.checkInteractions owner place seen xs = [] → ∀ x ∈ xs, s.checkActions place x.actions = []
  | x :: xs, seen, h, y, hy => by
    simp only [checkInteractions, List.append_eq_nil_iff] at h
    rcases List.mem_cons.1 hy with rfl | hy
    · exact h.1.2
    · exact actions_of_checkInteractions h.2 y hy

theorem inventoryItemFits_ofStory {i : Story.InventoryItem} (hi : i ∈ s.inventoryItems) :
    InventoryItemFits (ofStory s) (frame .inventoryItem (inventoryItemOf i)) := by
  obtain ⟨hidentifiers, huse, hinspect, hinteractions⟩ :=
    hr.inventoryItem (get?_inventoryItem hs hd hi)
  have hcheck := hs.inventoryItems i hi
  simp only [checkInventoryItem, List.append_eq_nil_iff] at hcheck
  obtain ⟨⟨husage, hinspection⟩, hpartners⟩ := hcheck
  refine ⟨hidentifiers, huse, hinspect, hasAll_of_checkActions husage,
    hasAll_of_checkActions hinspection, fun x hx => ?_⟩
  obtain ⟨declared, hdeclared, rfl⟩ := List.mem_map.1 hx
  have hphrased := hinteractions declared hdeclared
  obtain ⟨y, hy, rfl⟩ := List.mem_map.1 hdeclared
  exact ⟨hphrased, hasAll_of_checkActions (actions_of_checkInteractions hpartners y hy)⟩

theorem personFits_ofStory {p : Story.Person} (hp : p ∈ s.persons) :
    PersonFits (ofStory s) (frame .person (personOf p)) := by
  have hget : (ofStory s).get? (idOf p.symbol : EntityId .person) = some (personOf p) :=
    get?_of_def hs hd (List.mem_map.2 ⟨p, hp, rfl⟩)
  obtain ⟨hidentifiers, htalk, hinspect⟩ := hr.person hget
  have hcheck := hs.persons p hp
  simp only [checkPerson, List.append_eq_nil_iff] at hcheck
  obtain ⟨⟨-, htalking⟩, hinspection⟩ := hcheck
  exact ⟨hidentifiers, htalk, hinspect, hasAll_of_checkActions htalking,
    hasAll_of_checkActions hinspection⟩

end

omit hs hd in
theorem relocationFits_ofStory {place : Place} {relocation : Option (Relocation Symbol)}
    (h : s.checkRelocation place relocation = []) :
    RelocationFits (ofStory s) (relocation.map (·.map idOf)) := by
  match relocation, h with
  | none, _ => trivial
  | some .remove, _ => trivial
  | some (.to location), h => exact has_of_checkRef h

/-- Effects in the definitions of actions name what exists. -/
theorem effectFits_ofStory (hdeclared : s.interactionFaults = []) {a : Story.Action}
    (ha : a ∈ s.actions) : EffectFits (ofStory s) (a.effect.map idOf partnerOf) := by
  have hcheck := hs.actions a ha
  unfold checkAction at hcheck
  cases heffect : a.effect with
  | sequence | endGame => trivial
  | addInventoryItems items =>
    rw [heffect] at hcheck
    exact hasAll_of_checkRefs hcheck
  | removeInventoryItem | removeItem | move | changeAction | changeInventoryItem | changeLocation
  | changeWay =>
    rw [heffect] at hcheck
    exact has_of_checkRef hcheck
  | take item leave grants =>
    rw [heffect, checkEffect, List.append_eq_nil_iff] at hcheck
    exact ⟨has_of_checkRef hcheck.1, hasAll_of_checkRefs hcheck.2⟩
  | changeItem item patch =>
    rw [heffect, checkEffect, List.append_eq_nil_iff] at hcheck
    exact ⟨has_of_checkRef hcheck.1, relocationFits_ofStory hcheck.2⟩
  | changePerson person patch =>
    rw [heffect, checkEffect, List.append_eq_nil_iff, List.append_eq_nil_iff] at hcheck
    obtain ⟨⟨hperson, hrelocation⟩, hconversation⟩ := hcheck
    refine ⟨has_of_checkRef hperson, relocationFits_ofStory hrelocation, fun id hid => ?_⟩
    obtain ⟨conversation, hpatch, rfl⟩ := Option.map_eq_some_iff.1 hid
    rw [hpatch, Option.toList_some, List.flatMap_singleton] at hconversation
    exact has_of_checkRef hconversation
  | changeConversation conversation patch =>
    rw [heffect, checkEffect, List.append_eq_nil_iff] at hcheck
    obtain ⟨c, hc, rfl⟩ := List.mem_map.1 (checkRef_eq_nil.1 hcheck.1)
    refine ⟨conversationOf c, get?_conversation hs hd hc, fun id hid => ?_⟩
    obtain ⟨layer, hpatch, rfl⟩ := Option.map_eq_some_iff.1 hid
    rw [hpatch, Option.toList_some, List.flatMap_singleton] at hcheck
    exact mem_layers_of_checkStart hs hc hcheck.2
  | changeChoice choice patch =>
    rw [heffect, checkEffect, List.append_eq_nil_iff] at hcheck
    obtain ⟨c, hc, ⟨l, hl, o, ho, rfl⟩, howner⟩ :=
      exists_choiceOwner hs.nodup (checkRef_eq_nil.1 hcheck.1)
    refine ⟨choiceOf c l o, get?_choice hs hd hc hl ho, fun id hid => ?_⟩
    obtain ⟨target, hpatch, rfl⟩ := Option.map_eq_some_iff.1 hid
    simp only [hpatch, Option.toList_some, List.flatMap_singleton, howner] at hcheck
    exact get?_of_checkTarget hs hd hcheck.2
  | changeInteraction item partner patch =>
    obtain ⟨i, hi, rfl, x, hx, rfl⟩ :=
      (interactionFaults_eq_nil hs).1 hdeclared a ha item partner patch heffect
    exact ⟨inventoryItemOf i, get?_inventoryItem hs hd hi,
      List.mem_map.2 ⟨_, List.mem_map.2 ⟨x, hx, rfl⟩, rfl⟩⟩

theorem entityFits_ofStory (hr : (ofStory s).Readable) (hdeclared : s.interactionFaults = [])
    {kind : EntityKind} {id : EntityId kind} {e : Entity kind}
    (he : (ofStory s).get? id = some e) : EntityFits (ofStory s) kind id (frame kind e) := by
  rw [get?_ofStory hs hd] at he
  cases kind with
  | location =>
    obtain ⟨l, -, heq⟩ := List.mem_map.1 he
    obtain ⟨rfl, rfl⟩ := Prod.mk.inj heq
    intro v hv
    obtain ⟨v, hmem, rfl⟩ := List.mem_map.1 hv
    exact ⟨_, get?_way hs hd (List.mem_filter.1 hmem).1⟩
  | way =>
    obtain ⟨v, hv, heq⟩ := List.mem_map.1 he
    obtain ⟨rfl, rfl⟩ := Prod.mk.inj heq
    exact wayFits_ofStory hs hd hr hv
  | item =>
    obtain ⟨i, hi, heq⟩ := List.mem_map.1 he
    obtain ⟨rfl, rfl⟩ := Prod.mk.inj heq
    exact itemFits_ofStory hs hd hr hi
  | inventoryItem =>
    obtain ⟨i, hi, heq⟩ := List.mem_map.1 he
    obtain ⟨rfl, rfl⟩ := Prod.mk.inj heq
    exact inventoryItemFits_ofStory hs hd hr hi
  | person =>
    obtain ⟨p, hp, heq⟩ := List.mem_map.1 he
    obtain ⟨rfl, rfl⟩ := Prod.mk.inj heq
    exact personFits_ofStory hs hd hr hp
  | conversation =>
    obtain ⟨c, hc, heq⟩ := List.mem_map.1 he
    obtain ⟨rfl, rfl⟩ := Prod.mk.inj heq
    intro layer hlayer
    obtain ⟨l, hl, rfl⟩ := List.mem_map.1 hlayer
    exact ⟨_, get?_layer hs hd hc hl⟩
  | layer =>
    obtain ⟨c, hc, hmem⟩ := List.mem_flatMap.1 he
    obtain ⟨l, hl, heq⟩ := List.mem_map.1 hmem
    obtain ⟨rfl, rfl⟩ := Prod.mk.inj heq
    intro choice hchoice
    obtain ⟨o, ho, rfl⟩ := List.mem_map.1 hchoice
    exact ⟨_, get?_choice hs hd hc hl ho, rfl⟩
  | choice =>
    obtain ⟨c, hc, hmem⟩ := List.mem_flatMap.1 he
    obtain ⟨l, hl, hmem⟩ := List.mem_flatMap.1 hmem
    obtain ⟨o, ho, heq⟩ := List.mem_map.1 hmem
    obtain ⟨rfl, rfl⟩ := Prod.mk.inj heq
    have hcheck := checkChoice_eq_nil hs hc hl ho
    exact hasAll_of_checkActions (List.append_eq_nil_iff.1 hcheck).2
  | action =>
    obtain ⟨a, ha, heq⟩ := List.mem_map.1 he
    obtain ⟨rfl, rfl⟩ := Prod.mk.inj heq
    rcases mem_actionsOf.1 ha with ⟨def', hdef, rfl⟩ | ⟨v, hv, rfl⟩ | ⟨i, hi, rfl⟩
    · exact effectFits_ofStory hs hd hdeclared hdef
    · exact ⟨_, get?_way hs hd hv⟩
    · have hcheck := hs.items i hi
      simp only [checkItem, List.append_eq_nil_iff] at hcheck
      exact ⟨⟨_, get?_item hs hd hi⟩, hasAll_of_checkRefs hcheck.1.1.1.2⟩

/-- The references that patches may rewrite lead somewhere sensible at the beginning. -/
theorem linked_ofStory : Linked (ofStory s) := by
  intro kind id e he
  rw [get?_ofStory hs hd] at he
  cases kind with
  | person =>
    obtain ⟨p, hp, heq⟩ := List.mem_map.1 he
    obtain ⟨rfl, rfl⟩ := Prod.mk.inj heq
    intro id hid
    obtain ⟨conversation, htalk, rfl⟩ := Option.map_eq_some_iff.1 hid
    have hcheck := hs.persons p hp
    simp only [checkPerson, List.append_eq_nil_iff, htalk, Option.toList_some,
      List.flatMap_singleton] at hcheck
    exact has_of_checkRef hcheck.1.1.2
  | conversation =>
    obtain ⟨c, hc, heq⟩ := List.mem_map.1 he
    obtain ⟨rfl, rfl⟩ := Prod.mk.inj heq
    intro id hid
    obtain ⟨layer, hstart, rfl⟩ := Option.map_eq_some_iff.1 hid
    have hcheck := hs.conversations c hc
    simp only [checkConversation, List.append_eq_nil_iff, hstart, Option.toList_some,
      List.flatMap_singleton] at hcheck
    exact mem_layers_of_checkStart hs hc hcheck.1
  | choice =>
    obtain ⟨c, hc, hmem⟩ := List.mem_flatMap.1 he
    obtain ⟨l, hl, hmem⟩ := List.mem_flatMap.1 hmem
    obtain ⟨o, ho, heq⟩ := List.mem_map.1 hmem
    obtain ⟨rfl, rfl⟩ := Prod.mk.inj heq
    intro id hid
    obtain ⟨target, htarget, rfl⟩ := Option.map_eq_some_iff.1 hid
    have hcheck := checkChoice_eq_nil hs hc hl ho
    simp only [checkChoice, List.append_eq_nil_iff, htarget, Option.toList_some,
      List.flatMap_singleton] at hcheck
    exact get?_of_checkTarget hs hd hcheck.1
  | location | way | item | inventoryItem | layer | action => trivial

/-- The world of a story is sound if the story passes the gates. -/
theorem sound_ofStory (hauthoring : (ofStory s).authoringFaults s = [])
    (hactions : (ofStory s).checkActions = .ok ()) : (ofStory s).Sound := by
  obtain ⟨hreadable, hdeclared⟩ := authoringFaults_eq_nil.1 hauthoring
  exact ⟨fun _ _ _ => entityFits_ofStory hs hd hreadable hdeclared, hreadable.own,
    fun _ => finite_of_checkActions hactions⟩

theorem intact_ofStory : Intact (ofStory s) (ofStory s) :=
  ⟨refl_of SameSkeleton _, wellPlaced_ofStory hs hd, linked_ofStory hs hd⟩

end

/-! ## Loaded worlds -/

namespace Loaded

variable {s : Story}

/-- The world of a story that is loaded is sound. -/
theorem sound_ofStory (h : Loaded s w) (hd : s.DistinctIds) : (ofStory s).Sound :=
  World.sound_ofStory h.sound hd h.authoring h.actions

/-- The loaded world has the conversations of the story. -/
theorem has_conversation (h : Loaded s w) (hd : s.DistinctIds) {c : Story.Conversation}
    (hc : c ∈ s.conversations) : w.Has (idOf c.symbol : EntityId .conversation) :=
  exists_of_sameSkeleton h.keeps.skeleton ⟨_, get?_conversation h.sound hd hc⟩

theorem has_takeAction (h : Loaded s w) (hd : s.DistinctIds) {i : Story.Item} (hi : i ∈ s.items) :
    w.Has (takeActionId i) := by
  have hmem : takeActionOf i ∈ actionsOf s := mem_actionsOf.2 (.inr (.inr ⟨i, hi, rfl⟩))
  have hid : (takeActionOf i).id = takeActionId i := rfl
  have hfound := get?_action h.sound hd hmem
  rw [hid] at hfound
  exact exists_of_sameSkeleton h.keeps.skeleton ⟨takeActionOf i, hfound⟩

/-- Disabling parts of actions leaves the world intact. -/
theorem intact (h : Loaded s w) (hd : s.DistinctIds) : Intact (ofStory s) w :=
  (intact_ofStory h.sound hd).keeps h.keeps

end Loaded

end World

end Adventure
