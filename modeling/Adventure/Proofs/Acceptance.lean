import Adventure.Proofs.SafeEdits
import Adventure.Proofs.SoundStories

/-!
# Which stories are loaded

A story becomes a world if it is well-formed (`Story.WellFormed`): validation finds no fault, all
phrasings are templates for their verbs and all identifiers expressions, changes of interactions
name declared ones, and no action contains itself, not even through others. All this is said of the
story alone. The gates of loading see the world that the story makes: phrasings in normal form on
entities (`World.readable_ofStory`), and a graph of actions by identifier that has the actions of
ways and items besides (`World.cascading_ofStory`). What follows the gates cannot fail, so exactly
the well-formed stories are loaded (`World.exists_load_iff`).
-/

namespace Adventure

open World Relation

namespace Story

/-! ## Well-formed stories -/

/-- The phrasings that objects add to a verb. -/
def addedPhrasings (s : Story) : Verb → List String
  | .inspect => s.items.flatMap (·.inspection.phrasings)
      ++ s.inventoryItems.flatMap (·.inspection.phrasings)
      ++ s.persons.flatMap (·.inspection.phrasings) ++ s.ways.flatMap (·.inspection.phrasings)
  | .take => s.items.flatMap (·.taking.phrasings)
  | .talkTo => s.persons.flatMap (·.talk.phrasings)
  | .move => s.ways.flatMap (·.moving.phrasings)
  | .use => s.items.flatMap (·.usage.phrasings) ++ s.inventoryItems.flatMap (·.usage.phrasings)
  | .useWith => s.inventoryItems.flatMap fun i => i.interactions.flatMap (·.phrasings)
  | .exit | .help | .lookAround | .inventory => []

/-- The identifiers of each object that has some. -/
def identifierLists (s : Story) : List (List String) :=
  s.items.map (·.identifiers) ++ s.inventoryItems.map (·.identifiers)
    ++ s.persons.map (·.identifiers) ++ s.ways.map (·.identifiers)

/-- An action is made up of others, and the second symbol is one of them. -/
def Lists (s : Story) (a b : String) : Prop :=
  ∃ d ∈ s.actions, d.symbol = a ∧ ∃ parts, d.effect = .sequence parts ∧ b ∈ parts

/-- What a story has to be like to become a world. -/
structure WellFormed (s : Story) : Prop where
  faults : s.faults = []
  /-- Phrasings of the game and of objects are templates for the verb once they are normalized. -/
  phrasings : ∀ verb, ∀ t ∈ s.game.phrasings.of verb ++ s.addedPhrasings verb,
    ValidPhrasing verb (Template.normalize t)
  /-- The identifiers of each object make up an expression. -/
  identifiers : ∀ fragments ∈ s.identifierLists, Identified fragments
  /-- Changed interactions are declared on the inventory item with the same partner. -/
  declared : ∀ a ∈ s.actions, ∀ item partner patch,
    a.effect = .changeInteraction item partner patch →
      ∃ i ∈ s.inventoryItems, i.symbol = item ∧ ∃ x ∈ i.interactions, x.partner = partner
  /-- No action contains itself, directly or through others. -/
  acyclic : ∀ symbol, ¬TransGen s.Lists symbol symbol

end Story

namespace World

section
variable {s : Story} (hs : s.Sound) (hd : s.DistinctIds)
include hs hd

/-! ## Texts -/

/-- What holds of all entities of a kind holds of all that the definitions make. -/
theorem forall_values_ofStory (kind : EntityKind) {P : Entity kind → Prop} :
    (∀ e ∈ ((ofStory s).arena kind).values, P e) ↔ ∀ x ∈ entriesOf s kind, P x.2 := by
  have hget : ∀ {id : EntityId kind} {e : Entity kind},
      ((ofStory s).arena kind).get? id = some e ↔ (id, e) ∈ entriesOf s kind := get?_ofStory hs hd
  simp only [Arena.mem_values, hget]
  exact ⟨fun h x hx => h x.2 ⟨x.1, hx⟩, fun h e ⟨id, hmem⟩ => h (id, e) hmem⟩

theorem forall_items {P : Item → Prop} :
    (∀ i ∈ (ofStory s).items.values, P i) ↔ ∀ i ∈ s.items, P (itemOf i) :=
  (forall_values_ofStory hs hd .item).trans List.forall_mem_map

theorem forall_ways {P : Way → Prop} :
    (∀ v ∈ (ofStory s).ways.values, P v) ↔ ∀ v ∈ s.ways, P (wayOf v) :=
  (forall_values_ofStory hs hd .way).trans List.forall_mem_map

theorem forall_inventoryItems {P : InventoryItem → Prop} :
    (∀ i ∈ (ofStory s).inventoryItems.values, P i) ↔
      ∀ i ∈ s.inventoryItems, P (inventoryItemOf i) :=
  (forall_values_ofStory hs hd .inventoryItem).trans List.forall_mem_map

theorem forall_persons {P : Person → Prop} :
    (∀ p ∈ (ofStory s).persons.values, P p) ↔ ∀ p ∈ s.persons, P (personOf p) :=
  (forall_values_ofStory hs hd .person).trans List.forall_mem_map

/-- The entities of the world have the phrasings of the definitions in normal form. -/
theorem phrasingSources_ofStory (verb : Verb) :
    (∀ source ∈ (ofStory s).phrasingSources verb, Phrased verb source.2) ↔
      ∀ t ∈ s.addedPhrasings verb, ValidPhrasing verb (Template.normalize t) := by
  cases verb <;>
    simp only [phrasingSources, Story.addedPhrasings, List.forall_mem_append, List.forall_mem_map,
      List.forall_mem_flatMap, forall_items hs hd, forall_ways hs hd, forall_inventoryItems hs hd,
      forall_persons hs hd, itemOf, wayOf, inventoryItemOf, personOf, inspectionOf, usageOf,
      Inspection.map, Usage.map, Talk.map, Interaction.map, Phrased, List.not_mem_nil,
      false_implies, implies_true]

/-- The texts in the world of a story can be read where those of the story can. -/
theorem readable_ofStory : (ofStory s).Readable ↔
    (∀ verb, ∀ t ∈ s.game.phrasings.of verb ++ s.addedPhrasings verb,
      ValidPhrasing verb (Template.normalize t)) ∧
    ∀ fragments ∈ s.identifierLists, Identified fragments := by
  have hown : ∀ verb, Phrased verb ((ofStory s).game.phrasings.of verb) ↔
      ∀ t ∈ s.game.phrasings.of verb, ValidPhrasing verb (Template.normalize t) := by
    intro verb
    simp only [ofStory, gameOf, Phrasings.of_map, Phrased, List.forall_mem_map]
  have hnamed : (∀ x ∈ (ofStory s).namedObjects, Identified x.2) ↔
      ∀ fragments ∈ s.identifierLists, Identified fragments := by
    simp only [namedObjects, Story.identifierLists, List.forall_mem_append, List.forall_mem_map,
      forall_items hs hd, forall_ways hs hd, forall_inventoryItems hs hd, forall_persons hs hd,
      itemOf, wayOf, inventoryItemOf, personOf]
  simp only [List.forall_mem_append, ← hown, ← phrasingSources_ofStory hs hd, ← hnamed]
  exact ⟨fun h => ⟨fun verb => ⟨h.own verb, h.added verb⟩, h.named⟩,
    fun h => ⟨fun verb => (h.1 verb).1, fun verb => (h.1 verb).2, h.2⟩⟩

/-! ## Actions -/

omit hs in
theorem idOf_inj {kind : EntityKind} {a b : String} (ha : a ∈ s.symbols kind)
    (hb : b ∈ s.symbols kind) (h : (idOf a : EntityId kind) = idOf b) : a = b :=
  (Prod.mk.inj (hd kind _ (Story.mem_names_of_symbol ha) _ (Story.mem_names_of_symbol hb)
    (congrArg EntityId.uuid h))).2

omit hd in
/-- Both symbols are those of defined actions. -/
theorem symbols_of_lists {a b : String} (h : s.Lists a b) :
    a ∈ s.symbols .action ∧ b ∈ s.symbols .action := by
  obtain ⟨d, hmem, rfl, parts, heffect, hb⟩ := h
  have hcheck := hs.actions d hmem
  rw [Story.checkAction, heffect, Story.checkEffect, List.append_eq_nil_iff,
    Story.checkActions_eq_nil] at hcheck
  exact ⟨List.mem_map.2 ⟨d, hmem, rfl⟩, hcheck.1 (.action, b) (List.mem_map.2 ⟨b, hb, rfl⟩)⟩

omit hd in
theorem symbol_of_chain {a b : String} (ha : a ∈ s.symbols .action)
    (h : ReflTransGen s.Lists a b) : b ∈ s.symbols .action := by
  rcases ReflTransGen.cases_tail h with rfl | ⟨_, -, hlast⟩
  · exact ha
  · exact (symbols_of_lists hs hlast).2

omit hs hd in
theorem parts?_actionOf {d : Story.Action} {parts : List (EntityId .action)} :
    (actionOf d).parts? = some parts ↔
      ∃ symbols : List String, d.effect = .sequence symbols ∧ symbols.map idOf = parts := by
  cases heffect : d.effect <;> simp [Action.parts?, actionOf, heffect, Effect.map]

/-- The actions of ways and items contain no others. -/
theorem contains_ofStory {x y : EntityId .action} :
    (ofStory s).Contains x y ↔ ∃ a b, x = idOf a ∧ y = idOf b ∧ s.Lists a b := by
  constructor
  · rintro ⟨parts, hparts, hy⟩
    obtain ⟨action, hget, hparts'⟩ := Option.bind_eq_some_iff.1 hparts
    obtain ⟨rfl, hmem⟩ := mem_actionsOf_of_get? hs hd hget
    rcases mem_actionsOf.1 hmem with ⟨d, hdef, rfl⟩ | ⟨v, -, rfl⟩ | ⟨i, -, rfl⟩
    · obtain ⟨symbols, heffect, rfl⟩ := parts?_actionOf.1 hparts'
      obtain ⟨b, hb, rfl⟩ := List.mem_map.1 hy
      exact ⟨d.symbol, b, rfl, rfl, d, hdef, rfl, symbols, heffect, hb⟩
    · cases hparts'
    · cases hparts'
  · rintro ⟨_, b, rfl, rfl, d, hdef, rfl, symbols, heffect, hb⟩
    have hget : (ofStory s).get? (actionOf d).id = some (actionOf d) :=
      get?_action hs hd (mem_actionsOf.2 (.inl ⟨d, hdef, rfl⟩))
    refine ⟨symbols.map idOf, ?_, List.mem_map.2 ⟨b, hb, rfl⟩⟩
    have hparts : (ofStory s).partsOf (actionOf d).id = _ := partsOf_of_get? hget
    exact hparts.trans (parts?_actionOf.2 ⟨symbols, heffect, rfl⟩)

/-- A walk through the world is one through the story: where two steps meet, their symbols are the
same, since their identifiers are. -/
theorem reaches_ofStory {a : String} (ha : a ∈ s.symbols .action) {x : EntityId .action} :
    (ofStory s).Reaches (idOf a) x ↔ ∃ b, ReflTransGen s.Lists a b ∧ idOf b = x := by
  constructor
  · intro h
    induction h with
    | refl => exact ⟨a, .refl, rfl⟩
    | tail _ hcontains ih =>
      obtain ⟨b, hchain, rfl⟩ := ih
      obtain ⟨b', c, heq, rfl, hlists⟩ := (contains_ofStory hs hd).1 hcontains
      obtain rfl := idOf_inj hd (symbol_of_chain hs ha hchain) (symbols_of_lists hs hlists).1 heq
      exact ⟨c, hchain.tail hlists, rfl⟩
  · rintro ⟨b, hchain, rfl⟩
    induction hchain with
    | refl => exact .refl
    | tail _ hlists ih =>
      exact ih.tail ((contains_ofStory hs hd).2 ⟨_, _, rfl, rfl, hlists⟩)

theorem transGen_ofStory {x y : EntityId .action} (h : TransGen (ofStory s).Contains x y) :
    ∃ a b, x = idOf a ∧ y = idOf b ∧ TransGen s.Lists a b := by
  obtain ⟨_, hfirst, hrest⟩ := TransGen.head'_iff.1 h
  obtain ⟨a, b, rfl, rfl, hlists⟩ := (contains_ofStory hs hd).1 hfirst
  obtain ⟨c, hchain, rfl⟩ := (reaches_ofStory hs hd (symbols_of_lists hs hlists).2).1 hrest
  exact ⟨a, c, rfl, rfl, .head' hlists hchain⟩

/-- The actions in the world of a story cascade exactly if no action in the story contains
itself. -/
theorem cascading_ofStory :
    (∀ id : EntityId .action, (∃ action, (ofStory s).get? id = some action) →
      (ofStory s).Cascading id) ↔ ∀ symbol, ¬TransGen s.Lists symbol symbol := by
  constructor
  · intro h symbol hcycle
    obtain ⟨_, hfirst, -⟩ := TransGen.head'_iff.1 hcycle
    have hsymbol := (symbols_of_lists hs hfirst).1
    have hlift : s.Lists ≤ Function.onFun (ofStory s).Contains idOf := fun a b hlists =>
      (contains_ofStory hs hd).2 ⟨a, b, rfl, rfl, hlists⟩
    have hcycle' : TransGen (ofStory s).Contains (idOf symbol) (idOf symbol) :=
      TransGen.lift idOf hlift symbol symbol hcycle
    exact (h (idOf symbol) (exists_get?_ofStory hsymbol)).acyclic _ .refl hcycle'
  · intro h id hid
    refine ⟨fun a ha => ?_, fun a _ hcycle => ?_⟩
    · rcases ReflTransGen.cases_tail ha with rfl | ⟨b, -, hcontains⟩
      · exact hid
      · obtain ⟨_, c, -, rfl, hlists⟩ := (contains_ofStory hs hd).1 hcontains
        exact exists_get?_ofStory (symbols_of_lists hs hlists).2
    · obtain ⟨b, c, rfl, heq, hchain⟩ := transGen_ofStory hs hd hcycle
      obtain ⟨_, hfirst, -⟩ := TransGen.head'_iff.1 hchain
      obtain ⟨_, -, hlast⟩ := TransGen.tail'_iff.1 hchain
      obtain rfl := idOf_inj hd (symbols_of_lists hs hfirst).1 (symbols_of_lists hs hlast).2 heq
      exact h b hchain

/-! ## After the gates -/

/-- Disabling the parts of disabled actions does not fail in a sound world. -/
theorem disableParts_ok (hsound : (ofStory s).Sound) :
    ∃ w, Edit.disableParts (ofStory s) = (.ok (), w) ∧ Intact (ofStory s) w := by
  have hids : ∀ a ∈ (ofStory s).actions.values, (ofStory s).Has (Action.id a) := by
    refine (forall_values_ofStory hs hd .action).2 fun x hx => ?_
    obtain ⟨a, hmem, rfl⟩ := List.mem_map.1 hx
    exact ⟨a, get?_of_def hs hd (List.mem_map.2 ⟨a, hmem, rfl⟩)⟩
  obtain ⟨_, w, heq, hw⟩ := Steps.Succeeds.forM
    ((ofStory s).actions.values.filter fun a => !a.enabled && (Action.parts? a).isSome)
    (fun a ha => Edit.safe_setEnabled hsound (hids a (List.mem_filter.1 ha).1) false)
    (ofStory s) (intact_ofStory hs hd)
  exact ⟨w, heq, hw⟩

/-- A story is well-formed exactly if it passes all gates. -/
theorem wellFormed_iff : s.WellFormed ↔ s.faults = [] ∧
    (ofStory s).authoringFaults s = [] ∧ (ofStory s).checkActions = .ok () := by
  rw [authoringFaults_eq_nil, readable_ofStory hs hd, Story.interactionFaults_eq_nil hs,
    checkActions_eq_ok, cascading_ofStory hs hd]
  exact ⟨fun h => ⟨h.faults, ⟨⟨h.phrasings, h.identifiers⟩, h.declared⟩, h.acyclic⟩,
    fun ⟨hfaults, ⟨⟨hphrasings, hidentifiers⟩, hdeclared⟩, hacyclic⟩ =>
      ⟨hfaults, hphrasings, hidentifiers, hdeclared, hacyclic⟩⟩

/-- A story that passes all gates is loaded. -/
theorem load_of_gates (hfaults : s.faults = [])
    (hauthoring : (ofStory s).authoringFaults s = [])
    (hactions : (ofStory s).checkActions = .ok ()) : ∃ w, load s = .ok w := by
  obtain ⟨w, hdisabled, hintact⟩ := disableParts_ok hs hd (sound_ofStory hs hd hauthoring hactions)
  obtain ⟨l, hl⟩ := hintact.placed.here
  have hlocation : w.playerLocation = .ok l := by rw [playerLocation, find_of_get? hl]
  refine ⟨w, ?_⟩
  unfold load
  simp only [hfaults, hauthoring, hactions, hdisabled, hlocation]
  rfl

end

/-- What the gates come to: the first one that a story does not pass is reported. -/
theorem load_gates (s : Story) :
    (s.faults ≠ [] ∧ load s = .error (.story s.faults)) ∨
    ((ofStory s).authoringFaults s ≠ [] ∧
      load s = .error (.authoring ((ofStory s).authoringFaults s))) ∨
    (∃ cause, (ofStory s).checkActions = .error cause ∧ load s = .error (.actions cause)) ∨
    (s.faults = [] ∧ (ofStory s).authoringFaults s = [] ∧
      (ofStory s).checkActions = .ok ()) := by
  by_cases hfaults : s.faults ≠ []
  · refine .inl ⟨hfaults, ?_⟩
    unfold load
    simp only [if_pos hfaults]
    rfl
  by_cases hauthoring : (ofStory s).authoringFaults s ≠ []
  · refine .inr (.inl ⟨hauthoring, ?_⟩)
    unfold load
    simp only [if_neg hfaults, if_pos hauthoring]
    rfl
  cases hactions : (ofStory s).checkActions with
  | ok => exact .inr (.inr (.inr ⟨not_not.1 hfaults, not_not.1 hauthoring, rfl⟩))
  | error cause =>
    refine .inr (.inr (.inl ⟨cause, rfl, ?_⟩))
    unfold load
    simp only [if_neg hfaults, if_neg hauthoring, hactions]
    rfl

/-- Exactly the well-formed stories are loaded, provided that identifiers of distinct names are
distinct. What follows the gates, disabling the parts of disabled actions and finding the place of
the player, never fails. -/
theorem exists_load_iff {s : Story} (hd : s.DistinctIds) :
    ((∃ w, load s = .ok w) ↔ s.WellFormed) ∧
      ∀ cause, load s ≠ .error (.disabling cause) ∧ load s ≠ .error (.start cause) := by
  constructor
  · constructor
    · rintro ⟨w, hload⟩
      have hloaded := loaded_of_load hload
      exact (wellFormed_iff hloaded.sound hd).2
        ⟨hloaded.faults, hloaded.authoring, hloaded.actions⟩
    · intro h
      have hs := Story.sound_of_faults_eq_nil h.faults
      obtain ⟨hfaults, hauthoring, hactions⟩ := (wellFormed_iff hs hd).1 h
      exact load_of_gates hs hd hfaults hauthoring hactions
  · intro cause
    rcases load_gates s with
      ⟨-, hload⟩ | ⟨-, hload⟩ | ⟨_, -, hload⟩ | ⟨hfaults, hauthoring, hactions⟩
    · simp [hload]
    · simp [hload]
    · simp [hload]
    · have hs := Story.sound_of_faults_eq_nil hfaults
      obtain ⟨w, hload⟩ := load_of_gates hs hd hfaults hauthoring hactions
      simp [hload]

/-- The story of the gate is well-formed, since it is loaded. -/
theorem exists_load_iff_gateStory : Story.gateStory.DistinctIds ∧ Story.gateStory.WellFormed ∧
    ∀ cause, load Story.gateStory ≠ .error (.disabling cause) :=
  have h := exists_load_iff Story.distinctIds_gateStory
  ⟨Story.distinctIds_gateStory, h.1.1 load_gateStory, fun cause => (h.2 cause).1⟩

end World

end Adventure
