import Adventure.Proofs.Stories

/-!
# Coherent stories

What validation is for, said without its checks: a story is coherent (`Story.Coherent`) if no two
entities of a kind share a symbol, the player has a place to begin, every reference leads to an
entity of its kind, no inventory item is combined with itself or with a partner twice,
conversations keep to their own layers and no action lists itself. Validation finds no fault in
exactly the coherent stories (`Story.faults_eq_nil_iff`).

References are collected entity by entity (`references`), so that each check is compared with the
references of the entity that it checks.
-/

namespace Adventure

namespace Story

/-! ## References -/

/-- A reference: the kind that is required and the symbol. -/
abbrev Reference : Type := EntityKind × String

/-- References to several entities of a kind. -/
def referencesTo (kind : EntityKind) (symbols : List String) : List Reference :=
  symbols.map (kind, ·)

/-- An optional reference. -/
def referenceTo? (kind : EntityKind) (symbol : Option String) : List Reference :=
  referencesTo kind symbol.toList

def Partner.references : Partner → List Reference
  | inventoryItem symbol => [(.inventoryItem, symbol)]
  | item symbol => [(.item, symbol)]
  | person symbol => [(.person, symbol)]

def Player.references (p : Player) : List Reference :=
  (.location, p.startLocation) :: referencesTo .inventoryItem p.inventory

def Way.references (w : Way) : List Reference :=
  (.location, w.origin) :: (.location, w.destination) :: referencesTo .action w.moving.actions
    ++ referencesTo .action w.inspection.actions

def Item.references (i : Item) : List Reference :=
  referenceTo? .location i.location ++ referencesTo .inventoryItem i.taking.grants
    ++ referencesTo .action i.taking.actions ++ referencesTo .action i.usage.actions
    ++ referencesTo .action i.inspection.actions

/-- The partner of an interaction and the actions that it triggers. -/
def interactionReferences (x : Interaction Symbol Partner) : List Reference :=
  x.partner.references ++ referencesTo .action x.actions

def InventoryItem.references (i : InventoryItem) : List Reference :=
  referencesTo .action i.usage.actions ++ referencesTo .action i.inspection.actions
    ++ i.interactions.flatMap interactionReferences

def Person.references (p : Person) : List Reference :=
  referenceTo? .location p.location ++ referenceTo? .conversation p.talk.conversation
    ++ referencesTo .action p.talk.actions ++ referencesTo .action p.inspection.actions

def Conversation.references (c : Conversation) : List Reference :=
  c.layers.flatMap fun l => l.choices.flatMap fun o => referencesTo .action o.actions

/-- Where a patch puts an item or a person. -/
def relocationReferences : Option (Relocation Symbol) → List Reference
  | some (.to location) => [(.location, location)]
  | some .remove | none => []

/-- The references of an effect. Layers are left out, since a conversation has to own them. -/
def effectReferences : Effect Symbol Partner → List Reference
  | .addInventoryItems items => referencesTo .inventoryItem items
  | .removeInventoryItem item => [(.inventoryItem, item)]
  | .removeItem item => [(.item, item)]
  | .move way => [(.way, way)]
  | .take item _ grants => (.item, item) :: referencesTo .inventoryItem grants
  | .sequence actions => referencesTo .action actions
  | .changeAction action _ => [(.action, action)]
  | .changeItem item patch => (.item, item) :: relocationReferences patch.relocation
  | .changeInventoryItem item _ => [(.inventoryItem, item)]
  | .changePerson person patch => (.person, person) :: relocationReferences patch.relocation
      ++ referenceTo? .conversation patch.conversation
  | .changeLocation location _ => [(.location, location)]
  | .changeWay way _ => [(.way, way)]
  | .changeConversation conversation _ => [(.conversation, conversation)]
  | .changeChoice choice _ => [(.choice, choice)]
  | .changeInteraction item partner _ => (.inventoryItem, item) :: partner.references
  | .endGame _ => []

/-- All references of a story. -/
def references (s : Story) : List Reference :=
  s.player.references ++ s.ways.flatMap Way.references ++ s.items.flatMap Item.references
    ++ s.inventoryItems.flatMap InventoryItem.references ++ s.persons.flatMap Person.references
    ++ s.conversations.flatMap Conversation.references
    ++ s.actions.flatMap fun a => effectReferences a.effect

/-! ## Coherence -/

/-- The conversation defines the layer. -/
def Conversation.Defines (c : Conversation) (layer : String) : Prop :=
  ∃ l ∈ c.layers, l.symbol = layer

/-- The conversation defines the choice. -/
def Conversation.Offers (c : Conversation) (choice : String) : Prop :=
  ∃ l ∈ c.layers, ∃ o ∈ l.choices, o.symbol = choice

/-- A reference leads to an entity of its kind. -/
def Resolves (s : Story) (r : Reference) : Prop := r.2 ∈ s.symbols r.1

/-- Everything in a story fits together. -/
structure Coherent (s : Story) : Prop where
  /-- No two entities of a kind share a symbol. -/
  distinct : ∀ kind, (s.symbols kind).Nodup
  /-- The start location is not blank. -/
  begins : ∃ c ∈ s.player.startLocation.toList, Unicode.isWhitespace c = false
  /-- References lead to entities of their kind. -/
  resolves : ∀ r ∈ s.references, s.Resolves r
  /-- No inventory item lists a partner twice. -/
  partners : ∀ i ∈ s.inventoryItems, (i.interactions.map (·.partner)).Nodup
  /-- No inventory item lists itself as a partner. -/
  others : ∀ i ∈ s.inventoryItems, ∀ x ∈ i.interactions, x.partner ≠ .inventoryItem i.symbol
  /-- Conversations begin in layers of their own. -/
  starts : ∀ c ∈ s.conversations, ∀ layer, c.startLayer = some layer → c.Defines layer
  /-- Choices lead to layers of the same conversation. -/
  targets : ∀ c ∈ s.conversations, ∀ l ∈ c.layers, ∀ o ∈ l.choices, ∀ target,
    o.target = some target → c.Defines target
  /-- Patches let conversations begin in layers of their own. -/
  newStarts : ∀ a ∈ s.actions, ∀ conversation patch,
    a.effect = .changeConversation conversation patch →
      ∀ layer, patch.startLayer = some layer →
        ∃ c ∈ s.conversations, c.symbol = conversation ∧ c.Defines layer
  /-- Patches let choices lead to layers of the same conversation. -/
  newTargets : ∀ a ∈ s.actions, ∀ choice patch, a.effect = .changeChoice choice patch →
    ∀ target, patch.target = some target → ∃ c ∈ s.conversations, c.Offers choice ∧ c.Defines target
  /-- No action lists itself. -/
  noLoops : ∀ a ∈ s.actions, ∀ parts, a.effect = .sequence parts → a.symbol ∉ parts

variable {s : Story} {place : Place}

/-! ## Checks of references -/

theorem checkRefs_eq_nil {kind : EntityKind} {symbols : List String} :
    symbols.flatMap (s.checkRef kind place) = [] ↔
      ∀ r ∈ referencesTo kind symbols, s.Resolves r := by
  simp [checkRef_eq_nil, referencesTo, Resolves, List.flatMap_eq_nil_iff]

theorem checkActions_eq_nil {actions : List String} :
    s.checkActions place actions = [] ↔ ∀ r ∈ referencesTo .action actions, s.Resolves r :=
  checkRefs_eq_nil

theorem checkPartner_eq_nil {partner : Partner} :
    s.checkPartner place partner = [] ↔ ∀ r ∈ partner.references, s.Resolves r := by
  cases partner <;> simp [checkPartner, Partner.references, checkRef_eq_nil, Resolves]

theorem checkRelocation_eq_nil {relocation : Option (Relocation Symbol)} :
    s.checkRelocation place relocation = [] ↔
      ∀ r ∈ relocationReferences relocation, s.Resolves r := by
  match relocation with
  | none => simp [checkRelocation, relocationReferences]
  | some .remove => simp [checkRelocation, relocationReferences]
  | some (.to location) => simp [checkRelocation, relocationReferences, checkRef_eq_nil, Resolves]

theorem checkPlayer_eq_nil : s.checkPlayer = [] ↔
    (∃ c ∈ s.player.startLocation.toList, Unicode.isWhitespace c = false) ∧
      ∀ r ∈ s.player.references, s.Resolves r := by
  have hblank : s.player.startLocation.toList.all Unicode.isWhitespace = false ↔
      ∃ c ∈ s.player.startLocation.toList, Unicode.isWhitespace c = false := by simp
  rw [← hblank, checkPlayer, List.append_eq_nil_iff, checkRefs_eq_nil, Player.references,
    List.forall_mem_cons]
  cases s.player.startLocation.toList.all Unicode.isWhitespace <;>
    simp [checkRef_eq_nil, Resolves]

theorem checkWay_eq_nil {w : Way} : s.checkWay w = [] ↔ ∀ r ∈ w.references, s.Resolves r := by
  simp only [checkWay, Way.references, List.append_eq_nil_iff, List.forall_mem_append,
    List.forall_mem_cons, checkRef_eq_nil, checkActions_eq_nil, Resolves, and_assoc]

theorem checkItem_eq_nil {i : Item} : s.checkItem i = [] ↔ ∀ r ∈ i.references, s.Resolves r := by
  simp only [checkItem, Item.references, referenceTo?, List.append_eq_nil_iff,
    List.forall_mem_append, checkRefs_eq_nil, checkActions_eq_nil]

theorem checkPerson_eq_nil {p : Person} :
    s.checkPerson p = [] ↔ ∀ r ∈ p.references, s.Resolves r := by
  simp only [checkPerson, Person.references, referenceTo?, List.append_eq_nil_iff,
    List.forall_mem_append, checkRefs_eq_nil, checkActions_eq_nil]

/-- No partner is among those before or comes twice. -/
theorem checkInteractions_eq_nil (owner : String) :
    ∀ (xs : List (Interaction Symbol Partner)) (seen : List Partner),
      s.checkInteractions owner place seen xs = [] ↔
        (∀ r ∈ xs.flatMap interactionReferences, s.Resolves r) ∧
        (∀ x ∈ xs, x.partner ∉ seen) ∧ (xs.map (·.partner)).Nodup ∧
        ∀ x ∈ xs, x.partner ≠ .inventoryItem owner
  | [], seen => by simp [checkInteractions]
  | x :: xs, seen => by
    have hseen : (if seen.contains x.partner then [Fault.partnerTwice place x.partner.symbol]
        else []) = [] ↔ x.partner ∉ seen := by simp
    have hself : (if x.partner = .inventoryItem owner then [Fault.ownPartner place] else []) = [] ↔
        x.partner ≠ .inventoryItem owner := by simp
    have hrest : (∀ y ∈ xs, y.partner ∉ x.partner :: seen) ↔
        x.partner ∉ xs.map (·.partner) ∧ ∀ y ∈ xs, y.partner ∉ seen := by
      simp only [List.mem_cons, not_or, List.mem_map, not_exists, not_and]
      exact ⟨fun h => ⟨fun y hy heq => (h y hy).1 heq, fun y hy => (h y hy).2⟩,
        fun h y hy => ⟨fun heq => h.1 y hy heq, h.2 y hy⟩⟩
    have ih := checkInteractions_eq_nil owner xs (x.partner :: seen)
    simp only [checkInteractions, List.append_eq_nil_iff, checkPartner_eq_nil, hseen, hself,
      checkActions_eq_nil, ih, hrest, List.flatMap_cons, interactionReferences,
      List.forall_mem_append, List.forall_mem_cons, List.map_cons, List.nodup_cons]
    tauto

theorem checkInventoryItem_eq_nil {i : InventoryItem} : s.checkInventoryItem i = [] ↔
    (∀ r ∈ i.references, s.Resolves r) ∧ (i.interactions.map (·.partner)).Nodup ∧
      ∀ x ∈ i.interactions, x.partner ≠ .inventoryItem i.symbol := by
  simp only [checkInventoryItem, InventoryItem.references, List.append_eq_nil_iff,
    List.forall_mem_append, checkActions_eq_nil, checkInteractions_eq_nil, List.not_mem_nil,
    not_false_eq_true, implies_true, true_and, and_assoc]

/-! ## Owners of layers and choices -/

/-- A layer with an owner is defined in the conversation that owns it. -/
theorem mem_layerOwners {layer owner : String} : (layer, owner) ∈ s.layerOwners ↔
    ∃ c ∈ s.conversations, c.symbol = owner ∧ c.Defines layer := by
  simp only [layerOwners, List.mem_flatMap, List.mem_map, Prod.mk.injEq, Conversation.Defines]
  exact ⟨fun ⟨c, hc, l, hl, heq, howner⟩ => ⟨c, hc, howner, l, hl, heq⟩,
    fun ⟨c, hc, howner, l, hl, heq⟩ => ⟨c, hc, l, hl, heq, howner⟩⟩

theorem mem_choiceOwners {choice owner : String} : (choice, owner) ∈ s.choiceOwners ↔
    ∃ c ∈ s.conversations, c.symbol = owner ∧ c.Offers choice := by
  simp only [choiceOwners, List.mem_flatMap, List.mem_map, Prod.mk.injEq, Conversation.Offers]
  exact ⟨fun ⟨c, hc, l, hl, o, ho, heq, howner⟩ => ⟨c, hc, howner, l, hl, o, ho, heq⟩,
    fun ⟨c, hc, howner, l, hl, o, ho, heq⟩ => ⟨c, hc, l, hl, o, ho, heq, howner⟩⟩

/-- Of owners with distinct keys it does not matter which one is found first. -/
theorem lookup_reverse {κ α : Type} [BEq κ] [LawfulBEq κ] {entries : List (κ × α)}
    (h : (entries.map (·.1)).Nodup) {k : κ} {a : α} :
    entries.reverse.lookup k = some a ↔ (k, a) ∈ entries := by
  rw [← Arena.mem_iff_lookup, List.mem_reverse]
  rwa [List.map_reverse, List.nodup_reverse]

theorem layerOwner?_eq_some (h : (s.symbols .layer).Nodup) {layer owner : String} :
    s.layerOwner? layer = some owner ↔
      ∃ c ∈ s.conversations, c.symbol = owner ∧ c.Defines layer := by
  have hkeys : s.layerOwners.map (·.1) = s.symbols .layer := by
    simp [layerOwners, symbols, List.map_flatMap, Function.comp_def]
  rw [layerOwner?, lookup_reverse (hkeys ▸ h), mem_layerOwners]

theorem choiceOwner?_eq_some (h : (s.symbols .choice).Nodup) {choice owner : String} :
    s.choiceOwner? choice = some owner ↔
      ∃ c ∈ s.conversations, c.symbol = owner ∧ c.Offers choice := by
  have hkeys : s.choiceOwners.map (·.1) = s.symbols .choice := by
    simp [choiceOwners, symbols, List.map_flatMap, Function.comp_def]
  rw [choiceOwner?, lookup_reverse (hkeys ▸ h), mem_choiceOwners]

theorem checkStart_eq_nil {conversation layer : String} :
    s.checkStart conversation place layer = [] ↔ s.layerOwner? layer = some conversation := by
  unfold checkStart
  cases s.layerOwner? layer <;> simp

theorem checkTarget_eq_nil {choice conversation target : String} :
    s.checkTarget choice conversation place target = [] ↔
      s.layerOwner? target = some conversation := by
  unfold checkTarget
  cases s.layerOwner? target <;> simp

/-! ## Conversations and actions -/

section
variable (hd : ∀ kind, (s.symbols kind).Nodup)
include hd

/-- Of conversations with one symbol there is only one. -/
theorem defines_iff {c : Conversation} (hc : c ∈ s.conversations) {layer : String} :
    (∃ c' ∈ s.conversations, c'.symbol = c.symbol ∧ c'.Defines layer) ↔ c.Defines layer := by
  refine ⟨fun ⟨c', hc', heq, hdefines⟩ => ?_, fun hdefines => ⟨c, hc, rfl, hdefines⟩⟩
  rwa [← List.inj_on_of_nodup_map (hd .conversation) hc' hc heq]

theorem checkConversation_eq_nil {c : Conversation} (hc : c ∈ s.conversations) :
    s.checkConversation c = [] ↔
      (∀ r ∈ c.references, s.Resolves r) ∧
      (∀ layer, c.startLayer = some layer → c.Defines layer) ∧
      ∀ l ∈ c.layers, ∀ o ∈ l.choices, ∀ target, o.target = some target → c.Defines target := by
  simp only [checkConversation, checkChoice, List.append_eq_nil_iff, List.flatMap_eq_nil_iff,
    Option.mem_toList, checkStart_eq_nil, checkTarget_eq_nil, layerOwner?_eq_some (hd .layer),
    defines_iff hd hc, checkActions_eq_nil, Conversation.references, List.forall_mem_flatMap]
  constructor
  · rintro ⟨hstart, hchoices⟩
    exact ⟨fun l hl o ho => (hchoices l hl o ho).2, hstart,
      fun l hl o ho => (hchoices l hl o ho).1⟩
  · rintro ⟨hactions, hstart, htargets⟩
    exact ⟨hstart, fun l hl o ho => ⟨htargets l hl o ho, hactions l hl o ho⟩⟩

/-- A choice that is defined has the conversation that offers it as its owner. -/
theorem exists_choiceOwner {choice : String} (h : choice ∈ s.symbols .choice) :
    ∃ c ∈ s.conversations, c.Offers choice ∧ s.choiceOwner? choice = some c.symbol := by
  obtain ⟨c, hc, hoffers⟩ : ∃ c ∈ s.conversations, c.Offers choice := by
    simpa [symbols, Conversation.Offers] using h
  exact ⟨c, hc, hoffers, (choiceOwner?_eq_some (hd .choice)).2 ⟨c, hc, rfl, hoffers⟩⟩

/-- Only one conversation offers a choice. -/
theorem checkTarget_offered {c : Conversation} (hc : c ∈ s.conversations) {choice target : String}
    (howner : s.choiceOwner? choice = some c.symbol) :
    s.checkTarget choice c.symbol place target = [] ↔
      ∃ c ∈ s.conversations, c.Offers choice ∧ c.Defines target := by
  have honly : ∀ c' ∈ s.conversations, c'.Offers choice ↔ c' = c := by
    intro c' hc'
    refine ⟨fun hoffers => List.inj_on_of_nodup_map (hd .conversation) hc' hc ?_, ?_⟩
    · have howner' := (choiceOwner?_eq_some (hd .choice)).2 ⟨c', hc', rfl, hoffers⟩
      exact Option.some.inj (howner'.symm.trans howner)
    · rintro rfl
      obtain ⟨c', hc'', heq, hoffers⟩ := (choiceOwner?_eq_some (hd .choice)).1 howner
      rwa [← List.inj_on_of_nodup_map (hd .conversation) hc'' hc' heq]
  rw [checkTarget_eq_nil, layerOwner?_eq_some (hd .layer), defines_iff hd hc]
  exact ⟨fun hdefines => ⟨c, hc, (honly c hc).2 rfl, hdefines⟩,
    fun ⟨c', hc', hoffers, hdefines⟩ => (honly c' hc').1 hoffers ▸ hdefines⟩

theorem checkEffect_eq_nil {owner : String} {effect : Effect Symbol Partner} :
    s.checkEffect owner place effect = [] ↔
      (∀ r ∈ effectReferences effect, s.Resolves r) ∧
      (∀ conversation patch, effect = .changeConversation conversation patch →
        ∀ layer, patch.startLayer = some layer →
          ∃ c ∈ s.conversations, c.symbol = conversation ∧ c.Defines layer) ∧
      (∀ choice patch, effect = .changeChoice choice patch →
        ∀ target, patch.target = some target →
          ∃ c ∈ s.conversations, c.Offers choice ∧ c.Defines target) ∧
      ∀ parts, effect = .sequence parts → owner ∉ parts := by
  cases effect with
  | sequence parts => simp [checkEffect, effectReferences, checkActions_eq_nil]
  | changeConversation conversation patch =>
    simp [checkEffect, effectReferences, checkRef_eq_nil, checkStart_eq_nil,
      layerOwner?_eq_some (hd .layer), Resolves]
  | changeChoice choice patch =>
    simp only [checkEffect, effectReferences, List.append_eq_nil_iff, checkRef_eq_nil,
      List.flatMap_eq_nil_iff, Option.mem_toList, List.forall_mem_singleton, Resolves,
      reduceCtorEq, false_implies, implies_true, and_true, true_and]
    refine and_congr_right fun hchoice => ?_
    obtain ⟨c, hc, -, howner⟩ := exists_choiceOwner hd hchoice
    simp only [howner, checkTarget_offered hd hc howner, Effect.changeChoice.injEq]
    exact ⟨by rintro h _ _ ⟨rfl, rfl⟩; exact h, fun h => h choice patch ⟨rfl, rfl⟩⟩
  | _ =>
    simp only [checkEffect, effectReferences, referenceTo?, List.append_eq_nil_iff,
      List.forall_mem_append, List.forall_mem_cons, List.not_mem_nil, checkRefs_eq_nil,
      checkRef_eq_nil, checkRelocation_eq_nil, checkPartner_eq_nil, Resolves, reduceCtorEq,
      false_implies, implies_true, and_true, and_assoc]

end

/-! ## The whole story -/

theorem duplicates_eq_nil : s.duplicates = [] ↔ ∀ kind, (s.symbols kind).Nodup := by
  simp only [duplicates, List.flatMap_eq_nil_iff, List.map_eq_nil_iff, repeated_eq_nil]
  exact ⟨fun h kind => (h kind (mem_kindsInOrder kind)).1, fun h kind _ => ⟨h kind, by simp⟩⟩

/-- Validation finds a fault in exactly those stories that are not coherent. -/
theorem faults_eq_nil_iff : s.faults = [] ↔ s.Coherent := by
  simp only [faults, List.append_eq_nil_iff, List.flatMap_eq_nil_iff, duplicates_eq_nil,
    checkPlayer_eq_nil, checkWay_eq_nil, checkItem_eq_nil, checkInventoryItem_eq_nil,
    checkPerson_eq_nil, checkAction]
  constructor
  · rintro ⟨⟨⟨⟨⟨⟨⟨hd, hbegins, hplayer⟩, hways⟩, hitems⟩, hinventory⟩, hpersons⟩, htalks⟩, hactions⟩
    have htalks := fun c hc => (checkConversation_eq_nil hd hc).1 (htalks c hc)
    have hactions := fun a ha => (checkEffect_eq_nil hd).1 (hactions a ha)
    refine ⟨hd, hbegins, ?_, fun i hi => (hinventory i hi).2.1, fun i hi => (hinventory i hi).2.2,
      fun c hc => (htalks c hc).2.1, fun c hc => (htalks c hc).2.2,
      fun a ha => (hactions a ha).2.1, fun a ha => (hactions a ha).2.2.1,
      fun a ha => (hactions a ha).2.2.2⟩
    simp only [references, List.forall_mem_append, List.forall_mem_flatMap]
    exact ⟨⟨⟨⟨⟨⟨hplayer, hways⟩, hitems⟩, fun i hi => (hinventory i hi).1⟩, hpersons⟩,
      fun c hc => (htalks c hc).1⟩, fun a ha => (hactions a ha).1⟩
  · intro h
    have hresolves := h.resolves
    simp only [references, List.forall_mem_append, List.forall_mem_flatMap] at hresolves
    obtain ⟨⟨⟨⟨⟨⟨hplayer, hways⟩, hitems⟩, hinventory⟩, hpersons⟩, htalks⟩, hactions⟩ := hresolves
    refine ⟨⟨⟨⟨⟨⟨⟨h.distinct, h.begins, hplayer⟩, hways⟩, hitems⟩, fun i hi => ?_⟩, hpersons⟩,
      fun c hc => ?_⟩, fun a ha => ?_⟩
    · exact ⟨hinventory i hi, h.partners i hi, h.others i hi⟩
    · exact (checkConversation_eq_nil h.distinct hc).2
        ⟨htalks c hc, h.starts c hc, h.targets c hc⟩
    · exact (checkEffect_eq_nil h.distinct).2
        ⟨hactions a ha, h.newStarts a ha, h.newTargets a ha, h.noLoops a ha⟩

end Story

end Adventure
