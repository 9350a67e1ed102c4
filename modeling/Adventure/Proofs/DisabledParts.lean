import Adventure.Proofs.Acceptance
import Adventure.Proofs.Cascades
import Adventure.Proofs.Flags

/-!
# What loading disables

Loading disables all that disabled sequences reach, be it through sequences that are enabled
(`Story.Muted`). That is a set of actions and not a course of events: in whatever order, and however
often, the disabled sequences are gone through, the world comes out the same
(`World.forM_setEnabled`). Since the set is closed under what sequences contain, disabling once more
finds nothing left to do, and a disabled sequence does nothing when it is triggered.
-/

namespace Adventure

open World Relation Steps

namespace Story

/-- An action that is made up of others and disabled. -/
def Action.Disabled (d : Story.Action) : Prop :=
  d.enabled = false ∧ ∃ parts, d.effect = .sequence parts

/-- A disabled sequence is, or leads to, the action with a given symbol. -/
def Muted (s : Story) (symbol : String) : Prop :=
  ∃ d ∈ s.actions, d.Disabled ∧ ReflTransGen s.Lists d.symbol symbol

/-- The identifiers of the actions that disabled sequences are or lead to. -/
def mutedIds (s : Story) : Set (EntityId .action) :=
  {id | ∃ symbol, s.Muted symbol ∧ idOf symbol = id}

end Story

namespace World

/-- The disabled actions that are made up of others. -/
def disabledSequences (w : World) : List Action :=
  w.actions.values.filter fun a => !a.enabled && (Action.parts? a).isSome

theorem disableParts_eq (w : World) : Edit.disableParts w =
    w.disabledSequences.forM (fun a => Edit.setEnabled a.id false) w := rfl

theorem mem_disabledSequences {w : World} {a : Action} : a ∈ w.disabledSequences ↔
    (∃ id : EntityId .action, w.get? id = some a) ∧ a.enabled = false ∧
      (Action.parts? a).isSome = true := by
  rw [disabledSequences, List.mem_filter, Arena.mem_values]
  simp only [Bool.and_eq_true, Bool.not_eq_true']
  rfl

section
variable {s : Story} (hs : s.Sound) (hd : s.DistinctIds)
include hs hd

theorem mem_disabledSequences_ofStory {a : Action} : a ∈ (ofStory s).disabledSequences ↔
    ∃ d ∈ s.actions, d.Disabled ∧ actionOf d = a := by
  constructor
  · intro h
    obtain ⟨⟨id, hget⟩, henabled, hparts⟩ := mem_disabledSequences.1 h
    obtain ⟨parts, hparts⟩ := Option.isSome_iff_exists.1 hparts
    obtain ⟨-, hmem⟩ := mem_actionsOf_of_get? hs hd hget
    rcases mem_actionsOf.1 hmem with ⟨d, hdef, rfl⟩ | ⟨v, -, rfl⟩ | ⟨i, -, rfl⟩
    · obtain ⟨symbols, heffect, -⟩ := parts?_actionOf.1 hparts
      exact ⟨d, hdef, ⟨henabled, symbols, heffect⟩, rfl⟩
    · cases hparts
    · cases hparts
  · rintro ⟨d, hdef, ⟨henabled, parts, heffect⟩, rfl⟩
    have hparts := parts?_actionOf.2 ⟨parts, heffect, rfl⟩
    have hget := get?_action hs hd (mem_actionsOf.2 (.inl ⟨d, hdef, rfl⟩))
    exact mem_disabledSequences.2
      ⟨⟨_, hget⟩, henabled, Option.isSome_iff_exists.2 ⟨_, hparts⟩⟩

/-- Muted is what the disabled sequences of the world reach. -/
theorem mem_mutedIds {x : EntityId .action} : x ∈ s.mutedIds ↔
    ∃ a ∈ (ofStory s).disabledSequences, (ofStory s).Reaches a.id x := by
  constructor
  · rintro ⟨symbol, ⟨d, hdef, hdisabled, hchain⟩, rfl⟩
    exact ⟨actionOf d, (mem_disabledSequences_ofStory hs hd).2 ⟨d, hdef, hdisabled, rfl⟩,
      (reaches_ofStory hs hd (List.mem_map_of_mem hdef)).2 ⟨symbol, hchain, rfl⟩⟩
  · rintro ⟨a, ha, hreaches⟩
    obtain ⟨d, hdef, hdisabled, rfl⟩ := (mem_disabledSequences_ofStory hs hd).1 ha
    obtain ⟨b, hchain, rfl⟩ := (reaches_ofStory hs hd (List.mem_map_of_mem hdef)).1 hreaches
    exact ⟨b, ⟨d, hdef, hdisabled, hchain⟩, rfl⟩

theorem mutedIds_of_reaches {x y : EntityId .action} (hx : x ∈ s.mutedIds)
    (h : (ofStory s).Reaches x y) : y ∈ s.mutedIds := by
  obtain ⟨a, ha, hreaches⟩ := (mem_mutedIds hs hd).1 hx
  exact (mem_mutedIds hs hd).2 ⟨a, ha, hreaches.trans h⟩

omit hd in
theorem symbol_of_muted {symbol : String} (h : s.Muted symbol) : symbol ∈ s.symbols .action := by
  obtain ⟨d, hdef, -, hchain⟩ := h
  exact symbol_of_chain hs (List.mem_map_of_mem hdef) hchain

theorem idOf_mem_mutedIds {symbol : String} (h : symbol ∈ s.symbols .action) :
    idOf symbol ∈ s.mutedIds ↔ s.Muted symbol := by
  refine ⟨fun ⟨symbol', hmuted, heq⟩ => ?_, fun hmuted => ⟨symbol, hmuted, rfl⟩⟩
  rwa [← idOf_inj hd (symbol_of_muted hs hmuted) h heq]

/-- Actions of ways and items have names of their own, so nothing leads to them. -/
theorem owned_notMem_mutedIds {owner role : String}
    (h : (ownedActionSpace, EntityId.ownedSymbol owner role) ∈ s.names .action) :
    EntityId.owned owner role ∉ s.mutedIds := by
  rintro ⟨symbol, hmuted, heq⟩
  have hnames := Story.mem_names_of_symbol (symbol_of_muted hs hmuted)
  have hname := hd .action _ hnames _ h (congrArg EntityId.uuid heq)
  have hspace : EntityKind.action.space ≠ ownedActionSpace := by decide
  exact hspace (congrArg Prod.fst hname)

/-- Going through the disabled sequences in any order, each of them at least once, disables what is
muted and changes nothing else. -/
theorem forM_setEnabled (hactions : (ofStory s).checkActions = .ok ()) {order : List Action}
    (horder : ∀ a, a ∈ order ↔ a ∈ (ofStory s).disabledSequences) :
    ∃ w, order.forM (fun a => Edit.setEnabled a.id false) (ofStory s) = (.ok (), w) ∧
      SameSkeleton (ofStory s) w ∧ Flagged false s.mutedIds (ofStory s) w := by
  have hset : ∀ a ∈ order, ∀ w, SameSkeleton (ofStory s) w →
      ∃ w', Edit.setEnabled a.id false w = (.ok (), w') ∧ SameSkeleton (ofStory s) w' ∧
        Flagged false {x | (ofStory s).Reaches a.id x} w w' := by
    intro a ha w hw
    obtain ⟨⟨id, hget⟩, -⟩ := mem_disabledSequences.1 ((horder a).1 ha)
    obtain ⟨rfl, -⟩ := mem_actionsOf_of_get? hs hd hget
    exact Edit.setEnabled_ok false (checkActions_eq_ok.1 hactions a.id ⟨a, hget⟩) hw
  obtain ⟨w, heq, hw, hflagged⟩ := Edit.forM_flagged hset _ (refl_of SameSkeleton _)
  have hids : {x | ∃ a ∈ order, x ∈ {x | (ofStory s).Reaches a.id x}} = s.mutedIds := by
    ext x
    simp only [Set.mem_ofPred_eq, mem_mutedIds hs hd, horder]
  exact ⟨w, heq, hw, hids ▸ hflagged⟩

end

theorem reaches_of_mem_leavesFrom {w : World} :
    ∀ {depth : Nat} {id a : EntityId .action}, a ∈ w.leavesFrom depth id → w.Reaches id a
  | 0, _, _, h => nomatch h
  | depth + 1, id, a, h => by
    rw [leavesFrom] at h
    cases hparts : w.partsOf id with
    | none =>
      obtain rfl : a = id := by simpa [hparts] using h
      exact .refl
    | some parts =>
      simp only [hparts, List.mem_flatMap] at h
      obtain ⟨part, hpart, ha⟩ := h
      exact .head ⟨parts, hparts, hpart⟩ (reaches_of_mem_leavesFrom ha)

end World

/-- An action does nothing if nothing that it reaches is enabled. -/
theorem Act.trigger_eq_self {p : Play} {id : EntityId .action} (hc : p.world.Cascading id)
    (h : ∀ a, p.world.Reaches id a → ∀ action, p.world.get? a = some action →
      Action.enabled action = false) : Act.trigger id p = (.ok (), p) := by
  have hrun : Act.trigger id p = Act.runLeaves (p.world.leavesFrom p.world.depth id) p :=
    Act.triggerFrom_eq .nil hc (by simp) p (refl_of SameSkeleton p.world)
  rw [hrun, Act.runLeaves]
  refine forM_eq_self fun a ha => ?_
  have hreaches := reaches_of_mem_leavesFrom ha
  obtain ⟨action, haction⟩ := hc.found a hreaches
  rw [Act.runLeaf, bind_of_ok (Act.find_present haction), h a hreaches action haction]
  rfl

namespace World

/-- Loading has disabled what disabled sequences lead to, and nothing else. -/
structure DisabledExactly (s : Story) (w : World) : Prop where
  /-- An action of the story is enabled if its author enabled it and no disabled sequence is it or
  leads to it. -/
  actions : ∀ d ∈ s.actions, ∃ action, w.get? (idOf d.symbol : EntityId .action) = some action ∧
    (Action.enabled action = true ↔ d.enabled = true ∧ ¬s.Muted d.symbol)
  /-- The actions of ways are as their authors made them. -/
  moves : ∀ v ∈ s.ways, w.get? (moveActionId v) = some (moveActionOf v)
  /-- The actions of items are as their authors made them. -/
  takes : ∀ i ∈ s.items, w.get? (takeActionId i) = some (takeActionOf i)
  /-- There are no other actions. -/
  only : ∀ (id : EntityId .action) (action : Action), w.get? id = some action →
    (∃ d ∈ s.actions, id = idOf d.symbol) ∨ (∃ v ∈ s.ways, id = moveActionId v) ∨
      ∃ i ∈ s.items, id = takeActionId i
  /-- From the world before, this one differs in flags only. -/
  flagged : Flagged false s.mutedIds (ofStory s) w
  /-- Disabling once more changes nothing. -/
  again : Edit.disableParts w = (.ok (), w)
  /-- In whatever order the disabled sequences are gone through, and however often, the world comes
  out the same. -/
  anyOrder : ∀ order : List Action, (∀ a, a ∈ order ↔ a ∈ (ofStory s).disabledSequences) →
    order.forM (fun a => Edit.setEnabled a.id false) (ofStory s) = (.ok (), w)
  /-- A disabled sequence that is triggered now changes nothing and tells the store nothing. -/
  still : ∀ d ∈ s.actions, d.Disabled → ∀ p : Play, p.world = w →
    Act.trigger (idOf d.symbol) p = (.ok (), p)

/-- Where no disabled sequences are defined, loading disables nothing. -/
theorem Loaded.eq_ofStory {s : Story} {w : World} (h : Loaded s w)
    (hnone : (ofStory s).disabledSequences = []) : w = ofStory s := by
  have hdisabled := h.disabled
  rw [disableParts_eq, hnone] at hdisabled
  exact (congrArg Prod.snd hdisabled).symm

section
variable {s : Story} {w : World} (hd : s.DistinctIds) (h : Loaded s w)
include hd h

theorem Loaded.flagged : SameSkeleton (ofStory s) w ∧ Flagged false s.mutedIds (ofStory s) w := by
  obtain ⟨w', heq, hw', hflagged⟩ := forM_setEnabled h.sound hd h.actions fun _ => Iff.rfl
  obtain rfl : w = w' := (Prod.mk.inj (h.disabled.symm.trans heq)).2
  exact ⟨hw', hflagged⟩

/-- Where a disabled sequence leads, all actions are disabled now. -/
theorem Loaded.enabled_eq_false {id a : EntityId .action} (hid : id ∈ s.mutedIds)
    (ha : w.Reaches id a) {action : Action} (haction : w.get? a = some action) :
    action.enabled = false := by
  obtain ⟨hw, hflagged⟩ := h.flagged hd
  rw [Reaches, contains_of_sameSkeleton hw] at ha
  rw [hflagged.flags a (mutedIds_of_reaches h.sound hd hid ha)] at haction
  obtain ⟨_, -, rfl⟩ := Option.map_eq_some_iff.1 haction
  rfl

theorem Loaded.cascading {id : EntityId .action} {action : Action}
    (haction : w.get? id = some action) : w.Cascading id := by
  obtain ⟨hw, -⟩ := h.flagged hd
  obtain ⟨action', haction', -⟩ := get?_of_view_eq (congrArg Skeleton.entities hw) haction
  exact (checkActions_eq_ok.1 h.actions id ⟨action', haction'⟩).of_sameSkeleton hw

theorem Loaded.get?_of_notMem {a : Action} (ha : a ∈ actionsOf s) (hid : a.id ∉ s.mutedIds) :
    w.get? a.id = some a := by
  rw [(h.flagged hd).2.others a.id hid]
  exact get?_action h.sound hd ha

theorem Loaded.get?_actionOf {d : Story.Action} (hdef : d ∈ s.actions) :
    ∃ action, w.get? (idOf d.symbol : EntityId .action) = some action ∧
      (Action.enabled action = true ↔ d.enabled = true ∧ ¬s.Muted d.symbol) := by
  have hget : (ofStory s).get? (idOf d.symbol : EntityId .action) = some (actionOf d) :=
    get?_action h.sound hd (a := actionOf d) (mem_actionsOf.2 (.inl ⟨d, hdef, rfl⟩))
  have hmuted := idOf_mem_mutedIds h.sound hd (List.mem_map_of_mem hdef)
  obtain ⟨-, hflagged⟩ := h.flagged hd
  by_cases hid : idOf d.symbol ∈ s.mutedIds
  · refine ⟨(actionOf d).withFlag false, ?_, ?_⟩
    · rw [hflagged.flags _ hid, hget]
      rfl
    · simp [Action.withFlag, hmuted.1 hid]
  · refine ⟨actionOf d, ?_, ?_⟩
    · rw [hflagged.others _ hid, hget]
    · simp [actionOf, mt hmuted.2 hid]

/-- After loading, too, a disabled sequence is one that loading has gone through, or one that it has
disabled. -/
theorem Loaded.of_mem_disabledSequences {a : Action} (ha : a ∈ w.disabledSequences) :
    w.get? a.id = some a ∧ a.id ∈ s.mutedIds := by
  obtain ⟨⟨id, hget⟩, henabled, hparts⟩ := mem_disabledSequences.1 ha
  obtain ⟨-, hflagged⟩ := h.flagged hd
  by_cases hid : id ∈ s.mutedIds
  · have hget' := hget
    rw [hflagged.flags id hid] at hget'
    obtain ⟨a₀, hget₀, rfl⟩ := Option.map_eq_some_iff.1 hget'
    obtain ⟨rfl, -⟩ := mem_actionsOf_of_get? h.sound hd hget₀
    exact ⟨hget, hid⟩
  · have hget₀ := hget
    rw [hflagged.others id hid] at hget₀
    obtain ⟨rfl, -⟩ := mem_actionsOf_of_get? h.sound hd hget₀
    have ha₀ := mem_disabledSequences.2 ⟨⟨a.id, hget₀⟩, henabled, hparts⟩
    exact ⟨hget, (mem_mutedIds h.sound hd).2 ⟨a, ha₀, .refl⟩⟩

end

/-- Loading disables exactly what disabled sequences are and lead to. It does so once and for all,
in whatever order it goes through them, and leaves no disabled sequence with anything to do. -/
theorem disabledExactly_of_load {s : Story} {w : World} (hd : s.DistinctIds)
    (h : load s = .ok w) : DisabledExactly s w := by
  have hl := loaded_of_load h
  have hs := hl.sound
  obtain ⟨hskeleton, hflagged⟩ := hl.flagged hd
  refine ⟨fun d => hl.get?_actionOf hd, fun v hv => ?_, fun i hi => ?_, fun id action hget => ?_,
    hflagged, ?_, fun order horder => ?_, fun d hdef hdisabled p hp => ?_⟩
  · have hname : (ownedActionSpace, EntityId.ownedSymbol v.symbol "move") ∈ s.names .action :=
      List.mem_append_right _ (List.mem_append_left _ (List.mem_map_of_mem hv))
    have hmem := mem_actionsOf.2 (.inr (.inl ⟨v, hv, rfl⟩))
    have hid : moveActionId v ∉ s.mutedIds := owned_notMem_mutedIds hs hd hname
    exact hl.get?_of_notMem hd (a := moveActionOf v) hmem hid
  · have hname : (ownedActionSpace, EntityId.ownedSymbol i.symbol "take") ∈ s.names .action :=
      List.mem_append_right _ (List.mem_append_right _ (List.mem_map_of_mem hi))
    have hmem := mem_actionsOf.2 (.inr (.inr ⟨i, hi, rfl⟩))
    have hid : takeActionId i ∉ s.mutedIds := owned_notMem_mutedIds hs hd hname
    exact hl.get?_of_notMem hd (a := takeActionOf i) hmem hid
  · obtain ⟨action₀, hget₀, -⟩ := get?_of_view_eq (congrArg Skeleton.entities hskeleton) hget
    obtain ⟨rfl, hmem⟩ := mem_actionsOf_of_get? hs hd hget₀
    rcases mem_actionsOf.1 hmem with ⟨d, hdef, rfl⟩ | ⟨v, hv, rfl⟩ | ⟨i, hi, rfl⟩
    · exact .inl ⟨d, hdef, rfl⟩
    · exact .inr (.inl ⟨v, hv, rfl⟩)
    · exact .inr (.inr ⟨i, hi, rfl⟩)
  · rw [disableParts_eq]
    refine forM_eq_self fun a ha => ?_
    obtain ⟨hget, hid⟩ := hl.of_mem_disabledSequences hd ha
    exact Edit.setEnabled_eq_self (hl.cascading hd hget) fun b hb _ =>
      hl.enabled_eq_false hd hid hb
  · obtain ⟨w', heq, -, hflagged'⟩ := forM_setEnabled hs hd hl.actions horder
    rw [heq, hflagged'.unique hflagged]
  · subst hp
    obtain ⟨action, hget, -⟩ := hl.get?_actionOf hd hdef
    have hmuted : idOf d.symbol ∈ s.mutedIds := ⟨d.symbol, ⟨d, hdef, hdisabled, .refl⟩, rfl⟩
    exact Act.trigger_eq_self (hl.cascading hd hget) fun a ha _ =>
      hl.enabled_eq_false hd hmuted ha

end World

/-- The gate with a bell that is rung and then polished. The sequence of both is enabled, but it is
part of a disabled one. -/
def Story.bellStory : Story :=
  { gateStory with
    actions :=
      [{ symbol := "duties", enabled := false, effect := .sequence ["bell"] },
       { symbol := "bell", effect := .sequence ["ring", "polish"] },
       { symbol := "ring", effect := .changeAction "polish" .enable },
       { symbol := "polish", effect := .endGame none }] }

theorem Story.distinctIds_bellStory : bellStory.DistinctIds := by
  intro kind
  cases kind <;> decide +kernel

theorem World.load_bellStory : ∃ w, load Story.bellStory = .ok w :=
  exists_ok_of_isOk (by decide +kernel)

/-- Loading disables the ringing of the bell. -/
theorem World.disabledExactly_of_load_bellStory :
    ∃ w action, Story.bellStory.DistinctIds ∧ load Story.bellStory = .ok w ∧
      w.get? (idOf "ring" : EntityId .action) = some action ∧ Action.enabled action = false ∧
      Edit.disableParts w = (.ok (), w) := by
  obtain ⟨w, hload⟩ := load_bellStory
  have hd := Story.distinctIds_bellStory
  have hexactly := disabledExactly_of_load hd hload
  obtain ⟨action, hget, henabled⟩ := hexactly.actions
    { symbol := "ring", effect := .changeAction "polish" .enable } (by simp [Story.bellStory])
  have hmuted : Story.bellStory.Muted "ring" := by
    have hbell : Story.bellStory.Lists "duties" "bell" := ⟨_, .head _, rfl, _, rfl, .head _⟩
    have hring : Story.bellStory.Lists "bell" "ring" :=
      ⟨_, .tail _ (.head _), rfl, _, rfl, .head _⟩
    exact ⟨_, .head _, ⟨rfl, _, rfl⟩, .tail (.single hbell) hring⟩
  refine ⟨w, action, hd, hload, hget, ?_, hexactly.again⟩
  rw [← Bool.not_eq_true, henabled]
  exact fun h => h.2 hmuted

end Adventure
