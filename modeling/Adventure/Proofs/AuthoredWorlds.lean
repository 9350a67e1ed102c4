import Adventure.Proofs.Passes

/-!
# What worlds have of their stories

The world of a sound story with distinct identifiers has everything that the story defines, once,
and in the order in which it is written (`World.Authored`). Besides the actions that an author
defines there is one for each way and one for each item, which belongs to it and to nothing else.
The names of these are made of the symbols of their owners; whatever characters symbols consist of,
they coincide neither with each other nor with actions of the author.
-/

namespace Adventure

namespace World

/-! ## Lists without repetitions -/

section

variable {α β : Type} [BEq α] [LawfulBEq α] [BEq β] [LawfulBEq β]

/-- Adding elements once each keeps the first of those that are the same. -/
theorem foldl_addOnce_eq (f : α → β) : ∀ {as : List α} (bs : List β),
    (∀ a ∈ as, ∀ a' ∈ as, f a = f a' → a = a') →
    as.foldl (fun bs a => addOnce (f a) bs) bs
      = bs ++ (as.filter fun a => f a ∉ bs).eraseDups.map f
  | [], bs, _ => by simp
  | a :: as, bs, hinj => by
    have htail : ∀ x ∈ as, ∀ y ∈ as, f x = f y → x = y := fun x hx y hy =>
      hinj x (List.mem_cons_of_mem _ hx) y (List.mem_cons_of_mem _ hy)
    rw [List.foldl_cons, foldl_addOnce_eq f _ htail]
    by_cases ha : f a ∈ bs
    · simp [addOnce, ha]
    · -- what is left out from now on are those that are left out already and the element itself
      have hsame : (as.filter fun x => f x ∉ bs ++ [f a])
          = (as.filter fun x => f x ∉ bs).filter fun x => !x == a := by
        rw [List.filter_filter]
        refine List.filter_congr fun x hx => ?_
        have hiff : f x = f a ↔ x = a :=
          ⟨hinj x (List.mem_cons_of_mem _ hx) a (List.mem_cons_self ..), congrArg f⟩
        rw [Bool.eq_iff_iff, decide_eq_true_iff]
        simp [hiff, and_comm]
      rw [addOnce, if_neg (by simpa using ha), List.filter_cons_of_pos (by simpa using ha), hsame,
        List.eraseDups_cons, List.map_cons, List.append_assoc, List.singleton_append]

end

/-! ## Worlds of stories -/

/-- An action belongs to an object, has an effect, and is the only one that belongs to it. -/
def OwnsOnly (w : World) (owner : ObjectRef) (own : EntityId .action)
    (effect : Effect EntityId ObjectRef) : Prop :=
  (∃ action : Action, w.get? own = some action ∧ action.effect = effect) ∧
    ∀ (id : EntityId .action) (action : Action), w.get? id = some action →
      (action.owner = some owner ↔ id = own)

/-- The identifiers of the actions that the author defines and of one for each way and each item. -/
def actionIdsOf (s : Story) : List (EntityId .action) :=
  s.actions.map (idOf ·.symbol) ++ s.ways.map moveActionId ++ s.items.map takeActionId

/-- A world has what a story defines, nothing else, and everything in the order of the story. -/
structure Authored (s : Story) (w : World) : Prop where
  /-- Each entity comes from one definition. -/
  entries : ∀ kind, (w.arena kind).entries.Perm (entriesOf s kind)
  /-- Apart from actions, there is one entity for each symbol. -/
  ids : ∀ kind ≠ .action, (w.arena kind).ids.Perm ((s.symbols kind).map idOf)
  actions : w.actions.ids.Perm (actionIdsOf s)
  /-- No two of the actions coincide. -/
  distinct : (actionIdsOf s).Nodup
  moves : ∀ v ∈ s.ways, ∃ way : Way, w.get? (idOf v.symbol : EntityId .way) = some way ∧
    w.OwnsOnly (.way (idOf v.symbol)) way.moveAction (.move (idOf v.symbol))
  takes : ∀ i ∈ s.items, ∃ item : Item, w.get? (idOf i.symbol : EntityId .item) = some item ∧
    w.OwnsOnly (.item (idOf i.symbol)) item.takeAction
      (.take (idOf i.symbol) i.taking.removeItem (i.taking.grants.map idOf))
  locations : ∀ d ∈ s.locations, ∃ l : Location,
    w.get? (idOf d.symbol : EntityId .location) = some l ∧
    l.items = (s.items.filter fun i => i.location = some d.symbol).map (idOf ·.symbol) ∧
    l.persons = (s.persons.filter fun p => p.location = some d.symbol).map (idOf ·.symbol) ∧
    l.waysOut = (s.ways.filter fun v => v.origin = d.symbol).map (idOf ·.symbol)
  conversations : ∀ d ∈ s.conversations, ∃ c : Conversation,
    w.get? (idOf d.symbol : EntityId .conversation) = some c ∧
    c.layers = d.layers.map (idOf ·.symbol)
  layers : ∀ c ∈ s.conversations, ∀ d ∈ c.layers, ∃ l : Layer,
    w.get? (idOf d.symbol : EntityId .layer) = some l ∧
    l.choices = d.choices.map (idOf ·.symbol)
  /-- Of inventory items that an author lists twice, the later ones are left out. -/
  inventory : w.player.inventory = s.player.inventory.eraseDups.map idOf

section

variable {s : Story} (hs : s.Sound) (hd : s.DistinctIds)
include hs hd

theorem entries_ofStory (kind : EntityKind) :
    ((ofStory s).arena kind).entries.Perm (entriesOf s kind) := by
  have hnodup := nodup_ids_entriesOf hs hd kind
  refine (List.perm_ext_iff_of_nodup (.of_map _ (Arena.ids_nodup _)) (.of_map _ hnodup)).2 ?_
  rintro ⟨id, e⟩
  rw [Arena.mem_entries]
  exact get?_ofStory hs hd

theorem perm_actionIdsOf : (ofStory s).actions.ids.Perm (actionIdsOf s) := by
  have hids := (entries_ofStory hs hd .action).map (·.1)
  rw [entriesOf, actionsOf, List.map_map, List.map_append, List.map_append, List.map_map,
    List.map_map, List.map_map] at hids
  exact hids

theorem inventory_ofStory :
    (ofStory s).player.inventory = s.player.inventory.eraseDups.map idOf := by
  have hmem := (player_of_sound hs).2
  have hadded := foldl_addOnce_eq (@idOf .inventoryItem) [] fun a ha b hb =>
    idOf_inj hd (hmem a ha) (hmem b hb)
  simp only [List.not_mem_nil, not_false_eq_true, decide_true, List.filter_true,
    List.nil_append] at hadded
  exact hadded

/-- No two actions have the same owner. -/
theorem eq_of_owner {a b : Action} {owner : ObjectRef} (ha : a ∈ actionsOf s)
    (hb : b ∈ actionsOf s) (howner : a.owner = some owner) (howner' : b.owner = some owner) :
    a = b := by
  have hways := nodup_ids_entriesOf hs hd .way
  have hitems := nodup_ids_entriesOf hs hd .item
  rw [entriesOf, List.map_map] at hways
  rw [entriesOf, List.map_map] at hitems
  have hsame := howner.trans howner'.symm
  obtain ⟨d, -, rfl⟩ | ⟨v, hv, rfl⟩ | ⟨i, hi, rfl⟩ := mem_actionsOf.1 ha
  · cases howner
  · obtain ⟨d, -, rfl⟩ | ⟨v', hv', rfl⟩ | ⟨i, -, rfl⟩ := mem_actionsOf.1 hb
    · cases howner'
    · have hid : (idOf v.symbol : EntityId .way) = idOf v'.symbol := by
        simpa [moveActionOf] using hsame
      rw [List.inj_on_of_nodup_map hways hv hv' hid]
    · cases hsame
  · obtain ⟨d, -, rfl⟩ | ⟨v, -, rfl⟩ | ⟨i', hi', rfl⟩ := mem_actionsOf.1 hb
    · cases howner'
    · cases hsame
    · have hid : (idOf i.symbol : EntityId .item) = idOf i'.symbol := by
        simpa [takeActionOf] using hsame
      rw [List.inj_on_of_nodup_map hitems hi hi' hid]

/-- An action that has an owner is the only one that belongs to it. -/
theorem ownsOnly_ofStory {a : Action} {owner : ObjectRef} (ha : a ∈ actionsOf s)
    (howner : a.owner = some owner) : (ofStory s).OwnsOnly owner a.id a.effect := by
  have haction := get?_action hs hd ha
  refine ⟨⟨a, haction, rfl⟩, fun id b hb => ?_⟩
  obtain ⟨rfl, hmem⟩ := mem_actionsOf_of_get? hs hd hb
  constructor
  · exact fun h => congrArg Action.id (eq_of_owner hs hd hmem ha h howner)
  · intro hid
    rw [hid, haction] at hb
    rw [← Option.some.inj hb, howner]

/-- The world of a story has what the story defines. -/
theorem authored_ofStory : Authored s (ofStory s) where
  entries := entries_ofStory hs hd
  ids kind hkind := by
    have hids := (entries_ofStory hs hd kind).map (·.1)
    rwa [ids_entriesOf, Story.names, if_neg hkind, List.append_nil, List.map_map] at hids
  actions := perm_actionIdsOf hs hd
  distinct := (perm_actionIdsOf hs hd).nodup_iff.1 (Arena.ids_nodup _)
  moves v hv := ⟨wayOf v, get?_way hs hd hv,
    ownsOnly_ofStory hs hd (a := moveActionOf v) (mem_actionsOf.2 (.inr (.inl ⟨v, hv, rfl⟩))) rfl⟩
  takes i hi := ⟨itemOf i, get?_item hs hd hi,
    ownsOnly_ofStory hs hd (a := takeActionOf i) (mem_actionsOf.2 (.inr (.inr ⟨i, hi, rfl⟩))) rfl⟩
  locations l hl := ⟨locationOf s l, get?_of_def hs hd (List.mem_map.2 ⟨l, hl, rfl⟩), rfl, rfl, rfl⟩
  conversations c hc := ⟨conversationOf c, get?_conversation hs hd hc, rfl⟩
  layers c hc l hl := ⟨layerOf c l, get?_layer hs hd hc hl, rfl⟩
  inventory := inventory_ofStory hs hd

end

/-- Building the world of a story without faults definition by definition neither loses nor reorders
anything. -/
theorem authored_built {s : Story} (hfaults : s.faults = []) (hd : s.DistinctIds) :
    built s = ofStory s ∧ Authored s (ofStory s) :=
  have hs := Story.sound_of_faults_eq_nil hfaults
  ⟨built_eq_ofStory hs hd, authored_ofStory hs hd⟩

end World

/-! ### A story -/

/-- A hall with a lamp and a gate to a yard. One of the author's actions has the name that the lamp
gives to its own. -/
def Story.hallStory : Story where
  player := { startLocation := "hall", inventory := ["rope", "key", "rope"] }
  locations := [{ symbol := "hall", name := "Hall" }, { symbol := "yard", name := "Yard" }]
  ways := [{ symbol := "gate", name := "gate", origin := "hall", destination := "yard" }]
  items :=
    [{ symbol := "lamp", name := "lamp", location := some "hall" },
     { symbol := "bench", name := "bench", location := some "yard" },
     { symbol := "chair", name := "chair", location := some "hall" }]
  inventoryItems := [{ symbol := "key", name := "key" }, { symbol := "rope", name := "rope" }]
  actions := [{ symbol := "lamp#take", effect := .endGame none }]

theorem Story.distinctIds_hallStory : hallStory.DistinctIds := by
  intro kind
  cases kind <;> decide +kernel

/-- Each location of the story has its own items, and the player has one rope. -/
theorem World.authored_built_hallStory : ∃ hall yard : Location,
    (built .hallStory).get? (idOf "hall" : EntityId .location) = some hall ∧
    hall.items = [idOf "lamp", idOf "chair"] ∧
    (built .hallStory).get? (idOf "yard" : EntityId .location) = some yard ∧
    yard.items = [idOf "bench"] ∧
    (built .hallStory).player.inventory = [idOf "rope", idOf "key"] ∧
    (actionIdsOf .hallStory).Nodup := by
  obtain ⟨hbuilt, hauthored⟩ :=
    authored_built (s := .hallStory) (by decide +kernel) Story.distinctIds_hallStory
  obtain ⟨hall, hhall, hitems, -⟩ := hauthored.locations _ (.head _)
  obtain ⟨yard, hyard, hitems', -⟩ := hauthored.locations _ (.tail _ (.head _))
  rw [hbuilt]
  exact ⟨hall, yard, hhall, hitems, hyard, hitems', hauthored.inventory, hauthored.distinct⟩

end Adventure
