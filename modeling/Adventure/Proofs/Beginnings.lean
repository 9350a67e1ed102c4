import Adventure.Proofs.Developments
import Adventure.Proofs.Stories
import Adventure.World.Load

/-!
# Places at the beginning and ever after

Loading a story yields a well-placed world (`wellPlaced_of_load`), since each location lists
exactly those items and persons that the story puts there. With what effects and runs keep, items
and persons are in at most one place for good and never lost (`placement`).
-/

namespace Adventure.World

open Story

/-! ## Loading -/

/-- What loading a story has found out about it. -/
structure Loaded (s : Story) (w : World) : Prop where
  faults : s.faults = []
  authoring : (ofStory s).authoringFaults s = []
  actions : (ofStory s).checkActions = .ok ()
  disabled : Edit.disableParts (ofStory s) = (.ok (), w)

theorem loaded_of_load {s : Story} {w : World} (h : load s = .ok w) : Loaded s w := by
  unfold load at h
  dsimp only at h
  split at h
  · cases h
  · rename_i hfaults
    split at h
    · cases h
    · rename_i hauthoring
      split at h
      · cases h
      · rename_i hactions
        split at h
        · cases h
        · rename_i w' hdisabled
          split at h
          · cases h
          · obtain rfl := Except.ok.inj h
            exact ⟨not_not.1 hfaults, not_not.1 hauthoring, hactions, hdisabled⟩

namespace Loaded

variable {s : Story} {w : World}

theorem sound (h : Loaded s w) : s.Sound := sound_of_faults_eq_nil h.faults

theorem keeps (h : Loaded s w) : Keeps (ofStory s) w := by
  have hkeeps := Edit.keeps_disableParts (ofStory s)
  rwa [h.disabled] at hkeeps

end Loaded

/-! ## Places in the world of a story -/

/-- Definitions of entities that are put into locations make a world in which these are placed. -/
theorem placed_ofStory {s : Story} (hs : s.Sound) (hd : s.DistinctIds) {kind : EntityKind}
    (seating : Seating kind) {Def : Type} (defs : List Def) {symbol : Def → Symbol kind}
    {location : Def → Option (Symbol .location)} {make : Def → Entity kind}
    (hentries : entriesOf s kind = defs.map fun d => (idOf (symbol d), make d))
    (hplace : ∀ d, seating.place (make d) = (location d).map idOf)
    (hcontents : ∀ l, seating.contents (locationOf s l)
      = (defs.filter fun d => location d = some l.symbol).map fun d => idOf (symbol d))
    (hlocation : ∀ d ∈ defs, ∀ x, location d = some x → x ∈ s.symbols .location) :
    Placed seating (ofStory s) := by
  have hlocations : ∀ (at' : EntityId .location) (l' : Location), (ofStory s).get? at' = some l' ↔
      ∃ l ∈ s.locations, idOf l.symbol = at' ∧ locationOf s l = l' := by
    intro at' l'
    rw [get?_ofStory hs hd, entriesOf, List.mem_map]
    simp only [Prod.mk.injEq]
  have hentities : ∀ (id : EntityId kind) (e : Entity kind), (ofStory s).get? id = some e ↔
      ∃ d ∈ defs, idOf (symbol d) = id ∧ make d = e := by
    intro id e
    rw [get?_ofStory hs hd, hentries, List.mem_map]
    simp only [Prod.mk.injEq]
  have hfound : ∀ d ∈ defs, ∀ x, location d = some x →
      ∃ l ∈ s.locations, l.symbol = x := by
    intro d hmem x hx
    obtain ⟨l, hl, heq⟩ := List.mem_map.1 (hlocation d hmem x hx)
    exact ⟨l, hl, heq⟩
  refine ⟨fun id at' => ⟨?_, ?_⟩, fun id e at' he hat => ?_, fun at' l' hl' => ?_⟩
  · rintro ⟨l', hl', hmem⟩
    obtain ⟨l, -, rfl, rfl⟩ := (hlocations at' l').1 hl'
    rw [hcontents] at hmem
    obtain ⟨d, hfilter, rfl⟩ := List.mem_map.1 hmem
    obtain ⟨hdefs, hl⟩ := List.mem_filter.1 hfilter
    refine ⟨make d, (hentities _ _).2 ⟨d, hdefs, rfl, rfl⟩, ?_⟩
    rw [hplace, of_decide_eq_true hl, Option.map_some]
  · rintro ⟨e, he, hat⟩
    obtain ⟨d, hdefs, rfl, rfl⟩ := (hentities id e).1 he
    rw [hplace] at hat
    obtain ⟨x, hx, rfl⟩ := Option.map_eq_some_iff.1 hat
    obtain ⟨l, hl, rfl⟩ := hfound d hdefs x hx
    refine ⟨locationOf s l, (hlocations _ _).2 ⟨l, hl, rfl, rfl⟩, ?_⟩
    rw [hcontents]
    exact List.mem_map.2 ⟨d, List.mem_filter.2 ⟨hdefs, decide_eq_true hx⟩, rfl⟩
  · obtain ⟨d, hdefs, rfl, rfl⟩ := (hentities id e).1 he
    rw [hplace] at hat
    obtain ⟨x, hx, rfl⟩ := Option.map_eq_some_iff.1 hat
    exact exists_get?_ofStory (hlocation d hdefs x hx)
  · obtain ⟨l, -, rfl, rfl⟩ := (hlocations at' l').1 hl'
    have hnodup := nodup_ids_entriesOf hs hd kind
    rw [hentries, List.map_map] at hnodup
    rw [hcontents]
    exact hnodup.sublist (List.filter_sublist.map _)

theorem items_location {s : Story} (hs : s.Sound) :
    ∀ i ∈ s.items, ∀ x, i.location = some x → x ∈ s.symbols .location := by
  intro i hi x hx
  have := hs.items i hi
  simp only [checkItem, hx, Option.toList_some, List.append_eq_nil_iff, List.flatMap_eq_nil_iff,
    List.mem_singleton, forall_eq, checkRef_eq_nil] at this
  exact this.1.1.1.1

theorem persons_location {s : Story} (hs : s.Sound) :
    ∀ p ∈ s.persons, ∀ x, p.location = some x → x ∈ s.symbols .location := by
  intro p hp x hx
  have := hs.persons p hp
  simp only [checkPerson, hx, Option.toList_some, List.append_eq_nil_iff, List.flatMap_eq_nil_iff,
    List.mem_singleton, forall_eq, checkRef_eq_nil] at this
  exact this.1.1.1

/-! ### The player -/

theorem foldl_addOnce {α β : Type} [BEq β] [LawfulBEq β] (f : α → β) :
    ∀ (as : List α) (bs : List β), bs.Nodup →
      (as.foldl (fun bs a => if bs.contains (f a) then bs else bs ++ [f a]) bs).Nodup ∧
      ∀ b, b ∈ as.foldl (fun bs a => if bs.contains (f a) then bs else bs ++ [f a]) bs ↔
        b ∈ bs ∨ b ∈ as.map f
  | [], bs, h => by simpa using h
  | a :: as, bs, h => by
    obtain ⟨hnodup, hmem⟩ := foldl_addOnce f as (addOnce (f a) bs) (nodup_addOnce h)
    refine ⟨hnodup, fun b => ?_⟩
    rw [List.foldl_cons, List.map_cons, List.mem_cons]
    refine (hmem b).trans ?_
    rw [mem_addOnce, or_assoc]

theorem inventory_playerOf (p : Story.Player) :
    (playerOf p).inventory.Nodup ∧
      ∀ id, id ∈ (playerOf p).inventory → ∃ symbol ∈ p.inventory, id = idOf symbol := by
  obtain ⟨hnodup, hmem⟩ := foldl_addOnce (@idOf .inventoryItem) p.inventory [] .nil
  refine ⟨hnodup, fun id hid => ?_⟩
  obtain ⟨symbol, hsymbol, rfl⟩ := List.mem_map.1 (((hmem id).1 hid).resolve_left List.not_mem_nil)
  exact ⟨symbol, hsymbol, rfl⟩

theorem player_of_sound {s : Story} (hs : s.Sound) :
    s.player.startLocation ∈ s.symbols .location ∧
      ∀ symbol ∈ s.player.inventory, symbol ∈ s.symbols .inventoryItem := by
  have := hs.player
  simp only [checkPlayer, List.append_eq_nil_iff, List.flatMap_eq_nil_iff, checkRef_eq_nil] at this
  refine ⟨?_, this.2⟩
  have hstart := this.1
  split at hstart
  · cases hstart
  · exact checkRef_eq_nil.1 hstart

theorem wellPlaced_ofStory {s : Story} (hs : s.Sound) (hd : s.DistinctIds) :
    WellPlaced (ofStory s) where
  items := placed_ofStory hs hd .items s.items rfl (fun _ => rfl) (fun _ => rfl)
    (items_location hs)
  persons := placed_ofStory hs hd .persons s.persons rfl (fun _ => rfl) (fun _ => rfl)
    (persons_location hs)
  carriedOnce := (inventory_playerOf s.player).1
  carried id hid := by
    obtain ⟨symbol, hsymbol, rfl⟩ := (inventory_playerOf s.player).2 id hid
    exact exists_get?_ofStory ((player_of_sound hs).2 symbol hsymbol)
  here := exists_get?_ofStory (player_of_sound hs).1

/-- Every story that is loaded begins with a well-placed world. -/
theorem wellPlaced_of_load {s : Story} {w : World} (hd : s.DistinctIds) (h : load s = .ok w) :
    WellPlaced w := by
  have hloaded := loaded_of_load h
  exact hloaded.keeps.places (wellPlaced_ofStory hloaded.sound hd)

theorem load_gateStory : ∃ w, load gateStory = .ok w := exists_ok_of_isOk (by decide +kernel)

/-! ## Places ever after -/

/-- Nothing is in two places. -/
theorem Placed.unique {kind : EntityKind} {s : Seating kind} {w : World} (h : Placed s w)
    {id : EntityId kind} {at' at'' : EntityId .location} (h' : s.Lists w at' id)
    (h'' : s.Lists w at'' id) : at' = at'' := by
  obtain ⟨e, he, hat⟩ := (h.listed id at').1 h'
  exact Option.some.inj (hat.symm.trans ((h.lists_iff he at'').1 h''))

/-- Stories begin with well-placed worlds; no effect, whether it succeeds or fails, harms a
well-placed world; and whatever the player sends and the store does, items and persons are in at
most one place each and none comes or goes.

Items and persons are found by digests of their symbols. If two symbols had the same digest one
entity would take the place of the other, and both places that the story gives them would list it:
hence `Story.DistinctIds`. -/
theorem placement :
    (∀ (s : Story) (w : World), s.DistinctIds → load s = .ok w → WellPlaced w) ∧
    (∀ (p : Play) (effect : Effect EntityId ObjectRef), WellPlaced p.world →
      WellPlaced (Act.perform effect p).2.world) ∧
    ∀ (s : Story) (w : World) (store : Store) (inputs : List Input), s.DistinctIds →
      load s = .ok w → ∀ w', w' = (inputs.foldl Session.step (Session.start w store)).play.world →
      WellPlaced w' ∧
      (∀ (kind : EntityKind) (id : EntityId kind), (w'.get? id).isSome = (w.get? id).isSome) ∧
      (∀ id at' at'', Seating.items.Lists w' at' id → Seating.items.Lists w' at'' id → at' = at'') ∧
      ∀ id at' at'', Seating.persons.Lists w' at' id → Seating.persons.Lists w' at'' id →
        at' = at'' := by
  refine ⟨fun s w => wellPlaced_of_load, fun p effect h => ?_, ?_⟩
  · have hworld : (Act.perform effect p).2.world = (Edit.apply effect p.world).2 := by
      rcases Act.perform_eq effect p with ⟨p', hp', happly, -, -⟩ | ⟨failure, -, hp'⟩
      · rw [hp', happly]
      · rw [hp']
    rw [hworld]
    exact (Edit.keeps_apply effect p.world).places h
  · rintro s w store inputs hd hload w' rfl
    have hdevelops : Develops w (inputs.foldl Session.step (Session.start w store)).play.world :=
      (Session.develops_start w store).trans (Session.develops_foldl _ inputs)
    have hplaced := hdevelops.keeps.places (wellPlaced_of_load hd hload)
    refine ⟨hplaced, fun kind id => ?_, fun _ _ _ => hplaced.items.unique,
      fun _ _ _ => hplaced.persons.unique⟩
    exact isSome_of_view_eq (congrArg Skeleton.entities hdevelops.keeps.skeleton) id

theorem placement_gateStory : ∃ w, load gateStory = .ok w ∧ WellPlaced w ∧
    WellPlaced ((["take lamp", "talk to guard", "1"].map Input.line).foldl Session.step
      (Session.start w .accepting)).play.world := by
  obtain ⟨w, hload⟩ := load_gateStory
  have hd := distinctIds_gateStory
  exact ⟨w, hload, placement.1 _ w hd hload, (placement.2.2 _ w _ _ hd hload _ rfl).1⟩

end Adventure.World
