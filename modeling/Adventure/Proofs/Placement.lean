import Adventure.Proofs.Frames

/-!
# Places of items and persons

Where an item or a person is, is written down twice: the entity names its location and the location
lists the entity. In a well-placed world (`WellPlaced`) both agree, nothing is listed twice, the
player carries existing inventory items, none of them twice, and is in an existing location.

A relocation passes through worlds in which both disagree. It first takes the entity out of its
location (`Lifted`) and then puts it into the new one; since each step finds what it needs, a
relocation that has begun is also finished (`Edit.relocate_spec`).
-/

namespace Adventure

namespace World

/-- How the entities of a kind are placed. `shown` is the part of the entities of all kinds that
matters for it. -/
structure Seating (kind : EntityKind) where
  place : Entity kind → Option (EntityId .location)
  contents : Location → List (EntityId kind)
  setPlace : Entity kind → Option (EntityId .location) → Entity kind
  setContents : Location → List (EntityId kind) → Location
  shown : (other : EntityKind) → Entity other → List (EntityId kind) × Option (EntityId .location)
  ne_location : EntityKind.location ≠ kind
  place_setPlace : ∀ e target, place (setPlace e target) = target
  contents_setContents : ∀ l ids, contents (setContents l ids) = ids
  shown_location : ∀ l : Location, (shown .location l).1 = contents l
  shown_entity : ∀ e : Entity kind, (shown kind e).2 = place e

namespace Seating

/-- Items in locations. -/
def items : Seating .item where
  place := Item.location
  contents := Location.items
  setPlace i target := { (i : Item) with location := target }
  setContents l ids := { l with items := ids }
  shown
    | .location, l => (Location.items l, none)
    | .item, i => ([], Item.location i)
    | .way, _ | .inventoryItem, _ | .person, _ | .conversation, _ | .layer, _ | .choice, _
    | .action, _ => ([], none)
  ne_location := nofun
  place_setPlace _ _ := rfl
  contents_setContents _ _ := rfl
  shown_location _ := rfl
  shown_entity _ := rfl

/-- Persons in locations. -/
def persons : Seating .person where
  place := Person.location
  contents := Location.persons
  setPlace p target := { (p : Person) with location := target }
  setContents l ids := { l with persons := ids }
  shown
    | .location, l => (Location.persons l, none)
    | .person, p => ([], Person.location p)
    | .way, _ | .item, _ | .inventoryItem, _ | .conversation, _ | .layer, _ | .choice, _
    | .action, _ => ([], none)
  ne_location := nofun
  place_setPlace _ _ := rfl
  contents_setContents _ _ := rfl
  shown_location _ := rfl
  shown_entity _ := rfl

/-- A location lists an entity. -/
def Lists {kind : EntityKind} (s : Seating kind) (w : World) (at' : EntityId .location)
    (id : EntityId kind) : Prop :=
  ∃ l, w.get? at' = some l ∧ id ∈ s.contents l

end Seating

/-- The entities and the locations agree on where each entity of a kind is, each entity that is
somewhere is in an existing location, and no location lists an entity twice. -/
structure Placed {kind : EntityKind} (s : Seating kind) (w : World) : Prop where
  listed : ∀ (id : EntityId kind) (at' : EntityId .location),
    s.Lists w at' id ↔ ∃ e, w.get? id = some e ∧ s.place e = some at'
  found : ∀ (id : EntityId kind) (e : Entity kind) (at' : EntityId .location),
    w.get? id = some e → s.place e = some at' → ∃ l, w.get? at' = some l
  once : ∀ (at' : EntityId .location) (l : Location), w.get? at' = some l → (s.contents l).Nodup

/-- Items and persons are where they say they are, and so is the player. -/
structure WellPlaced (w : World) : Prop where
  items : Placed .items w
  persons : Placed .persons w
  carriedOnce : w.player.inventory.Nodup
  carried : ∀ id ∈ w.player.inventory, ∃ e, w.get? id = some e
  here : ∃ l, w.get? w.player.location = some l

/-! ## Worlds that look the same -/

section
variable {kind : EntityKind} {s : Seating kind} {w w' : World}

theorem Placed.lists_iff (h : Placed s w) {id : EntityId kind} {e : Entity kind}
    (he : w.get? id = some e) (at' : EntityId .location) :
    s.Lists w at' id ↔ s.place e = some at' := by
  rw [h.listed id at']
  simp [he]

theorem Placed.of_alike (h : Placed s w) (halike : Alike s.shown w w') : Placed s w' := by
  have back : ∀ {k : EntityKind} {id : EntityId k} {e' : Entity k}, w'.get? id = some e' →
      ∃ e, w.get? id = some e ∧ s.shown k e' = s.shown k e := fun he =>
    get?_of_view_eq halike.view he
  have forth : ∀ {k : EntityKind} {id : EntityId k} {e : Entity k}, w.get? id = some e →
      ∃ e', w'.get? id = some e' ∧ s.shown k e = s.shown k e' := fun he =>
    get?_of_view_eq halike.view.symm he
  have hcontents : ∀ {l l' : Location}, s.shown .location l = s.shown .location l' →
      s.contents l = s.contents l' := fun heq => by
    rw [← s.shown_location, ← s.shown_location, heq]
  have hplace : ∀ {e e' : Entity kind}, s.shown kind e = s.shown kind e' → s.place e = s.place e' :=
    fun heq => by rw [← s.shown_entity, ← s.shown_entity, heq]
  refine ⟨fun id at' => ⟨?_, ?_⟩, fun id e' at' he' hat => ?_, fun at' l' hl' => ?_⟩
  · rintro ⟨l', hl', hmem⟩
    obtain ⟨l, hl, heq⟩ := back hl'
    obtain ⟨e, he, hat⟩ := (h.listed id at').1 ⟨l, hl, hcontents heq ▸ hmem⟩
    obtain ⟨e', he', heq'⟩ := forth he
    exact ⟨e', he', hplace heq' ▸ hat⟩
  · rintro ⟨e', he', hat⟩
    obtain ⟨e, he, heq⟩ := back he'
    obtain ⟨l, hl, hmem⟩ := (h.listed id at').2 ⟨e, he, hplace heq ▸ hat⟩
    obtain ⟨l', hl', heq'⟩ := forth hl
    exact ⟨l', hl', hcontents heq' ▸ hmem⟩
  · obtain ⟨e, he, heq⟩ := back he'
    obtain ⟨l, hl⟩ := h.found id e at' he (hplace heq ▸ hat)
    obtain ⟨l', hl', -⟩ := forth hl
    exact ⟨l', hl'⟩
  · obtain ⟨l, hl, heq⟩ := back hl'
    exact hcontents heq ▸ h.once at' l hl

theorem WellPlaced.of_placed (h : WellPlaced w) (items : Placed .items w')
    (persons : Placed .persons w') (player : w'.player = w.player) (hs : SameSkeleton w w') :
    WellPlaced w' where
  items := items
  persons := persons
  carriedOnce := player ▸ h.carriedOnce
  carried id hid := exists_of_sameSkeleton hs (h.carried id (player ▸ hid))
  here := player ▸ exists_of_sameSkeleton hs h.here

theorem WellPlaced.of_alike (h : WellPlaced w) (hi : Alike Seating.items.shown w w')
    (hp : Alike Seating.persons.shown w w') (hs : SameSkeleton w w') : WellPlaced w' :=
  h.of_placed (h.items.of_alike hi) (h.persons.of_alike hp) hi.player hs

/-- Another player makes no difference to the places of items and persons. -/
theorem WellPlaced.of_player {p : Player} (h : WellPlaced w) (once : p.inventory.Nodup)
    (carried : ∀ id ∈ p.inventory, ∃ e, w.get? id = some e)
    (here : ∃ l, w.get? p.location = some l) : WellPlaced { w with player := p } where
  items := ⟨fun id at' => by simpa [Seating.Lists] using h.items.listed id at',
    by simpa using h.items.found, by simpa using h.items.once⟩
  persons := ⟨fun id at' => by simpa [Seating.Lists] using h.persons.listed id at',
    by simpa using h.persons.found, by simpa using h.persons.once⟩
  carriedOnce := once
  carried := by simpa using carried
  here := by simpa using here

end

/-! ## Taking out and putting in -/

/-- An entity is in no location, whatever it says itself, and all others are well-placed. -/
structure Lifted {kind : EntityKind} (s : Seating kind) (w : World) (id : EntityId kind) :
    Prop where
  listed : ∀ id', id' ≠ id → ∀ at' : EntityId .location,
    s.Lists w at' id' ↔ ∃ e, w.get? id' = some e ∧ s.place e = some at'
  unlisted : ∀ at' : EntityId .location, ¬s.Lists w at' id
  once : ∀ (at' : EntityId .location) (l : Location), w.get? at' = some l → (s.contents l).Nodup

end World

theorem mem_remove {α : Type} [BEq α] [LawfulBEq α] {a b : α} {as : List α} :
    b ∈ remove a as ↔ b ∈ as ∧ b ≠ a := by
  simp [remove]

theorem mem_addOnce {α : Type} [BEq α] [LawfulBEq α] {a b : α} {as : List α} :
    b ∈ addOnce a as ↔ b ∈ as ∨ b = a := by
  by_cases h : a ∈ as
  · have : b ∈ as ∨ b = a ↔ b ∈ as := ⟨fun hb => hb.elim id (· ▸ h), .inl⟩
    simp [addOnce, h, this]
  · simp [addOnce, h]

theorem nodup_addOnce {α : Type} [BEq α] [LawfulBEq α] {a : α} {as : List α} (h : as.Nodup) :
    (addOnce a as).Nodup := by
  by_cases ha : a ∈ as
  · simpa [addOnce, ha] using h
  · have hnew : ∀ x ∈ as, ∀ y ∈ [a], x ≠ y := by
      rintro x hx y hy rfl
      exact ha (List.mem_singleton.1 hy ▸ hx)
    simpa [addOnce, ha] using List.nodup_append.2 ⟨h, List.nodup_singleton a, hnew⟩

namespace Edit

open World Steps

variable {kind : EntityKind} {s : Seating kind} {w : World} {id : EntityId kind} {e : Entity kind}

/-- Takes an entity out of the location where it has been. -/
def lift (s : Seating kind) (id : EntityId kind) : Option (EntityId .location) → Edit Unit
  | none => pure ()
  | some old => change old fun l => s.setContents l (remove id (s.contents l))

/-- Puts an entity into a location. -/
def seat (s : Seating kind) (id : EntityId kind) : Option (EntityId .location) → Edit Unit
  | none => pure ()
  | some new => change new fun l => s.setContents l (addOnce id (s.contents l))

/-- Puts an entity from where it is to another place, or out of play. -/
def relocate (s : Seating kind) (id : EntityId kind) (target : Option (EntityId .location)) :
    Edit Unit := do
  let e ← find id
  change id fun e => s.setPlace e target
  lift s id (s.place e)
  seat s id target

/-! ### Locations after a change of their contents -/

theorem get?_put_entity (s : Seating kind) {e' : Entity kind} (at' : EntityId .location) :
    (w.put id e').get? at' = w.get? at' :=
  get?_put_of_kind_ne s.ne_location w id e' at'

theorem get?_put_location (s : Seating kind) {l : Location} (at' : EntityId .location) :
    (w.put at' l).get? id = w.get? id :=
  get?_put_of_kind_ne s.ne_location.symm w at' l id

theorem lists_put_entity (s : Seating kind) {e' : Entity kind} :
    s.Lists (w.put id e') = s.Lists w := by
  funext at' id'
  rw [Seating.Lists, get?_put_entity s, Seating.Lists]

theorem lists_put {place at' : EntityId .location} {l : Location} {ids : List (EntityId kind)} :
    s.Lists (w.put place (s.setContents l ids)) at' id ↔
      if at' = place then id ∈ ids else s.Lists w at' id := by
  rw [Seating.Lists, get?_put]
  split
  · simp [s.contents_setContents]
  · rfl

theorem nodup_put {place : EntityId .location} {l : Location} {ids : List (EntityId kind)}
    (honce : ∀ (at' : EntityId .location) l, w.get? at' = some l → (s.contents l).Nodup)
    (hids : ids.Nodup) (at' : EntityId .location) (l' : Location)
    (hl' : (w.put place (s.setContents l ids)).get? at' = some l') : (s.contents l').Nodup := by
  rw [get?_put] at hl'
  split at hl'
  · obtain rfl := Option.some.inj hl'
    rwa [s.contents_setContents]
  · exact honce at' l' hl'

theorem exists_put {place at' : EntityId .location} {l : Location}
    (h : ∃ l, w.get? at' = some l) : ∃ l', (w.put place l).get? at' = some l' := by
  rw [get?_put]
  split
  · exact ⟨l, rfl⟩
  · exact h

/-! ### The two halves of a relocation -/

/-- Where all is well-placed, an entity that has got a new place can be taken out of the old one. -/
theorem lift_spec (h : Placed s w) (he : w.get? id = some e) (e' : Entity kind) :
    ∃ w', lift s id (s.place e) (w.put id e') = (.ok (), w') ∧ Lifted s w' id ∧
      w'.get? id = some e' ∧
      ∀ at' : EntityId .location, (∃ l, w.get? at' = some l) → ∃ l, w'.get? at' = some l := by
  have hlisted : ∀ id', id' ≠ id → ∀ at', s.Lists (w.put id e') at' id' ↔
      ∃ e, (w.put id e').get? id' = some e ∧ s.place e = some at' := by
    intro id' hne at'
    rw [lists_put_entity, get?_put_of_ne hne]
    exact h.listed id' at'
  cases hplace : s.place e with
  | none =>
    refine ⟨_, rfl, ⟨hlisted, fun at' hl => ?_, fun at' l hl => ?_⟩, get?_put_self _ _ _,
      fun at' hl => ?_⟩
    · rw [lists_put_entity, h.lists_iff he, hplace] at hl
      cases hl
    · rw [get?_put_entity s] at hl
      exact h.once at' l hl
    · rwa [get?_put_entity s]
  | some old =>
    obtain ⟨l, hl⟩ := h.found id e old he hplace
    have hl' : (w.put id e').get? old = some l := by rw [get?_put_entity s, hl]
    have honce := h.once old l hl
    refine ⟨_, change_eq hl', ⟨fun id' hne at' => ?_, fun at' hlists => ?_, ?_⟩, ?_,
      fun at' hl => ?_⟩
    · rw [lists_put, get?_put_location s]
      split
      · rename_i heq
        subst heq
        rw [mem_remove, ← hlisted id' hne]
        exact ⟨fun hmem => ⟨l, hl', hmem.1⟩, fun ⟨l₁, hl₁, hmem⟩ =>
          ⟨Option.some.inj (hl'.symm.trans hl₁) ▸ hmem, hne⟩⟩
      · exact hlisted id' hne at'
    · rw [lists_put] at hlists
      split at hlists
      · exact (mem_remove.1 hlists).2 rfl
      · rename_i hne
        rw [lists_put_entity, h.lists_iff he, hplace, Option.some.injEq] at hlists
        exact hne hlists.symm
    · refine nodup_put (fun at' l₁ hl₁ => ?_) (honce.filter _)
      rw [get?_put_entity s] at hl₁
      exact h.once at' l₁ hl₁
    · rw [get?_put_location s, get?_put_self]
    · refine exists_put ?_
      rwa [get?_put_entity s]

/-- An entity that has been taken out can be put where it says it is. -/
theorem seat_spec (h : Lifted s w id) (he : w.get? id = some e)
    (hfound : ∀ new, s.place e = some new → ∃ l, w.get? new = some l) :
    ∃ w', seat s id (s.place e) w = (.ok (), w') ∧ Placed s w' := by
  have hsome : ∀ {id' e' at'}, w.get? id' = some e' → s.place e' = some at' →
      ∃ l, w.get? at' = some l := by
    intro id' e' at' he' hplace
    by_cases hid : id' = id
    · subst hid
      exact hfound at' (Option.some.inj (he.symm.trans he') ▸ hplace)
    · obtain ⟨l, hl, -⟩ := (h.listed id' hid at').2 ⟨e', he', hplace⟩
      exact ⟨l, hl⟩
  cases hplace : s.place e with
  | none =>
    refine ⟨w, rfl, fun id' at' => ?_, fun _ _ _ => hsome, h.once⟩
    by_cases hid : id' = id
    · subst hid
      simp [h.unlisted, he, hplace]
    · exact h.listed id' hid at'
  | some new =>
    obtain ⟨l, hl⟩ := hfound new hplace
    refine ⟨_, change_eq hl, fun id' at' => ?_, fun id' e' at' he' hat => ?_, ?_⟩
    · rw [lists_put, get?_put_location s, mem_addOnce]
      by_cases hid : id' = id
      · subst hid
        have hunlisted : id' ∉ s.contents l := fun hmem => h.unlisted new ⟨l, hl, hmem⟩
        simp [he, hplace, hunlisted, h.unlisted, eq_comm]
      · rw [← h.listed id' hid]
        split
        · rename_i heq
          subst heq
          simp [Seating.Lists, hl, hid]
        · rfl
    · rw [get?_put_location s] at he'
      exact exists_put (hsome he' hat)
    · exact nodup_put h.once (nodup_addOnce (h.once new l hl))

/-- Once the target is known to exist, a relocation of an existing entity is carried out and keeps
all well-placed. -/
theorem relocate_spec (h : Placed s w) (he : w.get? id = some e)
    {target : Option (EntityId .location)}
    (htarget : ∀ new, target = some new → ∃ l, w.get? new = some l) :
    ∃ w', relocate s id target w = (.ok (), w') ∧ Placed s w' := by
  obtain ⟨w₁, hlift, hlifted, he₁, hexists⟩ := lift_spec h he (s.setPlace e target)
  have hplace : s.place (s.setPlace e target) = target := s.place_setPlace e target
  obtain ⟨w₂, hseat, hplaced⟩ := seat_spec hlifted he₁ (by
    rw [hplace]
    exact fun new hnew => hexists new (htarget new hnew))
  refine ⟨w₂, ?_, hplaced⟩
  rw [hplace] at hseat
  rw [relocate, find_bind_eq _ he, bind_of_ok (change_eq he), bind_of_ok hlift, hseat]

theorem placed_relocate {target : Option (EntityId .location)} (h : Placed s w)
    (htarget : ∀ new, target = some new → ∃ l, w.get? new = some l) :
    Placed s (relocate s id target w).2 := by
  cases he : w.get? id with
  | none =>
    rw [relocate, find_bind_of_none _ he]
    exact h
  | some e =>
    obtain ⟨w', heq, hplaced⟩ := relocate_spec h he htarget
    rw [heq]
    exact hplaced

/-! ### Relocations of items and persons -/

theorem relocateItem_eq (id : EntityId .item) (relocation : Relocation EntityId) :
    relocateItem id relocation = (do
      let target ← destination relocation
      relocate .items id target) := by
  refine bind_congr fun target => bind_congr fun item => bind_congr fun _ => ?_
  change _ = lift .items id (Item.location item) >>= fun _ => seat .items id target
  cases Item.location item <;> cases target <;> rfl

theorem relocatePerson_eq (id : EntityId .person) (relocation : Relocation EntityId) :
    relocatePerson id relocation = (do
      let target ← destination relocation
      relocate .persons id target) := by
  refine bind_congr fun target => bind_congr fun person => bind_congr fun _ => ?_
  change _ = lift .persons id (Person.location person) >>= fun _ => seat .persons id target
  cases Person.location person <;> cases target <;> rfl

theorem removeItem_eq (id : EntityId .item) : removeItem id = relocate .items id none := by
  refine bind_congr fun item => bind_congr fun _ => ?_
  change _ = lift .items id (Item.location item) >>= fun _ => pure ()
  rw [bind_pure_unit]
  cases Item.location item <;> rfl

theorem destination_spec (w : World) (relocation : Relocation EntityId) :
    (∃ target, destination relocation w = (.ok target, w) ∧
      ∀ new, target = some new → ∃ l, w.get? new = some l) ∨
    ∃ failure, destination relocation w = (.error failure, w) := by
  match relocation with
  | .remove => exact .inl ⟨none, rfl, nofun⟩
  | .to location =>
    unfold destination
    cases hl : w.get? location with
    | none => exact .inr ⟨_, find_bind_of_none _ hl⟩
    | some l =>
      exact .inl ⟨some location, find_bind_eq _ hl, fun _ hnew => Option.some.inj hnew ▸ ⟨l, hl⟩⟩

/-- A relocation does not show where it writes neither the place nor the contents. -/
theorem alike_relocate {V : EntityKind → Type} {f : ∀ kind, Entity kind → V kind}
    (hplace : ∀ e target, f kind (s.setPlace e target) = f kind e)
    (hcontents : ∀ l ids, f .location (s.setContents l ids) = f .location l)
    (target : Option (EntityId .location)) : Moves (Alike f) (relocate s id target) := by
  have hlocation : ∀ (at' : Option (EntityId .location)),
      Moves (Alike f) (lift s id at') ∧ Moves (Alike f) (seat s id at') := by
    intro at'
    cases at' with
    | none => exact ⟨.pure _, .pure _⟩
    | some at' => exact ⟨alike_change fun l => hcontents l _, alike_change fun l => hcontents l _⟩
  refine (moves_find id).bind fun e => (alike_change fun e => hplace e _).bind fun _ => ?_
  exact (hlocation _).1.bind fun _ => (hlocation _).2

end Edit

end Adventure
