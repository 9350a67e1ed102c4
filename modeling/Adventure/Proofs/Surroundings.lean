import Adventure.Play.Handlers
import Adventure.Proofs.Soundness

/-!
# Looking around in an intact world

Whatever play looks up in an intact world it finds: the place of the player, the objects in scope
and what they show. What is found exists in `base` as well, and since no entity ever vanishes it can
be looked up again later.
-/

namespace Adventure

open World

namespace World

variable {base w : World} {kind : EntityKind}

/-- An object other than a location that exists. -/
def Nameable (w : World) : ObjectRef → Prop
  | .location _ => False
  | .way id => w.Has id
  | .item id => w.Has id
  | .inventoryItem id => w.Has id
  | .person id => w.Has id

/-! ## Places -/

theorem playerLocation_eq {l : Location} (hl : w.get? w.player.location = some l) :
    w.playerLocation = .ok l := by
  rw [playerLocation, find_of_get? hl]

theorem Placed.has {s : Seating kind} (h : Placed s w) {at' : EntityId .location} {l : Location}
    (hl : w.get? at' = some l) : w.HasAll (s.contents l) := by
  intro id hmem
  obtain ⟨e, he, -⟩ := (h.listed id at').1 ⟨l, hl, hmem⟩
  exact ⟨e, he⟩

theorem Intact.waysOut (hw : Intact base w) (hs : base.Sound) {at' : EntityId .location}
    {l : Location} (hl : w.get? at' = some l) : base.HasAll (Location.waysOut l) :=
  hw.fits hs hl

/-- What is in scope exists. -/
theorem scopeAt_nameable (hw : Intact base w) (hs : base.Sound) {l : Location}
    (hl : w.get? w.player.location = some l) (scope : Scope) :
    ∀ ref ∈ w.scopeAt l scope, base.Nameable ref := by
  intro ref href
  cases scope <;> obtain ⟨id, hid, rfl⟩ := List.mem_map.1 href
  · exact hw.has_base (hw.placed.items.has hl id hid)
  · exact hw.has_base (hw.placed.carried id hid)
  · exact hw.has_base (hw.placed.persons.has hl id hid)
  · exact hw.waysOut hs hl id hid

theorem inScopes_ok (hw : Intact base w) (hs : base.Sound) (scopes : List Scope) :
    ∃ refs, w.inScopes scopes = .ok refs ∧ ∀ ref ∈ refs, base.Nameable ref := by
  obtain ⟨l, hl⟩ := hw.placed.here
  refine ⟨scopes.flatMap (w.scopeAt l), by rw [inScopes, playerLocation_eq hl]; rfl, ?_⟩
  intro ref href
  obtain ⟨scope, -, hmem⟩ := List.mem_flatMap.1 href
  exact scopeAt_nameable hw hs hl scope ref hmem

/-! ## Objects -/

theorem object_ok (hw : Intact base w) (hs : base.Sound) {ref : ObjectRef}
    (href : base.Nameable ref) :
    ∃ o, w.object ref = .ok o ∧ Identified o.identifiers := by
  cases ref with
  | location => exact href.elim
  | way id =>
    obtain ⟨e, he⟩ := hw.has (show base.Has id from href)
    exact ⟨_, by rw [object, find_of_get? he]; rfl, (hw.fits hs he).identifiers⟩
  | item id =>
    obtain ⟨e, he⟩ := hw.has (show base.Has id from href)
    exact ⟨_, by rw [object, find_of_get? he]; rfl, (hw.fits hs he).identifiers⟩
  | inventoryItem id =>
    obtain ⟨e, he⟩ := hw.has (show base.Has id from href)
    exact ⟨_, by rw [object, find_of_get? he]; rfl, (hw.fits hs he).identifiers⟩
  | person id =>
    obtain ⟨e, he⟩ := hw.has (show base.Has id from href)
    exact ⟨_, by rw [object, find_of_get? he]; rfl, (hw.fits hs he).identifiers⟩

theorem accepts_ok {fragments : List String} (h : Identified fragments) (word : String) :
    ∃ accepted, Identifier.accepts fragments word = .ok accepted := by
  obtain ⟨r, hr⟩ := h
  exact ⟨_, by rw [Identifier.accepts, hr]; rfl⟩

/-- An object that a word names is looked for without a failure. -/
theorem findNamed_ok (hw : Intact base w) (hs : base.Sound) (word : String) :
    ∀ {candidates : List ObjectRef}, (∀ ref ∈ candidates, base.Nameable ref) →
      ∃ found, w.findNamed word candidates = .ok found ∧ ∀ ref, found = some ref → base.Nameable ref
  | [], _ => ⟨none, rfl, nofun⟩
  | candidate :: rest, h => by
    obtain ⟨o, ho, hidentified⟩ := object_ok hw hs (h candidate (by simp))
    obtain ⟨accepted, haccepted⟩ := accepts_ok hidentified word
    obtain ⟨found, hfound, hnameable⟩ :=
      findNamed_ok hw hs word fun ref href => h ref (List.mem_cons_of_mem _ href)
    rw [findNamed, ho]
    change ∃ found, (Identifier.accepts o.identifiers word >>= _) = _ ∧ _
    rw [haccepted]
    cases accepted with
    | true =>
      refine ⟨some candidate, rfl, fun ref href => ?_⟩
      exact Option.some.inj href ▸ h candidate (by simp)
    | false => exact ⟨found, hfound, hnameable⟩

theorem search_ok (hw : Intact base w) (hs : base.Sound) (scopes : List Scope) (word : String) :
    ∃ found, w.search scopes word = .ok found ∧ ∀ ref, found = some ref → base.Nameable ref := by
  obtain ⟨refs, hrefs, hnameable⟩ := inScopes_ok hw hs scopes
  rw [search, hrefs]
  exact findNamed_ok hw hs word hnameable

theorem inspection_ok (hw : Intact base w) (hs : base.Sound) {ref : ObjectRef}
    (href : base.Nameable ref) :
    ∃ i, w.inspection ref = .ok (some i) ∧ Phrased .inspect i.phrasings ∧
      base.HasAll i.actions := by
  cases ref with
  | location => exact href.elim
  | way id =>
    obtain ⟨e, he⟩ := hw.has (show base.Has id from href)
    have hfits : WayFits base (frame .way e) := hw.fits hs he
    exact ⟨Way.inspection e, by rw [inspection, find_of_get? he]; rfl, hfits.inspectPhrasings,
      hfits.inspectActions⟩
  | item id =>
    obtain ⟨e, he⟩ := hw.has (show base.Has id from href)
    have hfits : ItemFits base (frame .item e) := hw.fits hs he
    exact ⟨Item.inspection e, by rw [inspection, find_of_get? he]; rfl, hfits.inspectPhrasings,
      hfits.inspectActions⟩
  | inventoryItem id =>
    obtain ⟨e, he⟩ := hw.has (show base.Has id from href)
    have hfits : InventoryItemFits base (frame .inventoryItem e) := hw.fits hs he
    exact ⟨InventoryItem.inspection e, by rw [inspection, find_of_get? he]; rfl,
      hfits.inspectPhrasings, hfits.inspectActions⟩
  | person id =>
    obtain ⟨e, he⟩ := hw.has (show base.Has id from href)
    have hfits : PersonFits base (frame .person e) := hw.fits hs he
    exact ⟨Person.inspection e, by rw [inspection, find_of_get? he]; rfl, hfits.inspectPhrasings,
      hfits.inspectActions⟩

/-! ## Interactions -/

/-- What an interaction needs when it is run. -/
def InteractionFits (base : World) (i : Interaction EntityId ObjectRef) : Prop :=
  Phrased .useWith i.phrasings ∧ base.HasAll i.actions

theorem interactions_fit (hw : Intact base w) (hs : base.Sound) {id : EntityId .inventoryItem}
    {i : InventoryItem} (hi : w.get? id = some i) :
    ∀ x ∈ InventoryItem.interactions i, InteractionFits base x := by
  intro x hx
  have hfits : InventoryItemFits base _ := hw.fits hs hi
  exact hfits.interactions { x with enabled := false, forbiddenText := none, successText := none }
    (List.mem_map.2 ⟨x, hx, rfl⟩)

theorem interactionWith_fits (hw : Intact base w) (hs : base.Sound) {id : EntityId .inventoryItem}
    {i : InventoryItem} (hi : w.get? id = some i) (partner : ObjectRef) :
    ∀ x ∈ (InventoryItem.interactionWith i partner).toList, InteractionFits base x := by
  intro x hx
  rw [Option.mem_toList] at hx
  exact interactions_fit hw hs hi x (List.mem_of_find?_eq_some hx)

end World

namespace Act

variable {base w : World}

theorem namesOf_ok {kind : EntityKind} (name : Entity kind → String) :
    ∀ {ids : List (EntityId kind)}, w.HasAll ids → ∃ names, namesOf name w ids = .ok names
  | [], _ => ⟨[], rfl⟩
  | id :: ids, h => by
    obtain ⟨e, he⟩ := h id (by simp)
    obtain ⟨names, hnames⟩ := namesOf_ok name fun id' hid' => h id' (List.mem_cons_of_mem _ hid')
    exact ⟨name e :: names, by rw [namesOf, find_of_get? he, hnames]; rfl⟩

theorem firstAccepting_ok {command : Command} (hverb : command.verb = .useWith) :
    ∀ {is : List (Interaction EntityId ObjectRef)}, (∀ i ∈ is, InteractionFits base i) →
      ∃ found, firstAccepting command is = .ok found ∧
        ∀ i, found = some i → InteractionFits base i
  | [], _ => ⟨none, rfl, nofun⟩
  | i :: rest, h => by
    have hphrased : Phrased command.verb i.phrasings := hverb ▸ (h i (by simp)).1
    obtain ⟨accepted, haccepted⟩ := Command.acceptedBy_ok hphrased
    obtain ⟨found, hfound, hfits⟩ :=
      firstAccepting_ok hverb fun i' hi' => h i' (List.mem_cons_of_mem _ hi')
    rw [firstAccepting, haccepted]
    cases accepted with
    | true => exact ⟨some i, rfl, fun i' hi' => Option.some.inj hi' ▸ h i (by simp)⟩
    | false => exact ⟨found, hfound, hfits⟩

theorem interactionsBetween_ok (hw : Intact base w) (hs : base.Sound)
    {first : EntityId .inventoryItem} {second : ObjectRef} (hfirst : base.Has first)
    (hsecond : base.Nameable second) :
    ∃ is, interactionsBetween w first second = .ok is ∧ ∀ i ∈ is, InteractionFits base i := by
  obtain ⟨e, he⟩ := hw.has hfirst
  have hown := interactionWith_fits hw hs he second
  rw [interactionsBetween, find_of_get? he]
  cases second with
  | location | way | item | person => exact ⟨_, rfl, hown⟩
  | inventoryItem id =>
    obtain ⟨e', he'⟩ := hw.has (show base.Has id from hsecond)
    change ∃ is, (w.find id >>= _) = _ ∧ _
    rw [find_of_get? he']
    refine ⟨_, rfl, fun i hi => ?_⟩
    rcases List.mem_append.1 hi with hi | hi
    · exact hown i hi
    · exact interactionWith_fits hw hs he' _ i hi

theorem partners_ok (hw : Intact base w) (hs : base.Sound) (first : EntityId .inventoryItem) :
    ∃ refs, partners w first = .ok refs ∧ ∀ ref ∈ refs, base.Nameable ref := by
  obtain ⟨carried, hcarried, hown⟩ := inScopes_ok hw hs [.inventory]
  obtain ⟨here, hhere, hothers⟩ := inScopes_ok hw hs [.itemsHere, .personsHere]
  refine ⟨_, by rw [partners, hcarried, hhere]; rfl, fun ref href => ?_⟩
  rcases List.mem_append.1 href with href | href
  · exact hown ref (List.mem_filter.1 href).1
  · exact hothers ref href

end Act

/-! ## Phrasings -/

namespace World

variable {base w : World}

theorem Intact.fits_of_mem (hw : Intact base w) (hs : base.Sound) {kind : EntityKind}
    {e : Entity kind} (he : e ∈ (w.arena kind).values) :
    ∃ id, EntityFits base kind id (frame kind e) := by
  obtain ⟨id, hid⟩ := Arena.mem_values.1 he
  exact ⟨id, hw.fits hs hid⟩

section
variable (hw : Intact base w) (hs : base.Sound)
include hw hs

theorem item_fits {i : Item} (hi : i ∈ w.items.values) : ItemFits base (frame .item i) :=
  (@Intact.fits_of_mem base w hw hs .item i hi).elim fun _ h => h

theorem inventoryItem_fits {i : InventoryItem} (hi : i ∈ w.inventoryItems.values) :
    InventoryItemFits base (frame .inventoryItem i) :=
  (@Intact.fits_of_mem base w hw hs .inventoryItem i hi).elim fun _ h => h

theorem person_fits {p : Person} (hp : p ∈ w.persons.values) : PersonFits base (frame .person p) :=
  (@Intact.fits_of_mem base w hw hs .person p hp).elim fun _ h => h

theorem way_fits {v : Way} (hv : v ∈ w.ways.values) : WayFits base (frame .way v) :=
  (@Intact.fits_of_mem base w hw hs .way v hv).elim fun _ h => h

theorem phrasingSources_valid (verb : Verb) :
    ∀ source ∈ w.phrasingSources verb, Phrased verb source.2 := by
  intro source hsource
  cases verb with
  | exit | help | lookAround | inventory => cases hsource
  | inspect =>
    simp only [phrasingSources, List.mem_append, List.mem_map] at hsource
    rcases hsource with ((⟨i, hi, rfl⟩ | ⟨i, hi, rfl⟩) | ⟨p, hp, rfl⟩) | ⟨v, hv, rfl⟩
    · exact (item_fits hw hs hi).inspectPhrasings
    · exact (inventoryItem_fits hw hs hi).inspectPhrasings
    · exact (person_fits hw hs hp).inspectPhrasings
    · exact (way_fits hw hs hv).inspectPhrasings
  | take =>
    obtain ⟨i, hi, rfl⟩ := List.mem_map.1 hsource
    exact (item_fits hw hs hi).takePhrasings
  | talkTo =>
    obtain ⟨p, hp, rfl⟩ := List.mem_map.1 hsource
    exact (person_fits hw hs hp).talkPhrasings
  | move =>
    obtain ⟨v, hv, rfl⟩ := List.mem_map.1 hsource
    exact (way_fits hw hs hv).movePhrasings
  | use =>
    simp only [phrasingSources, List.mem_append, List.mem_map] at hsource
    rcases hsource with ⟨i, hi, rfl⟩ | ⟨i, hi, rfl⟩
    · exact (item_fits hw hs hi).usePhrasings
    · exact (inventoryItem_fits hw hs hi).usePhrasings
  | useWith =>
    obtain ⟨i, hi, hmem⟩ := List.mem_flatMap.1 hsource
    obtain ⟨x, hx, rfl⟩ := List.mem_map.1 hmem
    obtain ⟨id, hid⟩ := Arena.mem_values.1 hi
    exact (interactions_fit hw hs (show w.get? id = some i from hid) x hx).1

/-- The phrasings that objects add to a verb are templates for it. -/
theorem customPhrasings_valid (verb : Verb) : Phrased verb (w.customPhrasings verb) := by
  intro t ht
  rw [customPhrasings, Text.mem_sortedSet, List.mem_flatMap] at ht
  obtain ⟨source, hsource, ht⟩ := ht
  exact phrasingSources_valid hw hs verb source hsource t ht

end

end World

end Adventure
