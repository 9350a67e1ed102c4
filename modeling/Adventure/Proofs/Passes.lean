import Adventure.Proofs.Acceptance

/-!
# Building worlds definition by definition

The world of a story can also be built by adding one definition after the other (`World.built`).
Each puts its entities into the arenas, in the place of whatever has the same identifier, and what
is in a location or leads out of it is entered in the lists of that location, which is looked up by
its identifier. In a sound story with distinct identifiers nothing gets in the way of anything else:
what has been built in the end is the world of the story (`World.built_eq_ofStory`).
-/

namespace Adventure

open World

/-! ## Definitions -/

namespace Story

/-- What an author defines. -/
inductive Definition
  | location (l : Location)
  | action (a : Action)
  | way (v : Way)
  | item (i : Item)
  | inventoryItem (i : InventoryItem)
  | person (p : Person)
  | conversation (c : Conversation)

/-- The definitions of a story that come after those of its locations. -/
def laterDefinitions (s : Story) : List Definition :=
  s.actions.map .action ++ s.ways.map .way ++ s.items.map .item ++
    s.inventoryItems.map .inventoryItem ++ s.persons.map .person ++
    s.conversations.map .conversation

/-- The definitions of a story in the order in which they are added to its world. -/
def definitions (s : Story) : List Definition := s.locations.map .location ++ s.laterDefinitions

namespace Definition

/-- The location that lists what is defined. -/
def place : Definition → Option (EntityId .location)
  | way v => some (idOf v.origin)
  | item i => i.location.map idOf
  | person p => p.location.map idOf
  | location _ | action _ | inventoryItem _ | conversation _ => none

/-- Enters what is defined in the lists of a location. -/
def enter : Definition → World.Location → World.Location
  | way v, l => { l with waysOut := l.waysOut ++ [idOf v.symbol] }
  | item i, l => { l with items := addOnce (idOf i.symbol) l.items }
  | person p, l => { l with persons := addOnce (idOf p.symbol) l.persons }
  | location _, l | action _, l | inventoryItem _, l | conversation _, l => l

end Definition

end Story

open Story (Definition)

namespace World

/-- A location in which nothing has been entered yet. -/
def bareLocation (l : Story.Location) : Location where
  id := idOf l.symbol
  symbol := l.symbol
  name := l.name
  description := l.description
  items := []
  persons := []
  waysOut := []

/-- Changes the location with a given identifier, if there is one. -/
def changeLocation (w : World) (f : Location → Location) : Option (EntityId .location) → World
  | none => w
  | some at' => match w.get? at' with
    | some l => w.put at' (f l)
    | none => w

def addChoice (c : Story.Conversation) (l : Story.Layer) (w : World) (o : Story.Choice) : World :=
  w.put (idOf o.symbol : EntityId .choice) (choiceOf c l o)

/-- Adds a layer with its choices. -/
def addLayer (c : Story.Conversation) (w : World) (l : Story.Layer) : World :=
  (l.choices.foldl (addChoice c l) w).put (idOf l.symbol : EntityId .layer) (layerOf c l)

/-- Puts in what a definition makes. -/
def addEntities (w : World) : Definition → World
  | .location l => w.put (idOf l.symbol : EntityId .location) (bareLocation l)
  | .action a => w.put (idOf a.symbol : EntityId .action) (actionOf a)
  | .way v =>
    (w.put (moveActionId v) (moveActionOf v)).put (idOf v.symbol : EntityId .way) (wayOf v)
  | .item i =>
    (w.put (takeActionId i) (takeActionOf i)).put (idOf i.symbol : EntityId .item) (itemOf i)
  | .inventoryItem i => w.put (idOf i.symbol : EntityId .inventoryItem) (inventoryItemOf i)
  | .person p => w.put (idOf p.symbol : EntityId .person) (personOf p)
  | .conversation c =>
    (c.layers.foldl (addLayer c) w).put (idOf c.symbol : EntityId .conversation) (conversationOf c)

/-- Adds a definition to a world. -/
def add (w : World) (d : Definition) : World := (w.changeLocation d.enter d.place).addEntities d

/-- The world that is built by adding the definitions of a story one after the other. -/
def built (s : Story) : World :=
  { s.definitions.foldl add (.empty (gameOf s.game) currentVersion) with
    player := playerOf s.player }

/-! ## Entities -/

section

variable {kind other : EntityKind} {w : World}

/-- An entity with its identifier, if it is of a given kind. -/
def entry (id : EntityId kind) (e : Entity kind) (other : EntityKind) :
    List (EntityId other × Entity other) :=
  if h : kind = other then [h ▸ (id, e)] else []

@[simp] theorem entry_self (id : EntityId kind) (e : Entity kind) :
    entry id e kind = [(id, e)] := by
  simp [entry]

@[simp] theorem entry_of_ne (h : kind ≠ other) (id : EntityId kind) (e : Entity kind) :
    entry id e other = [] := by
  simp [entry, h]

end

end World

namespace Story.Definition

def choiceEntries (c : Conversation) (l : Layer) (kind : EntityKind) :
    List (EntityId kind × Entity kind) :=
  l.choices.flatMap fun o => entry (idOf o.symbol : EntityId .choice) (choiceOf c l o) kind

def layerEntries (c : Conversation) (kind : EntityKind) : List (EntityId kind × Entity kind) :=
  c.layers.flatMap fun l =>
    choiceEntries c l kind ++ entry (idOf l.symbol : EntityId .layer) (layerOf c l) kind

/-- What a definition makes of a kind. -/
def made : Definition → (kind : EntityKind) → List (EntityId kind × Entity kind)
  | location l, kind => entry (idOf l.symbol : EntityId .location) (bareLocation l) kind
  | action a, kind => entry (idOf a.symbol : EntityId .action) (actionOf a) kind
  | way v, kind => entry (moveActionId v) (moveActionOf v) kind
      ++ entry (idOf v.symbol : EntityId .way) (wayOf v) kind
  | item i, kind => entry (takeActionId i) (takeActionOf i) kind
      ++ entry (idOf i.symbol : EntityId .item) (itemOf i) kind
  | inventoryItem i, kind =>
    entry (idOf i.symbol : EntityId .inventoryItem) (inventoryItemOf i) kind
  | person p, kind => entry (idOf p.symbol : EntityId .person) (personOf p) kind
  | conversation c, kind => layerEntries c kind
      ++ entry (idOf c.symbol : EntityId .conversation) (conversationOf c) kind

end Story.Definition

namespace World

section

variable {kind other : EntityKind} {w : World}

/-- The arena with several entries put in. -/
def insertAll (arena : Arena kind (Entity kind)) (entries : List (EntityId kind × Entity kind)) :
    Arena kind (Entity kind) :=
  entries.foldl (fun arena e => arena.insert e.1 e.2) arena

theorem insertAll_append (arena : Arena kind (Entity kind))
    (entries more : List (EntityId kind × Entity kind)) :
    insertAll arena (entries ++ more) = insertAll (insertAll arena entries) more :=
  List.foldl_append

theorem arena_put (id : EntityId kind) (e : Entity kind) (other : EntityKind) :
    (w.put id e).arena other = insertAll (w.arena other) (entry id e other) := by
  by_cases h : kind = other
  · subst h
    simp [put, insertAll]
  · rw [entry_of_ne h]
    exact arena_setArena_of_ne (Ne.symm h)

/-- Where each step puts in some entries, all of them are put in one after the other. -/
theorem arena_foldl {Def : Type} {step : World → Def → World}
    {made : Def → List (EntityId kind × Entity kind)} {ds : List Def}
    (h : ∀ w, ∀ d ∈ ds, (step w d).arena kind = insertAll (w.arena kind) (made d)) (w : World) :
    (ds.foldl step w).arena kind = insertAll (w.arena kind) (ds.flatMap made) := by
  induction ds generalizing w with
  | nil => rfl
  | cons d ds ih =>
    have hrest := fun w d hd => h w d (List.mem_cons_of_mem _ hd)
    rw [List.foldl_cons, ih hrest, h w d (List.mem_cons_self ..), List.flatMap_cons,
      insertAll_append]

theorem arena_addLayer (c : Story.Conversation) (w : World) (l : Story.Layer) (kind : EntityKind) :
    (addLayer c w l).arena kind = insertAll (w.arena kind) (Definition.choiceEntries c l kind
      ++ entry (idOf l.symbol : EntityId .layer) (layerOf c l) kind) := by
  have hchoice : ∀ (w : World) (o : Story.Choice), (addChoice c l w o).arena kind
      = insertAll (w.arena kind) (entry (idOf o.symbol : EntityId .choice) (choiceOf c l o) kind) :=
    fun w o => arena_put _ _ kind
  rw [addLayer, arena_put, arena_foldl fun w o _ => hchoice w o, insertAll_append]
  rfl

/-- A definition puts in what it makes. -/
theorem arena_addEntities (w : World) (d : Definition) (kind : EntityKind) :
    (w.addEntities d).arena kind = insertAll (w.arena kind) (d.made kind) := by
  cases d with
  | location | action | inventoryItem | person => exact arena_put _ _ _
  | way v => rw [addEntities, arena_put, arena_put, Definition.made, insertAll_append]
  | item i => rw [addEntities, arena_put, arena_put, Definition.made, insertAll_append]
  | conversation c =>
    rw [addEntities, arena_put, arena_foldl fun w l _ => arena_addLayer c w l kind,
      Definition.made, insertAll_append]
    rfl

theorem arena_changeLocation (h : kind ≠ .location) (f : Location → Location)
    (place : Option (EntityId .location)) :
    (w.changeLocation f place).arena kind = w.arena kind := by
  cases place with
  | none => rfl
  | some at' =>
    rw [changeLocation]
    split
    · exact arena_setArena_of_ne h
    · rfl

/-- Apart from locations, the definitions make what the world of the story consists of. -/
theorem flatMap_made (h : kind ≠ .location) (s : Story) :
    (s.definitions.flatMap fun d => d.made kind) = entriesOf s kind := by
  have hnil : ∀ {α β : Type} (as : List α), as.flatMap (fun _ => ([] : List β)) = [] :=
    fun as => List.flatMap_eq_nil_iff.2 fun _ _ => rfl
  simp only [Story.definitions, Story.laterDefinitions, List.flatMap_append, List.flatMap_map,
    Definition.made, Definition.layerEntries, Definition.choiceEntries]
  cases kind with
  | location => exact absurd rfl h
  | action =>
    simp [entriesOf, actionsOf, hnil, ← List.map_eq_flatMap]
    rfl
  | way | item | inventoryItem | person | conversation | layer | choice =>
    simp [entriesOf, hnil, ← List.map_eq_flatMap]

/-- Entities other than locations are those of the world of the story. -/
theorem arena_built (h : kind ≠ .location) (s : Story) :
    (built s).arena kind = (ofStory s).arena kind := by
  have hadd : ∀ (w : World) (d : Definition),
      (w.add d).arena kind = insertAll (w.arena kind) (d.made kind) := by
    intro w d
    rw [add, arena_addEntities, arena_changeLocation h]
  have hplayer : (built s).arena kind
      = (s.definitions.foldl add (.empty (gameOf s.game) currentVersion)).arena kind := by
    cases kind <;> rfl
  have hempty : (empty (gameOf s.game) currentVersion).arena kind = .empty := by cases kind <;> rfl
  rw [hplayer, arena_foldl fun w d _ => hadd w d, hempty, flatMap_made h, arena_ofStory]
  rfl

end

/-! ## Settings -/

/-- What a world has besides the player and entities. -/
def settings (w : World) : Game × String := (w.game, w.version)

theorem settings_put {kind : EntityKind} (w : World) (id : EntityId kind) (e : Entity kind) :
    (w.put id e).settings = w.settings := by
  cases kind <;> rfl

theorem settings_foldl {Def : Type} {step : World → Def → World}
    (h : ∀ w d, (step w d).settings = w.settings) (ds : List Def) (w : World) :
    (ds.foldl step w).settings = w.settings := by
  induction ds generalizing w with
  | nil => rfl
  | cons d ds ih => rw [List.foldl_cons, ih, h]

theorem settings_changeLocation (w : World) (f : Location → Location) :
    ∀ place, (w.changeLocation f place).settings = w.settings
  | none => rfl
  | some at' => by
    rw [changeLocation]
    split
    · exact settings_put _ _ _
    · rfl

theorem settings_add (w : World) (d : Definition) : (w.add d).settings = w.settings := by
  rw [add, ← settings_changeLocation w d.enter d.place]
  generalize w.changeLocation d.enter d.place = w
  have hchoice : ∀ c l w o, (addChoice c l w o).settings = w.settings :=
    fun _ _ _ _ => settings_put _ _ _
  have hlayer : ∀ c w l, (addLayer c w l).settings = w.settings := fun c w l => by
    rw [addLayer, settings_put, settings_foldl (hchoice c l)]
  cases d with
  | conversation c => rw [addEntities, settings_put, settings_foldl (hlayer c)]
  | way | item => rw [addEntities, settings_put, settings_put]
  | location | action | inventoryItem | person => exact settings_put _ _ _

theorem eq_of_arena {w w' : World} (harena : ∀ kind, w.arena kind = w'.arena kind)
    (hgame : w.game = w'.game) (hplayer : w.player = w'.player)
    (hversion : w.version = w'.version) : w = w' := by
  cases w
  cases w'
  simp only [World.mk.injEq]
  exact ⟨hgame, hplayer, harena .location, harena .way, harena .item, harena .inventoryItem,
    harena .person, harena .conversation, harena .layer, harena .choice, harena .action, hversion⟩

/-! ## Locations -/

section

variable {w : World}

theorem get?_changeLocation (f : Location → Location) (place : Option (EntityId .location))
    (id : EntityId .location) : (w.changeLocation f place).get? id
      = (w.get? id).map fun l => if place = some id then f l else l := by
  cases place with
  | none => simp [changeLocation]
  | some at' =>
    rw [changeLocation]
    by_cases hid : id = at'
    · subst hid
      cases hl : w.get? id with
      | none => simp [hl]
      | some l => simp
    · have hne : ¬at' = id := fun h => hid h.symm
      cases w.get? at' <;> simp [get?_put_of_ne hid, hne]

/-- A definition that is no location is entered in the location that it names. -/
theorem get?_add {d : Definition} (hmade : d.made .location = []) (id : EntityId .location) :
    (w.add d).get? id = (w.get? id).map fun l => if d.place = some id then d.enter l else l := by
  rw [add, get?, arena_addEntities, hmade]
  exact get?_changeLocation d.enter d.place id

/-- Each location gets what is to be entered in it, in the order of the definitions. -/
theorem get?_foldl_add : ∀ {ds : List Definition}, (∀ d ∈ ds, d.made .location = []) →
    ∀ (w : World) (id : EntityId .location), (ds.foldl add w).get? id
      = (w.get? id).map fun l =>
        (ds.filter fun d => d.place = some id).foldl (fun l d => d.enter l) l
  | [], _, w, id => by simp
  | d :: ds, h, w, id => by
    obtain ⟨hd, hds⟩ := List.forall_mem_cons.1 h
    rw [List.foldl_cons, get?_foldl_add hds, get?_add hd, Option.map_map]
    congr 1
    funext l
    by_cases hplace : d.place = some id <;> simp [hplace]

end

end World

namespace Story.Definition

/-! ### Lists of locations -/

/-- The identifier of what is defined, if it is an item. -/
def item? : Definition → Option (EntityId .item)
  | item i => some (idOf i.symbol)
  | _ => none

def person? : Definition → Option (EntityId .person)
  | person p => some (idOf p.symbol)
  | _ => none

def way? : Definition → Option (EntityId .way)
  | way v => some (idOf v.symbol)
  | _ => none

/-- What is entered comes last, unless it is listed already. -/
theorem enter_eq {d : Definition} {l : World.Location} (hitem : ∀ id ∈ d.item?, id ∉ l.items)
    (hperson : ∀ id ∈ d.person?, id ∉ l.persons) : d.enter l =
      { l with
        items := l.items ++ d.item?.toList
        persons := l.persons ++ d.person?.toList
        waysOut := l.waysOut ++ d.way?.toList } := by
  cases d with
  | item i => simp [enter, item?, person?, way?, addOnce, hitem (idOf i.symbol) rfl]
  | person p => simp [enter, item?, person?, way?, addOnce, hperson (idOf p.symbol) rfl]
  | way | location | action | inventoryItem | conversation => simp [enter, item?, person?, way?]

/-- What is entered by several definitions comes in their order, if nothing is entered twice. -/
theorem foldl_enter : ∀ {ds : List Definition} {l : World.Location},
    (l.items ++ ds.filterMap item?).Nodup → (l.persons ++ ds.filterMap person?).Nodup →
    ds.foldl (fun l d => d.enter l) l =
      { l with
        items := l.items ++ ds.filterMap item?
        persons := l.persons ++ ds.filterMap person?
        waysOut := l.waysOut ++ ds.filterMap way? }
  | [], l, _, _ => by simp
  | d :: ds, l, hitems, hpersons => by
    have hsplit : ∀ {α : Type} (f : Definition → Option α),
        (d :: ds).filterMap f = (f d).toList ++ ds.filterMap f := by
      intro α f
      cases h : f d <;> simp [h]
    rw [hsplit, ← List.append_assoc] at hitems hpersons
    -- what comes first is new to the lists, and what comes after it differs from it
    have hnew : ∀ {α : Type} {as bs : List α} {a : Option α}, ((as ++ a.toList) ++ bs).Nodup →
        ∀ x ∈ a, x ∉ as := by
      rintro α as bs a h x hx hmem
      obtain rfl := Option.mem_def.1 hx
      exact (List.nodup_append.1 (List.nodup_append.1 h).1).2.2 x hmem x (by simp) rfl
    rw [List.foldl_cons, enter_eq (hnew hitems) (hnew hpersons), foldl_enter hitems hpersons]
    simp [hsplit]

end Story.Definition

/-! ## Stories -/

namespace World

section

variable {s : Story} (hs : s.Sound) (hd : s.DistinctIds)

include hs in
theorem ways_origin :
    ∀ v ∈ s.ways, ∀ x, some v.origin = some x → x ∈ s.symbols .location := by
  rintro v hv _ ⟨⟩
  have := hs.ways v hv
  simp only [Story.checkWay, List.append_eq_nil_iff, Story.checkRef_eq_nil] at this
  exact this.1.1.1

include hd in
/-- What names a location by its symbol is what names it by its identifier. -/
theorem filter_placed {Def : Type} {defs : List Def} {place : Def → Option String} {symbol : String}
    (hplace : ∀ d ∈ defs, ∀ x, place d = some x → x ∈ s.symbols .location)
    (hsymbol : symbol ∈ s.symbols .location) :
    (defs.filter fun d => (place d).map idOf = some (idOf symbol : EntityId .location))
      = defs.filter fun d => place d = some symbol := by
  refine List.filter_congr fun d hmem => decide_eq_decide.2 ?_
  rw [Option.map_eq_some_iff]
  constructor
  · rintro ⟨x, hx, hid⟩
    rw [hx, idOf_inj hd (hplace d hmem x hx) hsymbol hid]
  · exact fun h => ⟨symbol, h, rfl⟩

include hs hd in
/-- When everything has been entered in a location, it is as it is in the world of the story. -/
theorem foldl_enter_bareLocation {l : Story.Location} (hl : l ∈ s.locations) :
    (s.laterDefinitions.filter fun d => d.place = some (idOf l.symbol)).foldl
      (fun l d => d.enter l) (bareLocation l) = locationOf s l := by
  have hsymbol : l.symbol ∈ s.symbols .location := List.mem_map.2 ⟨l, hl, rfl⟩
  have hitems : ((s.laterDefinitions.filter fun d => d.place = some (idOf l.symbol)).filterMap
      Definition.item?) = (locationOf s l).items := by
    rw [locationOf, ← filter_placed hd (items_location hs) hsymbol]
    simp [Story.laterDefinitions, List.filter_map, Function.comp_def, Definition.place,
      Definition.item?]
  have hpersons : ((s.laterDefinitions.filter fun d => d.place = some (idOf l.symbol)).filterMap
      Definition.person?) = (locationOf s l).persons := by
    rw [locationOf, ← filter_placed hd (persons_location hs) hsymbol]
    simp [Story.laterDefinitions, List.filter_map, Function.comp_def, Definition.place,
      Definition.person?]
  have hways : ((s.laterDefinitions.filter fun d => d.place = some (idOf l.symbol)).filterMap
      Definition.way?) = (locationOf s l).waysOut := by
    have horigin := filter_placed hd (ways_origin hs) hsymbol
    simp only [Option.some.injEq, Option.map_some] at horigin
    rw [locationOf, ← horigin]
    simp [Story.laterDefinitions, List.filter_map, Function.comp_def, Definition.place,
      Definition.way?]
  have hplaced := wellPlaced_ofStory hs hd
  have hlocation : (ofStory s).get? (idOf l.symbol : EntityId .location) = some (locationOf s l) :=
    get?_of_def hs hd (List.mem_map.2 ⟨l, hl, rfl⟩)
  rw [Definition.foldl_enter, hitems, hpersons, hways]
  · rfl
  · rw [hitems]
    exact hplaced.items.once _ _ hlocation
  · rw [hpersons]
    exact hplaced.persons.once _ _ hlocation

/-- The locations are defined before anything is entered in them. -/
theorem arena_foldl_add_locations (s : Story) :
    ((s.locations.map Definition.location).foldl add
      (.empty (gameOf s.game) currentVersion)).arena .location
      = .ofList (s.locations.map fun l => (idOf l.symbol, bareLocation l)) := by
  have hadd : ∀ w : World, ∀ d ∈ s.locations.map Definition.location,
      (w.add d).arena .location = insertAll (w.arena .location) (d.made .location) := by
    intro w d hmem
    obtain ⟨l, -, rfl⟩ := List.mem_map.1 hmem
    exact arena_addEntities w _ _
  have hmade : (s.locations.map Definition.location).flatMap (fun d => d.made .location)
      = s.locations.map fun l => (idOf l.symbol, bareLocation l) := by
    simp [List.flatMap_map, Definition.made, ← List.map_eq_flatMap]
  rw [arena_foldl hadd, hmade]
  rfl

include hs hd in
/-- Locations are those of the world of the story. -/
theorem get?_built (id : EntityId .location) : (built s).get? id = (ofStory s).get? id := by
  have hlater : ∀ d ∈ s.laterDefinitions, d.made .location = [] := by
    simp only [Story.laterDefinitions, List.forall_mem_append, List.forall_mem_map]
    simp [Definition.made, Definition.layerEntries, Definition.choiceEntries]
  have hnodup : ((s.locations.map fun l =>
      ((idOf l.symbol : EntityId .location), bareLocation l)).map (·.1)).Nodup := by
    have hids := nodup_ids_entriesOf hs hd .location
    rw [entriesOf, List.map_map] at hids
    rwa [List.map_map]
  -- all locations are there when the other definitions look them up
  have hbuilt : (built s).get? id = _ :=
    (congrArg (World.get? · id) List.foldl_append).trans (get?_foldl_add hlater _ id)
  refine hbuilt.trans (Option.ext fun l => ?_)
  rw [get?_ofStory hs hd, Option.map_eq_some_iff, get?, arena_foldl_add_locations]
  simp only [Arena.get?_ofList hnodup, entriesOf, List.mem_map, Prod.mk.injEq]
  constructor
  · rintro ⟨_, ⟨d, hmem, rfl, rfl⟩, rfl⟩
    exact ⟨d, hmem, rfl, (foldl_enter_bareLocation hs hd hmem).symm⟩
  · rintro ⟨d, hmem, rfl, rfl⟩
    exact ⟨_, ⟨d, hmem, rfl, rfl⟩, foldl_enter_bareLocation hs hd hmem⟩

include hs hd in
/-- In a sound story with distinct identifiers no definition gets in the way of another. -/
theorem built_eq_ofStory : built s = ofStory s := by
  have harena : ∀ kind, (built s).arena kind = (ofStory s).arena kind := by
    intro kind
    by_cases h : kind = .location
    · subst h
      exact Arena.eq_of_get? (get?_built hs hd)
    · exact arena_built h s
  have hsettings := settings_foldl settings_add s.definitions (empty (gameOf s.game) currentVersion)
  exact eq_of_arena harena (congrArg Prod.fst hsettings) rfl (congrArg Prod.snd hsettings)

end

end World

end Adventure
