import Adventure.Proofs.Views
import Adventure.Story.Validation
import Adventure.World.OfStory

/-!
# Stories and the entities of their worlds

A story without faults has distinct symbols in each kind and refers to existing entities only. Its
world then has exactly one entity for each definition (`get?_ofStory`), provided that identifiers
of distinct names are distinct (`DistinctIds`): identifiers are digests, so this is a property of
the names that a story uses.
-/

namespace Adventure

namespace Story

/-! ## Checks that find nothing -/

theorem repeated_eq_nil {α : Type} [BEq α] [LawfulBEq α] :
    ∀ {seen as : List α}, repeated seen as = [] ↔ as.Nodup ∧ ∀ a ∈ as, a ∉ seen
  | _, [] => by simp [repeated]
  | seen, a :: as => by
    by_cases ha : seen.contains a = true
    · have hseen : a ∈ seen := by simpa using ha
      rw [repeated, if_pos ha]
      exact ⟨nofun, fun h => absurd hseen (h.2 a (by simp))⟩
    · have hseen : a ∉ seen := by simpa using ha
      rw [repeated, if_neg ha, repeated_eq_nil, List.nodup_cons, List.forall_mem_cons]
      constructor
      · rintro ⟨hnodup, hnew⟩
        exact ⟨⟨fun hmem => hnew a hmem (by simp), hnodup⟩, hseen,
          fun b hb hmem => hnew b hb (List.mem_cons_of_mem _ hmem)⟩
      · rintro ⟨⟨hmem, hnodup⟩, -, hnew⟩
        refine ⟨hnodup, fun b hb hcons => ?_⟩
        rcases List.mem_cons.1 hcons with rfl | hcons
        · exact hmem hb
        · exact hnew b hb hcons

theorem checkRef_eq_nil {s : Story} {kind : EntityKind} {place : Place} {symbol : String} :
    s.checkRef kind place symbol = [] ↔ symbol ∈ s.symbols kind := by
  simp [checkRef]

/-- A story in which validation finds no fault, check by check. -/
structure Sound (s : Story) : Prop where
  nodup : ∀ kind, (s.symbols kind).Nodup
  player : s.checkPlayer = []
  ways : ∀ w ∈ s.ways, s.checkWay w = []
  items : ∀ i ∈ s.items, s.checkItem i = []
  inventoryItems : ∀ i ∈ s.inventoryItems, s.checkInventoryItem i = []
  persons : ∀ p ∈ s.persons, s.checkPerson p = []
  conversations : ∀ c ∈ s.conversations, s.checkConversation c = []
  actions : ∀ a ∈ s.actions, s.checkAction a = []

theorem mem_kindsInOrder (kind : EntityKind) : kind ∈ kindsInOrder := by cases kind <;> decide

theorem sound_of_faults_eq_nil {s : Story} (h : s.faults = []) : s.Sound := by
  simp only [faults, List.append_eq_nil_iff, List.flatMap_eq_nil_iff] at h
  obtain ⟨⟨⟨⟨⟨⟨⟨hdup, hplayer⟩, hways⟩, hitems⟩, hinventory⟩, hpersons⟩, htalks⟩, hactions⟩ := h
  refine ⟨fun kind => ?_, hplayer, hways, hitems, hinventory, hpersons, htalks, hactions⟩
  have hkind := List.flatMap_eq_nil_iff.1 hdup kind (mem_kindsInOrder kind)
  exact (repeated_eq_nil.1 (List.map_eq_nil_iff.1 hkind)).1

/-! ## Names -/

/-- The names from which the identifiers of a kind are derived, each with its namespace. Ways and
items have an action of their own each. -/
def names (s : Story) (kind : EntityKind) : List (Uuid × String) :=
  (s.symbols kind).map (fun symbol => (kind.space, symbol))
    ++ if kind = .action then
        s.ways.map (fun w => (ownedActionSpace, EntityId.ownedSymbol w.symbol "move"))
          ++ s.items.map fun i => (ownedActionSpace, EntityId.ownedSymbol i.symbol "take")
      else []

/-- Distinct names of a kind have distinct identifiers. -/
def DistinctIds (s : Story) : Prop :=
  ∀ kind, ∀ a ∈ s.names kind, ∀ b ∈ s.names kind, Uuid.named a.1 a.2 = Uuid.named b.1 b.2 → a = b

theorem mem_names_of_symbol {s : Story} {kind : EntityKind} {symbol : String}
    (h : symbol ∈ s.symbols kind) : (kind.space, symbol) ∈ s.names kind :=
  List.mem_append_left _ (List.mem_map.2 ⟨symbol, h, rfl⟩)

theorem ownedSymbol_inj {owner owner' role : String}
    (h : EntityId.ownedSymbol owner role = EntityId.ownedSymbol owner' role) : owner = owner' := by
  simpa [EntityId.ownedSymbol, String.append_left_inj] using h

theorem move_ne_take (owner owner' : String) :
    EntityId.ownedSymbol owner "move" ≠ EntityId.ownedSymbol owner' "take" := by
  intro h
  have := congrArg (fun s : String => s.toList.reverse[1]?) h
  simp [EntityId.ownedSymbol, String.toList_append] at this

/-- Different owners have different actions of the same role. -/
theorem nodup_owned {α : Type} {owners : List α} {symbol : α → String}
    (h : (owners.map symbol).Nodup) (role : String) :
    (owners.map fun a => (ownedActionSpace, EntityId.ownedSymbol (symbol a) role)).Nodup := by
  have hnodup := h.map (f := fun owner => (ownedActionSpace, EntityId.ownedSymbol owner role))
    fun _ _ heq => ownedSymbol_inj (Prod.mk.inj heq).2
  rwa [List.map_map] at hnodup

theorem nodup_names {s : Story} (h : s.Sound) (kind : EntityKind) : (s.names kind).Nodup := by
  have hsymbols : ((s.symbols kind).map fun symbol => (kind.space, symbol)).Nodup :=
    (h.nodup kind).map fun _ _ heq => (Prod.mk.inj heq).2
  unfold names
  split
  · rename_i hkind
    subst hkind
    have hways := nodup_owned (h.nodup .way) "move"
    have hitems := nodup_owned (h.nodup .item) "take"
    refine List.nodup_append.2 ⟨hsymbols, List.nodup_append.2 ⟨hways, hitems, ?_⟩, ?_⟩
    · intro a ha b hb
      obtain ⟨w, -, rfl⟩ := List.mem_map.1 ha
      obtain ⟨i, -, rfl⟩ := List.mem_map.1 hb
      exact fun heq => move_ne_take _ _ (Prod.mk.inj heq).2
    · intro a ha b hb heq
      obtain ⟨symbol, -, rfl⟩ := List.mem_map.1 ha
      have hspace : b.1 = ownedActionSpace := by
        rcases List.mem_append.1 hb with hb | hb <;> obtain ⟨_, -, rfl⟩ := List.mem_map.1 hb <;> rfl
      have hne : EntityKind.action.space ≠ ownedActionSpace := by decide
      exact hne ((congrArg Prod.fst heq).trans hspace)
  · simpa using hsymbols

/-! ### A story -/

/-- A gate with a lamp and a guard who can be asked one question, and that only once. The game
understands three phrasings. -/
def gateStory : Story where
  game :=
    { phrasings := ⟨["exit"], [], [], [], [], ["take <A>"], ["talk to <A>"], [], [], []⟩ }
  player := { startLocation := "gate" }
  locations := [{ symbol := "gate", name := "Gate" }]
  items := [{ symbol := "lamp", name := "lamp", location := some "gate", identifiers := ["lamp"] }]
  persons :=
    [{ symbol := "guard", name := "Guard", location := some "gate", identifiers := ["guard"]
       talk := { conversation := some "chat" } }]
  conversations :=
    [{ symbol := "chat", startLayer := some "main"
       layers :=
         [{ symbol := "main"
            choices := [{ symbol := "ask", text := "Who goes?", disableAfterChosen := true }] }] }]

theorem distinctIds_gateStory : gateStory.DistinctIds := by
  intro kind
  cases kind <;> decide +kernel

end Story

namespace World

open Story

variable {kind : EntityKind}

/-! ## Entities -/

/-- The entities of a kind that the definitions of a story make, with their identifiers. -/
def entriesOf (s : Story) : (kind : EntityKind) → List (EntityId kind × Entity kind)
  | .location => s.locations.map fun l => (idOf l.symbol, locationOf s l)
  | .way => s.ways.map fun w => (idOf w.symbol, wayOf w)
  | .item => s.items.map fun i => (idOf i.symbol, itemOf i)
  | .inventoryItem => s.inventoryItems.map fun i => (idOf i.symbol, inventoryItemOf i)
  | .person => s.persons.map fun p => (idOf p.symbol, personOf p)
  | .conversation => s.conversations.map fun c => (idOf c.symbol, conversationOf c)
  | .layer => s.conversations.flatMap fun c => c.layers.map fun l => (idOf l.symbol, layerOf c l)
  | .choice => s.conversations.flatMap fun c => c.layers.flatMap fun l =>
      l.choices.map fun o => (idOf o.symbol, choiceOf c l o)
  | .action => (actionsOf s).map fun a => (Action.id a, a)

/-- Actions come from authors, ways and items. -/
theorem mem_actionsOf {s : Story} {a : Action} : a ∈ actionsOf s ↔
    (∃ d ∈ s.actions, actionOf d = a) ∨ (∃ v ∈ s.ways, moveActionOf v = a) ∨
      ∃ i ∈ s.items, takeActionOf i = a := by
  simp [actionsOf]

theorem arena_ofStory (s : Story) (kind : EntityKind) :
    (ofStory s).arena kind = .ofList (entriesOf s kind) := by
  cases kind <;> rfl

theorem ids_entriesOf (s : Story) (kind : EntityKind) :
    (entriesOf s kind).map (·.1) = (s.names kind).map fun n => ⟨Uuid.named n.1 n.2⟩ := by
  cases kind with
  | action =>
    simp only [entriesOf, actionsOf, names, symbols, if_true, List.map_append, List.map_map,
      List.append_assoc]
    rfl
  | layer | choice =>
    simp only [entriesOf, names, symbols, List.map_map, List.map_flatMap, reduceCtorEq, if_false,
      List.append_nil]
    rfl
  | location | way | item | inventoryItem | person | conversation =>
    simp only [entriesOf, names, symbols, List.map_map, reduceCtorEq, if_false, List.append_nil]
    rfl

theorem nodup_ids_entriesOf {s : Story} (h : s.Sound) (hd : s.DistinctIds) (kind : EntityKind) :
    ((entriesOf s kind).map (·.1)).Nodup := by
  rw [ids_entriesOf]
  refine (nodup_names h kind).map_on fun a ha b hb heq => hd kind a ha b hb ?_
  exact congrArg EntityId.uuid heq

/-- The world of a story has exactly the entities that the definitions make. -/
theorem get?_ofStory {s : Story} (h : s.Sound) (hd : s.DistinctIds) {id : EntityId kind}
    {e : Entity kind} : (ofStory s).get? id = some e ↔ (id, e) ∈ entriesOf s kind := by
  rw [get?, arena_ofStory]
  exact Arena.get?_ofList (nodup_ids_entriesOf h hd kind)

/-- A symbol that is defined leads to an entity. -/
theorem exists_get?_ofStory {s : Story} {symbol : Symbol kind}
    (hs : symbol ∈ s.symbols kind) : ∃ e, (ofStory s).get? (idOf symbol) = some e := by
  rw [get?, arena_ofStory, ← Option.isSome_iff_exists, Arena.isSome_get?_ofList, ids_entriesOf]
  exact List.mem_map.2 ⟨_, mem_names_of_symbol hs, rfl⟩

end World

end Adventure
