import Adventure.Uuid.Basic

/-!
# Identifiers of entities

Every entity of a world has a kind and a symbol, the name its author gave it. Its identifier is
derived from both, so equal symbols of one kind always mean the same entity. An action that
belongs to an item or a way has a symbol of its own and an identifier from a separate namespace:
it never meets an action that an author wrote.
-/

namespace Adventure

/-- The kinds of entities in a world. -/
inductive EntityKind
  | location | way | item | inventoryItem | person | conversation | layer | choice | action
  deriving DecidableEq, Repr, Inhabited

namespace EntityKind

/-- What a kind is called in messages. -/
def label : EntityKind → String
  | location => "location"
  | way => "way"
  | item => "item"
  | inventoryItem => "inventory item"
  | person => "person"
  | conversation => "conversation"
  | layer => "conversation layer"
  | choice => "conversation option"
  | action => "action"

/-- The namespace from which the identifiers of a kind are derived. -/
def space : EntityKind → Uuid
  | location => ⟨0x5b0f3c1e8d2a4f619c4e2a7d61e0b4f3⟩
  | way => ⟨0xc3e91a704b5d4e28a1f67d0c92b8e5a4⟩
  | item => ⟨0x1f7a6d2293c44b0eb8d56e2f40a9c371⟩
  | inventoryItem => ⟨0x8a4c2e9017b34d6f9e05b3c8d1f26a7e⟩
  | person => ⟨0xe6d05b382f9147ac8b3e0c5a79d4f182⟩
  | conversation => ⟨0x49b2f7c6a0e34c859d71f8e6b2305ad9⟩
  | layer => ⟨0xd7a83e156c4f4a92b0d831e5c6f9a274⟩
  | choice => ⟨0x2c6e9f04d8b14e73a5c29b0f7e3d6158⟩
  | action => ⟨0x71f4b0a93e264d8cb1a5c4e92d7f0638⟩

end EntityKind

/-- The namespace of the actions that belong to an item or a way. -/
def ownedActionSpace : Uuid := ⟨0xa05d3c87e4f24b198c6a5f13e9b72d40⟩

/-- The identifier of an entity of a given kind. -/
structure EntityId (kind : EntityKind) where
  uuid : Uuid
  deriving DecidableEq, Inhabited

namespace EntityId

variable {kind : EntityKind}

/-- The identifier of the entity with a given symbol (`uuid_from_token`). -/
def ofSymbol (kind : EntityKind) (symbol : String) : EntityId kind := ⟨Uuid.named kind.space symbol⟩

/-- The symbol of the action that `owner` has for `role` (`owned_action_symbol`). -/
def ownedSymbol (owner role : String) : String := owner ++ "#" ++ role

/-- The identifier of the action that `owner` has for `role` (`owned_action_id`). -/
def owned (owner role : String) : EntityId .action :=
  ⟨Uuid.named ownedActionSpace (ownedSymbol owner role)⟩

end EntityId

end Adventure
