import Adventure.Uuid.Basic

/-!
# Schemas

A schema says how values of a type are laid out as data: which records, lists and alternatives
they consist of, what the parts are called and what a part is when it is left out. Reading and
writing a data format are functions on schemas, so each type is described once and every format
treats all types alike.
-/

namespace Adventure

mutual

/-- The layout of values of a type. -/
inductive Schema : Type → Type 1
  | flag : Schema Bool
  | text : Schema String
  | uuid : Schema Uuid
  | optional {α : Type} (schema : Schema α) : Schema (Option α)
  | list {α : Type} (schema : Schema α) : Schema (List α)
  /-- Values by identifier. -/
  | table {α : Type} (schema : Schema α) : Schema (List (Uuid × α))
  /-- Named fields. -/
  | record {α : Type} (name : String) (fields : Fields α) : Schema α
  /-- One of several named cases. -/
  | choice {α : Type} (cases : Cases α) : Schema α
  /-- The layout of another type, of which `parts` takes a value and `make` gives it back. -/
  | via {α β : Type} (schema : Schema β) (make : β → α) (parts : α → β)
      (make_parts : ∀ a, make (parts a) = a) : Schema α

/-- The fields of a record. A field with a default may be left out. -/
inductive Fields : Type → Type 1
  | done : Fields Unit
  | field {α β : Type} (name : String) (schema : Schema α) (default : Option α)
      (rest : Fields β) : Fields (α × β)

/-- The cases of a choice. -/
inductive Cases : Type → Type 1
  | done : Cases Empty
  /-- A case without data. -/
  | bare {β : Type} (name : String) (rest : Cases β) : Cases (Unit ⊕ β)
  /-- A case that holds one value. -/
  | holding {α β : Type} (name : String) (schema : Schema α) (rest : Cases β) : Cases (α ⊕ β)
  /-- A case with named fields. -/
  | record {α β : Type} (name : String) (fields : Fields α) (rest : Cases β) : Cases (α ⊕ β)

end

namespace Fields

variable {α β : Type}

/-- A field that has to be present. -/
def required (name : String) (schema : Schema α) (rest : Fields β) : Fields (α × β) :=
  .field name schema none rest

/-- A field that takes a default when it is left out. -/
def withDefault (name : String) (schema : Schema α) (default : α) (rest : Fields β) :
    Fields (α × β) :=
  .field name schema (some default) rest

/-- A field that may be absent. -/
def optional (name : String) (schema : Schema α) (rest : Fields β) :
    Fields (Option α × β) :=
  .field name (.optional schema) (some none) rest

/-- A list that is empty when it is left out. -/
def list (name : String) (schema : Schema α) (rest : Fields β) : Fields (List α × β) :=
  .field name (.list schema) (some []) rest

end Fields

/-! ## Positions in a choice -/

namespace Cases

variable {α₀ α₁ α₂ α₃ α₄ α₅ α₆ α₇ α₈ α₉ β₀ β₁ β₂ β₃ β₄ β₅ β₆ β : Type}

/-- The first case. -/
@[match_pattern] abbrev at0 (x : α₀) : α₀ ⊕ β := .inl x

/-- The second case. -/
@[match_pattern] abbrev at1 (x : α₁) : α₀ ⊕ α₁ ⊕ β := .inr (at0 x)

/-- The third case. -/
@[match_pattern] abbrev at2 (x : α₂) : α₀ ⊕ α₁ ⊕ α₂ ⊕ β := .inr (at1 x)

/-- The fourth case. -/
@[match_pattern] abbrev at3 (x : α₃) : α₀ ⊕ α₁ ⊕ α₂ ⊕ α₃ ⊕ β := .inr (at2 x)

/-- The fifth case. -/
@[match_pattern] abbrev at4 (x : α₄) : α₀ ⊕ α₁ ⊕ α₂ ⊕ α₃ ⊕ α₄ ⊕ β := .inr (at3 x)

/-- Four cases on. -/
@[match_pattern] abbrev past4 (x : β) : α₀ ⊕ α₁ ⊕ α₂ ⊕ α₃ ⊕ β := .inr (.inr (.inr (.inr x)))

end Cases

end Adventure
