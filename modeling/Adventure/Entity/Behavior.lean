import Adventure.Entity.Id

/-!
# Behaviors of objects

What happens when the player inspects an object, uses it, talks to it or uses it with another
object. A behavior has texts, phrasings of its own and actions that it triggers. It refers to
other entities by `Ref`: an author writes symbols, a running world has identifiers.
-/

namespace Adventure

/-- What an object shows when it is inspected. -/
structure Inspection (Ref : EntityKind → Type) where
  text : Option String := none
  phrasings : List String := []
  actions : List (Ref .action) := []

/-- What happens when an object is used by itself. -/
structure Usage (Ref : EntityKind → Type) where
  enabled : Bool := false
  forbiddenText : Option String := none
  successText : Option String := none
  phrasings : List String := []
  actions : List (Ref .action) := []

/-- What happens when a person is talked to. -/
structure Talk (Ref : EntityKind → Type) where
  enabled : Bool := true
  forbiddenText : Option String := none
  conversation : Option (Ref .conversation) := none
  phrasings : List String := []
  actions : List (Ref .action) := []

/-- What happens when an inventory item is used with a partner. -/
structure Interaction (Ref : EntityKind → Type) (Partner : Type) where
  partner : Partner
  enabled : Bool := true
  forbiddenText : Option String := none
  successText : Option String := none
  phrasings : List String := []
  actions : List (Ref .action) := []

variable {Ref Ref' : EntityKind → Type} {Partner Partner' : Type}

/-- The behavior with other references and phrasings. -/
def Inspection.map (ref : ∀ {k}, Ref k → Ref' k) (phrasing : String → String)
    (b : Inspection Ref) : Inspection Ref' :=
  ⟨b.text, b.phrasings.map phrasing, b.actions.map ref⟩

/-- The behavior with other references and phrasings. -/
def Usage.map (ref : ∀ {k}, Ref k → Ref' k) (phrasing : String → String) (b : Usage Ref) :
    Usage Ref' :=
  ⟨b.enabled, b.forbiddenText, b.successText, b.phrasings.map phrasing, b.actions.map ref⟩

/-- The behavior with other references and phrasings. -/
def Talk.map (ref : ∀ {k}, Ref k → Ref' k) (phrasing : String → String) (b : Talk Ref) :
    Talk Ref' :=
  ⟨b.enabled, b.forbiddenText, b.conversation.map ref, b.phrasings.map phrasing,
   b.actions.map ref⟩

/-- The behavior with other references, partner and phrasings. -/
def Interaction.map (ref : ∀ {k}, Ref k → Ref' k) (partner : Partner → Partner')
    (phrasing : String → String) (b : Interaction Ref Partner) : Interaction Ref' Partner' :=
  ⟨partner b.partner, b.enabled, b.forbiddenText, b.successText, b.phrasings.map phrasing,
   b.actions.map ref⟩

end Adventure
