import Adventure.Entity.Id

/-!
# Arenas

An arena holds the entities of one kind by their identifiers. It is a list in increasing order of
identifiers, so what it lists does not depend on the order in which entities came in.
-/

namespace Adventure

namespace EntityId

variable {kind : EntityKind}

/-- The order of identifiers as numbers. -/
def before (a b : EntityId kind) : Bool := decide (a.uuid.toNat < b.uuid.toNat)

theorem before_iff {a b : EntityId kind} : a.before b = true ↔ a.uuid.toNat < b.uuid.toNat := by
  simp [before]

theorem eq_of_not_before {a b : EntityId kind} (h₁ : a.before b = false) (h₂ : b.before a = false) :
    a = b := by
  cases a; cases b
  simp only [before, decide_eq_false_iff_not, Nat.not_lt] at h₁ h₂
  simp [Uuid.toNat_inj.1 (Nat.le_antisymm h₂ h₁)]

theorem not_before_self (a : EntityId kind) : a.before a = false := by simp [before]

end EntityId

/-- The entities of one kind, in increasing order of their identifiers. -/
structure Arena (kind : EntityKind) (α : Type) where
  entries : List (EntityId kind × α)
  sorted : entries.Pairwise fun x y => x.1.before y.1 = true

namespace Arena

variable {kind : EntityKind} {α : Type}

/-- The arena without entities. -/
def empty : Arena kind α := ⟨[], .nil⟩

instance : Inhabited (Arena kind α) := ⟨empty⟩

/-- The entity with a given identifier. -/
def get? (arena : Arena kind α) (id : EntityId kind) : Option α := arena.entries.lookup id

/-- Whether an entity has the given identifier. -/
def contains (arena : Arena kind α) (id : EntityId kind) : Bool := (arena.get? id).isSome

/-- The identifiers in increasing order. -/
def ids (arena : Arena kind α) : List (EntityId kind) := arena.entries.map (·.1)

/-- The entities in increasing order of their identifiers. -/
def values (arena : Arena kind α) : List α := arena.entries.map (·.2)

/-- How many entities there are. -/
def size (arena : Arena kind α) : Nat := arena.entries.length

/-- The entries with one more, which takes the place of an entry with the same identifier. -/
def insertEntry (id : EntityId kind) (a : α) :
    List (EntityId kind × α) → List (EntityId kind × α)
  | [] => [(id, a)]
  | (id', a') :: rest =>
    if id.before id' then (id, a) :: (id', a') :: rest
    else if id'.before id then (id', a') :: insertEntry id a rest
    else (id, a) :: rest

theorem mem_insertEntry {id : EntityId kind} {a : α} {x : EntityId kind × α} :
    ∀ {entries : List (EntityId kind × α)},
      x ∈ insertEntry id a entries → x = (id, a) ∨ x ∈ entries
  | [], h => by simpa [insertEntry] using h
  | (id', a') :: rest, h => by
    simp only [insertEntry] at h
    split at h
    · simpa using h
    · split at h
      · rcases List.mem_cons.1 h with rfl | h
        · simp
        · rcases mem_insertEntry h with h | h <;> simp [h]
      · rcases List.mem_cons.1 h with h | h <;> simp [h]

theorem sorted_insertEntry {id : EntityId kind} {a : α} :
    ∀ {entries : List (EntityId kind × α)},
      entries.Pairwise (fun x y => x.1.before y.1 = true) →
      (insertEntry id a entries).Pairwise fun x y => x.1.before y.1 = true
  | [], _ => by simp [insertEntry]
  | (id', a') :: rest, h => by
    obtain ⟨h₁, h₂⟩ := List.pairwise_cons.1 h
    simp only [insertEntry]
    split
    · rename_i hb
      refine List.pairwise_cons.2 ⟨fun x hx => ?_, h⟩
      rcases List.mem_cons.1 hx with rfl | hx
      · exact hb
      · have := h₁ x hx
        simp only [EntityId.before_iff] at *
        omega
    · split
      · rename_i hb
        refine List.pairwise_cons.2 ⟨fun x hx => ?_, sorted_insertEntry h₂⟩
        rcases mem_insertEntry hx with rfl | hx
        · exact hb
        · exact h₁ x hx
      · rename_i hb hb'
        have heq : id' = id :=
          EntityId.eq_of_not_before (Bool.eq_false_iff.2 hb') (Bool.eq_false_iff.2 hb)
        subst heq
        exact List.pairwise_cons.2 ⟨h₁, h₂⟩

/-- The arena with an entity put in, in the place of one with the same identifier. -/
def insert (arena : Arena kind α) (id : EntityId kind) (a : α) : Arena kind α :=
  ⟨insertEntry id a arena.entries, sorted_insertEntry arena.sorted⟩

/-- The arena without the entity that has the given identifier. -/
def erase (arena : Arena kind α) (id : EntityId kind) : Arena kind α :=
  ⟨arena.entries.filter fun x => x.1 != id, arena.sorted.filter _⟩

/-- The arena that holds the given entries; of two with one identifier the later one counts. -/
def ofList (entries : List (EntityId kind × α)) : Arena kind α :=
  entries.foldl (fun arena e => arena.insert e.1 e.2) empty

/-! ## Entities by identifier -/

theorem lookup_cons (id id' : EntityId kind) (a : α) (rest : List (EntityId kind × α)) :
    ((id, a) :: rest).lookup id' = if id' = id then some a else rest.lookup id' := by
  by_cases h : id' = id
  · subst h; simp
  · have : (id' == id) = false := by simpa using h
    simp [List.lookup_cons, this, h]

theorem lookup_insertEntry {id id' : EntityId kind} {a : α} :
    ∀ {entries : List (EntityId kind × α)},
      entries.Pairwise (fun x y => x.1.before y.1 = true) →
      (insertEntry id a entries).lookup id' = if id' = id then some a else entries.lookup id'
  | [], _ => by simp [insertEntry, lookup_cons]
  | (id₀, a₀) :: rest, h => by
    obtain ⟨h₁, h₂⟩ := List.pairwise_cons.1 h
    simp only [insertEntry]
    split
    · rw [lookup_cons]
    · rename_i hn
      split
      · rename_i hb
        rw [lookup_cons, lookup_cons, lookup_insertEntry h₂]
        by_cases hi : id' = id
        · subst hi
          have : id' ≠ id₀ := by
            rintro rfl
            simp [EntityId.not_before_self] at hb
          simp [this]
        · simp [hi]
      · rename_i hb'
        have heq : id₀ = id :=
          EntityId.eq_of_not_before (Bool.eq_false_iff.2 hb') (Bool.eq_false_iff.2 hn)
        subst heq
        rw [lookup_cons, lookup_cons]
        by_cases hi : id' = id₀ <;> simp [hi]

theorem insertEntry_of_last {id : EntityId kind} {a : α} :
    ∀ {entries : List (EntityId kind × α)},
      (∀ x ∈ entries, x.1.before id = true) → insertEntry id a entries = entries ++ [(id, a)]
  | [], _ => rfl
  | (id', a') :: rest, h => by
    have h' : id'.before id = true := h (id', a') (by simp)
    have hn : id.before id' = false := by
      simp only [EntityId.before, decide_eq_true_eq, decide_eq_false_iff_not] at h' ⊢
      omega
    have ih := insertEntry_of_last (a := a) fun x (hx : x ∈ rest) => h x (by simp [hx])
    simp [insertEntry, h', hn, ih]

/-- An arena holds what it lists. -/
theorem ofList_entries (arena : Arena kind α) : ofList arena.entries = arena := by
  obtain ⟨entries, sorted⟩ := arena
  suffices h : ∀ (done rest : List (EntityId kind × α)) (hs : (done ++ rest).Pairwise
      fun x y => x.1.before y.1 = true) (hd : done.Pairwise fun x y => x.1.before y.1 = true),
      rest.foldl (fun arena e => arena.insert e.1 e.2) (⟨done, hd⟩ : Arena kind α)
        = ⟨done ++ rest, hs⟩ from h [] entries sorted .nil
  intro done rest
  induction rest generalizing done with
  | nil => intro hs hd; simp
  | cons x rest ih =>
    intro hs hd
    obtain ⟨id, a⟩ := x
    have hlast : ∀ y ∈ done, y.1.before id = true := fun y hy =>
      (List.pairwise_append.1 hs).2.2 y hy (id, a) (by simp)
    have hins : (⟨done, hd⟩ : Arena kind α).insert id a
        = ⟨done ++ [(id, a)], insertEntry_of_last hlast ▸ sorted_insertEntry hd⟩ := by
      simp [insert, insertEntry_of_last hlast]
    rw [List.foldl_cons, hins, ih _ (by simpa using hs)]
    simp only [List.append_assoc, List.singleton_append]

@[simp] theorem get?_empty (id : EntityId kind) : (empty : Arena kind α).get? id = none := rfl

theorem get?_insert (arena : Arena kind α) (id id' : EntityId kind) (a : α) :
    (arena.insert id a).get? id' = if id' = id then some a else arena.get? id' :=
  lookup_insertEntry arena.sorted

@[simp] theorem get?_insert_self (arena : Arena kind α) (id : EntityId kind) (a : α) :
    (arena.insert id a).get? id = some a := by simp [get?_insert]

end Arena

end Adventure
