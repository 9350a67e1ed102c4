import Adventure.Entity.Arena
import Mathlib.Data.List.Nodup

/-!
# Arenas as finite maps

An arena is determined by what `get?` finds in it (`eq_of_get?`): its identifiers occur once each
(`ids_nodup`), it lists what it finds (`mem_values`), and an arena made of entries with distinct
identifiers finds each of them (`get?_ofList`), in whatever order they come in (`ofList_of_perm`).
`map` keeps the identifiers and changes the entities; putting an entity in the place of one that
looks the same under `f` changes nothing of `map f` (`map_insert_of_eq`).
-/

namespace Adventure.Arena

variable {kind : EntityKind} {α β : Type}

/-! ## Entries -/

theorem ids_nodup (arena : Arena kind α) : arena.ids.Nodup := by
  have h := arena.sorted
  refine List.Nodup.of_map EntityId.uuid (List.Nodup.of_map Uuid.toNat ?_)
  simp only [ids, List.map_map, List.Nodup, List.pairwise_map]
  refine h.imp fun hxy heq => ?_
  rw [EntityId.before_iff] at hxy
  simp only [Function.comp_apply] at heq
  omega

/-- Where keys occur once, looking a key up finds the entry with the key. -/
theorem mem_iff_lookup {κ : Type} [BEq κ] [LawfulBEq κ] {k : κ} {a : α} :
    ∀ {entries : List (κ × α)}, (entries.map (·.1)).Nodup →
      ((k, a) ∈ entries ↔ entries.lookup k = some a)
  | [], _ => by simp
  | (k', a') :: rest, hnd => by
    obtain ⟨hnot, hnd⟩ := List.nodup_cons.1 hnd
    rw [List.mem_cons, List.lookup_cons, mem_iff_lookup hnd]
    by_cases hk : k = k'
    · subst hk
      have : rest.lookup k = none := by
        refine List.lookup_eq_none_iff.2 fun y hy => ?_
        have : k ≠ y.1 := fun h => hnot (List.mem_map.2 ⟨y, hy, h.symm⟩)
        simpa using this
      simp [this, eq_comm]
    · have hbeq : (k == k') = false := beq_eq_false_iff_ne.2 hk
      simp [hk, hbeq]

theorem mem_entries {arena : Arena kind α} {id : EntityId kind} {a : α} :
    (id, a) ∈ arena.entries ↔ arena.get? id = some a :=
  mem_iff_lookup arena.ids_nodup

theorem mem_ids {arena : Arena kind α} {id : EntityId kind} :
    id ∈ arena.ids ↔ (arena.get? id).isSome := by
  constructor
  · intro h
    obtain ⟨⟨_, a⟩, hx, rfl⟩ := List.mem_map.1 h
    simp [mem_entries.1 hx]
  · intro h
    obtain ⟨a, ha⟩ := Option.isSome_iff_exists.1 h
    exact List.mem_map.2 ⟨_, mem_entries.2 ha, rfl⟩

theorem mem_values {arena : Arena kind α} {a : α} :
    a ∈ arena.values ↔ ∃ id, arena.get? id = some a := by
  constructor
  · intro h
    obtain ⟨⟨id, _⟩, hx, rfl⟩ := List.mem_map.1 h
    exact ⟨id, mem_entries.1 hx⟩
  · rintro ⟨id, h⟩
    exact List.mem_map.2 ⟨_, mem_entries.2 h, rfl⟩

/-! ## Arenas of entries -/

theorem get?_foldl_insert (entries : List (EntityId kind × α)) (arena : Arena kind α)
    (id : EntityId kind) :
    (entries.foldl (fun arena e => arena.insert e.1 e.2) arena).get? id
      = (entries.reverse.lookup id).or (arena.get? id) := by
  induction entries generalizing arena with
  | nil => simp
  | cons x rest ih =>
    obtain ⟨id', a⟩ := x
    rw [List.foldl_cons, ih, get?_insert, List.reverse_cons, List.lookup_append, lookup_cons]
    by_cases h : id = id' <;> cases rest.reverse.lookup id <;> simp [h]

/-- Of two entries with one identifier the later one counts. -/
theorem get?_ofList_eq (entries : List (EntityId kind × α)) (id : EntityId kind) :
    (ofList entries).get? id = entries.reverse.lookup id := by
  simp [ofList, get?_foldl_insert]

theorem mem_of_get?_ofList {entries : List (EntityId kind × α)} {id : EntityId kind} {a : α}
    (h : (ofList entries).get? id = some a) : (id, a) ∈ entries := by
  rw [get?_ofList_eq] at h
  obtain ⟨before, after, heq, -⟩ := List.lookup_eq_some_iff.1 h
  exact List.mem_reverse.1 (heq ▸ by simp)

theorem isSome_get?_ofList {entries : List (EntityId kind × α)} {id : EntityId kind} :
    ((ofList entries).get? id).isSome ↔ id ∈ entries.map (·.1) := by
  simp [get?_ofList_eq, List.lookup_isSome_iff]

/-- An arena finds each of the entries it was made of if their identifiers are distinct. -/
theorem get?_ofList {entries : List (EntityId kind × α)} (hnd : (entries.map (·.1)).Nodup)
    {id : EntityId kind} {a : α} : (ofList entries).get? id = some a ↔ (id, a) ∈ entries := by
  refine ⟨mem_of_get?_ofList, fun h => ?_⟩
  have hsome : ((ofList entries).get? id).isSome :=
    isSome_get?_ofList.2 (List.mem_map.2 ⟨_, h, rfl⟩)
  obtain ⟨b, hb⟩ := Option.isSome_iff_exists.1 hsome
  have := List.inj_on_of_nodup_map hnd (mem_of_get?_ofList hb) h rfl
  simp_all

/-- Arenas in which the same entities are found are the same. -/
theorem eq_of_get? {arena other : Arena kind α} (h : ∀ id, arena.get? id = other.get? id) :
    arena = other := by
  have hperm : arena.entries.Perm other.entries := by
    refine (List.perm_ext_iff_of_nodup (.of_map _ arena.ids_nodup) (.of_map _ other.ids_nodup)).2 ?_
    rintro ⟨id, a⟩
    rw [mem_entries, mem_entries, h]
  have hentries : arena.entries = other.entries := by
    refine hperm.eq_of_pairwise (fun x y _ _ hxy hyx => ?_) arena.sorted other.sorted
    rw [EntityId.before_iff] at hxy hyx
    omega
  cases arena
  cases other
  cases hentries
  rfl

/-- The order in which an arena's entries come in does not matter. -/
theorem ofList_of_perm {arena : Arena kind α} {entries : List (EntityId kind × α)}
    (h : entries.Perm arena.entries) : ofList entries = arena := by
  have hnd : (entries.map (·.1)).Nodup := (h.map _).nodup_iff.2 arena.ids_nodup
  refine eq_of_get? fun id => Option.ext fun a => ?_
  rw [get?_ofList hnd, h.mem_iff, mem_entries]

/-! ## Changing all entities -/

/-- The arena with every entity changed. -/
def map (f : α → β) (arena : Arena kind α) : Arena kind β :=
  ⟨arena.entries.map fun e => (e.1, f e.2), by simpa [List.pairwise_map] using arena.sorted⟩

@[simp] theorem get?_map (f : α → β) (arena : Arena kind α) (id : EntityId kind) :
    (arena.map f).get? id = (arena.get? id).map f := by
  simp only [get?, map]
  induction arena.entries with
  | nil => simp
  | cons x rest ih =>
    obtain ⟨id', a⟩ := x
    rw [List.map_cons, lookup_cons, lookup_cons, ih]
    by_cases h : id = id' <;> simp [h]

@[simp] theorem ids_map (f : α → β) (arena : Arena kind α) : (arena.map f).ids = arena.ids := by
  simp [ids, map]

theorem map_insertEntry (f : α → β) (id : EntityId kind) (a : α) :
    ∀ entries : List (EntityId kind × α),
      (insertEntry id a entries).map (fun e => (e.1, f e.2))
        = insertEntry id (f a) (entries.map fun e => (e.1, f e.2))
  | [] => rfl
  | (id', a') :: rest => by
    have ih := map_insertEntry f id a rest
    simp only [insertEntry, List.map_cons]
    split
    · simp
    · split <;> simp [ih]

/-- Putting in what is there already changes nothing. -/
theorem insertEntry_of_lookup {id : EntityId kind} {a : α} :
    ∀ {entries : List (EntityId kind × α)},
      entries.Pairwise (fun x y => x.1.before y.1 = true) → entries.lookup id = some a →
      insertEntry id a entries = entries
  | [], _, h => by simp at h
  | (id', a') :: rest, hs, h => by
    obtain ⟨hlt, hs⟩ := List.pairwise_cons.1 hs
    rw [lookup_cons] at h
    by_cases hid : id = id'
    · subst hid
      simp only [if_true, Option.some.injEq] at h
      simp [insertEntry, EntityId.not_before_self, h]
    · rw [if_neg hid] at h
      have hmem : (id, a) ∈ rest := by
        obtain ⟨before, after, heq, -⟩ := List.lookup_eq_some_iff.1 h
        exact heq ▸ by simp
      have hb : id'.before id = true := hlt _ hmem
      have hn : id.before id' = false := by
        simp only [EntityId.before, decide_eq_true_eq, decide_eq_false_iff_not] at hb ⊢
        omega
      simp [insertEntry, hb, hn, insertEntry_of_lookup hs h]

/-- An entity that looks like the one in whose place it is put does not change the looks of the
arena. -/
theorem map_insert_of_eq {f : α → β} {arena : Arena kind α} {id : EntityId kind} {a b : α}
    (ha : arena.get? id = some a) (hb : f b = f a) :
    (arena.insert id b).map f = arena.map f := by
  simp only [map, insert, mk.injEq]
  rw [map_insertEntry, hb]
  have h : (arena.map f).get? id = some (f a) := by simp [ha]
  exact insertEntry_of_lookup (arena.map f).sorted h

end Adventure.Arena
