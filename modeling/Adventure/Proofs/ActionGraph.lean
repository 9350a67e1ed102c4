import Adventure.Proofs.Frames

/-!
# Actions that contain actions

An action contains the actions that it is made up of, and reaches those that these reach in turn.
Where all actions that it reaches exist and none of them contains itself (`Cascading`), a walk that
starts there meets no action twice on its path, so the number of actions bounds its depth
(`Path.length_lt`). Whatever walks through the actions with this bound is reasoned about by one
induction (`Path.induction`). The actions at the ends of all walks make up a list (`leaves_eq`). A
cascading action has finitely many walks (`Finite`), which is how a cascade is built up from its
parts. All this depends only on the skeleton of the world.
-/

namespace Adventure.World

open Relation

/-- The actions that the action with a given identifier contains, if it is made up of others. -/
def partsOf (w : World) (id : EntityId .action) : Option (List (EntityId .action)) :=
  (w.get? id).bind Action.parts?

/-- The first action is made up of others, and the second is one of them. -/
def Contains (w : World) (a b : EntityId .action) : Prop :=
  ∃ parts, w.partsOf a = some parts ∧ b ∈ parts

/-- The second action is the first one or is contained in one that the first one reaches. -/
def Reaches (w : World) : EntityId .action → EntityId .action → Prop := ReflTransGen w.Contains

/-- All actions that an action reaches exist, and none of them contains itself, not even through
others. -/
structure Cascading (w : World) (id : EntityId .action) : Prop where
  found : ∀ a, w.Reaches id a → ∃ action, w.get? a = some action
  acyclic : ∀ a, w.Reaches id a → ¬TransGen w.Contains a a

theorem partsOf_of_get? {w : World} {id : EntityId .action} {action : Action}
    (h : w.get? id = some action) : w.partsOf id = action.parts? := by
  simp [partsOf, h]

/-- An action that contains others exists. -/
theorem Contains.exists_container {w : World} {a b : EntityId .action} (h : w.Contains a b) :
    ∃ action, w.get? a = some action := by
  obtain ⟨parts, hparts, -⟩ := h
  obtain ⟨action, haction, -⟩ := Option.bind_eq_some_iff.1 hparts
  exact ⟨action, haction⟩

namespace Cascading

variable {w : World} {id : EntityId .action}

theorem of_contains {part : EntityId .action} (h : w.Cascading id) (hp : w.Contains id part) :
    w.Cascading part where
  found a ha := h.found a (.head hp ha)
  acyclic a ha := h.acyclic a (.head hp ha)

theorem get? (h : w.Cascading id) : ∃ action, w.get? id = some action := h.found id .refl

end Cascading

/-! ## The graph and the skeleton -/

section
variable {w w' : World}

theorem partsOf_of_sameSkeleton (h : SameSkeleton w w') (id : EntityId .action) :
    w'.partsOf id = w.partsOf id := by
  have hmap : (w'.get? id).map (frame .action) = (w.get? id).map (frame .action) := by
    rw [← get?_skeleton, ← get?_skeleton, h]
  rw [partsOf, partsOf]
  cases hw : w.get? id with
  | none =>
    rw [hw, Option.map_none, Option.map_eq_none_iff] at hmap
    rw [hmap]
  | some action =>
    rw [hw, Option.map_some] at hmap
    obtain ⟨action', haction', heq⟩ := Option.map_eq_some_iff.1 hmap
    rw [haction']
    exact parts?_of_frame_eq heq

theorem contains_of_sameSkeleton (h : SameSkeleton w w') : w'.Contains = w.Contains := by
  funext a b
  rw [Contains, Contains, partsOf_of_sameSkeleton h]

/-- An action has the parts that it had in any other world of the skeleton. -/
theorem partsOf_of_get?_of_sameSkeleton (h : SameSkeleton w w') {id : EntityId .action}
    {action : Action} (haction : w'.get? id = some action) : w.partsOf id = action.parts? := by
  rw [← partsOf_of_sameSkeleton h, partsOf_of_get? haction]

theorem isSome_of_sameSkeleton {kind : EntityKind} (h : SameSkeleton w w') (id : EntityId kind) :
    (w'.get? id).isSome = (w.get? id).isSome :=
  isSome_of_view_eq (congrArg Skeleton.entities h) id

theorem Cascading.of_sameSkeleton (h : SameSkeleton w w') {id : EntityId .action}
    (hc : w.Cascading id) : w'.Cascading id where
  found a ha := by
    rw [Reaches, contains_of_sameSkeleton h] at ha
    have := isSome_of_sameSkeleton h a
    obtain ⟨action, haction⟩ := hc.found a ha
    rwa [haction, Option.isSome_some, Option.isSome_iff_exists] at this
  acyclic a ha := by
    rw [Reaches, contains_of_sameSkeleton h] at ha
    rw [contains_of_sameSkeleton h]
    exact hc.acyclic a ha

end

/-! ## Paths -/

/-- A path that a walk has taken to an action: existing actions, none twice, each of which contains
the action through others. The newest comes first. -/
structure Path (w : World) (path : List (EntityId .action)) (id : EntityId .action) : Prop where
  nodup : path.Nodup
  found : ∀ a ∈ path, a ∈ w.actions.ids
  leads : ∀ a ∈ path, TransGen w.Contains a id

namespace Path

variable {w : World} {path : List (EntityId .action)} {id : EntityId .action}

theorem nil : w.Path [] id := ⟨.nil, by simp, by simp⟩

theorem not_mem (h : w.Path path id) (hc : w.Cascading id) : id ∉ path :=
  fun hm => hc.acyclic id .refl (h.leads id hm)

theorem contains_eq_false (h : w.Path path id) (hc : w.Cascading id) :
    path.contains id = false := by
  simpa using h.not_mem hc

/-- A walk may go on from where it is unless it has been there before. -/
theorem extend {part : EntityId .action} (h : w.Path path id) (hid : id ∉ path)
    (hp : w.Contains id part) : w.Path (id :: path) part where
  nodup := List.nodup_cons.2 ⟨hid, h.nodup⟩
  found a ha := by
    rcases List.mem_cons.1 ha with rfl | ha
    · exact Arena.mem_ids.2 (Option.isSome_iff_exists.2 hp.exists_container)
    · exact h.found a ha
  leads a ha := by
    rcases List.mem_cons.1 ha with rfl | ha
    · exact .single hp
    · exact (h.leads a ha).tail hp

theorem cons {part : EntityId .action} (h : w.Path path id) (hc : w.Cascading id)
    (hp : w.Contains id part) : w.Path (id :: path) part :=
  h.extend (h.not_mem hc) hp

/-- The number of actions bounds the length of a path. -/
theorem length_lt (h : w.Path path id) : path.length < w.depth := by
  have hle : path.length ≤ w.actions.ids.length :=
    h.nodup.length_le_of_subset h.found
  have hsize : w.actions.ids.length = w.actions.size := by simp [Arena.ids, Arena.size]
  unfold depth
  omega

/-- Induction along the walks. What holds of an action if it holds, with one step less to go, of all
actions that a path leads on to holds wherever as many steps are to go as a path can take: no path
gets as far as the last one. -/
theorem induction {motive : ∀ (depth : Nat) (path : List (EntityId .action))
      (id : EntityId .action), w.Path path id → w.depth ≤ path.length + depth → Prop}
    (step : ∀ depth path id (hpath : w.Path path id)
      (hdepth : w.depth ≤ path.length + (depth + 1)),
      (∀ part (hpart : w.Path (id :: path) part),
        motive depth (id :: path) part hpart (by rw [List.length_cons]; omega)) →
      motive (depth + 1) path id hpath hdepth) :
    ∀ {depth path id} (hpath : w.Path path id) (hdepth : w.depth ≤ path.length + depth),
      motive depth path id hpath hdepth
  | 0, path, id, hpath, hdepth => by
    have := hpath.length_lt
    omega
  | depth + 1, path, id, hpath, hdepth =>
    step depth path id hpath hdepth fun _ hpart => induction step hpart _

end Path

/-! ## Leaves -/

/-- The actions at the ends of all walks of at most `depth` steps, in the order of the walks. -/
def leavesFrom (w : World) : Nat → EntityId .action → List (EntityId .action)
  | 0, _ => []
  | depth + 1, id =>
    match w.partsOf id with
    | some parts => parts.flatMap (w.leavesFrom depth)
    | none => [id]

/-- The actions that are not made up of others and that an action reaches, in the order in which a
walk meets them and as often as it meets them. -/
def leaves (w : World) (id : EntityId .action) : List (EntityId .action) :=
  w.leavesFrom w.depth id

theorem flatMap_congr {α β : Type} {f g : α → List β} {as : List α} (h : ∀ a ∈ as, f a = g a) :
    as.flatMap f = as.flatMap g := by
  rw [List.flatMap, List.flatMap, List.map_congr_left h]

/-- A depth that the walks cannot exceed does not matter. -/
theorem leavesFrom_succ {w : World} {depth : Nat} {path : List (EntityId .action)}
    {id : EntityId .action} (hpath : w.Path path id) (hc : w.Cascading id)
    (hdepth : w.depth ≤ path.length + depth) :
    w.leavesFrom depth id = w.leavesFrom (depth + 1) id := by
  induction hpath, hdepth using Path.induction with
  | step depth path id hpath _ ih =>
    rw [leavesFrom, leavesFrom]
    cases hparts : w.partsOf id with
    | none => rfl
    | some parts =>
      refine flatMap_congr fun part hpart => ?_
      have hcontains : w.Contains id part := ⟨parts, hparts, hpart⟩
      exact ih part (hpath.cons hc hcontains) (hc.of_contains hcontains)

/-- An action that is made up of others has the leaves of these, in their order; any other action
is its own leaf. -/
theorem leaves_eq {w : World} {id : EntityId .action} (hc : w.Cascading id) :
    w.leaves id = match w.partsOf id with
      | some parts => parts.flatMap w.leaves
      | none => [id] := by
  rw [leaves, depth, leavesFrom]
  cases hparts : w.partsOf id with
  | none => rfl
  | some parts =>
    refine flatMap_congr fun part hpart => ?_
    have hcontains : w.Contains id part := ⟨parts, hparts, hpart⟩
    refine leavesFrom_succ (Path.nil.cons hc hcontains) (hc.of_contains hcontains) ?_
    simp [depth, Nat.add_comm]

theorem leavesFrom_of_sameSkeleton {w w' : World} (h : SameSkeleton w w') :
    ∀ (depth : Nat) (id : EntityId .action), w'.leavesFrom depth id = w.leavesFrom depth id
  | 0, _ => rfl
  | depth + 1, id => by
    rw [leavesFrom, leavesFrom, partsOf_of_sameSkeleton h]
    cases w.partsOf id with
    | none => rfl
    | some parts => exact flatMap_congr fun part _ => leavesFrom_of_sameSkeleton h depth part

/-- Neither flags nor anything else that play may change plays a role for the leaves. -/
theorem leaves_of_sameSkeleton {w w' : World} (h : SameSkeleton w w') (id : EntityId .action) :
    w'.leaves id = w.leaves id := by
  rw [leaves, leaves, depth_of_skeleton_eq h, leavesFrom_of_sameSkeleton h]

/-! ## Finite cascades -/

/-- An action with finitely many walks: it exists, and so do the actions that it contains. -/
inductive Finite (w : World) : EntityId .action → Prop
  | single {id : EntityId .action} {action : Action} (found : w.get? id = some action)
      (parts : action.parts? = none) : Finite w id
  | sequence {id : EntityId .action} {action : Action} {parts : List (EntityId .action)}
      (found : w.get? id = some action) (heq : action.parts? = some parts)
      (finite : ∀ part ∈ parts, Finite w part) : Finite w id

namespace Finite

variable {w : World} {id : EntityId .action}

theorem get? (h : w.Finite id) : ∃ action, w.get? id = some action := by
  cases h with
  | single found | sequence found => exact ⟨_, found⟩

theorem of_contains {part : EntityId .action} (h : w.Finite id) (hp : w.Contains id part) :
    w.Finite part := by
  obtain ⟨parts, hparts, hmem⟩ := hp
  cases h with
  | single found heq => rw [partsOf_of_get? found, heq] at hparts; cases hparts
  | sequence found heq finite =>
    rw [partsOf_of_get? found, heq, Option.some.injEq] at hparts
    exact finite part (hparts ▸ hmem)

theorem of_reaches {a : EntityId .action} (h : w.Finite id) (ha : w.Reaches id a) : w.Finite a := by
  induction ha with
  | refl => exact h
  | tail _ hcontains ih => exact ih.of_contains hcontains

theorem acc (h : w.Finite id) : Acc (fun b a => w.Contains a b) id := by
  induction h with
  | single found heq =>
    refine ⟨_, fun b hb => ?_⟩
    obtain ⟨parts, hparts, -⟩ := hb
    rw [partsOf_of_get? found, heq] at hparts
    cases hparts
  | sequence found heq _ ih =>
    refine ⟨_, fun b hb => ?_⟩
    obtain ⟨parts, hparts, hmem⟩ := hb
    rw [partsOf_of_get? found, heq, Option.some.injEq] at hparts
    exact ih b (hparts ▸ hmem)

theorem not_self (h : w.Finite id) : ¬TransGen w.Contains id id := by
  intro hcycle
  have hacc : Acc (TransGen fun b a => w.Contains a b) id := h.acc.transGen
  rw [← transGen_swap] at hcycle
  clear h
  induction hacc with
  | intro a _ ih => exact ih a hcycle hcycle

theorem cascading (h : w.Finite id) : w.Cascading id where
  found _ ha := (h.of_reaches ha).get?
  acyclic _ ha := (h.of_reaches ha).not_self

end Finite

end Adventure.World
