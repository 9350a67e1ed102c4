import Adventure.Proofs.Flags
import Adventure.Proofs.GraphFaults

/-!
# Walks through the graph of actions

Triggering an action and setting its flag are walks of one kind. A walk does a step at each action
that it meets, goes on to the parts of the action, and turns back where it meets an action on its
own path. `Walk` lays down how such a walk goes without any bound on its depth. As long as its steps
do not touch the graph, a walk always ends, and in one way only: the bound that the definitions
carry is never reached, since no path is longer than there are actions (`walk_iff`).

A walk that ends well has met all that it could reach, so none of these actions contains itself
(`Walk.finite`). A walk that turns back has found a cycle (`Walk.graphFault`).
-/

namespace Adventure

open World Steps Relation

variable {σ : Type} {world : σ → World}
  {step : EntityId .action → World.Action → Steps σ Unit}

/-! ## Walks without a bound -/

/-- A walk meets an action. If the action is on the path that has led there, or does not exist, the
walk fails; otherwise it does a step and is left with the parts of the action. -/
def meet (world : σ → World) (step : EntityId .action → World.Action → Steps σ Unit)
    (path : List (EntityId .action)) (id : EntityId .action) :
    Steps σ (List (EntityId .action)) := fun s =>
  if id ∈ path then (.error ((world s).cycle id), s)
  else match (world s).get? id with
    | none => (.error (.unknownEntity .action id.uuid), s)
    | some action => (do step id action; return action.parts?.getD []) s

/-- A walk from some actions, one after the other, and what it comes to. `path` leads to them. -/
inductive Walk (world : σ → World) (step : EntityId .action → World.Action → Steps σ Unit) :
    List (EntityId .action) → List (EntityId .action) → σ → Except Failure Unit → σ → Prop
  | done {path : List (EntityId .action)} {s : σ} : Walk world step path [] s (.ok ()) s
  /-- The walk fails at the first action. -/
  | stopped {path ids : List (EntityId .action)} {id : EntityId .action} {failure : Failure}
      {s s₁ : σ} (meets : meet world step path id s = (.error failure, s₁)) :
      Walk world step path (id :: ids) s (.error failure) s₁
  /-- The walk fails among the parts of the first action. -/
  | inside {path ids parts : List (EntityId .action)} {id : EntityId .action} {failure : Failure}
      {s s₁ s₂ : σ} (meets : meet world step path id s = (.ok parts, s₁))
      (inner : Walk world step (id :: path) parts s₁ (.error failure) s₂) :
      Walk world step path (id :: ids) s (.error failure) s₂
  /-- The walk comes back from the parts of the first action and goes on to the other actions. -/
  | onward {path ids parts : List (EntityId .action)} {id : EntityId .action}
      {r : Except Failure Unit} {s s₁ s₂ s₃ : σ}
      (meets : meet world step path id s = (.ok parts, s₁))
      (inner : Walk world step (id :: path) parts s₁ (.ok ()) s₂)
      (rest : Walk world step path ids s₂ r s₃) : Walk world step path (id :: ids) s r s₃

namespace Walk

variable {path ids parts : List (EntityId .action)} {id : EntityId .action} {s s₁ s₂ : σ}
  {r : Except Failure Unit}

/-- A walk comes to one thing only. -/
theorem unique (h : Walk world step path ids s r s₁) :
    ∀ {r' : Except Failure Unit} {s' : σ}, Walk world step path ids s r' s' →
      r' = r ∧ s' = s₁ := by
  induction h with
  | done =>
    rintro r' s' ⟨⟩
    exact ⟨rfl, rfl⟩
  | stopped meets =>
    intro r' s' h'
    cases h' with
    | stopped meets' =>
      cases meets.symm.trans meets'
      exact ⟨rfl, rfl⟩
    | inside meets' | onward meets' => cases meets.symm.trans meets'
  | inside meets _ ih =>
    intro r' s' h'
    cases h' with
    | stopped meets' => cases meets.symm.trans meets'
    | inside meets' inner =>
      cases meets.symm.trans meets'
      exact ih inner
    | onward meets' inner =>
      cases meets.symm.trans meets'
      cases (ih inner).1
  | onward meets _ _ ihinner ihrest =>
    intro r' s' h'
    cases h' with
    | stopped meets' => cases meets.symm.trans meets'
    | inside meets' inner =>
      cases meets.symm.trans meets'
      cases (ihinner inner).1
    | onward meets' inner rest =>
      cases meets.symm.trans meets'
      obtain ⟨-, rfl⟩ := ihinner inner
      exact ihrest rest

/-- A walk from one action goes through its parts. -/
theorem single (meets : meet world step path id s = (.ok parts, s₁))
    (inner : Walk world step (id :: path) parts s₁ r s₂) :
    Walk world step path [id] s r s₂ := by
  cases r with
  | ok => exact .onward meets inner .done
  | error failure => exact .inside meets inner

theorem cons_ok (h : Walk world step path [id] s (.ok ()) s₁)
    (h' : Walk world step path ids s₁ r s₂) : Walk world step path (id :: ids) s r s₂ := by
  cases h with
  | onward meets inner rest =>
    cases rest with
    | done => exact .onward meets inner h'

theorem cons_error {failure : Failure} (h : Walk world step path [id] s (.error failure) s₁) :
    Walk world step path (id :: ids) s (.error failure) s₁ := by
  cases h with
  | stopped meets => exact .stopped meets
  | inside meets inner => exact .inside meets inner
  | onward meets inner rest => cases rest

end Walk

/-! ## What a walk meets -/

section
variable {path parts : List (EntityId .action)} {id : EntityId .action} {s s₁ : σ}

theorem of_meet_ok (h : meet world step path id s = (.ok parts, s₁)) :
    id ∉ path ∧ ∃ action, (world s).get? id = some action ∧ step id action s = (.ok (), s₁) ∧
      parts = action.parts?.getD [] := by
  unfold meet at h
  split at h
  · cases h
  · rename_i hnew
    split at h
    · cases h
    · rename_i action hfound
      obtain ⟨_, s', hstep, hparts⟩ := ok_of_bind h
      cases hparts
      exact ⟨hnew, action, hfound, hstep, rfl⟩

theorem of_meet_error {failure : Failure} (h : meet world step path id s = (.error failure, s₁)) :
    (id ∈ path ∧ failure = (world s).cycle id) ∨
    ((world s).get? id = none ∧ failure = .unknownEntity .action id.uuid) ∨
    ∃ action, (world s).get? id = some action ∧ step id action s = (.error failure, s₁) := by
  unfold meet at h
  split at h
  · rename_i hmet
    cases h
    exact .inl ⟨hmet, rfl⟩
  · split at h
    · rename_i hmissing
      cases h
      exact .inr (.inl ⟨hmissing, rfl⟩)
    · rename_i action hfound
      rcases hstep : step id action s with ⟨failure' | _, s'⟩
      · rw [bind_of_error hstep] at h
        cases h
        exact .inr (.inr ⟨action, hfound, hstep⟩)
      · rw [bind_of_ok hstep] at h
        cases h

end

/-! ## Walks with a bound -/

/-- A walk that gives up at a certain depth. -/
def walkWithin (world : σ → World) (step : EntityId .action → World.Action → Steps σ Unit) :
    Nat → List (EntityId .action) → EntityId .action → Steps σ Unit
  | 0, _, id => fun s => (.error ((world s).cycle id), s)
  | depth + 1, path, id => do
    (← meet world step path id).forM (walkWithin world step depth (id :: path))

/-- No step of a walk touches the skeleton of the world. -/
def SkeletonKept (world : σ → World) (step : EntityId .action → World.Action → Steps σ Unit) :
    Prop :=
  ∀ id action s, SameSkeleton (world s) (world (step id action s).2)

section
variable {base : World} {path parts : List (EntityId .action)} {id : EntityId .action} {s s₁ : σ}

theorem sameSkeleton_meet {r : Except Failure (List (EntityId .action))}
    (hkept : SkeletonKept world step) (meets : meet world step path id s = (r, s₁)) :
    SameSkeleton (world s) (world s₁) := by
  rw [show s₁ = (meet world step path id s).2 from (congrArg Prod.snd meets).symm]
  unfold meet
  split
  · exact refl_of SameSkeleton (world s)
  · split
    · exact refl_of SameSkeleton (world s)
    · rename_i action _
      rcases hstep : step id action s with ⟨failure | _, s₁⟩
      · rw [bind_of_error hstep]
        simpa [hstep] using hkept id action s
      · rw [bind_of_ok hstep]
        simpa [hstep] using hkept id action s

/-- What a walk meets is part of the graph as it was at the beginning. -/
theorem Walk.path_of_meet (hbase : SameSkeleton base (world s)) (hpath : base.Path path id)
    (meets : meet world step path id s = (.ok parts, s₁)) :
    ∀ part ∈ parts, base.Path (id :: path) part := by
  obtain ⟨hnew, action, haction, -, rfl⟩ := of_meet_ok meets
  intro part hpart
  cases hparts : action.parts? with
  | none => simp [hparts] at hpart
  | some parts =>
    rw [hparts, Option.getD_some] at hpart
    exact hpath.extend hnew (Edit.contains_of_parts hbase haction hparts hpart)

/-- A walk does not touch the skeleton of the world. -/
theorem Walk.sameSkeleton {ids : List (EntityId .action)} {r : Except Failure Unit}
    (hkept : SkeletonKept world step) (h : Walk world step path ids s r s₁) :
    SameSkeleton (world s) (world s₁) := by
  induction h with
  | done => exact refl_of SameSkeleton _
  | stopped meets => exact sameSkeleton_meet hkept meets
  | inside meets _ ih => exact trans_of SameSkeleton (sameSkeleton_meet hkept meets) ih
  | onward meets _ _ ihinner ihrest =>
    have hs₂ := trans_of SameSkeleton (sameSkeleton_meet hkept meets) ihinner
    exact trans_of SameSkeleton hs₂ ihrest

/-- Walks from single actions make up a walk from all of them. -/
theorem walk_forM (hkept : SkeletonKept world step) {f : EntityId .action → Steps σ Unit} :
    ∀ {ids : List (EntityId .action)}, (∀ id ∈ ids, ∀ s, SameSkeleton base (world s) →
        Walk world step path [id] s (f id s).1 (f id s).2) →
      ∀ s, SameSkeleton base (world s) →
        Walk world step path ids s (ids.forM f s).1 (ids.forM f s).2
  | [], _, _, _ => .done
  | id :: ids, h, s, hs => by
    have hfirst := h id (by simp) s hs
    rw [List.forM_eq_forM, List.forM_cons]
    rcases heq : f id s with ⟨failure | _, s₁⟩
    · rw [heq] at hfirst
      rw [bind_of_error heq]
      exact hfirst.cons_error
    · rw [heq] at hfirst
      rw [bind_of_ok heq]
      have hs₁ := trans_of SameSkeleton hs (hfirst.sameSkeleton hkept)
      exact hfirst.cons_ok (walk_forM hkept (fun id' hid' => h id' (by simp [hid'])) s₁ hs₁)

/-- A walk with a bound that its path cannot exceed is a walk. -/
theorem walk_of_walkWithin (hkept : SkeletonKept world step) {depth : Nat}
    {path : List (EntityId .action)} {id : EntityId .action} (hpath : base.Path path id)
    (hdepth : base.depth ≤ path.length + depth) : ∀ s, SameSkeleton base (world s) →
      Walk world step path [id] s
        (walkWithin world step depth path id s).1 (walkWithin world step depth path id s).2 := by
  induction hpath, hdepth using Path.induction with
  | step depth path id hpath _ ih =>
    intro s hs
    rw [walkWithin]
    rcases meets : meet world step path id s with ⟨failure | parts, s₁⟩
    · rw [bind_of_error meets]
      exact .stopped meets
    · rw [bind_of_ok meets]
      have hs₁ := trans_of SameSkeleton hs (sameSkeleton_meet hkept meets)
      refine .single meets (walk_forM hkept (fun part hpart => ?_) s₁ hs₁)
      exact ih part (Walk.path_of_meet hs hpath meets part hpart)

/-- A walk always ends, and the bound on its depth plays no part in what it comes to. -/
theorem walk_iff (hkept : SkeletonKept world step) {r : Except Failure Unit} :
    Walk world step [] [id] s r s₁ ↔ walkWithin world step (world s).depth [] id s = (r, s₁) := by
  have hpath : (world s).Path [] id := .nil
  have hwalk := walk_of_walkWithin hkept hpath (Nat.le_add_left _ _) s (refl_of SameSkeleton _)
  constructor
  · intro h
    obtain ⟨hr, hs⟩ := h.unique hwalk
    exact Prod.ext hr hs
  · intro h
    rwa [h] at hwalk

/-! ## Walks and cycles -/

/-- A walk that ends well has met all that it could reach. -/
theorem Walk.finite {ids : List (EntityId .action)} {r : Except Failure Unit}
    (hkept : SkeletonKept world step) (h : Walk world step path ids s r s₁) :
    r = .ok () → SameSkeleton base (world s) → ∀ id ∈ ids, base.Finite id := by
  induction h with
  | done => simp
  | stopped | inside => nofun
  | @onward path ids parts id r s s₁ s₂ s₃ meets inner rest ihinner ihrest =>
    intro hr hs
    have hs₁ := trans_of SameSkeleton hs (sameSkeleton_meet hkept meets)
    have hparts := ihinner rfl hs₁
    have hrest := ihrest hr (trans_of SameSkeleton hs₁ (inner.sameSkeleton hkept))
    obtain ⟨-, action, haction, -, rfl⟩ := of_meet_ok meets
    obtain ⟨action₀, haction₀, hframe⟩ := get?_of_view_eq (congrArg Skeleton.entities hs) haction
    have hparts₀ : action₀.parts? = action.parts? := (parts?_of_frame_eq hframe).symm
    have hfirst : base.Finite id := by
      cases heq : action.parts? with
      | none => exact .single haction₀ (hparts₀.trans heq)
      | some parts =>
        refine .sequence haction₀ (hparts₀.trans heq) fun part hpart => hparts part ?_
        rwa [heq]
    intro id' hid'
    rcases List.mem_cons.1 hid' with rfl | hid'
    · exact hfirst
    · exact hrest id' hid'

/-- What is wrong with the graph does not change with what the skeleton hides. -/
theorem World.GraphFault.of_sameSkeleton {w w' : World} {failure : Failure}
    (h : SameSkeleton w w') (hfault : w'.GraphFault failure) : w.GraphFault failure := by
  cases hfault with
  | @cyclic id action found cycle =>
    obtain ⟨action₀, found₀, hframe⟩ := get?_of_view_eq (congrArg Skeleton.entities h) found
    have hsymbol := congrArg Action.symbol hframe
    rw [show Action.symbol action = Action.symbol action₀ from hsymbol]
    rw [contains_of_sameSkeleton h] at cycle
    exact .cyclic found₀ cycle
  | @missing id part contains missing =>
    rw [contains_of_sameSkeleton h] at contains
    have hnone := isSome_of_sameSkeleton h part
    rw [missing, Option.isSome_none, eq_comm, Option.isSome_eq_false_iff,
      Option.isNone_iff_eq_none] at hnone
    exact .missing contains hnone

/-- A step that reports a cycle does so where there is one. -/
def Truthful (world : σ → World) {α : Type} (m : Steps σ α) : Prop :=
  ∀ s symbol s', m s = (.error (.cyclicActions symbol), s') →
    (world s).GraphFault (.cyclicActions symbol)

/-- A walk that turns back has found a cycle. -/
theorem Walk.graphFault {ids : List (EntityId .action)} {r : Except Failure Unit} {symbol : String}
    (hkept : SkeletonKept world step) (htruthful : ∀ id action, Truthful world (step id action))
    (h : Walk world step path ids s r s₁) :
    r = .error (.cyclicActions symbol) → SameSkeleton base (world s) →
      (∀ id ∈ ids, base.Path path id) → base.GraphFault (.cyclicActions symbol) := by
  induction h with
  | done => nofun
  | @stopped path ids id failure s s₁ meets =>
    intro hr hs hpaths
    cases hr
    refine .of_sameSkeleton hs ?_
    obtain ⟨hback, hcycle⟩ | ⟨-, hmissing⟩ | ⟨action, -, hstep⟩ := of_meet_error meets
    · -- the path leads from the action back to it
      have hleads : TransGen (world s).Contains id id := by
        rw [contains_of_sameSkeleton hs]
        exact (hpaths id (by simp)).leads id hback
      obtain ⟨part, hfirst, -⟩ := TransGen.head'_iff.1 hleads
      obtain ⟨action, haction⟩ := Contains.exists_container hfirst
      rw [hcycle, cycle, haction]
      exact .cyclic haction hleads
    · cases hmissing
    · exact htruthful id action s symbol s₁ hstep
  | @inside path ids parts id failure s s₁ s₂ meets _ ih =>
    intro hr hs hpaths
    exact ih hr (trans_of SameSkeleton hs (sameSkeleton_meet hkept meets))
      (Walk.path_of_meet hs (hpaths id (by simp)) meets)
  | @onward path ids parts id r s s₁ s₂ s₃ meets inner rest _ ihrest =>
    intro hr hs hpaths
    have hs₁ := trans_of SameSkeleton hs (sameSkeleton_meet hkept meets)
    have hs₂ := trans_of SameSkeleton hs₁ (inner.sameSkeleton hkept)
    exact ihrest hr hs₂ fun id' hid' => hpaths id' (by simp [hid'])

end

end Adventure
