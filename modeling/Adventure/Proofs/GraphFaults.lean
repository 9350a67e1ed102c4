import Adventure.Proofs.CycleCheck

/-!
# What the search for cycles reports

The search keeps to the truth: the failure that it stops with names an action that contains itself
or a missing one that another contains (`visit_error`). Its bound on the depth of walks plays no
part in this. A walk turns back where it meets an action on its own path, so it never gets as deep
as the bound (`visit_of_le`), and the search is the same with any larger one.
-/

namespace Adventure.World

open Relation

variable {w : World}

/-- A failure that says what is wrong with the graph of actions. -/
inductive GraphFault (w : World) : Failure → Prop
  /-- The named action contains itself, directly or through others. -/
  | cyclic {id : EntityId .action} {action : Action} (found : w.get? id = some action)
      (cycle : TransGen w.Contains id id) : GraphFault w (.cyclicActions action.symbol)
  /-- An existing action contains the missing one. -/
  | missing {id part : EntityId .action} (contains : w.Contains id part)
      (missing : w.get? part = none) : GraphFault w (.unknownEntity .action part.uuid)

/-- The search with another bound on the depth of walks. -/
def checkWithin (w : World) (depth : Nat) : Except Failure Unit := do
  let _ ← w.actions.ids.foldlM (fun clear id => w.visit depth [] clear id) []

/-- What a walk does with an action that is neither cleared nor on its path. -/
theorem visit_new {depth : Nat} {path clear : List (EntityId .action)} {id : EntityId .action}
    (hclear : id ∉ clear) (hpath : id ∉ path) :
    w.visit (depth + 1) path clear id = match w.get? id with
      | none => .error (.unknownEntity .action id.uuid)
      | some action => match action.parts? with
        | none => .ok (id :: clear)
        | some parts => do
          let clear ← parts.foldlM (fun clear part => w.visit depth (id :: path) clear part) clear
          return id :: clear := by
  rw [visit, if_neg (by simpa using hclear), if_neg (by simpa using hpath)]
  cases haction : w.get? id with
  | none =>
    simp only [find, haction]
    rfl
  | some action =>
    rw [find_of_get? haction]
    rfl

/-! ## The bound -/

/-- Two ways to go on from an action agree on lists if they agree on each action. -/
theorem foldlM_congr
    {f g : List (EntityId .action) → EntityId .action →
      Except Failure (List (EntityId .action))} :
    ∀ {ids : List (EntityId .action)}, (∀ id ∈ ids, ∀ clear, f clear id = g clear id) →
      ∀ clear, ids.foldlM f clear = ids.foldlM g clear
  | [], _, _ => rfl
  | id :: ids, h, clear => by
    rw [List.foldlM_cons, List.foldlM_cons, h id (by simp) clear]
    exact bind_congr fun clear => foldlM_congr (fun id' hid' => h id' (by simp [hid'])) clear

/-- A depth that the path cannot exceed does not matter. -/
theorem visit_succ {depth : Nat} {path : List (EntityId .action)} {id : EntityId .action}
    (hpath : w.Path path id) (hdepth : w.depth ≤ path.length + depth) :
    ∀ clear, w.visit depth path clear id = w.visit (depth + 1) path clear id := by
  induction hpath, hdepth using Path.induction with
  | step depth path id hpath _ ih =>
    intro clear
    by_cases hclear : id ∈ clear
    · simp [visit, hclear]
    by_cases hid : id ∈ path
    · simp [visit, hclear, hid]
    rw [visit_new hclear hid, visit_new hclear hid]
    cases haction : w.get? id with
    | none => rfl
    | some action =>
      cases hparts : action.parts? with
      | none => simp [hparts]
      | some parts =>
        have hvisits : ∀ part ∈ parts, ∀ clear, w.visit depth (id :: path) clear part
            = w.visit (depth + 1) (id :: path) clear part := fun part hpart clear => by
          have hcontains : w.Contains id part :=
            ⟨parts, (partsOf_of_get? haction).trans hparts, hpart⟩
          exact ih part (hpath.extend hid hcontains) clear
        simp only [hparts, foldlM_congr hvisits]

/-- A walk that starts anew never gets as deep as the bound. -/
theorem visit_of_le {depth : Nat} (hdepth : w.depth ≤ depth) (clear : List (EntityId .action))
    (id : EntityId .action) : w.visit depth [] clear id = w.visit w.depth [] clear id := by
  induction hdepth with
  | refl => rfl
  | step hle ih => rw [← visit_succ .nil (by simpa using hle), ih]

/-! ## Reports -/

/-- If the search stops in a list, it does so at one of its actions. -/
theorem exists_error_of_foldlM
    {f : List (EntityId .action) → EntityId .action → Except Failure (List (EntityId .action))}
    {failure : Failure} :
    ∀ {ids clear : List (EntityId .action)}, ids.foldlM f clear = .error failure →
      ∃ id ∈ ids, ∃ clear, f clear id = .error failure
  | [], _, h => nomatch h
  | id :: ids, clear, h => by
    rw [List.foldlM_cons] at h
    cases hfirst : f clear id with
    | error failure' =>
      rw [hfirst] at h
      cases h
      exact ⟨id, by simp, clear, hfirst⟩
    | ok clear₁ =>
      rw [hfirst] at h
      have hrest : ids.foldlM f clear₁ = .error failure := h
      obtain ⟨id', hid', clear', herror⟩ := exists_error_of_foldlM hrest
      exact ⟨id', by simp [hid'], clear', herror⟩

/-- A walk from an action that exists, or that an existing one contains, stops only where something
is wrong with the graph. -/
theorem visit_error {depth : Nat} {path clear : List (EntityId .action)} {id : EntityId .action}
    {failure : Failure} (hpath : w.Path path id) (hdepth : w.depth ≤ path.length + depth)
    (hid : (∃ action, w.get? id = some action) ∨ ∃ container, w.Contains container id)
    (h : w.visit depth path clear id = .error failure) : w.GraphFault failure := by
  induction hpath, hdepth using Path.induction generalizing clear failure with
  | step depth path id hpath _ ih =>
    by_cases hclear : id ∈ clear
    · simp [visit, hclear] at h
    by_cases hback : id ∈ path
    · -- the path leads from the action back to it
      have hcycle : TransGen w.Contains id id := hpath.leads id hback
      obtain ⟨part, hfirst, -⟩ := TransGen.head'_iff.1 hcycle
      obtain ⟨action, haction⟩ := Contains.exists_container hfirst
      simp only [visit, List.contains_iff_mem, hclear, hback, if_false, if_true, cycle, haction,
        Except.error.injEq] at h
      exact h ▸ .cyclic haction hcycle
    rw [visit_new hclear hback] at h
    cases haction : w.get? id with
    | none =>
      obtain ⟨container, hcontains⟩ := hid.resolve_left (by simp [haction])
      simp only [haction, Except.error.injEq] at h
      exact h ▸ .missing hcontains haction
    | some action =>
      cases hparts : action.parts? with
      | none => simp [haction, hparts] at h
      | some parts =>
        simp only [haction, hparts] at h
        cases hfold :
            parts.foldlM (fun clear part => w.visit depth (id :: path) clear part) clear with
        | ok clear' => simp [hfold] at h
        | error failure' =>
          rw [hfold] at h
          cases h
          obtain ⟨part, hpart, clear', herror⟩ := exists_error_of_foldlM hfold
          have hcontains : w.Contains id part :=
            ⟨parts, (partsOf_of_get? haction).trans hparts, hpart⟩
          exact ih part (hpath.extend hback hcontains) (.inr ⟨id, hcontains⟩) herror

/-- The search stops only where something is wrong with the graph. -/
theorem graphFault_of_checkActions {failure : Failure} (h : w.checkActions = .error failure) :
    w.GraphFault failure := by
  cases hfold : w.actions.ids.foldlM (fun clear id => w.visit w.depth [] clear id) [] with
  | ok clear =>
    rw [checkActions, hfold] at h
    cases h
  | error failure' =>
    rw [checkActions, hfold] at h
    cases h
    obtain ⟨id, hid, clear, herror⟩ := exists_error_of_foldlM hfold
    exact visit_error .nil (by simp) (.inl (Option.isSome_iff_exists.1 (Arena.mem_ids.1 hid)))
      herror

/-! ## The search as a whole -/

/-- The search is the same with any bound that is large enough. It finds nothing wrong exactly if
all actions that others contain exist and no action contains itself. What it reports is true: the
action of a reported cycle contains itself, and a reported action is missing where another one
contains it. In particular no cycle is reported where none is, however many actions share parts. -/
theorem checkActions_exact (w : World) :
    (∀ depth, w.depth ≤ depth → w.checkWithin depth = w.checkActions) ∧
    (w.checkActions = .ok () ↔
      (∀ id part, w.Contains id part → ∃ action, w.get? part = some action) ∧
        ∀ id, ¬TransGen w.Contains id id) ∧
    (∀ failure, w.checkActions = .error failure → w.GraphFault failure) ∧
    ((∀ id, ¬TransGen w.Contains id id) →
      ∀ symbol, w.checkActions ≠ .error (.cyclicActions symbol)) := by
  refine ⟨fun depth hdepth => ?_, ?_, fun failure => graphFault_of_checkActions,
    fun hacyclic symbol h => ?_⟩
  · have hvisits : ∀ id ∈ w.actions.ids, ∀ clear,
        w.visit depth [] clear id = w.visit w.depth [] clear id :=
      fun id _ clear => visit_of_le hdepth clear id
    rw [checkWithin, checkActions, foldlM_congr hvisits]
  · rw [checkActions_eq_ok]
    constructor
    · intro h
      have hcascading : ∀ id part, w.Contains id part → w.Cascading id :=
        fun id part hcontains => h id hcontains.exists_container
      refine ⟨fun id part hcontains => ?_, fun id hcycle => ?_⟩
      · exact (hcascading id part hcontains).found part (.single hcontains)
      · obtain ⟨part, hfirst, -⟩ := TransGen.head'_iff.1 hcycle
        exact (hcascading id part hfirst).acyclic id .refl hcycle
    · rintro ⟨hfound, hacyclic⟩ id hid
      refine ⟨fun a ha => ?_, fun a _ => hacyclic a⟩
      rcases ReflTransGen.cases_tail ha with rfl | ⟨b, -, hcontains⟩
      · exact hid
      · exact hfound b a hcontains
  · cases graphFault_of_checkActions h with
    | cyclic _ hcycle => exact hacyclic _ hcycle

end Adventure.World
