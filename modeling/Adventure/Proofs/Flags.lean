import Adventure.Proofs.ActionGraph
import Mathlib.Data.Set.Insert

/-!
# Flags of actions

Setting the flag of an action sets the flags of all actions that it reaches and changes nothing
else (`Flagged`). The graph of actions may be any: the walk turns back where it meets an action on
its own path, so it ends (`Edit.setEnabledFrom_of_le`), and it ends well exactly if the action
cascades. An action that the walk meets more than once gets the same flag each time, so what
counts in the end is the set of actions that it reaches (`Edit.setEnabledFrom_ok`).
-/

namespace Adventure

namespace World

/-- The action with a given flag. -/
def Action.withFlag (value : Bool) (action : Action) : Action := { action with enabled := value }

/-- The second world differs from the first one in the flags of some actions, all of which have the
given value in it, and in nothing else. -/
structure Flagged (value : Bool) (ids : Set (EntityId .action)) (w w' : World) : Prop where
  /-- The actions are the same but for their flags. -/
  flags : ∀ id ∈ ids, w'.get? id = (w.get? id).map (Action.withFlag value)
  /-- All other actions are the same. -/
  others : ∀ id ∉ ids, w'.get? id = w.get? id
  /-- Apart from actions there is no difference. -/
  rest : w'.setArena .action w.actions = w

namespace Flagged

variable {value : Bool} {ids ids' : Set (EntityId .action)} {w w₁ w₂ : World}

theorem empty (value : Bool) (w : World) : Flagged value ∅ w w := ⟨by simp, by simp, rfl⟩

theorem put {id : EntityId .action} {action : Action} (h : w.get? id = some action) :
    Flagged value {id} w (w.put id (Action.withFlag value action)) where
  flags := by
    rintro _ rfl
    simp [h]
  others id' hid' := get?_put_of_ne hid'
  rest := rfl

theorem trans (h : Flagged value ids w w₁) (h' : Flagged value ids' w₁ w₂) :
    Flagged value (ids ∪ ids') w w₂ where
  flags id hid := by
    by_cases hid' : id ∈ ids'
    · rw [h'.flags id hid']
      by_cases hid₁ : id ∈ ids
      · rw [h.flags id hid₁, Option.map_map]
        rfl
      · rw [h.others id hid₁]
    · rw [h'.others id hid', h.flags id (hid.resolve_right hid')]
  others id hid := by
    rw [h'.others id fun hid' => hid (.inr hid'), h.others id fun hid₁ => hid (.inl hid₁)]
  rest := by
    rw [← h.rest, ← h'.rest]
    rfl

/-- Worlds that agree in all but the actions, and in each of them, are the same. -/
theorem eq_of_actions (hactions : ∀ id : EntityId .action, w₁.get? id = w₂.get? id)
    (hrest : w₁.setArena .action w₂.actions = w₂) : w₁ = w₂ := by
  have harena : w₁.actions = w₂.actions := Arena.eq_of_get? hactions
  rw [← hrest, ← harena]
  rfl

theorem unique (h : Flagged value ids w w₁) (h' : Flagged value ids w w₂) : w₁ = w₂ := by
  refine eq_of_actions (fun id => ?_) ?_
  · by_cases hid : id ∈ ids
    · rw [h.flags id hid, h'.flags id hid]
    · rw [h.others id hid, h'.others id hid]
  · have hrest : w₁.setArena .action w.actions = w₂.setArena .action w.actions :=
      h.rest.trans h'.rest.symm
    exact congrArg (fun w => w.setArena .action w₂.actions) hrest

/-- Where the flags are as they are to be already, nothing changes. -/
theorem eq_self (h : Flagged value ids w w₁)
    (hids : ∀ id ∈ ids, ∀ action, w.get? id = some action → Action.enabled action = value) :
    w₁ = w := by
  refine eq_of_actions (fun id => ?_) h.rest
  by_cases hid : id ∈ ids
  · rw [h.flags id hid]
    cases haction : w.get? id with
    | none => rfl
    | some action =>
      obtain rfl := hids id hid action haction
      rfl
  · exact h.others id hid

end Flagged

/-- An action reaches itself and what the actions that it contains reach. -/
theorem reaches_iff (w : World) (id : EntityId .action) {a : EntityId .action} : w.Reaches id a ↔
    a = id ∨ ∃ parts, w.partsOf id = some parts ∧ ∃ part ∈ parts, w.Reaches part a := by
  rw [Reaches, Relation.ReflTransGen.cases_head_iff, eq_comm]
  refine or_congr_right ⟨?_, ?_⟩
  · rintro ⟨part, ⟨parts, hparts, hpart⟩, hreaches⟩
    exact ⟨parts, hparts, part, hpart, hreaches⟩
  · rintro ⟨parts, hparts, part, hpart, hreaches⟩
    exact ⟨part, ⟨parts, hparts, hpart⟩, hreaches⟩

end World

namespace Edit

open World Steps Relation

variable {base w : World} {value : Bool}

/-! ## The walk -/

theorem setEnabledFrom_back {depth : Nat} {path : List (EntityId .action)} {id : EntityId .action}
    (hid : id ∈ path) :
    setEnabledFrom value (depth + 1) path id w = (.error (w.cycle id), w) := by
  rw [setEnabledFrom, if_pos (by simpa using hid)]
  rfl

/-- What the walk does with an action that is not on its path. -/
theorem setEnabledFrom_new {depth : Nat} {path : List (EntityId .action)} {id : EntityId .action}
    (hid : id ∉ path) :
    setEnabledFrom value (depth + 1) path id w = match w.get? id with
      | none => (.error (.unknownEntity .action id.uuid), w)
      | some action => match action.parts? with
        | none => (.ok (), w.put id (Action.withFlag value action))
        | some parts => parts.forM (fun part => setEnabledFrom value depth (id :: path) part)
            (w.put id (Action.withFlag value action)) := by
  rw [setEnabledFrom, if_neg (by simpa using hid)]
  cases haction : w.get? id with
  | none => exact bind_of_error (change_absent _ haction)
  | some action =>
    have hparts : (Action.withFlag value action).parts? = action.parts? := rfl
    rw [bind_of_ok (change_eq haction)]
    change (find id >>= _) (w.put id (Action.withFlag value action)) = _
    rw [find_bind_eq _ (get?_put_self _ _ _), hparts]
    cases hparts' : action.parts? with
    | none | some => simp [hparts']

theorem sameSkeleton_put (value : Bool) {id : EntityId .action} {action : Action}
    (h : w.get? id = some action) : SameSkeleton w (w.put id (Action.withFlag value action)) :=
  skeleton_put h rfl

theorem sameSkeleton_setEnabledFrom (value : Bool) (depth : Nat) (path : List (EntityId .action))
    (id : EntityId .action) : Moves SameSkeleton (setEnabledFrom value depth path id) :=
  moves_setEnabledFrom (fun _ => moves_change fun _ _ => sameSkeleton_put value) depth path id

theorem contains_of_parts {id part : EntityId .action} {action : Action}
    {parts : List (EntityId .action)} (hw : SameSkeleton base w) (haction : w.get? id = some action)
    (hparts : action.parts? = some parts) (hpart : part ∈ parts) : base.Contains id part :=
  ⟨parts, (partsOf_of_get?_of_sameSkeleton hw haction).trans hparts, hpart⟩

/-- A depth that the path cannot exceed does not matter. -/
theorem setEnabledFrom_succ {depth : Nat} {path : List (EntityId .action)}
    {id : EntityId .action} (hpath : base.Path path id)
    (hdepth : base.depth ≤ path.length + depth) : ∀ w, SameSkeleton base w →
      setEnabledFrom value depth path id w = setEnabledFrom value (depth + 1) path id w := by
  induction hpath, hdepth using Path.induction with
  | step depth path id hpath _ ih =>
    intro w hw
    by_cases hid : id ∈ path
    · rw [setEnabledFrom_back hid, setEnabledFrom_back hid]
    rw [setEnabledFrom_new hid, setEnabledFrom_new hid]
    cases haction : w.get? id with
    | none => rfl
    | some action =>
      cases hparts : action.parts? with
      | none => simp [hparts]
      | some parts =>
        simp only [hparts]
        refine forM_congr (fun part hpart w₁ hw₁ => ⟨?_, ?_⟩) _
          (trans_of SameSkeleton hw (sameSkeleton_put value haction))
        · have hcontains := contains_of_parts hw haction hparts hpart
          exact ih part (hpath.extend hid hcontains) w₁ hw₁
        · exact trans_of SameSkeleton hw₁ (sameSkeleton_setEnabledFrom _ _ _ _ w₁)

/-- A walk that starts anew never gets as deep as the bound. -/
theorem setEnabledFrom_of_le {depth : Nat} (hdepth : w.depth ≤ depth) (id : EntityId .action) :
    setEnabledFrom value depth [] id w = setEnabledFrom value w.depth [] id w := by
  induction hdepth with
  | refl => rfl
  | step hle ih =>
    rw [← setEnabledFrom_succ .nil (by simpa using hle) w (refl_of SameSkeleton w), ih]

/-! ## Walks that succeed -/

/-- Setting flags for one thing of a list after the other sets all of them. -/
theorem forM_flagged {α : Type} {f : α → Edit Unit} {ids : α → Set (EntityId .action)} :
    ∀ {as : List α}, (∀ a ∈ as, ∀ w, SameSkeleton base w →
        ∃ w', f a w = (.ok (), w') ∧ SameSkeleton base w' ∧ Flagged value (ids a) w w') →
      ∀ w, SameSkeleton base w → ∃ w', as.forM f w = (.ok (), w') ∧ SameSkeleton base w' ∧
        Flagged value {x | ∃ a ∈ as, x ∈ ids a} w w'
  | [], _, w, hw => ⟨w, rfl, hw, by simpa using Flagged.empty value w⟩
  | a :: as, h, w, hw => by
    obtain ⟨w₁, hfirst, hw₁, hflagged₁⟩ := h a (by simp) w hw
    obtain ⟨w₂, hrest, hw₂, hflagged₂⟩ :=
      forM_flagged (fun b hb => h b (List.mem_cons_of_mem _ hb)) w₁ hw₁
    refine ⟨w₂, ?_, hw₂, ?_⟩
    · rw [List.forM_eq_forM, List.forM_cons, bind_of_ok hfirst]
      exact hrest
    · have hunion : {x | ∃ b ∈ a :: as, x ∈ ids b} = ids a ∪ {x | ∃ b ∈ as, x ∈ ids b} := by
        ext x
        simp
      exact hunion ▸ hflagged₁.trans hflagged₂

/-- The walk from a cascading action succeeds and sets the flags of the actions that it reaches. -/
theorem setEnabledFrom_ok {depth : Nat} {path : List (EntityId .action)} {id : EntityId .action}
    (hpath : base.Path path id) (hc : base.Cascading id)
    (hdepth : base.depth ≤ path.length + depth) : ∀ w, SameSkeleton base w →
      ∃ w', setEnabledFrom value depth path id w = (.ok (), w') ∧
        SameSkeleton base w' ∧ Flagged value {a | base.Reaches id a} w w' := by
  induction hpath, hdepth using Path.induction with
  | step depth path id hpath _ ih =>
    intro w hw
    obtain ⟨action, haction⟩ := (hc.of_sameSkeleton hw).get?
    have hput : Flagged value {id} w (w.put id (Action.withFlag value action)) := .put haction
    have hskeleton := trans_of SameSkeleton hw (sameSkeleton_put value haction)
    have hpartsOf := partsOf_of_get?_of_sameSkeleton hw haction
    rw [setEnabledFrom_new (hpath.not_mem hc)]
    simp only [haction]
    cases hparts : action.parts? with
    | none =>
      have hreach : {a | base.Reaches id a} = {id} := by
        ext a
        simp [reaches_iff base id, hpartsOf, hparts]
      exact ⟨_, rfl, hskeleton, hreach ▸ hput⟩
    | some parts =>
      have hwalk : ∀ part ∈ parts, ∀ w, SameSkeleton base w →
          ∃ w', setEnabledFrom value depth (id :: path) part w = (.ok (), w') ∧
            SameSkeleton base w' ∧ Flagged value {a | base.Reaches part a} w w' := by
        intro part hpart
        have hcontains := contains_of_parts hw haction hparts hpart
        exact ih part (hpath.cons hc hcontains) (hc.of_contains hcontains)
      obtain ⟨w', heq, hw', hflagged⟩ := forM_flagged hwalk _ hskeleton
      have hreach : {a | base.Reaches id a}
          = {id} ∪ {a | ∃ part ∈ parts, a ∈ {a | base.Reaches part a}} := by
        ext a
        simp [reaches_iff base id, hpartsOf, hparts]
      exact ⟨w', heq, hw', hreach ▸ hput.trans hflagged⟩

theorem setEnabled_ok (value : Bool) {id : EntityId .action} (hc : base.Cascading id)
    (hw : SameSkeleton base w) : ∃ w', setEnabled id value w = (.ok (), w') ∧ SameSkeleton base w' ∧
      Flagged value {a | base.Reaches id a} w w' := by
  rw [setEnabled, bind_of_ok (get_eq w), depth_of_skeleton_eq hw]
  exact setEnabledFrom_ok .nil hc (by simp) w hw

/-- Setting a flag that all actions that are reached have already changes nothing. -/
theorem setEnabled_eq_self {id : EntityId .action} (hc : w.Cascading id)
    (h : ∀ a, w.Reaches id a → ∀ action, w.get? a = some action → Action.enabled action = value) :
    setEnabled id value w = (.ok (), w) := by
  obtain ⟨w', heq, -, hflagged⟩ := setEnabled_ok value hc (refl_of SameSkeleton w)
  rw [heq, hflagged.eq_self h]

/-- Only from a cascading action does the walk succeed: it has gone all ways from there. -/
theorem finite_of_setEnabledFrom :
    ∀ {depth : Nat} {path : List (EntityId .action)} {id : EntityId .action} {w w' : World},
      SameSkeleton base w → setEnabledFrom value depth path id w = (.ok (), w') → base.Finite id
  | 0, _, _, _, _, _, h => nomatch h
  | depth + 1, path, id, w, w', hw, h => by
    by_cases hid : id ∈ path
    · rw [setEnabledFrom_back hid] at h
      cases h
    rw [setEnabledFrom_new hid] at h
    cases haction : w.get? id with
    | none =>
      rw [haction] at h
      cases h
    | some action =>
      obtain ⟨action₀, haction₀, hframe⟩ :=
        get?_of_view_eq (congrArg Skeleton.entities hw) haction
      have hparts₀ : action₀.parts? = action.parts? := (parts?_of_frame_eq hframe).symm
      simp only [haction] at h
      cases hparts : action.parts? with
      | none => exact .single haction₀ (hparts₀.trans hparts)
      | some parts =>
        simp only [hparts] at h
        refine .sequence haction₀ (hparts₀.trans hparts) fun part hpart => ?_
        obtain ⟨w₁, w₂, hmove, hwalk⟩ := ok_of_forM
          (fun part _ => sameSkeleton_setEnabledFrom value depth (id :: path) part) h part hpart
        exact finite_of_setEnabledFrom
          (trans_of SameSkeleton (trans_of _ hw (sameSkeleton_put value haction)) hmove) hwalk

/-- Setting the flag of an action ends, in whatever graph of actions: no larger bound on the depth
of walks makes a difference. It succeeds exactly if all actions that the action reaches exist,
itself included, and none of them contains itself. Then those actions have the flag, and nothing
else has changed. -/
theorem setEnabled_exact (w : World) (id : EntityId .action) (value : Bool) :
    (∀ depth, w.depth ≤ depth →
      setEnabledFrom value depth [] id w = setEnabled id value w) ∧
    ((∃ w', setEnabled id value w = (.ok (), w')) ↔ w.Cascading id) ∧
    ∀ w', setEnabled id value w = (.ok (), w') → Flagged value {a | w.Reaches id a} w w' := by
  have hwalk : setEnabled id value w = setEnabledFrom value w.depth [] id w := by
    rw [setEnabled, bind_of_ok (get_eq w)]
  have hcascading : ∀ w', setEnabled id value w = (.ok (), w') → w.Cascading id := fun w' h =>
    (finite_of_setEnabledFrom (refl_of SameSkeleton w) (hwalk ▸ h)).cascading
  refine ⟨fun depth hdepth => ?_, ⟨fun ⟨w', h⟩ => hcascading w' h, fun hc => ?_⟩, fun w' h => ?_⟩
  · rw [hwalk, setEnabledFrom_of_le hdepth]
  · obtain ⟨w', heq, -⟩ := setEnabled_ok value hc (refl_of SameSkeleton w)
    exact ⟨w', heq⟩
  · obtain ⟨w₁, heq, -, hflagged⟩ :=
      setEnabled_ok value (hcascading w' h) (refl_of SameSkeleton w)
    obtain rfl : w' = w₁ := (Prod.mk.inj (h.symm.trans heq)).2
    exact hflagged

end Edit

end Adventure
