import Adventure.Proofs.ActionGraph

/-!
# The search for cycles

The search keeps a list of actions that it has cleared. It clears an action after all actions that
it contains, so every cleared action has finitely many walks (`visit_clears`). If it finds nothing
wrong, it has cleared all actions (`finite_of_checkActions`). On the other hand it finds nothing
wrong where nothing is: a walk from a cascading action neither meets an action on its own path nor
runs out of depth (`visit_ok`). So it accepts exactly the worlds in which all actions cascade
(`checkActions_eq_ok`).
-/

namespace Adventure.World

variable {w : World}

/-- Going on from some cleared actions clears more, all with finitely many walks. -/
structure Clears (w : World) (clear clear' : List (EntityId .action)) : Prop where
  subset : clear ⊆ clear'
  finite : ∀ a ∈ clear', w.Finite a

/-- If going on from each action of a list clears it, going through the list clears all. -/
theorem foldlM_clears
    {f : List (EntityId .action) → EntityId .action → Except Failure (List (EntityId .action))}
    (hf : ∀ clear clear' id, f clear id = .ok clear' → (∀ a ∈ clear, w.Finite a) →
      w.Clears clear clear' ∧ id ∈ clear') :
    ∀ {ids clear clear' : List (EntityId .action)}, ids.foldlM f clear = .ok clear' →
      (∀ a ∈ clear, w.Finite a) → w.Clears clear clear' ∧ ∀ id ∈ ids, id ∈ clear'
  | [], clear, clear', h, hclear => by
    obtain rfl := Except.ok.inj h
    exact ⟨⟨List.Subset.refl _, hclear⟩, by simp⟩
  | id :: ids, clear, clear', h, hclear => by
    rw [List.foldlM_cons, bind_eq_ok] at h
    obtain ⟨clear₁, hfirst, hrest⟩ := h
    obtain ⟨h₁, hid⟩ := hf _ _ _ hfirst hclear
    obtain ⟨h₂, hids⟩ := foldlM_clears hf hrest h₁.finite
    refine ⟨⟨List.Subset.trans h₁.subset h₂.subset, h₂.finite⟩, fun a ha => ?_⟩
    rcases List.mem_cons.1 ha with rfl | ha
    · exact h₂.subset hid
    · exact hids a ha

theorem visit_clears :
    ∀ {depth : Nat} {path clear clear' : List (EntityId .action)} {id : EntityId .action},
      w.visit depth path clear id = .ok clear' → (∀ a ∈ clear, w.Finite a) →
      w.Clears clear clear' ∧ id ∈ clear'
  | 0, _, _, _, _, h, _ => nomatch h
  | depth + 1, path, clear, clear', id, h, hclear => by
    have hadd : ∀ {clear₁ : List (EntityId .action)}, w.Clears clear clear₁ → w.Finite id →
        w.Clears clear (id :: clear₁) ∧ id ∈ id :: clear₁ := fun h₁ hid => by
      refine ⟨⟨List.Subset.trans h₁.subset (List.subset_cons_self _ _), fun a ha => ?_⟩, by simp⟩
      rcases List.mem_cons.1 ha with rfl | ha
      · exact hid
      · exact h₁.finite a ha
    unfold visit at h
    split at h
    · rename_i hmem
      obtain rfl := Except.ok.inj h
      exact ⟨⟨List.Subset.refl _, hclear⟩, List.contains_iff_mem.1 hmem⟩
    · split at h
      · cases h
      · rw [bind_eq_ok] at h
        obtain ⟨action, hfind, h⟩ := h
        rw [find_eq_ok] at hfind
        cases hparts : action.parts? with
        | none =>
          rw [hparts] at h
          obtain rfl := Except.ok.inj h
          exact hadd ⟨List.Subset.refl _, hclear⟩ (.single hfind hparts)
        | some parts =>
          rw [hparts] at h
          obtain ⟨clear₁, hfold, h⟩ := bind_eq_ok.1 h
          obtain rfl := Except.ok.inj h
          obtain ⟨h₁, hall⟩ := foldlM_clears (fun _ _ _ => visit_clears) hfold hclear
          exact hadd h₁ (.sequence hfind hparts fun part hpart => h₁.finite part (hall part hpart))

/-- A world in which the search finds nothing wrong has only actions with finitely many walks. -/
theorem finite_of_checkActions (h : w.checkActions = .ok ()) {id : EntityId .action}
    (hid : ∃ action, w.get? id = some action) : w.Finite id := by
  obtain ⟨clear, hfold, -⟩ := bind_eq_ok.1 h
  obtain ⟨hclears, hall⟩ := foldlM_clears (fun _ _ _ => visit_clears) hfold (by simp)
  obtain ⟨action, haction⟩ := hid
  have hmem : id ∈ w.actions.ids :=
    Arena.mem_ids.2 (Option.isSome_iff_exists.2 ⟨action, haction⟩)
  exact hclears.finite id (hall id hmem)

/-! ## Completeness -/

/-- If no action of a list stops the search, the list does not. -/
theorem foldlM_ok
    {f : List (EntityId .action) → EntityId .action → Except Failure (List (EntityId .action))} :
    ∀ {ids : List (EntityId .action)},
      (∀ id ∈ ids, ∀ clear, ∃ clear', f clear id = .ok clear') →
      ∀ clear, ∃ clear', ids.foldlM f clear = .ok clear'
  | [], _, clear => ⟨clear, rfl⟩
  | id :: ids, hf, clear => by
    obtain ⟨clear₁, hfirst⟩ := hf id (by simp) clear
    obtain ⟨clear', hrest⟩ :=
      foldlM_ok (fun id' hid' => hf id' (List.mem_cons_of_mem _ hid')) clear₁
    exact ⟨clear', by rw [List.foldlM_cons, hfirst]; exact hrest⟩

/-- Whatever has been cleared before, a walk from a cascading action goes through. -/
theorem visit_ok {depth : Nat} {path : List (EntityId .action)} {id : EntityId .action}
    (hpath : w.Path path id) (hc : w.Cascading id) (hdepth : w.depth ≤ path.length + depth) :
    ∀ clear, ∃ clear', w.visit depth path clear id = .ok clear' := by
  induction hpath, hdepth using Path.induction with
  | step depth path id hpath _ ih =>
    intro clear
    unfold visit
    by_cases hclear : clear.contains id = true
    · exact ⟨clear, if_pos hclear⟩
    · obtain ⟨action, haction⟩ := hc.get?
      have hfind := find_of_get? haction
      rw [if_neg hclear, hpath.contains_eq_false hc, if_neg Bool.false_ne_true]
      cases hparts : action.parts? with
      | none => exact ⟨id :: clear, bind_eq_ok.2 ⟨action, hfind, by rw [hparts]; rfl⟩⟩
      | some parts =>
        have hvisits : ∀ part ∈ parts, ∀ clear, ∃ clear',
            w.visit depth (id :: path) clear part = .ok clear' := by
          intro part hpart
          have hcontains : w.Contains id part :=
            ⟨parts, (partsOf_of_get? haction).trans hparts, hpart⟩
          exact ih part (hpath.cons hc hcontains) (hc.of_contains hcontains)
        obtain ⟨clear', hfold⟩ := foldlM_ok hvisits clear
        refine ⟨id :: clear', bind_eq_ok.2 ⟨action, hfind, ?_⟩⟩
        rw [hparts]
        exact bind_eq_ok.2 ⟨clear', hfold, rfl⟩

/-- The search finds nothing wrong exactly where every action cascades. -/
theorem checkActions_eq_ok : w.checkActions = .ok () ↔
    ∀ id : EntityId .action, (∃ action, w.get? id = some action) → w.Cascading id := by
  refine ⟨fun h id hid => (finite_of_checkActions h hid).cascading, fun h => ?_⟩
  have hvisits : ∀ id ∈ w.actions.ids, ∀ clear,
      ∃ clear', w.visit w.depth [] clear id = .ok clear' := fun id hid =>
    visit_ok .nil (h id (Option.isSome_iff_exists.1 (Arena.mem_ids.1 hid))) (by simp)
  obtain ⟨clear, hfold⟩ := foldlM_ok hvisits []
  rw [checkActions, hfold]
  rfl

end Adventure.World
