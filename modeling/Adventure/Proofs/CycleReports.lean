import Adventure.Proofs.Atomicity
import Adventure.Proofs.Cascades
import Adventure.Proofs.Histories
import Adventure.Proofs.Walks

/-!
# Cycles met while playing

A world that has not come from a story may have actions that contain themselves or parts that do not
exist. Triggering an action is a walk through the actions (`Act.walk_trigger`), and so is setting a
flag (`Edit.walk_setEnabled`), which an action at the end of the first walk may do. Both end in any
world. Effects report a cycle only where they set flags, and then there is one
(`Edit.truthful_apply`), so whatever walk it is that turns back, there is a cycle to turn back from
(`Act.trigger_exact`).
-/

namespace Adventure

open World Steps Relation

/-! ## Steps that report no cycle -/

namespace Steps

variable {σ α β : Type}

/-- The step does not report a cycle, wherever it starts. -/
def CycleFree (m : Steps σ α) : Prop := ∀ s symbol, (m s).1 ≠ .error (.cyclicActions symbol)

namespace CycleFree

theorem pure (a : α) : CycleFree (Pure.pure a : Steps σ α) := fun _ _ => nofun

theorem bind {m : Steps σ α} {f : α → Steps σ β} (hm : CycleFree m)
    (hf : ∀ a, CycleFree (f a)) : CycleFree (m >>= f) := by
  intro s symbol h
  rcases heq : m s with ⟨failure | a, s'⟩
  · rw [bind_of_error heq] at h
    cases h
    exact hm s symbol (congrArg Prod.fst heq)
  · rw [bind_of_ok heq] at h
    exact hf a s' symbol h

theorem ite {p : Prop} [Decidable p] {m m' : Steps σ α} (hm : CycleFree m) (hm' : CycleFree m') :
    CycleFree (if p then m else m') := by
  split
  · exact hm
  · exact hm'

end CycleFree

end Steps

namespace Truthful

variable {σ α β : Type} {world : σ → World} {m : Steps σ α} {f : α → Steps σ β}

theorem of_cycleFree (h : CycleFree m) : Truthful world m :=
  fun s symbol _ heq => absurd (congrArg Prod.fst heq) (h s symbol)

/-- A sequence reports a cycle where its first step does. -/
theorem bind (hm : Truthful world m) (hf : ∀ a, CycleFree (f a)) : Truthful world (m >>= f) := by
  intro s symbol s' h
  rcases heq : m s with ⟨failure | a, s₁⟩
  · rw [bind_of_error heq] at h
    cases h
    exact hm s symbol s' heq
  · rw [bind_of_ok heq] at h
    exact absurd (congrArg Prod.fst h) (hf a s₁ symbol)

/-- A sequence reports a cycle where its second step does, if the first one does not touch the
graph. -/
theorem after (hm : CycleFree m) (hskeleton : ∀ s, SameSkeleton (world s) (world (m s).2))
    (hf : ∀ a, Truthful world (f a)) : Truthful world (m >>= f) := by
  intro s symbol s' h
  rcases heq : m s with ⟨failure | a, s₁⟩
  · rw [bind_of_error heq] at h
    cases h
    exact absurd (congrArg Prod.fst heq) (hm s symbol)
  · rw [bind_of_ok heq] at h
    have hs := hskeleton s
    rw [heq] at hs
    exact (hf a s₁ symbol s' h).of_sameSkeleton hs

end Truthful

/-! ## Effects -/

namespace Edit

variable {kind : EntityKind} {α : Type}

theorem cycleFree_find (id : EntityId kind) : CycleFree (find id) := by
  intro w symbol h
  cases he : w.get? id with
  | none => rw [find_absent he] at h; cases h
  | some e => rw [find_present he] at h; cases h

theorem cycleFree_change (id : EntityId kind) (g : Entity kind → Entity kind) :
    CycleFree (change id g) := by
  intro w symbol h
  cases he : w.get? id with
  | none => rw [change_absent g he] at h; cases h
  | some e => rw [change_eq he] at h; cases h

theorem cycleFree_changePlayer (g : Player → Player) : CycleFree (changePlayer g) :=
  fun _ _ => nofun

theorem cycleFree_addInventoryItems :
    ∀ ids : List (EntityId .inventoryItem), CycleFree (addInventoryItems ids)
  | [] => .pure _
  | id :: ids => (cycleFree_find id).bind fun _ => (cycleFree_changePlayer _).bind fun _ =>
      cycleFree_addInventoryItems ids

theorem cycleFree_lift (s : Seating kind) (id : EntityId kind) :
    ∀ old : Option (EntityId .location), CycleFree (lift s id old)
  | none => .pure _
  | some old => cycleFree_change old _

theorem cycleFree_seat (s : Seating kind) (id : EntityId kind) :
    ∀ new : Option (EntityId .location), CycleFree (seat s id new)
  | none => .pure _
  | some new => cycleFree_change new _

theorem cycleFree_relocate (s : Seating kind) (id : EntityId kind)
    (target : Option (EntityId .location)) : CycleFree (relocate s id target) :=
  (cycleFree_find id).bind fun e => (cycleFree_change id _).bind fun _ =>
    (cycleFree_lift s id (s.place e)).bind fun _ => cycleFree_seat s id target

theorem cycleFree_destination (relocation : Relocation EntityId) :
    CycleFree (destination relocation) :=
  match relocation with
  | .to location => (cycleFree_find location).bind fun _ => .pure _
  | .remove => .pure _

theorem cycleFree_relocateItem (id : EntityId .item) (relocation : Relocation EntityId) :
    CycleFree (relocateItem id relocation) :=
  relocateItem_eq id relocation ▸
    (cycleFree_destination relocation).bind fun target => cycleFree_relocate .items id target

theorem cycleFree_relocatePerson (id : EntityId .person) (relocation : Relocation EntityId) :
    CycleFree (relocatePerson id relocation) :=
  relocatePerson_eq id relocation ▸
    (cycleFree_destination relocation).bind fun target => cycleFree_relocate .persons id target

theorem cycleFree_takeItem (id : EntityId .item) (leave : Bool)
    (grants : List (EntityId .inventoryItem)) : CycleFree (takeItem id leave grants) := by
  have hremove : CycleFree (removeItem id) := removeItem_eq id ▸ cycleFree_relocate .items id none
  have hgrants := cycleFree_addInventoryItems grants
  exact (cycleFree_find id).bind fun _ => .ite (hremove.bind fun _ => hgrants) hgrants

theorem cycleFree_changePerson (id : EntityId .person) (patch : PersonPatch EntityId) :
    CycleFree (changePerson id patch) := by
  unfold changePerson
  cases patch.conversation with
  | none =>
    refine (cycleFree_change id _).bind fun _ => ?_
    split
    · exact .pure _
    · exact cycleFree_relocatePerson id _
  | some conversation =>
    refine (cycleFree_find conversation).bind fun _ => (cycleFree_change id _).bind fun _ => ?_
    split
    · exact .pure _
    · exact cycleFree_relocatePerson id _

theorem cycleFree_changeConversation (id : EntityId .conversation)
    (patch : ConversationPatch EntityId) : CycleFree (changeConversation id patch) := by
  refine (cycleFree_change id _).bind fun _ => ?_
  split
  · exact .pure _
  · exact (cycleFree_find id).bind fun _ => .ite (cycleFree_change id _) fun _ _ => nofun

theorem cycleFree_changeChoice (id : EntityId .choice) (patch : ChoicePatch EntityId) :
    CycleFree (changeChoice id patch) := by
  unfold changeChoice
  cases patch.target with
  | none => exact cycleFree_change id _
  | some target =>
    refine (cycleFree_find id).bind fun _ => (cycleFree_find target).bind fun _ => ?_
    exact .ite (fun _ _ => nofun) (cycleFree_change id _)

theorem cycleFree_changeInteraction (id : EntityId .inventoryItem) (partner : ObjectRef)
    (patch : InteractionPatch) : CycleFree (changeInteraction id partner patch) :=
  (cycleFree_find id).bind fun _ => .ite (fun _ _ => nofun) (cycleFree_change id _)

/-! ## Effects that set flags -/

/-- Setting a flag at one action. -/
def flagHere (value : Bool) (id : EntityId .action) (_ : Action) : Edit Unit :=
  change id (Action.withFlag value)

theorem skeletonKept_flagHere (value : Bool) : SkeletonKept (fun w => w) (flagHere value) := by
  intro a _
  change Moves SameSkeleton (change a (Action.withFlag value))
  exact moves_change fun _ _ => sameSkeleton_put value

theorem setEnabledFrom_eq_walkWithin (value : Bool) :
    ∀ (depth : Nat) (path : List (EntityId .action)) (a : EntityId .action),
      setEnabledFrom value depth path a = walkWithin (fun w => w) (flagHere value) depth path a
  | 0, _, _ => rfl
  | depth + 1, path, a => by
    funext w
    have hparts : setEnabledFrom value depth (a :: path)
        = walkWithin (fun w => w) (flagHere value) depth (a :: path) :=
      funext (setEnabledFrom_eq_walkWithin value depth (a :: path))
    rw [walkWithin, bind_eq, meet]
    by_cases ha : a ∈ path
    · rw [setEnabledFrom_back ha, if_pos ha]
    rw [setEnabledFrom_new ha, if_neg ha, hparts]
    cases haction : w.get? a with
    | none => simp
    | some action =>
      have hflag : flagHere value a action w = (.ok (), w.put a (Action.withFlag value action)) :=
        change_eq haction
      simp only [bind_of_ok hflag]
      cases action.parts? <;> rfl

/-- Setting flags is a walk. -/
theorem walk_setEnabled {value : Bool} {a : EntityId .action} {w w' : World}
    {r : Except Failure Unit} :
    setEnabled a value w = (r, w') ↔ Walk (fun w => w) (flagHere value) [] [a] w r w' := by
  rw [walk_iff (skeletonKept_flagHere value), ← setEnabledFrom_eq_walkWithin, setEnabled,
    bind_of_ok (get_eq w)]

theorem truthful_setEnabled (a : EntityId .action) (value : Bool) :
    Truthful (fun w => w) (setEnabled a value) := by
  intro w symbol w' h
  refine (walk_setEnabled.1 h).graphFault (skeletonKept_flagHere value) (fun b _ => ?_) rfl
    (refl_of SameSkeleton w) fun _ _ => .nil
  exact .of_cycleFree (cycleFree_change b _)

theorem truthful_changeOwnAction (a : EntityId .action) (enabling : Toggle)
    (forbidden : Option String) : Truthful (fun w => w) (changeOwnAction a enabling forbidden) := by
  unfold changeOwnAction
  cases enabling.target? with
  | none => exact .of_cycleFree (cycleFree_change a _)
  | some value => exact (truthful_setEnabled a value).bind fun _ => cycleFree_change a _

theorem truthful_changeOwner {id : EntityId kind} {g : Entity kind → Entity kind}
    {own : Entity kind → EntityId .action} {enabling : Toggle} {forbidden : Option String}
    (hg : ∀ e, frame kind (g e) = frame kind e) :
    Truthful (fun w => w) (changeOwner id g own enabling forbidden) := by
  refine .after (cycleFree_find id) (moves_find id) fun e => ?_
  refine .after (cycleFree_change id g) (fun w => ?_) fun _ => truthful_changeOwnAction _ _ _
  exact (alike_change hg w).sameSkeleton

/-- An effect reports a cycle only where there is one. -/
theorem truthful_apply (effect : Effect EntityId ObjectRef) :
    Truthful (fun w => w) (apply effect) := by
  cases effect with
  | addInventoryItems items => exact .of_cycleFree (cycleFree_addInventoryItems items)
  | removeInventoryItem item =>
    exact .of_cycleFree ((cycleFree_find item).bind fun _ => cycleFree_changePlayer _)
  | removeItem item =>
    rw [apply, removeItem_eq]
    exact .of_cycleFree (cycleFree_relocate .items item none)
  | move way =>
    exact .of_cycleFree ((cycleFree_find way).bind fun v =>
      (cycleFree_find (Way.destination v)).bind fun _ => cycleFree_changePlayer _)
  | take item leave grants => exact .of_cycleFree (cycleFree_takeItem item leave grants)
  | sequence actions => exact .of_cycleFree (.pure _)
  | changeAction action enabling =>
    refine .after (cycleFree_find action) (moves_find action) fun _ => ?_
    split
    · exact .of_cycleFree (.pure _)
    · exact truthful_setEnabled action _
  | changeItem item patch =>
    have howner : Truthful (fun w => w) (changeOwner item (patchItem patch) Item.takeAction
        patch.taking patch.takeForbiddenText) := truthful_changeOwner fun _ => rfl
    rw [apply, changeItem_eq]
    refine howner.bind fun _ => ?_
    split
    · exact .pure _
    · exact cycleFree_relocateItem item _
  | changeInventoryItem item patch => exact .of_cycleFree (cycleFree_change item _)
  | changePerson person patch => exact .of_cycleFree (cycleFree_changePerson person patch)
  | changeLocation location patch => exact .of_cycleFree (cycleFree_change location _)
  | changeWay way patch =>
    rw [apply, changeWay_eq]
    exact truthful_changeOwner fun _ => rfl
  | changeConversation conversation patch =>
    exact .of_cycleFree (cycleFree_changeConversation conversation patch)
  | changeChoice choice patch => exact .of_cycleFree (cycleFree_changeChoice choice patch)
  | changeInteraction item partner patch =>
    exact .of_cycleFree (cycleFree_changeInteraction item partner patch)
  | endGame text => exact .of_cycleFree (.pure _)

end Edit

/-! ## Triggering actions -/

namespace Act

/-- What a walk does at one action: an action that is not made up of others runs. -/
def runHere (_ : EntityId .action) (action : Action) : Act Unit :=
  if action.parts?.isSome then pure () else runSingle action

theorem skeletonKept_runHere : SkeletonKept Play.world runHere := by
  intro id action
  change Moves SameFrame (runHere id action)
  refine .ite (.pure _) (.ite ?_ (.pure _))
  exact (sameFrame_enact action).bind fun _ => sameFrame_tell .flush

theorem triggerFrom_eq_walkWithin :
    ∀ (depth : Nat) (path : List (EntityId .action)) (id : EntityId .action),
      triggerFrom depth path id = walkWithin Play.world runHere depth path id
  | 0, _, _ => rfl
  | depth + 1, path, id => by
    funext p
    have hparts : triggerFrom depth (id :: path)
        = walkWithin Play.world runHere depth (id :: path) :=
      funext (triggerFrom_eq_walkWithin depth (id :: path))
    rw [walkWithin, bind_eq, meet, triggerFrom]
    by_cases hid : id ∈ path
    · rw [if_pos (by simpa using hid), if_pos hid]
      rfl
    rw [if_neg (by simpa using hid), if_neg hid, hparts]
    cases haction : p.world.get? id with
    | none =>
      rw [bind_of_error (find_absent haction)]
    | some action =>
      rw [bind_of_ok (find_present haction)]
      cases heq : action.parts? with
      | some parts => simp [heq, runHere]
      | none =>
        have hrun : runHere id action = runSingle action := by simp [runHere, heq]
        simp only [heq, hrun, bind_eq]
        rcases runSingle action p with ⟨_ | _, _⟩ <;> rfl

/-- Triggering an action is a walk. -/
theorem walk_trigger {p p' : Play} {id : EntityId .action} {r : Except Failure Unit} :
    trigger id p = (r, p') ↔ Walk Play.world runHere [] [id] p r p' := by
  have htrigger : trigger id p = triggerFrom p.world.depth [] id p := rfl
  rw [walk_iff skeletonKept_runHere, ← triggerFrom_eq_walkWithin, htrigger]

theorem truthful_perform (effect : Effect EntityId ObjectRef) :
    Truthful Play.world (perform effect) := by
  intro p symbol p' h
  obtain ⟨p₁, hperform, -⟩ | ⟨failure, happly, hperform⟩ := perform_eq effect p
  · cases hperform.symm.trans h
  · cases hperform.symm.trans h
    exact Edit.truthful_apply effect p.world symbol _ (Prod.ext happly rfl)

theorem cycleFree_note (action : Action) (before : World) : CycleFree (note action before) :=
  fun _ _ => nofun

theorem truthful_enact (action : Action) : Truthful Play.world (enact action) :=
  .after (fun _ _ => nofun) (fun p => refl_of SameSkeleton p.world) fun before =>
    (truthful_perform action.effect).bind fun _ => cycleFree_note action before

theorem cycleFree_tell (call : StoreCall) : CycleFree (tell call) := by
  intro p symbol h
  simp only [tell] at h
  split at h <;> cases h

theorem truthful_runHere (id : EntityId .action) (action : Action) :
    Truthful Play.world (runHere id action) := by
  unfold runHere runSingle
  split
  · exact .of_cycleFree (.pure _)
  · split
    · exact (truthful_enact action).bind fun _ => cycleFree_tell .flush
    · exact .of_cycleFree (.pure _)

/-- Triggering an action ends in every play, however the actions contain each other. It comes to
what the walk comes to that knows no bound on its depth and does what `runHere` says at each action;
where an action on the way sets a flag, that is such a walk in turn. The graph stays as it is. An
action that reaches one which contains itself never succeeds, and where a cycle is reported, the
named action contains itself. -/
theorem trigger_exact (p : Play) (id : EntityId .action) :
    (∀ r p', trigger id p = (r, p') ↔ Walk Play.world runHere [] [id] p r p') ∧
    (∀ a value w r w', Edit.setEnabled a value w = (r, w') ↔
      Walk (fun w => w) (Edit.flagHere value) [] [a] w r w') ∧
    SameSkeleton p.world (trigger id p).2.world ∧
    (∀ a, p.world.Reaches id a → TransGen p.world.Contains a a →
      (trigger id p).1 ≠ .ok ()) ∧
    ∀ symbol, (trigger id p).1 = .error (.cyclicActions symbol) →
      p.world.GraphFault (.cyclicActions symbol) := by
  have hwalk : Walk Play.world runHere [] [id] p (trigger id p).1 (trigger id p).2 :=
    walk_trigger.1 rfl
  have hself := refl_of SameSkeleton p.world
  refine ⟨fun _ _ => walk_trigger, fun _ _ _ _ _ => Edit.walk_setEnabled,
    hwalk.sameSkeleton skeletonKept_runHere, fun a ha hcycle hok => ?_, fun symbol herror => ?_⟩
  · have hfinite := hwalk.finite skeletonKept_runHere hok hself id (by simp)
    exact hfinite.cascading.acyclic a ha hcycle
  · exact hwalk.graphFault skeletonKept_runHere truthful_runHere herror hself fun _ _ => .nil

end Act

end Adventure
